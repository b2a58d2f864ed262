import LogSieve.Json.Tree
import LogSieve.Proofs.Json.Spelling

/-!
# What is written is read back

A value has one sequence of tokens, however it is laid out, and one syntax tree.
Both printers lay out the tokens of a value, and the tokens of a value form its
tree.
-/

namespace LogSieve.Json

open LogSieve.Text

mutual

/-- The tokens of a value. -/
def Value.tokens : Value → List Token
  | .null => [.null]
  | .bool value => [.bool value]
  | .integer value => [.number (.ofInt value)]
  | .fraction numeral => [.number numeral.spelt]
  | .string text => [.string (some text)]
  | .array items => .openArray :: itemTokens items ++ [.closeArray]
  | .object members => .openObject :: memberTokens members ++ [.closeObject]

/-- The tokens of items with commas between them. -/
def itemTokens : List Value → List Token
  | [] => []
  | [value] => value.tokens
  | value :: rest => value.tokens ++ .comma :: itemTokens rest

/-- The tokens of members with commas between them. -/
def memberTokens : List (String × Value) → List Token
  | [] => []
  | [(key, value)] => .string (some key) :: .colon :: value.tokens
  | (key, value) :: rest =>
      .string (some key) :: .colon :: value.tokens ++ .comma :: memberTokens rest

end

/-! ## Layouts -/

/-- The signs between values, with the tokens they are. -/
def signs : List (Char × Token) :=
  [('{', .openObject), ('}', .closeObject), ('[', .openArray), (']', .closeArray),
    (':', .colon), (',', .comma)]

theorem scan?_sign (char : Char) (token : Token) (sign : (char, token) ∈ signs)
    (rest : List Char) : scan? (char :: rest) = (scan? rest).map (token :: ·) := by
  simp only [signs, List.mem_cons, Prod.mk.injEq, List.not_mem_nil, or_false] at sign
  rcases sign with ⟨rfl, rfl⟩ | ⟨rfl, rfl⟩ | ⟨rfl, rfl⟩ | ⟨rfl, rfl⟩ | ⟨rfl, rfl⟩ | ⟨rfl, rfl⟩ <;>
    exact scan?_token (by decide) rfl

theorem scan?_boolChars (value : Bool) (rest : List Char) :
    scan? (boolChars value ++ rest) = (scan? rest).map (.bool value :: ·) := by
  cases value <;> exact scan?_token (by decide) rfl

theorem scan?_null (rest : List Char) :
    scan? ('n' :: 'u' :: 'l' :: 'l' :: rest) = (scan? rest).map (.null :: ·) :=
  scan?_token (by decide) rfl

mutual

/-- A value on one line is scanned into its tokens. -/
theorem scan?_compact (value : Value) (rest : List Char) (delimited : Delimits rest) :
    scan? (value.compact ++ rest) = (scan? rest).map (value.tokens ++ ·) := by
  cases value with
  | null => exact scan?_null rest
  | bool value => exact scan?_boolChars value rest
  | integer value => exact scan?_integerDigits value delimited
  | fraction numeral => exact scan?_numeral numeral delimited
  | string text => exact scan?_quote text rest
  | array items =>
      have inner := scan?_compactItems items (']' :: rest) (by simp [Char.isDigit])
      simp only [Value.compact, List.cons_append, List.append_assoc, List.nil_append]
      rw [scan?_sign '[' .openArray (by simp [signs]), inner,
        scan?_sign ']' .closeArray (by simp [signs])]
      simp [Value.tokens, Function.comp_def]
  | object members =>
      have inner := scan?_compactMembers members ('}' :: rest) (by simp [Char.isDigit])
      simp only [Value.compact, List.cons_append, List.append_assoc, List.nil_append]
      rw [scan?_sign '{' .openObject (by simp [signs]), inner,
        scan?_sign '}' .closeObject (by simp [signs])]
      simp [Value.tokens, Function.comp_def]

theorem scan?_compactItems (items : List Value) (rest : List Char)
    (delimited : Delimits rest) :
    scan? (compactItems items ++ rest) = (scan? rest).map (itemTokens items ++ ·) := by
  match items with
  | [] => simp [compactItems, itemTokens]
  | [value] => exact scan?_compact value rest delimited
  | value :: next :: others =>
      have first := scan?_compact value (',' :: (compactItems (next :: others) ++ rest))
        (by simp [Char.isDigit])
      have following := scan?_compactItems (next :: others) rest delimited
      simp only [compactItems, List.append_assoc, List.cons_append]
      rw [first, scan?_sign ',' .comma (by simp [signs]), following]
      simp [itemTokens, Function.comp_def]

theorem scan?_compactMembers (members : List (String × Value)) (rest : List Char)
    (delimited : Delimits rest) :
    scan? (compactMembers members ++ rest) = (scan? rest).map (memberTokens members ++ ·) := by
  match members with
  | [] => simp [compactMembers, memberTokens]
  | [(key, value)] =>
      have inner := scan?_compact value rest delimited
      simp only [compactMembers, List.append_assoc, List.cons_append]
      rw [scan?_quote, scan?_sign ':' .colon (by simp [signs]), inner]
      simp [memberTokens, Function.comp_def]
  | (key, value) :: next :: others =>
      have first := scan?_compact value (',' :: (compactMembers (next :: others) ++ rest))
        (by simp [Char.isDigit])
      have following := scan?_compactMembers (next :: others) rest delimited
      simp only [compactMembers, List.append_assoc, List.cons_append]
      rw [scan?_quote, scan?_sign ':' .colon (by simp [signs]), first,
        scan?_sign ',' .comma (by simp [signs]), following]
      simp [memberTokens, Function.comp_def]

end

theorem delimits_newLine (indent : List Char) (level : Nat) (rest : List Char) :
    Delimits (newLine indent level ++ rest) := by
  simp [newLine, Char.isDigit]

section Indented

variable {indent : List Char} (blank : ∀ char ∈ indent, isBlank char = true)
include blank

theorem scan?_newLine (level : Nat) (rest : List Char) :
    scan? (newLine indent level ++ rest) = scan? rest := by
  apply scan?_blanks
  intro char member
  simp only [newLine, List.mem_cons, List.mem_flatten, List.mem_replicate] at member
  rcases member with rfl | ⟨_, ⟨-, rfl⟩, member⟩
  · decide
  · exact blank char member

mutual

/-- A value with one line a member is scanned into its tokens. -/
theorem scan?_indented (level : Nat) (value : Value) (rest : List Char)
    (delimited : Delimits rest) :
    scan? (value.indented indent level ++ rest) = (scan? rest).map (value.tokens ++ ·) := by
  match value with
  | .null => exact scan?_null rest
  | .bool value => exact scan?_boolChars value rest
  | .integer value => exact scan?_integerDigits value delimited
  | .fraction numeral => exact scan?_numeral numeral delimited
  | .string text => exact scan?_quote text rest
  | .array [] =>
      simp only [Value.indented, List.cons_append, List.nil_append]
      rw [scan?_sign '[' .openArray (by simp [signs]), scan?_sign ']' .closeArray (by simp [signs])]
      simp [Value.tokens, itemTokens, Function.comp_def]
  | .array (first :: others) =>
      have inner := scan?_indentedItems (level + 1) (first :: others)
        (newLine indent level ++ ']' :: rest) (delimits_newLine indent level _)
      simp only [Value.indented, List.cons_append, List.append_assoc, List.nil_append]
      rw [scan?_sign '[' .openArray (by simp [signs]), inner, scan?_newLine blank,
        scan?_sign ']' .closeArray (by simp [signs])]
      simp [Value.tokens, Function.comp_def]
  | .object [] =>
      simp only [Value.indented, List.cons_append, List.nil_append]
      rw [scan?_sign '{' .openObject (by simp [signs]),
        scan?_sign '}' .closeObject (by simp [signs])]
      simp [Value.tokens, memberTokens, Function.comp_def]
  | .object (first :: others) =>
      have inner := scan?_indentedMembers (level + 1) (first :: others)
        (newLine indent level ++ '}' :: rest) (delimits_newLine indent level _)
      simp only [Value.indented, List.cons_append, List.append_assoc, List.nil_append]
      rw [scan?_sign '{' .openObject (by simp [signs]), inner, scan?_newLine blank,
        scan?_sign '}' .closeObject (by simp [signs])]
      simp [Value.tokens, Function.comp_def]

theorem scan?_indentedItems (level : Nat) (items : List Value) (rest : List Char)
    (delimited : Delimits rest) :
    scan? (indentedItems indent level items ++ rest) =
      (scan? rest).map (itemTokens items ++ ·) := by
  match items with
  | [] => simp [indentedItems, itemTokens]
  | [value] =>
      simp only [indentedItems, List.append_assoc]
      rw [scan?_newLine blank, scan?_indented level value rest delimited]
      simp [itemTokens]
  | value :: next :: others =>
      have first := scan?_indented level value
        (',' :: (indentedItems indent level (next :: others) ++ rest)) (by simp [Char.isDigit])
      have following := scan?_indentedItems level (next :: others) rest delimited
      simp only [indentedItems, List.append_assoc, List.cons_append]
      rw [scan?_newLine blank, first, scan?_sign ',' .comma (by simp [signs]), following]
      simp [itemTokens, Function.comp_def]

theorem scan?_indentedMembers (level : Nat) (members : List (String × Value))
    (rest : List Char) (delimited : Delimits rest) :
    scan? (indentedMembers indent level members ++ rest) =
      (scan? rest).map (memberTokens members ++ ·) := by
  match members with
  | [] => simp [indentedMembers, memberTokens]
  | [(key, value)] =>
      have inner := scan?_indented level value rest delimited
      simp only [indentedMembers, List.append_assoc, List.cons_append]
      rw [scan?_newLine blank, scan?_quote, scan?_sign ':' .colon (by simp [signs]),
        scan?_blank (by decide), inner]
      simp [memberTokens, Function.comp_def]
  | (key, value) :: next :: others =>
      have first := scan?_indented level value
        (',' :: (indentedMembers indent level (next :: others) ++ rest)) (by simp [Char.isDigit])
      have following := scan?_indentedMembers level (next :: others) rest delimited
      simp only [indentedMembers, List.append_assoc, List.cons_append]
      rw [scan?_newLine blank, scan?_quote, scan?_sign ':' .colon (by simp [signs]),
        scan?_blank (by decide), first, scan?_sign ',' .comma (by simp [signs]), following]
      simp [memberTokens, Function.comp_def]

end

end Indented

/-! ## Trees -/

mutual

/-- The syntax tree of a value. -/
def Value.tree : Value → Tree
  | .null => .null
  | .bool value => .bool value
  | .integer value => .number (.ofInt value)
  | .fraction numeral => .number numeral.spelt
  | .string text => .string (some text)
  | .array items => .array (itemTrees items)
  | .object members => .object (memberTrees members)

/-- The syntax trees of items. -/
def itemTrees : List Value → List Tree
  | [] => []
  | value :: rest => value.tree :: itemTrees rest

/-- The syntax trees of members under their keys. -/
def memberTrees : List (String × Value) → List (Option String × Tree)
  | [] => []
  | (key, value) :: rest => (some key, value.tree) :: memberTrees rest

end

theorem itemTrees_eq_map (items : List Value) : itemTrees items = items.map Value.tree := by
  induction items with
  | nil => rfl
  | cons value rest ih => rw [itemTrees, ih, List.map_cons]

/-- Reads tokens one after the other. -/
def Progress.read? (progress : Progress) (tokens : List Token) : Option Progress :=
  tokens.foldlM Progress.step? progress

theorem read?_cons {progress next : Progress} {token : Token}
    (step : progress.step? token = some next) (tokens : List Token) :
    progress.read? (token :: tokens) = next.read? tokens := by
  simp [Progress.read?, step]

/-- Where a value may stand. -/
def Expecting.TakesValue (expecting : Expecting) : Prop :=
  expecting = .value ∨ expecting = .valueOrClose

/-- Where a key may stand. -/
def Expecting.TakesKey (expecting : Expecting) : Prop :=
  expecting = .key ∨ expecting = .keyOrClose

mutual

/-- The tokens of a value are read as its tree, whatever is open around it. -/
theorem read?_tokens (value : Value) {expecting : Expecting} (takes : expecting.TakesValue)
    (frames : List Frame) (rest : List Token) :
    Progress.read? ⟨expecting, frames⟩ (value.tokens ++ rest) =
      Progress.read? ⟨.afterValue value.tree, frames⟩ rest := by
  match value with
  | .null | .bool _ | .integer _ | .fraction _ | .string _ | .array [] | .object [] =>
      rcases takes with rfl | rfl <;> rfl
  | .array (first :: others) =>
      have opened : Progress.step? ⟨expecting, frames⟩ .openArray =
          some ⟨.valueOrClose, .array [] :: frames⟩ := by
        rcases takes with rfl | rfl <;> rfl
      have inner := read?_itemTokens (first :: others) (by simp) (.inr rfl) [] frames rest
      simpa [Value.tokens, Value.tree, read?_cons opened] using inner
  | .object (first :: others) =>
      have opened : Progress.step? ⟨expecting, frames⟩ .openObject =
          some ⟨.keyOrClose, .object [] none :: frames⟩ := by
        rcases takes with rfl | rfl <;> rfl
      have inner := read?_memberTokens (first :: others) (by simp) (.inr rfl) [] none frames rest
      simpa [Value.tokens, Value.tree, read?_cons opened] using inner

/-- Items are read after those already `done`, up to the end of their array. -/
theorem read?_itemTokens (items : List Value) (nonempty : items ≠ []) {expecting : Expecting}
    (takes : expecting.TakesValue) (done : List Tree) (frames : List Frame)
    (rest : List Token) :
    Progress.read? ⟨expecting, .array done :: frames⟩
        (itemTokens items ++ .closeArray :: rest) =
      Progress.read? ⟨.afterValue (.array (done.reverse ++ itemTrees items)), frames⟩ rest := by
  match items with
  | [] => exact absurd rfl nonempty
  | [value] =>
      rw [itemTokens, read?_tokens value takes, read?_cons rfl]
      simp [itemTrees]
  | value :: next :: others =>
      have following := read?_itemTokens (next :: others) (by simp) (.inl rfl)
        (value.tree :: done) frames rest
      simp only [itemTokens, List.append_assoc, List.cons_append]
      rw [read?_tokens value takes, read?_cons rfl, following]
      simp [itemTrees]

/-- Members are read after those already `done`, up to the end of their object.
The frame of an object whose next key is awaited holds a key that is not used. -/
theorem read?_memberTokens (members : List (String × Value)) (nonempty : members ≠ [])
    {expecting : Expecting} (takes : expecting.TakesKey) (done : List (Option String × Tree))
    (unused : Option String) (frames : List Frame) (rest : List Token) :
    Progress.read? ⟨expecting, .object done unused :: frames⟩
        (memberTokens members ++ .closeObject :: rest) =
      Progress.read? ⟨.afterValue (.object (done.reverse ++ memberTrees members)), frames⟩
        rest := by
  have keyed (key : Option String) : Progress.step? ⟨expecting, .object done unused :: frames⟩
      (.string key) = some ⟨.colon key, .object done unused :: frames⟩ := by
    rcases takes with rfl | rfl <;> rfl
  match members with
  | [] => exact absurd rfl nonempty
  | [(key, value)] =>
      simp only [memberTokens, List.cons_append]
      rw [read?_cons (keyed (some key)), read?_cons rfl, read?_tokens value (.inl rfl),
        read?_cons rfl]
      simp [memberTrees]
  | (key, value) :: next :: others =>
      have following := read?_memberTokens (next :: others) (by simp) (.inl rfl)
        ((some key, value.tree) :: done) none frames rest
      simp only [memberTokens, List.append_assoc, List.cons_append]
      rw [read?_cons (keyed (some key)), read?_cons rfl, read?_tokens value (.inl rfl),
        read?_cons rfl, following]
      simp [memberTrees]

end

/-- The tokens of a value form its tree. -/
theorem ofTokens?_tokens (value : Value) : Tree.ofTokens? value.tokens = some value.tree := by
  have read := read?_tokens value (.inl rfl) [] []
  rw [List.append_nil, Progress.read?] at read
  simp [Tree.ofTokens?, read, Progress.read?]

/-! ## Reading back -/

/-- What is written on one line is read back. -/
theorem Tree.parse?_compact (value : Value) : Tree.parse? value.compact = some value.tree := by
  have scanned := scan?_compact value [] delimits_nil
  rw [List.append_nil] at scanned
  simp [Tree.parse?, scanned, ofTokens?_tokens]

/-- What is written with one line a member is read back, if it is indented by
blanks. -/
theorem Tree.parse?_indented {indent : List Char}
    (blank : ∀ char ∈ indent, isBlank char = true) (level : Nat) (value : Value) :
    Tree.parse? (value.indented indent level) = some value.tree := by
  have scanned := scan?_indented blank level value [] delimits_nil
  rw [List.append_nil] at scanned
  simp [Tree.parse?, scanned, ofTokens?_tokens]

end LogSieve.Json
