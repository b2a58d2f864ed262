import LogSieve.Proofs.Files
import LogSieve.Proofs.Json.Writing
import LogSieve.Store.File

/-!
# The stored form of rules

Writer and reader of the rules are separate: the one lists the members of an
object, the other looks fields up by name and fills in defaults.  This module
shows that they fit.  What comes back is the rule without its prepared tests,
which are not stored and do not count when rules are compared.
-/

namespace LogSieve

open LogSieve.Json

namespace Operator

@[simp] theorem ofName_name (operator : Operator) : ofName operator.name = operator := by
  cases operator <;> rfl

end Operator

/-- A natural number of 64 bits is read back. -/
theorem Json.natural?_ofInt (value : UInt64) :
    (Numeral.ofInt value.toNat).natural? = some value := by
  have fits : value.toNat < UInt64.size := value.toNat_lt_size
  have nonnegative : ¬(value.toNat : Int) < 0 := by omega
  simp [Numeral.natural?, Numeral.ofInt, nonnegative, fits]

/-- Items that are read one by one are read as a list. -/
theorem Json.list?_map_tree {α β : Type} {toJson : α → Value} {decode : Tree → Option β}
    {image : α → β} (reads : ∀ item, decode (toJson item).tree = some (image item))
    (items : List α) :
    Tree.list? decode (Value.array (items.map toJson)).tree = some (items.map image) := by
  simp only [Value.tree, itemTrees_eq_map, Tree.list?, List.map_map]
  induction items with
  | nil => rfl
  | cons item items ih => simp [List.mapM_cons, reads, ih]

/-- If what is read of an item is left alone by `image`, so is a list of items that
may be left out. -/
theorem Json.map_eq_self_of_optional?_list? {α : Type} {decode : Tree → Option α}
    {image : α → α} (fixed : ∀ tree item, decode tree = some item → image item = item)
    {fields : Fields} {index : Nat} {items : List α}
    (read : fields.optional? index [] (Tree.list? decode) = some items) :
    items.map image = items := by
  simp only [Fields.optional?] at read
  split at read
  · next tree found =>
      cases tree with
      | array trees =>
          simp only [Tree.list?] at read
          clear found
          induction trees generalizing items with
          | nil =>
              simp only [List.mapM_nil, Option.pure_def, Option.some.injEq] at read
              simp [← read]
          | cons tree trees ih =>
              simp only [List.mapM_cons, Option.pure_def, Option.bind_eq_bind,
                Option.bind_eq_some_iff, Option.some.injEq] at read
              obtain ⟨item, itemRead, others, othersRead, rfl⟩ := read
              simp [fixed tree item itemRead, ih othersRead]
      | _ => simp [Tree.list?] at read
  · simp only [Option.some.injEq] at read
    simp [← read]

namespace Matcher

@[simp] theorem forget_forget (matcher : Matcher) : matcher.forget.forget = matcher.forget := rfl

/-- Matchers count as the same if they differ in the prepared test at most. -/
theorem beq_iff_forget_eq {first second : Matcher} :
    (first == second) = true ↔ first.forget = second.forget := by
  change (first.field == second.field && first.operator == second.operator &&
    first.value == second.value) = true ↔ _
  simp [forget, and_assoc]

theorem list_beq_iff_forget_eq {first second : List Matcher} :
    (first == second) = true ↔ first.map forget = second.map forget := by
  induction first generalizing second with
  | nil => cases second <;> simp
  | cons matcher rest ih =>
      cases second with
      | nil => simp
      | cons other others => simp [beq_iff_forget_eq, ih]

theorem ofTree?_toJson (matcher : Matcher) :
    ofTree? matcher.toJson.tree = some matcher.forget := by
  have fields : matcher.toJson.tree.fields? fieldNames =
      some ⟨false, [some (.string (some matcher.field)),
        some (.string (some matcher.operator.name)), some (.string (some matcher.value))]⟩ := rfl
  simp [ofTree?, fields, Fields.optional?, Fields.get?, Tree.string?, Operator.ofTree?, forget]

/-- A matcher that is read has no prepared test. -/
theorem forget_of_ofTree? {tree : Tree} {matcher : Matcher}
    (read : ofTree? tree = some matcher) : matcher.forget = matcher := by
  simp only [ofTree?, Option.bind_eq_bind, Option.bind_eq_some_iff, Option.some.injEq] at read
  obtain ⟨_, -, _, -, _, -, _, -, rfl⟩ := read
  rfl

end Matcher

namespace Rule

@[simp] theorem forget_forget (rule : Rule) : rule.forget.forget = rule.forget := by
  simp [forget, Function.comp_def]

/-- Rules count as the same if they differ in prepared tests at most. -/
theorem beq_iff_forget_eq {first second : Rule} :
    (first == second) = true ↔ first.forget = second.forget := by
  cases first
  cases second
  change instBEqRule.beq _ _ = true ↔ _
  simp [instBEqRule.beq, forget, Matcher.list_beq_iff_forget_eq]

theorem list_forget_beq (rules : List Rule) : (rules.map forget == rules) = true := by
  induction rules with
  | nil => rfl
  | cons rule rest ih =>
      simp only [List.map_cons, List.cons_beq_cons, Bool.and_eq_true]
      exact ⟨beq_iff_forget_eq.mpr rule.forget_forget, ih⟩

theorem ofTree?_toJson (rule : Rule) : ofTree? rule.toJson.tree = some rule.forget := by
  have fields : rule.toJson.tree.fields? fieldNames =
      some ⟨false, [some (.number (.ofInt rule.id.toNat)), some (.bool rule.disabled),
        some (.bool rule.ham), some (Value.array (rule.matchers.map Matcher.toJson)).tree,
        some (.string (some rule.comment)), some (.number (.ofInt rule.version.toNat))]⟩ := rfl
  simp [ofTree?, fields, Fields.optional?, Fields.get?, Tree.natural?, natural?_ofInt,
    Tree.bool?, Tree.string?, list?_map_tree Matcher.ofTree?_toJson, forget]

/-- The rule read from the line of a rule is that rule. -/
theorem parse?_toLine (rule : Rule) : parse? rule.toJson.toLine = some rule.forget := by
  simp [parse?, Value.toLine, Tree.parse?_compact, ofTree?_toJson]

/-- A rule that is read has no prepared tests. -/
theorem forget_of_ofTree? {tree : Tree} {rule : Rule} (read : ofTree? tree = some rule) :
    rule.forget = rule := by
  simp only [ofTree?, Option.bind_eq_bind, Option.bind_eq_some_iff, Option.some.injEq] at read
  obtain ⟨fields, -, _, -, _, -, _, -, matchers, matchersRead, _, -, _, -, rfl⟩ := read
  have unprepared : matchers.map Matcher.forget = matchers :=
    map_eq_self_of_optional?_list? (fun _ _ => Matcher.forget_of_ofTree?) matchersRead
  simp [forget, unprepared]

end Rule

/-- What is written as text is read as its characters. -/
theorem Json.charsOf_toUTF8 (text : String) : charsOf text.toUTF8 = text.toList := by
  rw [charsOf, fromUTF8?_toUTF8]

namespace Store.Contents

/-- What the file holds, without prepared tests. -/
def forget (contents : Contents) : Contents :=
  { contents with rules := contents.rules.map Rule.forget }

theorem ofTree?_inner (contents : Contents) :
    ofTree? (Value.object [("Rules", .array (contents.rules.map Rule.toJson)),
      ("Version", .integer contents.version.toNat)]).tree = some contents.forget := by
  have fields : (Value.object [("Rules", .array (contents.rules.map Rule.toJson)),
      ("Version", .integer contents.version.toNat)]).tree.fields? ["Rules", "Version"] =
      some ⟨false, [some (Value.array (contents.rules.map Rule.toJson)).tree,
        some (.number (.ofInt contents.version.toNat))]⟩ := rfl
  simp [ofTree?, fields, Fields.optional?, Fields.get?, Tree.natural?, natural?_ofInt,
    list?_map_tree Rule.ofTree?_toJson, forget]

theorem ofFileTree?_toJson (contents : Contents) :
    ofFileTree? contents.toJson.tree = some contents.forget := by
  have fields : contents.toJson.tree.fields? ["LogRules"] =
      some ⟨false, [some (Value.object [("Rules", .array (contents.rules.map Rule.toJson)),
        ("Version", .integer contents.version.toNat)]).tree]⟩ := rfl
  simp [ofFileTree?, fields, Fields.optional?, Fields.get?, ofTree?_inner]

/-- What is stored comes back. -/
theorem decode?_encode (contents : Contents) :
    decode? contents.encode = some contents.forget := by
  have blank : ∀ char ∈ List.replicate 1 ' ', isBlank char = true := by
    intro char member
    rw [List.eq_of_mem_replicate member]
    decide
  simp only [decode?, encode, Tree.parseBytes?, charsOf_toUTF8, Value.toLines,
    String.toList_ofList, Tree.parse?_indented blank, Option.bind_some, ofFileTree?_toJson]

/-- Prepared tests do not change what is stored. -/
theorem encode_forget (contents : Contents) : contents.forget.encode = contents.encode := by
  have matchers : Matcher.toJson ∘ Matcher.forget = Matcher.toJson := rfl
  have rules : Rule.toJson ∘ Rule.forget = Rule.toJson := by
    funext rule
    simp [Rule.toJson, Rule.forget, matchers]
  simp [encode, toJson, forget, rules]

/-- What is read has no prepared tests. -/
theorem forget_of_decode? {bytes : ByteArray} {contents : Contents}
    (read : decode? bytes = some contents) : contents.forget = contents := by
  simp only [decode?, Option.bind_eq_some_iff] at read
  obtain ⟨tree, -, read⟩ := read
  simp only [ofFileTree?, Option.bind_eq_bind, Option.bind_eq_some_iff] at read
  obtain ⟨fields, -, read⟩ := read
  simp only [Fields.optional?] at read
  split at read
  · simp only [ofTree?, Option.bind_eq_bind, Option.bind_eq_some_iff, Option.some.injEq] at read
    obtain ⟨inner, -, rules, rulesRead, version, -, rfl⟩ := read
    have unprepared : rules.map Rule.forget = rules :=
      map_eq_self_of_optional?_list? (fun _ _ => Rule.forget_of_ofTree?) rulesRead
    simp [forget, unprepared]
  · simp only [Option.some.injEq] at read
    simp [← read, forget]

/-- The stored form loses nothing.  Rules and version come back as they were, a
single rule comes back from its line, and a file that was read once is settled:
what was read comes back when it is written, and from then on the same bytes are
written, whatever tests are prepared in between. -/
theorem decode?_encode_roundTrip :
    (∀ (rules : List Rule) (version : UInt64),
      decode? (encode ⟨rules, version⟩) = some ⟨rules.map Rule.forget, version⟩ ∧
        (rules.map Rule.forget == rules) = true) ∧
      (∀ rule : Rule, Rule.parse? rule.toJson.toLine = some rule.forget ∧
        (rule.forget == rule) = true) ∧
      ∀ (bytes : ByteArray) (contents : Contents), decode? bytes = some contents →
        decode? contents.encode = some contents ∧
          ∀ used : Contents, used.forget = contents → used.encode = contents.encode := by
  refine ⟨?_, ?_, ?_⟩
  · intro rules version
    exact ⟨decode?_encode ⟨rules, version⟩, Rule.list_forget_beq rules⟩
  · intro rule
    exact ⟨rule.parse?_toLine, Rule.beq_iff_forget_eq.mpr rule.forget_forget⟩
  · intro bytes contents read
    refine ⟨by rw [decode?_encode, forget_of_decode? read], ?_⟩
    intro used same
    rw [← same, encode_forget]

/-- A file in the short form, with an operator that is not known and fields left
out. -/
def shortFile : String := "[[[[3,false,true,[[\"a\",\"!~\",\"\\u0001\"]]]],5]]"

/-- What the short file holds. -/
def shortContents : Contents :=
  { rules := [{ id := 3, ham := true,
                matchers := [{ field := "a", operator := .unsupported, value := "\x01" }] }]
    version := 5 }

theorem decode?_encode_shortContents :
    decode? shortFile.toUTF8 = some shortContents ∧
      decode? shortContents.encode = some shortContents := by
  have read : decode? shortFile.toUTF8 = some shortContents := by
    rw [decode?, Tree.parseBytes?, charsOf_toUTF8]
    rfl
  exact ⟨read, (decode?_encode_roundTrip.2.2 _ _ read).1⟩

end Store.Contents

end LogSieve
