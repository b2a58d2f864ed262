import LogSieve.Json.Token

/-!
# JSON syntax trees

The structure of a JSON text, with nothing yet decided about repeated keys, the size of numbers or
the depth of nesting: what a reader passes over is held to the grammar only.
-/

namespace LogSieve.Json

/-- A JSON text as written. Members keep their order and may repeat a key. -/
inductive Tree where
  | null
  | bool (value : Bool)
  | number (numeral : Numeral)
  | string (text : Option String)
  | array (items : List Tree)
  | object (members : List (Option String × Tree))
deriving Inhabited

/-- An array or object that is not yet closed, with what it holds so far, latest first. An object
also holds the key whose value is being read. -/
inductive Frame where
  | array (items : List Tree)
  | object (members : List (Option String × Tree)) (key : Option String)

/-- What may come next. -/
inductive Expecting where
  | value
  | valueOrClose
  | key
  | keyOrClose
  | colon (key : Option String)
  | afterValue (value : Tree)

/-- How far a text has been read: what may come next, and the containers that are open, innermost
first. For an object whose next key is awaited the frame holds a key that is not used. -/
structure Progress where
  expecting : Expecting
  open_ : List Frame

/-- Reads a token where a value may stand. -/
def Progress.value? (frames : List Frame) : Token → Option Progress
  | .null => some ⟨.afterValue .null, frames⟩
  | .bool value => some ⟨.afterValue (.bool value), frames⟩
  | .number numeral => some ⟨.afterValue (.number numeral), frames⟩
  | .string text => some ⟨.afterValue (.string text), frames⟩
  | .openArray => some ⟨.valueOrClose, .array [] :: frames⟩
  | .openObject => some ⟨.keyOrClose, .object [] none :: frames⟩
  | _ => none

/-- Reads a token after a value inside a container. -/
def Progress.after? (value : Tree) (frames : List Frame) (token : Token) : Option Progress :=
  match frames, token with
  | .array items :: frames, .comma => some ⟨.value, .array (value :: items) :: frames⟩
  | .array items :: frames, .closeArray =>
      some ⟨.afterValue (.array (value :: items).reverse), frames⟩
  | .object members key :: frames, .comma =>
      some ⟨.key, .object ((key, value) :: members) none :: frames⟩
  | .object members key :: frames, .closeObject =>
      some ⟨.afterValue (.object ((key, value) :: members).reverse), frames⟩
  | _, _ => none

/-- Reads a token. -/
def Progress.step? (progress : Progress) (token : Token) : Option Progress :=
  match progress.expecting, token, progress.open_ with
  | .valueOrClose, .closeArray, .array _ :: frames => some ⟨.afterValue (.array []), frames⟩
  | .keyOrClose, .closeObject, .object _ _ :: frames => some ⟨.afterValue (.object []), frames⟩
  | .value, token, frames => value? frames token
  | .valueOrClose, token, frames => value? frames token
  | .key, .string key, frames => some ⟨.colon key, frames⟩
  | .keyOrClose, .string key, frames => some ⟨.colon key, frames⟩
  | .colon key, .colon, .object members _ :: frames =>
      some ⟨.value, .object members key :: frames⟩
  | .afterValue value, token, frames => after? value frames token
  | _, _, _ => none

/-- The tree of a list of tokens, if they form exactly one value. -/
def Tree.ofTokens? (tokens : List Token) : Option Tree := do
  let progress ← tokens.foldlM Progress.step? ⟨.value, []⟩
  match progress with
  | ⟨.afterValue value, []⟩ => some value
  | _ => none

/-- Reads a JSON text. -/
def Tree.parse? (text : List Char) : Option Tree := do
  Tree.ofTokens? (← scan? text)

end LogSieve.Json
