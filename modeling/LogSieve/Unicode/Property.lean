import LogSieve.Unicode.Age
import LogSieve.Unicode.BinaryProperty
import LogSieve.Unicode.Category
import LogSieve.Unicode.Folding
import LogSieve.Unicode.Script
import LogSieve.Unicode.ScriptExtension
import LogSieve.Unicode.Segment

/-!
# Character properties by name

Finds the set that a property name, or a property and one of its values, stands for. Names are
compared loosely: case, blanks, hyphens, underscores and a leading `is` do not count.
-/

namespace LogSieve.Unicode

/-- Drops the characters that a loose comparison ignores. -/
def looseChars (chars : List Char) : List Char :=
  (chars.filter fun char => char.toNat < 0x80 && char != ' ' && char != '_' && char != '-').map
    Char.toLower

/-- The form in which property names are compared. The name `isc` keeps its first letters: it
would otherwise read as a category. -/
def looseName (name : String) : String :=
  match name.toList with
  | first :: second :: rest =>
      if first.toLower = 'i' ∧ second.toLower = 's' then
        if looseChars rest = ['c'] then "isc" else String.ofList (looseChars rest)
      else String.ofList (looseChars (first :: second :: rest))
  | chars => String.ofList (looseChars chars)

/-- The set of a binary property, empty if the name is unknown. -/
def binarySet (name : String) : Charset := (lookup binaryProperties name).getD .empty

/-- The set of a simple general category, empty if the name is unknown. -/
def categorySet (name : String) : Charset := (lookup categories name).getD .empty

/-- The union of several simple general categories. -/
def categoriesSet (names : List String) : Charset :=
  names.foldl (fun set name => set.union (categorySet name)) .empty

/-- The general categories that cover several simple ones, with their members. -/
def categoryGroups : List (List String × List String) := [
    (["c", "other"], ["cc", "cf", "cn", "co"]),
    (["l", "letter"], ["ll", "lm", "lo", "lt", "lu"]),
    (["lc", "casedletter"], ["ll", "lt", "lu"]),
    (["m", "mark", "combiningmark"], ["mc", "me", "mn"]),
    (["n", "number"], ["nd", "nl", "no"]),
    (["p", "punctuation", "punct"], ["pc", "pd", "pe", "pf", "pi", "po", "ps"]),
    (["s", "symbol"], ["sc", "sk", "sm", "so"]),
    (["z", "separator"], ["zl", "zp", "zs"])
  ]

/-- The set of a general category, simple or not, or of one of the three catch-all names. -/
def generalCategory? (name : String) : Option Charset :=
  if name = "any" then some .all
  else if name = "assigned" then some (categorySet "cn").complement
  else if name = "ascii" then some (.ofRange 0 0x7F)
  else
    match categoryGroups.find? (·.1.contains name) with
    | some group => some (categoriesSet group.2)
    | none => lookup categories name

/-- The set of a script. -/
def script? (name : String) : Option Charset := lookup scripts name

/-- The set of a script with the characters it shares with others. -/
def scriptExtension? (name : String) : Option Charset :=
  (lookup scriptExtensions name).orElse fun _ => script? name

/-- All code points assigned up to and including a version. -/
def assignedBy? (version : String) : Option Charset :=
  if ages.any (·.names.contains version) then
    let older := ages.takeWhile fun entry => !entry.names.contains version
    let newest := (ages.dropWhile fun entry => !entry.names.contains version).take 1
    some ((older ++ newest).foldl (fun set entry => set.union entry.charset) .empty)
  else none

/-- The contributory properties: what a derived property has beyond the sets it is made of. -/
def contributory? (name : String) : Option Charset :=
  let letters := ["ll", "lm", "lo", "lt", "lu"]
  if name = "otheralphabetic" ∨ name = "oalpha" then
    some ((binarySet "alphabetic").diff
      (((categoriesSet ("nl" :: letters)).union (binarySet "lowercase")).union
        (binarySet "uppercase")))
  else if name = "otherdefaultignorablecodepoint" ∨ name = "odi" then
    some ((binarySet "defaultignorablecodepoint").diff
      ((categorySet "cf").union (binarySet "variationselector")))
  else if name = "othergraphemeextend" ∨ name = "ogrext" then
    some ((binarySet "graphemeextend").diff (categoriesSet ["me", "mn"]))
  else if name = "otheridcontinue" ∨ name = "oidc" then
    some ((binarySet "idcontinue").diff
      ((binarySet "idstart").union (categoriesSet ["mc", "mn", "nd", "pc"])))
  else if name = "otheridstart" ∨ name = "oids" then
    some ((binarySet "idstart").diff (categoriesSet ("nl" :: letters)))
  else if name = "otherlowercase" ∨ name = "olower" then
    some ((binarySet "lowercase").diff (categorySet "ll"))
  else if name = "othermath" ∨ name = "omath" then
    some ((binarySet "math").diff (categorySet "sm"))
  else if name = "otheruppercase" ∨ name = "oupper" then
    some ((binarySet "uppercase").diff (categorySet "lu"))
  else none

/-- The set of a binary property, tabulated or contributory. -/
def binaryProperty? (name : String) : Option Charset :=
  (lookup binaryProperties name).orElse fun _ => contributory? name

/-- The set that a name alone stands for: a binary property, else a general category, else a
script. -/
def propertyNamed? (name : String) : Option Charset :=
  let key := looseName name
  if key = "isc" then none
  else
    ((binaryProperty? key).orElse fun _ => generalCategory? key).orElse fun _ => script? key

/-- The set of the characters for which a property has a value. -/
def propertyValued? (property value : String) : Option Charset :=
  let name := looseName property
  let key := looseName value
  if name = "gc" ∨ name = "generalcategory" then generalCategory? key
  else if name = "sc" ∨ name = "script" then script? key
  else if name = "scx" ∨ name = "scriptextensions" then scriptExtension? key
  else if name = "age" then assignedBy? key
  else if name = "gcb" ∨ name = "graphemeclusterbreak" then lookup graphemeBreaks key
  else if name = "wb" ∨ name = "wordbreak" then lookup wordBreaks key
  else if name = "sb" ∨ name = "sentencebreak" then lookup sentenceBreaks key
  else none

/-- Decimal digits. -/
def digits : Charset := categorySet "nd"

/-- Letters and whatever else is alphabetic. -/
def alphabetic : Charset := binarySet "alphabetic"

/-- Numbers of any kind. -/
def numbers : Charset := categoriesSet ["nd", "nl", "no"]

/-- Whether a character is alphabetic or a number. -/
def isAlphanumeric (char : Char) : Bool := alphabetic.contains char || numbers.contains char

/-- White space. -/
def whiteSpace : Charset :=
  ⟨[⟨0x9, 0xD⟩, ⟨0x20, 0x20⟩, ⟨0x85, 0x85⟩, ⟨0xA0, 0xA0⟩, ⟨0x1680, 0x1680⟩, ⟨0x2000, 0x200A⟩,
    ⟨0x2028, 0x2029⟩, ⟨0x202F, 0x202F⟩, ⟨0x205F, 0x205F⟩, ⟨0x3000, 0x3000⟩]⟩

/-- Characters of words: letters and whatever else is alphabetic, marks, decimal digits,
connectors and joiners. -/
def wordChars : Charset :=
  (alphabetic.union (categoriesSet ["mc", "me", "mn", "nd", "pc"])).union
    (binarySet "joincontrol")

/-- Adds to a set every character that differs from a member only by case. -/
def Charset.foldCase (set : Charset) : Charset :=
  let gained := (readGroups foldingGroups).flatMap fun group =>
    if group.any set.hasCode then group else []
  if gained.isEmpty then set
  else set.union (.ofRanges (gained.map fun code => ⟨code, code⟩))

/-- Adds to a set every ASCII letter that differs from a member only by case. -/
def Charset.foldAsciiCase (set : Charset) : Charset :=
  let lower := set.inter (.ofRange 0x61 0x7A)
  let upper := set.inter (.ofRange 0x41 0x5A)
  let up := lower.ranges.map fun range => ⟨range.first - 0x20, range.last - 0x20⟩
  let down := upper.ranges.map fun range => ⟨range.first + 0x20, range.last + 0x20⟩
  (set.union ⟨up⟩).union ⟨down⟩

end LogSieve.Unicode
