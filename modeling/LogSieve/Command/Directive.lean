import LogSieve.Event
import LogSieve.Text.Blank
import LogSieve.Text.Decimal
import LogSieve.Unicode.Property

/-!
# Directives

Which events are shown follows from directives: a level, or a part of the program with a level, or
either of them for events with certain fields. The most specific directive that fits an event
decides. A directive may also ask for work that events are part of; no event here is part of any,
so that such a directive shows nothing.
-/

namespace LogSieve.Command

open LogSieve.Text
open LogSieve.Unicode

/-- Shows the events of a part of the program that have certain fields, up to a rank of their
levels. -/
structure Directive where
  target : String := ""
  fields : List String := []
  /-- Whether it holds only within some work. -/
  isScoped : Bool := false
  rank : Nat
deriving DecidableEq, Inhabited, Repr

/-- Why a directive cannot be read. -/
inductive DirectiveError where
  | malformed
  | unknownLevel
deriving DecidableEq, Inhabited, Repr

/-- The wording of a directive that cannot be read. -/
def DirectiveError.message : DirectiveError → String
  | .malformed => "invalid filter directive"
  | .unknownLevel =>
      "error parsing level filter: expected one of \"off\", \"error\", \"warn\", \"info\", " ++
        "\"debug\", \"trace\", or a number 0-5"

/-- The rank of a level by its name or number; rank zero shows nothing. -/
def rankOf? (text : String) : Option Nat :=
  match readUInt64 text with
  | .ok number => if number ≤ 5 then some number.toNat else none
  | .error _ =>
      ["off", "error", "warn", "info", "debug", "trace"].findIdx?
        (· == String.ofList (text.toList.map Char.toLower))

/-- The rank that shows everything. -/
def fullRank : Nat := 5

/-- Whether a directive can begin with the name of a part that begins with a character. -/
def startsName (char : Char) : Bool :=
  isAlphanumeric char || ['-', ':', '_'].contains char

/-- The characters of a text after a number of bytes. -/
def dropBytes : Nat → List Char → List Char
  | _, [] => []
  | bytes, char :: rest =>
      if bytes = 0 then char :: rest else dropBytes (bytes - char.utf8Size) rest

/-- The characters of a text within a number of bytes. -/
def takeBytes : Nat → List Char → List Char
  | _, [] => []
  | bytes, char :: rest =>
      if bytes = 0 then [] else char :: takeBytes (bytes - char.utf8Size) rest

/-- The number of bytes of some characters. -/
def byteCount (chars : List Char) : Nat := chars.foldl (fun count char => count + char.utf8Size) 0

/-- The level given by a text; without one everything is shown. -/
def levelOrAll (text : List Char) : Except DirectiveError Nat :=
  if text.isEmpty then .ok fullRank
  else
    match rankOf? (String.ofList text) with
    | some rank => .ok rank
    | none => .error .unknownLevel

/-- Whether a character ends a text in brackets. -/
def endsScope (char : Char) : Bool := char == ']' || char == '\x7b'

/-- Reads what stands in brackets, the work and in braces a field: whether the directive is scoped,
its fields, and what follows the brackets. A field may have a value to compare with. -/
def readScope? (scope : List Char) : Option (Bool × List String × List Char) :=
  let isNamed := !(scope.takeWhile (!endsScope ·)).isEmpty
  match scope.dropWhile (!endsScope ·) with
  | ']' :: rest => some (true, [], rest)
  | _ :: inside =>
      let field := inside.takeWhile (· != '\x7d')
      match field, inside.dropWhile (· != '\x7d') with
      | _ :: _, _ :: ']' :: rest =>
          some (isNamed || field.contains '=',
            [String.ofList (field.takeWhile (· != '='))], rest)
      | _, _ => none
  | [] => none

/-- Reads a directive: a level; or a name, work and fields in brackets, or both, and after an equals
sign a level. The marks are looked for in the text without the blanks at its ends, but what is
between them is counted off from its very beginning. -/
def Directive.parse (text : String) : Except DirectiveError Directive :=
  let chars := trim text.toList
  let name := chars.takeWhile fun char => char != '=' && char != '['
  let target := String.ofList (takeBytes (byteCount name) text.toList)
  let levelBefore := fun (level : List Char) =>
    levelOrAll (dropBytes (byteCount chars - byteCount level) text.toList)
  if !chars.head?.any fun char => char == '[' || startsName char then .error .malformed
  else
    match chars.dropWhile fun char => char != '=' && char != '[' with
    | [] =>
        match rankOf? text with
        | some rank => .ok { rank }
        | none => .ok { target := text, rank := fullRank }
    | '=' :: level => return { target, rank := ← levelBefore level }
    | _ :: scope =>
        match readScope? scope with
        | some (isScoped, fields, []) => .ok { target, fields, isScoped, rank := fullRank }
        | some (isScoped, fields, '=' :: level) =>
            return { target, fields, isScoped, rank := ← levelBefore level }
        | _ => .error .malformed

/-- The parts of a list of directives. -/
def directiveTexts (text : String) : List String :=
  ((splitAt ',' text.toList).filter (!·.isEmpty)).map String.ofList

/-- What counts without any directive: failures only. -/
def usualDirectives : List Directive := [{ rank := Level.error.rank }]

/-- Directives, or the usual ones. -/
def orUsual (directives : List Directive) : List Directive :=
  if directives.isEmpty then usualDirectives else directives

/-- Reads directives that have to be well formed, all of them. -/
def readDirectives? (text : String) : Option (List Directive) :=
  match (directiveTexts text).mapM Directive.parse with
  | .ok directives => some (orUsual directives)
  | .error _ => none

/-- Reads directives; malformed ones are left out, and what is said about them comes second. -/
def readLeniently (text : String) : List Directive × List String :=
  let read := (directiveTexts text).map fun text => (text, Directive.parse text)
  (orUsual (read.filterMap fun (_, result) => result.toOption),
    read.filterMap fun (text, result) =>
      match result with
      | .ok _ => none
      | .error error => some ("ignoring `" ++ text ++ "`: " ++ error.message))

/-- Whether a directive is about an event. -/
def Directive.fits (directive : Directive) (event : Event) : Bool :=
  !directive.isScoped && event.target.startsWith directive.target &&
    directive.fields.all event.fieldNames.contains

/-- Whether a directive is less specific than another: its name is shorter, or as long, and then it
has fewer fields or earlier ones. -/
def Directive.isBroader (directive other : Directive) : Bool :=
  let length := directive.target.length
  length < other.target.length ||
    (length == other.target.length &&
      (directive.fields.length < other.fields.length ||
        (directive.fields.length == other.fields.length && directive.fields < other.fields)))

/-- The rank up to which events like one are shown: by the most specific directive that fits, of
several the last one. -/
def rankFor (directives : List Directive) (event : Event) : Nat :=
  ((directives.filter (·.fits event)).foldl
    (fun best directive =>
      match best with
      | some other => if directive.isBroader other then best else some directive
      | none => some directive) (none : Option Directive)).map (·.rank) |>.getD 0

/-- Whether an event is shown. -/
def isShown (directives : List Directive) (event : Event) : Bool :=
  event.level.rank ≤ rankFor directives event

end LogSieve.Command
