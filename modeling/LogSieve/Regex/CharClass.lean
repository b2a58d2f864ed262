import LogSieve.Regex.Primitive

/-!
# Bracketed classes

Reads a class such as `[a-z&&[^aeiou]]`. Classes nest and combine by union, intersection (`&&`),
difference (`--`) and symmetric difference (`~~`); the binary operators bind equally, to the left
and weaker than union. A class is read with the stack of the classes around it, so that nesting
costs no recursion.
-/

namespace LogSieve.Regex

open LogSieve.Unicode

/-- A set together with the nesting depth of its notation. -/
structure Nested where
  set : Charset
  depth : Nat

/-- The items of a union read so far: their union, how many they are and how deep the deepest is. -/
structure Items where
  set : Charset := .empty
  count : Nat := 0
  depth : Nat := 0

/-- Adds an item to a union. -/
def Items.push (items : Items) (item : Nested) : Items :=
  ⟨items.set.union item.set, items.count + 1, max items.depth item.depth⟩

/-- A finished union. One item alone does not nest any deeper than it is. -/
def Items.close (items : Items) : Nested :=
  ⟨items.set, if items.count < 2 then items.depth else items.depth + 1⟩

/-- The binary operators on sets. -/
inductive SetOp where
  | inter
  | diff
  | symmDiff
deriving DecidableEq

/-- Applies an operator to two sets. -/
def SetOp.apply : SetOp → Charset → Charset → Charset
  | inter => Charset.inter
  | diff => Charset.diff
  | symmDiff => Charset.symmDiff

/-- A class whose closing bracket is not yet read: the items of the class around it, whether it is
negated, and the operator and left operand that wait for a right operand. -/
structure OpenClass where
  outer : Items
  negated : Bool
  waiting : Option (SetOp × Nested)

/-- Case folding of an operand. -/
def Flags.foldOperand (flags : Flags) (set : Charset) : Charset :=
  if !flags.ignoreCase then set
  else if flags.unicode then set.foldCase
  else set.foldAsciiCase

/-- Gives a waiting operator its right operand. -/
def Flags.combine (flags : Flags) (waiting : Option (SetOp × Nested)) (right : Nested) : Nested :=
  match waiting with
  | none => right
  | some (op, left) =>
      ⟨op.apply (flags.foldOperand left.set) (flags.foldOperand right.set),
        max left.depth right.depth + 1⟩

/-- The named ASCII classes. -/
def asciiClass? : String → Option Charset
  | "alnum" => some ⟨[⟨0x30, 0x39⟩, ⟨0x41, 0x5A⟩, ⟨0x61, 0x7A⟩]⟩
  | "alpha" => some ⟨[⟨0x41, 0x5A⟩, ⟨0x61, 0x7A⟩]⟩
  | "ascii" => some ⟨[⟨0, 0x7F⟩]⟩
  | "blank" => some ⟨[⟨0x9, 0x9⟩, ⟨0x20, 0x20⟩]⟩
  | "cntrl" => some ⟨[⟨0, 0x1F⟩, ⟨0x7F, 0x7F⟩]⟩
  | "digit" => some ⟨[⟨0x30, 0x39⟩]⟩
  | "graph" => some ⟨[⟨0x21, 0x7E⟩]⟩
  | "lower" => some ⟨[⟨0x61, 0x7A⟩]⟩
  | "print" => some ⟨[⟨0x20, 0x7E⟩]⟩
  | "punct" => some ⟨[⟨0x21, 0x2F⟩, ⟨0x3A, 0x40⟩, ⟨0x5B, 0x60⟩, ⟨0x7B, 0x7E⟩]⟩
  | "space" => some ⟨[⟨0x9, 0xD⟩, ⟨0x20, 0x20⟩]⟩
  | "upper" => some ⟨[⟨0x41, 0x5A⟩]⟩
  | "word" => some ⟨[⟨0x30, 0x39⟩, ⟨0x41, 0x5A⟩, ⟨0x5F, 0x5F⟩, ⟨0x61, 0x7A⟩]⟩
  | "xdigit" => some ⟨[⟨0x30, 0x39⟩, ⟨0x41, 0x46⟩, ⟨0x61, 0x66⟩]⟩
  | _ => none

/-- Reads a named ASCII class after its opening bracket: a colon, perhaps a caret, a known name, a
colon and a bracket. Anything else is no such class. -/
def readAsciiClass : List Char → Option (Charset × Bool × List Char)
  | ':' :: rest =>
      let (negated, named) := match rest with
        | '^' :: after => (true, after)
        | _ => (false, rest)
      match splitAtChar ':' named with
      | some (name, ']' :: after) =>
          (asciiClass? (String.ofList name)).map fun set => (set, negated, after)
      | _ => none
  | _ => none

/-- Takes the hyphens that open a class: each stands for itself. -/
def readHyphens (flags : Flags) : (fuel : Nat) → Items → List Char → Items × List Char
  | 0, items, input => (items, input)
  | fuel + 1, items, input =>
      match input with
      | '-' :: rest =>
          readHyphens flags fuel (items.push ⟨.singleton '-', 0⟩) (flags.skip rest)
      | _ => (items, input)

/-- Reads the opening of a class after its bracket: a caret negates, and a bracket that would close
an empty class stands for itself. The fuel bounds the characters read. -/
def readOpening (flags : Flags) (fuel : Nat) (outer : Items) (rest : List Char) :
    OpenClass × Items × List Char :=
  let input := flags.skip rest
  let (negated, input) := match input with
    | '^' :: after => (true, flags.skip after)
    | _ => (false, input)
  let (items, input) := readHyphens flags fuel {} input
  match items.count, input with
  | 0, ']' :: after => (⟨outer, negated, none⟩, items.push ⟨.singleton ']', 0⟩, flags.skip after)
  | _, _ => (⟨outer, negated, none⟩, items, input)

/-- Reads one member of a class, or one end of a range. The fuel bounds the characters read. -/
def readMember (flags : Flags) (fuel : Nat) : List Char → Option (Primitive × List Char)
  | [] => none
  | '\\' :: rest => readEscape flags fuel rest
  | char :: rest => some (.literal char false, rest)

/-- The character that a literal of a class stands for. Without Unicode it is an ASCII one. -/
def Primitive.char? (flags : Flags) : Primitive → Option Char
  | .literal char _ => if flags.unicode || char.toNat < 0x80 then some char else none
  | _ => none

/-- The set that a primitive stands for in a class. -/
def Primitive.set? (flags : Flags) : Primitive → Option Charset
  | .short kind negated => kind.set? negated flags
  | .named set => some set
  | primitive => (primitive.char? flags).map .singleton

/-- Reads a member or a range of a class. A hyphen ahead of a bracket or of another hyphen makes no
range. The fuel bounds the characters read of one. -/
def readRange (flags : Flags) (fuel : Nat) (input : List Char) : Option (Charset × List Char) := do
  let (first, after) ← readMember flags fuel input
  let after := flags.skip after
  match after with
  | [] => none
  | '-' :: rest =>
      if flags.peek after = some ']' ∨ flags.peek after = some '-' then
        some (← first.set? flags, after)
      else
        let (last, after) ← readMember flags fuel (flags.skip rest)
        let first ← first.char? flags
        let last ← last.char? flags
        if first.toNat ≤ last.toNat then some (.ofRange first.toNat last.toNat, after) else none
  | _ => some (← first.set? flags, after)

/-- Reads the inside of a class: `items` are those of the innermost open class, `innermost` is that
class and `stack` holds the ones around it. Gives the set, the depth of its notation and the rest
of the input. The fuel bounds the number of items and the characters read of one. -/
def readClassItems (flags : Flags) : (fuel : Nat) → OpenClass → List OpenClass → Items →
    List Char → Option (Nested × List Char)
  | 0, _, _, _, _ => none
  | fuel + 1, innermost, stack, items, input =>
      let operator op rest :=
        let left := flags.combine innermost.waiting items.close
        readClassItems flags fuel { innermost with waiting := some (op, left) } stack {} rest
      match flags.skip input with
      | [] => none
      | '[' :: rest =>
          match readAsciiClass rest with
          | some (set, negated, after) => do
              let set ← flags.finish? negated set
              readClassItems flags fuel innermost stack (items.push ⟨set, 0⟩) after
          | none =>
              let (opened, items, after) := readOpening flags fuel items rest
              readClassItems flags fuel opened (innermost :: stack) items after
      | ']' :: rest => do
          let inside := flags.combine innermost.waiting items.close
          let closed : Nested := ⟨← flags.finish? innermost.negated inside.set, inside.depth + 1⟩
          match stack with
          | [] => some (closed, rest)
          | enclosing :: stack =>
              readClassItems flags fuel enclosing stack (innermost.outer.push closed) rest
      | '&' :: '&' :: rest => operator .inter rest
      | '-' :: '-' :: rest => operator .diff rest
      | '~' :: '~' :: rest => operator .symmDiff rest
      | input => do
          let (set, after) ← readRange flags fuel input
          readClassItems flags fuel innermost stack (items.push ⟨set, 0⟩) after

/-- Reads a class after its opening bracket. The fuel bounds the characters read. -/
def readClass (flags : Flags) (fuel : Nat) (rest : List Char) : Option (Nested × List Char) :=
  let (opened, items, after) := readOpening flags fuel {} rest
  readClassItems flags fuel opened [] items after

end LogSieve.Regex
