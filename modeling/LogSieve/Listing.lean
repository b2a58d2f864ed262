import LogSieve.Rule.Basic

/-!
# Listings

Rules and records picked out by a text that occurs in them.
-/

namespace LogSieve

/-- Things that can be searched for a text. -/
class Searchable (α : Type) where
  mentions : α → String → Bool

instance : Searchable Rule := ⟨Rule.mentions⟩

instance : Searchable Record := ⟨Record.mentions⟩

/-- The items in which a text occurs, at most `limit` of them; the empty text picks all. -/
def pick {α : Type} [Searchable α] (items : List α) (needle : String) (limit : Nat) : List α :=
  (items.filter fun item => needle.isEmpty || Searchable.mentions item needle).take limit

end LogSieve
