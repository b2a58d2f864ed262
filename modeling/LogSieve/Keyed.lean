/-!
# Lists in key order

Finite maps as lists of pairs whose keys increase strictly, in the order of code points.
-/

namespace LogSieve

/-- A finite map from texts, as pairs in the order of their keys. -/
@[ext]
structure Keyed (α : Type) where
  pairs : List (String × α)
  ordered : pairs.Pairwise fun first second => first.1 < second.1

namespace Keyed

variable {α : Type}

/-- Puts a value under a key into pairs, in place of the one already there. -/
def insertPair (key : String) (value : α) : List (String × α) → List (String × α)
  | [] => [(key, value)]
  | (other, old) :: rest =>
      if key < other then (key, value) :: (other, old) :: rest
      else if key = other then (key, value) :: rest
      else (other, old) :: insertPair key value rest

theorem mem_insertPair {key : String} {value : α} {pairs : List (String × α)} {pair : String × α}
    (member : pair ∈ insertPair key value pairs) : pair.1 = key ∨ pair ∈ pairs := by
  induction pairs with
  | nil =>
      rw [insertPair, List.mem_singleton] at member
      exact .inl (congrArg Prod.fst member)
  | cons entry rest ih =>
      rw [insertPair] at member
      split at member
      · rcases List.mem_cons.mp member with same | known
        · exact .inl (congrArg Prod.fst same)
        · exact .inr known
      · split at member
        · rcases List.mem_cons.mp member with same | known
          · exact .inl (congrArg Prod.fst same)
          · exact .inr (List.mem_cons_of_mem _ known)
        · rcases List.mem_cons.mp member with same | later
          · exact .inr (same ▸ List.mem_cons_self)
          · exact (ih later).imp_right (List.mem_cons_of_mem _)

/-- Pairs stay in order when one is put into them. -/
theorem ordered_insertPair (key : String) (value : α) {pairs : List (String × α)}
    (ordered : pairs.Pairwise fun first second => first.1 < second.1) :
    (insertPair key value pairs).Pairwise fun first second => first.1 < second.1 := by
  induction pairs with
  | nil => exact List.pairwise_singleton _ _
  | cons entry rest ih =>
      obtain ⟨above, later⟩ := List.pairwise_cons.mp ordered
      rw [insertPair]
      split
      · next below =>
          apply List.Pairwise.cons _ ordered
          intro pair member
          rcases List.mem_cons.mp member with rfl | known
          · exact below
          · exact String.lt_trans below (above pair known)
      · next notBelow =>
          split
          · next same =>
              apply List.Pairwise.cons _ later
              intro pair member
              rw [same]
              exact above pair member
          · next other =>
              apply List.Pairwise.cons _ (ih later)
              intro pair member
              rcases mem_insertPair member with same | known
              · rw [same]
                apply Decidable.of_not_not
                intro notAbove
                exact other (String.le_antisymm (String.not_lt.mp notAbove)
                  (String.not_lt.mp notBelow))
              · exact above pair known

instance : EmptyCollection (Keyed α) := ⟨⟨[], .nil⟩⟩

instance : Inhabited (Keyed α) := ⟨∅⟩

instance : Membership (String × α) (Keyed α) := ⟨fun map pair => pair ∈ map.pairs⟩

/-- Puts a value under a key, in place of the one already there. -/
def insert (map : Keyed α) (key : String) (value : α) : Keyed α :=
  ⟨insertPair key value map.pairs, ordered_insertPair key value map.ordered⟩

@[simp] theorem pairs_insert (map : Keyed α) (key : String) (value : α) :
    (map.insert key value).pairs = insertPair key value map.pairs := rfl

/-- The map of a list of pairs; of several with one key the last counts. -/
def ofList (pairs : List (String × α)) : Keyed α :=
  pairs.foldl (fun map pair => map.insert pair.1 pair.2) ∅

/-- The value under a key. -/
def get? (map : Keyed α) (key : String) : Option α := map.pairs.lookup key

/-- The pairs that pass a test. -/
def filter (map : Keyed α) (keeps : String × α → Bool) : Keyed α :=
  ⟨map.pairs.filter keeps, map.ordered.sublist List.filter_sublist⟩

end Keyed

end LogSieve
