import Mathlib.Data.List.Induction
import Mathlib.Data.String.Basic
import LogSieve.Record

/-!
# Records made from lines

The labels of a record are a finite map: every key stands once.  So a label is what the record
holds under the key of the label, and a record always holds something under the name of the
message.  The map of a list of pairs has under each key the value of the last pair with it.
-/

namespace LogSieve

namespace Keyed

variable {α : Type}

/-! ## Looking up a key -/

theorem lookup_cons (entry : String × α) (rest : List (String × α)) (key : String) :
    (entry :: rest).lookup key = if key = entry.1 then some entry.2 else rest.lookup key := by
  rw [List.lookup_cons]
  by_cases same : key = entry.1
  · rw [if_pos same, beq_iff_eq.mpr same]
  · rw [if_neg same, beq_eq_false_iff_ne.mpr same]

theorem mem_of_lookup {pairs : List (String × α)} {key : String} {value : α}
    (found : pairs.lookup key = some value) : (key, value) ∈ pairs := by
  obtain ⟨before, after, rfl, -⟩ := List.lookup_eq_some_iff.mp found
  simp

theorem lookup_of_mem {pairs : List (String × α)}
    (ordered : pairs.Pairwise fun first second => first.1 < second.1) {pair : String × α}
    (member : pair ∈ pairs) : pairs.lookup pair.1 = some pair.2 := by
  induction pairs with
  | nil => cases member
  | cons entry rest ih =>
      obtain ⟨above, later⟩ := List.pairwise_cons.mp ordered
      rw [lookup_cons]
      rcases List.mem_cons.mp member with rfl | known
      · rw [if_pos rfl]
      · rw [if_neg (ne_of_gt (above pair known))]
        exact ih later known

/-- The pairs of a map are those that are found under their keys. -/
theorem mem_iff {map : Keyed α} {key : String} {value : α} :
    (key, value) ∈ map ↔ map.get? key = some value :=
  ⟨lookup_of_mem map.ordered, mem_of_lookup⟩

theorem mem_filter {map : Keyed α} {keeps : String × α → Bool} {pair : String × α} :
    pair ∈ map.filter keeps ↔ pair ∈ map ∧ keeps pair = true :=
  List.mem_filter

/-! ## The map of a list of pairs -/

theorem ofList_concat (pairs : List (String × α)) (pair : String × α) :
    ofList (pairs ++ [pair]) = (ofList pairs).insert pair.1 pair.2 := by
  rw [ofList, List.foldl_append]
  rfl

/-- A key above all others goes to the end. -/
theorem insertPair_of_forall_lt {key : String} (value : α) {pairs : List (String × α)}
    (above : ∀ entry ∈ pairs, entry.1 < key) :
    insertPair key value pairs = pairs ++ [(key, value)] := by
  induction pairs with
  | nil => rfl
  | cons entry rest ih =>
      have first : entry.1 < key := above entry List.mem_cons_self
      rw [insertPair, if_neg (lt_asymm first), if_neg (ne_of_gt first),
        ih fun other member => above other (List.mem_cons_of_mem _ member)]
      rfl

/-- A map is the map of its pairs. -/
theorem ofList_pairs (map : Keyed α) : ofList map.pairs = map := by
  obtain ⟨pairs, ordered⟩ := map
  apply Keyed.ext
  induction pairs using List.reverseRecOn with
  | nil => rfl
  | append_singleton pairs pair ih =>
      obtain ⟨before, -, last⟩ := List.pairwise_append.mp ordered
      have known : (ofList pairs).pairs = pairs := ih before
      rw [ofList_concat, pairs_insert, known]
      apply insertPair_of_forall_lt
      intro entry member
      exact last entry member pair List.mem_cons_self

end Keyed

namespace Record

/-- A label is what the record holds under its key. -/
theorem resolve?_of_mem {record : Record} {label : String × String}
    (member : label ∈ record.labels) : record.resolve? label.1 = some label.2 := by
  rw [resolve?, Keyed.mem_iff.mp member]

/-- Under the name of the message a record holds some text. -/
theorem exists_resolve?_messageField (record : Record) :
    ∃ text, record.resolve? messageField = some text := by
  rw [resolve?]
  split
  · next value found => exact ⟨value, rfl⟩
  · split
    · next value found => exact ⟨value, rfl⟩
    · rw [if_pos rfl]
      exact ⟨record.message, rfl⟩

end Record

end LogSieve
