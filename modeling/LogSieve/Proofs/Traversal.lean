import Mathlib.Data.List.Forall2

/-!
# Reading item by item

A list is read item by item, and the first item that cannot be read ends it.  So all items are
read, each on its own, or one of them cannot be read.
-/

namespace LogSieve.Traversal

variable {α β ε : Type}

theorem mapM_cons_eq_ok_iff {read : α → Except ε β} {item : α} {rest : List α}
    {images : List β} :
    (item :: rest).mapM read = .ok images ↔
      ∃ image others, read item = .ok image ∧ rest.mapM read = .ok others ∧
        images = image :: others := by
  rw [List.mapM_cons]
  cases read item with
  | error error => simp [bind, Except.bind]
  | ok image =>
      cases rest.mapM read with
      | error error => simp [bind, Except.bind]
      | ok others => simp [bind, Except.bind, pure, Except.pure, eq_comm]

theorem mapM_eq_ok_iff {read : α → Except ε β} {items : List α} {images : List β} :
    items.mapM read = .ok images ↔
      List.Forall₂ (fun item image => read item = .ok image) items images := by
  induction items generalizing images with
  | nil => simp [pure, Except.pure, eq_comm]
  | cons item rest ih => simp only [mapM_cons_eq_ok_iff, ih, List.forall₂_cons_left_iff]

theorem exists_of_mapM_eq_ok {read : α → Except ε β} {items : List α} {images : List β}
    (reads : items.mapM read = .ok images) {item : α} (member : item ∈ items) :
    ∃ image, read item = .ok image := by
  induction items generalizing images with
  | nil => cases member
  | cons first rest ih =>
      rcases mapM_cons_eq_ok_iff.mp reads with ⟨image, others, read, later, rfl⟩
      cases List.mem_cons.mp member with
      | inl same => exact ⟨image, same ▸ read⟩
      | inr behind => exact ih later behind

/-- A list that cannot be read has an item that cannot be read, and fails as that one does. -/
theorem exists_of_mapM_eq_error {read : α → Except ε β} {items : List α} {error : ε}
    (failed : items.mapM read = .error error) : ∃ item ∈ items, read item = .error error := by
  induction items with
  | nil => cases failed
  | cons item rest ih =>
      rw [List.mapM_cons] at failed
      cases first : read item with
      | error cause =>
          rw [first] at failed
          cases failed
          exact ⟨item, List.mem_cons_self, first⟩
      | ok image =>
          cases later : rest.mapM read with
          | ok others =>
              rw [first, later] at failed
              cases failed
          | error cause =>
              rw [first, later] at failed
              cases failed
              rcases ih later with ⟨other, member, reason⟩
              exact ⟨other, List.mem_cons_of_mem _ member, reason⟩

end LogSieve.Traversal
