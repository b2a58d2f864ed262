import Mathlib.Data.List.Nodup

/-!
# Entries under keys

Counters, buckets and summaries are lists of entries with keys.  What comes in under a key changes
the first entry with that key; if there is none, a new entry is put at the end.  So a list keeps one
entry a key, and the entries of other keys stay as they are.
-/

namespace LogSieve

variable {α κ : Type} [DecidableEq κ]

/-- Changes the first entry with a key, or adds a new one at the end. -/
def upsert (keyOf : α → κ) (key : κ) (change : α → α) (new : α) : List α → List α
  | [] => [new]
  | entry :: rest =>
      if keyOf entry = key then change entry :: rest
      else entry :: upsert keyOf key change new rest

section Keys

variable {keyOf : α → κ} {key : κ} {change : α → α} {new : α} {entries : List α}

theorem mem_keys_upsert (kept : ∀ entry, keyOf entry = key → keyOf (change entry) = key)
    (fresh : keyOf new = key) {other : κ} :
    other ∈ (upsert keyOf key change new entries).map keyOf ↔
      other = key ∨ other ∈ entries.map keyOf := by
  induction entries with
  | nil => simp [upsert, fresh]
  | cons entry rest ih =>
      rw [upsert]
      split
      · next same => simp [kept entry same, same]
      · rw [List.map_cons, List.mem_cons, ih, List.map_cons, List.mem_cons]
        exact or_left_comm

theorem nodup_keys_upsert (kept : ∀ entry, keyOf entry = key → keyOf (change entry) = key)
    (fresh : keyOf new = key) (distinct : (entries.map keyOf).Nodup) :
    ((upsert keyOf key change new entries).map keyOf).Nodup := by
  induction entries with
  | nil => simp [upsert]
  | cons entry rest ih =>
      rw [List.map_cons, List.nodup_cons] at distinct
      rw [upsert]
      split
      · next same =>
          rw [List.map_cons, kept entry same, ← same]
          exact List.nodup_cons.mpr distinct
      · next differ =>
          rw [List.map_cons, List.nodup_cons, mem_keys_upsert kept fresh]
          exact ⟨not_or.mpr ⟨differ, distinct.1⟩, ih distinct.2⟩

/-- An entry afterwards is an entry of another key, the changed one, or the new one. -/
theorem mem_upsert (distinct : (entries.map keyOf).Nodup) {entry : α}
    (member : entry ∈ upsert keyOf key change new entries) :
    (entry ∈ entries ∧ keyOf entry ≠ key) ∨
      (∃ old ∈ entries, keyOf old = key ∧ entry = change old) ∨
      (key ∉ entries.map keyOf ∧ entry = new) := by
  induction entries with
  | nil => exact .inr (.inr ⟨List.not_mem_nil, List.mem_singleton.mp member⟩)
  | cons first rest ih =>
      rw [List.map_cons, List.nodup_cons] at distinct
      rw [upsert] at member
      split at member
      · next same =>
          cases List.mem_cons.mp member with
          | inl changed => exact .inr (.inl ⟨first, List.mem_cons_self, same, changed⟩)
          | inr behind =>
              refine .inl ⟨List.mem_cons_of_mem _ behind, ?_⟩
              intro again
              apply distinct.1
              rw [same, ← again]
              exact List.mem_map_of_mem behind
      · next differ =>
          cases List.mem_cons.mp member with
          | inl unchanged =>
              rw [unchanged]
              exact .inl ⟨List.mem_cons_self, differ⟩
          | inr behind =>
              rcases ih distinct.2 behind with
                ⟨untouched, other⟩ | ⟨old, known, same, changed⟩ | ⟨missing, isNew⟩
              · exact .inl ⟨List.mem_cons_of_mem _ untouched, other⟩
              · exact .inr (.inl ⟨old, List.mem_cons_of_mem _ known, same, changed⟩)
              · refine .inr (.inr ⟨?_, isNew⟩)
                rw [List.map_cons, List.mem_cons, not_or]
                exact ⟨Ne.symm differ, missing⟩

end Keys

/-- What is found under a key afterwards. -/
theorem lookup_upsert [BEq κ] [LawfulBEq κ] {β : Type} (key other : κ) (change : β → β) (new : β)
    (entries : List (κ × β)) :
    (upsert Prod.fst key (Prod.map id change) (key, new) entries).lookup other =
      if other = key then some (((entries.lookup key).map change).getD new)
      else entries.lookup other := by
  induction entries with
  | nil =>
      by_cases same : other = key
      · simp [upsert, same]
      · simp [upsert, List.lookup_cons, beq_false_of_ne same, same]
  | cons entry rest ih =>
      rcases entry with ⟨first, value⟩
      by_cases found : first = key
      · subst found
        by_cases same : other = first
        · simp [upsert, same]
        · simp [upsert, List.lookup_cons, beq_false_of_ne same, same]
      · simp only [upsert, if_neg found, List.lookup_cons, ih]
        by_cases same : other = key
        · subst same
          simp [beq_false_of_ne (Ne.symm found)]
        · simp only [if_neg same]

end LogSieve
