import LogSieve.Proofs.Store.Persistence
import LogSieve.Store.Editing

/-!
# Changes of the rules

What adding, replacing and deleting rules comes to: a change that is written and
installed, or a session in which the rules are as they were.
-/

namespace LogSieve.Session

open LogSieve.Store LogSieve.Action

variable {σ : Type}

/-- The rules with a new one at their end, under its own id. -/
def withAdded (before : Session σ) (rule : Rule) : List Rule :=
  before.store.ruleset.rules ++ [{ rule with id := freshId before.store }]

/-- A rule was added. -/
def Added (rule : Rule) (before after : Session σ) : Prop :=
  Committed (before.withAdded rule) (some (saturatingNext (freshId before.store))) before after

theorem addAs_cases (action : String) (rule : Rule) (before : Session σ) :
    (∃ after, (addAs action rule).run before = (.ok (freshId before.store), after) ∧
      Added rule before after) ∨
    (∃ path reason after,
      (addAs action rule).run before = (.error (.persistence path reason), after) ∧
      Kept before after) := by
  simp only [addAs, run_bind, run_get]
  obtain ⟨after, ran, committed⟩ | ⟨path, reason, after, ran, kept⟩ :=
    commit_cases (before.withAdded rule) (some (saturatingNext (freshId before.store))) action
      before
  · left
    simp only [withAdded] at ran
    simp only [ran, run_note, run_pure]
    exact ⟨_, rfl, committed.trans_kept (.note _ _)⟩
  · right
    simp only [withAdded] at ran
    simp only [ran]
    exact ⟨path, reason, after, rfl, kept⟩

/-- The rule at the position of an id is the first rule with that id. -/
theorem get?_of_position?_eq_some {ruleset : Ruleset} {id : UInt64} {position : Nat}
    (found : ruleset.position? id = some position) :
    ∃ current, ruleset.rules[position]? = some current ∧ ruleset.get? id = some current := by
  have stands : ruleset.get? id = ruleset.rules[position]? := by
    rw [Ruleset.get?, List.find?_eq_bind_findIdx?_getElem?]
    rw [Ruleset.position?] at found
    rw [found, Option.bind_some]
  rw [Ruleset.position?, List.findIdx?_eq_some_iff_getElem] at found
  obtain ⟨inRange, -, -⟩ := found
  have present := List.getElem?_eq_getElem inRange
  exact ⟨_, present, stands.trans present⟩

/-- Without a position there is no rule with the id. -/
theorem get?_of_position?_eq_none {ruleset : Ruleset} {id : UInt64}
    (missing : ruleset.position? id = none) : ruleset.get? id = none := by
  rw [Ruleset.get?, List.find?_eq_bind_findIdx?_getElem?]
  rw [Ruleset.position?] at missing
  rw [missing, Option.bind_none]

/-- A rule is added, replaced by one that was made from it, or left alone. -/
theorem addOrUpdate_cases (rule : Rule) (before : Session σ) :
    (∃ after, (addOrUpdate rule).run before = (.ok (.added (freshId before.store)), after) ∧
      before.store.ruleset.get? rule.id = none ∧ Added rule before after) ∨
    (∃ position current after,
      (addOrUpdate rule).run before =
        (.ok (.updated rule.id (saturatingNext rule.version)), after) ∧
      before.store.ruleset.position? rule.id = some position ∧
      before.store.ruleset.get? rule.id = some current ∧ current.version = rule.version ∧
      Committed (before.store.ruleset.rules.set position
        { rule with version := saturatingNext rule.version }) before.store.nextId before after) ∨
    (∃ current after,
      (addOrUpdate rule).run before = (.ok (.stale rule.id current.version), after) ∧
      before.store.ruleset.get? rule.id = some current ∧ current.version ≠ rule.version ∧
      Kept before after) ∨
    (∃ path reason after,
      (addOrUpdate rule).run before = (.error (.persistence path reason), after) ∧
      (∀ current, before.store.ruleset.get? rule.id = some current →
        current.version = rule.version) ∧
      Kept before after) := by
  simp only [addOrUpdate, run_bind, run_get]
  cases found : before.store.ruleset.position? rule.id with
  | none =>
      have missing := get?_of_position?_eq_none found
      simp only [run_bind]
      obtain ⟨after, ran, added⟩ | ⟨path, reason, after, ran, kept⟩ := addAs_cases "add" rule before
      · simp only [ran, run_pure]
        exact .inl ⟨after, rfl, missing, added⟩
      · simp only [ran]
        refine .inr (.inr (.inr ⟨path, reason, after, rfl, ?_, kept⟩))
        intro current present
        rw [missing] at present
        cases present
  | some position =>
      obtain ⟨current, stands, first⟩ := get?_of_position?_eq_some found
      simp only [stands, Option.map_some, Option.getD_some]
      split
      · next outdated =>
          exact .inr (.inr (.inl ⟨current, _, rfl, first, outdated, .note _ _⟩))
      · next same =>
          rw [ne_eq, Decidable.not_not] at same
          simp only [run_bind]
          obtain ⟨after, ran, committed⟩ | ⟨path, reason, after, ran, kept⟩ :=
            commit_cases (before.store.ruleset.rules.set position
              { rule with version := saturatingNext rule.version }) none "update" before
          · simp only [ran, run_note, run_pure]
            exact .inr (.inl ⟨position, current, _, rfl, rfl, first, same,
              committed.trans_kept (.note _ _)⟩)
          · simp only [ran]
            refine .inr (.inr (.inr ⟨path, reason, after, rfl, ?_, kept⟩))
            intro other present
            cases first.symm.trans present
            exact same

/-- A rule is taken away, or nothing changes. -/
theorem delete_cases (id : UInt64) (before : Session σ) :
    (∃ position after, (delete id).run before = (.ok (), after) ∧
      before.store.ruleset.position? id = some position ∧
      Committed (before.store.ruleset.rules.eraseIdx position) before.store.nextId before after) ∨
    (∃ error after, (delete id).run before = (.error error, after) ∧ Kept before after) := by
  simp only [delete, run_bind, run_get]
  cases found : before.store.ruleset.position? id with
  | none => exact .inr ⟨_, _, rfl, .refl before⟩
  | some position =>
      simp only [run_bind]
      obtain ⟨after, ran, committed⟩ | ⟨path, reason, after, ran, kept⟩ :=
        commit_cases (before.store.ruleset.rules.eraseIdx position) none "delete" before
      · simp only [ran, run_note]
        exact .inl ⟨position, _, rfl, rfl, committed.trans_kept (.note _ _)⟩
      · simp only [ran]
        exact .inr ⟨_, after, rfl, kept⟩

/-- The rule made from a buffered record is added, or nothing changes. -/
theorem classify_cases (hash : UInt64) (ham : Bool) (before : Session σ) :
    (∃ record after, (classify hash ham).run before = (.ok (freshId before.store), after) ∧
      before.store.buffer.find? hash = some record ∧
      Added (ruleFor before.store.ignoredLabels record ham) before after) ∨
    (∃ error after, (classify hash ham).run before = (.error error, after) ∧
      Kept before after) := by
  simp only [classify, run_bind, run_get]
  cases found : before.store.buffer.find? hash with
  | none => exact .inr ⟨_, _, rfl, .refl before⟩
  | some record =>
      simp only [run_bind]
      obtain ⟨after, ran, added⟩ | ⟨path, reason, after, ran, kept⟩ :=
        addAs_cases "classify" (ruleFor before.store.ignoredLabels record ham) before
      · simp only [ran, run_note, run_pure]
        exact .inl ⟨record, _, rfl, rfl, Committed.trans_kept added (.note _ _)⟩
      · simp only [ran]
        exact .inr ⟨_, after, rfl, kept⟩

end LogSieve.Session
