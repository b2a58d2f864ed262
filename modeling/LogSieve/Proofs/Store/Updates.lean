import Mathlib.Data.List.Nodup
import LogSieve.Proofs.Store.Changes

/-!
# Updates that overwrite nothing

Whoever changes a rule hands in the id and the version that were read with it.  The
pair stands for one edition of one rule as long as ids are not given out twice and
versions grow.  Both hold below the largest word, and ids below the next one are not
given out again; so an update is accepted only in the place of the edition that was
read.  The next id is not fixed until a rule is added, and until then the largest id
becomes free when its rule goes.
-/

namespace LogSieve

open LogSieve.Store

/-! ## Words that are raised -/

/-- Whether a number is below the largest word. -/
def HasNext (number : UInt64) : Prop := number.toNat + 1 < UInt64.size

instance (number : UInt64) : Decidable (HasNext number) :=
  inferInstanceAs (Decidable (number.toNat + 1 < UInt64.size))

theorem toNat_raised (number : UInt64) :
    (raised number).toNat = min (number.toNat + 1) (UInt64.size - 1) := by
  have size : UInt64.size = 2 ^ 64 := rfl
  rw [raised, UInt64.toNat_ofNat']
  omega

theorem le_raised (number : UInt64) : number ≤ raised number := by
  have bound := number.toNat_lt_size
  rw [UInt64.le_iff_toNat_le, toNat_raised]
  omega

theorem HasNext.lt_raised {number : UInt64} (next : HasNext number) : number < raised number := by
  rw [HasNext] at next
  rw [UInt64.lt_iff_toNat_lt, toNat_raised]
  omega

/-- What is not below a number with a successor is above it once raised. -/
theorem HasNext.lt_raised_of_le {number other : UInt64} (next : HasNext number)
    (le : number ≤ other) : number < raised other := by
  rw [HasNext] at next
  rw [UInt64.le_iff_toNat_le] at le
  rw [UInt64.lt_iff_toNat_lt, toNat_raised]
  omega

/-! ## The rules with an id -/

namespace Store.Contents

/-- The ids of the rules in order. -/
def ids (contents : Contents) : List UInt64 := contents.rules.map (·.id)

/-- The rules with an id. -/
def under (contents : Contents) (id : UInt64) : List Rule := contents.rules.filter (·.id == id)

theorem get?_eq_head?_under (contents : Contents) (id : UInt64) :
    contents.get? id = (contents.under id).head? := by
  rw [get?, under, List.head?_filter]

theorem get?_of_under_eq {contents : Contents} {rule : Rule}
    (alone : contents.under rule.id = [rule]) : contents.get? rule.id = some rule := by
  rw [get?_eq_head?_under, alone, List.head?_cons]

theorem length_under (contents : Contents) (id : UInt64) :
    (contents.under id).length = contents.ids.count id := by
  rw [under, ids, ← List.countP_eq_length_filter, List.count_eq_countP, List.countP_map]
  rfl

/-- A rule whose id stands once is the only one with it. -/
theorem under_eq_singleton {contents : Contents} {rule : Rule} (stands : rule ∈ contents.rules)
    (once : contents.ids.count rule.id ≤ 1) : contents.under rule.id = [rule] := by
  have member : rule ∈ contents.under rule.id := by simpa [under] using stands
  rw [← length_under] at once
  match shape : contents.under rule.id with
  | [] => simp [shape] at member
  | [only] =>
      rw [shape, List.mem_singleton] at member
      rw [member]
  | first :: second :: rest => simp [shape] at once

end Store.Contents

namespace Change

theorem filter_substitute_of_ne {rule : Rule} {id : UInt64} (other : rule.id ≠ id)
    (rules : List Rule) :
    (substitute rule rules).filter (·.id == id) = rules.filter (·.id == id) := by
  induction rules with
  | nil => rfl
  | cons old rest ih =>
      rw [substitute]
      split
      · next same => simp [same, other]
      · simp only [List.filter_cons, ih]

theorem filter_substitute_self {rule current : Rule} {rules rest : List Rule}
    (shape : rules.filter (·.id == rule.id) = current :: rest) :
    (substitute rule rules).filter (·.id == rule.id) = rule :: rest := by
  induction rules with
  | nil => cases shape
  | cons old others ih =>
      rw [substitute]
      by_cases same : old.id = rule.id
      · rw [List.filter_cons_of_pos (by simpa using same), List.cons.injEq] at shape
        rw [if_pos same, List.filter_cons_of_pos (by simp), shape.2]
      · rw [List.filter_cons_of_neg (by simpa using same)] at shape
        rw [if_neg same, List.filter_cons_of_neg (by simpa using same), ih shape]

theorem filter_eraseP_of_ne {id removed : UInt64} (other : removed ≠ id) (rules : List Rule) :
    (rules.eraseP (·.id == removed)).filter (·.id == id) = rules.filter (·.id == id) := by
  induction rules with
  | nil => rfl
  | cons old rest ih =>
      by_cases same : old.id = removed
      · simp [same, other]
      · rw [List.eraseP_cons_of_neg (by simpa using same), List.filter_cons, List.filter_cons, ih]

theorem filter_eraseP_self (id : UInt64) (rules : List Rule) :
    (rules.eraseP (·.id == id)).filter (·.id == id) = (rules.filter (·.id == id)).tail := by
  induction rules with
  | nil => rfl
  | cons old rest ih =>
      by_cases same : old.id = id
      · simp [same]
      · rw [List.eraseP_cons_of_neg (by simpa using same),
          List.filter_cons_of_neg (by simpa using same),
          List.filter_cons_of_neg (by simpa using same), ih]

/-- The rules with an id do not change where a change is about another one. -/
theorem under_apply_of_ne {change : Change} {id : UInt64} (other : change.id ≠ id)
    (contents : Contents) : (change.apply contents).under id = contents.under id := by
  cases change with
  | append rule =>
      have gone : [rule].filter (·.id == id) = [] := by simpa [Change.id] using other
      rw [Contents.under, apply, onRules, List.filter_append, gone, List.append_nil,
        Contents.under]
  | replace rule =>
      have apart : { rule with version := raised rule.version }.id ≠ id := other
      exact filter_substitute_of_ne apart contents.rules
  | remove removed => exact filter_eraseP_of_ne other contents.rules

/-- A rule takes the place of the first one with its id. -/
theorem under_replace {contents : Contents} {rule current : Rule} {rest : List Rule}
    (shape : contents.under rule.id = current :: rest) :
    ((Change.replace rule).apply contents).under rule.id =
      { rule with version := raised rule.version } :: rest := by
  have shaped : contents.rules.filter
      (·.id == { rule with version := raised rule.version }.id) = current :: rest := shape
  exact filter_substitute_self shaped

/-- The first rule with an id goes. -/
theorem under_remove (contents : Contents) (id : UInt64) :
    ((Change.remove id).apply contents).under id = (contents.under id).tail :=
  filter_eraseP_self id contents.rules

theorem map_id_substitute (rule : Rule) (rules : List Rule) :
    (substitute rule rules).map (·.id) = rules.map (·.id) := by
  induction rules with
  | nil => rfl
  | cons old rest ih =>
      rw [substitute]
      split
      · next same => rw [List.map_cons, List.map_cons, same]
      · rw [List.map_cons, List.map_cons, ih]

theorem ids_append (contents : Contents) (rule : Rule) :
    ((Change.append rule).apply contents).ids = contents.ids ++ [rule.id] := by
  rw [Contents.ids, apply, onRules, List.map_append]
  rfl

/-- Replacing keeps the ids. -/
theorem ids_replace (contents : Contents) (rule : Rule) :
    ((Change.replace rule).apply contents).ids = contents.ids :=
  map_id_substitute { rule with version := raised rule.version } contents.rules

/-- Removing leaves a part of the ids. -/
theorem ids_remove_sublist (contents : Contents) (id : UInt64) :
    ((Change.remove id).apply contents).ids.Sublist contents.ids :=
  List.eraseP_sublist.map _

end Change

/-! ## Fresh ids -/

theorem le_max_words (first second : UInt64) :
    first ≤ max first second ∧ second ≤ max first second := by
  have larger : max first second = if first ≤ second then second else first := rfl
  rw [larger]
  split
  · next le => exact ⟨le, UInt64.le_refl second⟩
  · next above => exact ⟨UInt64.le_refl first, (UInt64.le_total first second).resolve_left above⟩

/-- No id is above the largest one. -/
theorem Ruleset.le_maxId_of_mem {ruleset : Ruleset} {rule : Rule} (stands : rule ∈ ruleset.rules) :
    rule.id ≤ ruleset.maxId := by
  have bounds (rules : List Rule) (most : UInt64) :
      most ≤ rules.foldl (fun most rule => max most rule.id) most ∧
        ∀ rule ∈ rules, rule.id ≤ rules.foldl (fun most rule => max most rule.id) most := by
    induction rules generalizing most with
    | nil => exact ⟨UInt64.le_refl most, fun _ member => absurd member List.not_mem_nil⟩
    | cons first rest ih =>
        have later := ih (max most first.id)
        have larger := le_max_words most first.id
        rw [List.foldl_cons, List.forall_mem_cons]
        exact ⟨UInt64.le_trans larger.1 later.1, UInt64.le_trans larger.2 later.1, later.2⟩
  exact (bounds ruleset.rules 0).2 rule stands

namespace Session

variable {σ : Type}

theorem le_maxId_of_mem_ids {session : Session σ} {id : UInt64}
    (stands : id ∈ session.contents.ids) : id ≤ session.store.ruleset.maxId := by
  rw [Contents.ids, contents, List.map_map, List.mem_map] at stands
  obtain ⟨rule, member, rfl⟩ := stands
  have bound := Ruleset.le_maxId_of_mem member
  exact bound

/-- An id was passed: if the next one is fixed, it is larger. -/
def Passed (id : UInt64) (session : Session σ) : Prop :=
  ∀ next, session.store.nextId = some next → id < next

/-- An id that was passed is not given out, if the next id is fixed or a rule holds
its place. -/
theorem Passed.lt_freshId {id : UInt64} {session : Session σ} (passed : Passed id session)
    (next : HasNext id)
    (held : session.store.nextId = none → id ≤ session.store.ruleset.maxId) :
    id < freshId session.store := by
  rw [freshId]
  cases fixed : session.store.nextId with
  | some later => exact passed later fixed
  | none =>
      rw [Option.getD_none, saturatingNext_eq_raised]
      exact next.lt_raised_of_le (held fixed)

section Effects

variable {before after : Session σ} {change : Option Change}

/-- An id stays passed where only larger ones are given out. -/
theorem Passed.of_effect {id : UInt64} (passed : Passed id before)
    (effect : Effect before after change)
    (ahead : ∀ rule, change = some (.append rule) → id < rule.id) : Passed id after := by
  intro next fixed
  cases effect with
  | still contents nextId => exact passed next (nextId ▸ fixed)
  | appended rule fresh contents nextId =>
      rw [nextId, saturatingNext_eq_raised, Option.some.injEq] at fixed
      rw [← fixed]
      exact UInt64.lt_of_lt_of_le (ahead rule rfl) (le_raised rule.id)
  | replaced rule current found made contents nextId => exact passed next (nextId ▸ fixed)
  | removed removed current found contents nextId => exact passed next (nextId ▸ fixed)

/-- Below the largest word every id stands once, and was passed. -/
structure Orderly (session : Session σ) : Prop where
  once : ∀ id, HasNext id → session.contents.ids.count id ≤ 1
  passed : ∀ id ∈ session.contents.ids, HasNext id → Passed id session

theorem Orderly.lt_freshId {session : Session σ} (orderly : Orderly session) {id : UInt64}
    (stands : id ∈ session.contents.ids) (next : HasNext id) : id < freshId session.store :=
  (orderly.passed id stands next).lt_freshId next fun _ => le_maxId_of_mem_ids stands

/-- A part of the ids stays orderly while the next id stays. -/
theorem Orderly.of_sublist (orderly : Orderly before)
    (ids : after.contents.ids.Sublist before.contents.ids)
    (nextId : after.store.nextId = before.store.nextId) : Orderly after where
  once id next := Nat.le_trans (ids.count_le id) (orderly.once id next)
  passed id stands next later fixed :=
    orderly.passed id (ids.mem stands) next later (nextId ▸ fixed)

theorem Orderly.of_effect (orderly : Orderly before) (effect : Effect before after change) :
    Orderly after := by
  cases effect with
  | still contents nextId => exact orderly.of_sublist (by rw [contents]) nextId
  | replaced rule current found made contents nextId =>
      exact orderly.of_sublist (by rw [contents, Change.ids_replace]) nextId
  | removed id current found contents nextId =>
      apply orderly.of_sublist _ nextId
      rw [contents]
      exact Change.ids_remove_sublist _ id
  | appended rule fresh contents nextId =>
      have ids : after.contents.ids = before.contents.ids ++ [rule.id] := by
        rw [contents, Change.ids_append]
      have ahead : ∀ id ∈ before.contents.ids, HasNext id → id < rule.id := by
        intro id stands next
        rw [fresh]
        exact orderly.lt_freshId stands next
      constructor
      · intro id next
        rw [ids, List.count_append, List.count_singleton]
        split
        · next same =>
            rw [beq_iff_eq] at same
            -- The new id is above every other one below the largest word.
            have absent : rule.id ∉ before.contents.ids := fun stands =>
              UInt64.lt_irrefl _ (ahead rule.id stands (same ▸ next))
            rw [← same, List.count_eq_zero_of_not_mem absent]
        · exact orderly.once id next
      · intro id stands next later fixed
        rw [nextId, saturatingNext_eq_raised, Option.some.injEq] at fixed
        rw [ids, List.mem_append, List.mem_singleton] at stands
        rw [← fixed]
        cases stands with
        | inl known => exact UInt64.lt_of_lt_of_le (ahead id known next) (le_raised rule.id)
        | inr same => exact same ▸ next.lt_raised

/-! ## Editions of a rule -/

/-- The rules with the id of a rule that was read are later editions. -/
def Outdated (read : Rule) (contents : Contents) : Prop :=
  ∀ rule ∈ contents.under read.id, read.version < rule.version

/-- The rules with an id stay where no change is about it. -/
theorem under_of_effect {id : UInt64} (effect : Effect before after change)
    (other : ∀ made ∈ change.toList, made.id ≠ id) :
    after.contents.under id = before.contents.under id := by
  rw [effect.contents_eq]
  cases change with
  | none => rfl
  | some made => exact Change.under_apply_of_ne (other made (List.mem_singleton_self made)) _

/-- What is outdated stays so, where its id is not given out again. -/
theorem Outdated.of_effect {read : Rule} (outdated : Outdated read before.contents)
    (effect : Effect before after change)
    (ahead : ∀ rule, change = some (.append rule) → read.id < rule.id) :
    Outdated read after.contents := by
  by_cases other : ∀ made ∈ change.toList, made.id ≠ read.id
  · rw [Outdated, under_of_effect effect other]
    exact outdated
  · cases effect with
    | still contents nextId => exact contents ▸ outdated
    | appended rule fresh contents nextId =>
        have same : rule.id = read.id := by simpa [Change.id] using other
        exact absurd same.symm (UInt64.ne_of_lt (ahead rule rfl))
    | replaced rule current found made contents nextId =>
        have same : rule.id = read.id := by simpa [Change.id] using other
        rw [Contents.get?_eq_head?_under, List.head?_eq_some_iff] at found
        obtain ⟨rest, shape⟩ := found
        rw [Outdated, ← same, shape, List.forall_mem_cons, made] at outdated
        rw [Outdated, contents, ← same, Change.under_replace shape, List.forall_mem_cons]
        exact ⟨UInt64.lt_of_lt_of_le outdated.1 (le_raised rule.version), outdated.2⟩
    | removed id current found contents nextId =>
        have same : id = read.id := by simpa [Change.id] using other
        rw [Outdated, contents, same, Change.under_remove]
        intro rule member
        exact outdated rule (List.mem_of_mem_tail member)

/-- A rule that stands alone under its id is outdated by every change that is about
it. -/
theorem outdated_of_effect {read : Rule} {made : Change}
    (alone : before.contents.under read.id = [read]) (next : HasNext read.version)
    (effect : Effect before after (some made)) (about : made.id = read.id)
    (ahead : ∀ rule, some made = some (.append rule) → read.id < rule.id) :
    Outdated read after.contents := by
  cases effect with
  | appended rule fresh contents nextId =>
      exact absurd about (UInt64.ne_of_lt (ahead rule rfl)).symm
  | replaced rule current found made contents nextId =>
      have same : rule.id = read.id := about
      rw [same, Contents.get?_eq_head?_under, alone, List.head?_cons, Option.some.injEq] at found
      rw [← same] at alone
      rw [Outdated, contents, ← same, Change.under_replace alone, List.forall_mem_singleton,
        ← made, ← found]
      exact next.lt_raised
  | removed id current found contents nextId =>
      have same : id = read.id := about
      rw [Outdated, contents, same, Change.under_remove, alone]
      exact fun _ member => absurd member List.not_mem_nil

end Effects

/-! ## Runs -/

theorem Begins.nextId_eq {contents : Contents} {session : Session σ}
    (begins : Begins contents session) : session.store.nextId = none := by
  obtain ⟨read, before, loaded, -⟩ | ⟨-, -, unset⟩ := begins.loaded_or_new
  · rw [loaded.installed.store]
  · exact unset

/-- Rules with distinct ids are orderly as long as no id was given out. -/
theorem Begins.orderly {contents : Contents} {session : Session σ}
    (begins : Begins contents session) (distinct : contents.ids.Nodup) : Orderly session where
  once id _ := by
    rw [begins.contents_eq]
    exact List.nodup_iff_count_le_one.mp distinct id
  passed id stands next later fixed := by
    rw [begins.nextId_eq] at fixed
    cases fixed

/-- An update is accepted in the place of a rule of the same version. -/
theorem exists_current_of_updated {session : Session σ} {given : Rule} {id version : UInt64}
    (updated : ((addOrUpdate given).run session).1 = .ok (.updated id version)) :
    ∃ current, session.contents.get? given.id = some current ∧
      current.version = given.version := by
  obtain ⟨after, ran, -⟩ | ⟨position, current, after, ran, -, found, made, -⟩ |
    ⟨current, after, ran, -⟩ | ⟨path, reason, after, ran, -⟩ := addOrUpdate_cases given session
  · rw [ran] at updated
    cases updated
  · refine ⟨current.forget, ?_, made⟩
    rw [get?_contents, found, Option.map_some]
  · rw [ran] at updated
    cases updated
  · rw [ran] at updated
    cases updated

/-- A rule of the version that stands updates it, unless writing fails. -/
theorem updated_or_error_of_get? {session : Session σ} {given current : Rule}
    (found : session.contents.get? given.id = some current)
    (made : current.version = given.version) :
    ((addOrUpdate given).run session).1 = .ok (.updated given.id (raised given.version)) ∨
      ∃ path reason, ((addOrUpdate given).run session).1 =
        .error (.persistence path reason) := by
  have expected : session.expectedChange given = .updated given.id (raised given.version) := by
    rw [expectedChange, found]
    exact if_pos made
  rw [← expected]
  exact (addOrUpdate_eq_expectedChange session given).imp_right And.left

variable [LogSource σ]

theorem unloaded_append (session : Session σ) (earlier later : List Call) :
    session.unloaded (earlier ++ later) =
      (session.unloaded earlier && (session.afterCalls earlier).unloaded later) := by
  induction earlier generalizing session with
  | nil => rfl
  | cons call rest ih =>
      rw [List.cons_append, unloaded, unloaded, ih, Bool.and_assoc]
      rfl

theorem Orderly.afterCalls {session : Session σ} (orderly : Orderly session) {calls : List Call}
    (kept : session.unloaded calls = true) : Orderly (session.afterCalls calls) := by
  induction calls generalizing session with
  | nil => exact orderly
  | cons call rest ih =>
      rw [unloaded_cons] at kept
      exact ih (orderly.of_effect (call.effect session kept.1)) kept.2

/-- Whether a call that adds a rule does so while the next id is fixed, or while a
rule with an id at least as large stands. -/
def Call.spares (id : UInt64) (session : Session σ) (call : Call) : Bool :=
  match call.change? session with
  | some (.append _) =>
      session.store.nextId.isSome || decide (id ≤ session.store.ruleset.maxId)
  | _ => true

/-- Whether all calls of a run spare an id. -/
def spares (id : UInt64) (session : Session σ) : List Call → Bool
  | [] => true
  | call :: rest => call.spares id session && (call.after session).spares id rest

/-- An id that is spared is not given out again. -/
theorem Passed.lt_of_spares {id : UInt64} {session : Session σ} (passed : Passed id session)
    (next : HasNext id) {call : Call} (kept : call.reloads session = false)
    (spared : call.spares id session = true) {rule : Rule}
    (adds : call.change? session = some (.append rule)) : id < rule.id := by
  have effect := call.effect session kept
  rw [adds] at effect
  rw [Call.spares, adds] at spared
  cases effect with
  | appended _ fresh contents nextId =>
      rw [fresh]
      apply passed.lt_freshId next
      intro free
      rw [free] at spared
      simpa using spared

/-- What is outdated stays so in a run that spares its id. -/
theorem Outdated.afterCalls {read : Rule} {session : Session σ} {calls : List Call}
    (outdated : Outdated read session.contents) (passed : Passed read.id session)
    (next : HasNext read.id) (kept : session.unloaded calls = true)
    (spared : session.spares read.id calls = true) :
    Outdated read (session.afterCalls calls).contents := by
  induction calls generalizing session with
  | nil => exact outdated
  | cons call rest ih =>
      rw [unloaded_cons] at kept
      rw [spares, Bool.and_eq_true] at spared
      have effect := call.effect session kept.1
      have ahead rule (adds : call.change? session = some (.append rule)) : read.id < rule.id :=
        passed.lt_of_spares next kept.1 spared.1 adds
      exact ih (outdated.of_effect effect ahead) (passed.of_effect effect ahead) kept.2 spared.2

/-- Whether no change of a run is about an id. -/
def Untouched (id : UInt64) (session : Session σ) (calls : List Call) : Prop :=
  ∀ change ∈ session.changes calls, change.id ≠ id

/-- A rule that stands alone under its id either is not touched in a run, and stands
alone to its end, or is outdated there. -/
theorem untouched_or_outdated {read : Rule} {session : Session σ} {calls : List Call}
    (alone : session.contents.under read.id = [read]) (passed : Passed read.id session)
    (nextId : HasNext read.id) (nextVersion : HasNext read.version)
    (kept : session.unloaded calls = true) (spared : session.spares read.id calls = true) :
    (Untouched read.id session calls ∧
        (session.afterCalls calls).contents.under read.id = [read]) ∨
      (¬ Untouched read.id session calls ∧
        Outdated read (session.afterCalls calls).contents) := by
  induction calls generalizing session with
  | nil => exact .inl ⟨fun _ member => absurd member List.not_mem_nil, alone⟩
  | cons call rest ih =>
      rw [unloaded_cons] at kept
      rw [spares, Bool.and_eq_true] at spared
      have effect := call.effect session kept.1
      have ahead rule (adds : call.change? session = some (.append rule)) : read.id < rule.id :=
        passed.lt_of_spares nextId kept.1 spared.1 adds
      have later := passed.of_effect effect ahead
      rw [Untouched, changes, List.forall_mem_append]
      by_cases other : ∀ change ∈ (call.change? session).toList, change.id ≠ read.id
      · have stands := (under_of_effect effect other).trans alone
        cases ih stands later kept.2 spared.2 with
        | inl untouched => exact .inl ⟨⟨other, untouched.1⟩, untouched.2⟩
        | inr outdated => exact .inr ⟨fun both => outdated.1 both.2, outdated.2⟩
      · right
        refine ⟨fun both => other both.1, ?_⟩
        cases made : call.change? session with
        | none => simp [made] at other
        | some change =>
            rw [made] at effect ahead
            have about : change.id = read.id := by simpa [made] using other
            have outdated := outdated_of_effect alone nextVersion effect about ahead
            exact outdated.afterCalls later nextId kept.2 spared.2

/-- No update is lost.  A rule was read whose id and version are below the largest
word, and since then rules were added only while the next id was fixed or a rule with
its id or a larger one stood.  A rule that is handed in under its id and version is
accepted as an update only if the rule that was read stands there untouched: nobody
updated it, and it was not removed and its id given to another rule.  If it stands
there, only a failure to write keeps the update out. -/
theorem untouched_of_updated {contents : Contents} {start : Session σ}
    (begins : Begins contents start) (distinct : contents.ids.Nodup) (earlier later : List Call)
    (kept : start.unloaded (earlier ++ later) = true) {read : Rule}
    (seen : read ∈ (start.afterCalls earlier).store.ruleset.rules)
    (nextId : HasNext read.id) (nextVersion : HasNext read.version)
    (spared : (start.afterCalls earlier).spares read.id later = true) {given : Rule}
    (sameId : given.id = read.id) (sameVersion : given.version = read.version) :
    (∀ id version,
      ((addOrUpdate given).run (start.afterCalls (earlier ++ later))).1 =
          .ok (.updated id version) →
        (start.afterCalls (earlier ++ later)).contents.get? read.id = some read.forget ∧
          Untouched read.id (start.afterCalls earlier) later) ∧
      (Untouched read.id (start.afterCalls earlier) later →
        ((addOrUpdate given).run (start.afterCalls (earlier ++ later))).1 =
            .ok (.updated read.id (raised read.version)) ∨
          ∃ path reason, ((addOrUpdate given).run (start.afterCalls (earlier ++ later))).1 =
            .error (.persistence path reason)) := by
  rw [unloaded_append, Bool.and_eq_true] at kept
  have orderly := (begins.orderly distinct).afterCalls kept.1
  have reached : start.afterCalls (earlier ++ later) =
      (start.afterCalls earlier).afterCalls later := List.foldl_append
  have stands : read.forget ∈ (start.afterCalls earlier).contents.rules := List.mem_map_of_mem seen
  have alone := Contents.under_eq_singleton stands (orderly.once read.id nextId)
  have listed : read.forget.id ∈ (start.afterCalls earlier).contents.ids :=
    List.mem_map_of_mem stands
  have passed := orderly.passed read.forget.id listed nextId
  have course := untouched_or_outdated alone passed nextId nextVersion kept.2 spared
  rw [reached]
  constructor
  · intro id version updated
    obtain ⟨current, found, made⟩ := exists_current_of_updated updated
    rw [sameId] at found
    cases course with
    | inl untouched =>
        exact ⟨Contents.get?_of_under_eq untouched.2, untouched.1⟩
    | inr outdated =>
        rw [Contents.get?_eq_head?_under] at found
        have newer := outdated.2 current (List.mem_of_head? found)
        rw [made, sameVersion] at newer
        exact absurd newer (UInt64.lt_irrefl _)
  · intro untouched
    cases course with
    | inl untouched =>
        have found : ((start.afterCalls earlier).afterCalls later).contents.get? given.id =
            some read.forget := by
          rw [sameId]
          exact Contents.get?_of_under_eq untouched.2
        rw [← sameId, ← sameVersion]
        exact updated_or_error_of_get? found sameVersion.symm
    | inr outdated => exact absurd untouched outdated.1

/-- A new store whose file stands already. -/
def storeOf (file : String) : Session Script :=
  create "rules.json" [] 0 none
    { disk := { files := { nodes := [(["rules.json"], .file file.toUTF8)] } } }

/-- The store once it is opened. -/
def openedOf (file : String) : Session Script := (loadIfThere.run (storeOf file)).2

/-- A file with the rules 1 and 2. -/
def pairFile : String := "[[[[1],[2]]]]"

/-- Rule 1 is updated, rule 3 goes and another one comes. -/
def neighbourCalls : List Call :=
  [.addOrUpdate { id := 1, ham := true }, .delete 3, .add {}]

/-- Rule 2 with another comment. -/
def editedRule : Rule := { id := 2, comment := "edited" }

/-- Rule 2 is read after rule 3 was added, and updated after its neighbours changed. -/
theorem untouched_of_updated_neighbours :
    Begins (storeOf pairFile).held (openedOf pairFile) ∧
      { id := 2 } ∈ ((openedOf pairFile).afterCalls [.add {}]).store.ruleset.rules ∧
      ((openedOf pairFile).afterCalls [.add {}]).spares 2 neighbourCalls = true ∧
      ((addOrUpdate editedRule).run
        ((openedOf pairFile).afterCalls ([.add {}] ++ neighbourCalls))).1 = .ok (.updated 2 1) ∧
      Untouched 2 ((openedOf pairFile).afterCalls [.add {}]) neighbourCalls := by
  have opens : (loadIfThere.run (storeOf pairFile)).1 = .ok () := by decide +kernel
  have begins : Begins (storeOf pairFile).held (openedOf pairFile) := .opened (Prod.ext opens rfl)
  have found : ((openedOf pairFile).afterCalls [.add {}]).store.ruleset.get? 2 =
      some { id := 2 } := rfl
  have seen := List.mem_of_find?_eq_some found
  have spared : ((openedOf pairFile).afterCalls [.add {}]).spares 2 neighbourCalls = true := by
    decide +kernel
  have updated : ((addOrUpdate editedRule).run
      ((openedOf pairFile).afterCalls ([.add {}] ++ neighbourCalls))).1 = .ok (.updated 2 1) := by
    decide +kernel
  have sameId : editedRule.id = ({ id := 2 } : Rule).id := rfl
  have law := untouched_of_updated begins (by decide +kernel) [.add {}] neighbourCalls
    (by decide +kernel) seen (by decide) (by decide) spared sameId rfl
  exact ⟨begins, seen, spared, updated, (law.1 2 1 updated).2⟩

/-! ## Where updates are lost -/

/-- Rules of a file were read, and after some calls an update of one of them is
accepted, though another rule, or a later edition, stands in its place. -/
def Overwrites (file : String) (calls : List Call) (given : Rule) : Prop :=
  (loadIfThere.run (storeOf file)).1 = .ok () ∧ (storeOf file).held.ids.Nodup ∧
    (openedOf file).unloaded calls = true ∧
    ((openedOf file).contents.get? given.id).map (·.version) = some given.version ∧
    ((addOrUpdate given).run ((openedOf file).afterCalls calls)).1 =
      .ok (.updated given.id (raised given.version)) ∧
    (((openedOf file).afterCalls calls).contents.get? given.id).map (·.comment) ≠
      ((openedOf file).contents.get? given.id).map (·.comment)

instance (file : String) (calls : List Call) (given : Rule) :
    Decidable (Overwrites file calls given) :=
  inferInstanceAs (Decidable (_ ∧ _))

/-- Updates are lost in three ways.  The largest id becomes free with its rule while
no rule was added; the largest word as an id is given out again and again; and as a
version it is not raised. -/
theorem overwrites_without_room :
    Overwrites pairFile [.delete 2, .add { comment := "other" }] { id := 2 } ∧
      Overwrites "[[[[18446744073709551615]]]]"
        [.add { comment := "other" }, .delete 18446744073709551615]
        { id := 18446744073709551615 } ∧
      Overwrites "[[[[1,false,false,[],\"\",18446744073709551615]]]]"
        [.addOrUpdate { id := 1, version := 18446744073709551615, comment := "first" }]
        { id := 1, version := 18446744073709551615 } := by
  refine ⟨?_, ?_, ?_⟩ <;> decide +kernel

end Session

end LogSieve
