import LogSieve.Proofs.Store.ExactHits
import LogSieve.Proofs.Store.Updates

/-!
# The ids of new rules

Ids are given out by counting.  The count begins above the largest id when a rule is first
added, and from then on every rule that is added gets the next number, whatever goes, is
replaced or fails in between.  At the largest word the count stands still.

So a new id is above all others as long as it is not the largest word.  Only where a rule
stands under the largest word already is the id of a new rule taken, and then the older rule
is the one that is found under it.
-/

namespace LogSieve

open LogSieve.Store LogSieve.Action

/-! ## Counting up to the largest word -/

/-- The largest word of 64 bits. -/
def lastWord : UInt64 := .ofNat (UInt64.size - 1)

/-- So many numbers in a row, each at most the largest word. -/
def countUp (first count : Nat) : List UInt64 :=
  (List.range count).map fun step => .ofNat (min (first + step) (UInt64.size - 1))

theorem toNat_lastWord : lastWord.toNat = UInt64.size - 1 := rfl

theorem le_lastWord (number : UInt64) : number ≤ lastWord := by
  have bound := number.toNat_lt_size
  rw [UInt64.le_iff_toNat_le, toNat_lastWord]
  omega

/-- Only the largest word has no successor. -/
theorem hasNext_iff_ne_lastWord {number : UInt64} : HasNext number ↔ number ≠ lastWord := by
  have bound := number.toNat_lt_size
  rw [HasNext, ne_eq, ← UInt64.toNat_inj, toNat_lastWord]
  omega

theorem raised_eq_lastWord {number : UInt64} (last : ¬HasNext number) :
    raised number = lastWord := by
  have bound := number.toNat_lt_size
  rw [HasNext] at last
  apply UInt64.toNat.inj
  rw [toNat_raised, toNat_lastWord]
  omega

/-- The count goes on from the number after the first. -/
theorem countUp_succ (number : UInt64) (count : Nat) :
    countUp number.toNat (count + 1) = number :: countUp (raised number).toNat count := by
  have bound := number.toNat_lt_size
  rw [countUp, List.range_succ_eq_map, List.map_cons, List.map_map, countUp]
  congr 1
  · apply UInt64.toNat.inj
    have size : UInt64.size = 2 ^ 64 := rfl
    rw [UInt64.toNat_ofNat']
    omega
  · apply List.map_congr_left
    intro step _
    rw [Function.comp_apply, toNat_raised]
    congr 1
    omega

/-- Counting from beyond the largest word is counting from it. -/
theorem countUp_min (first count : Nat) :
    countUp (min first (UInt64.size - 1)) count = countUp first count := by
  apply List.map_congr_left
  intro step _
  congr 1
  omega

/-- The largest id, zero where there is none. -/
def Store.Contents.largestId (contents : Contents) : Nat :=
  (contents.ids.map UInt64.toNat).foldr max 0

theorem toNat_max (first second : UInt64) :
    (max first second).toNat = max first.toNat second.toNat := by
  have larger : max first second = if first ≤ second then second else first := rfl
  rw [larger]
  split
  · next le =>
      rw [UInt64.le_iff_toNat_le] at le
      omega
  · next above =>
      rw [UInt64.le_iff_toNat_le] at above
      omega

namespace Session

variable {σ : Type} {before after session : Session σ}

theorem toNat_maxId (session : Session σ) :
    session.store.ruleset.maxId.toNat = session.contents.largestId := by
  have folds (rules : List Rule) (most : UInt64) :
      (rules.foldl (fun most rule => max most rule.id) most).toNat =
        max most.toNat ((rules.map fun rule => rule.id.toNat).foldr max 0) := by
    induction rules generalizing most with
    | nil => simp
    | cons rule rest ih =>
        rw [List.foldl_cons, ih, toNat_max, List.map_cons, List.foldr_cons, max_assoc]
  have views : session.contents.ids.map UInt64.toNat =
      session.store.ruleset.rules.map fun rule => rule.id.toNat := by
    simp [Contents.ids, contents, Function.comp_def, Rule.forget]
  rw [Ruleset.maxId, folds, Contents.largestId, views]
  simp

/-- The first id is the one after the largest. -/
theorem toNat_freshId_of_nextId_eq_none (unset : session.store.nextId = none) :
    (freshId session.store).toNat = min (session.contents.largestId + 1) (UInt64.size - 1) := by
  rw [freshId, unset, Option.getD_none, saturatingNext_eq_raised, toNat_raised, toNat_maxId]

/-! ## The ids that a run gives out -/

/-- The id that the answer of a call gives out. -/
def Call.givenId? (session : Session σ) : Call → Option UInt64
  | .add rule => ((Session.add rule).run session).1.toOption
  | .addOrUpdate rule =>
      match ((Session.addOrUpdate rule).run session).1 with
      | .ok (.added id) => some id
      | _ => none
  | .classify hash ham => ((Session.classify hash ham).run session).1.toOption
  | _ => none

/-- An id is given out with every rule that is added. -/
theorem Call.givenId?_eq (call : Call) (session : Session σ) :
    call.givenId? session =
      match call.change? session with
      | some (.append rule) => some rule.id
      | _ => none := by
  cases call with
  | add rule =>
      rw [Call.givenId?, Call.change?]
      cases ((Session.add rule).run session).1 <;> rfl
  | addOrUpdate rule =>
      rw [Call.givenId?, Call.change?]
      rcases ((Session.addOrUpdate rule).run session).1 with
        error | (id | ⟨id, version⟩ | ⟨id, version⟩)
        <;> rfl
  | delete id =>
      simp only [Call.givenId?, Call.change?]
      cases ((Session.delete id).run session).1 <;> rfl
  | classify hash ham =>
      obtain ⟨record, after, ran, found, -⟩ | ⟨error, after, ran, -⟩ :=
        classify_cases hash ham session
      · simp only [Call.givenId?, Call.change?, ran, found]
        rfl
      · simp only [Call.givenId?, Call.change?, ran]
        rfl
  | _ => rfl

theorem Call.change?_of_givenId? {call : Call} {id : UInt64}
    (gives : call.givenId? session = some id) :
    ∃ rule, call.change? session = some (.append rule) ∧ rule.id = id := by
  rw [Call.givenId?_eq] at gives
  split at gives
  · next rule adds => exact ⟨rule, adds, Option.some.inj gives⟩
  · cases gives

/-- A call that adds a rule does not read the file. -/
theorem Call.reloads_of_givenId? {call : Call} {id : UInt64}
    (gives : call.givenId? session = some id) : call.reloads session = false := by
  cases call with
  | load => cases gives
  | _ => rfl

section Given

variable [LogSource σ]

/-- The ids that the answers of a run give out, in order. -/
def givenIds (session : Session σ) : List Call → List UInt64
  | [] => []
  | call :: rest => (call.givenId? session).toList ++ (call.after session).givenIds rest

/-- The number after the largest id, at the time when a run first gives out an id. -/
def firstNumber (session : Session σ) : List Call → Nat
  | [] => 1
  | call :: rest =>
      if (call.givenId? session).isSome then session.contents.largestId + 1
      else (call.after session).firstNumber rest

/-- What a call does that gives out an id: the id is the fresh one, and the next one follows. -/
theorem Call.appended_of_givenId? {call : Call} {id : UInt64}
    (gives : call.givenId? session = some id) :
    id = freshId session.store ∧ (call.after session).store.nextId = some (raised id) ∧
      ∃ rule, rule.id = id ∧
        (call.after session).contents = (Change.append rule).apply session.contents := by
  obtain ⟨rule, adds, rfl⟩ := Call.change?_of_givenId? gives
  have effect := call.effect session (Call.reloads_of_givenId? gives)
  rw [adds] at effect
  cases effect with
  | appended _ fresh contents nextId =>
      rw [saturatingNext_eq_raised] at nextId
      exact ⟨fresh, nextId, rule, rfl, contents⟩

/-- Other calls leave the next id alone. -/
theorem Call.nextId_of_givenId?_eq_none {call : Call} (kept : call.reloads session = false)
    (gives : call.givenId? session = none) :
    (call.after session).store.nextId = session.store.nextId := by
  have effect := call.effect session kept
  rw [Call.givenId?_eq] at gives
  generalize call.change? session = change at effect gives
  cases effect with
  | still contents nextId => exact nextId
  | appended rule fresh contents nextId => cases gives
  | replaced rule current found made contents nextId => exact nextId
  | removed id current found contents nextId => exact nextId

/-- Once the next id is fixed, a run counts from there. -/
theorem givenIds_of_nextId_eq_some {next : UInt64} {calls : List Call}
    (fixed : session.store.nextId = some next) (kept : session.unloaded calls = true) :
    session.givenIds calls = countUp next.toNat (session.givenIds calls).length := by
  induction calls generalizing session next with
  | nil => rfl
  | cons call rest ih =>
      rw [unloaded_cons] at kept
      rw [givenIds]
      cases gives : call.givenId? session with
      | none =>
          have still := (Call.nextId_of_givenId?_eq_none kept.1 gives).trans fixed
          exact ih still kept.2
      | some id =>
          obtain ⟨fresh, later, -⟩ := Call.appended_of_givenId? gives
          rw [freshId, fixed, Option.getD_some] at fresh
          subst fresh
          rw [Option.toList_some, List.singleton_append, List.length_cons, countUp_succ,
            ← ih later kept.2]

/-- A run that starts without a next id counts from the number after the largest id. -/
theorem givenIds_of_nextId_eq_none {calls : List Call} (unset : session.store.nextId = none)
    (kept : session.unloaded calls = true) :
    session.givenIds calls =
      countUp (session.firstNumber calls) (session.givenIds calls).length := by
  induction calls generalizing session with
  | nil => rfl
  | cons call rest ih =>
      rw [unloaded_cons] at kept
      rw [givenIds, firstNumber]
      cases gives : call.givenId? session with
      | none =>
          have still := (Call.nextId_of_givenId?_eq_none kept.1 gives).trans unset
          exact ih still kept.2
      | some id =>
          obtain ⟨fresh, later, -⟩ := Call.appended_of_givenId? gives
          have first : id.toNat = min (session.contents.largestId + 1) (UInt64.size - 1) := by
            rw [fresh]
            exact toNat_freshId_of_nextId_eq_none unset
          rw [Option.isSome_some, if_pos rfl, ← countUp_min, ← first, Option.toList_some,
            List.singleton_append, List.length_cons, countUp_succ,
            ← givenIds_of_nextId_eq_some later kept.2]

end Given

/-! ## The next id is ahead of all others -/

/-- The next id, once there is one, is above all ids, unless it is the largest word. -/
def Ahead (session : Session σ) : Prop :=
  ∀ next, session.store.nextId = some next →
    ∀ id ∈ session.contents.ids, id < next ∨ next = lastWord

theorem ahead_of_nextId_eq_none (unset : session.store.nextId = none) : Ahead session := by
  intro next fixed
  rw [unset] at fixed
  cases fixed

/-- So is the id that the next rule gets. -/
theorem Ahead.lt_freshId (ahead : Ahead session) {id : UInt64}
    (stands : id ∈ session.contents.ids) :
    id < freshId session.store ∨ freshId session.store = lastWord := by
  rw [freshId]
  cases fixed : session.store.nextId with
  | some next => exact ahead next fixed id stands
  | none =>
      rw [Option.getD_none, saturatingNext_eq_raised]
      by_cases room : HasNext session.store.ruleset.maxId
      · left
        exact UInt64.lt_of_le_of_lt (le_maxId_of_mem_ids stands) room.lt_raised
      · right
        exact raised_eq_lastWord room

theorem Ahead.of_ids (ahead : Ahead before)
    (ids : ∀ id ∈ after.contents.ids, id ∈ before.contents.ids)
    (nextId : after.store.nextId = before.store.nextId) : Ahead after := by
  intro next fixed id stands
  rw [nextId] at fixed
  exact ahead next fixed id (ids id stands)

theorem Ahead.of_effect {change : Option Change} (ahead : Ahead before)
    (effect : Effect before after change) : Ahead after := by
  cases effect with
  | still contents nextId =>
      apply ahead.of_ids _ nextId
      intro id stands
      rwa [contents] at stands
  | replaced rule current found made contents nextId =>
      apply ahead.of_ids _ nextId
      intro id stands
      rwa [contents, Change.ids_replace] at stands
  | removed removed current found contents nextId =>
      apply ahead.of_ids _ nextId
      intro id stands
      rw [contents] at stands
      exact (Change.ids_remove_sublist _ removed).mem stands
  | appended rule fresh contents nextId =>
      intro next fixed id stands
      rw [nextId, saturatingNext_eq_raised, Option.some.injEq] at fixed
      rw [contents, Change.ids_append, List.mem_append, List.mem_singleton] at stands
      rw [← fixed]
      by_cases room : HasNext rule.id
      · left
        rcases stands with known | rfl
        · rcases ahead.lt_freshId known with below | last
          · rw [← fresh] at below
            exact UInt64.lt_of_lt_of_le below (le_raised rule.id)
          · rw [← fresh] at last
            exact absurd last (hasNext_iff_ne_lastWord.mp room)
        · exact room.lt_raised
      · right
        exact raised_eq_lastWord room

variable [LogSource σ]

theorem Ahead.of_call (ahead : Ahead session) (call : Call) : Ahead (call.after session) := by
  by_cases kept : call.reloads session = false
  · exact ahead.of_effect (call.effect session kept)
  · cases call with
    | load =>
        obtain ⟨contents, after, ran, loaded⟩ | ⟨error, after, ran, -⟩ := load_cases session
        · rw [Call.after, ran]
          apply ahead_of_nextId_eq_none
          rw [loaded.installed.store]
        · rw [Call.reloads, ran] at kept
          exact absurd rfl kept
    | _ => exact absurd rfl kept

theorem Ahead.afterCalls (ahead : Ahead session) (calls : List Call) :
    Ahead (session.afterCalls calls) := by
  induction calls generalizing session with
  | nil => exact ahead
  | cons call rest ih => exact ih (ahead.of_call call)

/-- Since the rules were read from their file, the ids of added rules are consecutive numbers, each
at most the largest word.  They begin after the largest id at the time of the first addition; the
ids of the rules that are handed in do not matter, nor does anything that is asked in between.
Every rule is stored under the id that was given out, which is above all stored ids unless it is
the largest word. -/
theorem givenIds_eq_countUp {contents : Contents} {start : Session σ}
    (begins : Begins contents start) (calls : List Call) (kept : start.unloaded calls = true) :
    start.givenIds calls = countUp (start.firstNumber calls) (start.givenIds calls).length ∧
      ∀ earlier call later id, calls = earlier ++ call :: later →
        call.givenId? (start.afterCalls earlier) = some id →
          (call.after (start.afterCalls earlier)).contents.ids =
              (start.afterCalls earlier).contents.ids ++ [id] ∧
            (id ≠ lastWord → ∀ other ∈ (start.afterCalls earlier).contents.ids, other < id) := by
  constructor
  · exact givenIds_of_nextId_eq_none begins.nextId_eq kept
  · intro earlier call later id _ gives
    obtain ⟨fresh, -, rule, rfl, contents⟩ := Call.appended_of_givenId? gives
    have ahead := (ahead_of_nextId_eq_none begins.nextId_eq).afterCalls earlier
    constructor
    · rw [contents, Change.ids_append]
    · intro room other stands
      rw [fresh] at room ⊢
      exact (ahead.lt_freshId stands).resolve_right room

/-- Calls of which one cannot be written and one is outdated, with a rule at the end that was
handed in under an id of its own. -/
def numberedCalls : List Call := repeatedCalls ++ [.add { id := 2 }]

theorem givenIds_eq_countUp_repeated :
    Begins repeatedStore.held repeatedSession ∧
      repeatedSession.unloaded numberedCalls = true ∧
      repeatedSession.firstNumber numberedCalls = 8 ∧
      repeatedSession.givenIds numberedCalls = [8, 9] ∧
      countUp 8 2 = [8, 9] ∧
      ∀ other ∈ (repeatedSession.afterCalls repeatedCalls).contents.ids, other < 9 := by
  have opens : (loadIfThere.run repeatedStore).1 = .ok () := by decide +kernel
  have begins : Begins repeatedStore.held repeatedSession := .opened (Prod.ext opens rfl)
  have kept : repeatedSession.unloaded numberedCalls = true := by decide +kernel
  have first : repeatedSession.firstNumber numberedCalls = 8 := by decide +kernel
  have given : repeatedSession.givenIds numberedCalls = [8, 9] := by decide +kernel
  have gives : Call.givenId? (repeatedSession.afterCalls repeatedCalls) (.add { id := 2 }) =
      some 9 := by decide +kernel
  obtain ⟨counts, above⟩ := givenIds_eq_countUp begins numberedCalls kept
  rw [first, given] at counts
  exact ⟨begins, kept, first, given, counts.symm,
    (above repeatedCalls _ [] 9 rfl gives).2 (by decide)⟩

end Session

/-! ## What is found under a new id -/

/-- Where no other rule has its id, a rule takes the place of the last one. -/
theorem Change.substitute_append {others : List Rule} {rule last : Rule} (same : last.id = rule.id)
    (new : ∀ other ∈ others, other.id ≠ rule.id) :
    substitute rule (others ++ [last]) = others ++ [rule] := by
  induction others with
  | nil => rw [List.nil_append, substitute, if_pos same, List.nil_append]
  | cons other rest ih =>
      obtain ⟨first, later⟩ := List.forall_mem_cons.mp new
      rw [List.cons_append, substitute, if_neg first, ih later, List.cons_append]

namespace Session

variable {σ : Type} {session : Session σ}

/-- What is asked for an id concerns the last rule: it is the one that is found, that goes and that
is updated, unless writing fails. -/
structure Addresses (session : Session σ) (id : UInt64) (others : List Rule) (last : Rule) :
    Prop where
  found : session.contents.get? id = some last
  removed :
    (∃ after, (delete id).run session = (.ok (), after) ∧ after.contents.rules = others) ∨
      ∃ path reason, ((delete id).run session).1 = .error (.persistence path reason)
  updated : ∀ given : Rule, given.id = id → given.version = last.version →
    (∃ after, (addOrUpdate given).run session =
        (.ok (.updated id (raised given.version)), after) ∧
      after.contents.rules =
        others ++ [{ given with version := raised given.version }.forget]) ∨
      ∃ path reason, ((addOrUpdate given).run session).1 = .error (.persistence path reason)
  outdated : ∀ given : Rule, given.id = id → given.version ≠ last.version →
    ((addOrUpdate given).run session).1 = .ok (.stale id last.version)

/-- A rule that is found goes, unless writing fails. -/
theorem delete_of_get? {id : UInt64} {current : Rule}
    (found : session.contents.get? id = some current) :
    (∃ after, (delete id).run session = (.ok (), after) ∧
      after.contents = (Change.remove id).apply session.contents) ∨
      ∃ path reason, ((delete id).run session).1 = .error (.persistence path reason) := by
  simp only [delete, run_bind, run_get]
  cases placed : session.store.ruleset.position? id with
  | none =>
      rw [get?_contents, get?_of_position?_eq_none placed] at found
      cases found
  | some position =>
      simp only [run_bind]
      obtain ⟨after, ran, committed⟩ | ⟨path, reason, after, ran, -⟩ :=
        commit_cases (session.store.ruleset.rules.eraseIdx position) none "delete" session
      · left
        simp only [ran, run_note]
        refine ⟨_, rfl, ?_⟩
        exact (effect_of_removed placed (committed.trans_kept (.note _ _))).contents_eq
      · right
        simp only [ran]
        exact ⟨path, reason, rfl⟩

/-- A rule of the version that is found takes its place, unless writing fails. -/
theorem addOrUpdate_of_get? {given current : Rule}
    (found : session.contents.get? given.id = some current)
    (made : given.version = current.version) :
    (∃ after, (addOrUpdate given).run session =
        (.ok (.updated given.id (raised given.version)), after) ∧
      after.contents = (Change.replace given.forget).apply session.contents) ∨
      ∃ path reason, ((addOrUpdate given).run session).1 = .error (.persistence path reason) := by
  rw [get?_contents, Option.map_eq_some_iff] at found
  obtain ⟨stored, stands, rfl⟩ := found
  obtain ⟨after, ran, missing, -⟩ | ⟨position, other, after, ran, placed, first, same, committed⟩ |
    ⟨other, after, ran, first, outdated, -⟩ | ⟨path, reason, after, ran, -⟩ :=
    addOrUpdate_cases given session
  · cases stands.symm.trans missing
  · left
    rw [saturatingNext_eq_raised] at ran
    exact ⟨after, ran, (effect_of_replaced placed first same committed).contents_eq⟩
  · cases stands.symm.trans first
    exact absurd made.symm outdated
  · right
    exact ⟨path, reason, by rw [ran]⟩

/-- Under an id that no other rule has, the last rule is found. -/
theorem addresses_of_notMem {id : UInt64} {others : List Rule} {last : Rule}
    (shape : session.contents.rules = others ++ [last]) (own : last.id = id)
    (new : ∀ other ∈ others, other.id ≠ id) : Addresses session id others last := by
  have found : session.contents.get? id = some last := by
    have absent : others.find? (·.id == id) = none := by
      rw [List.find?_eq_none]
      intro other member
      rw [beq_iff_eq]
      exact new other member
    rw [Contents.get?, shape, List.find?_append, absent, Option.none_or, List.find?_singleton,
      if_pos (beq_iff_eq.mpr own)]
  constructor
  · exact found
  · apply (delete_of_get? found).imp_left
    rintro ⟨after, ran, contents⟩
    refine ⟨after, ran, ?_⟩
    have passed : ∀ other ∈ others, ¬(other.id == id) = true := by
      intro other member
      rw [beq_iff_eq]
      exact new other member
    have gone : [last].eraseP (·.id == id) = [] := List.eraseP_cons_of_pos (beq_iff_eq.mpr own)
    rw [contents, Change.apply, Change.onRules, shape, List.eraseP_append_right _ passed, gone]
    exact List.append_nil others
  · rintro given rfl made
    apply (addOrUpdate_of_get? found made).imp_left
    rintro ⟨after, ran, contents⟩
    refine ⟨after, ran, ?_⟩
    rw [contents, Change.apply, Change.onRules, shape]
    exact Change.substitute_append own new
  · rintro given rfl other
    have stale : session.expectedChange given = .stale given.id last.version := by
      rw [expectedChange, found]
      exact if_neg (Ne.symm other)
    rw [← stale]
    rcases addOrUpdate_eq_expectedChange session given with answer | ⟨-, never⟩
    · exact answer
    · exact absurd stale (never _ _)

theorem Started.nextId_eq (started : Started session) : session.store.nextId = none := by
  cases started with
  | new path ignoredLabels cooldown source world => rfl
  | opened ran => exact (Begins.opened ran).nextId_eq

/-- A rule that is added is found under its id, goes by it and is updated by it, unless a rule
stood under the largest word already.  Then the new rule gets the largest word too, and the
older one is found under it. -/
theorem addresses_added_of_room [LogSource σ] {start : Session σ} (started : Started start)
    (calls : List Call) {call : Call} {id : UInt64}
    (gives : call.givenId? (start.afterCalls calls) = some id) :
    let before := start.afterCalls calls
    let after := call.after before
    ∃ rule, rule.id = id ∧ after.contents.rules = before.contents.rules ++ [rule] ∧
      (lastWord ∉ before.contents.ids →
        id ∉ before.contents.ids ∧ Addresses after id before.contents.rules rule) ∧
      (lastWord ∈ before.contents.ids →
        id = lastWord ∧ after.contents.get? id = before.contents.get? id) := by
  intro before after
  have ahead := (ahead_of_nextId_eq_none started.nextId_eq).afterCalls calls
  obtain ⟨fresh, -, rule, own, contents⟩ := Call.appended_of_givenId? gives
  have rules : after.contents.rules = before.contents.rules ++ [rule] :=
    congrArg Contents.rules contents
  refine ⟨rule, own, rules, ?_, ?_⟩
  · intro room
    have new : id ∉ before.contents.ids := by
      intro stands
      rcases ahead.lt_freshId stands with below | last
      · rw [← fresh] at below
        exact UInt64.lt_irrefl id below
      · rw [← fresh] at last
        exact room (last ▸ stands)
    refine ⟨new, addresses_of_notMem rules own ?_⟩
    intro other member same
    exact new (same ▸ List.mem_map_of_mem member)
  · intro taken
    have last : id = lastWord := by
      rcases ahead.lt_freshId taken with below | last
      · exact absurd (le_lastWord (freshId before.store)) (UInt64.not_le.mpr below)
      · exact fresh.trans last
    refine ⟨last, ?_⟩
    obtain ⟨older, member, same⟩ := List.mem_map.mp taken
    have found : (before.contents.rules.find? (·.id == id)).isSome = true := by
      rw [List.find?_isSome]
      exact ⟨older, member, beq_iff_eq.mpr (same.trans last.symm)⟩
    rw [Contents.get?, rules, List.find?_append, Option.or_of_isSome found, Contents.get?]

/-- A rule comes to the rules 1 and 2 and goes again. -/
theorem addresses_added_of_room_pair :
    Started (openedOf pairFile) ∧
      Call.givenId? ((openedOf pairFile).afterCalls [.delete 1]) (.add {}) = some 3 ∧
      lastWord ∉ ((openedOf pairFile).afterCalls [.delete 1]).contents.ids ∧
      ∃ rule, Addresses (Call.after ((openedOf pairFile).afterCalls [.delete 1]) (.add {})) 3
        ((openedOf pairFile).afterCalls [.delete 1]).contents.rules rule := by
  have opens : (loadIfThere.run (storeOf pairFile)).1 = .ok () := by decide +kernel
  have started : Started (openedOf pairFile) := .opened (Prod.ext opens rfl)
  have gives : Call.givenId? ((openedOf pairFile).afterCalls [.delete 1]) (.add {}) = some 3 := by
    decide +kernel
  have room : lastWord ∉ ((openedOf pairFile).afterCalls [.delete 1]).contents.ids := by
    decide +kernel
  obtain ⟨rule, -, -, addressed, -⟩ := addresses_added_of_room started [.delete 1] gives
  exact ⟨started, gives, room, rule, (addressed room).2⟩

/-- A file with a rule under the largest word. -/
def fullFile : String := "[[[[18446744073709551615]]]]"

/-- A rule that is added there gets the largest word once more: under its id the older rule is
found, and the older rule goes by it. -/
theorem added_under_lastWord :
    Started (openedOf fullFile) ∧
      Call.givenId? (openedOf fullFile) (.add { comment := "new" }) = some lastWord ∧
      lastWord ∈ (openedOf fullFile).contents.ids ∧
      let after := Call.after (openedOf fullFile) (.add { comment := "new" })
      after.contents.ids = [lastWord, lastWord] ∧
        (after.contents.get? lastWord).map (·.comment) = some "" ∧
        ((delete lastWord).run after).1 = .ok () ∧
        ((delete lastWord).run after).2.contents.rules.map (·.comment) = ["new"] := by
  have opens : (loadIfThere.run (storeOf fullFile)).1 = .ok () := by decide +kernel
  refine ⟨.opened (Prod.ext opens rfl), ?_⟩
  decide +kernel

end Session

end LogSieve
