import LogSieve.Proofs.Store.Agreement

/-!
# Accepted changes

What a run does to the rules can be read off the answers of its calls.  Every
answer tells of at most one change: a rule comes to the end of the list, takes the
place of another one, or goes.  A list machine that knows nothing of files,
records and failures carries out these changes; the store keeps step with it.
-/

namespace LogSieve

open LogSieve.Store

/-- The number after another one, but at most the largest word of 64 bits. -/
def raised (number : UInt64) : UInt64 := .ofNat (min (number.toNat + 1) (UInt64.size - 1))

theorem saturatingNext_eq_raised (number : UInt64) : saturatingNext number = raised number := by
  apply UInt64.toNat.inj
  have bound := number.toNat_lt_size
  rw [saturatingNext, raised, UInt64.toNat_ofNat']
  split
  · next below =>
      rw [UInt64.toNat_add]
      have one : (1 : UInt64).toNat = 1 := rfl
      have size : UInt64.size = 2 ^ 64 := rfl
      rw [one]
      omega
  · have size : UInt64.size = 2 ^ 64 := rfl
    omega

/-- A change of the rules that a store accepted. -/
inductive Change where
  /-- A rule comes to the end, under the id that it was given. -/
  | append (rule : Rule)
  /-- A rule takes the place of the one that it was made from. -/
  | replace (rule : Rule)
  /-- The rule with an id goes. -/
  | remove (id : UInt64)

namespace Change

/-- The id that a change is about. -/
def id : Change → UInt64
  | .append rule | .replace rule => rule.id
  | .remove id => id

/-- A rule in the place of the first one with its id. -/
def substitute (rule : Rule) : List Rule → List Rule
  | [] => []
  | old :: rest => if old.id = rule.id then rule :: rest else old :: substitute rule rest

/-- The rules after a change. -/
def onRules (rules : List Rule) : Change → List Rule
  | .append rule => rules ++ [rule]
  | .replace rule => substitute { rule with version := raised rule.version } rules
  | .remove id => rules.eraseP (·.id == id)

/-- Rules and version after a change. -/
def apply (contents : Contents) (change : Change) : Contents :=
  ⟨change.onRules contents.rules, raised contents.version⟩

/-- Substituting is setting the first position with the id. -/
theorem set_eq_substitute {rules : List Rule} {rule : Rule} {position : Nat}
    (found : rules.findIdx? (·.id == rule.id) = some position) :
    rules.set position rule = substitute rule rules := by
  induction rules generalizing position with
  | nil => cases found
  | cons old rest ih =>
      rw [substitute]
      by_cases same : old.id = rule.id
      · rw [List.findIdx?_cons, if_pos (by simpa using same), Option.some.injEq] at found
        rw [if_pos same, ← found, List.set_cons_zero]
      · rw [List.findIdx?_cons, if_neg (by simpa using same), Option.map_eq_some_iff] at found
        obtain ⟨later, found, rfl⟩ := found
        rw [if_neg same, List.set_cons_succ, ih found]

theorem map_forget_substitute (rule : Rule) (rules : List Rule) :
    (substitute rule rules).map Rule.forget = substitute rule.forget (rules.map Rule.forget) := by
  induction rules with
  | nil => rfl
  | cons old rest ih =>
      have ids : (old.forget.id = rule.forget.id) = (old.id = rule.id) := rfl
      simp only [substitute, List.map_cons, ids]
      split
      · rfl
      · rw [List.map_cons, ih]

/-- Erasing the first rule with an id is erasing its position. -/
theorem eraseIdx_eq_eraseP {rules : List Rule} {id : UInt64} {position : Nat}
    (found : rules.findIdx? (·.id == id) = some position) :
    rules.eraseIdx position = rules.eraseP (·.id == id) := by
  rw [List.eraseP_eq_eraseIdx, found]

theorem map_forget_eraseP (id : UInt64) (rules : List Rule) :
    (rules.eraseP (·.id == id)).map Rule.forget = (rules.map Rule.forget).eraseP (·.id == id) := by
  rw [List.eraseP_map]
  rfl

end Change

/-- The first rule with an id. -/
def Store.Contents.get? (contents : Contents) (id : UInt64) : Option Rule :=
  contents.rules.find? (·.id == id)

namespace Session

variable {σ : Type}

theorem get?_contents (session : Session σ) (id : UInt64) :
    session.contents.get? id = (session.store.ruleset.get? id).map Rule.forget := by
  rw [Contents.get?, contents, List.find?_map]
  rfl

/-! ## What a call changes -/

/-- What a change means for rules, version and the next id. -/
inductive Effect (before after : Session σ) : Option Change → Prop
  | still (contents : after.contents = before.contents)
      (nextId : after.store.nextId = before.store.nextId) : Effect before after none
  | appended (rule : Rule) (fresh : rule.id = freshId before.store)
      (contents : after.contents = (Change.append rule).apply before.contents)
      (nextId : after.store.nextId = some (saturatingNext rule.id)) :
      Effect before after (some (.append rule))
  | replaced (rule current : Rule) (found : before.contents.get? rule.id = some current)
      (made : current.version = rule.version)
      (contents : after.contents = (Change.replace rule).apply before.contents)
      (nextId : after.store.nextId = before.store.nextId) :
      Effect before after (some (.replace rule))
  | removed (id : UInt64) (current : Rule) (found : before.contents.get? id = some current)
      (contents : after.contents = (Change.remove id).apply before.contents)
      (nextId : after.store.nextId = before.store.nextId) :
      Effect before after (some (.remove id))

section Effects

variable {before after : Session σ}

theorem effect_of_store_eq (store : after.store = before.store) : Effect before after none := by
  apply Effect.still
  · rw [contents, contents, store]
  · rw [store]

theorem effect_of_watched (watched : Watched before after) : Effect before after none :=
  .still watched.contents_eq watched.nextId

/-- A committed change raises the version. -/
theorem Committed.contents_eq {rules : List Rule} {nextId : Option UInt64}
    (committed : Committed rules nextId before after) :
    after.contents = ⟨rules.map Rule.forget, raised before.contents.version⟩ := by
  rw [contents, committed.installed.store, ← saturatingNext_eq_raised]
  rfl

theorem Committed.nextId_eq {rules : List Rule} {nextId : Option UInt64}
    (committed : Committed rules nextId before after) : after.store.nextId = nextId := by
  rw [committed.installed.store]

theorem effect_of_added {rule : Rule} (added : Added rule before after) :
    Effect before after
      (some (.append { rule with id := freshId before.store }.forget)) := by
  apply Effect.appended
  · rfl
  · rw [Committed.contents_eq added, withAdded, List.map_append]
    rfl
  · exact Committed.nextId_eq added

theorem effect_of_replaced {rule current : Rule} {position : Nat}
    (placed : before.store.ruleset.position? rule.id = some position)
    (found : before.store.ruleset.get? rule.id = some current)
    (made : current.version = rule.version)
    (committed : Committed (before.store.ruleset.rules.set position
      { rule with version := saturatingNext rule.version }) before.store.nextId before after) :
    Effect before after (some (.replace rule.forget)) := by
  have stands : before.contents.get? rule.forget.id = some current.forget := by
    rw [get?_contents]
    exact congrArg (Option.map Rule.forget) found
  refine .replaced rule.forget current.forget stands made ?_ committed.nextId_eq
  have placedNew : before.store.ruleset.rules.findIdx?
      (·.id == { rule with version := saturatingNext rule.version }.id) = some position := placed
  rw [committed.contents_eq, Change.set_eq_substitute placedNew, Change.map_forget_substitute,
    saturatingNext_eq_raised]
  rfl

theorem effect_of_removed {id : UInt64} {position : Nat}
    (placed : before.store.ruleset.position? id = some position)
    (committed : Committed (before.store.ruleset.rules.eraseIdx position)
      before.store.nextId before after) : Effect before after (some (.remove id)) := by
  obtain ⟨current, -, found⟩ := get?_of_position?_eq_some placed
  have stands : before.contents.get? id = some current.forget := by
    rw [get?_contents, found, Option.map_some]
  refine .removed id current.forget stands ?_ committed.nextId_eq
  rw [committed.contents_eq, Change.eraseIdx_eq_eraseP placed, Change.map_forget_eraseP]
  rfl

/-- The list machine does the changes that answers tell of. -/
theorem Effect.contents_eq {change : Option Change}
    (effect : Effect before after change) :
    after.contents = change.toList.foldl Change.apply before.contents := by
  cases effect with
  | still contents nextId => exact contents
  | appended rule fresh contents nextId => exact contents
  | replaced rule current found made contents nextId => exact contents
  | removed id current found contents nextId => exact contents

end Effects

/-! ## Rules that are handed in -/

/-- What is answered to a rule that is handed in: it depends on the rule that has
its id. -/
def expectedChange (session : Session σ) (rule : Rule) : RuleChange :=
  match session.contents.get? rule.id with
  | none => .added (freshId session.store)
  | some current =>
      if current.version = rule.version then .updated rule.id (raised rule.version)
      else .stale rule.id current.version

/-- A rule that is handed in is answered as expected, unless writing fails; an
outdated one is always told so. -/
theorem addOrUpdate_eq_expectedChange (session : Session σ) (rule : Rule) :
    ((addOrUpdate rule).run session).1 = .ok (session.expectedChange rule) ∨
      ((∃ path reason, ((addOrUpdate rule).run session).1 = .error (.persistence path reason)) ∧
        ∀ id version, session.expectedChange rule ≠ .stale id version) := by
  rw [expectedChange, get?_contents]
  obtain ⟨after, ran, missing, -⟩ | ⟨position, current, after, ran, -, found, made, -⟩ |
    ⟨current, after, ran, found, outdated, -⟩ | ⟨path, reason, after, ran, made, -⟩ :=
    addOrUpdate_cases rule session
  · left
    rw [ran, missing]
    rfl
  · left
    have same : current.forget.version = rule.version := made
    simp only [ran, found, Option.map_some, if_pos same, saturatingNext_eq_raised]
  · left
    have other : current.forget.version ≠ rule.version := outdated
    simp only [ran, found, Option.map_some, if_neg other]
    rfl
  · right
    refine ⟨⟨path, reason, by rw [ran]⟩, ?_⟩
    intro id version
    cases found : session.store.ruleset.get? rule.id with
    | none => simp
    | some current =>
        have same : current.forget.version = rule.version := made current found
        simp [same]

/-! ## Since the rules were read -/

/-- What the file holds; no rules where there is no file. -/
def held (session : Session σ) : Contents :=
  match session.stored with
  | .ok bytes => (Contents.decode? bytes).getD {}
  | .error _ => {}

/-- Sessions that begin with the rules of a file: of a store that was opened, or one
that took its rules from the file anew. -/
inductive Begins : Contents → Session σ → Prop
  | opened {path : String} {ignoredLabels : List String} {cooldown : Nat} {source : Option σ}
      {world : World} {session : Session σ}
      (ran : loadIfThere.run (create path ignoredLabels cooldown source world) =
        (.ok (), session)) :
      Begins (create path ignoredLabels cooldown source world).held session
  | loaded {before session : Session σ} (ran : load.run before = (.ok (), session)) :
      Begins before.held session

theorem Loaded.contents_eq {contents : Contents} {before after : Session σ}
    (loaded : Loaded contents before after) : after.contents = before.held := by
  obtain ⟨bytes, stands, read⟩ := loaded.read
  have unprepared := Contents.forget_of_decode? read
  have installed : after.contents = contents.forget := by
    rw [Session.contents, loaded.installed.store]
    rfl
  rw [installed, unprepared, held, stands]
  simp only [read, Option.getD_some]

/-- Such rules were read from the file, or there are none in a new store. -/
theorem Begins.loaded_or_new {contents : Contents} {session : Session σ}
    (begins : Begins contents session) :
    (∃ read before, Loaded read before session ∧ before.held = contents) ∨
      (contents = {} ∧ session.contents = {} ∧ session.store.nextId = none) := by
  cases begins with
  | @opened path ignoredLabels cooldown source world _ ran =>
      obtain ⟨read, loaded⟩ | ⟨missing, kept⟩ := loaded_or_missing_of_open ran
      · exact .inl ⟨read, _, loaded, rfl⟩
      · right
        refine ⟨?_, ?_, ?_⟩
        · rw [held, missing]
        · rw [Session.contents, kept.store]
          rfl
        · rw [kept.store]
          rfl
  | @loaded before _ ran =>
      obtain ⟨read, loaded⟩ := exists_loaded_of_load ran
      exact .inl ⟨read, before, loaded, rfl⟩

theorem Begins.contents_eq {contents : Contents} {session : Session σ}
    (begins : Begins contents session) : session.contents = contents := by
  obtain ⟨read, before, loaded, same⟩ | ⟨none, empty, -⟩ := begins.loaded_or_new
  · rw [← same]
    exact loaded.contents_eq
  · rw [none, empty]

/-! ## Calls and runs -/

section Runs

variable [LogSource σ]

/-- The change that the answer of a call tells of. -/
def Call.change? (session : Session σ) : Call → Option Change
  | .add rule =>
      match ((Session.add rule).run session).1 with
      | .ok id => some (.append { rule with id }.forget)
      | .error _ => none
  | .addOrUpdate rule =>
      match ((Session.addOrUpdate rule).run session).1 with
      | .ok (.added id) => some (.append { rule with id }.forget)
      | .ok (.updated _ _) => some (.replace rule.forget)
      | .ok (.stale _ _) | .error _ => none
  | .delete id =>
      match ((Session.delete id).run session).1 with
      | .ok _ => some (.remove id)
      | .error _ => none
  | .classify hash ham =>
      match ((Session.classify hash ham).run session).1, session.store.buffer.find? hash with
      | .ok id, some record =>
          some (.append { ruleFor session.store.ignoredLabels record ham with id }.forget)
      | _, _ => none
  | _ => none

/-- Whether a call takes the rules from their file. -/
def Call.reloads (session : Session σ) : Call → Bool
  | .load => (Session.load.run session).1.isOk
  | _ => false

/-- The answer of a call tells what it changes. -/
theorem Call.effect (call : Call) (session : Session σ) (kept : call.reloads session = false) :
    Effect session (call.after session) (call.change? session) := by
  cases call with
  | add rule =>
      obtain ⟨after, ran, added⟩ | ⟨path, reason, after, ran, kept⟩ := addAs_cases "add" rule session
      · simp only [Call.after, Call.change?, Session.add, ran]
        exact effect_of_added added
      · simp only [Call.after, Call.change?, Session.add, ran]
        exact effect_of_store_eq kept.store
  | addOrUpdate rule =>
      obtain ⟨after, ran, -, added⟩ | ⟨position, current, after, ran, placed, found, made, committed⟩ |
        ⟨current, after, ran, -, -, kept⟩ | ⟨path, reason, after, ran, -, kept⟩ :=
        addOrUpdate_cases rule session
      · simp only [Call.after, Call.change?, ran]
        exact effect_of_added added
      · simp only [Call.after, Call.change?, ran]
        exact effect_of_replaced placed found made committed
      · simp only [Call.after, Call.change?, ran]
        exact effect_of_store_eq kept.store
      · simp only [Call.after, Call.change?, ran]
        exact effect_of_store_eq kept.store
  | delete id =>
      obtain ⟨position, after, ran, placed, committed⟩ | ⟨error, after, ran, kept⟩ :=
        delete_cases id session
      · simp only [Call.after, Call.change?, ran]
        exact effect_of_removed placed committed
      · simp only [Call.after, Call.change?, ran]
        exact effect_of_store_eq kept.store
  | classify hash ham =>
      obtain ⟨record, after, ran, found, added⟩ | ⟨error, after, ran, kept⟩ :=
        classify_cases hash ham session
      · simp only [Call.after, Call.change?, ran, found]
        exact effect_of_added added
      · simp only [Call.after, Call.change?, ran]
        exact effect_of_store_eq kept.store
  | save =>
      obtain ⟨after, ran, written⟩ | ⟨path, reason, after, ran, kept⟩ :=
        persist_cases session.store.ruleset session
      · rw [Call.after, run_save, ran]
        exact effect_of_store_eq written.store
      · rw [Call.after, run_save, ran]
        exact effect_of_store_eq kept.store
  | load =>
      obtain ⟨contents, after, ran, -⟩ | ⟨error, after, ran, unchanged⟩ := load_cases session
      · rw [Call.reloads, ran] at kept
        cases kept
      · rw [Call.after, ran]
        exact effect_of_store_eq unchanged.store
  | logs => exact effect_of_watched (reads_logs session).watched
  | logCount => exact effect_of_watched (reads_logCount session).watched
  | hitCount id => exact effect_of_watched (reads_hitCount id session).watched
  | summary top => exact effect_of_watched (reads_summary top session).watched
  | wait nanoseconds => exact effect_of_store_eq rfl

/-- The changes that the answers of a run tell of, in order. -/
def changes (session : Session σ) : List Call → List Change
  | [] => []
  | call :: rest => (call.change? session).toList ++ (call.after session).changes rest

/-- Whether no call of a run takes the rules from their file. -/
def unloaded (session : Session σ) : List Call → Bool
  | [] => true
  | call :: rest => !call.reloads session && (call.after session).unloaded rest

theorem unloaded_cons (session : Session σ) (call : Call) (rest : List Call) :
    session.unloaded (call :: rest) = true ↔
      call.reloads session = false ∧ (call.after session).unloaded rest = true := by
  rw [unloaded, Bool.and_eq_true, Bool.not_eq_true']

/-- In a run the rules change as the answers tell, one change after the other. -/
theorem contents_afterCalls (session : Session σ) (calls : List Call)
    (kept : session.unloaded calls = true) :
    (session.afterCalls calls).contents =
      (session.changes calls).foldl Change.apply session.contents := by
  induction calls generalizing session with
  | nil => rfl
  | cons call rest ih =>
      rw [unloaded_cons] at kept
      have first := (call.effect session kept.1).contents_eq
      calc (session.afterCalls (call :: rest)).contents
        _ = ((call.after session).changes rest).foldl Change.apply (call.after session).contents :=
          ih (call.after session) kept.2
        _ = (session.changes (call :: rest)).foldl Change.apply session.contents := by
          rw [first, changes, List.foldl_append]

/-- The store keeps step with the list machine.  Since its rules were read from the
file, rules and version are what the accepted changes make of the file's, whatever
else was asked and whatever failed; and a rule that is handed in is added, replaces
another one or is outdated as the rule with its id requires. -/
theorem contents_afterCalls_eq_foldl {contents : Contents} {start : Session σ}
    (begins : Begins contents start) (calls : List Call) (kept : start.unloaded calls = true) :
    (start.afterCalls calls).contents = (start.changes calls).foldl Change.apply contents ∧
      ∀ rule, ((addOrUpdate rule).run (start.afterCalls calls)).1 =
          .ok ((start.afterCalls calls).expectedChange rule) ∨
        ((∃ path reason, ((addOrUpdate rule).run (start.afterCalls calls)).1 =
            .error (.persistence path reason)) ∧
          ∀ id version, (start.afterCalls calls).expectedChange rule ≠ .stale id version) := by
  constructor
  · rw [contents_afterCalls start calls kept, begins.contents_eq]
  · intro rule
    exact addOrUpdate_eq_expectedChange _ rule

end Runs

/-- A file with three rules, two of them under one id, and a failure to come after
it was read. -/
def repeatedWorld : World :=
  { disk := {
      files := { nodes := [(["rules.json"], .file "[[[[7],[7],[2]]]]".toUTF8)] }
      faults := [none, none, some { error := .busy }] } }

/-- A new store there. -/
def repeatedStore : Session Script := create "rules.json" [] 0 none repeatedWorld

/-- The store once it is opened. -/
def repeatedSession : Session Script := (loadIfThere.run repeatedStore).2

/-- Calls of which the first fails, the third is outdated and the fourth finds
nothing. -/
def repeatedCalls : List Call :=
  [.add {}, .addOrUpdate { id := 7, ham := true }, .addOrUpdate { id := 7 }, .delete 9,
    .delete 7, .add { comment := "new" }]

theorem contents_afterCalls_repeated :
    Begins repeatedStore.held repeatedSession ∧
      repeatedSession.unloaded repeatedCalls = true ∧
      (repeatedSession.changes repeatedCalls).map Change.id = [7, 7, 8] ∧
      (repeatedSession.afterCalls repeatedCalls).contents =
        (repeatedSession.changes repeatedCalls).foldl Change.apply repeatedStore.held ∧
      (repeatedSession.afterCalls repeatedCalls).contents.rules.map (·.id) = [7, 2, 8] := by
  have opens : (loadIfThere.run repeatedStore).1 = .ok () := by decide +kernel
  have begins : Begins repeatedStore.held repeatedSession := .opened (Prod.ext opens rfl)
  have kept : repeatedSession.unloaded repeatedCalls = true := by decide +kernel
  refine ⟨begins, kept, by decide +kernel, ?_, by decide +kernel⟩
  exact (contents_afterCalls_eq_foldl begins repeatedCalls kept).1

end Session

end LogSieve
