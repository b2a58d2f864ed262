import LogSieve.Proofs.Store.Stability

/-!
# Tests that are kept

A matcher prepares its test on its first use and keeps it, also when its operator or
its operand is set afterwards.  So a matcher tests by the operator and the pattern of
its first use, and for equality by the operand that it has now.  A file keeps no
tests: a rule whose operator or pattern was set after the first use judges otherwise
once it is read from the file again, and every other rule judges as before.
-/

namespace LogSieve

open LogSieve.Store LogSieve.Action

namespace Matcher

/-! ## Histories -/

/-- What is done to a matcher.  A copy comes with the prepared test, so its history is
the one of the original up to then and its own. -/
inductive Act where
  | use
  | setField (field : String)
  | setOperator (operator : Operator)
  | setValue (value : String)

/-- The matcher after something was done to it. -/
def Act.apply (matcher : Matcher) : Act → Matcher
  | .use => matcher.prepared
  | .setField field => { matcher with field }
  | .setOperator operator => { matcher with operator }
  | .setValue value => { matcher with value }

/-- The matcher at the end of a history. -/
def afterActs (matcher : Matcher) (acts : List Act) : Matcher := acts.foldl Act.apply matcher

/-- Operator and operand at the first use. -/
def firstUse? (matcher : Matcher) : List Act → Option (Operator × String)
  | [] => none
  | .use :: _ => some (matcher.operator, matcher.value)
  | act :: rest => (act.apply matcher).firstUse? rest

theorem compiled_afterActs_of_used {matcher : Matcher} {test : Predicate}
    (used : matcher.compiled = some test) (acts : List Act) :
    (matcher.afterActs acts).compiled = some test := by
  induction acts generalizing matcher with
  | nil => exact used
  | cons act rest ih =>
      cases act with
      | use =>
          have again : matcher.prepared.compiled = some test := by
            simp [prepared, predicate, used]
          exact ih again
      | setField | setOperator | setValue => exact ih used

/-- The test is the one of the first use, whatever was set later. -/
theorem compiled_afterActs {matcher : Matcher} (unused : matcher.compiled = none)
    (acts : List Act) :
    (matcher.afterActs acts).compiled =
      (matcher.firstUse? acts).map fun (operator, value) => .compile operator value := by
  induction acts generalizing matcher with
  | nil => exact unused
  | cons act rest ih =>
      cases act with
      | use =>
          have used : matcher.prepared.compiled =
              some (.compile matcher.operator matcher.value) := by
            simp [prepared, predicate, unused]
          exact compiled_afterActs_of_used used rest
      | setField | setOperator | setValue => exact ih unused

/-- A matcher tests as a new one does exactly if the test of its first use does, with the
operand that it has now. -/
theorem accepts_afterActs_eq_iff {matcher : Matcher} (unused : matcher.compiled = none)
    (acts : List Act) :
    let now := matcher.afterActs acts
    (∀ candidate, now.accepts candidate = now.forget.accepts candidate) ↔
      ∀ operator value, matcher.firstUse? acts = some (operator, value) →
        ∀ candidate, (Predicate.compile operator value).test now.value candidate =
          (Predicate.compile now.operator now.value).test now.value candidate := by
  intro now
  have test : now.compiled =
      (matcher.firstUse? acts).map fun (operator, value) => .compile operator value :=
    compiled_afterActs unused acts
  cases used : matcher.firstUse? acts with
  | none =>
      rw [used, Option.map_none] at test
      constructor
      · intro _ operator value none
        cases none
      · intro _ candidate
        simp only [accepts, predicate, test]
        rfl
  | some first =>
      rw [used, Option.map_some] at test
      have tests (candidate : String) : now.accepts candidate =
          (Predicate.compile first.1 first.2).test now.value candidate := by
        simp only [accepts, predicate, test, Option.getD_some]
      constructor
      · intro same operator value eq candidate
        cases eq
        rw [← tests, same]
        rfl
      · intro same candidate
        rw [tests, same first.1 first.2 rfl]
        rfl

/-! ## Tests of operator and operand -/

/-- The test is the one of operator and operand. -/
def Current (matcher : Matcher) : Prop :=
  matcher.predicate = .compile matcher.operator matcher.value

/-- Since the first use the operator was not changed, nor was a pattern. -/
def Careful (matcher : Matcher) : Prop :=
  ∃ (start : Matcher) (acts : List Act), start.compiled = none ∧ start.afterActs acts = matcher ∧
    ∀ operator value, start.firstUse? acts = some (operator, value) →
      operator = matcher.operator ∧ (operator = .regex → value = matcher.value)

theorem current_of_compiled_eq_none {matcher : Matcher} (unused : matcher.compiled = none) :
    matcher.Current := by
  rw [Current, predicate, unused, Option.getD_none]

theorem Careful.current {matcher : Matcher} (careful : matcher.Careful) : matcher.Current := by
  obtain ⟨start, acts, unused, rfl, kept⟩ := careful
  have test := compiled_afterActs unused acts
  cases used : start.firstUse? acts with
  | none =>
      rw [used] at test
      exact current_of_compiled_eq_none test
  | some first =>
      obtain ⟨operator, value⟩ := first
      obtain ⟨rfl, pattern⟩ := kept operator value used
      rw [used] at test
      rw [Current, predicate, test]
      -- Only a pattern is prepared from the operand.
      cases shape : (start.afterActs acts).operator with
      | regex => rw [pattern shape]; rfl
      | equal | unsupported => rfl

theorem Current.accepts_forget {matcher : Matcher} (current : matcher.Current)
    (candidate : String) : matcher.forget.accepts candidate = matcher.accepts candidate := by
  rw [accepts, accepts, current]
  rfl

/-- A matcher that was edited with care tests as a new one does. -/
theorem Careful.accepts_eq_forget {matcher : Matcher} (careful : matcher.Careful)
    (candidate : String) : matcher.accepts candidate = matcher.forget.accepts candidate :=
  (careful.current.accepts_forget candidate).symm

theorem Current.holds_forget {matcher : Matcher} (current : matcher.Current) (record : Record) :
    matcher.forget.holds record = matcher.holds record := by
  have same : matcher.forget.accepts = matcher.accepts := funext current.accepts_forget
  rw [holds, holds, same]
  rfl

theorem Current.faithful {matcher : Matcher} (current : matcher.Current) : matcher.Faithful := by
  intro equal pattern tested
  rw [current, equal] at tested
  cases tested

end Matcher

/-! ## Rules -/

namespace Rule

/-- All tests of a rule are those of operators and operands. -/
def Current (rule : Rule) : Prop := ∀ matcher ∈ rule.matchers, matcher.Current

theorem current_of_isUnused {rule : Rule} (unused : rule.isUnused = true) : rule.Current := by
  simp only [isUnused, List.all_eq_true, Option.isNone_iff_eq_none] at unused
  intro matcher member
  exact Matcher.current_of_compiled_eq_none (unused matcher member)

theorem current_settled {rule : Rule} : rule.settled.Current ↔ rule.Current := by
  simp only [Current, settled, List.forall_mem_map]
  rfl

theorem Current.holds_forget {rule : Rule} (current : rule.Current) (record : Record) :
    rule.forget.holds record = rule.holds record := by
  have all : rule.matchers.all (·.forget.holds record) = rule.matchers.all (·.holds record) := by
    rw [Bool.eq_iff_iff, List.all_eq_true, List.all_eq_true]
    apply forall₂_congr
    intro matcher member
    rw [(current matcher member).holds_forget record]
  rw [holds, holds, forget, List.all_map]
  exact congrArg _ all

end Rule

/-- Among rules with tests of their own, the same one is found with and without the tests. -/
theorem locate?_map_forget {record : Record} {rules : List Rule}
    (current : ∀ rule ∈ rules, rule.Current) :
    (locate? record (rules.map Rule.forget)).map (Prod.map id Rule.forget) =
      (locate? record rules).map (Prod.map id Rule.forget) := by
  induction rules with
  | nil => rfl
  | cons rule rest ih =>
      obtain ⟨first, others⟩ := List.forall_mem_cons.mp current
      rw [List.map_cons, locate?, locate?, first.holds_forget]
      split
      · simp
      · have found := congrArg (Option.map (Prod.map (· + 1) id)) (ih others)
        simpa [Function.comp_def, Prod.map] using found

namespace Session

variable {σ : Type} {before after session : Session σ}

/-! ## Stored rules -/

/-- All rules of a store have tests of their own operators and operands. -/
def Current (session : Session σ) : Prop := ∀ rule ∈ session.store.ruleset.rules, rule.Current

/-- The matchers that a call hands in were edited with care. -/
def Call.Careful : Call → Prop
  | .add rule | .addOrUpdate rule => ∀ matcher ∈ rule.matchers, matcher.Careful
  | _ => True

theorem Current.faithful (current : Current session) : session.store.ruleset.Faithful :=
  fun rule member matcher asked => (current rule member matcher asked).faithful

theorem Call.Careful.of_supplies {call : Call} (careful : call.Careful) {rule : Rule}
    (supplies : call.Supplies rule) : rule.Current := by
  cases call with
  | add given | addOrUpdate given =>
      rw [Rule.Current, supplies]
      intro matcher member
      exact (careful matcher member).current
  | classify => exact Rule.current_of_isUnused supplies
  | _ => exact supplies.elim

theorem Current.of_store_eq (current : Current before) (store : after.store = before.store) :
    Current after := by
  rw [Current, store]
  exact current

theorem Current.of_watched (current : Current before) (watched : Watched before after) :
    Current after := by
  have same := Ruleset.rules_of_settled_eq watched.ruleset
  intro rule member
  have settled : rule.settled ∈ before.store.ruleset.rules.map Rule.settled := by
    rw [← same]
    exact List.mem_map_of_mem member
  obtain ⟨other, known, eq⟩ := List.mem_map.mp settled
  rw [← Rule.current_settled, ← eq, Rule.current_settled]
  exact current other known

theorem Current.of_loaded {contents : Contents} (loaded : Loaded contents before after) :
    Current after := by
  rw [Current, loaded.installed.store]
  intro rule member
  exact Rule.current_of_isUnused (loaded.isUnused rule member)

theorem Current.of_step [LogSource σ] {call : Call} (current : Current before)
    (careful : call.Careful) (step : Step call before after) : Current after := by
  cases step with
  | kept kept => exact current.of_store_eq kept.store
  | committed rules nextId committed supplied =>
      rw [Current, committed.installed.store]
      intro rule member
      obtain known | supplies := supplied rule member
      · exact current rule known
      · exact careful.of_supplies supplies
  | written written => exact current.of_store_eq written.store
  | loaded contents loaded => exact .of_loaded loaded
  | read reads _ => exact current.of_watched reads.watched
  | waited nanoseconds waited =>
      subst waited
      exact current.of_store_eq rfl

theorem Agrees.afterCalls [LogSource σ] (agrees : Agrees session) (calls : List Call) :
    Agrees (session.afterCalls calls) :=
  afterCalls_induction (fun _ _ _ _ step agrees => agrees.of_step step) agrees

theorem held_of_agrees (agrees : Agrees session) : session.held = session.contents := by
  rw [held]
  obtain ⟨bytes, stands, read⟩ | ⟨missing, rules, version⟩ := agrees
  · rw [stands]
    simp only [read, Option.getD_some]
  · rw [missing, contents, rules, version]
    rfl

/-- What is found for a new record, up to tests, where all tests are current. -/
theorem Current.finding_eq (current : Current session) (exact : Exact session)
    (record : Record) :
    (session.finding { record }).map (Prod.map id Rule.forget) =
      (locate? record session.contents.rules).map (Prod.map id Rule.forget) := by
  have recalls : Recalls session { record } :=
    ⟨Entry.fits_of_memo_eq_none rfl _, fun _ remembers => by cases remembers⟩
  rw [recalls.finding_eq exact current.faithful, contents, locate?_map_forget current]

/-- Tests stay current where matchers are edited with care. -/
theorem current_afterCalls [LogSource σ] {start : Session σ} (current : Current start)
    {calls : List Call} (careful : ∀ call ∈ calls, call.Careful) :
    Current (start.afterCalls calls) :=
  afterCalls_induction
    (fun call member _ _ step current => current.of_step (careful call member) step) current

theorem Current.of_opened {path : String} {ignoredLabels : List String} {cooldown : Nat}
    {source : Option σ} {world : World}
    (opened : loadIfThere.run (create path ignoredLabels cooldown source world) =
      (.ok (), session)) : Current session := by
  obtain ⟨contents, loaded⟩ | ⟨-, kept⟩ := loaded_or_missing_of_open opened
  · exact .of_loaded loaded
  · rw [Current, kept.store]
    exact List.forall_mem_nil _

/-- What is found for a new record after the rules were read from their file again. -/
theorem finding_of_loaded {contents : Contents} {reloaded : Session σ} (exact : Exact session)
    (agrees : Agrees session) (loaded : Loaded contents session reloaded) (record : Record) :
    (reloaded.finding { record }).map (Prod.map id Rule.forget) =
      (locate? record session.contents.rules).map (Prod.map id Rule.forget) := by
  have exactNow := exact.of_installed loaded.installed
  rw [(Current.of_loaded loaded).finding_eq exactNow, loaded.contents_eq, held_of_agrees agrees]

/-- Rules that agree with their file can be read from it. -/
theorem Agrees.load_of_written (agrees : Agrees session)
    (working : session.world.disk.stopped = false) (quiet : session.world.disk.faults = [])
    {bytes : ByteArray} (written : session.stored = .ok bytes) :
    ∃ contents after, load.run session = (.ok (), after) ∧ Loaded contents session after := by
  have read : Contents.decode? bytes = some session.contents := by
    obtain ⟨other, stands, read⟩ | ⟨missing, -⟩ := agrees
    · cases written.symm.trans stands
      exact read
    · cases written.symm.trans missing
  have answer : (session.world.disk.ask (·.read session.store.path)).1 = .ok bytes := by
    rw [Disk.ask_of_no_fault _ working (by simp [quiet])]
    exact written
  obtain loads | ⟨error, after, fails, -⟩ := load_cases session
  · exact loads
  · simp only [load, run_bind, run_get, run_askFiles, answer, read, run_buildRuleset, run_note,
      run_measureRules, run_changeStore] at fails
    cases fails

/-- Stored rules judge every record as they do once read from their file, where matchers were
edited with care. -/
theorem finding_of_reload [LogSource σ] {path : String} {ignoredLabels : List String}
    {cooldown : Nat} {source : Option σ} {world : World} {start reloaded : Session σ}
    (opened : loadIfThere.run (create path ignoredLabels cooldown source world) =
      (.ok (), start)) {calls : List Call} (careful : ∀ call ∈ calls, call.Careful)
    (ran : load.run (start.afterCalls calls) = (.ok (), reloaded)) (record : Record) :
    ((start.afterCalls calls).finding { record }).map (Prod.map id Rule.forget) =
      (reloaded.finding { record }).map (Prod.map id Rule.forget) := by
  have exact := exact_afterCalls (.opened opened) calls
  have current := current_afterCalls (.of_opened opened) careful
  have agrees := (agrees_of_open opened).afterCalls calls
  obtain ⟨contents, loaded⟩ := exists_loaded_of_load ran
  rw [current.finding_eq exact, finding_of_loaded exact agrees loaded]

/-- A matcher tests as a new one does exactly if the test of its first use does.  Where neither
the operator nor a pattern is changed after the first use this is so, and stored rules whose
matchers are edited with such care judge every record as they do once read from their file. -/
theorem finding_after_reload (σ : Type) [LogSource σ] :
    (∀ (matcher : Matcher) (acts : List Matcher.Act), matcher.compiled = none →
      let now := matcher.afterActs acts
      (∀ candidate, now.accepts candidate = now.forget.accepts candidate) ↔
        ∀ operator value, matcher.firstUse? acts = some (operator, value) →
          ∀ candidate, (Predicate.compile operator value).test now.value candidate =
            (Predicate.compile now.operator now.value).test now.value candidate) ∧
      (∀ matcher : Matcher, matcher.Careful →
        ∀ candidate, matcher.accepts candidate = matcher.forget.accepts candidate) ∧
      ∀ (path : String) (ignoredLabels : List String) (cooldown : Nat) (source : Option σ)
        (world : World) (start reloaded : Session σ) (calls : List Call),
        loadIfThere.run (create path ignoredLabels cooldown source world) = (.ok (), start) →
        (∀ call ∈ calls, call.Careful) →
        load.run (start.afterCalls calls) = (.ok (), reloaded) →
        ∀ record, ((start.afterCalls calls).finding { record }).map (Prod.map id Rule.forget) =
          (reloaded.finding { record }).map (Prod.map id Rule.forget) := by
  refine ⟨?_, ?_, ?_⟩
  · intro matcher acts unused
    exact Matcher.accepts_afterActs_eq_iff unused acts
  · intro matcher careful
    exact careful.accepts_eq_forget
  · intro path ignoredLabels cooldown source world start reloaded calls opened careful ran
    exact finding_of_reload opened careful ran

/-- A rule for equality whose operand was set after the first use. -/
def retargetedRule : Rule :=
  { id := 1, matchers := [(Matcher.equal "source" "cron").afterActs [.use, .setValue "sshd"]] }

/-- A rule is stored and then replaced by the other one. -/
def retargetingCalls : List Call :=
  [.add (.make false [.equal "source" "cron"]), .addOrUpdate retargetedRule]

/-- A store that was opened where there is no file. -/
def openedSession : Session Script := (loadIfThere.run emptySession).2

/-- A record of another source. -/
def sshdRecord : Record := { Bulk.cronRecord with labels := .ofList [("source", "sshd")] }

theorem finding_after_reload_retargeted :
    loadIfThere.run emptySession = (.ok (), openedSession) ∧
      (∀ call ∈ retargetingCalls, call.Careful) ∧
      ((openedSession.afterCalls retargetingCalls).finding { record := sshdRecord }).map (·.1) =
        some 0 ∧
      ∃ reloaded, load.run (openedSession.afterCalls retargetingCalls) = (.ok (), reloaded) ∧
        ((openedSession.afterCalls retargetingCalls).finding { record := sshdRecord }).map
            (Prod.map id Rule.forget) =
          (reloaded.finding { record := sshdRecord }).map (Prod.map id Rule.forget) := by
  have opened : loadIfThere.run emptySession = (.ok (), openedSession) := rfl
  have careful : ∀ call ∈ retargetingCalls, call.Careful := by
    have first : (Matcher.equal "source" "cron").Careful :=
      ⟨.equal "source" "cron", [], rfl, rfl, nofun⟩
    have second : ((Matcher.equal "source" "cron").afterActs [.use, .setValue "sshd"]).Careful := by
      refine ⟨.equal "source" "cron", [.use, .setValue "sshd"], rfl, rfl, ?_⟩
      intro operator value used
      cases used
      exact ⟨rfl, nofun⟩
    simp only [retargetingCalls, List.forall_mem_cons, Call.Careful, retargetedRule, Rule.make,
      List.not_mem_nil, false_imp_iff, implies_true, and_true]
    exact ⟨first, second⟩
  have agrees := (agrees_of_open opened).afterCalls retargetingCalls
  obtain ⟨contents, reloaded, ran, -⟩ := agrees.load_of_written rfl rfl rfl
  exact ⟨opened, careful, by decide +kernel, reloaded, ran,
    (finding_after_reload Script).2.2 _ _ _ _ _ _ _ _ opened careful ran sshdRecord⟩

/-- A store with a pattern that was used. -/
def usedSession : Session Script :=
  (emptySession.afterCalls [.add (.make false [.regex "source" "cron"])]).judged
    { record := Bulk.cronRecord }

/-- The stored rule with another pattern. -/
def staleRule : Rule :=
  let stored := (usedSession.store.ruleset.get? 1).getD {}
  { stored with matchers := stored.matchers.map (Matcher.Act.apply · (.setValue "sshd")) }

/-- The store once the rule is handed in. -/
def staleSession : Session Script := Call.after usedSession (.addOrUpdate staleRule)

/-- The rule is stored as it was handed in, and the store is in order. -/
theorem exact_staleSession : Exact staleSession ∧ Agrees staleSession := by
  have first := Call.step (.add (.make false [.regex "source" "cron"])) emptySession
  have second := Call.step (.addOrUpdate staleRule) usedSession
  have begins : Agrees emptySession := .inr ⟨rfl, rfl, rfl⟩
  constructor
  · exact (((exact_create _ _ _ _ _).of_step first).judged _).of_step second
  · exact ((begins.of_step first).of_watched (watched_judged _ _)).of_step second

/-- A pattern that is set after the first use has no effect until the file is read again: the
rule that was stored holds for no record with its pattern, and for one as soon as it is read. -/
theorem finding_of_stale_pattern :
    ((addOrUpdate staleRule).run usedSession).1 = .ok (.updated 1 1) ∧
      staleRule.matchers.map (·.accepts "sshd") = [false] ∧
      staleRule.matchers.map (·.forget.accepts "sshd") = [true] ∧
      staleSession.contents.rules =
        [{ id := 1, version := 1, matchers := [.regex "source" "sshd"] }] ∧
      (staleSession.finding { record := sshdRecord }).map (·.1) = none ∧
      ∃ reloaded, load.run staleSession = (.ok (), reloaded) ∧
        (reloaded.finding { record := sshdRecord }).map (·.1) = some 0 := by
  have stored : staleSession.contents.rules =
      [{ id := 1, version := 1, matchers := [.regex "source" "sshd"] }] := rfl
  refine ⟨rfl, by decide +kernel, by decide +kernel, stored, by decide +kernel, ?_⟩
  obtain ⟨exact, agrees⟩ := exact_staleSession
  obtain ⟨contents, reloaded, ran, loaded⟩ := agrees.load_of_written rfl rfl rfl
  refine ⟨reloaded, ran, ?_⟩
  have found := finding_of_loaded exact agrees loaded sshdRecord
  rw [stored] at found
  have positions := congrArg (Option.map Prod.fst) found
  rw [Option.map_map, Option.map_map] at positions
  exact positions.trans (by decide +kernel)

end Session

end LogSieve
