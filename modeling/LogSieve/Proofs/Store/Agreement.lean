import LogSieve.Proofs.RuleFormat
import LogSieve.Proofs.Store.Run
import LogSieve.Source.Script

/-!
# Memory and file agree

In a store that was opened, the file holds the rules of the memory, and their
version, after every run.  Only a store that was never written has no file, and
then there are no rules.  Steps on the files may fail anywhere, and so may the
source.
-/

namespace LogSieve.Session

open LogSieve.Store

variable {σ : Type}

/-- The rules in memory, as a file holds them. -/
def contents (session : Session σ) : Contents :=
  ⟨session.store.ruleset.rules.map Rule.forget, session.store.ruleset.version⟩

/-- The file holds what the memory holds, or there is no file and the memory is
empty. -/
def Agrees (session : Session σ) : Prop :=
  (∃ bytes, session.stored = .ok bytes ∧ Contents.decode? bytes = some session.contents) ∨
    (session.stored = .error .notFound ∧ session.store.ruleset.rules = [] ∧
      session.store.ruleset.version = 0)

theorem agrees_of_decode {session : Session σ} {bytes : ByteArray} {contents : Contents}
    (stands : session.stored = .ok bytes) (read : Contents.decode? bytes = some contents.forget)
    (rules : session.store.ruleset.rules = contents.rules)
    (version : session.store.ruleset.version = contents.version) : Agrees session := by
  refine .inl ⟨bytes, stands, ?_⟩
  rw [read, Session.contents, rules, version, Contents.forget]

theorem agrees_of_loaded {contents : Contents} {before after : Session σ}
    (loaded : Loaded contents before after) : Agrees after := by
  obtain ⟨⟨bytes, stands, read⟩, installed, stored⟩ := loaded
  apply agrees_of_decode (stored.trans stands) (by rw [read, Contents.forget_of_decode? read])
  · rw [installed.store]
    rfl
  · rw [installed.store]
    rfl

theorem Agrees.of_eq {before after : Session σ} (agrees : Agrees before)
    (stored : after.stored = before.stored) (contents : after.contents = before.contents) :
    Agrees after := by
  obtain ⟨bytes, stands, read⟩ | ⟨missing, rules, version⟩ := agrees
  · exact .inl ⟨bytes, stored.trans stands, by rw [contents, read]⟩
  · have none : after.store.ruleset.rules.map Rule.forget = [] := by
      rw [← List.map_nil, ← rules]
      exact congrArg Contents.rules contents
    have same : after.store.ruleset.version = before.store.ruleset.version :=
      congrArg Contents.version contents
    exact .inr ⟨stored.trans missing, List.map_eq_nil_iff.mp none, same.trans version⟩

/-- Reading leaves the rules alone, but for prepared tests. -/
theorem Watched.contents_eq {before after : Session σ} (watched : Watched before after) :
    after.contents = before.contents := by
  have forgets (rules : List Rule) :
      rules.map Rule.forget = (rules.map Rule.settled).map Rule.forget := by
    simp [Function.comp_def]
  rw [contents, contents, forgets, Ruleset.rules_of_settled_eq watched.ruleset, ← forgets,
    Ruleset.version_of_settled_eq watched.ruleset]

/-- Reading leaves alone what the file holds, and what it is to hold. -/
theorem Agrees.of_watched {before after : Session σ} (agrees : Agrees before)
    (watched : Watched before after) : Agrees after := by
  apply agrees.of_eq _ watched.contents_eq
  rw [stored, stored, watched.path, watched.world.disk]

/-- Every call keeps memory and file in agreement. -/
theorem Agrees.of_step [LogSource σ] {call : Call} {before after : Session σ}
    (agrees : Agrees before) (step : Step call before after) : Agrees after := by
  cases step with
  | kept kept => exact agrees.of_eq kept.stored (by rw [contents, contents, kept.store])
  | committed rules nextId committed supplied =>
      apply agrees_of_decode committed.stored (Contents.decode?_encode _)
      · rw [committed.installed.store]
        rfl
      · rw [committed.installed.store]
        rfl
  | written written =>
      apply agrees_of_decode written.stored (Contents.decode?_encode _)
      · rw [written.store]
      · rw [written.store]
  | loaded contents loaded => exact agrees_of_loaded loaded
  | read reads _ => exact agrees.of_watched reads.watched
  | waited nanoseconds waited =>
      subst waited
      exact agrees

/-- A store opens in agreement with its file. -/
theorem agrees_of_open {path : String} {ignoredLabels : List String} {cooldown : Nat}
    {source : Option σ} {world : World} {session : Session σ}
    (opened : loadIfThere.run (create path ignoredLabels cooldown source world) =
      (.ok (), session)) : Agrees session := by
  obtain ⟨contents, loaded⟩ | ⟨missing, kept⟩ := loaded_or_missing_of_open opened
  · exact agrees_of_loaded loaded
  · refine .inr ⟨kept.stored.trans missing, ?_, ?_⟩
    · rw [kept.store]
      rfl
    · rw [kept.store]
      rfl

/-- Memory and file agree after every run of a store that was opened, whatever
fails on the way. -/
theorem agrees_afterCalls [LogSource σ] (path : String) (ignoredLabels : List String)
    (cooldown : Nat) (source : Option σ) (world : World) (session : Session σ)
    (opened : loadIfThere.run (create path ignoredLabels cooldown source world) =
      (.ok (), session)) (calls : List Call) : Agrees (session.afterCalls calls) :=
  afterCalls_induction (fun _ _ _ _ step agrees => agrees.of_step step) (agrees_of_open opened)

/-- A world without files where the second step on a file that is written fails
after three bytes. -/
def faultyWorld : World :=
  { disk := { faults := [none, none, some { error := .busy, written := 3 }] } }

/-- A store opened there. -/
def faultySession : Session Script :=
  (loadIfThere.run (create "rules.json" [] 0 none faultyWorld)).2

/-- Calls of which the first, the third and the fourth fail. -/
def faultyCalls : List Call :=
  [.add (.make true [.equal "source" "cron"]), .add (.make false [.equal "source" "sshd"]),
    .delete 7, .logs, .save]

theorem agrees_afterCalls_faultyWorld :
    loadIfThere.run (create "rules.json" [] 0 none faultyWorld) = (.ok (), faultySession) ∧
      (faultySession.afterCalls faultyCalls).store.ruleset.rules.map (·.id) = [1] ∧
      Agrees (faultySession.afterCalls faultyCalls) := by
  have opened : loadIfThere.run (create "rules.json" [] 0 none faultyWorld) =
      (.ok (), faultySession) := rfl
  exact ⟨opened, by decide +kernel, agrees_afterCalls _ _ _ _ _ _ opened faultyCalls⟩

end LogSieve.Session
