import LogSieve.Proofs.Store.Editing
import LogSieve.Proofs.Store.Judging

/-!
# Runs of a store

A run is a sequence of calls, with any time between them.  What a single call can
do is said once: it changes nothing, commits a change of the rules, writes the
file, loads it, reads, or lets time pass.  A property of all runs follows from one
case for each of these.
-/

namespace LogSieve.Session

open LogSieve.Store

variable {σ : Type}

/-- What can be asked of a store; time passes between calls. -/
inductive Call where
  | add (rule : Rule)
  | addOrUpdate (rule : Rule)
  | delete (id : UInt64)
  | classify (hash : UInt64) (ham : Bool)
  | save
  | load
  | logs
  | logCount
  | hitCount (id : UInt64)
  | summary (top : Nat)
  | wait (nanoseconds : Nat)

namespace Call

/-- The session after a call, whether or not it failed. -/
def after [LogSource σ] (session : Session σ) : Call → Session σ
  | .add rule => ((Session.add rule).run session).2
  | .addOrUpdate rule => ((Session.addOrUpdate rule).run session).2
  | .delete id => ((Session.delete id).run session).2
  | .classify hash ham => ((Session.classify hash ham).run session).2
  | .save => (Session.save.run session).2
  | .load => (Session.load.run session).2
  | .logs => (Session.logs.run session).2
  | .logCount => (Session.logCount.run session).2
  | .hitCount id => ((Session.hitCount id).run session).2
  | .summary top => ((Session.summary top).run session).2
  | .wait nanoseconds => { session with world := session.world.advance nanoseconds }

/-- Whether a call only reads. -/
def isReading : Call → Bool
  | .logs | .logCount | .hitCount _ | .summary _ => true
  | _ => false

/-- The rules that a call brings in, up to id and version. -/
def Supplies : Call → Rule → Prop
  | .add given, rule | .addOrUpdate given, rule => rule.matchers = given.matchers
  | .classify _ _, rule => rule.isUnused = true
  | _, _ => False

end Call

/-- The session after calls in turn. -/
def afterCalls [LogSource σ] (session : Session σ) (calls : List Call) : Session σ :=
  calls.foldl Call.after session

/-- What a call can do. -/
inductive Step [LogSource σ] (call : Call) (before after : Session σ) : Prop
  | kept (kept : Kept before after)
  | committed (rules : List Rule) (nextId : Option UInt64)
      (committed : Committed rules nextId before after)
      (supplied : ∀ rule ∈ rules, rule ∈ before.store.ruleset.rules ∨ call.Supplies rule)
  | written (written : Written ⟨before.store.ruleset.rules, before.store.ruleset.version⟩
      before after)
  | loaded (contents : Contents) (loaded : Loaded contents before after)
  | read (reads : Reads before after) (reading : call.isReading = true)
  | waited (nanoseconds : Nat)
      (waited : after = { before with world := before.world.advance nanoseconds })

theorem mem_withAdded {before : Session σ} {given rule : Rule}
    (member : rule ∈ before.withAdded given) :
    rule ∈ before.store.ruleset.rules ∨ rule.matchers = given.matchers := by
  rw [withAdded, List.mem_append, List.mem_singleton] at member
  obtain known | rfl := member
  · exact .inl known
  · exact .inr rfl

theorem isUnused_ruleFor (ignored : List String) (record : Record) (ham : Bool) :
    (ruleFor ignored record ham).isUnused = true := by
  simp [ruleFor, Rule.make, Rule.isUnused, Matcher.equal]

variable [LogSource σ]

/-- Every call does one of the things said. -/
theorem Call.step (call : Call) (before : Session σ) : Step call before (call.after before) := by
  cases call with
  | add rule =>
      obtain ⟨after, ran, added⟩ | ⟨path, reason, after, ran, kept⟩ := addAs_cases "add" rule before
      · rw [Call.after, Session.add, ran]
        exact .committed _ _ added fun _ => mem_withAdded
      · rw [Call.after, Session.add, ran]
        exact .kept kept
  | addOrUpdate rule =>
      obtain ⟨after, ran, -, added⟩ | ⟨position, current, after, ran, -, -, -, committed⟩ |
        ⟨current, after, ran, -, -, kept⟩ | ⟨path, reason, after, ran, -, kept⟩ :=
        addOrUpdate_cases rule before
      · rw [Call.after, ran]
        exact .committed _ _ added fun _ => mem_withAdded
      · rw [Call.after, ran]
        refine .committed _ _ committed fun other member => ?_
        obtain known | rfl := List.mem_or_eq_of_mem_set member
        · exact .inl known
        · exact .inr rfl
      · rw [Call.after, ran]
        exact .kept kept
      · rw [Call.after, ran]
        exact .kept kept
  | delete id =>
      obtain ⟨position, after, ran, -, committed⟩ | ⟨error, after, ran, kept⟩ :=
        delete_cases id before
      · rw [Call.after, ran]
        exact .committed _ _ committed fun _ member => .inl (List.mem_of_mem_eraseIdx member)
      · rw [Call.after, ran]
        exact .kept kept
  | classify hash ham =>
      obtain ⟨record, after, ran, -, added⟩ | ⟨error, after, ran, kept⟩ :=
        classify_cases hash ham before
      · rw [Call.after, ran]
        refine .committed _ _ added fun rule member => ?_
        obtain known | made := mem_withAdded member
        · exact .inl known
        · refine .inr ?_
          rw [Call.Supplies, Rule.isUnused, made]
          exact isUnused_ruleFor before.store.ignoredLabels record ham
      · rw [Call.after, ran]
        exact .kept kept
  | save =>
      obtain ⟨after, ran, written⟩ | ⟨path, reason, after, ran, kept⟩ :=
        persist_cases before.store.ruleset before
      · rw [Call.after, run_save, ran]
        exact .written written
      · rw [Call.after, run_save, ran]
        exact .kept kept
  | load =>
      obtain ⟨contents, after, ran, loaded⟩ | ⟨error, after, ran, kept⟩ := load_cases before
      · rw [Call.after, ran]
        exact .loaded contents loaded
      · rw [Call.after, ran]
        exact .kept kept
  | logs => exact .read (reads_logs before) rfl
  | logCount => exact .read (reads_logCount before) rfl
  | hitCount id => exact .read (reads_hitCount id before) rfl
  | summary top => exact .read (reads_summary top before) rfl
  | wait nanoseconds => exact .waited nanoseconds rfl

/-- What every step of a run keeps holds after the run. -/
theorem afterCalls_induction {Holds : Session σ → Prop} {calls : List Call}
    (keeps : ∀ call ∈ calls, ∀ before after, Step call before after → Holds before → Holds after)
    {session : Session σ} (holds : Holds session) : Holds (session.afterCalls calls) := by
  induction calls generalizing session with
  | nil => exact holds
  | cons call rest ih =>
      have first := keeps call (by simp) _ _ (call.step session) holds
      exact ih (fun other member => keeps other (List.mem_cons_of_mem _ member)) first

end LogSieve.Session
