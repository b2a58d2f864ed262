import LogSieve.Store.Basic

/-!
# Running actions

What an action comes to is computed part by part: a failure ends a sequence and
keeps what was changed before it.
-/

namespace LogSieve

namespace Action

variable {σ α β : Type}

@[simp] theorem run_pure (value : α) (state : σ) :
    (pure value : Action σ α).run state = (.ok value, state) := rfl

@[simp] theorem run_throw (error : TriageError) (state : σ) :
    (throw error : Action σ α).run state = (.error error, state) := rfl

@[simp] theorem run_get (state : σ) : (get : Action σ σ).run state = (.ok state, state) := rfl

@[simp] theorem run_set (changed state : σ) :
    (set changed : Action σ PUnit).run state = (.ok ⟨⟩, changed) := rfl

@[simp] theorem run_modify (change : σ → σ) (state : σ) :
    (modify change : Action σ PUnit).run state = (.ok ⟨⟩, change state) := rfl

@[simp] theorem run_ofExcept (outcome : Except TriageError α) (state : σ) :
    (MonadExcept.ofExcept outcome : Action σ α).run state = (outcome, state) := by
  cases outcome <;> rfl

/-- The second part of a sequence runs where the first one succeeded. -/
@[simp] theorem run_bind (first : Action σ α) (next : α → Action σ β) (state : σ) :
    (first >>= next).run state =
      match first.run state with
      | (.ok value, after) => (next value).run after
      | (.error error, after) => (.error error, after) := by
  change (ExceptT.bindCont next (first.run state).1) (first.run state).2 = _
  rcases first.run state with ⟨_ | _, _⟩ <;> rfl

/-- A handler runs where the action failed. -/
@[simp] theorem run_tryCatch (action : Action σ α) (handler : TriageError → Action σ α)
    (state : σ) :
    (tryCatch action handler).run state =
      match action.run state with
      | (.ok value, after) => (.ok value, after)
      | (.error error, after) => (handler error).run after := by
  change (ExceptT.tryCatch action handler).run state = _
  rw [ExceptT.tryCatch]
  cases ran : action.run state with
  | mk outcome after =>
      change (ExceptT.run action >>= _ : StateM σ _) state = _
      simp only [bind, StateT.bind, ran]
      cases outcome <;> rfl

end Action

namespace Session

variable {σ : Type}

@[simp] theorem run_note (event : Event) (session : Session σ) :
    (note event).run session = (.ok (), { session with world := session.world.note event }) := rfl

@[simp] theorem run_changeWorld (change : World → World) (session : Session σ) :
    (changeWorld change).run session =
      (.ok (), { session with world := change session.world }) := rfl

@[simp] theorem run_changeStore (change : Store σ → Store σ) (session : Session σ) :
    (changeStore change).run session =
      (.ok (), { session with store := change session.store }) := rfl

end Session

end LogSieve
