import SiteCache.Fault

/-!
# Actions

An `Action` changes a state and answers a value or stops with a fault; what it changed before
the fault stays changed.  `within` lets an action on a part of a state act on the whole.
-/

namespace SiteCache

/-- A step on a state, with a value or a fault as its answer. -/
abbrev Action (σ α : Type) := ExceptT Fault (StateM σ) α

namespace Action

variable {σ τ α : Type}

/-- The answer and the new state of an action. -/
def perform (a : Action σ α) (s : σ) : Except Fault α × σ := a.run s

/-- The action that answers without a fault as a function of the state. -/
def ofStep (step : σ → Except Fault α × σ) : Action σ α := ExceptT.mk step

/-- Acts on the part of a state that `part` reads and `replace` writes. -/
def within (part : σ → τ) (replace : σ → τ → σ) (a : Action τ α) : Action σ α :=
  ofStep fun s =>
    let (answer, t) := a.perform (part s)
    (answer, replace s t)

/-- The value of an action or the fault it stops with, without stopping. -/
def attempt (a : Action σ α) : Action σ (Except Fault α) :=
  ofStep fun s =>
    let (answer, t) := a.perform s
    (.ok answer, t)

/-- Answers with a value or a fault that is already there. -/
def ofExcept (answer : Except Fault α) : Action σ α := ofStep fun s => (answer, s)

@[simp]
theorem perform_pure (x : α) (s : σ) :
  perform (pure x : Action σ α) s = (.ok x, s)
  := rfl

@[simp]
theorem perform_throw (f : Fault) (s : σ) :
  perform (throw f : Action σ α) s = (.error f, s)
  := rfl

/-- A fault stops the actions after it. -/
theorem perform_bind {β : Type} (a : Action σ α) (f : α → Action σ β) (s : σ) :
  perform (a >>= f) s
    = match perform a s with
      | (.ok x, t) => perform (f x) t
      | (.error e, t) => (.error e, t)
  := by
  simp only [perform, bind, ExceptT.bind, ExceptT.run, ExceptT.mk, StateT.bind]
  rcases a s with ⟨answer | answer, t⟩ <;> rfl

/-- A function is applied to the answer alone. -/
theorem perform_map {β : Type} (f : α → β) (a : Action σ α) (s : σ) :
  perform (f <$> a) s = ((perform a s).1.map f, (perform a s).2)
  := by
  simp only [perform, Functor.map, ExceptT.map, ExceptT.run, ExceptT.mk, bind, StateT.bind]
  rcases a s with ⟨answer | answer, t⟩ <;> rfl

@[simp]
theorem perform_get (s : σ) :
  perform (get : Action σ σ) s = (.ok s, s)
  := rfl

@[simp]
theorem perform_modify (f : σ → σ) (s : σ) :
  perform (modify f : Action σ Unit) s = (.ok (), f s)
  := rfl

@[simp]
theorem perform_within (part : σ → τ) (replace : σ → τ → σ) (a : Action τ α) (s : σ) :
  perform (within part replace a) s
    = ((perform a (part s)).1, replace s (perform a (part s)).2)
  := rfl

@[simp]
theorem perform_attempt (a : Action σ α) (s : σ) :
  perform (attempt a) s = (.ok (perform a s).1, (perform a s).2)
  := rfl

@[simp]
theorem perform_ofStep (step : σ → Except Fault α × σ) (s : σ) :
  perform (ofStep step) s = step s
  := rfl

@[simp]
theorem perform_ofExcept (answer : Except Fault α) (s : σ) :
  perform (ofExcept answer : Action σ α) s = (answer, s)
  := rfl

end Action

end SiteCache
