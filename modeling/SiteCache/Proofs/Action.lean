import SiteCache.Action

/-!
# Actions in related states

An action respects a relation between states (`Action.Respects`) if it gives the same answer in
related states and leaves them related; it answers a value (`Action.Answers`) if it does so from all
states with some property and keeps the property.  Both are kept by every way to build an action.
-/

namespace SiteCache

namespace Action

variable {σ τ α β : Type} {R : σ → σ → Prop} {P : σ → Prop} {a : Action σ α}

/-- Two actions answer if both of them do. -/
theorem of_perform_bind {f : α → Action σ β} {s t : σ} {y : β}
    (ended : (a >>= f).perform s = (.ok y, t)) :
  ∃ x u, a.perform s = (.ok x, u) ∧ (f x).perform u = (.ok y, t)
  := by
  rw [perform_bind] at ended
  rcases first : a.perform s with ⟨fault | x, u⟩
  · rw [first] at ended
    cases ended
  · rw [first] at ended
    exact ⟨x, u, rfl, ended⟩

/-- From related states the action gives the same answer, and it leads to related states. -/
def Respects (R : σ → σ → Prop) (a : Action σ α) : Prop :=
  ∀ s t, R s t → (a.perform s).1 = (a.perform t).1 ∧ R (a.perform s).2 (a.perform t).2

theorem respects_pure (x : α) :
  Respects R (pure x)
  := fun _ _ related => ⟨rfl, related⟩

theorem respects_throw (fault : Fault) :
  Respects R (throw fault : Action σ α)
  := fun _ _ related => ⟨rfl, related⟩

theorem respects_ofExcept (answer : Except Fault α) :
  Respects R (ofExcept answer)
  := fun _ _ related => ⟨rfl, related⟩

theorem Respects.bind {f : α → Action σ β} (h : a.Respects R) (next : ∀ x, (f x).Respects R) :
  (a >>= f).Respects R
  := by
  intro s t related
  obtain ⟨same, later⟩ := h s t related
  rw [perform_bind, perform_bind]
  rcases first : a.perform s with ⟨answer, s'⟩
  rcases second : a.perform t with ⟨answer', t'⟩
  rw [first, second] at same later
  obtain rfl : answer = answer' := same
  cases answer with
  | error fault => exact ⟨rfl, later⟩
  | ok x => exact next x s' t' later

theorem Respects.map (h : a.Respects R) (f : α → β) :
  (f <$> a).Respects R
  := by
  intro s t related
  obtain ⟨same, later⟩ := h s t related
  rw [perform_map, perform_map]
  exact ⟨congrArg (Except.map f) same, later⟩

theorem respects_mapM {f : α → Action σ β} (h : ∀ x, (f x).Respects R) (xs : List α) :
  (xs.mapM f).Respects R
  := by
  induction xs with
  | nil => exact respects_pure []
  | cons x xs ih =>
      rw [List.mapM_cons]
      exact (h x).bind fun _ => ih.bind fun _ => respects_pure _

/-- From states with this property the action answers this and keeps the property. -/
def Answers (P : σ → Prop) (a : Action σ α) (x : α) : Prop :=
  ∀ s, P s → ∃ t, P t ∧ a.perform s = (.ok x, t)

theorem answers_pure (x : α) :
  Answers P (pure x) x
  := fun s hs => ⟨s, hs, rfl⟩

theorem Answers.bind {a : Action σ α} {f : α → Action σ β} {x : α} {y : β} (h : a.Answers P x)
    (next : (f x).Answers P y) :
  (a >>= f).Answers P y
  := by
  intro s hs
  obtain ⟨t, ht, first⟩ := h s hs
  obtain ⟨u, hu, second⟩ := next t ht
  refine ⟨u, hu, ?_⟩
  rw [perform_bind, first]
  exact second

theorem answers_mapM {f : α → Action σ β} {g : α → β} {xs : List α}
    (h : ∀ x ∈ xs, (f x).Answers P (g x)) :
  (xs.mapM f).Answers P (xs.map g)
  := by
  induction xs with
  | nil => exact answers_pure []
  | cons x xs ih =>
      obtain ⟨first, rest⟩ := List.forall_mem_cons.1 h
      rw [List.mapM_cons, List.map_cons]
      exact first.bind ((ih rest).bind (answers_pure _))

end Action

end SiteCache
