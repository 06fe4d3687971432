import SiteCache.Proofs.Site.Reading

/-!
# What reads keep and where they stop

An action is confined to a property and to some faults if it keeps the property and stops at such
faults only (`Action.Confined`).  What is read of a website stops where the calls of the remote
store stop, and where their answers lack something.
-/

namespace SiteCache

open SiteCache.Action

/-! ### Faults that actions stop at -/

namespace Action

variable {σ τ α β : Type} {I : σ → Prop} {F : Fault → Prop} {a : Action σ α}

/-- From states with a property, the action keeps the property and stops only at such faults. -/
def Confined (I : σ → Prop) (F : Fault → Prop) (a : Action σ α) : Prop :=
  ∀ s, I s → (∀ fault, (a.perform s).1 = .error fault → F fault) ∧ I (a.perform s).2

theorem confined_pure (x : α) :
  Confined I F (pure x)
  := by
  intro s hs
  refine ⟨?_, hs⟩
  rintro fault ⟨⟩

theorem confined_throw {fault : Fault} (h : F fault) :
  Confined I F (throw fault : Action σ α)
  := by
  intro s hs
  refine ⟨?_, hs⟩
  rintro _ ⟨⟩
  exact h

theorem confined_ofExcept {answer : Except Fault α} (h : ∀ fault, answer = .error fault → F fault) :
  Confined I F (ofExcept answer)
  := fun _ hs => ⟨h, hs⟩

theorem Confined.bind {f : α → Action σ β} (h : a.Confined I F) (next : ∀ x, (f x).Confined I F) :
  (a >>= f).Confined I F
  := by
  intro s hs
  obtain ⟨faults, kept⟩ := h s hs
  rw [perform_bind]
  generalize a.perform s = ended at faults kept
  rcases ended with ⟨fault | x, t⟩
  · refine ⟨?_, kept⟩
    rintro _ ⟨⟩
    exact faults fault rfl
  · exact next x t kept

theorem confined_mapM {f : α → Action σ β} (h : ∀ x, (f x).Confined I F) (xs : List α) :
  (xs.mapM f).Confined I F
  := by
  induction xs with
  | nil => exact confined_pure []
  | cons x xs ih =>
      rw [List.mapM_cons]
      exact (h x).bind fun _ => ih.bind fun _ => confined_pure _

/-- What is answered from all states with a property is no fault. -/
theorem Answers.confined {x : α} (h : a.Answers I x) :
  a.Confined I F
  := by
  intro s hs
  obtain ⟨t, ht, ended⟩ := h s hs
  rw [ended]
  refine ⟨?_, ht⟩
  rintro fault ⟨⟩

/-- A search through a list that stops, stops at one of its elements. -/
theorem error_of_mapM {f : α → Except Fault β} {xs : List α} {fault : Fault}
    (stopped : xs.mapM f = .error fault) :
  ∃ x ∈ xs, f x = .error fault
  := by
  induction xs with
  | nil => cases stopped
  | cons x xs ih =>
      rw [List.mapM_cons] at stopped
      cases first : f x with
      | error fault' =>
          rw [first] at stopped
          obtain rfl := Except.error.inj stopped
          exact ⟨x, List.mem_cons_self, first⟩
      | ok y =>
          rw [first] at stopped
          cases rest : xs.mapM f with
          | error fault' =>
              rw [rest] at stopped
              obtain rfl := Except.error.inj stopped
              obtain ⟨z, hz, later⟩ := ih rest
              exact ⟨z, List.mem_cons_of_mem x hz, later⟩
          | ok ys =>
              rw [rest] at stopped
              cases stopped

/-- An action on a part of the state keeps what it keeps of that part. -/
theorem Confined.within {part : σ → τ} {replace : σ → τ → σ} {J : τ → Prop} {a : Action τ α}
    (h : a.Confined J F) (parted : ∀ s, I s → J (part s))
    (whole : ∀ s t, I s → J t → I (replace s t)) :
  (a.within part replace).Confined I F
  := by
  intro s hs
  obtain ⟨faults, kept⟩ := h (part s) (parted s hs)
  exact ⟨faults, whole s _ hs kept⟩

/-- What follows an action that stops is not done. -/
theorem stopped_bind {f : α → Action σ β} {s : σ} {fault : Fault}
    (stopped : (a.perform s).1 = .error fault) :
  ((a >>= f).perform s).1 = .error fault
  := by
  rw [perform_bind]
  generalize a.perform s = ended at stopped
  rcases ended with ⟨_ | x, t⟩
  · obtain rfl := Except.error.inj stopped
    rfl
  · cases stopped

end Action

/-! ### Remote stores -/

section Remote

variable {σ : Type} [Remote σ] {I : σ → Prop} {F : Fault → Prop} {address : String}
  (values : ∀ keys, (Remote.values address keys : Action σ _).Confined I F)
  (corrupt : ∀ damage, F (.corrupt damage))
include values corrupt

namespace Remote

theorem confined_aligned (read : Read) (keys : List Octets) :
  (aligned read address keys : Action σ _).Confined I F
  := by
  apply (values keys).bind
  intro values
  split
  · apply confined_pure
  · exact confined_throw (corrupt _)

theorem confined_single (key : Octets) :
  (single address key : Action σ _).Confined I F
  := (confined_aligned values corrupt .single [key]).bind fun _ => confined_pure _

end Remote

namespace Reader

theorem confined_listPaths
    (keys : (Remote.keys address : Action σ _).Confined I F) :
  (listPaths address : Action σ _).Confined I F
  := by
  apply keys.bind
  intro keys
  exact (confined_mapM (Remote.confined_aligned values corrupt .paths) _).bind fun _ =>
    confined_pure _

theorem confined_chunkCount {path : String} (uncounted : F (.notFound (.chunkCount path))) :
  (chunkCount address path : Action σ _).Confined I F
  := by
  apply (Remote.confined_single values corrupt _).bind
  intro b
  cases b with
  | none => exact confined_throw uncounted
  | some b =>
      apply confined_ofExcept
      rintro fault decoded
      simp only [Chunk.decodeCount] at decoded
      split at decoded
      · obtain rfl := Except.error.inj decoded
        apply corrupt
      · split at decoded
        · obtain rfl := Except.error.inj decoded
          apply corrupt
        · cases decoded

theorem confined_fetchBatch (path : String) (indices : List Nat) :
  (fetchBatch address path indices : Action σ _).Confined I F
  := by
  apply (Remote.confined_aligned values corrupt .chunks _).bind
  intro values
  refine Confined.bind (confined_ofExcept ?_) fun _ => confined_pure _
  intro fault stopped
  obtain ⟨chunk, -, empty⟩ := error_of_mapM stopped
  rw [wholeChunk] at empty
  split at empty
  · cases empty
  · obtain rfl := Except.error.inj empty
    apply corrupt

theorem confined_assemble {path : String} (uncounted : F (.notFound (.chunkCount path))) :
  (assemble address path : Action σ _).Confined I F
  := (confined_chunkCount values corrupt uncounted).bind fun _ =>
    (confined_mapM (confined_fetchBatch values corrupt path) _).bind fun _ => confined_pure _

end Reader

end Remote

/-! ### Readers -/

namespace Reader

variable {σ : Type} [Remote σ] {I : Reader σ → Prop} {F : Fault → Prop} {now : Nat}
  {address : String}

/-- Reading a path list keeps what the remote store keeps. -/
theorem confined_paths_of_listPaths {J : σ → Prop} (clock : F .clock)
    (listed : (listPaths address : Action σ _).Confined J F) :
  (paths now address : Action (Reader σ) _).Confined (fun r => J r.remote) F
  := by
  intro r hr
  obtain ⟨faults, kept⟩ := listed r.remote hr
  cases remembered : r.lists.get now address with
  | some list =>
      rw [perform_paths, remembered]
      refine ⟨?_, hr⟩
      rintro fault ⟨⟩
  | none =>
      rw [perform_paths_of_forgotten remembered]
      generalize (listPaths address).perform r.remote = read at faults kept
      obtain ⟨fault | found, s⟩ := read
      · refine ⟨?_, kept⟩
        rintro _ ⟨⟩
        exact faults fault rfl
      · simp only
        split
        · refine ⟨?_, kept⟩
          rintro fault ⟨⟩
        · refine ⟨?_, kept⟩
          rintro _ ⟨⟩
          exact clock

section Listed

variable (listed : (paths now address : Action (Reader σ) _).Confined I F)
include listed

theorem confined_stores (path : String) :
  (stores now address path).Confined I F
  := listed.bind fun _ => confined_pure _

theorem confined_firstStored (candidates : List String) :
  (firstStored now address candidates).Confined I F
  := by
  induction candidates with
  | nil => apply confined_pure
  | cons path rest ih =>
      cases rest with
      | nil => exact (confined_stores listed path).bind fun _ => confined_pure _
      | cons next rest =>
          apply (confined_stores listed path).bind
          intro stored
          cases stored with
          | true => apply confined_pure
          | false => exact ih

theorem confined_resolve (requested : String) :
  (resolve now address requested).Confined I F
  := confined_firstStored listed _

theorem confined_fetch {path : String}
    (assembled : (onRemote (assemble address path) : Action (Reader σ) _).Confined I F)
    (unlisted : F (.notFound (.file path))) :
  (fetch now address path).Confined I F
  := by
  rw [fetch_eq]
  apply (confined_stores listed path).bind
  intro stored
  split
  · exact assembled
  · exact confined_throw unlisted

end Listed

end Reader

end SiteCache
