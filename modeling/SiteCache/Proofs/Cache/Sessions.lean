import SiteCache.Proofs.Cache.Inventory

/-!
# Sessions are sound

Whatever happens in sessions on an engine that was empty at first, its records hold a queue of
copies, and an open cache holds the two lists (`Session.sound_after`).  Insertion ids are only given
out in calls of the engine, so that they are words as long as the engine was asked fewer calls than
there are words.
-/

namespace SiteCache

variable {hash : Identity → UInt64}

namespace Session

/-- The records hold a queue, or the cache two lists, with no more insertion ids than calls. -/
def Sound : Session hash → Prop
  | .closed e => ∃ q nextId, e.records.Queue q nextId ∧ nextId ≤ e.asked.length
  | .opened c => ∃ ram disk, c.Holds ram disk ∧ c.disk.nextId ≤ c.disk.engine.asked.length

variable {s : Session hash} {x : Step}

/-- Steps only add to the calls of the engine. -/
theorem asked_le_step (s : Session hash) (x : Step) :
  s.engine.asked.length ≤ (s.step x).2.engine.asked.length
  := by
  cases s with
  | opened c =>
      cases x with
      | ask r => exact (Cache.leads_serve c r).disk.asked_le
      | close =>
          obtain ⟨d, leads, ended⟩ := Cache.leads_close c
          simp only [step, engine, ended]
          exact leads.asked_le
      | drop => exact Nat.le_refl _
      | reopen bounds => exact Nat.le_refl _
  | closed e =>
      cases x with
      | ask r => exact Nat.le_refl _
      | close => exact Nat.le_refl _
      | drop => exact Nat.le_refl _
      | reopen bounds =>
          simp only [step]
          cases opens : Cache.open? hash bounds e with
          | ok c =>
              obtain ⟨calls, same⟩ := Cache.engine_opened opens
              simp [engine, same, Engine.asking]
          | error failure =>
              obtain ⟨calls, same⟩ := Cache.engine_unopened opens
              simp [engine, same, Engine.asking]

theorem asked_le_after (s : Session hash) (steps : List Step) :
  s.engine.asked.length ≤ (s.after steps).engine.asked.length
  := by
  induction steps generalizing s with
  | nil => exact Nat.le_refl _
  | cons x steps ih => exact Nat.le_trans (asked_le_step s x) (ih (s.step x).2)

theorem Sound.step (h : s.Sound) (fits : x.Fits)
    (few : (s.step x).2.engine.asked.length < wordBound) :
  (s.step x).2.Sound
  := by
  cases s with
  | opened c =>
      obtain ⟨ram, disk, holds, counted⟩ := h
      cases x with
      | ask r =>
          have counted := (Cache.leads_serve c r).disk.counted counted
          obtain ⟨ram', disk', holds', -⟩ := holds.serve fits (Nat.lt_of_le_of_lt counted few)
          exact ⟨ram', disk', holds', counted⟩
      | close =>
          have all : c.All fun _ => True :=
            fun _ => ⟨ram, disk, holds, fun _ _ => trivial, fun _ _ => trivial⟩
          obtain ⟨q, nextId, queue, counted, -⟩ := all.close (fun _ _ => trivial) counted few
          exact ⟨q, nextId, queue, counted⟩
      | drop =>
          obtain ⟨q, queue, -⟩ := holds.lists.queue
          exact ⟨q, c.disk.nextId, queue, counted⟩
      | reopen bounds => exact ⟨ram, disk, holds, counted⟩
  | closed e =>
      obtain ⟨q, nextId, queue, counted⟩ := h
      cases x with
      | ask r => exact ⟨q, nextId, queue, counted⟩
      | close => exact ⟨q, nextId, queue, counted⟩
      | drop => exact ⟨q, nextId, queue, counted⟩
      | reopen bounds =>
          simp only [Session.step]
          cases opens : Cache.open? hash bounds e with
          | ok c =>
              obtain ⟨holds, -, -, calls, tier⟩ := Cache.holds_of_open? queue opens
              refine ⟨[], _, holds, ?_⟩
              rw [tier]
              simp only [Engine.asking, List.length_append]
              omega
          | error failure =>
              obtain ⟨calls, same⟩ := Cache.engine_unopened opens
              refine ⟨q, nextId, by rw [same]; exact queue, ?_⟩
              rw [same]
              simp only [Engine.asking, List.length_append]
              omega

/-- Sessions on an engine that was empty at first are sound, as long as it was asked fewer calls
than there are words. -/
theorem sound_after {e : Engine} (empty : e.records = .empty) {steps : List Step}
    (fits : ∀ x ∈ steps, x.Fits)
    (few : ((Session.closed e : Session hash).after steps).engine.asked.length < wordBound) :
  ((Session.closed e : Session hash).after steps).Sound
  := by
  have start : (Session.closed e : Session hash).Sound :=
    ⟨[], 0, empty ▸ Records.Queue.of_empty, Nat.zero_le _⟩
  generalize (Session.closed e : Session hash) = s at start few
  induction steps generalizing s with
  | nil => exact start
  | cons x steps ih =>
      obtain ⟨fitsX, fits⟩ := List.forall_mem_cons.1 fits
      have step := asked_le_after (s.step x).2 steps
      exact ih fits _ (start.step fitsX (Nat.lt_of_le_of_lt step few)) few

end Session

end SiteCache
