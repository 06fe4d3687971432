import SiteCache.Proofs.Cache.Sessions

/-!
# Flushing

A cache that is closed saves the copies of its RAM tier to disk one after another, least recently
used first, and then closes the engine.  `Cache.flushed` is the disk tier after some of these saves.
It lists copies again, no more than its bound allows or, if that is more, than it listed before
(`DiskTier.Stored`); and the fault that closing answers, if any, is that of one of the saves or of
the engine.
-/

namespace SiteCache

variable {hash : Identity → UInt64} {d d' : DiskTier} {copies : List Copy} {x : Copy} {n : Nat}

namespace DiskTier

/-- The tier lists copies, so many or as many as its bound allows, and no more insertion ids were
given out than calls were made. -/
structure Stored (length : Nat) (d : DiskTier) : Prop where
  listed : ∃ copies, d.Lists copies ∧ copies.length ≤ max length d.capacity
  counted : d.nextId ≤ d.engine.asked.length

/-- A save that succeeds makes the list of copies longer if the identity is new and the bound allows
it, and not otherwise. -/
theorem Saved.grown {dropped : Option Identity} (ends : Saved d x (.ok dropped) d')
    (h : d.Lists copies) (room : 0 < d.capacity) (fits : x.identity.Fits)
    (countable : d'.nextId < wordBound) :
  ∃ copies', d'.Lists copies' ∧ copies'.length
    = if Copy.of? x.identity copies = none ∧ copies.length < d.capacity then copies.length + 1
      else copies.length
  := by
  obtain ⟨_, -, answer, -⟩ | ⟨-, -, lists⟩ := ends.lists h fits countable
  · cases answer
  · exact ⟨_, lists, Copy.length_moved_kept h.nodup room x.settled⟩

/-- Whether it succeeds or not, a save leaves copies that are so many. -/
theorem Saved.stored {answer : Except Fault (Option Identity)} {length : Nat}
    (ends : Saved d x answer d') (h : d.Stored length) (room : 0 < d.capacity)
    (fits : x.identity.Fits) (few : d'.engine.asked.length < wordBound) :
  d'.Stored length
  := by
  obtain ⟨copies, lists, bounded⟩ := h.listed
  have counted := ends.leads.counted h.counted
  have fewer := Copy.length_kept_le d.capacity x.identity copies
  have longer := Copy.length_moved_kept lists.nodup room x.settled
  refine ⟨?_, counted⟩
  rw [ends.leads.capacity_eq]
  obtain ⟨_, -, -, lists | lists⟩ | ⟨-, -, lists⟩ :=
    ends.lists lists fits (Nat.lt_of_le_of_lt counted few)
  · exact ⟨_, lists, bounded⟩
  · exact ⟨_, lists, Nat.le_trans fewer bounded⟩
  · refine ⟨_, lists, ?_⟩
    rw [Copy.identity_settled] at longer
    split at longer
    · omega
    · omega

end DiskTier

namespace Cache

/-- The tier after copies have been flushed to it. -/
def flushed (copies : List Copy) (d : DiskTier) : DiskTier := ((flush copies).perform d).2

theorem flushed_cons (x : Copy) (copies : List Copy) (d : DiskTier) :
  flushed (x :: copies) d = flushed copies ((DiskTier.save x).perform d).2
  := flush_cons x copies d

theorem flushed_append (copies later : List Copy) (d : DiskTier) :
  flushed (copies ++ later) d = flushed later (flushed copies d)
  := by
  induction copies generalizing d with
  | nil => rfl
  | cons x copies ih => rw [List.cons_append, flushed_cons, ih, flushed_cons]

/-- A flush does not stop, whatever becomes of its saves. -/
theorem perform_flush (copies : List Copy) (d : DiskTier) :
  ∃ firstFault, (flush copies).perform d = (.ok firstFault, flushed copies d)
  := by
  have run : ∃ firstFault d', (flush copies).perform d = (.ok firstFault, d') ∧ True :=
    flush_induction (P := fun _ => True) (fun _ _ _ _ _ _ _ => trivial) trivial
  obtain ⟨firstFault, d', ended, -⟩ := run
  refine ⟨firstFault, ?_⟩
  rw [flushed, ended]

/-- One more copy is flushed. -/
theorem flushed_take_succ (next : copies[n]? = some x) (d : DiskTier) :
  flushed (copies.take (n + 1)) d = ((DiskTier.save x).perform (flushed (copies.take n) d)).2
  := by
  rw [List.take_add_one, next, flushed_append]
  exact flushed_cons x [] _

theorem leads_flushed (copies : List Copy) (d : DiskTier) :
  DiskTier.Leads d (flushed copies d)
  := by
  induction copies generalizing d with
  | nil => apply DiskTier.Leads.refl
  | cons x copies ih =>
      rw [flushed_cons]
      exact (DiskTier.saved x d).leads.trans (ih _)

/-- Flushing so many of the copies asks no more calls than flushing all of them. -/
theorem asked_flushed_take_le (n : Nat) (copies : List Copy) (d : DiskTier) :
  (flushed (copies.take n) d).engine.asked.length ≤ (flushed copies d).engine.asked.length
  := by
  have split := flushed_append (copies.take n) (copies.drop n) d
  rw [List.take_append_drop] at split
  rw [split]
  exact (leads_flushed _ _).asked_le

/-- The tier lists copies after any part of a flush. -/
theorem stored_flushed {length : Nat} (h : d.Stored length) (room : 0 < d.capacity)
    (fits : ∀ x ∈ copies, x.identity.Fits)
    (few : (flushed copies d).engine.asked.length < wordBound) :
  (flushed copies d).Stored length
  := by
  induction copies generalizing d with
  | nil => exact h
  | cons x copies ih =>
      obtain ⟨fitsX, fits⟩ := List.forall_mem_cons.1 fits
      rw [flushed_cons] at few ⊢
      have ends := DiskTier.saved x d
      have later := (leads_flushed copies ((DiskTier.save x).perform d).2).asked_le
      apply ih (ends.stored h room fitsX (Nat.lt_of_le_of_lt later few))
      · rwa [ends.leads.capacity_eq]
      · exact fits
      · exact few

/-- The fault that a flush answers is that of one of its saves. -/
theorem save_of_flush {fault : Fault} (fails : ((flush copies).perform d).1 = .ok (some fault)) :
  ∃ n x, copies[n]? = some x
    ∧ ((DiskTier.save x).perform (flushed (copies.take n) d)).1 = .error fault
  := by
  induction copies generalizing d with
  | nil => cases fails
  | cons x copies ih =>
      obtain ⟨later, ended⟩ := perform_flush copies ((DiskTier.save x).perform d).2
      rw [flush] at fails
      simp only [Action.perform_bind, Action.perform_attempt, ended] at fails
      cases saved : ((DiskTier.save x).perform d).1 with
      | error stopped =>
          rw [saved] at fails
          obtain rfl := Option.some.inj (Except.ok.inj fails)
          exact ⟨0, x, rfl, saved⟩
      | ok dropped =>
          rw [saved] at fails
          obtain rfl := Except.ok.inj fails
          obtain ⟨n, y, next, stopped⟩ := ih (congrArg Prod.fst ended)
          refine ⟨n + 1, y, next, ?_⟩
          rwa [List.take_succ_cons, flushed_cons]

/-- Closing a cache flushes RAM and answers the first fault of that, unless the engine refuses to be
closed. -/
theorem closed (c : Cache hash) :
  ∃ firstFault calls, ((flush c.ram.drain).perform c.disk).1 = .ok firstFault
    ∧ c.close.2 = (flushed c.ram.drain c.disk).engine.asking calls
    ∧ (c.close.1 = firstFault.elim (.ok ()) .error
      ∨ ∃ fault, c.disk.engine.Refuses fault ∧ c.close.1 = .error fault)
  := by
  obtain ⟨firstFault, ended⟩ := perform_flush c.ram.drain c.disk
  have leads := leads_flushed c.ram.drain c.disk
  obtain ⟨calls, closed | ⟨fault, refused, closed⟩⟩ :=
    DiskTier.answers_close (flushed c.ram.drain c.disk)
  · refine ⟨firstFault, calls, congrArg Prod.fst ended, ?_, .inl ?_⟩
    · simp only [close, Action.perform_bind, ended, closed]
      cases firstFault <;> rfl
    · simp only [close, Action.perform_bind, ended, closed]
      cases firstFault <;> rfl
  · refine ⟨firstFault, calls, congrArg Prod.fst ended, ?_, .inr ⟨fault, ?_, ?_⟩⟩
    · simp only [close, Action.perform_bind, ended, closed]
      rfl
    · exact leads.refuses.1 refused
    · simp only [close, Action.perform_bind, ended, closed]

end Cache

end SiteCache
