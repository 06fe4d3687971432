import SiteCache.Proofs.Cache.Health
import Mathlib.Data.List.DropRight

/-!
# What survives closing

A cache that is closed appends its RAM copies to the disk list one after another, the least recently
used one first, and each of them drops the first copy of a full list, be it one that was on disk
before or one that was flushed a moment ago.  All in all this keeps the last copies of both lists
taken together, as many as the bound allows (`Cache.lists_flushed`).  The next session finds
them on disk in this order, with times settled and everything else as it was
(`Session.newest_of_close`).
-/

namespace SiteCache

variable {hash : Identity → UInt64} {d : DiskTier} {x : Copy} {copies : List Copy}

/-! ### The last copies of a list -/

/-- What precedes the last elements of a list does not matter to those of a longer one. -/
theorem rtake_rtake_append {α : Type} (xs ys : List α) (n : Nat) :
  (xs.rtake n ++ ys).rtake n = (xs ++ ys).rtake n
  := by
  simp only [List.rtake_eq_reverse_take_reverse, List.reverse_append, List.reverse_reverse,
    List.take_append, List.take_take, Nat.min_eq_left (Nat.sub_le n ys.reverse.length)]

theorem map_rtake {α β : Type} (f : α → β) (xs : List α) (n : Nat) :
  (xs.rtake n).map f = (xs.map f).rtake n
  := by
  rw [List.rtake, List.rtake, List.map_drop, List.length_map]

/-- A copy that takes the place of the first one of a full list leaves the last copies. -/
theorem Copy.spared_concat {capacity : Nat} (room : 0 < capacity)
    (bounded : copies.length ≤ capacity) (x : Copy) :
  spared capacity copies ++ [x] = (copies ++ [x]).rtake capacity
  := by
  obtain ⟨n, rfl⟩ := Nat.exists_eq_succ_of_ne_zero (Nat.ne_of_gt room)
  rw [List.rtake_concat_succ, List.rtake, spared]
  congr 1
  split
  next full =>
    rw [show copies.length - n = 1 by omega, List.drop_one]
  next spare =>
    rw [show copies.length - n = 0 by omega, List.drop_zero]

theorem DiskTier.Lists.map_settled (h : d.Lists copies) :
  copies.map Copy.settled = copies
  := (List.map_congr_left fun _ hc => h.settled hc).trans (List.map_id copies)

namespace Cache

variable {c c' : Cache hash} {ram disk : List Copy} {i : Identity}

/-! ### The flush -/

/-- New copies that are flushed to a tier within its bound push out what was there first. -/
theorem lists_flushed {queue : List Copy} (lists : d.Lists queue)
    (healthy : ∀ fault, ¬ d.engine.Refuses fault) (room : 0 < d.capacity)
    (bounded : queue.length ≤ d.capacity)
    (apart : ∀ x ∈ copies, ∀ y ∈ queue, x.identity ≠ y.identity)
    (distinct : (copies.map Copy.identity).Nodup) (fits : ∀ x ∈ copies, x.identity.Fits)
    (storable : ∀ x ∈ copies, x.modified.Storable)
    (countable : d.nextId + copies.length < wordBound) :
  ((flush copies).perform d).1 = .ok none
    ∧ (flushed copies d).Lists ((queue ++ copies.map Copy.settled).rtake d.capacity)
    ∧ (flushed copies d).nextId ≤ d.nextId + copies.length
  := by
  -- The list on disk moves on with every save; what it was before matters by its last copies only.
  induction copies generalizing d queue with
  | nil =>
      refine ⟨rfl, ?_, Nat.le_refl _⟩
      rw [List.map_nil, List.append_nil, List.rtake, Nat.sub_eq_zero_of_le bounded, List.drop_zero]
      exact lists
  | cons x copies ih =>
      obtain ⟨new, others⟩ := List.nodup_cons.1 distinct
      obtain ⟨apartX, apart⟩ := List.forall_mem_cons.1 apart
      obtain ⟨fitsX, fits⟩ := List.forall_mem_cons.1 fits
      obtain ⟨storableX, storable⟩ := List.forall_mem_cons.1 storable
      rw [List.length_cons] at countable
      have ends := DiskTier.saved x d
      have leads := ends.leads
      have next := ends.nextId_le
      have absent : Copy.of? x.identity queue = none :=
        Copy.of?_eq_none_iff.2 fun y hy => (apartX y hy).symm
      obtain ⟨fault, refused | unstorable, -⟩ | ⟨answer, -, saved⟩ :=
        ends.lists lists fitsX (by omega)
      · exact absurd refused (healthy fault)
      · exact absurd storableX unstorable
      rw [Copy.kept_eq_spared absent, Copy.moved_some (c := x.settled) (Copy.of?_spared absent),
        Copy.spared_concat room bounded] at saved
      rw [← leads.capacity_eq] at room saved ⊢
      have step := ih saved ?_ room ?_ ?_ others fits storable (by omega)
      · obtain ⟨rest, kept, last⟩ := step
        refine ⟨?_, ?_, ?_⟩
        · obtain ⟨later, ended⟩ := perform_flush copies ((DiskTier.save x).perform d).2
          rw [ended] at rest
          rw [flush]
          simp only [Action.perform_bind, Action.perform_attempt, ended, answer]
          exact rest
        · rw [rtake_rtake_append, List.append_assoc] at kept
          rw [flushed_cons]
          exact kept
        · rw [flushed_cons, List.length_cons]
          omega
      · intro fault refused
        exact healthy fault (leads.refuses.1 refused)
      · rw [List.rtake, List.length_drop]
        omega
      · intro y hy z hz
        obtain old | rfl :=
          (List.mem_append.1 (List.mem_of_mem_drop hz)).imp id List.mem_singleton.1
        · exact apart y hy z old
        · intro same
          exact new (same ▸ List.mem_map_of_mem hy)

/-- Closing a cache that holds two lists answers no fault and leaves the last copies of both. -/
theorem Holds.close (h : c.Holds ram disk) (healthy : ∀ fault, ¬ c.disk.engine.Refuses fault)
    (room : 0 < c.disk.capacity) (bounded : disk.length ≤ c.disk.capacity)
    (storable : ∀ x ∈ ram, x.modified.Storable)
    (countable : c.disk.nextId + ram.length < wordBound) :
  c.close.1 = .ok () ∧ (∀ fault, ¬ c.close.2.Refuses fault) ∧ ∃ q nextId,
    c.close.2.records.Queue q nextId
      ∧ q.map Prod.snd = ((disk ++ ram.reverse).rtake c.disk.capacity).map Copy.settled
  := by
  have drained : c.ram.drain = ram.reverse := by rw [RamTier.drain, h.copies_eq]
  obtain ⟨firstFault, calls, flushes, closed, answer⟩ := closed c
  rw [drained] at flushes closed
  have distinct : (ram.reverse.map Copy.identity).Nodup := by
    rw [List.map_reverse, List.nodup_reverse]
    exact h.nodup
  obtain ⟨none, lists, -⟩ :=
    lists_flushed h.lists healthy room bounded
      (fun x hx => h.apart x (List.mem_reverse.1 hx)) distinct
      (fun x hx => h.fits x (List.mem_reverse.1 hx))
      (fun x hx => storable x (List.mem_reverse.1 hx)) (by rwa [List.length_reverse])
  obtain rfl := Except.ok.inj (flushes.symm.trans none)
  have leads := leads_flushed ram.reverse c.disk
  obtain ⟨⟨q, queue, listed⟩, -⟩ := lists
  refine ⟨?_, ?_, q, (flushed ram.reverse c.disk).nextId, ?_, ?_⟩
  · obtain answer | ⟨fault, refused, -⟩ := answer
    · exact answer
    · exact absurd refused (healthy fault)
  · intro fault refused
    rw [closed] at refused
    exact healthy fault (leads.refuses.1 refused)
  · rw [closed]
    exact queue
  · rw [listed, map_rtake, List.map_append, h.lists.map_settled]

/-! ### The next session -/

/-- On records with a queue, a cache can be opened with any room. -/
theorem exists_open? {bounds : Bounds} {e : Engine} {q : List (Nat × Copy)} {nextId : Nat}
    (queue : e.records.Queue q nextId) (healthy : ∀ fault, ¬ e.Refuses fault)
    (ramRoom : 0 < bounds.ram) (diskRoom : 0 < bounds.disk) :
  ∃ c : Cache hash, open? hash bounds e = .ok c
  := by
  cases opens : open? hash bounds e with
  | ok c => exact ⟨c, rfl⟩
  | error failure =>
      obtain ⟨fault, e'⟩ := failure
      have check := check_of_open? queue healthy opens
      rw [check_eq_ok_iff.2 ⟨ramRoom, diskRoom⟩] at check
      cases check

/-- A cache that holds copies on disk only answers what they are. -/
theorem Holds.answers_of_mem (h : c.Holds [] disk)
    (healthy : ∀ fault, ¬ c.disk.engine.Refuses fault) (hx : x ∈ disk) :
  ((headers x.identity).perform c).1 = .ok x.headers
    ∧ ((read x.identity).perform c).1 = .ok (x.content, x.headers)
  := by
  refine ⟨(h.tells healthy (.inr hx)).2, ?_⟩
  obtain answer | ⟨-, w, ⟨⟩, -⟩ := h.reads_of_mem healthy (.inr hx)
  exact answer

end Cache

/-! ### Engines that were refusing calls -/

/-- The engine as it refuses nothing any more. -/
def Engine.mended (e : Engine) : Engine := { e with refuses := fun _ => none }

/-- The cache as its engine refuses nothing any more. -/
def Cache.mended (c : Cache hash) : Cache hash :=
  { c with disk := { c.disk with engine := c.disk.engine.mended } }

theorem Cache.Holds.mended {c : Cache hash} {ram disk : List Copy} (h : c.Holds ram disk) :
  c.mended.Holds ram disk
  := ⟨h.copies_eq, ⟨h.lists.queue, h.lists.count_eq⟩, h.apart, h.fits⟩

namespace Session

variable {s : Session hash} {c : Cache hash}

/-- A cache that sessions on an engine that was empty at first have reached, whatever was refused so
far, is closed on an engine that refuses nothing any more.  If the disk tier is within its bound and
all times in RAM can be stored, closing answers no fault, and the next session, with any bounds, has
nothing in RAM and on disk the last copies of those on disk, oldest first, and in RAM, least
recently used first, taken together: as many as the bound of the closed cache allows, in this
order. -/
theorem newest_of_close {e : Engine} (empty : e.records = .empty) {steps : List Step}
    (fits : ∀ x ∈ steps, x.Fits)
    (reached : (Session.closed e : Session hash).after steps = .opened c)
    (bounded : c.disk.count ≤ c.disk.capacity)
    (storable : ∀ x ∈ c.ram.copies, x.modified.Storable)
    (few : c.disk.engine.asked.length + c.ram.size < wordBound)
    (bounds : Bounds) (ramRoom : 0 < bounds.ram) (diskRoom : 0 < bounds.disk)
    (hash' : Identity → UInt64) :
  ∃ disk, c.disk.Lists disk ∧
    let newest := (disk ++ c.ram.drain).rtake c.disk.capacity
    c.mended.close.1 = .ok ()
      ∧ ∃ c' : Cache hash', Cache.open? hash' bounds c.mended.close.2 = .ok c'
        ∧ c'.ram.copies = [] ∧ c'.disk.Lists (newest.map Copy.settled)
        ∧ ∀ x ∈ newest,
          ((Cache.headers x.identity).perform c').1 = .ok x.headers
            ∧ ((Cache.read x.identity).perform c').1 = .ok (x.content, x.headers)
  := by
  have start : (Session.closed e : Session hash).Roomy := by
    rintro c ⟨⟩
  have room : 0 < c.disk.capacity := start.after steps c reached
  have sound : ((Session.closed e : Session hash).after steps).Sound := by
    apply sound_after empty fits
    rw [reached, engine]
    omega
  rw [reached] at sound
  obtain ⟨ram, disk, h, counted⟩ := sound
  have size : c.ram.size = ram.length := by rw [← RamTier.length_copies, h.copies_eq]
  have drain : c.ram.drain = ram.reverse := by rw [RamTier.drain, h.copies_eq]
  rw [h.lists.count_eq] at bounded
  rw [h.copies_eq] at storable
  have healthy : ∀ fault, ¬ c.mended.disk.engine.Refuses fault :=
    Engine.not_refuses fun _ => rfl
  have countable : c.disk.nextId + ram.length < wordBound := by omega
  obtain ⟨closes, allowed, q, nextId, queue, listed⟩ :=
    h.mended.close healthy room bounded storable countable
  obtain ⟨c', opens⟩ : ∃ c' : Cache hash', Cache.open? hash' bounds c.mended.close.2 = .ok c' :=
    Cache.exists_open? queue allowed ramRoom diskRoom
  obtain ⟨holds, -, -, calls, tier⟩ := Cache.holds_of_open? queue opens
  refine ⟨disk, h.lists, closes, c', opens, holds.copies_eq, ?_, ?_⟩
  · rw [drain, ← show c.mended.disk.capacity = c.disk.capacity from rfl, ← listed]
    exact holds.lists
  · intro x hx
    rw [drain] at hx
    rw [listed] at holds
    have answers := holds.answers_of_mem (x := x.settled) ?_ (List.mem_map_of_mem hx)
    · exact answers
    · intro fault refused
      rw [tier] at refused
      exact allowed fault refused

/-- A hash that tells resources apart by their lengths. -/
def byLength (i : Identity) : UInt64 := .ofNat i.resource.length

/-- A cache with more room in RAM than on disk is given one copy more than RAM holds. -/
def fourSaved : List Step :=
  [.reopen ⟨3, 2⟩, .ask (.save (.ofOctet "a" 1)), .ask (.save (.ofOctet "bb" 2)),
    .ask (.save (.ofOctet "ccc" 3)), .ask (.save (.ofOctet "dddd" 4))]

private theorem fourHeld :
  ∃ c : Cache byLength, (Session.closed {}).after fourSaved = .opened c
    ∧ c.disk.count = 1 ∧ c.disk.capacity = 2
    ∧ c.ram.drain = [.ofOctet "bb" 2, .ofOctet "ccc" 3, .ofOctet "dddd" 4]
    ∧ (∀ x ∈ c.ram.copies, x.modified.Storable)
    ∧ c.disk.engine.asked.length + c.ram.size < wordBound
  := ⟨_, rfl, by decide +kernel, by decide +kernel, by decide +kernel, by decide +kernel,
    by decide +kernel⟩

/-- The first copy of the flush is dropped for the last one, and the next session, whose own bound
is smaller, finds the two that are left. -/
theorem newest_of_close_fourSaved :
  ∃ c c' : Cache byLength, (Session.closed {}).after fourSaved = .opened c
    ∧ c.disk.count ≤ c.disk.capacity ∧ (∀ x ∈ c.ram.copies, x.modified.Storable)
    ∧ c.disk.engine.asked.length + c.ram.size < wordBound
    ∧ c.mended.close.1 = .ok () ∧ Cache.open? byLength ⟨1, 1⟩ c.mended.close.2 = .ok c'
    ∧ c'.disk.Lists [.ofOctet "ccc" 3, .ofOctet "dddd" 4]
  := by
  obtain ⟨c, reached, count, capacity, drain, storable, few⟩ := fourHeld
  have bounded : c.disk.count ≤ c.disk.capacity := by omega
  obtain ⟨disk, -, closes, c', opens, -, lists, -⟩ :=
    newest_of_close rfl (by decide) reached bounded storable few ⟨1, 1⟩ (by decide) (by decide)
      byLength
  refine ⟨c, c', reached, bounded, storable, few, closes, opens, ?_⟩
  have newest : (disk ++ c.ram.drain).rtake c.disk.capacity
      = [.ofOctet "ccc" 3, .ofOctet "dddd" 4] := by
    rw [drain, capacity]
    simp [List.rtake]
  rw [newest] at lists
  exact lists

end Session

end SiteCache
