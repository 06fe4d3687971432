import SiteCache.Proofs.Cache.Flush

/-!
# The bound of the disk tier

A save to the disk tier makes room for one copy and no more.  So it leaves the tier within its bound
if the tier was within its bound before, and beyond it otherwise: when a session is opened with a
smaller bound than an earlier one, the tier stays as long as it was found until copies are promoted,
deleted or saved anew.  `Cache.Demotes` are the saves to the disk tier that a cache may come to, and
`Session.bounded_iff_of_demotes` says so of all of them in every session on one engine.
-/

namespace SiteCache

variable {hash : Identity → UInt64}

namespace Cache

variable {c : Cache hash} {d d' : DiskTier} {v : Copy} {ram disk : List Copy}

/-- The saves to the disk tier that a cache may come to, which succeed, from a state of the tier to
the next: of the copy that leaves RAM when another one is saved, after any former copy of that was
removed from disk, and of each copy of RAM in turn when the cache is closed. -/
inductive Demotes (c : Cache hash) : DiskTier → Copy → DiskTier → Prop where
  | saving {x v : Copy} {d : DiskTier} {present : Bool} {dropped : Option Identity}
    (fits : x.identity.Fits)
    (removed : (DiskTier.remove x.identity).perform c.disk = (.ok present, d))
    (victim : ((c.ram.remove x.identity).2.popDisplaced x.identity).1 = some v)
    (saved : ((DiskTier.save v).perform d).1 = .ok dropped) :
    Demotes c d v ((save x).perform c).2.disk
  | closing {n : Nat} {v : Copy} {dropped : Option Identity}
    (next : c.ram.drain[n]? = some v)
    (saved : ((DiskTier.save v).perform (flushed (c.ram.drain.take n) c.disk)).1 = .ok dropped) :
    Demotes c (flushed (c.ram.drain.take n) c.disk) v (flushed (c.ram.drain.take (n + 1)) c.disk)

/-- What a demotion leaves on disk. -/
private theorem disk_demote (v : Copy) (c : Cache hash) :
  ((demote v).perform c).2.disk = ((DiskTier.save v).perform c.disk).2
  := by
  simp only [demote, Action.perform_bind, perform_onDisk]
  rcases (DiskTier.save v).perform c.disk with ⟨fault | dropped, d⟩
  · rfl
  · cases dropped <;> rfl

/-- The last that a save does to the disk tier is to demote its victim. -/
private theorem disk_save {x : Copy} {present : Bool}
    (removed : (DiskTier.remove x.identity).perform c.disk = (.ok present, d))
    (victim : ((c.ram.remove x.identity).2.popDisplaced x.identity).1 = some v) :
  ((save x).perform c).2.disk = ((DiskTier.save v).perform d).2
  := by
  simp only [save, insert, Action.perform_bind, perform_onRam, perform_onDisk, perform_note,
    Action.perform_attempt, removed, victim]
  rw [← disk_demote v (⟨((c.ram.remove x.identity).2.popDisplaced x.identity).2, d,
    c.counters.record 1 .save⟩ : Cache hash)]
  rcases (demote v).perform _ with ⟨fault | done, c'⟩
  · rfl
  · rfl

theorem Demotes.saved (h : c.Demotes d v d') :
  ∃ dropped, DiskTier.Saved d v (.ok dropped) d'
  := by
  have ends := DiskTier.saved v d
  cases h with
  | saving _ removed victim saved =>
      rw [saved, ← disk_save removed victim] at ends
      exact ⟨_, ends⟩
  | closing next saved =>
      rw [saved, ← flushed_take_succ next] at ends
      exact ⟨_, ends⟩

theorem Demotes.leads (h : c.Demotes d v d') :
  DiskTier.Leads c.disk d
  := by
  cases h with
  | @saving x _ _ _ _ _ removed _ _ =>
      have ends := DiskTier.removed x.identity c.disk
      rw [removed] at ends
      exact ends.leads
  | closing => apply leads_flushed

/-- The tier lists copies when a demotion comes, and the copy that is demoted was in RAM. -/
theorem Demotes.stored {length : Nat} (demotes : c.Demotes d v d') (h : c.Holds ram disk)
    (bounded : disk.length ≤ max length c.disk.capacity)
    (counted : c.disk.nextId ≤ c.disk.engine.asked.length) (room : 0 < c.disk.capacity)
    (few : d.engine.asked.length < wordBound) :
  d.Stored length ∧ v ∈ ram
  := by
  have leads := demotes.leads
  cases demotes with
  | @saving x _ _ _ _ fits removed victim _ =>
      have ends := DiskTier.removed x.identity c.disk
      rw [removed] at ends
      have within := RamTier.mem_copies_of_popDisplaced victim
      rw [(RamTier.copies_remove c.ram x.identity).2, h.copies_eq] at within
      refine ⟨⟨?_, leads.counted counted⟩, Copy.others_subset _ ram within⟩
      rw [leads.capacity_eq]
      obtain ⟨_, -, -, lists⟩ | ⟨-, lists⟩ := ends.lists h.lists fits
      · exact ⟨disk, lists, bounded⟩
      · exact ⟨_, lists, Nat.le_trans (Copy.length_others_le _ disk) bounded⟩
  | @closing n _ _ next _ =>
      have drained (y : Copy) (hy : y ∈ c.ram.drain) : y ∈ ram :=
        h.copies_eq ▸ List.mem_reverse.1 hy
      refine ⟨?_, drained v (List.mem_of_getElem? next)⟩
      apply stored_flushed ⟨⟨disk, h.lists, bounded⟩, counted⟩ room
      · intro y hy
        exact h.fits y (drained y (List.mem_of_mem_take hy))
      · exact few

end Cache

namespace Session

open Cache (Request)

variable {e e' : Engine} {steps : List Step} {bounds : Bounds} {c : Cache hash}
  {requests : List Request} {d d' : DiskTier} {v : Copy}

/-- A session lists on disk as many copies as its bound allows or as it found. -/
theorem Sound.holds_after (sound : (Session.closed e' : Session hash).Sound)
    (opens : Cache.open? hash bounds e' = .ok c) (fits : ∀ r ∈ requests, r.identity.Fits)
    (few : (c.after requests).disk.engine.asked.length < wordBound) :
  (c.after requests).disk.capacity = bounds.disk ∧ 0 < bounds.disk
    ∧ (c.after requests).disk.nextId ≤ (c.after requests).disk.engine.asked.length
    ∧ ∃ ram disk, (c.after requests).Holds ram disk
      ∧ disk.length ≤ max c.disk.count (c.after requests).disk.capacity
  := by
  obtain ⟨q, nextId, queue, counted⟩ := sound
  obtain ⟨h, -, room, calls, tier⟩ := Cache.holds_of_open? queue opens
  have leads := (Cache.leads_after c requests).disk
  have capacity : c.disk.capacity = bounds.disk := by rw [tier]
  have counted : c.disk.nextId ≤ c.disk.engine.asked.length := by
    rw [tier]
    simp only [Engine.asking, List.length_append]
    omega
  have counted := leads.counted counted
  rw [← leads.capacity_eq] at capacity
  refine ⟨capacity, room, counted, ?_⟩
  rw [← capacity, leads.capacity_eq] at room
  rw [leads.capacity_eq]
  apply h.after_le fits (Nat.lt_of_le_of_lt counted few) room
  rw [h.lists.count_eq]
  apply Nat.le_max_left

/-- In every session on an engine that was empty at first, whatever bounds the earlier sessions had:
whenever a copy is saved to the disk tier, the tier then lists as many copies as its bound allows or
as the session found at most.  It is within its bound exactly if it was so before, and no shorter if
it was full. -/
theorem bounded_iff_of_demotes (empty : e.records = .empty) (fits : ∀ x ∈ steps, x.Fits)
    (left : (Session.closed e : Session hash).after steps = .closed e')
    (opens : Cache.open? hash bounds e' = .ok c) (fitsR : ∀ r ∈ requests, r.identity.Fits)
    (demotes : (c.after requests).Demotes d v d') (few : d'.engine.asked.length < wordBound) :
  ∃ copies copies', d.Lists copies ∧ d'.Lists copies'
    ∧ copies'.length ≤ max c.disk.count bounds.disk
    ∧ (copies'.length ≤ bounds.disk ↔ copies.length ≤ bounds.disk)
    ∧ (bounds.disk ≤ copies.length → copies'.length = copies.length)
  := by
  obtain ⟨dropped, ends⟩ := demotes.saved
  have leads := demotes.leads
  -- The engine was asked no more calls before than in the end.
  have before := Nat.lt_of_le_of_lt ends.leads.asked_le few
  have served := Nat.lt_of_le_of_lt leads.asked_le before
  have sound : ((Session.closed e : Session hash).after steps).Sound := by
    obtain ⟨calls, opened⟩ := Cache.engine_opened opens
    have found := (Cache.leads_after c requests).disk.asked_le
    rw [opened, Engine.asking, List.length_append] at found
    apply sound_after empty fits
    rw [left, engine]
    omega
  rw [left] at sound
  obtain ⟨capacity, room, counted, ram, disk, h, bounded⟩ := sound.holds_after opens fitsR served
  rw [← capacity] at room ⊢
  obtain ⟨⟨⟨copies, lists, bounded⟩, counted⟩, inRam⟩ :=
    demotes.stored h bounded counted room before
  rw [← leads.capacity_eq] at room ⊢
  have countable := Nat.lt_of_le_of_lt (ends.leads.counted counted) few
  obtain ⟨copies', lists', grown⟩ := ends.grown lists room (h.fits v inRam) countable
  refine ⟨copies, copies', lists, lists', ?_⟩
  split at grown
  · omega
  · omega

/-- A session with room for three copies on disk leaves three there. -/
def threeLeft : List Step :=
  [.reopen ⟨1, 3⟩, .ask (.save (.ofOctet "a" 1)), .ask (.save (.ofOctet "b" 2)),
    .ask (.save (.ofOctet "c" 3)), .close]

/-- The next session has room for one, and demotes a copy all the same. -/
private theorem shrunk :
  ∃ (e' : Engine) (c : Cache fun _ => 0) (d d' : DiskTier),
    (Session.closed {} : Session fun _ => 0).after threeLeft = .closed e'
      ∧ Cache.open? _ ⟨1, 1⟩ e' = .ok c
      ∧ (c.after [.save (.ofOctet "d" 4)]).Demotes d (.ofOctet "d" 4) d'
      ∧ d'.engine.asked.length < wordBound ∧ d'.capacity = 1 ∧ d'.count = 3
  := by
  refine ⟨_, _, _, _, rfl, rfl, .saving (x := .ofOctet "e" 5) ?_ rfl rfl rfl, ?_, rfl, rfl⟩
  · decide
  · decide

/-- The demotion leaves as many copies on disk as it found. -/
theorem bounded_iff_of_demotes_shrunk :
  ∃ (e' : Engine) (c : Cache fun _ => 0) (d d' : DiskTier),
    (Session.closed {} : Session fun _ => 0).after threeLeft = .closed e'
      ∧ Cache.open? _ ⟨1, 1⟩ e' = .ok c
      ∧ (c.after [.save (.ofOctet "d" 4)]).Demotes d (.ofOctet "d" 4) d'
      ∧ ∃ copies copies', d.Lists copies ∧ d'.Lists copies'
        ∧ copies'.length ≤ max c.disk.count 1 ∧ (copies'.length ≤ 1 ↔ copies.length ≤ 1)
        ∧ (1 ≤ copies.length → copies'.length = copies.length)
  := by
  have fits : ∀ x ∈ threeLeft, x.Fits := by decide
  have fitsR : ∀ r ∈ [Request.save (.ofOctet "d" 4)], r.identity.Fits := by decide
  obtain ⟨e', c, d, d', left, opens, demotes, few, -⟩ := shrunk
  exact ⟨e', c, d, d', left, opens, demotes,
    bounded_iff_of_demotes rfl fits left opens fitsR demotes few⟩

/-- These are three, which is more than the session has room for. -/
theorem not_bounded_of_shrunk :
  ∃ (e' : Engine) (c : Cache fun _ => 0) (d d' : DiskTier),
    (Session.closed {} : Session fun _ => 0).after threeLeft = .closed e'
      ∧ Cache.open? _ ⟨1, 1⟩ e' = .ok c
      ∧ (c.after [.save (.ofOctet "d" 4)]).Demotes d (.ofOctet "d" 4) d'
      ∧ d'.capacity = 1 ∧ d'.count = 3
  := by
  obtain ⟨e', c, d, d', left, opens, demotes, -, capacity, count⟩ := shrunk
  exact ⟨e', c, d, d', left, opens, demotes, capacity, count⟩

end Session

end SiteCache
