import SiteCache.Proofs.Cache.Listing

/-!
# Where copies are

In every state that a cache opened on an empty engine can reach, an identity is in one tier at most,
both tiers keep within their bounds, the count of the disk tier is the number of identities that it
contains, and each of these has all its records (`Cache.resident_after`).  Requests may fail at any
call of the engine.  The disk tier is in order even between the writes of one save, that is, when
the former copy has been removed and the oldest copy evicted, but the demoted copy is not yet
written.
-/

namespace SiteCache

open Record

variable {hash : Identity → UInt64}

/-- The identity has its four records and one index record, which carries its insertion id. -/
def Records.Complete (r : Records) (i : Identity) : Prop :=
  ∃ id, r.get? (key i.encode .id) = some (encodeId id)
    ∧ (r.get? (key i.encode .content)).isSome
    ∧ (r.get? (key i.encode .time)).isSome
    ∧ (r.get? (key i.encode .headers)).isSome
    ∧ r.get? (indexKey id) = some i.encode
    ∧ ∀ k, Indexed k → r.get? k = some i.encode → k = indexKey id

/-- The disk tier is in order: these are the identities that it contains, each with all its records;
its count is their number and does not exceed the bound. -/
structure DiskTier.Stocks (d : DiskTier) (bound : Nat) (identities : List Identity) : Prop where
  nodup : identities.Nodup
  contains : ∀ i, i.Fits → Answers (DiskTier.contains i) d (.ok (decide (i ∈ identities)))
  count_eq : d.count = identities.length
  bounded : identities.length ≤ bound
  complete : ∀ i ∈ identities, d.engine.records.Complete i

/-- Copies are where they should be. -/
structure Cache.Resident (bounds : Bounds) (c : Cache hash) : Prop where
  /-- RAM holds one copy of an identity at most. -/
  distinct : (c.ram.copies.map Copy.identity).Nodup
  ramBounded : c.ram.size ≤ bounds.ram
  /-- The disk tier is in order, and none of its identities is in RAM. -/
  onDisk : ∃ identities, c.disk.Stocks bounds.disk identities
    ∧ ∀ i ∈ identities, c.ram.peek i = none
  /-- The disk tier is in order after a removal and after an eviction that follows it, as they come
  before the write of a demoted copy. -/
  between : ∀ i, i.Fits → ∀ calls,
    let removed := ((DiskTier.remove i).perform c.disk).2
    let evicted := (DiskTier.evictOldest.perform (removed.asking calls)).2
    (∃ identities, removed.Stocks bounds.disk identities)
      ∧ ∃ identities, evicted.Stocks bounds.disk identities

theorem Records.Queue.complete {r : Records} {q : List (Nat × Copy)} {nextId : Nat}
    (h : r.Queue q nextId) {x : Nat × Copy} (hx : x ∈ q) :
  r.Complete x.2.identity
  := by
  have field (f : Field) :
      r.get? (key x.2.identity.encode f) = some (DiskTier.value x.1 x.2 f) :=
    (h.field _ (h.fits x hx) f _).2 ⟨x, hx, rfl, rfl⟩
  refine ⟨x.1, field .id, ?_, ?_, ?_, ?_, ?_⟩
  · rw [field .content, Option.isSome_some]
  · rw [field .time, Option.isSome_some]
  · rw [field .headers, Option.isSome_some]
  · exact (h.index _ (indexed_indexKey x.1) _).2 ⟨x, hx, rfl, rfl⟩
  · intro k indexed leads
    obtain ⟨y, hy, rfl, same⟩ := (h.index k indexed _).1 leads
    rw [Identity.encode_inj (h.fits y hy) (h.fits x hx)] at same
    rw [h.eq_of_identity hy hx same]

/-- A tier that lists copies is in order. -/
theorem DiskTier.Lists.stocks {d : DiskTier} {copies : List Copy} {bound : Nat}
    (h : d.Lists copies) (bounded : copies.length ≤ bound) :
  d.Stocks bound (copies.map Copy.identity) where
  nodup := h.nodup
  contains := by
    intro i fits
    have same : decide (i ∈ copies.map Copy.identity) = (Copy.of? i copies).isSome := by
      rw [Bool.eq_iff_iff, decide_eq_true_eq, Option.isSome_iff_exists]
      constructor
      · intro hi
        obtain ⟨c, hc, rfl⟩ := List.mem_map.1 hi
        exact ⟨c, (Copy.of?_eq_some_iff h.nodup).2 ⟨hc, rfl⟩⟩
      · rintro ⟨c, found⟩
        obtain ⟨hc, rfl⟩ := Copy.mem_of_of?_eq_some found
        exact List.mem_map_of_mem hc
    rw [same]
    exact h.answers_contains fits
  count_eq := by rw [h.count_eq, List.length_map]
  bounded := by rwa [List.length_map]
  complete := by
    obtain ⟨⟨q, queue, rfl⟩, -⟩ := h
    intro i hi
    rw [List.map_map] at hi
    obtain ⟨x, hx, rfl⟩ := List.mem_map.1 hi
    exact queue.complete hx

namespace Cache

variable {c : Cache hash} {ram disk : List Copy} {bounds : Bounds}

theorem Holds.resident (h : c.Holds ram disk) (ramBound : c.ram.capacity = bounds.ram)
    (bounded : disk.length ≤ bounds.disk) :
  c.Resident bounds where
  distinct := c.ram.nodup_identities
  ramBounded := by
    rw [← RamTier.length_copies, ← ramBound]
    apply RamTier.length_le_capacity
  onDisk := by
    refine ⟨_, h.lists.stocks bounded, ?_⟩
    intro i hi
    obtain ⟨y, hy, rfl⟩ := List.mem_map.1 hi
    rw [h.peek, Copy.of?_eq_none_iff]
    intro x hx
    exact h.apart x hx y hy
  between := by
    intro i fits calls removed evicted
    obtain ⟨copies, lists, fewer⟩ :
        ∃ copies, removed.Lists copies ∧ copies.length ≤ disk.length := by
      obtain ⟨fault, -, -, lists⟩ | ⟨-, lists⟩ :=
        (DiskTier.removed i c.disk).lists h.lists fits
      · exact ⟨disk, lists, Nat.le_refl _⟩
      · exact ⟨_, lists, Copy.length_others_le i disk⟩
    refine ⟨⟨_, lists.stocks (Nat.le_trans fewer bounded)⟩, ?_⟩
    obtain ⟨fault, -, -, lists⟩ | ⟨-, lists⟩ :=
      (DiskTier.evicted (removed.asking calls)).lists (lists.asking calls)
    · exact ⟨_, lists.stocks (Nat.le_trans fewer bounded)⟩
    · refine ⟨_, lists.stocks ?_⟩
      rw [List.length_tail]
      omega

/-- Copies are where they should be after any requests, however each of them ended, as long as
insertion ids are words. -/
theorem resident_after {engine : Engine} (empty : engine.records = .empty)
    (opens : open? hash bounds engine = .ok c) {requests : List Request}
    (fits : ∀ r ∈ requests, r.identity.Fits)
    (countable : (c.after requests).disk.nextId < wordBound) :
  (c.after requests).Resident bounds
  := by
  have queue : engine.records.Queue [] 0 := empty ▸ Records.Queue.of_empty
  obtain ⟨h, ramBound, room, calls, tier⟩ := holds_of_open? queue opens
  have diskBound : c.disk.capacity = bounds.disk := by rw [tier]
  rw [← diskBound] at room
  obtain ⟨ram, disk, h, bounded⟩ := h.after fits countable room (Nat.zero_le _)
  exact h.resident ((leads_after c requests).ram.trans ramBound) (diskBound ▸ bounded)

/-- Two copies have changed their tiers. -/
theorem resident_after_swap :
  ∃ c : Cache fun _ => 0, open? _ ⟨1, 1⟩ {} = .ok c ∧ (c.after Request.swap).Resident ⟨1, 1⟩
  := by
  have empty : ({} : Engine).records = .empty := rfl
  exact ⟨_, rfl, resident_after empty rfl (by decide) (by decide)⟩

end Cache

end SiteCache
