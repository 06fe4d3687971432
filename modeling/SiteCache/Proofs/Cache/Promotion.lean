import SiteCache.Proofs.Cache.Sessions

/-!
# Reads that fail

On an engine that refuses no call, a read that fails for another reason than a miss has either moved
nothing (`Cache.Unmoved`), or it has promoted a copy whose records cannot be read (`Cache.Torn`):
the records are decoded only after the write of the promotion.  Then the copy is gone from disk, and
the one that was to make room for it is back in RAM and stored on disk as well.  Nothing is assumed
about the records (`Cache.unmoved_or_torn_of_failed_read`).
-/

namespace SiteCache

open Record DiskTier

variable {hash : Identity → UInt64}

namespace Cache

variable {c c' : Cache hash} {i : Identity}

/-- Both tiers hold what they held, in RAM possibly in another order. -/
structure Unmoved (c c' : Cache hash) : Prop where
  ram : c'.ram.copies.Perm c.ram.copies
  records : c'.disk.engine.records = c.disk.engine.records
  count_eq : c'.disk.count = c.disk.count
  nextId_eq : c'.disk.nextId = c.disk.nextId

/-- RAM holds what it held, but the copy of an identity is gone from disk, and the copy that was to
make room for it is stored there too; no other identity is concerned. -/
structure Torn (i : Identity) (c c' : Cache hash) : Prop where
  ram : c'.ram.copies.Perm c.ram.copies
  gone : ∀ f, c'.disk.engine.records.get? (key i.encode f) = none
  twice : ∀ v, (c.ram.popDisplaced i).1 = some v → v ∈ c'.ram.copies
    ∧ ∀ f, c'.disk.engine.records.get? (key v.identity.encode f) = some (value c.disk.nextId v f)
  others : ∀ j, j.Fits → j ≠ i → (∀ v, (c.ram.popDisplaced i).1 = some v → v.identity ≠ j) →
    ∀ f, c'.disk.engine.records.get? (key j.encode f) = c.disk.engine.records.get? (key j.encode f)

/-- What the write of a promotion leaves in the tiers if RAM gets the demoted copy back. -/
private theorem torn_of_taken {id added : Nat} {batch : Batch} {calls : List Engine.Call}
    {nextId count : Nat} {k : Counters} (fits : i.Fits)
    (ramFits : ∀ x ∈ c.ram.copies, x.identity.Fits) (notInRam : c.ram.peek i = none)
    (made : c.disk.engine.records.replacement c.disk.nextId (c.ram.popDisplaced i).1
      = .ok (batch, added)) :
  Torn i c
    ⟨(c.ram.popDisplaced i).1.elim (c.ram.popDisplaced i).2 (c.ram.popDisplaced i).2.restore,
      { c.disk.wrote calls (deletion i.encode (some id) ++ batch) with
        nextId := nextId
        count := count }, k⟩
  := by
  have ram := RamTier.perm_restore_popDisplaced notInRam
  have victim {v : Copy} (popped : (c.ram.popDisplaced i).1 = some v) :
      v ∈ c.ram.copies ∧ v.identity.Fits ∧ v.identity ≠ i := by
    have hv := RamTier.mem_copies_of_popDisplaced popped
    refine ⟨hv, ramFits v hv, ?_⟩
    rw [RamTier.peek_eq_of?] at notInRam
    exact Copy.of?_eq_none_iff.1 notInRam v hv
  -- Both parts of the batch concern the fields of one identity.
  have field (b : Octets) (f : Field) :
      (c.disk.engine.records.apply (deletion i.encode (some id) ++ batch)).get? (key b f)
        = ((c.ram.popDisplaced i).1.filter fun v => v.identity.encode = b).elim
            (if b = i.encode then none else c.disk.engine.records.get? (key b f))
            fun v => some (value c.disk.nextId v f) := by
    rw [Records.apply_append, get?_key_replacement made, get?_key_deletion]
  refine ⟨ram, ?_, ?_, ?_⟩
  · intro f
    simp only [records_wrote, field, if_true]
    cases popped : (c.ram.popDisplaced i).1 with
    | none => rfl
    | some v =>
        obtain ⟨-, fitsV, other⟩ := victim popped
        simp [Option.filter_some, Identity.encode_inj fitsV fits, other]
  · intro v popped
    refine ⟨ram.mem_iff.2 (victim popped).1, ?_⟩
    intro f
    simp [records_wrote, field, popped, Option.filter_some]
  · intro j fitsJ other spared f
    simp only [records_wrote, field, Identity.encode_inj fitsJ fits, other, if_false]
    cases popped : (c.ram.popDisplaced i).1 with
    | none => rfl
    | some v =>
        have elsewhere := spared v popped
        simp [Option.filter_some, Identity.encode_inj (victim popped).2.1 fitsJ, elsewhere]

/-- On an engine that refuses no call, a read that fails without missing its copy has moved nothing,
unless the records of the copy cannot be read: then the promotion is torn apart. -/
theorem unmoved_or_torn_of_failed_read (healthy : ∀ calls, c.disk.engine.refuses calls = none)
    (fits : i.Fits) (ramFits : ∀ x ∈ c.ram.copies, x.identity.Fits) {fault : Fault}
    (fails : (read i).perform c = (.error fault, c')) (notMiss : fault.isMiss = false) :
  Unmoved c c' ∨ c.disk.engine.records.copy i = .error fault ∧ Torn i c c'
  := by
  have ends := reads i c
  have answers {fault : Fault} : ¬ c.disk.engine.Refuses fault := by
    rintro ⟨calls, refused⟩
    rw [healthy] at refused
    cases refused
  rw [fails] at ends
  cases ends with
  | refused _ refused => exact absurd refused answers
  | unreadable => exact .inl ⟨.refl _, rfl, rfl, rfl⟩
  | missed => cases notMiss
  | incomplete => cases notMiss
  | @failed _ _ d k notInRam _ ends =>
      have ram := RamTier.perm_restore_popDisplaced notInRam
      generalize answered : Except.error fault = answer at ends
      cases ends with
      | refused refused => exact absurd refused answers
      | unreadable => exact .inl ⟨ram, rfl, rfl, rfl⟩
      | absent => cases answered
      | unprepared => exact .inl ⟨ram, rfl, rfl, rfl⟩
      | taken _ made => exact .inr ⟨rfl, torn_of_taken fits ramFits notInRam made⟩

/-- An engine with a copy whose time has three octets. -/
def shortTime : Engine where
  records := (Records.apply .empty (placement (.ofOctet "a" 1) 0 none)).insert
    (key (Identity.encode ⟨"", "a"⟩) .time) [98, 97, 100]

/-- A cache with room for one copy in each tier is opened on it and given another copy. -/
def oneSave : List Session.Step := [.reopen ⟨1, 1⟩, .ask (.save (.ofOctet "b" 2))]

/-- The copy cannot be read, and the promotion is torn apart. -/
theorem torn_of_short_time :
  ∃ (c c' : Cache fun _ => 0) (fault : Fault),
    (Session.closed shortTime).after oneSave = .opened c
      ∧ (∀ calls, c.disk.engine.refuses calls = none)
      ∧ Identity.Fits ⟨"", "a"⟩ ∧ (∀ x ∈ c.ram.copies, x.identity.Fits)
      ∧ (read ⟨"", "a"⟩).perform c = (.error fault, c') ∧ fault.isMiss = false
      ∧ (Unmoved c c' ∨ c.disk.engine.records.copy ⟨"", "a"⟩ = .error fault ∧ Torn ⟨"", "a"⟩ c c')
  := by
  have fits : Identity.Fits ⟨"", "a"⟩ := by decide
  have ramFits : ∀ x ∈ [Copy.ofOctet "b" 2], x.identity.Fits := by decide
  refine ⟨_, _, _, rfl, fun _ => rfl, fits, ?_, rfl, rfl, ?_⟩
  · exact ramFits
  · apply unmoved_or_torn_of_failed_read
    · exact fun _ => rfl
    · exact fits
    · exact ramFits
    · rfl
    · rfl

/-- The copy is on disk no more, and the other one is both in RAM and on disk. -/
theorem not_unmoved_of_short_time :
  ∃ (c c' : Cache fun _ => 0) (fault : Fault),
    (Session.closed shortTime).after oneSave = .opened c
      ∧ (read ⟨"", "a"⟩).perform c = (.error fault, c') ∧ fault.isMiss = false
      ∧ ((DiskTier.contains ⟨"", "a"⟩).perform c.disk).1 = .ok true
      ∧ ((DiskTier.contains ⟨"", "a"⟩).perform c'.disk).1 = .ok false
      ∧ (c'.ram.peek ⟨"", "b"⟩).isSome
      ∧ ((DiskTier.contains ⟨"", "b"⟩).perform c'.disk).1 = .ok true
  := ⟨_, _, _, rfl, rfl, rfl, rfl, rfl, rfl, rfl⟩

end Cache

end SiteCache
