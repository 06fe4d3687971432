import SiteCache.Proofs.Identity
import SiteCache.Proofs.Octets
import SiteCache.Tier.Record

/-!
# Keys and words of the disk tier

The keys of fields, index records and the next insertion id never meet (`key_inj`,
`key_ne_indexKey` and so on), and index keys ascend with the insertion ids that they hold
(`indexKey_lt_iff`).  A time is stored as its count of nanoseconds, if that count is a signed word
(`Time.Storable`), and read back as the time of that count, in which a leap second has become
the beginning of the next second (`Time.settled`).
-/

namespace SiteCache

namespace Time

/-- The nanoseconds since the epoch. -/
def count (t : Time) : Int := t.seconds * 1000000000 + t.nanos

/-- The count of nanoseconds is a signed word. -/
def Storable (t : Time) : Prop := -(signedBound : Int) ≤ t.count ∧ t.count < signedBound

instance (t : Time) : Decidable t.Storable := inferInstanceAs (Decidable (_ ∧ _))

/-- The time of the same count of nanoseconds outside of any leap second. -/
def settled (t : Time) : Time := ofNanoseconds t.count

@[simp]
theorem count_ofNanoseconds (n : Int) :
  (ofNanoseconds n).count = n
  := by
  have whole := Int.mul_fdiv_add_fmod n 1000000000
  have positive := Int.fmod_nonneg_of_pos n (b := 1000000000) (by decide)
  simp only [count, ofNanoseconds]
  omega

@[simp]
theorem count_settled (t : Time) :
  t.settled.count = t.count
  := count_ofNanoseconds t.count

@[simp]
theorem settled_settled (t : Time) :
  t.settled.settled = t.settled
  := by
  rw [settled, count_settled, settled]

@[simp]
theorem storable_settled (t : Time) :
  t.settled.Storable ↔ t.Storable
  := by
  rw [Storable, count_settled, Storable]

/-- A time outside of a leap second is settled. -/
theorem settled_eq {t : Time} (h : t.nanos < 1000000000) :
  t.settled = t
  := by
  obtain ⟨seconds, nanos, nanos_lt⟩ := t
  have h : nanos < 1000000000 := h
  have whole : (seconds * 1000000000 + nanos : Int).fdiv 1000000000 = seconds := by
    rw [Int.fdiv_eq_ediv_of_nonneg _ (by decide)]
    omega
  have part : ((seconds * 1000000000 + nanos : Int).fmod 1000000000).toNat = nanos := by
    rw [Int.fmod_eq_emod_of_nonneg _ (by decide)]
    omega
  simp only [settled, count, ofNanoseconds, whole, part]

end Time

/-- The copy with the time that is read back after storing it. -/
def Copy.settled (c : Copy) : Copy := { c with modified := c.modified.settled }

@[simp]
theorem Copy.identity_settled (c : Copy) :
  c.settled.identity = c.identity
  := rfl

@[simp]
theorem Copy.settled_settled (c : Copy) :
  c.settled.settled = c.settled
  := by
  simp only [Copy.settled, Time.settled_settled]

namespace Record

/-! ### Keys -/

@[simp]
theorem key_inj {b c : Octets} {f g : Field} :
  key b f = key c g ↔ b = c ∧ f = g
  := by
  constructor
  · intro same
    obtain ⟨identity, octet⟩ := List.append_inj' (List.cons.inj same).2 rfl
    refine ⟨identity, ?_⟩
    cases f <;> cases g <;> first | rfl | exact absurd octet (by decide)
  · rintro ⟨rfl, rfl⟩
    rfl

@[simp]
theorem key_ne_indexKey (b : Octets) (f : Field) (n : Nat) :
  key b f ≠ indexKey n
  := by
  intro same
  exact absurd (List.cons.inj same).1 (by decide)

@[simp]
theorem key_ne_nextIdKey (b : Octets) (f : Field) :
  key b f ≠ nextIdKey
  := by
  intro same
  exact absurd (List.cons.inj same).1 (by decide)

@[simp]
theorem indexKey_ne_nextIdKey (n : Nat) :
  indexKey n ≠ nextIdKey
  := by
  intro same
  exact absurd (List.cons.inj same).1 (by decide)

@[simp]
theorem indexKey_ne_key (n : Nat) (b : Octets) (f : Field) :
  indexKey n ≠ key b f
  := (key_ne_indexKey b f n).symm

@[simp]
theorem nextIdKey_ne_key (b : Octets) (f : Field) :
  nextIdKey ≠ key b f
  := (key_ne_nextIdKey b f).symm

@[simp]
theorem nextIdKey_ne_indexKey (n : Nat) :
  nextIdKey ≠ indexKey n
  := (indexKey_ne_nextIdKey n).symm

/-- The key begins as those of index records do. -/
def Indexed (k : Octets) : Prop := [indexTag].isPrefixOf k = true

theorem indexed_indexKey (n : Nat) :
  Indexed (indexKey n)
  := by
  simp [Indexed, indexKey]

theorem Indexed.ne_key {k : Octets} (h : Indexed k) (b : Octets) (f : Field) :
  k ≠ key b f
  := by
  rintro rfl
  exact absurd h (by simp [Indexed, key, indexTag, copyTag])

theorem Indexed.ne_nextIdKey {k : Octets} (h : Indexed k) :
  k ≠ nextIdKey
  := by
  rintro rfl
  exact absurd h (by simp [Indexed, nextIdKey, indexTag])

theorem indexKey_inj {m n : Nat} (hm : m < wordBound) (hn : n < wordBound) :
  indexKey m = indexKey n ↔ m = n
  := by
  rw [indexKey, indexKey, List.cons_inj_right, encodeId, encodeId, Octets.bigEndian_inj]
  · rwa [Octets.capacity_eight]
  · rwa [Octets.capacity_eight]

theorem indexKey_lt_iff {m n : Nat} (hm : m < wordBound) (hn : n < wordBound) :
  indexKey m < indexKey n ↔ m < n
  := by
  rw [indexKey, indexKey, List.cons_lt_cons_iff, encodeId, encodeId, Octets.bigEndian_lt_iff]
  · simp [UInt8.lt_irrefl]
  · rwa [Octets.capacity_eight]
  · rwa [Octets.capacity_eight]

/-! ### Words -/

theorem decodeWord_bigEndian (word : Word) (n : Nat) :
  decodeWord word (Octets.bigEndian 8 n) = .ok (n % wordBound)
  := by
  rw [decodeWord, if_pos (Octets.length_bigEndian 8 n), Octets.toNat_bigEndian,
    Octets.capacity_eight]

theorem decodeWord_encodeId (word : Word) {n : Nat} (h : n < wordBound) :
  decodeWord word (encodeId n) = .ok n
  := by
  rw [encodeId, decodeWord_bigEndian, Nat.mod_eq_of_lt h]

/-- An index key with a word behind its tag is that of the insertion id in the word. -/
theorem Indexed.eq_indexKey {k : Octets} (h : Indexed k) {word : Word} {n : Nat}
    (decoded : decodeWord word (k.drop 1) = .ok n) :
  k = indexKey n
  := by
  rw [decodeWord] at decoded
  split at decoded
  next wide =>
    obtain rfl := Except.ok.inj decoded
    cases k with
    | nil => cases h
    | cons o b =>
        rw [List.drop_one, List.tail_cons] at wide ⊢
        obtain rfl : indexTag = o := by simpa [Indexed] using h
        rw [indexKey, encodeId, ← wide, Octets.bigEndian_toNat]
  next => cases decoded

/-- The octets of a time that is storable. -/
def timeOctets (t : Time) : Octets := Octets.bigEndian 8 (t.count % wordBound).toNat

theorem encodeTime_eq (t : Time) :
  encodeTime t = if t.Storable then .ok (timeOctets t) else .error (.storage (.timeRange t))
  := by
  have word : t.nanoseconds? = if t.Storable then some t.count else none := rfl
  rw [encodeTime, word]
  by_cases h : t.Storable
  · rw [if_pos h, if_pos h, timeOctets]
  · rw [if_neg h, if_neg h]

@[simp]
theorem timeOctets_settled (t : Time) :
  timeOctets t.settled = timeOctets t
  := by
  rw [timeOctets, Time.count_settled, timeOctets]

/-- A stored time is read back settled. -/
theorem decodeTime_timeOctets {t : Time} (h : t.Storable) :
  decodeTime (timeOctets t) = .ok t.settled
  := by
  have bound : wordBound = 18446744073709551616 := rfl
  have signed : signedBound = 9223372036854775808 := rfl
  obtain ⟨low, high⟩ := h
  rw [signed] at low high
  have word : (((t.count % wordBound).toNat % wordBound : Nat) : Int) = t.count % wordBound := by
    rw [bound]
    omega
  have value : Int.bmod (((t.count % wordBound).toNat % wordBound : Nat) : Int) wordBound
      = t.count := by
    rw [word, Int.emod_bmod, bound]
    apply Int.bmod_eq_of_le
    · omega
    · omega
  rw [decodeTime, timeOctets, decodeWord_bigEndian]
  simp only [bind, Except.bind, pure, Except.pure, Except.map, value, Time.settled]

end Record

end SiteCache
