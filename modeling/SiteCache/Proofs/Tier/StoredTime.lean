import SiteCache.Proofs.Tier.Record

/-!
# Stored times

A time is stored as its count of nanoseconds since the epoch, a signed word in two's complement
(`Octets.signed`).  Every word is the count of exactly one time outside of leap seconds, and those
are the times that can be stored, from 1677 to 2262, before the epoch as well as after it: the count
of whole seconds may leave the range of signed words at its lower end although that of the
nanoseconds does not (`Record.time_exact`).
-/

namespace SiteCache

namespace Octets

/-- The signed number that the octets of a word denote in two's complement. -/
def signed (b : Octets) : Int :=
  if toNat b < signedBound then toNat b else toNat b - wordBound

variable {b : Octets}

theorem toNat_lt_wordBound (word : b.length = 8) :
  toNat b < wordBound
  := by
  have below := toNat_lt b
  rwa [word, capacity_eight] at below

/-- Words are read modulo the number of words, as the number that is closest to zero. -/
theorem bmod_toNat (word : b.length = 8) :
  Int.bmod (toNat b) wordBound = signed b
  := by
  have below := toNat_lt_wordBound word
  have bound : wordBound = 18446744073709551616 := rfl
  have half : signedBound = 9223372036854775808 := rfl
  rw [signed]
  split
  next low =>
    apply Int.bmod_eq_of_le
    · omega
    · omega
  next high =>
    rw [← Int.sub_bmod_right]
    apply Int.bmod_eq_of_le
    · omega
    · omega

/-- A signed word is in the range of such words. -/
theorem signed_mem (word : b.length = 8) :
  -(signedBound : Int) ≤ signed b ∧ signed b < signedBound
  := by
  have below := toNat_lt_wordBound word
  have bound : wordBound = 18446744073709551616 := rfl
  have half : signedBound = 9223372036854775808 := rfl
  rw [signed]
  split
  next => omega
  next => omega

/-- A word is laid out from its signed number. -/
theorem bigEndian_signed (word : b.length = 8) :
  bigEndian 8 (signed b % wordBound).toNat = b
  := by
  have below := toNat_lt_wordBound word
  have bound : wordBound = 18446744073709551616 := rfl
  have unsigned : (signed b % wordBound).toNat = toNat b := by
    rw [signed, bound]
    rw [bound] at below
    split
    next => omega
    next => omega
  rw [unsigned, ← word, bigEndian_toNat]

end Octets

open Octets

namespace Time

/-- Outside of a leap second a time is that of its count of nanoseconds. -/
theorem eq_ofNanoseconds_iff {t : Time} {n : Int} :
  ofNanoseconds n = t ↔ t.nanos < 1000000000 ∧ t.count = n
  := by
  constructor
  · rintro rfl
    refine ⟨?_, count_ofNanoseconds n⟩
    have below := Int.fmod_lt_of_pos n (b := 1000000000) (by decide)
    simp only [ofNanoseconds]
    omega
  · rintro ⟨whole, rfl⟩
    exact settled_eq whole

end Time

namespace Record

variable {b : Octets} {t : Time}

theorem decodeTime_of_width (wrong : b.length ≠ 8) :
  decodeTime b = .error (.storage (.wordWidth .timestamp b.length))
  := by
  rw [decodeTime, decodeWord, if_neg wrong]
  rfl

/-- Exactly the words of eight octets are read, as the time of the count that they denote. -/
theorem decodeTime_eq_ok_iff :
  decodeTime b = .ok t ↔ b.length = 8 ∧ t.nanos < 1000000000 ∧ t.count = signed b
  := by
  by_cases word : b.length = 8
  · rw [decodeTime, decodeWord, if_pos word]
    simp only [bind, Except.bind, pure, Except.pure, Except.map, Except.ok.injEq, bmod_toNat word,
      Time.eq_ofNanoseconds_iff, word, true_and]
  · rw [decodeTime_of_width word]
    simp [word]

/-- A time is laid out as the word that denotes its count of nanoseconds, if there is one. -/
theorem encodeTime_eq_ok_iff :
  encodeTime t = .ok b ↔ b.length = 8 ∧ t.count = signed b
  := by
  rw [encodeTime_eq]
  constructor
  · intro encoded
    split at encoded
    next storable =>
      obtain rfl := Except.ok.inj encoded
      have word : (timeOctets t).length = 8 := length_bigEndian 8 _
      obtain ⟨-, -, count⟩ := decodeTime_eq_ok_iff.1 (decodeTime_timeOctets storable)
      rw [Time.count_settled] at count
      exact ⟨word, count⟩
    next => cases encoded
  · rintro ⟨word, count⟩
    have storable : t.Storable := by
      rw [Time.Storable, count]
      exact signed_mem word
    rw [if_pos storable, timeOctets, count, bigEndian_signed word]

theorem exists_encodeTime_iff :
  (∃ b, encodeTime t = .ok b) ↔ t.Storable
  := by
  rw [encodeTime_eq]
  constructor
  · rintro ⟨b, encoded⟩
    split at encoded
    next storable => exact storable
    next => cases encoded
  · intro storable
    exact ⟨timeOctets t, if_pos storable⟩

/-- Every word of eight octets is read as a time, and nothing else is; the time is that of the
signed count of nanoseconds that the word denotes, its seconds rounded down, and it is laid out as
the same word.  A time outside of leap seconds is laid out exactly if its count of nanoseconds is a signed
word, and it is read back; any other time is refused by name. -/
theorem time_exact :
  (∀ b : Octets, b.length = 8 → ∃ t, decodeTime b = .ok t ∧ encodeTime t = .ok b)
    ∧ (∀ b : Octets, b.length ≠ 8 →
        decodeTime b = .error (.storage (.wordWidth .timestamp b.length)))
    ∧ (∀ b t, decodeTime b = .ok t → t.nanos < 1000000000
        ∧ t.seconds * 1000000000 + t.nanos = signed b)
    ∧ ∀ t : Time, t.nanos < 1000000000 →
        ((∃ b, encodeTime t = .ok b)
            ↔ -(signedBound : Int) ≤ t.seconds * 1000000000 + t.nanos
              ∧ t.seconds * 1000000000 + t.nanos ≤ signedBound - 1)
          ∧ (∀ b, encodeTime t = .ok b → b.length = 8 ∧ decodeTime b = .ok t)
          ∧ ((∀ b, encodeTime t ≠ .ok b) → encodeTime t = .error (.storage (.timeRange t)))
  := by
  refine ⟨fun b word => ?_, fun b => decodeTime_of_width,
    fun b t read => (decodeTime_eq_ok_iff.1 read).2, fun t whole => ⟨?_, ?_, ?_⟩⟩
  · have read : decodeTime b = .ok (.ofNanoseconds (signed b)) :=
      decodeTime_eq_ok_iff.2 ⟨word, Time.eq_ofNanoseconds_iff.1 rfl⟩
    exact ⟨_, read, encodeTime_eq_ok_iff.2 ⟨word, Time.count_ofNanoseconds _⟩⟩
  · rw [exists_encodeTime_iff, Time.Storable, Int.le_sub_one_iff]
    rfl
  · intro b encoded
    obtain ⟨word, count⟩ := encodeTime_eq_ok_iff.1 encoded
    exact ⟨word, decodeTime_eq_ok_iff.2 ⟨word, whole, count⟩⟩
  · intro refused
    rw [encodeTime_eq, if_neg]
    intro storable
    obtain ⟨b, encoded⟩ := exists_encodeTime_iff.2 storable
    exact refused b encoded

/-- The first time that can be stored, of which the whole seconds alone are too early, and the time
before it. -/
theorem time_exact_earliest :
  let t : Time := ⟨-9223372037, 145224192, by decide⟩
  let early : Time := ⟨-9223372037, 145224191, by decide⟩
  let b : Octets := [128, 0, 0, 0, 0, 0, 0, 0]
  t.seconds * 1000000000 < -(signedBound : Int)
    ∧ encodeTime t = .ok b ∧ decodeTime b = .ok t
    ∧ encodeTime early = .error (.storage (.timeRange early))
  := by
  intro t early b
  obtain ⟨-, -, -, times⟩ := time_exact
  obtain ⟨-, back, -⟩ := times t (by decide)
  obtain ⟨stored, -, refused⟩ := times early (by decide)
  have encoded : encodeTime t = .ok b := encodeTime_eq_ok_iff.2 ⟨rfl, by decide +kernel⟩
  refine ⟨by decide, encoded, (back b encoded).2, refused fun b encoded => ?_⟩
  exact absurd (stored.1 ⟨b, encoded⟩).1 (by decide)

end Record

end SiteCache
