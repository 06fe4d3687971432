/-!
# Byte strings

A byte string is a list of octets; byte strings are ordered lexicographically, octet by
octet.  A number is laid out in a fixed number of octets, most significant first
(`bigEndian`), and read back by `toNat`; both directions are exact on what fits, the numbers below
`capacity`.  Words have eight octets; there are `wordBound` of them, and signed ones lie between
`signedBound` and its negative.  A byte string behind its length in eight octets is `framed`;
`unframe?` reads one off the front.  `batches` cuts a list into consecutive pieces of a fixed length,
of which only the last may be shorter.
-/

namespace SiteCache

/-- A byte string. -/
abbrev Octets := List UInt8

/-- The number of words of sixty-four bits. -/
def wordBound : Nat := 18446744073709551616

/-- The number of signed words of sixty-four bits that are not negative. -/
def signedBound : Nat := 9223372036854775808

namespace Octets

/-- The number of byte strings of a length. -/
def capacity (w : Nat) : Nat := Nat.pow 256 w

theorem capacity_succ (w : Nat) :
  capacity (w + 1) = capacity w * 256
  := rfl

theorem capacity_pos (w : Nat) :
  0 < capacity w
  := Nat.pow_pos (by decide)

/-- A word has eight octets. -/
theorem capacity_eight :
  capacity 8 = wordBound
  := rfl

/-- The `w` octets of a number, most significant first; higher octets are dropped. -/
def bigEndian : Nat → Nat → Octets
  | 0, _ => []
  | w + 1, n => UInt8.ofNat (n / capacity w) :: bigEndian w n

/-- The number that octets denote, most significant first. -/
def toNat : Octets → Nat
  | [] => 0
  | o :: rest => o.toNat * capacity rest.length + toNat rest

@[simp]
theorem length_bigEndian (w n : Nat) :
  (bigEndian w n).length = w
  := by
  induction w with
  | zero => rfl
  | succ w ih => simp [bigEndian, ih]

theorem toNat_lt (b : Octets) :
  toNat b < capacity b.length
  := by
  induction b with
  | nil => simp [toNat, capacity]
  | cons o rest ih =>
    have h : o.toNat * capacity rest.length ≤ 255 * capacity rest.length :=
      Nat.mul_le_mul_right _ (by have := o.toNat_lt; omega)
    simp only [toNat, List.length_cons, capacity_succ]
    omega

theorem toNat_bigEndian (w n : Nat) :
  toNat (bigEndian w n) = n % capacity w
  := by
  induction w with
  | zero => simp [bigEndian, toNat, capacity, Nat.mod_one]
  | succ w ih =>
    have octet : (UInt8.ofNat (n / capacity w)).toNat = n / capacity w % 256 :=
      UInt8.toNat_ofNat'
    rw [bigEndian, toNat, length_bigEndian, ih, octet, capacity_succ, Nat.mod_mul,
      Nat.mul_comm, Nat.add_comm]

theorem bigEndian_toNat (b : Octets) :
  bigEndian b.length (toNat b) = b
  := by
  suffices h : ∀ b k, bigEndian b.length (k * capacity b.length + toNat b) = b by
    simpa using h b 0
  intro b
  induction b with
  | nil => simp [bigEndian]
  | cons o rest ih =>
    intro k
    have split : k * capacity (rest.length + 1) + toNat (o :: rest)
        = (k * 256 + o.toNat) * capacity rest.length + toNat rest := by
      simp only [toNat, capacity_succ]
      rw [Nat.add_mul, Nat.mul_assoc, Nat.mul_comm 256, Nat.add_assoc]
    rw [List.length_cons, split, bigEndian, ih]
    congr 1
    rw [Nat.mul_comm, Nat.mul_add_div (capacity_pos _),
      Nat.div_eq_of_lt (toNat_lt rest)]
    apply UInt8.toNat.inj
    simp

/-! ### Byte strings behind their length -/

/-- A byte string behind its length in eight octets. -/
def framed (b : Octets) : Octets := bigEndian 8 b.length ++ b

@[simp]
theorem length_framed (b : Octets) :
  b.framed.length = 8 + b.length
  := by
  simp [framed]

/-- Reads a framed byte string and answers what follows it. -/
def unframe? (b : Octets) : Option (Octets × Octets) :=
  let size := toNat (b.take 8)
  let rest := b.drop 8
  if 8 ≤ b.length ∧ size ≤ rest.length then some (rest.take size, rest.drop size) else none

theorem unframe?_framed {b : Octets} (fits : b.length < wordBound) (rest : Octets) :
  unframe? (framed b ++ rest) = some (b, rest)
  := by
  have size : toNat (bigEndian 8 b.length) = b.length := by
    rw [toNat_bigEndian, capacity_eight, Nat.mod_eq_of_lt fits]
  have front : (framed b ++ rest).take 8 = bigEndian 8 b.length := by
    rw [framed, List.append_assoc, List.take_left' (length_bigEndian 8 _)]
  have back : (framed b ++ rest).drop 8 = b ++ rest := by
    rw [framed, List.append_assoc, List.drop_left' (length_bigEndian 8 _)]
  have long : 8 ≤ (framed b ++ rest).length := by
    simp only [List.length_append, length_framed]
    omega
  have inside : b.length ≤ (b ++ rest).length := by simp
  simp only [unframe?, front, back, size, long, inside, and_self, if_true, List.take_left,
    List.drop_left]

theorem eq_framed_of_unframe? {b part rest : Octets} (h : unframe? b = some (part, rest)) :
  b = framed part ++ rest
  := by
  simp only [unframe?] at h
  split at h
  next fits =>
    obtain ⟨long, inside⟩ := fits
    simp only [Option.some.injEq, Prod.mk.injEq] at h
    obtain ⟨rfl, rfl⟩ := h
    have eight : (b.take 8).length = 8 := by simp [List.length_take, Nat.min_eq_left long]
    have size : ((b.drop 8).take (toNat (b.take 8))).length = toNat (b.take 8) := by
      rw [List.length_take, Nat.min_eq_left inside]
    have front := bigEndian_toNat (b.take 8)
    rw [eight] at front
    rw [framed, size, front, List.append_assoc, List.take_append_drop, List.take_append_drop]
  next => simp at h

end Octets

/-- The consecutive pieces of a list, `size` elements each and the last one as many as are left;
no pieces when `size` is zero. -/
def batches {α : Type} (size : Nat) (xs : List α) : List (List α) :=
  if _h : size = 0 ∨ xs = [] then []
  else xs.take size :: batches size (xs.drop size)
termination_by xs.length
decreasing_by
  have : 0 < xs.length := List.length_pos_iff.2 (fun e => _h (.inr e))
  simp only [List.length_drop]
  omega

theorem batches_flatten {α : Type} {size : Nat} (pos : 0 < size) (xs : List α) :
  (batches size xs).flatten = xs
  := by
  fun_induction batches size xs with
  | case1 xs h =>
    rcases h with h | h
    · omega
    · simp [h]
  | case2 xs h ih => simp [ih]

end SiteCache
