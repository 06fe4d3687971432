import SiteCache.Octets

/-!
# Numbers and batches

Numbers that fit into some octets are laid out differently, and they are ordered as their octets
are (`Octets.bigEndian_inj`, `Octets.bigEndian_lt_iff`).  A list can be cut in one way only into
pieces that are not empty and of which all have one length but the last, which may be shorter:
these are its batches (`batched_iff`).  The length of the list tells how many they are and how long
the last one is (`Batched.length_eq`, `Batched.length_last`).
-/

namespace SiteCache

namespace Octets

theorem bigEndian_inj {w m n : Nat} (hm : m < capacity w) (hn : n < capacity w) :
  bigEndian w m = bigEndian w n ↔ m = n
  := by
  constructor
  · intro same
    have value := congrArg toNat same
    rwa [toNat_bigEndian, toNat_bigEndian, Nat.mod_eq_of_lt hm, Nat.mod_eq_of_lt hn] at value
  · rintro rfl
    rfl

/-- Byte strings of one length are ordered as the numbers that they denote. -/
theorem lt_iff_toNat_lt {b c : Octets} (same : b.length = c.length) :
  b < c ↔ toNat b < toNat c
  := by
  induction b generalizing c with
  | nil =>
      obtain rfl := List.length_eq_zero_iff.1 same.symm
      simp [toNat]
  | cons o b ih =>
      cases c with
      | nil => simp at same
      | cons p c =>
          simp only [List.length_cons, Nat.add_right_cancel_iff] at same
          have low := toNat_lt b
          have high := toNat_lt c
          rw [List.cons_lt_cons_iff, ih same, toNat, toNat, same, UInt8.lt_iff_toNat_lt,
            ← UInt8.toNat_inj]
          rw [same] at low
          generalize capacity c.length = unit at low high
          constructor
          · rintro (less | ⟨equal, less⟩)
            · have := Nat.mul_le_mul_right unit less
              rw [Nat.succ_mul] at this
              omega
            · rw [equal]
              omega
          · intro less
            rcases Nat.lt_trichotomy o.toNat p.toNat with h | h | h
            · exact .inl h
            · rw [h] at less
              exact .inr ⟨h, by omega⟩
            · have := Nat.mul_le_mul_right unit h
              rw [Nat.succ_mul] at this
              omega

/-- Numbers of one width are ordered as their octets are. -/
theorem bigEndian_lt_iff {w m n : Nat} (hm : m < capacity w) (hn : n < capacity w) :
  bigEndian w m < bigEndian w n ↔ m < n
  := by
  rw [lt_iff_toNat_lt (by simp), toNat_bigEndian, toNat_bigEndian, Nat.mod_eq_of_lt hm,
    Nat.mod_eq_of_lt hn]

end Octets

/-! ### Batches -/

variable {α : Type} {size : Nat} {xs front last : List α} {pieces : List (List α)}

theorem batches_nil (size : Nat) :
  batches size ([] : List α) = []
  := by
  rw [batches, dif_pos (.inr rfl)]

theorem batches_cons (pos : 0 < size) (more : xs ≠ []) :
  batches size xs = xs.take size :: batches size (xs.drop size)
  := by
  rw [batches, dif_neg]
  rintro (none | none)
  · omega
  · exact more none

/-- A list is cut into pieces of a length, of which only the last may be shorter; none is empty. -/
structure Batched (size : Nat) (xs : List α) (pieces : List (List α)) : Prop where
  whole : pieces.flatten = xs
  filled : [] ∉ pieces
  small : ∀ piece ∈ pieces, piece.length ≤ size
  full : ∀ piece ∈ pieces.dropLast, piece.length = size

namespace Batched

theorem nil :
  Batched size ([] : List α) []
  := ⟨rfl, List.not_mem_nil, List.forall_mem_nil _, List.forall_mem_nil _⟩

/-- What is not longer than a piece is one. -/
theorem single (more : xs ≠ []) (short : xs.length ≤ size) :
  Batched size xs [xs]
  := by
  refine ⟨List.flatten_singleton, ?_, ?_, List.forall_mem_nil _⟩
  · rw [List.mem_singleton]
    exact Ne.symm more
  · rintro piece among
    rw [List.mem_singleton.1 among]
    exact short

/-- A piece of the full length goes in front. -/
theorem cons (pos : 0 < size) (long : front.length = size) (h : Batched size xs pieces) :
  Batched size (front ++ xs) (front :: pieces)
  := by
  have filled : [] ≠ front := by
    rintro rfl
    exact absurd long (Nat.ne_of_lt pos)
  refine ⟨by rw [List.flatten_cons, h.whole], ?_, ?_, ?_⟩
  · rw [List.mem_cons, not_or]
    exact ⟨filled, h.filled⟩
  · rw [List.forall_mem_cons]
    exact ⟨Nat.le_of_eq long, h.small⟩
  · cases pieces with
    | nil => exact List.forall_mem_nil _
    | cons second pieces =>
        rw [List.dropLast_cons_cons, List.forall_mem_cons]
        exact ⟨long, h.full⟩

/-- There is no other way to cut a list. -/
theorem eq_batches (pos : 0 < size) (h : Batched size xs pieces) :
  pieces = batches size xs
  := by
  obtain ⟨rfl, filled, small, full⟩ := h
  induction pieces with
  | nil => rw [List.flatten_nil, batches_nil]
  | cons piece pieces ih =>
      rw [List.mem_cons, not_or] at filled
      rw [List.forall_mem_cons] at small
      have some : (piece :: pieces).flatten ≠ [] := by
        rw [List.flatten_cons]
        exact List.append_ne_nil_of_left_ne_nil (Ne.symm filled.1) _
      rw [batches_cons pos some, List.flatten_cons]
      cases pieces with
      | nil =>
          rw [List.flatten_nil, List.append_nil, List.take_of_length_le small.1,
            List.drop_of_length_le small.1, batches_nil]
      | cons second pieces =>
          rw [List.dropLast_cons_cons, List.forall_mem_cons] at full
          rw [← full.1, List.take_left, List.drop_left, full.1]
          exact congrArg _ (ih filled.2 small.2 full.2)

/-- The pieces before the last one are full. -/
theorem length_whole (h : Batched size xs (pieces ++ [last])) :
  xs.length = pieces.length * size + last.length
  := by
  have full := h.full
  rw [List.dropLast_concat] at full
  have lengths : pieces.map List.length = pieces.map fun _ => size := List.map_congr_left full
  rw [← h.whole, List.flatten_append, List.length_append, List.flatten_singleton,
    List.length_flatten, lengths, List.map_const', List.sum_replicate_nat]

theorem length_last_pos (h : Batched size xs (pieces ++ [last])) :
  0 < last.length
  := by
  apply List.length_pos_iff.2
  rintro rfl
  exact h.filled List.mem_concat_self

theorem length_last_le (h : Batched size xs (pieces ++ [last])) :
  last.length ≤ size
  := h.small last List.mem_concat_self

/-- There are as many pieces as the length takes, rounded up. -/
theorem length_eq (pos : 0 < size) (h : Batched size xs pieces) :
  pieces.length = (xs.length + size - 1) / size
  := by
  rcases List.eq_nil_or_concat pieces with rfl | ⟨pieces, last, rfl⟩
  · obtain rfl : xs = [] := h.whole.symm
    simp only [List.length_nil]
    exact (Nat.div_eq_of_lt (by omega)).symm
  · rw [List.concat_eq_append] at h ⊢
    have filled := h.length_last_pos
    have short := h.length_last_le
    have total : xs.length + size - 1 = last.length - 1 + (pieces.length + 1) * size := by
      rw [h.length_whole, Nat.succ_mul]
      omega
    rw [total, Nat.add_mul_div_right _ _ pos, Nat.div_eq_of_lt (by omega), Nat.zero_add,
      List.length_append, List.length_singleton]

/-- The last piece has what is left over from full ones, or it is full itself. -/
theorem length_last (h : Batched size xs (pieces ++ [last])) :
  last.length = if xs.length % size = 0 then size else xs.length % size
  := by
  have filled := h.length_last_pos
  rw [h.length_whole, Nat.mul_add_mod']
  rcases Nat.lt_or_eq_of_le h.length_last_le with short | long
  · rw [Nat.mod_eq_of_lt short, if_neg (by omega)]
  · rw [long, Nat.mod_self, if_pos rfl]

end Batched

theorem batched_batches (pos : 0 < size) (xs : List α) :
  Batched size xs (batches size xs)
  := by
  fun_induction batches size xs with
  | case1 xs ends =>
      obtain rfl : xs = [] := ends.resolve_left (Nat.ne_of_gt pos)
      exact .nil
  | case2 xs more ih =>
      rw [not_or] at more
      rcases Nat.le_total size xs.length with long | short
      · have next := Batched.cons pos (List.length_take_of_le long) ih
        rwa [List.take_append_drop] at next
      · rw [List.take_of_length_le short, List.drop_of_length_le short, batches_nil]
        exact .single more.2 short

/-- The batches of a list are the one way to cut it. -/
theorem batched_iff (pos : 0 < size) :
  Batched size xs pieces ↔ pieces = batches size xs
  := by
  constructor
  · exact Batched.eq_batches pos
  · rintro rfl
    exact batched_batches pos xs

end SiteCache
