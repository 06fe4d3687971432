import SiteCache.Proofs.Octets
import SiteCache.Site.Chunk

/-!
# The law of chunks

There is one way to divide a content into chunks of a length (`Chunk.Divides`), and that is how it
is divided: the chunks are its batches (`Chunk.divides_iff`).  Their number is stored as a signed
word; the words that are read are exactly those of positive numbers, and every other byte string is
refused with its width or with the number that it denotes (`Chunk.decodeCount_eq_ok_iff`,
`Chunk.decodeCount_eq_error_iff`).
-/

namespace SiteCache.Chunk

/-- Octets, least significant first, as a signed word of four octets. -/
def signedWord (b : Octets) : Int :=
  let word := Octets.toNat b.reverse
  if word < 2147483648 then word else word - 4294967296

/-- A content is divided into chunks of this length: as many as its own length takes, rounded up,
all of them full but the last one, which has what remains or is full, and none of them empty. -/
structure Divides (size : Nat) (content : Octets) (chunks : List Octets) : Prop where
  whole : chunks.flatten = content
  count : chunks.length = (content.length + size - 1) / size
  full : ∀ chunk ∈ chunks.dropLast, chunk.length = size
  last : ∀ chunk ∈ chunks.getLast?, chunk.length = content.length % size ∨ chunk.length = size
  filled : [] ∉ chunks

variable {size n count : Nat} {content b : Octets} {chunks : List Octets} {fault : Fault}

/-! ### Chunks -/

theorem Divides.batched (pos : 0 < size) (h : Divides size content chunks) :
  Batched size content chunks
  := by
  refine ⟨h.whole, h.filled, ?_, h.full⟩
  obtain ⟨-, -, full, last, -⟩ := h
  rcases List.eq_nil_or_concat chunks with rfl | ⟨front, final, rfl⟩
  · exact List.forall_mem_nil _
  · rw [List.concat_eq_append] at full last ⊢
    rw [List.dropLast_concat] at full
    rw [List.getLast?_concat] at last
    rw [List.forall_mem_append, List.forall_mem_singleton]
    refine ⟨fun chunk among => Nat.le_of_eq (full chunk among), ?_⟩
    rcases last final rfl with remainder | whole
    · rw [remainder]
      exact Nat.le_of_lt (Nat.mod_lt _ pos)
    · exact Nat.le_of_eq whole

theorem divides_of_batched (pos : 0 < size) (h : Batched size content chunks) :
  Divides size content chunks
  := by
  refine ⟨h.whole, h.length_eq pos, h.full, ?_, h.filled⟩
  intro chunk ends
  obtain ⟨front, rfl⟩ := List.getLast?_eq_some_iff.1 ends
  have length := h.length_last
  split at length
  next => exact .inr length
  next => exact .inl length

theorem divides_iff (pos : 0 < size) :
  Divides size content chunks ↔ chunks = divide content size
  := by
  rw [divide, ← batched_iff pos]
  exact ⟨Divides.batched pos, divides_of_batched pos⟩

theorem divide_eq_nil (none : content = [] ∨ size = 0) :
  divide content size = []
  := by
  rw [divide, batches, dif_pos none.symm]

/-- The last chunk has the remainder of the content, or is full if there is none. -/
theorem length_of_getLast?_divide (pos : 0 < size) {last : Octets}
    (ends : (divide content size).getLast? = some last) :
  last.length = if content.length % size = 0 then size else content.length % size
  := by
  obtain ⟨front, whole⟩ := List.getLast?_eq_some_iff.1 ends
  have batched := batched_batches pos content
  rw [← divide, whole] at batched
  exact batched.length_last

/-! ### Their number -/

theorem toNat_reverse_lt (right : b.length = 4) :
  Octets.toNat b.reverse < 4294967296
  := by
  have below := Octets.toNat_lt b.reverse
  rwa [List.length_reverse, right] at below

/-- A word that is positive is the number that its octets denote. -/
theorem signedWord_of_pos (right : b.length = 4) (pos : 0 < signedWord b) :
  Octets.toNat b.reverse < 2147483648 ∧ signedWord b = Octets.toNat b.reverse
  := by
  have below := toNat_reverse_lt right
  rw [signedWord] at pos ⊢
  split at pos <;> split <;> omega

/-- A number of chunks is a positive signed word. -/
theorem decodeCount_eq (b : Octets) :
  decodeCount b
    = if b.length = 4 then
        if signedWord b ≤ 0 then .error (.corrupt (.countValue (signedWord b)))
        else .ok (signedWord b).toNat
      else .error (.corrupt (.countWidth b.length))
  := by
  rw [decodeCount]
  by_cases right : b.length = 4
  · have word : Int.bmod (Octets.toNat b.reverse) (Octets.capacity 4) = signedWord b := by
      have capacity : Octets.capacity 4 = 4294967296 := rfl
      have below := toNat_reverse_lt right
      rw [capacity, signedWord, Int.bmod_def]
      split <;> split <;> omega
    rw [if_neg (not_not_intro right), if_pos right, word]
  · rw [if_pos right, if_neg right]

theorem length_encodeCount (n : Nat) :
  (encodeCount n).length = 4
  := by
  rw [encodeCount, List.length_reverse, Octets.length_bigEndian]

/-- The word of a number is the number, or negative from the middle of the words on. -/
theorem signedWord_encodeCount (fits : n < 4294967296) :
  signedWord (encodeCount n) = if n < 2147483648 then (n : Int) else n - 4294967296
  := by
  have capacity : Octets.capacity 4 = 4294967296 := rfl
  rw [signedWord, encodeCount, List.reverse_reverse, Octets.toNat_bigEndian, capacity,
    Nat.mod_eq_of_lt fits]

/-- What is written is read back if it is positive as a signed word. -/
theorem decodeCount_encodeCount_eq (fits : n < 4294967296) :
  decodeCount (encodeCount n)
    = if 1 ≤ n ∧ n < 2147483648 then .ok n
      else .error (.corrupt (.countValue (if n < 2147483648 then (n : Int) else n - 4294967296)))
  := by
  rw [decodeCount_eq, if_pos (length_encodeCount n), signedWord_encodeCount fits]
  by_cases low : n < 2147483648
  · rw [if_pos low]
    by_cases pos : 1 ≤ n
    · rw [if_neg (by omega), if_pos ⟨pos, low⟩, Int.toNat_natCast]
    · rw [if_pos (by omega), if_neg fun both => pos both.1]
  · rw [if_neg low, if_pos (by omega), if_neg fun both => low both.2]

theorem decodeCount_encodeCount (pos : 0 < n) (low : n < 2147483648) :
  decodeCount (encodeCount n) = .ok n
  := by
  rw [decodeCount_encodeCount_eq (by omega), if_pos ⟨pos, low⟩]

/-- Exactly what is written for a positive signed word is read. -/
theorem decodeCount_eq_ok_iff :
  decodeCount b = .ok count ↔ 1 ≤ count ∧ count < 2147483648 ∧ b = encodeCount count
  := by
  constructor
  · intro read
    rw [decodeCount_eq] at read
    split at read
    next right =>
      split at read
      next => cases read
      next positive =>
        obtain rfl := Except.ok.inj read
        obtain ⟨low, word⟩ := signedWord_of_pos right (Int.not_le.1 positive)
        have back := Octets.bigEndian_toNat b.reverse
        rw [List.length_reverse, right] at back
        rw [word] at positive ⊢
        rw [Int.toNat_natCast, encodeCount, back, List.reverse_reverse]
        exact ⟨by omega, low, rfl⟩
    next => cases read
  · rintro ⟨pos, low, rfl⟩
    exact decodeCount_encodeCount pos low

/-- Everything else is refused: by its width, or by the number that is not positive. -/
theorem decodeCount_eq_error_iff :
  decodeCount b = .error fault
    ↔ b.length ≠ 4 ∧ fault = .corrupt (.countWidth b.length)
      ∨ b.length = 4 ∧ signedWord b ≤ 0 ∧ fault = .corrupt (.countValue (signedWord b))
  := by
  rw [decodeCount_eq]
  by_cases right : b.length = 4
  · by_cases low : signedWord b ≤ 0
    · simp only [right, low, if_true, Except.error.injEq, ne_eq, not_true, false_and, true_and,
        false_or]
      exact eq_comm
    · simp only [right, low, if_true, if_false, reduceCtorEq, ne_eq, not_true, false_and,
        and_false, or_false]
  · simp only [right, if_false, Except.error.injEq, ne_eq, not_false_eq_true, true_and, false_and,
      or_false]
    exact eq_comm

/-! ### The law -/

/-- Without a content or a length there are no chunks.  Otherwise a content is divided in the only
way there is, and the last chunk is full exactly if nothing remains.  Of the numbers that fit into
four octets those are read back that are positive as signed words, and the others are refused as
what they are as signed words.  Whatever is read is what is written for the number that it is read
as; whatever is refused has the wrong width or denotes no positive number. -/
theorem chunks_exact :
  (∀ content size, content = [] ∨ size = 0 → divide content size = [])
    ∧ (∀ content size, 0 < size →
        (∀ chunks, Divides size content chunks ↔ chunks = divide content size)
          ∧ ∀ last ∈ (divide content size).getLast?,
              last.length = if content.length % size = 0 then size else content.length % size)
    ∧ (∀ n < 4294967296, decodeCount (encodeCount n)
        = if 1 ≤ n ∧ n < 2147483648 then .ok n
          else .error (.corrupt
            (.countValue (if n < 2147483648 then (n : Int) else n - 4294967296))))
    ∧ (∀ b count, decodeCount b = .ok count
        ↔ 1 ≤ count ∧ count < 2147483648 ∧ b = encodeCount count)
    ∧ ∀ b fault, decodeCount b = .error fault
        ↔ b.length ≠ 4 ∧ fault = .corrupt (.countWidth b.length)
          ∨ b.length = 4 ∧ signedWord b ≤ 0 ∧ fault = .corrupt (.countValue (signedWord b))
  := by
  refine ⟨fun content size => divide_eq_nil, fun content size pos => ⟨fun chunks => ?_, ?_⟩,
    fun n => decodeCount_encodeCount_eq, fun b count => decodeCount_eq_ok_iff,
    fun b fault => decodeCount_eq_error_iff⟩
  · exact divides_iff pos
  · intro last ends
    exact length_of_getLast?_divide pos ends

/-- A content with a remainder, one without, and words on both sides of the largest number. -/
theorem chunks_exact_boundary :
  divide [1, 2, 3, 4, 5, 6, 7] 3 = [[1, 2, 3], [4, 5, 6], [7]]
    ∧ divide [1, 2, 3, 4, 5, 6] 3 = [[1, 2, 3], [4, 5, 6]]
    ∧ divide [] 3 = [] ∧ divide [1] 0 = []
    ∧ decodeCount [255, 255, 255, 127] = .ok 2147483647
    ∧ decodeCount (encodeCount 2147483648) = .error (.corrupt (.countValue (-2147483648)))
    ∧ decodeCount [1, 0] = .error (.corrupt (.countWidth 2))
  := by
  obtain ⟨none, divided, written, read, refused⟩ := chunks_exact
  have shorter : Divides 3 [1, 2, 3, 4, 5, 6, 7] [[1, 2, 3], [4, 5, 6], [7]] :=
    ⟨rfl, rfl, by decide, by decide, by decide⟩
  have full : Divides 3 [1, 2, 3, 4, 5, 6] [[1, 2, 3], [4, 5, 6]] :=
    ⟨rfl, rfl, by decide, by decide, by decide⟩
  refine ⟨(((divided _ 3 (by decide)).1 _).1 shorter).symm,
    (((divided _ 3 (by decide)).1 _).1 full).symm, none _ _ (.inl rfl), none _ _ (.inr rfl),
    (read _ _).2 ⟨by decide, by decide, by decide⟩, ?_,
    (refused _ _).2 (.inl ⟨by decide, rfl⟩)⟩
  exact written 2147483648 (by decide)

end SiteCache.Chunk
