import SiteCache.Proofs.Copy
import SiteCache.Tier.Ram

/-!
# The RAM tier as a list

The operations of the RAM tier through the list of its copies, most recently used first.  The hash
of a copy's identity is its slot, so copies of a tier have distinct hashes, and a look-up of an
identity finds the copy of that identity (`RamTier.peek_eq_of?`).  `RamTier.victim` says which copy
has to leave before an identity that is not in the tier can enter; once it has left, neither the
insertion of the identity nor the return of the victim pushes anything out (`copies_push_of_room`,
`copies_restore_of_room`).
-/

namespace SiteCache

namespace RamTier

variable {hash : Identity → UInt64} {t : RamTier hash} {i : Identity} {c : Copy}

/-- The number of copies that the tier has room for. -/
def capacity (t : RamTier hash) : Nat := t.slots.capacity

theorem entries_eq (t : RamTier hash) :
  t.slots.entries = t.copies.map fun c => (hash c.identity, c)
  := by
  rw [copies, List.map_map]
  symm
  have same : ∀ x ∈ t.slots.entries, ((fun c => (hash c.identity, c)) ∘ Prod.snd) x = x := by
    intro x hx
    exact Prod.ext (t.keyed x hx).symm rfl
  rw [List.map_congr_left same, List.map_id']

/-- Copies of a tier are in distinct slots. -/
theorem nodup_slots (t : RamTier hash) :
  (t.copies.map fun c => hash c.identity).Nodup
  := by
  have distinct := t.slots.distinct
  rw [entries_eq, List.pairwise_map] at distinct
  exact List.pairwise_map.2 distinct

theorem eq_of_slot {d : Copy} (hc : c ∈ t.copies) (hd : d ∈ t.copies)
    (same : hash c.identity = hash d.identity) :
  c = d
  := List.inj_on_of_nodup_map t.nodup_slots hc hd same

theorem nodup_identities (t : RamTier hash) :
  (t.copies.map Copy.identity).Nodup
  := by
  apply List.Nodup.of_map hash
  rw [List.map_map]
  exact t.nodup_slots

theorem length_copies (t : RamTier hash) :
  t.copies.length = t.size
  := by
  rw [copies, List.length_map, size, Recency.size]

theorem length_le_capacity (t : RamTier hash) :
  t.copies.length ≤ t.capacity
  := by
  rw [length_copies]
  exact t.slots.bounded

theorem isFull_iff (t : RamTier hash) :
  t.isFull = true ↔ t.capacity ≤ t.copies.length
  := by
  rw [length_copies]
  simp [isFull, Recency.isFull, capacity, size]

/-! ### Look-ups -/

/-- The slot of a hash holds the copy whose identity has that hash. -/
theorem slot_eq_find? (t : RamTier hash) (h : UInt64) :
  t.slots.peek h = t.copies.find? fun c => hash c.identity = h
  := by
  rw [Recency.peek, entries_eq, List.find?_map, Option.map_map]
  simp [Function.comp_def]

theorem slot_eq_some_iff {h : UInt64} :
  t.slots.peek h = some c ↔ c ∈ t.copies ∧ hash c.identity = h
  := by
  rw [slot_eq_find?, find?_key_eq_some_iff t.nodup_slots]

/-- A look-up finds the copy of the identity asked for. -/
theorem peek_eq_some_iff :
  t.peek i = some c ↔ c ∈ t.copies ∧ c.identity = i
  := by
  rw [peek, Option.filter_eq_some_iff, slot_eq_some_iff, decide_eq_true_eq]
  constructor
  · rintro ⟨⟨hc, -⟩, same⟩
    exact ⟨hc, same⟩
  · rintro ⟨hc, rfl⟩
    exact ⟨⟨hc, rfl⟩, rfl⟩

theorem of?_eq_some_iff :
  Copy.of? i t.copies = some c ↔ c ∈ t.copies ∧ c.identity = i
  := find?_key_eq_some_iff t.nodup_identities

theorem peek_eq_of? (t : RamTier hash) (i : Identity) :
  t.peek i = Copy.of? i t.copies
  := by
  apply Option.ext
  intro c
  rw [peek_eq_some_iff, of?_eq_some_iff]

/-! ### Copies enter and leave -/

@[simp]
theorem capacity_push (t : RamTier hash) (c : Copy) :
  (t.push c).capacity = t.capacity
  := rfl

@[simp]
theorem capacity_eraseSlot (t : RamTier hash) (h : UInt64) :
  (t.eraseSlot h).capacity = t.capacity
  := rfl

@[simp]
theorem capacity_restore (t : RamTier hash) (c : Copy) :
  (t.restore c).capacity = t.capacity
  := rfl

@[simp]
theorem capacity_popOldest (t : RamTier hash) :
  t.popOldest.2.capacity = t.capacity
  := rfl

theorem copies_eraseSlot (t : RamTier hash) (h : UInt64) :
  (t.eraseSlot h).copies = t.copies.filter fun c => hash c.identity ≠ h
  := by
  have slots : (t.eraseSlot h).slots.entries = t.slots.entries.filter fun x => x.1 ≠ h := rfl
  rw [copies, slots, entries_eq, List.filter_map, List.map_map]
  simp [Function.comp_def]

/-- Where a copy leaves its slot, the copies of the other identities stay. -/
theorem copies_eraseSlot_of_mem (hc : c ∈ t.copies) :
  (t.eraseSlot (hash c.identity)).copies = Copy.others c.identity t.copies
  := by
  rw [copies_eraseSlot]
  apply List.filter_congr
  intro d hd
  have slots : hash d.identity = hash c.identity ↔ d.identity = c.identity := by
    constructor
    · intro same
      rw [eq_of_slot hd hc same]
    · intro same
      rw [same]
  rw [Bool.eq_iff_iff, decide_eq_true_eq, decide_eq_true_eq, ne_eq, slots]

theorem copies_push (t : RamTier hash) (c : Copy) :
  (t.push c).copies
    = c :: (t.copies.filter fun d => hash d.identity ≠ hash c.identity).take (t.capacity - 1)
  := by
  have slots : (t.push c).slots.entries = (hash c.identity, c)
      :: (t.eraseSlot (hash c.identity)).slots.entries.take (t.capacity - 1) := rfl
  rw [copies, slots, List.map_cons, List.map_take, ← copies_eraseSlot, copies]

/-- The slot of an identity is vacant and the tier is not full. -/
def Room (t : RamTier hash) (i : Identity) : Prop :=
  (∀ d ∈ t.copies, hash d.identity ≠ hash i) ∧ t.copies.length < t.capacity

theorem copies_push_of_room (room : t.Room c.identity) :
  (t.push c).copies = c :: t.copies
  := by
  have others : (t.copies.filter fun d => hash d.identity ≠ hash c.identity) = t.copies := by
    apply List.filter_eq_self.2
    intro d hd
    simpa using room.1 d hd
  rw [copies_push, others, List.take_of_length_le]
  have := room.2
  omega

/-- A copy of the tier that is pushed again only moves to the front. -/
theorem copies_push_of_mem (hc : c ∈ t.copies) :
  (t.push c).copies = c :: Copy.others c.identity t.copies
  := by
  rw [copies_push, ← copies_eraseSlot, copies_eraseSlot_of_mem hc, List.take_of_length_le]
  have room := t.length_le_capacity
  have shorter : (Copy.others c.identity t.copies).length < t.copies.length := by
    rw [Copy.others]
    apply List.length_filter_lt_length_iff_exists.2
    exact ⟨c, hc, by simp⟩
  omega

theorem copies_restore_of_room (room : t.Room c.identity) :
  (t.restore c).copies = t.copies ++ [c]
  := by
  have slots : (t.restore c).slots.entries
      = (t.push c).slots.entries.filter (fun x => x.1 ≠ hash c.identity)
        ++ (t.push c).slots.entries.filter (fun x => x.1 = hash c.identity) := rfl
  have stay : (c :: t.copies).filter (fun d => hash d.identity ≠ hash c.identity) = t.copies := by
    rw [List.filter_cons_of_neg (by simp), List.filter_eq_self]
    intro d hd
    simpa using room.1 d hd
  have sink : (c :: t.copies).filter (fun d => hash d.identity = hash c.identity) = [c] := by
    rw [List.filter_cons_of_pos (by simp), List.filter_eq_nil_iff.2]
    intro d hd
    simpa using room.1 d hd
  rw [copies, slots, entries_eq, copies_push_of_room room, List.filter_map, List.filter_map,
    ← List.map_append, List.map_map]
  simp only [Function.comp_def, stay, sink, List.map_id']

/-- The copy that has to leave before an identity that is not in a tier can enter: the one in its
slot or, if the slot is vacant and the tier full, the least recently used one. -/
def victim (hash : Identity → UInt64) (capacity : Nat) (copies : List Copy) (i : Identity) :
    Option Copy :=
  match copies.find? fun c => hash c.identity = hash i with
  | some c => some c
  | none => if capacity ≤ copies.length then copies.getLast? else none

theorem mem_of_victim {capacity : Nat} {copies : List Copy}
    (h : victim hash capacity copies i = some c) :
  c ∈ copies
  := by
  rw [victim] at h
  split at h
  next found =>
    obtain rfl := Option.some.inj h
    exact List.mem_of_find?_eq_some found
  next =>
    split at h
    · exact List.mem_of_getLast? h
    · cases h

/-- The copies that remain when a victim has left. -/
def remaining (v : Option Copy) (copies : List Copy) : List Copy :=
  match v with
  | some c => Copy.others c.identity copies
  | none => copies

theorem copies_popOldest (t : RamTier hash) :
  t.popOldest.2.copies = t.copies.dropLast
  := by
  have slots : t.popOldest.2.slots.entries = t.slots.entries.dropLast := rfl
  rw [copies, slots, List.map_dropLast, copies]

/-- The least recently used copy is the last one. -/
theorem oldest?_eq_getLast? (t : RamTier hash) :
  t.slots.oldest?.map Prod.snd = t.copies.getLast?
  := by
  rw [Recency.oldest?, copies, List.getLast?_map]

theorem dropLast_eq_others (h : t.copies.getLast? = some c) :
  t.copies.dropLast = Copy.others c.identity t.copies
  := by
  obtain ⟨front, split⟩ := List.getLast?_eq_some_iff.1 h
  have distinct := t.nodup_slots
  rw [split, List.map_append, List.nodup_append] at distinct
  rw [split, List.dropLast_concat, Copy.others, List.filter_append, List.filter_eq_self.2]
  · simp
  · intro d hd
    have apart :=
      distinct.2.2 (hash d.identity) (List.mem_map_of_mem hd) (hash c.identity) (by simp)
    rw [decide_eq_true_eq]
    intro same
    exact apart (by rw [same])

/-- Making room for an identity takes the victim out, and nothing else. -/
theorem popDisplaced_eq (absent : t.peek i = none) :
  (t.popDisplaced i).1 = victim hash t.capacity t.copies i
    ∧ (t.popDisplaced i).2.copies = remaining (victim hash t.capacity t.copies i) t.copies
  := by
  rw [popDisplaced, victim, ← slot_eq_find?]
  cases slot : t.slots.peek (hash i) with
  | some c =>
      obtain ⟨hc, same⟩ := slot_eq_some_iff.1 slot
      have other : c.identity ≠ i := by
        rintro rfl
        rw [peek_eq_of?, Copy.of?_eq_none_iff] at absent
        exact absent c hc rfl
      simp only [other, if_false, remaining, ← same, copies_eraseSlot_of_mem hc, and_self]
  | none =>
      by_cases full : t.isFull = true
      · have nonempty : t.copies ≠ [] := by
          intro none
          have := t.slots.capacity_pos
          have := t.isFull_iff.1 full
          rw [none, List.length_nil, capacity] at this
          omega
        simp only [full, if_true, t.isFull_iff.1 full, popOldest, oldest?_eq_getLast?, true_and]
        rw [List.getLast?_eq_getLast_of_ne_nil nonempty, remaining, ← dropLast_eq_others]
        · apply copies_popOldest
        · apply List.getLast?_eq_getLast_of_ne_nil
      · have spare : ¬ t.capacity ≤ t.copies.length := fun h => full (t.isFull_iff.2 h)
        simp only [full, if_false, spare, remaining, and_self, Bool.false_eq_true]

theorem capacity_popDisplaced (t : RamTier hash) (i : Identity) :
  (t.popDisplaced i).2.capacity = t.capacity
  := by
  rw [popDisplaced]
  split
  · split <;> rfl
  · split <;> rfl

private theorem length_others_lt (hc : c ∈ t.copies) :
  (Copy.others c.identity t.copies).length < t.capacity
  := Nat.lt_of_lt_of_le (Copy.length_others_lt hc) t.length_le_capacity

/-- A victim that has left has room to return. -/
theorem room_of_victim (absent : t.peek i = none) {v : Copy} (h : (t.popDisplaced i).1 = some v) :
  (t.popDisplaced i).2.Room v.identity
  := by
  obtain ⟨chosen, rest⟩ := popDisplaced_eq absent
  rw [← chosen, h] at rest
  rw [h] at chosen
  have hv := mem_of_victim chosen.symm
  rw [Room, rest, capacity_popDisplaced, remaining]
  refine ⟨?_, length_others_lt hv⟩
  intro d hd same
  obtain ⟨hd, other⟩ := Copy.mem_others.1 hd
  exact other (by rw [eq_of_slot hd hv same])

/-- A victim that has left and was put back is the least recently used one. -/
theorem copies_restored (absent : t.peek i = none) :
  ((t.popDisplaced i).1.elim (t.popDisplaced i).2 (t.popDisplaced i).2.restore).copies
    = Copy.moved (t.popDisplaced i).1 t.copies
  := by
  obtain ⟨chosen, rest⟩ := popDisplaced_eq absent
  cases popped : (t.popDisplaced i).1 with
  | none =>
      rw [← chosen, popped] at rest
      exact rest
  | some v =>
      rw [← chosen, popped] at rest
      rw [Option.elim_some, copies_restore_of_room (room_of_victim absent popped), rest]
      rfl

/-- When the victim has left there is room for the identity that it makes room for. -/
theorem room_of_popDisplaced (absent : t.peek i = none) :
  (t.popDisplaced i).2.Room i
  := by
  obtain ⟨-, rest⟩ := popDisplaced_eq absent
  rw [Room, rest, capacity_popDisplaced]
  rw [victim]
  cases slot : t.copies.find? fun c => hash c.identity = hash i with
  | some v =>
      have hv := List.mem_of_find?_eq_some slot
      have same : hash v.identity = hash i := by simpa using List.find?_some slot
      refine ⟨?_, length_others_lt hv⟩
      intro d hd equal
      obtain ⟨hd, other⟩ := Copy.mem_others.1 hd
      exact other (by rw [eq_of_slot hd hv (equal.trans same.symm)])
  | none =>
      have vacant : ∀ d ∈ t.copies, hash d.identity ≠ hash i := by
        intro d hd
        simpa using List.find?_eq_none.1 slot d hd
      by_cases full : t.capacity ≤ t.copies.length
      · simp only [full, if_true]
        cases last : t.copies.getLast? with
        | some v =>
            refine ⟨?_, length_others_lt (List.mem_of_getLast? last)⟩
            intro d hd
            exact vacant d (Copy.mem_others.1 hd).1
        | none =>
            have := t.slots.capacity_pos
            rw [List.getLast?_eq_none_iff.1 last, List.length_nil, capacity] at full
            omega
      · simp only [full, if_false, remaining]
        exact ⟨vacant, by omega⟩

/-! ### Nothing comes from elsewhere -/

theorem mem_copies_of_mem_push {d : Copy} (h : d ∈ (t.push c).copies) :
  d = c ∨ d ∈ t.copies
  := by
  rw [copies_push] at h
  rcases List.mem_cons.1 h with rfl | h
  · exact .inl rfl
  · exact .inr (List.mem_filter.1 (List.mem_of_mem_take h)).1

theorem mem_copies_of_mem_restore {d : Copy} (h : d ∈ (t.restore c).copies) :
  d = c ∨ d ∈ t.copies
  := by
  have sunk : (t.restore c).slots.entries
      = (t.push c).slots.entries.filter (fun x => x.1 ≠ hash c.identity)
        ++ (t.push c).slots.entries.filter (fun x => x.1 = hash c.identity) := rfl
  rw [copies, sunk, List.map_append] at h
  apply mem_copies_of_mem_push
  rcases List.mem_append.1 h with h | h
  · exact (List.filter_sublist.map _).subset h
  · exact (List.filter_sublist.map _).subset h

theorem mem_copies_of_mem_popDisplaced {d : Copy} (h : d ∈ (t.popDisplaced i).2.copies) :
  d ∈ t.copies
  := by
  rw [popDisplaced] at h
  split at h
  · split at h
    · exact h
    · rw [copies_eraseSlot] at h
      exact (List.mem_filter.1 h).1
  · split at h
    · rw [copies_popOldest] at h
      exact List.dropLast_subset _ h
    · exact h

theorem mem_copies_of_popDisplaced (h : (t.popDisplaced i).1 = some c) :
  c ∈ t.copies
  := by
  rw [popDisplaced] at h
  split at h
  next slot =>
    split at h
    · cases h
    · obtain rfl := Option.some.inj h
      exact (slot_eq_some_iff.1 slot).1
  next =>
    split at h
    · obtain ⟨x, last, rfl⟩ := Option.map_eq_some_iff.1 h
      exact List.mem_map.2 ⟨x, List.mem_of_getLast? last, rfl⟩
    · cases h

/-- A copy that has left a tier and was put back is among the copies as before. -/
theorem perm_restore_popDisplaced (absent : t.peek i = none) :
  ((t.popDisplaced i).1.elim (t.popDisplaced i).2 (t.popDisplaced i).2.restore).copies.Perm t.copies
  := by
  rw [copies_restored absent]
  cases popped : (t.popDisplaced i).1 with
  | none => exact .refl _
  | some v => exact Copy.perm_moved t.nodup_identities (mem_copies_of_popDisplaced popped)

/-! ### The look-ups that change the tier -/

theorem copies_get (t : RamTier hash) (i : Identity) :
  (t.get i).1 = t.peek i
    ∧ (t.get i).2.copies = (t.peek i).toList ++ remaining (t.peek i) t.copies
  := by
  rw [get]
  cases found : t.peek i with
  | none => simp [remaining]
  | some c => simp [remaining, copies_push_of_mem (peek_eq_some_iff.1 found).1]

theorem copies_remove (t : RamTier hash) (i : Identity) :
  (t.remove i).1 = t.peek i ∧ (t.remove i).2.copies = Copy.others i t.copies
  := by
  rw [remove]
  cases found : t.peek i with
  | none =>
      rw [peek_eq_of?] at found
      simp only [true_and]
      exact (Copy.others_eq_self found).symm
  | some c =>
      obtain ⟨hc, rfl⟩ := peek_eq_some_iff.1 found
      simp only [true_and]
      exact copies_eraseSlot_of_mem hc

theorem capacity_remove (t : RamTier hash) (i : Identity) :
  (t.remove i).2.capacity = t.capacity
  := by
  rw [remove]
  split <;> rfl

end RamTier

end SiteCache
