import SiteCache.Proofs.Tier.Ram

/-!
# Making room in the RAM tier

Where an insertion would push a copy out, `popDisplaced` takes out just that copy beforehand; the
insertion then pushes nothing out and ends in the same tier (`RamTier.push_popDisplaced`).  If the
insertion does not come about, `restore` pushes nothing out either: the copy returns behind all
others, which keep their order, and if it was behind them before, the tier is the one from before
(`RamTier.restore_popDisplaced`).  Slots may be shared, but a look-up concerns the copy of the
identity asked for alone, and a slot that holds another one is left as it is
(`RamTier.displaced_exact`).
-/

namespace SiteCache

namespace RamTier

variable {hash : Identity → UInt64} {t u : RamTier hash} {i : Identity} {c x : Copy}

/-- A tier is determined by its capacity and its list of copies. -/
theorem ext_copies (capacity : t.capacity = u.capacity) (copies : t.copies = u.copies) :
  t = u
  := by
  have entries : t.slots.entries = u.slots.entries := by rw [entries_eq, entries_eq, copies]
  obtain ⟨⟨_, _, _, _, _⟩, _⟩ := t
  obtain ⟨⟨_, _, _, _, _⟩, _⟩ := u
  obtain rfl := capacity
  obtain rfl := entries
  rfl

/-! ### What an insertion pushes out -/

/-- A push pushes out the copy in the slot of its identity or, if the slot is vacant and the tier
full, the least recently used one. -/
theorem pushedOut_eq (t : RamTier hash) (i : Identity) :
  (t.slots.pushedOut (hash i)).map Prod.snd = victim hash t.capacity t.copies i
  := by
  rw [Recency.pushedOut, victim, ← slot_eq_find?]
  cases t.slots.peek (hash i) with
  | some c => rfl
  | none =>
      by_cases full : t.capacity ≤ t.copies.length
      · have isFull : t.slots.isFull = true := t.isFull_iff.2 full
        simp only [isFull, if_true, full, oldest?_eq_getLast?]
      · have spare : ¬ t.slots.isFull = true := fun h => full (t.isFull_iff.1 h)
        rw [if_neg full]
        simp only [spare, if_false, Option.map_none, Bool.false_eq_true]

/-- Where there is room, a push pushes nothing out. -/
theorem pushedOut_of_room (room : t.Room i) :
  t.slots.pushedOut (hash i) = none
  := by
  have vacant : t.copies.find? (fun c => hash c.identity = hash i) = none := by
    apply List.find?_eq_none.2
    intro d hd
    simpa using room.1 d hd
  have nothing := t.pushedOut_eq i
  rwa [victim, vacant, if_neg (Nat.not_le.2 room.2), Option.map_eq_none_iff] at nothing

theorem insert_of_room (room : t.Room c.identity) :
  t.insert c = (none, t.push c)
  := by
  rw [insert, pushedOut_of_room room]
  rfl

/-- A copy of the same identity is replaced in its slot. -/
theorem insert_of_resident (resident : t.peek c.identity = some x) :
  t.insert c = (none, t.push c)
  := by
  obtain ⟨hx, same⟩ := peek_eq_some_iff.1 resident
  have slot : t.slots.peek (hash c.identity) = some x :=
    slot_eq_some_iff.2 ⟨hx, by rw [same]⟩
  rw [insert, Recency.pushedOut, slot]
  simp [same]

/-- A copy of a new identity pushes the victim out. -/
theorem insert_of_absent (absent : t.peek c.identity = none) :
  t.insert c = (victim hash t.capacity t.copies c.identity, t.push c)
  := by
  rw [insert, pushedOut_eq]
  cases chosen : victim hash t.capacity t.copies c.identity with
  | none => rfl
  | some v =>
      rw [peek_eq_of?] at absent
      have other := Copy.of?_eq_none_iff.1 absent v (mem_of_victim chosen)
      rw [Option.filter_some, if_pos (by simpa using other)]

/-! ### Taking it out beforehand -/

/-- Nothing has to leave for an identity that is in the tier. -/
theorem popDisplaced_of_resident (resident : t.peek i = some x) :
  t.popDisplaced i = (none, t)
  := by
  obtain ⟨hx, rfl⟩ := peek_eq_some_iff.1 resident
  have slot : t.slots.peek (hash x.identity) = some x := slot_eq_some_iff.2 ⟨hx, rfl⟩
  simp only [popDisplaced, slot, if_true]

/-- Where a copy has to leave for an identity, the identity is not in the tier. -/
theorem absent_of_popDisplaced (popped : (t.popDisplaced i).1 = some x) :
  t.peek i = none
  := by
  cases found : t.peek i with
  | none => rfl
  | some d =>
      rw [popDisplaced_of_resident found] at popped
      cases popped

/-- A push leaves the copies that remain when the victim has left. -/
theorem copies_push_eq (t : RamTier hash) (c : Copy) :
  (t.push c).copies
    = c :: remaining (victim hash t.capacity t.copies c.identity) t.copies
  := by
  have bounded := t.length_le_capacity
  rw [copies_push, ← copies_eraseSlot, victim]
  congr 1
  cases slot : t.copies.find? fun d => hash d.identity = hash c.identity with
  | some v =>
      have hv := List.mem_of_find?_eq_some slot
      have same : hash v.identity = hash c.identity := by simpa using List.find?_some slot
      rw [← same, copies_eraseSlot_of_mem hv, remaining, List.take_of_length_le]
      have := Copy.length_others_lt hv
      omega
  | none =>
      have vacant : (t.eraseSlot (hash c.identity)).copies = t.copies := by
        rw [copies_eraseSlot, List.filter_eq_self]
        intro d hd
        simpa using List.find?_eq_none.1 slot d hd
      rw [vacant]
      by_cases full : t.capacity ≤ t.copies.length
      · have length : t.capacity - 1 = t.copies.length - 1 := by omega
        rw [if_pos full, length, ← List.dropLast_eq_take]
        cases last : t.copies.getLast? with
        | some v => exact dropLast_eq_others last
        | none => rw [remaining, List.getLast?_eq_none_iff.1 last, List.dropLast_nil]
      · rw [if_neg full, remaining, List.take_of_length_le]
        omega

/-- When the copy that an insertion would push out has left, the push comes to the same tier. -/
theorem push_popDisplaced (t : RamTier hash) (c : Copy) :
  (t.popDisplaced c.identity).2.push c = t.push c
  := by
  cases found : t.peek c.identity with
  | some d => rw [popDisplaced_of_resident found]
  | none =>
      apply ext_copies
      · rw [capacity_push, capacity_push, capacity_popDisplaced]
      · rw [copies_push_of_room (room_of_popDisplaced found), (popDisplaced_eq found).2,
          copies_push_eq]

/-- What an insertion pushes out is what is taken out beforehand; the insertion then pushes nothing
out and comes to the same tier. -/
theorem insert_popDisplaced (t : RamTier hash) (c : Copy) :
  (t.popDisplaced c.identity).1 = (t.insert c).1
    ∧ (t.popDisplaced c.identity).2.insert c = (none, (t.insert c).2)
  := by
  cases found : t.peek c.identity with
  | some d =>
      rw [popDisplaced_of_resident found, insert_of_resident found]
      exact ⟨rfl, rfl⟩
  | none =>
      rw [insert_of_room (room_of_popDisplaced found), push_popDisplaced, insert_of_absent found]
      exact ⟨(popDisplaced_eq found).1, rfl⟩

/-! ### Putting it back -/

/-- A copy that has left and returns is behind all others. -/
theorem copies_restore_popDisplaced (popped : (t.popDisplaced i).1 = some x) :
  ((t.popDisplaced i).2.restore x).copies = Copy.others x.identity t.copies ++ [x]
  := by
  have restored := copies_restored (absent_of_popDisplaced popped)
  rwa [popped, Option.elim_some] at restored

/-- The departure and the return of the least recently used copy leave the tier as it was. -/
theorem restore_popDisplaced (popped : (t.popDisplaced i).1 = some x)
    (oldest : t.copies.getLast? = some x) :
  (t.popDisplaced i).2.restore x = t
  := by
  apply ext_copies
  · rw [capacity_restore, capacity_popDisplaced]
  · obtain ⟨front, split⟩ := List.getLast?_eq_some_iff.1 oldest
    rw [copies_restore_popDisplaced popped, ← dropLast_eq_others oldest, split,
      List.dropLast_concat]

/-! ### Look-ups -/

/-- A look-up that finds nothing leaves the tier as it is. -/
theorem get_of_absent (absent : t.peek i = none) :
  t.get i = (none, t)
  := by
  rw [get, absent]

theorem remove_of_absent (absent : t.peek i = none) :
  t.remove i = (none, t)
  := by
  rw [remove, absent]

/-- A slot that holds another identity has no copy of the one asked for. -/
theorem peek_eq_none_of_slot (slot : t.slots.peek (hash i) = some x) (other : x.identity ≠ i) :
  t.peek i = none
  := by
  rw [peek, slot, Option.filter_some, if_neg (by simpa using other)]

/-- A copy that is looked up comes before all others, which keep their order. -/
theorem copies_get_eq (t : RamTier hash) (i : Identity) :
  (t.get i).2.copies = (t.peek i).toList ++ Copy.others i t.copies
  := by
  rw [(copies_get t i).2]
  cases found : t.peek i with
  | some c =>
      obtain ⟨-, rfl⟩ := peek_eq_some_iff.1 found
      rfl
  | none =>
      rw [peek_eq_of?] at found
      rw [remaining, Copy.others_eq_self found]

/-- What is taken out before an insertion is what the insertion alone would push out, and the
insertion then pushes nothing out and ends in the same tier.  A copy that was taken out returns
without pushing anything out: the copies are the same, those that stayed keep their order, the
returned one is the least recently used, and if it was that before, the tier is as it was.  Look-ups
find the copy of the identity asked for and concern no other copy; if they find none, also because
the slot holds another identity, they leave the tier as it is. -/
theorem displaced_exact (t : RamTier hash) :
  (∀ c : Copy, (t.popDisplaced c.identity).1 = (t.insert c).1
      ∧ (t.popDisplaced c.identity).2.insert c = (none, (t.insert c).2))
    ∧ (∀ i x, (t.popDisplaced i).1 = some x →
        (t.popDisplaced i).2.slots.pushedOut (hash x.identity) = none
          ∧ ((t.popDisplaced i).2.restore x).copies.Perm t.copies
          ∧ ((t.popDisplaced i).2.restore x).copies = Copy.others x.identity t.copies ++ [x]
          ∧ (t.copies.getLast? = some x → (t.popDisplaced i).2.restore x = t))
    ∧ (∀ i c, t.peek i = some c ↔ c ∈ t.copies ∧ c.identity = i)
    ∧ (∀ i, (t.get i).1 = t.peek i
        ∧ (t.get i).2.copies = (t.peek i).toList ++ Copy.others i t.copies)
    ∧ (∀ i, (t.remove i).1 = t.peek i ∧ (t.remove i).2.copies = Copy.others i t.copies)
    ∧ (∀ i, t.peek i = none → t.get i = (none, t) ∧ t.remove i = (none, t))
    ∧ ∀ i x, t.slots.peek (hash i) = some x → x.identity ≠ i → t.peek i = none
  := by
  refine ⟨t.insert_popDisplaced, fun i x popped => ?_, fun i c => peek_eq_some_iff,
    fun i => ⟨(copies_get t i).1, copies_get_eq t i⟩, copies_remove t,
    fun i absent => ⟨get_of_absent absent, remove_of_absent absent⟩,
    fun i x => peek_eq_none_of_slot⟩
  have absent := absent_of_popDisplaced popped
  have returned := copies_restore_popDisplaced popped
  refine ⟨pushedOut_of_room (room_of_victim absent popped), ?_, returned, ?_⟩
  · rw [returned]
    exact Copy.perm_moved t.nodup_identities (mem_copies_of_popDisplaced popped)
  · exact restore_popDisplaced popped

/-- Paths of one length share a slot of this hash. -/
def byLength (i : Identity) : UInt64 := i.resource.utf8ByteSize.toUInt64

/-- A full tier of two copies.  A copy of the path `c` takes the slot of the more recently used one,
which comes back behind the other; a copy of the path `ddd`, whose slot is vacant, takes the place
of the less recently used one, and its return undoes that. -/
theorem displaced_exact_shared :
  let a := Copy.ofOctet "a" 1
  let bb := Copy.ofOctet "bb" 2
  let c := Copy.ofOctet "c" 3
  let ddd : Identity := ⟨"", "ddd"⟩
  let t : RamTier byLength := ((empty 2).push bb).push a
  (t.popDisplaced c.identity).1 = some a
    ∧ (t.popDisplaced c.identity).2.insert c = (none, (t.insert c).2)
    ∧ ((t.popDisplaced c.identity).2.restore a).copies = [bb, a]
    ∧ (t.popDisplaced ddd).1 = some bb ∧ t.copies.getLast? = some bb
    ∧ (t.popDisplaced ddd).2.restore bb = t
    ∧ t.slots.peek (byLength c.identity) = some a ∧ a.identity ≠ c.identity
    ∧ t.get c.identity = (none, t) ∧ t.remove c.identity = (none, t)
  := by
  intro a bb c ddd t
  obtain ⟨foreseen, returned, -, -, -, missed, shared⟩ := displaced_exact t
  have slot : (t.popDisplaced c.identity).1 = some a := by decide +kernel
  have oldest : (t.popDisplaced ddd).1 = some bb := by decide +kernel
  have last : t.copies.getLast? = some bb := by decide +kernel
  have held : t.slots.peek (byLength c.identity) = some a := by decide +kernel
  have other : a.identity ≠ c.identity := by decide
  obtain ⟨-, -, behind, -⟩ := returned c.identity a slot
  obtain ⟨-, -, -, undone⟩ := returned ddd bb oldest
  obtain ⟨get, remove⟩ := missed c.identity (shared c.identity a held other)
  refine ⟨slot, (foreseen c).2, ?_, oldest, last, undone last, held, other, get, remove⟩
  rw [behind]
  decide +kernel

end RamTier

end SiteCache
