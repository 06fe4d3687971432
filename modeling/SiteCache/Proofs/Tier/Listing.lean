import SiteCache.Proofs.Tier.Queue

/-!
# The disk tier as a list

A disk tier lists copies (`DiskTier.Lists`) if its records hold a queue of them and its count is
their number.  What the tier answers and what becomes of the list is said by one theorem for each
operation: looks find the copies of the list, removals and promotions take copies out, and a save
puts a copy at the end after dropping the first one from a full list (`Copy.kept`).  A refusal
leaves the list alone, except that a save may be stopped when the first copy is already gone.
-/

namespace SiteCache

namespace DiskTier

variable {d d' : DiskTier} {copies : List Copy} {i : Identity} {c : Copy}

/-! ### What operations leave alone -/

/-- Operations may lead from one tier to the other: bound and refusals are the same, and insertion
ids were only given out in calls of the engine. -/
structure Leads (d d' : DiskTier) : Prop where
  capacity_eq : d'.capacity = d.capacity
  refuses_eq : d'.engine.refuses = d.engine.refuses
  nextId_le : d.nextId ≤ d'.nextId
  asked : d'.nextId + d.engine.asked.length ≤ d.nextId + d'.engine.asked.length

namespace Leads

theorem trans {d'' : DiskTier} (h : Leads d d') (h' : Leads d' d'') :
  Leads d d''
  := by
  obtain ⟨capacity, refuses, nextId, asked⟩ := h
  obtain ⟨capacity', refuses', nextId', asked'⟩ := h'
  refine ⟨capacity'.trans capacity, refuses'.trans refuses, ?_, ?_⟩
  · omega
  · omega

theorem of_asking (d : DiskTier) (calls : List Engine.Call) :
  Leads d (d.asking calls)
  := by
  refine ⟨rfl, rfl, Nat.le_refl _, ?_⟩
  simp only [asking, Engine.asking, List.length_append]
  omega

theorem refl (d : DiskTier) :
  Leads d d
  := of_asking d []

theorem of_wrote (d : DiskTier) (calls : List Engine.Call) (batch : Batch) {nextId count : Nat}
    (low : d.nextId ≤ nextId) (high : nextId ≤ d.nextId + 1) :
  Leads d { d.wrote calls batch with nextId := nextId, count := count }
  := by
  refine ⟨rfl, rfl, low, ?_⟩
  simp only [wrote, Engine.wrote, List.length_cons, List.length_append]
  omega

theorem asked_le (h : Leads d d') :
  d.engine.asked.length ≤ d'.engine.asked.length
  := by
  have ids := h.nextId_le
  have calls := h.asked
  omega

theorem counted (h : Leads d d') (counted : d.nextId ≤ d.engine.asked.length) :
  d'.nextId ≤ d'.engine.asked.length
  := by
  have := h.asked
  omega

theorem refuses (h : Leads d d') {fault : Fault} :
  d'.engine.Refuses fault ↔ d.engine.Refuses fault
  := by
  rw [Engine.Refuses, h.refuses_eq, Engine.Refuses]

end Leads

theorem Removed.leads {answer : Except Fault Bool} (h : Removed d i answer d') :
  Leads d d'
  := by
  cases h with
  | refused => apply Leads.of_asking
  | unreadable => apply Leads.of_asking
  | absent => apply Leads.of_asking
  | removed => exact Leads.of_wrote _ _ _ (Nat.le_refl _) (Nat.le_succ _)

theorem Evicted.leads {answer : Except Fault (Option Identity)} (h : Evicted d answer d') :
  Leads d d'
  := by
  cases h with
  | refused => apply Leads.of_asking
  | vacant => apply Leads.of_asking
  | evicted => exact Leads.of_wrote _ _ _ (Nat.le_refl _) (Nat.le_succ _)

theorem Prepared.leads {identity : Octets} {previous : Option Nat} {dropped : Option Identity}
    (h : Prepared d identity previous dropped d') :
  Leads d d'
  := by
  cases h with
  | spare => apply Leads.of_asking
  | evicted _ _ ends => exact ends.leads

theorem Saved.leads {answer : Except Fault (Option Identity)} (h : Saved d c answer d') :
  Leads d d'
  := by
  cases h with
  | refused => apply Leads.of_asking
  | unreadable => apply Leads.of_asking
  | stopped prepared => exact prepared.leads.trans (Leads.of_asking _ _)
  | saved prepared =>
      exact prepared.leads.trans (Leads.of_wrote _ _ _ (Nat.le_succ _) (Nat.le_refl _))

theorem Taken.leads {demoted : Option Copy} {answer : Except Fault (Option Copy)}
    (h : Taken d i demoted answer d') :
  Leads d d'
  := by
  cases h with
  | refused => apply Leads.of_asking
  | unreadable => apply Leads.of_asking
  | absent => apply Leads.of_asking
  | unprepared => apply Leads.of_asking
  | taken =>
      apply Leads.of_wrote
      · split
        · apply Nat.le_succ
        · apply Nat.le_refl
      · split
        · apply Nat.le_refl
        · apply Nat.le_succ

theorem Removed.nextId_eq {answer : Except Fault Bool} (h : Removed d i answer d') :
  d'.nextId = d.nextId
  := by
  cases h <;> rfl

theorem Evicted.nextId_eq {answer : Except Fault (Option Identity)} (h : Evicted d answer d') :
  d'.nextId = d.nextId
  := by
  cases h <;> rfl

theorem Prepared.nextId_eq {identity : Octets} {previous : Option Nat} {dropped : Option Identity}
    (h : Prepared d identity previous dropped d') :
  d'.nextId = d.nextId
  := by
  cases h with
  | spare => rfl
  | evicted _ _ ends => exact ends.nextId_eq

/-- A save gives out one insertion id at most. -/
theorem Saved.nextId_le {answer : Except Fault (Option Identity)} (h : Saved d c answer d') :
  d'.nextId ≤ d.nextId + 1
  := by
  cases h with
  | refused => apply Nat.le_succ
  | unreadable => apply Nat.le_succ
  | stopped prepared =>
      simp only [asking, prepared.nextId_eq]
      apply Nat.le_succ
  | saved prepared => exact Nat.succ_le_succ (Nat.le_of_eq prepared.nextId_eq)

/-- So does a copy that is stored where another one is taken out. -/
theorem Taken.nextId_le {demoted : Option Copy} {answer : Except Fault (Option Copy)}
    (h : Taken d i demoted answer d') :
  d'.nextId ≤ d.nextId + 1
  := by
  cases h with
  | refused => apply Nat.le_succ
  | unreadable => apply Nat.le_succ
  | absent => apply Nat.le_succ
  | unprepared => apply Nat.le_succ
  | taken =>
      split
      · apply Nat.le_refl
      · apply Nat.le_succ

/-! ### The list of copies -/

/-- The tier holds exactly these copies, oldest first. -/
structure Lists (d : DiskTier) (copies : List Copy) : Prop where
  queue : ∃ q, d.engine.records.Queue q d.nextId ∧ q.map Prod.snd = copies
  count_eq : d.count = copies.length

namespace Lists

theorem asking (h : d.Lists copies) (calls : List Engine.Call) :
  (d.asking calls).Lists copies
  := ⟨h.queue, h.count_eq⟩

/-- The list after the write of a batch that leaves a queue behind. -/
theorem of_wrote {q : List (Nat × Copy)} {batch : Batch} {nextId count : Nat}
    (queue : (d.engine.records.apply batch).Queue q nextId) (count_eq : count = q.length)
    (calls : List Engine.Call) :
  Lists { d.wrote calls batch with nextId := nextId, count := count } (q.map Prod.snd)
  := ⟨⟨q, queue, rfl⟩, by rw [count_eq, List.length_map]⟩

/-- The list after the write of a batch that gave no insertion id out. -/
theorem of_deleted {q : List (Nat × Copy)} {batch : Batch} {count : Nat}
    (queue : (d.engine.records.apply batch).Queue q d.nextId) (count_eq : count = q.length)
    (calls : List Engine.Call) :
  Lists { d.wrote calls batch with count := count } (q.map Prod.snd)
  := of_wrote queue count_eq calls

theorem fits (h : d.Lists copies) (hc : c ∈ copies) :
  c.identity.Fits
  := by
  obtain ⟨⟨q, queue, rfl⟩, -⟩ := h
  obtain ⟨x, hx, rfl⟩ := List.mem_map.1 hc
  exact queue.fits x hx

theorem storable (h : d.Lists copies) (hc : c ∈ copies) :
  c.modified.Storable
  := by
  obtain ⟨⟨q, queue, rfl⟩, -⟩ := h
  obtain ⟨x, hx, rfl⟩ := List.mem_map.1 hc
  exact queue.storable x hx

theorem settled (h : d.Lists copies) (hc : c ∈ copies) :
  c.settled = c
  := by
  obtain ⟨⟨q, queue, rfl⟩, -⟩ := h
  obtain ⟨x, hx, rfl⟩ := List.mem_map.1 hc
  exact queue.settled x hx

theorem nodup (h : d.Lists copies) :
  (copies.map Copy.identity).Nodup
  := by
  obtain ⟨⟨q, queue, rfl⟩, -⟩ := h
  rw [List.map_map]
  exact queue.distinct

theorem countable (h : d.Lists copies) :
  d.nextId < wordBound
  := by
  obtain ⟨⟨q, queue, rfl⟩, -⟩ := h
  exact queue.countable

/-- What the records say of a copy is found in the list. -/
private theorem of_entryOf? {α : Type} (f : Copy → α) (i : Identity) (q : List (Nat × Copy)) :
  (Records.entryOf? i q).map (fun x => f x.2) = (Copy.of? i (q.map Prod.snd)).map f
  := by
  rw [← Records.map_snd_entryOf?, Option.map_map]
  rfl

theorem isSome_entryOf? (i : Identity) (q : List (Nat × Copy)) :
  (Records.entryOf? i q).isSome = (Copy.of? i (q.map Prod.snd)).isSome
  := by
  rw [← Records.map_snd_entryOf?, Option.isSome_map]

theorem storedId (h : d.Lists copies) (fits : i.Fits) :
  ∃ id, d.engine.records.storedId i.encode = .ok id ∧ id.isSome = (Copy.of? i copies).isSome
  := by
  obtain ⟨⟨q, queue, rfl⟩, -⟩ := h
  refine ⟨_, queue.storedId_eq fits, ?_⟩
  rw [Option.isSome_map, isSome_entryOf?]

/-- An identity without a copy has no insertion id. -/
theorem storedId_eq_none_iff (h : d.Lists copies) (fits : i.Fits) :
  d.engine.records.storedId i.encode = .ok none ↔ Copy.of? i copies = none
  := by
  obtain ⟨id, stored, same⟩ := h.storedId fits
  rw [stored, Except.ok.injEq, ← Option.isNone_iff_eq_none, ← Option.isNone_iff_eq_none,
    ← Option.not_isSome, ← Option.not_isSome, same]

theorem copy (h : d.Lists copies) (fits : i.Fits) :
  d.engine.records.copy i = .ok (Copy.of? i copies)
  := by
  obtain ⟨⟨q, queue, rfl⟩, -⟩ := h
  rw [queue.copy_eq fits, Records.map_snd_entryOf?]

theorem modified (h : d.Lists copies) (fits : i.Fits) :
  d.engine.records.modified i = .ok ((Copy.of? i copies).map Copy.modified)
  := by
  obtain ⟨⟨q, queue, rfl⟩, -⟩ := h
  rw [queue.modified_eq fits, of_entryOf?]

theorem headers (h : d.Lists copies) (fits : i.Fits) :
  d.engine.records.headers i = .ok ((Copy.of? i copies).map Copy.headers)
  := by
  obtain ⟨⟨q, queue, rfl⟩, -⟩ := h
  rw [queue.headers_eq fits, of_entryOf?]

end Lists

/-! ### Looks -/

theorem Lists.answers_contains (h : d.Lists copies) (fits : i.Fits) :
  Answers (contains i) d (.ok (Copy.of? i copies).isSome)
  := by
  obtain ⟨id, stored, same⟩ := h.storedId fits
  have look := DiskTier.answers_contains i d
  rw [stored] at look
  rw [← same]
  exact look

/-! ### Changes -/

/-- A removal takes the copy of the identity out. -/
theorem Removed.lists {answer : Except Fault Bool} (ends : Removed d i answer d')
    (h : d.Lists copies) (fits : i.Fits) :
  (∃ fault, d.engine.Refuses fault ∧ answer = .error fault ∧ d'.Lists copies)
    ∨ answer = .ok (Copy.of? i copies).isSome ∧ d'.Lists (Copy.others i copies)
  := by
  have distinct := h.nodup
  obtain ⟨⟨q, queue, rfl⟩, count⟩ := h
  have stored := queue.storedId_eq fits
  have found := Lists.isSome_entryOf? i q
  cases ends with
  | refused refused => exact .inl ⟨_, refused, rfl, ⟨q, queue, rfl⟩, count⟩
  | unreadable unreadable =>
      rw [stored] at unreadable
      cases unreadable
  | absent absent =>
      rw [stored, Except.ok.injEq, Option.map_eq_none_iff] at absent
      rw [absent] at found
      have none := Option.not_isSome_iff_eq_none.1 (ne_true_of_eq_false found.symm)
      rw [Copy.others_eq_self none, none]
      exact .inr ⟨rfl, ⟨q, queue, rfl⟩, count⟩
  | removed present =>
      rw [stored] at present
      obtain ⟨x, entry, rfl⟩ := Option.map_eq_some_iff.1 (Except.ok.inj present)
      obtain ⟨hx, rfl⟩ := Records.mem_of_entryOf?_eq_some entry
      have shorter := Copy.length_others distinct (List.mem_map_of_mem hx)
      have taken := queue.delete fits
      rw [entry] at taken
      rw [← found, entry, ← Records.map_snd_without]
      rw [← Records.map_snd_without, List.length_map] at shorter
      refine .inr ⟨rfl, Lists.of_deleted taken ?_ _⟩
      omega

/-- An eviction takes the first copy out. -/
theorem Evicted.lists {answer : Except Fault (Option Identity)} (ends : Evicted d answer d')
    (h : d.Lists copies) :
  (∃ fault, d.engine.Refuses fault ∧ answer = .error fault ∧ d'.Lists copies)
    ∨ answer = .ok (copies.head?.map Copy.identity) ∧ d'.Lists copies.tail
  := by
  obtain ⟨⟨q, queue, rfl⟩, count⟩ := h
  have index := queue.index_eq
  cases ends with
  | refused refused => exact .inl ⟨_, refused, rfl, ⟨q, queue, rfl⟩, count⟩
  | vacant none =>
      cases q with
      | nil => exact .inr ⟨rfl, ⟨[], queue, rfl⟩, count⟩
      | cons x q =>
          rw [index] at none
          cases none
  | evicted first =>
      cases q with
      | nil =>
          rw [index] at first
          cases first
      | cons x q =>
          rw [index, List.map_cons, List.head?_cons] at first
          obtain ⟨rfl, rfl⟩ := Prod.mk.inj (Option.some.inj first)
          have decoded := Identity.decode_encode (queue.fits x List.mem_cons_self)
          refine .inr ⟨?_, Lists.of_deleted queue.evict ?_ _⟩
          · rw [decoded]
            rfl
          · simp only [count, List.map_cons, List.length_cons, List.length_map]
            omega

/-- When room is made for an identity, the copies that are kept stay. -/
theorem Prepared.lists {previous : Option Nat} {dropped : Option Identity}
    (ends : Prepared d i.encode previous dropped d') (h : d.Lists copies) (fits : i.Fits) :
  dropped = Copy.dropped d.capacity i copies ∧ d'.Lists (Copy.kept d.capacity i copies)
    ∧ d'.engine.records.storedId i.encode = .ok previous
  := by
  obtain ⟨id, stored, same⟩ := h.storedId fits
  have full : d.isFull = true ↔ d.capacity ≤ copies.length := by
    rw [isFull, h.count_eq, decide_eq_true_eq]
  have absent : id = none ↔ Copy.of? i copies = none := by
    rw [← Option.isNone_iff_eq_none, ← Option.isNone_iff_eq_none, ← Option.not_isSome,
      ← Option.not_isSome, same]
  have crowded : Copy.Crowded d.capacity i copies ↔ id = none ∧ d.isFull = true := by
    rw [Copy.Crowded, absent, full]
  simp only [Copy.dropped, Copy.kept, crowded]
  cases ends with
  | spare found room =>
      rw [found] at stored
      obtain rfl := Except.ok.inj stored
      rw [if_neg room, if_neg room]
      exact ⟨rfl, h.asking _, found⟩
  | evicted found full ends =>
      rw [found] at stored
      obtain rfl := Except.ok.inj stored
      rw [if_pos ⟨rfl, full⟩, if_pos ⟨rfl, full⟩]
      obtain ⟨fault, -, stopped, -⟩ | ⟨answer, lists⟩ := ends.lists h
      · cases stopped
      · have absent := Copy.of?_tail_eq_none (absent.1 rfl)
        exact ⟨Except.ok.inj answer, lists, (lists.storedId_eq_none_iff fits).2 absent⟩

/-- The write of an insertion puts the stored copy at the end. -/
theorem Lists.placed {previous : Option Nat} {count : Nat} (h : d.Lists copies)
    (fits : c.identity.Fits) (stored : d.engine.records.storedId c.identity.encode = .ok previous)
    (storable : c.modified.Storable) (countable : d.nextId + 1 < wordBound)
    (count_eq : count = if previous.isNone then d.count + 1 else d.count)
    (calls : List Engine.Call) :
  Lists
    { d.wrote calls (placement c d.nextId previous) with nextId := d.nextId + 1, count := count }
    (Copy.moved (some c.settled) copies)
  := by
  have distinct := h.nodup
  obtain ⟨⟨q, queue, rfl⟩, total⟩ := h
  rw [queue.storedId_eq fits] at stored
  obtain rfl := Except.ok.inj stored
  have appended : Copy.moved (some c.settled) (q.map Prod.snd)
      = (Records.without c.identity q ++ [(d.nextId, c.settled)]).map Prod.snd := by
    rw [List.map_append, Records.map_snd_without]
    rfl
  rw [appended]
  apply Lists.of_wrote (queue.insert fits storable countable)
  rw [count_eq, total, List.length_append, Option.isNone_map]
  cases found : Records.entryOf? c.identity q with
  | none =>
      have same : Records.without c.identity q = q := by
        simpa [Records.without] using Records.entryOf?_eq_none_iff.1 found
      simp [same]
  | some x =>
      obtain ⟨hx, same⟩ := Records.mem_of_entryOf?_eq_some found
      have shorter := Copy.length_others distinct (List.mem_map_of_mem hx)
      rw [same, ← Records.map_snd_without, List.length_map] at shorter
      simp only [Option.isNone_some, Bool.false_eq_true, if_false, List.length_singleton, shorter]

/-- A save drops the first copy of a crowded list and puts the stored copy at the end.  If the
engine refuses a call or the time cannot be stored, the first copy may be gone all the same. -/
theorem Saved.lists {answer : Except Fault (Option Identity)} (ends : Saved d c answer d')
    (h : d.Lists copies) (fits : c.identity.Fits) (countable : d'.nextId < wordBound) :
  (∃ fault, (d.engine.Refuses fault ∨ ¬ c.modified.Storable) ∧ answer = .error fault
      ∧ (d'.Lists copies ∨ d'.Lists (Copy.kept d.capacity c.identity copies)))
    ∨ answer = .ok (Copy.dropped d.capacity c.identity copies) ∧ c.modified.Storable
      ∧ d'.Lists (Copy.moved (some c.settled) (Copy.kept d.capacity c.identity copies))
  := by
  obtain ⟨present, stored, -⟩ := h.storedId fits
  cases ends with
  | refused refused => exact .inl ⟨_, .inl refused, rfl, .inl (h.asking _)⟩
  | unreadable unreadable =>
      rw [stored] at unreadable
      cases unreadable
  | stopped prepared reason =>
      obtain ⟨-, kept, -⟩ := prepared.lists h fits
      exact .inl ⟨_, reason.imp id not_storable_of_insertion, rfl, .inr (kept.asking _)⟩
  | saved prepared changes =>
      obtain ⟨rfl, kept, stored⟩ := prepared.lists h fits
      obtain ⟨storable, rfl⟩ := insertion_eq_ok_iff.1 changes
      exact .inr ⟨rfl, storable, kept.placed fits stored storable countable rfl _⟩

/-- What a promotion writes of the copy that it demotes. -/
private theorem replacement_eq (r : Records) (n : Nat) {v : Copy} {previous : Option Nat}
    (stored : r.storedId v.identity.encode = .ok previous) :
  r.replacement n (some v)
    = (insertion v n previous).map fun batch => (batch, if previous.isNone then 1 else 0)
  := by
  rw [Records.replacement, stored]
  rfl

private theorem fault_of_replacement {r : Records} {n : Nat} {v : Copy}
    {previous : Option Nat} {fault : Fault}
    (stored : r.storedId v.identity.encode = .ok previous)
    (fails : r.replacement n (some v) = .error fault) :
  ¬ v.modified.Storable ∧ .storage (.timeRange v.modified) = fault
  := by
  rw [replacement_eq r n stored] at fails
  cases made : insertion v n previous with
  | error stopped =>
      rw [made] at fails
      obtain rfl := Except.error.inj fails
      exact insertion_eq_error_iff.1 made
  | ok batch =>
      rw [made] at fails
      cases fails

theorem placement_of_replacement {r : Records} {n : Nat} {v : Copy}
    {previous : Option Nat} {batch : Batch} {added : Nat}
    (stored : r.storedId v.identity.encode = .ok previous)
    (made : r.replacement n (some v) = .ok (batch, added)) :
  v.modified.Storable ∧ batch = placement v n previous
    ∧ added = if previous.isNone then 1 else 0
  := by
  rw [replacement_eq r n stored] at made
  cases changes : insertion v n previous with
  | error fault =>
      rw [changes] at made
      cases made
  | ok changed =>
      rw [changes] at made
      obtain ⟨rfl, rfl⟩ := Prod.mk.inj (Except.ok.inj made)
      obtain ⟨storable, rfl⟩ := insertion_eq_ok_iff.1 changes
      exact ⟨storable, rfl, rfl⟩

/-- An insertion that is written together with an earlier batch puts the stored copy at the end of
the list that this batch leaves. -/
private theorem Lists.placed_with {first : Batch} {calls : List Engine.Call} {count : Nat}
    {previous : Option Nat} (h : Lists { d.wrote calls first with count := count } copies)
    (fits : c.identity.Fits)
    (stored : (d.engine.records.apply first).storedId c.identity.encode = .ok previous)
    (storable : c.modified.Storable) (countable : d.nextId + 1 < wordBound) :
  Lists
    { d.wrote calls (first ++ placement c d.nextId previous) with
      nextId := d.nextId + 1
      count := count + if previous.isNone then 1 else 0 }
    (Copy.moved (some c.settled) copies)
  := by
  have grown : (count + if previous.isNone then 1 else 0)
      = if previous.isNone then count + 1 else count := by
    split <;> rfl
  obtain ⟨⟨q, queue, listed⟩, total⟩ := h.placed fits stored storable countable grown []
  refine ⟨⟨q, ?_, listed⟩, total⟩
  simp only [records_wrote, nextId_wrote, Records.apply_append] at queue ⊢
  exact queue

/-- A copy that is taken out leaves the list, and the copy stored with the same write is put at the
end. -/
theorem Taken.lists {demoted : Option Copy} {answer : Except Fault (Option Copy)}
    (ends : Taken d i demoted answer d') (h : d.Lists copies) (fits : i.Fits)
    (other : ∀ v, demoted = some v → v.identity.Fits ∧ v.identity ≠ i)
    (countable : d'.nextId < wordBound) :
  (∃ fault, (d.engine.Refuses fault ∨ ∃ v, demoted = some v ∧ ¬ v.modified.Storable)
      ∧ answer = .error fault ∧ d'.Lists copies)
    ∨ (Copy.of? i copies = none ∧ answer = .ok none ∧ d'.Lists copies)
    ∨ ∃ c, Copy.of? i copies = some c ∧ answer = .ok (some c)
      ∧ (∀ v, demoted = some v → v.modified.Storable)
      ∧ d'.Lists (Copy.moved (demoted.map Copy.settled) (Copy.others i copies))
  := by
  obtain ⟨found, stored, same⟩ := h.storedId fits
  cases ends with
  | refused refused => exact .inl ⟨_, .inl refused, rfl, h.asking _⟩
  | unreadable unreadable =>
      rw [stored] at unreadable
      cases unreadable
  | absent absent =>
      exact .inr (.inl ⟨(h.storedId_eq_none_iff fits).1 absent, rfl, h.asking _⟩)
  | unprepared _ changes =>
      cases demoted with
      | none => cases changes
      | some v =>
          obtain ⟨previous, stored, -⟩ := h.storedId (other v rfl).1
          have unstorable := (fault_of_replacement stored changes).1
          exact .inl ⟨_, .inr ⟨v, rfl, unstorable⟩, rfl, h.asking _⟩
  | @taken id batch added calls present changes =>
      rw [stored] at present
      obtain rfl := Except.ok.inj present
      obtain ⟨c, found⟩ := Option.isSome_iff_exists.1 same.symm
      have removed := @Removed.removed d i id calls stored
      obtain ⟨fault, -, stopped, -⟩ | ⟨-, rest⟩ := removed.lists h fits
      · cases stopped
      refine .inr (.inr ⟨c, found, by rw [h.copy fits, found], ?_⟩)
      cases demoted with
      | none =>
          obtain ⟨rfl, rfl⟩ := Prod.mk.inj (Except.ok.inj changes)
          refine ⟨by simp, ?_⟩
          rw [List.append_nil]
          exact rest
      | some v =>
          obtain ⟨fitsV, otherV⟩ := other v rfl
          obtain ⟨previous, stored, -⟩ := h.storedId fitsV
          obtain ⟨storable, rfl, rfl⟩ := placement_of_replacement stored changes
          have elsewhere : v.identity.encode ≠ i.encode := by
            intro same
            exact otherV ((Identity.encode_inj fitsV fits).1 same)
          rw [← storedId_deletion _ (some id) elsewhere] at stored
          refine ⟨by rintro _ ⟨⟩; exact storable, ?_⟩
          exact rest.placed_with fitsV stored storable countable

/-- A save that stops for no refusal stops at a time that cannot be stored, when room has been made
already. -/
theorem Saved.lists_of_allowed {fault : Fault} (ends : Saved d c (.error fault) d')
    (h : d.Lists copies) (allowed : ¬ d.engine.Refuses fault) (fits : c.identity.Fits) :
  ¬ c.modified.Storable ∧ .storage (.timeRange c.modified) = fault
    ∧ d'.Lists (Copy.kept d.capacity c.identity copies)
  := by
  obtain ⟨present, stored, -⟩ := h.storedId fits
  cases ends with
  | refused refused => exact absurd refused allowed
  | unreadable unreadable =>
      rw [stored] at unreadable
      cases unreadable
  | stopped prepared reason =>
      obtain ⟨unstorable, same⟩ := insertion_eq_error_iff.1 (reason.resolve_left allowed)
      exact ⟨unstorable, same, (prepared.lists h fits).2.1.asking _⟩

/-- An exchange of one copy for another that stops for no refusal stops there, too. -/
theorem Taken.fault_of_allowed {demoted : Option Copy} {fault : Fault}
    (ends : Taken d i demoted (.error fault) d') (h : d.Lists copies)
    (allowed : ¬ d.engine.Refuses fault) (fits : i.Fits)
    (fitsD : ∀ v, demoted = some v → v.identity.Fits) :
  ∃ v, demoted = some v ∧ ¬ v.modified.Storable ∧ .storage (.timeRange v.modified) = fault
  := by
  obtain ⟨present, stored, -⟩ := h.storedId fits
  generalize answers : (Except.error fault : Except Fault (Option Copy)) = answer at ends
  cases ends with
  | refused refused =>
      obtain rfl := Except.error.inj answers
      exact absurd refused allowed
  | unreadable unreadable =>
      rw [stored] at unreadable
      cases unreadable
  | absent => cases answers
  | unprepared _ changes =>
      obtain rfl := Except.error.inj answers
      cases demoted with
      | none => cases changes
      | some v =>
          obtain ⟨previous, stored, -⟩ := h.storedId (fitsD v rfl)
          exact ⟨v, rfl, fault_of_replacement stored changes⟩
  | taken =>
      rw [h.copy fits] at answers
      cases answers

/-- An exchange finds nothing to take out only if there is nothing. -/
theorem Taken.of?_eq_none {demoted : Option Copy} (ends : Taken d i demoted (.ok none) d')
    (h : d.Lists copies) (fits : i.Fits) :
  Copy.of? i copies = none
  := by
  generalize answers : (Except.ok none : Except Fault (Option Copy)) = answer at ends
  cases ends with
  | refused => cases answers
  | unreadable => cases answers
  | absent absent => exact (h.storedId_eq_none_iff fits).1 absent
  | unprepared => cases answers
  | taken =>
      rw [h.copy fits] at answers
      exact (Except.ok.inj answers).symm

/-- A tier can be opened on records with a queue, unless the engine refuses a call. -/
theorem open?_of_queue {e : Engine} {capacity nextId : Nat} {q : List (Nat × Copy)}
    (queue : e.records.Queue q nextId) (room : capacity ≠ 0)
    (healthy : ∀ fault, ¬ e.Refuses fault) :
  ∃ calls, open? e capacity = .ok ⟨e.asking calls, capacity, q.length, nextId⟩
  := by
  obtain ⟨calls, ⟨count, next, survey, ended⟩ | ⟨fault, reason, -⟩⟩ := opened e room
  · rw [queue.survey_eq] at survey
    obtain ⟨rfl, rfl⟩ := Prod.mk.inj (Except.ok.inj survey)
    exact ⟨calls, ended⟩
  · rw [queue.survey_eq] at reason
    obtain refused | unreadable := reason
    · exact absurd refused (healthy fault)
    · cases unreadable

/-- A tier that is opened on records with a queue lists its copies. -/
theorem lists_of_open? {e : Engine} {capacity nextId : Nat} {q : List (Nat × Copy)}
    (queue : e.records.Queue q nextId) (room : capacity ≠ 0) (opens : open? e capacity = .ok d) :
  d.Lists (q.map Prod.snd) ∧ ∃ calls, d = ⟨e.asking calls, capacity, q.length, nextId⟩
  := by
  obtain ⟨calls, ⟨count, next, survey, ended⟩ | ⟨fault, -, ended⟩⟩ := opened e room
  · rw [opens] at ended
    obtain rfl := Except.ok.inj ended
    rw [queue.survey_eq] at survey
    obtain ⟨rfl, rfl⟩ := Prod.mk.inj (Except.ok.inj survey)
    exact ⟨⟨⟨q, queue, rfl⟩, (List.length_map _).symm⟩, calls, rfl⟩
  · rw [opens] at ended
    cases ended

end DiskTier

end SiteCache
