import SiteCache.Proofs.Copy
import SiteCache.Proofs.Headers
import SiteCache.Proofs.Tier.Batch

/-!
# The records as a queue

Records hold a queue of copies with ascending insertion ids (`Records.Queue`) if the fields found
under an identity are those of its entry, if the index records are those of the entries, and if the
next insertion id is recorded.  The readings of the disk tier are then look-ups in the queue, the
index lists it in order, and each batch turns a queue into a queue: a deletion takes an entry out,
an eviction the first one, and an insertion puts an entry behind all others.
-/

namespace SiteCache

namespace Records

open Record DiskTier

/-- The entry of an identity. -/
def entryOf? (i : Identity) (q : List (Nat × Copy)) : Option (Nat × Copy) :=
  q.find? fun x => x.2.identity = i

/-- The entries of the other identities. -/
def without (i : Identity) (q : List (Nat × Copy)) : List (Nat × Copy) :=
  q.filter fun x => x.2.identity ≠ i

/-- The records hold exactly these copies under these insertion ids, oldest first, with this next
insertion id. -/
structure Queue (r : Records) (q : List (Nat × Copy)) (nextId : Nat) : Prop where
  ascending : q.Pairwise fun x y => x.1 < y.1
  distinct : (q.map fun x => x.2.identity).Nodup
  below : ∀ x ∈ q, x.1 < nextId
  countable : nextId < wordBound
  fits : ∀ x ∈ q, x.2.identity.Fits
  storable : ∀ x ∈ q, x.2.modified.Storable
  settled : ∀ x ∈ q, x.2.settled = x.2
  field : ∀ i, i.Fits → ∀ f v,
    r.get? (key i.encode f) = some v ↔ ∃ x ∈ q, x.2.identity = i ∧ value x.1 x.2 f = v
  index : ∀ k, Indexed k → ∀ v,
    r.get? k = some v ↔ ∃ x ∈ q, indexKey x.1 = k ∧ x.2.identity.encode = v
  mark : r.get? nextIdKey = if nextId = 0 then none else some (encodeId nextId)

variable {r : Records} {q : List (Nat × Copy)} {nextId : Nat} {i : Identity} {x y : Nat × Copy}
  {c : Copy}

theorem mem_without :
  x ∈ without i q ↔ x ∈ q ∧ x.2.identity ≠ i
  := by
  simp [without]

theorem entryOf?_eq_none_iff :
  entryOf? i q = none ↔ ∀ x ∈ q, x.2.identity ≠ i
  := by
  simp [entryOf?]

theorem mem_of_entryOf?_eq_some (h : entryOf? i q = some x) :
  x ∈ q ∧ x.2.identity = i
  := ⟨List.mem_of_find?_eq_some h, by simpa using List.find?_some h⟩

theorem map_snd_entryOf? (i : Identity) (q : List (Nat × Copy)) :
  (entryOf? i q).map Prod.snd = Copy.of? i (q.map Prod.snd)
  := by
  rw [entryOf?, Copy.of?, List.find?_map]
  rfl

theorem map_snd_without (i : Identity) (q : List (Nat × Copy)) :
  (without i q).map Prod.snd = Copy.others i (q.map Prod.snd)
  := by
  rw [without, Copy.others, List.filter_map]
  rfl

namespace Queue

/-! ### Readings -/

theorem eq_of_identity (h : r.Queue q nextId) (hx : x ∈ q) (hy : y ∈ q)
    (same : x.2.identity = y.2.identity) :
  x = y
  := List.inj_on_of_nodup_map h.distinct hx hy same

theorem eq_of_id (h : r.Queue q nextId) (hx : x ∈ q) (hy : y ∈ q) (same : x.1 = y.1) :
  x = y
  := by
  have distinct : (q.map Prod.fst).Nodup := by
    apply List.pairwise_map.2
    exact h.ascending.imp fun less => Nat.ne_of_lt less
  exact List.inj_on_of_nodup_map distinct hx hy same

theorem id_lt (h : r.Queue q nextId) (hx : x ∈ q) :
  x.1 < wordBound
  := Nat.lt_trans (h.below x hx) h.countable

theorem eq_of_indexKey (h : r.Queue q nextId) (hx : x ∈ q) (hy : y ∈ q)
    (same : indexKey x.1 = indexKey y.1) :
  x = y
  := h.eq_of_id hx hy ((indexKey_inj (h.id_lt hx) (h.id_lt hy)).1 same)

theorem entryOf?_eq_some_iff (h : r.Queue q nextId) :
  entryOf? i q = some x ↔ x ∈ q ∧ x.2.identity = i
  := find?_key_eq_some_iff h.distinct

/-- The fields found under an identity are those of its entry. -/
theorem get?_key (h : r.Queue q nextId) (fits : i.Fits) (f : Field) :
  r.get? (key i.encode f) = (entryOf? i q).map fun x => value x.1 x.2 f
  := by
  apply Option.ext
  intro v
  rw [h.field i fits, Option.map_eq_some_iff]
  constructor
  · rintro ⟨x, hx, same, rfl⟩
    exact ⟨x, h.entryOf?_eq_some_iff.2 ⟨hx, same⟩, rfl⟩
  · rintro ⟨x, found, rfl⟩
    obtain ⟨hx, same⟩ := mem_of_entryOf?_eq_some found
    exact ⟨x, hx, same, rfl⟩

theorem storedId_eq (h : r.Queue q nextId) (fits : i.Fits) :
  r.storedId i.encode = .ok ((entryOf? i q).map Prod.fst)
  := by
  rw [storedId, h.get?_key fits]
  cases found : entryOf? i q with
  | none => rfl
  | some x =>
      have word := decodeWord_encodeId .entryId (h.id_lt (mem_of_entryOf?_eq_some found).1)
      simp only [Option.map_some, value, word]
      rfl

private theorem decodeTime_value (h : r.Queue q nextId) (hx : x ∈ q) :
  decodeTime (value x.1 x.2 .time) = .ok x.2.modified
  := by
  have settled := congrArg Copy.modified (h.settled x hx)
  rw [value, decodeTime_timeOctets (h.storable x hx)]
  exact congrArg Except.ok settled

private theorem decodeHeaders_value (x : Nat × Copy) :
  decodeHeaders (some (value x.1 x.2 .headers)) = .ok x.2.headers
  := by
  rw [value, decodeHeaders, Headers.decode?_encode_eq]

theorem modified_eq (h : r.Queue q nextId) (fits : i.Fits) :
  r.modified i = .ok ((entryOf? i q).map fun x => x.2.modified)
  := by
  rw [modified, h.get?_key fits]
  cases found : entryOf? i q with
  | none => rfl
  | some x =>
      simp only [Option.map_some, h.decodeTime_value (mem_of_entryOf?_eq_some found).1]
      rfl

theorem headers_eq (h : r.Queue q nextId) (fits : i.Fits) :
  r.headers i = .ok ((entryOf? i q).map fun x => x.2.headers)
  := by
  rw [headers, h.storedId_eq fits, h.get?_key fits]
  cases found : entryOf? i q with
  | none => rfl
  | some x =>
      simp only [Option.map_some, decodeHeaders_value]
      rfl

theorem copy_eq (h : r.Queue q nextId) (fits : i.Fits) :
  r.copy i = .ok ((entryOf? i q).map Prod.snd)
  := by
  rw [copy, h.get?_key fits, h.get?_key fits, h.get?_key fits]
  cases found : entryOf? i q with
  | none => rfl
  | some x =>
      obtain ⟨hx, rfl⟩ := mem_of_entryOf?_eq_some found
      simp only [Option.map_some, h.decodeTime_value hx, decodeHeaders_value]
      rfl

/-- The index lists the entries in the order of the queue. -/
theorem index_eq (h : r.Queue q nextId) :
  r.index = q.map fun x => (indexKey x.1, x.2.identity.encode)
  := by
  have ascending : (q.map fun x => (indexKey x.1, x.2.identity.encode)).Pairwise
      fun x y => x.1 < y.1 := by
    rw [List.pairwise_map]
    apply h.ascending.imp_of_mem
    intro x y hx hy less
    exact (indexKey_lt_iff (h.id_lt hx) (h.id_lt hy)).2 less
  apply index_eq_of_mem_iff ascending
  intro k v
  simp only [List.mem_map, Prod.mk.injEq]
  constructor
  · rintro ⟨x, hx, rfl, rfl⟩
    exact ⟨indexed_indexKey x.1, (h.index _ (indexed_indexKey x.1) _).2 ⟨x, hx, rfl, rfl⟩⟩
  · rintro ⟨indexed, stored⟩
    exact (h.index k indexed v).1 stored

theorem pastLast_eq (h : r.Queue q nextId) :
  ∃ n, r.pastLast = .ok n ∧ n ≤ nextId
  := by
  rw [pastLast, h.index_eq, List.getLast?_map]
  cases last : q.getLast? with
  | none => exact ⟨0, rfl, Nat.zero_le _⟩
  | some x =>
      have hx := List.mem_of_getLast? last
      have word := decodeWord_encodeId .indexId (h.id_lt hx)
      refine ⟨x.1 + 1, ?_, h.below x hx⟩
      simp only [Option.map_some, indexKey, List.drop_one, List.tail_cons, word]
      rfl

theorem mark_eq (h : r.Queue q nextId) :
  r.mark = .ok nextId
  := by
  rw [Records.mark, h.mark]
  by_cases zero : nextId = 0
  · rw [if_pos zero, zero]
  · rw [if_neg zero]
    exact decodeWord_encodeId .nextId h.countable

/-- The records tell how many copies there are and which insertion id comes next. -/
theorem survey_eq (h : r.Queue q nextId) :
  r.survey = .ok (q.length, nextId)
  := by
  obtain ⟨n, pastLast, le⟩ := h.pastLast_eq
  have length : r.index.length = q.length := by rw [h.index_eq, List.length_map]
  rw [survey, pastLast, h.mark_eq, length]
  simp only [bind, Except.bind, pure, Except.pure, Nat.max_eq_right le]

/-! ### Changes -/

/-- Empty records hold the empty queue. -/
theorem of_empty :
  Queue .empty [] 0 where
  ascending := .nil
  distinct := .nil
  below := by simp
  countable := by decide
  fits := by simp
  storable := by simp
  settled := by simp
  field := by simp
  index := by simp
  mark := rfl

/-- The entry of an identity is the one under its insertion id. -/
theorem indexKey_mem_iff (h : r.Queue q nextId) (hx : x ∈ q) :
  indexKey x.1 ∈ (((entryOf? i q).map Prod.fst).map indexKey).toList ↔ x.2.identity = i
  := by
  simp only [Option.map_map, Option.mem_toList, Option.map_eq_some_iff, h.entryOf?_eq_some_iff,
    Function.comp_apply]
  constructor
  · rintro ⟨y, ⟨hy, rfl⟩, same⟩
    rw [h.eq_of_indexKey hy hx same]
  · intro same
    exact ⟨x, ⟨hx, same⟩, rfl⟩

/-- A deletion takes the entry of an identity out of the queue. -/
theorem delete (h : r.Queue q nextId) (fits : i.Fits) :
  (r.apply (deletion i.encode ((entryOf? i q).map Prod.fst))).Queue (without i q) nextId where
  ascending := h.ascending.filter _
  distinct := h.distinct.sublist (List.filter_sublist.map _)
  below := fun x hx => h.below x (mem_without.1 hx).1
  countable := h.countable
  fits := fun x hx => h.fits x (mem_without.1 hx).1
  storable := fun x hx => h.storable x (mem_without.1 hx).1
  settled := fun x hx => h.settled x (mem_without.1 hx).1
  field := by
    intro j jFits f v
    rw [get?_key_deletion]
    simp only [Identity.encode_inj jFits fits]
    by_cases here : j = i
    · simp only [if_pos here, reduceCtorEq, false_iff]
      rintro ⟨x, hx, rfl, -⟩
      exact (mem_without.1 hx).2 here
    · rw [if_neg here, h.field j jFits]
      constructor
      · rintro ⟨x, hx, rfl, found⟩
        exact ⟨x, mem_without.2 ⟨hx, here⟩, rfl, found⟩
      · rintro ⟨x, hx, rfl, found⟩
        exact ⟨x, (mem_without.1 hx).1, rfl, found⟩
  index := by
    intro k indexed v
    rw [get?_index_deletion _ _ _ indexed]
    by_cases here : k ∈ (((entryOf? i q).map Prod.fst).map indexKey).toList
    · simp only [if_pos here, reduceCtorEq, false_iff]
      rintro ⟨x, hx, rfl, -⟩
      obtain ⟨hx, other⟩ := mem_without.1 hx
      exact other ((h.indexKey_mem_iff hx).1 here)
    · rw [if_neg here, h.index k indexed]
      constructor
      · rintro ⟨x, hx, rfl, found⟩
        rw [h.indexKey_mem_iff hx] at here
        exact ⟨x, mem_without.2 ⟨hx, here⟩, rfl, found⟩
      · rintro ⟨x, hx, rfl, found⟩
        exact ⟨x, (mem_without.1 hx).1, rfl, found⟩
  mark := by
    rw [get?_nextIdKey_deletion, h.mark]

/-- An eviction by an index record that names an identity is its deletion. -/
theorem apply_eviction (r : Records) (n : Nat) (fits : i.Fits) :
  r.apply (eviction (indexKey n) i.encode) = r.apply (deletion i.encode (some n))
  := by
  apply Table.ext_get?
  intro k
  rw [get?_eviction, get?_deletion, evictedKeys, Identity.decode_encode fits]
  have keys : k ∈ indexKey n :: keysOf i.encode none ↔ k ∈ keysOf i.encode (some n) := by
    simp [keysOf, or_comm]
  simp only [Except.toOption, Option.isSome_some, if_true, keys]

/-- The eviction by the first index record takes the first entry out. -/
theorem evict (h : r.Queue (x :: q) nextId) :
  (r.apply (eviction (indexKey x.1) x.2.identity.encode)).Queue q nextId
  := by
  have first : entryOf? x.2.identity (x :: q) = some x :=
    h.entryOf?_eq_some_iff.2 ⟨List.mem_cons_self, rfl⟩
  have fits := h.fits x List.mem_cons_self
  have rest : without x.2.identity (x :: q) = q := by
    have apart := (List.nodup_cons.1 h.distinct).1
    rw [without, List.filter_cons_of_neg (by simp), List.filter_eq_self]
    intro y hy
    rw [decide_eq_true_eq]
    intro same
    exact apart (List.mem_map.2 ⟨y, hy, same⟩)
  have taken := h.delete fits
  rwa [rest, first, Option.map_some, ← apply_eviction _ _ fits] at taken

/-- The insertion of a new identity puts its copy at the end of the queue. -/
theorem append (h : r.Queue q nextId) (new : ∀ x ∈ q, x.2.identity ≠ c.identity)
    (fits : c.identity.Fits) (storable : c.modified.Storable) (countable : nextId + 1 < wordBound) :
  (r.apply (placement c nextId none)).Queue (q ++ [(nextId, c.settled)]) (nextId + 1) where
  ascending := by
    apply List.pairwise_append.2
    refine ⟨h.ascending, List.pairwise_singleton .., ?_⟩
    intro x hx y hy
    obtain rfl := List.mem_singleton.1 hy
    exact h.below x hx
  distinct := by
    rw [List.map_append, List.nodup_append]
    refine ⟨h.distinct, List.nodup_singleton _, ?_⟩
    intro i hi j hj
    obtain ⟨x, hx, rfl⟩ := List.mem_map.1 hi
    obtain rfl := List.mem_singleton.1 hj
    exact new x hx
  below := by
    intro x hx
    rcases List.mem_append.1 hx with hx | hx
    · exact Nat.lt_succ_of_lt (h.below x hx)
    · obtain rfl := List.mem_singleton.1 hx
      exact Nat.lt_succ_self nextId
  countable := countable
  fits := List.forall_mem_append.2 ⟨h.fits, by simpa using fits⟩
  storable := List.forall_mem_append.2 ⟨h.storable, by simpa [Copy.settled] using storable⟩
  settled := List.forall_mem_append.2 ⟨h.settled, by simp⟩
  field := by
    intro i iFits f v
    rw [get?_key_placement]
    simp only [Identity.encode_inj iFits fits, List.mem_append, List.mem_singleton, or_and_right,
      exists_or, exists_eq_left, Copy.identity_settled, value_settled]
    by_cases here : i = c.identity
    · subst here
      have none : ¬ ∃ x ∈ q, x.2.identity = c.identity ∧ value x.1 x.2 f = v := by
        rintro ⟨x, hx, same, -⟩
        exact new x hx same
      simp only [if_true, Option.some.injEq, none, false_or, true_and]
    · rw [if_neg here, h.field i iFits]
      simp only [Ne.symm here, false_and, or_false]
  index := by
    intro k indexed v
    rw [get?_index_placement r indexed]
    simp only [Option.map_none, Option.toList_none, List.not_mem_nil, if_false, List.mem_append,
      List.mem_singleton, or_and_right, exists_or, exists_eq_left, Copy.identity_settled]
    by_cases here : k = indexKey nextId
    · subst here
      -- Insertion ids are given out upwards, so that none of the queue has the new index record.
      have none : ¬ ∃ x ∈ q, indexKey x.1 = indexKey nextId ∧ x.2.identity.encode = v := by
        rintro ⟨x, hx, same, -⟩
        have := h.below x hx
        rw [indexKey_inj (h.id_lt hx) h.countable] at same
        omega
      simp only [if_true, Option.some.injEq, none, false_or, true_and]
    · rw [if_neg here, h.index k indexed]
      simp only [Ne.symm here, false_and, or_false]
  mark := by
    rw [get?_nextIdKey_placement, if_neg (Nat.succ_ne_zero nextId)]

/-- The queue depends on fields, index records and next insertion id alone. -/
theorem congr {s : Records} (h : r.Queue q nextId)
    (field : ∀ b f, s.get? (key b f) = r.get? (key b f))
    (index : ∀ k, Indexed k → s.get? k = r.get? k)
    (mark : s.get? nextIdKey = r.get? nextIdKey) :
  s.Queue q nextId
  := { h with
    field := by
      intro i fits f v
      rw [field, h.field i fits]
    index := by
      intro k indexed v
      rw [index k indexed, h.index k indexed]
    mark := by rw [mark, h.mark] }

/-- An insertion takes the former entry of the identity out and puts the copy at the end. -/
theorem insert (h : r.Queue q nextId) (fits : c.identity.Fits) (storable : c.modified.Storable)
    (countable : nextId + 1 < wordBound) :
  (r.apply (placement c nextId ((entryOf? c.identity q).map Prod.fst))).Queue
    (without c.identity q ++ [(nextId, c.settled)]) (nextId + 1)
  := by
  have two := (h.delete fits).append (fun x hx => (mem_without.1 hx).2) fits storable countable
  apply two.congr
  · intro b f
    rw [get?_key_placement, get?_key_placement, get?_key_deletion]
    split <;> rfl
  · intro k indexed
    rw [get?_index_placement _ indexed, get?_index_placement _ indexed,
      get?_index_deletion _ _ _ indexed]
    simp
  · rw [get?_nextIdKey_placement, get?_nextIdKey_placement]

/-- A deletion of the same identity before the insertion makes no difference. -/
theorem replace (h : r.Queue q nextId) (fits : c.identity.Fits) (storable : c.modified.Storable)
    (countable : nextId + 1 < wordBound) {previous : Option Nat}
    (same : (entryOf? c.identity q).map Prod.fst = previous) :
  (r.apply (deletion c.identity.encode previous ++ placement c nextId previous)).Queue
    (without c.identity q ++ [(nextId, c.settled)]) (nextId + 1)
  := by
  subst same
  rw [apply_append]
  apply (h.insert fits storable countable).congr
  · intro b f
    rw [get?_key_placement, get?_key_placement, get?_key_deletion]
    split <;> rfl
  · intro k indexed
    rw [get?_index_placement _ indexed, get?_index_placement _ indexed,
      get?_index_deletion _ _ _ indexed]
    split
    · rfl
    · split <;> rfl
  · rw [get?_nextIdKey_placement, get?_nextIdKey_placement]

end Queue

end Records

end SiteCache
