import SiteCache.Proofs.Tier.Fifo
import Mathlib.Data.List.Infix

/-!
# The index of a disk tier on any records

Records that the disk tier did not write itself need not hold a queue: index records may lead
nowhere, several of them may lead to one identity, copies may lack an index record or share one.
What is left then is that the count never gets ahead of the index.  The records cover a count
(`Records.Covers`) if there are that many index records at least and all their keys are below the
one that comes next.  They do so when a tier is opened on them, each batch of the tier costs no more
index records than it lowers the count by, and so they do ever after (`DiskTier.Covered.after`).
A full tier therefore has an index record to give up for a new copy.
-/

namespace SiteCache

open Record

namespace Records

open DiskTier

variable {r : Records} {id count nextId : Nat}

/-! ### The index after a batch -/

/-- The index without the record of an insertion id. -/
def indexWithout (r : Records) (id : Option Nat) : List (Octets × Octets) :=
  r.index.filter fun x => x.1 ∉ (id.map indexKey).toList

theorem mem_indexWithout {id : Option Nat} {x : Octets × Octets} :
  x ∈ r.indexWithout id ↔ x ∈ r.index ∧ x.1 ∉ (id.map indexKey).toList
  := by
  rw [indexWithout, List.mem_filter, decide_eq_true_eq]

theorem ascending_indexWithout (r : Records) (id : Option Nat) :
  (r.indexWithout id).Pairwise fun x y => x.1 < y.1
  := r.ascending_index.filter _

theorem indexWithout_none (r : Records) :
  r.indexWithout none = r.index
  := by
  simp [indexWithout]

/-- The keys of the index differ, so that an insertion id has one record at most. -/
theorem length_index_le (r : Records) (id : Option Nat) :
  r.index.length - 1 ≤ (r.indexWithout id).length
  := by
  cases id with
  | none =>
      rw [indexWithout_none]
      apply Nat.sub_le
  | some n =>
      have distinct : (r.index.map Prod.fst).Nodup := by
        rw [List.Nodup, List.pairwise_map]
        apply r.ascending_index.imp
        intro x y less same
        exact KeyOrder.irrefl y.1 (same ▸ less)
      have keys : (r.indexWithout (some n)).map Prod.fst
          = (r.index.map Prod.fst).erase (indexKey n) := by
        rw [distinct.erase_eq_filter, List.filter_map, indexWithout]
        congr 2
        funext x
        rw [Bool.eq_iff_iff]
        simp
      have length := congrArg List.length keys
      rw [List.length_map] at length
      rw [length, ← List.length_map Prod.fst]
      exact List.le_length_erase

theorem index_deletion (r : Records) (identity : Octets) (id : Option Nat) :
  (r.apply (deletion identity id)).index = r.indexWithout id
  := by
  apply index_eq_of_mem_iff (r.ascending_indexWithout id)
  intro k v
  rw [mem_indexWithout, mem_index_iff, and_assoc, and_congr_right_iff]
  intro indexed
  rw [get?_index_deletion r identity id indexed, Option.ite_none_left_eq_some, and_comm]

/-- An eviction deletes the index record that it goes by, and no other one. -/
theorem index_eviction {key identity : Octets} {rest : List (Octets × Octets)}
    (oldest : r.index = (key, identity) :: rest) :
  (r.apply (eviction key identity)).index = rest
  := by
  have ascending := r.ascending_index
  rw [oldest] at ascending
  obtain ⟨above, ascending⟩ := List.pairwise_cons.1 ascending
  apply index_eq_of_mem_iff ascending
  intro k v
  have listed : (k, v) ∈ (key, identity) :: rest ↔ Indexed k ∧ r.get? k = some v := by
    rw [← oldest, mem_index_iff]
  rw [get?_eviction, Option.ite_none_left_eq_some]
  constructor
  · intro later
    obtain ⟨indexed, stored⟩ := listed.1 (List.mem_cons_of_mem _ later)
    refine ⟨indexed, fun gone => ?_, stored⟩
    have below := above _ later
    rw [← (index_mem_evictedKeys indexed).1 gone] at below
    exact KeyOrder.irrefl k below
  · rintro ⟨indexed, kept, stored⟩
    obtain first | later := List.mem_cons.1 (listed.2 ⟨indexed, stored⟩)
    · exact absurd ((index_mem_evictedKeys indexed).2 (Prod.mk.inj first).1) kept
    · exact later

/-- An insertion under a key above all others puts an index record at the end. -/
theorem index_placement (c : Copy) (previous : Option Nat)
    (fresh : ∀ x ∈ r.index, x.1 < indexKey id) :
  (r.apply (placement c id previous)).index
    = r.indexWithout previous ++ [(indexKey id, c.identity.encode)]
  := by
  have below : ∀ x ∈ r.indexWithout previous, x.1 < indexKey id :=
    fun x hx => fresh x (mem_indexWithout.1 hx).1
  apply index_eq_of_mem_iff
  · have ascending := r.ascending_indexWithout previous
    refine List.pairwise_append.2 ⟨ascending, List.pairwise_singleton _ _, ?_⟩
    intro x hx y hy
    rw [List.mem_singleton.1 hy]
    exact below x hx
  · intro k v
    rw [List.mem_append, mem_indexWithout, mem_index_iff, List.mem_singleton, Prod.mk.injEq]
    by_cases here : k = indexKey id
    · subst here
      have indexed := indexed_indexKey id
      have new : r.get? (indexKey id) ≠ some v := by
        intro stored
        exact KeyOrder.irrefl _ (fresh _ (mem_index_iff.2 ⟨indexed, stored⟩))
      rw [get?_index_placement r indexed, if_pos rfl, Option.some.injEq]
      simp only [new, indexed, and_false, false_and, false_or, true_and]
      exact eq_comm
    · simp only [here, false_and, or_false]
      rw [and_assoc, and_congr_right_iff]
      intro indexed
      rw [get?_index_placement r indexed, if_neg here, Option.ite_none_left_eq_some, and_comm]

/-! ### Counts that the index covers -/

/-- There are as many index records at least, with keys below that of the next insertion id. -/
structure Covers (r : Records) (count nextId : Nat) : Prop where
  count_le : count ≤ r.index.length
  fresh : ∀ x ∈ r.index, x.1 < indexKey nextId

theorem Covers.delete (h : r.Covers count nextId) (identity : Octets) (id : Option Nat) :
  (r.apply (deletion identity id)).Covers (count - 1) nextId
  := by
  refine ⟨?_, ?_⟩
  · rw [index_deletion]
    exact Nat.le_trans (Nat.sub_le_sub_right h.count_le 1) (r.length_index_le id)
  · rw [index_deletion]
    intro x hx
    exact h.fresh x (mem_indexWithout.1 hx).1

theorem Covers.evict (h : r.Covers count nextId) {key identity : Octets}
    {rest : List (Octets × Octets)} (oldest : r.index = (key, identity) :: rest) :
  (r.apply (eviction key identity)).Covers (count - 1) nextId
  := by
  have index := index_eviction oldest
  have count_le := h.count_le
  rw [oldest, List.length_cons] at count_le
  refine ⟨?_, ?_⟩
  · rw [index]
    exact Nat.sub_le_of_le_add count_le
  · rw [index]
    intro x hx
    apply h.fresh
    rw [oldest]
    exact List.mem_cons_of_mem _ hx

/-- Insertion ids that are smaller have smaller index keys. -/
theorem Covers.later (h : r.Covers count nextId) {n : Nat} (le : nextId ≤ n)
    (countable : n < wordBound) {x : Octets × Octets} (hx : x ∈ r.index) :
  x.1 < indexKey n
  := by
  obtain same | less := Nat.eq_or_lt_of_le le
  · exact same ▸ h.fresh x hx
  · exact KeyOrder.trans (h.fresh x hx)
      ((indexKey_lt_iff (Nat.lt_trans less countable) countable).2 less)

theorem Covers.insert (h : r.Covers count nextId) (c : Copy) (previous : Option Nat)
    (countable : nextId + 1 < wordBound) :
  (r.apply (placement c nextId previous)).Covers
    (if previous.isNone then count + 1 else count) (nextId + 1)
  := by
  have index := index_placement c previous h.fresh
  have count_le := h.count_le
  have length := r.length_index_le previous
  refine ⟨?_, ?_⟩
  · rw [index, List.length_append, List.length_singleton]
    cases previous with
    | none =>
        rw [indexWithout_none]
        exact Nat.succ_le_succ count_le
    | some n =>
        simp only [Option.isNone_some, Bool.false_eq_true, if_false]
        omega
  · rw [index]
    intro x hx
    obtain old | new := List.mem_append.1 hx
    · exact h.later (Nat.le_succ _) countable (mem_indexWithout.1 old).1
    · rw [List.mem_singleton.1 new]
      exact (indexKey_lt_iff (Nat.lt_of_succ_lt countable) countable).2 (Nat.lt_succ_self _)

/-! ### What a new session finds -/

/-- The last key of the index tells which one may come next. -/
theorem lt_of_pastLast (h : r.pastLast = .ok id) (countable : id < wordBound) :
  ∀ x ∈ r.index, x.1 < indexKey id
  := by
  intro x hx
  rw [pastLast] at h
  cases last : r.index.getLast? with
  | none =>
      rw [List.getLast?_eq_none_iff.1 last] at hx
      cases hx
  | some y =>
      obtain ⟨key, identity⟩ := y
      obtain ⟨front, split⟩ := List.getLast?_eq_some_iff.1 last
      have indexed : Indexed key := by
        have listed : (key, identity) ∈ r.index := List.mem_of_getLast? last
        exact (mem_index_iff.1 listed).1
      rw [last] at h
      simp only at h
      cases word : decodeWord .indexId (key.drop 1) with
      | error fault =>
          rw [word] at h
          cases h
      | ok n =>
          rw [word] at h
          obtain rfl : n + 1 = id := Except.ok.inj h
          have less : key < indexKey (n + 1) := by
            rw [indexed.eq_indexKey word]
            exact (indexKey_lt_iff (Nat.lt_of_succ_lt countable) countable).2 (Nat.lt_succ_self n)
          have ascending := r.ascending_index
          rw [split] at hx ascending
          obtain earlier | rfl := (List.mem_append.1 hx).imp id List.mem_singleton.1
          · have below := (List.pairwise_append.1 ascending).2.2 x earlier _
              (List.mem_singleton.2 rfl)
            exact KeyOrder.trans below less
          · exact less

/-- The records cover the number of their index records. -/
theorem covers_of_survey (h : r.survey = .ok (count, nextId)) (countable : nextId < wordBound) :
  count = r.index.length ∧ r.Covers count nextId
  := by
  rw [survey] at h
  cases last : r.pastLast with
  | error fault =>
      rw [last] at h
      cases h
  | ok n =>
      cases left : r.mark with
      | error fault =>
          rw [last, left] at h
          cases h
      | ok m =>
          rw [last, left] at h
          obtain ⟨rfl, rfl⟩ := Prod.mk.inj (Except.ok.inj h)
          have le := Nat.le_max_left n m
          have covers : r.Covers r.index.length n :=
            ⟨Nat.le_refl _, lt_of_pastLast last (Nat.lt_of_le_of_lt le countable)⟩
          exact ⟨rfl, Nat.le_refl _, fun x hx => covers.later le countable hx⟩

end Records

namespace DiskTier

variable {d d' : DiskTier} {i : Identity} {c : Copy}

/-- The tier has room at all, and its records cover its count. -/
structure Covered (d : DiskTier) : Prop where
  room : d.capacity ≠ 0
  covers : d.engine.records.Covers d.count d.nextId

theorem Covered.asking (h : d.Covered) (calls : List Engine.Call) :
  (d.asking calls).Covered
  := ⟨h.room, h.covers⟩

/-! ### What one operation does -/

theorem Removed.covered {answer : Except Fault Bool} (ends : Removed d i answer d')
    (h : d.Covered) :
  d'.Covered
  := by
  cases ends with
  | refused => exact h.asking _
  | unreadable => exact h.asking _
  | absent => exact h.asking _
  | removed => exact ⟨h.room, h.covers.delete _ _⟩

/-- An eviction takes the first record from the index and lowers the count, or finds no record. -/
theorem Evicted.index {dropped : Option Identity} (ends : Evicted d (.ok dropped) d') :
  (d.engine.records.index = [] ∧ dropped = none ∧ d'.engine.records = d.engine.records
      ∧ d'.count = d.count)
    ∨ ∃ oldest rest, d.engine.records.index = oldest :: rest
      ∧ dropped = (Identity.decode oldest.2).toOption
      ∧ d'.engine.records = d.engine.records.apply (eviction oldest.1 oldest.2)
      ∧ d'.engine.records.index = rest ∧ d'.count = d.count - 1
  := by
  cases ends with
  | vacant empty => exact .inl ⟨List.head?_eq_none_iff.1 empty, rfl, rfl, rfl⟩
  | @evicted key identity calls first =>
      obtain ⟨rest, index⟩ := List.head?_eq_some_iff.1 first
      exact .inr ⟨_, rest, index, rfl, rfl, Records.index_eviction index, rfl⟩

theorem Evicted.covered {answer : Except Fault (Option Identity)} (ends : Evicted d answer d')
    (h : d.Covered) :
  d'.Covered
  := by
  cases ends with
  | refused => exact h.asking _
  | vacant => exact h.asking _
  | evicted first =>
      obtain ⟨rest, index⟩ := List.head?_eq_some_iff.1 first
      exact ⟨h.room, h.covers.evict index⟩

theorem Prepared.covered {identity : Octets} {previous : Option Nat} {dropped : Option Identity}
    (ends : Prepared d identity previous dropped d') (h : d.Covered) :
  d'.Covered
  := by
  cases ends with
  | spare => exact h.asking _
  | evicted _ _ ends => exact ends.covered h

theorem Saved.covered {answer : Except Fault (Option Identity)} (ends : Saved d c answer d')
    (h : d.Covered) (countable : d'.nextId < wordBound) :
  d'.Covered
  := by
  cases ends with
  | refused => exact h.asking _
  | unreadable => exact h.asking _
  | stopped prepared => exact (prepared.covered h).asking _
  | saved prepared changes =>
      obtain ⟨room, covers⟩ := prepared.covered h
      obtain ⟨-, rfl⟩ := insertion_eq_ok_iff.1 changes
      exact ⟨room, covers.insert c _ countable⟩

theorem Taken.covered {demoted : Option Copy} {answer : Except Fault (Option Copy)}
    (ends : Taken d i demoted answer d') (h : d.Covered) (countable : d'.nextId < wordBound) :
  d'.Covered
  := by
  cases ends with
  | refused => exact h.asking _
  | unreadable => exact h.asking _
  | absent => exact h.asking _
  | unprepared => exact h.asking _
  | @taken id batch added calls stored changes =>
      have covers := h.covers.delete i.encode (some id)
      refine ⟨h.room, ?_⟩
      rw [records_wrote, Records.apply_append]
      cases demoted with
      | none =>
          obtain ⟨rfl, rfl⟩ := Prod.mk.inj (Except.ok.inj changes)
          exact covers
      | some v =>
          cases found : d.engine.records.storedId v.identity.encode with
          | error fault =>
              rw [Records.replacement, found] at changes
              cases changes
          | ok previous =>
              obtain ⟨-, rfl, rfl⟩ := placement_of_replacement found changes
              have inserted := covers.insert v previous countable
              cases previous with
              | none => exact inserted
              | some n => exact inserted

/-- A look changes no record. -/
private theorem Covered.looks {α : Type} (h : d.Covered) {a : Action DiskTier α}
    {answer : Except Fault α} (looks : Answers a d answer) :
  (a.perform d).2.Covered
  := by
  obtain ⟨calls, ended | ⟨fault, -, ended⟩⟩ := looks
  · rw [ended]
    exact h.asking calls
  · rw [ended]
    exact h.asking calls

/-- A tier that is opened counts the index records, whatever the records are. -/
theorem covered_of_open? {e : Engine} {capacity : Nat} (opens : open? e capacity = .ok d)
    (countable : d.nextId < wordBound) :
  d.engine.records = e.records ∧ d.count = e.records.index.length ∧ d.Covered
  := by
  have room : capacity ≠ 0 := by
    rintro rfl
    cases opens
  obtain ⟨calls, ⟨count, nextId, survey, ended⟩ | ⟨fault, -, ended⟩⟩ := opened e room
  · rw [opens] at ended
    obtain rfl := Except.ok.inj ended
    obtain ⟨length, covers⟩ := Records.covers_of_survey survey countable
    exact ⟨rfl, length, room, covers⟩
  · rw [opens] at ended
    cases ended

private theorem Covered.reopen (h : d.Covered)
    (countable : (reopen.perform d).2.nextId < wordBound) :
  (reopen.perform d).2.Covered
  := by
  obtain ⟨calls, closed | ⟨fault, -, closed⟩⟩ := answers_close d
  · rw [DiskTier.reopen, Action.perform_bind, closed] at countable ⊢
    simp only [Action.perform_ofStep] at countable ⊢
    obtain ⟨more, ⟨count, nextId, -, opens⟩ | ⟨fault, -, stopped⟩⟩ :=
      opened (d.asking calls).engine (h.asking calls).room
    · rw [opens] at countable ⊢
      exact (covered_of_open? opens countable).2.2
    · rw [stopped]
      exact ⟨h.room, h.covers⟩
  · rw [DiskTier.reopen, Action.perform_bind, closed]
    exact h.asking calls

/-- One request leaves a count that the index covers. -/
theorem Covered.step (h : d.Covered) (r : Request)
    (countable : (r.act.perform d).2.nextId < wordBound) :
  (r.act.perform d).2.Covered
  := by
  cases r with
  | save c =>
      rw [Request.act, Action.perform_map] at countable ⊢
      exact (saved c d).covered h countable
  | take i =>
      rw [Request.act, Action.perform_map] at countable ⊢
      exact (taken i none d).covered h countable
  | takeReplacing i c =>
      rw [Request.act, Action.perform_map] at countable ⊢
      exact (taken i (some c) d).covered h countable
  | remove i =>
      rw [Request.act, Action.perform_map]
      exact (removed i d).covered h
  | contains i =>
      rw [Request.act, Action.perform_map]
      exact h.looks (answers_contains i d)
  | modified i =>
      rw [Request.act, Action.perform_map]
      exact h.looks (answers_modified i d)
  | headers i =>
      rw [Request.act, Action.perform_map]
      exact h.looks (answers_headers i d)
  | evictOldest =>
      rw [Request.act, Action.perform_map]
      exact (evicted d).covered h
  | reopen =>
      rw [Request.act, Action.perform_map] at countable ⊢
      exact h.reopen countable

/-! ### What all requests do -/

theorem after_concat (d : DiskTier) (requests : List Request) (r : Request) :
  d.after (requests ++ [r]) = (r.act.perform (d.after requests)).2
  := by
  rw [after, List.foldl_append, List.foldl_cons, List.foldl_nil, after]

/-- The count stays covered as long as there are words for the insertion ids. -/
theorem Covered.after (h : d.Covered) (requests : List Request)
    (countable : ∀ earlier, earlier <+: requests → (d.after earlier).nextId < wordBound) :
  (d.after requests).Covered
  := by
  induction requests using List.reverseRecOn with
  | nil => exact h
  | append_singleton requests r ih =>
      have before := ih fun earlier front =>
        countable earlier (front.trans (List.prefix_append _ _))
      have last := countable _ (List.prefix_refl _)
      rw [after_concat] at last ⊢
      exact before.step r last

/-- A full tier gives an index record up before it stores a new identity: the save stops without
a change, or it stops behind the eviction, or the new index record is put behind the others. -/
theorem Saved.index_of_full {answer : Except Fault (Option Identity)} (ends : Saved d c answer d')
    (h : d.Covered) (new : d.engine.records.storedId c.identity.encode = .ok none)
    (full : d.isFull = true) :
  ∃ oldest rest, d.engine.records.index = oldest :: rest
    ∧ ((∃ fault, answer = .error fault ∧ d'.engine.records = d.engine.records
          ∧ d'.count = d.count)
      ∨ (∃ fault, answer = .error fault ∧ d'.engine.records.index = rest
          ∧ d'.count = d.count - 1)
      ∨ answer = .ok (Identity.decode oldest.2).toOption
        ∧ d'.engine.records.index = rest ++ [(indexKey d.nextId, c.identity.encode)]
        ∧ d'.count = d.count)
  := by
  have positive : 0 < d.count := by
    have room := h.room
    rw [isFull, decide_eq_true_eq] at full
    omega
  obtain ⟨oldest, rest, index⟩ :=
    List.exists_cons_of_length_pos (Nat.lt_of_lt_of_le positive h.covers.count_le)
  have evicts : ∀ {previous dropped d''}, Prepared d c.identity.encode previous dropped d'' →
      previous = none ∧ dropped = (Identity.decode oldest.2).toOption ∧ d''.Covered
        ∧ d''.engine.records.index = rest ∧ d''.count = d.count - 1 ∧ d''.nextId = d.nextId := by
    intro previous dropped d'' prepared
    have covered := prepared.covered h
    cases prepared with
    | spare found room =>
        rw [new] at found
        exact absurd ⟨(Except.ok.inj found).symm, full⟩ room
    | evicted _ _ ends =>
        obtain ⟨empty, -⟩ | ⟨first, others, split, answer, -, left, count⟩ := ends.index
        · rw [index] at empty
          cases empty
        · rw [index] at split
          obtain ⟨rfl, rfl⟩ := List.cons.inj split
          exact ⟨rfl, answer, covered, left, count, ends.nextId_eq⟩
  refine ⟨oldest, rest, index, ?_⟩
  cases ends with
  | refused => exact .inl ⟨_, rfl, rfl, rfl⟩
  | unreadable unreadable =>
      rw [new] at unreadable
      cases unreadable
  | stopped prepared =>
      obtain ⟨-, -, -, left, count, -⟩ := evicts prepared
      exact .inr (.inl ⟨_, rfl, left, count⟩)
  | saved prepared changes =>
      obtain ⟨rfl, rfl, covered, left, count, next⟩ := evicts prepared
      obtain ⟨-, rfl⟩ := insertion_eq_ok_iff.1 changes
      have placed := Records.index_placement c none covered.covers.fresh
      rw [Records.indexWithout_none, left, next] at placed
      refine .inr (.inr ⟨rfl, ?_, ?_⟩)
      · rw [← next] at placed
        rw [← next]
        exact placed
      · simp only [Option.isNone_none, if_true, count]
        omega

/-- Whatever records a tier is opened on, and whatever is asked of it then, answered or not, as long
as insertion ids are words: it counts all index records at first and never counts more than there
are.  An eviction that finds an index record takes exactly that one from the index and lowers the
count by one.  So a full tier has an index record, and a save of a new identity gives it up before
it puts one of its own behind the others. -/
theorem count_le_index {engine : Engine} {capacity : Nat} (opens : open? engine capacity = .ok d)
    (requests : List Request)
    (countable : ∀ earlier, earlier <+: requests → (d.after earlier).nextId < wordBound) :
  let now := d.after requests
  let index := now.engine.records.index
  let evicted := evictOldest.perform now
  d.engine.records = engine.records ∧ d.count = engine.records.index.length
    ∧ now.count ≤ index.length
    ∧ (∀ oldest rest dropped, index = oldest :: rest → evicted.1 = .ok dropped →
        evicted.2.engine.records.index = rest ∧ evicted.2.count = now.count - 1)
    ∧ ∀ c : Copy, now.engine.records.storedId c.identity.encode = .ok none → now.isFull = true →
        let saved := (save c).perform now
        ∃ oldest rest, index = oldest :: rest
          ∧ ((∃ fault, saved.1 = .error fault ∧ saved.2.engine.records = now.engine.records
                ∧ saved.2.count = now.count)
            ∨ (∃ fault, saved.1 = .error fault ∧ saved.2.engine.records.index = rest
                ∧ saved.2.count = now.count - 1)
            ∨ saved.1 = .ok (Identity.decode oldest.2).toOption
              ∧ saved.2.engine.records.index = rest ++ [(indexKey now.nextId, c.identity.encode)]
              ∧ saved.2.count = now.count)
  := by
  intro now index ended
  obtain ⟨same, length, begun⟩ := covered_of_open? opens (countable [] List.nil_prefix)
  have covered : now.Covered := begun.after requests countable
  refine ⟨same, length, covered.covers.count_le, ?_, ?_⟩
  · intro oldest rest dropped found answer
    have ends : Evicted now ended.1 ended.2 := evicted now
    rw [answer] at ends
    obtain ⟨empty, -⟩ | ⟨first, others, split, -, -, left, count⟩ := ends.index
    · cases found.symm.trans empty
    · obtain ⟨rfl, rfl⟩ := List.cons.inj (found.symm.trans split)
      exact ⟨left, count⟩
  · intro c new full
    exact (saved c now).index_of_full covered new full

/-- Three index records, of which the first leads nowhere and the others to one identity, whose copy
names an insertion id without an index record. -/
def damaged : Engine where
  records := .ofList
    [(key (Identity.encode ⟨"", "a"⟩) .id, encodeId 7),
      ([indexTag], [9]),
      (indexKey 0 ++ [0], Identity.encode ⟨"", "a"⟩),
      (indexKey 3, Identity.encode ⟨"", "a"⟩)]

theorem open?_damaged :
  open? damaged 3 = .ok ⟨damaged.asking [.get, .scan], 3, 3, 4⟩
  := by
  have found : (open? damaged 3).toOption.map (fun d => (d.count, d.nextId, d.engine.asked))
      = some (3, 4, [.get, .scan]) := by decide +kernel
  have room : 3 ≠ 0 := by decide
  obtain ⟨calls, ⟨count, nextId, -, ended⟩ | ⟨fault, -, ended⟩⟩ := opened damaged room
  · rw [ended] at found
    obtain ⟨rfl, same⟩ := Prod.mk.inj (Option.some.inj found)
    obtain ⟨rfl, asked⟩ := Prod.mk.inj same
    obtain rfl : calls = [.get, .scan] := (List.append_nil calls).symm.trans asked
    exact ended
  · rw [ended] at found
    cases found

/-- The removal of that identity costs no index record, and its next copy makes the tier full. -/
theorem count_le_index_of_damaged :
  let d : DiskTier := ⟨damaged.asking [.get, .scan], 3, 3, 4⟩
  let requests : List Request := [.remove ⟨"", "a"⟩, .save (.ofOctet "a" 1)]
  let now := d.after requests
  open? damaged 3 = .ok d
    ∧ (∀ earlier, earlier <+: requests → (d.after earlier).nextId < wordBound)
    ∧ now.engine.records.index.length = 4 ∧ now.isFull = true
    ∧ d.count = damaged.records.index.length ∧ now.count ≤ 4
    ∧ (evictOldest.perform now).2.engine.records.index.length = 3
    ∧ ((save (.ofOctet "b" 2)).perform now).2.engine.records.index.length = 4
  := by
  intro d requests now
  have countable : ∀ earlier, earlier <+: requests → (d.after earlier).nextId < wordBound := by
    have words : ∀ earlier ∈ requests.inits, (d.after earlier).nextId < wordBound := by
      decide +kernel
    intro earlier front
    exact words earlier ((List.mem_inits _ _).2 front)
  have length : now.engine.records.index.length = 4 := by decide +kernel
  have full : now.isFull = true := by decide +kernel
  have new : now.engine.records.storedId (Identity.encode ⟨"", "b"⟩) = .ok none := by
    decide +kernel
  have evictions : (evictOldest.perform now).1 = .ok none := by decide +kernel
  have saves : ((save (.ofOctet "b" 2)).perform now).1 = .ok none := by decide +kernel
  obtain ⟨-, counted, covered, evicts, stores⟩ := count_le_index open?_damaged requests countable
  obtain ⟨oldest, rest, index, ended⟩ := stores (.ofOctet "b" 2) new full
  have longer : rest.length + 1 = 4 := by rw [← length, index, List.length_cons]
  refine ⟨open?_damaged, countable, length, full, counted, length ▸ covered, ?_, ?_⟩
  · rw [(evicts oldest rest none index evictions).1]
    exact Nat.succ.inj longer
  · obtain ⟨fault, stopped, -⟩ | ⟨fault, stopped, -⟩ | ⟨-, left, -⟩ := ended
    · cases saves.symm.trans stopped
    · cases saves.symm.trans stopped
    · rw [left, List.length_append, List.length_singleton, longer]

end DiskTier

end SiteCache
