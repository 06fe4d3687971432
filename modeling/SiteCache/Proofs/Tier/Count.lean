import SiteCache.Proofs.Tier.Fifo
import Mathlib.Order.Monotone.Basic

/-!
# The count of the disk tier

A disk tier counts its copies as it goes.  The count may fall short of what is stored
(`DiskTier.Carries`), but no request makes it too large (`DiskTier.Reached.carries`): all that a
removal, an eviction or an exchange of copies does to the records is the same with another count
(`DiskTier.Recounts`).  It falls short for one reason.  An exchange finds out whether the new copy
is counted already before the old one is deleted, and so a copy that takes the place of another one
of its identity is stored but no longer counted (`DiskTier.count_takeReplacing`,
`DiskTier.miscounts_same_identity`).
-/

namespace SiteCache

namespace DiskTier

variable {d d' : DiskTier} {copies copies' : List Copy} {i : Identity} {c : Copy}

/-! ### Counts that fall short -/

/-- The tier holds exactly these copies, oldest first, and counts no more than there are. -/
structure Carries (d : DiskTier) (copies : List Copy) : Prop where
  lists : Lists { d with count := copies.length } copies
  count_le : d.count ≤ copies.length

/-- The tier carries these copies after an operation on a tier with those copies, and counts all of
them if it did so before. -/
def Carried (d : DiskTier) (copies : List Copy) (d' : DiskTier) (copies' : List Copy) : Prop :=
  d'.Carries copies' ∧ (d.count = copies.length → d'.count = copies'.length)

theorem Lists.carries (h : d.Lists copies) :
  d.Carries copies
  := by
  refine ⟨?_, Nat.le_of_eq h.count_eq⟩
  rw [← h.count_eq]
  exact h

theorem Carries.asking (h : d.Carries copies) (calls : List Engine.Call) :
  Carried d copies (d.asking calls) copies
  := ⟨⟨h.lists.asking calls, h.count_le⟩, fun total => total⟩

theorem Carried.trans {d'' : DiskTier} {copies'' : List Copy} (h : Carried d copies d' copies')
    (h' : Carried d' copies' d'' copies'') :
  Carried d copies d'' copies''
  := ⟨h'.1, fun total => h'.2 (h.2 total)⟩

/-- Where the new count is the larger the larger the old one is, what would become of a tier that
counts all copies says what becomes of one that counts fewer. -/
theorem Carries.carried (h : d.Carries copies) {f : Nat → Nat} (mono : Monotone f)
    (count : d'.count = f d.count) (lists : Lists { d' with count := f copies.length } copies') :
  Carried d copies d' copies'
  := by
  have total : f copies.length = copies'.length := lists.count_eq
  rw [total] at lists
  refine ⟨⟨lists, ?_⟩, ?_⟩
  · rw [count, ← total]
    exact mono h.count_le
  · intro whole
    rw [count, whole, total]

/-- Had the tier another count, an operation on it would end in the same way, with a count that is
the larger the larger the other one is. -/
def Recounts (ends : DiskTier → DiskTier → Prop) (d d' : DiskTier) : Prop :=
  ∃ f : Nat → Nat, Monotone f ∧ d'.count = f d.count
    ∧ ∀ n, ends { d with count := n } { d' with count := f n }

theorem Carries.recounted (h : d.Carries copies) {ends : DiskTier → DiskTier → Prop}
    (recounts : Recounts ends d d') :
  ∃ n, ends { d with count := copies.length } { d' with count := n }
    ∧ ∀ copies', Lists { d' with count := n } copies' → Carried d copies d' copies'
  := by
  obtain ⟨f, mono, count, ended⟩ := recounts
  exact ⟨f copies.length, ended copies.length, fun copies' lists => h.carried mono count lists⟩

theorem Removed.recounts {answer : Except Fault Bool} (ends : Removed d i answer d') :
  Recounts (fun d d' => Removed d i answer d') d d'
  := by
  cases ends with
  | refused h => exact ⟨id, monotone_id, rfl, fun n => .refused h⟩
  | unreadable h => exact ⟨id, monotone_id, rfl, fun n => .unreadable h⟩
  | absent h => exact ⟨id, monotone_id, rfl, fun n => .absent h⟩
  | removed h =>
      exact ⟨fun n => n - 1, fun _ _ le => Nat.sub_le_sub_right le 1, rfl, fun n => .removed h⟩

theorem Evicted.recounts {answer : Except Fault (Option Identity)} (ends : Evicted d answer d') :
  Recounts (fun d d' => Evicted d answer d') d d'
  := by
  cases ends with
  | refused h => exact ⟨id, monotone_id, rfl, fun n => .refused h⟩
  | vacant h => exact ⟨id, monotone_id, rfl, fun n => .vacant h⟩
  | evicted h =>
      exact ⟨fun n => n - 1, fun _ _ le => Nat.sub_le_sub_right le 1, rfl, fun n => .evicted h⟩

theorem Taken.recounts {demoted : Option Copy} {answer : Except Fault (Option Copy)}
    (ends : Taken d i demoted answer d') :
  Recounts (fun d d' => Taken d i demoted answer d') d d'
  := by
  cases ends with
  | refused h => exact ⟨id, monotone_id, rfl, fun n => .refused h⟩
  | unreadable h => exact ⟨id, monotone_id, rfl, fun n => .unreadable h⟩
  | absent h => exact ⟨id, monotone_id, rfl, fun n => .absent h⟩
  | unprepared h changes => exact ⟨id, monotone_id, rfl, fun n => .unprepared h changes⟩
  | @taken id batch added calls h changes =>
      refine ⟨fun n => n - 1 + added, ?_, rfl, fun n => .taken h changes⟩
      intro m n le
      exact Nat.add_le_add_right (Nat.sub_le_sub_right le 1) added

/-! ### What operations carry on -/

theorem Removed.carried {answer : Except Fault Bool} (ends : Removed d i answer d')
    (h : d.Carries copies) (fits : i.Fits) :
  ∃ copies', Carried d copies d' copies'
  := by
  obtain ⟨n, ended, carried⟩ := h.recounted ends.recounts
  obtain ⟨_, -, -, lists⟩ | ⟨-, lists⟩ := ended.lists h.lists fits
  · exact ⟨_, carried _ lists⟩
  · exact ⟨_, carried _ lists⟩

theorem Evicted.carried {answer : Except Fault (Option Identity)} (ends : Evicted d answer d')
    (h : d.Carries copies) :
  Carried d copies d' copies ∨ Carried d copies d' copies.tail
  := by
  obtain ⟨n, ended, carried⟩ := h.recounted ends.recounts
  obtain ⟨_, -, -, lists⟩ | ⟨-, lists⟩ := ended.lists h.lists
  · exact .inl (carried _ lists)
  · exact .inr (carried _ lists)

theorem Prepared.carried {previous : Option Nat} {dropped : Option Identity}
    (ends : Prepared d i.encode previous dropped d') (h : d.Carries copies) (fits : i.Fits) :
  ∃ copies', Carried d copies d' copies' ∧ d'.engine.records.storedId i.encode = .ok previous
  := by
  cases ends with
  | spare found room => exact ⟨copies, h.asking _, found⟩
  | evicted found full ends =>
      have absent := (h.lists.storedId_eq_none_iff fits).1 found
      obtain carried | carried := ends.carried h
      · exact ⟨copies, carried, (carried.1.lists.storedId_eq_none_iff fits).2 absent⟩
      · refine ⟨copies.tail, carried, (carried.1.lists.storedId_eq_none_iff fits).2 ?_⟩
        exact Copy.of?_tail_eq_none absent

/-- A save may drop a copy when the count says that the tier is full, and counts the new copy if its
identity is new. -/
theorem Saved.carried {answer : Except Fault (Option Identity)} (ends : Saved d c answer d')
    (h : d.Carries copies) (fits : c.identity.Fits) (countable : d'.nextId < wordBound) :
  ∃ copies', Carried d copies d' copies'
  := by
  cases ends with
  | refused => exact ⟨copies, h.asking _⟩
  | unreadable => exact ⟨copies, h.asking _⟩
  | stopped prepared =>
      obtain ⟨kept, carried, -⟩ := prepared.carried h fits
      exact ⟨kept, carried.trans (carried.1.asking _)⟩
  | @saved previous dropped d' batch calls prepared changes =>
      obtain ⟨kept, carried, stored⟩ := prepared.carried h fits
      obtain ⟨storable, rfl⟩ := insertion_eq_ok_iff.1 changes
      have grows : Monotone fun n => if previous.isNone then n + 1 else n := by
        intro m n le
        simp only
        split
        · exact Nat.succ_le_succ le
        · exact le
      have lists := carried.1.lists.placed fits stored storable countable rfl calls
      exact ⟨_, carried.trans (carried.1.carried grows rfl lists)⟩

/-- A copy that is stored in place of another one of its identity is not counted any more. -/
theorem Carries.replaced (h : d.Carries copies) (fits : c.identity.Fits)
    (storable : c.modified.Storable) (countable : d.nextId + 1 < wordBound) {id : Nat}
    (stored : d.engine.records.storedId c.identity.encode = .ok (some id))
    (calls : List Engine.Call) :
  Carries
      { d.wrote calls (deletion c.identity.encode (some id) ++ placement c d.nextId (some id)) with
        nextId := d.nextId + 1
        count := d.count - 1 }
      (Copy.moved (some c.settled) copies)
    ∧ (Copy.moved (some c.settled) copies).length = copies.length
  := by
  have distinct := h.lists.nodup
  have few := h.count_le
  obtain ⟨⟨q, queue, rfl⟩, -⟩ := h.lists
  have found := queue.storedId_eq fits
  rw [stored, Except.ok.injEq] at found
  have left := queue.replace fits storable countable found.symm
  obtain ⟨x, entry, rfl⟩ := Option.map_eq_some_iff.1 found.symm
  obtain ⟨hx, same⟩ := Records.mem_of_entryOf?_eq_some entry
  have shorter := Copy.length_others distinct (List.mem_map_of_mem hx)
  have listed : (Records.without c.identity q ++ [(d.nextId, c.settled)]).map Prod.snd
      = Copy.moved (some c.settled) (q.map Prod.snd) := by
    rw [List.map_append, Records.map_snd_without]
    rfl
  have length :
      (Copy.moved (some c.settled) (q.map Prod.snd)).length = (q.map Prod.snd).length := by
    rw [same] at shorter
    rw [Copy.moved, List.length_append, List.length_singleton, Copy.identity_settled, shorter]
  refine ⟨⟨?_, ?_⟩, length⟩
  · rw [← listed]
    exact Lists.of_wrote left (List.length_map _) calls
  · rw [length]
    exact Nat.le_trans (Nat.sub_le _ _) few

/-- How the exchange of one copy for another is carried on: nothing changes, or the copy of the
identity leaves the list and one of another identity is stored, or one of the same identity is
stored and the count is one too small. -/
theorem Taken.carried {demoted : Option Copy} {answer : Except Fault (Option Copy)}
    (ends : Taken d i demoted answer d') (h : d.Carries copies) (fits : i.Fits)
    (fitsD : ∀ v, demoted = some v → v.identity.Fits) (countable : d'.nextId < wordBound) :
  ((Copy.of? i copies = none ∨ ∃ fault, answer = .error fault) ∧ Carried d copies d' copies)
    ∨ ((∀ v, demoted = some v → v.identity ≠ i) ∧ (Copy.of? i copies).isSome
      ∧ Carried d copies d' (Copy.moved (demoted.map Copy.settled) (Copy.others i copies)))
    ∨ ∃ v, demoted = some v ∧ v.identity = i ∧ (Copy.of? i copies).isSome
      ∧ d'.Carries (Copy.moved (some v.settled) copies)
      ∧ (Copy.moved (some v.settled) copies).length = copies.length ∧ d'.count = d.count - 1
  := by
  by_cases other : ∀ v, demoted = some v → v.identity ≠ i
  · obtain ⟨n, ended, carried⟩ := h.recounted ends.recounts
    obtain ⟨fault, -, stopped, lists⟩ | ⟨absent, -, lists⟩ | ⟨taken, found, -, -, lists⟩ :=
      ended.lists h.lists fits (fun v same => ⟨fitsD v same, other v same⟩) countable
    · exact .inl ⟨.inr ⟨fault, stopped⟩, carried _ lists⟩
    · exact .inl ⟨.inl absent, carried _ lists⟩
    · exact .inr (.inl ⟨other, by rw [found]; rfl, carried _ lists⟩)
  · obtain ⟨v, rfl, rfl⟩ : ∃ v, demoted = some v ∧ v.identity = i := by
      simpa using other
    obtain ⟨present, found, same⟩ := h.lists.storedId fits
    cases ends with
    | refused => exact .inl ⟨.inr ⟨_, rfl⟩, h.asking _⟩
    | unreadable => exact .inl ⟨.inr ⟨_, rfl⟩, h.asking _⟩
    | absent stored =>
        have absent := (h.lists.storedId_eq_none_iff fits).1 stored
        exact .inl ⟨.inl absent, h.asking _⟩
    | unprepared => exact .inl ⟨.inr ⟨_, rfl⟩, h.asking _⟩
    | @taken id batch added calls stored changes =>
        obtain rfl := Except.ok.inj (stored.symm.trans found)
        obtain ⟨storable, rfl, rfl⟩ := placement_of_replacement stored changes
        obtain ⟨carries, length⟩ := h.replaced fits storable countable stored calls
        exact .inr (.inr ⟨v, rfl, rfl, same.symm, carries, length, rfl⟩)

/-- A tier that is opened again counts all its copies. -/
theorem Carries.opened (h : d.Carries copies) {calls : List Engine.Call} {capacity : Nat}
    (opens : open? (d.engine.asking calls) capacity = .ok d') :
  d'.Lists copies ∧ d'.nextId = d.nextId ∧ d'.engine.refuses = d.engine.refuses
  := by
  obtain ⟨⟨q, queue, rfl⟩, -⟩ := h.lists
  have room : capacity ≠ 0 := by
    rintro rfl
    cases opens
  obtain ⟨lists, more, rfl⟩ := lists_of_open? (e := d.engine.asking calls) queue room opens
  exact ⟨lists, rfl, rfl⟩

/-! ### Tiers that can be reached -/

namespace Request

/-- The identities that are asked for can be encoded. -/
def Fitting : Request → Prop
  | .save c => c.identity.Fits
  | .take i => i.Fits
  | .takeReplacing i c => i.Fits ∧ c.identity.Fits
  | .remove i => i.Fits
  | .contains i => i.Fits
  | .modified i => i.Fits
  | .headers i => i.Fits
  | .evictOldest => True
  | .reopen => True

/-- No copy is stored in place of another one of its identity. -/
def Apart : Request → Prop
  | .takeReplacing i c => c.identity ≠ i
  | _ => True

end Request

/-- The tiers that come of an empty engine that refuses nothing by so many operations: requests with
this property, and closing the tier and opening it again with room for any number of copies. -/
inductive Reached (P : Request → Prop) : Nat → DiskTier → Prop where
  | opened {engine capacity d} (empty : engine.records = .empty)
    (healthy : ∀ calls, engine.refuses calls = none) (opens : open? engine capacity = .ok d) :
    Reached P 0 d
  | asked {n d r} (before : Reached P n d) (h : P r) : Reached P (n + 1) (r.act.perform d).2
  | reopened {n d d' capacity} (before : Reached P n d)
    (opens : open? (close.perform d).2.engine capacity = .ok d') : Reached P (n + 1) d'

/-- What one operation makes of a tier with these copies: it carries copies again, and counts all of
them if it did so before and the operation is not of a certain kind. -/
private structure Follows (d : DiskTier) (copies : List Copy) (counting : Prop) (d' : DiskTier)
    (copies' : List Copy) : Prop where
  carries : d'.Carries copies'
  whole : counting → d.count = copies.length → d'.count = copies'.length
  nextId_le : d'.nextId ≤ d.nextId + 1
  refuses_eq : d'.engine.refuses = d.engine.refuses

private theorem Carried.follows (h : Carried d copies d' copies') (counting : Prop)
    (nextId_le : d'.nextId ≤ d.nextId + 1) (leads : Leads d d') :
  Follows d copies counting d' copies'
  := ⟨h.1, fun _ => h.2, nextId_le, leads.refuses_eq⟩

/-- A look that is answered or refused carries the copies on. -/
private theorem Carries.looks {α : Type} (h : d.Carries copies) {a : Action DiskTier α}
    {answer : Except Fault α} (looks : Answers a d answer) (counting : Prop) :
  Follows d copies counting (a.perform d).2 copies
  := by
  obtain ⟨calls, ended | ⟨fault, -, ended⟩⟩ := looks
  · rw [ended]
    exact (h.asking calls).follows counting (Nat.le_succ _) (.of_asking d calls)
  · rw [ended]
    exact (h.asking calls).follows counting (Nat.le_succ _) (.of_asking d calls)

private theorem Carries.reopen (h : d.Carries copies)
    (healthy : ∀ fault, ¬ d.engine.Refuses fault) (counting : Prop) :
  Follows d copies counting (reopen.perform d).2 copies
  := by
  obtain ⟨calls, closed | ⟨fault, refused, -⟩⟩ := answers_close d
  · rw [DiskTier.reopen, Action.perform_bind, closed]
    simp only [Action.perform_ofStep]
    cases opens : open? (d.asking calls).engine (d.asking calls).capacity with
    | ok d' =>
        obtain ⟨lists, next, refuses⟩ := h.opened opens
        exact ⟨lists.carries, fun _ _ => lists.count_eq, Nat.le_succ_of_le (Nat.le_of_eq next),
          refuses⟩
    | error stopped =>
        have vacant : (d.asking calls).capacity = 0 := by
          by_contra room
          obtain ⟨⟨q, queue, -⟩, -⟩ := h.lists
          obtain ⟨more, opened⟩ := open?_of_queue (e := d.engine.asking calls) queue room healthy
          cases opens.symm.trans opened
        rw [open?, if_pos vacant] at opens
        obtain rfl := Except.error.inj opens
        exact (h.asking calls).follows counting (Nat.le_succ _) (.of_asking d calls)
  · exact absurd refused (healthy fault)

/-- One request. -/
private theorem Carries.step (h : d.Carries copies) (healthy : ∀ fault, ¬ d.engine.Refuses fault)
    {r : Request} (fitting : r.Fitting) (countable : d.nextId + 1 < wordBound) :
  ∃ copies', Follows d copies r.Apart (r.act.perform d).2 copies'
  := by
  cases r with
  | save c =>
      have ends := saved c d
      obtain ⟨copies', carried⟩ :=
        ends.carried h fitting (Nat.lt_of_le_of_lt ends.nextId_le countable)
      rw [Request.act, Action.perform_map]
      exact ⟨copies', carried.follows _ ends.nextId_le ends.leads⟩
  | take i =>
      have ends := taken i none d
      rw [Request.act, Action.perform_map]
      obtain ⟨-, carried⟩ | ⟨-, -, carried⟩ | ⟨v, ⟨⟩, -⟩ :=
        ends.carried h fitting (by rintro v ⟨⟩) (Nat.lt_of_le_of_lt ends.nextId_le countable)
      · exact ⟨_, carried.follows _ ends.nextId_le ends.leads⟩
      · exact ⟨_, carried.follows _ ends.nextId_le ends.leads⟩
  | takeReplacing i c =>
      have ends := taken i (some c) d
      rw [Request.act, Action.perform_map]
      obtain ⟨-, carried⟩ | ⟨-, -, carried⟩ | ⟨v, ⟨⟩, same, -, carries, -, -⟩ :=
        ends.carried h fitting.1 (by rintro _ ⟨⟩; exact fitting.2)
          (Nat.lt_of_le_of_lt ends.nextId_le countable)
      · exact ⟨_, carried.follows _ ends.nextId_le ends.leads⟩
      · exact ⟨_, carried.follows _ ends.nextId_le ends.leads⟩
      · exact ⟨_, carries, fun apart => absurd same apart, ends.nextId_le, ends.leads.refuses_eq⟩
  | remove i =>
      have ends := removed i d
      rw [Request.act, Action.perform_map]
      obtain ⟨copies', carried⟩ := ends.carried h fitting
      have next := Nat.le_succ_of_le (Nat.le_of_eq ends.nextId_eq)
      exact ⟨copies', carried.follows _ next ends.leads⟩
  | contains i =>
      rw [Request.act, Action.perform_map]
      exact ⟨copies, h.looks (answers_contains i d) _⟩
  | modified i =>
      rw [Request.act, Action.perform_map]
      exact ⟨copies, h.looks (answers_modified i d) _⟩
  | headers i =>
      rw [Request.act, Action.perform_map]
      exact ⟨copies, h.looks (answers_headers i d) _⟩
  | evictOldest =>
      have ends := evicted d
      have next := Nat.le_succ_of_le (Nat.le_of_eq ends.nextId_eq)
      rw [Request.act, Action.perform_map]
      obtain carried | carried := ends.carried h
      · exact ⟨_, carried.follows _ next ends.leads⟩
      · exact ⟨_, carried.follows _ next ends.leads⟩
  | reopen =>
      rw [Request.act, Action.perform_map]
      exact ⟨copies, h.reopen healthy _⟩

/-- A tier that can be reached carries some copies, and counts all of them if no copy was ever
stored in place of another one of its identity. -/
theorem Reached.carries {P : Request → Prop} {n : Nat} (h : Reached P n d)
    (fitting : ∀ r, P r → r.Fitting) (few : n < wordBound) :
  ∃ copies, d.Carries copies ∧ ((∀ r, P r → r.Apart) → d.count = copies.length)
    ∧ d.nextId ≤ n ∧ ∀ fault, ¬ d.engine.Refuses fault
  := by
  -- The count of the operations bounds the insertion ids, so that there are words for them.
  induction h with
  | @opened engine capacity d empty healthy opens =>
      have queue : engine.records.Queue [] 0 := empty ▸ Records.Queue.of_empty
      have room : capacity ≠ 0 := by
        rintro rfl
        cases opens
      obtain ⟨lists, calls, rfl⟩ := lists_of_open? queue room opens
      exact ⟨[], lists.carries, fun _ => rfl, Nat.le_refl 0, Engine.not_refuses healthy⟩
  | @asked n d r before h ih =>
      obtain ⟨copies, carries, whole, nextId_le, healthy⟩ := ih (Nat.lt_of_succ_lt few)
      have countable : d.nextId + 1 < wordBound := by omega
      obtain ⟨copies', follows⟩ := carries.step healthy (fitting r h) countable
      refine ⟨copies', follows.carries, ?_, ?_, ?_⟩
      · intro apart
        exact follows.whole (apart r h) (whole apart)
      · exact Nat.le_trans follows.nextId_le (Nat.succ_le_succ nextId_le)
      · intro fault refused
        rw [Engine.Refuses, follows.refuses_eq] at refused
        exact healthy fault refused
  | @reopened n d d' capacity before opens ih =>
      obtain ⟨copies, carries, whole, nextId_le, healthy⟩ := ih (Nat.lt_of_succ_lt few)
      obtain ⟨calls, closed | ⟨fault, refused, -⟩⟩ := answers_close d
      · rw [closed] at opens
        obtain ⟨lists, next, refuses⟩ := carries.opened opens
        refine ⟨copies, lists.carries, fun _ => lists.count_eq, ?_, ?_⟩
        · rw [next]
          exact Nat.le_succ_of_le nextId_le
        · intro fault refused
          rw [Engine.Refuses, refuses] at refused
          exact healthy fault refused
      · exact absurd refused (healthy fault)

/-! ### The count after an exchange -/

/-- The tier answers that exactly these identities are stored, and has as many index records. -/
structure Stores (d : DiskTier) (stored : List Identity) : Prop where
  nodup : stored.Nodup
  fits : ∀ j ∈ stored, j.Fits
  contains : ∀ j, j.Fits → ((contains j).perform d).1 = .ok (decide (j ∈ stored))
  indexed : d.engine.records.index.length = stored.length

theorem Carries.stores (h : d.Carries copies) (healthy : ∀ fault, ¬ d.engine.Refuses fault) :
  d.Stores (copies.map Copy.identity)
  := by
  refine ⟨h.lists.nodup, ?_, ?_, ?_⟩
  · intro j hj
    obtain ⟨c, hc, rfl⟩ := List.mem_map.1 hj
    exact h.lists.fits hc
  · intro j fits
    obtain ⟨id, stored, same⟩ := h.lists.storedId fits
    have stored : d.engine.records.storedId j.encode = .ok id := stored
    obtain ⟨calls, ended | ⟨fault, refused, -⟩⟩ := answers_contains j d
    · rw [ended, stored, ← Copy.isSome_of?, ← same]
      rfl
    · exact absurd refused (healthy fault)
  · obtain ⟨⟨q, queue, rfl⟩, -⟩ := h.lists
    rw [queue.index_eq]
    simp

/-- A copy that was stored last is taken. -/
private theorem Carries.take_moved (h : d.Carries (Copy.moved (some c.settled) copies))
    (healthy : ∀ fault, ¬ d.engine.Refuses fault) (fits : c.identity.Fits) :
  ((take c.identity).perform d).1 = .ok (some c.settled)
  := by
  have last : Copy.of? c.identity (Copy.moved (some c.settled) copies) = some c.settled := by
    rw [Copy.moved, Copy.of?_append, Copy.identity_settled, Copy.of?_others, Copy.of?_cons]
    simp
  obtain ⟨id, stored, present⟩ := h.lists.storedId fits
  have copy := h.lists.copy fits
  rw [last] at present copy
  have ends := taken c.identity none d
  rw [take]
  generalize (takeReplacing c.identity none).perform d = ended at ends
  obtain ⟨answer, d'⟩ := ended
  cases ends with
  | refused refused => exact absurd refused (healthy _)
  | unreadable unreadable => cases unreadable.symm.trans stored
  | absent absent =>
      obtain rfl := Except.ok.inj (absent.symm.trans stored)
      cases present
  | unprepared _ changes => cases changes
  | taken => exact copy

/-- What an exchange of copies that is answered makes of a tier. -/
private theorem Carries.exchanged (h : d.Carries copies)
    (healthy : ∀ fault, ¬ d.engine.Refuses fault) (fits : i.Fits) (fitsC : c.identity.Fits)
    (countable : d.nextId + 1 < wordBound) {answer : Option Copy}
    (ended : (takeReplacing i (some c)).perform d = (.ok answer, d')) :
  ∃ copies', d'.Carries copies'
    ∧ (i ∈ copies.map Copy.identity → ((take c.identity).perform d').1 = .ok (some c.settled))
    ∧ (d.count = copies.length →
        (d'.count = copies'.length ↔ ¬ (c.identity = i ∧ i ∈ copies.map Copy.identity)))
  := by
  have ends := taken i (some c) d
  have nextId_le := ends.nextId_le
  have healthy' fault : ¬ ((takeReplacing i (some c)).perform d).2.engine.Refuses fault :=
    fun refused => healthy fault (ends.leads.refuses.1 refused)
  rw [ended] at ends nextId_le healthy'
  have found := Copy.isSome_of? i copies
  obtain ⟨absent | ⟨fault, ⟨⟩⟩, carried⟩ | ⟨other, -, carried⟩
      | ⟨_, ⟨⟩, rfl, present, carries, length, lowered⟩ :=
    ends.carried h fits (by rintro _ ⟨⟩; exact fitsC) (Nat.lt_of_le_of_lt nextId_le countable)
  · rw [absent] at found
    have missing : i ∉ copies.map Copy.identity := of_decide_eq_false found.symm
    refine ⟨copies, carried.1, fun stored => absurd stored missing, fun whole => ?_⟩
    exact iff_of_true (carried.2 whole) fun same => missing same.2
  · refine ⟨_, carried.1, fun _ => carried.1.take_moved healthy' fitsC, fun whole => ?_⟩
    exact iff_of_true (carried.2 whole) fun same => other c rfl same.1
  · rw [present] at found
    have stored : c.identity ∈ copies.map Copy.identity := of_decide_eq_true found.symm
    refine ⟨_, carries, fun _ => carries.take_moved healthy' fitsC, fun whole => ?_⟩
    have some : 0 < copies.length := by
      rw [← List.length_map Copy.identity]
      exact List.length_pos_of_mem stored
    have short : ¬ d.count - 1 = copies.length := by omega
    rw [length]
    exact iff_of_false (lowered ▸ short) fun apart => apart ⟨rfl, stored⟩

/-- Where a tier is reached and a copy is exchanged for another one, the tier answers for the
identities that it has index records for, before and after that, and the new copy is stored if the
other one was.  The count is never too large.  If it was right before, it is right afterwards unless
the copy was stored in place of another one of its identity; and it is right as long as that has
never happened. -/
theorem count_takeReplacing {n : Nat} (reached : Reached Request.Fitting n d)
    (few : n + 1 < wordBound) (fits : i.Fits) (fitsC : c.identity.Fits) {answer : Option Copy}
    (ended : (takeReplacing i (some c)).perform d = (.ok answer, d')) :
  ∃ stored stored', d.Stores stored ∧ d'.Stores stored'
    ∧ d.count ≤ stored.length ∧ d'.count ≤ stored'.length
    ∧ (i ∈ stored → ((take c.identity).perform d').1 = .ok (some c.settled))
    ∧ (d.count = stored.length →
        (d'.count = stored'.length ↔ ¬ (c.identity = i ∧ i ∈ stored)))
    ∧ (Reached (fun r => r.Fitting ∧ r.Apart) n d → d.count = stored.length)
  := by
  have begun := Nat.lt_of_succ_lt few
  obtain ⟨copies, carries, -, nextId_le, healthy⟩ := reached.carries (fun _ h => h) begun
  have countable : d.nextId + 1 < wordBound := by omega
  obtain ⟨copies', carries', new, count⟩ := carries.exchanged healthy fits fitsC countable ended
  have leads := (taken i (some c) d).leads
  rw [ended] at leads
  have stores := carries.stores healthy
  have stores' := carries'.stores fun fault refused => healthy fault (leads.refuses.1 refused)
  refine ⟨_, _, stores, stores', ?_, ?_, new, ?_, ?_⟩
  · rw [List.length_map]
    exact carries.count_le
  · rw [List.length_map]
    exact carries'.count_le
  · rw [List.length_map, List.length_map]
    exact count
  · intro apart
    obtain ⟨again, carriesAgain, whole, -⟩ := apart.carries (fun _ h => h.1) begun
    have length := (carriesAgain.stores healthy).indexed.symm.trans stores.indexed
    rw [whole fun _ h => h.2, ← length, List.length_map]

/-- A tier with room for two copies on an empty engine, after one was saved. -/
@[irreducible]
def lone : DiskTier :=
  ((Request.save (.ofOctet "a" 1)).act.perform ⟨({} : Engine).asking [.get, .scan], 2, 0, 0⟩).2

theorem reached_lone :
  Reached Request.Fitting 1 lone
  := by
  have opens : open? {} 2 = .ok ⟨({} : Engine).asking [.get, .scan], 2, 0, 0⟩ := rfl
  have fits : Identity.Fits ⟨"", "a"⟩ := by decide
  rw [lone]
  exact .asked (.opened rfl (fun _ => rfl) opens) fits

/-- A copy that is exchanged for another one is counted. -/
theorem count_takeReplacing_apart :
  let i : Identity := ⟨"", "a"⟩
  let c : Copy := .ofOctet "b" 2
  let ended := (takeReplacing i (some c)).perform lone
  ended.1 = .ok (some (.ofOctet "a" 1))
    ∧ ∃ stored stored', lone.Stores stored ∧ ended.2.Stores stored'
      ∧ lone.count ≤ stored.length ∧ ended.2.count ≤ stored'.length
      ∧ (i ∈ stored → ((take c.identity).perform ended.2).1 = .ok (some c.settled))
      ∧ (lone.count = stored.length →
          (ended.2.count = stored'.length ↔ ¬ (c.identity = i ∧ i ∈ stored)))
      ∧ (Reached (fun r => r.Fitting ∧ r.Apart) 1 lone → lone.count = stored.length)
  := by
  intro i c ended
  have answer : ended.1 = .ok (some (.ofOctet "a" 1)) := by decide +kernel
  have whole : ended = (.ok (some (.ofOctet "a" 1)), ended.2) := Prod.ext answer rfl
  exact ⟨answer, count_takeReplacing reached_lone (by decide) (by decide) (by decide) whole⟩

/-- A copy that is stored in place of another one of its identity is there, but not counted. -/
theorem miscounts_same_identity :
  let ended := (takeReplacing ⟨"", "a"⟩ (some (.ofOctet "a" 2))).perform lone
  Reached Request.Fitting 1 lone ∧ ended.1 = .ok (some (.ofOctet "a" 1))
    ∧ ((contains ⟨"", "a"⟩).perform ended.2).1 = .ok true
    ∧ ended.2.engine.records.index.length = 1 ∧ ended.2.count = 0
  := ⟨reached_lone, by decide +kernel, by decide +kernel, by decide +kernel, by decide +kernel⟩

end DiskTier

end SiteCache
