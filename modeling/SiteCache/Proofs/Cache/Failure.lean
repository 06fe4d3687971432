import SiteCache.Proofs.Cache.Sessions

/-!
# Saves that fail

A save fails if the engine refuses a call, or if the time of the copy that has to leave RAM cannot
be stored.  It leaves the copies of all other identities alone, with one exception: if the disk tier
was full, the oldest copy on disk may be gone (`Cache.kept_of_failed_save`).  Room on disk is made by
a write of its own, after which the engine may refuse the next one; and it is made before the time
is looked at, so that the oldest copy is lost on an engine that refuses nothing
(`Cache.not_kept_of_unstorable`).

`Cache.copy?` is the copy of an identity that a cache holds in either tier; reads and peeks answer
from it (`Cache.Holds.reads_copy?`, `Cache.Holds.looks_copy?`).
-/

namespace SiteCache

variable {hash : Identity → UInt64}

namespace Cache

variable {c c' : Cache hash} {ram disk : List Copy} {i j : Identity} {x : Copy}

/-- The copy of an identity in RAM or else the one that the records on disk tell of. -/
def copy? (c : Cache hash) (i : Identity) : Option Copy :=
  (c.ram.peek i).or (c.disk.engine.records.copy i).toOption.join

theorem Holds.copy?_eq (h : c.Holds ram disk) (fits : i.Fits) :
  c.copy? i = (Copy.of? i ram).or (Copy.of? i disk)
  := by
  rw [copy?, h.peek, h.lists.copy fits]
  rfl

/-- A read answers content and headers of the copy or misses, unless it is stopped. -/
theorem Holds.reads_copy? (h : c.Holds ram disk) (fits : i.Fits)
    (countable : ((read i).perform c).2.disk.nextId < wordBound) :
  ((read i).perform c).1
      = (c.copy? i).elim (.error i.missed) (fun y => .ok (y.content, y.headers))
    ∨ ∃ fault, ((read i).perform c).1 = .error fault
      ∧ (c.disk.engine.Refuses fault ∨ ∃ w ∈ ram, ¬ w.modified.Storable)
  := by
  rw [h.copy?_eq fits]
  obtain ⟨y, inRam, answer, -⟩ | ⟨notInRam, ⟨fault, reason, answer, -⟩ | ⟨missing, answer, -⟩
      | ⟨y, onDisk, answer, -, -⟩⟩ := (reads i c).holds h fits rfl countable
  · rw [answer, inRam]
    exact .inl rfl
  · refine .inr ⟨fault, answer, reason.imp_right ?_⟩
    rintro ⟨w, chosen, unstorable⟩
    exact ⟨w, RamTier.mem_of_victim chosen, unstorable⟩
  · rw [answer, notInRam, missing]
    exact .inl rfl
  · rw [answer, notInRam, onDisk]
    exact .inl rfl

/-- A peek at the time answers that of the copy or misses, unless the engine refuses a call. -/
theorem Holds.looks_copy? (h : c.Holds ram disk) (fits : i.Fits) :
  Looks (modified i) c ((c.copy? i).elim (.error i.missed) fun y => .ok y.modified)
  := by
  have looks := looks_modified i c
  rwa [h.peek, h.lists.modified fits, found_eq_elim, ← h.copy?_eq fits] at looks

/-- A read that answers, answers content and headers of the copy, whatever the records are. -/
theorem Read.copy?_eq {content : Octets} {headers : Headers}
    (ends : Read c i (.ok (content, headers)) c') :
  (c.copy? i).map (fun y => (y.content, y.headers)) = some (content, headers)
  := by
  rw [copy?]
  cases ends with
  | hit inRam =>
      rw [inRam]
      rfl
  | promoted notInRam _ ends =>
      rw [notInRam, ends.copy_eq]
      rfl

/-! ### What is lost -/

/-- All identities but this one have the copies that they had. -/
def Spares (i : Identity) (c c' : Cache hash) : Prop :=
  ∀ j, j.Fits → j ≠ i → c'.copy? j = c.copy? j

/-- This copy is lost, and all identities but its own and this one have the copies that they had. -/
def Costs (i : Identity) (lost : Copy) (c c' : Cache hash) : Prop :=
  ∀ j, j.Fits → j ≠ i → c'.copy? j = if j = lost.identity then none else c.copy? j

/-- Room for one more copy on disk is made at the cost of this one, the oldest there. -/
structure Endangers (c : Cache hash) (disk : List Copy) (oldest : Copy) : Prop where
  full : c.disk.capacity ≤ disk.length
  head : disk.head? = some oldest

/-- How the save of an identity that is in neither list may fail, and what it costs.  The engine
refuses a call, for which the oldest copy on disk may have been evicted already; or the copy that has
to leave RAM cannot be stored, for which the oldest copy is evicted whenever the list is full. -/
inductive Failed (c c' : Cache hash) (ram disk : List Copy) (i : Identity) : Fault → Prop where
  | refused {fault : Fault} (refused : c.disk.engine.Refuses fault) (spares : Spares i c c') :
    Failed c c' ram disk i fault
  | torn {fault : Fault} {v oldest : Copy} (refused : c.disk.engine.Refuses fault)
    (victim : RamTier.victim hash c.ram.capacity ram i = some v)
    (endangers : Endangers c disk oldest) (costs : Costs i oldest c c') :
    Failed c c' ram disk i fault
  | unstorable {v : Copy} (victim : RamTier.victim hash c.ram.capacity ram i = some v)
    (unstorable : ¬ v.modified.Storable) (roomy : ∀ oldest, ¬ Endangers c disk oldest)
    (spares : Spares i c c') :
    Failed c c' ram disk i (.storage (.timeRange v.modified))
  | wasted {v oldest : Copy} (victim : RamTier.victim hash c.ram.capacity ram i = some v)
    (unstorable : ¬ v.modified.Storable) (endangers : Endangers c disk oldest)
    (costs : Costs i oldest c c') :
    Failed c c' ram disk i (.storage (.timeRange v.modified))

/-- Another identity keeps its copy if both lists have kept it. -/
private theorem Holds.spares {ram' disk' : List Copy} (h : c.Holds ram disk)
    (h' : c'.Holds ram' disk') (inRam : ∀ j, j ≠ i → Copy.of? j ram' = Copy.of? j ram)
    (onDisk : ∀ j, j ≠ i → Copy.of? j disk' = Copy.of? j disk) :
  Spares i c c'
  := by
  intro j fits other
  rw [h'.copy?_eq fits, h.copy?_eq fits, inRam j other, onDisk j other]

/-- Without its first copy, the disk list still has the copies of the others. -/
private theorem Holds.costs {ram' : List Copy} {oldest : Copy} {rest : List Copy}
    (h : c.Holds ram disk) (h' : c'.Holds ram' rest)
    (head : Copy.others i disk = oldest :: rest)
    (inRam : ∀ j, j ≠ i → Copy.of? j ram' = Copy.of? j ram) :
  Costs i oldest c c'
  := by
  have first : oldest ∈ Copy.others i disk := head ▸ List.mem_cons_self
  have distinct : ((oldest :: rest).map Copy.identity).Nodup := by
    rw [← head]
    exact h.lists.nodup.sublist (List.filter_sublist.map Copy.identity)
  intro j fits other
  have onDisk := Copy.of?_tail distinct j
  rw [← head, Copy.of?_others_of_ne other] at onDisk
  rw [h'.copy?_eq fits, h.copy?_eq fits, inRam j other, onDisk]
  by_cases same : j = oldest.identity
  · have absent : Copy.of? j ram = none := by
      apply Copy.of?_eq_none_iff.2
      intro y hy
      rw [same]
      exact h.apart y hy oldest (Copy.others_subset i disk first)
    rw [if_pos same, if_pos same, absent]
    rfl
  · rw [if_neg same, if_neg same]

/-- A victim that came back into RAM is found there as before. -/
private theorem of?_returned {v : Copy} (h : c.Holds ram disk) (hv : v ∈ Copy.others i ram)
    (other : j ≠ i) :
  Copy.of? j (RamTier.remaining (some v) (Copy.others i ram) ++ [v]) = Copy.of? j ram
  := by
  have distinct : ((Copy.others i ram).map Copy.identity).Nodup :=
    h.nodup.sublist (List.filter_sublist.map Copy.identity)
  rw [RamTier.remaining, Copy.of?_moved distinct hv, Copy.of?_others_of_ne other]

/-- When the victim is back and room was made on disk, the oldest copy of a full list is gone, and
nothing else. -/
private theorem Holds.costs_or_spares {v : Copy} (h : c.Holds ram disk)
    (victim : RamTier.victim hash c.ram.capacity (Copy.others i ram) i = some v)
    (h' : c'.Holds (RamTier.remaining (some v) (Copy.others i ram) ++ [v])
      (Copy.spared c.disk.capacity (Copy.others i disk))) :
  (∃ oldest, Endangers c (Copy.others i disk) oldest ∧ Costs i oldest c c')
    ∨ (∀ oldest, ¬ Endangers c (Copy.others i disk) oldest) ∧ Spares i c c'
  := by
  have inRam (j : Identity) := of?_returned (j := j) h (RamTier.mem_of_victim victim)
  have onDisk (j : Identity) (other : j ≠ i) := Copy.of?_others_of_ne other disk
  rw [Copy.spared] at h'
  split at h'
  next full =>
    cases list : Copy.others i disk with
    | nil =>
        rw [list, List.tail_nil] at h'
        rw [list] at onDisk
        refine .inr ⟨?_, h.spares h' inRam onDisk⟩
        rintro oldest ⟨-, ⟨⟩⟩
    | cons oldest rest =>
        rw [list, List.tail_cons] at h'
        exact .inl ⟨oldest, ⟨list ▸ full, rfl⟩, h.costs h' list inRam⟩
  next roomy =>
    refine .inr ⟨?_, h.spares h' inRam onDisk⟩
    rintro oldest ⟨full, -⟩
    exact roomy full

/-- An insertion into RAM that stops for no refusal stops at a victim that cannot be stored.  The
victim is back, and room has been made for it on disk. -/
theorem Inserted.holds_of_allowed {fault : Fault} (ends : Inserted c x (.error fault) c')
    (h : c.Holds ram disk) (allowed : ¬ c.disk.engine.Refuses fault)
    (absent : Copy.of? x.identity ram = none) :
  ∃ v, RamTier.victim hash c.ram.capacity ram x.identity = some v ∧ ¬ v.modified.Storable
    ∧ .storage (.timeRange v.modified) = fault
    ∧ c'.Holds (RamTier.remaining (some v) ram ++ [v]) (Copy.spared c.disk.capacity disk)
  := by
  cases ends with
  | @failed v _ _ _ taken ends =>
      have victim := (h.popDisplaced absent rfl).1.symm.trans taken
      obtain ⟨-, fits, elsewhere⟩ := h.victim victim
      obtain ⟨unstorable, same, lists⟩ := ends.lists_of_allowed h.lists allowed fits
      rw [Copy.kept_eq_spared elsewhere] at lists
      refine ⟨v, victim, unstorable, same, h.restored absent victim lists ?_⟩
      exact fun _ => Copy.mem_of_mem_spared

/-- A save that stops for no refusal stops there. -/
theorem Saved.holds_of_allowed {fault : Fault} (ends : Saved c x (.error fault) c')
    (h : c.Holds ram disk) (allowed : ¬ c.disk.engine.Refuses fault) (fits : x.identity.Fits) :
  let ram := Copy.others x.identity ram
  ∃ v, RamTier.victim hash c.ram.capacity ram x.identity = some v ∧ ¬ v.modified.Storable
    ∧ .storage (.timeRange v.modified) = fault
    ∧ c'.Holds (RamTier.remaining (some v) ram ++ [v])
      (Copy.spared c.disk.capacity (Copy.others x.identity disk))
  := by
  have left := h.copies_eq ▸ (RamTier.copies_remove c.ram x.identity).2
  have capacity := RamTier.capacity_remove c.ram x.identity
  cases ends with
  | stopped removed =>
      obtain ⟨_, refused, answer, -⟩ | ⟨answer, -⟩ := removed.lists h.lists fits
      · cases answer
        exact absurd refused allowed
      · cases answer
  | @inserted _ d k _ _ removed inserts =>
      obtain ⟨_, -, answer, -⟩ | ⟨-, lists⟩ := removed.lists h.lists fits
      · cases answer
      have cleared := h.of_subset (k := k) left lists (Copy.others_subset _ ram)
        (Copy.others_subset _ disk)
      have allowed := mt removed.leads.refuses.1 allowed
      have ends := inserts.holds_of_allowed cleared allowed (Copy.of?_others _ ram)
      rwa [capacity, removed.leads.capacity_eq] at ends

/-- A save that fails costs no copy of another identity, or else the oldest one of a full disk tier
to which a copy had to move. -/
theorem Holds.failed_save {fault : Fault} (h : c.Holds ram disk) (fits : x.identity.Fits)
    (fails : (save x).perform c = (.error fault, c')) (countable : c'.disk.nextId < wordBound) :
  Failed c c' (Copy.others x.identity ram) (Copy.others x.identity disk) x.identity fault
  := by
  have ends := saved x c
  rw [fails] at ends
  by_cases refused : c.disk.engine.Refuses fault
  · obtain ⟨_, -, -, h'⟩ | ⟨v, _, chosen, -, -, returned⟩ | ⟨answer, -⟩ :=
      ends.holds h fits rfl countable
    · refine .refused refused (h.spares h' ?_ fun _ _ => rfl)
      intro j other
      exact Copy.of?_others_of_ne other ram
    · rw [chosen] at returned
      -- The call was refused before room was made on disk, or behind the write that made it.
      obtain h' | h' := returned
      · have inRam (j : Identity) := of?_returned (j := j) h (RamTier.mem_of_victim chosen)
        have onDisk (j : Identity) (other : j ≠ x.identity) := Copy.of?_others_of_ne other disk
        exact .refused refused (h.spares h' inRam onDisk)
      · obtain ⟨oldest, endangers, costs⟩ | ⟨-, spares⟩ := h.costs_or_spares chosen h'
        · exact .torn refused chosen endangers costs
        · exact .refused refused spares
    · cases answer
  · obtain ⟨v, victim, unstorable, rfl, h'⟩ := ends.holds_of_allowed h refused fits
    obtain ⟨oldest, endangers, costs⟩ | ⟨roomy, spares⟩ := h.costs_or_spares victim h'
    · exact .wasted victim unstorable endangers costs
    · exact .unstorable victim unstorable roomy spares

/-- In any session on an engine that was empty at first, a save that fails costs no copy of another
identity, or else the oldest one of a full disk tier to which a copy had to move.  This copy may be
lost if the engine refuses a call, and it is lost if the time of the copy that had to move cannot be
stored; on an engine that refuses nothing, no save fails otherwise. -/
theorem kept_of_failed_save {e : Engine} (empty : e.records = .empty) {steps : List Session.Step}
    (fits : ∀ s ∈ steps, s.Fits)
    (reached : (Session.closed e : Session hash).after steps = .opened c)
    (fitsX : x.identity.Fits) {fault : Fault}
    (fails : (save x).perform c = (.error fault, c'))
    (few : c'.disk.engine.asked.length < wordBound) :
  ∃ ram disk, c.Holds ram disk
    ∧ Failed c c' (Copy.others x.identity ram) (Copy.others x.identity disk) x.identity fault
  := by
  have leads : DiskTier.Leads c.disk c'.disk := by
    have leads := (saved x c).leads.disk
    rwa [fails] at leads
  have sound : ((Session.closed e : Session hash).after steps).Sound := by
    apply Session.sound_after empty fits
    rw [reached]
    exact Nat.lt_of_le_of_lt leads.asked_le few
  rw [reached] at sound
  obtain ⟨ram, disk, h, counted⟩ := sound
  have calls := leads.asked
  exact ⟨ram, disk, h, h.failed_save fitsX fails (by omega)⟩

/-- A cache with room for one copy in each tier is given two copies. -/
def twoSaves : List Session.Step :=
  [.reopen ⟨1, 1⟩, .ask (.save (.ofOctet "a" 1)), .ask (.save (.ofOctet "b" 2))]

/-- An engine that refuses its third write. -/
def thirdWriteRefused : Engine where
  refuses asked :=
    if asked.head? = some .write ∧ asked.count .write = 3 then
      some (.storage (.engine "third write"))
    else none

/-- A third save evicts the first copy, and the engine refuses to write the second one in its
place. -/
theorem kept_of_third_write_refused :
  ∃ c c' : Cache fun _ => 0,
    (Session.closed thirdWriteRefused).after twoSaves = .opened c
      ∧ (save (.ofOctet "c" 3)).perform c = (.error (.storage (.engine "third write")), c')
      ∧ (c.copy? ⟨"", "a"⟩).isSome ∧ c'.copy? ⟨"", "a"⟩ = none
      ∧ ∃ ram disk, c.Holds ram disk
        ∧ Failed c c' (Copy.others ⟨"", "c"⟩ ram) (Copy.others ⟨"", "c"⟩ disk) ⟨"", "c"⟩
          (.storage (.engine "third write"))
  := by
  have fits : ∀ s ∈ twoSaves, s.Fits := by decide
  have empty : thirdWriteRefused.records = .empty := rfl
  have fitsX : (Copy.ofOctet "c" 3).identity.Fits := by decide
  exact ⟨_, _, rfl, rfl, rfl, rfl, kept_of_failed_save empty fits rfl fitsX rfl (by decide)⟩

/-- A copy from the first second of the year 3000. -/
def future : Copy := ⟨⟨"", "b"⟩, [2], .ofNanoseconds 32503680000000000000, .empty⟩

/-- A cache with room for one copy in each tier is given a copy that can be stored, and this one. -/
def futureSaved : List Session.Step :=
  [.reopen ⟨1, 1⟩, .ask (.save (.ofOctet "a" 1)), .ask (.save future)]

/-- On an engine that refuses nothing, a third save evicts the first copy, and fails since the
second one cannot be stored. -/
theorem not_kept_of_unstorable :
  ∃ c c' : Cache fun _ => 0,
    (Session.closed {}).after futureSaved = .opened c
      ∧ (∀ calls, c.disk.engine.refuses calls = none)
      ∧ (save (.ofOctet "c" 3)).perform c = (.error (.storage (.timeRange future.modified)), c')
      ∧ (c.copy? ⟨"", "a"⟩).isSome ∧ c'.copy? ⟨"", "a"⟩ = none
  := ⟨_, _, rfl, fun _ => rfl, rfl, rfl, rfl⟩

end Cache

end SiteCache
