import SiteCache.Proofs.Cache.History
import SiteCache.Proofs.Tier.Listing

/-!
# A cache as two lists

A cache holds two lists of copies (`Cache.Holds`): that of its RAM tier, most recently used first,
and that of its disk tier, oldest first, with no identity in both.  What each operation makes of the
two lists, and what it may leave behind when it stops, is said by one theorem for each operation.
The copy that leaves RAM goes to the end of the disk list, with its time settled; a save drops the
first copy of a full list for it, while a promotion puts it in the room of the promoted copy.
-/

namespace SiteCache

namespace Cache

variable {hash : Identity → UInt64} {c c' : Cache hash} {x : Copy} {i : Identity}
  {ram disk : List Copy}

/-! ### What operations leave alone -/

/-- Operations may lead from one cache to the other: bounds and refusals are the same. -/
structure Leads (c c' : Cache hash) : Prop where
  ram : c'.ram.capacity = c.ram.capacity
  disk : DiskTier.Leads c.disk c'.disk

theorem Leads.trans {c'' : Cache hash} (h : Leads c c') (h' : Leads c' c'') :
  Leads c c''
  := ⟨h'.ram.trans h.ram, h.disk.trans h'.disk⟩

theorem Inserted.leads {answer : Except Fault Unit} (ends : Inserted c x answer c') :
  Leads c c'
  := by
  have capacity := RamTier.capacity_popDisplaced c.ram x.identity
  cases ends with
  | spare => exact ⟨capacity, DiskTier.Leads.refl _⟩
  | demoted _ ends => exact ⟨capacity, ends.leads⟩
  | failed _ ends => exact ⟨capacity, ends.leads⟩

theorem Saved.leads {answer : Except Fault Unit} (ends : Saved c x answer c') :
  Leads c c'
  := by
  have capacity := RamTier.capacity_remove c.ram x.identity
  cases ends with
  | stopped removed => exact ⟨capacity, removed.leads⟩
  | inserted removed inserts =>
      exact Leads.trans ⟨capacity, removed.leads⟩ inserts.leads

theorem Deleted.leads {answer : Except Fault Unit} (ends : Deleted c i answer c') :
  Leads c c'
  := by
  have capacity := RamTier.capacity_remove c.ram i
  cases ends with
  | stopped removed => exact ⟨capacity, removed.leads⟩
  | deleted removed => exact ⟨capacity, removed.leads⟩

theorem Read.leads {answer : Except Fault (Octets × Headers)} (ends : Read c i answer c') :
  Leads c c'
  := by
  have capacity := RamTier.capacity_popDisplaced c.ram i
  cases ends with
  | hit => exact ⟨rfl, DiskTier.Leads.refl _⟩
  | refused => exact ⟨rfl, DiskTier.Leads.of_asking _ _⟩
  | unreadable => exact ⟨rfl, DiskTier.Leads.of_asking _ _⟩
  | missed => exact ⟨rfl, DiskTier.Leads.of_asking _ _⟩
  | failed _ _ ends =>
      refine ⟨?_, ends.leads⟩
      cases (c.ram.popDisplaced i).1 with
      | none => exact capacity
      | some v => exact capacity
  | incomplete _ _ ends => exact ⟨capacity, ends.leads⟩
  | promoted _ _ ends => exact ⟨capacity, ends.leads⟩

theorem Looks.leads {α : Type} {a : Action (Cache hash) α} {answer : Except Fault α}
    (looks : Looks a c answer) :
  Leads c (a.perform c).2
  := by
  obtain ⟨calls, ended | ⟨fault, -, ended⟩⟩ := looks
  · rw [ended]
    exact ⟨rfl, DiskTier.Leads.of_asking _ _⟩
  · rw [ended]
    exact ⟨rfl, DiskTier.Leads.of_asking _ _⟩

theorem leads_serve (c : Cache hash) (r : Request) :
  Leads c (c.serve r).2
  := by
  have peek (peeks : r.Peeks) : Leads c (c.serve r).2 := by
    obtain ⟨answer, looks⟩ := looks_of_peeks peeks c
    exact looks.leads
  cases r with
  | save copy =>
      rw [serve, Request.act, Action.perform_map]
      exact (saved copy c).leads
  | read i =>
      rw [serve, Request.act, Action.perform_map]
      exact (reads i c).leads
  | delete i =>
      rw [serve, Request.act, Action.perform_map]
      exact (deleted i c).leads
  | modified i => exact peek trivial
  | headers i => exact peek trivial
  | header i name => exact peek trivial
  | place i => exact peek trivial

theorem leads_after (c : Cache hash) (requests : List Request) :
  Leads c (c.after requests)
  := by
  apply after_induction (P := Leads c)
  · intro c' r _ h
    exact h.trans (leads_serve c' r)
  · exact ⟨rfl, DiskTier.Leads.refl _⟩

/-! ### The two lists -/

/-- The cache holds exactly these copies: in RAM, most recently used first, and on disk, oldest
first. -/
structure Holds (c : Cache hash) (ram disk : List Copy) : Prop where
  copies_eq : c.ram.copies = ram
  lists : c.disk.Lists disk
  apart : ∀ x ∈ ram, ∀ y ∈ disk, x.identity ≠ y.identity
  fits : ∀ x ∈ ram, x.identity.Fits

theorem Holds.nodup (h : c.Holds ram disk) :
  (ram.map Copy.identity).Nodup
  := h.copies_eq ▸ c.ram.nodup_identities

theorem Holds.peek (h : c.Holds ram disk) (i : Identity) :
  c.ram.peek i = Copy.of? i ram
  := by
  rw [RamTier.peek_eq_of?, h.copies_eq]

/-- Fewer copies in both lists. -/
theorem Holds.of_subset {d : DiskTier} {t : RamTier hash} {k : Counters} {ram' disk' : List Copy}
    (h : c.Holds ram disk) (copies : t.copies = ram') (lists : d.Lists disk')
    (fewerInRam : ram' ⊆ ram) (fewerOnDisk : disk' ⊆ disk) :
  Holds (⟨t, d, k⟩ : Cache hash) ram' disk'
  := by
  refine ⟨copies, lists, ?_, ?_⟩
  · intro x hx y hy
    exact h.apart x (fewerInRam hx) y (fewerOnDisk hy)
  · intro x hx
    exact h.fits x (fewerInRam hx)

theorem Looks.holds {α : Type} {a : Action (Cache hash) α} {answer : Except Fault α}
    (looks : Looks a c answer) (h : c.Holds ram disk) :
  (a.perform c).2.Holds ram disk
  := by
  obtain ⟨calls, ended | ⟨fault, -, ended⟩⟩ := looks
  · rw [ended]
    exact ⟨h.copies_eq, h.lists.asking calls, h.apart, h.fits⟩
  · rw [ended]
    exact ⟨h.copies_eq, h.lists.asking calls, h.apart, h.fits⟩

/-- What both lists say of an identity is said by its copy in the first that has one. -/
theorem found_eq_elim {α : Type} (i : Identity) (inRam onDisk : Option Copy) (f : Copy → α) :
  found i (inRam.map f) (.ok (onDisk.map f))
    = (inRam.or onDisk).elim (.error i.missed) fun x => .ok (f x)
  := by
  cases inRam with
  | some x => rfl
  | none => cases onDisk <;> rfl

/-- A deletion takes the identity out of both lists; if the engine refuses a call, it may still be
on disk. -/
theorem Deleted.holds {answer : Except Fault Unit} (ends : Deleted c i answer c')
    (h : c.Holds ram disk) (fits : i.Fits) :
  (∃ fault, c.disk.engine.Refuses fault ∧ answer = .error fault
      ∧ c'.Holds (Copy.others i ram) disk)
    ∨ answer = .ok () ∧ c'.Holds (Copy.others i ram) (Copy.others i disk)
  := by
  have left := h.copies_eq ▸ (RamTier.copies_remove c.ram i).2
  cases ends with
  | stopped removed =>
      obtain ⟨fault, refused, answer, lists⟩ | ⟨answer, -⟩ := removed.lists h.lists fits
      · cases answer
        exact .inl ⟨_, refused, rfl,
          h.of_subset left lists (Copy.others_subset i ram) (List.Subset.refl _)⟩
      · cases answer
  | deleted removed =>
      obtain ⟨fault, refused, answer, lists⟩ | ⟨-, lists⟩ := removed.lists h.lists fits
      · cases answer
      · exact .inr ⟨rfl, h.of_subset left lists (Copy.others_subset i ram)
          (Copy.others_subset i disk)⟩

/-- The disk list after a copy has been demoted, if one had to leave RAM. -/
def pushed (capacity : Nat) (v : Option Copy) (disk : List Copy) : List Copy :=
  match v with
  | some v => Copy.spared capacity disk ++ [v.settled]
  | none => disk

theorem length_pushed_le {capacity : Nat} (room : 0 < capacity) (v : Option Copy)
    (disk : List Copy) :
  (pushed capacity v disk).length ≤ max disk.length capacity
  := by
  cases v with
  | none =>
      rw [pushed]
      omega
  | some v =>
      have shorter := Copy.length_spared_lt room disk
      rw [pushed, List.length_append, List.length_singleton]
      omega

/-- A victim belongs to RAM, and to no other list. -/
theorem Holds.victim (h : c.Holds ram disk) {v : Copy}
    (victim : RamTier.victim hash c.ram.capacity ram i = some v) :
  v ∈ ram ∧ v.identity.Fits ∧ Copy.of? v.identity disk = none
  := by
  have hv := RamTier.mem_of_victim victim
  refine ⟨hv, h.fits v hv, ?_⟩
  apply Copy.of?_eq_none_iff.2
  intro y hy
  exact (h.apart v hv y hy).symm

theorem Holds.other_of_victim (h : c.Holds ram disk) {v : Option Copy}
    (chosen : RamTier.victim hash c.ram.capacity ram i = v) (absent : Copy.of? i ram = none) :
  ∀ w, v = some w → w.identity.Fits ∧ w.identity ≠ i
  := by
  rintro w rfl
  obtain ⟨hw, fits, -⟩ := h.victim chosen
  exact ⟨fits, Copy.of?_eq_none_iff.1 absent w hw⟩

/-- What is left in RAM when a victim has left belongs to RAM. -/
theorem remaining_subset (v : Option Copy) (copies : List Copy) :
  RamTier.remaining v copies ⊆ copies
  := by
  cases v with
  | none => exact List.Subset.refl copies
  | some v => exact Copy.others_subset v.identity copies

/-- The victim leaves RAM. -/
theorem Holds.popDisplaced (h : c.Holds ram disk) (absent : Copy.of? i ram = none) {v : Option Copy}
    (chosen : RamTier.victim hash c.ram.capacity ram i = v) :
  (c.ram.popDisplaced i).1 = v ∧ (c.ram.popDisplaced i).2.copies = RamTier.remaining v ram
  := by
  have popped := RamTier.popDisplaced_eq ((h.peek i).trans absent)
  rwa [h.copies_eq, chosen] at popped

/-- The lists after a copy entered RAM, when the one that had to leave went to disk. -/
theorem Holds.entered {d : DiskTier} {k : Counters} {v : Option Copy} {kept : List Copy}
    (h : c.Holds ram disk) (fits : x.identity.Fits) (absent : Copy.of? x.identity ram = none)
    (chosen : RamTier.victim hash c.ram.capacity ram x.identity = v)
    (lists : d.Lists (kept ++ (v.map Copy.settled).toList)) (fewer : kept ⊆ disk)
    (onDisk : Copy.of? x.identity kept = none) :
  Holds (⟨(c.ram.popDisplaced x.identity).2.push x, d, k⟩ : Cache hash)
    (x :: RamTier.remaining v ram) (kept ++ (v.map Copy.settled).toList)
  := by
  have notInRam := (h.peek x.identity).trans absent
  have copies := RamTier.copies_push_of_room (RamTier.room_of_popDisplaced notInRam)
  rw [(h.popDisplaced absent chosen).2] at copies
  refine ⟨copies, lists, ?_, ?_⟩
  · intro y hy z hz
    rcases List.mem_append.1 hz with hz | hz
    · rcases List.mem_cons.1 hy with rfl | hy
      · exact (Copy.of?_eq_none_iff.1 onDisk z hz).symm
      · exact h.apart y (remaining_subset v ram hy) z (fewer hz)
    · cases v with
      | none => cases hz
      | some w =>
          obtain rfl := List.mem_singleton.1 hz
          rcases List.mem_cons.1 hy with rfl | hy
          · exact (Copy.of?_eq_none_iff.1 absent w (h.victim chosen).1).symm
          · exact (Copy.mem_others.1 hy).2
  · intro y hy
    rcases List.mem_cons.1 hy with rfl | hy
    · exact fits
    · exact h.fits y (remaining_subset v ram hy)

/-- The lists after a victim that had left RAM came back. -/
theorem Holds.restored {d : DiskTier} {k : Counters} {w : Copy} {disk' : List Copy}
    (h : c.Holds ram disk) (absent : Copy.of? i ram = none)
    (chosen : RamTier.victim hash c.ram.capacity ram i = some w) (lists : d.Lists disk')
    (fewer : disk' ⊆ disk) :
  Holds (⟨(c.ram.popDisplaced i).2.restore w, d, k⟩ : Cache hash)
    (RamTier.remaining (some w) ram ++ [w]) disk'
  := by
  obtain ⟨popped, left⟩ := h.popDisplaced absent chosen
  have room := RamTier.room_of_victim ((h.peek i).trans absent) popped
  have copies := RamTier.copies_restore_of_room room
  rw [left] at copies
  apply h.of_subset copies lists _ fewer
  intro y hy
  rcases List.mem_append.1 hy with hy | hy
  · exact remaining_subset _ ram hy
  · obtain rfl := List.mem_singleton.1 hy
    exact (h.victim chosen).1

/-- An identity that is in neither list enters RAM once its victim is on disk. -/
theorem Inserted.holds {answer : Except Fault Unit} (ends : Inserted c x answer c')
    (h : c.Holds ram disk) (fits : x.identity.Fits) (absent : Copy.of? x.identity ram = none)
    (onDisk : Copy.of? x.identity disk = none) {v : Option Copy}
    (chosen : RamTier.victim hash c.ram.capacity ram x.identity = v)
    (countable : c'.disk.nextId < wordBound) :
  (∃ w fault, v = some w ∧ (c.disk.engine.Refuses fault ∨ ¬ w.modified.Storable)
      ∧ answer = .error fault ∧ (c'.Holds (RamTier.remaining v ram ++ [w]) disk
        ∨ c'.Holds (RamTier.remaining v ram ++ [w]) (Copy.spared c.disk.capacity disk)))
    ∨ answer = .ok () ∧ (∀ w, v = some w → w.modified.Storable)
      ∧ c'.Holds (x :: RamTier.remaining v ram) (pushed c.disk.capacity v disk)
  := by
  have fewer : Copy.spared c.disk.capacity disk ⊆ disk := fun _ => Copy.mem_of_mem_spared
  have popped := (h.popDisplaced absent chosen).1
  cases ends with
  | @spare k vacant =>
      obtain rfl := popped.symm.trans vacant
      have entered := h.entered (k := k) fits absent chosen (by simpa using h.lists)
        (List.Subset.refl disk) onDisk
      exact .inr ⟨rfl, by rintro w ⟨⟩, by simpa [pushed] using entered⟩
  | @demoted w _ _ _ taken ends =>
      obtain rfl := popped.symm.trans taken
      obtain ⟨-, fitsW, other⟩ := h.victim chosen
      obtain ⟨fault, -, answer, -⟩ | ⟨-, storable, lists⟩ := ends.lists h.lists fitsW countable
      · cases answer
      rw [Copy.kept_eq_spared other, Copy.moved_some (c := w.settled) (Copy.of?_spared other)]
        at lists
      refine .inr ⟨rfl, by rintro w ⟨⟩; exact storable, ?_⟩
      exact h.entered fits absent chosen lists fewer (Copy.of?_spared onDisk)
  | @failed w fault _ _ taken ends =>
      obtain rfl := popped.symm.trans taken
      obtain ⟨-, fitsW, other⟩ := h.victim chosen
      obtain ⟨fault, reason, answer, lists⟩ | ⟨answer, -⟩ := ends.lists h.lists fitsW countable
      · cases answer
        rw [Copy.kept_eq_spared other] at lists
        refine .inl ⟨w, fault, rfl, reason, rfl, lists.imp ?_ ?_⟩
        · intro lists
          exact h.restored absent chosen lists (List.Subset.refl disk)
        · intro lists
          exact h.restored absent chosen lists fewer
      · cases answer

/-- A saved copy takes the place of any former copy of its identity, unless the engine refuses a
call or the victim cannot be stored; then the identity is gone from RAM at least, and making room
may have cost the first copy on disk. -/
theorem Saved.holds {answer : Except Fault Unit} (ends : Saved c x answer c')
    (h : c.Holds ram disk) (fits : x.identity.Fits) {v : Option Copy}
    (chosen : RamTier.victim hash c.ram.capacity (Copy.others x.identity ram) x.identity = v)
    (countable : c'.disk.nextId < wordBound) :
  let ram := Copy.others x.identity ram
  let cleared := Copy.others x.identity disk
  (∃ fault, c.disk.engine.Refuses fault ∧ answer = .error fault ∧ c'.Holds ram disk)
    ∨ (∃ w fault, v = some w ∧ (c.disk.engine.Refuses fault ∨ ¬ w.modified.Storable)
        ∧ answer = .error fault ∧ (c'.Holds (RamTier.remaining v ram ++ [w]) cleared
          ∨ c'.Holds (RamTier.remaining v ram ++ [w]) (Copy.spared c.disk.capacity cleared)))
    ∨ answer = .ok () ∧ (∀ w, v = some w → w.modified.Storable)
      ∧ c'.Holds (x :: RamTier.remaining v ram) (pushed c.disk.capacity v cleared)
  := by
  have left := h.copies_eq ▸ (RamTier.copies_remove c.ram x.identity).2
  have capacity := RamTier.capacity_remove c.ram x.identity
  cases ends with
  | stopped removed =>
      obtain ⟨fault, refused, answer, lists⟩ | ⟨answer, -⟩ := removed.lists h.lists fits
      · cases answer
        exact .inl ⟨_, refused, rfl,
          h.of_subset left lists (Copy.others_subset _ ram) (List.Subset.refl _)⟩
      · cases answer
  | @inserted _ d k _ _ removed inserts =>
      obtain ⟨fault, -, answer, -⟩ | ⟨-, lists⟩ := removed.lists h.lists fits
      · cases answer
      have cleared := h.of_subset (k := k) left lists (Copy.others_subset _ ram)
        (Copy.others_subset _ disk)
      have ends := inserts.holds cleared fits (Copy.of?_others _ ram) (Copy.of?_others _ disk)
        (capacity ▸ chosen) countable
      simp only [removed.leads.refuses, removed.leads.capacity_eq] at ends
      exact .inr ends

/-- What becomes of the disk list when a copy is taken out in exchange for the victim. -/
private theorem Holds.taken {answer : Except Fault (Option Copy)} {d : DiskTier}
    (h : c.Holds ram disk) (fits : i.Fits) (absent : Copy.of? i ram = none) {v : Option Copy}
    (chosen : RamTier.victim hash c.ram.capacity ram i = v)
    (ends : DiskTier.Taken c.disk i (c.ram.popDisplaced i).1 answer d)
    (countable : d.nextId < wordBound) :
  (∃ fault, (c.disk.engine.Refuses fault ∨ ∃ w, v = some w ∧ ¬ w.modified.Storable)
      ∧ answer = .error fault ∧ d.Lists disk)
    ∨ (Copy.of? i disk = none ∧ answer = .ok none ∧ d.Lists disk)
    ∨ ∃ x, Copy.of? i disk = some x ∧ answer = .ok (some x)
      ∧ (∀ w, v = some w → w.modified.Storable)
      ∧ d.Lists (Copy.others i disk ++ (v.map Copy.settled).toList)
  := by
  have moved : Copy.moved (v.map Copy.settled) (Copy.others i disk)
      = Copy.others i disk ++ (v.map Copy.settled).toList := by
    cases v with
    | none => simp [Copy.moved]
    | some w =>
        apply Copy.moved_some (c := w.settled)
        apply Copy.of?_eq_none_iff.2
        intro z hz
        exact Copy.of?_eq_none_iff.1 (h.victim chosen).2.2 z (Copy.others_subset i disk hz)
  rw [(h.popDisplaced absent chosen).1] at ends
  rw [← moved]
  exact ends.lists h.lists fits (h.other_of_victim chosen absent) countable

/-- A read brings its copy to the front of RAM, in exchange for the victim if the copy was on disk.
If the engine refuses a call or the victim cannot be stored, a victim that had left RAM is back. -/
theorem Read.holds {answer : Except Fault (Octets × Headers)} (ends : Read c i answer c')
    (h : c.Holds ram disk) (fits : i.Fits) {v : Option Copy}
    (chosen : RamTier.victim hash c.ram.capacity ram i = v)
    (countable : c'.disk.nextId < wordBound) :
  (∃ x, Copy.of? i ram = some x ∧ answer = .ok (x.content, x.headers)
      ∧ c'.Holds (x :: Copy.others i ram) disk)
    ∨ Copy.of? i ram = none ∧
      ((∃ fault, (c.disk.engine.Refuses fault ∨ ∃ w, v = some w ∧ ¬ w.modified.Storable)
          ∧ answer = .error fault
          ∧ (c'.Holds ram disk ∨ ∃ w, v = some w ∧ c'.Holds (RamTier.remaining v ram ++ [w]) disk))
        ∨ (Copy.of? i disk = none ∧ answer = .error i.missed ∧ c'.Holds ram disk)
        ∨ ∃ x, Copy.of? i disk = some x ∧ answer = .ok (x.content, x.headers)
          ∧ (∀ w, v = some w → w.modified.Storable)
          ∧ c'.Holds (x :: RamTier.remaining v ram)
            (Copy.others i disk ++ (v.map Copy.settled).toList))
  := by
  obtain ⟨found, stored, -⟩ := h.lists.storedId fits
  have peek := h.peek i
  cases ends with
  | @hit x k inRam =>
      left
      obtain ⟨hx, rfl⟩ := RamTier.peek_eq_some_iff.1 inRam
      have front := RamTier.copies_push_of_mem hx
      rw [h.copies_eq] at hx front
      refine ⟨x, peek.symm.trans inRam, rfl, h.of_subset front h.lists ?_ (List.Subset.refl disk)⟩
      intro y hy
      rcases List.mem_cons.1 hy with rfl | hy
      · exact hx
      · exact Copy.others_subset _ ram hy
  | refused notInRam refused =>
      refine .inr ⟨peek.symm.trans notInRam, .inl ⟨_, .inl refused, rfl, .inl ?_⟩⟩
      exact ⟨h.copies_eq, h.lists.asking _, h.apart, h.fits⟩
  | unreadable _ unreadable =>
      rw [stored] at unreadable
      cases unreadable
  | missed notInRam absent =>
      have none := (h.lists.storedId_eq_none_iff fits).1 absent
      refine .inr ⟨peek.symm.trans notInRam, .inr (.inl ⟨none, rfl, ?_⟩)⟩
      exact ⟨h.copies_eq, h.lists.asking _, h.apart, h.fits⟩
  | @failed _ fault d k notInRam _ ends =>
      have absent := peek.symm.trans notInRam
      obtain ⟨popped, left⟩ := h.popDisplaced absent chosen
      obtain ⟨fault, reason, answer, lists⟩ | ⟨-, answer, -⟩ | ⟨_, -, answer, -⟩ :=
        h.taken fits absent chosen ends countable
      · cases answer
        refine .inr ⟨absent, .inl ⟨fault, reason, rfl, ?_⟩⟩
        rw [popped]
        cases v with
        | none => exact .inl (h.of_subset left lists (List.Subset.refl _) (List.Subset.refl _))
        | some w => exact .inr ⟨w, rfl, h.restored absent chosen lists (List.Subset.refl disk)⟩
      · cases answer
      · cases answer
  | incomplete _ present ends =>
      have missing := ends.of?_eq_none h.lists fits
      cases present.symm.trans ((h.lists.storedId_eq_none_iff fits).2 missing)
  | @promoted _ x d k notInRam _ ends =>
      have absent := peek.symm.trans notInRam
      obtain ⟨fault, -, answer, -⟩ | ⟨-, answer, -⟩ | ⟨y, onDisk, answer, storable, lists⟩ :=
        h.taken fits absent chosen ends countable
      · cases answer
      · cases answer
      · cases answer
        obtain ⟨-, rfl⟩ := Copy.mem_of_of?_eq_some onDisk
        refine .inr ⟨absent, .inr (.inr ⟨x, onDisk, rfl, storable, ?_⟩)⟩
        exact h.entered fits absent chosen lists (Copy.others_subset _ disk)
          (Copy.of?_others _ disk)

/-! ### Any request -/

/-- Whatever is asked, and however it ends, the cache holds two lists afterwards.  That on disk does
not outgrow its bound if there is one. -/
theorem Holds.serve {r : Request} (h : c.Holds ram disk) (fits : r.identity.Fits)
    (countable : (c.serve r).2.disk.nextId < wordBound) :
  ∃ ram' disk', (c.serve r).2.Holds ram' disk'
    ∧ (0 < c.disk.capacity → disk'.length ≤ max disk.length c.disk.capacity)
  := by
  have peek (peeks : r.Peeks) :
      ∃ ram' disk', (c.serve r).2.Holds ram' disk'
        ∧ (0 < c.disk.capacity → disk'.length ≤ max disk.length c.disk.capacity) := by
    obtain ⟨answer, looks⟩ := looks_of_peeks peeks c
    exact ⟨ram, disk, looks.holds h, fun _ => Nat.le_max_left ..⟩
  cases r with
  | save x =>
      rw [Cache.serve, Request.act, Action.perform_map] at countable ⊢
      have fewer := Copy.length_others_le x.identity disk
      have spared := Copy.length_spared_le c.disk.capacity (Copy.others x.identity disk)
      obtain ⟨_, -, -, h⟩ | ⟨_, _, -, -, -, h | h⟩ | ⟨-, -, h⟩ :=
        (saved x c).holds h fits rfl countable
      · exact ⟨_, _, h, fun _ => by omega⟩
      · exact ⟨_, _, h, fun _ => by omega⟩
      · exact ⟨_, _, h, fun _ => by omega⟩
      · refine ⟨_, _, h, ?_⟩
        intro room
        have := length_pushed_le room (RamTier.victim hash c.ram.capacity
          (Copy.others x.identity ram) x.identity) (Copy.others x.identity disk)
        omega
  | read i =>
      rw [Cache.serve, Request.act, Action.perform_map] at countable ⊢
      obtain ⟨_, -, -, h⟩ | ⟨-, ⟨_, -, -, h | ⟨_, -, h⟩⟩ | ⟨-, -, h⟩ | ⟨x, found, -, -, h'⟩⟩ :=
        (reads i c).holds h fits rfl countable
      · exact ⟨_, _, h, fun _ => Nat.le_max_left ..⟩
      · exact ⟨_, _, h, fun _ => Nat.le_max_left ..⟩
      · exact ⟨_, _, h, fun _ => Nat.le_max_left ..⟩
      · exact ⟨_, _, h, fun _ => Nat.le_max_left ..⟩
      · obtain ⟨hx, rfl⟩ := Copy.mem_of_of?_eq_some found
        have shorter := Copy.length_others_lt hx
        have one := Option.length_toList_le
          (o := (RamTier.victim hash c.ram.capacity ram x.identity).map Copy.settled)
        refine ⟨_, _, h', fun _ => ?_⟩
        rw [List.length_append]
        omega
  | delete i =>
      rw [Cache.serve, Request.act, Action.perform_map]
      have fewer := Copy.length_others_le i disk
      obtain ⟨_, -, -, h⟩ | ⟨-, h⟩ := (deleted i c).holds h fits
      · exact ⟨_, _, h, fun _ => Nat.le_max_left ..⟩
      · exact ⟨_, _, h, fun _ => by omega⟩
  | modified i => exact peek trivial
  | headers i => exact peek trivial
  | header i name => exact peek trivial
  | place i => exact peek trivial

/-- Whatever is asked, the cache holds two lists, as long as insertion ids are words.  That on disk
outgrows neither its bound nor the length that it had. -/
theorem Holds.after_le {requests : List Request} {length : Nat} (h : c.Holds ram disk)
    (fits : ∀ r ∈ requests, r.identity.Fits)
    (countable : (c.after requests).disk.nextId < wordBound) (room : 0 < c.disk.capacity)
    (bounded : disk.length ≤ max length c.disk.capacity) :
  ∃ ram' disk', (c.after requests).Holds ram' disk' ∧ disk'.length ≤ max length c.disk.capacity
  := by
  induction requests generalizing c ram disk with
  | nil => exact ⟨ram, disk, h, bounded⟩
  | cons r requests ih =>
      obtain ⟨fitsR, fits⟩ := List.forall_mem_cons.1 fits
      have step := (leads_serve c r).disk
      -- Insertion ids never decrease: the last one bounds that after the first request.
      have rest := (leads_after (c.serve r).2 requests).disk
      obtain ⟨ram', disk', h', bounded'⟩ :=
        h.serve fitsR (Nat.lt_of_le_of_lt rest.nextId_le countable)
      have bounded' := Nat.le_trans (bounded' room) (Nat.max_le.2 ⟨bounded, Nat.le_max_right ..⟩)
      rw [← step.capacity_eq] at room bounded' ⊢
      exact ih h' fits countable room bounded'

/-- A list on disk that is within its bound stays there. -/
theorem Holds.after {requests : List Request} (h : c.Holds ram disk)
    (fits : ∀ r ∈ requests, r.identity.Fits)
    (countable : (c.after requests).disk.nextId < wordBound) (room : 0 < c.disk.capacity)
    (bounded : disk.length ≤ c.disk.capacity) :
  ∃ ram' disk', (c.after requests).Holds ram' disk' ∧ disk'.length ≤ c.disk.capacity
  := by
  rw [← Nat.max_self c.disk.capacity] at bounded
  have last := h.after_le fits countable room bounded
  rwa [Nat.max_self] at last

/-- A cache that is opened holds what is on disk. -/
theorem holds_of_open? {bounds : Bounds} {e : Engine} {q : List (Nat × Copy)} {nextId : Nat}
    (queue : e.records.Queue q nextId) (opens : open? hash bounds e = .ok c) :
  c.Holds [] (q.map Prod.snd) ∧ c.ram.capacity = bounds.ram ∧ 0 < bounds.disk
    ∧ ∃ calls, c.disk = ⟨e.asking calls, bounds.disk, q.length, nextId⟩
  := by
  obtain ⟨ramRoom, diskRoom, empty, tier⟩ := opened opens
  obtain ⟨lists, calls, opened⟩ := DiskTier.lists_of_open? queue (Nat.ne_of_gt diskRoom) tier
  refine ⟨⟨copies_opened opens, lists, by rintro x ⟨⟩, by rintro x ⟨⟩⟩, ?_, diskRoom, calls, opened⟩
  rw [empty]
  exact Nat.max_eq_right ramRoom

end Cache

end SiteCache
