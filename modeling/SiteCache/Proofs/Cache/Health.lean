import SiteCache.Proofs.Cache.Failure
import SiteCache.Proofs.Cache.Flush
import SiteCache.Proofs.Cache.Policy

/-!
# What can go wrong

On an engine that refuses nothing, a step of a session whose records are its own fails for three
reasons only (`Session.excused_of_error`): a copy is looked for that neither tier has, a cache is to
be opened without room, or a copy would have to leave RAM whose time has no place in a record.  Such
a copy was accepted by a save before; it goes back to RAM, where it stands in the way of other
identities until it is deleted or saved anew.
-/

namespace SiteCache

variable {hash : Identity → UInt64}

namespace Cache

variable {c c' : Cache hash} {ram disk : List Copy} {x : Copy} {i : Identity} {fault : Fault}

namespace Request

/-- The request looks for a copy, and misses it if there is none. -/
def Seeks : Request → Prop
  | .read _ => True
  | .modified _ => True
  | .headers _ => True
  | .header _ _ => True
  | _ => False

/-- The request brings a copy to RAM, so that another one may have to leave. -/
def Moves : Request → Prop
  | .save _ => True
  | .read _ => True
  | _ => False

end Request

/-- One of these copies, of another identity, has a time that cannot be stored, and the fault says
so. -/
def Blames (ram : List Copy) (i : Identity) (fault : Fault) : Prop :=
  ∃ w ∈ ram, w.identity ≠ i ∧ ¬ w.modified.Storable ∧ .storage (.timeRange w.modified) = fault

/-! ### Requests -/

/-- A save stops only if the copy that leaves RAM cannot be stored. -/
theorem Saved.blames (ends : Saved c x (.error fault) c') (h : c.Holds ram disk)
    (healthy : ∀ fault, ¬ c.disk.engine.Refuses fault) (fits : x.identity.Fits) :
  Blames ram x.identity fault
  := by
  obtain ⟨v, victim, unstorable, same, -⟩ := ends.holds_of_allowed h (healthy fault) fits
  obtain ⟨inRam, other⟩ := Copy.mem_others.1 (RamTier.mem_of_victim victim)
  exact ⟨v, inRam, other, unstorable, same⟩

/-- A read stops only there or if neither tier has a copy, and always finds a copy in RAM. -/
theorem Read.blames (ends : Read c i (.error fault) c') (h : c.Holds ram disk)
    (healthy : ∀ fault, ¬ c.disk.engine.Refuses fault) (fits : i.Fits) :
  Copy.of? i ram = none ∧ (fault = i.missed ∧ Copy.of? i disk = none ∨ Blames ram i fault)
  := by
  obtain ⟨found, stored, -⟩ := h.lists.storedId fits
  have peek := h.peek i
  cases ends with
  | refused _ refused => exact absurd refused (healthy _)
  | unreadable _ unreadable =>
      rw [stored] at unreadable
      cases unreadable
  | missed notInRam absent =>
      have onDisk := (h.lists.storedId_eq_none_iff fits).1 absent
      exact ⟨peek.symm.trans notInRam, .inl ⟨rfl, onDisk⟩⟩
  | incomplete notInRam _ ends =>
      have onDisk := ends.of?_eq_none h.lists fits
      exact ⟨peek.symm.trans notInRam, .inl ⟨rfl, onDisk⟩⟩
  | failed notInRam _ ends =>
      have inRam (v : Copy) (victim : (c.ram.popDisplaced i).1 = some v) : v ∈ ram :=
        h.copies_eq ▸ RamTier.mem_copies_of_popDisplaced victim
      have fitsV (v : Copy) (victim : (c.ram.popDisplaced i).1 = some v) := h.fits v (inRam v victim)
      obtain ⟨v, victim, unstorable⟩ := ends.fault_of_allowed h.lists (healthy fault) fits fitsV
      have absent := peek.symm.trans notInRam
      refine ⟨absent, .inr ⟨v, inRam v victim, ?_, unstorable⟩⟩
      exact Copy.of?_eq_none_iff.1 absent v (inRam v victim)

/-- A read finds any copy, unless the copy is on disk and another one cannot leave RAM for it. -/
theorem Holds.reads_of_mem (h : c.Holds ram disk)
    (healthy : ∀ fault, ¬ c.disk.engine.Refuses fault) (hx : x ∈ ram ∨ x ∈ disk) :
  ((read x.identity).perform c).1 = .ok (x.content, x.headers)
    ∨ x ∈ disk ∧ ∃ w ∈ ram, w.identity ≠ x.identity ∧ ¬ w.modified.Storable
      ∧ ((read x.identity).perform c).1 = .error (.storage (.timeRange w.modified))
  := by
  have fits := h.fits_of_mem hx
  have ends := reads x.identity c
  cases answer : ((read x.identity).perform c).1 with
  | ok found =>
      rw [answer] at ends
      have same := ends.copy?_eq
      rw [h.copy?_eq fits, h.find_eq hx] at same
      exact .inl (congrArg Except.ok (Option.some.inj same).symm)
  | error fault =>
      rw [answer] at ends
      obtain ⟨notInRam, blames⟩ := ends.blames h healthy fits
      have absent := Copy.of?_eq_none_iff.1 notInRam
      have onDisk : x ∈ disk := hx.resolve_left fun inRam => absent x inRam rfl
      obtain ⟨-, missing⟩ | ⟨w, inRam, other, unstorable, rfl⟩ := blames
      · exact absurd rfl (Copy.of?_eq_none_iff.1 missing x onDisk)
      · exact .inr ⟨onDisk, w, inRam, other, unstorable, rfl⟩

/-- A deletion does not stop. -/
theorem Holds.delete_eq_ok (h : c.Holds ram disk)
    (healthy : ∀ fault, ¬ c.disk.engine.Refuses fault) (fits : i.Fits) :
  ((delete i).perform c).1 = .ok ()
  := by
  obtain ⟨fault, refused, -⟩ | ⟨answer, -⟩ := (deleted i c).holds h fits
  · exact absurd refused (healthy fault)
  · exact answer

/-- A peek stops only if neither tier has a copy, and not at all if it asks for the place. -/
theorem Holds.fault_of_peek {r : Request} (h : c.Holds ram disk)
    (healthy : ∀ fault, ¬ c.disk.engine.Refuses fault) (fits : r.identity.Fits) (peeks : r.Peeks)
    (fails : (c.serve r).1 = .error fault) :
  r.Seeks ∧ fault = r.identity.missed
  := by
  have told {α : Type} {i : Identity} {f : Copy → α}
      (stops : Policy.told ⟨ram, disk⟩ i f = .error fault) : fault = i.missed := by
    rw [Policy.told] at stops
    cases found : Policy.find ⟨ram, disk⟩ i with
    | none =>
        rw [found] at stops
        exact (Except.error.inj stops).symm
    | some y =>
        rw [found] at stops
        cases stops
  have looks := h.looks (p := ⟨ram, disk⟩) fits peeks ⟨c.ram.capacity, c.disk.capacity⟩
  rw [Cache.serve, looks.answer_eq healthy] at fails
  cases r with
  | save => cases peeks
  | read => cases peeks
  | delete => cases peeks
  | modified i => exact ⟨trivial, told fails⟩
  | headers i => exact ⟨trivial, told fails⟩
  | header i name => exact ⟨trivial, told fails⟩
  | place i => cases fails

/-- A request fails only if it looks for a copy that neither tier has, or moves a copy to RAM for
which another one has to leave that cannot be stored. -/
theorem Holds.fault_of_serve {r : Request} (h : c.Holds ram disk)
    (healthy : ∀ fault, ¬ c.disk.engine.Refuses fault) (fits : r.identity.Fits)
    (fails : (c.serve r).1 = .error fault) :
  r.Seeks ∧ fault = r.identity.missed ∨ r.Moves ∧ Blames ram r.identity fault
  := by
  have failed {α : Type} {answer : Except Fault α} {f : α → Reply}
      (fails : answer.map f = .error fault) : answer = .error fault := by
    cases answer with
    | error stopped => exact congrArg _ (Except.error.inj fails)
    | ok y => cases fails
  cases r with
  | save x =>
      rw [Cache.serve, Request.act, Action.perform_map] at fails
      have ends := saved x c
      rw [failed fails] at ends
      exact .inr ⟨trivial, ends.blames h healthy fits⟩
  | read i =>
      rw [Cache.serve, Request.act, Action.perform_map] at fails
      have ends := reads i c
      rw [failed fails] at ends
      exact (ends.blames h healthy fits).2.imp (fun missed => ⟨trivial, missed.1⟩) (⟨trivial, ·⟩)
  | delete i =>
      have answer := h.delete_eq_ok (i := i) healthy fits
      rw [Cache.serve, Request.act, Action.perform_map, answer] at fails
      cases fails
  | modified i => exact .inl (h.fault_of_peek healthy fits trivial fails)
  | headers i => exact .inl (h.fault_of_peek healthy fits trivial fails)
  | header i name => exact .inl (h.fault_of_peek healthy fits trivial fails)
  | place i => exact .inl (h.fault_of_peek healthy fits trivial fails)

/-- Closing fails only if a copy in RAM cannot be stored. -/
theorem Holds.fault_of_close (h : c.Holds ram disk)
    (healthy : ∀ fault, ¬ c.disk.engine.Refuses fault) (room : 0 < c.disk.capacity)
    (counted : c.disk.nextId ≤ c.disk.engine.asked.length)
    (few : c.close.2.asked.length < wordBound) (fails : c.close.1 = .error fault) :
  ∃ w ∈ ram, ¬ w.modified.Storable ∧ .storage (.timeRange w.modified) = fault
  := by
  obtain ⟨firstFault, calls, flushes, closed, answer | ⟨fault, refused, -⟩⟩ := closed c
  · have inRam (y : Copy) (hy : y ∈ c.ram.drain) : y ∈ ram :=
      h.copies_eq ▸ List.mem_reverse.1 hy
    have stored : c.disk.Stored disk.length := ⟨⟨disk, h.lists, Nat.le_max_left ..⟩, counted⟩
    rw [closed, Engine.asking, List.length_append] at few
    cases firstFault with
    | none =>
        rw [answer] at fails
        cases fails
    | some stopped =>
        rw [answer] at fails
        obtain rfl := Except.error.inj fails
        obtain ⟨n, w, next, stops⟩ := save_of_flush flushes
        have hw := inRam w (List.mem_of_getElem? next)
        have before := asked_flushed_take_le n c.ram.drain c.disk
        have leads := leads_flushed (c.ram.drain.take n) c.disk
        have ends := DiskTier.saved w (flushed (c.ram.drain.take n) c.disk)
        obtain ⟨copies, lists, -⟩ : ∃ copies,
            (flushed (c.ram.drain.take n) c.disk).Lists copies ∧ _ := by
          apply (stored_flushed stored room ?_ (by omega)).listed
          intro y hy
          exact h.fits y (inRam y (List.mem_of_mem_take hy))
        rw [stops] at ends
        have allowed := mt leads.refuses.1 (healthy stopped)
        obtain ⟨unstorable, same, -⟩ := ends.lists_of_allowed lists allowed (h.fits w hw)
        exact ⟨w, hw, unstorable, same⟩
  · exact absurd refused (healthy fault)

/-! ### What comes to RAM -/

/-- Where the victim is back, nothing is in RAM that was not there. -/
private theorem mem_of_returned {w y : Copy} {v : Option Copy} {copies : List Copy}
    (inRam : copies ⊆ ram) (victim : w ∈ copies) (hy : y ∈ RamTier.remaining v copies ++ [w]) :
  y ∈ ram
  := by
  rcases List.mem_append.1 hy with hy | hy
  · exact inRam (remaining_subset v copies hy)
  · obtain rfl := List.mem_singleton.1 hy
    exact inRam victim

/-- A save brings nothing else to RAM. -/
theorem Saved.mem_ram {answer : Except Fault Unit} {y : Copy} (ends : Saved c x answer c')
    (h : c.Holds ram disk) (fits : x.identity.Fits) (countable : c'.disk.nextId < wordBound)
    (hy : y ∈ c'.ram.copies) :
  y ∈ ram ∨ y = x
  := by
  have others := Copy.others_subset x.identity ram
  obtain ⟨_, -, -, h'⟩ | ⟨w, _, chosen, -, -, h' | h'⟩ | ⟨-, -, h'⟩ :=
    ends.holds h fits rfl countable
  · rw [h'.copies_eq] at hy
    exact .inl (others hy)
  · rw [h'.copies_eq] at hy
    exact .inl (mem_of_returned others (RamTier.mem_of_victim chosen) hy)
  · rw [h'.copies_eq] at hy
    exact .inl (mem_of_returned others (RamTier.mem_of_victim chosen) hy)
  · rw [h'.copies_eq] at hy
    rcases List.mem_cons.1 hy with rfl | hy
    · exact .inr rfl
    · exact .inl (others (remaining_subset _ _ hy))

/-- What a read brings to RAM was on disk, where it could be stored. -/
theorem Read.mem_ram {answer : Except Fault (Octets × Headers)} {y : Copy}
    (ends : Read c i answer c') (h : c.Holds ram disk) (fits : i.Fits)
    (countable : c'.disk.nextId < wordBound) (hy : y ∈ c'.ram.copies) :
  y ∈ ram ∨ y.modified.Storable
  := by
  obtain ⟨x, found, -, h'⟩ | ⟨-, ⟨_, -, -, h' | ⟨w, chosen, h'⟩⟩ | ⟨-, -, h'⟩
      | ⟨x, found, -, -, h'⟩⟩ := ends.holds h fits rfl countable
  · rw [h'.copies_eq] at hy
    rcases List.mem_cons.1 hy with rfl | hy
    · exact .inl (Copy.mem_of_of?_eq_some found).1
    · exact .inl (Copy.others_subset i ram hy)
  · exact .inl (h'.copies_eq ▸ hy)
  · rw [h'.copies_eq] at hy
    exact .inl (mem_of_returned (List.Subset.refl ram) (RamTier.mem_of_victim chosen) hy)
  · exact .inl (h'.copies_eq ▸ hy)
  · rw [h'.copies_eq] at hy
    rcases List.mem_cons.1 hy with rfl | hy
    · exact .inr (h.lists.storable (Copy.mem_of_of?_eq_some found).1)
    · exact .inl (remaining_subset _ ram hy)

theorem Deleted.mem_ram {answer : Except Fault Unit} {y : Copy} (ends : Deleted c i answer c')
    (h : c.Holds ram disk) (fits : i.Fits) (hy : y ∈ c'.ram.copies) :
  y ∈ ram
  := by
  obtain ⟨_, -, -, h'⟩ | ⟨-, h'⟩ := ends.holds h fits
  · rw [h'.copies_eq] at hy
    exact Copy.others_subset i ram hy
  · rw [h'.copies_eq] at hy
    exact Copy.others_subset i ram hy

/-- A copy that is in RAM after a request was there before, can be stored or is saved by it. -/
theorem Holds.mem_ram_serve {r : Request} {y : Copy} (h : c.Holds ram disk) (fits : r.identity.Fits)
    (countable : (c.serve r).2.disk.nextId < wordBound) (hy : y ∈ (c.serve r).2.ram.copies) :
  y ∈ ram ∨ y.modified.Storable ∨ r = .save y
  := by
  have peek (peeks : r.Peeks) : y ∈ ram ∨ y.modified.Storable ∨ r = .save y := by
    obtain ⟨answer, looks⟩ := looks_of_peeks peeks c
    exact .inl ((looks.holds h).copies_eq ▸ hy)
  cases r with
  | save x =>
      rw [Cache.serve, Request.act, Action.perform_map] at countable hy
      obtain inRam | rfl := (saved x c).mem_ram h fits countable hy
      · exact .inl inRam
      · exact .inr (.inr rfl)
  | read i =>
      rw [Cache.serve, Request.act, Action.perform_map] at countable hy
      exact ((reads i c).mem_ram h fits countable hy).imp_right .inl
  | delete i =>
      rw [Cache.serve, Request.act, Action.perform_map] at hy
      exact .inl ((deleted i c).mem_ram h fits hy)
  | modified i => exact peek trivial
  | headers i => exact peek trivial
  | header i name => exact peek trivial
  | place i => exact peek trivial

/-- On records with a queue, a cache cannot be opened only if it would have no room. -/
theorem check_of_open? {bounds : Bounds} {e e' : Engine} {q : List (Nat × Copy)} {nextId : Nat}
    (queue : e.records.Queue q nextId) (healthy : ∀ fault, ¬ e.Refuses fault)
    (fails : open? hash bounds e = .error (fault, e')) :
  bounds.check = .error fault
  := by
  rw [open?] at fails
  cases check : bounds.check with
  | error stopped =>
      rw [check] at fails
      obtain ⟨rfl, -⟩ := Prod.mk.inj (Except.error.inj fails)
      rfl
  | ok =>
      have room := Nat.ne_of_gt (check_eq_ok_iff.1 check).2
      obtain ⟨calls, opens⟩ := DiskTier.open?_of_queue queue room healthy
      rw [check, opens] at fails
      cases fails

end Cache

namespace Session

open Cache (Request)

variable {s : Session hash} {past : List Step} {x : Step} {fault : Fault}

/-- The faults that a step may come to after these on an engine that refuses nothing: a miss, a copy
in RAM whose time cannot be stored, and a cache without room. -/
inductive Excused (past : List Step) : Step → Fault → Prop where
  | missed {r : Request} (seeks : r.Seeks) : Excused past (.ask r) r.identity.missed
  | displaced {r : Request} {w : Copy} (moves : r.Moves) (saved : .ask (.save w) ∈ past)
    (other : w.identity ≠ r.identity) (unstorable : ¬ w.modified.Storable) :
    Excused past (.ask r) (.storage (.timeRange w.modified))
  | flushed {w : Copy} (saved : .ask (.save w) ∈ past) (unstorable : ¬ w.modified.Storable) :
    Excused past .close (.storage (.timeRange w.modified))
  | unbounded {bounds : Bounds} {fault : Fault} (check : bounds.check = .error fault) :
    Excused past (.reopen bounds) fault

/-- The session is sound, its engine refuses nothing, and an open cache has room on disk and nothing
in RAM that cannot be stored but what was saved in the past. -/
structure Healthy (past : List Step) (s : Session hash) : Prop where
  sound : s.Sound
  allowed : ∀ fault, ¬ s.engine.Refuses fault
  room : ∀ c, s = .opened c → 0 < c.disk.capacity
  origin : ∀ c, s = .opened c →
    ∀ w ∈ c.ram.copies, w.modified.Storable ∨ .ask (.save w) ∈ past

/-- The refusals of an engine are always the same. -/
theorem refuses_step (s : Session hash) (x : Step) :
  (s.step x).2.engine.refuses = s.engine.refuses
  := by
  cases s with
  | opened c =>
      cases x with
      | ask r => exact (Cache.leads_serve c r).disk.refuses_eq
      | close =>
          obtain ⟨_, calls, -, closed, -⟩ := Cache.closed c
          simp only [step, engine, closed]
          exact (Cache.leads_flushed c.ram.drain c.disk).refuses_eq
      | drop => rfl
      | reopen bounds => rfl
  | closed e =>
      cases x with
      | ask r => rfl
      | close => rfl
      | drop => rfl
      | reopen bounds =>
          simp only [step]
          cases opens : Cache.open? hash bounds e with
          | ok c =>
              obtain ⟨calls, same⟩ := Cache.engine_opened opens
              simp only [engine, same, Engine.asking]
          | error failure =>
              obtain ⟨calls, same⟩ := Cache.engine_unopened opens
              simp only [engine, same, Engine.asking]

theorem refuses_after (s : Session hash) (steps : List Step) :
  (s.after steps).engine.refuses = s.engine.refuses
  := by
  induction steps generalizing s with
  | nil => rfl
  | cons x steps ih => exact (ih (s.step x).2).trans (refuses_step s x)

/-- A step fails only for an excuse. -/
theorem Healthy.excused (h : s.Healthy past) (fits : x.Fits)
    (few : (s.step x).2.engine.asked.length < wordBound)
    (fails : (s.step x).1 = some (.error fault)) :
  Excused past x fault
  := by
  cases s with
  | opened c =>
      obtain ⟨ram, disk, holds, counted⟩ := h.sound
      have saved (w : Copy) (hw : w ∈ ram) (unstorable : ¬ w.modified.Storable) :
          .ask (.save w) ∈ past :=
        (h.origin c rfl w (holds.copies_eq ▸ hw)).resolve_left unstorable
      cases x with
      | ask r =>
          obtain ⟨seeks, rfl⟩ | ⟨moves, w, hw, other, unstorable, rfl⟩ :=
            holds.fault_of_serve h.allowed fits (Option.some.inj fails)
          · exact .missed seeks
          · exact .displaced moves (saved w hw unstorable) other unstorable
      | close =>
          have stops : c.close.1 = .error fault := by
            cases answer : c.close.1 with
            | ok done =>
                simp only [step, answer] at fails
                cases Option.some.inj fails
            | error stopped =>
                simp only [step, answer] at fails
                obtain rfl := Except.error.inj (Option.some.inj fails)
                rfl
          obtain ⟨w, hw, unstorable, rfl⟩ :=
            holds.fault_of_close h.allowed (h.room c rfl) counted few stops
          exact .flushed (saved w hw unstorable) unstorable
      | drop => cases Option.some.inj fails
      | reopen bounds => cases fails
  | closed e =>
      cases x with
      | ask r => cases fails
      | close => cases fails
      | drop => cases fails
      | reopen bounds =>
          obtain ⟨q, nextId, queue, -⟩ := h.sound
          cases opens : Cache.open? hash bounds e with
          | ok c =>
              simp only [step, opens] at fails
              cases Option.some.inj fails
          | error failure =>
              obtain ⟨stopped, e'⟩ := failure
              simp only [step, opens] at fails
              obtain rfl := Except.error.inj (Option.some.inj fails)
              exact .unbounded (Cache.check_of_open? queue h.allowed opens)

/-- A cache is open after a step if it has served a request, was open before or has just been
opened. -/
theorem of_step_eq_opened {c' : Cache hash} (reached : (s.step x).2 = .opened c') :
  (∃ c r, s = .opened c ∧ x = .ask r ∧ c' = (c.serve r).2) ∨ s = .opened c'
    ∨ ∃ e bounds, s = .closed e ∧ Cache.open? hash bounds e = .ok c'
  := by
  cases s with
  | opened c =>
      cases x with
      | ask r => exact .inl ⟨c, r, rfl, rfl, (Session.opened.inj reached).symm⟩
      | close => cases reached
      | drop => cases reached
      | reopen bounds => exact .inr (.inl reached)
  | closed e =>
      cases x with
      | ask r => cases reached
      | close => cases reached
      | drop => cases reached
      | reopen bounds =>
          right
          right
          refine ⟨e, bounds, rfl, ?_⟩
          cases opens : Cache.open? hash bounds e with
          | ok c =>
              simp only [step, opens] at reached
              rw [Session.opened.inj reached]
          | error failure =>
              simp only [step, opens] at reached
              cases reached

/-- An open cache has room on disk. -/
def Roomy (s : Session hash) : Prop := ∀ c, s = .opened c → 0 < c.disk.capacity

theorem Roomy.step (h : s.Roomy) (x : Step) :
  (s.step x).2.Roomy
  := by
  intro c' reached
  obtain ⟨c, r, rfl, rfl, rfl⟩ | rfl | ⟨e, bounds, rfl, opens⟩ := of_step_eq_opened reached
  · rw [(Cache.leads_serve c r).disk.capacity_eq]
    exact h c rfl
  · exact h c' rfl
  · obtain ⟨-, room, -, tier⟩ := Cache.opened opens
    obtain ⟨calls, ⟨_, _, -, ended⟩ | ⟨fault, -, ended⟩⟩ :=
      DiskTier.opened e (Nat.ne_of_gt room)
    · rw [tier] at ended
      rwa [Except.ok.inj ended]
    · rw [tier] at ended
      cases ended

theorem Roomy.after (h : s.Roomy) (steps : List Step) :
  (s.after steps).Roomy
  := by
  induction steps generalizing s with
  | nil => exact h
  | cons x steps ih => exact ih (h.step x)

theorem Healthy.step (h : s.Healthy past) (fits : x.Fits)
    (few : (s.step x).2.engine.asked.length < wordBound) :
  (s.step x).2.Healthy (past ++ [x])
  := by
  have sound := h.sound.step fits few
  refine ⟨sound, ?_, Roomy.step h.room x, ?_⟩
  · intro fault refused
    rw [Engine.Refuses, refuses_step] at refused
    exact h.allowed fault refused
  · intro c' reached w hw
    obtain ⟨c, r, rfl, rfl, rfl⟩ | rfl | ⟨e, bounds, rfl, opens⟩ := of_step_eq_opened reached
    · obtain ⟨ram, disk, holds, -⟩ := h.sound
      obtain ⟨_, _, later, -⟩ := sound
      obtain inRam | storable | rfl := holds.mem_ram_serve fits later.lists.countable hw
      · exact (h.origin c rfl w (holds.copies_eq ▸ inRam)).imp_right (List.mem_append_left _)
      · exact .inl storable
      · exact .inr (by simp)
    · exact (h.origin c' rfl w hw).imp_right (List.mem_append_left _)
    · rw [Cache.copies_opened opens] at hw
      cases hw

theorem Healthy.after {steps : List Step} (h : s.Healthy past) (fits : ∀ x ∈ steps, x.Fits)
    (few : (s.after steps).engine.asked.length < wordBound) :
  (s.after steps).Healthy (past ++ steps)
  := by
  induction steps generalizing s past with
  | nil =>
      rw [List.append_nil]
      exact h
  | cons x steps ih =>
      obtain ⟨fitsX, fits⟩ := List.forall_mem_cons.1 fits
      have later := asked_le_after (s.step x).2 steps
      rw [List.append_cons]
      exact ih (h.step fitsX (Nat.lt_of_le_of_lt later few)) fits few

/-- On an engine that is empty at first and refuses nothing, no step of any sessions fails without
an excuse: deletions never fail, reads and peeks fail with a miss, and saves, reads and closing fail
for a copy of another identity whose time cannot be stored, although a save before accepted it. -/
theorem excused_of_error {e : Engine} (empty : e.records = .empty)
    (healthy : ∀ calls, e.refuses calls = none) {steps : List Step} (fits : ∀ x ∈ steps, x.Fits)
    (fitsX : x.Fits)
    (few : (((Session.closed e : Session hash).after steps).step x).2.engine.asked.length
      < wordBound)
    (fails : (((Session.closed e : Session hash).after steps).step x).1 = some (.error fault)) :
  Excused steps x fault
  := by
  have start : (Session.closed e : Session hash).Healthy [] := by
    refine ⟨⟨[], 0, empty ▸ Records.Queue.of_empty, Nat.zero_le _⟩, Engine.not_refuses healthy,
      ?_, ?_⟩
    · intro c reached
      cases reached
    · intro c reached
      cases reached
  have before := Nat.lt_of_le_of_lt
    (asked_le_step ((Session.closed e : Session hash).after steps) x) few
  exact (start.after fits before).excused fitsX few fails

/-- A copy from the first second of the year 3000. -/
def distant : Copy := ⟨⟨"", "a"⟩, [1], .ofNanoseconds 32503680000000000000, .empty⟩

/-- The distant copy is saved where RAM has room for one. -/
def distantSaved : List Step := [.reopen ⟨1, 1⟩, .ask (.save distant)]

/-- The next save fails for it. -/
theorem excused_of_error_distant :
  let s : Session fun _ => 0 := (Session.closed {}).after distantSaved
  let x : Step := .ask (.save (.ofOctet "b" 2))
  let fault : Fault := .storage (.timeRange distant.modified)
  (s.step x).1 = some (.error fault) ∧ Excused distantSaved x fault
  := by
  intro s x fault
  have healthy (calls : List Engine.Call) : ({} : Engine).refuses calls = none := rfl
  have fails : (s.step x).1 = some (.error fault) := rfl
  exact ⟨fails, excused_of_error rfl healthy (by decide) (by decide) (by decide) fails⟩

/-- The save of the distant copy succeeds, and makes the next save fail, of another identity. -/
theorem not_done_of_distant :
  let s : Session fun _ => 0 := (Session.closed {}).after [.reopen ⟨1, 1⟩]
  let saved := s.step (.ask (.save distant))
  (∀ calls, s.engine.refuses calls = none) ∧ saved.1 = some (.ok .done)
    ∧ (Copy.ofOctet "b" 2).identity ≠ distant.identity
    ∧ (saved.2.step (.ask (.save (.ofOctet "b" 2)))).1
      = some (.error (.storage (.timeRange distant.modified)))
  := ⟨fun _ => rfl, rfl, by decide, rfl⟩

end Session

end SiteCache
