import SiteCache.Proofs.Cache.Listing
import SiteCache.Proofs.Tier.Crash

/-!
# The cache at a crash

Every request to a cache, and the flush of its RAM tier, may be cut short at any call of the engine.
Where the cache holds two lists, the records that are left have evolved from those before the
request and evolve into those after it.
-/

namespace SiteCache

open HasEngine SiteCache.Action

variable {hash : Identity → UInt64} {α : Type}

instance : HasEngine (Cache hash) where
  engine c := c.disk.engine
  withEngine c e := { c with disk := { c.disk with engine := e } }
  engine_withEngine _ _ := rfl

namespace Cache

theorem bears_disk :
  Bears Cache.disk fun (c : Cache hash) (d : DiskTier) => { c with disk := d }
  := ⟨fun _ => rfl, fun _ _ => rfl, fun _ _ => rfl, fun _ _ _ => rfl⟩

/-! ### On an engine that is gone -/

theorem orderly_onDisk {a : Action DiskTier α} (h : a.Orderly) :
  (onDisk a : Action (Cache hash) α).Orderly
  := h.within bears_disk

theorem orderly_onRam (step : RamTier hash → α × RamTier hash) :
  (onRam step).Orderly
  := orderly_of_engine fun _ => rfl

theorem orderly_note (e : Event) :
  (note e : Action (Cache hash) Unit).Orderly
  := orderly_of_engine fun _ => rfl

theorem orderly_restore (x : Option Copy) :
  (restore x : Action (Cache hash) Unit).Orderly
  := by
  cases x with
  | none => apply orderly_pure
  | some x => exact orderly_onRam fun t => ((), t.restore x)

theorem orderly_demote (v : Copy) :
  (demote v : Action (Cache hash) Unit).Orderly
  := by
  apply (orderly_onDisk (DiskTier.orderly_save v)).bind
  intro dropped
  split
  · exact (orderly_note _).bind fun _ => orderly_note _
  · apply orderly_note

/-- A copy enters RAM once the displaced one is on disk; otherwise that one is put back. -/
def enter (x v : Copy) : Except Fault Unit → Action (Cache hash) Unit
  | .ok () => do let _ ← onRam fun t => t.insert x
  | .error fault => do
    restore (some v)
    throw fault

theorem insert_eq (x : Copy) :
  (insert x : Action (Cache hash) Unit) = (do
    match ← onRam fun t => t.popDisplaced x.identity with
    | none => let _ ← onRam fun t => t.insert x
    | some v => enter x v (← (demote v).attempt))
  := rfl

theorem orderly_enter (x v : Copy) (answer : Except Fault Unit) :
  (enter x v answer : Action (Cache hash) Unit).Orderly
  := by
  cases answer with
  | ok done => exact (orderly_onRam _).bind fun _ => orderly_pure _
  | error fault => exact (orderly_restore (some v)).bind fun _ => orderly_throw fault

theorem orderly_insert (x : Copy) :
  (insert x : Action (Cache hash) Unit).Orderly
  := by
  rw [insert_eq]
  apply (orderly_onRam _).bind
  intro displaced
  cases displaced with
  | none => exact (orderly_onRam _).bind fun _ => orderly_pure _
  | some v => exact (orderly_demote v).attempt.bind fun answer => orderly_enter x v answer

theorem orderly_save (x : Copy) :
  (save x : Action (Cache hash) Unit).Orderly
  := by
  apply (orderly_onRam _).bind
  intro _
  apply (orderly_onDisk (DiskTier.orderly_remove _)).bind
  intro _
  exact (orderly_note _).bind fun _ => orderly_insert x

theorem orderly_delete (i : Identity) :
  (delete i : Action (Cache hash) Unit).Orderly
  := by
  apply (orderly_onRam _).bind
  intro inRam
  apply (orderly_onDisk (DiskTier.orderly_remove _)).bind
  intro onDisk
  split
  · apply orderly_note
  · apply orderly_pure

/-- A copy that was taken out enters RAM; otherwise the displaced one is put back. -/
def settle (displaced : Option Copy) :
    Except Fault (Option Copy) → Action (Cache hash) (Option Copy)
  | .error fault => do
    restore displaced
    throw fault
  | .ok taken => do
    if displaced.isSome then note .demotion
    match taken with
    | none => pure none
    | some copy =>
      note .diskHit
      note .promotion
      let _ ← onRam fun t => t.insert copy
      pure (some copy)

theorem promote_eq (i : Identity) :
  (promote i : Action (Cache hash) (Option Copy)) = (do
    let displaced ← onRam fun t => t.popDisplaced i
    settle displaced (← (onDisk (DiskTier.takeReplacing i displaced)).attempt))
  := rfl

/-- Events that are noted before RAM is changed. -/
private theorem orderly_entered (x : Copy) :
  Orderly (do
    note .diskHit
    note .promotion
    let _ ← onRam fun t => t.insert x
    pure (some x) : Action (Cache hash) (Option Copy))
  := by
  apply (orderly_note _).bind
  intro _
  apply (orderly_note _).bind
  intro _
  exact (orderly_onRam _).bind fun _ => orderly_pure _

theorem orderly_settle (displaced : Option Copy) (answer : Except Fault (Option Copy)) :
  (settle displaced answer : Action (Cache hash) (Option Copy)).Orderly
  := by
  rcases answer with fault | (none | x)
  · exact (orderly_restore _).bind fun _ => orderly_throw fault
  · cases displaced with
    | none => apply orderly_pure
    | some v => exact (orderly_note _).bind fun _ => orderly_pure _
  · cases displaced with
    | none => apply orderly_entered
    | some v => exact (orderly_note _).bind fun _ => orderly_entered x

theorem orderly_promote (i : Identity) :
  (promote i : Action (Cache hash) (Option Copy)).Orderly
  := by
  rw [promote_eq]
  apply (orderly_onRam _).bind
  intro displaced
  apply (orderly_onDisk (DiskTier.orderly_takeReplacing _ _)).attempt.bind
  intro answer
  apply orderly_settle

/-- A read answers the copy that was promoted, and otherwise misses. -/
def reply (i : Identity) : Option Copy → Action (Cache hash) (Octets × Headers)
  | some copy => pure (copy.content, copy.headers)
  | none => do
    note .miss
    throw i.missed

theorem read_eq (i : Identity) :
  (read i : Action (Cache hash) (Octets × Headers)) = (do
    match ← onRam fun t => t.get i with
    | some copy =>
      note .ramHit
      pure (copy.content, copy.headers)
    | none => reply i (← if ← onDisk (DiskTier.contains i) then promote i else pure none))
  := by
  rfl

theorem orderly_reply (i : Identity) (promoted : Option Copy) :
  (reply i promoted : Action (Cache hash) (Octets × Headers)).Orderly
  := by
  cases promoted with
  | some x => apply orderly_pure
  | none => exact (orderly_note _).bind fun _ => orderly_throw _

theorem orderly_read (i : Identity) :
  (read i : Action (Cache hash) (Octets × Headers)).Orderly
  := by
  rw [read_eq]
  apply (orderly_onRam _).bind
  intro inRam
  cases inRam with
  | some x => exact (orderly_note _).bind fun _ => orderly_pure _
  | none =>
      apply (orderly_onDisk (DiskTier.orderly_contains i)).bind
      intro stored
      split
      · exact (orderly_promote i).bind (orderly_reply i)
      · exact (orderly_pure none).bind (orderly_reply i)

theorem orderly_modified (i : Identity) :
  (modified i : Action (Cache hash) Time).Orderly
  := by
  apply Action.orderly_get.bind
  intro c
  cases c.ram.peek i with
  | some x => apply orderly_pure
  | none =>
      apply (orderly_onDisk (DiskTier.orderly_modified i)).bind
      intro t
      cases t with
      | some t => apply orderly_pure
      | none => apply orderly_throw

theorem orderly_headers (i : Identity) :
  (headers i : Action (Cache hash) Headers).Orderly
  := by
  apply Action.orderly_get.bind
  intro c
  cases c.ram.peek i with
  | some x => apply orderly_pure
  | none =>
      apply (orderly_onDisk (DiskTier.orderly_headers i)).bind
      intro h
      cases h with
      | some h => apply orderly_pure
      | none => apply orderly_throw

theorem orderly_place (i : Identity) :
  (place i : Action (Cache hash) (Option Place)).Orderly
  := by
  apply Action.orderly_get.bind
  intro c
  split
  · apply orderly_pure
  · apply (orderly_onDisk (DiskTier.orderly_contains i)).bind
    intro stored
    split
    · apply orderly_pure
    · apply orderly_pure

theorem Request.orderly_act (r : Request) :
  (r.act : Action (Cache hash) Reply).Orderly
  := by
  cases r with
  | save x => exact (orderly_save x).map _
  | read i => exact (orderly_read i).map _
  | delete i => exact (orderly_delete i).map _
  | modified i => exact (orderly_modified i).map _
  | headers i => exact (orderly_headers i).map _
  | header i name => exact ((orderly_headers i).bind fun _ => orderly_pure _).map _
  | place i => exact (orderly_place i).map _

/-- The first fault is reported. -/
private theorem orderly_reported (saved : Except Fault (Option Identity)) (later : Option Fault) :
  Orderly (
    match saved with
    | .ok _ => pure later
    | .error fault => pure (some fault) : Action DiskTier (Option Fault))
  := by
  cases saved with
  | ok _ => apply orderly_pure
  | error fault => apply orderly_pure

theorem orderly_flush (copies : List Copy) :
  (flush copies).Orderly
  := by
  induction copies with
  | nil => apply orderly_pure
  | cons x copies ih =>
      apply (DiskTier.orderly_save x).attempt.bind
      intro saved
      exact ih.bind (orderly_reported saved)

/-- Copies are flushed to disk and the engine is closed. -/
def shut (copies : List Copy) : Action DiskTier Unit := do
  let firstFault ← flush copies
  DiskTier.close
  match firstFault with
  | some fault => throw fault
  | none => pure ()

theorem close_eq (c : Cache hash) :
  c.close = (((shut c.ram.drain).perform c.disk).1, ((shut c.ram.drain).perform c.disk).2.engine)
  := rfl

/-- The engine is closed and the fault is told. -/
private theorem orderly_finished (firstFault : Option Fault) :
  Orderly (do
    DiskTier.close
    match firstFault with
    | some fault => throw fault
    | none => pure () : Action DiskTier Unit)
  := by
  apply DiskTier.orderly_close.bind
  intro _
  cases firstFault with
  | some fault => apply orderly_throw
  | none => apply orderly_pure

theorem orderly_shut (copies : List Copy) :
  (shut copies).Orderly
  := (orderly_flush copies).bind orderly_finished

/-! ### Cut short -/

variable {c : Cache hash} {ram disk : List Copy} {x : Copy} {i : Identity} {bound : Nat}

theorem cut_onDisk {a : Action DiskTier α} {t : RamTier hash} {d : DiskTier} {k : Counters}
    (h : Cut bound a d) :
  Cut bound (onDisk a) (⟨t, d, k⟩ : Cache hash)
  := Cuts.within (s := ⟨t, d, k⟩) h bears_disk

theorem of_perform_onDisk {a : Action DiskTier α} {y : α} {t : Cache hash}
    (plain : (onDisk a).perform c = (.ok y, t)) :
  a.perform c.disk = (.ok y, t.disk) ∧ t = { c with disk := t.disk }
  := by
  rw [perform_onDisk] at plain
  obtain ⟨answer, rfl⟩ := Prod.mk.inj plain
  exact ⟨Prod.ext answer rfl, rfl⟩

theorem cut_onRam (keeps : c.disk.engine.records.Keeps bound)
    (step : RamTier hash → α × RamTier hash) :
  Cut bound (onRam step) c
  := Cuts.of_commutes keeps.evolves (fun _ => rfl) rfl

theorem cut_note (keeps : c.disk.engine.records.Keeps bound) (e : Event) :
  Cut bound (note e : Action (Cache hash) Unit) c
  := Cuts.of_commutes keeps.evolves (fun _ => rfl) rfl

theorem cut_restore (keeps : c.disk.engine.records.Keeps bound) (x : Option Copy) :
  Cut bound (restore x : Action (Cache hash) Unit) c
  := by
  cases x with
  | none => exact .pure keeps.evolves ()
  | some x => exact cut_onRam keeps fun t => ((), t.restore x)

/-- The disk tier has room for one copy at least and one more insertion id, and lists copies within
its bound; the copies in RAM can be stored. -/
structure Ready (bound : Nat) (c : Cache hash) : Prop where
  lists : ∃ copies, c.disk.Lists copies ∧ copies.length ≤ bound
  capacity : c.disk.capacity = bound
  room : 0 < bound
  countable : c.disk.nextId + 1 < wordBound
  fits : ∀ y ∈ c.ram.copies, y.identity.Fits

theorem Ready.keeps (h : c.Ready bound) :
  c.disk.engine.records.Keeps bound
  := by
  obtain ⟨copies, lists, bounded⟩ := h.lists
  exact lists.keeps bounded

theorem Ready.of_ram {t : RamTier hash} {k : Counters} (h : c.Ready bound)
    (fits : ∀ y ∈ t.copies, y.identity.Fits) :
  Ready bound (⟨t, c.disk, k⟩ : Cache hash)
  := ⟨h.lists, h.capacity, h.room, h.countable, fits⟩

theorem Ready.asking (h : c.Ready bound) (calls : List Engine.Call) :
  (c.asking calls).Ready bound
  := by
  obtain ⟨⟨copies, lists, bounded⟩, capacity, room, countable, fits⟩ := h
  exact ⟨⟨copies, lists.asking calls, bounded⟩, capacity, room, countable, fits⟩

theorem cut_demote {v : Copy} (h : c.Ready bound) (fits : v.identity.Fits) :
  Cut bound (demote v : Action (Cache hash) Unit) c
  := by
  obtain ⟨⟨copies, lists, bounded⟩, rfl, room, countable, -⟩ := h
  apply (cut_onDisk (DiskTier.cut_save lists bounded room fits countable)).bind
  · intro dropped
    split
    · exact (orderly_note _).bind fun _ => orderly_note _
    · apply orderly_note
  · intro dropped t _ self
    split
    · exact (cut_note self.before _).bind (fun _ => orderly_note _) fun _ _ _ self =>
        cut_note self.before _
    · exact cut_note self.before _

private theorem cut_enter {τ : Type} (keeps : c.disk.engine.records.Keeps bound)
    (step : RamTier hash → τ × RamTier hash) (y : α) :
  Cut bound (do let _ ← onRam step; pure y) c
  := (cut_onRam keeps step).bind (fun _ => orderly_pure y) fun _ _ _ self => .pure self y

theorem cut_insert (h : c.Ready bound) :
  Cut bound (insert x : Action (Cache hash) Unit) c
  := by
  rw [insert_eq]
  apply (cut_onRam h.keeps _).bind
  · intro displaced
    cases displaced with
    | none => exact (orderly_onRam _).bind fun _ => orderly_pure _
    | some v => exact (orderly_demote v).attempt.bind fun answer => orderly_enter x v answer
  · intro displaced t plain self
    obtain ⟨popped, rfl⟩ := Prod.mk.inj plain
    cases displaced with
    | none => exact cut_enter self.before _ _
    | some v =>
        have fits := h.fits v (RamTier.mem_copies_of_popDisplaced (Except.ok.inj popped))
        have left := h.of_ram (k := c.counters) fun y hy =>
          h.fits y (RamTier.mem_copies_of_mem_popDisplaced (i := x.identity) hy)
        apply (cut_demote left fits).attempt.bind
        · intro answer
          apply orderly_enter
        · intro answer t _ self
          cases answer with
          | ok done => exact cut_enter self.before _ _
          | error fault =>
              exact (cut_restore self.before (some v)).bind (fun _ => orderly_throw fault)
                fun _ _ _ self => .throw self fault

/-- After a removal from both tiers, the cache is ready still. -/
private theorem Ready.removed {answer : Except Fault Bool} {t : DiskTier} {k : Counters}
    (h : c.Ready bound) (fits : i.Fits) (plain : (DiskTier.remove i).perform c.disk = (answer, t))
    (keeps : t.engine.records.Keeps bound) :
  Ready bound (⟨(c.ram.remove i).2, t, k⟩ : Cache hash)
  := by
  obtain ⟨⟨copies, lists, bounded⟩, capacity, room, countable, ramFits⟩ := h
  have ends := DiskTier.removed i c.disk
  rw [plain] at ends
  have lists' : ∃ copies, t.Lists copies := by
    obtain ⟨_, -, -, lists⟩ | ⟨-, lists⟩ := ends.lists lists fits
    · exact ⟨_, lists⟩
    · exact ⟨_, lists⟩
  have same : t.nextId = c.disk.nextId := by cases ends <;> rfl
  obtain ⟨copies', lists'⟩ := lists'
  refine ⟨⟨copies', lists', lists'.length_le keeps⟩, ends.leads.capacity_eq.trans capacity, room,
    same ▸ countable, ?_⟩
  intro y hy
  rw [(RamTier.copies_remove c.ram i).2] at hy
  exact ramFits y (Copy.others_subset i _ hy)

theorem cut_save (h : c.Ready bound) (fits : x.identity.Fits) :
  Cut bound (save x : Action (Cache hash) Unit) c
  := by
  obtain ⟨copies, lists, bounded⟩ := h.lists
  have insertion : Orderly (do note .save; insert x : Action (Cache hash) Unit) :=
    (orderly_note _).bind fun _ => orderly_insert x
  apply (cut_onRam h.keeps _).bind
  · intro _
    exact (orderly_onDisk (DiskTier.orderly_remove _)).bind fun _ => insertion
  · intro _ t plain self
    obtain ⟨-, rfl⟩ := Prod.mk.inj plain
    apply (cut_onDisk (DiskTier.cut_remove lists bounded fits)).bind
    · intro _
      exact insertion
    · intro present t plain self
      obtain ⟨answer, rfl⟩ := Prod.mk.inj plain
      apply (cut_note self.before _).bind
      · intro _
        apply orderly_insert
      · intro _ t plain self
        obtain ⟨-, rfl⟩ := Prod.mk.inj plain
        exact cut_insert (h.removed fits rfl self.before)

theorem cut_delete (h : c.Ready bound) (fits : i.Fits) :
  Cut bound (delete i : Action (Cache hash) Unit) c
  := by
  obtain ⟨copies, lists, bounded⟩ := h.lists
  have count (inRam : Option Copy) (onDisk : Bool) : Orderly (do
      if inRam.isSome ∨ onDisk then note .deletion : Action (Cache hash) Unit) := by
    split
    · apply orderly_note
    · apply orderly_pure
  apply (cut_onRam h.keeps _).bind
  · intro inRam
    exact (orderly_onDisk (DiskTier.orderly_remove _)).bind (count inRam)
  · intro inRam t plain self
    obtain ⟨-, rfl⟩ := Prod.mk.inj plain
    apply (cut_onDisk (DiskTier.cut_remove lists bounded fits)).bind
    · exact count inRam
    · intro onDisk t plain self
      split
      · exact cut_note self.before _
      · exact .pure self _

/-- The victim of an identity that is not in RAM has another identity. -/
private theorem Ready.other (h : c.Ready bound) (absent : c.ram.peek i = none) (v : Copy)
    (popped : (c.ram.popDisplaced i).1 = some v) :
  v.identity.Fits ∧ v.identity ≠ i
  := by
  have hv := RamTier.mem_copies_of_popDisplaced popped
  rw [RamTier.peek_eq_of?] at absent
  exact ⟨h.fits v hv, Copy.of?_eq_none_iff.1 absent v hv⟩

private theorem cut_entered (keeps : c.disk.engine.records.Keeps bound) (x : Copy) :
  Cut bound (do
    note .diskHit
    note .promotion
    let _ ← onRam fun t => t.insert x
    pure (some x) : Action (Cache hash) (Option Copy)) c
  := by
  have behind : Orderly (do
      note .promotion
      let _ ← onRam fun t => t.insert x
      pure (some x) : Action (Cache hash) (Option Copy)) :=
    (orderly_note _).bind fun _ => (orderly_onRam _).bind fun _ => orderly_pure _
  apply (cut_note keeps _).bind
  · intro _
    exact behind
  · intro _ t _ self
    exact (cut_note self.before _).bind
      (fun _ => (orderly_onRam _).bind fun _ => orderly_pure _) fun _ _ _ self =>
      cut_enter self.before _ _

theorem cut_settle (keeps : c.disk.engine.records.Keeps bound) (displaced : Option Copy)
    (answer : Except Fault (Option Copy)) :
  Cut bound (settle displaced answer : Action (Cache hash) (Option Copy)) c
  := by
  rcases answer with fault | (none | x)
  · exact (cut_restore keeps displaced).bind (fun _ => orderly_throw fault)
      fun _ _ _ self => .throw self fault
  · cases displaced with
    | none => exact .pure keeps.evolves none
    | some v =>
        exact (cut_note keeps _).bind (fun _ => orderly_pure none) fun _ _ _ self => .pure self none
  · cases displaced with
    | none => exact cut_entered keeps x
    | some v =>
        exact (cut_note keeps _).bind (fun _ => orderly_entered x) fun _ _ _ self =>
          cut_entered self.before x

theorem cut_promote (h : c.Ready bound) (fits : i.Fits) (absent : c.ram.peek i = none) :
  Cut bound (promote i : Action (Cache hash) (Option Copy)) c
  := by
  rw [promote_eq]
  obtain ⟨copies, lists, bounded⟩ := h.lists
  apply (cut_onRam h.keeps _).bind
  · intro displaced
    exact (orderly_onDisk (DiskTier.orderly_takeReplacing _ _)).attempt.bind fun answer =>
      orderly_settle displaced answer
  · intro displaced t plain self
    obtain ⟨popped, rfl⟩ := Prod.mk.inj plain
    have other (v : Copy) (chosen : displaced = some v) :=
      h.other absent v ((Except.ok.inj popped).trans chosen)
    have takes := DiskTier.cut_takeReplacing lists bounded fits other h.countable
    apply (cut_onDisk takes).attempt.bind
    · intro answer
      apply orderly_settle
    · intro answer t _ self
      exact cut_settle self.before displaced answer

theorem cut_reply (keeps : c.disk.engine.records.Keeps bound) (i : Identity)
    (promoted : Option Copy) :
  Cut bound (reply i promoted : Action (Cache hash) (Octets × Headers)) c
  := by
  cases promoted with
  | some x => exact .pure keeps.evolves _
  | none =>
      exact (cut_note keeps _).bind (fun _ => orderly_throw _) fun _ _ _ self => .throw self _

theorem cut_read (h : c.Ready bound) (fits : i.Fits) :
  Cut bound (read i : Action (Cache hash) (Octets × Headers)) c
  := by
  rw [read_eq]
  have search (stored : Bool) : Orderly (do
      reply i (← if stored then promote i else pure none) :
        Action (Cache hash) (Octets × Headers)) := by
    cases stored with
    | true => exact (orderly_promote i).bind (orderly_reply i)
    | false => exact (orderly_pure none).bind (orderly_reply i)
  apply (cut_onRam h.keeps _).bind
  · intro inRam
    cases inRam with
    | some x => exact (orderly_note _).bind fun _ => orderly_pure _
    | none => exact (orderly_onDisk (DiskTier.orderly_contains i)).bind search
  · intro inRam t plain self
    obtain ⟨answer, rfl⟩ := Prod.mk.inj plain
    cases inRam with
    | some x =>
        exact (cut_note self.before _).bind (fun _ => orderly_pure _) fun _ _ _ self =>
          .pure self _
    | none =>
        have absent : c.ram.peek i = none :=
          (RamTier.copies_get c.ram i).1.symm.trans (Except.ok.inj answer)
        have same : (c.ram.get i).2 = c.ram := by rw [RamTier.get, absent]
        rw [same] at self ⊢
        apply (cut_onDisk (DiskTier.cut_contains self.before i)).bind
        · exact search
        · intro stored t plain self
          obtain ⟨answer, same⟩ := of_perform_onDisk plain
          obtain ⟨-, calls, asked⟩ := (DiskTier.answers_contains i c.disk).answered answer
          rw [asked] at same
          subst same
          cases stored with
          | true =>
              have promotes := cut_promote (h.asking calls) fits absent
              exact promotes.bind (orderly_reply i) fun _ _ _ self => cut_reply self.before i _
          | false =>
              exact (Cuts.pure self none).bind (orderly_reply i)
                fun _ _ _ self => cut_reply self.before i _

theorem cut_modified (keeps : c.disk.engine.records.Keeps bound) (i : Identity) :
  Cut bound (modified i : Action (Cache hash) Time) c
  := by
  apply Cuts.get_bind
  · intro n
    rfl
  cases c.ram.peek i with
  | some x => exact .pure keeps.evolves _
  | none =>
      apply (cut_onDisk (DiskTier.cut_modified keeps i)).bind
      · intro t
        cases t with
        | some t => apply orderly_pure
        | none => apply orderly_throw
      · intro t c _ self
        cases t with
        | some t => exact .pure self _
        | none => exact .throw self _

theorem cut_headers (keeps : c.disk.engine.records.Keeps bound) (i : Identity) :
  Cut bound (headers i : Action (Cache hash) Headers) c
  := by
  apply Cuts.get_bind
  · intro n
    rfl
  cases c.ram.peek i with
  | some x => exact .pure keeps.evolves _
  | none =>
      apply (cut_onDisk (DiskTier.cut_headers keeps i)).bind
      · intro h
        cases h with
        | some h => apply orderly_pure
        | none => apply orderly_throw
      · intro h c _ self
        cases h with
        | some h => exact .pure self _
        | none => exact .throw self _

theorem cut_place (keeps : c.disk.engine.records.Keeps bound) (i : Identity) :
  Cut bound (place i : Action (Cache hash) (Option Place)) c
  := by
  apply Cuts.get_bind
  · intro n
    rfl
  split
  · exact .pure keeps.evolves _
  · apply (cut_onDisk (DiskTier.cut_contains keeps i)).bind
    · intro stored
      split
      · apply orderly_pure
      · apply orderly_pure
    · intro stored c _ self
      split
      · exact .pure self _
      · exact .pure self _

/-- A request may be cut short at any call. -/
theorem cut_act (h : c.Ready bound) {r : Request} (fits : r.identity.Fits) :
  Cut bound (r.act : Action (Cache hash) Reply) c
  := by
  cases r with
  | save x => exact (cut_save h fits).map _
  | read i => exact (cut_read h fits).map _
  | delete i => exact (cut_delete h fits).map _
  | modified i => exact (cut_modified h.keeps i).map _
  | headers i => exact (cut_headers h.keeps i).map _
  | header i name =>
      exact ((cut_headers h.keeps i).bind (fun _ => orderly_pure _) fun _ _ _ self =>
        .pure self _).map _
  | place i => exact (cut_place h.keeps i).map _

/-- Copies that are flushed may be cut short between any two writes. -/
theorem cut_flush {copies : List Copy} {d : DiskTier} (lists : d.Lists disk)
    (bounded : disk.length ≤ bound) (capacity : d.capacity = bound) (room : 0 < bound)
    (fits : ∀ x ∈ copies, x.identity.Fits) (counted : d.nextId < d.engine.asked.length)
    (few : ((flush copies).perform d).2.engine.asked.length < wordBound) :
  Cut bound (flush copies) d
  := by
  induction copies generalizing d disk with
  | nil => exact .pure (lists.keeps bounded).evolves none
  | cons x copies ih =>
      obtain ⟨fitsX, fits⟩ := List.forall_mem_cons.1 fits
      rw [flush_cons] at few
      have ends := DiskTier.saved x d
      have leads := ends.leads
      have fewer := Nat.lt_of_le_of_lt ((orderly_flush copies).grows _) few
      have asked := leads.asked
      have countable : ((DiskTier.save x).perform d).2.nextId < wordBound := by
        simp only [HasEngine.asked, HasEngine.engine] at fewer
        omega
      have saves : Cut bound (DiskTier.save x) d := by
        subst capacity
        have := leads.asked_le
        simp only [HasEngine.asked, HasEngine.engine] at fewer
        exact DiskTier.cut_save lists bounded room fitsX (by omega)
      apply saves.attempt.bind
      · intro saved
        exact (orderly_flush copies).bind (orderly_reported saved)
      · intro saved t plain self
        obtain ⟨-, rfl⟩ := Prod.mk.inj plain
        obtain ⟨copies', lists'⟩ : ∃ copies', ((DiskTier.save x).perform d).2.Lists copies' := by
          obtain ⟨_, -, -, lists | lists⟩ | ⟨-, -, lists⟩ := ends.lists lists fitsX countable
          · exact ⟨_, lists⟩
          · exact ⟨_, lists⟩
          · exact ⟨_, lists⟩
        have later : Cut bound (flush copies) ((DiskTier.save x).perform d).2 := by
          apply ih lists' (lists'.length_le self.before) (leads.capacity_eq.trans capacity) fits
          · omega
          · exact few
        apply later.bind (orderly_reported saved)
        intro first t _ self
        cases saved with
        | ok _ => exact .pure self first
        | error fault => exact .pure self (some fault)

theorem cut_shut (h : c.Ready bound) (counted : c.disk.nextId < c.disk.engine.asked.length)
    (few : c.close.2.asked.length < wordBound) :
  Cut bound (shut c.ram.drain) c.disk
  := by
  obtain ⟨⟨copies, lists, bounded⟩, capacity, room, -, fits⟩ := h
  have flushes : Cut bound (flush c.ram.drain) c.disk := by
    apply cut_flush lists bounded capacity room
    · intro x hx
      exact fits x (List.mem_reverse.1 hx)
    · exact counted
    · rw [close_eq] at few
      exact Nat.lt_of_le_of_lt (asked_le_bind orderly_finished c.disk) few
  apply flushes.bind orderly_finished
  intro firstFault t _ self
  apply (DiskTier.cut_close self.before).bind
  · intro _
    cases firstFault with
    | some fault => apply orderly_throw
    | none => apply orderly_pure
  · intro _ t _ self
    cases firstFault with
    | some fault => exact .throw self fault
    | none => exact .pure self ()

end Cache

end SiteCache
