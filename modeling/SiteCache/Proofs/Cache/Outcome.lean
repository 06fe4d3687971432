import SiteCache.Cache
import SiteCache.Proofs.Tier.Disk
import SiteCache.Proofs.Tier.Ram

/-!
# What a cache can do

How each operation of a cache may end, in terms of what its disk tier may do (`DiskTier.Removed`,
`Saved`, `Taken`) and of the copy that its RAM tier gives up.  Nothing is assumed about the cache or
its records; the counters are left open.  Peeks answer what the tiers say and change nothing but the
history of engine calls (`Cache.Looks`).
-/

namespace SiteCache

namespace Cache

variable {hash : Identity → UInt64} {α : Type} {c c' : Cache hash} {x : Copy} {i : Identity}

@[simp]
theorem perform_onDisk (a : Action DiskTier α) (c : Cache hash) :
  (onDisk a).perform c = ((a.perform c.disk).1, { c with disk := (a.perform c.disk).2 })
  := rfl

@[simp]
theorem perform_onRam (step : RamTier hash → α × RamTier hash) (c : Cache hash) :
  (onRam step).perform c = (.ok (step c.ram).1, { c with ram := (step c.ram).2 })
  := rfl

@[simp]
theorem perform_note (e : Event) (c : Cache hash) :
  (note e).perform c = (.ok (), { c with counters := c.counters.record 1 e })
  := rfl

@[simp]
theorem perform_restore_some (x : Copy) (c : Cache hash) :
  (restore (some x)).perform c = (.ok (), { c with ram := c.ram.restore x })
  := rfl

/-! ### Saves -/

/-- How the insertion of a copy into RAM may end. -/
inductive Inserted (c : Cache hash) (x : Copy) : Except Fault Unit → Cache hash → Prop where
  | spare {k} (none : (c.ram.popDisplaced x.identity).1 = none) :
    Inserted c x (.ok ()) ⟨(c.ram.popDisplaced x.identity).2.push x, c.disk, k⟩
  | demoted {v dropped d k} (victim : (c.ram.popDisplaced x.identity).1 = some v)
    (ends : DiskTier.Saved c.disk v (.ok dropped) d) :
    Inserted c x (.ok ()) ⟨(c.ram.popDisplaced x.identity).2.push x, d, k⟩
  | failed {v fault d k} (victim : (c.ram.popDisplaced x.identity).1 = some v)
    (ends : DiskTier.Saved c.disk v (.error fault) d) :
    Inserted c x (.error fault) ⟨(c.ram.popDisplaced x.identity).2.restore v, d, k⟩

/-- A copy that left RAM is saved to disk, and its demotion is counted. -/
theorem demoted (v : Copy) (c : Cache hash) :
  ∃ answer d k, DiskTier.Saved c.disk v answer d
    ∧ (demote v).perform c = (answer.map fun _ => (), { c with disk := d, counters := k })
  := by
  have ends := DiskTier.saved v c.disk
  cases ended : (DiskTier.save v).perform c.disk with
  | mk answer d =>
      rw [ended] at ends
      cases answer with
      | error fault =>
          refine ⟨_, d, c.counters, ends, ?_⟩
          rw [demote, Action.perform_bind, perform_onDisk, ended]
          rfl
      | ok dropped =>
          cases dropped with
          | none =>
              refine ⟨_, d, c.counters.record 1 .demotion, ends, ?_⟩
              rw [demote, Action.perform_bind, perform_onDisk, ended]
              rfl
          | some j =>
              refine ⟨_, d, (c.counters.record 1 .eviction).record 1 .demotion, ends, ?_⟩
              rw [demote, Action.perform_bind, perform_onDisk, ended]
              rfl

theorem inserted (x : Copy) (c : Cache hash) :
  Inserted c x ((insert x).perform c).1 ((insert x).perform c).2
  := by
  simp only [insert, Action.perform_bind, perform_onRam]
  cases popped : (c.ram.popDisplaced x.identity).1 with
  | none => exact .spare popped
  | some v =>
      simp only [Action.perform_bind, Action.perform_attempt]
      obtain ⟨answer, d, k, ends, ended⟩ :=
        demoted v { c with ram := (c.ram.popDisplaced x.identity).2 }
      rw [ended]
      cases answer with
      | error fault => exact .failed popped ends
      | ok dropped => exact .demoted popped ends

/-- How a save may end. -/
inductive Saved (c : Cache hash) (x : Copy) : Except Fault Unit → Cache hash → Prop where
  | stopped {fault d k} (ends : DiskTier.Removed c.disk x.identity (.error fault) d) :
    Saved c x (.error fault) ⟨(c.ram.remove x.identity).2, d, k⟩
  | inserted {present d k answer c'}
    (ends : DiskTier.Removed c.disk x.identity (.ok present) d)
    (inserts : Inserted ⟨(c.ram.remove x.identity).2, d, k⟩ x answer c') :
    Saved c x answer c'

theorem saved (x : Copy) (c : Cache hash) :
  Saved c x ((save x).perform c).1 ((save x).perform c).2
  := by
  have ends := DiskTier.removed x.identity c.disk
  simp only [save, Action.perform_bind, perform_onRam, perform_onDisk]
  cases ended : (DiskTier.remove x.identity).perform c.disk with
  | mk answer d =>
      rw [ended] at ends
      cases answer with
      | error fault => exact .stopped ends
      | ok present => exact .inserted ends (inserted x _)

/-! ### Deletions -/

/-- How a deletion may end. -/
inductive Deleted (c : Cache hash) (i : Identity) : Except Fault Unit → Cache hash → Prop where
  | stopped {fault d k} (ends : DiskTier.Removed c.disk i (.error fault) d) :
    Deleted c i (.error fault) ⟨(c.ram.remove i).2, d, k⟩
  | deleted {present d k} (ends : DiskTier.Removed c.disk i (.ok present) d) :
    Deleted c i (.ok ()) ⟨(c.ram.remove i).2, d, k⟩

theorem deleted (i : Identity) (c : Cache hash) :
  Deleted c i ((delete i).perform c).1 ((delete i).perform c).2
  := by
  have ends := DiskTier.removed i c.disk
  simp only [delete, Action.perform_bind, perform_onRam, perform_onDisk]
  cases ended : (DiskTier.remove i).perform c.disk with
  | mk answer d =>
      rw [ended] at ends
      cases answer with
      | error fault => exact .stopped ends
      | ok present =>
          simp only
          split
          · exact .deleted ends
          · exact .deleted ends

/-! ### Peeks -/

/-- The cache whose engine was asked these calls, of which none changed a record. -/
def asking (c : Cache hash) (calls : List Engine.Call) : Cache hash :=
  { c with disk := c.disk.asking calls }

/-- An action answers this and changes neither tier, unless the engine refuses one of its calls. -/
def Looks (a : Action (Cache hash) α) (c : Cache hash) (answer : Except Fault α) : Prop :=
  ∃ calls, a.perform c = (answer, c.asking calls)
    ∨ ∃ fault, c.disk.engine.Refuses fault ∧ a.perform c = (.error fault, c.asking calls)

/-- On an engine that refuses nothing it answers this. -/
theorem Looks.answer_eq {a : Action (Cache hash) α} {answer : Except Fault α}
    (h : Looks a c answer) (healthy : ∀ fault, ¬ c.disk.engine.Refuses fault) :
  (a.perform c).1 = answer
  := by
  obtain ⟨calls, ended | ⟨fault, refused, -⟩⟩ := h
  · exact congrArg Prod.fst ended
  · exact absurd refused (healthy fault)

theorem looks_pure (y : α) (c : Cache hash) :
  Looks (pure y) c (.ok y)
  := ⟨[], .inl rfl⟩

/-- The cache is read first. -/
theorem Looks.of_get {f : Cache hash → Action (Cache hash) α} {answer : Except Fault α}
    (h : Looks (f c) c answer) :
  Looks (get >>= f) c answer
  := by
  obtain ⟨calls, ended⟩ := h
  exact ⟨calls, ended⟩

/-- The disk tier is looked at, and the cache makes something of its answer. -/
theorem Looks.of_onDisk {β : Type} {a : Action DiskTier α} {answer : Except Fault α}
    (look : DiskTier.Answers a c.disk answer) {f : α → Action (Cache hash) β}
    {g : α → Except Fault β} (after : ∀ y c, (f y).perform c = (g y, c)) :
  Looks (onDisk a >>= f) c (answer >>= g)
  := by
  obtain ⟨calls, ended | ⟨fault, refused, ended⟩⟩ := look
  · use calls
    rw [Action.perform_bind, perform_onDisk, ended]
    cases answer with
    | error fault => exact .inl rfl
    | ok y => exact .inl (after y _)
  · refine ⟨calls, .inr ⟨fault, refused, ?_⟩⟩
    rw [Action.perform_bind, perform_onDisk, ended]
    rfl

/-- What the tiers know of an identity: RAM is asked first, and a miss is a fault. -/
def found (i : Identity) (inRam : Option α) (onDisk : Except Fault (Option α)) : Except Fault α :=
  match inRam with
  | some y => .ok y
  | none => onDisk >>= fun y => y.elim (.error i.missed) .ok

theorem looks_modified (i : Identity) (c : Cache hash) :
  Looks (modified i) c
    (found i ((c.ram.peek i).map Copy.modified) (c.disk.engine.records.modified i))
  := by
  apply Looks.of_get
  cases c.ram.peek i with
  | some x => apply looks_pure
  | none =>
      apply Looks.of_onDisk (DiskTier.answers_modified i c.disk)
      intro t c
      cases t <;> rfl

theorem looks_headers (i : Identity) (c : Cache hash) :
  Looks (headers i) c
    (found i ((c.ram.peek i).map Copy.headers) (c.disk.engine.records.headers i))
  := by
  apply Looks.of_get
  cases c.ram.peek i with
  | some x => apply looks_pure
  | none =>
      apply Looks.of_onDisk (DiskTier.answers_headers i c.disk)
      intro h c
      cases h <;> rfl

theorem Looks.map {β : Type} {a : Action (Cache hash) α} {answer : Except Fault α}
    (h : Looks a c answer) (f : α → β) :
  Looks (f <$> a) c (f <$> answer)
  := by
  obtain ⟨calls, ended | ⟨fault, refused, ended⟩⟩ := h
  · exact ⟨calls, .inl (by rw [Action.perform_map, ended]; rfl)⟩
  · exact ⟨calls, .inr ⟨fault, refused, by rw [Action.perform_map, ended]; rfl⟩⟩

theorem looks_header (i : Identity) (name : String) (c : Cache hash) :
  Looks (header i name) c
    ((fun h => h.find? name)
      <$> found i ((c.ram.peek i).map Copy.headers) (c.disk.engine.records.headers i))
  := by
  have same : header i name
      = (fun h => h.find? name) <$> (headers i : Action (Cache hash) Headers) := by
    rw [map_eq_pure_bind]
    rfl
  rw [same]
  exact (looks_headers i c).map _

theorem looks_place (i : Identity) (c : Cache hash) :
  Looks (place i) c
    (if (c.ram.peek i).isSome then .ok (some .ram)
      else Option.isSome <$> c.disk.engine.records.storedId i.encode
        >>= fun stored => .ok (if stored then some .disk else none))
  := by
  apply Looks.of_get
  cases c.ram.peek i with
  | some x => apply looks_pure
  | none =>
      apply Looks.of_onDisk (DiskTier.answers_contains i c.disk)
      intro stored c
      cases stored <;> rfl

/-! ### Reads -/

/-- How a read may end. -/
inductive Read (c : Cache hash) (i : Identity) :
    Except Fault (Octets × Headers) → Cache hash → Prop where
  | hit {x k} (inRam : c.ram.peek i = some x) :
    Read c i (.ok (x.content, x.headers)) ⟨c.ram.push x, c.disk, k⟩
  | refused {fault calls k} (notInRam : c.ram.peek i = none) (h : c.disk.engine.Refuses fault) :
    Read c i (.error fault) ⟨c.ram, c.disk.asking calls, k⟩
  | unreadable {fault calls k} (notInRam : c.ram.peek i = none)
    (h : c.disk.engine.records.storedId i.encode = .error fault) :
    Read c i (.error fault) ⟨c.ram, c.disk.asking calls, k⟩
  | missed {calls k} (notInRam : c.ram.peek i = none)
    (h : c.disk.engine.records.storedId i.encode = .ok none) :
    Read c i (.error i.missed) ⟨c.ram, c.disk.asking calls, k⟩
  | failed {id fault d k} (notInRam : c.ram.peek i = none)
    (h : c.disk.engine.records.storedId i.encode = .ok (some id))
    (ends : DiskTier.Taken c.disk i (c.ram.popDisplaced i).1 (.error fault) d) :
    Read c i (.error fault)
      ⟨(c.ram.popDisplaced i).1.elim (c.ram.popDisplaced i).2 (c.ram.popDisplaced i).2.restore,
        d, k⟩
  | incomplete {id d k} (notInRam : c.ram.peek i = none)
    (h : c.disk.engine.records.storedId i.encode = .ok (some id))
    (ends : DiskTier.Taken c.disk i (c.ram.popDisplaced i).1 (.ok none) d) :
    Read c i (.error i.missed) ⟨(c.ram.popDisplaced i).2, d, k⟩
  | promoted {id x d k} (notInRam : c.ram.peek i = none)
    (h : c.disk.engine.records.storedId i.encode = .ok (some id))
    (ends : DiskTier.Taken c.disk i (c.ram.popDisplaced i).1 (.ok (some x)) d) :
    Read c i (.ok (x.content, x.headers)) ⟨(c.ram.popDisplaced i).2.push x, d, k⟩

/-- RAM after a promotion, by what the disk tier made of it. -/
def ramAfter (t : RamTier hash) (i : Identity) : Except Fault (Option Copy) → RamTier hash
  | .error _ => (t.popDisplaced i).1.elim (t.popDisplaced i).2 (t.popDisplaced i).2.restore
  | .ok none => (t.popDisplaced i).2
  | .ok (some x) => (t.popDisplaced i).2.push x

/-- A promotion ends as the exchange of the two copies on disk does. -/
theorem promoted (i : Identity) (c : Cache hash) :
  ∃ answer d k, DiskTier.Taken c.disk i (c.ram.popDisplaced i).1 answer d
    ∧ (promote i).perform c = (answer, ⟨ramAfter c.ram i answer, d, k⟩)
  := by
  have ends := DiskTier.taken i (c.ram.popDisplaced i).1 c.disk
  simp only [promote, Action.perform_bind, perform_onRam, perform_onDisk, Action.perform_attempt]
  cases ended : (DiskTier.takeReplacing i (c.ram.popDisplaced i).1).perform c.disk with
  | mk answer d =>
      rw [ended] at ends
      refine ⟨answer, d, ?_⟩
      simp only [ramAfter]
      cases answer with
      | error fault =>
          cases displaced : (c.ram.popDisplaced i).1 with
          | none => exact ⟨_, displaced ▸ ends, rfl⟩
          | some v => exact ⟨_, displaced ▸ ends, rfl⟩
      | ok taken =>
          cases displaced : (c.ram.popDisplaced i).1 with
          | none =>
              cases taken with
              | none => exact ⟨_, displaced ▸ ends, rfl⟩
              | some x => exact ⟨_, displaced ▸ ends, rfl⟩
          | some v =>
              cases taken with
              | none => exact ⟨_, displaced ▸ ends, rfl⟩
              | some x => exact ⟨_, displaced ▸ ends, rfl⟩

theorem reads (i : Identity) (c : Cache hash) :
  Read c i ((read i).perform c).1 ((read i).perform c).2
  := by
  have looked : c.ram.get i
      = (c.ram.peek i, (c.ram.peek i).elim c.ram c.ram.push) := by
    rw [RamTier.get]
    cases c.ram.peek i <;> rfl
  simp only [read, Action.perform_bind, perform_onRam, looked]
  cases inRam : c.ram.peek i with
  | some x => exact .hit inRam
  | none =>
      simp only [Option.elim_none, Action.perform_bind, perform_onDisk]
      obtain ⟨calls, ended | ⟨fault, refused, ended⟩⟩ := DiskTier.answers_contains i c.disk
      · rw [ended]
        cases stored : c.disk.engine.records.storedId i.encode with
        | error fault => exact .unreadable inRam stored
        | ok id =>
            cases id with
            | none => exact .missed inRam stored
            | some id =>
                obtain ⟨answer, d, k, ends, ended⟩ :=
                  promoted i { c with disk := c.disk.asking calls }
                simp only [Functor.map, Except.map, Option.isSome_some, if_true,
                  Action.perform_bind, ended]
                cases answer with
                | error fault => exact .failed inRam stored ends.of_asking
                | ok taken =>
                    cases taken with
                    | none => exact .incomplete inRam stored ends.of_asking
                    | some x => exact .promoted inRam stored ends.of_asking
      · rw [ended]
        exact .refused inRam refused

/-! ### Opening and closing -/

theorem check_eq_ok_iff {bounds : Bounds} :
  bounds.check = .ok () ↔ 0 < bounds.ram ∧ 0 < bounds.disk
  := by
  rw [Bounds.check]
  by_cases ram : bounds.ram = 0
  · simp [ram]
  · by_cases disk : bounds.disk = 0
    · simp [ram, disk]
    · simp [ram, disk, Nat.pos_of_ne_zero]

/-- An open cache has an empty RAM tier and the disk tier that its engine's records tell of. -/
theorem opened {bounds : Bounds} {e : Engine} (opens : open? hash bounds e = .ok c) :
  0 < bounds.ram ∧ 0 < bounds.disk ∧ c.ram = .empty bounds.ram
    ∧ DiskTier.open? e bounds.disk = .ok c.disk
  := by
  rw [open?] at opens
  cases checked : bounds.check with
  | error fault =>
      rw [checked] at opens
      cases opens
  | ok =>
      rw [checked] at opens
      obtain ⟨ram, disk⟩ := check_eq_ok_iff.1 checked
      cases tier : DiskTier.open? e bounds.disk with
      | error fault =>
          rw [tier] at opens
          cases opens
      | ok d =>
          rw [tier] at opens
          obtain rfl := Except.ok.inj opens
          exact ⟨ram, disk, rfl, rfl⟩

theorem copies_opened {bounds : Bounds} {e : Engine} (opens : open? hash bounds e = .ok c) :
  c.ram.copies = []
  := by
  rw [(opened opens).2.2.1]
  rfl

/-- Opening a cache asks its engine a few calls and changes no record. -/
theorem engine_opened {bounds : Bounds} {e : Engine} (opens : open? hash bounds e = .ok c) :
  ∃ calls, c.disk.engine = e.asking calls
  := by
  obtain ⟨-, room, -, opens⟩ := opened opens
  obtain ⟨calls, ⟨_, _, -, ended⟩ | ⟨fault, -, ended⟩⟩ := DiskTier.opened e (Nat.ne_of_gt room)
  · rw [opens] at ended
    rw [Except.ok.inj ended]
    exact ⟨calls, rfl⟩
  · rw [opens] at ended
    cases ended

/-- So does the attempt if the cache cannot be opened. -/
theorem engine_unopened {bounds : Bounds} {e e' : Engine} {fault : Fault}
    (fails : open? hash bounds e = .error (fault, e')) :
  ∃ calls, e' = e.asking calls
  := by
  rw [open?] at fails
  cases checked : bounds.check with
  | error fault =>
      rw [checked] at fails
      obtain ⟨-, rfl⟩ := Prod.mk.inj (Except.error.inj fails)
      exact ⟨[], rfl⟩
  | ok =>
      rw [checked] at fails
      have room := Nat.ne_of_gt (check_eq_ok_iff.1 checked).2
      obtain ⟨calls, ⟨_, _, -, ended⟩ | ⟨fault, -, ended⟩⟩ := DiskTier.opened e room
      · rw [ended] at fails
        cases fails
      · rw [ended] at fails
        obtain ⟨-, rfl⟩ := Prod.mk.inj (Except.error.inj fails)
        exact ⟨calls, rfl⟩

theorem flush_cons (x : Copy) (copies : List Copy) (d : DiskTier) :
  ((flush (x :: copies)).perform d).2
    = ((flush copies).perform ((DiskTier.save x).perform d).2).2
  := by
  rw [flush]
  simp only [Action.perform_bind, Action.perform_attempt]
  rcases (flush copies).perform ((DiskTier.save x).perform d).2 with ⟨fault | later, t⟩
  · rfl
  · cases ((DiskTier.save x).perform d).1 <;> rfl

/-- What saves keep is kept when copies are flushed. -/
theorem flush_induction {P : DiskTier → Prop} {copies : List Copy} {d : DiskTier}
    (saved : ∀ d x answer d', x ∈ copies → DiskTier.Saved d x answer d' → P d → P d') (h : P d) :
  ∃ answer d', (flush copies).perform d = (.ok answer, d') ∧ P d'
  := by
  induction copies generalizing d with
  | nil => exact ⟨none, d, rfl, h⟩
  | cons x copies ih =>
      obtain ⟨answer, d', ended, h'⟩ := ih
        (fun d y answer d' hy => saved d y answer d' (List.mem_cons_of_mem x hy))
        (saved d x _ _ List.mem_cons_self (DiskTier.saved x d) h)
      rw [flush]
      simp only [Action.perform_bind, Action.perform_attempt, ended]
      cases ((DiskTier.save x).perform d).1 with
      | error fault => exact ⟨some fault, d', rfl, h'⟩
      | ok dropped => exact ⟨answer, d', rfl, h'⟩

/-- What saves and calls without effect keep is kept when a cache is closed. -/
theorem close_induction {P : DiskTier → Prop}
    (asked : ∀ d calls, P d → P (d.asking calls))
    (saved : ∀ d x answer d', x ∈ c.ram.copies → DiskTier.Saved d x answer d' → P d → P d')
    (h : P c.disk) :
  ∃ d, P d ∧ c.close.2 = d.engine
  := by
  have drained (d : DiskTier) (x : Copy) (answer : Except Fault (Option Identity)) (d' : DiskTier)
      (hx : x ∈ c.ram.drain) :=
    saved d x answer d' (List.mem_reverse.1 hx)
  obtain ⟨firstFault, d, ended, h⟩ := flush_induction drained h
  have released : ((DiskTier.close).perform d).2 = d.asking [.close] := by
    simp only [DiskTier.close, DiskTier.onEngine, Action.perform_within, Engine.close, Engine.ask,
      Action.perform_ofStep]
    cases d.engine.refuses (.close :: d.engine.asked) <;> rfl
  refine ⟨d.asking [.close], asked d _ h, ?_⟩
  rw [← released]
  simp only [close, Action.perform_bind, ended]
  rcases DiskTier.close.perform d with ⟨fault | done, d'⟩
  · rfl
  · cases firstFault <;> rfl

end Cache

end SiteCache
