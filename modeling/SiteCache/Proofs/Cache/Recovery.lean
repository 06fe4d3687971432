import SiteCache.Proofs.Cache.Crash
import SiteCache.Proofs.Cache.Residency
import SiteCache.Proofs.Cache.Sessions

/-!
# Recovery

What a crash leaves on the engine (`Session.survivors`) can be opened again, after any sessions with
one disk bound and at whichever call the engine is lost (`Session.recovers`): the disk tier is in
order, no insertion id is given out again, and the copies that are left stand in the order in which
they stood before.  After a crash between two steps, count and next insertion id are those of the
lost tier.

A session that crashed earlier in the history is one whose engine refuses all its last calls, and
which is dropped: the engine of a history may refuse any calls.
-/

namespace SiteCache

open HasEngine SiteCache.Action

variable {hash : Identity → UInt64}

/-- The disk tier is in order: it counts its index records, contains as many identities, each with
all its records, and no two of them have the same insertion id. -/
structure DiskTier.Recovered (d : DiskTier) (bound : Nat) : Prop where
  stocks : ∃ identities, d.Stocks bound identities
  indexed : d.engine.records.index.length = d.count
  distinct : ∀ i j : Identity, i.Fits → j.Fits → ∀ id,
    d.engine.records.storedId i.encode = .ok (some id) →
    d.engine.records.storedId j.encode = .ok (some id) → i = j

theorem DiskTier.Lists.recovered {d : DiskTier} {copies : List Copy} {bound : Nat}
    (h : d.Lists copies) (bounded : copies.length ≤ bound) :
  d.Recovered bound
  := by
  refine ⟨⟨_, h.stocks bounded⟩, ?_, ?_⟩
  · obtain ⟨⟨q, queue, rfl⟩, count⟩ := h
    rw [queue.index_eq, List.length_map, count, List.length_map]
  · obtain ⟨⟨q, queue, -⟩, -⟩ := h
    intro i j iFits jFits id stored stored'
    rw [queue.storedId_eq iFits] at stored
    rw [queue.storedId_eq jFits] at stored'
    obtain ⟨x, found, rfl⟩ := Option.map_eq_some_iff.1 (Except.ok.inj stored)
    obtain ⟨y, found', same⟩ := Option.map_eq_some_iff.1 (Except.ok.inj stored')
    obtain ⟨hx, rfl⟩ := Records.mem_of_entryOf?_eq_some found
    obtain ⟨hy, rfl⟩ := Records.mem_of_entryOf?_eq_some found'
    rw [queue.eq_of_id hy hx same]

namespace Session

instance : HasEngine (Session hash) where
  engine := Session.engine
  withEngine
    | .closed _, e => .closed e
    | .opened c, e => .opened (withEngine c e)
  engine_withEngine s _ := by cases s <;> rfl

variable {s : Session hash} {x : Step} {bound : Nat}

/-! ### Sessions as actions -/

/-- A step as an action on sessions. -/
def advance (x : Step) : Action (Session hash) Answer :=
  .ofStep fun s => (.ok (s.step x).1, (s.step x).2)

/-- Steps as an action on sessions. -/
def run : List Step → Action (Session hash) Unit
  | [] => pure ()
  | x :: steps => do
    let _ ← advance x
    run steps

theorem perform_run (steps : List Step) (s : Session hash) :
  (run steps).perform s = (.ok (), s.after steps)
  := by
  induction steps generalizing s with
  | nil => rfl
  | cons x steps ih =>
      rw [run, perform_bind]
      exact ih (s.step x).2

/-- What is answered and what a session becomes when its engine has been surveyed. -/
def surveyed (bounds : Bounds) :
    Except Fault (Nat × Nat) × Engine → Except Fault Answer × Session hash
  | (.ok (count, nextId), e) =>
    (.ok (some (.ok .done)), .opened ⟨.empty bounds.ram, ⟨e, bounds.disk, count, nextId⟩, {}⟩)
  | (.error fault, e) => (.ok (some (.error fault)), .closed e)

@[simp]
theorem engine_surveyed (bounds : Bounds) (ended : Except Fault (Nat × Nat) × Engine) :
  (surveyed bounds ended : Except Fault Answer × Session hash).2.engine = ended.2
  := by
  rcases ended with ⟨fault | ⟨count, nextId⟩, e⟩ <;> rfl

/-- Without room in both tiers, no engine is asked. -/
theorem perform_reopen_of_not_room (hash : Identity → UInt64) {bounds : Bounds}
    (room : ¬ (0 < bounds.ram ∧ 0 < bounds.disk)) :
  ∃ answer, ∀ e, (advance (.reopen bounds)).perform (.closed e : Session hash)
    = (.ok answer, .closed e)
  := by
  cases checked : bounds.check with
  | error fault =>
      refine ⟨some (.error fault), ?_⟩
      intro e
      simp only [advance, perform_ofStep, step, Cache.open?, checked]
  | ok => exact absurd (Cache.check_eq_ok_iff.1 checked) room

/-- A closed session is opened by a survey. -/
theorem perform_reopen {bounds : Bounds} (room : 0 < bounds.ram ∧ 0 < bounds.disk) (e : Engine) :
  (advance (.reopen bounds)).perform (.closed e : Session hash)
    = surveyed bounds (DiskTier.survey.perform e)
  := by
  simp only [advance, perform_ofStep, step, Cache.open?, Cache.check_eq_ok_iff.2 room,
    DiskTier.open?, if_neg (Nat.ne_of_gt room.2)]
  rcases DiskTier.survey.perform e with ⟨fault | ⟨count, nextId⟩, e⟩ <;> rfl

/-- An engine is asked before it is opened. -/
theorem asked_lt_of_open? {bounds : Bounds} {e : Engine} {c : Cache hash}
    (opens : Cache.open? hash bounds e = .ok c) :
  e.asked.length < c.disk.engine.asked.length
  := by
  obtain ⟨ramRoom, diskRoom, -⟩ := Cache.opened opens
  have ended : ((Session.closed e : Session hash).step (.reopen bounds)).2
      = (surveyed bounds (DiskTier.survey.perform e)).2 :=
    congrArg Prod.snd (perform_reopen ⟨ramRoom, diskRoom⟩ e)
  simp only [step, opens] at ended
  have engines : c.disk.engine = (DiskTier.survey.perform e).2 :=
    (congrArg Session.engine ended).trans (engine_surveyed bounds _)
  rw [engines]
  exact DiskTier.asks_survey e

theorem orderly_advance (x : Step) :
  (advance x : Action (Session hash) Answer).Orderly
  := by
  constructor
  · intro n s gone
    cases s with
    | opened c =>
        have gone : Gone n c := gone.congr rfl
        cases x with
        | ask r =>
            obtain ⟨later, same⟩ := r.orderly_act.frozen n c gone
            exact ⟨later.congr rfl, same⟩
        | close =>
            obtain ⟨later, same⟩ :=
              (Cache.orderly_shut c.ram.drain).frozen n c.disk (gone.congr rfl)
            exact ⟨later.congr rfl, same⟩
        | drop => exact ⟨gone.congr rfl, rfl⟩
        | reopen bounds => exact ⟨gone.congr rfl, rfl⟩
    | closed e =>
        have gone : Gone n e := gone.congr rfl
        cases x with
        | ask r => exact ⟨gone.congr rfl, rfl⟩
        | close => exact ⟨gone.congr rfl, rfl⟩
        | drop => exact ⟨gone.congr rfl, rfl⟩
        | reopen bounds =>
            by_cases room : 0 < bounds.ram ∧ 0 < bounds.disk
            · obtain ⟨later, same⟩ := DiskTier.orderly_survey.frozen n e gone
              rw [perform_reopen room]
              refine ⟨later.congr (engine_surveyed bounds _), ?_⟩
              exact (congrArg Engine.records (engine_surveyed bounds _)).trans same
            · obtain ⟨answer, ended⟩ := perform_reopen_of_not_room hash room
              rw [ended]
              exact ⟨gone.congr rfl, rfl⟩
  · intro s
    exact asked_le_step s x

theorem orderly_run (steps : List Step) :
  (run steps : Action (Session hash) Unit).Orderly
  := by
  induction steps with
  | nil => exact orderly_pure ()
  | cons x steps ih => exact (orderly_advance x).bind fun _ => ih

/-! ### Steps that are cut short -/

/-- The disk tier keeps within its bound and has given out fewer insertion ids than it made calls. -/
def Steady (bound : Nat) : Session hash → Prop
  | .closed e => e.records.Keeps bound
  | .opened c => c.disk.engine.records.Keeps bound ∧ c.disk.capacity = bound
      ∧ c.disk.nextId < c.disk.engine.asked.length

theorem Steady.keeps (h : s.Steady bound) :
  (records s).Keeps bound
  := by
  cases s with
  | closed e => exact h
  | opened c => exact h.1

/-- A sound and steady cache may be cut short. -/
theorem Sound.ready {c : Cache hash} (h : (Session.opened c).Sound)
    (steady : (Session.opened c).Steady bound) (room : 0 < bound)
    (few : c.disk.engine.asked.length < wordBound) :
  c.Ready bound
  := by
  obtain ⟨ram, disk, holds, -⟩ := h
  obtain ⟨keeps, capacity, counted⟩ := steady
  refine ⟨⟨disk, holds.lists, holds.lists.length_le keeps⟩, capacity, room, ?_, ?_⟩
  · omega
  · intro y hy
    exact holds.fits y (holds.copies_eq ▸ hy)

/-- A step may be cut short at any call. -/
theorem cut_advance (h : s.Sound) (steady : s.Steady bound) (room : 0 < bound) (fits : x.Fits)
    (few : (s.step x).2.engine.asked.length < wordBound) :
  Cut bound (advance x : Action (Session hash) Answer) s
  := by
  have keeps := steady.keeps
  have asked := Nat.lt_of_le_of_lt (asked_le_step s x) few
  cases s with
  | opened c =>
      have ready := h.ready steady room asked
      cases x with
      | ask r =>
          exact (Cache.cut_act ready fits).made
            (g := fun ended => (.ok (some ended.1), .opened ended.2)) rfl (fun _ => rfl)
            (fun _ _ _ => rfl) (fun _ => rfl)
      | close =>
          exact (Cache.cut_shut ready steady.2.2 few).made
            (g := fun ended => (.ok (some (ended.1.map fun _ => .done)), .closed ended.2.engine))
            rfl (fun _ => rfl) (fun _ _ _ => rfl) (fun _ => rfl)
      | drop => exact .of_commutes keeps.evolves (fun _ => rfl) rfl
      | reopen bounds => exact .of_commutes keeps.evolves (fun _ => rfl) rfl
  | closed e =>
      cases x with
      | ask r => exact .of_commutes keeps.evolves (fun _ => rfl) rfl
      | close => exact .of_commutes keeps.evolves (fun _ => rfl) rfl
      | drop => exact .of_commutes keeps.evolves (fun _ => rfl) rfl
      | reopen bounds =>
          by_cases room : 0 < bounds.ram ∧ 0 < bounds.disk
          · apply (DiskTier.cut_survey keeps).made (perform_reopen room e)
            · intro n
              exact perform_reopen room (e.upTo n)
            · rintro n (fault | ⟨count, nextId⟩) e <;> rfl
            · exact engine_surveyed bounds
          · obtain ⟨answer, ended⟩ := perform_reopen_of_not_room hash room
            apply Cuts.of_commutes keeps.evolves
            · intro n
              rw [ended]
              exact ended (e.upTo n)
            · rw [ended]

theorem Steady.step (steady : s.Steady bound) (h : s.Sound) (room : 0 < bound) (fits : x.Fits)
    (fixed : ∀ bounds, x = .reopen bounds → bounds.disk = bound)
    (few : (s.step x).2.engine.asked.length < wordBound) :
  (s.step x).2.Steady bound
  := by
  have keeps : (records (s.step x).2).Keeps bound :=
    (cut_advance h steady room fits few).self.before
  cases s with
  | opened c =>
      obtain ⟨-, capacity, counted⟩ := steady
      cases x with
      | ask r =>
          have leads := (Cache.leads_serve c r).disk
          have asked := leads.asked
          refine ⟨keeps, leads.capacity_eq.trans capacity, ?_⟩
          omega
      | close => exact keeps
      | drop => exact keeps
      | reopen bounds => exact ⟨keeps, capacity, counted⟩
  | closed e =>
      cases x with
      | ask r => exact keeps
      | close => exact keeps
      | drop => exact keeps
      | reopen bounds =>
          obtain ⟨q, nextId, queue, counted⟩ := h
          simp only [Session.step] at keeps ⊢
          cases opens : Cache.open? hash bounds e with
          | error failure =>
              rw [opens] at keeps
              exact keeps
          | ok c =>
              rw [opens] at keeps
              obtain ⟨-, -, -, calls, tier⟩ := Cache.holds_of_open? queue opens
              have asked := asked_lt_of_open? opens
              rw [tier] at asked
              refine ⟨keeps, ?_, ?_⟩
              · rw [tier]
                exact fixed bounds rfl
              · rw [tier]
                exact Nat.lt_of_le_of_lt counted asked

/-- Steps may be cut short at any call. -/
theorem cut_run {steps : List Step} (h : s.Sound) (steady : s.Steady bound) (room : 0 < bound)
    (fits : ∀ x ∈ steps, x.Fits)
    (fixed : ∀ bounds, .reopen bounds ∈ steps → bounds.disk = bound)
    (few : (s.after steps).engine.asked.length < wordBound) :
  Cut bound (run steps : Action (Session hash) Unit) s
  := by
  induction steps generalizing s with
  | nil => exact .pure steady.keeps.evolves ()
  | cons x steps ih =>
      obtain ⟨fitsX, fits⟩ := List.forall_mem_cons.1 fits
      have fewer := Nat.lt_of_le_of_lt (asked_le_after (s.step x).2 steps) few
      apply (cut_advance h steady room fitsX fewer).bind fun _ => orderly_run steps
      rintro _ _ ⟨⟩ -
      apply ih (h.step fitsX fewer) _ fits _ few
      · apply steady.step h room fitsX _ fewer
        intro bounds same
        exact fixed bounds (same ▸ List.mem_cons_self)
      · intro bounds later
        exact fixed bounds (List.mem_cons_of_mem x later)

/-! ### What a crash leaves -/

/-- The records that are left when an engine is lost after so many calls, in the course of these
steps. -/
def survivors (hash : Identity → UInt64) (e : Engine) (steps : List Step) (n : Nat) : Records :=
  ((Session.closed (e.upTo n) : Session hash).after steps).engine.records

/-- The records are those of a steady history at each of its calls. -/
theorem evolves_survivors {e : Engine} {steps : List Step}
    (cuts : Cut bound (run steps : Action (Session hash) Unit) (.closed e)) {m n : Nat}
    (le : m ≤ n) :
  Records.Evolves bound (survivors hash e steps m) (survivors hash e steps n)
  := by
  have chain := cuts.chain m n le
  rw [perform_run, perform_run] at chain
  exact chain

theorem after_append (s : Session hash) (earlier later : List Step) :
  s.after (earlier ++ later) = (s.after earlier).after later
  := List.foldl_append

/-- When an engine is lost between two steps, the records are those of the cache that was open
then. -/
theorem survivors_eq {e : Engine} {earlier : List Step} {c : Cache hash}
    (cuts : Cut bound (run earlier : Action (Session hash) Unit) (.closed e))
    (opened : (Session.closed e : Session hash).after earlier = .opened c) (later : List Step) :
  survivors hash e (earlier ++ later) c.disk.engine.asked.length = c.disk.engine.records
  := by
  have late : asked ((run earlier).perform (Session.closed e : Session hash)).2
      ≤ c.disk.engine.asked.length := by
    rw [perform_run, opened]
    exact Nat.le_refl _
  have ended := cuts.uncut late
  rw [perform_run, perform_run, opened] at ended
  have lost : (Session.closed (e.upTo c.disk.engine.asked.length) : Session hash).after earlier
      = upTo c.disk.engine.asked.length (.opened c) := congrArg Prod.snd ended
  have gone : Gone c.disk.engine.asked.length
      (upTo c.disk.engine.asked.length (.opened c : Session hash)) := gone_upTo (Nat.le_refl _)
  have frozen := ((orderly_run later).frozen _ _ gone).2
  rw [perform_run, records_upTo] at frozen
  rw [survivors, after_append, lost]
  exact frozen

/-- A sound cache counts the queue that its records hold. -/
theorem Sound.tier_eq {c : Cache hash} {q : List (Nat × Copy)} {nextId : Nat}
    (h : (Session.opened c).Sound) (queue : c.disk.engine.records.Queue q nextId) :
  q.length = c.disk.count ∧ nextId = c.disk.nextId
  := by
  obtain ⟨-, -, ⟨-, ⟨⟨p, queue', rfl⟩, count⟩, -, -⟩, -⟩ := h
  have same := queue.survey_eq.symm.trans queue'.survey_eq
  obtain ⟨length, rfl⟩ := Prod.mk.inj (Except.ok.inj same)
  rw [count, List.length_map]
  exact ⟨length, rfl⟩

/-- Whatever happened in sessions with one disk bound on an engine that was empty at first, and at
whichever call it was lost, the records that are left can be opened.  The tier is in order, its next
insertion id was never given out, and what had been stored at any earlier call and is still there
keeps its order.  If the engine was lost between two steps, the tier is that of the lost cache. -/
theorem recovers {e e' : Engine} (empty : e.records = .empty) (room : 0 < bound)
    {steps : List Step} (fits : ∀ x ∈ steps, x.Fits)
    (fixed : ∀ bounds, .reopen bounds ∈ steps → bounds.disk = bound)
    (few : ((Session.closed e : Session hash).after steps).engine.asked.length < wordBound)
    {n : Nat} (left : e'.records = survivors hash e steps n) (answers : ∀ fault, ¬ e'.Refuses fault) :
  ∃ d, DiskTier.open? e' bound = .ok d ∧ d.Recovered bound
    ∧ (∀ m ≤ n, ∃ next, (survivors hash e steps m).Later d.engine.records next d.nextId)
    ∧ ∀ earlier later c, steps = earlier ++ later →
        (Session.closed e : Session hash).after earlier = .opened c →
        c.disk.engine.asked.length = n → d.count = c.disk.count ∧ d.nextId = c.disk.nextId
  := by
  have start : (Session.closed e : Session hash).Sound :=
    ⟨[], 0, empty ▸ Records.Queue.of_empty, Nat.zero_le _⟩
  have steady : (Session.closed e : Session hash).Steady bound :=
    ⟨[], 0, empty ▸ Records.Queue.of_empty, Nat.zero_le _⟩
  have cuts := cut_run start steady room fits fixed few
  obtain ⟨q, next, queue, bounded⟩ := (evolves_survivors cuts (Nat.le_refl n)).before
  rw [← left] at queue
  have opens : ∃ d, DiskTier.open? e' bound = .ok d := by
    obtain ⟨calls, ⟨count, nextId, -, opens⟩ | ⟨fault, fails, -⟩⟩ :=
      DiskTier.opened e' (Nat.ne_of_gt room)
    · exact ⟨_, opens⟩
    · rw [queue.survey_eq] at fails
      exact absurd (fails.resolve_right nofun) (answers fault)
  obtain ⟨d, opens⟩ := opens
  obtain ⟨lists, calls, rfl⟩ := DiskTier.lists_of_open? queue (Nat.ne_of_gt room) opens
  refine ⟨_, opens, lists.recovered ?_, ?_, ?_⟩
  · rwa [List.length_map]
  · intro m le
    obtain ⟨first, last, later⟩ := (evolves_survivors cuts le).later
    rw [← left] at later
    obtain rfl := Except.ok.inj (queue.mark_eq.symm.trans later.mark_later)
    exact ⟨first, later⟩
  · rintro earlier later c rfl opened rfl
    have fewer : ((Session.closed e : Session hash).after earlier).engine.asked.length
        < wordBound := by
      rw [after_append] at few
      exact Nat.lt_of_le_of_lt (asked_le_after _ later) few
    have fits : ∀ x ∈ earlier, x.Fits := fun x hx => fits x (List.mem_append_left later hx)
    have cuts := cut_run start steady room fits
      (fun bounds hb => fixed bounds (List.mem_append_left later hb)) fewer
    have sound := sound_after empty fits fewer
    rw [opened] at sound
    rw [left, survivors_eq cuts opened] at queue
    exact sound.tier_eq queue

/-- Four copies are saved where RAM has room for one copy and disk for two. -/
def crowd : List Step :=
  [.reopen ⟨1, 2⟩, .ask (.save (.ofOctet "a" 1)), .ask (.save (.ofOctet "b" 2)),
    .ask (.save (.ofOctet "c" 3)), .ask (.save (.ofOctet "d" 4))]

/-- If the engine is lost when the last save has evicted the oldest copy and has not yet written the
demoted one, the second copy is left, and the next insertion id is the one that was to be given out.
If it is lost before the last save, count and next insertion id are those of the lost cache. -/
theorem recovers_between_writes :
  let left := survivors (fun _ => 0) {} crowd
  (left 13).index = [(Record.indexKey 1, Identity.encode ⟨"", "b"⟩)]
    ∧ (∃ d, DiskTier.open? { records := left 13 } 2 = .ok d ∧ d.Recovered 2
      ∧ d.count = 1 ∧ d.nextId = 2
      ∧ ∀ m ≤ 13, ∃ next, (left m).Later d.engine.records next d.nextId)
    ∧ ∃ c d, (Session.closed {} : Session fun _ => 0).after (crowd.take 4) = .opened c
      ∧ c.disk.engine.asked.length = 9 ∧ c.disk.count = 2 ∧ c.disk.nextId = 2
      ∧ DiskTier.open? { records := left 9 } 2 = .ok d
      ∧ d.count = c.disk.count ∧ d.nextId = c.disk.nextId
  := by
  intro left
  have fits : ∀ x ∈ crowd, x.Fits := by decide
  have fixed : ∀ bounds, .reopen bounds ∈ crowd → bounds.disk = 2 := by simp [crowd]
  have few : ((Session.closed {} : Session fun _ => 0).after crowd).engine.asked.length
      < wordBound := by decide +kernel
  have same (n : Nat) : ({ records := left n } : Engine).records = left n := rfl
  have answers (n : Nat) : ∀ fault, ¬ ({ records := left n } : Engine).Refuses fault := by
    rintro fault ⟨_, ⟨⟩⟩
  refine ⟨by decide +kernel, ?_, ?_⟩
  · obtain ⟨d, opens, recovered, later, -⟩ :=
      recovers rfl Nat.two_pos fits fixed few (same 13) (answers 13)
    have tier : (DiskTier.open? { records := left 13 } 2).toOption.map
        (fun d => (d.count, d.nextId)) = some (1, 2) := by decide +kernel
    rw [opens] at tier
    obtain ⟨count, nextId⟩ := Prod.mk.inj (Option.some.inj tier)
    exact ⟨d, opens, recovered, count, nextId, later⟩
  · obtain ⟨d, opens, -, -, between⟩ :=
      recovers rfl Nat.two_pos fits fixed few (same 9) (answers 9)
    obtain ⟨c, reached, asked, count, nextId⟩ : ∃ c,
        (Session.closed {} : Session fun _ => 0).after (crowd.take 4) = .opened c
          ∧ c.disk.engine.asked.length = 9 ∧ c.disk.count = 2 ∧ c.disk.nextId = 2 :=
      ⟨_, rfl, rfl, rfl, rfl⟩
    have lost := between _ _ c (List.take_append_drop 4 crowd).symm reached asked
    exact ⟨c, d, reached, asked, count, nextId, opens, lost⟩

end Session

end SiteCache
