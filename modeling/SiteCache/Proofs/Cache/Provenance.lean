import SiteCache.Proofs.Cache.Freshness
import SiteCache.Proofs.Cache.Health

/-!
# Where copies come from

On an engine that refuses nothing, every copy that a session can still find is the one that was
saved last of its identity, whether it was demoted, promoted or flushed since, and found again by
later sessions.  Of all this only the way to disk leaves a trace, and only on a time from a leap
second, which is settled there.  So what is told of an identity that has a copy is what its latest
save was given, up to that (`Session.told_of_resident`).
-/

namespace SiteCache

variable {hash : Identity → UInt64} {P Q : Copy → Prop} {x y : Copy}

/-- The copy is this one as it may be after moves between the tiers. -/
def Copy.MovedFrom (x y : Copy) : Prop := y = x ∨ y = x.settled

namespace Copy.MovedFrom

theorem of_settled (h : x.MovedFrom y) :
  x.MovedFrom y.settled
  := by
  rcases h with rfl | rfl
  · exact .inr rfl
  · exact .inr (Copy.settled_settled x)

theorem identity_eq (h : x.MovedFrom y) :
  y.identity = x.identity
  := by
  rcases h with rfl | rfl <;> rfl

theorem content_eq (h : x.MovedFrom y) :
  y.content = x.content
  := by
  rcases h with rfl | rfl <;> rfl

theorem headers_eq (h : x.MovedFrom y) :
  y.headers = x.headers
  := by
  rcases h with rfl | rfl <;> rfl

theorem modified (h : x.MovedFrom y) :
  y.modified = x.modified ∨ y.modified = x.modified.settled
  := h.imp (congrArg Copy.modified) (congrArg Copy.modified)

end Copy.MovedFrom

namespace Session

variable {s : Session hash} {c : Cache hash} {z : Step × Answer} {past : List (Step × Answer)}

/-! ### The latest save -/

/-- An open cache was asked to save or to delete this identity, whatever came of it. -/
def Writes (z : Step × Answer) (i : Identity) : Prop :=
  z.2 ≠ none ∧ ((∃ x, z.1 = .ask (.save x) ∧ x.identity = i) ∨ z.1 = .ask (.delete i))

/-- The copy was saved, and since then no save or deletion of its identity was asked for. -/
def LatestSave (past : List (Step × Answer)) (x : Copy) : Prop :=
  ∃ earlier later, past = earlier ++ (.ask (.save x), some (.ok .done)) :: later
    ∧ ∀ z ∈ later, ¬ Writes z x.identity

/-- The copy goes back to the latest save of its identity. -/
def Origin (past : List (Step × Answer)) (y : Copy) : Prop :=
  ∃ x, LatestSave past x ∧ x.MovedFrom y

/-- What is found after a step, if all that was found before it has this property. -/
def Since (Q : Copy → Prop) (z : Step × Answer) (y : Copy) : Prop :=
  (∃ x, z = (.ask (.save x), some (.ok .done)) ∧ x.MovedFrom y) ∨ (¬ Writes z y.identity ∧ Q y)

theorem Origin.settled (h : Origin past y) :
  Origin past y.settled
  := by
  obtain ⟨x, latest, moved⟩ := h
  exact ⟨x, latest, moved.of_settled⟩

theorem Since.settled (settled : ∀ y, Q y → Q y.settled) (h : Since Q z y) :
  Since Q z y.settled
  := by
  obtain ⟨x, saved, moved⟩ | ⟨kept, held⟩ := h
  · exact .inl ⟨x, saved, moved.of_settled⟩
  · exact .inr ⟨kept, settled y held⟩

/-- After one more step, a copy goes back to that step or, unless it writes the identity, to the
same save as before. -/
theorem origin_concat (h : Since (Origin past) z y) :
  Origin (past ++ [z]) y
  := by
  obtain ⟨x, rfl, moved⟩ | ⟨kept, x, ⟨earlier, later, rfl, rest⟩, moved⟩ := h
  · exact ⟨x, ⟨past, [], rfl, by simp⟩, moved⟩
  · refine ⟨x, ⟨earlier, later ++ [z], by simp, ?_⟩, moved⟩
    intro z' hz'
    rcases List.mem_append.1 hz' with hz' | hz'
    · exact rest z' hz'
    · obtain rfl := List.mem_singleton.1 hz'
      rwa [← moved.identity_eq]

theorem writes_ask {r : Cache.Request} {answer : Answer} {i : Identity}
    (h : Writes (.ask r, answer) i) :
  (∃ x, r = .save x ∧ x.identity = i) ∨ r = .delete i
  := by
  obtain ⟨-, ⟨x, same, rfl⟩ | same⟩ := h
  · exact .inl ⟨x, Step.ask.inj same, rfl⟩
  · exact .inr (Step.ask.inj same)

/-! ### All copies that can be found -/

/-- All copies that a session can still find have this property. -/
def All (Q : Copy → Prop) : Session hash → Prop
  | .closed e => ∃ q nextId, e.records.Queue q nextId ∧ nextId ≤ e.asked.length ∧ ∀ x ∈ q, Q x.2
  | .opened c => c.disk.nextId ≤ c.disk.engine.asked.length ∧ c.All Q

theorem All.mono (h : s.All P) (weaker : ∀ y, P y → Q y) :
  s.All Q
  := by
  cases s with
  | closed e =>
      obtain ⟨q, nextId, queue, counted, held⟩ := h
      exact ⟨q, nextId, queue, counted, fun x hx => weaker x.2 (held x hx)⟩
  | opened c => exact ⟨h.1, h.2.mono weaker⟩

/-- A step that writes no identity. -/
theorem All.of_kept (h : s.All Q) (kept : ∀ i, ¬ Writes z i) :
  s.All (Since Q z)
  := h.mono fun y held => .inr ⟨kept y.identity, held⟩

/-- A request keeps the property of all copies in a cache, but for those that it writes. -/
theorem all_serve {r : Cache.Request} (settled : ∀ y, Q y → Q y.settled) (fits : r.identity.Fits)
    (healthy : ∀ fault, ¬ c.disk.engine.Refuses fault) (h : c.All Q) :
  (c.serve r).2.All (Since Q (.ask r, some (c.serve r).1))
  := by
  have kept (h : (c.serve r).2.All Q) (silent : ∀ i, ¬ Writes (.ask r, some (c.serve r).1) i) :
      (c.serve r).2.All (Since Q (.ask r, some (c.serve r).1)) :=
    h.mono fun y held => .inr ⟨silent y.identity, held⟩
  have peek (peeks : r.Peeks) :
      (c.serve r).2.All (Since Q (.ask r, some (c.serve r).1)) := by
    obtain ⟨answer, looks⟩ := Cache.looks_of_peeks peeks c
    apply kept (looks.all h)
    intro i written
    obtain ⟨x, rfl, -⟩ | rfl := writes_ask written
    · cases peeks
    · cases peeks
  cases r with
  | save x =>
      rw [Cache.serve, Cache.Request.act, Action.perform_map]
      apply h.replace (Q := Since Q _) (fun y => Since.settled settled) fits
      · intro y held other
        refine .inr ⟨?_, held⟩
        intro written
        obtain ⟨x', same, identity⟩ | same := writes_ask written
        · cases same
          exact other identity.symm
        · cases same
      · intro fault refused
        exact absurd refused (healthy fault)
      · intro done
        exact .inl ⟨x, by rw [done]; rfl, .inl rfl⟩
  | delete i =>
      rw [Cache.serve, Cache.Request.act, Action.perform_map]
      apply (h.delete fits healthy).mono
      rintro y ⟨held, other⟩
      refine .inr ⟨?_, held⟩
      intro written
      obtain ⟨x, same, -⟩ | same := writes_ask written
      · cases same
      · cases same
        exact other rfl
  | read i =>
      apply kept
      · rw [Cache.serve, Cache.Request.act, Action.perform_map]
        exact (h.read settled fits).1
      intro j written
      obtain ⟨x, same, -⟩ | same := writes_ask written
      · cases same
      · cases same
  | modified i => exact peek trivial
  | headers i => exact peek trivial
  | header i name => exact peek trivial
  | place i => exact peek trivial

/-- A step keeps the property of all copies that can be found, but for those that it writes. -/
theorem All.step {x : Step} (h : s.All Q) (settled : ∀ y, Q y → Q y.settled) (fits : x.Fits)
    (healthy : ∀ fault, ¬ s.engine.Refuses fault)
    (few : (s.step x).2.engine.asked.length < wordBound) :
  (s.step x).2.All (Since Q (x, (s.step x).1))
  := by
  have kept (s' : Session hash) {z : Step × Answer} (found : s'.All Q)
      (other : ∀ r, z.1 ≠ .ask r) : s'.All (Since Q z) := by
    apply found.of_kept
    rintro i ⟨-, ⟨x, same, -⟩ | same⟩
    · exact other _ same
    · exact other _ same
  cases s with
  | opened c =>
      obtain ⟨counted, all⟩ := h
      cases x with
      | ask r =>
          exact ⟨(Cache.leads_serve c r).disk.counted counted, all_serve settled fits healthy all⟩
      | close => exact kept (.closed _) (all.close settled counted few) (by simp)
      | drop =>
          apply kept (.closed _) _ (by simp)
          obtain ⟨ram, disk, holds, -, onDisk⟩ := all (Nat.lt_of_le_of_lt counted few)
          obtain ⟨q, queue, rfl⟩ := holds.lists.queue
          exact ⟨q, _, queue, counted, fun x hx => onDisk x.2 (List.mem_map_of_mem hx)⟩
      | reopen bounds => exact kept (.opened _) ⟨counted, all⟩ (by simp)
  | closed e =>
      obtain ⟨q, nextId, queue, counted, held⟩ := h
      have same : (Session.closed e : Session hash).All Q := ⟨q, nextId, queue, counted, held⟩
      cases x with
      | ask r =>
          apply same.of_kept
          rintro i ⟨answered, -⟩
          exact answered rfl
      | close => exact kept (.closed _) same (by simp)
      | drop => exact kept (.closed _) same (by simp)
      | reopen bounds =>
          simp only [Session.step]
          cases opens : Cache.open? hash bounds e with
          | ok c =>
              obtain ⟨-, -, -, calls, tier⟩ := Cache.holds_of_open? queue opens
              apply kept (.opened _) ⟨?_, Cache.all_of_open? queue opens held⟩ (by simp)
              rw [tier]
              exact (DiskTier.Leads.of_asking ⟨e, bounds.disk, q.length, nextId⟩ calls).counted
                counted
          | error failure =>
              obtain ⟨calls, engine⟩ := Cache.engine_unopened opens
              apply kept (.closed _) _ (by simp)
              rw [engine]
              refine ⟨q, nextId, queue, Nat.le_trans counted ?_, held⟩
              simp [Engine.asking]

/-- Throughout a session, all copies that can be found go back to the latest saves. -/
theorem all_origin {steps : List Step} (h : s.All (Origin past)) (fits : ∀ x ∈ steps, x.Fits)
    (healthy : ∀ fault, ¬ s.engine.Refuses fault)
    (few : (s.after steps).engine.asked.length < wordBound) :
  (s.after steps).All (Origin (past ++ s.trace steps))
  := by
  induction steps generalizing s past with
  | nil =>
      rw [trace, List.append_nil]
      exact h
  | cons x steps ih =>
      obtain ⟨fitsX, fits⟩ := List.forall_mem_cons.1 fits
      have later := Nat.lt_of_le_of_lt (asked_le_after (s.step x).2 steps) few
      have next := (h.step (fun y => Origin.settled) fitsX healthy later).mono
        fun y => origin_concat
      rw [trace, List.append_cons]
      apply ih next fits _ few
      intro fault refused
      rw [Engine.Refuses, refuses_step] at refused
      exact healthy fault refused

/-! ### What is told -/

/-- What a cache tells of an identity in this place is what this copy was saved with.  Only a time
from a leap second may be settled, and is so on disk; and only another copy in RAM, whose time
cannot be stored, may keep a copy on disk from being read. -/
structure Tells (c : Cache hash) (p : Place) (x : Copy) : Prop where
  modified : ∃ t, ((Cache.modified x.identity).perform c).1 = .ok t
    ∧ (t = x.modified ∨ t = x.modified.settled) ∧ (p = .disk → t = x.modified.settled)
  ordinary : x.modified.nanos < 1000000000 →
    ((Cache.modified x.identity).perform c).1 = .ok x.modified
  headers : ((Cache.headers x.identity).perform c).1 = .ok x.headers
  read : ((Cache.read x.identity).perform c).1 = .ok (x.content, x.headers)
    ∨ p = .disk ∧ ∃ w ∈ c.ram.copies, w.identity ≠ x.identity ∧ ¬ w.modified.Storable
      ∧ ((Cache.read x.identity).perform c).1 = .error (.storage (.timeRange w.modified))

/-- A copy in one of the lists is told as the copy that it comes from. -/
theorem tells_of_moved {ram disk : List Copy} {p : Place} (h : c.Holds ram disk)
    (healthy : ∀ fault, ¬ c.disk.engine.Refuses fault) (moved : x.MovedFrom y)
    (place : p = .ram ∧ y ∈ ram ∨ p = .disk ∧ y ∈ disk) :
  Tells c p x
  := by
  have hy : y ∈ ram ∨ y ∈ disk := place.imp And.right And.right
  obtain ⟨modified, headers⟩ := h.tells healthy hy
  have read := h.reads_of_mem healthy hy
  have onDisk (stored : y ∈ disk) : p = .disk := by
    obtain ⟨-, inRam⟩ | ⟨rfl, -⟩ := place
    · exact absurd rfl (h.apart y inRam y stored)
    · rfl
  have time := moved.modified
  rw [moved.identity_eq] at modified headers read
  rw [moved.headers_eq] at headers
  rw [moved.content_eq, moved.headers_eq, ← h.copies_eq] at read
  refine ⟨⟨y.modified, modified, time, ?_⟩, ?_, headers, read.imp_right (.imp_left onDisk)⟩
  · rintro rfl
    obtain ⟨⟨⟩, -⟩ | ⟨-, stored⟩ := place
    have settled : y.modified.settled = y.modified :=
      congrArg Copy.modified (h.lists.settled stored)
    rcases time with time | time
    · rw [← time, settled]
    · exact time
  · intro ordinary
    rw [Time.settled_eq ordinary, or_self] at time
    rwa [time] at modified

/-- An identity has a copy in a cache that sessions on an engine have reached, which was empty at
first and refuses nothing.  Then the cache tells of it what its latest save was given, wherever the
copy has been since. -/
theorem told_of_resident {e : Engine} (empty : e.records = .empty)
    (healthy : ∀ calls, e.refuses calls = none) {steps : List Step} (fits : ∀ x ∈ steps, x.Fits)
    (reached : (Session.closed e : Session hash).after steps = .opened c)
    (few : c.disk.engine.asked.length < wordBound) {i : Identity} (fitsI : i.Fits) {p : Place}
    (resident : ((Cache.place i).perform c).1 = .ok (some p)) :
  ∃ x, x.identity = i ∧ LatestSave ((Session.closed e : Session hash).trace steps) x ∧ Tells c p x
  := by
  have start : (Session.closed e : Session hash).All (Origin []) :=
    ⟨[], 0, empty ▸ Records.Queue.of_empty, Nat.zero_le _, by rintro x ⟨⟩⟩
  have all := all_origin start fits (Engine.not_refuses healthy) (by rwa [reached])
  have refuses := refuses_after (Session.closed e : Session hash) steps
  rw [reached] at all refuses
  obtain ⟨counted, all⟩ := all
  obtain ⟨ram, disk, holds, inRam, onDisk⟩ := all (Nat.lt_of_le_of_lt counted few)
  have healthy : ∀ fault, ¬ c.disk.engine.Refuses fault :=
    Engine.not_refuses fun calls => (congrFun refuses calls).trans (healthy calls)
  obtain ⟨y, rfl, place⟩ := holds.mem_of_place healthy fitsI resident
  have origin : Origin ([] ++ (Session.closed e : Session hash).trace steps) y := by
    obtain ⟨-, hy⟩ | ⟨-, hy⟩ := place
    · exact inRam y hy
    · exact onDisk y hy
  obtain ⟨x, latest, moved⟩ := origin
  exact ⟨x, moved.identity_eq.symm, latest, tells_of_moved holds healthy moved place⟩

/-- The cache of a session that has one open. -/
def cache? : Session hash → Option (Cache hash)
  | .opened c => some c
  | .closed _ => none

theorem cache?_eq_some_iff :
  s.cache? = some c ↔ s = .opened c
  := by
  cases s <;> simp [cache?]

/-- A copy is demoted, promoted and flushed. -/
def travels : List Step :=
  [.reopen ⟨1, 1⟩, .ask (.save (.ofOctet "a" 1)), .ask (.save (.ofOctet "b" 2)),
    .ask (.read ⟨"", "a"⟩), .close, .reopen ⟨1, 1⟩]

/-- The next session finds it as it was saved. -/
theorem told_of_resident_travels :
  let s : Session fun _ => 0 := .closed {}
  ∃ c : Cache fun _ => 0, s.after travels = .opened c ∧ c.disk.engine.asked.length < wordBound
    ∧ ((Cache.place ⟨"", "a"⟩).perform c).1 = .ok (some .disk)
    ∧ ∃ x, x.identity = ⟨"", "a"⟩ ∧ LatestSave (s.trace travels) x ∧ Tells c .disk x
  := by
  intro s
  have healthy (calls : List Engine.Call) : ({} : Engine).refuses calls = none := rfl
  have run : (s.after travels).cache?.any fun c => c.disk.engine.asked.length < wordBound
      ∧ ((Cache.place ⟨"", "a"⟩).perform c).1 = .ok (some .disk) := by decide +kernel
  obtain ⟨c, opened, shown⟩ := (Option.any_eq_true _ _).1 run
  have reached := cache?_eq_some_iff.1 opened
  obtain ⟨few, resident⟩ := of_decide_eq_true shown
  exact ⟨c, reached, few, resident,
    told_of_resident rfl healthy (by decide) reached few (by decide) resident⟩

/-- A copy from the leap second before the year 2017. -/
def lastOfYear : Copy := ⟨⟨"", "a"⟩, [1], ⟨1483228799, 1250000000, by decide⟩, .empty⟩

/-- The copy is saved and leaves RAM for the next one. -/
def leaps : List Step :=
  [.reopen ⟨1, 1⟩, .ask (.save lastOfYear), .ask (.save (.ofOctet "b" 2))]

/-- The time that is told of the copy is not that of its save, although the engine refuses
nothing. -/
theorem not_told_of_leap_second :
  let s : Session fun _ => 0 := .closed {}
  ∃ c : Cache fun _ => 0, s.after leaps = .opened c
    ∧ (∀ calls, c.disk.engine.refuses calls = none) ∧ LatestSave (s.trace leaps) lastOfYear
    ∧ ((Cache.place lastOfYear.identity).perform c).1 = .ok (some .disk)
    ∧ ((Cache.modified lastOfYear.identity).perform c).1
      = .ok ⟨1483228800, 250000000, by decide⟩
    ∧ lastOfYear.modified ≠ ⟨1483228800, 250000000, by decide⟩
  := by
  intro s
  have saved : LatestSave (s.trace leaps) lastOfYear := by
    refine ⟨[(.reopen ⟨1, 1⟩, some (.ok .done))],
      [(.ask (.save (.ofOctet "b" 2)), some (.ok .done))], rfl, ?_⟩
    intro z hz written
    obtain rfl := List.mem_singleton.1 hz
    obtain ⟨x, same, identity⟩ | same := writes_ask written
    · cases same
      exact absurd identity (by decide)
    · cases same
  exact ⟨_, rfl, fun _ => rfl, saved, by decide +kernel, by decide +kernel, by decide⟩

end Session

end SiteCache
