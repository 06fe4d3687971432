import SiteCache.Proofs.Cache.Failure
import SiteCache.Proofs.Site.Transparency

/-!
# Stale copies

A website was deployed after the copy that the cache has of a requested resource was taken.  Then
the resource is told as the remote store has it, for any cache, any remote store and any refusals of
the engine, unless the copy is on disk and the check passes over it (`Cache.Overlooks`): a fault of
the check is no miss of the read that comes after it, and a copy from a leap second is dated later
on disk than it was saved (`Server.fetched_or_overlooked`).
-/

namespace SiteCache

open SiteCache.Action Reader

variable {σ : Type} {hash : Identity → UInt64}

namespace Cache

variable {c c' : Cache hash} {ram disk : List Copy} {i : Identity} {y : Copy} {deployed : Time}

/-- The cache has a saved copy: in RAM as it is, or on disk with its time settled. -/
def Has (c : Cache hash) (y : Copy) : Prop :=
  c.ram.peek y.identity = some y
    ∨ c.disk.engine.records.copy y.identity = .ok (some y.settled)

instance (c : Cache hash) (y : Copy) : Decidable (c.Has y) :=
  inferInstanceAs (Decidable (_ = _ ∨ _ = _))

/-- How the check passes over a copy that was taken before the deploy: its settled time is not
earlier, or the engine refuses a call of the look at its time or of its deletion. -/
inductive Overlooks (c : Cache hash) (y : Copy) (deployed : Time) : Prop where
  | late (settled : ¬ y.modified.settled < deployed)
  | unread {fault} (refused : c.disk.engine.Refuses fault)
    (looked : ((modified y.identity).perform c).1 = .error fault)
  | undeleted {fault} (refused : c.disk.engine.Refuses fault)
    (ended : ((delete y.identity).perform ((modified y.identity).perform c).2).1 = .error fault)

/-- The copy that a cache has is in one of its two lists, and its identity is not in the other. -/
theorem Holds.of_has (h : c.Holds ram disk) (fits : y.identity.Fits) (has : c.Has y) :
  (c.ram.peek y.identity = some y ∧ Copy.of? y.identity disk = none)
    ∨ (c.ram.peek y.identity = none ∧ Copy.of? y.identity disk = some y.settled)
  := by
  obtain inRam | onDisk := has
  · obtain ⟨stored, -⟩ := Copy.mem_of_of?_eq_some ((h.peek y.identity).symm.trans inRam)
    refine .inl ⟨inRam, Copy.of?_eq_none_iff.2 ?_⟩
    intro x hx
    exact (h.apart y stored x hx).symm
  · have found := Except.ok.inj ((h.lists.copy fits).symm.trans onDisk)
    obtain ⟨stored, -⟩ := Copy.mem_of_of?_eq_some found
    refine .inr ⟨(h.peek y.identity).trans (Copy.of?_eq_none_iff.2 ?_), found⟩
    intro x hx
    exact h.apart x hx y.settled stored

/-- The time of a copy in RAM is known without asking the engine. -/
theorem modified_of_ram (inRam : c.ram.peek i = some y) :
  (modified i).perform c = (.ok y.modified, c)
  := by
  simp only [modified, perform_bind, perform_get, inRam, perform_pure]

/-- A deletion leaves no copy of the identity, or else the one on disk if the engine refuses a
call. -/
theorem Holds.copy?_delete (h : c.Holds ram disk) (fits : i.Fits) :
  ((delete i).perform c).2.copy? i = none
    ∨ ∃ fault, c.disk.engine.Refuses fault ∧ ((delete i).perform c).1 = .error fault
      ∧ ((delete i).perform c).2.copy? i = Copy.of? i disk
  := by
  obtain ⟨fault, refused, answer, h'⟩ | ⟨-, h'⟩ := (deleted i c).holds h fits
  · refine .inr ⟨fault, refused, answer, ?_⟩
    rw [h'.copy?_eq fits, Copy.of?_others, Option.none_or]
  · left
    rw [h'.copy?_eq fits, Copy.of?_others, Copy.of?_others, Option.none_or]

end Cache

namespace Server

variable [Remote σ] {c : Cache hash} {ram disk : List Copy} {y : Copy} {deployed : Time}
  {remote u : σ}

/-- The page that is put together from the remote store, or the fault that this stops with. -/
def fetched (clock : Clock) (i : Identity) (r : Reader σ) : Except Fault Page :=
  ((retrieve clock.steady i).perform r).1.map fun x => ⟨i.resource, x.1, x.2, .remote⟩

/-- A copy in RAM does not outlast the check: its time is known, and it leaves RAM before the engine
is asked to delete what is on disk. -/
private theorem gone_of_ram (lists : PathLists) (h : c.Holds ram disk) (fits : y.identity.Fits)
    (inRam : c.ram.peek y.identity = some y) (notOnDisk : Copy.of? y.identity disk = none)
    (deploy : (deployTime y.identity.address).perform remote = (.ok deployed, u))
    (stale : y.modified < deployed) :
  ∃ c', (dropIfStale y.identity).perform ⟨⟨lists, remote⟩, some c⟩
      = (.ok (), ⟨⟨lists, u⟩, some c'⟩)
    ∧ c'.copy? y.identity = none
  := by
  simp only [dropIfStale, perform_bind, perform_onCache, Option.bind_some, Option.map_some,
    Cache.modified_of_ram inRam, Except.toOption, perform_onRemote, perform_attempt, deploy,
    if_pos stale]
  refine ⟨_, rfl, ?_⟩
  obtain gone | ⟨-, -, -, left⟩ := h.copy?_delete fits
  · exact gone
  · exact left.trans notOnDisk

/-- A copy on disk outlasts the check only if it is passed over. -/
private theorem gone_or_overlooked_on_disk (lists : PathLists) (h : c.Holds ram disk)
    (fits : y.identity.Fits) (notInRam : c.ram.peek y.identity = none)
    (onDisk : Copy.of? y.identity disk = some y.settled)
    (deploy : (deployTime y.identity.address).perform remote = (.ok deployed, u)) :
  ∃ v c', (dropIfStale y.identity).perform ⟨⟨lists, remote⟩, some c⟩
      = (.ok (), ⟨⟨lists, v⟩, some c'⟩)
    ∧ (v = remote ∨ v = u)
    ∧ (c'.copy? y.identity = none
      ∨ c'.copy? y.identity = some y.settled ∧ c.Overlooks y deployed)
  := by
  have copy : c.copy? y.identity = some y.settled := by
    rw [h.copy?_eq fits, ← h.peek, notInRam, onDisk, Option.none_or]
  have looks := h.looks_copy? fits
  have held := looks.holds h
  rw [copy, Option.elim_some] at looks
  simp only [dropIfStale, perform_bind, perform_onCache, Option.bind_some, Option.map_some]
  obtain ⟨calls, looked | ⟨fault, refused, looked⟩⟩ := looks
  · simp only [looked, Except.toOption, perform_bind, perform_onRemote, perform_attempt, deploy]
    rw [looked] at held
    by_cases older : y.settled.modified < deployed
    · simp only [if_pos older, perform_bind, perform_onCache, Option.map_some]
      refine ⟨u, _, rfl, .inr rfl, ?_⟩
      obtain gone | ⟨fault, refused, ended, left⟩ := held.copy?_delete fits
      · exact .inl gone
      · refine .inr ⟨left.trans onDisk, .undeleted refused ?_⟩
        rw [looked]
        exact ended
    · simp only [if_neg older]
      exact ⟨u, _, rfl, .inr rfl, .inr ⟨copy, .late older⟩⟩
  · simp only [looked, Except.toOption]
    refine ⟨remote, _, rfl, .inl rfl, .inr ⟨copy, .unread refused ?_⟩⟩
    rw [looked]

/-- After the check, either no copy is left in the cache, or it is the one on disk that the check
passed over. -/
theorem gone_or_overlooked (lists : PathLists) (h : c.Holds ram disk) (fits : y.identity.Fits)
    (has : c.Has y)
    (deploy : (deployTime y.identity.address).perform remote = (.ok deployed, u))
    (stale : y.modified < deployed) :
  ∃ v c', (dropIfStale y.identity).perform ⟨⟨lists, remote⟩, some c⟩
      = (.ok (), ⟨⟨lists, v⟩, some c'⟩)
    ∧ (v = remote ∨ v = u)
    ∧ (c'.copy? y.identity = none
      ∨ c'.copy? y.identity = some y.settled ∧ c.ram.peek y.identity = none
        ∧ c.Overlooks y deployed)
  := by
  obtain ⟨inRam, notOnDisk⟩ | ⟨notInRam, onDisk⟩ := h.of_has fits has
  · obtain ⟨c', checked, gone⟩ := gone_of_ram lists h fits inRam notOnDisk deploy stale
    exact ⟨u, c', checked, .inr rfl, .inl gone⟩
  · obtain ⟨v, c', checked, during, left⟩ :=
      gone_or_overlooked_on_disk lists h fits notInRam onDisk deploy
    refine ⟨v, c', checked, during, left.imp_right ?_⟩
    rintro ⟨copy, overlooked⟩
    exact ⟨copy, notInRam, overlooked⟩

/-- What is found in the cache is the copy that the check passed over. -/
theorem nothing_or_overlooked (lists : PathLists) (h : c.Holds ram disk) (fits : y.identity.Fits)
    (has : c.Has y)
    (deploy : (deployTime y.identity.address).perform remote = (.ok deployed, u))
    (stale : y.modified < deployed) :
  ∃ page v cache, (fromCache y.identity).perform ⟨⟨lists, remote⟩, some c⟩
      = (.ok page, ⟨⟨lists, v⟩, cache⟩)
    ∧ (v = remote ∨ v = u)
    ∧ ∀ p ∈ page, p = ⟨y.identity.resource, y.content, y.headers, .cache⟩
      ∧ c.ram.peek y.identity = none ∧ c.Overlooks y deployed
  := by
  obtain ⟨v, c', checked, during, left⟩ := gone_or_overlooked lists h fits has deploy stale
  have reads := Cache.reads y.identity c'
  simp only [fromCache, perform_bind, checked, perform_onCache, Option.bind_some, Option.map_some]
  cases answer : ((Cache.read y.identity).perform c').1 with
  | error fault => exact ⟨none, v, _, rfl, during, by rintro p ⟨⟩⟩
  | ok x =>
      obtain ⟨content, headers⟩ := x
      refine ⟨_, v, _, rfl, during, ?_⟩
      rintro p ⟨⟩
      rw [answer] at reads
      have found := reads.copy?_eq
      obtain gone | ⟨copy, notInRam, overlooked⟩ := left
      · rw [gone] at found
        cases found
      · rw [copy] at found
        obtain ⟨rfl, rfl⟩ := Prod.mk.inj (Option.some.inj found)
        exact ⟨rfl, notInRam, overlooked⟩

/-- A website was deployed after the copy was taken that the cache has of the resolved path.  Then
the request is answered from the remote store, or else with the copy, which is on disk, because the
check passed over it. -/
theorem fetched_or_overlooked {s : Server σ hash} (cache : s.cache = some c)
    (holds : c.Holds ram disk) (fits : y.identity.Fits) (has : c.Has y) {clock : Clock}
    {requested : String} {r : Reader σ}
    (resolved : (resolve clock.steady y.identity.address requested).perform s.reader
      = (.ok y.identity.resource, r))
    (deploy : (deployTime y.identity.address).perform r.remote = (.ok deployed, u))
    (stale : y.modified < deployed) (cached : Bool) :
  let answer := ((serve clock y.identity.address requested cached).perform s).1
  (∃ v, (v = r.remote ∨ v = u) ∧ answer = fetched clock y.identity ⟨r.lists, v⟩)
    ∨ answer = .ok ⟨y.identity.resource, y.content, y.headers, .cache⟩
      ∧ c.ram.peek y.identity = none ∧ c.Overlooks y deployed
  := by
  obtain ⟨reader, _⟩ := s
  obtain rfl := cache
  obtain ⟨lists, remote⟩ := r
  simp only [serve_eq, perform_bind, onReader, perform_within, resolved]
  cases cached with
  | false =>
      rw [answer_plain, perform_fromRemote]
      exact .inl ⟨remote, .inl rfl, rfl⟩
  | true =>
      obtain ⟨page, v, cache, found, during, good⟩ :=
        nothing_or_overlooked lists holds fits has deploy stale
      simp only [answer, if_true, perform_bind, found]
      cases page with
      | some p =>
          obtain ⟨rfl, notInRam, overlooked⟩ := good p rfl
          exact .inr ⟨rfl, notInRam, overlooked⟩
      | none =>
          refine .inl ⟨v, during, ?_⟩
          simp only [perform_bind, perform_fromRemote, fetched]
          rcases (retrieve clock.steady y.identity).perform ⟨lists, v⟩ with ⟨fault | x, r⟩
          · rfl
          · simp only [Except.map, perform_onCache, perform_pure]

/-- A website with one page that was deployed so many seconds after the epoch. -/
def deployedAt (seconds : Int) : Reader Datastore :=
  ⟨⟨1, .empty⟩, (({} : Datastore).upload "" "a" [2] 1).setDeployTime "" seconds⟩

/-- An engine that refuses its fifth look at a key. -/
def fifthLookRefused : Engine where
  refuses asked :=
    if asked.head? = some .get ∧ asked.count .get = 5 then
      some (.storage (.engine "fifth look"))
    else none

/-- The look at the time of a copy on disk is refused, and the copy is served. -/
theorem fetched_or_overlooked_unread :
  let clock : Clock := ⟨.ofNanoseconds 2000000000, 0⟩
  let y : Copy := .ofOctet "a" 1
  let deployed : Time := ⟨1, 0, by decide⟩
  let resolved := (resolve clock.steady "" "a").perform (deployedAt 1)
  let deploy := (deployTime "").perform resolved.2.remote
  ∃ c : Cache fun _ => 0,
    let answer := ((serve clock "" "a" true).perform ⟨deployedAt 1, some c⟩).1
    (Session.closed fifthLookRefused).after Cache.twoSaves = .opened c ∧ c.Has y
      ∧ resolved.1 = .ok "a" ∧ deploy.1 = .ok deployed ∧ y.modified < deployed
      ∧ (answer.toOption.map fun page => (page.content, page.source)) = some ([1], .cache)
      ∧ ((∃ v, (v = resolved.2.remote ∨ v = deploy.2)
          ∧ answer = fetched clock y.identity ⟨resolved.2.lists, v⟩)
        ∨ answer = .ok ⟨"a", y.content, y.headers, .cache⟩
          ∧ c.ram.peek y.identity = none ∧ c.Overlooks y deployed)
  := by
  intro clock y deployed resolved deploy
  have run : ∃ c : Cache fun _ => 0,
      (Session.closed fifthLookRefused).after Cache.twoSaves = .opened c ∧ c.Has y
        ∧ ((((serve clock "" "a" true).perform ⟨deployedAt 1, some c⟩).1.toOption.map
          fun page => (page.content, page.source)) = some ([1], .cache)) :=
    ⟨_, rfl, by decide +kernel, by decide +kernel⟩
  obtain ⟨c, reached, has, served⟩ := run
  have fits : ∀ x ∈ Cache.twoSaves, x.Fits := by decide
  let session : Session fun _ => 0 := .closed fifthLookRefused
  have sound : (session.after Cache.twoSaves).Sound := Session.sound_after rfl fits (by decide)
  rw [reached] at sound
  obtain ⟨ram, disk, holds, -⟩ := sound
  have path : resolved.1 = .ok "a" := by decide +kernel
  have time : deploy.1 = .ok deployed := by decide +kernel
  have known : (resolve clock.steady y.identity.address "a").perform (deployedAt 1)
      = (.ok y.identity.resource, resolved.2) := Prod.ext path rfl
  have dated : (deployTime y.identity.address).perform resolved.2.remote
      = (.ok deployed, deploy.2) := Prod.ext time rfl
  have stale : y.modified < deployed := by decide
  have fitsY : y.identity.Fits := by decide
  refine ⟨c, reached, has, path, time, stale, served, ?_⟩
  exact fetched_or_overlooked (s := ⟨deployedAt 1, some c⟩) rfl holds fitsY has known dated stale
    true

/-- A copy from the leap second before the year 2017. -/
def leap : Copy := ⟨⟨"", "a"⟩, [1], ⟨1483228799, 1500000000, by decide⟩, .empty⟩

/-- The copy is saved and leaves RAM for the next one. -/
def leapSaved : List Session.Step :=
  [.reopen ⟨1, 1⟩, .ask (.save leap), .ask (.save (.ofOctet "b" 2))]

/-- A website is deployed in the second after the leap second from which a copy is, and the copy is
served, although the engine refuses nothing. -/
theorem not_fetched_of_leap_second :
  ∃ c : Cache fun _ => 0,
    let s : Server Datastore fun _ => 0 := ⟨deployedAt 1483228800, some c⟩
    let clock : Clock := ⟨⟨1483228801, 0, by decide⟩, 0⟩
    let resolved := (resolve clock.steady "" "a").perform s.reader
    let answer := ((serve clock "" "a" true).perform s).1
    (Session.closed {}).after leapSaved = .opened c
      ∧ (∀ calls, c.disk.engine.refuses calls = none) ∧ c.Has leap ∧ resolved.1 = .ok "a"
      ∧ ((deployTime "").perform resolved.2.remote).1 = .ok ⟨1483228800, 0, by decide⟩
      ∧ leap.modified < ⟨1483228800, 0, by decide⟩
      ∧ (answer.toOption.map fun page => (page.content, page.source)) = some ([1], .cache)
  := ⟨_, rfl, fun _ => rfl, by decide +kernel, by decide +kernel, by decide +kernel, by decide,
    by decide +kernel⟩

end Server

end SiteCache
