import SiteCache.Proofs.Cache.Freshness
import SiteCache.Proofs.Site.Reading
import SiteCache.Site.Server

/-!
# The cache is transparent

As long as the remote store does not change, whoever asks for a resource is told the same with the
cache as without it (`Service.outcomes_eq_plain`): the resource, its content and its headers, or the
same fault.  The cache may be closed or dropped and opened again at any time, and its engine may
refuse any call.  This rests on one invariant: whatever a cache holds for a resource is what the
remote store has of it (`Server.Genuine`).
-/

namespace SiteCache

open SiteCache.Action Reader

variable {σ α : Type} {hash : Identity → UInt64} {P : σ → Prop}

/-- What is told with a page, wherever it comes from. -/
def Page.told (p : Page) : String × Octets × Headers := (p.resource, p.content, p.headers)

namespace Server

/-- Acting on the cache neither fails nor touches the reader. -/
theorem perform_onCache (a : Action (Cache hash) α) (s : Server σ hash) :
  (onCache a).perform s = (.ok (s.cache.bind fun c => (a.perform c).1.toOption),
    { s with cache := s.cache.map fun c => (a.perform c).2 })
  := by
  obtain ⟨reader, cache⟩ := s
  cases cache <;> rfl

theorem perform_onRemote (a : Action σ α) (s : Server σ hash) :
  (onRemote a).perform s = ((a.perform s.reader.remote).1,
    { s with reader := { s.reader with remote := (a.perform s.reader.remote).2 } })
  := rfl

variable [Remote σ]

/-- Whatever the cache holds for a resource is what the remote store has of it. -/
def Genuine (P : σ → Prop) (cache : Option (Cache hash)) : Prop :=
  ∀ c ∈ cache, c.Only (Fixed P)

variable {s : Server σ hash} {i : Identity} {clock : Clock}

/-- What keeps a cache genuine does so whether there is a cache or not. -/
theorem Genuine.map {cache : Option (Cache hash)} {f : Cache hash → Cache hash}
    (h : Genuine P cache) (kept : ∀ c, c.Only (Fixed P) → (f c).Only (Fixed P)) :
  Genuine P (cache.map f)
  := by
  intro c hc
  obtain ⟨c', hc', rfl⟩ := Option.map_eq_some_iff.1 hc
  exact kept c' (h c' hc')

theorem Genuine.modified {cache : Option (Cache hash)} (h : Genuine P cache) (i : Identity) :
  Genuine P (cache.map fun c => ((Cache.modified i).perform c).2)
  := h.map fun c only => (Cache.looks_modified i c).only only

theorem Genuine.deleted {cache : Option (Cache hash)} (h : Genuine P cache) (fits : i.Fits) :
  Genuine P (cache.map fun c => ((Cache.delete i).perform c).2)
  := h.map fun c only => ((Cache.deleted i c).only fits only).mono fun _ _ _ good => good.2

theorem Genuine.saved {cache : Option (Cache hash)} {x : Copy} (h : Genuine P cache)
    (fits : x.identity.Fits) (fixed : Fixed P x.identity x.content x.headers) :
  Genuine P (cache.map fun c => ((Cache.save x).perform c).2)
  := by
  apply h.map
  intro c only
  apply ((Cache.saved x c).only fits only).mono
  rintro i content headers (⟨-, rfl, rfl, rfl⟩ | ⟨-, good⟩)
  · exact fixed
  · exact good

/-- A copy is dropped without a fault, and then nothing else is changed but the state of the remote
store. -/
theorem perform_dropIfStale (h : Remote.Unchanging P) (remote : P s.reader.remote)
    (genuine : Genuine P s.cache) (fits : i.Fits) :
  ∃ u cache, (dropIfStale i).perform s = (.ok (), ⟨⟨s.reader.lists, u⟩, cache⟩)
    ∧ P u ∧ Genuine P cache
  := by
  have looked := genuine.modified i
  simp only [dropIfStale, perform_bind, perform_onCache]
  cases s.cache.bind fun c => ((Cache.modified i).perform c).1.toOption with
  | none => exact ⟨s.reader.remote, _, rfl, remote, looked⟩
  | some taken =>
      have kept := (h.deployTime i.address _ _ ⟨remote, remote⟩).2.1
      simp only [perform_bind, perform_onRemote, perform_attempt]
      cases ((deployTime i.address).perform s.reader.remote).1 with
      | error fault => exact ⟨_, _, rfl, kept, looked⟩
      | ok deployed =>
          by_cases stale : taken < deployed
          · simp only [if_pos stale, perform_bind, perform_onCache]
            exact ⟨_, _, rfl, kept, looked.deleted fits⟩
          · simp only [if_neg stale]
            exact ⟨_, _, rfl, kept, looked⟩

/-- What is found in the cache is what the remote store has, and nothing else is changed but the
state of the remote store. -/
theorem perform_fromCache (h : Remote.Unchanging P) (remote : P s.reader.remote)
    (genuine : Genuine P s.cache) (fits : i.Fits) :
  ∃ page u cache, (fromCache i).perform s = (.ok page, ⟨⟨s.reader.lists, u⟩, cache⟩)
    ∧ P u ∧ Genuine P cache
    ∧ ∀ p ∈ page, p.resource = i.resource ∧ Fixed P i p.content p.headers
  := by
  obtain ⟨u, cache, dropped, hu, genuine⟩ := perform_dropIfStale h remote genuine fits
  have read := genuine.map fun c only => ((Cache.reads i c).only fits only).1
  simp only [fromCache, perform_bind, dropped, perform_onCache]
  cases found : cache.bind fun c => ((Cache.read i).perform c).1.toOption with
  | none => exact ⟨none, u, _, rfl, hu, read, by rintro p ⟨⟩⟩
  | some x =>
      obtain ⟨content, headers⟩ := x
      refine ⟨some ⟨i.resource, content, headers, .cache⟩, u, _, rfl, hu, read, ?_⟩
      rintro p ⟨⟩
      obtain ⟨c, hc, answer⟩ := Option.bind_eq_some_iff.1 found
      refine ⟨rfl, ((Cache.reads i c).only fits (genuine c hc)).2 content headers ?_⟩
      cases reads : ((Cache.read i).perform c).1 with
      | error fault =>
          rw [reads] at answer
          cases answer
      | ok x =>
          rw [reads] at answer
          exact congrArg Except.ok (Option.some.inj answer)

theorem perform_fromRemote (clock : Clock) (i : Identity) (s : Server σ hash) :
  (fromRemote clock i).perform s
    = (((retrieve clock.steady i).perform s.reader).1.map
        fun x => ⟨i.resource, x.1, x.2, .remote⟩,
      { s with reader := ((retrieve clock.steady i).perform s.reader).2 })
  := by
  obtain ⟨reader, cache⟩ := s
  simp only [fromRemote, retrieve, onRemote, onReader, perform_bind, perform_within]
  rcases (fetch clock.steady i.address i.resource).perform reader with ⟨fault | content, t⟩
  · rfl
  · simp only
    rcases (Reader.onRemote (Reader.headers i.address i.resource)).perform t
      with ⟨fault | headers, t⟩
    · rfl
    · rfl

/-- Tells what a resource is, once its path has been resolved. -/
def answer (clock : Clock) (i : Identity) (cached : Bool) : Action (Server σ hash) Page := do
  match ← if cached then fromCache i else pure none with
  | some page => pure page
  | none =>
    let page ← fromRemote clock i
    if cached then
      let _ ← onCache (Cache.save ⟨i, page.content, clock.wall, page.headers⟩)
    pure page

theorem serve_eq (clock : Clock) (address requested : String) (cached : Bool) :
  (serve clock address requested cached : Action (Server σ hash) Page) = (do
    let path ← onReader (resolve clock.steady address requested)
    answer clock ⟨address, path⟩ cached)
  := rfl

theorem answer_plain (clock : Clock) (i : Identity) (s : Server σ hash) :
  (answer clock i false).perform s = (fromRemote clock i).perform s
  := by
  rw [answer]
  simp only [Bool.false_eq_true, if_false, perform_bind, perform_pure]
  rcases (fromRemote clock i).perform s with ⟨fault | page, t⟩ <;> rfl

/-- A known resource is told alike with and without the cache. -/
theorem told_answer (h : Remote.Unchanging P) (s s' : Server σ hash) {list list' : PathList}
    (alike : Alike P s.reader s'.reader) (genuine : Genuine P s.cache) (fits : i.Fits)
    (knows : Knows P clock.steady i.address list s.reader)
    (knows' : Knows P clock.steady i.address list' s'.reader) (cached : Bool) :
  let ended := (answer clock i cached).perform s
  let plain := (answer clock i false).perform s'
  ended.1.map Page.told = plain.1.map Page.told ∧ Alike P ended.2.reader plain.2.reader
    ∧ Genuine P ended.2.cache
  := by
  simp only [answer_plain, perform_fromRemote]
  cases cached with
  | false =>
      simp only [answer_plain, perform_fromRemote]
      obtain ⟨same, later⟩ := respects_retrieve h (compatible_alike h) clock.steady i _ _ alike
      exact ⟨by rw [same], later, genuine⟩
  | true =>
      obtain ⟨page, u, cache, found, hu, genuine, good⟩ :=
        perform_fromCache h alike.first genuine fits
      simp only [answer, if_true, perform_bind, found]
      have alike : Alike P ⟨s.reader.lists, u⟩ s'.reader :=
        ⟨alike.lists, alike.recalls, hu, alike.second⟩
      cases page with
      | some p =>
          obtain ⟨resource, fixed⟩ := good p rfl
          obtain ⟨u', hu', retrieved⟩ := fixed.retrieve h knows'
          rw [retrieved, ← resource]
          exact ⟨rfl, ⟨alike.lists, alike.recalls, hu, hu'⟩, genuine⟩
      | none =>
          obtain ⟨same, later⟩ := respects_retrieve h (compatible_alike h) clock.steady i _ _ alike
          rcases retrieved : (retrieve clock.steady i).perform ⟨s.reader.lists, u⟩ with ⟨answer, r⟩
          rw [retrieved] at same later
          rw [← same]
          simp only [perform_bind, perform_fromRemote, retrieved]
          cases answer with
          | error fault => exact ⟨rfl, later, genuine⟩
          | ok x =>
              have fixed := fixed_of_retrieve h (knows.asking hu) retrieved
              simp only [perform_onCache, Except.map]
              exact ⟨rfl, later, genuine.saved fits fixed⟩

/-- A request is told alike with and without the cache. -/
theorem told_serve (h : Remote.Unchanging P) (s s' : Server σ hash) (clock : Clock)
    {address requested : String} (alike : Alike P s.reader s'.reader) (genuine : Genuine P s.cache)
    (fits : Identity.Fits ⟨address, requested ++ pageSuffix⟩) (cached : Bool) :
  let ended := (serve clock address requested cached).perform s
  let plain := (serve clock address requested false).perform s'
  ended.1.map Page.told = plain.1.map Page.told ∧ Alike P ended.2.reader plain.2.reader
    ∧ Genuine P ended.2.cache
  := by
  obtain ⟨same, later⟩ :=
    respects_resolve (compatible_alike h) clock.steady address requested _ _ alike
  have self : Alike P s.reader s.reader := ⟨rfl, alike.recalls, alike.first, alike.first⟩
  have self' : Alike P s'.reader s'.reader :=
    ⟨rfl, alike.lists ▸ alike.recalls, alike.second, alike.second⟩
  simp only [serve_eq, perform_bind, onReader, perform_within]
  rcases resolved : (resolve clock.steady address requested).perform s.reader with ⟨found, r⟩
  rcases resolved' : (resolve clock.steady address requested).perform s'.reader with ⟨found', r'⟩
  rw [resolved, resolved'] at same later
  obtain rfl : found = found' := same
  cases found with
  | error fault => exact ⟨rfl, later, genuine⟩
  | ok path =>
      obtain ⟨list, knows⟩ := knows_of_resolve h self resolved
      obtain ⟨list', knows'⟩ := knows_of_resolve h self' resolved'
      exact told_answer h ⟨r, s.cache⟩ ⟨r', s'.cache⟩ later genuine
        (fits_of_resolve fits resolved) knows knows' cached

end Server

/-- A reader of websites with sessions of its cache. -/
structure Service (σ : Type) (hash : Identity → UInt64) where
  reader : Reader σ
  session : Session hash

namespace Service

/-- What may happen to a service: a request, with or without the cache, and what may happen to a
cache between requests. -/
inductive Event where
  | request (clock : Clock) (address requested : String) (cached : Bool)
  | close
  | drop
  | reopen (bounds : Bounds)

namespace Event

/-- The same without the cache. -/
def plain : Event → Event
  | .request clock address requested _ => .request clock address requested false
  | e => e

/-- Whatever a requested path may be resolved to can be encoded. -/
def Fits : Event → Prop
  | .request _ address requested _ => Identity.Fits ⟨address, requested ++ pageSuffix⟩
  | _ => True

instance : DecidablePred Fits
  | .request _ address requested _ =>
    inferInstanceAs (Decidable (Identity.Fits ⟨address, requested ++ pageSuffix⟩))
  | .close => inferInstanceAs (Decidable True)
  | .drop => inferInstanceAs (Decidable True)
  | .reopen _ => inferInstanceAs (Decidable True)

end Event

/-- What is told in answer to a request: resource, content and headers, or a fault. -/
abbrev Outcome := Except Fault (String × Octets × Headers)

/-- The cache that is open. -/
def cache? (s : Service σ hash) : Option (Cache hash) :=
  match s.session with
  | .opened c => some c
  | .closed _ => none

variable [Remote σ]

/-- A request is served from what cache is open; all else happens to the session of the cache. -/
def step (s : Service σ hash) : Event → Option Outcome × Service σ hash
  | .request clock address requested cached =>
    let (answer, server) :=
      (Server.serve clock address requested cached).perform ⟨s.reader, s.cache?⟩
    (some (answer.map Page.told), ⟨server.reader, server.cache.elim s.session .opened⟩)
  | .close => (none, ⟨s.reader, (s.session.step .close).2⟩)
  | .drop => (none, ⟨s.reader, (s.session.step .drop).2⟩)
  | .reopen bounds => (none, ⟨s.reader, (s.session.step (.reopen bounds)).2⟩)

/-- What is told in answer to each request. -/
def outcomes (s : Service σ hash) : List Event → List (Option Outcome)
  | [] => []
  | e :: events => (s.step e).1 :: outcomes (s.step e).2 events

/-- The readers remember the same, and whatever the first service still has in its cache is what the
remote store has. -/
structure Agrees (P : σ → Prop) (s s' : Service σ hash) : Prop where
  alike : Alike P s.reader s'.reader
  genuine : s.session.Only (Fixed P)

variable {s s' : Service σ hash}

theorem Agrees.cache? (h : s.Agrees P s') :
  Server.Genuine P s.cache?
  := by
  obtain ⟨reader, session⟩ := s
  cases session with
  | closed e => rintro c ⟨⟩
  | opened c =>
      rintro _ ⟨⟩
      exact h.genuine

private theorem only_elim {Q : Identity → Octets → Headers → Prop} {session : Session hash}
    {cache : Option (Cache hash)} (h : session.Only Q) (kept : ∀ c ∈ cache, c.Only Q) :
  (cache.elim session .opened).Only Q
  := by
  cases cache with
  | none => exact h
  | some c => exact kept c rfl

/-- What is not asked of a cache keeps what it holds. -/
theorem only_step_of_unasked {Q : Identity → Octets → Headers → Prop} {session : Session hash}
    (h : session.Only Q) {x : Session.Step} (unasked : ∀ r, x ≠ .ask r) (fits : x.Fits) :
  (session.step x).2.Only Q
  := by
  apply (Session.only_step fits h).mono
  rintro i content headers (⟨copy, same, -⟩ | ⟨-, good⟩)
  · exact absurd (Prod.mk.inj same).1 (unasked _)
  · exact good

/-- An event is told alike with and without the cache, and the services go on agreeing. -/
theorem Agrees.step (h : Remote.Unchanging P) (agrees : s.Agrees P s') {e : Event} (fits : e.Fits) :
  (s.step e).1 = (s'.step e.plain).1 ∧ (s.step e).2.Agrees P (s'.step e.plain).2
  := by
  obtain ⟨alike, genuine⟩ := agrees
  cases e with
  | request clock address requested cached =>
      obtain ⟨told, later, kept⟩ := Server.told_serve h ⟨s.reader, s.cache?⟩
        ⟨s'.reader, s'.cache?⟩ clock alike (cache? ⟨alike, genuine⟩) fits cached
      exact ⟨congrArg some told, later, only_elim genuine kept⟩
  | close => exact ⟨rfl, alike, only_step_of_unasked genuine (by simp) trivial⟩
  | drop => exact ⟨rfl, alike, only_step_of_unasked genuine (by simp) trivial⟩
  | reopen bounds => exact ⟨rfl, alike, only_step_of_unasked genuine (by simp) trivial⟩

theorem Agrees.outcomes (h : Remote.Unchanging P) (agrees : s.Agrees P s') {events : List Event}
    (fits : ∀ e ∈ events, e.Fits) :
  s.outcomes events = s'.outcomes (events.map Event.plain)
  := by
  induction events generalizing s s' with
  | nil => rfl
  | cons e events ih =>
      obtain ⟨fitsE, fits⟩ := List.forall_mem_cons.1 fits
      obtain ⟨told, later⟩ := agrees.step h fitsE
      rw [Service.outcomes, told, ih later fits]
      rfl

/-- The cache is transparent: as long as the remote store does not change, every request is told
what it would be told without the cache.  The service begins with an empty engine, which may refuse
any call, and without path lists, which may have any lifetime; the cache may be closed or dropped
and opened again with any bounds between requests. -/
theorem outcomes_eq_plain (h : Remote.Unchanging P) {remote : σ} (has : P remote) (lifetime : Nat)
    {engine : Engine} (empty : engine.records = .empty) {events : List Event}
    (fits : ∀ e ∈ events, e.Fits) :
  let s : Service σ hash := ⟨⟨⟨lifetime, .empty⟩, remote⟩, .closed engine⟩
  s.outcomes events = s.outcomes (events.map Event.plain)
  := by
  intro s
  have none : s.session.Only (Fixed P) := by
    rw [Session.Only, empty]
    exact Records.Only.of_empty
  have alike : Alike P s.reader s.reader := ⟨rfl, by rintro _ _ ⟨⟩, has, has⟩
  exact Agrees.outcomes h ⟨alike, none⟩ fits

/-- A website with one page of one octet. -/
def home : Datastore := ({} : Datastore).upload "" "a" [1] 1

/-- A page is requested, and requested again from the next cache, which finds it on disk. -/
def revisit : List Event :=
  [.reopen ⟨1, 1⟩, .request ⟨.ofNanoseconds 0, 0⟩ "" "a" true, .close, .reopen ⟨1, 1⟩,
    .request ⟨.ofNanoseconds 1, 1⟩ "" "a" true]

/-- A page that is found on disk is told as without the cache. -/
theorem outcomes_eq_plain_revisit :
  let s : Service Datastore fun _ => 0 := ⟨⟨⟨1, .empty⟩, home⟩, .closed {}⟩
  (s.outcomes revisit).map (·.map fun told => told.toOption.map (·.2.1))
      = [none, some (some [1]), none, none, some (some [1])]
    ∧ s.outcomes revisit = s.outcomes (revisit.map Event.plain)
  := by
  have fits : ∀ e ∈ revisit, e.Fits := by decide
  exact ⟨by decide +kernel, outcomes_eq_plain home.unchanging home.like_refl 1 rfl fits⟩

end Service

end SiteCache
