import SiteCache.Proofs.Cache.Inventory
import SiteCache.Proofs.Site.Contents
import SiteCache.Proofs.Site.Transparency

/-!
# Redeploys are seen

While a website is served it is deployed again.  If no redeploy falls in the second of an earlier
request, every page has the content that the remote store holds at the time of the request, and what
comes from the cache was told since the last redeploy (`Server.seen_exchanges`).  The time of a
deploy is recorded in whole seconds: a copy that was taken in the second of a later redeploy is not
older than the recorded time, and it is served in place of the new content
(`Server.not_seen_of_same_second`).
-/

namespace SiteCache

open SiteCache.Action Reader

variable {hash : Identity → UInt64} {address : String}

namespace Time

/-- The time comes before this second begins. -/
def Before (t : Time) (second : Int) : Prop := t.count < second * 1000000000

instance (t : Time) (second : Int) : Decidable (t.Before second) :=
  inferInstanceAs (Decidable (t.count < second * 1000000000))

theorem Before.lt {t u : Time} (h : t.Before u.seconds) :
  t < u
  := by
  rw [Before, count] at h
  exact .inl (by omega)

@[simp]
theorem before_settled {t : Time} {second : Int} :
  t.settled.Before second ↔ t.Before second
  := by
  rw [Before, count_settled, Before]

end Time

/-! ### Redeploys -/

/-- A content that is uploaded for a path, in chunks of this length. -/
structure Upload where
  path : String
  content : Octets
  chunkSize : Nat

namespace Datastore

/-- The store after a redeploy: the contents are uploaded, and its time is recorded. -/
def redeploy (d : Datastore) (address : String) (wall : Time) (uploads : List Upload) : Datastore :=
  (uploads.foldl (fun d u => d.upload address u.path u.content u.chunkSize) d).setDeployTime address
    wall.seconds

theorem offline_redeploy (d : Datastore) (address : String) (wall : Time) (uploads : List Upload) :
  (d.redeploy address wall uploads).offline = d.offline
  := by
  rw [redeploy]
  change (uploads.foldl _ d).offline = d.offline
  apply List.foldlRecOn (motive := fun e : Datastore => e.offline = d.offline)
  · rfl
  · intro e kept u _
    rw [offline_upload, kept]

/-- The content that was uploaded last is held after a redeploy. -/
theorem holds_redeploy (d : Datastore) (address : String) (wall : Time) (uploads : List Upload)
    (u : Upload) (nonempty : u.content ≠ []) (pos : 0 < u.chunkSize)
    (few : (Chunk.divide u.content u.chunkSize).length < 2147483648) :
  (d.redeploy address wall (uploads ++ [u])).Holds address u.path u.content
  := by
  rw [redeploy, List.foldl_append]
  exact (holds_upload _ address u.path nonempty pos few).setDeployTime wall.seconds

end Datastore

/-! ### Serving a website that is deployed again -/

/-- What is told in answer to a request: resource, content and headers. -/
abbrev Told := String × Octets × Headers

/-- What is told when a copy is served. -/
def Copy.told (x : Copy) : Told := (x.identity.resource, x.content, x.headers)

namespace Server

/-- What may happen to a website that is served: a request for a path of it, or a redeploy. -/
inductive Event where
  | request (clock : Clock) (requested : String)
  | redeploy (wall : Time) (uploads : List Upload)

namespace Event

/-- Whatever a requested path may be resolved to can be encoded, and the time of a redeploy can be
recorded. -/
def Recordable (address : String) : Event → Prop
  | .request _ requested => Identity.Fits ⟨address, requested ++ pageSuffix⟩
  | .redeploy wall _ => 0 ≤ wall.seconds ∧ wall.seconds ≤ Time.latest

instance : DecidablePred (Recordable address)
  | .request _ requested =>
    inferInstanceAs (Decidable (Identity.Fits ⟨address, requested ++ pageSuffix⟩))
  | .redeploy wall _ => inferInstanceAs (Decidable (0 ≤ wall.seconds ∧ wall.seconds ≤ Time.latest))

/-- A request comes in an earlier second than a redeploy after it. -/
def Apart : Event → Event → Prop
  | .request clock _, .redeploy wall _ => clock.wall.Before wall.seconds
  | _, _ => True

instance : DecidableRel Apart
  | .request clock _, .redeploy wall _ =>
    inferInstanceAs (Decidable (clock.wall.Before wall.seconds))
  | .request _ _, .request _ _ => inferInstanceAs (Decidable True)
  | .redeploy _ _, _ => inferInstanceAs (Decidable True)

end Event

/-- A request with the reader at its time, and the answer. -/
structure Exchange where
  clock : Clock
  requested : String
  reader : Reader Datastore
  answer : Except Fault Page

namespace Exchange

/-- What is told in the answer, unless it is a fault. -/
def told (x : Exchange) : List Told := (x.answer.toOption.map Page.told).toList

/-- The page in the answer is for the path that the requested one is resolved to, with the content
that the store holds at the time; if it comes from the cache it is among what was told before. -/
def Current (address : String) (since : List Told) (x : Exchange) : Prop :=
  ∀ page, x.answer = .ok page →
    ((resolve x.clock.steady address x.requested).perform x.reader).1 = .ok page.resource
      ∧ x.reader.remote.Holds address page.resource page.content
      ∧ (page.source = .cache → page.told ∈ since)

end Exchange

/-- A request is answered from the cache or the store; a redeploy only concerns the store. -/
def step (address : String) (s : Server Datastore hash) :
    Event → Option Exchange × Server Datastore hash
  | .request clock requested =>
    let (answer, s') := (serve clock address requested true).perform s
    (some ⟨clock, requested, s.reader, answer⟩, s')
  | .redeploy wall uploads =>
    (none, ⟨⟨s.reader.lists, s.reader.remote.redeploy address wall uploads⟩, s.cache⟩)

/-- The server after some events. -/
def after (address : String) (s : Server Datastore hash) (events : List Event) :
    Server Datastore hash :=
  events.foldl (fun s e => (s.step address e).2) s

/-- The exchanges of the requests, with nothing for a redeploy. -/
def exchanges (address : String) (s : Server Datastore hash) : List Event → List (Option Exchange)
  | [] => []
  | e :: events => (s.step address e).1 :: exchanges address (s.step address e).2 events

/-- What was told since the last redeploy, after another event. -/
def toldSince (since : List Told) : Option Exchange → List Told
  | some x => since ++ x.told
  | none => []

/-- Every page is current, where those from the cache were told since the last redeploy. -/
def Seen (address : String) : List Told → List (Option Exchange) → Prop
  | _, [] => True
  | since, x :: rest => (∀ y ∈ x, y.Current address since) ∧ Seen address (toldSince since x) rest

end Server

/-! ### Copies of a website -/

namespace Copy

variable {d e : Datastore} {since since' : List Told} {ahead : List Server.Event} {x : Copy}

/-- The copy was told since the last redeploy, and the store holds its content. -/
def Current (d : Datastore) (since : List Told) (x : Copy) : Prop :=
  x.told ∈ since ∧ d.Holds x.identity.address x.identity.resource x.content

/-- The copy was taken before the second of the last deploy. -/
def Outdated (d : Datastore) (x : Copy) : Prop :=
  ∃ deployed, d.deployTime x.identity.address = .ok deployed ∧ x.modified.Before deployed.seconds

/-- A copy of the website is current or outdated, and all redeploys ahead come in later seconds. -/
structure Dated (address : String) (d : Datastore) (since : List Told) (ahead : List Server.Event)
    (x : Copy) : Prop where
  address_eq : x.identity.address = address
  apart : ∀ wall uploads, .redeploy wall uploads ∈ ahead → x.modified.Before wall.seconds
  current : x.Current d since ∨ x.Outdated d

theorem Dated.settled (h : x.Dated address d since ahead) :
  x.settled.Dated address d since ahead
  := by
  obtain ⟨address_eq, apart, current⟩ := h
  refine ⟨address_eq, ?_, ?_⟩
  · intro wall uploads later
    exact Time.before_settled.2 (apart wall uploads later)
  · apply current.imp_right
    rintro ⟨deployed, recorded, before⟩
    exact ⟨deployed, recorded, Time.before_settled.2 before⟩

/-- There may be fewer redeploys ahead. -/
theorem Dated.tail {next : Server.Event} (h : x.Dated address d since (next :: ahead)) :
  x.Dated address d since ahead
  := by
  refine ⟨h.address_eq, ?_, h.current⟩
  intro wall uploads later
  exact h.apart wall uploads (List.mem_cons_of_mem _ later)

/-- More may have been told since the last redeploy. -/
theorem Dated.mono (h : x.Dated address d since ahead) (more : since ⊆ since') :
  x.Dated address d since' ahead
  := ⟨h.address_eq, h.apart, h.current.imp_left fun current => ⟨more current.1, current.2⟩⟩

theorem Dated.like (h : x.Dated address d since ahead) (like : d.Like e) :
  x.Dated address e since ahead
  := by
  obtain ⟨address_eq, apart, current | ⟨deployed, recorded, before⟩⟩ := h
  · exact ⟨address_eq, apart, .inl ⟨current.1, current.2.congr (like.site _)⟩⟩
  · exact ⟨address_eq, apart, .inr ⟨deployed, (like.deployTime_eq _).trans recorded, before⟩⟩

/-- A copy is current if the recorded time of the last deploy is not later. -/
theorem Dated.current_of_kept (h : x.Dated address d since ahead)
    (kept : ∀ deployed, d.deployTime x.identity.address = .ok deployed → ¬ x.modified < deployed) :
  x.Current d since
  := by
  obtain current | ⟨deployed, recorded, before⟩ := h.current
  · exact current
  · exact absurd before.lt (kept deployed recorded)

/-- A redeploy makes all copies outdated. -/
theorem Dated.redeploy {wall : Time} {uploads : List Upload}
    (h : x.Dated address d since (.redeploy wall uploads :: ahead))
    (recordable : (Server.Event.redeploy wall uploads).Recordable address) :
  x.Dated address (d.redeploy address wall uploads) [] ahead
  := by
  have before := h.apart wall uploads List.mem_cons_self
  refine ⟨h.address_eq, h.tail.apart, .inr ⟨⟨wall.seconds, 0, by decide⟩, ?_, before⟩⟩
  rw [h.address_eq]
  exact Datastore.deployTime_setDeployTime recordable.1 recordable.2

end Copy

namespace Server

open Cache

variable {c : Cache hash} {d : Datastore} {since : List Told}
  {ahead : List Event} {i : Identity}

/-- Once stale copies are dropped, a copy of the resource is current. -/
theorem dated_dropIfStale (lists : PathLists) (online : d.offline = false)
    (healthy : ∀ fault, ¬ c.disk.engine.Refuses fault)
    (dated : c.All (Copy.Dated address d since ahead)) (fits : i.Fits) :
  ∃ d' c', (dropIfStale i).perform ⟨⟨lists, d⟩, some c⟩ = (.ok (), ⟨⟨lists, d'⟩, some c'⟩)
    ∧ d.Like d' ∧ Leads c c'
    ∧ c'.All fun x => x.Dated address d since ahead ∧ (x.identity = i → x.Current d since)
  := by
  have looked := dated.modified (i := i) healthy
  have leads := (looks_modified i c).leads
  simp only [dropIfStale, perform_bind, perform_onCache, Option.bind_some, Option.map_some]
  cases answer : ((Cache.modified i).perform c).1 with
  | error fault =>
      rw [answer] at looked
      refine ⟨d, _, rfl, d.like_refl, leads, looked.mono ?_⟩
      rintro x ⟨dated, told⟩
      refine ⟨dated, ?_⟩
      intro same
      cases told same
  | ok taken =>
      rw [answer] at looked
      have like := (d.unchanging.deployTime i.address d d ⟨d.like_refl, d.like_refl⟩).2.1
      simp only [Except.toOption, perform_bind, perform_onRemote, perform_attempt,
        Datastore.perform_deployTime online]
      -- Where nothing is dropped, a copy of the resource is not outdated.
      have spared (kept : ∀ deployed, d.deployTime i.address = .ok deployed → ¬ taken < deployed)
          (x : Copy) (h : x.Dated address d since ahead
            ∧ (x.identity = i → (.ok taken : Except Fault Time) = .ok x.modified)) :
          x.Dated address d since ahead ∧ (x.identity = i → x.Current d since) := by
        refine ⟨h.1, ?_⟩
        rintro rfl
        obtain rfl := Except.ok.inj (h.2 rfl)
        exact h.1.current_of_kept kept
      cases deploy : d.deployTime i.address with
      | error fault =>
          refine ⟨_, _, rfl, like, leads, looked.mono (spared ?_)⟩
          intro deployed same
          cases deploy.symm.trans same
      | ok deployed =>
          by_cases stale : taken < deployed
          · have healthy fault : ¬ ((Cache.modified i).perform c).2.disk.engine.Refuses fault := by
              rw [leads.disk.refuses]
              exact healthy fault
            simp only [if_pos stale, perform_bind, perform_onCache, Option.map_some]
            refine ⟨_, _, rfl, like, leads.trans (deleted i _).leads,
              (looked.delete fits healthy).mono ?_⟩
            rintro x ⟨⟨dated, -⟩, other⟩
            exact ⟨dated, fun same => absurd same other⟩
          · simp only [if_neg stale]
            refine ⟨_, _, rfl, like, leads, looked.mono (spared ?_)⟩
            intro deployed' same
            obtain rfl := Except.ok.inj (deploy.symm.trans same)
            exact stale

/-- A page that is found in the cache is current. -/
theorem dated_fromCache (lists : PathLists) (online : d.offline = false)
    (healthy : ∀ fault, ¬ c.disk.engine.Refuses fault)
    (dated : c.All (Copy.Dated address d since ahead)) (fits : i.Fits) :
  ∃ page d' c', (fromCache i).perform ⟨⟨lists, d⟩, some c⟩ = (.ok page, ⟨⟨lists, d'⟩, some c'⟩)
    ∧ d.Like d' ∧ Leads c c' ∧ c'.All (Copy.Dated address d since ahead)
    ∧ ∀ p ∈ page, c'.disk.nextId < wordBound →
      p.resource = i.resource ∧ p.told ∈ since ∧ d.Holds i.address p.resource p.content
  := by
  obtain ⟨d', c', dropped, like, leads, dated⟩ :=
    dated_dropIfStale lists online healthy dated fits
  obtain ⟨later, found⟩ := dated.read (fun x h => ⟨h.1.settled, h.2⟩) fits
  have leads := leads.trans (reads i c').leads
  have later := later.mono fun _ h => h.1
  simp only [fromCache, perform_bind, dropped, perform_onCache, Option.bind_some, Option.map_some]
  cases answer : ((Cache.read i).perform c').1 with
  | error fault => exact ⟨none, d', _, rfl, like, leads, later, by rintro p ⟨⟩⟩
  | ok x =>
      obtain ⟨content, headers⟩ := x
      refine ⟨some ⟨i.resource, content, headers, .cache⟩, d', _, rfl, like, leads, later, ?_⟩
      rintro p ⟨⟩ countable
      obtain ⟨x, ⟨-, current⟩, rfl, rfl, rfl⟩ := found content headers answer countable
      exact ⟨rfl, current rfl⟩

/-- A page that is told of a resource is current, and it is told since the last redeploy. -/
theorem dated_answer (lists : PathLists) {clock : Clock} (online : d.offline = false)
    (healthy : ∀ fault, ¬ c.disk.engine.Refuses fault)
    (dated : c.All (Copy.Dated address d since ahead)) (fits : i.Fits)
    (apart : ∀ wall uploads, .redeploy wall uploads ∈ ahead → clock.wall.Before wall.seconds)
    (same : i.address = address) :
  ∃ result r c', (answer clock i true).perform ⟨⟨lists, d⟩, some c⟩ = (result, ⟨r, some c'⟩)
    ∧ d.Like r.remote ∧ Leads c c'
    ∧ c'.All (Copy.Dated address d (since ++ (result.toOption.map Page.told).toList) ahead)
    ∧ ∀ page, result = .ok page → c'.disk.nextId < wordBound →
      page.resource = i.resource ∧ d.Holds address page.resource page.content
        ∧ (page.source = .cache → page.told ∈ since)
  := by
  subst same
  obtain ⟨page, d', c', found, like, leads, dated, good⟩ :=
    dated_fromCache lists online healthy dated fits
  have dated (more : List Told) : c'.All (Copy.Dated i.address d (since ++ more) ahead) :=
    dated.mono fun x h => h.mono (List.subset_append_left _ _)
  simp only [answer, if_true, perform_bind, found]
  cases page with
  | some p =>
      refine ⟨_, _, _, rfl, like, leads, dated _, ?_⟩
      rintro _ ⟨⟩ countable
      obtain ⟨resource, told, holds⟩ := good p rfl countable
      exact ⟨resource, holds, fun _ => told⟩
  | none =>
      have likes := Datastore.like_of_respects (respects_retrieve d'.unchanging
        (compatible_eq d'.unchanging) clock.steady i) (r := ⟨lists, d'⟩)
      simp only [perform_bind, perform_fromRemote]
      rcases retrieved : (retrieve clock.steady i).perform ⟨lists, d'⟩ with ⟨fault | x, r⟩
      · rw [retrieved] at likes
        exact ⟨_, _, _, rfl, like.trans likes, leads, dated _, by rintro _ ⟨⟩⟩
      · obtain ⟨content, headers⟩ := x
        rw [retrieved] at likes
        have holds : d.Holds i.address i.resource content :=
          (Datastore.holds_of_retrieve retrieved).congr (like.site i.address).symm
        simp only [Except.map, perform_onCache, Option.map_some, perform_pure]
        refine ⟨_, _, _, rfl, like.trans likes, leads.trans (saved _ c').leads, ?_, ?_⟩
        · apply (dated _).save (fun x h => h.settled) fits
          refine ⟨rfl, apart, .inl ⟨?_, holds⟩⟩
          simp [Except.toOption, Page.told, Copy.told]
        · rintro _ ⟨⟩ -
          exact ⟨rfl, holds, by rintro ⟨⟩⟩

/-- The open cache is on an engine that refuses nothing, the store is not offline, and all copies of
the website are current or outdated. -/
structure Coherent (address : String) (since : List Told) (ahead : List Event)
    (s : Server Datastore hash) (c : Cache hash) : Prop where
  cache : s.cache = some c
  online : s.reader.remote.offline = false
  healthy : ∀ fault, ¬ c.disk.engine.Refuses fault
  dated : c.All (Copy.Dated address s.reader.remote since ahead)

variable {s : Server Datastore hash} {e : Event} {events : List Event}

/-- After a redeploy nothing was told yet. -/
theorem Coherent.redeploy {wall : Time} {uploads : List Upload}
    (h : s.Coherent address since (.redeploy wall uploads :: ahead) c)
    (recordable : (Event.redeploy wall uploads).Recordable address) :
  (s.step address (.redeploy wall uploads)).2.Coherent address [] ahead c
  := by
  refine ⟨h.cache, ?_, h.healthy, h.dated.mono fun x dated => dated.redeploy recordable⟩
  rw [← h.online]
  apply Datastore.offline_redeploy

/-- A request is answered with a current page as long as insertion ids are words. -/
theorem Coherent.request {clock : Clock} {requested : String} (h : s.Coherent address since ahead c)
    (recordable : (Event.request clock requested).Recordable address)
    (apart : ∀ e ∈ ahead, (Event.request clock requested).Apart e) :
  ∃ x c', (s.step address (.request clock requested)).1 = some x
    ∧ (s.step address (.request clock requested)).2.Coherent address (since ++ x.told) ahead c'
    ∧ c.disk.nextId ≤ c'.disk.nextId
    ∧ (c'.disk.nextId < wordBound → x.Current address since)
  := by
  obtain ⟨⟨lists, d⟩, cache⟩ := s
  obtain ⟨rfl, online, healthy, dated⟩ := h
  have likes := Datastore.like_of_respects (r := ⟨lists, d⟩)
    (respects_resolve (compatible_eq d.unchanging) clock.steady address requested)
  simp only [Server.step, serve_eq, perform_bind, onReader, perform_within]
  rcases resolved : (resolve clock.steady address requested).perform ⟨lists, d⟩
    with ⟨fault | path, ⟨lists', d'⟩⟩
  · rw [resolved] at likes
    refine ⟨_, c, rfl, ⟨rfl, likes.offline.trans online, healthy, ?_⟩, Nat.le_refl _, ?_⟩
    · exact dated.mono fun x h => (h.mono (List.subset_append_left _ _)).like likes
    · rintro - page ⟨⟩
  · rw [resolved] at likes
    obtain ⟨result, r, c', answered, like, leads, later, good⟩ :=
      dated_answer lists' (likes.offline.trans online) healthy
        (dated.mono fun x h => h.like likes) (fits_of_resolve recordable resolved)
        (fun wall uploads ahead => apart _ ahead) rfl
    simp only [answered]
    have online := (likes.trans like).offline.trans online
    refine ⟨_, c', rfl, ⟨rfl, online, ?_, ?_⟩, leads.disk.nextId_le, ?_⟩
    · intro fault
      rw [leads.disk.refuses]
      exact healthy fault
    · exact later.mono fun x h => h.like like
    · rintro countable page answer
      obtain ⟨rfl, holds, told⟩ := good page answer countable
      exact ⟨congrArg Prod.fst resolved, holds.congr (likes.site address).symm, told⟩

/-- An exchange is current as long as insertion ids are words, and the server stays coherent. -/
theorem Coherent.step (h : s.Coherent address since (e :: ahead) c)
    (recordable : e.Recordable address) (apart : ∀ e' ∈ ahead, e.Apart e') :
  ∃ c', (s.step address e).2.Coherent address (toldSince since (s.step address e).1) ahead c'
    ∧ c.disk.nextId ≤ c'.disk.nextId
    ∧ (c'.disk.nextId < wordBound → ∀ x ∈ (s.step address e).1, x.Current address since)
  := by
  cases e with
  | redeploy wall uploads =>
      exact ⟨c, h.redeploy recordable, Nat.le_refl _, by rintro - x ⟨⟩⟩
  | request clock requested =>
      have fewer : s.Coherent address since ahead c :=
        ⟨h.cache, h.online, h.healthy, h.dated.mono fun x dated => dated.tail⟩
      obtain ⟨x, c', exchanged, coherent, grows, current⟩ := fewer.request recordable apart
      rw [exchanged]
      refine ⟨c', coherent, grows, ?_⟩
      rintro countable _ ⟨⟩
      exact current countable

/-- A run is seen as long as insertion ids are words. -/
theorem Coherent.run (h : s.Coherent address since events c)
    (recordable : ∀ e ∈ events, e.Recordable address) (apart : events.Pairwise Event.Apart) :
  ∃ c', (s.after address events).cache = some c' ∧ c.disk.nextId ≤ c'.disk.nextId
    ∧ (c'.disk.nextId < wordBound → Seen address since (s.exchanges address events))
  := by
  induction events generalizing s since c with
  | nil => exact ⟨c, h.cache, Nat.le_refl _, fun _ => trivial⟩
  | cons e events ih =>
      obtain ⟨recordableE, recordable⟩ := List.forall_mem_cons.1 recordable
      obtain ⟨apartE, apart⟩ := List.pairwise_cons.1 apart
      obtain ⟨c', coherent, grows, current⟩ := h.step recordableE apartE
      obtain ⟨c'', last, grows', seen⟩ := ih coherent recordable apart
      refine ⟨c'', last, Nat.le_trans grows grows', ?_⟩
      intro countable
      exact ⟨current (Nat.lt_of_le_of_lt grows' countable), seen countable⟩

/-- Redeploys are seen.  The cache is empty at first, on an engine that refuses nothing, and no
redeploy falls in the second of an earlier request.  Then every page has the content that the store
holds of the resolved path at the time of the request, and a page that comes from the cache was told
since the last redeploy, as long as insertion ids are words. -/
theorem seen_exchanges {bounds : Bounds} {engine : Engine} (empty : engine.records = .empty)
    (healthy : ∀ calls, engine.refuses calls = none)
    (opens : Cache.open? hash bounds engine = .ok c) {reader : Reader Datastore}
    (online : reader.remote.offline = false)
    (recordable : ∀ e ∈ events, e.Recordable address) (apart : events.Pairwise Event.Apart)
    (countable : ∀ c' ∈ (after address ⟨reader, some c⟩ events).cache, c'.disk.nextId < wordBound) :
  Seen address [] (exchanges address ⟨reader, some c⟩ events)
  := by
  have queue : engine.records.Queue [] 0 := empty ▸ Records.Queue.of_empty
  obtain ⟨holds, -, -, calls, tier⟩ := holds_of_open? queue opens
  have start : Coherent address [] events ⟨reader, some c⟩ c := by
    refine ⟨rfl, online, ?_, fun _ => ⟨[], _, holds, by rintro x ⟨⟩, by rintro x ⟨⟩⟩⟩
    rintro fault ⟨calls, refused⟩
    rw [tier] at refused
    cases (healthy calls).symm.trans refused
  obtain ⟨c', last, -, seen⟩ := start.run recordable apart
  exact seen (countable c' last)

/-- A website with one page is served, with an empty cache that has room for one copy in each
tier. -/
def opening : Server Datastore fun _ => 0 :=
  ⟨⟨⟨1, .empty⟩, Service.home⟩, (Cache.open? _ ⟨1, 1⟩ {}).toOption⟩

/-- A page is requested twice, the website is deployed again, and the page is requested again. -/
def redeployed : List Event :=
  [.request ⟨.ofNanoseconds 0, 0⟩ "a", .request ⟨.ofNanoseconds 500000000, 0⟩ "a",
    .redeploy (.ofNanoseconds 1000000000) [⟨"a", [2], 1⟩],
    .request ⟨.ofNanoseconds 1000000000, 0⟩ "a"]

/-- The second answer comes from the cache, and the redeploy is seen in the third one. -/
theorem seen_exchanges_redeployed :
  ((exchanges "" opening redeployed).map (·.map fun x =>
      x.answer.toOption.map fun page => (page.content, page.source))
    = [some (some ([1], .remote)), some (some ([1], .cache)), none, some (some ([2], .remote))])
    ∧ Seen "" [] (exchanges "" opening redeployed)
  := by
  have empty : ({} : Engine).records = .empty := rfl
  have healthy : ∀ calls, ({} : Engine).refuses calls = none := fun _ => rfl
  have online : opening.reader.remote.offline = false := Datastore.offline_upload ..
  have recordable : ∀ e ∈ redeployed, e.Recordable "" := by decide
  have apart : redeployed.Pairwise Event.Apart := by decide
  have seen {c : Cache fun _ => 0} (opens : Cache.open? _ ⟨1, 1⟩ {} = .ok c) :=
    seen_exchanges empty healthy opens online recordable apart
  exact ⟨by decide +kernel, seen rfl (by decide +kernel)⟩

/-- A page is requested, the website is deployed again in the same second, and the page is requested
again. -/
def sameSecond : List Event :=
  [.request ⟨.ofNanoseconds 0, 0⟩ "a", .redeploy (.ofNanoseconds 500000000) [⟨"a", [2], 1⟩],
    .request ⟨.ofNanoseconds 1000000000, 0⟩ "a"]

/-- A redeploy in the second of an earlier request is not seen: the old content is served. -/
theorem not_seen_of_same_second :
  ∃ (x : Exchange) (page : Page), some x ∈ exchanges "" opening sameSecond
    ∧ x.answer = .ok page ∧ page.source = .cache ∧ page.content = [1]
    ∧ x.reader.remote.Holds "" page.resource [2]
    ∧ ¬ x.reader.remote.Holds "" page.resource page.content
  := by
  let clock : Clock := ⟨.ofNanoseconds 1000000000, 0⟩
  let s := after "" opening (sameSecond.take 2)
  have answered : (((serve clock "" "a" true).perform s).1.toOption.map fun page =>
      (page.resource, page.source, page.content)) = some ("a", .cache, [1]) := by
    decide +kernel
  cases answer : ((serve clock "" "a" true).perform s).1 with
  | error fault =>
      rw [answer] at answered
      cases answered
  | ok page =>
      rw [answer] at answered
      obtain ⟨resource, source, content⟩ : page.resource = "a" ∧ page.source = .cache
          ∧ page.content = [1] := by
        simpa [Except.toOption] using answered
      have holds : s.reader.remote.Holds "" "a" [2] :=
        Datastore.holds_redeploy (after "" opening (sameSecond.take 1)).reader.remote ""
          (.ofNanoseconds 500000000) [] ⟨"a", [2], 1⟩ (by decide) (by decide)
          (by decide +kernel)
      refine ⟨⟨clock, "a", s.reader, .ok page⟩, page, ?_, rfl, source, content, ?_, ?_⟩
      · rw [← answer]
        exact List.mem_cons_of_mem _ (List.mem_cons_of_mem _ List.mem_cons_self)
      · rw [resource]
        exact holds
      · rw [resource, content]
        intro old
        cases holds.unique old

end Server

end SiteCache
