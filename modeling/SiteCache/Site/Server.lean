import SiteCache.Cache
import SiteCache.Site.Reader

/-!
# Serving a website

A `Server` answers requests for a path of a website from its cache or from the remote store.  A
cached copy is served unless the website is known to have been deployed after the copy was taken;
what is read from the remote store is put into the cache.  Nothing that goes wrong with the cache
makes a request fail.
-/

namespace SiteCache

/-- Where an answer comes from. -/
inductive Source where
  | cache
  | remote
  deriving DecidableEq

/-- The answer to a request. -/
structure Page where
  resource : String
  content : Octets
  headers : Headers
  source : Source

/-- A reader of websites with a cache, if there is one. -/
structure Server (σ : Type) (hash : Identity → UInt64) where
  reader : Reader σ
  cache : Option (Cache hash)

namespace Server

variable {σ α : Type} {hash : Identity → UInt64}

/-- Acts on the reader. -/
def onReader (a : Action (Reader σ) α) : Action (Server σ hash) α :=
  a.within reader fun s r => { s with reader := r }

/-- Acts on the remote store. -/
def onRemote (a : Action σ α) : Action (Server σ hash) α := onReader (Reader.onRemote a)

/-- Acts on the cache; without a cache, or if the action stops with a fault, there is no value. -/
def onCache (a : Action (Cache hash) α) : Action (Server σ hash) (Option α) :=
  .ofStep fun s =>
    match s.cache with
    | none => (.ok none, s)
    | some cache =>
      let (answer, cache) := a.perform cache
      (.ok answer.toOption, { s with cache := some cache })

variable [Remote σ]

/-- The cache has dropped its copy if the website is known to have been deployed later. -/
def dropIfStale (i : Identity) : Action (Server σ hash) Unit := do
  match ← onCache (Cache.modified i) with
  | none => pure ()
  | some taken =>
    match ← onRemote (Reader.deployTime i.address).attempt with
    | .error _ => pure ()
    | .ok deployed =>
      if taken < deployed then
        let _ ← onCache (Cache.delete i)

/-- The cached copy of a resource, unless it is stale. -/
def fromCache (i : Identity) : Action (Server σ hash) (Option Page) := do
  dropIfStale i
  match ← onCache (Cache.read i) with
  | some (content, headers) => pure (some ⟨i.resource, content, headers, .cache⟩)
  | none => pure none

/-- The resource as the remote store has it. -/
def fromRemote (clock : Clock) (i : Identity) : Action (Server σ hash) Page := do
  let content ← onReader (Reader.fetch clock.steady i.address i.resource)
  let headers ← onRemote (Reader.headers i.address i.resource)
  pure ⟨i.resource, content, headers, .remote⟩

/-- Answers a request, with or without the cache. -/
def serve (clock : Clock) (address requested : String) (cached : Bool) :
    Action (Server σ hash) Page := do
  let resource ← onReader (Reader.resolve clock.steady address requested)
  let i : Identity := ⟨address, resource⟩
  match ← if cached then fromCache i else pure none with
  | some page => pure page
  | none =>
    let page ← fromRemote clock i
    if cached then
      let _ ← onCache (Cache.save ⟨i, page.content, clock.wall, page.headers⟩)
    pure page

end Server

end SiteCache
