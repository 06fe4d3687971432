import SiteCache.Site.Chunk
import SiteCache.Site.Key
import SiteCache.Site.PathLists
import SiteCache.Site.Remote
import SiteCache.Text.Blank
import SiteCache.Text.Number
import SiteCache.Headers

/-!
# Reading a website

A `Reader` reads the websites of a remote store and remembers their path lists.  A requested path
is resolved to a stored one: itself, or itself with `.html` behind it, or the index page
(`resolve`).  The content of a stored path is fetched chunk after chunk, in calls of at most
`Remote.batchSize` keys (`fetch`); its headers are those of the website, overridden by its own
(`headers`).
-/

namespace SiteCache

/-- A remote store with the path lists that were read from it. -/
structure Reader (σ : Type) where
  lists : PathLists
  remote : σ

namespace Reader

variable {σ α : Type}

/-- Acts on the remote store. -/
def onRemote (a : Action σ α) : Action (Reader σ) α :=
  a.within remote fun r s => { r with remote := s }

/-- Acts on the path lists. -/
def onLists (a : Action PathLists α) : Action (Reader σ) α :=
  a.within lists fun r l => { r with lists := l }

/-- The reader has forgotten the path list of a website. -/
def invalidate (address : String) (r : Reader σ) : Reader σ :=
  { r with lists := r.lists.invalidate address }

variable [Remote σ]

/-- The paths that the path entries of a website hold. -/
def listPaths (address : String) : Action σ (List String) := do
  let keys ← Remote.keys address
  let values ← (batches Remote.batchSize (keys.filter SiteKey.isLocation)).mapM
    (Remote.aligned .paths address)
  pure ((values.flatten.filterMap id).map Utf8.lossy)

/-- The path list of a website, remembered or read anew. -/
def paths (now : Nat) (address : String) : Action (Reader σ) PathList := do
  match (← get).lists.get now address with
  | some list => pure list
  | none =>
    let listed ← onRemote (listPaths address)
    onLists (PathLists.set now address listed)

/-- The website stores a path. -/
def stores (now : Nat) (address path : String) : Action (Reader σ) Bool := do
  pure ((← paths now address).contains path)

/-- What is put behind a requested path that is not stored. -/
def pageSuffix : String := ".html"

/-- The page that stands in for every path that is not stored. -/
def indexPage : String := "index.html"

/-- The paths to try for a requested path, in order: the path, with the suffix unless it has it, and
the index page unless it was tried last. -/
def candidates (requested : String) : List String :=
  let tried := if requested.endsWith pageSuffix then [requested]
    else [requested, requested ++ pageSuffix]
  if tried.getLast? = some indexPage then tried else tried ++ [indexPage]

/-- The first of some paths that is stored, or else the last one. -/
def firstStored (now : Nat) (address : String) : List String → Action (Reader σ) String
  | [] => pure indexPage
  | [path] => do
    let _ ← stores now address path
    pure path
  | path :: rest => do
    if ← stores now address path then pure path else firstStored now address rest

/-- The stored path that answers a requested one. -/
def resolve (now : Nat) (address requested : String) : Action (Reader σ) String :=
  firstStored now address (candidates requested)

/-- The number of chunks of a path. -/
def chunkCount (address path : String) : Action σ Nat := do
  match ← Remote.single address (SiteKey.chunkCount path).encode with
  | some b => .ofExcept (Chunk.decodeCount b)
  | none => throw (.notFound (.chunkCount path))

/-- The chunk with this index, which must not be empty. -/
def wholeChunk (path : String) (chunk : Nat × Option Octets) : Except Fault Octets :=
  match chunk.2 with
  | some (o :: rest) => .ok (o :: rest)
  | _ => .error (.corrupt (.emptyChunk chunk.1 path))

/-- The content of some consecutive chunks. -/
def fetchBatch (address path : String) (indices : List Nat) : Action σ Octets := do
  let keys := indices.map fun i => (SiteKey.chunk path i).encode
  let values ← Remote.aligned .chunks address keys
  let chunks ← .ofExcept ((indices.zip values).mapM (wholeChunk path))
  pure chunks.flatten

/-- The content of a stored path. -/
def fetch (now : Nat) (address path : String) : Action (Reader σ) Octets := do
  if ← stores now address path then
    let count ← onRemote (chunkCount address path)
    let pieces ← onRemote ((batches Remote.batchSize (List.range count)).mapM
      (fetchBatch address path))
    pure pieces.flatten
  else throw (.notFound (.file path))

/-- The headers that metadata keys with this beginning hold, in the order of the keys. -/
def readHeaders (address : String) (beginning : Octets) (keys : List Octets) :
    Action σ (List (String × String)) := do
  let pairs ← (batches Remote.batchSize keys).mapM fun batch => do
    let values ← Remote.aligned .headers address batch
    pure (batch.zip values)
  pure (pairs.flatten.filterMap fun x => x.2.map fun value =>
    (Utf8.lossy (x.1.drop beginning.length), Utf8.lossy value))

/-- How the keys of headers of a website begin. -/
def globalBeginning : Octets := (SiteKey.globalMetadata (Utf8.encode SiteKey.headerMark)).encode

/-- How the keys of headers of a path begin. -/
def fileBeginning (path : String) : Octets :=
  (SiteKey.fileMetadata path (Utf8.encode SiteKey.headerMark)).encode

/-- The headers of a path: those of the website, overridden by its own. -/
def headers (address path : String) : Action σ Headers := do
  let all ← Remote.keys address
  let ofFile := fileBeginning path
  let fileKeys := all.filter (ofFile.isPrefixOf ·)
  let globalKeys := all.filter (globalBeginning.isPrefixOf ·)
  let forSite ← readHeaders address globalBeginning globalKeys
  let forFile ← readHeaders address ofFile fileKeys
  pure (Table.ofList (forSite ++ forFile))

/-- The time that the text of a deploy record denotes. -/
def deployTimeOf (b : Octets) : Except Fault Time :=
  match Utf8.decode? b with
  | none => .error (.corrupt .deployText)
  | some text =>
    match Number.parse? 10 wordBound (Blank.trim text.toList) with
    | none => .error (.corrupt (.deployNumber text))
    | some seconds =>
      match Time.ofSeconds? seconds with
      | some t => .ok t
      | none => .error (.corrupt (.deployRange seconds))

/-- The time of the last deploy of a website. -/
def deployTime (address : String) : Action σ Time := do
  match ← Remote.single address (SiteKey.globalMetadata (Utf8.encode SiteKey.deployTimeKey)).encode with
  | some b => .ofExcept (deployTimeOf b)
  | none => throw (.notFound (.deployTime address))

end Reader

end SiteCache
