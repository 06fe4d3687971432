import SiteCache.Cache
import SiteCache.NameBook
import SiteCache.Site.PathLists
import SiteCache.Text.Blank
import SiteCache.Yaml.Document

/-!
# Settings

The settings of the program: the URL of the node, the bounds and the place of the cache, how long
path lists are kept, and how long and how many names are.  They are read from a document, in which
everything may be left out (`parse`); bounds that leave a tier without room are refused as long as
the cache is enabled (`check`).
-/

namespace SiteCache

/-- The settings of the cache. -/
structure CacheSettings where
  enabled : Bool := true
  maxRam : Nat := 1000
  maxDisk : Nat := 10000
  directory : String := "./websitesCache/"
  pathListSeconds : Nat := 60
  deriving DecidableEq

/-- The settings of the name book; zero selects its default. -/
structure NameSettings where
  seconds : Nat := 16
  capacity : Nat := 1000
  deriving DecidableEq

/-- All settings. -/
structure Settings where
  nodeUrl : Option String := none
  cache : CacheSettings := {}
  names : NameSettings := {}
  deriving DecidableEq

namespace Settings

open Yaml

/-- The bounds of the tiers. -/
def bounds (s : Settings) : Bounds := ⟨s.cache.maxRam, s.cache.maxDisk⟩

/-- The tiers of an enabled cache must have room. -/
def check (s : Settings) : Except Fault Unit :=
  if s.cache.enabled then s.bounds.check else .ok ()

/-- Path lists that are kept as long as the settings say. -/
def pathLists (s : Settings) : PathLists := { lifetime := Clock.seconds s.cache.pathListSeconds }

/-- The name book of the settings. -/
def nameBook (s : Settings) : NameBook :=
  .empty (Clock.seconds s.names.seconds) s.names.capacity

/-- Reads the settings of the cache from a node of a document. -/
def cache? (d : Document) (i : Nat) : Option CacheSettings := do
  let fields ← d.fields? i
  let other : CacheSettings := {}
  let enabled ← Document.field? fields "enabled" d.flag?
  let maxRam ← Document.field? fields "max_ram_entries" d.number?
  let maxDisk ← Document.field? fields "max_disk_entries" d.number?
  let directory ← Document.field? fields "disk_cache_dir" d.text?
  let pathListSeconds ← Document.field? fields "file_list_cache_ttl_seconds" d.number?
  pure ⟨enabled.getD other.enabled, maxRam.getD other.maxRam, maxDisk.getD other.maxDisk,
    directory.getD other.directory, pathListSeconds.getD other.pathListSeconds⟩

/-- Reads the settings of the name book from a node of a document. -/
def names? (d : Document) (i : Nat) : Option NameSettings := do
  let fields ← d.fields? i
  let other : NameSettings := {}
  let seconds ← Document.field? fields "ttl_seconds" d.number?
  let capacity ← Document.field? fields "cache_size" d.number?
  pure ⟨seconds.getD other.seconds, capacity.getD other.capacity⟩

/-- Reads all settings from a document. -/
def ofDocument? (d : Document) : Option Settings := do
  let fields ← d.fields? 0
  let nodeUrl ← Document.field? fields "node_url" d.optionalText?
  let cache ← Document.field? fields "cache" (cache? d)
  let names ← Document.field? fields "name_resolution" (names? d)
  pure ⟨nodeUrl.join, cache.getD {}, names.getD {}⟩

/-- Reads and checks the settings that a text holds; blank text holds the defaults. -/
def parse (text : String) : Except Fault Settings :=
  let cs := text.toList
  let settings? :=
    if (Blank.trim cs).isEmpty then some {}
    else (Document.read? cs).bind ofDocument?
  match settings? with
  | none => .error (.setting .document)
  | some s => s.check.map fun _ => s

/-- Reads and checks the settings of a file. -/
def ofFile (content : Except FileFault Octets) : Except Fault Settings :=
  match content with
  | .error f => .error (.file f)
  | .ok b =>
    match Utf8.decode? b with
    | some text => parse text
    | none => .error (.file .notText)

end Settings

end SiteCache
