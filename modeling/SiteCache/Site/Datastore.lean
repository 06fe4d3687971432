import SiteCache.Engine
import SiteCache.Site.Chunk
import SiteCache.Site.Key
import SiteCache.Site.Remote

/-!
# Websites in memory

A `Datastore` holds the keys of websites as a deployment writes them and answers for them as a
remote store, without a node.  It can be offline, it can answer one value too few, and it counts
what it is asked for.
-/

namespace SiteCache

/-- The keys and values of websites by address. -/
structure Datastore where
  sites : Table String Records := .empty
  offline : Bool := false
  shortAnswers : Bool := false
  valueCalls : Nat := 0
  keysAsked : Nat := 0
  keyCalls : Nat := 0

namespace Datastore

/-- The keys of a website; an unknown one has none. -/
def site (d : Datastore) (address : String) : Records := (d.sites.get? address).getD .empty

/-- Writes a key. -/
def put (d : Datastore) (address : String) (key value : Octets) : Datastore :=
  { d with sites := d.sites.insert address ((d.site address).insert key value) }

/-- Deletes a key, and answers whether it was there. -/
def remove (d : Datastore) (address : String) (key : Octets) : Bool × Datastore :=
  ((d.site address).contains key,
    { d with sites := d.sites.insert address ((d.site address).erase key) })

/-- Deploys a resource: its path, the number of its chunks and the chunks. -/
def upload (d : Datastore) (address path : String) (content : Octets) (chunkSize : Nat) :
    Datastore :=
  let chunks := Chunk.divide content chunkSize
  let d := d.put address (SiteKey.location path).encode (Utf8.encode path)
  let d := d.put address (SiteKey.chunkCount path).encode (Chunk.encodeCount chunks.length)
  chunks.zipIdx.foldl (fun d c => d.put address (SiteKey.chunk path c.2).encode c.1) d

/-- Sets metadata of a website. -/
def setGlobalMetadata (d : Datastore) (address key value : String) : Datastore :=
  d.put address (SiteKey.globalMetadata (Utf8.encode key)).encode (Utf8.encode value)

/-- Sets metadata of a resource. -/
def setFileMetadata (d : Datastore) (address path key value : String) : Datastore :=
  d.put address (SiteKey.fileMetadata path (Utf8.encode key)).encode (Utf8.encode value)

/-- Sets a header of all resources of a website. -/
def setGlobalHeader (d : Datastore) (address name value : String) : Datastore :=
  d.setGlobalMetadata address (SiteKey.headerMark ++ name) value

/-- Sets a header of one resource. -/
def setFileHeader (d : Datastore) (address path name value : String) : Datastore :=
  d.setFileMetadata address path (SiteKey.headerMark ++ name) value

/-- Records the time of a deploy in seconds since the epoch. -/
def setDeployTime (d : Datastore) (address : String) (seconds : Int) : Datastore :=
  d.setGlobalMetadata address SiteKey.deployTimeKey (toString seconds)

/-- The values of keys, one too few for several keys if answers are short. -/
def answer (d : Datastore) (address : String) (keys : List Octets) : List (Option Octets) :=
  let values := keys.map (d.site address).get?
  if 1 < keys.length ∧ d.shortAnswers then values.dropLast else values

instance : Remote Datastore where
  values address keys := .ofStep fun d =>
    let d := { d with valueCalls := d.valueCalls + 1, keysAsked := d.keysAsked + keys.length }
    (if d.offline then .error (.unavailable .offline) else .ok (d.answer address keys), d)
  keys address := .ofStep fun d =>
    let d := { d with keyCalls := d.keyCalls + 1 }
    (if d.offline then .error (.unavailable .offline) else .ok (d.site address).keys, d)

end Datastore

end SiteCache
