import SiteCache.Digest
import SiteCache.Text.Utf8

/-!
# Datastore keys

A website is a set of keys with values: for each resource its path, the number of its chunks, the
chunks and metadata, and metadata of the website as a whole.  Every key begins with the tag of its
family; the keys of a resource go on with the digest of its path (`encode`).
-/

namespace SiteCache

/-- What a key of a website stands for. -/
inductive SiteKey where
  | chunkCount (path : String)
  | chunk (path : String) (index : Nat)
  | location (path : String)
  | fileMetadata (path : String) (key : Octets)
  | globalMetadata (key : Octets)
  deriving DecidableEq

namespace SiteKey

/-- The tag of chunks and chunk counts. -/
def fileTag : Octets := 0x01 :: Utf8.encode "FILE"

/-- The tag of path entries. -/
def locationTag : Octets := 0x02 :: Utf8.encode "LOCATION"

/-- The mark of a chunk behind the digest. -/
def chunkMark : Octets := 0x03 :: Utf8.encode "CHUNK"

/-- The mark of a chunk count behind the digest. -/
def countMark : Octets := 0x04 :: Utf8.encode "CHUNK_NB"

/-- The tag of the metadata of a resource. -/
def fileMetadataTag : Octets := 0x05 :: Utf8.encode "FM"

/-- The tag of the metadata of a website. -/
def globalMetadataTag : Octets := 0x06 :: Utf8.encode "GM"

/-- The digest of a path. -/
def pathDigest (path : String) : Octets := Digest.sha256 (Utf8.encode path)

/-- The octets of a key. -/
def encode : SiteKey → Octets
  | chunkCount path => fileTag ++ pathDigest path ++ countMark
  | chunk path index => fileTag ++ pathDigest path ++ chunkMark ++ Octets.bigEndian 4 index
  | location path => locationTag ++ pathDigest path
  | fileMetadata path key => fileMetadataTag ++ pathDigest path ++ key
  | globalMetadata key => globalMetadataTag ++ key

/-- The octets are the tag of path entries with something behind it. -/
def isLocation (key : Octets) : Bool :=
  locationTag.length < key.length && locationTag.isPrefixOf key

/-- How the metadata keys of headers begin; the name of the header follows. -/
def headerMark : String := "http-header:"

/-- The metadata key of the time of the last deploy. -/
def deployTimeKey : String := "LAST_UPDATE"

end SiteKey

end SiteCache
