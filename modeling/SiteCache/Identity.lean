import SiteCache.Fault

/-!
# Identities

A cached resource is identified by the address of its website and its path in it.  As a record key
an identity is written as two components, each behind its length in eight octets (`encode`), so
that no encoding is the beginning of another; `decode` accepts exactly these encodings.  Where a
number has to do, `hash` stirs the same octets into sixty-four bits.
-/

namespace SiteCache

/-- The address of a website and the path of a resource in it. -/
structure Identity where
  address : String
  resource : String
  deriving DecidableEq

namespace Identity

/-- Address and path with a slash between them. -/
def text (i : Identity) : String := i.address ++ "/" ++ i.resource

/-- The fault that no tier holds this identity. -/
def missed (i : Identity) : Fault := .miss i.address i.resource

/-- A component behind its length. -/
def encodePart (s : String) : Octets := Octets.framed (Utf8.encode s)

/-- The components of an identity, each behind its length. -/
def encode (i : Identity) : Octets := encodePart i.address ++ encodePart i.resource

/-- Reads the component in front of a byte string, and answers what follows it. -/
def decodePart (b : Octets) : Except StorageFault (String × Octets) :=
  b.unframe?.elim (.error .truncatedIdentity) fun part =>
    match Utf8.decode part.1 with
    | .ok s => .ok (s, part.2)
    | .error defect => .error (.identityText defect)

/-- Reads the identity that a byte string encodes. -/
def decode (b : Octets) : Except StorageFault Identity := do
  let (address, rest) ← decodePart b
  let (resource, rest) ← decodePart rest
  if rest.isEmpty then pure ⟨address, resource⟩ else throw (.trailingOctets rest.length)

/-- The multiplier and starting value of the hash. -/
def hashSeed : UInt64 := 0x517cc1b727220a95

/-- Rotation to the left by five bits. -/
def rotate5 (h : UInt64) : UInt64 := (h <<< 5) ||| (h >>> 59)

/-- Stirs one octet into a hash. -/
def stir (h : UInt64) (o : UInt8) : UInt64 := (rotate5 h ^^^ o.toUInt64) * hashSeed

/-- The hash of an identity. -/
def hash (i : Identity) : UInt64 := i.encode.foldl stir hashSeed

end Identity

end SiteCache
