import SiteCache.Copy

/-!
# The records of the disk tier

Every stored copy has four records, for its insertion id, its content, its time and its headers.
Their keys are a tag, the encoded identity and a field (`key`).  An index record per copy leads
from the insertion id to the encoded identity (`indexKey`), so that index records ascend in the
order of insertion; one more record holds the next insertion id.
-/

namespace SiteCache.Record

/-- The fields of a stored copy. -/
inductive Field where
  | id
  | content
  | time
  | headers
  deriving DecidableEq

namespace Field

/-- The octet that names a field. -/
def octet : Field → UInt8
  | .id => 1
  | .content => 2
  | .time => 3
  | .headers => 4

/-- All fields. -/
def all : List Field := [.id, .content, .time, .headers]

end Field

/-- The tag of the records of copies. -/
def copyTag : UInt8 := 1

/-- The tag of index records. -/
def indexTag : UInt8 := 2

/-- The key of the next insertion id. -/
def nextIdKey : Octets := [3]

/-- The key of a field of the copy with this encoded identity. -/
def key (identity : Octets) (f : Field) : Octets := copyTag :: (identity ++ [f.octet])

/-- The octets of an insertion id. -/
def encodeId (id : Nat) : Octets := Octets.bigEndian 8 id

/-- The key of the index record of an insertion id. -/
def indexKey (id : Nat) : Octets := indexTag :: encodeId id

/-- Reads a word of eight octets. -/
def decodeWord (word : Word) (b : Octets) : Except Fault Nat :=
  if b.length = 8 then .ok (Octets.toNat b) else .error (.storage (.wordWidth word b.length))

/-- A time as a word: its nanoseconds since the epoch in two's complement. -/
def encodeTime (t : Time) : Except Fault Octets :=
  match t.nanoseconds? with
  | some n => .ok (Octets.bigEndian 8 (n % wordBound).toNat)
  | none => .error (.storage (.timeRange t))

/-- Reads the time that a word holds. -/
def decodeTime (b : Octets) : Except Fault Time :=
  (decodeWord .timestamp b).map fun n => Time.ofNanoseconds (Int.bmod n wordBound)

/-- Reads stored headers; a missing record stands for none. -/
def decodeHeaders : Option Octets → Except Fault Headers
  | none => .ok .empty
  | some b =>
    match Headers.decode? b with
    | some h => .ok h
    | none => .error (.storage .headers)

end SiteCache.Record
