import SiteCache.Fault

/-!
# Chunks

The content of a resource is stored as consecutive chunks of one length, of which only the last may
be shorter, and their number.  The number is stored in four octets, least significant first, as a
signed word; only positive numbers are read back.
-/

namespace SiteCache.Chunk

/-- The chunk length of a deployment. -/
def defaultSize : Nat := 64000

/-- The chunks of a content; none of an empty one or for length zero. -/
def divide (content : Octets) (size : Nat) : List Octets := batches size content

/-- A number of chunks as a word. -/
def encodeCount (count : Nat) : Octets := (Octets.bigEndian 4 count).reverse

/-- Reads a positive number of chunks. -/
def decodeCount (b : Octets) : Except Fault Nat :=
  if b.length ≠ 4 then .error (.corrupt (.countWidth b.length))
  else
    let count := Int.bmod (Octets.toNat b.reverse) (Octets.capacity 4)
    if count ≤ 0 then .error (.corrupt (.countValue count)) else .ok count.toNat

end SiteCache.Chunk
