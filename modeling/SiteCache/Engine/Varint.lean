import SiteCache.Octets

/-!
# Numbers of varying length

A number in as few octets as it needs: groups of seven bits, most significant first, of which every
one but the last has its highest bit set.  A ninth octet is the last and counts whole.
-/

namespace SiteCache.Varint

/-- The groups of a number before its last one. -/
def writeLeading (n : Nat) : Octets :=
  if n = 0 then [] else writeLeading (n / 128) ++ [UInt8.ofNat (n % 128 + 128)]
termination_by n
decreasing_by exact Nat.div_lt_self (by omega) (by decide)

/-- The octets of a number of at most eight groups. -/
def write (n : Nat) : Octets := writeLeading (n / 128) ++ [UInt8.ofNat (n % 128)]

/-- Reads on behind groups with this value, with so many more before a ninth octet. -/
def readFrom? : Nat → Nat → Octets → Option (Nat × Octets)
  | _, _, [] => none
  | 0, n, o :: rest => some (256 * n + o.toNat, rest)
  | more + 1, n, o :: rest =>
    if o.toNat < 128 then some (128 * n + o.toNat, rest)
    else readFrom? more (128 * n + (o.toNat - 128)) rest

/-- Reads a number off the front of a byte string. -/
def read? (b : Octets) : Option (Nat × Octets) := readFrom? 8 0 b

end SiteCache.Varint
