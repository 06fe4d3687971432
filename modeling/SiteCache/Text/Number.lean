/-!
# Whole numbers in text

A whole number is written as digits of some radix, most significant first, with an optional
plus sign before them; leading zeros do not matter.  `parse?` reads one below a given bound and
refuses everything else.
-/

namespace SiteCache.Number

/-- The value of a digit; letters of both cases continue the ten decimal digits. -/
def digit? (c : Char) : Option Nat :=
  if c.isDigit then some (c.toNat - '0'.toNat)
  else if c.isLower then some (c.toNat - 'a'.toNat + 10)
  else if c.isUpper then some (c.toNat - 'A'.toNat + 10)
  else none

/-- Reads on from the value of the digits before these. -/
def digits? (radix : Nat) : Nat → List Char → Option Nat
  | n, [] => some n
  | n, c :: rest =>
    match digit? c with
    | some d => if d < radix then digits? radix (radix * n + d) rest else none
    | none => none

/-- The number below `bound` that the characters write. -/
def parse? (radix bound : Nat) (cs : List Char) : Option Nat :=
  let written := match cs with
    | '+' :: rest => rest
    | _ => cs
  match written with
  | [] => none
  | _ => (digits? radix 0 written).filter (· < bound)

end SiteCache.Number
