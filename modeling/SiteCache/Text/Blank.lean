/-!
# Blank characters

The twenty-five characters of the Unicode property White_Space, and the text that is left when
they are cut off at both ends.
-/

namespace SiteCache.Blank

/-- The characters of the property, as ranges of code points in ascending order. -/
def ranges : List (Nat × Nat) :=
  [(0x09, 0x0D), (0x20, 0x20), (0x85, 0x85), (0xA0, 0xA0), (0x1680, 0x1680), (0x2000, 0x200A),
    (0x2028, 0x2029), (0x202F, 0x202F), (0x205F, 0x205F), (0x3000, 0x3000)]

/-- White space of any script. -/
def isBlank (c : Char) : Bool := ranges.any (fun r => r.1 ≤ c.toNat && c.toNat ≤ r.2)

/-- Cuts blanks off the end. -/
def trimEnd (cs : List Char) : List Char := (cs.reverse.dropWhile isBlank).reverse

/-- Cuts blanks off both ends. -/
def trim (cs : List Char) : List Char := trimEnd (cs.dropWhile isBlank)

end SiteCache.Blank
