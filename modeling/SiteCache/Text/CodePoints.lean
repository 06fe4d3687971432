import SiteCache.Text.Number
import SiteCache.Text.Pieces

/-!
# Sets of code points

A property of characters is written as lines of items between blanks: a code point in hexadecimal,
or the first and the last one of a range with a hyphen between them.
-/

namespace SiteCache.CodePoints

/-- The value of a hexadecimal text; what is no such text counts as zero. -/
def hex (cs : List Char) : Nat := (Number.digits? 16 0 cs).getD 0

/-- The range that an item names. -/
def range (cs : List Char) : Nat × Nat :=
  let (first, last) := Pieces.cut (· = '-') cs
  if last.isEmpty then (hex first, hex first) else (hex first, hex (last.drop 1))

/-- The items of lines. -/
def items (lines : List String) : List (List Char) :=
  lines.flatMap fun line => Pieces.split (· = ' ') line.toList

/-- The ranges that lines name. -/
def ranges (lines : List String) : List (Nat × Nat) := (items lines).map range

/-- The key and the value of an item with an equals sign. -/
def entry (cs : List Char) : List Char × List Char :=
  let (key, value) := Pieces.cut (· = '=') cs
  (key, value.drop 1)

/-- A character belongs to one of the ranges. -/
def contains (ranges : List (Nat × Nat)) (c : Char) : Bool :=
  ranges.any fun r => r.1 ≤ c.toNat && c.toNat ≤ r.2

end SiteCache.CodePoints
