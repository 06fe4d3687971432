import SiteCache.DomainName.Mapping.Table
import SiteCache.Text.CodePoints

/-!
# The mapping of domain names

Before a domain name is compared or looked up, its characters are replaced by those that they stand
for: capital letters by small ones, variants of a letter or a sign by the common one, and some by
none.  `Mapping.image?` answers what a character stands for, or `none` for the characters that no
domain name may have.
-/

namespace SiteCache.DomainName.Mapping

/-- The characters of a range, or every second one, and what stands for the first of them; the
images of the others follow it at the distance of `step` to each other, or are the same. -/
structure Rule where
  first : Nat
  last : Nat
  step : Nat
  image : List Nat

/-- The rule that an item of the data writes. -/
def Rule.read (item : List Char) : Rule :=
  let (key, value) := CodePoints.entry item
  let (range, step) := Pieces.cut (· = '/') key
  let (first, last) := CodePoints.range range
  let image := if value.isEmpty then [] else (Pieces.split (· = '.') value).map CodePoints.hex
  ⟨first, last, if step.isEmpty then 1 else CodePoints.hex (step.drop 1), image⟩

/-- The rule speaks of a character. -/
def Rule.covers (r : Rule) (n : Nat) : Bool :=
  r.first ≤ n && n ≤ r.last && (n - r.first) % max r.step 1 = 0

/-- What the rule puts in the place of a character. -/
def Rule.apply (r : Rule) (n : Nat) : List Char :=
  match r.image with
  | [m] => [Char.ofNat (if r.step = 0 then m else m + (n - r.first))]
  | image => image.map Char.ofNat

/-- All rules. -/
def rules : List Rule := (CodePoints.items replaced).map Rule.read

/-- The ranges of the characters that no domain name may have. -/
def refusedRanges : List (Nat × Nat) := CodePoints.ranges refused

/-- What a character stands for. -/
def image? (c : Char) : Option (List Char) :=
  match rules.find? (·.covers c.toNat) with
  | some r => some (r.apply c.toNat)
  | none => if CodePoints.contains refusedRanges c then none else some [c]

end SiteCache.DomainName.Mapping
