import SiteCache.DomainName.Direction
import SiteCache.DomainName.Joining
import SiteCache.DomainName.Mapping
import SiteCache.DomainName.Punycode

/-!
# Domain names

A domain name is labels between dots.  `DomainName.toAscii?` answers the form in which it is looked
up: its characters are mapped and composed, labels that are written in ASCII are checked for what
they stand for, and labels with other characters are written in ASCII behind the mark `xn--`.  A name
with a label that may not be is refused.
-/

namespace SiteCache.DomainName

/-- The mark of a label that stands for other characters. -/
def mark : List Char := "xn--".toList

/-- Characters of ASCII that no domain name may have. -/
def refuses (c : Char) : Bool :=
  c.toNat ≤ 0x20 || c.toNat = 0x7F || "#%/:<>?@[\\]^|".toList.contains c

/-- Text in ASCII only. -/
def isAscii (cs : List Char) : Bool := cs.all (·.toNat < 0x80)

/-- The most characters of a label that is written in ASCII, and of its written form. -/
def longest : Nat × Nat := (1000, 2000)

/-- The characters that a label stands for: those behind a mark are read, and must be such that
mapping and composing keep them. -/
def readLabel? (label : List Char) : Option (List Char) :=
  if mark.isPrefixOf label then do
    let written := label.drop mark.length
    if !isAscii written ∨ written.isEmpty ∨ written.getLast? = some '-'
        ∨ longest.2 < written.length then none
    let text ← Punycode.decode? written
    if (text.all fun c => Mapping.image? c = some [c]) ∧ Composed.compose text = text
        ∧ !mark.isPrefixOf text then
      some text
    else none
  else some label

/-- The label has no character that is refused, does not begin with a mark, and joins letters only
where there is a reason. -/
def isSound (label : List Char) : Bool :=
  !label.any refuses && !label.head?.any Joining.isMark && Joining.isFounded label

/-- The form of a label in ASCII. -/
def writeLabel? (label : List Char) : Option (List Char) :=
  if isAscii label then some label
  else if longest.1 < label.length then none
  else some (mark ++ Punycode.encode label)

/-- The labels that a name consists of, as they are meant. -/
def labels? (name : List Char) : Option (List (List Char)) := do
  let mapped := (← name.mapM Mapping.image?).flatten
  (Pieces.split (· = '.') (Composed.compose mapped)).mapM readLabel?

/-- The name in ASCII. -/
def toAscii? (name : String) : Option String := do
  let labels ← labels? name.toList
  let turned := labels.any (·.any fun c => Direction.turns (Direction.classOf c))
  if labels.all isSound ∧ (turned → labels.all Direction.isUnmixed) then
    let written ← labels.mapM writeLabel?
    some (".".intercalate (written.map String.ofList))
  else none

end SiteCache.DomainName
