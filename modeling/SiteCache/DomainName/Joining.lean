import SiteCache.DomainName.Joining.Table
import SiteCache.Text.Composed

/-!
# Joiners in labels

Two characters that do not show, the joiner and the non-joiner, change how their neighbours are
written.  A label may have one behind the sign that takes the vowel from a letter, and a non-joiner
between two letters that would join (`isFounded`).
-/

namespace SiteCache.DomainName.Joining

/-- The ranges of the marks. -/
def markRanges : List (Nat × Nat) := CodePoints.ranges marks

/-- The ranges of the characters across which letters join. -/
def transparentRanges : List (Nat × Nat) := CodePoints.ranges transparent

/-- The ranges of the letters that join to the letter behind them. -/
def forwardRanges : List (Nat × Nat) := CodePoints.ranges (bothSides ++ leftSide)

/-- The ranges of the letters that join to the letter before them. -/
def backwardRanges : List (Nat × Nat) := CodePoints.ranges (bothSides ++ rightSide)

/-- The character belongs to the one before it. -/
def isMark (c : Char) : Bool := CodePoints.contains markRanges c

/-- The combining class of the signs that take the vowel from a letter. -/
def vowelKiller : Nat := 9

/-- The first character that letters do not join across is one of these. -/
def reaches (ranges : List (Nat × Nat)) (cs : List Char) : Bool :=
  (cs.find? fun c => !CodePoints.contains transparentRanges c).any (CodePoints.contains ranges)

/-- Every joiner and non-joiner behind the text `before`, which goes backwards, has a reason. -/
def isFoundedBehind : List Char → List Char → Bool
  | _, [] => true
  | before, c :: rest =>
    let founded :=
      if c.toNat = 0x200C ∨ c.toNat = 0x200D then
        before.head?.any (Composed.classOf · = vowelKiller)
          || (c.toNat = 0x200C && reaches forwardRanges before && reaches backwardRanges rest)
      else true
    founded && isFoundedBehind (c :: before) rest

/-- Every joiner and non-joiner of the label has a reason. -/
def isFounded (label : List Char) : Bool := isFoundedBehind [] label

end SiteCache.DomainName.Joining
