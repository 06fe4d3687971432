import SiteCache.DomainName.Direction.Table
import SiteCache.Text.CodePoints

/-!
# The direction of labels

Letters of some scripts run from right to left.  A domain name that has any of them, or Arabic
digits, is shown without surprises only if each of its labels keeps to one direction
(`isUnmixed`): it begins with a letter, has only characters that do not turn the direction, ends with
a letter or a digit, marks aside, and does not mix the two kinds of digits.
-/

namespace SiteCache.DomainName.Direction

/-- The directional classes. -/
inductive Class where
  | left
  | right
  | arabicLetter
  | arabicNumber
  | europeanNumber
  | separator
  | terminator
  | commonSeparator
  | mark
  | boundary
  | neutral
  | other
  deriving DecidableEq

/-- The classes with their characters. -/
def classes : List (Class × List (Nat × Nat)) :=
  [(.right, rightToLeft), (.arabicLetter, arabicLetters), (.arabicNumber, arabicNumbers),
    (.europeanNumber, europeanNumbers), (.separator, separators), (.terminator, terminators),
    (.commonSeparator, commonSeparators), (.mark, marks), (.boundary, boundaries),
    (.neutral, neutrals), (.other, others)].map fun x => (x.1, CodePoints.ranges x.2)

/-- The class of a character. -/
def classOf (c : Char) : Class :=
  match classes.find? fun x => CodePoints.contains x.2 c with
  | some x => x.1
  | none => .left

/-- The characters that make a domain name one that runs from right to left in some part. -/
def turns (c : Class) : Bool := c = .right || c = .arabicLetter || c = .arabicNumber

/-- The classes that labels of both directions may have. -/
def isCommon (c : Class) : Bool :=
  [.europeanNumber, .separator, .terminator, .commonSeparator, .mark, .boundary, .neutral].contains c

/-- The label keeps to one direction. -/
def isUnmixed (label : List Char) : Bool :=
  let cs := label.map classOf
  let last := cs.reverse.find? (· ≠ .mark)
  match cs.head? with
  | none => true
  | some .left =>
    cs.all (fun c => c = .left || isCommon c) && last.any fun c => c = .left || c = .europeanNumber
  | some first =>
    (first = .right || first = .arabicLetter)
      && cs.all (fun c => turns c || isCommon c)
      && last.any (fun c => turns c || c = .europeanNumber)
      && !(cs.contains .europeanNumber && cs.contains .arabicNumber)

end SiteCache.DomainName.Direction
