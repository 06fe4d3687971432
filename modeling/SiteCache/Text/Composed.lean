import SiteCache.Text.CodePoints
import SiteCache.Text.Composed.Table

/-!
# Composed text

Unicode writes a letter with marks as one character or as a letter and the marks behind it.  The
composed form of a text has as few characters as possible: all letters are taken apart, the marks
behind a letter are put into the order of their combining classes, and letters and marks are put
together again where nothing of the same or a greater class stands between.  The text must be free of
characters that never stand in a composed form.
-/

namespace SiteCache.Composed

/-- The composed characters with their parts. -/
def parts : List (Char × Char × Char) :=
  (CodePoints.items pairs).filterMap fun item =>
    let (whole, both) := CodePoints.entry item
    match Pieces.split (· = '.') both with
    | [a, b] => some (Char.ofNat (CodePoints.hex whole), Char.ofNat (CodePoints.hex a),
        Char.ofNat (CodePoints.hex b))
    | _ => none

/-- The combining classes by range. -/
def classRanges : List ((Nat × Nat) × Nat) :=
  (CodePoints.items classes).map fun item =>
    let (range, number) := CodePoints.entry item
    (CodePoints.range range, (Number.digits? 10 0 number).getD 0)

/-- The combining class of a character; zero if it begins something new. -/
def classOf (c : Char) : Nat :=
  match classRanges.find? fun r => r.1.1 ≤ c.toNat && c.toNat ≤ r.1.2 with
  | some r => r.2
  | none => 0

/-- The two parts of a syllable of Korean: the vowel or the final consonant is the second. -/
def syllableParts? (c : Char) : Option (Char × Char) :=
  let n := c.toNat - 0xAC00
  if c.toNat < 0xAC00 ∨ 0xD7A3 < c.toNat then none
  else if n % 28 = 0 then some (Char.ofNat (0x1100 + n / 588), Char.ofNat (0x1161 + n / 28 % 21))
  else some (Char.ofNat (c.toNat - n % 28), Char.ofNat (0x11A7 + n % 28))

/-- The syllable of Korean that two parts make up. -/
def syllable? (a b : Char) : Option Char :=
  if 0x1100 ≤ a.toNat ∧ a.toNat ≤ 0x1112 ∧ 0x1161 ≤ b.toNat ∧ b.toNat ≤ 0x1175 then
    some (Char.ofNat (0xAC00 + 588 * (a.toNat - 0x1100) + 28 * (b.toNat - 0x1161)))
  else if 0xAC00 ≤ a.toNat ∧ a.toNat ≤ 0xD7A3 ∧ (a.toNat - 0xAC00) % 28 = 0 ∧ 0x11A8 ≤ b.toNat
      ∧ b.toNat ≤ 0x11C2 then
    some (Char.ofNat (a.toNat + (b.toNat - 0x11A7)))
  else none

/-- The two parts of a character. -/
def parts? (c : Char) : Option (Char × Char) := (syllableParts? c).or (parts.lookup c)

/-- The character that two parts make up. -/
def whole? (a b : Char) : Option Char :=
  (syllable? a b).or ((parts.find? fun x => x.2.1 = a && x.2.2 = b).map (·.1))

/-- Takes a character apart, so many times at most; none takes more than four. -/
def apart : Nat → Char → List Char
  | 0, c => [c]
  | fuel + 1, c =>
    match parts? c with
    | some (a, b) => apart fuel a ++ [b]
    | none => [c]

/-- Puts a character behind a text that is given backwards, but a mark before marks of greater
classes. -/
def place (c : Char) : List Char → List Char
  | [] => [c]
  | d :: rest => if classOf c ≠ 0 ∧ classOf c < classOf d then d :: place c rest else c :: d :: rest

/-- The text in which characters are put together: it goes backwards up to the last letter, and the
marks behind that letter follow backwards. -/
structure Joint where
  before : List Char := []
  letter : Option Char := none
  marks : List Char := []

/-- Puts a character behind the text. -/
def Joint.add (j : Joint) (c : Char) : Joint :=
  let free := j.marks.isEmpty || j.marks.head?.any (classOf · < classOf c)
  match j.letter, if free then j.letter.bind (whole? · c) else none with
  | _, some whole => { j with letter := some whole }
  | none, none => if classOf c = 0 then { j with letter := some c } else { j with before := c :: j.before }
  | some letter, none =>
    if classOf c = 0 then ⟨j.marks ++ letter :: j.before, some c, []⟩
    else { j with marks := c :: j.marks }

/-- The whole text. -/
def Joint.text (j : Joint) : List Char := (j.marks ++ j.letter.toList ++ j.before).reverse

/-- The composed form of a text. -/
def compose (cs : List Char) : List Char :=
  let ordered := (cs.flatMap (apart 4)).foldl (fun done c => place c done) []
  (ordered.reverse.foldl Joint.add {}).text

end SiteCache.Composed
