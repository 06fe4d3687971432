import SiteCache.Text.Pieces

/-!
# Punycode

A label in ASCII letters, digits and hyphens for a label of any characters.  The ASCII characters
stand in front, with a hyphen behind them if there are any.  Numbers follow, each for one more
character: how many steps it is from the last one, if a step leads from a position in the text to the
next, and from its end to the next code point.  A number is written in digits up to 35, the lowest
first, each with a threshold of its own below which it is the last; the thresholds depend on a bias
that follows the size of the numbers.
-/

namespace SiteCache.DomainName.Punycode

/-- The digit of a number below 36. -/
def digit (n : Nat) : Char := Char.ofNat (if n < 26 then 0x61 + n else 0x16 + n)

/-- The value of a digit. -/
def value? (c : Char) : Option Nat :=
  if 'a' ≤ c ∧ c ≤ 'z' then some (c.toNat - 0x61)
  else if '0' ≤ c ∧ c ≤ '9' then some (c.toNat - 0x16)
  else none

/-- The threshold of the digit at a position, which counts in steps of 36 from 36 on. -/
def threshold (bias position : Nat) : Nat :=
  if position ≤ bias then 1 else if bias + 26 ≤ position then 26 else position - bias

theorem one_le_threshold (bias position : Nat) :
  1 ≤ threshold bias position
  := by
  rw [threshold]
  split
  · omega
  · split <;> omega

theorem threshold_le (bias position : Nat) :
  threshold bias position ≤ 26
  := by
  rw [threshold]
  split
  · omega
  · split <;> omega

/-- The bias for numbers of about this size. -/
def biasFrom (position size : Nat) : Nat :=
  if 455 < size then biasFrom (position + 36) (size / 35) else position + 36 * size / (size + 38)
termination_by size
decreasing_by exact Nat.div_lt_self (by omega) (by omega)

/-- The bias behind a number that has put in the character that makes them so many. -/
def adapt (number count : Nat) (first : Bool) : Nat :=
  let size := if first then number / 700 else number / 2
  biasFrom 0 (size + size / count)

/-! ### Writing -/

/-- The digits of a number from a position on. -/
def writeNumber (bias position n : Nat) : List Char :=
  let t := threshold bias position
  if n < t then [digit n]
  else digit (t + (n - t) % (36 - t)) :: writeNumber bias (position + 36) ((n - t) / (36 - t))
termination_by n
decreasing_by
  have least := one_le_threshold bias position
  have most := threshold_le bias position
  exact Nat.lt_of_le_of_lt (Nat.div_le_self _ _) (by omega)

/-- What is written so far: the characters that are put in, the steps since the last one, and the
bias. -/
structure Writer where
  written : List Char := []
  count : Nat
  steps : Nat := 0
  bias : Nat := 72

/-- Passes a character of the text on the way through the positions for a code point. -/
def Writer.pass (plain codePoint : Nat) (w : Writer) (c : Char) : Writer :=
  if c.toNat < codePoint then { w with steps := w.steps + 1 }
  else if c.toNat = codePoint then
    { written := w.written ++ writeNumber w.bias 36 w.steps
      count := w.count + 1
      steps := 0
      bias := adapt w.steps (w.count + 1) (w.count = plain) }
  else w

/-- Writes the characters of these code points, which ascend, from a code point on. -/
def writeFrom (text : List Char) (plain : Nat) : Nat → List Nat → Writer → Writer
  | _, [], w => w
  | low, n :: rest, w =>
    let w := { w with steps := w.steps + (n - low) * (w.count + 1) }
    let w := text.foldl (Writer.pass plain n) w
    writeFrom text plain (n + 1) rest { w with steps := w.steps + 1 }

/-- Puts a number into an ascending list, unless it is there. -/
def insert (n : Nat) : List Nat → List Nat
  | [] => [n]
  | m :: rest => if n < m then n :: m :: rest else if n = m then m :: rest else m :: insert n rest

/-- The label in ASCII for a text. -/
def encode (text : List Char) : List Char :=
  let plain := text.filter fun c => c.toNat < 0x80
  let others := (text.filter fun c => 0x80 ≤ c.toNat).foldl (fun ns c => insert c.toNat ns) []
  let w := writeFrom text plain.length 0x80 others { count := plain.length }
  plain ++ (if plain.isEmpty then [] else ['-']) ++ w.written

/-! ### Reading -/

/-- Reads a number from a position on, whose digits there weigh so much, behind the value of the
digits before; also answers what follows it. -/
def readNumber? (bias : Nat) : List Char → Nat → Nat → Nat → Option (Nat × List Char)
  | [], _, _, _ => none
  | c :: rest, position, weight, n =>
    match value? c with
    | none => none
    | some d =>
      if d < threshold bias position then some (n + d * weight, rest)
      else
        readNumber? bias rest (position + 36) (weight * (36 - threshold bias position))
          (n + d * weight)

theorem length_lt_of_readNumber? {bias : Nat} {cs rest : List Char} {position weight n m : Nat}
    (h : readNumber? bias cs position weight n = some (m, rest)) :
  rest.length < cs.length
  := by
  induction cs generalizing position weight n with
  | nil => simp [readNumber?] at h
  | cons c cs ih =>
    rw [readNumber?] at h
    split at h
    · simp at h
    · split at h
      · cases h
        simp
      · have := ih h
        simp only [List.length_cons]
        omega

/-- Reads the characters that numbers put into a text, from a code point and a position on. -/
def readFrom? (first : Bool) (bias codePoint position : Nat) (text : List Char) (cs : List Char) :
    Option (List Char) :=
  match cs with
  | [] => some text
  | c :: more =>
    match _read : readNumber? bias (c :: more) 36 1 0 with
    | none => none
    | some (steps, rest) =>
      let count := text.length + 1
      let n := codePoint + (position + steps) / count
      let i := (position + steps) % count
      if n < 0xD800 ∨ (0xDFFF < n ∧ n < 0x110000) then
        readFrom? false (adapt steps count first) n (i + 1)
          (text.take i ++ Char.ofNat n :: text.drop i) rest
      else none
termination_by cs.length
decreasing_by exact length_lt_of_readNumber? _read

/-- The text for which a label in ASCII stands. -/
def decode? (label : List Char) : Option (List Char) :=
  let (behind, before) := Pieces.cut (· = '-') label.reverse
  readFrom? true 72 0x80 0 (before.drop 1).reverse behind.reverse

end SiteCache.DomainName.Punycode
