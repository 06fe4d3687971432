/-!
# The texts of YAML scalars

A scalar is written plain, between quotes, or as a block below its line.  In a plain or quoted
scalar a stretch of blanks and line breaks (`Gap`) stands for its blanks, if it has no break, or
else for the breaks after the first one, and for a blank if there are none.  A block keeps its line
breaks or folds single ones between lines that do not begin with a blank.  Each reader answers the
text and the place behind it, or `none` if the scalar is not well formed.
-/

namespace SiteCache.Yaml

/-- The characters that a document may hold. -/
def isPrintable (c : Char) : Bool :=
  let n := c.toNat
  n = 0x09 || n = 0x0A || n = 0x0D || (0x20 ≤ n && n ≤ 0x7E) || n = 0x85
    || (0xA0 ≤ n && n ≤ 0xFFFD) || 0x10000 ≤ n

/-- Line feed, carriage return, next line, line separator and paragraph separator. -/
def isBreak (c : Char) : Bool :=
  let n := c.toNat
  n = 0x0A || n = 0x0D || n = 0x85 || n = 0x2028 || n = 0x2029

/-- Space and tab. -/
def isBlank (c : Char) : Bool := c = ' ' || c = '\t'

/-- Letters, digits, hyphen and underscore of ASCII. -/
def isWord (c : Char) : Bool := c.isAlphanum || c = '-' || c = '_'

/-- The text goes on with a character that satisfies a test. -/
def starts (p : Char → Bool) : List Char → Bool
  | [] => false
  | c :: _ => p c

/-- The text ends or goes on with a line break. -/
def atBreak (cs : List Char) : Bool := cs.isEmpty || starts isBreak cs

/-- The text ends or goes on with a blank or a line break. -/
def atGap (cs : List Char) : Bool := atBreak cs || starts isBlank cs

/-- How many octets characters take in UTF-8. -/
def octetCount (cs : List Char) : Nat := cs.foldl (fun n c => n + c.utf8Size) 0

/-- A place in a document: octets before it, lines above it and characters left of it, and the text
from it on. -/
structure Place where
  index : Nat := 0
  line : Nat := 0
  column : Nat := 0
  rest : List Char

namespace Place

/-- The place so many characters on in the same line. -/
def skip (p : Place) (n : Nat) : Place :=
  { p with
    index := p.index + octetCount (p.rest.take n)
    column := p.column + n
    rest := p.rest.drop n }

/-- The place behind the characters that satisfy a test, none of which breaks a line. -/
def skipWhile (p : Place) (test : Char → Bool) : Place := p.skip (p.rest.takeWhile test).length

/-- The place at the beginning of the next line, if a line break stands here, and the character that
the break counts as; carriage return and line feed are one break. -/
def nextLine? (p : Place) : Option (Char × Place) :=
  let below (n : Nat) : Place :=
    { index := p.index + octetCount (p.rest.take n)
      line := p.line + 1
      column := 0
      rest := p.rest.drop n }
  match p.rest with
  | '\r' :: '\n' :: _ => some ('\n', below 2)
  | c :: _ =>
    if isBreak c then some (if c.toNat = 0x2028 ∨ c.toNat = 0x2029 then c else '\n', below 1)
    else none
  | [] => none

/-- A line begins here with three of this character and a gap: a mark between documents. -/
def hasMark (p : Place) (c : Char) : Bool :=
  p.column = 0 && p.rest.take 3 = [c, c, c] && atGap (p.rest.drop 3)

/-- A line begins here with a mark between documents. -/
def atMark (p : Place) : Bool := p.hasMark '-' || p.hasMark '.'

end Place

/-! ### Gaps -/

/-- A stretch of blanks and line breaks: the blanks before the first break, and the breaks. -/
structure Gap where
  blanks : List Char := []
  breaks : List Char := []

/-- What folded breaks stand for. -/
def fold : List Char → List Char
  | ['\n'] => [' ']
  | '\n' :: more => more
  | breaks => breaks

/-- What a gap stands for. -/
def Gap.text (g : Gap) : List Char := if g.breaks.isEmpty then g.blanks else fold g.breaks

/-- Reads a gap; a tab to the left of `margin` is not allowed behind a break. -/
def readGap (margin : Nat) : Nat → Gap → Place → Option (Gap × Place)
  | 0, g, p => some (g, p)
  | fuel + 1, g, p =>
    match p.nextLine? with
    | some (c, below) => readGap margin fuel { g with breaks := g.breaks ++ [c] } below
    | none =>
      match p.rest with
      | c :: _ =>
        if isBlank c then
          if g.breaks.isEmpty then readGap margin fuel { g with blanks := g.blanks ++ [c] } (p.skip 1)
          else if c = '\t' ∧ p.column < margin then none
          else readGap margin fuel g (p.skip 1)
        else some (g, p)
      | [] => some (g, p)

/-! ### Plain scalars -/

/-- The characters that end a plain scalar inside brackets. -/
def isFlowIndicator (c : Char) : Bool := ",[]\x7b\x7d".toList.contains c

/-- The characters of a plain scalar up to a gap, a colon before a gap or, inside brackets, an
indicator; there a colon may not stand before an indicator or a question mark. -/
def plainRun (flow : Bool) : List Char → Option (List Char)
  | [] => some []
  | c :: rest =>
    if isBlank c || isBreak c then some []
    else if c = ':' ∧ flow ∧ starts (fun x => isFlowIndicator x || x = '?') rest then none
    else if c = ':' ∧ atGap rest then some []
    else if flow ∧ isFlowIndicator c then some []
    else (plainRun flow rest).map (c :: ·)

/-- Reads a plain scalar from a gap in it on; also answers whether it ends behind a line break.  Outside
brackets its lines must not begin left of `margin`. -/
def readPlain (flow : Bool) (margin : Nat) : Nat → Gap → Place → Option (List Char × Bool × Place)
  | 0, _, _ => none
  | fuel + 1, gap, p =>
    let stop := some ([], !gap.breaks.isEmpty, p)
    if p.atMark ∨ starts (· = '#') p.rest then stop
    else
      match plainRun flow p.rest with
      | none => none
      | some [] => stop
      | some run =>
        let text := gap.text ++ run
        let p := p.skip run.length
        if starts (fun c => isBlank c || isBreak c) p.rest then
          match readGap margin (fuel + 1) {} p with
          | none => none
          | some (gap, p) =>
            if !flow ∧ p.column < margin then some (text, !gap.breaks.isEmpty, p)
            else
              (readPlain flow margin fuel gap p).map fun (more, below, p) => (text ++ more, below, p)
        else some (text, false, p)

/-! ### Quoted scalars -/

/-- The character of an escape of one letter. -/
def letterEscape? (c : Char) : Option Char :=
  [('0', 0x00), ('a', 0x07), ('b', 0x08), ('t', 0x09), ('\t', 0x09), ('n', 0x0A), ('v', 0x0B),
    ('f', 0x0C), ('r', 0x0D), ('e', 0x1B), (' ', 0x20), ('"', 0x22), ('/', 0x2F), ('\\', 0x5C),
    ('N', 0x85), ('_', 0xA0), ('L', 0x2028), ('P', 0x2029)].lookup c |>.map Char.ofNat

/-- How many hexadecimal digits follow the letter of an escape. -/
def hexEscape? (c : Char) : Option Nat := [('x', 2), ('u', 4), ('U', 8)].lookup c

/-- The value of a hexadecimal digit. -/
def hexDigit? (c : Char) : Option Nat :=
  if c.isDigit then some (c.toNat - 0x30)
  else if 'a' ≤ c ∧ c ≤ 'f' then some (c.toNat - 0x61 + 10)
  else if 'A' ≤ c ∧ c ≤ 'F' then some (c.toNat - 0x41 + 10)
  else none

/-- The character that hexadecimal digits name; surrogates are none. -/
def hexChar? (digits : List Char) : Option Char := do
  let n := (← digits.mapM hexDigit?).foldl (fun n d => 16 * n + d) 0
  if (0xD800 ≤ n ∧ n ≤ 0xDFFF) ∨ 0x10FFFF < n then none else some (Char.ofNat n)

/-- Where the characters of a quoted scalar stop. -/
inductive Stop where
  | quote
  | gap
  | escapedBreak

/-- Reads the characters between single quotes up to a gap or the closing quote; a quote is written
twice. -/
def singleRun : List Char → List Char × Nat × Stop
  | [] => ([], 0, .gap)
  | '\'' :: '\'' :: rest =>
    let (run, n, stop) := singleRun rest
    ('\'' :: run, n + 2, stop)
  | c :: rest =>
    if c = '\'' then ([], 0, .quote)
    else if isBlank c || isBreak c then ([], 0, .gap)
    else
      let (run, n, stop) := singleRun rest
      (c :: run, n + 1, stop)

/-- Reads the characters between double quotes up to a gap, an escaped line break or the closing
quote, in at most so many steps. -/
def doubleRun : Nat → List Char → Option (List Char × Nat × Stop)
  | 0, _ => none
  | _ + 1, [] => some ([], 0, .gap)
  | fuel + 1, c :: rest =>
    let more (x : Char) (n : Nat) (rest : List Char) :=
      (doubleRun fuel rest).map fun (run, m, stop) => (x :: run, n + m, stop)
    if c = '"' then some ([], 0, .quote)
    else if isBlank c || isBreak c then some ([], 0, .gap)
    else if c = '\\' then
      match rest with
      | [] => none
      | e :: after =>
        if isBreak e then some ([], 1, .escapedBreak)
        else
          match letterEscape? e, hexEscape? e with
          | some x, _ => more x 2 after
          | none, some n =>
            if after.length < n then none
            else
              match hexChar? (after.take n) with
              | some x => more x (2 + n) (after.drop n)
              | none => none
          | none, none => none
    else more c 1 rest

/-- Reads a quoted scalar behind its opening quote.  No line of it is a mark between documents. -/
def readQuoted (single : Bool) : Nat → Place → Option (List Char × Place)
  | 0, _ => none
  | fuel + 1, p =>
    if p.atMark ∨ p.rest.isEmpty then none
    else
      let run :=
        if single then some (singleRun p.rest) else doubleRun (fuel + 1) p.rest
      match run with
      | none => none
      | some (run, n, stop) =>
        let p := p.skip n
        match stop with
        | .quote => some (run, p.skip 1)
        | .gap =>
          match readGap 0 (fuel + 1) {} p with
          | some (gap, p) =>
            (readQuoted single fuel p).map fun (more, p) => (run ++ gap.text ++ more, p)
          | none => none
        | .escapedBreak =>
          match p.nextLine? with
          | none => none
          | some (_, p) =>
            let p := p.skipWhile isBlank
            match readGap 0 (fuel + 1) {} p with
            | some (gap, p) =>
              (readQuoted single fuel p).map fun (more, p) => (run ++ gap.breaks ++ more, p)
            | none => none

/-! ### Block scalars -/

/-- What becomes of the line breaks at the end of a block. -/
inductive Chomping where
  | strip
  | clip
  | keep

/-- The indicators behind the one that opens a block: indentation, if it is given, and chomping, in
either order. -/
def blockIndicators (p : Place) : Option (Option Nat × Chomping × Place) :=
  let chomping? (p : Place) : Option Chomping × Place :=
    match p.rest with
    | '+' :: _ => (some .keep, p.skip 1)
    | '-' :: _ => (some .strip, p.skip 1)
    | _ => (none, p)
  let indent? (p : Place) : Option (Option Nat × Place) :=
    match p.rest with
    | c :: _ =>
      if c = '0' then none
      else if c.isDigit then some (some (c.toNat - 0x30), p.skip 1)
      else some (none, p)
    | [] => some (none, p)
  match chomping? p with
  | (some chomping, p) => (indent? p).map fun (indent, p) => (indent, chomping, p)
  | (none, p) =>
    match indent? p with
    | none => none
    | some (none, p) => some (none, .clip, p)
    | some (indent, p) =>
      let (chomping, p) := chomping? p
      some (indent, chomping.getD .clip, p)

/-- Reads the empty lines before a line of a block: the breaks, the largest column reached, and the
place.  While the indentation is not known, every space belongs to it. -/
def blockBreaks (indent : Option Nat) :
    Nat → List Char → Nat → Place → Option (List Char × Nat × Place)
  | 0, breaks, widest, p => some (breaks, widest, p)
  | fuel + 1, breaks, widest, p =>
    let inside (column : Nat) : Bool := indent.all (column < ·)
    let spaces := (p.rest.takeWhile (· = ' ')).length
    let p := p.skip (match indent with
      | some n => min spaces (n - p.column)
      | none => spaces)
    let widest := max widest p.column
    if inside p.column ∧ starts (· = '\t') p.rest then none
    else
      match p.nextLine? with
      | some (c, below) => blockBreaks indent fuel (breaks ++ [c]) widest below
      | none => some (breaks, widest, p)

/-- Reads the lines of a block behind a line break and empty lines: its text without the breaks at its
end, the break of its last line and the empty lines after it. -/
def blockLines (literal : Bool) (indent : Nat) :
    Nat → List Char → List Char → Bool → Place →
      Option (List Char × List Char × List Char × Place)
  | 0, _, _, _, _ => none
  | fuel + 1, lastBreak, empty, indented, p =>
    if p.column = indent ∧ !p.rest.isEmpty then
      let blank := starts isBlank p.rest
      let joint :=
        if !literal ∧ lastBreak = ['\n'] ∧ !indented ∧ !blank then
          if empty.isEmpty then [' '] else empty
        else lastBreak ++ empty
      let line := p.rest.takeWhile (!isBreak ·)
      let p := p.skip line.length
      let (lastBreak, p) := match p.nextLine? with
        | some (c, below) => ([c], below)
        | none => ([], p)
      match blockBreaks (some indent) (fuel + 1) [] 0 p with
      | none => none
      | some (empty, _, p) =>
        (blockLines literal indent fuel lastBreak empty blank p).map fun (more, ending) =>
          (joint ++ line ++ more, ending)
    else some ([], lastBreak, empty, p)

/-- Reads a block scalar behind its indicator, below a line of the given indentation, where at most
`limit` characters are left. -/
def readBlock (literal : Bool) (outer : Int) (limit : Nat) (p : Place) :
    Option (List Char × Place) := do
  let (increment, chomping, p) ← blockIndicators p
  let p := p.skipWhile isBlank
  let p := if starts (· = '#') p.rest then p.skipWhile (!isBreak ·) else p
  if !atBreak p.rest then none
  let p := match p.nextLine? with
    | some (_, below) => below
    | none => p
  let given := increment.map fun n => if 0 ≤ outer then outer.toNat + n else n
  let (empty, widest, p) ← blockBreaks given (limit + 1) [] 0 p
  let indent := given.getD (max (max widest (outer + 1).toNat) 1)
  let (text, lastBreak, empty, p) ← blockLines literal indent (limit + 1) [] empty false p
  let text := match chomping with
    | .strip => text
    | .clip => text ++ lastBreak
    | .keep => text ++ lastBreak ++ empty
  pure (text, p)

end SiteCache.Yaml
