import SiteCache.Text.Utf8

/-!
# Reading JSON

A JSON document is read from octets into a `Json` value.  Members of an object keep their order
and may repeat a name; a number keeps its literal, so that nothing is rounded; a text whose
escapes or octets form no Unicode text is kept as `none`, and is refused only where its content
is needed.  `read?` accepts exactly one value with blanks around it.
-/

namespace SiteCache

/-- A JSON value. -/
inductive Json where
  | null
  | bool (b : Bool)
  | number (literal : Octets)
  | text (content : Option String)
  | array (items : List Json)
  | object (members : List (Option String × Json))

namespace Json

/-- The octet of an ASCII character. -/
def ascii (c : Char) : UInt8 := UInt8.ofNat c.toNat

/-- Blank, tab, line feed and carriage return separate the tokens. -/
def isSpace (o : UInt8) : Bool := o = 0x20 || o = 0x09 || o = 0x0A || o = 0x0D

/-- Cuts the blanks in front of a token off. -/
def skip (b : Octets) : Octets := b.dropWhile isSpace

/-- The octet is a decimal digit. -/
def isDigit (o : UInt8) : Bool := 0x30 ≤ o && o ≤ 0x39

/-- The value of a hexadecimal digit of either case. -/
def hexDigit? (o : UInt8) : Option Nat :=
  if isDigit o then some (o.toNat - 0x30)
  else if 0x61 ≤ o ∧ o ≤ 0x66 then some (o.toNat - 0x61 + 10)
  else if 0x41 ≤ o ∧ o ≤ 0x46 then some (o.toNat - 0x41 + 10)
  else none

/-- The number that four hexadecimal digits write. -/
def hexWord? (a b c d : UInt8) : Option Nat := do
  let a ← hexDigit? a
  let b ← hexDigit? b
  let c ← hexDigit? c
  let d ← hexDigit? d
  pure (((a * 16 + b) * 16 + c) * 16 + d)

/-- The octet that an escape of one letter stands for. -/
def letterEscape? (o : UInt8) : Option UInt8 :=
  if o = ascii '"' then some o
  else if o = ascii '\\' then some o
  else if o = ascii '/' then some o
  else if o = ascii 'b' then some 0x08
  else if o = ascii 'f' then some 0x0C
  else if o = ascii 'n' then some 0x0A
  else if o = ascii 'r' then some 0x0D
  else if o = ascii 't' then some 0x09
  else none

/-- What an escape of four hexadecimal digits stands for. -/
inductive Unit16 where
  | scalar (c : Char)
  | high (unit : Nat)
  | low (unit : Nat)

/-- Sorts a number of sixteen bits into characters and halves of surrogate pairs. -/
def Unit16.ofNat (n : Nat) : Unit16 :=
  if 0xD800 ≤ n ∧ n < 0xDC00 then .high n
  else if 0xDC00 ≤ n ∧ n < 0xE000 then .low n
  else .scalar (Char.ofNat n)

/-- The octets of one character. -/
def charOctets (c : Char) : Octets := Utf8.encode (String.singleton c)

/-- The character of a surrogate pair. -/
def pairChar (high low : Nat) : Char :=
  Char.ofNat (0x10000 + (high - 0xD800) * 0x400 + (low - 0xDC00))

/-- Reads the rest of a text up to its closing quote: its octets, or `none` if a half of a surrogate
pair stands alone in it, and what follows the quote. -/
def textRest : Octets → Option (Option Octets × Octets)
  | [] => none
  | o :: rest =>
    if o = ascii '"' then some (some [], rest)
    else if o < 0x20 then none
    else if o = ascii '\\' then
      match rest with
      | [] => none
      | e :: rest =>
        if e = ascii 'u' then
          match rest with
          | a :: b :: c :: d :: rest =>
            match (hexWord? a b c d).map Unit16.ofNat with
            | none => none
            | some (.scalar ch) =>
              (textRest rest).map fun (content, r) => (content.map (charOctets ch ++ ·), r)
            | some (.low _) => (textRest rest).map fun (_, r) => (none, r)
            | some (.high high) =>
              match rest with
              | s :: u :: a' :: b' :: c' :: d' :: rest' =>
                if s = ascii '\\' ∧ u = ascii 'u' then
                  match (hexWord? a' b' c' d').map Unit16.ofNat with
                  | some (.low low) =>
                    (textRest rest').map fun (content, r) =>
                      (content.map (charOctets (pairChar high low) ++ ·), r)
                  | _ =>
                    (textRest (s :: u :: a' :: b' :: c' :: d' :: rest')).map fun (_, r) => (none, r)
                else (textRest (s :: u :: a' :: b' :: c' :: d' :: rest')).map fun (_, r) => (none, r)
              | short => (textRest short).map fun (_, r) => (none, r)
          | _ => none
        else
          match letterEscape? e with
          | none => none
          | some c => (textRest rest).map fun (content, r) => (content.map (c :: ·), r)
    else (textRest rest).map fun (content, r) => (content.map (o :: ·), r)
termination_by b => b.length

/-- Reads a text behind its opening quote. -/
def textBody (b : Octets) : Option (Option String × Octets) :=
  (textRest b).map fun (content, r) => (content.bind Utf8.decode?, r)

/-- Splits the digits in front off. -/
def digits (b : Octets) : Octets × Octets := (b.takeWhile isDigit, b.dropWhile isDigit)

/-- Reads the whole part of a number: a zero, or digits that do not begin with one. -/
def wholePart (b : Octets) : Option (Octets × Octets) :=
  match b with
  | [] => none
  | o :: rest =>
    if o = ascii '0' then some ([o], rest)
    else if isDigit o then some (digits b)
    else none

/-- Reads digits, of which there must be some. -/
def someDigits (b : Octets) : Option (Octets × Octets) :=
  let (ds, rest) := digits b
  if ds.isEmpty then none else some (ds, rest)

/-- Reads the fraction of a number, which may be absent. -/
def fraction (b : Octets) : Option (Octets × Octets) :=
  match b with
  | o :: rest =>
    if o = ascii '.' then (someDigits rest).map fun (ds, r) => (o :: ds, r) else some ([], b)
  | [] => some ([], [])

/-- Reads the exponent of a number, which may be absent. -/
def exponent (b : Octets) : Option (Octets × Octets) :=
  match b with
  | o :: rest =>
    if o = ascii 'e' ∨ o = ascii 'E' then
      match rest with
      | s :: more =>
        if s = ascii '+' ∨ s = ascii '-' then
          (someDigits more).map fun (ds, r) => (o :: s :: ds, r)
        else (someDigits rest).map fun (ds, r) => (o :: ds, r)
      | [] => none
    else some ([], b)
  | [] => some ([], [])

/-- Reads the literal of a number behind its sign. -/
def unsigned (b : Octets) : Option (Octets × Octets) := do
  let (whole, b) ← wholePart b
  let (fraction, b) ← fraction b
  let (exponent, b) ← exponent b
  pure (whole ++ fraction ++ exponent, b)

/-- Reads the literal of a number. -/
def numeral (b : Octets) : Option (Octets × Octets) :=
  match b with
  | o :: rest =>
    if o = ascii '-' then (unsigned rest).map fun (literal, r) => (o :: literal, r) else unsigned b
  | [] => none

/-- Reads a word, and answers the value that it names. -/
def word (name : String) (v : Json) (b : Octets) : Option (Json × Octets) :=
  let w := Utf8.encode name
  if w.isPrefixOf b then some (v, b.drop w.length) else none

mutual

/-- Reads a value nested at most as deep as the fuel, and answers what follows it. -/
def value : Nat → Octets → Option (Json × Octets)
  | 0, _ => none
  | fuel + 1, b =>
    match skip b with
    | [] => none
    | o :: rest =>
      if o = ascii '"' then (textBody rest).map fun (content, r) => (.text content, r)
      else if o = ascii '[' then
        match skip rest with
        | [] => none
        | c :: after =>
          if c = ascii ']' then some (.array [], after)
          else (items fuel rest).map fun (vs, r) => (.array vs, r)
      else if o = ascii '\x7b' then
        match skip rest with
        | [] => none
        | c :: after =>
          if c = ascii '\x7d' then some (.object [], after)
          else (members fuel rest).map fun (ms, r) => (.object ms, r)
      else if o = ascii 'n' then word "null" .null (o :: rest)
      else if o = ascii 't' then word "true" (.bool true) (o :: rest)
      else if o = ascii 'f' then word "false" (.bool false) (o :: rest)
      else (numeral (o :: rest)).map fun (literal, r) => (.number literal, r)

/-- Reads the items of an array up to its closing bracket. -/
def items : Nat → Octets → Option (List Json × Octets)
  | 0, _ => none
  | fuel + 1, b =>
    match value fuel b with
    | none => none
    | some (v, r) =>
      match skip r with
      | [] => none
      | c :: after =>
        if c = ascii ']' then some ([v], after)
        else if c = ascii ',' then (items fuel after).map fun (vs, r) => (v :: vs, r)
        else none

/-- Reads the members of an object up to its closing brace. -/
def members : Nat → Octets → Option (List (Option String × Json) × Octets)
  | 0, _ => none
  | fuel + 1, b =>
    match skip b with
    | [] => none
    | q :: rest =>
      if q ≠ ascii '"' then none
      else
        match textBody rest with
        | none => none
        | some (name, r) =>
          match skip r with
          | [] => none
          | c :: after =>
            if c ≠ ascii ':' then none
            else
              match value fuel after with
              | none => none
              | some (v, r) =>
                match skip r with
                | [] => none
                | c :: after =>
                  if c = ascii '\x7d' then some ([(name, v)], after)
                  else if c = ascii ',' then
                    (members fuel after).map fun (ms, r) => ((name, v) :: ms, r)
                  else none

end

/-- The value of a document: one value with nothing but blanks around it.  Each token takes an octet
and two steps at most, which bounds the fuel. -/
def read? (b : Octets) : Option Json :=
  match value (2 * b.length + 2) b with
  | some (v, rest) => if (skip rest).isEmpty then some v else none
  | none => none

/-- The whole number that a value writes without fraction, exponent or a minus before zero. -/
def int? : Json → Option Int
  | .number literal =>
    match literal with
    | [] => none
    | o :: rest =>
      let natural (ds : Octets) : Nat := ds.foldl (fun n d => 10 * n + (d.toNat - 0x30)) 0
      if o = ascii '-' then
        if rest.all isDigit ∧ natural rest ≠ 0 then some (-(natural rest : Int)) else none
      else if literal.all isDigit then some (natural literal) else none
  | _ => none

end Json

end SiteCache
