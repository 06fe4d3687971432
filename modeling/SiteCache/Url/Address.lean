import SiteCache.Octets
import SiteCache.Text.Number
import SiteCache.Text.Pieces

/-!
# Addresses

A host may be an address in numbers.  An address of version four is written as one to four numbers
between dots, of which the last one fills all octets that are left.  An address of version six is
eight pieces of sixteen bits, of which the last two may be written as four octets between dots; two
colons stand for as many zero pieces as are missing.  The normal form of the latter writes the first
of its longest runs of zero pieces so, if there are two at least.
-/

namespace SiteCache

namespace FourAddress

/-- A number of an address: decimal, octal behind a zero, or hexadecimal behind `0x`. -/
def part? (cs : List Char) : Option Nat :=
  match cs with
  | [] => none
  | '0' :: 'x' :: rest => Number.digits? 16 0 rest
  | '0' :: 'X' :: rest => Number.digits? 16 0 rest
  | '0' :: rest => Number.digits? 8 0 rest
  | _ => Number.digits? 10 0 cs

/-- The parts of a name between dots; a dot at its end does not count. -/
def parts (name : List Char) : List (List Char) :=
  let parts := Pieces.split (· = '.') name
  if 1 < parts.length ∧ parts.getLast? = some [] then parts.dropLast else parts

/-- A name is an address if its last part is a number. -/
def isNumeric (name : List Char) : Bool :=
  match (parts name).getLast? with
  | some part => (part.all Char.isDigit && !part.isEmpty) || (part? part).isSome
  | none => false

/-- The address that a name writes, as a number. -/
def read? (name : List Char) : Option Nat := do
  let numbers ← (parts name).mapM part?
  let last ← numbers.getLast?
  let leading := numbers.dropLast
  if 4 < numbers.length ∨ leading.any (255 < ·) ∨ Octets.capacity (5 - numbers.length) ≤ last then
    none
  pure (leading.zipIdx.foldl (fun n x => n + x.1 * Octets.capacity (3 - x.2)) last)

/-- The text of an address. -/
def text (address : Nat) : String :=
  ".".intercalate ([3, 2, 1, 0].map fun i => toString (address / Octets.capacity i % 256))

end FourAddress

namespace SixAddress

/-- A number of at most four hexadecimal digits. -/
def piece? (cs : List Char) : Option Nat :=
  if cs.isEmpty ∨ 4 < cs.length then none else Number.digits? 16 0 cs

/-- An octet in decimal digits without a zero in front. -/
def octet? (cs : List Char) : Option Nat :=
  if cs.isEmpty ∨ !cs.all Char.isDigit ∨ (1 < cs.length ∧ cs.head? = some '0') then none
  else (Number.digits? 10 0 cs).filter (· < 256)

/-- Two pieces that are written as four octets. -/
def dotted? (cs : List Char) : Option (List Nat) := do
  match ← (Pieces.split (· = '.') cs).mapM octet? with
  | [a, b, c, d] => some [256 * a + b, 256 * c + d]
  | _ => none

/-- The pieces between colons; only the last may be dotted, if dots are allowed. -/
def pieces? (dots : Bool) : List (List Char) → Option (List Nat)
  | [] => some []
  | [cs] => if dots ∧ cs.contains '.' then dotted? cs else (piece? cs).map ([·])
  | cs :: rest => do
    let piece ← piece? cs
    let more ← pieces? dots rest
    pure (piece :: more)

/-- The pieces of a text that may be empty. -/
def side? (dots : Bool) (cs : List Char) : Option (List Nat) :=
  if cs.isEmpty then some [] else pieces? dots (Pieces.split (· = ':') cs)

/-- Splits a text at its first two colons side by side. -/
def atGap? : List Char → Option (List Char × List Char)
  | ':' :: ':' :: rest => some ([], rest)
  | c :: rest => (atGap? rest).map fun (before, after) => (c :: before, after)
  | [] => none

/-- The eight pieces that a text writes. -/
def read? (cs : List Char) : Option (List Nat) :=
  match atGap? cs with
  | some (before, after) => do
    let before ← side? false before
    let after ← side? true after
    let missing := 8 - (before.length + after.length)
    if missing = 0 then none else some (before ++ List.replicate missing 0 ++ after)
  | none => (pieces? true (Pieces.split (· = ':') cs)).filter (·.length = 8)

/-- How many zero pieces begin a list. -/
def zeros (pieces : List Nat) : Nat := (pieces.takeWhile (· = 0)).length

/-- The place and the length of the first longest run of zero pieces. -/
def longestRun : List Nat → Nat × Nat
  | [] => (0, 0)
  | p :: rest =>
    let (place, length) := longestRun rest
    let here := zeros (p :: rest)
    if here ≠ 0 ∧ length ≤ here then (0, here) else (place + 1, length)

/-- A number in hexadecimal digits. -/
def hexText (n : Nat) : String := String.ofList (Nat.toDigits 16 n)

/-- The text of an address. -/
def text (pieces : List Nat) : String :=
  let side (pieces : List Nat) : String := ":".intercalate (pieces.map hexText)
  let (place, length) := longestRun pieces
  if length < 2 then side pieces
  else side (pieces.take place) ++ "::" ++ side (pieces.drop (place + length))

end SixAddress

end SiteCache
