import SiteCache.Json.Reader

/-!
# Printing JSON

Texts are printed between quotes, with the short escapes where there are any and four
hexadecimal digits for the other control characters; lists and objects are printed without
blanks.
-/

namespace SiteCache.Json

/-- The lower-case hexadecimal digit of a number below sixteen. -/
def hexDigit (n : Nat) : UInt8 := UInt8.ofNat (if n < 10 then 0x30 + n else 0x57 + n)

/-- How an octet is written inside a text. -/
def escape (o : UInt8) : Octets :=
  if o = ascii '"' then [ascii '\\', o]
  else if o = ascii '\\' then [ascii '\\', o]
  else if o = 0x08 then [ascii '\\', ascii 'b']
  else if o = 0x0C then [ascii '\\', ascii 'f']
  else if o = 0x0A then [ascii '\\', ascii 'n']
  else if o = 0x0D then [ascii '\\', ascii 'r']
  else if o = 0x09 then [ascii '\\', ascii 't']
  else if o < 0x20 then
    [ascii '\\', ascii 'u', ascii '0', ascii '0', hexDigit (o.toNat / 16), hexDigit (o.toNat % 16)]
  else [o]

/-- A text between quotes. -/
def printText (s : String) : Octets :=
  ascii '"' :: ((Utf8.encode s).flatMap escape ++ [ascii '"'])

/-- Pieces with commas between them. -/
def commaSeparated : List Octets → Octets
  | [] => []
  | [piece] => piece
  | piece :: rest => piece ++ ascii ',' :: commaSeparated rest

/-- A list of printed values. -/
def printArray (items : List Octets) : Octets :=
  ascii '[' :: (commaSeparated items ++ [ascii ']'])

/-- An object of printed values. -/
def printObject (members : List (String × Octets)) : Octets :=
  ascii '\x7b'
    :: (commaSeparated (members.map fun m => printText m.1 ++ ascii ':' :: m.2) ++ [ascii '\x7d'])

/-- A whole number. -/
def printNat (n : Nat) : Octets := Utf8.encode (toString n)

end SiteCache.Json
