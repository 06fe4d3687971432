import SiteCache.Text.Number
import SiteCache.Text.Utf8

/-!
# Percent escapes

A percent sign and two hexadecimal digits stand for an octet.  `escape` writes a character that may
not stand as it is by the octets of its UTF-8, and `octets` reads a text with its escapes; a percent
sign without two such digits behind it stands for itself.
-/

namespace SiteCache.Percent

/-- The upper-case hexadecimal digit of a number below sixteen. -/
def hexDigit (n : Nat) : Char := Char.ofNat (if n < 10 then 0x30 + n else 0x37 + n)

/-- The escape of an octet. -/
def escapeOctet (o : UInt8) : List Char := ['%', hexDigit (o.toNat / 16), hexDigit (o.toNat % 16)]

/-- A character, escaped if it is a control character, no ASCII, or satisfies a test. -/
def escape (also : Char → Bool) (c : Char) : List Char :=
  if c.toNat < 0x20 ∨ 0x7E < c.toNat ∨ also c then
    (Utf8.encode (String.singleton c)).flatMap escapeOctet
  else [c]

/-- A text with its characters escaped in this way. -/
def escapeAll (also : Char → Bool) (cs : List Char) : List Char := cs.flatMap (escape also)

/-- The octets that a text stands for. -/
def octets : List Char → Octets
  | [] => []
  | '%' :: a :: b :: rest =>
    match Number.digits? 16 0 [a, b] with
    | some n => UInt8.ofNat n :: octets rest
    | none => Utf8.encode "%" ++ octets (a :: b :: rest)
  | c :: rest => Utf8.encode (String.singleton c) ++ octets rest

/-- The text that a text with escapes stands for, if its octets are one. -/
def text? (cs : List Char) : Option String := Utf8.decode? (octets cs)

end SiteCache.Percent
