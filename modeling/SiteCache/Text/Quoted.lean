import SiteCache.Text.CodePoints
import SiteCache.Text.Quoted.Table

/-!
# Quoted text

A text between double quotes, on one line: quotes and backslashes stand behind a backslash, line
ends, tabs and the null character have a letter or digit of their own, and the other characters that
do not stand for themselves (`isUnseen`) are written by their number.
-/

namespace SiteCache.Quoted

/-- The ranges of the characters that are written by their number. -/
def unseenRanges : List (Nat × Nat) := CodePoints.ranges unseen

/-- A reader does not see the character by itself. -/
def isUnseen (c : Char) : Bool := CodePoints.contains unseenRanges c

/-- The lower-case hexadecimal digits of a number. -/
def hex (n : Nat) : List Char := Nat.toDigits 16 n

/-- A character of a quoted text. -/
def escape (c : Char) : List Char :=
  if c = '"' ∨ c = '\\' then ['\\', c]
  else if c = '\n' then ['\\', 'n']
  else if c = '\r' then ['\\', 'r']
  else if c = '\t' then ['\\', 't']
  else if c.toNat = 0 then ['\\', '0']
  else if isUnseen c then ['\\', 'u', '\x7b'] ++ hex c.toNat ++ ['\x7d']
  else [c]

/-- The quoted text. -/
def encode (s : String) : String := String.ofList ('"' :: (s.toList.flatMap escape ++ ['"']))

end SiteCache.Quoted
