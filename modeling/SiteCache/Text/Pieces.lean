/-!
# Pieces of text

Cutting a text at characters that satisfy a test: once (`cut`) or at each of them (`split`).
-/

namespace SiteCache.Pieces

/-- The text before the first character that satisfies a test, and the text from it on. -/
def cut (p : Char → Bool) (cs : List Char) : List Char × List Char :=
  (cs.takeWhile (!p ·), cs.dropWhile (!p ·))

/-- The texts between the characters that satisfy a test. -/
def split (p : Char → Bool) : List Char → List (List Char)
  | [] => [[]]
  | c :: rest =>
    match split p rest with
    | first :: more => if p c then [] :: first :: more else (c :: first) :: more
    | [] => [[c]]

/-- The text without the characters at both ends that satisfy a test. -/
def strip (p : Char → Bool) (cs : List Char) : List Char :=
  ((cs.dropWhile p).reverse.dropWhile p).reverse

end SiteCache.Pieces
