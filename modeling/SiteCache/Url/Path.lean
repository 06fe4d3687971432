import SiteCache.Text.Percent
import SiteCache.Text.Pieces

/-!
# Paths in URLs

A path is segments, each behind a slash.  In its normal form it has no segment that stands for the
same place or the one above (`.` and `..`, or with dots escaped), and what may not stand in a path is
escaped.  Nothing leads above a drive, a letter and a colon.  In a file path a drive may be written
with a bar instead of the colon, and a drive at the beginning makes the host meaningless.
-/

namespace SiteCache.Url.Path

/-- What is escaped in a fragment. -/
def inFragment (c : Char) : Bool := (' ' :: '"' :: '<' :: '>' :: [Char.ofNat 0x60]).contains c

/-- What is escaped in a query. -/
def inQuery (c : Char) : Bool := " \"#<>".toList.contains c

/-- What is escaped in a path. -/
def inPath (c : Char) : Bool := inFragment c || "#?\x7b\x7d".toList.contains c

/-- What is escaped in the name and the password of a user. -/
def inUser (c : Char) : Bool := inPath c || "/:;=@[\\]^|".toList.contains c

/-- A letter and a colon or a bar. -/
def isDrive : List Char → Bool
  | [a, b] => a.isAlpha && (b = ':' || b = '|')
  | _ => false

/-- A drive, perhaps with something behind a backslash. -/
def beginsDrive (cs : List Char) : Bool :=
  isDrive (cs.take 2) && (cs.length = 2 || cs[2]? = some '\\')

/-- The segment stands for the same place. -/
def isSame (cs : List Char) : Bool := [".", "%2e"].contains (String.ofList cs).toLower

/-- The segment stands for the place above. -/
def isUp (cs : List Char) : Bool :=
  ["..", ".%2e", "%2e.", "%2e%2e"].contains (String.ofList cs).toLower

/-- Follows the segments of a path behind those that are kept so far, newest first; also answers
whether the path of a file begins with a drive. -/
def follow (file : Bool) (kept : List (List Char)) :
    List (List Char) → List (List Char) × Bool
  | [] => (kept, false)
  | s :: rest =>
    let written := Percent.escapeAll inPath s
    let stay (kept : List (List Char)) := if rest.isEmpty then [] :: kept else kept
    if isUp written then
      follow file (stay (if kept.head?.any beginsDrive then kept else kept.drop 1)) rest
    else if isSame written then follow file (stay kept) rest
    else if file ∧ kept.isEmpty ∧ isDrive written then
      ((follow file [written.take 1 ++ [':']] rest).1, true)
    else follow file (written :: kept) rest

/-- The normal form of a path of segments: in the web and for files a backslash is a slash. -/
def normal (web file : Bool) (cs : List Char) : List Char × Bool :=
  let isSlash (c : Char) : Bool := c = '/' || (web && c = '\\')
  let below := match cs with
    | c :: rest => if isSlash c then rest else cs
    | [] => []
  let (kept, drive) := follow file [] (Pieces.split isSlash below)
  let path := kept.reverse.flatMap ('/' :: ·)
  (if file then '/' :: path.dropWhile (· = '/') else path, drive)

/-- The normal form of a path without segments. -/
def opaqueText (cs : List Char) : List Char := Percent.escapeAll (fun _ => false) cs

end SiteCache.Url.Path
