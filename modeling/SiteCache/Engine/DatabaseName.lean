import SiteCache.Fault
import SiteCache.Text.Percent
import SiteCache.Text.Pieces

/-!
# Names of databases

The name of a database is the path of its file, or a URI if it begins with `file:`.  A URI gives the
path behind an authority, which is empty or `localhost`; a query or a fragment does not belong to the
path, and percent escapes in it stand for octets.
-/

namespace SiteCache.DatabaseName

/-- What a name that is a URI begins with. -/
def mark : String := "file:"

/-- The most octets of the path of a database: the names of the files beside it have up to eight
more, and a path has 512 at most. -/
def longest : Nat := 504

/-- The path that a URI gives behind its mark. -/
def uriPath (cs : List Char) : Except StorageFault String :=
  let (authority, path) := match cs with
    | '/' :: '/' :: rest => Pieces.cut (· = '/') rest
    | _ => ([], cs)
  if authority.isEmpty ∨ authority = "localhost".toList then
    let written := (Pieces.cut (fun c => c = '?' || c = '#') path).1
    .ok (Utf8.lossy ((Percent.octets written).takeWhile (· ≠ 0)))
  else .error (.authority (String.ofList authority))

/-- The path of the database of a name. -/
def path (name : String) : Except StorageFault String := do
  let path ← if name.startsWith mark then uriPath (name.toList.drop mark.length) else pure name
  if longest < path.utf8ByteSize then throw (.unopened (some name))
  pure path

end SiteCache.DatabaseName
