import SiteCache.Json.Printer
import SiteCache.Table

/-!
# Headers

The headers that are served with a resource: values by name, every name once.  They are stored as
a JSON object of texts (`encode`); `decode?` reads such an object back, and of a repeated name
the last value counts.  Single headers are asked for without regard to ASCII case (`find?`).
-/

namespace SiteCache

/-- Header values by name. -/
abbrev Headers := Table String String

namespace Headers

/-- Headers as a JSON object. -/
def encode (h : Headers) : Octets :=
  Json.printObject (h.entries.map fun x => (x.1, Json.printText x.2))

/-- The pair of a member of which both name and value are texts. -/
def pair? : Option String × Json → Option (String × String)
  | (some name, .text (some value)) => some (name, value)
  | _ => none

/-- The headers that a JSON object of texts lists. -/
def decode? (b : Octets) : Option Headers :=
  match Json.read? b with
  | some (.object members) => (members.mapM pair?).map Table.ofList
  | _ => none

/-- Two names that differ in the case of ASCII letters only. -/
def sameName (m n : String) : Bool := m.toLower = n.toLower

/-- The value of the header with this name, in any case. -/
def find? (h : Headers) (name : String) : Option String :=
  (h.entries.find? fun x => sameName x.1 name).map Prod.snd

end Headers

end SiteCache
