import SiteCache.DomainName
import SiteCache.Text.Percent
import SiteCache.Url.Address

/-!
# Hosts in URLs

The host of a URL is an address or a name.  In the schemes of the web a name is a domain name, whose
percent escapes are resolved; elsewhere it is a text of its own, in which only ASCII stands as it is.
-/

namespace SiteCache.Url

/-- A host. -/
inductive Host where
  | name (text : String)
  | four (address : Nat)
  | six (pieces : List Nat)
  deriving DecidableEq

namespace Host

/-- The text of a host. -/
def text : Host → String
  | .name text => text
  | .four address => FourAddress.text address
  | .six pieces => "[" ++ SixAddress.text pieces ++ "]"

/-- What a host is looked up by. -/
def lookedUp : Host → String
  | .six pieces => SixAddress.text pieces
  | host => host.text

/-- The characters that no name outside the web may have. -/
def refuses (c : Char) : Bool :=
  c = '\x00' || c = '\t' || c = '\n' || c = '\r' || " #/:<>?@[\\]^|".toList.contains c

/-- Reads an address between brackets. -/
def bracketed? (cs : List Char) : Option Host :=
  if cs.getLast? = some ']' then (SixAddress.read? cs.dropLast).map .six else none

/-- Reads the host of a URL of the web. -/
def web? (cs : List Char) : Option Host :=
  match cs with
  | '[' :: inside => bracketed? inside
  | _ => do
    let name ← DomainName.toAscii? (← Percent.text? cs)
    if name.isEmpty then none
    else if FourAddress.isNumeric name.toList then (FourAddress.read? name.toList).map .four
    else some (.name name)

/-- Reads the host of a URL of another scheme. -/
def plain? (cs : List Char) : Option Host :=
  match cs with
  | '[' :: inside => bracketed? inside
  | _ =>
    if cs.any refuses then none
    else some (.name (String.ofList (Percent.escapeAll (fun _ => false) cs)))

end Host

end SiteCache.Url
