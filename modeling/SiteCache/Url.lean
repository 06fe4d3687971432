import SiteCache.Url.Host
import SiteCache.Url.Path

/-!
# URLs

An absolute URL in its normal form: the scheme in lower case, the host and the path in their normal
forms, no port that the scheme implies, and percent escapes for what may not stand as it is.
`Url.parse?` reads a text or refuses it, and `text` writes a URL.  The name and the password of a user
go into a header of their own, so `shown` is the URL without them.  `isHttp` and `isSendable` tell
the URLs that a node can be asked at, and `server` and `target` say where a request goes and what it
asks for.
-/

namespace SiteCache

/-- A URL in normal form.  A URL without a host has a path only; one of files has at least an empty
host. -/
structure Url where
  scheme : String
  user : String := ""
  password : String := ""
  host : Option Url.Host := none
  port : Option Nat := none
  path : String := ""
  query : Option String := none
  fragment : Option String := none
  deriving DecidableEq

namespace Url

/-! ### Schemes -/

/-- The schemes of the web, with the port that each implies. -/
def webPorts : List (String × Nat) :=
  [("http", 80), ("https", 443), ("ws", 80), ("wss", 443), ("ftp", 21)]

/-- The scheme before the first colon, in lower case, and what follows the colon. -/
def scheme? (cs : List Char) : Option (String × List Char) :=
  match Pieces.cut (· = ':') cs with
  | (c :: rest, _ :: after) =>
    if c.isAlpha ∧ rest.all (fun x => x.isAlphanum || x = '+' || x = '-' || x = '.') then
      some ((String.ofList (c :: rest)).toLower, after)
    else none
  | _ => none

/-! ### Writing -/

/-- The name and the password of the user, before the host. -/
def credentials (u : Url) : String :=
  if u.user.isEmpty ∧ u.password.isEmpty then ""
  else u.user ++ (if u.password.isEmpty then "" else ":" ++ u.password) ++ "@"

/-- What stands between the scheme and the path.  A path that begins with two slashes would be taken
for a host. -/
def authority (u : Url) : String :=
  match u.host with
  | some host =>
    "//" ++ u.credentials ++ host.text ++ (u.port.map fun n => ":" ++ toString n).getD ""
  | none => if u.path.startsWith "//" then "/." else ""

/-- What is asked of the server. -/
def target (u : Url) : String := u.path ++ (u.query.map ("?" ++ ·)).getD ""

/-- The text of a URL. -/
def text (u : Url) : String :=
  u.scheme ++ ":" ++ u.authority ++ u.target ++ (u.fragment.map ("#" ++ ·)).getD ""

/-! ### Reading -/

/-- A part of a URL with its characters escaped in this way. -/
def escaped (also : Char → Bool) (cs : List Char) : String := String.ofList (Percent.escapeAll also cs)

/-- The URL with the query and the fragment that a text writes. -/
def withTail (u : Url) (web : Bool) (cs : List Char) : Url :=
  let (query, fragment) := Pieces.cut (· = '#') cs
  { u with
    query := match query with
      | '?' :: rest => some (escaped (fun c => Path.inQuery c || (web && c = '\'')) rest)
      | _ => none
    fragment := match fragment with
      | _ :: rest => some (escaped Path.inFragment rest)
      | [] => none }

/-- Where a path ends. -/
def endsPath (c : Char) : Bool := c = '?' || c = '#'

/-- The URL with the path, the query and the fragment that a text writes. -/
def withPath (u : Url) (web : Bool) (cs : List Char) : Url :=
  let (path, tail) := Pieces.cut endsPath cs
  let path := if !web ∧ path.isEmpty then [] else (Path.normal web false path).1
  let placed : Url := { u with path := String.ofList path }
  placed.withTail web tail

/-- The URL of a file; a drive at the beginning of the path does away with the host. -/
def withFilePath (u : Url) (cs : List Char) : Url :=
  let (path, tail) := Pieces.cut endsPath cs
  let (path, drive) := Path.normal true true path
  let placed : Url :=
    { u with host := if drive then some (.name "") else u.host, path := String.ofList path }
  placed.withTail true tail

/-- The host at the beginning of a text, up to a colon outside brackets, and what follows it. -/
def hostPart : Bool → List Char → List Char × List Char
  | _, [] => ([], [])
  | inside, c :: rest =>
    if c = ':' ∧ !inside then ([], c :: rest)
    else
      let (host, after) := hostPart (c = '[' || (inside && c ≠ ']')) rest
      (c :: host, after)

/-- The port behind a colon, if one is given, and what follows it: nothing or a backslash. -/
def port? (cs : List Char) : Option (Option Nat × List Char) :=
  let digits := cs.takeWhile Char.isDigit
  let after := cs.dropWhile Char.isDigit
  if after.head?.any (· ≠ '\\') then none
  else if digits.isEmpty then some (none, after)
  else ((Number.digits? 10 0 digits).filter (· ≤ 65535)).map fun n => (some n, after)

/-- Reads what follows the two slashes before a host. -/
def hosted? (scheme : String) (implied : Option Nat) (cs : List Char) : Option Url := do
  let web := implied.isSome
  let (authority, below) := Pieces.cut (fun c => endsPath c || c = '/' || (web && c = '\\')) cs
  let (place, userPart) := Pieces.cut (· = '@') authority.reverse
  let place := place.reverse
  let (user, password) := Pieces.cut (· = ':') (userPart.drop 1).reverse
  let (name, portPart) := hostPart false place
  let host ← if web then Host.web? name else Host.plain? name
  let (port, left) ← match portPart with
    | _ :: digits => port? digits
    | [] => some (none, [])
  let u : Url :=
    { scheme
      user := escaped Path.inUser user
      password := escaped Path.inUser (password.drop 1)
      host := some host
      port := if port = implied then none else port }
  if name.isEmpty ∧ (!portPart.isEmpty ∨ !u.credentials.isEmpty) then none
  if place.isEmpty ∧ userPart = ['@'] ∧ !below.isEmpty then none
  pure (u.withPath web (left ++ below))

/-- Reads what follows the scheme of a file. -/
def file? (cs : List Char) : Option Url :=
  let isSlash (c : Char) : Bool := c = '/' || c = '\\'
  let u : Url := { scheme := "file", host := some (.name "") }
  match cs with
  | a :: b :: rest =>
    if isSlash a ∧ isSlash b then
      let (name, below) := Pieces.cut (fun c => endsPath c || isSlash c) rest
      if Path.isDrive name then some (u.withFilePath rest)
      else if name.isEmpty then some (u.withFilePath below)
      else do
        let host ← Host.web? name
        let host := if host = .name "localhost" then .name "" else host
        let named : Url := { u with host := some host }
        pure (named.withFilePath below)
    else some (u.withFilePath cs)
  | _ => some (u.withFilePath cs)

/-- Reads what follows a scheme that is neither of the web nor of files. -/
def other? (scheme : String) (cs : List Char) : Option Url :=
  match cs with
  | '/' :: '/' :: rest => hosted? scheme none rest
  | '/' :: _ =>
    let u : Url := { scheme }
    some (u.withPath false cs)
  | _ =>
    let (path, tail) := Pieces.cut endsPath cs
    let u : Url := { scheme, path := String.ofList (Path.opaqueText path) }
    some (u.withTail false tail)

/-- Cuts control characters and blanks off both ends and drops tabs and line ends. -/
def clean (cs : List Char) : List Char :=
  (Pieces.strip (·.toNat ≤ 0x20) cs).filter fun c => c ≠ '\t' ∧ c ≠ '\n' ∧ c ≠ '\r'

/-- The URL that a text writes. -/
def parse? (s : String) : Option Url := do
  let (scheme, rest) ← scheme? (clean s.toList)
  match webPorts.lookup scheme with
  | some implied => hosted? scheme (some implied) (rest.dropWhile fun c => c = '/' ∨ c = '\\')
  | none => if scheme = "file" then file? rest else other? scheme rest

/-! ### Requests -/

/-- The URL as a request shows it: without the name and the password of the user, if they can be
read. -/
def shown (u : Url) : Url :=
  let readable (s : String) : Bool := (Percent.text? s.toList).isSome
  if readable u.user ∧ (!u.user.isEmpty ∨ readable u.password) then
    { u with user := "", password := "" }
  else u

/-- A node can be asked at URLs of this scheme. -/
def isHttp (u : Url) : Bool := u.scheme = "http" || u.scheme = "https"

/-- The most octets of a URL that can be sent. -/
def longest : Nat := 65534

/-- The URL can be sent: it is not too long, and the host has no characters that a request line does
not hold. -/
def isSendable (u : Url) : Bool :=
  u.text.utf8ByteSize ≤ longest
    && !(u.host.any fun host =>
      host.text.toList.any fun c => "\"\x7b\x7d".toList.contains c || c.toNat = 0x60)

/-- Host and port of the server. -/
def server (u : Url) : Option (String × Nat) := do
  let host ← u.host
  let port ← u.port.or (webPorts.lookup u.scheme)
  pure (host.lookedUp, port)

end Url

end SiteCache
