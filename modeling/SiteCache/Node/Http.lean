import SiteCache.Url

/-!
# HTTP messages

A request posts JSON to the target of a URL and asks the server to close the connection behind its
answer (`request`).  An answer is read from all octets that come until then (`response?`): a status
line, header lines, an empty line, and a body that is as long as a header says, or comes in chunks, or
goes on to the end.  An answer that breaks off is none.
-/

namespace SiteCache.Http

/-- The end of a line. -/
def lineEnd : Octets := [13, 10]

/-- The request that posts a JSON text. -/
def request (host target : String) (body : Octets) : Octets :=
  let lines := ["POST " ++ target ++ " HTTP/1.1", "host: " ++ host,
    "content-type: application/json", "accept: */*", "connection: close",
    "content-length: " ++ toString body.length, ""]
  lines.flatMap (fun line => Utf8.encode line ++ lineEnd) ++ body

/-- Splits off the first line. -/
def line? : Octets → Option (Octets × Octets)
  | [] => none
  | 13 :: 10 :: rest => some ([], rest)
  | o :: rest => (line? rest).map fun (line, after) => (o :: line, after)

/-- The header lines up to the empty one, in at most so many lines, and what follows them. -/
def headerLines? : Nat → Octets → Option (List String × Octets)
  | 0, _ => none
  | fuel + 1, b => do
    let (line, rest) ← line? b
    if line.isEmpty then pure ([], rest)
    else
      let (more, body) ← headerLines? fuel rest
      pure (Utf8.lossy line :: more, body)

/-- Name and value of a header line; names are compared in lower case. -/
def header (line : String) : String × String :=
  let (name, value) := Pieces.cut (· = ':') line.toList
  ((String.ofList name).toLower, String.ofList (Url.clean (value.drop 1)))

/-- The status in a status line. -/
def status? (line : Octets) : Option Nat :=
  match Pieces.split (· = ' ') (Utf8.lossy line).toList with
  | version :: code :: _ =>
    if "HTTP/1.".toList.isPrefixOf version ∧ code.length = 3 ∧ code.all Char.isDigit then
      Number.parse? 10 1000 code
    else none
  | _ => none

/-- The first octets, if there are so many. -/
def exactly? (size : Nat) (b : Octets) : Option Octets :=
  if size ≤ b.length then some (b.take size) else none

/-- The body that comes in chunks, at most so many, each behind a line with its size. -/
def chunked? : Nat → Octets → Option Octets
  | 0, _ => none
  | fuel + 1, b => do
    let (line, rest) ← line? b
    let size ← Number.parse? 16 wordBound
      (Url.clean (Pieces.cut (· = ';') (Utf8.lossy line).toList).1)
    if size = 0 then pure []
    else
      let chunk ← exactly? size rest
      let more ← chunked? fuel (rest.drop (size + 2))
      pure (chunk ++ more)

/-- Status and body of the answer that the octets hold. -/
def response? (b : Octets) : Option (Nat × Octets) := do
  let (first, rest) ← line? b
  let status ← status? first
  let (lines, rest) ← headerLines? (rest.length + 1) rest
  let headers := lines.map header
  let body ←
    if (headers.lookup "transfer-encoding").map String.toLower = some "chunked" then
      chunked? (rest.length + 1) rest
    else
      match headers.lookup "content-length" with
      | some size => do exactly? (← Number.parse? 10 wordBound size.toList) rest
      | none => pure rest
  pure (status, body)

end SiteCache.Http
