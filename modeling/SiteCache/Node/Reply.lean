import SiteCache.Json.Printer

/-!
# Requests to a node and its replies

A node is asked by calls: a method with parameters under an id, as a JSON object.  Its reply is a
record with a result or an error.  A record is written as an object, where an unknown field does not
matter and a known one may stand once, or as an array of its fields in order, of which the last may
be missing if it has a default (`Shape`).
-/

namespace SiteCache

/-- A call to a node. -/
structure NodeCall where
  id : Nat
  method : String
  parameters : Octets

/-- The body of a request. -/
def NodeCall.body (c : NodeCall) : Octets :=
  Json.printObject [("jsonrpc", Json.printText "2.0"), ("id", Json.printNat c.id),
    ("method", Json.printText c.method), ("params", c.parameters)]

namespace NodeCall

/-- Asks for the values of keys. -/
def valuesMethod : String := "get_datastore_entries"

/-- Asks for the keys of an address. -/
def keysMethod : String := "get_addresses"

/-- The parameters that name keys of an address. -/
def valuesParameters (address : String) (keys : List Octets) : Octets :=
  Json.printArray [Json.printArray (keys.map fun key =>
    Json.printObject [("address", Json.printText address),
      ("key", Json.printArray (key.map fun o => Json.printNat o.toNat))])]

/-- The parameters that name an address. -/
def keysParameters (address : String) : Octets :=
  Json.printArray [Json.printArray [Json.printText address]]

end NodeCall

namespace Reply

/-- The value of a field of a record: its only value in an object, or the one at its index in an array
of as many values as the record has fields, or one fewer. -/
inductive Field where
  | given (value : Json)
  | missing
  /-- An array ends before the field. -/
  | cut

/-- The values of the fields of a record. -/
def fields? (names : List String) : Json → Option (List Field)
  | .object members => do
    let named ← members.mapM fun m => m.1.map fun name => (name, m.2)
    names.mapM fun name =>
      match named.filter (·.1 = name) with
      | [] => some .missing
      | [m] => some (.given m.2)
      | _ => none
  | .array items =>
    if items.length ≤ names.length then
      some (items.map .given ++ List.replicate (names.length - items.length) .cut)
    else none
  | _ => none

/-- An octet. -/
def octet? (v : Json) : Option UInt8 := do
  let n ← v.int?
  if 0 ≤ n ∧ n < 256 then pure (UInt8.ofNat n.toNat) else none

/-- A byte string as an array of its octets. -/
def octets? : Json → Option Octets
  | .array items => items.mapM octet?
  | _ => none

/-- A list whose items are read alike. -/
def list? {α : Type} (item? : Json → Option α) : Json → Option (List α)
  | .array items => items.mapM item?
  | _ => none

/-- A value that may be null. -/
def nullable? {α : Type} (value? : Json → Option α) : Json → Option (Option α)
  | .null => some none
  | v => (value? v).map some

/-- The value of a key, which may be absent. -/
def entry? (v : Json) : Option (Option Octets) := do
  match ← fields? ["final_value"] v with
  | [.given value] => nullable? octets? value
  | [.missing] => some none
  | _ => none

/-- The keys of an address; none without the field. -/
def addressKeys? (v : Json) : Option (List Octets) := do
  match ← fields? ["final_datastore_keys"] v with
  | [.given value] => list? octets? value
  | _ => some []

/-- A signed number of sixty-four bits. -/
def code? (v : Json) : Option Int := do
  let n ← v.int?
  if -(signedBound : Int) ≤ n ∧ n < signedBound then pure n else none

/-- Code and text of an error. -/
def error? (v : Json) : Option (Int × String) := do
  match ← fields? ["code", "message"] v with
  | [.given code, .given (.text (some message))] => do pure (← code? code, message)
  | _ => none

/-- A reply: an error, or a result, or neither. -/
structure Outcome (α : Type) where
  result : Option α
  error : Option (Int × String)

/-- Reads a reply whose result is read in this way. -/
def outcome? {α : Type} (result? : Json → Option α) (body : Octets) : Option (Outcome α) := do
  match ← fields? ["result", "error"] (← Json.read? body) with
  | [result, error] =>
    let result ← match result with
      | .given v => nullable? result? v
      | .missing => some none
      | .cut => none
    let error ← match error with
      | .given v => nullable? error? v
      | _ => some none
    pure ⟨result, error⟩
  | _ => none

end Reply

end SiteCache
