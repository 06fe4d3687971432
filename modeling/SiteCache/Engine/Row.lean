import SiteCache.Engine.Varint

/-!
# Rows

A row is values one after another.  Its octets begin with a header, which has its own length and the
kind of every value in numbers of varying length; the contents of the values follow.  The kind of a
text or a byte string tells its length.
-/

namespace SiteCache

/-- A value in a row. -/
inductive RowValue where
  | none
  | number (n : Nat)
  | other (content : Octets)
  | blob (content : Octets)
  | text (content : Octets)
  deriving DecidableEq

/-- Values one after another. -/
abbrev Row := List RowValue

namespace RowValue

/-- The kind of a value; numbers take one octet. -/
def kind : RowValue → Nat
  | .none => 0
  | .number _ => 1
  | .other _ => 7
  | .blob content => 12 + 2 * content.length
  | .text content => 13 + 2 * content.length

/-- The content of a value. -/
def content : RowValue → Octets
  | .none => []
  | .number n => [UInt8.ofNat n]
  | .other content => content
  | .blob content => content
  | .text content => content

/-- How many octets the content of a value of a kind takes. -/
def size (kind : Nat) : Nat :=
  if 12 ≤ kind then (kind - 12) / 2 else ([0, 1, 2, 3, 4, 6, 8, 8][kind]?).getD 0

/-- The value of a kind with this content. -/
def ofContent (kind : Nat) (content : Octets) : RowValue :=
  if kind = 0 then .none
  else if kind = 7 then .other content
  else if kind = 8 then .number 0
  else if kind = 9 then .number 1
  else if kind < 12 then .number content.toNat
  else if kind % 2 = 0 then .blob content
  else .text content

end RowValue

namespace Row

/-- The octets of a row whose header has fewer than 128 octets. -/
def encode (row : Row) : Octets :=
  let kinds := row.flatMap fun v => Varint.write v.kind
  Varint.write (kinds.length + 1) ++ kinds ++ row.flatMap RowValue.content

/-- The kinds that a header lists, at most so many. -/
def kinds? : Nat → Octets → Option (List Nat)
  | 0, b => if b.isEmpty then some [] else none
  | fuel + 1, b =>
    if b.isEmpty then some []
    else do
      let (kind, rest) ← Varint.read? b
      pure (kind :: (← kinds? fuel rest))

/-- The values of these kinds at the front of a byte string. -/
def values? : List Nat → Octets → Option Row
  | [], _ => some []
  | kind :: kinds, b => do
    let size := RowValue.size kind
    if b.length < size then none
    pure (.ofContent kind (b.take size) :: (← values? kinds (b.drop size)))

/-- The row that octets hold. -/
def decode? (b : Octets) : Option Row := do
  let (size, rest) ← Varint.read? b
  let before := b.length - rest.length
  if size < before ∨ b.length < size then none
  let kinds ← kinds? size (rest.take (size - before))
  values? kinds (rest.drop (size - before))

end Row

end SiteCache
