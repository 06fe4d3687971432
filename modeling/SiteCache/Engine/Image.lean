import SiteCache.Engine
import SiteCache.Engine.Tree
import SiteCache.Fault

/-!
# Images of records

The records of an engine as the content of a database file: a header, a schema with the one table
of the records, and the tree of its rows, each a key and its value.  A file that holds nothing, or a
single octet, has no records yet.  What does not begin as a database file does is none, and what does
not go on so is damaged.
-/

namespace SiteCache.Records

/-! ### The header -/

/-- The octets that begin a database file. -/
def signature : Octets := "SQLite format 3\x00".toList.map fun c => UInt8.ofNat c.toNat

/-- How much of a page cells and rows may take, which never varies. -/
def fractions : Octets := [64, 32, 32]

/-- The text that defines the table of the records. -/
def definition : String :=
  "CREATE TABLE kv (\n                key   BLOB PRIMARY KEY NOT NULL,\n"
    ++ "                value BLOB NOT NULL\n            ) WITHOUT ROWID"

/-- The name of the table of the records. -/
def tableName : String := "kv"

/-- The header of a file of so many pages, which is kept with a log of its changes. -/
def header (pages : Nat) : Octets :=
  let word := Octets.bigEndian 4
  signature ++ Octets.bigEndian 2 pageSize ++ [2, 2, 0] ++ fractions ++ word 2 ++ word pages
    ++ word 0 ++ word 0 ++ word 1 ++ word 4 ++ word 0 ++ word 0 ++ word 1
    ++ List.replicate 32 0 ++ word 2 ++ word 3046000

/-- The page size that a header states: a power of two from 512 to 65536. -/
def statedSize? (b : Octets) : Option Nat :=
  let stated := Volume.word b 16 1 * 256 + Volume.word b 17 1 * 65536
  if [512, 1024, 2048, 4096, 8192, 16384, 32768, 65536].contains stated then some stated else none

/-- The pages of a database file, or what keeps it from being one. -/
def volume (b : Octets) : Except StorageFault Volume :=
  match statedSize? b with
  | none => .error .notDatabase
  | some size =>
    let usable := size - Volume.word b 20 1
    let pages := batches size b
    let stated := if Volume.word b 24 4 = Volume.word b 92 4 then Volume.word b 28 4 else 0
    if !signature.isPrefixOf b ∨ 2 < Volume.word b 19 1 ∨ (b.drop 21).take 3 ≠ fractions then
      .error .notDatabase
    else if pages.length < stated then .error .damaged
    else if usable < 480 then .error .notDatabase
    else if 4 < Volume.word b 44 4 then .error .unsupported
    else .ok ⟨usable, (if stated = 0 then pages else pages.take stated).toArray⟩

/-! ### Reading -/

/-- The text of a name. -/
def nameText (name : String) : RowValue := .text (Utf8.encode name)

/-- The root of the table of the records in a schema. -/
def root? (schema : List Row) : Option Nat :=
  schema.findSome? fun row =>
    match row with
    | [kind, name, _, .number root, _] =>
      if kind = nameText "table" ∧ name = nameText tableName then some root else none
    | _ => none

/-- The key and the value in a row. -/
def pair? : Row → Option (Octets × Octets)
  | [.blob key, .blob value] => some (key, value)
  | _ => none

/-- The file holds nothing. -/
def isVacant (b : Octets) : Bool := b.length ≤ 1

/-- The records in the rows of a table. -/
def ofRows? (rows : List Row) : Option Records := (rows.mapM pair?).map Table.ofList

/-- The records of a database file; a schema without their table has none. -/
def decode (b : Octets) : Except StorageFault Records :=
  if isVacant b then .ok .empty
  else
    (volume b).bind fun v =>
      match (v.rows? true Volume.deepest 1).map root? with
      | none => .error .damaged
      | some none => .ok .empty
      | some (some root) =>
        if v.pages.size < root then .error (.schemaRoot tableName)
        else
          match (v.rows? false Volume.deepest root).bind ofRows? with
          | none => .error .damaged
          | some r => .ok r

/-! ### Writing -/

/-- The page of the schema, in a file of so many pages. -/
def schemaPage (pages : Nat) : Octets :=
  let row : Row := [nameText "table", nameText tableName, nameText tableName, .number 2,
    nameText definition]
  let b := row.encode
  Pages.layout (header pages) (5, 13) [{ content := Varint.write b.length ++ Varint.write 1 ++ b }]
    none

/-- The database file of records. -/
def encode (r : Records) : Octets :=
  let rows := r.entries.map fun x => [RowValue.blob x.1, RowValue.blob x.2]
  let (cells, p) := (Pages.mk 3 []).cells rows
  let (root, p) := p.tree cells.length cells none
  schemaPage (p.next - 1) ++ root ++ p.laid.reverse.flatten

end SiteCache.Records
