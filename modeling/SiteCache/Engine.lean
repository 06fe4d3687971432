import SiteCache.Action
import SiteCache.Table

/-!
# The storage engine

The disk tier keeps its records in an ordered store of byte strings.  Records are read singly or
by the beginning of their keys, and written in batches that take effect together.  The records
with a given beginning are found in one of two ways: by walking from the first key that is not
smaller as long as the beginning fits (`walk`), or as the range between the beginning and the
least byte string above all that begin with it (`between`).

Every call may be refused, depending on the calls made so far (`refuses`); a refused call has no
effect.  A crash is an engine that refuses everything from some call on: what its records are then
is what the next session finds.
-/

namespace SiteCache

/-- The records of a store, by key in ascending order. -/
abbrev Records := Table Octets Octets

/-- A single change of the records. -/
inductive Write where
  | put (key value : Octets)
  | delete (key : Octets)
  deriving DecidableEq

/-- Changes that take effect together, in order. -/
abbrev Batch := List Write

namespace Records

/-- The records after one change. -/
def change (r : Records) : Write → Records
  | .put key value => r.insert key value
  | .delete key => r.erase key

/-- The records after all changes of a batch. -/
def apply (r : Records) (batch : Batch) : Records := batch.foldl change r

/-- The least byte string above all that begin with these octets; octets 255 alone have none. -/
def above? : Octets → Option Octets
  | [] => none
  | o :: rest =>
    match above? rest with
    | some bound => some (o :: bound)
    | none => if o = 255 then none else some [o + 1]

/-- The records from the first key not smaller than the beginning on, as long as it fits. -/
def walk (r : Records) (beginning : Octets) : List (Octets × Octets) :=
  (r.entries.dropWhile (fun x => x.1 < beginning)).takeWhile (fun x => beginning.isPrefixOf x.1)

/-- The first key not smaller than the beginning, if the beginning fits. -/
def walkFirst (r : Records) (beginning : Octets) : Option (Octets × Octets) :=
  (r.entries.dropWhile (fun x => x.1 < beginning)).head?.filter
    (fun x => beginning.isPrefixOf x.1)

/-- The records of the range that a beginning spans. -/
def between (r : Records) (beginning : Octets) : List (Octets × Octets) :=
  match above? beginning with
  | some bound => r.entries.filter (fun x => beginning ≤ x.1 && x.1 < bound)
  | none => r.entries.filter (fun x => beginning ≤ x.1)

/-- The first record of the range that a beginning spans. -/
def betweenFirst (r : Records) (beginning : Octets) : Option (Octets × Octets) :=
  (r.between beginning).head?

end Records

namespace Engine

/-- How an engine finds the records with a given beginning. -/
inductive Search where
  | walk
  | range
  deriving DecidableEq

/-- All records whose key has a beginning. -/
def Search.all : Search → Records → Octets → List (Octets × Octets)
  | .walk => Records.walk
  | .range => Records.between

/-- The first record whose key has a beginning. -/
def Search.first : Search → Records → Octets → Option (Octets × Octets)
  | .walk => Records.walkFirst
  | .range => Records.betweenFirst

/-- The calls that an engine answers. -/
inductive Call where
  | get
  | scan
  | first
  | write
  | close
  deriving DecidableEq

end Engine

/-- An ordered store of records with its history of calls, newest first; `refuses` decides on the
newest call of a history. -/
structure Engine where
  search : Engine.Search := .walk
  records : Records := .empty
  refuses : List Engine.Call → Option Fault := fun _ => none
  asked : List Engine.Call := []

namespace Engine

/-- Asks for a call: it is refused, or answers from the records and may replace them. -/
def ask {α : Type} (call : Call) (effect : Engine → α × Records) : Action Engine α :=
  .ofStep fun e =>
    let asked := { e with asked := call :: e.asked }
    match e.refuses asked.asked with
    | some fault => (.error fault, asked)
    | none => (.ok (effect e).1, { asked with records := (effect e).2 })

/-- The value of a key. -/
def get (key : Octets) : Action Engine (Option Octets) :=
  ask .get fun e => (e.records.get? key, e.records)

/-- The records whose key has this beginning, in ascending order. -/
def scan (beginning : Octets) : Action Engine (List (Octets × Octets)) :=
  ask .scan fun e => (e.search.all e.records beginning, e.records)

/-- The first record whose key has this beginning. -/
def first (beginning : Octets) : Action Engine (Option (Octets × Octets)) :=
  ask .first fun e => (e.search.first e.records beginning, e.records)

/-- Writes a batch, all of it or nothing. -/
def write (batch : Batch) : Action Engine Unit :=
  ask .write fun e => ((), e.records.apply batch)

/-- Releases the engine; its records stay. -/
def close : Action Engine Unit :=
  ask .close fun e => ((), e.records)

end Engine

end SiteCache
