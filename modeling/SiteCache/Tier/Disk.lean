import SiteCache.Engine
import SiteCache.Tier.Record

/-!
# The disk tier

A queue of stored copies on an engine, in the order of their insertion ids.  Saving a new identity
into a full tier first drops the oldest one; saving a stored identity again replaces its copy and
moves it to the back.  `takeReplacing` takes a copy out and stores another one in the room that it
leaves, in one write.  The tier counts its entries itself and keeps the next insertion id;
`open?` finds both in the records.
-/

namespace SiteCache

/-- A bounded number of copies on an engine, with their count and the next insertion id. -/
structure DiskTier where
  engine : Engine
  capacity : Nat
  count : Nat
  nextId : Nat

namespace DiskTier

/-- Acts on the engine of a tier. -/
def onEngine {α : Type} (a : Action Engine α) : Action DiskTier α :=
  a.within engine fun d e => { d with engine := e }

/-- Saving a new identity would drop one. -/
def isFull (d : DiskTier) : Bool := d.capacity ≤ d.count

/-- Reads count and next insertion id from the records: the next id is past every indexed id and not
below the one that the last save left. -/
def survey : Action Engine (Nat × Nat) := do
  let index ← Engine.scan [Record.indexTag]
  let pastLast ← match index.getLast? with
    | some (key, _) => do
      let last ← .ofExcept (Record.decodeWord .indexId (key.drop 1))
      pure (last + 1)
    | none => pure 0
  let mark ← match ← Engine.get Record.nextIdKey with
    | some b => .ofExcept (Record.decodeWord .nextId b)
    | none => pure 0
  pure (index.length, max pastLast mark)

/-- Opens the tier on an engine, with room for so many copies; answers the engine after the calls if
the tier cannot be opened. -/
def open? (engine : Engine) (capacity : Nat) : Except (Fault × Engine) DiskTier :=
  if capacity = 0 then .error (.setting .noDiskRoom, engine)
  else
    match survey.perform engine with
    | (.ok (count, nextId), engine) => .ok ⟨engine, capacity, count, nextId⟩
    | (.error fault, engine) => .error (fault, engine)

/-- The insertion id under which an encoded identity is stored. -/
def storedId (identity : Octets) : Action DiskTier (Option Nat) := do
  match ← onEngine (Engine.get (Record.key identity .id)) with
  | some b => some <$> .ofExcept (Record.decodeWord .entryId b)
  | none => pure none

/-- The identity is stored. -/
def contains (i : Identity) : Action DiskTier Bool := do
  pure (← storedId i.encode).isSome

/-- The changes that delete the records of an identity, and its index record if its id is known. -/
def deletion (identity : Octets) (id : Option Nat) : Batch :=
  Record.Field.all.map (fun f => .delete (Record.key identity f))
    ++ (id.map fun n => Write.delete (Record.indexKey n)).toList

/-- The changes that store a copy under an insertion id, in place of the index record of the id that
it had. -/
def insertion (c : Copy) (id : Nat) (previous : Option Nat) : Except Fault Batch := do
  let identity := c.identity.encode
  let time ← Record.encodeTime c.modified
  pure ((previous.map fun n => Write.delete (Record.indexKey n)).toList ++
    [.put (Record.key identity .id) (Record.encodeId id),
      .put (Record.key identity .content) c.content,
      .put (Record.key identity .time) time,
      .put (Record.key identity .headers) c.headers.encode,
      .put (Record.indexKey id) identity,
      .put Record.nextIdKey (Record.encodeId (id + 1))])

/-- Deletes the copy with the lowest insertion id and answers its identity.  An index record that
names no identity is deleted alone. -/
def evictOldest : Action DiskTier (Option Identity) := do
  match ← onEngine (Engine.first [Record.indexTag]) with
  | none => pure none
  | some (key, identity) =>
    let evicted := (Identity.decode identity).toOption
    let records := if evicted.isSome then deletion identity none else []
    onEngine (Engine.write (.delete key :: records))
    modify fun d => { d with count := d.count - 1 }
    pure evicted

/-- Stores a copy and answers the identity that was dropped to make room. -/
def save (c : Copy) : Action DiskTier (Option Identity) := do
  let previous ← storedId c.identity.encode
  let evicted ← if previous.isNone ∧ (← get).isFull then evictOldest else pure none
  let batch ← .ofExcept (insertion c (← get).nextId previous)
  onEngine (Engine.write batch)
  modify fun d =>
    { d with
      nextId := d.nextId + 1
      count := if previous.isNone then d.count + 1 else d.count }
  pure evicted

/-- The changes and the growth that come with a copy to store, if there is one. -/
def replacement : Option Copy → Action DiskTier (Batch × Nat)
  | none => pure ([], 0)
  | some c => do
    let previous ← storedId c.identity.encode
    let batch ← .ofExcept (insertion c (← get).nextId previous)
    pure (batch, if previous.isNone then 1 else 0)

/-- Takes the copy of an identity out and stores another copy, in one write; does nothing for an
identity that is not stored.  A copy without content or time is dropped. -/
def takeReplacing (i : Identity) (demoted : Option Copy) : Action DiskTier (Option Copy) := do
  let identity := i.encode
  match ← storedId identity with
  | none => pure none
  | some id =>
    let content ← onEngine (Engine.get (Record.key identity .content))
    let time ← onEngine (Engine.get (Record.key identity .time))
    let headers ← onEngine (Engine.get (Record.key identity .headers))
    let (batch, added) ← replacement demoted
    onEngine (Engine.write (deletion identity (some id) ++ batch))
    modify fun d =>
      { d with
        nextId := if demoted.isSome then d.nextId + 1 else d.nextId
        count := d.count - 1 + added }
    match content, time with
    | some content, some time => do
      let modified ← .ofExcept (Record.decodeTime time)
      let headers ← .ofExcept (Record.decodeHeaders headers)
      pure (some ⟨i, content, modified, headers⟩)
    | _, _ => pure none

/-- Takes the copy of an identity out. -/
def take (i : Identity) : Action DiskTier (Option Copy) := takeReplacing i none

/-- Deletes an identity and answers whether it was stored. -/
def remove (i : Identity) : Action DiskTier Bool := do
  match ← storedId i.encode with
  | none => pure false
  | some id =>
    onEngine (Engine.write (deletion i.encode (some id)))
    modify fun d => { d with count := d.count - 1 }
    pure true

/-- The time of a stored copy. -/
def modified (i : Identity) : Action DiskTier (Option Time) := do
  match ← onEngine (Engine.get (Record.key i.encode .time)) with
  | some b => some <$> .ofExcept (Record.decodeTime b)
  | none => pure none

/-- The headers of a stored copy. -/
def headers (i : Identity) : Action DiskTier (Option Headers) := do
  match ← storedId i.encode with
  | none => pure none
  | some _ =>
    let b ← onEngine (Engine.get (Record.key i.encode .headers))
    some <$> .ofExcept (Record.decodeHeaders b)

/-- Closes the engine. -/
def close : Action DiskTier Unit := onEngine Engine.close

end DiskTier

end SiteCache
