import SiteCache.Counters
import SiteCache.Tier.Disk
import SiteCache.Tier.Ram

/-!
# The cache

A cache has a RAM tier, ordered by use, above a disk tier, ordered by insertion; a copy lives in
one of them.  A read that finds a copy on disk promotes it to RAM, and whatever leaves RAM to make
room is demoted to disk: in the same write as the promotion, or before the new copy enters RAM.
If such a write fails, the copy that was to leave goes back to RAM.
-/

namespace SiteCache

/-- How many copies each tier may hold. -/
structure Bounds where
  ram : Nat
  disk : Nat
  deriving DecidableEq

/-- Both tiers must have room. -/
def Bounds.check (b : Bounds) : Except Fault Unit :=
  if b.ram = 0 then .error (.setting .ramBound)
  else if b.disk = 0 then .error (.setting .diskBound)
  else .ok ()

/-- The two places of a copy. -/
inductive Place where
  | ram
  | disk
  deriving DecidableEq

/-- A cache whose RAM tier uses this hash. -/
structure Cache (hash : Identity → UInt64) where
  ram : RamTier hash
  disk : DiskTier
  counters : Counters := {}

namespace Cache

variable {hash : Identity → UInt64} {α : Type}

/-- Opens a cache on an engine; answers the engine after the calls if that fails. -/
def open? (hash : Identity → UInt64) (bounds : Bounds) (engine : Engine) :
    Except (Fault × Engine) (Cache hash) :=
  match bounds.check with
  | .error fault => .error (fault, engine)
  | .ok () => (DiskTier.open? engine bounds.disk).map fun disk => ⟨.empty bounds.ram, disk, {}⟩

/-- Acts on the disk tier. -/
def onDisk (a : Action DiskTier α) : Action (Cache hash) α :=
  a.within disk fun c d => { c with disk := d }

/-- Acts on the RAM tier. -/
def onRam (step : RamTier hash → α × RamTier hash) : Action (Cache hash) α :=
  .ofStep fun c => (.ok (step c.ram).1, { c with ram := (step c.ram).2 })

/-- Counts an event. -/
def note (e : Event) : Action (Cache hash) Unit :=
  modify fun c => { c with counters := c.counters.record 1 e }

/-- Puts a copy that was taken out back into RAM, if there is one. -/
def restore (c : Option Copy) : Action (Cache hash) Unit :=
  match c with
  | some copy => onRam fun t => ((), t.restore copy)
  | none => pure ()

/-- Moves the copy of an identity from disk to RAM, if it is complete. -/
def promote (i : Identity) : Action (Cache hash) (Option Copy) := do
  let displaced ← onRam fun t => t.popDisplaced i
  match ← (onDisk (DiskTier.takeReplacing i displaced)).attempt with
  | .error fault =>
    restore displaced
    throw fault
  | .ok taken =>
    if displaced.isSome then note .demotion
    match taken with
    | none => pure none
    | some copy =>
      note .diskHit
      note .promotion
      let _ ← onRam fun t => t.insert copy
      pure (some copy)

/-- The content and the headers of a resource; a copy on disk moves to RAM. -/
def read (i : Identity) : Action (Cache hash) (Octets × Headers) := do
  match ← onRam fun t => t.get i with
  | some copy =>
    note .ramHit
    pure (copy.content, copy.headers)
  | none =>
    let promoted ← if ← onDisk (DiskTier.contains i) then promote i else pure none
    match promoted with
    | some copy => pure (copy.content, copy.headers)
    | none =>
      note .miss
      throw i.missed

/-- Moves a copy that left RAM to disk. -/
def demote (c : Copy) : Action (Cache hash) Unit := do
  let evicted ← onDisk (DiskTier.save c)
  if evicted.isSome then note .eviction
  note .demotion

/-- Puts a copy into RAM after demoting the one whose place it takes. -/
def insert (c : Copy) : Action (Cache hash) Unit := do
  match ← onRam fun t => t.popDisplaced c.identity with
  | none => pure ()
  | some displaced =>
    match ← (demote displaced).attempt with
    | .ok () => pure ()
    | .error fault =>
      restore (some displaced)
      throw fault
  let _ ← onRam fun t => t.insert c

/-- Stores a copy in RAM in place of any former copy in either tier. -/
def save (c : Copy) : Action (Cache hash) Unit := do
  let _ ← onRam fun t => t.remove c.identity
  let _ ← onDisk (DiskTier.remove c.identity)
  note .save
  insert c

/-- The time of a copy, without changing any order. -/
def modified (i : Identity) : Action (Cache hash) Time := do
  match (← get).ram.peek i with
  | some copy => pure copy.modified
  | none =>
    match ← onDisk (DiskTier.modified i) with
    | some t => pure t
    | none => throw i.missed

/-- The headers of a copy, without changing any order. -/
def headers (i : Identity) : Action (Cache hash) Headers := do
  match (← get).ram.peek i with
  | some copy => pure copy.headers
  | none =>
    match ← onDisk (DiskTier.headers i) with
    | some h => pure h
    | none => throw i.missed

/-- A single header of a copy, by a name in any case. -/
def header (i : Identity) (name : String) : Action (Cache hash) (Option String) := do
  pure ((← headers i).find? name)

/-- Removes a resource from both tiers. -/
def delete (i : Identity) : Action (Cache hash) Unit := do
  let inRam ← onRam fun t => t.remove i
  let onDisk ← onDisk (DiskTier.remove i)
  if inRam.isSome ∨ onDisk then note .deletion

/-- The tier that holds a resource. -/
def place (i : Identity) : Action (Cache hash) (Option Place) := do
  if ((← get).ram.peek i).isSome then pure (some .ram)
  else if ← onDisk (DiskTier.contains i) then pure (some .disk)
  else pure none

/-- Saves copies to disk one after another, whatever happens to each, and answers the first fault. -/
def flush : List Copy → Action DiskTier (Option Fault)
  | [] => pure none
  | c :: rest => do
    let saved ← (DiskTier.save c).attempt
    let later ← flush rest
    match saved with
    | .ok _ => pure later
    | .error fault => pure (some fault)

/-- Flushes RAM to disk, least recently used first, and closes the engine; answers the engine. -/
def close (c : Cache hash) : Except Fault Unit × Engine :=
  let (answer, disk) := Action.perform (do
    let firstFault ← flush c.ram.drain
    DiskTier.close
    match firstFault with
    | some fault => throw fault
    | none => pure ()) c.disk
  (answer, disk.engine)

end Cache

end SiteCache
