import SiteCache.Copy
import SiteCache.Recency

/-!
# The RAM tier

Copies in memory, most recently used first, each in the slot that the hash of its identity names.
Identities may share a slot: a slot answers only the identity whose copy it holds.  An insertion
hands back the copy of another identity that it pushes out; `popDisplaced` takes that copy out
beforehand, and `restore` puts it back as the least recently used one.
-/

namespace SiteCache

/-- A bounded number of copies, each under the hash of its identity. -/
structure RamTier (hash : Identity → UInt64) where
  slots : Recency UInt64 Copy
  keyed : ∀ x ∈ slots.entries, x.1 = hash x.2.identity

namespace RamTier

variable {hash : Identity → UInt64}

/-- The tier without copies. -/
def empty (capacity : Nat) : RamTier hash := ⟨.empty capacity, fun _ h => by cases h⟩

/-- The number of copies. -/
def size (t : RamTier hash) : Nat := t.slots.size

/-- An insertion into a new slot would push a copy out. -/
def isFull (t : RamTier hash) : Bool := t.slots.isFull

/-- The copies, most recently used first. -/
def copies (t : RamTier hash) : List Copy := t.slots.entries.map Prod.snd

/-- The copy of an identity, without changing the order. -/
def peek (t : RamTier hash) (i : Identity) : Option Copy :=
  (t.slots.peek (hash i)).filter (fun c => c.identity = i)

/-- The tier without the slot of a hash. -/
def eraseSlot (t : RamTier hash) (h : UInt64) : RamTier hash :=
  ⟨t.slots.erase h, fun x hx => t.keyed x ((List.mem_filter.1 hx).1)⟩

/-- The tier in which a copy is the most recently used one. -/
def push (t : RamTier hash) (c : Copy) : RamTier hash :=
  ⟨t.slots.push (hash c.identity) c, fun x hx => by
    rcases List.mem_cons.1 hx with rfl | hx
    · rfl
    · exact t.keyed x ((List.mem_filter.1 (List.mem_of_mem_take hx)).1)⟩

/-- Looks an identity up and makes its copy the most recently used one. -/
def get (t : RamTier hash) (i : Identity) : Option Copy × RamTier hash :=
  match t.peek i with
  | some c => (some c, t.push c)
  | none => (none, t)

/-- Takes the copy of an identity out. -/
def remove (t : RamTier hash) (i : Identity) : Option Copy × RamTier hash :=
  match t.peek i with
  | some c => (some c, t.eraseSlot (hash i))
  | none => (none, t)

/-- Makes a copy the most recently used one, and answers the copy of another identity that loses its
place. -/
def insert (t : RamTier hash) (c : Copy) : Option Copy × RamTier hash :=
  (((t.slots.pushedOut (hash c.identity)).map Prod.snd).filter
    (fun out => out.identity ≠ c.identity), t.push c)

/-- Takes the least recently used copy out. -/
def popOldest (t : RamTier hash) : Option Copy × RamTier hash :=
  (t.slots.oldest?.map Prod.snd,
    ⟨t.slots.dropOldest, fun x hx => t.keyed x ((List.dropLast_sublist _).subset hx)⟩)

/-- Takes out what an insertion of this identity would push out: the copy of another identity in its
slot or, if the slot is new and the tier full, the least recently used copy. -/
def popDisplaced (t : RamTier hash) (i : Identity) : Option Copy × RamTier hash :=
  match t.slots.peek (hash i) with
  | some c => if c.identity = i then (none, t) else (some c, t.eraseSlot (hash i))
  | none => if t.isFull then t.popOldest else (none, t)

/-- Puts a copy back as the least recently used one. -/
def restore (t : RamTier hash) (c : Copy) : RamTier hash :=
  ⟨(t.push c).slots.sink (hash c.identity), fun x hx => by
    rcases List.mem_append.1 hx with hx | hx
    · exact (t.push c).keyed x ((List.mem_filter.1 hx).1)
    · exact (t.push c).keyed x ((List.mem_filter.1 hx).1)⟩

/-- The copies in the order in which they leave: least recently used first. -/
def drain (t : RamTier hash) : List Copy := t.copies.reverse

end RamTier

end SiteCache
