import SiteCache.Clock
import SiteCache.Recency

/-!
# Name books

A `NameBook` remembers for a limited time which address a website name stands for.  It holds a
bounded number of names, the most recently used first; a name that is looked up after its time is
struck out, and a full book strikes out all expired names before it gives up a live one.  Names
that cannot be resolved are not remembered.
-/

namespace SiteCache

/-- Addresses by name, each kept for the lifetime of the book. -/
structure NameBook where
  lifetime : Nat
  names : Recency String (Clock.Lease String)

namespace NameBook

/-- How long a name is kept, and how many names are, unless something else is asked for. -/
def defaultLifetime : Nat := Clock.seconds 16

/-- The number of names that a book holds unless another is asked for. -/
def defaultCapacity : Nat := 1000

/-- The empty book; zero selects the default of either bound. -/
def empty (lifetime capacity : Nat) : NameBook :=
  ⟨if lifetime = 0 then defaultLifetime else lifetime,
    .empty (if capacity = 0 then defaultCapacity else capacity)⟩

/-- The number of names, expired ones included. -/
def size (b : NameBook) : Nat := b.names.size

/-- The number of names that the book may hold. -/
def capacity (b : NameBook) : Nat := b.names.capacity

/-- Looks a name up: a live name becomes the most recently used one, an expired name is struck
out. -/
def lookup (now : Nat) (name : String) (b : NameBook) : Option String × NameBook :=
  match b.names.peek name with
  | none => (none, b)
  | some lease =>
    if lease.isLive now then (some lease.value, { b with names := b.names.touch name })
    else (none, { b with names := b.names.erase name })

/-- The book with room for a name: a full book without the name strikes out what has expired. -/
def purge (now : Nat) (name : String) (b : NameBook) : NameBook :=
  if b.names.isFull ∧ (b.names.peek name).isNone then
    { b with names := b.names.filter fun x => x.2.isLive now }
  else b

/-- Enters an address for a name from now on. -/
def enter (now : Nat) (name address : String) : Action NameBook Unit :=
  .ofStep fun b =>
    match Clock.expiry now b.lifetime with
    | .error fault => (.error fault, b)
    | .ok expires =>
      let b := b.purge now name
      (.ok (), { b with names := b.names.push name ⟨address, expires⟩ })

/-- The address of a name from the book or else from a resolver, whose answer is entered.  The time
is read where the resolver is asked, before and after that. -/
def resolveAt {ρ : Type} (clock : ρ → Nat) (name : String) (resolver : String → Action ρ String) :
    Action (NameBook × ρ) String := do
  let known ← .ofStep fun s =>
    let looked := s.1.lookup (clock s.2) name
    (.ok looked.1, (looked.2, s.2))
  match known with
  | some address => pure address
  | none =>
    let address ← (resolver name).within Prod.snd fun s r => (s.1, r)
    let (_, answered) ← get
    (enter (clock answered) name address).within Prod.fst fun s b => (b, s.2)
    pure address

/-- The address of a name from the book or else from a resolver that takes no time. -/
def resolve {ρ : Type} (now : Nat) (name : String) (resolver : String → Action ρ String) :
    Action (NameBook × ρ) String :=
  resolveAt (fun _ => now) name resolver

end NameBook

end SiteCache
