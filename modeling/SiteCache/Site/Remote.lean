import SiteCache.Action

/-!
# Remote stores

A remote store answers for an address which keys it has and what the values of given keys are.
Nothing is known about its answers: it may fail, and it may answer more or fewer values than it was
asked for.  The reads here (`aligned`, `single`) refuse an answer of the wrong length.
-/

namespace SiteCache

/-- The states of a remote store, with the calls that it answers. -/
class Remote (σ : Type) where
  /-- The values of keys, by position; the value of an absent key is none. -/
  values : String → List Octets → Action σ (List (Option Octets))
  /-- All keys of an address. -/
  keys : String → Action σ (List Octets)

namespace Remote

variable {σ : Type} [Remote σ]

/-- How many keys are asked for in one call. -/
def batchSize : Nat := 64

/-- The values of keys, as many as there are keys. -/
def aligned (read : Read) (address : String) (keys : List Octets) :
    Action σ (List (Option Octets)) := do
  let values ← Remote.values address keys
  if values.length = keys.length then pure values
  else throw (.corrupt (.valueCount read keys.length values.length))

/-- The value of one key. -/
def single (address : String) (key : Octets) : Action σ (Option Octets) := do
  pure (← aligned .single address [key]).head?.join

end Remote

end SiteCache
