/-!
# Counters

What a cache did since it was opened: hits in either tier, misses, copies moved between the tiers,
copies dropped from the disk tier, saves and deletions.  `hitRatio` is the share of the reads that
found a copy.
-/

namespace SiteCache

/-- The number of events of each kind. -/
structure Counters where
  ramHits : Nat := 0
  diskHits : Nat := 0
  misses : Nat := 0
  promotions : Nat := 0
  demotions : Nat := 0
  evictions : Nat := 0
  saves : Nat := 0
  deletions : Nat := 0
  deriving DecidableEq

/-- The events that are counted. -/
inductive Event where
  | ramHit
  | diskHit
  | miss
  | promotion
  | demotion
  | eviction
  | save
  | deletion
  deriving DecidableEq

namespace Counters

/-- Counts an event so many times. -/
def record (c : Counters) (times : Nat) : Event → Counters
  | .ramHit => { c with ramHits := c.ramHits + times }
  | .diskHit => { c with diskHits := c.diskHits + times }
  | .miss => { c with misses := c.misses + times }
  | .promotion => { c with promotions := c.promotions + times }
  | .demotion => { c with demotions := c.demotions + times }
  | .eviction => { c with evictions := c.evictions + times }
  | .save => { c with saves := c.saves + times }
  | .deletion => { c with deletions := c.deletions + times }

/-- Reads that found a copy. -/
def hits (c : Counters) : Nat := c.ramHits + c.diskHits

/-- The share of the reads that found a copy; zero before the first read. -/
def hitRatio (c : Counters) : Float :=
  let reads := c.hits + c.misses
  if reads = 0 then 0 else Float.ofNat c.hits / Float.ofNat reads

end Counters

end SiteCache
