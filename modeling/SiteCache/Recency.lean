/-!
# Bounded recency lists

A `Recency` list holds at most `capacity` values under distinct keys, the most recently used
first.  Looking a key up with `touch` brings it to the front, `peek` leaves the order alone;
`push` puts a pair in front and pushes out the pair of the same key or, in a full list, the
last one (`pushedOut`); `sink` sends a key to the back.
-/

namespace SiteCache

/-- A bounded list of keyed values, most recently used first. -/
structure Recency (κ ν : Type) where
  capacity : Nat
  capacity_pos : 0 < capacity
  entries : List (κ × ν)
  distinct : entries.Pairwise (fun x y => x.1 ≠ y.1)
  bounded : entries.length ≤ capacity

namespace Recency

variable {κ ν : Type}

/-- The list without entries; a capacity of zero counts as one. -/
def empty (capacity : Nat) : Recency κ ν :=
  ⟨max 1 capacity, by omega, [], .nil, Nat.zero_le _⟩

/-- The number of keys. -/
def size (r : Recency κ ν) : Nat := r.entries.length

/-- A push of a new key would push out another one. -/
def isFull (r : Recency κ ν) : Bool := r.capacity ≤ r.size

/-- The entries whose value satisfies a test, in unchanged order. -/
def filter (r : Recency κ ν) (p : κ × ν → Bool) : Recency κ ν :=
  { r with
    entries := r.entries.filter p
    distinct := r.distinct.filter p
    bounded := Nat.le_trans (List.length_filter_le p r.entries) r.bounded }

/-- The least recently used entry. -/
def oldest? (r : Recency κ ν) : Option (κ × ν) := r.entries.getLast?

/-- The list without its least recently used entry. -/
def dropOldest (r : Recency κ ν) : Recency κ ν :=
  { r with
    entries := r.entries.dropLast
    distinct := r.distinct.sublist (List.dropLast_sublist r.entries)
    bounded := by
      have := r.bounded
      simp only [List.length_dropLast]
      omega }

variable [DecidableEq κ]

/-- The value of a key, without changing the order. -/
def peek (r : Recency κ ν) (k : κ) : Option ν :=
  (r.entries.find? (fun x => x.1 = k)).map Prod.snd

/-- The list without a key. -/
def erase (r : Recency κ ν) (k : κ) : Recency κ ν := r.filter (fun x => x.1 ≠ k)

theorem peek_of_mem {r : Recency κ ν} {k : κ} {v : ν} (h : (k, v) ∈ r.entries) :
  r.peek k = some v
  := by
  obtain ⟨_, _, entries, distinct, _⟩ := r
  simp only [peek]
  induction entries with
  | nil => simp at h
  | cons y rest ih =>
    obtain ⟨apart, distinctRest⟩ := List.pairwise_cons.1 distinct
    rcases List.mem_cons.1 h with rfl | h
    · simp
    · have : ¬ y.1 = k := apart _ h
      simp [this, ih distinctRest (Nat.le_of_succ_le ‹_›) h]

theorem mem_of_peek {r : Recency κ ν} {k : κ} {v : ν} (h : r.peek k = some v) :
  (k, v) ∈ r.entries
  := by
  obtain ⟨x, found, rfl⟩ := Option.map_eq_some_iff.1 h
  have key : x.1 = k := by simpa using List.find?_some found
  exact key ▸ List.mem_of_find?_eq_some found

/-- The list in which the entry with this key is the most recently used one. -/
def push (r : Recency κ ν) (k : κ) (v : ν) : Recency κ ν :=
  { r with
    entries := (k, v) :: (r.erase k).entries.take (r.capacity - 1)
    distinct := by
      refine List.pairwise_cons.2 ⟨fun x hx => ?_, (r.erase k).distinct.sublist (List.take_sublist ..)⟩
      have hx := List.mem_of_mem_take hx
      simp only [erase, filter, List.mem_filter, decide_eq_true_eq] at hx
      exact Ne.symm hx.2
    bounded := by
      have := r.capacity_pos
      simp only [List.length_cons, List.length_take]
      omega }

/-- The entry that a push of this key pushes out: its own former one or, if the key is new and the
list full, the least recently used one. -/
def pushedOut (r : Recency κ ν) (k : κ) : Option (κ × ν) :=
  match r.peek k with
  | some v => some (k, v)
  | none => if r.isFull then r.oldest? else none

/-- The list in which a key, if it is there, is the most recently used one. -/
def touch (r : Recency κ ν) (k : κ) : Recency κ ν :=
  match r.peek k with
  | some v => r.push k v
  | none => r

/-- The list in which a key, if it is there, is the least recently used one. -/
def sink (r : Recency κ ν) (k : κ) : Recency κ ν :=
  { r with
    entries := r.entries.filter (fun x => x.1 ≠ k) ++ r.entries.filter (fun x => x.1 = k)
    distinct := by
      refine List.pairwise_append.2 ⟨r.distinct.filter _, r.distinct.filter _, fun x hx y hy => ?_⟩
      simp only [List.mem_filter, decide_eq_true_eq] at hx hy
      exact hy.2 ▸ hx.2
    bounded := by
      have parts := List.length_eq_countP_add_countP (fun x : κ × ν => decide (x.1 = k)) (l := r.entries)
      have := r.bounded
      simp only [List.countP_eq_length_filter, decide_eq_true_eq] at parts
      simp only [List.length_append, ne_eq]
      omega }

end Recency

end SiteCache
