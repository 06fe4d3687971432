import SiteCache.Proofs.Tier.Queue

/-!
# Records in the course of time

Later records (`Records.Later`) keep some of the index records in their order and have new ones
behind them, with insertion ids that had not been given out before.  Records that hold a bounded
queue evolve (`Records.Evolves`) by the batches of the disk tier: by a deletion, an eviction, an
insertion, and the exchange of one copy for another.
-/

namespace SiteCache

namespace Records

open Record DiskTier

variable {r r' r'' : Records} {q kept new : List (Nat × Copy)} {next next' last bound : Nat}
  {i : Identity} {c : Copy}

/-- The second records may follow the first: no insertion id is given out again, and what has stayed
is in the same order, before all that is new. -/
structure Later (r r' : Records) (next next' : Nat) : Prop where
  mark : r.mark = .ok next
  mark_later : r'.mark = .ok next'
  next_le : next ≤ next'
  below : ∀ x ∈ r.index, ∃ id < next, x.1 = indexKey id
  order : ∃ kept new, r'.index = kept ++ new ∧ kept.Sublist r.index
    ∧ ∀ x ∈ new, ∃ id, next ≤ id ∧ id < next' ∧ x.1 = indexKey id

theorem Later.trans (h : r.Later r' next next') (h' : r'.Later r'' next' last) :
  r.Later r'' next last
  := by
  obtain ⟨kept, new, index, stayed, fresh⟩ := h.order
  obtain ⟨kept', new', index', stayed', fresh'⟩ := h'.order
  rw [index] at stayed'
  -- What stays in the end was there at first or is new since the first records.
  obtain ⟨old, recent, rfl, fromKept, fromNew⟩ := List.sublist_append_iff.1 stayed'
  refine ⟨h.mark, h'.mark_later, Nat.le_trans h.next_le h'.next_le, h.below, ?_⟩
  refine ⟨old, recent ++ new', by rw [index', List.append_assoc], fromKept.trans stayed, ?_⟩
  intro x hx
  rcases List.mem_append.1 hx with hx | hx
  · obtain ⟨id, low, high, key⟩ := fresh x (fromNew.subset hx)
    exact ⟨id, low, Nat.lt_of_lt_of_le high h'.next_le, key⟩
  · obtain ⟨id, low, high, key⟩ := fresh' x hx
    exact ⟨id, Nat.le_trans h.next_le low, high, key⟩

/-- A queue that keeps some entries in their order and has new ones behind them. -/
theorem Queue.later (h : r.Queue q next) (h' : r'.Queue (kept ++ new) next')
    (stayed : kept.Sublist q) (next_le : next ≤ next') (fresh : ∀ x ∈ new, next ≤ x.1) :
  r.Later r' next next'
  := by
  refine ⟨h.mark_eq, h'.mark_eq, next_le, ?_, ?_⟩
  · rw [h.index_eq]
    intro y hy
    obtain ⟨x, hx, rfl⟩ := List.mem_map.1 hy
    exact ⟨x.1, h.below x hx, rfl⟩
  · rw [h'.index_eq, h.index_eq, List.map_append]
    refine ⟨_, _, rfl, stayed.map _, ?_⟩
    intro y hy
    obtain ⟨x, hx, rfl⟩ := List.mem_map.1 hy
    exact ⟨x.1, fresh x hx, h'.below x (List.mem_append_right kept hx), rfl⟩

/-- The records hold a queue of so many copies at most. -/
def Keeps (bound : Nat) (r : Records) : Prop := ∃ q next, r.Queue q next ∧ q.length ≤ bound

/-- Records with a bounded queue lead to later ones. -/
structure Evolves (bound : Nat) (r r' : Records) : Prop where
  before : r.Keeps bound
  after : r'.Keeps bound
  later : ∃ next next', r.Later r' next next'

theorem Evolves.trans (h : Evolves bound r r') (h' : Evolves bound r' r'') :
  Evolves bound r r''
  := by
  obtain ⟨next, next', later⟩ := h.later
  obtain ⟨again, last, later'⟩ := h'.later
  obtain rfl := Except.ok.inj (later.mark_later.symm.trans later'.mark)
  exact ⟨h.before, h'.after, next, last, later.trans later'⟩

instance : Trans (Evolves bound) (Evolves bound) (Evolves bound) := ⟨Evolves.trans⟩

theorem Queue.evolves (h : r.Queue q next) (bounded : q.length ≤ bound)
    (h' : r'.Queue (kept ++ new) next') (bounded' : (kept ++ new).length ≤ bound)
    (stayed : kept.Sublist q) (next_le : next ≤ next') (fresh : ∀ x ∈ new, next ≤ x.1) :
  Evolves bound r r'
  := ⟨⟨q, next, h, bounded⟩, ⟨_, next', h', bounded'⟩, next, next',
    h.later h' stayed next_le fresh⟩

/-- A queue loses some of its entries. -/
theorem Queue.evolves_of_sublist (h : r.Queue q next) (bounded : q.length ≤ bound)
    (h' : r'.Queue kept next) (stayed : kept.Sublist q) :
  Evolves bound r r'
  := by
  rw [← List.append_nil kept] at h'
  have bounded' := Nat.le_trans stayed.length_le bounded
  rw [← List.append_nil kept] at bounded'
  exact h.evolves bounded h' bounded' stayed (Nat.le_refl next) (by simp)

theorem Keeps.evolves (h : r.Keeps bound) :
  Evolves bound r r
  := by
  obtain ⟨q, next, queue, bounded⟩ := h
  exact queue.evolves_of_sublist bounded queue (List.Sublist.refl q)

/-! ### The batches of the disk tier -/

theorem Queue.evolves_deletion (h : r.Queue q next) (bounded : q.length ≤ bound) (fits : i.Fits)
    {id : Option Nat} (stored : r.storedId i.encode = .ok id) :
  Evolves bound r (r.apply (deletion i.encode id))
  := by
  rw [h.storedId_eq fits] at stored
  obtain rfl := Except.ok.inj stored
  exact h.evolves_of_sublist bounded (h.delete fits) List.filter_sublist

theorem Queue.evolves_eviction (h : r.Queue q next) (bounded : q.length ≤ bound)
    {key identity : Octets} (first : r.index.head? = some (key, identity)) :
  Evolves bound r (r.apply (eviction key identity))
  := by
  rw [h.index_eq] at first
  cases q with
  | nil => cases first
  | cons x q =>
      obtain ⟨rfl, rfl⟩ := Prod.mk.inj (Option.some.inj first)
      exact h.evolves_of_sublist bounded h.evict (List.sublist_cons_self x q)

/-- The number of entries without an identity that has one. -/
theorem length_without_lt {id : Nat} (stored : (entryOf? i q).map Prod.fst = some id) :
  (without i q).length < q.length
  := by
  obtain ⟨x, found, -⟩ := Option.map_eq_some_iff.1 stored
  obtain ⟨hx, same⟩ := mem_of_entryOf?_eq_some found
  exact List.length_filter_lt_length_iff_exists.2 ⟨x, hx, by simp [same]⟩

theorem Queue.evolves_placement (h : r.Queue q next) (bounded : q.length ≤ bound)
    (fits : c.identity.Fits) {previous : Option Nat}
    (stored : r.storedId c.identity.encode = .ok previous) (storable : c.modified.Storable)
    (countable : next + 1 < wordBound) (room : previous = none → q.length < bound) :
  Evolves bound r (r.apply (placement c next previous))
  := by
  rw [h.storedId_eq fits] at stored
  obtain rfl := Except.ok.inj stored
  refine h.evolves bounded (h.insert fits storable countable) ?_ List.filter_sublist
    (Nat.le_succ next) (by simp)
  rw [List.length_append, List.length_singleton]
  have fewer : (without c.identity q).length ≤ q.length := List.length_filter_le _ q
  cases found : (entryOf? c.identity q).map Prod.fst with
  | none =>
      have := room found
      omega
  | some id =>
      have := length_without_lt found
      omega

/-- One copy is stored in the room that another one leaves. -/
theorem Queue.evolves_exchange (h : r.Queue q next) (bounded : q.length ≤ bound) (fits : i.Fits)
    {id : Nat} (present : r.storedId i.encode = .ok (some id)) (fitsC : c.identity.Fits)
    (other : c.identity ≠ i) {previous : Option Nat}
    (stored : r.storedId c.identity.encode = .ok previous) (storable : c.modified.Storable)
    (countable : next + 1 < wordBound) :
  Evolves bound r (r.apply (deletion i.encode (some id) ++ placement c next previous))
  := by
  have elsewhere : c.identity.encode ≠ i.encode := by
    intro same
    exact other ((Identity.encode_inj fitsC fits).1 same)
  have gone := h.evolves_deletion bounded fits present
  rw [h.storedId_eq fits] at present
  have found := Except.ok.inj present
  have fewer := length_without_lt found
  have rest := h.delete fits
  rw [found] at rest
  rw [← storedId_deletion _ (some id) elsewhere] at stored
  rw [apply_append]
  apply gone.trans
  apply rest.evolves_placement (by omega) fitsC stored storable countable
  intro _
  omega

end Records

end SiteCache
