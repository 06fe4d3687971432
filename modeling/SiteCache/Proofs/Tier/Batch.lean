import SiteCache.Proofs.Tier.Disk

/-!
# What the batches of the disk tier do

Each batch concerns one identity, its index record and the next insertion id.  The lemmas say what a
field, an index record and the next insertion id are after a deletion, an eviction and an
insertion; whatever else there is stays as it was.
-/

namespace SiteCache

namespace Records

theorem apply_append (r : Records) (first second : Batch) :
  r.apply (first ++ second) = (r.apply first).apply second
  := List.foldl_append

theorem get?_apply_delete (r : Records) (keys : List Octets) (k : Octets) :
  (r.apply (keys.map .delete)).get? k = if k ∈ keys then none else r.get? k
  := by
  induction keys generalizing r with
  | nil => rfl
  | cons key keys ih =>
      change (apply (r.erase key) (keys.map .delete)).get? k = _
      rw [ih, Table.get?_erase]
      by_cases here : key = k
      · simp [here]
      · simp [here, Ne.symm here]

theorem ascending_index (r : Records) :
  r.index.Pairwise fun x y => x.1 < y.1
  := r.ascending.filter _

theorem mem_index_iff {r : Records} {k v : Octets} :
  (k, v) ∈ r.index ↔ Record.Indexed k ∧ r.get? k = some v
  := by
  simp only [index, startingWith, List.mem_filter, Table.mem_entries_iff]
  exact and_comm

/-- The index is the only ascending list of the index keys with their values. -/
theorem index_eq_of_mem_iff {r : Records} {entries : List (Octets × Octets)}
    (ascending : entries.Pairwise fun x y => x.1 < y.1)
    (same : ∀ k v, (k, v) ∈ entries ↔ Record.Indexed k ∧ r.get? k = some v) :
  r.index = entries
  := by
  have tables : (⟨r.index, r.ascending_index⟩ : Records) = ⟨entries, ascending⟩ := by
    apply Table.ext_get?
    intro k
    apply Option.ext
    intro v
    rw [← Table.mem_entries_iff, ← Table.mem_entries_iff, same, mem_index_iff]
  exact congrArg Table.entries tables

end Records

namespace DiskTier

open Record

variable {c : Copy} {id n : Nat} {previous : Option Nat} {batch : Batch}

/-! ### Deletions -/

/-- The keys of the records of an identity, with that of its index record if the id is known. -/
def keysOf (identity : Octets) (id : Option Nat) : List Octets :=
  Field.all.map (key identity) ++ (id.map indexKey).toList

theorem deletion_eq (identity : Octets) (id : Option Nat) :
  deletion identity id = (keysOf identity id).map .delete
  := by
  cases id <;> rfl

@[simp]
theorem key_mem_keysOf {identity b : Octets} {id : Option Nat} {f : Field} :
  key b f ∈ keysOf identity id ↔ b = identity
  := by
  have all : f ∈ Field.all := by cases f <;> decide
  cases id with
  | none => simp [keysOf, all, eq_comm]
  | some n => simp [keysOf, all, eq_comm (a := b)]

theorem index_mem_keysOf {identity k : Octets} {id : Option Nat} (index : Indexed k) :
  k ∈ keysOf identity id ↔ k ∈ (id.map indexKey).toList
  := by
  have field : ∀ f ∈ Field.all, key identity f ≠ k := fun f _ => (index.ne_key identity f).symm
  rw [keysOf, List.mem_append, List.mem_map]
  simp only [or_iff_right_iff_imp]
  rintro ⟨f, hf, rfl⟩
  exact absurd rfl (field f hf)

@[simp]
theorem nextIdKey_not_mem_keysOf (identity : Octets) (id : Option Nat) :
  nextIdKey ∉ keysOf identity id
  := by
  cases id with
  | none => simp [keysOf]
  | some n => simp [keysOf]

theorem get?_deletion (r : Records) (identity : Octets) (id : Option Nat) (k : Octets) :
  (r.apply (deletion identity id)).get? k = if k ∈ keysOf identity id then none else r.get? k
  := by
  rw [deletion_eq, Records.get?_apply_delete]

theorem get?_key_deletion (r : Records) (identity : Octets) (id : Option Nat) (b : Octets)
    (f : Field) :
  (r.apply (deletion identity id)).get? (key b f)
    = if b = identity then none else r.get? (key b f)
  := by
  simp only [get?_deletion, key_mem_keysOf]

theorem get?_index_deletion (r : Records) (identity : Octets) (id : Option Nat) {k : Octets}
    (index : Indexed k) :
  (r.apply (deletion identity id)).get? k
    = if k ∈ (id.map indexKey).toList then none else r.get? k
  := by
  simp only [get?_deletion, index_mem_keysOf index]

/-- A deletion leaves the insertion ids of other identities alone. -/
theorem storedId_deletion (r : Records) {identity b : Octets} (id : Option Nat)
    (other : b ≠ identity) :
  (r.apply (deletion identity id)).storedId b = r.storedId b
  := by
  rw [Records.storedId, get?_key_deletion, if_neg other, Records.storedId]

theorem get?_nextIdKey_deletion (r : Records) (identity : Octets) (id : Option Nat) :
  (r.apply (deletion identity id)).get? nextIdKey = r.get? nextIdKey
  := by
  rw [get?_deletion, if_neg (nextIdKey_not_mem_keysOf identity id)]

/-- The keys that an eviction deletes. -/
def evictedKeys (key identity : Octets) : List Octets :=
  key :: if (Identity.decode identity).toOption.isSome then keysOf identity none else []

theorem get?_eviction (r : Records) (key identity k : Octets) :
  (r.apply (eviction key identity)).get? k
    = if k ∈ evictedKeys key identity then none else r.get? k
  := by
  rw [← Records.get?_apply_delete, eviction, evictedKeys]
  split
  · rw [deletion_eq, List.map_cons]
  · rfl

theorem index_mem_evictedKeys {key identity k : Octets} (index : Indexed k) :
  k ∈ evictedKeys key identity ↔ k = key
  := by
  rw [evictedKeys, List.mem_cons, or_iff_left]
  split
  · simp [index_mem_keysOf index]
  · simp

theorem get?_key_eviction (r : Records) {k identity : Octets} (index : Indexed k) (b : Octets)
    (f : Field) :
  (r.apply (eviction k identity)).get? (key b f)
    = if (Identity.decode identity).toOption.isSome ∧ b = identity then none
      else r.get? (key b f)
  := by
  have notIndex := (index.ne_key b f).symm
  rw [get?_eviction, evictedKeys]
  cases (Identity.decode identity).toOption.isSome with
  | false => simp [notIndex]
  | true => simp [notIndex]

/-! ### Insertions -/

/-- What a field of a stored copy holds. -/
def value (id : Nat) (c : Copy) : Field → Octets
  | .id => encodeId id
  | .content => c.content
  | .time => timeOctets c.modified
  | .headers => c.headers.encode

@[simp]
theorem value_settled (id : Nat) (c : Copy) (f : Field) :
  value id c.settled f = value id c f
  := by
  cases f with
  | time => exact timeOctets_settled c.modified
  | id => rfl
  | content => rfl
  | headers => rfl

/-- The changes that store a copy. -/
def placement (c : Copy) (id : Nat) (previous : Option Nat) : Batch :=
  (previous.map indexKey).toList.map .delete
    ++ Field.all.map (fun f => .put (key c.identity.encode f) (value id c f))
    ++ [.put (indexKey id) c.identity.encode, .put nextIdKey (encodeId (id + 1))]

/-- A copy is stored if its time is storable. -/
theorem insertion_eq (c : Copy) (id : Nat) (previous : Option Nat) :
  insertion c id previous
    = if c.modified.Storable then .ok (placement c id previous)
      else .error (.storage (.timeRange c.modified))
  := by
  rw [insertion, encodeTime_eq]
  by_cases h : c.modified.Storable
  · simp only [h, if_true, bind, Except.bind]
    cases previous <;> rfl
  · simp only [h, if_false, bind, Except.bind]

theorem insertion_eq_ok_iff :
  insertion c id previous = .ok batch ↔ c.modified.Storable ∧ placement c id previous = batch
  := by
  rw [insertion_eq]
  by_cases h : c.modified.Storable
  · rw [if_pos h, Except.ok.injEq]
    exact (and_iff_right h).symm
  · rw [if_neg h]
    simp [h]

theorem insertion_eq_error_iff {fault : Fault} :
  insertion c id previous = .error fault
    ↔ ¬ c.modified.Storable ∧ .storage (.timeRange c.modified) = fault
  := by
  rw [insertion_eq]
  by_cases h : c.modified.Storable
  · rw [if_pos h]
    simp [h]
  · rw [if_neg h, Except.error.injEq]
    exact (and_iff_right h).symm

theorem not_storable_of_insertion {fault : Fault} (h : insertion c id previous = .error fault) :
  ¬ c.modified.Storable
  := (insertion_eq_error_iff.1 h).1

/-- The records before the last two changes of an insertion, at a key that these do not concern. -/
private theorem get?_placement_fields (r : Records) {k : Octets} (index : k ≠ indexKey id)
    (mark : k ≠ nextIdKey) :
  (r.apply (placement c id previous)).get? k
    = ((r.apply ((previous.map indexKey).toList.map .delete)).apply
        (Field.all.map fun f => .put (key c.identity.encode f) (value id c f))).get? k
  := by
  rw [placement, Records.apply_append, Records.apply_append]
  simp only [Records.apply, List.foldl_cons, List.foldl_nil, Records.change]
  rw [Table.get?_insert, if_neg (Ne.symm mark), Table.get?_insert, if_neg (Ne.symm index)]

theorem get?_key_placement (r : Records) (b : Octets) (f : Field) :
  (r.apply (placement c id previous)).get? (key b f)
    = if b = c.identity.encode then some (value id c f) else r.get? (key b f)
  := by
  have former : key b f ∉ (previous.map indexKey).toList := by cases previous <;> simp
  rw [get?_placement_fields r (by simp) (by simp)]
  by_cases h : b = c.identity.encode
  · subst h
    simp only [Records.apply, Field.all, List.map_cons, List.map_nil, List.foldl_cons,
      List.foldl_nil, Records.change, Table.get?_insert, key_inj]
    cases f <;> simp
  · have kept := Records.get?_apply_delete r (previous.map indexKey).toList (key b f)
    rw [if_neg former] at kept
    rw [if_neg h, ← kept]
    simp only [Records.apply, Field.all, List.map_cons, List.map_nil, List.foldl_cons,
      List.foldl_nil, Records.change, Table.get?_insert, key_inj, Ne.symm h, false_and, if_false]

theorem get?_index_placement (r : Records) {k : Octets} (index : Indexed k) :
  (r.apply (placement c id previous)).get? k
    = if k = indexKey id then some c.identity.encode
      else if k ∈ (previous.map indexKey).toList then none
      else r.get? k
  := by
  by_cases h : k = indexKey id
  · rw [if_pos h, h, placement, Records.apply_append]
    simp only [Records.apply, List.foldl_cons, List.foldl_nil, Records.change]
    rw [Table.get?_insert, if_neg (by simp), Table.get?_insert, if_pos rfl]
  · have field : ∀ b f, key b f ≠ k := fun b f => (index.ne_key b f).symm
    rw [if_neg h, get?_placement_fields r h index.ne_nextIdKey, ← Records.get?_apply_delete]
    simp only [Records.apply, Field.all, List.map_cons, List.map_nil, List.foldl_cons,
      List.foldl_nil, Records.change, Table.get?_insert, field, if_false]

theorem get?_nextIdKey_placement (r : Records) :
  (r.apply (placement c id previous)).get? nextIdKey = some (encodeId (id + 1))
  := by
  rw [placement, Records.apply_append]
  simp only [Records.apply, List.foldl_cons, List.foldl_nil, Records.change]
  rw [Table.get?_insert, if_pos rfl]

/-- The batch of a replacement stores the demoted copy, if there is one. -/
theorem get?_key_replacement {r : Records} {n added : Nat} {demoted : Option Copy}
    (made : r.replacement n demoted = .ok (batch, added)) (s : Records) (b : Octets) (f : Field) :
  (s.apply batch).get? (key b f)
    = (demoted.filter fun v => v.identity.encode = b).elim (s.get? (key b f))
        fun v => some (value n v f)
  := by
  cases demoted with
  | none =>
      obtain ⟨rfl, -⟩ := Prod.mk.inj (Except.ok.inj made)
      rfl
  | some v =>
      obtain ⟨previous, -, made⟩ := exists_of_bind_eq_ok made
      obtain ⟨placed, changes, made⟩ := exists_of_bind_eq_ok made
      obtain ⟨rfl, -⟩ := Prod.mk.inj (Except.ok.inj made)
      obtain ⟨-, rfl⟩ := insertion_eq_ok_iff.1 changes
      rw [get?_key_placement, Option.filter_some]
      by_cases same : b = v.identity.encode
      · simp [same]
      · simp [same, Ne.symm same]

end DiskTier

end SiteCache
