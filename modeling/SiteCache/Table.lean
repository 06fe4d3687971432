/-!
# Ordered tables

A `Table` maps keys to values and lists its entries by strictly ascending key, so that two
tables with the same values are equal (`Table.ext_get?`).  `get?`, `insert` and `erase` are the
operations on single keys; `ofList` inserts one pair after another, the later one winning.  Keys are
of types whose order is linear (`KeyOrder`): texts, and lists of such keys in lexicographic order.
-/

namespace SiteCache

/-- A strict linear order. -/
class KeyOrder (κ : Type) [LT κ] : Prop where
  irrefl (a : κ) : ¬ a < a
  trans {a b c : κ} : a < b → b < c → a < c
  connected (a b : κ) : a < b ∨ a = b ∨ b < a

instance : KeyOrder UInt8 where
  irrefl _ := UInt8.lt_irrefl _
  trans h k := UInt8.lt_trans h k
  connected a b := by
    simp only [UInt8.lt_iff_toNat_lt, ← UInt8.toNat_inj]
    omega

instance : KeyOrder String where
  irrefl _ := String.lt_irrefl _
  trans h k := String.lt_trans h k
  connected a b := by
    by_cases ab : a < b
    · exact .inl ab
    · by_cases ba : b < a
      · exact .inr (.inr ba)
      · exact .inr (.inl (String.le_antisymm ba ab))

/-- Lists of ordered keys are ordered by the first key in which they differ; the beginning of a list is
below it. -/
theorem KeyOrder.list (κ : Type) [LT κ] [DecidableEq κ] [DecidableLT κ] [o : KeyOrder κ] :
  KeyOrder (List κ)
  := by
  have : Std.Irrefl (α := κ) (· < ·) := ⟨o.irrefl⟩
  refine ⟨List.lt_irrefl, fun h k => ?_, fun a => ?_⟩
  · exact @List.lt_trans κ _ ⟨fun h k => o.trans h k⟩ _ _ _ h k
  · induction a with
    | nil =>
      intro b
      cases b with
      | nil => exact .inr (.inl rfl)
      | cons y ys => exact .inl (List.nil_lt_cons y ys)
    | cons x xs ih =>
      intro b
      cases b with
      | nil => exact .inr (.inr (List.nil_lt_cons x xs))
      | cons y ys =>
        simp only [List.cons_lt_cons_iff, List.cons.injEq]
        rcases o.connected x y with h | h | h
        · exact .inl (.inl h)
        · rcases ih ys with k | k | k
          · exact .inl (.inr ⟨h, k⟩)
          · exact .inr (.inl ⟨h, k⟩)
          · exact .inr (.inr (.inr ⟨h.symm, k⟩))
        · exact .inr (.inr (.inl h))

instance : KeyOrder (List UInt8) := KeyOrder.list UInt8
instance : KeyOrder (List String) := KeyOrder.list String

/-- A finite map whose entries are held in strictly ascending order of their keys. -/
structure Table (κ ν : Type) [LT κ] where
  entries : List (κ × ν)
  ascending : entries.Pairwise (fun x y => x.1 < y.1)

namespace Table

variable {κ ν : Type} [LT κ]

/-- The table without entries. -/
def empty : Table κ ν := ⟨[], .nil⟩

instance : EmptyCollection (Table κ ν) := ⟨empty⟩
instance : Inhabited (Table κ ν) := ⟨empty⟩

/-- The number of keys. -/
def size (t : Table κ ν) : Nat := t.entries.length

/-- The keys in ascending order. -/
def keys (t : Table κ ν) : List κ := t.entries.map Prod.fst

/-- The table is empty. -/
def isEmpty (t : Table κ ν) : Bool := t.entries.isEmpty

variable [DecidableEq κ]

/-- The value of a key. -/
def get? (t : Table κ ν) (k : κ) : Option ν :=
  (t.entries.find? (fun x => x.1 = k)).map Prod.snd

@[simp]
theorem get?_empty (k : κ) :
  (empty : Table κ ν).get? k = none
  := rfl

/-- The key has a value. -/
def contains (t : Table κ ν) (k : κ) : Bool := (t.get? k).isSome

/-- The table without a key. -/
def erase (t : Table κ ν) (k : κ) : Table κ ν :=
  ⟨t.entries.filter (fun x => x.1 ≠ k), t.ascending.filter _⟩

/-- The entries whose value satisfies a test. -/
def filter (t : Table κ ν) (p : ν → Bool) : Table κ ν :=
  ⟨t.entries.filter (fun x => p x.2), t.ascending.filter _⟩

theorem get?_erase (t : Table κ ν) (k j : κ) :
  (t.erase k).get? j = if k = j then none else t.get? j
  := by
  simp only [get?, erase, List.find?_filter]
  by_cases h : k = j
  · subst h
    simp
  · have same : (fun x : κ × ν => decide (decide (x.1 ≠ k) = true ∧ decide (x.1 = j) = true))
        = fun x => decide (x.1 = j) := by
      funext x
      by_cases hx : x.1 = j
      · simp [hx, Ne.symm h]
      · simp [hx]
    simp only [same, h, if_false]

variable [DecidableLT κ]

/-- Puts a pair into an ascending list, before the first entry with a larger key and in place of
one with the same key. -/
def place (k : κ) (v : ν) : List (κ × ν) → List (κ × ν)
  | [] => [(k, v)]
  | x :: rest =>
    if x.1 < k then x :: place k v rest
    else if x.1 = k then (k, v) :: rest
    else (k, v) :: x :: rest

theorem mem_place {k : κ} {v : ν} {x : κ × ν} {entries : List (κ × ν)}
    (h : x ∈ place k v entries) :
  x = (k, v) ∨ x ∈ entries
  := by
  induction entries with
  | nil => simpa [place] using h
  | cons y rest ih =>
    simp only [place] at h
    split at h
    · rcases List.mem_cons.1 h with h | h
      · simp [h]
      · rcases ih h with h | h <;> simp [h]
    · split at h
      · rcases List.mem_cons.1 h with h | h <;> simp [h]
      · rcases List.mem_cons.1 h with h | h
        · simp [h]
        · exact .inr h

variable [KeyOrder κ]

theorem pairwise_place (k : κ) (v : ν) {entries : List (κ × ν)}
    (h : entries.Pairwise (fun x y => x.1 < y.1)) :
  (place k v entries).Pairwise (fun x y => x.1 < y.1)
  := by
  induction entries with
  | nil => simp [place]
  | cons y rest ih =>
    obtain ⟨below, ordered⟩ := List.pairwise_cons.1 h
    simp only [place]
    split
    next lt =>
      refine List.pairwise_cons.2 ⟨fun x hx => ?_, ih ordered⟩
      rcases mem_place hx with rfl | hx
      · exact lt
      · exact below x hx
    next nlt =>
      split
      next eq => exact List.pairwise_cons.2 ⟨fun x hx => eq ▸ below x hx, ordered⟩
      next ne =>
        have lt : k < y.1 := by
          rcases KeyOrder.connected k y.1 with h | h | h
          · exact h
          · exact absurd h.symm ne
          · exact absurd h nlt
        refine List.pairwise_cons.2 ⟨fun x hx => ?_, h⟩
        rcases List.mem_cons.1 hx with rfl | hx
        · exact lt
        · exact KeyOrder.trans lt (below x hx)

/-- The table in which a key has this value and every other key the one it had. -/
def insert (t : Table κ ν) (k : κ) (v : ν) : Table κ ν :=
  ⟨place k v t.entries, pairwise_place k v t.ascending⟩

private theorem find?_place (k j : κ) (v : ν) (entries : List (κ × ν)) :
  (place k v entries).find? (fun x => x.1 = j)
    = if k = j then some (k, v) else entries.find? (fun x => x.1 = j)
  := by
  induction entries with
  | nil => simp only [place, List.find?_cons, List.find?_nil]; split <;> simp_all
  | cons y rest ih =>
    simp only [place]
    split
    next lt =>
      by_cases hy : y.1 = j
      · have hk : ¬ k = j := by
          rintro rfl
          exact (KeyOrder.irrefl _) (hy ▸ lt)
        simp [hy, hk]
      · simp [hy, ih]
    next =>
      split
      next eq => by_cases hk : k = j <;> simp [hk, eq]
      next => by_cases hk : k = j <;> simp [hk]

theorem get?_insert (t : Table κ ν) (k j : κ) (v : ν) :
  (t.insert k v).get? j = if k = j then some v else t.get? j
  := by
  simp only [get?, insert, find?_place]
  split <;> simp

omit [DecidableLT κ] in
theorem mem_entries_iff (t : Table κ ν) (k : κ) (v : ν) :
  (k, v) ∈ t.entries ↔ t.get? k = some v
  := by
  obtain ⟨entries, ascending⟩ := t
  simp only [get?]
  induction entries with
  | nil => simp
  | cons y rest ih =>
    obtain ⟨below, ordered⟩ := List.pairwise_cons.1 ascending
    by_cases h : y.1 = k
    · have fresh : (k, v) ∉ rest := fun m => (KeyOrder.irrefl _) (h ▸ below _ m)
      have pair : (k, v) = y ↔ y.2 = v := by
        constructor
        · rintro rfl
          rfl
        · rintro rfl
          exact Prod.ext h.symm rfl
      simp [h, fresh, pair]
    · have other : (k, v) ≠ y := fun e => h (e ▸ rfl)
      simp [h, other, ih ordered]

omit [DecidableLT κ] in
theorem get?_filter (t : Table κ ν) (p : ν → Bool) (k : κ) :
  (t.filter p).get? k = (t.get? k).filter p
  := by
  apply Option.ext
  intro v
  rw [← mem_entries_iff, Option.filter_eq_some_iff, ← mem_entries_iff, filter, List.mem_filter]

omit [DecidableLT κ] in
/-- A table is determined by the values of its keys. -/
theorem ext_get? {s t : Table κ ν} (h : ∀ k, s.get? k = t.get? k) :
  s = t
  := by
  have member : ∀ x, x ∈ s.entries ↔ x ∈ t.entries := fun x => by
    rw [mem_entries_iff s x.1 x.2, mem_entries_iff t x.1 x.2, h]
  obtain ⟨xs, hs⟩ := s
  obtain ⟨ys, ht⟩ := t
  simp only [mk.injEq]
  simp only at member
  clear h
  induction xs generalizing ys with
  | nil => cases ys with
    | nil => rfl
    | cons y ys => exact absurd ((member y).2 List.mem_cons_self) (by simp)
  | cons x xs ih =>
    cases ys with
    | nil => exact absurd ((member x).1 List.mem_cons_self) (by simp)
    | cons y ys =>
      obtain ⟨hx, hxs⟩ := List.pairwise_cons.1 hs
      obtain ⟨hy, hys⟩ := List.pairwise_cons.1 ht
      have head : x = y := by
        rcases List.mem_cons.1 ((member x).1 List.mem_cons_self) with e | mx
        · exact e
        · rcases List.mem_cons.1 ((member y).2 List.mem_cons_self) with e | my
          · exact e.symm
          · exact absurd (KeyOrder.trans (hy x mx) (hx y my)) (KeyOrder.irrefl _)
      subst head
      congr 1
      refine ih hxs ys hys (fun z => ?_)
      have hz := member z
      simp only [List.mem_cons] at hz
      constructor
      · intro m
        rcases hz.1 (.inr m) with rfl | m'
        · exact absurd (hx z m) (KeyOrder.irrefl _)
        · exact m'
      · intro m
        rcases hz.2 (.inr m) with rfl | m'
        · exact absurd (hy z m) (KeyOrder.irrefl _)
        · exact m'

/-- The table of a list of pairs; of two pairs with the same key the later one counts. -/
def ofList (pairs : List (κ × ν)) : Table κ ν :=
  pairs.foldl (fun t x => t.insert x.1 x.2) empty

omit [KeyOrder κ] in
theorem place_of_forall_lt {k : κ} (v : ν) {entries : List (κ × ν)}
    (below : ∀ x ∈ entries, x.1 < k) :
  place k v entries = entries ++ [(k, v)]
  := by
  induction entries with
  | nil => rfl
  | cons y rest ih =>
    obtain ⟨first, others⟩ := List.forall_mem_cons.1 below
    simp [place, first, ih others]

theorem entries_foldl_insert (pairs : List (κ × ν)) (t : Table κ ν)
    (h : (t.entries ++ pairs).Pairwise (fun x y => x.1 < y.1)) :
  (pairs.foldl (fun t x => t.insert x.1 x.2) t).entries = t.entries ++ pairs
  := by
  induction pairs generalizing t with
  | nil => simp
  | cons x rest ih =>
    have below : ∀ y ∈ t.entries, y.1 < x.1 := fun y hy =>
      (List.pairwise_append.1 h).2.2 y hy x List.mem_cons_self
    have last : (t.insert x.1 x.2).entries = t.entries ++ [x] :=
      place_of_forall_lt x.2 below
    rw [List.foldl_cons, ih, last, List.append_assoc, List.singleton_append]
    rwa [last, List.append_assoc, List.singleton_append]

/-- The entries of a table list it. -/
theorem ofList_entries (t : Table κ ν) :
  ofList t.entries = t
  := by
  have same : (ofList t.entries).entries = t.entries := by
    rw [ofList, entries_foldl_insert]
    · rfl
    · exact t.ascending
  generalize ofList t.entries = u at same
  cases t
  cases u
  simpa using same

end Table

end SiteCache
