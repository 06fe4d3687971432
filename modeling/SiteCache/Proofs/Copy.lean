import SiteCache.Copy
import Mathlib.Data.List.Nodup
import Mathlib.Tactic.Common

/-!
# Lists of copies

Both tiers list their copies, the RAM tier by use and the disk tier by insertion.  `Copy.of?` looks
an identity up in such a list, and `Copy.others` takes an identity out of it.
-/

namespace SiteCache

deriving instance DecidableEq for Table
deriving instance DecidableEq for Copy

/-- Where keys are distinct, a search for a key finds the element that has it. -/
theorem find?_key_eq_some_iff {α κ : Type} [DecidableEq κ] {key : α → κ} {xs : List α}
    (distinct : (xs.map key).Nodup) {k : κ} {x : α} :
  xs.find? (fun x => key x = k) = some x ↔ x ∈ xs ∧ key x = k
  := by
  constructor
  · intro found
    exact ⟨List.mem_of_find?_eq_some found, by simpa using List.find?_some found⟩
  · rintro ⟨hx, rfl⟩
    cases found : xs.find? fun y => key y = key x with
    | none =>
        have := List.find?_eq_none.1 found x hx
        simp at this
    | some y =>
        have same : key y = key x := by simpa using List.find?_some found
        rw [List.inj_on_of_nodup_map distinct (List.mem_of_find?_eq_some found) hx same]

namespace Copy

variable {i j : Identity} {copies : List Copy} {c : Copy}

/-- A copy of a single octet, without headers, that was taken at the epoch. -/
def ofOctet (resource : String) (o : UInt8) : Copy :=
  ⟨⟨"", resource⟩, [o], Time.ofNanoseconds 0, .empty⟩

/-- The copies of the other identities, in unchanged order. -/
def others (i : Identity) (copies : List Copy) : List Copy :=
  copies.filter fun c => c.identity ≠ i

/-- The first copy of an identity. -/
def of? (i : Identity) (copies : List Copy) : Option Copy :=
  copies.find? fun c => c.identity = i

/-- A list of so many copies at most has no room for another identity. -/
def Crowded (capacity : Nat) (i : Identity) (copies : List Copy) : Prop :=
  of? i copies = none ∧ capacity ≤ copies.length

instance (capacity : Nat) (i : Identity) (copies : List Copy) :
    Decidable (Crowded capacity i copies) :=
  decidable_of_iff ((of? i copies).isNone ∧ capacity ≤ copies.length) (by simp [Crowded])

/-- The copies that stay when room is made for an identity at the cost of the first copy. -/
def kept (capacity : Nat) (i : Identity) (copies : List Copy) : List Copy :=
  if Crowded capacity i copies then copies.tail else copies

/-- The identity that loses its copy when room is made. -/
def dropped (capacity : Nat) (i : Identity) (copies : List Copy) : Option Identity :=
  if Crowded capacity i copies then copies.head?.map identity else none

/-- The copies that stay when room is made for one more at the cost of the first copy. -/
def spared (capacity : Nat) (copies : List Copy) : List Copy :=
  if capacity ≤ copies.length then copies.tail else copies

/-- The list after the copy of an identity was put at the end, if there is one. -/
def moved (c : Option Copy) (copies : List Copy) : List Copy :=
  match c with
  | some c => others c.identity copies ++ [c]
  | none => copies

@[simp]
theorem mem_others :
  c ∈ others i copies ↔ c ∈ copies ∧ c.identity ≠ i
  := by
  simp [others]

theorem others_subset (i : Identity) (copies : List Copy) :
  others i copies ⊆ copies
  := by
  intro c hc
  exact (mem_others.1 hc).1

theorem of?_others (i : Identity) (copies : List Copy) :
  of? i (others i copies) = none
  := by
  simp [of?, others]

theorem of?_others_of_ne (other : j ≠ i) (copies : List Copy) :
  of? j (others i copies) = of? j copies
  := by
  rw [of?, others, List.find?_filter, of?]
  congr 1
  funext c
  by_cases same : c.identity = j
  · simp [same, other]
  · simp [same]

theorem of?_cons (c : Copy) (copies : List Copy) :
  of? i (c :: copies) = if c.identity = i then some c else of? i copies
  := by
  rw [of?, List.find?_cons, of?]
  by_cases same : c.identity = i
  · simp [same]
  · simp [same]

theorem of?_append (before behind : List Copy) :
  of? i (before ++ behind) = (of? i before).or (of? i behind)
  := List.find?_append

theorem of?_eq_none_iff :
  of? i copies = none ↔ ∀ c ∈ copies, c.identity ≠ i
  := by
  simp [of?]

theorem of?_tail_eq_none (h : of? i copies = none) :
  of? i copies.tail = none
  := by
  apply of?_eq_none_iff.2
  intro c hc
  exact of?_eq_none_iff.1 h c (List.mem_of_mem_tail hc)

theorem others_eq_self (h : of? i copies = none) :
  others i copies = copies
  := by
  apply List.filter_eq_self.2
  intro c hc
  simpa using of?_eq_none_iff.1 h c hc

theorem isSome_of? (i : Identity) (copies : List Copy) :
  (of? i copies).isSome = decide (i ∈ copies.map identity)
  := by
  rw [Bool.eq_iff_iff, decide_eq_true_eq, of?, List.find?_isSome, List.mem_map]
  simp

theorem of?_eq_some_iff (distinct : (copies.map identity).Nodup) :
  of? i copies = some c ↔ c ∈ copies ∧ c.identity = i
  := find?_key_eq_some_iff distinct

theorem kept_eq_spared {capacity : Nat} (h : of? i copies = none) :
  kept capacity i copies = spared capacity copies
  := by
  have crowded : Crowded capacity i copies ↔ capacity ≤ copies.length := by
    rw [Crowded]
    exact and_iff_right h
  simp only [kept, spared, crowded]

theorem mem_of_mem_kept {capacity : Nat} (h : c ∈ kept capacity i copies) :
  c ∈ copies
  := by
  rw [kept] at h
  split at h
  · exact List.mem_of_mem_tail h
  · exact h

theorem mem_of_mem_spared {capacity : Nat} (h : c ∈ spared capacity copies) :
  c ∈ copies
  := by
  rw [spared] at h
  split at h
  · exact List.mem_of_mem_tail h
  · exact h

/-- A copy that moves to the end of a list is found as before. -/
theorem of?_moved (distinct : (copies.map identity).Nodup) (hc : c ∈ copies) (j : Identity) :
  of? j (others c.identity copies ++ [c]) = of? j copies
  := by
  have found := (of?_eq_some_iff distinct).2 ⟨hc, rfl⟩
  rw [of?_append, of?_cons]
  by_cases same : c.identity = j
  · rw [← same, of?_others, if_pos rfl, found]
    rfl
  · rw [of?_others_of_ne (Ne.symm same), if_neg same]
    exact Option.or_none

/-- A copy that moves to the end of a list leaves the same copies in it. -/
theorem perm_moved (distinct : (copies.map identity).Nodup) (hc : c ∈ copies) :
  (others c.identity copies ++ [c]).Perm copies
  := by
  have within := distinct.of_map
  apply (List.perm_ext_iff_of_nodup _ within).2
  · intro d
    simp only [List.mem_append, mem_others, List.mem_singleton]
    constructor
    · rintro (⟨hd, -⟩ | rfl)
      · exact hd
      · exact hc
    · intro hd
      by_cases same : d.identity = c.identity
      · exact .inr (List.inj_on_of_nodup_map distinct hd hc same)
      · exact .inl ⟨hd, same⟩
  · apply List.Nodup.append (within.filter _) (List.nodup_singleton c)
    simp

/-- When the first copy has left a list, the others are found as before. -/
theorem of?_tail (distinct : ((c :: copies).map identity).Nodup) (j : Identity) :
  of? j copies = if j = c.identity then none else of? j (c :: copies)
  := by
  rw [of?_cons]
  by_cases same : j = c.identity
  · rw [if_pos same, same]
    apply of?_eq_none_iff.2
    intro d hd again
    exact (List.nodup_cons.1 distinct).1 (List.mem_map.2 ⟨d, hd, again⟩)
  · rw [if_neg same, if_neg (Ne.symm same)]

theorem length_others_le (i : Identity) (copies : List Copy) :
  (others i copies).length ≤ copies.length
  := List.length_filter_le _ copies

theorem mem_of_of?_eq_some (h : of? i copies = some c) :
  c ∈ copies ∧ c.identity = i
  := ⟨List.mem_of_find?_eq_some h, by simpa using List.find?_some h⟩

/-- The list without an identity that has a copy in it is shorter. -/
theorem length_others_lt (hc : c ∈ copies) :
  (others c.identity copies).length < copies.length
  := by
  apply List.length_filter_lt_length_iff_exists.2
  exact ⟨c, hc, by simp⟩

theorem length_spared_le (capacity : Nat) (copies : List Copy) :
  (spared capacity copies).length ≤ copies.length
  := by
  rw [spared]
  split
  · rw [List.length_tail]
    omega
  · apply Nat.le_refl

theorem length_kept_le (capacity : Nat) (i : Identity) (copies : List Copy) :
  (kept capacity i copies).length ≤ copies.length
  := by
  rw [kept]
  split
  · rw [List.length_tail]
    apply Nat.sub_le
  · apply Nat.le_refl

/-- Room is made for one more copy, but no more room than that. -/
theorem length_spared_lt {capacity : Nat} (room : 0 < capacity) (copies : List Copy) :
  (spared capacity copies).length < max copies.length capacity
  := by
  rw [spared]
  split
  · rw [List.length_tail]
    omega
  · omega

theorem of?_spared {capacity : Nat} (h : of? i copies = none) :
  of? i (spared capacity copies) = none
  := by
  apply of?_eq_none_iff.2
  intro c hc
  exact of?_eq_none_iff.1 h c (mem_of_mem_spared hc)

theorem moved_some (h : of? c.identity copies = none) :
  moved (some c) copies = copies ++ [c]
  := by
  rw [moved, others_eq_self h]

/-- An identity has one copy among those with distinct identities. -/
theorem length_others (distinct : (copies.map identity).Nodup) (hc : c ∈ copies) :
  (others c.identity copies).length + 1 = copies.length
  := by
  induction copies with
  | nil => cases hc
  | cons d copies ih =>
      obtain ⟨apart, distinct⟩ := List.nodup_cons.1 distinct
      rcases List.mem_cons.1 hc with rfl | hc
      · have absent : of? c.identity copies = none := by
          apply of?_eq_none_iff.2
          intro d hd same
          exact apart (List.mem_map.2 ⟨d, hd, same⟩)
        have rest := others_eq_self absent
        rw [others] at rest ⊢
        rw [List.filter_cons_of_neg (by simp), rest, List.length_cons]
      · have other : d.identity ≠ c.identity := by
          intro same
          exact apart (List.mem_map.2 ⟨c, hc, same.symm⟩)
        have shorter := ih distinct hc
        rw [others] at shorter ⊢
        rw [List.filter_cons_of_pos (by simpa using other), List.length_cons, List.length_cons,
          shorter]

theorem length_moved_le (c : Option Copy) (copies : List Copy) :
  (moved c copies).length ≤ copies.length + 1
  := by
  cases c with
  | none => apply Nat.le_succ
  | some c =>
      rw [moved, List.length_append, List.length_singleton]
      apply Nat.succ_le_succ
      apply length_others_le

/-- A copy that goes to the back of a list with so much room makes it longer if its identity is new
and there is room left, and not otherwise. -/
theorem length_moved_kept {capacity : Nat} (distinct : (copies.map identity).Nodup)
    (room : 0 < capacity) (c : Copy) :
  (moved (some c) (kept capacity c.identity copies)).length
    = if of? c.identity copies = none ∧ copies.length < capacity then copies.length + 1
      else copies.length
  := by
  cases found : of? c.identity copies with
  | some old =>
      obtain ⟨stored, same⟩ := mem_of_of?_eq_some found
      have roomy : ¬ Crowded capacity c.identity copies := by simp [Crowded, found]
      have shorter := length_others distinct stored
      rw [same] at shorter
      rw [kept, if_neg roomy, moved, List.length_append, List.length_singleton, shorter]
      simp
  | none =>
      rw [kept_eq_spared found, moved_some (of?_spared found), List.length_append,
        List.length_singleton, spared]
      by_cases full : capacity ≤ copies.length
      · rw [if_pos full, List.length_tail]
        simp only [true_and, Nat.not_lt.2 full, if_false]
        omega
      · rw [if_neg full]
        simp only [true_and, Nat.lt_of_not_le full, if_true]

end Copy

end SiteCache
