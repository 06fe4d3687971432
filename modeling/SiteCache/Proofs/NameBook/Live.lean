import SiteCache.NameBook
import Mathlib.Data.List.Basic
import Mathlib.Tactic.Common

/-!
# The live names of a name book

An ideal list of names, `LiveNames`, forgets a name as soon as its time is over, and gives up the
least recently used one only for a new name and only when it is full of live ones.  A name book
keeps expired names among the others until it comes across them.  What a look-up or an entry does
to the live names of a book, `NameBook.live`, depends on nothing but these, and is what it does to
an ideal list (`NameBook.lookup_eq`, `NameBook.live_pushed`): where room is made, expired names go
first (`NameBook.room_of_purge`, `NameBook.mem_pushed`).
-/

namespace SiteCache

open Clock (Lease)

/-! ### Room in recency lists -/

namespace Recency

variable {κ ν : Type} [DecidableEq κ] {r : Recency κ ν} {k : κ} {v : ν}

/-- A key that is not in the list is not taken out of it. -/
theorem entries_erase_of_absent (absent : r.peek k = none) :
  (r.erase k).entries = r.entries
  := by
  apply List.filter_eq_self.2
  intro x hx
  have other : x.1 ≠ k := by
    rintro rfl
    rw [peek_of_mem hx] at absent
    cases absent
  simpa using other

/-- A key that is taken out of the list leaves room for another one. -/
theorem length_erase_lt (found : r.peek k = some v) :
  (r.erase k).entries.length < r.capacity
  := by
  have shorter : (r.erase k).entries.length < r.entries.length := by
    apply List.length_filter_lt_length_iff_exists.2
    exact ⟨(k, v), mem_of_peek found, by simp⟩
  exact Nat.lt_of_lt_of_le shorter r.bounded

/-- Where there is room, nothing but the key itself is pushed out. -/
theorem entries_push_of_room (room : (r.erase k).entries.length < r.capacity) (v : ν) :
  (r.push k v).entries = (k, v) :: (r.erase k).entries
  := by
  change (k, v) :: (r.erase k).entries.take (r.capacity - 1) = _
  rw [List.take_of_length_le (Nat.le_sub_one_of_lt room)]

/-- A key that is there comes to the front of the others. -/
theorem entries_touch (found : r.peek k = some v) :
  (r.touch k).entries = (k, v) :: (r.erase k).entries
  := by
  rw [touch, found]
  exact entries_push_of_room (length_erase_lt found) v

end Recency

/-! ### Ideal lists of names -/

/-- Names with their leases, the most recently used one first, and room for so many live ones. -/
structure LiveNames where
  lifetime : Nat
  capacity : Nat
  names : List (String × Lease String) := []

namespace LiveNames

/-- The leases that have not expired. -/
def remaining (now : Nat) (l : LiveNames) : List (String × Lease String) :=
  l.names.filter fun x => x.2.isLive now

/-- The lease of a name. -/
def lease? (name : String) (leases : List (String × Lease String)) :
    Option (String × Lease String) :=
  leases.find? fun x => x.1 = name

/-- The leases of the other names, in unchanged order. -/
def others (name : String) (leases : List (String × Lease String)) :
    List (String × Lease String) :=
  leases.filter fun x => x.1 ≠ name

/-- The leases that stay when a name is entered: a new name takes the place of the least recently
used one if there are as many as there is room for. -/
def kept (capacity : Nat) (name : String) (leases : List (String × Lease String)) :
    List (String × Lease String) :=
  match lease? name leases with
  | some _ => others name leases
  | none => if leases.length = capacity then leases.dropLast else leases

/-- The address of a live name, which becomes the most recently used one. -/
def get (now : Nat) (name : String) (l : LiveNames) : Option String × LiveNames :=
  match lease? name (l.remaining now) with
  | some x => (some x.2.value, { l with names := x :: others name (l.remaining now) })
  | none => (none, { l with names := l.remaining now })

/-- Enters an address for a name from now on; the name becomes the most recently used one. -/
def set (now : Nat) (name address : String) (l : LiveNames) : LiveNames :=
  let entered := (name, ⟨address, now + l.lifetime⟩)
  { l with names := entered :: kept l.capacity name (l.remaining now) }

variable {leases : List (String × Lease String)} {name : String} {x : String × Lease String}

theorem mem_others :
  x ∈ others name leases ↔ x ∈ leases ∧ x.1 ≠ name
  := by
  simp [others]

theorem others_eq_self (absent : lease? name leases = none) :
  others name leases = leases
  := by
  apply List.filter_eq_self.2
  simpa [lease?] using absent

/-- The leases of all other names stay where there is room for one more. -/
theorem kept_of_room {capacity : Nat}
    (room : lease? name leases = none → leases.length < capacity) :
  kept capacity name leases = others name leases
  := by
  rw [kept]
  split
  · rfl
  · next absent => rw [if_neg (Nat.ne_of_lt (room absent)), others_eq_self absent]

/-- A look-up does not change the bounds of a list. -/
theorem bounds_get (l : LiveNames) (now : Nat) (name : String) :
  (l.get now name).2.lifetime = l.lifetime ∧ (l.get now name).2.capacity = l.capacity
  := by
  rw [get]
  cases lease? name (l.remaining now) <;> exact ⟨rfl, rfl⟩

/-- What stays are leases of other names. -/
theorem mem_of_mem_kept {capacity : Nat} (h : x ∈ kept capacity name leases) :
  x ∈ leases ∧ x.1 ≠ name
  := by
  rw [kept] at h
  split at h
  · exact mem_others.1 h
  · next absent =>
      rw [← mem_others, others_eq_self absent]
      split at h
      · exact List.dropLast_subset _ h
      · exact h

end LiveNames

namespace NameBook

open LiveNames (lease? others kept)

variable {b : NameBook} {l : LiveNames} {now : Nat} {name address : String}
  {x y : String × Lease String}

/-! ### The live names of a book -/

/-- The names that have not expired, in the order of their use. -/
def live (now : Nat) (b : NameBook) : List (String × Lease String) :=
  b.names.entries.filter fun x => x.2.isLive now

/-- Names that have expired stay so. -/
theorem live_later {later : Nat} (ordered : now ≤ later) (leases : List (String × Lease String)) :
  (leases.filter fun x => x.2.isLive now).filter (fun x => x.2.isLive later)
    = leases.filter fun x => x.2.isLive later
  := by
  rw [List.filter_filter]
  apply List.filter_congr
  intro x _
  simp only [Lease.isLive, Bool.and_eq_left_iff_imp, decide_eq_true_eq]
  omega

theorem length_live_le (b : NameBook) (now : Nat) :
  (b.live now).length ≤ b.names.entries.length
  := List.length_filter_le _ _

/-- A name with an expired lease is not among the live ones. -/
theorem length_live_lt (hx : x ∈ b.names.entries) (expired : ¬ x.2.isLive now) :
  (b.live now).length < b.capacity
  := by
  have shorter : (b.live now).length < b.names.entries.length :=
    List.length_filter_lt_length_iff_exists.2 ⟨x, hx, expired⟩
  exact Nat.lt_of_lt_of_le shorter b.names.bounded

/-- A name is live if its lease is. -/
theorem lease?_live (b : NameBook) (now : Nat) (name : String) :
  lease? name (b.live now)
    = ((b.names.peek name).filter fun lease => lease.isLive now).map fun lease => (name, lease)
  := by
  have keyed : ∀ x ∈ b.live now, x.1 = name → b.names.peek name = some x.2 ∧ x.2.isLive now := by
    rintro x hx rfl
    obtain ⟨hx, isLive⟩ := List.mem_filter.1 hx
    exact ⟨Recency.peek_of_mem hx, isLive⟩
  cases found : lease? name (b.live now) with
  | some x =>
      have same : x.1 = name := by simpa using List.find?_some found
      obtain ⟨stored, isLive⟩ := keyed x (List.mem_of_find?_eq_some found) same
      rw [stored, Option.filter_some, if_pos isLive, ← same]
      rfl
  | none =>
      cases stored : b.names.peek name with
      | none => rfl
      | some lease =>
          have expired : ¬ lease.isLive now := by
            intro isLive
            have hx : (name, lease) ∈ b.live now :=
              List.mem_filter.2 ⟨Recency.mem_of_peek stored, isLive⟩
            simpa using List.find?_eq_none.1 found _ hx
          rw [Option.filter_some, if_neg expired]
          rfl

/-- When a name has left a book, the other live names are left. -/
theorem live_erase (b : NameBook) (now : Nat) (name : String) :
  (b.names.erase name).entries.filter (fun x => x.2.isLive now) = others name (b.live now)
  := List.filter_comm ..

/-! ### What the operations do to the live names -/

/-- A look-up answers as it does in the list of live names, where it has the same effect. -/
theorem lookup_eq (h : b.live now = l.remaining now) (name : String) :
  (b.lookup now name).1 = (l.get now name).1
    ∧ (b.lookup now name).2.live now = (l.get now name).2.names
  := by
  have same := lease?_live b now name
  rw [LiveNames.get, ← h, lookup]
  cases stored : b.names.peek name with
  | none =>
      rw [stored] at same
      rw [same]
      exact ⟨rfl, rfl⟩
  | some lease =>
      rw [stored, Option.filter_some] at same
      by_cases isLive : lease.isLive now
      · rw [if_pos isLive] at same
        rw [same]
        simp only [if_pos isLive, Option.map_some, true_and]
        rw [live, Recency.entries_touch stored, List.filter_cons_of_pos (by exact isLive),
          live_erase]
      · rw [if_neg isLive] at same
        rw [same]
        simp only [if_neg isLive, Option.map_none, true_and]
        rw [live, live_erase, LiveNames.others_eq_self same]

/-- A look-up takes no name out of a book but the one that is looked up, and that one only if it has
expired. -/
theorem mem_lookup (hx : x ∈ b.names.entries) (spared : x.1 = name → x.2.isLive now) :
  x ∈ (b.lookup now name).2.names.entries
  := by
  have left (other : x.1 ≠ name) : x ∈ (b.names.erase name).entries :=
    List.mem_filter.2 ⟨hx, by simpa using other⟩
  rw [lookup]
  cases stored : b.names.peek name with
  | none => exact hx
  | some lease =>
      have found (same : x.1 = name) : x = (name, lease) := by
        rw [← same, Recency.peek_of_mem hx] at stored
        exact Prod.ext same (Option.some.inj stored)
      by_cases isLive : lease.isLive now
      · simp only [if_pos isLive, Recency.entries_touch stored]
        by_cases same : x.1 = name
        · exact List.mem_cons.2 (.inl (found same))
        · exact List.mem_cons_of_mem _ (left same)
      · simp only [if_neg isLive]
        apply left
        intro same
        have contrary := spared same
        rw [found same] at contrary
        exact isLive contrary

/-- Room is made for a name if it is new and the book is full, and only expired names go. -/
theorem purge_cases (b : NameBook) (now : Nat) (name : String) :
  (b.names.peek name = none ∧ (b.purge now name).names.entries = b.live now)
    ∨ (b.purge now name = b ∧ (b.names.peek name = none → b.names.entries.length < b.capacity))
  := by
  rw [purge]
  split
  · next crowded => exact .inl ⟨by simpa using crowded.2, rfl⟩
  · next roomy =>
      refine .inr ⟨rfl, ?_⟩
      intro absent
      have notFull : ¬ b.names.isFull := by simpa [absent] using roomy
      rw [Recency.isFull, decide_eq_true_eq] at notFull
      exact Nat.lt_of_not_le notFull

/-- A look-up does not change the bounds of a book. -/
theorem bounds_lookup (b : NameBook) (now : Nat) (name : String) :
  (b.lookup now name).2.lifetime = b.lifetime ∧ (b.lookup now name).2.capacity = b.capacity
  := by
  rw [lookup]
  cases stored : b.names.peek name with
  | none => exact ⟨rfl, rfl⟩
  | some lease =>
      by_cases isLive : lease.isLive now
      · simp only [if_pos isLive, Recency.touch, stored, true_and]
        rfl
      · simp only [if_neg isLive, true_and]
        rfl

theorem lifetime_purge (b : NameBook) (now : Nat) (name : String) :
  (b.purge now name).lifetime = b.lifetime
  := by
  rw [purge]
  split <;> rfl

theorem capacity_purge (b : NameBook) (now : Nat) (name : String) :
  (b.purge now name).capacity = b.capacity
  := by
  rw [purge]
  split <;> rfl

/-- The live names survive when room is made. -/
theorem live_purge (b : NameBook) (now : Nat) (name : String) :
  (b.purge now name).live now = b.live now
  := by
  obtain ⟨-, purged⟩ | ⟨unchanged, -⟩ := purge_cases b now name
  · rw [live, purged]
    exact live_later (Nat.le_refl now) b.names.entries
  · rw [unchanged]

/-- After room was made, a name pushes out another one only if it is new and the book is full of
live names. -/
theorem room_of_purge (room : lease? name (b.live now) = none → (b.live now).length < b.capacity) :
  ((b.purge now name).names.erase name).entries.length < b.capacity
  := by
  have same := lease?_live b now name
  obtain ⟨absent, purged⟩ | ⟨unchanged, notFull⟩ := purge_cases b now name
  · rw [absent] at same
    apply Nat.lt_of_le_of_lt (List.length_filter_le _ _)
    rw [purged]
    exact room same
  · rw [unchanged]
    cases stored : b.names.peek name with
    | none =>
        rw [Recency.entries_erase_of_absent stored]
        exact notFull stored
    | some lease => exact Recency.length_erase_lt stored

/-- A book full of live names holds nothing else, and makes no room for a new name. -/
theorem entries_purge_of_crowded (crowded : (b.live now).length = b.capacity)
    (name : String) :
  (b.purge now name).names.entries = b.live now
  := by
  obtain ⟨-, purged⟩ | ⟨unchanged, notFull⟩ := purge_cases b now name
  · exact purged
  · have all : b.live now = b.names.entries := by
      apply List.filter_eq_self.2
      apply List.length_filter_eq_length_iff.1
      apply Nat.le_antisymm (length_live_le b now)
      exact Nat.le_trans b.names.bounded (Nat.le_of_eq crowded.symm)
    rw [unchanged, all]

/-- The book after a lease was entered for a name. -/
def pushed (now : Nat) (name : String) (lease : Lease String) (b : NameBook) : NameBook :=
  { b with names := (b.purge now name).names.push name lease }

theorem perform_enter (b : NameBook) (now : Nat) (name address : String) :
  (enter now name address).perform b
    = if now + b.lifetime < Clock.finish then
        (.ok (), b.pushed now name ⟨address, now + b.lifetime⟩)
      else (.error .clock, b)
  := by
  rw [enter, Action.perform_ofStep, Clock.expiry]
  by_cases inTime : now + b.lifetime < Clock.finish
  · simp only [if_pos inTime, lifetime_purge, pushed]
  · simp only [if_neg inTime]

/-- A name that is entered comes before those that are kept of the live ones. -/
theorem live_pushed (b : NameBook) (now : Nat) (name : String) (lease : Lease String) :
  (b.pushed now name lease).live now
    = ((name, lease) :: kept b.capacity name (b.live now)).filter fun x => x.2.isLive now
  := by
  have sameCapacity := capacity_purge b now name
  have idle : (b.live now).filter (fun x => x.2.isLive now) = b.live now :=
    live_later (Nat.le_refl now) b.names.entries
  by_cases room : lease? name (b.live now) = none → (b.live now).length < b.capacity
  · have roomy := room_of_purge room
    rw [← sameCapacity] at roomy
    rw [LiveNames.kept_of_room room, live, pushed, Recency.entries_push_of_room roomy,
      List.filter_cons, List.filter_cons, live_erase, live_purge, others, List.filter_comm, idle]
  · obtain ⟨absent, full⟩ := Classical.not_imp.1 room
    have crowded : (b.live now).length = b.capacity := by
      have := length_live_le b now
      have := b.names.bounded
      simp only [capacity] at full ⊢
      omega
    have purged := entries_purge_of_crowded crowded name
    have left : ((b.purge now name).names.erase name).entries = b.live now := by
      change others name (b.purge now name).names.entries = _
      rw [purged, LiveNames.others_eq_self absent]
    rw [kept, absent, live, pushed]
    simp only [crowded, if_true]
    change List.filter _ ((name, lease) :: ((b.purge now name).names.erase name).entries.take _) = _
    rw [left, List.dropLast_eq_take, crowded, ← sameCapacity]
    rfl

/-- An entered name takes no live one out of a book that holds an expired one. -/
theorem mem_pushed (hx : x ∈ b.names.entries) (isLive : x.2.isLive now) (other : x.1 ≠ name)
    (room : lease? name (b.live now) = none → (b.live now).length < b.capacity)
    (lease : Lease String) :
  x ∈ (b.pushed now name lease).names.entries
  := by
  have among : x ∈ (b.pushed now name lease).live now := by
    rw [live_pushed, LiveNames.kept_of_room room]
    refine List.mem_filter.2 ⟨List.mem_cons_of_mem _ ?_, isLive⟩
    exact LiveNames.mem_others.2 ⟨List.mem_filter.2 ⟨hx, isLive⟩, other⟩
  exact List.mem_of_mem_filter among

/-! ### Expired names go first -/

/-- A name that is looked up in vain is not in the book any more. -/
theorem entries_lookup_of_none (failed : (b.lookup now name).1 = none) :
  (b.lookup now name).2.names.entries = (b.names.erase name).entries
  := by
  rw [lookup] at failed ⊢
  cases stored : b.names.peek name with
  | none => exact (Recency.entries_erase_of_absent stored).symm
  | some lease =>
      rw [stored] at failed
      by_cases isLive : lease.isLive now
      · simp only [if_pos isLive] at failed
        cases failed
      · simp only [if_neg isLive]

/-- After a look-up in vain there is still an expired name, or else there is room. -/
theorem length_live_lookup_lt {later : Nat} (failed : (b.lookup now name).1 = none)
    (hy : y ∈ b.names.entries) (expired : ¬ y.2.isLive later) :
  ((b.lookup now name).2.live later).length < (b.lookup now name).2.capacity
  := by
  by_cases same : y.1 = name
  · apply Nat.lt_of_le_of_lt (length_live_le _ later)
    rw [entries_lookup_of_none failed, (bounds_lookup b now name).2]
    apply Recency.length_erase_lt
    rw [← same]
    exact Recency.peek_of_mem hy
  · exact length_live_lt (mem_lookup hy fun again => absurd again same) expired

/-- Whatever is entered, a live name stays in a book with a name that has expired. -/
theorem stays_enter (hx : x ∈ b.names.entries) (isLive : x.2.isLive now)
    (room : (b.live now).length < b.capacity) (name address : String) :
  ∃ z ∈ ((enter now name address).perform b).2.names.entries, z.1 = x.1
  := by
  rw [perform_enter]
  split
  · by_cases same : x.1 = name
    · exact ⟨_, List.mem_cons_self, same.symm⟩
    · exact ⟨x, mem_pushed hx isLive same (fun _ => room) _, rfl⟩
  · exact ⟨x, hx, rfl⟩

end NameBook

end SiteCache
