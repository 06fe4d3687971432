import SiteCache.Proofs.NameBook.Live

/-!
# Histories of a name book

A name book answers any history of look-ups, entries and resolutions as an ideal list of live names
does, and asks the resolver for the same names (`NameBook.observed_eq_live`): after every event the
two have the same live names in the order of their use (`NameBook.Keeps`).  An address is answered
from the book only if it was the last one entered for its name and its time is not over
(`NameBook.Current`), which the ideal list owes to the dates of its entries (`LiveNames.Dated`).
-/

namespace SiteCache

open Clock (Lease)

/-! ### Events -/

namespace NameBook

/-- What happens to a name book, with the time on the steady clock. -/
inductive Event where
  | get (now : Nat) (name : String)
  | set (now : Nat) (name address : String)
  | resolve (asked answered : Nat) (name : String) (answer : Except Fault String)

/-- What is seen of an event: its answer and the names that the resolver was asked for. -/
structure Observation where
  answer : Except Fault (Option String)
  asked : List String

/-- Where a resolver is asked: the time on the steady clock and the names it was asked for. -/
structure Inquiry where
  now : Nat
  asked : List String := []

namespace Event

/-- The readings of the clock, in their order. -/
def times : Event → List Nat
  | .get now _ => [now]
  | .set now _ _ => [now]
  | .resolve asked answered _ _ => [asked, answered]

/-- The last reading of the clock. -/
def finish : Event → Nat
  | .get now _ => now
  | .set now _ _ => now
  | .resolve _ answered _ _ => answered

/-- The resolver that has its answer, whatever it is asked for, at a certain time. -/
def resolver (answered : Nat) (answer : Except Fault String) (name : String) :
    Action Inquiry String :=
  .ofStep fun i => (answer, ⟨answered, i.asked ++ [name]⟩)

end Event

/-- What is seen of an event, and the book after it. -/
def step (b : NameBook) : Event → Observation × NameBook
  | .get now name =>
    let looked := b.lookup now name
    (⟨.ok looked.1, []⟩, looked.2)
  | .set now name address =>
    let entered := (enter now name address).perform b
    (⟨entered.1.map fun _ => none, []⟩, entered.2)
  | .resolve asked answered name answer =>
    let resolver := Event.resolver answered answer
    let resolved := (resolveAt Inquiry.now name resolver).perform (b, { now := asked })
    (⟨resolved.1.map some, resolved.2.2.asked⟩, resolved.2.1)

/-- What is seen of events, one after the other. -/
def observed (b : NameBook) : List Event → List Observation
  | [] => []
  | e :: events => (b.step e).1 :: observed (b.step e).2 events

/-- The book after events. -/
def after (b : NameBook) (events : List Event) : NameBook :=
  events.foldl (fun b e => (b.step e).2) b

end NameBook

namespace LiveNames

open NameBook (Observation)

/-- What is seen of an event, and the list after it. -/
def step (l : LiveNames) : NameBook.Event → Observation × LiveNames
  | .get now name => (⟨.ok (l.get now name).1, []⟩, (l.get now name).2)
  | .set now name address => (⟨.ok none, []⟩, l.set now name address)
  | .resolve asked answered name answer =>
    let looked := l.get asked name
    match looked.1 with
    | some address => (⟨.ok (some address), []⟩, looked.2)
    | none =>
      match answer with
      | .ok address => (⟨.ok (some address), [name]⟩, looked.2.set answered name address)
      | .error fault => (⟨.error fault, [name]⟩, looked.2)

/-- What is seen of events, one after the other. -/
def observed (l : LiveNames) : List NameBook.Event → List Observation
  | [] => []
  | e :: events => (l.step e).1 :: observed (l.step e).2 events

/-- No event changes the lifetime of the names. -/
theorem lifetime_step (l : LiveNames) (e : NameBook.Event) :
  (l.step e).2.lifetime = l.lifetime
  := by
  cases e with
  | get now name => exact (bounds_get l now name).1
  | set now name address => rfl
  | resolve asked answered name answer =>
      have same := (bounds_get l asked name).1
      simp only [step]
      cases (l.get asked name).1 with
      | some address => exact same
      | none => cases answer <;> exact same

end LiveNames

namespace NameBook

variable {b : NameBook} {l : LiveNames} {now : Nat}

/-- A book and an ideal list have the same live names from some time on. -/
structure Keeps (b : NameBook) (l : LiveNames) (now : Nat) : Prop where
  lifetime_eq : b.lifetime = l.lifetime
  capacity_eq : b.capacity = l.capacity
  live_eq : b.live now = l.remaining now

/-- A resolution looks the name up and, if that fails, asks the resolver and enters its answer. -/
theorem step_resolve (b : NameBook) (asked answered : Nat) (name : String)
    (answer : Except Fault String) :
  b.step (.resolve asked answered name answer)
    = match (b.lookup asked name).1 with
      | some address => (⟨.ok (some address), []⟩, (b.lookup asked name).2)
      | none =>
        match answer with
        | .ok address =>
          let entered := (enter answered name address).perform (b.lookup asked name).2
          (⟨entered.1.map fun _ => some address, [name]⟩, entered.2)
        | .error fault => (⟨.error fault, [name]⟩, (b.lookup asked name).2)
  := by
  rw [step, resolveAt, Action.perform_bind, Action.perform_ofStep]
  simp only
  cases (b.lookup asked name).1 with
  | some known => rfl
  | none =>
      cases answer with
      | error fault => rfl
      | ok address =>
          simp only [Action.perform_bind, Action.perform_within, Event.resolver,
            Action.perform_ofStep, Action.perform_get]
          cases ((enter answered name address).perform (b.lookup asked name).2).1 <;> rfl

theorem Keeps.later {later : Nat} (h : b.Keeps l now) (ordered : now ≤ later) :
  b.Keeps l later
  := by
  refine ⟨h.lifetime_eq, h.capacity_eq, ?_⟩
  have same := congrArg (List.filter fun x => x.2.isLive later) h.live_eq
  rwa [live, LiveNames.remaining, live_later ordered, live_later ordered] at same

/-- A look-up in both answers alike, and they have the same live names after it. -/
theorem Keeps.lookup (h : b.Keeps l now) (name : String) :
  (b.lookup now name).1 = (l.get now name).1 ∧ (b.lookup now name).2.Keeps (l.get now name).2 now
  := by
  obtain ⟨answer, leases⟩ := lookup_eq h.live_eq name
  obtain ⟨lifetime, capacity⟩ := bounds_lookup b now name
  obtain ⟨sameLifetime, sameCapacity⟩ := LiveNames.bounds_get l now name
  refine ⟨answer, ⟨?_, ?_, ?_⟩⟩
  · rw [lifetime, sameLifetime, h.lifetime_eq]
  · rw [capacity, sameCapacity, h.capacity_eq]
  · rw [LiveNames.remaining, ← leases]
    exact (live_later (Nat.le_refl now) _).symm

/-- An address is entered in both, and they have the same live names after it. -/
theorem Keeps.enter (h : b.Keeps l now) (inTime : now + l.lifetime < Clock.finish)
    (name address : String) :
  ((enter now name address).perform b).1 = .ok ()
    ∧ ((enter now name address).perform b).2.Keeps (l.set now name address) now
  := by
  rw [perform_enter, h.lifetime_eq, if_pos inTime]
  refine ⟨rfl, ⟨h.lifetime_eq, ?_, ?_⟩⟩
  · exact (capacity_purge b now name).trans h.capacity_eq
  · rw [live_pushed, h.live_eq, h.capacity_eq]
    rfl

/-- One event. -/
theorem Keeps.step (h : b.Keeps l now) {e : Event}
    (ordered : (now :: e.times).Pairwise (· ≤ ·))
    (inTime : ∀ now ∈ e.times, now + l.lifetime < Clock.finish) :
  (b.step e).1 = (l.step e).1 ∧ (b.step e).2.Keeps (l.step e).2 e.finish
  := by
  obtain ⟨begun, lasting⟩ := List.pairwise_cons.1 ordered
  cases e with
  | get now name =>
      have h := h.later (begun now (by simp [Event.times]))
      obtain ⟨answer, next⟩ := h.lookup name
      exact ⟨by rw [NameBook.step, LiveNames.step, answer], next⟩
  | set now name address =>
      have h := h.later (begun now (by simp [Event.times]))
      obtain ⟨answer, next⟩ := h.enter (inTime now (by simp [Event.times])) name address
      refine ⟨?_, next⟩
      rw [NameBook.step, LiveNames.step, answer]
      rfl
  | resolve asked answered name answer =>
      have h := h.later (begun asked (by simp [Event.times]))
      have waited : asked ≤ answered := by simpa [Event.times] using lasting
      obtain ⟨known, next⟩ := h.lookup name
      have next := next.later waited
      have dueTime := inTime answered (by simp [Event.times])
      rw [← (LiveNames.bounds_get l asked name).1] at dueTime
      simp only [step_resolve, LiveNames.step, known]
      cases (l.get asked name).1 with
      | some address => exact ⟨rfl, next⟩
      | none =>
          cases answer with
          | error fault => exact ⟨rfl, next⟩
          | ok address =>
              obtain ⟨entered, last⟩ := next.enter dueTime name address
              refine ⟨?_, last⟩
              simp only [entered]
              rfl

/-- All events, in the order of their times. -/
theorem Keeps.observed {events : List Event} (h : b.Keeps l now)
    (ordered : (now :: events.flatMap Event.times).Pairwise (· ≤ ·))
    (inTime : ∀ now ∈ events.flatMap Event.times, now + l.lifetime < Clock.finish) :
  b.observed events = l.observed events
  := by
  induction events generalizing b l now with
  | nil => rfl
  | cons e events ih =>
      rw [List.flatMap_cons, ← List.cons_append] at ordered
      rw [List.flatMap_cons] at inTime
      obtain ⟨first, rest, across⟩ := List.pairwise_append.1 ordered
      obtain ⟨answer, next⟩ := h.step first fun t ht => inTime t (List.mem_append_left _ ht)
      have finished : e.finish ∈ now :: e.times := by
        cases e <;> simp [Event.times, Event.finish]
      have following : (e.finish :: events.flatMap Event.times).Pairwise (· ≤ ·) :=
        List.pairwise_cons.2 ⟨across e.finish finished, rest⟩
      rw [NameBook.observed, LiveNames.observed, answer]
      congr 1
      apply ih next following
      intro t ht
      rw [LiveNames.lifetime_step]
      exact inTime t (List.mem_append_right _ ht)

/-! ### What a history has entered -/

/-- An address that was entered or answered for a name, with the time. -/
structure Entry where
  name : String
  address : String
  time : Nat

/-- What an event enters into the book. -/
def Event.entered : Event × Observation → Option Entry
  | (.get _ _, _) => none
  | (.set now name address, _) => some ⟨name, address, now⟩
  | (.resolve _ answered name (.ok address), ⟨_, _ :: _⟩) => some ⟨name, address, answered⟩
  | (.resolve _ _ _ _, _) => none

/-- What an event answers from the book, without asking the resolver. -/
def Event.recalled : Event × Observation → Option Entry
  | (.get now name, ⟨.ok (some address), []⟩) => some ⟨name, address, now⟩
  | (.resolve asked _ name _, ⟨.ok (some address), []⟩) => some ⟨name, address, asked⟩
  | _ => none

/-- The last of the entries for a name; the entries are listed from the last one on. -/
def Entry.last? (name : String) (log : List Entry) : Option Entry :=
  log.find? fun y => y.name = name

/-- What is answered from the book is always the last address that was entered for the name before,
and was entered less than a lifetime ago. -/
def Current (lifetime : Nat) (history : List (Event × Observation)) : Prop :=
  ∀ before e later, history = before ++ e :: later →
    ∀ x, Event.recalled e = some x →
      ∃ y, Entry.last? x.name (before.filterMap Event.entered).reverse = some y
        ∧ y.address = x.address ∧ x.time < y.time + lifetime

end NameBook

namespace LiveNames

open NameBook (Entry Observation)

variable {l : LiveNames} {log : List Entry} {now : Nat}

/-- The leases of a list are those of the last entries for their names. -/
def Dated (l : LiveNames) (log : List Entry) : Prop :=
  ∀ x ∈ l.names, ∃ y, Entry.last? x.1 log = some y ∧ x.2 = ⟨y.address, y.time + l.lifetime⟩

theorem mem_of_lease? {leases : List (String × Lease String)} {name : String}
    {x : String × Lease String} (found : lease? name leases = some x) :
  x ∈ leases ∧ x.1 = name
  := ⟨List.mem_of_find?_eq_some found, by simpa using List.find?_some found⟩

/-- An address that is answered is that of the last entry for the name, and its time is not over. -/
theorem Dated.get (h : l.Dated log) (now : Nat) (name : String) :
  (l.get now name).2.Dated log
    ∧ ∀ address, (l.get now name).1 = some address →
        ∃ y, Entry.last? name log = some y ∧ y.address = address ∧ now < y.time + l.lifetime
  := by
  have within : ∀ x ∈ l.remaining now, x ∈ l.names := fun x hx => List.mem_of_mem_filter hx
  rw [LiveNames.get]
  cases found : lease? name (l.remaining now) with
  | none => exact ⟨fun x hx => h x (within x hx), by rintro address ⟨⟩⟩
  | some x =>
      obtain ⟨hx, rfl⟩ := mem_of_lease? found
      constructor
      · intro z hz
        rcases List.mem_cons.1 hz with rfl | hz
        · exact h z (within z hx)
        · exact h z (within z (mem_others.1 hz).1)
      · rintro _ ⟨⟩
        obtain ⟨y, last, lease⟩ := h x (within x hx)
        have isLive := (List.mem_filter.1 hx).2
        rw [lease, Lease.isLive, decide_eq_true_eq] at isLive
        exact ⟨y, last, by rw [lease], isLive⟩

/-- An address that is entered is that of the last entry for its name. -/
theorem Dated.set (h : l.Dated log) (now : Nat) (name address : String) :
  (l.set now name address).Dated (⟨name, address, now⟩ :: log)
  := by
  intro x hx
  rcases List.mem_cons.1 hx with rfl | hx
  · exact ⟨⟨name, address, now⟩, by simp [Entry.last?], rfl⟩
  · obtain ⟨hx, other⟩ := mem_of_mem_kept hx
    obtain ⟨y, last, lease⟩ := h x (List.mem_of_mem_filter hx)
    refine ⟨y, ?_, lease⟩
    rw [Entry.last?, List.find?_cons_of_neg (by simpa using Ne.symm other)]
    exact last

/-- One event. -/
theorem Dated.step (h : l.Dated log) (e : NameBook.Event) :
  let seen := (e, (l.step e).1)
  (l.step e).2.Dated ((NameBook.Event.entered seen).toList ++ log)
    ∧ ∀ x, NameBook.Event.recalled seen = some x →
        ∃ y, Entry.last? x.name log = some y ∧ y.address = x.address
          ∧ x.time < y.time + l.lifetime
  := by
  cases e with
  | get now name =>
      obtain ⟨next, last⟩ := h.get now name
      refine ⟨next, ?_⟩
      rw [LiveNames.step]
      cases found : (l.get now name).1 with
      | none => rintro x ⟨⟩
      | some address =>
          rintro x ⟨⟩
          exact last address found
  | set now name address => exact ⟨h.set now name address, by rintro x ⟨⟩⟩
  | resolve asked answered name answer =>
      obtain ⟨next, last⟩ := h.get asked name
      simp only [LiveNames.step]
      cases found : (l.get asked name).1 with
      | some address =>
          constructor
          · cases answer <;> exact next
          · rintro x ⟨⟩
            exact last address found
      | none =>
          cases answer with
          | ok address => exact ⟨next.set answered name address, by rintro x ⟨⟩⟩
          | error fault => exact ⟨next, by rintro x ⟨⟩⟩

/-- All events, after a history with such entries. -/
theorem Dated.recalled {events : List NameBook.Event} (h : l.Dated log)
    {before later : List (NameBook.Event × Observation)} {e : NameBook.Event × Observation}
    (split : events.zip (l.observed events) = before ++ e :: later) {x : Entry}
    (recalled : NameBook.Event.recalled e = some x) :
  ∃ y, Entry.last? x.name ((before.filterMap NameBook.Event.entered).reverse ++ log) = some y
    ∧ y.address = x.address ∧ x.time < y.time + l.lifetime
  := by
  induction events generalizing l log before with
  | nil => simp at split
  | cons first events ih =>
      obtain ⟨next, last⟩ := h.step first
      rw [observed, List.zip_cons_cons] at split
      cases before with
      | nil =>
          obtain ⟨rfl, -⟩ := List.cons.inj split
          exact last x recalled
      | cons seen before =>
          obtain ⟨rfl, rest⟩ := List.cons.inj split
          have found := ih next rest
          rw [lifetime_step] at found
          rw [List.filterMap_cons]
          cases entered : NameBook.Event.entered (first, (l.step first).1) with
          | none =>
              rw [entered] at found
              exact found
          | some y =>
              rw [entered] at found
              rw [List.reverse_cons, List.append_assoc]
              exact found

end LiveNames

namespace NameBook

variable {b : NameBook} {x y : String × Lease String}

/-- A live name stays at every event as long as there is an expired one. -/
theorem stays_step {e : Event} (ordered : e.times.Pairwise (· ≤ ·)) (hx : x ∈ b.names.entries)
    (isLive : x.2.isLive e.finish) (hy : y ∈ b.names.entries) (expired : ¬ y.2.isLive e.finish) :
  ∃ z ∈ (b.step e).2.names.entries, z.1 = x.1
  := by
  cases e with
  | get now name => exact ⟨x, mem_lookup hx fun _ => isLive, rfl⟩
  | set now name address => exact stays_enter hx isLive (length_live_lt hy expired) name address
  | resolve asked answered name answer =>
      have waited : asked ≤ answered := by simpa [Event.times] using ordered
      have before : x.2.isLive asked := by
        rw [Event.finish, Lease.isLive, decide_eq_true_eq] at isLive
        exact decide_eq_true (Nat.lt_of_le_of_lt waited isLive)
      have looked : x ∈ (b.lookup asked name).2.names.entries := mem_lookup hx fun _ => before
      rw [step_resolve]
      cases found : (b.lookup asked name).1 with
      | some address => exact ⟨x, looked, rfl⟩
      | none =>
          cases answer with
          | error fault => exact ⟨x, looked, rfl⟩
          | ok address =>
              have room := length_live_lookup_lt found hy expired
              exact stays_enter looked isLive room name address

/-- No event changes how many names a book may hold. -/
theorem capacity_step (b : NameBook) (e : Event) :
  (b.step e).2.capacity = b.capacity
  := by
  have entering (b : NameBook) (now : Nat) (name address : String) :
      ((enter now name address).perform b).2.capacity = b.capacity := by
    rw [perform_enter]
    split
    · exact capacity_purge b now name
    · rfl
  cases e with
  | get now name => exact (bounds_lookup b now name).2
  | set now name address => exact entering b now name address
  | resolve asked answered name answer =>
      have same := (bounds_lookup b asked name).2
      rw [step_resolve]
      cases (b.lookup asked name).1 with
      | some address => exact same
      | none =>
          cases answer with
          | error fault => exact same
          | ok address => exact (entering _ answered name address).trans same

theorem capacity_after (b : NameBook) (events : List Event) :
  (b.after events).capacity = b.capacity
  := by
  induction events generalizing b with
  | nil => rfl
  | cons e events ih => exact (ih (b.step e).2).trans (capacity_step b e)

/-- The empty book has the bounds that it is asked for, and holds what the ideal list holds. -/
theorem Keeps.empty {lifetime : Nat} (positive : 0 < lifetime) (capacity : Nat) :
  (NameBook.empty lifetime capacity).Keeps
    { lifetime, capacity := if capacity = 0 then defaultCapacity else capacity } 0
  := by
  refine ⟨if_neg (Nat.ne_of_gt positive), ?_, rfl⟩
  have some : 0 < if capacity = 0 then defaultCapacity else capacity := by
    split
    · decide
    · omega
  exact Nat.max_eq_right some

/-! ### The guarantee -/

/-- As long as the clock does not run out, a book answers any events, in the order of their times,
as the ideal list with the same bounds does, and asks the resolver for the same names.  So it
answers what was entered last, for less than its lifetime.  It never holds more names than it may,
and at any further event a live name goes only if no name has expired. -/
theorem observed_eq_live {lifetime : Nat} (positive : 0 < lifetime) (capacity : Nat)
    {events : List Event} (ordered : (events.flatMap Event.times).Pairwise (· ≤ ·))
    (inTime : ∀ now ∈ events.flatMap Event.times, now + lifetime < Clock.finish) :
  let b := empty lifetime capacity
  let room := if capacity = 0 then defaultCapacity else capacity
  b.observed events = ({ lifetime, capacity := room } : LiveNames).observed events
    ∧ Current lifetime (events.zip (b.observed events))
    ∧ (b.after events).size ≤ room
    ∧ ∀ e : Event, e.times.Pairwise (· ≤ ·) →
        ∀ x ∈ (b.after events).names.entries, x.2.isLive e.finish →
          (∀ z ∈ ((b.after events).step e).2.names.entries, z.1 ≠ x.1) →
            ∀ y ∈ (b.after events).names.entries, y.2.isLive e.finish
  := by
  intro b room
  have start := Keeps.empty positive capacity
  have same := start.observed (List.pairwise_cons.2 ⟨fun _ _ => Nat.zero_le _, ordered⟩) inTime
  refine ⟨same, ?_, ?_, ?_⟩
  · intro before e later split x recalled
    rw [same] at split
    have dated : LiveNames.Dated { lifetime, capacity := room } [] := by rintro x ⟨⟩
    have found := dated.recalled split recalled
    rwa [List.append_nil] at found
  · have bounded : (b.after events).size ≤ (b.after events).capacity :=
      (b.after events).names.bounded
    rwa [capacity_after, start.capacity_eq] at bounded
  · intro e ordered x hx isLive gone y hy
    by_contra expired
    obtain ⟨z, hz, same⟩ := stays_step ordered hx isLive hy expired
    exact gone z hz same

/-- Names are entered, used and replaced, and one is resolved after a failure. -/
def Event.turnover : List Event :=
  [.set 0 "a" "A", .set 4 "b" "B", .get 6 "a", .set 11 "c" "C", .get 12 "b",
    .resolve 13 15 "a" (.error (.notFound (.siteName "a"))), .resolve 15 16 "a" (.ok "A"),
    .get 20 "a"]

/-- The names turn over alike in a book for two names and in the ideal list. -/
theorem observed_eq_live_turnover :
  let b := empty 10 2
  b.observed Event.turnover
      = ({ lifetime := 10, capacity := 2 } : LiveNames).observed Event.turnover
    ∧ Current 10 (Event.turnover.zip (b.observed Event.turnover))
    ∧ (b.after Event.turnover).size ≤ 2
    ∧ ∀ e : Event, e.times.Pairwise (· ≤ ·) →
        ∀ x ∈ (b.after Event.turnover).names.entries, x.2.isLive e.finish →
          (∀ z ∈ ((b.after Event.turnover).step e).2.names.entries, z.1 ≠ x.1) →
            ∀ y ∈ (b.after Event.turnover).names.entries, y.2.isLive e.finish
  := observed_eq_live (by decide) 2 (by decide) (by decide)

end NameBook

end SiteCache
