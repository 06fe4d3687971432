import SiteCache.Proofs.Site.Confining
import SiteCache.Proofs.Site.Deployment
import SiteCache.Proofs.Site.Fetching
import SiteCache.Proofs.Site.Overriding

/-!
# How long path lists are remembered

A reader is asked for path lists and paths while the clock goes on, the remote store becomes another
one and websites are forgotten (`Reader.Timed`).  The list that is answered for a website is what a
truthful remote store (`Remote.Truthful`) held at a moment of the run (`Reader.HeldAt`), less than
the lifetime of the lists ago or just now, and since the website was forgotten last
(`Reader.paths_held`).  A list that cannot be read leaves the remembered ones as they are, and one
that is read drops those that have expired (`Reader.Renewal`).
-/

namespace SiteCache

open SiteCache.Action

/-! ### What actions yield -/

namespace Action

variable {σ α β : Type} {I : σ → Prop} {Q : α → Prop} {R : β → Prop}

/-- From states with a property, the action keeps the property, and what it answers has another. -/
def Yields (I : σ → Prop) (Q : α → Prop) (a : Action σ α) : Prop :=
  ∀ s, I s → (∀ x, (a.perform s).1 = .ok x → Q x) ∧ I (a.perform s).2

theorem yields_pure {x : α} (h : Q x) :
  Yields I Q (pure x)
  := by
  intro s hs
  refine ⟨?_, hs⟩
  rintro _ ⟨⟩
  exact h

theorem yields_throw (fault : Fault) :
  Yields I Q (throw fault : Action σ α)
  := by
  intro s hs
  refine ⟨?_, hs⟩
  rintro x ⟨⟩

theorem Yields.bind {a : Action σ α} {f : α → Action σ β} (h : a.Yields I Q)
    (next : ∀ x, Q x → (f x).Yields I R) :
  (a >>= f).Yields I R
  := by
  intro s hs
  obtain ⟨answer, kept⟩ := h s hs
  rw [perform_bind]
  generalize a.perform s = ended at answer kept
  rcases ended with ⟨fault | x, t⟩
  · refine ⟨?_, kept⟩
    rintro y ⟨⟩
  · exact next x (answer x rfl) t kept

theorem yields_mapM {f : α → Action σ β} {g : α → β} (h : ∀ x, (f x).Yields I (· = g x))
    (xs : List α) :
  (xs.mapM f).Yields I (· = xs.map g)
  := by
  induction xs with
  | nil => exact yields_pure rfl
  | cons x xs ih =>
      rw [List.mapM_cons]
      apply (h x).bind
      rintro _ rfl
      apply ih.bind
      rintro _ rfl
      exact yields_pure rfl

end Action

/-! ### Truthful stores -/

namespace PathList

theorem mem_ofPaths_iff {path : String} {paths : List String} :
  path ∈ ofPaths paths ↔ path ∈ paths
  := by
  constructor
  · intro listed
    rw [ofPaths, Table.mem_keys_iff] at listed
    obtain ⟨_, listed⟩ := listed
    rw [Table.get?_ofList] at listed
    obtain ⟨⟨_, _⟩, among, same⟩ := List.exists_of_findSome?_eq_some listed
    simp only [List.mem_reverse, List.mem_map, Option.ite_none_right_eq_some] at among same
    obtain ⟨path, among, ⟨⟩⟩ := among
    exact same.1 ▸ among
  · exact mem_ofPaths

theorem ascending_ofPaths (paths : List String) :
  (ofPaths paths).Pairwise (· < ·)
  := List.pairwise_map.2 (Table.ascending _)

end PathList

/-- The list has, in ascending order, exactly the paths that location keys hold. -/
structure Located (held : Octets → Option Octets) (list : PathList) : Prop where
  ascending : list.Pairwise (· < ·)
  mem_iff : ∀ path, path ∈ list
    ↔ ∃ key value, SiteKey.isLocation key ∧ held key = some value ∧ Utf8.lossy value = path

section Remote

variable {σ : Type} [Remote σ] {contents : σ → String → Octets → Option Octets}

/-- The calls of the remote store do not change what it holds of websites.  It may fail; else it
lists every key of an address that has a value, and the values that it answers for keys are theirs,
or there are more or fewer than keys. -/
structure Remote.Truthful (contents : σ → String → Octets → Option Octets) : Prop where
  keys : ∀ held address, (Remote.keys address).Yields (contents · = held) fun listing =>
    ∀ key value, held address key = some value → key ∈ listing
  values : ∀ held address keys, (Remote.values address keys).Yields (contents · = held)
    fun values => values.length = keys.length → values = keys.map (held address)

namespace Remote.Truthful

variable (h : Remote.Truthful contents) {held : String → Octets → Option Octets}
include h

theorem aligned (read : Read) (address : String) (keys : List Octets) :
  (Remote.aligned read address keys).Yields (contents · = held) (· = keys.map (held address))
  := by
  apply (h.values held address keys).bind
  intro values answered
  split
  next right => exact yields_pure (answered right)
  next => apply yields_throw

/-- The paths that are read are those that the store holds. -/
theorem listPaths (address : String) :
  (Reader.listPaths address).Yields (contents · = held) fun found =>
    Located (held address) (.ofPaths found)
  := by
  apply (h.keys held address).bind
  intro keys listed
  apply (yields_mapM (h.aligned .paths address) _).bind
  rintro _ rfl
  apply yields_pure
  refine ⟨PathList.ascending_ofPaths _, ?_⟩
  intro path
  rw [PathList.mem_ofPaths_iff, ← List.map_flatten, batches_flatten (by decide),
    List.filterMap_map, Function.id_comp]
  simp only [List.mem_map, List.mem_filterMap, List.mem_filter]
  constructor
  · rintro ⟨value, ⟨key, ⟨-, location⟩, found⟩, read⟩
    exact ⟨key, value, location, found, read⟩
  · rintro ⟨key, value, location, found, read⟩
    exact ⟨value, ⟨key, ⟨listed key value found, location⟩, found⟩, read⟩

end Remote.Truthful

end Remote

namespace Reader

variable {σ : Type} [Remote σ] {contents : σ → String → Octets → Option Octets}

/-! ### A list that is read anew -/

/-- An exchange that keeps the paths of a website from being read, with its fault: the remote store
refuses the keys or some values, or it answers the wrong number of values. -/
inductive Unread (address : String) : Exchange → Fault → Prop
  | keys (fault : Fault) : Unread address (.keys address (.error fault)) fault
  | values {call : List Octets} {e : Exchange} {fault : Fault}
      (problem : Exchange.Problem .paths address call e fault) : Unread address e fault

theorem Unread.unique {address : String} {e : Exchange} {fault fault' : Fault}
    (h : Unread address e fault) (h' : Unread address e fault') :
  fault = fault'
  := by
  cases h with
  | keys =>
      cases h' with
      | keys => rfl
      | values problem => cases problem
  | values problem =>
      cases h' with
      | keys => cases problem
      | values problem' =>
          cases problem <;> cases problem' <;> rfl

/-- A sweep through path entries stops exactly at an exchange that keeps them from being read. -/
theorem sweep_eq_error_iff {address : String} {calls : List (List Octets)} {log : List Exchange}
    {answers : Except Fault (List (List (Option Octets)))} {fault : Fault}
    (sweep : Sweep (fun call values => values.length = call.length)
      (fun call values => .values address call (.ok values)) (Exchange.Problem .paths address) calls
      log answers) :
  answers = .error fault ↔ ∃ e ∈ log, Unread address e fault
  := by
  induction sweep with
  | done => simp
  | stopped bad =>
      simp only [List.mem_singleton, exists_eq_left, Except.error.injEq]
      constructor
      · rintro rfl
        exact .values bad
      · exact (Unread.values bad).unique
  | @onward call calls values log result well rest ih =>
      have read : ¬ Unread address (.values address call (.ok values)) fault := by
        rintro (_ | ⟨⟨⟩⟩)
        contradiction
      simp only [List.exists_mem_cons_iff, read, false_or, ← ih]
      cases result with
      | error fault' => rfl
      | ok answers => exact ⟨nofun, nofun⟩

/-- The paths of a website are not read exactly if an exchange keeps them from it. -/
theorem pathsDialogue_error_iff {address : String} {log : List Exchange}
    {result : Except Fault (List String)} (said : pathsDialogue address log result)
    {fault : Fault} :
  result = .error fault ↔ ∃ e ∈ log, Unread address e fault
  := by
  rcases pathsDialogue_iff.1 said with ⟨fault', rfl, rfl⟩ | ⟨keys, behind, answers, asked, rfl, rfl⟩
  · simp only [List.mem_singleton, exists_eq_left, Except.error.injEq]
    constructor
    · rintro rfl
      exact .keys fault'
    · exact (Unread.keys fault').unique
  · have listed : ¬ Unread address (.keys address (.ok keys)) fault := by
      rintro (_ | ⟨⟨⟩⟩)
    have stopped : answers = .error fault ↔ ∃ e ∈ behind, Unread address e fault :=
      sweep_eq_error_iff (Dialogue.each_aligned_iff.1 asked)
    simp only [List.exists_mem_cons_iff, listed, false_or, ← stopped]
    cases answers with
    | error fault' => exact ⟨fun h => by cases h; rfl, fun h => by cases h; rfl⟩
    | ok values => exact ⟨nofun, nofun⟩

/-- What stops a list from being read leaves the remembered ones as they are. -/
theorem lists_of_stopped {now : Nat} {address : String} {r t : Reader σ} {fault : Fault}
    (forgotten : r.lists.get now address = none)
    (ended : (paths now address).perform r = (.error fault, t)) :
  t.lists = r.lists
  := by
  rw [perform_paths_of_forgotten forgotten] at ended
  generalize (listPaths address).perform r.remote = read at ended
  obtain ⟨fault | found, u⟩ := read
  · cases ended
    rfl
  · simp only at ended
    split at ended
    · cases ended
    · cases ended
      rfl

/-- A list that is read is stored, and the expired lists are dropped. -/
theorem lists_of_read {now : Nat} {address : String} {r t : Reader σ} {list : PathList}
    (forgotten : r.lists.get now address = none)
    (ended : (paths now address).perform r = (.ok list, t)) :
  t.lists.lists
    = (r.lists.lists.filter (·.isLive now)).insert address ⟨list, now + r.lists.lifetime⟩
  := by
  rw [perform_paths_of_forgotten forgotten] at ended
  generalize (listPaths address).perform r.remote = read at ended
  obtain ⟨fault | found, u⟩ := read
  · cases ended
  · simp only at ended
    split at ended
    · cases ended
      rfl
    · cases ended

/-- A list is read anew with this result.  It is not there if the remote store refuses a call or
answers the wrong number of values, or if it would outlast the clock; this is the fault then, and
all remembered lists stay as they are.  Else it is kept for the lifetime of the lists, and no other
list is left that has expired. -/
structure Renewal (now : Nat) (address : String) (r : Reader σ) (log : List Exchange)
    (result : Except Fault PathList) (t : Reader σ) : Prop where
  plain : (paths now address).perform r = (result, t)
  recorded : (paths now address).perform (⟨r.lists, ⟨r.remote, []⟩⟩ : Reader (Recorded σ))
    = (result, ⟨t.lists, ⟨t.remote, log⟩⟩)
  unread : ∀ e ∈ log, ∀ fault, Unread address e fault → result = .error fault
  stopped : ∀ fault, result = .error fault → t.lists = r.lists
    ∧ ((∃ e ∈ log, Unread address e fault)
      ∨ fault = .clock ∧ Clock.finish ≤ now + r.lists.lifetime)
  kept : ∀ list, result = .ok list →
    t.lists.lists.get? address = some ⟨list, now + r.lists.lifetime⟩
    ∧ ∀ other lease, other ≠ address → t.lists.lists.get? other = some lease → lease.isLive now

/-- A list that is not remembered is read anew. -/
theorem exists_renewal {now : Nat} {address : String} {r : Reader σ}
    (forgotten : r.lists.get now address = none) :
  ∃ log result t, Renewal now address r log result t
  := by
  obtain ⟨log, result, t, said, plain, recorded⟩ := records_paths r.lists now address r.remote []
  refine ⟨log, result, t, plain, recorded, ?_, ?_, ?_⟩
  · intro e he fault unread
    rw [listDialogue, forgotten] at said
    obtain ⟨read, asked, rfl⟩ := Dialogue.next_silent_iff.1 said
    rw [(pathsDialogue_error_iff asked).2 ⟨e, he, unread⟩]
    rfl
  · rintro fault rfl
    refine ⟨lists_of_stopped forgotten plain, ?_⟩
    rw [listDialogue, forgotten] at said
    obtain ⟨_ | found, asked, ended⟩ := Dialogue.next_silent_iff.1 said
    · cases ended
      exact .inl ((pathsDialogue_error_iff asked).1 rfl)
    · rw [Except.bind, keptList] at ended
      split at ended
      next => cases ended
      next late =>
        cases ended
        exact .inr ⟨rfl, Nat.le_of_not_lt late⟩
  · rintro list rfl
    rw [lists_of_read forgotten plain]
    refine ⟨by rw [Table.get?_insert, if_pos rfl], ?_⟩
    intro other lease different stored
    rw [Table.get?_insert, if_neg (Ne.symm different), Table.get?_filter] at stored
    exact (Option.filter_eq_some_iff.1 stored).2

/-! ### Readers in time -/

variable {held : String → Octets → Option Octets} {before : PathLists} {now : Nat}
  {address : String}

/-- Each list was there before, or the store holds it now and it is kept for the lifetime. -/
structure Updates (before : PathLists) (now : Nat) (held : String → Octets → Option Octets)
    (lists : PathLists) : Prop where
  lifetime : lists.lifetime = before.lifetime
  origin : ∀ address lease, lists.lists.get? address = some lease →
    before.lists.get? address = some lease
      ∨ Located (held address) lease.value ∧ lease.expires = now + before.lifetime

/-- The remote store holds this, and the lists were there before or are what it holds. -/
def Current (contents : σ → String → Octets → Option Octets)
    (held : String → Octets → Option Octets) (before : PathLists) (now : Nat) (r : Reader σ) :
    Prop :=
  contents r.remote = held ∧ Updates before now held r.lists

/-- A list that the store holds is added in place of the expired ones. -/
theorem Updates.insert {lists : PathLists} {list : PathList} (h : Updates before now held lists)
    (located : Located (held address) list) :
  Updates before now held
    { lists with
      lists := (lists.lists.filter (·.isLive now)).insert address ⟨list, now + lists.lifetime⟩ }
  := by
  refine ⟨h.lifetime, ?_⟩
  intro other lease stored
  rw [Table.get?_insert] at stored
  split at stored
  next here =>
    subst here
    obtain rfl := Option.some.inj stored
    exact .inr ⟨located, congrArg _ h.lifetime⟩
  next =>
    rw [Table.get?_filter] at stored
    exact h.origin other lease (Option.filter_eq_some_iff.1 stored).1

/-- Reading a list only adds what the store holds. -/
theorem confined_paths (truthful : Remote.Truthful contents) :
  (paths now address).Confined (Current contents held before now) fun _ => True
  := by
  rintro r ⟨same, updates⟩
  refine ⟨fun _ _ => trivial, ?_⟩
  obtain ⟨located, kept⟩ := truthful.listPaths address r.remote same
  cases remembered : r.lists.get now address with
  | some list =>
      rw [perform_paths, remembered]
      exact ⟨same, updates⟩
  | none =>
      rw [perform_paths_of_forgotten remembered]
      generalize (listPaths address).perform r.remote = read at located kept
      obtain ⟨fault | found, u⟩ := read
      · exact ⟨kept, updates⟩
      · simp only
        split
        next => exact ⟨kept, updates.insert (located found rfl)⟩
        next => exact ⟨kept, updates⟩

/-- What a reader is asked for of a website: its path list, whether it stores a path, the stored
path that answers a requested one, or the content of a path. -/
inductive Ask where
  | paths
  | stores (path : String)
  | resolve (requested : String)
  | fetch (path : String)

/-- Asks at a time, without looking at the answer. -/
def Ask.act (now : Nat) (address : String) : Ask → Action (Reader σ) Unit
  | .paths => do let _ ← Reader.paths now address
  | .stores path => do let _ ← Reader.stores now address path
  | .resolve requested => do let _ ← Reader.resolve now address requested
  | .fetch path => do let _ ← Reader.fetch now address path

/-- Whatever is asked only adds lists that the store holds. -/
theorem confined_act (truthful : Remote.Truthful contents) (ask : Ask) :
  (ask.act now address).Confined (Current contents held before now) fun _ => True
  := by
  have listed : (paths now address).Confined (Current contents held before now) fun _ => True :=
    confined_paths truthful
  cases ask with
  | paths => exact listed.bind fun _ => confined_pure _
  | stores path => exact (confined_stores listed path).bind fun _ => confined_pure _
  | resolve requested => exact (confined_resolve listed requested).bind fun _ => confined_pure _
  | fetch path =>
      have assembled : (assemble address path : Action σ _).Confined (contents · = held)
          fun _ => True := by
        refine confined_assemble ?_ (fun _ => trivial) trivial
        intro keys s same
        exact ⟨fun _ _ => trivial, (truthful.values held address keys s same).2⟩
      have asked : (onRemote (assemble address path)).Confined
          (Current contents held before now) fun _ => True :=
        assembled.within (fun _ h => h.1) fun _ _ h same => ⟨same, h.2⟩
      exact (confined_fetch listed asked trivial).bind fun _ => confined_pure _

/-- A reader with the time on its clock. -/
structure Timed (σ : Type) where
  now : Nat
  reader : Reader σ

/-- What may happen to a reader: its clock goes on, its remote store becomes another one, the path
list of a website is forgotten, or something is asked of a website. -/
inductive Event (σ : Type) where
  | advance (time : Nat)
  | change (remote : σ)
  | invalidate (address : String)
  | ask (address : String) (ask : Ask)

namespace Timed

/-- The reader after an event. -/
def step (s : Timed σ) : Event σ → Timed σ
  | .advance time => { s with now := s.now + time }
  | .change remote => { s with reader := { s.reader with remote := remote } }
  | .invalidate address => { s with reader := s.reader.invalidate address }
  | .ask address ask => { s with reader := ((ask.act s.now address).perform s.reader).2 }

/-- The reader after some events. -/
def after (s : Timed σ) (events : List (Event σ)) : Timed σ := events.foldl step s

end Timed

variable {start : Timed σ} {events : List (Event σ)} {list : PathList} {time : Nat}

theorem after_append (start : Timed σ) (events since : List (Event σ)) :
  start.after (events ++ since) = (start.after events).after since
  := List.foldl_append

/-- The clock does not go back. -/
theorem now_le_after (start : Timed σ) (events : List (Event σ)) :
  start.now ≤ (start.after events).now
  := by
  apply List.foldlRecOn (motive := fun s : Timed σ => start.now ≤ s.now)
  · exact Nat.le_refl _
  · intro s later e _
    cases e with
    | advance time => exact Nat.le_trans later (Nat.le_add_right _ _)
    | change remote => exact later
    | invalidate address => exact later
    | ask address ask => exact later

/-- At a moment of a run with this time the remote store held this list of a website, and the
website was not forgotten since. -/
def HeldAt (contents : σ → String → Octets → Option Octets) (start : Timed σ)
    (events : List (Event σ)) (address : String) (list : PathList) (time : Nat) : Prop :=
  ∃ earlier since, events = earlier ++ since ∧ .invalidate address ∉ since
    ∧ (start.after earlier).now = time
    ∧ Located (contents (start.after earlier).reader.remote address) list

theorem HeldAt.le_now (h : HeldAt contents start events address list time) :
  time ≤ (start.after events).now
  := by
  obtain ⟨earlier, since, rfl, -, rfl, -⟩ := h
  rw [after_append]
  apply now_le_after

theorem HeldAt.append (h : HeldAt contents start events address list time) {e : Event σ}
    (remembered : e ≠ .invalidate address) :
  HeldAt contents start (events ++ [e]) address list time
  := by
  obtain ⟨earlier, since, rfl, untouched, dated, located⟩ := h
  refine ⟨earlier, since ++ [e], List.append_assoc _ _ _, ?_, dated, located⟩
  simpa [untouched] using remembered.symm

/-- What the store holds after a run it holds at a moment of the run. -/
theorem heldAt_end (located : Located (contents (start.after events).reader.remote address) list) :
  HeldAt contents start events address list (start.after events).now
  := ⟨events, [], (List.append_nil events).symm, List.not_mem_nil, rfl, located⟩

/-- After a run each remembered list was held by the store when the lifetime of the lists began that
it expires with. -/
structure Dated (contents : σ → String → Octets → Option Octets) (start : Timed σ)
    (events : List (Event σ)) : Prop where
  lifetime : (start.after events).reader.lists.lifetime = start.reader.lists.lifetime
  origin : ∀ address lease, (start.after events).reader.lists.lists.get? address = some lease →
    ∃ time, HeldAt contents start events address lease.value time
      ∧ lease.expires = time + start.reader.lists.lifetime

theorem updates_refl (lists : PathLists) :
  Updates lists now held lists
  := ⟨rfl, fun _ _ stored => .inl stored⟩

/-- Whatever happens only adds lists that the store holds. -/
theorem updates_step (truthful : Remote.Truthful contents) (s : Timed σ) (e : Event σ) :
  Updates s.reader.lists s.now (contents s.reader.remote) (s.step e).reader.lists
  := by
  cases e with
  | advance time => apply updates_refl
  | change remote => apply updates_refl
  | invalidate address =>
      refine ⟨rfl, ?_⟩
      intro other lease stored
      rw [Timed.step, invalidate, PathLists.invalidate, Table.get?_erase] at stored
      split at stored
      · cases stored
      · exact .inl stored
  | ask address ask => exact (confined_act truthful ask s.reader ⟨rfl, updates_refl _⟩).2.2

/-- A website that is forgotten has no list. -/
theorem ne_invalidate_of_stored {s : Timed σ} {e : Event σ} {lease : Clock.Lease PathList}
    (stored : (s.step e).reader.lists.lists.get? address = some lease) :
  e ≠ .invalidate address
  := by
  rintro rfl
  rw [Timed.step, invalidate, PathLists.invalidate, Table.get?_erase, if_pos rfl] at stored
  cases stored

theorem Dated.append (h : Dated contents start events) (truthful : Remote.Truthful contents)
    (e : Event σ) :
  Dated contents start (events ++ [e])
  := by
  have later : start.after (events ++ [e]) = (start.after events).step e := after_append _ _ _
  have updates := updates_step truthful (start.after events) e
  constructor
  · rw [later, updates.lifetime, h.lifetime]
  · intro address lease stored
    rw [later] at stored
    have remembered := ne_invalidate_of_stored stored
    obtain before | ⟨located, expires⟩ := updates.origin address lease stored
    · obtain ⟨time, held, expires⟩ := h.origin address lease before
      exact ⟨time, held.append remembered, expires⟩
    · rw [h.lifetime] at expires
      exact ⟨_, (heldAt_end located).append remembered, expires⟩

/-- Of a reader that began without path lists each was held when its lifetime began. -/
theorem dated_after (truthful : Remote.Truthful contents) (now lifetime : Nat) (remote : σ)
    (events : List (Event σ)) :
  Dated contents ⟨now, ⟨{ lifetime }, remote⟩⟩ events
  := by
  induction events using List.reverseRecOn with
  | nil =>
      refine ⟨rfl, ?_⟩
      rintro address lease ⟨⟩
  | append_singleton events e ih => exact ih.append truthful e

/-- A list that is answered is remembered and has not expired, or it is what the store holds. -/
theorem located_or_live (truthful : Remote.Truthful contents) {r t : Reader σ}
    (ended : (paths now address).perform r = (.ok list, t)) :
  Located (contents r.remote address) list
    ∨ ∃ lease, r.lists.lists.get? address = some lease ∧ lease.value = list ∧ now < lease.expires
  := by
  cases remembered : r.lists.get now address with
  | some list' =>
      rw [perform_paths, remembered] at ended
      cases ended
      obtain ⟨lease, found, rfl⟩ := Option.map_eq_some_iff.1 remembered
      obtain ⟨stored, live⟩ := Option.filter_eq_some_iff.1 found
      exact .inr ⟨lease, stored, rfl, of_decide_eq_true live⟩
  | none =>
      have located := (truthful.listPaths address r.remote rfl).1
      rw [perform_paths_of_forgotten remembered] at ended
      generalize (listPaths address).perform r.remote = read at ended located
      obtain ⟨fault | found, u⟩ := read
      · cases ended
      · simp only at ended
        split at ended
        · cases ended
          exact .inl (located found rfl)
        · cases ended

/-- After any run of a reader that began without path lists, with a truthful remote store, a list
that is answered for a website was held by the store at a moment of the run, just now or less than
the lifetime of the lists ago, and the website was not forgotten since.  For any reader and at any
time, a list that is not remembered is read anew: if it is not there this leaves the remembered lists
as they are, and if it is it leaves no other list that has expired. -/
theorem paths_held (truthful : Remote.Truthful contents) (start lifetime : Nat) (remote : σ)
    (events : List (Event σ)) (address : String) :
  let first : Timed σ := ⟨start, ⟨{ lifetime }, remote⟩⟩
  let last := first.after events
  (∀ list t, (paths last.now address).perform last.reader = (.ok list, t) →
      ∃ time, HeldAt contents first events address list time ∧ time ≤ last.now
        ∧ (time = last.now ∨ last.now - time < lifetime))
    ∧ ∀ now (r : Reader σ), r.lists.get now address = none →
      ∃ log result t, Renewal now address r log result t
  := by
  intro first last
  refine ⟨?_, fun now r => exists_renewal⟩
  intro list t ended
  obtain located | ⟨lease, stored, rfl, live⟩ := located_or_live truthful ended
  · exact ⟨last.now, heldAt_end located, Nat.le_refl _, .inl rfl⟩
  · have dated := dated_after truthful start lifetime remote events
    obtain ⟨time, held, expires⟩ := dated.origin address lease stored
    have past : time ≤ last.now := held.le_now
    refine ⟨time, held, past, .inr ?_⟩
    simp only at expires
    omega

end Reader

/-! ### Websites in memory -/

namespace Datastore

/-- A website in memory is truthful, offline or not and with short answers or not. -/
theorem truthful :
  Remote.Truthful fun (d : Datastore) address key => (d.site address).get? key
  := by
  constructor
  · rintro _ address d rfl
    refine ⟨?_, rfl⟩
    simp only [Remote.keys, perform_ofStep]
    split
    next => rintro listing ⟨⟩
    next =>
      rintro _ ⟨⟩ key value found
      exact (Table.mem_keys_iff _).2 ⟨value, found⟩
  · rintro _ address keys d rfl
    refine ⟨?_, rfl⟩
    simp only [Remote.values, perform_ofStep, answer]
    split
    next => rintro values ⟨⟩
    next =>
      split
      next short =>
        rintro _ ⟨⟩ right
        rw [List.length_dropLast, List.length_map] at right
        omega
      next =>
        rintro _ ⟨⟩ -
        rfl

/-- A list that is remembered outlives its store for a second, and then cannot be read. -/
theorem paths_held_remembered :
  let old := ({} : Datastore).upload "AS1" "a" [1] 1
  let new := old.upload "AS1" "b" [2] 1
  let first : Reader.Timed Datastore := ⟨0, ⟨{ lifetime := Clock.seconds 2 }, old⟩⟩
  let events := [.ask "AS1" .paths, .change new, .advance (Clock.seconds 1)]
  let last := first.after events
  let offline : Reader Datastore := ⟨last.reader.lists, { new with offline := true }⟩
  (∃ time, Reader.HeldAt (fun d address key => (d.site address).get? key) first events "AS1" ["a"]
        time
      ∧ time ≤ last.now ∧ (time = last.now ∨ last.now - time < Clock.seconds 2))
    ∧ ((Reader.paths (Clock.seconds 2) "AS1").perform offline).1 = .error (.unavailable .offline)
    ∧ ((Reader.paths (Clock.seconds 2) "AS1").perform offline).2.lists = offline.lists
  := by
  intro old new first events last offline
  obtain ⟨held, renewed⟩ := Reader.paths_held truthful 0 (Clock.seconds 2) old events "AS1"
  have answer : ((Reader.paths last.now "AS1").perform last.reader).1 = .ok ["a"] := by
    decide +kernel
  have stopped : ((Reader.paths (Clock.seconds 2) "AS1").perform offline).1
      = .error (.unavailable .offline) := by
    decide +kernel
  have forgotten : offline.lists.get (Clock.seconds 2) "AS1" = none := by decide +kernel
  obtain ⟨log, result, t, renewal⟩ := renewed (Clock.seconds 2) offline forgotten
  refine ⟨held _ _ (Prod.ext answer rfl), stopped, ?_⟩
  rw [renewal.plain] at stopped ⊢
  exact (renewal.stopped _ stopped).1

end Datastore

end SiteCache
