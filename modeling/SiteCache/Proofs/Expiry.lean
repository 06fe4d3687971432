import SiteCache.Proofs.NameBook.History
import SiteCache.Proofs.Site.Confining
import SiteCache.Settings
import SiteCache.Site.Server

/-!
# Expiries past the end of the clock

Path lists and names are kept as long as the settings say, and settings are accepted whatever that
time is.  A request stops at the clock exactly if it stores a path list, or enters a name, at a time
from which the lifetime in the settings leads past the end of the clock
(`Settings.stops_at_clock_iff`); everything else that it does stops at other faults only.  This may
happen with accepted settings and at any time (`Settings.stops_at_clock_of_accepted`).

The faults that actions may stop at, and what they keep, are followed through all reads of a website
at once (`Remote.Admits`, `Reader.Permits`).
-/

namespace SiteCache

open SiteCache.Action Reader

/-! ### Remote stores -/

section Remote

variable {σ : Type} [Remote σ] {F : Fault → Prop}

/-- The calls of the remote store stop at such faults only, and these include what its answers may
lack. -/
structure Remote.Admits (σ : Type) [Remote σ] (F : Fault → Prop) : Prop where
  values : ∀ address keys, (Remote.values address keys : Action σ _).Confined (fun _ => True) F
  keys : ∀ address, (Remote.keys address : Action σ _).Confined (fun _ => True) F
  corrupt : ∀ damage, F (.corrupt damage)
  notFound : ∀ missing, F (.notFound missing)

/-- No call of the remote store stops at the clock. -/
structure Remote.Timeless (σ : Type) [Remote σ] : Prop where
  values : ∀ address keys (s : σ), ((Remote.values address keys).perform s).1 ≠ .error .clock
  keys : ∀ address (s : σ), ((Remote.keys address).perform s).1 ≠ .error .clock

theorem Remote.Timeless.admits (h : Remote.Timeless σ) :
  Remote.Admits σ (· ≠ .clock)
  := by
  refine ⟨?_, ?_, fun _ => by simp, fun _ => by simp⟩
  · rintro address keys s -
    refine ⟨?_, trivial⟩
    rintro _ stopped rfl
    exact h.values address keys s stopped
  · rintro address s -
    refine ⟨?_, trivial⟩
    rintro _ stopped rfl
    exact h.keys address s stopped

namespace Remote.Admits

variable (h : Remote.Admits σ F)
include h

theorem aligned (read : Read) (address : String) (keys : List Octets) :
  (Remote.aligned read address keys : Action σ _).Confined (fun _ => True) F
  := confined_aligned (h.values address) h.corrupt read keys

theorem single (address : String) (key : Octets) :
  (Remote.single address key : Action σ _).Confined (fun _ => True) F
  := confined_single (h.values address) h.corrupt key

theorem listPaths (address : String) :
  (Reader.listPaths address : Action σ _).Confined (fun _ => True) F
  := confined_listPaths (h.values address) h.corrupt (h.keys address)

theorem readHeaders (address : String) (beginning : Octets) (keys : List Octets) :
  (Reader.readHeaders address beginning keys : Action σ _).Confined (fun _ => True) F
  := (confined_mapM (fun batch => (h.aligned .headers address batch).bind fun _ =>
    confined_pure _) _).bind fun _ => confined_pure _

theorem headers (address path : String) :
  (Reader.headers address path : Action σ _).Confined (fun _ => True) F
  := (h.keys address).bind fun _ => (h.readHeaders address _ _).bind fun _ =>
    (h.readHeaders address _ _).bind fun _ => confined_pure _

theorem deployTime (address : String) :
  (Reader.deployTime address : Action σ _).Confined (fun _ => True) F
  := by
  apply (h.single _ _).bind
  intro b
  cases b with
  | none => exact confined_throw (h.notFound _)
  | some b =>
      apply confined_ofExcept
      intro fault undated
      rw [Reader.deployTimeOf] at undated
      split at undated
      · obtain rfl := Except.error.inj undated
        apply h.corrupt
      · split at undated
        · obtain rfl := Except.error.inj undated
          apply h.corrupt
        · split at undated
          · cases undated
          · obtain rfl := Except.error.inj undated
            apply h.corrupt

theorem assemble (address path : String) :
  (Reader.assemble address path : Action σ _).Confined (fun _ => True) F
  := confined_assemble (h.values address) h.corrupt (h.notFound _)

end Remote.Admits

end Remote

/-! ### Readers -/

namespace Reader

variable {σ : Type} [Remote σ] {I : Reader σ → Prop} {F : Fault → Prop} {now : Nat}
  {address : String} {r : Reader σ}

/-- Asking the remote store and reading the path list of a website at a time keep the property and
stop at such faults only, and so does not to find a path. -/
structure Permits (I : Reader σ → Prop) (F : Fault → Prop) (now : Nat) (address : String) :
    Prop where
  asked : ∀ {α : Type} {a : Action σ α}, a.Confined (fun _ => True) F → (onRemote a).Confined I F
  listed : (paths now address).Confined I F
  notFound : ∀ missing, F (.notFound missing)

theorem Permits.fetch (h : Permits I F now address) (admits : Remote.Admits σ F) (path : String) :
  (fetch now address path).Confined I F
  := confined_fetch h.listed (h.asked (admits.assemble address path)) (h.notFound _)

/-- What is kept from now on does not outlast the clock, or the path list is remembered. -/
def Settled (now : Nat) (address : String) (r : Reader σ) : Prop :=
  now + r.lists.lifetime < Clock.finish ∨ (r.lists.get now address).isSome

/-- The path list has to be read anew, and the remote store answers for it. -/
def Renews (now : Nat) (address : String) (r : Reader σ) : Prop :=
  r.lists.get now address = none ∧ ∃ found, ((listPaths address).perform r.remote).1 = .ok found

theorem permits_lifetime (lifetime : Nat) :
  Permits (fun r : Reader σ => r.lists.lifetime = lifetime) (fun _ => True) now address
  := by
  refine ⟨?_, ?_, fun _ => trivial⟩
  · intro α a _ r kept
    exact ⟨fun _ _ => trivial, kept⟩
  · intro r kept
    refine ⟨fun _ _ => trivial, ?_⟩
    rw [perform_paths]
    cases r.lists.get now address with
    | some list => exact kept
    | none =>
        simp only [PathLists.perform_set]
        cases ((listPaths address).perform r.remote).1 with
        | error fault => exact kept
        | ok found =>
            simp only
            split <;> exact kept

theorem permits_settled (admits : Remote.Admits σ (· ≠ .clock)) :
  Permits (Settled (σ := σ) now address) (· ≠ .clock) now address
  := by
  refine ⟨?_, ?_, admits.notFound⟩
  · intro α a confined r settled
    exact ⟨(confined r.remote trivial).1, settled⟩
  · intro r settled
    rw [perform_paths]
    cases remembered : r.lists.get now address with
    | some list =>
        refine ⟨?_, settled⟩
        rintro fault ⟨⟩
    | none =>
        have inTime : now + r.lists.lifetime < Clock.finish := by
          obtain inTime | remembered' := settled
          · exact inTime
          · rw [remembered] at remembered'
            cases remembered'
        have faults := (admits.listPaths address r.remote trivial).1
        simp only [PathLists.perform_set, if_pos inTime]
        cases listed : ((listPaths address).perform r.remote).1 with
        | error fault =>
            refine ⟨?_, .inl inTime⟩
            rintro _ ⟨⟩
            exact faults fault listed
        | ok found =>
            refine ⟨?_, .inl inTime⟩
            rintro fault ⟨⟩

/-- The action begins with reading the path list of a website at a time. -/
def Begins (now : Nat) (address : String) {α : Type} (a : Action (Reader σ) α) : Prop :=
  ∃ f, a = paths now address >>= f

theorem begins_paths :
  Begins now address (paths now address : Action (Reader σ) PathList)
  := ⟨pure, (bind_pure _).symm⟩

theorem Begins.bind {α β : Type} {a : Action (Reader σ) α} (h : Begins now address a)
    (f : α → Action (Reader σ) β) :
  Begins now address (a >>= f)
  := by
  obtain ⟨g, rfl⟩ := h
  exact ⟨fun list => g list >>= f, bind_assoc _ _ _⟩

theorem begins_stores (path : String) :
  Begins now address (stores now address path : Action (Reader σ) Bool)
  := begins_paths.bind _

theorem begins_resolve (requested : String) :
  Begins now address (resolve now address requested : Action (Reader σ) String)
  := by
  obtain ⟨rest, tried⟩ := candidates_eq_cons requested
  rw [resolve, tried]
  cases rest with
  | nil => exact (begins_stores requested).bind _
  | cons next rest => exact (begins_stores requested).bind _

theorem begins_fetch (path : String) :
  Begins now address (fetch now address path : Action (Reader σ) Octets)
  := (begins_stores path).bind _

/-- Such an action stops if the path list has to be read anew and would outlast the clock. -/
theorem Begins.stops {α : Type} {a : Action (Reader σ) α} (h : Begins now address a)
    (admits : Remote.Admits σ (· ≠ .clock)) (unsettled : ¬ r.Settled now address) :
  ∃ fault, (a.perform r).1 = .error fault ∧ (fault = .clock ↔ r.Renews now address)
  := by
  obtain ⟨late, forgotten⟩ := not_or.1 unsettled
  have forgotten := Option.not_isSome_iff_eq_none.1 forgotten
  have faults := (admits.listPaths address r.remote trivial).1
  have read := perform_paths now address r
  simp only [forgotten, PathLists.perform_set, if_neg late] at read
  obtain ⟨f, rfl⟩ := h
  cases listed : ((listPaths address).perform r.remote).1 with
  | error fault =>
      rw [listed] at read
      refine ⟨fault, stopped_bind (congrArg Prod.fst read), ?_⟩
      constructor
      · intro same
        exact absurd same (faults fault listed)
      · rintro ⟨-, found, answered⟩
        cases listed.symm.trans answered
  | ok found =>
      rw [listed] at read
      refine ⟨.clock, stopped_bind (congrArg Prod.fst read), ?_⟩
      exact ⟨fun _ => ⟨forgotten, found, listed⟩, fun _ => rfl⟩

end Reader

namespace Server

variable {σ α : Type} {hash : Identity → UInt64} {I : Reader σ → Prop} {F : Fault → Prop}

theorem confined_onReader {a : Action (Reader σ) α} (h : a.Confined I F) :
  (onReader a : Action (Server σ hash) α).Confined (fun s => I s.reader) F
  := h.within (fun _ hs => hs) fun _ _ _ ht => ht

theorem confined_onCache (a : Action (Cache hash) α) :
  (onCache a : Action (Server σ hash) _).Confined (fun s => I s.reader) F
  := by
  rintro ⟨reader, cache⟩ hs
  cases cache with
  | none => exact confined_pure none _ hs
  | some c =>
      refine ⟨?_, hs⟩
      rintro fault ⟨⟩

theorem confined_attempt {a : Action (Server σ hash) α}
    (h : a.Confined (fun s => I s.reader) F) :
  a.attempt.Confined (fun s => I s.reader) F
  := by
  intro s hs
  refine ⟨?_, (h s hs).2⟩
  rintro fault ⟨⟩

variable [Remote σ] {clock : Clock} {address : String}

theorem confined_dropIfStale (permits : Permits I F clock.steady address)
    (admits : Remote.Admits σ F) (i : Identity) :
  (dropIfStale i : Action (Server σ hash) Unit).Confined (fun s => I s.reader) F
  := by
  apply (confined_onCache _).bind
  intro taken
  cases taken with
  | none => apply confined_pure
  | some taken =>
      have asked := permits.asked (admits.deployTime i.address)
      apply (confined_attempt (confined_onReader asked)).bind
      intro deployed
      cases deployed with
      | error fault => apply confined_pure
      | ok deployed =>
          simp only
          split
          · exact (confined_onCache _).bind fun _ => confined_pure _
          · apply confined_pure

theorem confined_fromCache (permits : Permits I F clock.steady address)
    (admits : Remote.Admits σ F) (i : Identity) :
  (fromCache i : Action (Server σ hash) _).Confined (fun s => I s.reader) F
  := by
  apply (confined_dropIfStale permits admits i).bind
  intro _
  apply (confined_onCache _).bind
  intro found
  cases found <;> apply confined_pure

theorem confined_fromRemote (permits : Permits I F clock.steady address)
    (admits : Remote.Admits σ F) (path : String) :
  (fromRemote clock ⟨address, path⟩ : Action (Server σ hash) _).Confined (fun s => I s.reader) F
  := by
  apply (confined_onReader (permits.fetch admits path)).bind
  intro content
  exact (confined_onReader (permits.asked (admits.headers address path))).bind
    fun _ => confined_pure _

theorem confined_serve (permits : Permits I F clock.steady address)
    (admits : Remote.Admits σ F) (requested : String) (cached : Bool) :
  (serve clock address requested cached : Action (Server σ hash) _).Confined (fun s => I s.reader) F
  := by
  apply (confined_onReader (confined_resolve permits.listed requested)).bind
  intro path
  have remote : (fromRemote clock ⟨address, path⟩ : Action (Server σ hash) _).Confined
      (fun s => I s.reader) F :=
    confined_fromRemote permits admits path
  cases cached with
  | false => exact remote.bind fun _ => confined_pure _
  | true =>
      apply (confined_fromCache permits admits _).bind
      intro page
      cases page with
      | some page => apply confined_pure
      | none =>
          apply remote.bind
          intro page
          exact (confined_onCache _).bind fun _ => confined_pure _

/-- What begins with the path list of a website stops at the clock exactly if the list has to be
stored and would outlast the clock. -/
theorem begun_stops_at_clock_iff {α β : Type} {now : Nat} {a : Action (Reader σ) α}
    {f : α → Action (Server σ hash) β} (begins : Begins now address a)
    (admits : Remote.Admits σ (· ≠ .clock))
    (confined : (onReader a >>= f).Confined (fun s => s.reader.Settled now address) (· ≠ .clock))
    (s : Server σ hash) :
  ((onReader a >>= f).perform s).1 = .error .clock
    ↔ s.reader.Renews now address ∧ Clock.finish ≤ now + s.reader.lists.lifetime
  := by
  by_cases settled : s.reader.Settled now address
  · constructor
    · intro stopped
      exact absurd rfl ((confined s settled).1 _ stopped)
    · rintro ⟨⟨forgotten, -⟩, late⟩
      obtain inTime | remembered := settled
      · omega
      · rw [forgotten] at remembered
        cases remembered
  · obtain ⟨fault, stopped, renews⟩ := begins.stops admits settled
    have late := Nat.le_of_not_lt (not_or.1 settled).1
    have stopped : ((onReader a : Action (Server σ hash) α).perform s).1 = .error fault := stopped
    rw [stopped_bind stopped, Except.error.injEq, renews]
    exact (and_iff_left late).symm

/-! ### Everything that is asked of a website -/

/-- What may be asked for on a website: its path list, the stored path that answers a requested one,
the content of a stored path, or the page for a requested path, from the cache or without it. -/
inductive Ask where
  | paths
  | resolve (requested : String)
  | fetch (path : String)
  | page (requested : String) (cached : Bool)

/-- Asks at a time, without looking at the answer. -/
def Ask.act (clock : Clock) (address : String) : Ask → Action (Server σ hash) Unit
  | .paths => do let _ ← onReader (Reader.paths clock.steady address)
  | .resolve requested => do let _ ← onReader (Reader.resolve clock.steady address requested)
  | .fetch path => do let _ ← onReader (Reader.fetch clock.steady address path)
  | .page requested cached => do let _ ← serve clock address requested cached

theorem confined_act (permits : Permits I F clock.steady address)
    (admits : Remote.Admits σ F) (ask : Ask) :
  (ask.act clock address : Action (Server σ hash) Unit).Confined (fun s => I s.reader) F
  := by
  cases ask with
  | paths => exact (confined_onReader permits.listed).bind fun _ => confined_pure _
  | resolve requested =>
      exact (confined_onReader (confined_resolve permits.listed requested)).bind
        fun _ => confined_pure _
  | fetch path =>
      exact (confined_onReader (permits.fetch admits path)).bind fun _ => confined_pure _
  | page requested cached =>
      exact (confined_serve permits admits requested cached).bind fun _ => confined_pure _

/-- What may happen to a server: it is asked something, it forgets the path list of a website, or
its remote store becomes another one. -/
inductive Use (σ : Type) where
  | ask (clock : Clock) (address : String) (ask : Ask)
  | forget (address : String)
  | change (remote : σ)

/-- The server after it was used. -/
def use (s : Server σ hash) : Use σ → Server σ hash
  | .ask clock address ask => ((ask.act clock address).perform s).2
  | .forget address => { s with reader := s.reader.invalidate address }
  | .change remote => { s with reader := { s.reader with remote := remote } }

/-- The server after it was used some times. -/
def used (s : Server σ hash) (uses : List (Use σ)) : Server σ hash := uses.foldl use s

theorem lifetime_used (s : Server σ hash) (uses : List (Use σ)) :
  (s.used uses).reader.lists.lifetime = s.reader.lists.lifetime
  := by
  have admits : Remote.Admits σ fun _ => True :=
    ⟨fun _ _ _ _ => ⟨fun _ _ => trivial, trivial⟩, fun _ _ _ => ⟨fun _ _ => trivial, trivial⟩,
      fun _ => trivial, fun _ => trivial⟩
  apply List.foldlRecOn (motive := fun s' : Server σ hash =>
    s'.reader.lists.lifetime = s.reader.lists.lifetime)
  · rfl
  · intro s' kept u _
    cases u with
    | ask clock address ask =>
        exact (confined_act (permits_lifetime _) admits ask s' kept).2
    | forget address => exact kept
    | change remote => exact kept

/-- A page is asked for by resolving its path first. -/
theorem act_page (hash : Identity → UInt64) (clock : Clock) (address requested : String)
    (cached : Bool) :
  ∃ f, ((Ask.page requested cached).act clock address : Action (Server σ hash) Unit)
    = onReader (Reader.resolve clock.steady address requested) >>= f
  := ⟨_, bind_assoc _ _ _⟩

/-- Whatever is asked stops at the clock exactly if the path list has to be stored and would outlast
the clock. -/
theorem ask_stops_at_clock_iff (admits : Remote.Admits σ (· ≠ .clock)) (ask : Ask)
    (s : Server σ hash) :
  ((ask.act clock address).perform s).1 = .error .clock
    ↔ s.reader.Renews clock.steady address ∧ Clock.finish ≤ clock.steady + s.reader.lists.lifetime
  := by
  have confined : (ask.act clock address : Action (Server σ hash) Unit).Confined
      (fun s => s.reader.Settled clock.steady address) (· ≠ .clock) :=
    confined_act (permits_settled admits) admits ask
  cases ask with
  | paths => exact begun_stops_at_clock_iff begins_paths admits confined s
  | resolve requested => exact begun_stops_at_clock_iff (begins_resolve requested) admits confined s
  | fetch path => exact begun_stops_at_clock_iff (begins_fetch path) admits confined s
  | page requested cached =>
      obtain ⟨f, same⟩ := act_page (σ := σ) hash clock address requested cached
      rw [same] at confined ⊢
      exact begun_stops_at_clock_iff (begins_resolve requested) admits confined s

end Server

/-! ### Everything that happens to a name book -/

namespace NameBook

/-- When an event enters an address into a book, if it does. -/
def entersAt (b : NameBook) : Event → Option Nat
  | .get _ _ => none
  | .set now _ _ => some now
  | .resolve asked answered name answer =>
    if (b.lookup asked name).1 = none ∧ answer.isOk then some answered else none

/-- The resolver does not stop at the clock. -/
def Event.Timeless : Event → Prop
  | .resolve _ _ _ answer => answer ≠ .error .clock
  | _ => True

theorem lifetime_enter (b : NameBook) (now : Nat) (name address : String) :
  ((enter now name address).perform b).2.lifetime = b.lifetime
  := by
  rw [perform_enter]
  split <;> rfl

theorem lifetime_step (b : NameBook) (e : Event) :
  (b.step e).2.lifetime = b.lifetime
  := by
  cases e with
  | get now name => exact (bounds_lookup b now name).1
  | set now name address => exact lifetime_enter b now name address
  | resolve asked answered name answer =>
      have kept := (bounds_lookup b asked name).1
      rw [step_resolve]
      cases (b.lookup asked name).1 with
      | some known => exact kept
      | none =>
          cases answer with
          | error fault => exact kept
          | ok address => exact (lifetime_enter _ answered name address).trans kept

theorem lifetime_after (b : NameBook) (events : List Event) :
  (b.after events).lifetime = b.lifetime
  := by
  apply List.foldlRecOn (motive := fun b' : NameBook => b'.lifetime = b.lifetime)
  · rfl
  · intro b' kept e _
    rw [lifetime_step, kept]

theorem enter_stops_at_clock_iff (b : NameBook) (now : Nat) (name address : String) :
  ((enter now name address).perform b).1 = .error .clock ↔ Clock.finish ≤ now + b.lifetime
  := by
  rw [perform_enter]
  split
  next inTime => simp [inTime]
  next late => simp [Nat.le_of_not_lt late]

/-- An event stops at the clock exactly if it enters an address that would outlast the clock. -/
theorem event_stops_at_clock_iff {e : Event} (timeless : e.Timeless) (b : NameBook) :
  (b.step e).1.answer = .error .clock
    ↔ ∃ now, b.entersAt e = some now ∧ Clock.finish ≤ now + b.lifetime
  := by
  have entered (b : NameBook) (now : Nat) (name address : String) (seen : Option String) :
      ((enter now name address).perform b).1.map (fun _ => seen) = .error .clock
        ↔ Clock.finish ≤ now + b.lifetime := by
    rw [← enter_stops_at_clock_iff b now name address]
    cases ((enter now name address).perform b).1 <;> simp [Except.map]
  cases e with
  | get now name => simp [step, entersAt]
  | set now name address => simp [step, entersAt, entered]
  | resolve asked answered name answer =>
      have kept := (bounds_lookup b asked name).1
      rw [step_resolve, entersAt]
      cases (b.lookup asked name).1 with
      | some known => simp
      | none =>
          cases answer with
          | error fault => simpa [Except.isOk, Except.toBool, Event.Timeless] using timeless
          | ok address => simp [entered, kept, Except.isOk, Except.toBool]

end NameBook

/-! ### Settings -/

namespace Settings

variable {σ : Type} [Remote σ] {hash : Identity → UInt64}

/-- With any settings, after any use of the path lists and the name book that they lead to and at
any time, a request for a website stops at the clock exactly if a path list has to be stored, and a
request for a name exactly if an address has to be entered, at a time from which its lifetime leads
past the end of the clock. -/
theorem stops_at_clock_iff (timeless : Remote.Timeless σ) (s : Settings) (remote : σ)
    (cache : Option (Cache hash)) (uses : List (Server.Use σ)) (clock : Clock) (address : String)
    (ask : Server.Ask) (events : List NameBook.Event) {e : NameBook.Event}
    (resolved : e.Timeless) :
  let server := Server.used ⟨⟨s.pathLists, remote⟩, cache⟩ uses
  let book := s.nameBook.after events
  (((ask.act clock address).perform server).1 = .error .clock
      ↔ server.reader.Renews clock.steady address
        ∧ Clock.finish ≤ clock.steady + s.pathLists.lifetime)
    ∧ ((book.step e).1.answer = .error .clock
      ↔ ∃ now, book.entersAt e = some now ∧ Clock.finish ≤ now + s.nameBook.lifetime)
  := by
  intro server book
  have lists := Server.lifetime_used ⟨⟨s.pathLists, remote⟩, cache⟩ uses
  have names := NameBook.lifetime_after s.nameBook events
  constructor
  · rw [Server.ask_stops_at_clock_iff timeless.admits ask server, lists]
  · rw [NameBook.event_stops_at_clock_iff resolved book, names]

/-- Settings with the longest times. -/
def endless : Settings where
  cache := { pathListSeconds := 18446744073709551615 }
  names := { seconds := 18446744073709551615 }

/-- A website with one page. -/
def onePage : Datastore := ({} : Datastore).upload "" "a" [1] 1

theorem timeless_datastore :
  Remote.Timeless Datastore
  := by
  constructor
  · intro address keys d
    simp only [Remote.values, perform_ofStep]
    split
    · rintro ⟨⟩
    · rintro ⟨⟩
  · intro address d
    simp only [Remote.keys, perform_ofStep]
    split
    · rintro ⟨⟩
    · rintro ⟨⟩

/-- With the longest times every first request stops. -/
theorem stops_at_clock_iff_endless :
  let server : Server Datastore fun _ => 0 :=
    Server.used ⟨⟨endless.pathLists, onePage⟩, none⟩ [.forget ""]
  let book := endless.nameBook.after [.get 0 "b"]
  (((Server.Ask.fetch "a").act ⟨Time.ofNanoseconds 0, 0⟩ "" |>.perform server).1 = .error .clock
      ↔ server.reader.Renews 0 "" ∧ Clock.finish ≤ 0 + endless.pathLists.lifetime)
    ∧ ((book.step (.resolve 0 1 "b" (.ok ""))).1.answer = .error .clock
      ↔ ∃ now, book.entersAt (.resolve 0 1 "b" (.ok "")) = some now
        ∧ Clock.finish ≤ now + endless.nameBook.lifetime)
  := by
  have resolved : (NameBook.Event.resolve 0 1 "b" (.ok "")).Timeless := by rintro ⟨⟩
  exact stops_at_clock_iff timeless_datastore endless onePage none _ _ _ _ _ resolved

/-- A document with these times is accepted, and then whatever is asked first stops. -/
theorem stops_at_clock_of_accepted :
  (parse ("cache:\n  file_list_cache_ttl_seconds: 18446744073709551615\n"
      ++ "name_resolution:\n  ttl_seconds: 18446744073709551615\n")).toOption = some endless
    ∧ (∀ ask ∈ [.paths, .resolve "a", .fetch "a", .page "a" false],
      let server : Server Datastore fun _ => 0 := ⟨⟨endless.pathLists, onePage⟩, none⟩
      ((Server.Ask.act ⟨Time.ofNanoseconds 0, 0⟩ "" ask).perform server).1 = .error .clock)
    ∧ ((NameBook.enter 0 "b" "").perform endless.nameBook).1 = .error .clock
  := ⟨by decide +kernel, by decide +kernel, by decide +kernel⟩

end Settings

end SiteCache
