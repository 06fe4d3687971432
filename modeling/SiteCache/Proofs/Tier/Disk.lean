import SiteCache.Proofs.Engine
import SiteCache.Proofs.Tier.Record
import SiteCache.Tier.Disk
import Mathlib.Tactic.Common

/-!
# What a disk tier can do

How each operation of the disk tier may end, for any records whatever and for an engine that may
refuse any call.  Operations that only look answer what the records say or stop at a refusal
(`DiskTier.Answers`); the others end in one of the ways listed by `DiskTier.Removed`, `Evicted`,
`Prepared`, `Saved` and `Taken`.  In every case the records are those from before, changed by whole
batches, and each way to stop names its reason.
-/

namespace SiteCache

namespace Engine

/-- The engine has this fault for some call. -/
def Refuses (e : Engine) (fault : Fault) : Prop := ∃ calls, e.refuses calls = some fault

theorem not_refuses {e : Engine} (healthy : ∀ calls, e.refuses calls = none) (fault : Fault) :
  ¬ e.Refuses fault
  := by
  rintro ⟨calls, refused⟩
  rw [healthy] at refused
  cases refused

/-- The engine after these calls, newest first, of which none changed a record. -/
def asking (e : Engine) (calls : List Call) : Engine := { e with asked := calls ++ e.asked }

/-- The engine after these calls and the write of a batch. -/
def wrote (e : Engine) (calls : List Call) (batch : Batch) : Engine :=
  { e with
    records := e.records.apply batch
    asked := .write :: (calls ++ e.asked) }

end Engine

/-! ### What the records say -/

namespace Records

/-- The insertion id of an encoded identity. -/
def storedId (r : Records) (identity : Octets) : Except Fault (Option Nat) :=
  match r.get? (Record.key identity .id) with
  | some b => some <$> Record.decodeWord .entryId b
  | none => .ok none

/-- The time of an identity. -/
def modified (r : Records) (i : Identity) : Except Fault (Option Time) :=
  match r.get? (Record.key i.encode .time) with
  | some b => some <$> Record.decodeTime b
  | none => .ok none

/-- The headers of a stored identity. -/
def headers (r : Records) (i : Identity) : Except Fault (Option Headers) := do
  match ← r.storedId i.encode with
  | some _ => some <$> Record.decodeHeaders (r.get? (Record.key i.encode .headers))
  | none => .ok none

/-- The copy of an identity, if it has content and time. -/
def copy (r : Records) (i : Identity) : Except Fault (Option Copy) :=
  match r.get? (Record.key i.encode .content), r.get? (Record.key i.encode .time) with
  | some content, some time => do
    let modified ← Record.decodeTime time
    let headers ← Record.decodeHeaders (r.get? (Record.key i.encode .headers))
    pure (some ⟨i, content, modified, headers⟩)
  | _, _ => .ok none

/-- The changes and the growth that come with a copy to store under an insertion id. -/
def replacement (r : Records) (id : Nat) : Option Copy → Except Fault (Batch × Nat)
  | none => .ok ([], 0)
  | some c => do
    let previous ← r.storedId c.identity.encode
    let batch ← DiskTier.insertion c id previous
    pure (batch, if previous.isNone then 1 else 0)

/-- The index records in ascending order. -/
def index (r : Records) : List (Octets × Octets) := r.startingWith [Record.indexTag]

/-- The insertion id after the last indexed one. -/
def pastLast (r : Records) : Except Fault Nat :=
  match r.index.getLast? with
  | some (key, _) => (· + 1) <$> Record.decodeWord .indexId (key.drop 1)
  | none => .ok 0

/-- The next insertion id that the last save left. -/
def mark (r : Records) : Except Fault Nat :=
  match r.get? Record.nextIdKey with
  | some b => Record.decodeWord .nextId b
  | none => .ok 0

/-- The number of index records and the next insertion id. -/
def survey (r : Records) : Except Fault (Nat × Nat) := do
  let pastLast ← r.pastLast
  let mark ← r.mark
  pure (r.index.length, max pastLast mark)

end Records

namespace DiskTier

variable {α β : Type} {d : DiskTier}

/-- The tier whose engine was asked these calls, newest first, of which none changed a record. -/
def asking (d : DiskTier) (calls : List Engine.Call) : DiskTier :=
  { d with engine := d.engine.asking calls }

/-- The tier whose engine was asked these calls and then wrote a batch. -/
def wrote (d : DiskTier) (calls : List Engine.Call) (batch : Batch) : DiskTier :=
  { d with engine := d.engine.wrote calls batch }

theorem asking_asking (d : DiskTier) (later earlier : List Engine.Call) :
  (d.asking earlier).asking later = d.asking (later ++ earlier)
  := by
  simp only [asking, Engine.asking, List.append_assoc]

theorem wrote_asking (d : DiskTier) (later earlier : List Engine.Call) (batch : Batch) :
  (d.asking earlier).wrote later batch = d.wrote (later ++ earlier) batch
  := by
  simp only [asking, wrote, Engine.asking, Engine.wrote, List.append_assoc]

theorem nextId_wrote (d : DiskTier) (calls : List Engine.Call) (batch : Batch) :
  (d.wrote calls batch).nextId = d.nextId
  := rfl

theorem records_wrote (d : DiskTier) (calls : List Engine.Call) (batch : Batch) :
  (d.wrote calls batch).engine.records = d.engine.records.apply batch
  := rfl

/-! ### Looking at the records -/

/-- An action answers this and changes no record, unless the engine refuses one of its calls. -/
def Answers (a : Action DiskTier α) (d : DiskTier) (answer : Except Fault α) : Prop :=
  ∃ calls, a.perform d = (answer, d.asking calls)
    ∨ ∃ fault, d.engine.Refuses fault ∧ a.perform d = (.error fault, d.asking calls)

theorem answers_pure (x : α) (d : DiskTier) :
  Answers (pure x) d (.ok x)
  := ⟨[], .inl rfl⟩

theorem answers_ofExcept (answer : Except Fault α) (d : DiskTier) :
  Answers (.ofExcept answer) d answer
  := ⟨[], .inl rfl⟩

theorem Answers.map {a : Action DiskTier α} {answer : Except Fault α} (h : Answers a d answer)
    (f : α → β) :
  Answers (f <$> a) d (f <$> answer)
  := by
  obtain ⟨calls, ended | ⟨fault, refused, ended⟩⟩ := h
  · exact ⟨calls, .inl (by rw [Action.perform_map, ended]; rfl)⟩
  · exact ⟨calls, .inr ⟨fault, refused, by rw [Action.perform_map, ended]; rfl⟩⟩

/-- One look after another that is answered. -/
theorem Answers.next {a : Action DiskTier α} {x : α} (h : Answers a d (.ok x))
    {f : α → Action DiskTier β} {answer : Except Fault β}
    (later : ∀ calls, Answers (f x) (d.asking calls) answer) :
  Answers (a >>= f) d answer
  := by
  obtain ⟨calls, ended | ⟨fault, refused, ended⟩⟩ := h
  · obtain ⟨more, h⟩ := later calls
    rw [asking_asking] at h
    use more ++ calls
    rw [Action.perform_bind, ended]
    exact h
  · exact ⟨calls, .inr ⟨fault, refused, by rw [Action.perform_bind, ended]⟩⟩

/-- A look that stops at what it finds stops what comes after it. -/
theorem Answers.stop {a : Action DiskTier α} {fault : Fault} (h : Answers a d (.error fault))
    (f : α → Action DiskTier β) :
  Answers (a >>= f) d (.error fault)
  := by
  obtain ⟨calls, ended | ⟨refusal, refused, ended⟩⟩ := h
  · exact ⟨calls, .inl (by rw [Action.perform_bind, ended])⟩
  · exact ⟨calls, .inr ⟨refusal, refused, by rw [Action.perform_bind, ended]⟩⟩

/-- What may happen when a look comes first: a refusal ends the action, and so does a fault that the
look finds; otherwise the action goes on with the answer. -/
theorem Answers.cases_bind {a : Action DiskTier α} {answer : Except Fault α}
    (h : Answers a d answer)
    {f : α → Action DiskTier β} {P : Except Fault β × DiskTier → Prop}
    (refused : ∀ fault calls, d.engine.Refuses fault → P (.error fault, d.asking calls))
    (stopped : ∀ fault calls, answer = .error fault → P (.error fault, d.asking calls))
    (answered : ∀ x calls, answer = .ok x → P ((f x).perform (d.asking calls))) :
  P ((a >>= f).perform d)
  := by
  rw [Action.perform_bind]
  obtain ⟨calls, ended | ⟨fault, refusal, ended⟩⟩ := h
  · rw [ended]
    cases answer with
    | error fault => exact stopped fault calls rfl
    | ok x => exact answered x calls rfl
  · rw [ended]
    exact refused fault calls refusal

private theorem answers_ask (call : Engine.Call) (look : Engine → α) (d : DiskTier) :
  Answers (onEngine (Engine.ask call fun e => (look e, e.records))) d (.ok (look d.engine))
  := by
  refine ⟨[call], ?_⟩
  simp only [onEngine, Action.perform_within, Engine.ask, Action.perform_ofStep]
  cases refused : d.engine.refuses (call :: d.engine.asked) with
  | none => exact .inl rfl
  | some fault => exact .inr ⟨fault, ⟨_, refused⟩, rfl⟩

theorem answers_get (key : Octets) (d : DiskTier) :
  Answers (onEngine (Engine.get key)) d (.ok (d.engine.records.get? key))
  := answers_ask .get (fun e => e.records.get? key) d

theorem answers_scan (beginning : Octets) (d : DiskTier) :
  Answers (onEngine (Engine.scan beginning)) d (.ok (d.engine.records.startingWith beginning))
  := by
  rw [← d.engine.search.all_eq_filter]
  exact answers_ask .scan (fun e => e.search.all e.records beginning) d

theorem answers_first (beginning : Octets) (d : DiskTier) :
  Answers (onEngine (Engine.first beginning)) d
    (.ok (d.engine.records.startingWith beginning).head?)
  := by
  rw [← d.engine.search.first_eq_head?]
  exact answers_ask .first (fun e => e.search.first e.records beginning) d

theorem answers_storedId (identity : Octets) (d : DiskTier) :
  Answers (storedId identity) d (d.engine.records.storedId identity)
  := by
  apply (answers_get (Record.key identity .id) d).next
  intro calls
  rw [Records.storedId]
  cases d.engine.records.get? (Record.key identity .id) with
  | none => apply answers_pure
  | some b =>
      apply Answers.map
      apply answers_ofExcept

theorem answers_contains (i : Identity) (d : DiskTier) :
  Answers (contains i) d (Option.isSome <$> d.engine.records.storedId i.encode)
  := by
  have look := answers_storedId i.encode d
  cases found : d.engine.records.storedId i.encode with
  | error fault =>
      rw [found] at look
      apply look.stop
  | ok id =>
      rw [found] at look
      apply look.next
      intro calls
      apply answers_pure

theorem answers_modified (i : Identity) (d : DiskTier) :
  Answers (modified i) d (d.engine.records.modified i)
  := by
  apply (answers_get (Record.key i.encode .time) d).next
  intro calls
  rw [Records.modified]
  cases d.engine.records.get? (Record.key i.encode .time) with
  | none => apply answers_pure
  | some b =>
      apply Answers.map
      apply answers_ofExcept

theorem answers_headers (i : Identity) (d : DiskTier) :
  Answers (headers i) d (d.engine.records.headers i)
  := by
  have look := answers_storedId i.encode d
  rw [Records.headers]
  cases found : d.engine.records.storedId i.encode with
  | error fault =>
      rw [found] at look
      apply look.stop
  | ok id =>
      rw [found] at look
      apply look.next
      intro calls
      cases id with
      | none => apply answers_pure
      | some id =>
          apply (answers_get (Record.key i.encode .headers) (d.asking calls)).next
          intro more
          apply Answers.map
          apply answers_ofExcept

/-! ### Changing the records -/

/-- A batch is written or refused as a whole. -/
theorem write_ends (batch : Batch) (d : DiskTier) :
  (∃ fault, d.engine.Refuses fault
      ∧ (onEngine (Engine.write batch)).perform d = (.error fault, d.asking [.write]))
    ∨ (onEngine (Engine.write batch)).perform d = (.ok (), d.wrote [] batch)
  := by
  simp only [onEngine, Action.perform_within, Engine.write, Engine.ask, Action.perform_ofStep]
  cases refused : d.engine.refuses (.write :: d.engine.asked) with
  | none => exact .inr rfl
  | some fault => exact .inl ⟨fault, ⟨_, refused⟩, rfl⟩

/-- How a removal may end. -/
inductive Removed (d : DiskTier) (i : Identity) : Except Fault Bool → DiskTier → Prop where
  | refused {fault calls} (h : d.engine.Refuses fault) : Removed d i (.error fault) (d.asking calls)
  | unreadable {fault calls} (h : d.engine.records.storedId i.encode = .error fault) :
    Removed d i (.error fault) (d.asking calls)
  | absent {calls} (h : d.engine.records.storedId i.encode = .ok none) :
    Removed d i (.ok false) (d.asking calls)
  | removed {id calls} (h : d.engine.records.storedId i.encode = .ok (some id)) :
    Removed d i (.ok true)
      { d.wrote calls (deletion i.encode (some id)) with count := d.count - 1 }

theorem removed (i : Identity) (d : DiskTier) :
  Removed d i ((remove i).perform d).1 ((remove i).perform d).2
  := by
  refine (answers_storedId i.encode d).cases_bind
    (P := fun ending => Removed d i ending.1 ending.2) ?_ ?_ ?_
  · intro fault calls h
    exact .refused h
  · intro fault calls h
    exact .unreadable h
  · intro id calls h
    cases id with
    | none => exact .absent h
    | some id =>
        simp only [Action.perform_bind]
        obtain ⟨fault, refused, ended⟩ | ended :=
          write_ends (deletion i.encode (some id)) (d.asking calls)
        · rw [ended, asking_asking]
          exact .refused refused
        · rw [ended, wrote_asking]
          exact .removed h

/-- The changes of an eviction by the index record that leads to the evicted identity. -/
def eviction (key identity : Octets) : Batch :=
  .delete key
    :: if (Identity.decode identity).toOption.isSome then deletion identity none else []

/-- How an eviction may end. -/
inductive Evicted (d : DiskTier) : Except Fault (Option Identity) → DiskTier → Prop where
  | refused {fault calls} (h : d.engine.Refuses fault) : Evicted d (.error fault) (d.asking calls)
  | vacant {calls} (h : d.engine.records.index.head? = none) :
    Evicted d (.ok none) (d.asking calls)
  | evicted {key identity calls}
    (h : d.engine.records.index.head? = some (key, identity)) :
    Evicted d (.ok (Identity.decode identity).toOption)
      { d.wrote calls (eviction key identity) with count := d.count - 1 }

theorem Evicted.of_asking {calls : List Engine.Call} {answer : Except Fault (Option Identity)}
    {d' : DiskTier} (h : Evicted (d.asking calls) answer d') :
  Evicted d answer d'
  := by
  cases h with
  | refused h => rw [asking_asking]; exact .refused h
  | vacant h => rw [asking_asking]; exact .vacant h
  | evicted h => rw [wrote_asking]; exact .evicted h

theorem evicted (d : DiskTier) :
  Evicted d (evictOldest.perform d).1 (evictOldest.perform d).2
  := by
  refine (answers_first [Record.indexTag] d).cases_bind
    (P := fun ending => Evicted d ending.1 ending.2) ?_ ?_ ?_
  · intro fault calls h
    exact .refused h
  · intro fault calls h
    cases h
  · intro x calls h
    injection h with first
    cases x with
    | none => exact .vacant first
    | some x =>
        obtain ⟨key, identity⟩ := x
        simp only [Action.perform_bind]
        have written := write_ends (eviction key identity) (d.asking calls)
        rw [eviction] at written
        obtain ⟨fault, refused, ended⟩ | ended := written
        · rw [ended, asking_asking]
          exact .refused refused
        · rw [ended, wrote_asking]
          exact .evicted first

/-- How room for an identity is made: it has an insertion id already or the tier is not full, or the
oldest copy is evicted. -/
inductive Prepared (d : DiskTier) (identity : Octets) :
    Option Nat → Option Identity → DiskTier → Prop where
  | spare {previous calls} (h : d.engine.records.storedId identity = .ok previous)
    (room : ¬ (previous = none ∧ d.isFull = true)) :
    Prepared d identity previous none (d.asking calls)
  | evicted {dropped d'} (h : d.engine.records.storedId identity = .ok none)
    (full : d.isFull = true)
    (ends : Evicted d (.ok dropped) d') :
    Prepared d identity none dropped d'

/-- How a save may end. -/
inductive Saved (d : DiskTier) (c : Copy) : Except Fault (Option Identity) → DiskTier → Prop where
  | refused {fault calls} (h : d.engine.Refuses fault) : Saved d c (.error fault) (d.asking calls)
  | unreadable {fault calls} (h : d.engine.records.storedId c.identity.encode = .error fault) :
    Saved d c (.error fault) (d.asking calls)
  | stopped {fault previous dropped d' calls}
    (prepared : Prepared d c.identity.encode previous dropped d')
    (h : d.engine.Refuses fault ∨ insertion c d'.nextId previous = .error fault) :
    Saved d c (.error fault) (d'.asking calls)
  | saved {previous dropped d' batch calls}
    (prepared : Prepared d c.identity.encode previous dropped d')
    (h : insertion c d'.nextId previous = .ok batch) :
    Saved d c (.ok dropped)
      { d'.wrote calls batch with
        nextId := d'.nextId + 1
        count := if previous.isNone then d'.count + 1 else d'.count }

theorem Evicted.refuses_eq {answer : Except Fault (Option Identity)} {d' : DiskTier}
    (h : Evicted d answer d') :
  d'.engine.refuses = d.engine.refuses
  := by
  cases h <;> rfl

theorem Prepared.refuses_eq {identity : Octets} {previous : Option Nat} {dropped : Option Identity}
    {d' : DiskTier} (h : Prepared d identity previous dropped d') :
  d'.engine.refuses = d.engine.refuses
  := by
  cases h with
  | spare => rfl
  | evicted _ _ ends => exact ends.refuses_eq

/-- The last steps of a save, from the tier in which there is room. -/
private theorem saved_of_prepared {c : Copy} {previous : Option Nat} {dropped : Option Identity}
    {d' : DiskTier} (prepared : Prepared d c.identity.encode previous dropped d') :
  let ending := Action.perform (do
    let batch ← .ofExcept (insertion c (← get).nextId previous)
    onEngine (Engine.write batch)
    modify fun d =>
      { d with
        nextId := d.nextId + 1
        count := if previous.isNone then d.count + 1 else d.count }
    pure dropped) d'
  Saved d c ending.1 ending.2
  := by
  simp only [Action.perform_bind, Action.perform_get, Action.perform_ofExcept]
  cases changes : insertion c d'.nextId previous with
  | error fault => exact @Saved.stopped d c fault _ _ d' [] prepared (.inr changes)
  | ok batch =>
      simp only
      obtain ⟨fault, refused, ended⟩ | ended := write_ends batch d'
      · rw [ended]
        refine .stopped prepared (.inl ?_)
        rwa [Engine.Refuses, ← prepared.refuses_eq]
      · rw [ended]
        exact .saved prepared changes

theorem saved (c : Copy) (d : DiskTier) :
  Saved d c ((save c).perform d).1 ((save c).perform d).2
  := by
  refine (answers_storedId c.identity.encode d).cases_bind
    (P := fun ending => Saved d c ending.1 ending.2) ?_ ?_ ?_
  · intro fault calls h
    exact .refused h
  · intro fault calls h
    exact .unreadable h
  · intro previous calls found
    simp only [Action.perform_bind (β := Option Identity) get, Action.perform_get]
    split
    next evict =>
      obtain ⟨new, full⟩ := evict
      obtain rfl := Option.isNone_iff_eq_none.1 new
      have ends := (evicted (d.asking calls)).of_asking
      rw [Action.perform_bind]
      cases ended : evictOldest.perform (d.asking calls) with
      | mk answer d' =>
          rw [ended] at ends
          cases answer with
          | error fault =>
              cases ends with
              | refused h => exact .refused h
          | ok dropped => exact saved_of_prepared (.evicted found full ends)
    next spare =>
      apply saved_of_prepared
      apply Prepared.spare found
      rintro ⟨rfl, full⟩
      exact spare ⟨rfl, full⟩

private theorem answers_ofExcept_bind (answer : Except Fault α) (f : α → β) (d : DiskTier) :
  Answers (.ofExcept answer >>= fun x => pure (f x)) d (answer >>= fun x => pure (f x))
  := by
  cases answer with
  | error fault => exact ⟨[], .inl rfl⟩
  | ok x => exact ⟨[], .inl rfl⟩

theorem answers_self (d : DiskTier) :
  Answers get d (.ok d)
  := ⟨[], .inl rfl⟩

theorem answers_replacement (demoted : Option Copy) (d : DiskTier) :
  Answers (replacement demoted) d (d.engine.records.replacement d.nextId demoted)
  := by
  cases demoted with
  | none => apply answers_pure
  | some c =>
      have look := answers_storedId c.identity.encode d
      rw [Records.replacement]
      cases found : d.engine.records.storedId c.identity.encode with
      | error fault =>
          rw [found] at look
          apply look.stop
      | ok previous =>
          rw [found] at look
          apply look.next
          intro calls
          apply (answers_self (d.asking calls)).next
          intro more
          exact answers_ofExcept_bind (insertion c d.nextId previous) _ _

/-- How a copy may be taken out and another one stored. -/
inductive Taken (d : DiskTier) (i : Identity) (demoted : Option Copy) :
    Except Fault (Option Copy) → DiskTier → Prop where
  | refused {fault calls} (h : d.engine.Refuses fault) :
    Taken d i demoted (.error fault) (d.asking calls)
  | unreadable {fault calls} (h : d.engine.records.storedId i.encode = .error fault) :
    Taken d i demoted (.error fault) (d.asking calls)
  | absent {calls} (h : d.engine.records.storedId i.encode = .ok none) :
    Taken d i demoted (.ok none) (d.asking calls)
  | unprepared {id fault calls} (h : d.engine.records.storedId i.encode = .ok (some id))
    (changes : d.engine.records.replacement d.nextId demoted = .error fault) :
    Taken d i demoted (.error fault) (d.asking calls)
  | taken {id batch added calls} (h : d.engine.records.storedId i.encode = .ok (some id))
    (changes : d.engine.records.replacement d.nextId demoted = .ok (batch, added)) :
    Taken d i demoted (d.engine.records.copy i)
      { d.wrote calls (deletion i.encode (some id) ++ batch) with
        nextId := if demoted.isSome then d.nextId + 1 else d.nextId
        count := d.count - 1 + added }

theorem Taken.of_asking {i : Identity} {demoted : Option Copy} {calls : List Engine.Call}
    {answer : Except Fault (Option Copy)} {d' : DiskTier}
    (h : Taken (d.asking calls) i demoted answer d') :
  Taken d i demoted answer d'
  := by
  cases h with
  | refused h => rw [asking_asking]; exact .refused h
  | unreadable h => rw [asking_asking]; exact .unreadable h
  | absent h => rw [asking_asking]; exact .absent h
  | unprepared h changes => rw [asking_asking]; exact .unprepared h changes
  | taken h changes => rw [wrote_asking]; exact .taken h changes

/-- A field of the copy to take is read before anything is written. -/
private theorem taken_of_get {i : Identity} {demoted : Option Copy} {calls : List Engine.Call}
    {key : Octets} {f : Option Octets → Action DiskTier (Option Copy)}
    (next : ∀ calls, let ending := (f (d.engine.records.get? key)).perform (d.asking calls)
      Taken d i demoted ending.1 ending.2) :
  let ending := (onEngine (Engine.get key) >>= f).perform (d.asking calls)
  Taken d i demoted ending.1 ending.2
  := by
  refine (answers_get key (d.asking calls)).cases_bind
    (P := fun ending => Taken d i demoted ending.1 ending.2) ?_ ?_ ?_
  · intro fault more h
    rw [asking_asking]
    exact .refused h
  · intro fault more h
    cases h
  · intro x more h
    obtain rfl := Except.ok.inj h
    rw [asking_asking]
    exact next (more ++ calls)

/-- What was read before the write is put together behind it. -/
private theorem perform_decoded (r : Records) (i : Identity) (d : DiskTier) :
  Action.perform
    (match r.get? (Record.key i.encode .content), r.get? (Record.key i.encode .time) with
    | some content, some time => do
      let modified ← .ofExcept (Record.decodeTime time)
      let headers ← .ofExcept (Record.decodeHeaders (r.get? (Record.key i.encode .headers)))
      pure (some ⟨i, content, modified, headers⟩)
    | _, _ => pure none) d = (r.copy i, d)
  := by
  rw [Records.copy]
  cases r.get? (Record.key i.encode .content) with
  | none => rfl
  | some content =>
      cases r.get? (Record.key i.encode .time) with
      | none => rfl
      | some time =>
          simp only
          cases Record.decodeTime time with
          | error fault => rfl
          | ok t =>
              cases Record.decodeHeaders (r.get? (Record.key i.encode .headers)) with
              | error fault => rfl
              | ok h => rfl

theorem taken (i : Identity) (demoted : Option Copy) (d : DiskTier) :
  Taken d i demoted ((takeReplacing i demoted).perform d).1 ((takeReplacing i demoted).perform d).2
  := by
  refine (answers_storedId i.encode d).cases_bind
    (P := fun ending => Taken d i demoted ending.1 ending.2) ?_ ?_ ?_
  · intro fault calls h
    exact .refused h
  · intro fault calls h
    exact .unreadable h
  · intro id calls h
    cases id with
    | none => exact .absent h
    | some id =>
        apply taken_of_get
        intro calls
        apply taken_of_get
        intro calls
        apply taken_of_get
        intro calls
        refine (answers_replacement demoted (d.asking calls)).cases_bind
          (P := fun ending => Taken d i demoted ending.1 ending.2) ?_ ?_ ?_
        · intro fault more refused
          rw [asking_asking]
          exact .refused refused
        · intro fault more changes
          rw [asking_asking]
          exact .unprepared h changes
        · intro x more changes
          obtain ⟨batch, added⟩ := x
          rw [asking_asking]
          simp only [Action.perform_bind]
          obtain ⟨fault, refused, ended⟩ | ended :=
            write_ends (deletion i.encode (some id) ++ batch) (d.asking (more ++ calls))
          · rw [ended, asking_asking]
            exact .refused refused
          · rw [ended, wrote_asking]
            refine Eq.subst (motive := fun ending => Taken d i demoted ending.1 ending.2)
              (perform_decoded d.engine.records i _).symm ?_
            exact .taken h changes

/-- A copy that is taken out is the one that the records tell of. -/
theorem Taken.copy_eq {i : Identity} {demoted : Option Copy} {c : Copy} {d' : DiskTier}
    (h : Taken d i demoted (.ok (some c)) d') :
  d.engine.records.copy i = .ok (some c)
  := by
  generalize answered : (.ok (some c) : Except Fault (Option Copy)) = answer at h
  cases h with
  | refused => cases answered
  | unreadable => cases answered
  | absent => cases answered
  | unprepared => cases answered
  | taken => rfl

/-! ### Opening and closing -/

private theorem perform_onEngine_bind (a : Action Engine α) (f : α → Action Engine β)
    (d : DiskTier) :
  (onEngine (a >>= f)).perform d = (onEngine a >>= fun x => onEngine (f x)).perform d
  := by
  simp only [onEngine, Action.perform_within, Action.perform_bind]
  rcases a.perform d.engine with ⟨fault | x, e⟩ <;> rfl

/-- One look at an engine after another. -/
private theorem Answers.onEngine_next {a : Action Engine α} {x : α}
    (h : Answers (onEngine a) d (.ok x)) {f : α → Action Engine β} {answer : Except Fault β}
    (later : ∀ calls, Answers (onEngine (f x)) (d.asking calls) answer) :
  Answers (onEngine (a >>= f)) d answer
  := by
  rw [Answers, perform_onEngine_bind]
  exact h.next later

private theorem answers_mark (length pastLast : Nat) (d : DiskTier) :
  Answers
    (onEngine do
      let mark ← match ← Engine.get Record.nextIdKey with
        | some b => .ofExcept (Record.decodeWord .nextId b)
        | none => pure 0
      pure (length, max pastLast mark)) d
    (d.engine.records.mark >>= fun mark => .ok (length, max pastLast mark))
  := by
  apply (answers_get Record.nextIdKey d).onEngine_next
  intro calls
  rw [Records.mark]
  cases d.engine.records.get? Record.nextIdKey with
  | none => exact ⟨[], .inl rfl⟩
  | some b =>
      simp only
      cases Record.decodeWord .nextId b with
      | error fault => exact ⟨[], .inl rfl⟩
      | ok mark => exact ⟨[], .inl rfl⟩

theorem answers_survey (d : DiskTier) :
  Answers (onEngine survey) d d.engine.records.survey
  := by
  apply (answers_scan [Record.indexTag] d).onEngine_next
  intro calls
  rw [Records.survey, Records.pastLast, Records.index]
  cases (d.engine.records.startingWith [Record.indexTag]).getLast? with
  | none => exact answers_mark _ 0 (d.asking calls)
  | some x =>
      have look : Answers (onEngine (.ofExcept (Record.decodeWord .indexId (x.1.drop 1))))
          (d.asking calls) (Record.decodeWord .indexId (x.1.drop 1)) := ⟨[], .inl rfl⟩
      simp only
      cases word : Record.decodeWord .indexId (x.1.drop 1) with
      | error fault => exact ⟨[], .inl rfl⟩
      | ok last =>
          rw [word] at look
          apply look.onEngine_next
          intro more
          exact answers_mark _ (last + 1) ((d.asking calls).asking more)

theorem answers_close (d : DiskTier) :
  Answers close d (.ok ())
  := answers_ask .close (fun _ => ()) d

/-- An engine is opened as it is, with count and next insertion id from its records, unless the
engine refuses a call or the records are not readable. -/
theorem opened (e : Engine) {capacity : Nat} (room : capacity ≠ 0) :
  ∃ calls,
    (∃ count nextId, e.records.survey = .ok (count, nextId)
      ∧ open? e capacity = .ok ⟨e.asking calls, capacity, count, nextId⟩)
    ∨ ∃ fault, (e.Refuses fault ∨ e.records.survey = .error fault)
      ∧ open? e capacity = .error (fault, e.asking calls)
  := by
  obtain ⟨calls, look⟩ := answers_survey ⟨e, capacity, 0, 0⟩
  use calls
  simp only [onEngine, Action.perform_within, asking] at look
  rw [open?, if_neg room]
  cases ended : survey.perform e with
  | mk answer e' =>
      rw [ended] at look
      simp only [Prod.mk.injEq, mk.injEq, and_true] at look
      obtain ⟨answer, rfl⟩ | ⟨fault, refused, rfl, rfl⟩ := look
      · cases read : e.records.survey with
        | error fault =>
            rw [read] at answer
            subst answer
            exact .inr ⟨fault, .inr rfl, rfl⟩
        | ok x =>
            obtain ⟨count, nextId⟩ := x
            rw [read] at answer
            subst answer
            exact .inl ⟨count, nextId, rfl, rfl⟩
      · exact .inr ⟨fault, .inl refused, rfl⟩

end DiskTier

end SiteCache
