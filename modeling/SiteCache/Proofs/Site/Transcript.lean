import SiteCache.Proofs.Site.Contents

/-!
# Transcripts of remote stores

A recorded store (`Recorded`) answers as the store in it and writes down every call with its answer.
A dialogue (`Dialogue`) says which calls and answers come with which result; dialogues follow one
another as actions do (`Dialogue.next`, `Dialogue.each`).  A read of a remote store does on a
recorded store what it does on the store, in its dialogue (`Dialogue.Records`).  Dialogues are sound
(`Dialogue.Sound`): the answers determine the calls that follow and the result, and an answer with
the wrong number of values makes the data corrupt.

Many keys are asked for in several calls (`Calls`), one after another until there is a problem
(`Sweep`).
-/

namespace SiteCache

open SiteCache.Action

/-! ### Recording -/

/-- A call of a remote store with its answer. -/
inductive Exchange where
  | keys (address : String) (answer : Except Fault (List Octets))
  | values (address : String) (keys : List Octets) (answer : Except Fault (List (Option Octets)))

namespace Exchange

/-- The keys whose values are asked for. -/
def asked : Exchange → List Octets
  | .keys _ _ => []
  | .values _ wanted _ => wanted

/-- The answer has more or fewer values than there are keys. -/
def Misaligned : Exchange → Prop
  | .values _ wanted (.ok found) => found.length ≠ wanted.length
  | _ => False

/-- Asking for the values of keys has a problem: the fault of the store, or the wrong number of
values. -/
inductive Problem (read : Read) (address : String) (keys : List Octets) : Exchange → Fault → Prop
  | failed (fault : Fault) : Problem read address keys (.values address keys (.error fault)) fault
  | misaligned (values : List (Option Octets)) (wrong : values.length ≠ keys.length) :
    Problem read address keys (.values address keys (.ok values))
      (.corrupt (.valueCount read keys.length values.length))

end Exchange

/-- A remote store with the calls that it has answered, in order. -/
structure Recorded (σ : Type) where
  store : σ
  transcript : List Exchange := []

namespace Recorded

variable {σ α : Type}

/-- Asks the store and writes the answer down. -/
def ask (a : Action σ α) (exchange : Except Fault α → Exchange) : Action (Recorded σ) α :=
  .ofStep fun r =>
    let (answer, store) := a.perform r.store
    (answer, ⟨store, r.transcript ++ [exchange answer]⟩)

instance [Remote σ] : Remote (Recorded σ) where
  values address keys := ask (Remote.values address keys) (.values address keys)
  keys address := ask (Remote.keys address) (.keys address)

end Recorded

/-! ### Dialogues -/

/-- Which calls with their answers come with which result. -/
abbrev Dialogue (α : Type) := List Exchange → Except Fault α → Prop

namespace Dialogue

variable {σ α β ι γ : Type} {T : Dialogue α}

/-- The result is there without a call. -/
def silent (answer : Except Fault α) : Dialogue α := fun log result =>
  log = [] ∧ result = answer

/-- The keys of an address are asked for. -/
def keys (address : String) : Dialogue (List Octets) := fun log result =>
  log = [.keys address result]

/-- The values of keys are asked for, and there are as many as keys. -/
def aligned (read : Read) (address : String) (keys : List Octets) :
    Dialogue (List (Option Octets)) := fun log result =>
  (∃ values, values.length = keys.length ∧ log = [.values address keys (.ok values)]
      ∧ result = .ok values)
    ∨ ∃ e fault, Exchange.Problem read address keys e fault ∧ log = [e] ∧ result = .error fault

/-- A dialogue is followed by another one about its value; a fault ends it. -/
def next (T : Dialogue α) (S : α → Dialogue β) : Dialogue β := fun log result =>
  (∃ fault, T log (.error fault) ∧ result = .error fault)
    ∨ ∃ x front behind, T front (.ok x) ∧ S x behind result ∧ log = front ++ behind

/-- One dialogue after another, for each element. -/
def each (T : ι → Dialogue α) : List ι → Dialogue (List α)
  | [] => silent (.ok [])
  | x :: xs => (T x).next fun y => (each T xs).next fun ys => silent (.ok (y :: ys))

theorem next_silent_iff {f : α → Except Fault β} {log : List Exchange} {result : Except Fault β} :
  (T.next fun x => silent (f x)) log result ↔ ∃ answer, T log answer ∧ result = answer.bind f
  := by
  constructor
  · rintro (⟨fault, said, rfl⟩ | ⟨x, front, _, said, ⟨rfl, rfl⟩, rfl⟩)
    · exact ⟨.error fault, said, rfl⟩
    · rw [List.append_nil]
      exact ⟨.ok x, said, rfl⟩
  · rintro ⟨fault | x, said, rfl⟩
    · exact .inl ⟨fault, said, rfl⟩
    · exact .inr ⟨x, log, [], said, ⟨rfl, rfl⟩, (List.append_nil log).symm⟩

theorem next_ok_iff {f : α → β} {log : List Exchange} {result : Except Fault β} :
  (T.next fun x => silent (.ok (f x))) log result ↔ ∃ answer, T log answer ∧ result = answer.map f
  := next_silent_iff

theorem silent_next (answer : Except Fault α) (f : α → Except Fault β) :
  ((silent answer).next fun x => silent (f x)) = silent (answer.bind f)
  := by
  funext log result
  apply propext
  rw [next_silent_iff]
  constructor
  · rintro ⟨_, ⟨rfl, rfl⟩, rfl⟩
    exact ⟨rfl, rfl⟩
  · rintro ⟨rfl, rfl⟩
    exact ⟨answer, ⟨rfl, rfl⟩, rfl⟩

/-- What was answered determines what is asked next and the result; an answer with the wrong number
of values makes the data corrupt. -/
structure Sound (T : Dialogue α) : Prop where
  determined : ∀ {log log' rest rest' result result'}, T log result → T log' result' →
    log ++ rest = log' ++ rest' → log = log' ∧ result = result'
  careful : ∀ {log result}, T log result → (∃ e ∈ log, e.Misaligned) →
    ∃ read expected got, result = .error (.corrupt (.valueCount read expected got))

/-- What was answered determines the result. -/
theorem Sound.unique (h : T.Sound) {log : List Exchange} {result result' : Except Fault α}
    (said : T log result) (said' : T log result') :
  result = result'
  := by
  have same : log ++ [] = log ++ [] := rfl
  apply (h.determined said said' same).2

theorem sound_silent (answer : Except Fault α) :
  Sound (silent answer)
  := by
  constructor
  · rintro _ _ _ _ _ _ ⟨rfl, rfl⟩ ⟨rfl, rfl⟩ -
    exact ⟨rfl, rfl⟩
  · rintro _ _ ⟨rfl, rfl⟩ ⟨e, none, -⟩
    cases none

theorem sound_keys (address : String) :
  Sound (keys address)
  := by
  constructor
  · rintro _ _ _ _ result result' rfl rfl same
    obtain ⟨-, rfl⟩ := Exchange.keys.inj (List.cons.inj same).1
    exact ⟨rfl, rfl⟩
  · rintro _ _ rfl ⟨e, he, misaligned⟩
    obtain rfl := List.mem_singleton.1 he
    exact misaligned.elim

theorem sound_aligned (read : Read) (address : String) (keys : List Octets) :
  Sound (aligned read address keys)
  := by
  constructor
  · rintro _ _ _ _ _ _ (⟨values, right, rfl, rfl⟩ | ⟨_, _, ⟨⟩ | ⟨values, wrong⟩, rfl, rfl⟩)
      (⟨values', right', rfl, rfl⟩ | ⟨_, _, ⟨⟩ | ⟨values', wrong'⟩, rfl, rfl⟩) same
    all_goals
      injection (List.cons.inj same).1 with _ _ answer
      cases answer
    all_goals first | exact ⟨rfl, rfl⟩ | contradiction
  · rintro _ _ (⟨values, right, rfl, rfl⟩ | ⟨_, _, problem, rfl, rfl⟩) ⟨e, he, misaligned⟩
    all_goals obtain rfl := List.mem_singleton.1 he
    · exact absurd right misaligned
    · cases problem with
      | failed fault => exact misaligned.elim
      | misaligned values wrong => exact ⟨read, keys.length, values.length, rfl⟩

theorem Sound.next {S : α → Dialogue β} (h : T.Sound) (later : ∀ x, (S x).Sound) :
  (T.next S).Sound
  := by
  constructor
  · rintro log log' rest rest' _ _ (⟨fault, said, rfl⟩ | ⟨x, front, behind, said, after, rfl⟩)
      (⟨fault', said', rfl⟩ | ⟨x', front', behind', said', after', rfl⟩) same
    · obtain ⟨rfl, ended⟩ := h.determined said said' same
      obtain rfl := Except.error.inj ended
      exact ⟨rfl, rfl⟩
    · rw [List.append_assoc] at same
      obtain ⟨-, ended⟩ := h.determined said said' same
      cases ended
    · rw [List.append_assoc] at same
      obtain ⟨-, ended⟩ := h.determined said said' same
      cases ended
    · rw [List.append_assoc, List.append_assoc] at same
      obtain ⟨rfl, value⟩ := h.determined said said' same
      obtain rfl := Except.ok.inj value
      obtain ⟨rfl, ended⟩ := (later x).determined after after' (List.append_cancel_left same)
      exact ⟨rfl, ended⟩
  · rintro _ _ (⟨fault, said, rfl⟩ | ⟨x, front, behind, said, after, rfl⟩) ⟨e, he, misaligned⟩
    · obtain ⟨read, expected, got, ended⟩ := h.careful said ⟨e, he, misaligned⟩
      obtain rfl := Except.error.inj ended
      exact ⟨read, expected, got, rfl⟩
    · rcases List.mem_append.1 he with first | second
      · obtain ⟨read, expected, got, ended⟩ := h.careful said ⟨e, first, misaligned⟩
        cases ended
      · apply (later x).careful after ⟨e, second, misaligned⟩

theorem sound_each {T : ι → Dialogue α} (h : ∀ x, (T x).Sound) (xs : List ι) :
  (each T xs).Sound
  := by
  induction xs with
  | nil => apply sound_silent
  | cons x xs ih => exact (h x).next fun _ => ih.next fun _ => sound_silent _

/-! ### Dialogues of actions -/

/-- On a recorded store an action does what it does on the store itself, in such a dialogue. -/
def Records (T : Dialogue α) (recorded : Action (Recorded σ) α) (plain : Action σ α) : Prop :=
  ∀ s before, ∃ log, T log (plain.perform s).1
    ∧ recorded.perform ⟨s, before⟩ = ((plain.perform s).1, ⟨(plain.perform s).2, before ++ log⟩)

theorem records_ofExcept (answer : Except Fault α) :
  Records (σ := σ) (silent answer) (.ofExcept answer) (.ofExcept answer)
  := by
  intro s before
  use [], ⟨rfl, rfl⟩
  rw [List.append_nil]
  rfl

theorem records_pure (x : α) :
  Records (σ := σ) (silent (.ok x)) (pure x) (pure x)
  := records_ofExcept (.ok x)

theorem records_throw (fault : Fault) :
  Records (α := α) (σ := σ) (silent (.error fault)) (throw fault) (throw fault)
  := records_ofExcept (.error fault)

theorem Records.bind {S : α → Dialogue β} {a : Action (Recorded σ) α} {b : Action σ α}
    {f : α → Action (Recorded σ) β} {g : α → Action σ β} (h : T.Records a b)
    (later : ∀ x, (S x).Records (f x) (g x)) :
  (T.next S).Records (a >>= f) (b >>= g)
  := by
  intro s before
  obtain ⟨log, said, ended⟩ := h s before
  rw [perform_bind, perform_bind, ended]
  generalize b.perform s = outcome at said
  obtain ⟨fault | x, t⟩ := outcome
  · exact ⟨log, .inl ⟨fault, said, rfl⟩, rfl⟩
  · obtain ⟨log', said', ended'⟩ := later x t (before ++ log)
    rw [List.append_assoc] at ended'
    exact ⟨log ++ log', .inr ⟨x, log, log', said, said', rfl⟩, ended'⟩

theorem records_mapM {T : ι → Dialogue α} {f : ι → Action (Recorded σ) α} {g : ι → Action σ α}
    (h : ∀ x, (T x).Records (f x) (g x)) (xs : List ι) :
  (each T xs).Records (xs.mapM f) (xs.mapM g)
  := by
  induction xs with
  | nil => apply records_pure
  | cons x xs ih =>
      rw [List.mapM_cons, List.mapM_cons]
      exact (h x).bind fun _ => ih.bind fun _ => records_pure _

section Remote

variable [Remote σ]

theorem records_keys (address : String) :
  Records (σ := σ) (keys address) (Remote.keys address) (Remote.keys address)
  := fun _ _ => ⟨_, rfl, rfl⟩

theorem records_aligned (read : Read) (address : String) (keys : List Octets) :
  Records (σ := σ) (aligned read address keys) (Remote.aligned read address keys)
    (Remote.aligned read address keys)
  := by
  intro s before
  have recorded : (Remote.values address keys).perform (⟨s, before⟩ : Recorded σ)
      = (((Remote.values address keys).perform s).1,
        ⟨((Remote.values address keys).perform s).2,
          before ++ [.values address keys ((Remote.values address keys).perform s).1]⟩) := rfl
  simp only [Remote.aligned, perform_bind, recorded]
  rcases (Remote.values address keys).perform s with ⟨fault | values, t⟩
  · exact ⟨_, .inr ⟨_, fault, .failed fault, rfl, rfl⟩, rfl⟩
  · by_cases right : values.length = keys.length
    · simp only [if_pos right]
      exact ⟨_, .inl ⟨values, right, rfl, rfl⟩, rfl⟩
    · simp only [if_neg right]
      exact ⟨_, .inr ⟨_, _, .misaligned values right, rfl, rfl⟩, rfl⟩

end Remote

end Dialogue

/-! ### Many keys -/

/-- Some items are asked for in several calls: in order, each item once, in full calls of
`Remote.batchSize` items of which only the last may be smaller. -/
structure Calls {α : Type} (items : List α) (calls : List (List α)) : Prop where
  whole : calls.flatten = items
  nonempty : [] ∉ calls
  small : ∀ call ∈ calls, call.length ≤ Remote.batchSize
  full : ∀ call ∈ calls.dropLast, call.length = Remote.batchSize

/-- Items are asked for in batches. -/
theorem calls_batches {α : Type} (items : List α) :
  Calls items (batches Remote.batchSize items)
  := by
  have batched : Batched Remote.batchSize items (batches Remote.batchSize items) :=
    batched_batches (by decide) items
  exact ⟨batched.whole, batched.filled, batched.small, batched.full⟩

theorem Calls.eq_batches {α : Type} {items : List α} {calls : List (List α)}
    (h : Calls items calls) :
  calls = batches Remote.batchSize items
  := (batched_iff (by decide)).1 ⟨h.whole, h.nonempty, h.small, h.full⟩

/-- Calls are made one after another until one of them has a problem: an answer is good for a call
and appears in an exchange, or an exchange is a problem of the call. -/
inductive Sweep {ι γ : Type} (good : ι → γ → Prop) (exchange : ι → γ → Exchange)
    (problem : ι → Exchange → Fault → Prop) : List ι → Dialogue (List γ)
  | done : Sweep good exchange problem [] [] (.ok [])
  | stopped {call : ι} {calls : List ι} {e : Exchange} {fault : Fault}
      (bad : problem call e fault) :
    Sweep good exchange problem (call :: calls) [e] (.error fault)
  | onward {call : ι} {calls : List ι} {answer : γ} {log : List Exchange}
      {result : Except Fault (List γ)} (well : good call answer)
      (rest : Sweep good exchange problem calls log result) :
    Sweep good exchange problem (call :: calls) (exchange call answer :: log)
      (result.map (answer :: ·))

/-- A sweep to the end asks what its calls ask. -/
theorem asked_of_sweep {ι γ : Type} {good : ι → γ → Prop} {exchange : ι → γ → Exchange}
    {problem : ι → Exchange → Fault → Prop} (keys : ι → List Octets)
    (asks : ∀ call answer, (exchange call answer).asked = keys call) {calls : List ι}
    {log : List Exchange} {result : Except Fault (List γ)} {answers : List γ}
    (sweep : Sweep good exchange problem calls log result) (ended : result = .ok answers) :
  log.flatMap Exchange.asked = calls.flatMap keys
  := by
  induction sweep generalizing answers with
  | done => rfl
  | stopped bad => cases ended
  | @onward call calls answer log result well rest ih =>
      cases result with
      | error fault => cases ended
      | ok later => rw [List.flatMap_cons, List.flatMap_cons, asks, ih rfl]

/-- Dialogues of one call each make a sweep. -/
theorem Dialogue.each_iff_sweep {ι α γ : Type} {T : ι → Dialogue α} {good : ι → γ → Prop}
    {exchange : ι → γ → Exchange} {problem : ι → Exchange → Fault → Prop} {f : γ → α}
    (call : ∀ x log result, T x log result
      ↔ (∃ answer, good x answer ∧ log = [exchange x answer] ∧ result = .ok (f answer))
        ∨ ∃ e fault, problem x e fault ∧ log = [e] ∧ result = .error fault)
    (calls : List ι) (log : List Exchange) (result : Except Fault (List α)) :
  each T calls log result
    ↔ ∃ outcome, Sweep good exchange problem calls log outcome
        ∧ result = outcome.map (·.map f)
  := by
  induction calls generalizing log result with
  | nil =>
      constructor
      · rintro ⟨rfl, rfl⟩
        exact ⟨.ok [], .done, rfl⟩
      · rintro ⟨_, ⟨⟩, rfl⟩
        exact ⟨rfl, rfl⟩
  | cons x calls ih =>
      constructor
      · rintro (⟨fault, said, rfl⟩ | ⟨y, front, behind, said, after, rfl⟩)
        · rcases (call _ _ _).1 said with ⟨_, -, -, ⟨⟩⟩ | ⟨e, _, bad, rfl, ⟨⟩⟩
          exact ⟨.error fault, .stopped bad, rfl⟩
        · rcases (call _ _ _).1 said with ⟨answer, well, rfl, ⟨⟩⟩ | ⟨_, _, -, -, ⟨⟩⟩
          rcases after with ⟨fault, after, rfl⟩ | ⟨ys, front, _, after, ⟨rfl, rfl⟩, rfl⟩
          · obtain ⟨_ | _, rest, ⟨⟩⟩ := (ih _ _).1 after
            exact ⟨_, .onward well rest, rfl⟩
          · obtain ⟨_ | _, rest, ⟨⟩⟩ := (ih _ _).1 after
            rw [List.append_nil]
            exact ⟨_, .onward well rest, rfl⟩
      · rintro ⟨outcome, sweep, rfl⟩
        cases sweep with
        | stopped bad => exact .inl ⟨_, (call _ _ _).2 (.inr ⟨_, _, bad, rfl, rfl⟩), rfl⟩
        | @onward _ _ answer behind outcome well rest =>
            have later := (ih _ _).2 ⟨outcome, rest, rfl⟩
            have first := (call _ _ _).2 (.inl ⟨answer, well, rfl, rfl⟩)
            refine .inr ⟨f answer, _, behind, first, ?_, rfl⟩
            cases outcome with
            | error fault => exact .inl ⟨fault, later, rfl⟩
            | ok answers => exact .inr ⟨_, behind, [], later, ⟨rfl, rfl⟩, (List.append_nil _).symm⟩

/-- Keys are asked for until an answer has a problem. -/
theorem Dialogue.each_aligned_iff {read : Read} {address : String} {calls : List (List Octets)}
    {log : List Exchange} {result : Except Fault (List (List (Option Octets)))} :
  each (aligned read address) calls log result
    ↔ Sweep (fun call values => values.length = call.length)
        (fun call values => .values address call (.ok values)) (Exchange.Problem read address) calls
        log result
  := by
  rw [each_iff_sweep (T := aligned read address) (f := id) fun _ _ _ => Iff.rfl]
  have same (outcome : Except Fault (List (List (Option Octets)))) :
      outcome.map (·.map id) = outcome := by
    cases outcome with
    | error fault => rfl
    | ok values => exact congrArg _ (List.map_id values)
  simp only [same, exists_eq_right']

end SiteCache
