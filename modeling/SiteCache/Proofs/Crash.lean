import SiteCache.Engine

/-!
# Actions that are cut short

A crash is an engine that answers its first calls and no call after them (`Engine.upTo`).  An action
on a state with an engine in it may be cut short by a crash at any of its calls.  It then ends in
one of two ways (`Action.Cuts`): as it does without the crash, or on an engine that is gone, with
records that the uncut action has passed through.  The records that a later crash leaves are related
to those that an earlier one leaves, for a relation that every write respects.  When the engine is
gone, nothing changes the records any more (`Action.Orderly`).
-/

namespace SiteCache

/-- The engine that answers its first calls, so many in number, as this one does, and none after
them. -/
def Engine.upTo (n : Nat) (e : Engine) : Engine :=
  { e with
    refuses := fun calls =>
      if calls.length ≤ n then e.refuses calls else some (.storage (.engine "gone")) }

/-- A state with an engine in it. -/
class HasEngine (σ : Type) where
  engine : σ → Engine
  withEngine : σ → Engine → σ
  engine_withEngine : ∀ s e, engine (withEngine s e) = e

instance : HasEngine Engine := ⟨id, fun _ e => e, fun _ _ => rfl⟩

namespace HasEngine

variable {σ : Type} [HasEngine σ] {s : σ} {m n : Nat}

/-- The records of the engine in a state. -/
def records (s : σ) : Records := (engine s).records

/-- The number of calls of the engine in a state. -/
def asked (s : σ) : Nat := (engine s).asked.length

/-- The state whose engine is gone after so many calls. -/
def upTo (n : Nat) (s : σ) : σ := withEngine s ((engine s).upTo n)

/-- The engine in a state has been asked so many calls and refuses all others. -/
structure Gone (n : Nat) (s : σ) : Prop where
  asked : n ≤ asked s
  refuses : ∀ calls, n < calls.length → ∃ fault, (engine s).refuses calls = some fault

@[simp]
theorem engine_upTo (n : Nat) (s : σ) :
  engine (upTo n s) = (engine s).upTo n
  := engine_withEngine s _

@[simp]
theorem records_upTo (n : Nat) (s : σ) :
  records (upTo n s) = records s
  := by
  rw [records, engine_upTo]
  rfl

@[simp]
theorem asked_upTo (n : Nat) (s : σ) :
  HasEngine.asked (upTo n s) = HasEngine.asked s
  := by
  rw [HasEngine.asked, engine_upTo]
  rfl

theorem gone_upTo (reached : n ≤ HasEngine.asked s) :
  Gone n (upTo n s)
  := by
  refine ⟨by rwa [asked_upTo], ?_⟩
  intro calls later
  rw [engine_upTo]
  exact ⟨_, if_neg (Nat.not_le_of_lt later)⟩

/-- Whether an engine is gone depends on the engine alone. -/
theorem Gone.congr {τ : Type} [HasEngine τ] {t : τ} (h : Gone n s) (same : engine t = engine s) :
  Gone n t
  := by
  obtain ⟨reached, refuses⟩ := h
  refine ⟨?_, ?_⟩
  · rwa [HasEngine.asked, same]
  · rwa [same]

end HasEngine

namespace Action

open HasEngine

variable {σ τ α β : Type} [HasEngine σ] [HasEngine τ] {R : Records → Records → Prop}

/-! ### Actions on an engine that is gone -/

/-- An action leaves the records of an engine alone that is gone, and takes no call back. -/
structure Orderly (a : Action σ α) : Prop where
  frozen : ∀ n s, Gone n s → Gone n (a.perform s).2 ∧ records (a.perform s).2 = records s
  grows : ∀ s, asked s ≤ asked (a.perform s).2

/-- An action leaves the engine alone. -/
theorem orderly_of_engine {a : Action σ α} (same : ∀ s, engine (a.perform s).2 = engine s) :
  a.Orderly
  := by
  constructor
  · intro n s gone
    exact ⟨gone.congr (same s), by rw [records, same, records]⟩
  · intro s
    exact Nat.le_of_eq (by rw [asked, asked, same])

theorem orderly_pure (x : α) :
  (pure x : Action σ α).Orderly
  := orderly_of_engine fun _ => rfl

theorem orderly_throw (fault : Fault) :
  (throw fault : Action σ α).Orderly
  := orderly_of_engine fun _ => rfl

theorem orderly_ofExcept (answer : Except Fault α) :
  (ofExcept answer : Action σ α).Orderly
  := orderly_of_engine fun _ => rfl

theorem orderly_get :
  (get : Action σ σ).Orderly
  := orderly_of_engine fun _ => rfl

/-- Two actions ask for no fewer calls than the first of them. -/
theorem asked_le_bind {a : Action σ α} {f : α → Action σ β} (next : ∀ x, (f x).Orderly) (s : σ) :
  asked (a.perform s).2 ≤ asked ((a >>= f).perform s).2
  := by
  rw [perform_bind]
  rcases a.perform s with ⟨fault | x, t⟩
  · exact Nat.le_refl _
  · exact (next x).grows t

theorem Orderly.bind {a : Action σ α} {f : α → Action σ β} (h : a.Orderly)
    (next : ∀ x, (f x).Orderly) :
  (a >>= f).Orderly
  := by
  constructor
  · intro n s gone
    have first := h.frozen n s gone
    rw [perform_bind]
    rcases ended : a.perform s with ⟨fault | x, t⟩
    · rwa [ended] at first
    · rw [ended] at first
      obtain ⟨later, same⟩ := (next x).frozen n t first.1
      exact ⟨later, same.trans first.2⟩
  · intro s
    exact Nat.le_trans (h.grows s) (asked_le_bind next s)

theorem Orderly.map {a : Action σ α} (h : a.Orderly) (f : α → β) :
  (f <$> a).Orderly
  := ⟨fun n s gone => by rw [perform_map]; exact h.frozen n s gone,
    fun s => by rw [perform_map]; exact h.grows s⟩

theorem Orderly.attempt {a : Action σ α} (h : a.Orderly) :
  (attempt a).Orderly
  := ⟨h.frozen, h.grows⟩

/-- A part of a state that its engine belongs to. -/
structure Bears (part : σ → τ) (replace : σ → τ → σ) : Prop where
  engine_part : ∀ s, engine (part s) = engine s
  engine_replace : ∀ s t, engine (replace s t) = engine t
  part_upTo : ∀ n s, part (upTo n s) = upTo n (part s)
  replace_upTo : ∀ n s t, replace (upTo n s) (upTo n t) = upTo n (replace s t)

theorem Orderly.within {part : σ → τ} {replace : σ → τ → σ} {a : Action τ α} (h : a.Orderly)
    (bears : Bears part replace) :
  (within part replace a).Orderly
  := by
  constructor
  · intro n s gone
    obtain ⟨later, same⟩ := h.frozen n (part s) (gone.congr (bears.engine_part s))
    refine ⟨later.congr (bears.engine_replace s _), ?_⟩
    rw [perform_within, records, bears.engine_replace, records, ← bears.engine_part]
    exact same
  · intro s
    rw [perform_within, asked, asked, bears.engine_replace, ← bears.engine_part]
    exact h.grows (part s)

theorem asks_ask (call : Engine.Call) (effect : Engine → α × Records) (e : Engine) :
  asked ((Engine.ask call effect).perform e).2 = asked e + 1
  := by
  simp only [Engine.ask, perform_ofStep]
  split <;> rfl

theorem orderly_ask (call : Engine.Call) (effect : Engine → α × Records) :
  (Engine.ask call effect).Orderly
  := by
  constructor
  · rintro n e ⟨reached, refuses⟩
    obtain ⟨fault, refused⟩ := refuses (call :: e.asked) (Nat.lt_succ_of_le reached)
    have ended : (Engine.ask call effect).perform e
        = (.error fault, { e with asked := call :: e.asked }) := by
      simp only [engine, id] at refused
      simp only [Engine.ask, perform_ofStep, refused]
    rw [ended]
    exact ⟨⟨Nat.le_succ_of_le reached, refuses⟩, rfl⟩
  · intro e
    simp only [Engine.ask, perform_ofStep]
    split <;> exact Nat.le_succ _

/-! ### Actions that a crash cuts short -/

/-- The action may be cut short at any call: either it ends as it does without the crash, or the
engine is gone before the action would have made its last call.  Records left by a crash are related
to those left by any later one. -/
structure Cuts (R : Records → Records → Prop) (a : Action σ α) (s : σ) : Prop where
  ends : ∀ n, a.perform (upTo n s) = ((a.perform s).1, upTo n (a.perform s).2)
    ∨ Gone n (a.perform (upTo n s)).2 ∧ n < asked (a.perform s).2
  chain : ∀ m n, m ≤ n → R (records (a.perform (upTo m s)).2) (records (a.perform (upTo n s)).2)

namespace Cuts

variable {a : Action σ α} {f : α → Action σ β} {s : σ}

/-- A late crash makes no difference. -/
theorem uncut (h : Cuts R a s) {n : Nat} (late : asked (a.perform s).2 ≤ n) :
  a.perform (upTo n s) = ((a.perform s).1, upTo n (a.perform s).2)
  := (h.ends n).resolve_right fun cut => Nat.not_lt_of_le late cut.2

/-- The records left by any crash are related to those left without it. -/
theorem last (h : Cuts R a s) (n : Nat) :
  R (records (a.perform (upTo n s)).2) (records (a.perform s).2)
  := by
  have chain := h.chain n _ (Nat.le_max_left n (asked (a.perform s).2))
  rwa [h.uncut (Nat.le_max_right ..), records_upTo] at chain

/-- The records before an orderly action are related to those that a crash leaves. -/
theorem first (h : Cuts R a s) (orderly : a.Orderly) (n : Nat) :
  R (records s) (records (a.perform (upTo n s)).2)
  := by
  have chain := h.chain 0 n (Nat.zero_le n)
  rwa [(orderly.frozen 0 _ (gone_upTo (Nat.zero_le _))).2, records_upTo] at chain

/-- What an action leaves is related to itself. -/
theorem self (h : Cuts R a s) :
  R (records (a.perform s).2) (records (a.perform s).2)
  := by
  have last := h.last (asked (a.perform s).2)
  rwa [h.uncut (Nat.le_refl _), records_upTo] at last

/-- An action that neither uses nor changes the engine. -/
theorem of_commutes (self : R (records s) (records s))
    (commutes : ∀ n, a.perform (upTo n s) = ((a.perform s).1, upTo n (a.perform s).2))
    (same : engine (a.perform s).2 = engine s) :
  Cuts R a s
  := by
  refine ⟨fun n => .inl (commutes n), ?_⟩
  intro m n _
  rw [commutes, commutes, records_upTo, records_upTo, records, same]
  exact self

theorem pure (self : R (records s) (records s)) (x : α) :
  Cuts R (Pure.pure x) s
  := of_commutes self (fun _ => rfl) rfl

theorem throw (self : R (records s) (records s)) (fault : Fault) :
  Cuts R (MonadExcept.throw fault : Action σ α) s
  := of_commutes self (fun _ => rfl) rfl

theorem ofExcept (self : R (records s) (records s)) (answer : Except Fault α) :
  Cuts R (Action.ofExcept answer) s
  := of_commutes self (fun _ => rfl) rfl

theorem attempt (h : Cuts R a s) :
  Cuts R (Action.attempt a) s
  := by
  constructor
  · intro n
    rcases h.ends n with ended | cut
    · exact .inl (by rw [perform_attempt, perform_attempt, ended])
    · exact .inr cut
  · exact h.chain

theorem map (h : Cuts R a s) (g : α → β) :
  Cuts R (g <$> a) s
  := by
  constructor
  · intro n
    rw [perform_map, perform_map]
    rcases h.ends n with ended | cut
    · exact .inl (by rw [ended])
    · exact .inr cut
  · intro m n le
    rw [perform_map, perform_map]
    exact h.chain m n le

/-- The state is read, of which the rest does not see the engine. -/
theorem get_bind {f : σ → Action σ β} (blind : ∀ n, f (upTo n s) = f s) (h : Cuts R (f s) s) :
  Cuts R (get >>= f) s
  := by
  have read (t : σ) : (get >>= f).perform t = (f t).perform t := rfl
  constructor
  · intro n
    rw [read, read, blind]
    exact h.ends n
  · intro m n le
    rw [read, read, blind, blind]
    exact h.chain m n le

/-- Once the first of two actions was cut short, the second changes nothing. -/
private theorem bind_of_gone {n : Nat} (gone : Gone n (a.perform s).2)
    (orderly : ∀ x, (f x).Orderly) :
  Gone n ((a >>= f).perform s).2
    ∧ records ((a >>= f).perform s).2 = records (a.perform s).2
  := by
  rw [perform_bind]
  rcases ended : a.perform s with ⟨fault | x, t⟩
  · rw [ended] at gone
    exact ⟨gone, rfl⟩
  · rw [ended] at gone
    exact (orderly x).frozen n t gone

/-- A second action that never comes about. -/
private theorem bind_of_error {fault : Fault} {t : σ} (h : Cuts R a s)
    (orderly : ∀ x, (f x).Orderly) (plain : a.perform s = (.error fault, t)) :
  Cuts R (a >>= f) s
  := by
  have stops : (a >>= f).perform s = (.error fault, t) := by rw [perform_bind, plain]
  have left (n : Nat) : records ((a >>= f).perform (upTo n s)).2
      = records (a.perform (upTo n s)).2 := by
    rcases h.ends n with ended | ⟨gone, -⟩
    · rw [perform_bind, ended, plain]
    · exact (bind_of_gone gone orderly).2
  constructor
  · intro n
    rcases h.ends n with ended | ⟨gone, cut⟩
    · left
      rw [stops, perform_bind, ended, plain]
    · rw [plain] at cut
      rw [stops]
      exact .inr ⟨(bind_of_gone gone orderly).1, cut⟩
  · intro m n le
    rw [left, left]
    exact h.chain m n le

private theorem bind_of_ok [Trans R R R] {x : α} {t : σ} (h : Cuts R a s)
    (orderly : ∀ x, (f x).Orderly) (plain : a.perform s = (.ok x, t)) (later : Cuts R (f x) t) :
  Cuts R (a >>= f) s
  := by
  have goes : (a >>= f).perform s = (f x).perform t := by rw [perform_bind, plain]
  -- A crash comes after the first action, or the second is on an engine that is gone.
  have cases (n : Nat) : (a.perform (upTo n s) = (.ok x, upTo n t)
        ∧ (a >>= f).perform (upTo n s) = (f x).perform (upTo n t))
      ∨ (n < asked t ∧ Gone n ((a >>= f).perform (upTo n s)).2
        ∧ records ((a >>= f).perform (upTo n s)).2 = records (a.perform (upTo n s)).2) := by
    rcases h.ends n with ended | ⟨gone, cut⟩
    · rw [plain] at ended
      exact .inl ⟨ended, by rw [perform_bind, ended]⟩
    · rw [plain] at cut
      exact .inr ⟨cut, bind_of_gone gone orderly⟩
  constructor
  · intro n
    rw [goes]
    rcases cases n with ⟨-, ended⟩ | ⟨cut, gone, -⟩
    · rw [ended]
      exact later.ends n
    · exact .inr ⟨gone, Nat.lt_of_lt_of_le cut ((orderly x).grows t)⟩
  · intro m n le
    have chain := h.chain m n le
    rcases cases m with ⟨first, ended⟩ | ⟨cut, -, left⟩
    · rcases cases n with ⟨-, ended'⟩ | ⟨cut', -, left'⟩
      · rw [ended, ended']
        exact later.chain m n le
      · have gone := gone_upTo (s := t) (Nat.le_of_lt (Nat.lt_of_le_of_lt le cut'))
        rw [ended, left', ((orderly x).frozen m _ gone).2]
        rwa [first] at chain
    · rcases cases n with ⟨second, ended'⟩ | ⟨-, -, left'⟩
      · rw [second, records_upTo] at chain
        rw [left, ended']
        exact Trans.trans chain (later.first (orderly x) n)
      · rw [left, left']
        exact chain

/-- One action after another. -/
theorem bind [Trans R R R] (h : Cuts R a s) (orderly : ∀ x, (f x).Orderly)
    (next : ∀ x t, a.perform s = (.ok x, t) → R (records t) (records t) → Cuts R (f x) t) :
  Cuts R (a >>= f) s
  := by
  have self := h.self
  rcases plain : a.perform s with ⟨fault | x, t⟩
  · exact h.bind_of_error orderly plain
  · rw [plain] at self
    exact h.bind_of_ok orderly plain (next x t plain self)

/-- An action on a part of the state. -/
theorem within {part : σ → τ} {replace : σ → τ → σ} {a : Action τ α} (h : Cuts R a (part s))
    (bears : Bears part replace) :
  Cuts R (Action.within part replace a) s
  := by
  have same (n : Nat) : records ((Action.within part replace a).perform (upTo n s)).2
      = records (a.perform (upTo n (part s))).2 := by
    rw [perform_within, records, bears.engine_replace, bears.part_upTo, records]
  constructor
  · intro n
    rw [perform_within, perform_within, bears.part_upTo]
    rcases h.ends n with ended | ⟨gone, cut⟩
    · exact .inl (by rw [ended, bears.replace_upTo])
    · refine .inr ⟨gone.congr (bears.engine_replace _ _), ?_⟩
      rwa [asked, bears.engine_replace]
  · intro m n le
    rw [same, same]
    exact h.chain m n le

/-- An action that ends as another one does, up to what is made of its answer and its state. -/
theorem made {b : Action τ β} {t : τ} {g : Except Fault β × τ → Except Fault α × σ}
    (h : Cuts R b t) (plain : a.perform s = g (b.perform t))
    (cut : ∀ n, a.perform (upTo n s) = g (b.perform (upTo n t)))
    (commutes : ∀ n answer u, g (answer, upTo n u)
      = ((g (answer, u)).1, upTo n (g (answer, u)).2))
    (same : ∀ ended, engine (g ended).2 = engine ended.2) :
  Cuts R a s
  := by
  constructor
  · intro n
    rw [cut, plain]
    rcases h.ends n with ended | ⟨gone, early⟩
    · rw [ended, commutes]
      exact .inl rfl
    · refine .inr ⟨gone.congr (same _), ?_⟩
      rwa [asked, same]
  · intro m n le
    rw [cut, cut, records, same, records, same]
    exact h.chain m n le

section Ask

variable {e : Engine} {call : Engine.Call} {effect : Engine → α × Records} {n : Nat}

/-- A call before the crash is answered as without it. -/
private theorem perform_ask_of_lt (blind : effect (e.upTo n) = effect e)
    (early : e.asked.length < n) :
  (Engine.ask call effect).perform (upTo n e)
    = (((Engine.ask call effect).perform e).1, upTo n ((Engine.ask call effect).perform e).2)
  := by
  have refuses : (e.upTo n).refuses (call :: e.asked) = e.refuses (call :: e.asked) :=
    if_pos early
  simp only [upTo, withEngine, engine, id, Engine.ask, perform_ofStep] at blind refuses ⊢
  rw [blind]
  simp only [Engine.upTo] at refuses ⊢
  rw [refuses]
  cases e.refuses (call :: e.asked) <;> rfl

private theorem perform_ask_of_not_lt (late : ¬ e.asked.length < n) :
  (Engine.ask call effect).perform (upTo n e)
    = (.error (.storage (.engine "gone")), upTo n { e with asked := call :: e.asked })
  := by
  have refuses : (e.upTo n).refuses (call :: e.asked) = some (.storage (.engine "gone")) :=
    if_neg late
  simp only [upTo, withEngine, engine, id, Engine.ask, perform_ofStep] at refuses ⊢
  simp only [Engine.upTo] at refuses ⊢
  rw [refuses]

/-- A call changes the records if it is not refused. -/
private theorem records_perform_ask (e : Engine) (call : Engine.Call)
    (effect : Engine → α × Records) :
  records ((Engine.ask call effect).perform e).2 = e.records
    ∨ records ((Engine.ask call effect).perform e).2 = (effect e).2
  := by
  simp only [Engine.ask, perform_ofStep]
  cases e.refuses (call :: e.asked) with
  | some fault => exact .inl rfl
  | none => exact .inr rfl

/-- A call that does not see what the engine refuses, and changes the records like this. -/
theorem ask (blind : ∀ n, effect (e.upTo n) = effect e) (self : R e.records e.records)
    (changes : R e.records (effect e).2) (changed : R (effect e).2 (effect e).2) :
  Cuts R (Engine.ask call effect) e
  := by
  have one : asked ((Engine.ask call effect).perform e).2 = e.asked.length + 1 :=
    asks_ask call effect e
  have from_old : R e.records (records ((Engine.ask call effect).perform e).2) := by
    rcases records_perform_ask e call effect with same | same
    · rwa [same]
    · rwa [same]
  have from_new : R (records ((Engine.ask call effect).perform e).2)
      (records ((Engine.ask call effect).perform e).2) := by
    rcases records_perform_ask e call effect with same | same
    · rwa [same]
    · rwa [same]
  constructor
  · intro n
    by_cases early : e.asked.length < n
    · exact .inl (perform_ask_of_lt (blind n) early)
    · rw [perform_ask_of_not_lt early, one]
      refine .inr ⟨gone_upTo ?_, by omega⟩
      simp only [asked, engine, id, List.length_cons]
      omega
  · intro m n le
    by_cases early : e.asked.length < m
    · have early' := Nat.lt_of_lt_of_le early le
      rw [perform_ask_of_lt (blind m) early, perform_ask_of_lt (blind n) early', records_upTo,
        records_upTo]
      exact from_new
    · rw [perform_ask_of_not_lt early, records_upTo]
      by_cases early' : e.asked.length < n
      · rw [perform_ask_of_lt (blind n) early', records_upTo]
        exact from_old
      · rw [perform_ask_of_not_lt early', records_upTo]
        exact self

end Ask

/-- A call that only looks. -/
theorem look {e : Engine} (call : Engine.Call) {see : Engine → α}
    (blind : ∀ n, see (e.upTo n) = see e) (self : R e.records e.records) :
  Cuts R (Engine.ask call fun e => (see e, e.records)) e
  := by
  apply ask _ self self self
  intro n
  rw [blind]
  rfl

end Cuts

end Action

end SiteCache
