import SiteCache.Proofs.Crash
import SiteCache.Proofs.Tier.Listing
import SiteCache.Proofs.Tier.Succession

/-!
# The disk tier at a crash

Each operation of the disk tier may be cut short at any call of its engine.  Where the tier lists
copies within its bound, the records that are left have evolved from those before the operation and
evolve into those after it: also between the write of an eviction and the write of the copy that
room was made for.
-/

namespace SiteCache

open HasEngine SiteCache.Action

/-- The action may be cut short at any call, with records that evolve within a bound. -/
abbrev Action.Cut {σ α : Type} [HasEngine σ] (bound : Nat) (a : Action σ α) (s : σ) : Prop :=
  Cuts (Records.Evolves bound) a s

instance : HasEngine DiskTier where
  engine := DiskTier.engine
  withEngine d e := { d with engine := e }
  engine_withEngine _ _ := rfl

namespace DiskTier

variable {α : Type} {d t : DiskTier} {copies : List Copy} {c : Copy} {i : Identity} {bound : Nat}

theorem bears_engine :
  Bears DiskTier.engine fun (d : DiskTier) (e : Engine) => { d with engine := e }
  := ⟨fun _ => rfl, fun _ _ => rfl, fun _ _ => rfl, fun _ _ _ => rfl⟩

/-! ### On an engine that is gone -/

theorem orderly_onEngine {a : Action Engine α} (h : a.Orderly) :
  (onEngine a).Orderly
  := h.within bears_engine

theorem orderly_get (key : Octets) :
  (onEngine (Engine.get key)).Orderly
  := orderly_onEngine (orderly_ask _ _)

theorem orderly_write (batch : Batch) :
  (onEngine (Engine.write batch)).Orderly
  := orderly_onEngine (orderly_ask _ _)

/-- A change of what the tier counts comes before the answer. -/
theorem orderly_recount_pure {f : DiskTier → DiskTier} (same : ∀ d, (f d).engine = d.engine)
    (x : α) :
  (do modify f; pure x : Action DiskTier α).Orderly
  := orderly_of_engine same

theorem orderly_storedId (identity : Octets) :
  (storedId identity).Orderly
  := by
  apply (orderly_get _).bind
  intro b
  cases b with
  | none => apply orderly_pure
  | some b => exact (orderly_ofExcept _).map _

theorem orderly_contains (i : Identity) :
  (contains i).Orderly
  := (orderly_storedId _).bind fun _ => orderly_pure _

theorem orderly_modified (i : Identity) :
  (modified i).Orderly
  := by
  apply (orderly_get _).bind
  intro b
  cases b with
  | none => apply orderly_pure
  | some b => exact (orderly_ofExcept _).map _

theorem orderly_headers (i : Identity) :
  (headers i).Orderly
  := by
  apply (orderly_storedId _).bind
  intro id
  cases id with
  | none => apply orderly_pure
  | some id => exact (orderly_get _).bind fun _ => (orderly_ofExcept _).map _

theorem orderly_remove (i : Identity) :
  (remove i).Orderly
  := by
  apply (orderly_storedId _).bind
  intro id
  cases id with
  | none => apply orderly_pure
  | some id =>
      apply (orderly_write _).bind
      intro _
      apply orderly_recount_pure
      intro d
      rfl

theorem orderly_evictOldest :
  evictOldest.Orderly
  := by
  apply (orderly_onEngine (orderly_ask _ _)).bind
  intro first
  cases first with
  | none => apply orderly_pure
  | some x =>
      apply (orderly_write _).bind
      intro _
      apply orderly_recount_pure
      intro d
      rfl

/-- Room for an identity is made unless it is stored already or the tier is not full. -/
def makeRoom (previous : Option Nat) : Action DiskTier (Option Identity) := do
  if previous.isNone ∧ (← get).isFull then evictOldest else pure none

/-- A copy is written when there is room for it. -/
def store (c : Copy) (previous : Option Nat) (dropped : Option Identity) :
    Action DiskTier (Option Identity) := do
  let batch ← .ofExcept (insertion c (← get).nextId previous)
  onEngine (Engine.write batch)
  modify fun d =>
    { d with
      nextId := d.nextId + 1
      count := if previous.isNone then d.count + 1 else d.count }
  pure dropped

/-- A save makes room for a copy and then writes it. -/
theorem save_eq (c : Copy) :
  save c = (do
    let previous ← storedId c.identity.encode
    let dropped ← makeRoom previous
    store c previous dropped)
  := by
  rw [save]
  congr 1
  funext previous
  rw [makeRoom, bind_assoc]
  congr 1
  funext d
  by_cases evict : previous.isNone = true ∧ d.isFull = true
  · simp only [if_pos evict]
    rfl
  · simp only [if_neg evict]
    rfl

theorem orderly_makeRoom (previous : Option Nat) :
  (makeRoom previous).Orderly
  := by
  apply Action.orderly_get.bind
  intro d
  split
  · apply orderly_evictOldest
  · apply orderly_pure

theorem orderly_store (c : Copy) (previous : Option Nat) (dropped : Option Identity) :
  (store c previous dropped).Orderly
  := by
  apply Action.orderly_get.bind
  intro d
  apply (orderly_ofExcept _).bind
  intro batch
  apply (orderly_write _).bind
  intro _
  apply orderly_recount_pure
  intro d
  rfl

theorem orderly_save (c : Copy) :
  (save c).Orderly
  := by
  rw [save_eq]
  apply (orderly_storedId _).bind
  intro previous
  apply (orderly_makeRoom _).bind
  intro dropped
  apply orderly_store

theorem orderly_replacement (demoted : Option Copy) :
  (replacement demoted).Orderly
  := by
  cases demoted with
  | none => apply orderly_pure
  | some c =>
      apply (orderly_storedId _).bind
      intro previous
      apply Action.orderly_get.bind
      intro d
      exact (orderly_ofExcept _).bind fun _ => orderly_pure _

/-- A copy is put together from the fields that were read. -/
def assemble (i : Identity) (headers : Option Octets) :
    Option Octets → Option Octets → Action DiskTier (Option Copy)
  | some content, some time => do
    let modified ← .ofExcept (Record.decodeTime time)
    let headers ← .ofExcept (Record.decodeHeaders headers)
    pure (some ⟨i, content, modified, headers⟩)
  | _, _ => pure none

/-- A copy is taken out and the demoted one stored, in one write, before its fields are decoded. -/
def exchange (i : Identity) (id : Nat) (demoted : Option Copy)
    (content time headers : Option Octets) : Action DiskTier (Option Copy) := do
  let (batch, added) ← replacement demoted
  onEngine (Engine.write (deletion i.encode (some id) ++ batch))
  modify fun d =>
    { d with
      nextId := if demoted.isSome then d.nextId + 1 else d.nextId
      count := d.count - 1 + added }
  assemble i headers content time

/-- The fields are read before anything is written. -/
theorem takeReplacing_eq (i : Identity) (demoted : Option Copy) :
  takeReplacing i demoted = (do
    match ← storedId i.encode with
    | none => pure none
    | some id =>
      let content ← onEngine (Engine.get (Record.key i.encode .content))
      let time ← onEngine (Engine.get (Record.key i.encode .time))
      let headers ← onEngine (Engine.get (Record.key i.encode .headers))
      exchange i id demoted content time headers)
  := by
  rfl

theorem orderly_assemble (i : Identity) (headers content time : Option Octets) :
  (assemble i headers content time).Orderly
  := by
  rw [assemble.eq_def]
  split
  · apply (orderly_ofExcept _).bind
    intro modified
    exact (orderly_ofExcept _).bind fun _ => orderly_pure _
  · apply orderly_pure

theorem orderly_exchange (i : Identity) (id : Nat) (demoted : Option Copy)
    (content time headers : Option Octets) :
  (exchange i id demoted content time headers).Orderly
  := by
  apply (orderly_replacement demoted).bind
  intro x
  apply (orderly_write _).bind
  intro _
  exact Orderly.bind (orderly_of_engine fun _ => rfl) fun _ => orderly_assemble _ _ _ _

theorem orderly_takeReplacing (i : Identity) (demoted : Option Copy) :
  (takeReplacing i demoted).Orderly
  := by
  apply (orderly_storedId _).bind
  intro id
  cases id with
  | none => apply orderly_pure
  | some id =>
      apply (orderly_get _).bind
      intro content
      apply (orderly_get _).bind
      intro time
      apply (orderly_get _).bind
      intro headers
      apply orderly_exchange

theorem orderly_close :
  DiskTier.close.Orderly
  := orderly_onEngine (orderly_ask _ _)

private theorem orderly_mark (length pastLast : Nat) :
  Orderly (do
    let mark ← match ← Engine.get Record.nextIdKey with
      | some b => .ofExcept (Record.decodeWord .nextId b)
      | none => pure 0
    pure (length, max pastLast mark) : Action Engine (Nat × Nat))
  := by
  apply (orderly_ask _ _).bind
  intro b
  cases b with
  | none => exact (orderly_pure _).bind fun _ => orderly_pure _
  | some b => exact (orderly_ofExcept _).bind fun _ => orderly_pure _

private theorem orderly_behind_scan (index : List (Octets × Octets)) :
  Orderly (do
    let pastLast ← match index.getLast? with
      | some (key, _) => do
        let last ← .ofExcept (Record.decodeWord .indexId (key.drop 1))
        pure (last + 1)
      | none => pure 0
    let mark ← match ← Engine.get Record.nextIdKey with
      | some b => .ofExcept (Record.decodeWord .nextId b)
      | none => pure 0
    pure (index.length, max pastLast mark))
  := by
  cases index.getLast? with
  | none => exact (orderly_pure 0).bind fun _ => orderly_mark _ _
  | some x =>
      apply (orderly_ofExcept _).bind
      intro last
      exact (orderly_pure _).bind fun _ => orderly_mark _ _

theorem orderly_survey :
  survey.Orderly
  := (orderly_ask _ _).bind orderly_behind_scan

/-- A survey asks the engine. -/
theorem asks_survey (e : Engine) :
  asked e < asked (survey.perform e).2
  := by
  apply Nat.lt_of_lt_of_le _ (asked_le_bind orderly_behind_scan e)
  rw [Engine.scan, asks_ask]
  exact Nat.lt_succ_self _

/-! ### Cut short -/

theorem Answers.answered {a : Action DiskTier α} {answer : Except Fault α} {x : α}
    (h : Answers a d answer) (plain : a.perform d = (.ok x, t)) :
  answer = .ok x ∧ ∃ calls, t = d.asking calls
  := by
  obtain ⟨calls, ended | ⟨fault, -, ended⟩⟩ := h
  · obtain ⟨rfl, rfl⟩ := Prod.mk.inj (plain.symm.trans ended)
    exact ⟨rfl, calls, rfl⟩
  · cases plain.symm.trans ended

theorem cut_get (keeps : d.engine.records.Keeps bound) (key : Octets) :
  Cut bound (onEngine (Engine.get key)) d
  := (Cuts.look .get (fun _ => rfl) keeps.evolves).within bears_engine

theorem cut_write {batch : Batch}
    (evolves : Records.Evolves bound d.engine.records (d.engine.records.apply batch)) :
  Cut bound (onEngine (Engine.write batch)) d
  := (Cuts.ask (fun _ => rfl) evolves.before.evolves evolves evolves.after.evolves).within
    bears_engine

theorem cut_recount (keeps : d.engine.records.Keeps bound) {f : DiskTier → DiskTier}
    (commutes : ∀ n, f (upTo n d) = upTo n (f d)) (same : (f d).engine = d.engine) :
  Cut bound (modify f : Action DiskTier PUnit) d
  := Cuts.of_commutes keeps.evolves
    (fun n => congrArg (Prod.mk (Except.ok PUnit.unit)) (commutes n)) same

theorem cut_storedId (keeps : d.engine.records.Keeps bound) (identity : Octets) :
  Cut bound (storedId identity) d
  := by
  apply (cut_get keeps _).bind
  · intro b
    cases b with
    | none => apply orderly_pure
    | some b => exact (orderly_ofExcept _).map _
  · intro b t _ self
    cases b with
    | none => exact .pure self _
    | some b => exact (Cuts.ofExcept self _).map _

theorem cut_contains (keeps : d.engine.records.Keeps bound) (i : Identity) :
  Cut bound (contains i) d
  := (cut_storedId keeps _).bind (fun _ => orderly_pure _) fun _ _ _ self => .pure self _

theorem cut_modified (keeps : d.engine.records.Keeps bound) (i : Identity) :
  Cut bound (modified i) d
  := by
  apply (cut_get keeps _).bind
  · intro b
    cases b with
    | none => apply orderly_pure
    | some b => exact (orderly_ofExcept _).map _
  · intro b t _ self
    cases b with
    | none => exact .pure self _
    | some b => exact (Cuts.ofExcept self _).map _

theorem cut_headers (keeps : d.engine.records.Keeps bound) (i : Identity) :
  Cut bound (headers i) d
  := by
  apply (cut_storedId keeps _).bind
  · intro id
    cases id with
    | none => apply orderly_pure
    | some id => exact (orderly_get _).bind fun _ => (orderly_ofExcept _).map _
  · intro id t _ self
    cases id with
    | none => exact .pure self _
    | some id =>
        apply (cut_get self.before _).bind
        · intro b
          exact (orderly_ofExcept _).map _
        · intro b u _ self
          exact (Cuts.ofExcept self _).map _

/-- A tier that lists so many copies at most. -/
theorem Lists.keeps (h : d.Lists copies) (bounded : copies.length ≤ bound) :
  d.engine.records.Keeps bound
  := by
  obtain ⟨⟨q, queue, rfl⟩, -⟩ := h
  exact ⟨q, d.nextId, queue, by rwa [List.length_map] at bounded⟩

/-- A write is followed by a change of what the tier counts. -/
theorem cut_write_recount {batch : Batch}
    (evolves : Records.Evolves bound d.engine.records (d.engine.records.apply batch))
    {f : DiskTier → DiskTier} (commutes : ∀ d n, f (upTo n d) = upTo n (f d))
    (same : ∀ d, (f d).engine = d.engine) (x : α) :
  Cut bound (do onEngine (Engine.write batch); modify f; pure x) d
  := by
  apply (cut_write evolves).bind
  · intro _
    exact orderly_recount_pure same x
  · intro _ t _ self
    exact (cut_recount self.before (commutes t) (same t)).bind (fun _ => orderly_pure x)
      fun _ _ _ self => .pure self x

theorem cut_remove (h : d.Lists copies) (bounded : copies.length ≤ bound) (fits : i.Fits) :
  Cut bound (remove i) d
  := by
  apply (cut_storedId (h.keeps bounded) _).bind
  · intro id
    cases id with
    | none => apply orderly_pure
    | some id =>
        apply (orderly_write _).bind
        intro _
        apply orderly_recount_pure
        intro d
        rfl
  · intro id t plain self
    obtain ⟨stored, calls, rfl⟩ := (answers_storedId i.encode d).answered plain
    cases id with
    | none => exact .pure self _
    | some id =>
        obtain ⟨⟨q, queue, rfl⟩, -⟩ := h.asking calls
        rw [List.length_map] at bounded
        apply cut_write_recount (queue.evolves_deletion bounded fits stored)
        · intro d n
          rfl
        · intro d
          rfl

theorem cut_evictOldest (h : d.Lists copies) (bounded : copies.length ≤ bound) :
  Cut bound evictOldest d
  := by
  have keeps := h.keeps bounded
  have look : Cut bound (onEngine (Engine.first [Record.indexTag])) d :=
    (Cuts.look .first (fun _ => rfl) keeps.evolves).within bears_engine
  apply look.bind
  · intro first
    cases first with
    | none => apply orderly_pure
    | some x =>
        apply (orderly_write _).bind
        intro _
        apply orderly_recount_pure
        intro d
        rfl
  · intro first t plain self
    obtain ⟨found, calls, rfl⟩ := (answers_first _ d).answered plain
    cases first with
    | none => exact .pure self _
    | some x =>
        obtain ⟨⟨q, queue, rfl⟩, -⟩ := h.asking calls
        rw [List.length_map] at bounded
        apply cut_write_recount (queue.evolves_eviction bounded (Except.ok.inj found))
        · intro d n
          rfl
        · intro d
          rfl

theorem cut_store {previous : Option Nat} {dropped : Option Identity} (h : d.Lists copies)
    (bounded : copies.length ≤ bound) (fits : c.identity.Fits)
    (stored : d.engine.records.storedId c.identity.encode = .ok previous)
    (countable : d.nextId + 1 < wordBound) (room : previous = none → copies.length < bound) :
  Cut bound (store c previous dropped) d
  := by
  have keeps := h.keeps bounded
  apply Cuts.get_bind
  · intro n
    rfl
  apply (Cuts.ofExcept keeps.evolves _).bind
  · intro batch
    apply (orderly_write _).bind
    intro _
    apply orderly_recount_pure
    intro d
    rfl
  · intro batch t plain self
    obtain ⟨changes, rfl⟩ := Prod.mk.inj plain
    obtain ⟨storable, rfl⟩ := insertion_eq_ok_iff.1 changes
    obtain ⟨⟨q, queue, rfl⟩, -⟩ := h
    rw [List.length_map] at bounded room
    apply cut_write_recount
      (queue.evolves_placement bounded fits stored storable countable room)
    · intro d n
      rfl
    · intro d
      rfl

theorem prepared {identity : Octets} {previous : Option Nat} {dropped : Option Identity}
    {calls : List Engine.Call} (stored : d.engine.records.storedId identity = .ok previous)
    (made : (makeRoom previous).perform (d.asking calls) = (.ok dropped, t)) :
  Prepared d identity previous dropped t
  := by
  simp only [makeRoom, Action.perform_bind, Action.perform_get] at made
  split at made
  next evict =>
    obtain ⟨new, full⟩ := evict
    obtain rfl := Option.isNone_iff_eq_none.1 new
    have ends := (evicted (d.asking calls)).of_asking
    rw [made] at ends
    exact .evicted stored full ends
  next spare =>
    obtain ⟨⟨⟩, rfl⟩ := Prod.mk.inj made
    apply Prepared.spare stored
    rintro ⟨rfl, full⟩
    exact spare ⟨rfl, full⟩

/-- When room was made for an identity that is not stored, the list has room for its copy. -/
theorem length_kept_lt {capacity : Nat} (room : 0 < capacity) (absent : Copy.of? i copies = none)
    (bounded : copies.length ≤ capacity) :
  (Copy.kept capacity i copies).length < capacity
  := by
  have shorter := Copy.length_spared_lt room copies
  rw [Copy.kept_eq_spared absent]
  omega

/-- A save may be cut short before or after the eviction that makes room for its copy. -/
theorem cut_save (h : d.Lists copies) (bounded : copies.length ≤ d.capacity)
    (room : 0 < d.capacity) (fits : c.identity.Fits) (countable : d.nextId + 1 < wordBound) :
  Cut d.capacity (save c) d
  := by
  rw [save_eq]
  apply (cut_storedId (h.keeps bounded) _).bind
  · intro previous
    exact (orderly_makeRoom _).bind fun _ => orderly_store _ _ _
  · intro previous t plain self
    obtain ⟨stored, calls, rfl⟩ := (answers_storedId _ d).answered plain
    have lists := h.asking calls
    have makes : Cut d.capacity (makeRoom previous) (d.asking calls) := by
      apply Cuts.get_bind
      · intro n
        rfl
      split
      · exact cut_evictOldest lists bounded
      · exact .pure self _
    apply makes.bind
    · intro dropped
      apply orderly_store
    · intro dropped t made self
      have ends := prepared stored made
      obtain ⟨-, kept, stored'⟩ := ends.lists h fits
      have fewer := Copy.length_kept_le d.capacity c.identity copies
      apply cut_store kept (Nat.le_trans fewer bounded) fits stored'
      · rwa [ends.nextId_eq]
      · rintro rfl
        exact length_kept_lt room ((h.storedId_eq_none_iff fits).1 stored) bounded

theorem cut_replacement (keeps : d.engine.records.Keeps bound) (demoted : Option Copy) :
  Cut bound (replacement demoted) d
  := by
  cases demoted with
  | none => exact .pure keeps.evolves _
  | some v =>
      apply (cut_storedId keeps _).bind
      · intro previous
        apply Action.orderly_get.bind
        intro d
        exact (orderly_ofExcept _).bind fun _ => orderly_pure _
      · intro previous t _ self
        apply Cuts.get_bind
        · intro n
          rfl
        exact (Cuts.ofExcept self _).bind (fun _ => orderly_pure _) fun _ _ _ self => .pure self _

theorem cut_assemble (keeps : d.engine.records.Keeps bound) (headers content time : Option Octets) :
  Cut bound (assemble i headers content time) d
  := by
  rw [assemble.eq_def]
  split
  · apply (Cuts.ofExcept keeps.evolves _).bind
    · intro modified
      exact (orderly_ofExcept _).bind fun _ => orderly_pure _
    · intro modified t _ self
      exact (Cuts.ofExcept self _).bind (fun _ => orderly_pure _) fun _ _ _ self => .pure self _
  · exact .pure keeps.evolves _

/-- The batch that takes a copy out and stores the demoted one leads to a later queue. -/
theorem Lists.evolves_exchange {id added : Nat} {demoted : Option Copy} {batch : Batch}
    (h : d.Lists copies) (bounded : copies.length ≤ bound) (fits : i.Fits)
    (stored : d.engine.records.storedId i.encode = .ok (some id))
    (other : ∀ v, demoted = some v → v.identity.Fits ∧ v.identity ≠ i)
    (countable : d.nextId + 1 < wordBound)
    (made : d.engine.records.replacement d.nextId demoted = .ok (batch, added)) :
  Records.Evolves bound d.engine.records
    (d.engine.records.apply (deletion i.encode (some id) ++ batch))
  := by
  obtain ⟨⟨q, queue, rfl⟩, -⟩ := h
  rw [List.length_map] at bounded
  cases demoted with
  | none =>
      obtain ⟨rfl, -⟩ := Prod.mk.inj (Except.ok.inj made)
      rw [List.append_nil]
      exact queue.evolves_deletion bounded fits stored
  | some v =>
      obtain ⟨fitsV, otherV⟩ := other v rfl
      obtain ⟨previous, present, made⟩ := exists_of_bind_eq_ok made
      obtain ⟨placed, changes, made⟩ := exists_of_bind_eq_ok made
      obtain ⟨rfl, -⟩ := Prod.mk.inj (Except.ok.inj made)
      obtain ⟨storable, rfl⟩ := insertion_eq_ok_iff.1 changes
      exact queue.evolves_exchange bounded fits stored fitsV otherV present storable countable

theorem cut_exchange {id : Nat} {demoted : Option Copy} (h : d.Lists copies)
    (bounded : copies.length ≤ bound) (fits : i.Fits)
    (stored : d.engine.records.storedId i.encode = .ok (some id))
    (other : ∀ v, demoted = some v → v.identity.Fits ∧ v.identity ≠ i)
    (countable : d.nextId + 1 < wordBound) (content time headers : Option Octets) :
  Cut bound (exchange i id demoted content time headers) d
  := by
  have behind : ∀ f : DiskTier → DiskTier, (∀ d, (f d).engine = d.engine) →
      Orderly (do modify f; assemble i headers content time) := by
    intro f same
    exact Orderly.bind (orderly_of_engine same) fun _ => orderly_assemble _ _ _ _
  apply (cut_replacement (h.keeps bounded) demoted).bind
  · intro x
    apply (orderly_write _).bind
    intro _
    exact behind _ fun _ => rfl
  · intro x t plain self
    obtain ⟨batch, added⟩ := x
    obtain ⟨made, calls, rfl⟩ := (answers_replacement demoted d).answered plain
    have evolves := (h.asking calls).evolves_exchange bounded fits stored other countable made
    apply (cut_write evolves).bind
    · intro _
      exact behind _ fun _ => rfl
    · intro _ t _ self
      apply (cut_recount self.before (fun _ => rfl) rfl).bind
      · intro _
        apply orderly_assemble
      · intro _ t _ self
        exact cut_assemble self.before _ _ _

/-- The exchange of two copies is a single write. -/
theorem cut_takeReplacing {demoted : Option Copy} (h : d.Lists copies)
    (bounded : copies.length ≤ bound) (fits : i.Fits)
    (other : ∀ v, demoted = some v → v.identity.Fits ∧ v.identity ≠ i)
    (countable : d.nextId + 1 < wordBound) :
  Cut bound (takeReplacing i demoted) d
  := by
  rw [takeReplacing_eq]
  have rest (id : Nat) (content time : Option Octets) : Orderly (do
      let headers ← onEngine (Engine.get (Record.key i.encode .headers))
      exchange i id demoted content time headers) :=
    (orderly_get _).bind fun _ => orderly_exchange _ _ _ _ _ _
  apply (cut_storedId (h.keeps bounded) _).bind
  · intro id
    cases id with
    | none => apply orderly_pure
    | some id => exact (orderly_get _).bind fun _ => (orderly_get _).bind fun _ => rest _ _ _
  · intro id t plain self
    obtain ⟨stored, first, rfl⟩ := (answers_storedId _ d).answered plain
    cases id with
    | none => exact .pure self _
    | some id =>
        apply (cut_get self.before _).bind
        · intro content
          exact (orderly_get _).bind fun _ => rest _ _ _
        intro content t plain self
        obtain ⟨-, second, rfl⟩ := (answers_get _ _).answered plain
        apply (cut_get self.before _).bind
        · intro time
          apply rest
        intro time t plain self
        obtain ⟨-, third, rfl⟩ := (answers_get _ _).answered plain
        apply (cut_get self.before _).bind
        · intro headers
          apply orderly_exchange
        intro headers t plain self
        obtain ⟨-, fourth, rfl⟩ := (answers_get _ _).answered plain
        have lists := (((h.asking first).asking second).asking third).asking fourth
        exact cut_exchange lists bounded fits stored other countable _ _ _

theorem cut_close (keeps : d.engine.records.Keeps bound) :
  Cut bound DiskTier.close d
  := by
  have release : Cut bound Engine.close d.engine :=
    .ask (fun _ => rfl) keeps.evolves keeps.evolves keeps.evolves
  exact release.within bears_engine

private theorem cut_mark {e : Engine} (keeps : e.records.Keeps bound) (length pastLast : Nat) :
  Cut bound (do
    let mark ← match ← Engine.get Record.nextIdKey with
      | some b => .ofExcept (Record.decodeWord .nextId b)
      | none => pure 0
    pure (length, max pastLast mark)) e
  := by
  have look : Cut bound (Engine.get Record.nextIdKey) e :=
    .look .get (fun _ => rfl) keeps.evolves
  apply look.bind
  · intro b
    cases b with
    | none => exact (orderly_pure _).bind fun _ => orderly_pure _
    | some b => exact (orderly_ofExcept _).bind fun _ => orderly_pure _
  · intro b t _ self
    cases b with
    | none => exact (Cuts.pure self 0).bind (fun _ => orderly_pure _) fun _ _ _ self => .pure self _
    | some b =>
        exact (Cuts.ofExcept self _).bind (fun _ => orderly_pure _) fun _ _ _ self => .pure self _

theorem cut_survey {e : Engine} (keeps : e.records.Keeps bound) :
  Cut bound survey e
  := by
  have look : Cut bound (Engine.scan [Record.indexTag]) e :=
    .look .scan (fun _ => rfl) keeps.evolves
  apply look.bind orderly_behind_scan
  intro index t _ self
  cases index.getLast? with
  | none => exact (Cuts.pure self 0).bind (fun _ => orderly_mark _ _) fun _ _ _ self =>
      cut_mark self.before _ _
  | some x =>
      apply (Cuts.ofExcept self _).bind
      · intro last
        exact (orderly_pure _).bind fun _ => orderly_mark _ _
      · intro last t _ self
        exact (Cuts.pure self _).bind (fun _ => orderly_mark _ _) fun _ _ _ self =>
          cut_mark self.before _ _

/-- A list whose records keep within a bound does so itself. -/
theorem Lists.length_le (h : d.Lists copies) (keeps : d.engine.records.Keeps bound) :
  copies.length ≤ bound
  := by
  obtain ⟨⟨q, queue, rfl⟩, -⟩ := h
  obtain ⟨p, next, queue', bounded⟩ := keeps
  have same := congrArg List.length (queue.index_eq.symm.trans queue'.index_eq)
  simp only [List.length_map] at same ⊢
  omega

end DiskTier

end SiteCache
