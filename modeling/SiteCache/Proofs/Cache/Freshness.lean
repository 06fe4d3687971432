import SiteCache.Proofs.Cache.History
import SiteCache.Proofs.Tier.Content

/-!
# Reads are fresh

Whatever a read answers was given to the latest save of its identity that succeeded, and no deletion
of the identity succeeded since (`Session.read_latest`).  This holds for all steps of sessions on
one engine, whichever calls the engine refuses, and for every hash.  It rests on one invariant:
whatever is in either tier satisfies a property of identities, contents and headers (`Cache.Only`),
and after a save that succeeds nothing of the identity is in either tier but the saved copy.
-/

namespace SiteCache

variable {hash : Identity → UInt64}

namespace Cache

variable {P Q : Identity → Octets → Headers → Prop} {c c' : Cache hash} {x : Copy} {i : Identity}

/-- Whatever is in either tier has this property. -/
structure Only (P : Identity → Octets → Headers → Prop) (c : Cache hash) : Prop where
  ram : ∀ x ∈ c.ram.copies, x.identity.Fits ∧ P x.identity x.content x.headers
  disk : c.disk.engine.records.Only P

theorem Only.mono (h : c.Only P)
    (weaker : ∀ i content headers, P i content headers → Q i content headers) :
  c.Only Q
  := by
  constructor
  · intro x hx
    exact (h.ram x hx).imp_right (weaker _ _ _)
  · exact h.disk.mono weaker

theorem Inserted.only {answer : Except Fault Unit} (ends : Inserted c x answer c')
    (fits : x.identity.Fits) (good : answer = .ok () → P x.identity x.content x.headers)
    (h : c.Only P) :
  c'.Only P
  := by
  have left : ∀ y ∈ (c.ram.popDisplaced x.identity).2.copies,
      y.identity.Fits ∧ P y.identity y.content y.headers := by
    intro y hy
    exact h.ram y (RamTier.mem_copies_of_mem_popDisplaced hy)
  cases ends with
  | spare =>
      refine ⟨?_, h.disk⟩
      intro y hy
      rcases RamTier.mem_copies_of_mem_push hy with rfl | hy
      · exact ⟨fits, good rfl⟩
      · exact left y hy
  | demoted victim ends =>
      obtain ⟨fitsV, goodV⟩ := h.ram _ (RamTier.mem_copies_of_popDisplaced victim)
      refine ⟨?_, ends.only fitsV goodV h.disk⟩
      intro y hy
      rcases RamTier.mem_copies_of_mem_push hy with rfl | hy
      · exact ⟨fits, good rfl⟩
      · exact left y hy
  | failed victim ends =>
      obtain ⟨fitsV, goodV⟩ := h.ram _ (RamTier.mem_copies_of_popDisplaced victim)
      refine ⟨?_, ends.only fitsV goodV h.disk⟩
      intro y hy
      rcases RamTier.mem_copies_of_mem_restore hy with rfl | hy
      · exact ⟨fitsV, goodV⟩
      · exact left y hy

/-- When an identity has been taken out of both tiers, whatever is left belongs to others. -/
private theorem Only.without {d : DiskTier} {answer : Except Fault Bool} {k : Counters}
    (h : c.Only P) (fits : i.Fits) (ends : DiskTier.Removed c.disk i answer d) :
  Only P (⟨(c.ram.remove i).2, d, k⟩ : Cache hash)
    ∧ (answer.isOk → Only (fun j content headers => j ≠ i ∧ P j content headers)
        (⟨(c.ram.remove i).2, d, k⟩ : Cache hash))
  := by
  obtain ⟨kept, gone⟩ := ends.only fits h.disk
  have others : ∀ y ∈ (c.ram.remove i).2.copies,
      y.identity.Fits ∧ y.identity ≠ i ∧ P y.identity y.content y.headers := by
    intro y hy
    rw [(RamTier.copies_remove c.ram i).2] at hy
    obtain ⟨hy, other⟩ := Copy.mem_others.1 hy
    obtain ⟨fitsY, good⟩ := h.ram y hy
    exact ⟨fitsY, other, good⟩
  constructor
  · exact ⟨fun y hy => ⟨(others y hy).1, (others y hy).2.2⟩, kept⟩
  · intro done
    exact ⟨others, gone done⟩

theorem Saved.only {answer : Except Fault Unit} (ends : Saved c x answer c')
    (fits : x.identity.Fits) (h : c.Only P) :
  c'.Only fun i content headers =>
    (answer = .ok () ∧ x.identity = i ∧ x.content = content ∧ x.headers = headers)
      ∨ (¬ (answer = .ok () ∧ x.identity = i) ∧ P i content headers)
  := by
  cases ends with
  | stopped removed =>
      apply (h.without fits removed).1.mono
      intro i content headers good
      exact .inr ⟨by rintro ⟨⟨⟩, -⟩, good⟩
  | inserted removed inserts =>
      apply inserts.only fits
      · intro done
        exact .inl ⟨done, rfl, rfl, rfl⟩
      · apply ((h.without fits removed).2 rfl).mono
        intro i content headers good
        exact .inr ⟨fun same => good.1 same.2.symm, good.2⟩

theorem Deleted.only {answer : Except Fault Unit} (ends : Deleted c i answer c') (fits : i.Fits)
    (h : c.Only P) :
  c'.Only fun j content headers => ¬ (answer = .ok () ∧ i = j) ∧ P j content headers
  := by
  cases ends with
  | stopped removed =>
      apply (h.without fits removed).1.mono
      intro j content headers good
      exact ⟨by rintro ⟨⟨⟩, -⟩, good⟩
  | deleted removed =>
      apply ((h.without fits removed).2 rfl).mono
      intro j content headers good
      exact ⟨fun same => good.1 same.2.symm, good.2⟩

theorem Read.only {answer : Except Fault (Octets × Headers)} (ends : Read c i answer c')
    (fits : i.Fits) (h : c.Only P) :
  c'.Only P ∧ ∀ content headers, answer = .ok (content, headers) → P i content headers
  := by
  have left : ∀ y ∈ (c.ram.popDisplaced i).2.copies,
      y.identity.Fits ∧ P y.identity y.content y.headers := by
    intro y hy
    exact h.ram y (RamTier.mem_copies_of_mem_popDisplaced hy)
  have good : ∀ v, (c.ram.popDisplaced i).1 = some v
      → v.identity.Fits ∧ P v.identity v.content v.headers := by
    intro v hv
    exact h.ram v (RamTier.mem_copies_of_popDisplaced hv)
  cases ends with
  | @hit x k inRam =>
      obtain ⟨hx, rfl⟩ := RamTier.peek_eq_some_iff.1 inRam
      have goodX := h.ram x hx
      refine ⟨⟨?_, h.disk⟩, ?_⟩
      · intro y hy
        rcases RamTier.mem_copies_of_mem_push hy with rfl | hy
        · exact goodX
        · exact h.ram y hy
      · rintro content headers ⟨⟩
        exact goodX.2
  | refused => exact ⟨⟨h.ram, h.disk⟩, by rintro _ _ ⟨⟩⟩
  | unreadable => exact ⟨⟨h.ram, h.disk⟩, by rintro _ _ ⟨⟩⟩
  | missed => exact ⟨⟨h.ram, h.disk⟩, by rintro _ _ ⟨⟩⟩
  | failed _ _ ends =>
      refine ⟨⟨?_, (ends.only fits good h.disk).1⟩, by rintro _ _ ⟨⟩⟩
      intro y hy
      cases displaced : (c.ram.popDisplaced i).1 with
      | none =>
          rw [displaced] at hy
          exact left y hy
      | some v =>
          rw [displaced] at hy
          rcases RamTier.mem_copies_of_mem_restore hy with rfl | hy
          · exact good y displaced
          · exact left y hy
  | incomplete _ _ ends => exact ⟨⟨left, (ends.only fits good h.disk).1⟩, by rintro _ _ ⟨⟩⟩
  | @promoted id x d k _ _ ends =>
      obtain ⟨disk, taken⟩ := ends.only fits good h.disk
      obtain ⟨rfl, goodX⟩ := taken x rfl
      refine ⟨⟨?_, disk⟩, ?_⟩
      · intro y hy
        rcases RamTier.mem_copies_of_mem_push hy with rfl | hy
        · exact ⟨fits, goodX⟩
        · exact left y hy
      · rintro content headers ⟨⟩
        exact goodX

theorem Looks.only {α : Type} {a : Action (Cache hash) α} {answer : Except Fault α}
    (looks : Looks a c answer) (h : c.Only P) :
  (a.perform c).2.Only P
  := by
  obtain ⟨calls, ended | ⟨fault, -, ended⟩⟩ := looks
  · rw [ended]
    exact ⟨h.ram, h.disk⟩
  · rw [ended]
    exact ⟨h.ram, h.disk⟩

/-- The copies in an open cache are those that are stored on its engine. -/
theorem only_of_open? {bounds : Bounds} {e : Engine} (opens : open? hash bounds e = .ok c)
    (h : e.records.Only P) :
  c.Only P
  := by
  constructor
  · rw [copies_opened opens]
    rintro x ⟨⟩
  · obtain ⟨calls, same⟩ := engine_opened opens
    rw [same]
    exact h

theorem Only.close (h : c.Only P) :
  c.close.2.records.Only P
  := by
  obtain ⟨d, only, ended⟩ := close_induction (c := c) (P := fun d => d.engine.records.Only P)
    (fun d calls h => h)
    (fun d x answer d' hx ends only => ends.only (h.ram x hx).1 (h.ram x hx).2 only) h.disk
  rw [ended]
  exact only

end Cache

namespace Session

/-- The step is a save that succeeds, of this identity with this content and these headers. -/
def Stores (x : Step × Answer) (i : Identity) (content : Octets) (headers : Headers) : Prop :=
  ∃ copy, x = (.ask (.save copy), some (.ok .done)) ∧ copy.identity = i ∧ copy.content = content
    ∧ copy.headers = headers

/-- The step is a save or a deletion of this identity, and succeeds. -/
def Replaces (x : Step × Answer) (i : Identity) : Prop :=
  (∃ copy, x = (.ask (.save copy), some (.ok .done)) ∧ copy.identity = i)
    ∨ x = (.ask (.delete i), some (.ok .done))

/-- Content and headers of the latest save of an identity that succeeded; no deletion of the
identity has succeeded since. -/
def Latest (past : List (Step × Answer)) (i : Identity) (content : Octets) (headers : Headers) :
    Prop :=
  ∃ earlier x later, past = earlier ++ x :: later ∧ Stores x i content headers
    ∧ ∀ y ∈ later, ¬ Replaces y i

/-- After one more step, the latest save is that step or, unless it replaces the copy, the former
one. -/
theorem latest_concat {past : List (Step × Answer)} {x : Step × Answer} {i : Identity}
    {content : Octets} {headers : Headers}
    (h : Stores x i content headers ∨ (¬ Replaces x i ∧ Latest past i content headers)) :
  Latest (past ++ [x]) i content headers
  := by
  obtain stores | ⟨kept, earlier, y, later, rfl, stores, rest⟩ := h
  · exact ⟨past, x, [], rfl, stores, by simp⟩
  · refine ⟨earlier, y, later ++ [x], by simp, stores, ?_⟩
    intro z hz
    rcases List.mem_append.1 hz with hz | hz
    · exact rest z hz
    · obtain rfl := List.mem_singleton.1 hz
      exact kept

/-- Whatever a session can still find has this property. -/
def Only (P : Identity → Octets → Headers → Prop) : Session hash → Prop
  | .closed e => e.records.Only P
  | .opened c => c.Only P

variable {P Q : Identity → Octets → Headers → Prop} {s : Session hash} {x : Step}

/-- What is found after a step, if all that was found before it has this property. -/
def Then (P : Identity → Octets → Headers → Prop) (x : Step × Answer) (i : Identity)
    (content : Octets) (headers : Headers) : Prop :=
  Stores x i content headers ∨ (¬ Replaces x i ∧ P i content headers)

theorem Only.mono (h : s.Only P)
    (weaker : ∀ i content headers, P i content headers → Q i content headers) :
  s.Only Q
  := by
  cases s with
  | closed e => exact Records.Only.mono h weaker
  | opened c => exact Cache.Only.mono h weaker

/-- A step that replaces nothing. -/
theorem Only.of_kept {y : Step × Answer} (h : s.Only P) (kept : ∀ i, ¬ Replaces y i) :
  s.Only (Then P y)
  := by
  apply h.mono
  intro i content headers good
  exact .inr ⟨kept i, good⟩

theorem replaces_ask {r : Cache.Request} {answer : Answer} {i : Identity}
    (h : Replaces (.ask r, answer) i) :
  answer = some (.ok .done) ∧ ((∃ copy, r = .save copy ∧ copy.identity = i) ∨ r = .delete i)
  := by
  obtain ⟨copy, same, rfl⟩ | same := h
  · cases same
    exact ⟨rfl, .inl ⟨copy, rfl, rfl⟩⟩
  · cases same
    exact ⟨rfl, .inr rfl⟩

/-- A request keeps the property of all that a cache holds, but for what it saves or deletes. -/
theorem only_serve {c : Cache hash} {r : Cache.Request} (fits : r.identity.Fits) (h : c.Only P) :
  (c.serve r).2.Only (Then P (.ask r, some (c.serve r).1))
  := by
  have kept (h : (c.serve r).2.Only P) (silent : ∀ i, ¬ Replaces (.ask r, some (c.serve r).1) i) :
      (c.serve r).2.Only (Then P (.ask r, some (c.serve r).1)) :=
    Only.of_kept (s := .opened _) h silent
  have peek (peeks : r.Peeks) :
      (c.serve r).2.Only (Then P (.ask r, some (c.serve r).1)) := by
    obtain ⟨answer, looks⟩ := Cache.looks_of_peeks peeks c
    apply kept (looks.only h)
    intro i replaced
    obtain ⟨-, ⟨copy, rfl, -⟩ | rfl⟩ := replaces_ask replaced
    · cases peeks
    · cases peeks
  have told {answer : Except Fault Unit} :
      answer.map (fun _ => Cache.Reply.done) = .ok .done ↔ answer = .ok () := by
    cases answer with
    | error fault => exact ⟨by rintro ⟨⟩, by rintro ⟨⟩⟩
    | ok done => exact ⟨fun _ => rfl, fun _ => rfl⟩
  cases r with
  | save copy =>
      have ends := Cache.saved copy c
      rw [Cache.serve, Cache.Request.act, Action.perform_map]
      apply (ends.only fits h).mono
      rintro i content headers (⟨done, rfl, rfl, rfl⟩ | ⟨other, good⟩)
      · exact .inl ⟨copy, by rw [told.2 done], rfl, rfl, rfl⟩
      · refine .inr ⟨?_, good⟩
        intro replaced
        obtain ⟨answer, ⟨copy, same, rfl⟩ | same⟩ := replaces_ask replaced
        · cases same
          exact other ⟨told.1 (Option.some.inj answer), rfl⟩
        · cases same
  | delete i =>
      have ends := Cache.deleted i c
      rw [Cache.serve, Cache.Request.act, Action.perform_map]
      apply (ends.only fits h).mono
      rintro j content headers ⟨other, good⟩
      refine .inr ⟨?_, good⟩
      intro replaced
      obtain ⟨answer, ⟨copy, same, -⟩ | same⟩ := replaces_ask replaced
      · cases same
      · cases same
        exact other ⟨told.1 (Option.some.inj answer), rfl⟩
  | read i =>
      apply kept
      · rw [Cache.serve, Cache.Request.act, Action.perform_map]
        exact ((Cache.reads i c).only fits h).1
      intro j replaced
      obtain ⟨-, ⟨copy, same, -⟩ | same⟩ := replaces_ask replaced
      · cases same
      · cases same
  | modified i => exact peek trivial
  | headers i => exact peek trivial
  | header i name => exact peek trivial
  | place i => exact peek trivial

/-- A step keeps the property of all that a session can find, but for what it saves or deletes. -/
theorem only_step (fits : x.Fits) (h : s.Only P) :
  (s.step x).2.Only (Then P (x, (s.step x).1))
  := by
  have kept (s' : Session hash) {y : Step × Answer} (found : s'.Only P)
      (other : ∀ r, y.1 ≠ .ask r) : s'.Only (Then P y) := by
    apply found.of_kept
    rintro i (⟨copy, rfl, -⟩ | rfl)
    · exact other _ rfl
    · exact other _ rfl
  cases s with
  | opened c =>
      cases x with
      | ask r => exact only_serve fits h
      | close => exact kept (.closed _) (Cache.Only.close h) (by simp)
      | drop => exact kept (.closed _) (Cache.Only.disk h) (by simp)
      | reopen bounds => exact kept (.opened _) h (by simp)
  | closed e =>
      cases x with
      | ask r =>
          apply h.of_kept
          intro i replaced
          cases (replaces_ask replaced).1
      | close => exact kept (.closed _) h (by simp)
      | drop => exact kept (.closed _) h (by simp)
      | reopen bounds =>
          simp only [step]
          cases opens : Cache.open? hash bounds e with
          | ok c => exact kept (.opened _) (Cache.only_of_open? opens h) (by simp)
          | error failure =>
              obtain ⟨calls, same⟩ := Cache.engine_unopened opens
              have found : failure.2.records.Only P := by
                rw [same]
                exact h
              exact kept (.closed _) found (by simp)

/-- A read finds what has the property. -/
theorem only_read {i : Identity} {content : Octets} {headers : Headers} (fits : i.Fits)
    (h : s.Only P) (reads : (s.step (.ask (.read i))).1 = some (.ok (.found content headers))) :
  P i content headers
  := by
  cases s with
  | closed e => cases reads
  | opened c =>
      have good := ((Cache.reads i c).only fits h).2
      simp only [step, Cache.serve, Cache.Request.act, Action.perform_map] at reads
      cases answer : ((Cache.read i).perform c).1 with
      | error fault =>
          rw [answer] at reads
          cases reads
      | ok y =>
          rw [answer] at reads
          cases reads
          exact good _ _ answer

private theorem latest_of_trace {steps : List Step} {before past future : List (Step × Answer)}
    {i : Identity} {content : Octets} {headers : Headers} (fits : ∀ x ∈ steps, x.Fits)
    (h : s.Only (Latest before))
    (reads : s.trace steps
      = past ++ (.ask (.read i), some (.ok (.found content headers))) :: future) :
  Latest (before ++ past) i content headers
  := by
  -- All that can be found is the latest of the steps so far, with which the session goes on.
  induction steps generalizing s before past with
  | nil => simp [trace] at reads
  | cons x steps ih =>
      obtain ⟨fitsX, fits⟩ := List.forall_mem_cons.1 fits
      rw [trace] at reads
      cases past with
      | nil =>
          obtain ⟨first, -⟩ := List.cons.inj reads
          obtain ⟨rfl, answer⟩ := Prod.mk.inj first
          rw [List.append_nil]
          exact only_read fitsX h answer
      | cons y past =>
          obtain ⟨rfl, rest⟩ := List.cons.inj reads
          have next := (only_step fitsX h).mono fun i content headers => latest_concat
          rw [List.append_cons]
          exact ih fits next rest

/-- What a read answers was given to the latest save of its identity that succeeded, and no deletion
of the identity has succeeded since.  The steps are any requests, with the cache closed or dropped
and opened again at any time, on an engine that was empty at first and may refuse any call. -/
theorem read_latest {engine : Engine} (empty : engine.records = .empty) {steps : List Step}
    (fits : ∀ x ∈ steps, x.Fits) {past future : List (Step × Answer)} {i : Identity}
    {content : Octets} {headers : Headers}
    (reads : (Session.closed engine : Session hash).trace steps
      = past ++ (.ask (.read i), some (.ok (.found content headers))) :: future) :
  Latest past i content headers
  := by
  have none : (Session.closed engine : Session hash).Only (Latest []) := by
    rw [Only, empty]
    exact Records.Only.of_empty
  simpa using latest_of_trace fits none reads

/-- A copy that left RAM before the cache was dropped is read from the next cache. -/
theorem read_latest_after_drop :
  let past : List (Step × Answer) :=
    [(.reopen ⟨1, 1⟩, some (.ok .done)), (.ask (.save (.ofOctet "a" 1)), some (.ok .done)),
      (.ask (.save (.ofOctet "b" 2)), some (.ok .done)), (.drop, some (.ok .done)),
      (.reopen ⟨1, 1⟩, some (.ok .done))]
  (Session.closed {} : Session fun _ => 0).trace (past.map Prod.fst ++ [.ask (.read ⟨"", "a"⟩)])
      = past ++ [(.ask (.read ⟨"", "a"⟩), some (.ok (.found [1] .empty)))]
    ∧ Latest past ⟨"", "a"⟩ [1] .empty
  := by
  intro past
  have reads : (Session.closed {} : Session fun _ => 0).trace
        (past.map Prod.fst ++ [.ask (.read ⟨"", "a"⟩)])
      = past ++ [(.ask (.read ⟨"", "a"⟩), some (.ok (.found [1] .empty)))] := rfl
  exact ⟨reads, read_latest rfl (by decide) reads⟩

end Session

end SiteCache
