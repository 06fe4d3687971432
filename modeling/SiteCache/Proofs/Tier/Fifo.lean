import SiteCache.Proofs.Tier.Listing

/-!
# The disk tier as a bounded queue

A queue has room for a number of copies, in the order of their arrival, and says for every request
what is answered and what becomes of the copies (`Fifo.step`).  A disk tier on an engine that is
empty at first and refuses nothing answers as the queue does (`DiskTier.observed_eq_fifo`), for
copies that are stored without loss (`Copy.Lossless`): all answers agree, and so does after every
request the number of copies and whether there is room for one more.  The tier may be closed and
opened again in between.
-/

namespace SiteCache

variable {i : Identity} {c : Copy} {d d' : DiskTier}

/-- A copy is read back from disk as it was: its identity can be encoded, and its time is a signed
word of nanoseconds and lies in no leap second. -/
def Copy.Lossless (c : Copy) : Prop :=
  c.identity.Fits ∧ c.modified.Storable ∧ c.modified.nanos < 1000000000

instance (c : Copy) : Decidable c.Lossless := inferInstanceAs (Decidable (_ ∧ _ ∧ _))

theorem Copy.Lossless.settled_eq (h : c.Lossless) :
  c.settled = c
  := by
  rw [Copy.settled, Time.settled_eq h.2.2]

namespace DiskTier

/-- What may be asked of a disk tier. -/
inductive Request where
  | save (copy : Copy)
  | take (i : Identity)
  | takeReplacing (i : Identity) (demoted : Copy)
  | remove (i : Identity)
  | contains (i : Identity)
  | modified (i : Identity)
  | headers (i : Identity)
  | evictOldest
  | reopen

/-- What a disk tier replies. -/
inductive Reply where
  | dropped (i : Option Identity)
  | taken (copy : Option Copy)
  | stored (present : Bool)
  | modified (time : Option Time)
  | headers (headers : Option Headers)
  | opened

/-- Closes the engine and opens the tier on it again, with the same bound. -/
def reopen : Action DiskTier Unit := do
  close
  .ofStep fun d =>
    match open? d.engine d.capacity with
    | .ok d => (.ok (), d)
    | .error (fault, e) => (.error fault, { d with engine := e })

namespace Request

/-- The action of a disk tier that answers a request. -/
def act : Request → Action DiskTier Reply
  | .save c => .dropped <$> DiskTier.save c
  | .take i => .taken <$> DiskTier.take i
  | .takeReplacing i c => .taken <$> DiskTier.takeReplacing i (some c)
  | .remove i => .stored <$> DiskTier.remove i
  | .contains i => .stored <$> DiskTier.contains i
  | .modified i => .modified <$> DiskTier.modified i
  | .headers i => .headers <$> DiskTier.headers i
  | .evictOldest => .dropped <$> DiskTier.evictOldest
  | .reopen => (fun _ => .opened) <$> DiskTier.reopen

/-- Identities can be encoded, copies are stored without loss, and none is stored in place of
another copy of its identity. -/
def Proper : Request → Prop
  | .save c => c.Lossless
  | .take i => i.Fits
  | .takeReplacing i c => i.Fits ∧ c.Lossless ∧ c.identity ≠ i
  | .remove i => i.Fits
  | .contains i => i.Fits
  | .modified i => i.Fits
  | .headers i => i.Fits
  | .evictOldest => True
  | .reopen => True

instance : DecidablePred Proper
  | .save c => inferInstanceAs (Decidable c.Lossless)
  | .take i => inferInstanceAs (Decidable i.Fits)
  | .takeReplacing _ _ => inferInstanceAs (Decidable (_ ∧ _ ∧ _))
  | .remove i => inferInstanceAs (Decidable i.Fits)
  | .contains i => inferInstanceAs (Decidable i.Fits)
  | .modified i => inferInstanceAs (Decidable i.Fits)
  | .headers i => inferInstanceAs (Decidable i.Fits)
  | .evictOldest => inferInstanceAs (Decidable True)
  | .reopen => inferInstanceAs (Decidable True)

end Request

/-- The answer to each request, with the count of the tier after it and whether it is full. -/
def observed (d : DiskTier) : List Request → List (Except Fault Reply × Nat × Bool)
  | [] => []
  | r :: requests =>
    let next := r.act.perform d
    (next.1, next.2.count, next.2.isFull) :: observed next.2 requests

/-- The tier after requests. -/
def after (d : DiskTier) (requests : List Request) : DiskTier :=
  requests.foldl (fun d r => (r.act.perform d).2) d

end DiskTier

open DiskTier (Request Reply)

/-- Copies in the order of their arrival, with room for so many. -/
structure Fifo where
  capacity : Nat
  copies : List Copy := []

namespace Fifo

/-- There is no room for one more copy. -/
def isFull (q : Fifo) : Bool := q.copies.length = q.capacity

/-- A copy takes the place of the one of its identity and moves to the back; a new one drops the
first copy of a full queue, whose identity is answered. -/
def save (q : Fifo) (c : Copy) : Option Identity × Fifo :=
  match Copy.of? c.identity q.copies with
  | some _ => (none, { q with copies := Copy.others c.identity q.copies ++ [c] })
  | none =>
    if q.isFull then
      (q.copies.head?.map Copy.identity, { q with copies := q.copies.tail ++ [c] })
    else (none, { q with copies := q.copies ++ [c] })

/-- The copy of an identity leaves the queue, and another one, if there is one, moves to the back;
nothing changes if the identity has no copy. -/
def exchange (q : Fifo) (i : Identity) (c : Option Copy) : Option Copy × Fifo :=
  match Copy.of? i q.copies with
  | some taken => (some taken, { q with copies := Copy.moved c (Copy.others i q.copies) })
  | none => (none, q)

/-- The reply to a request, and the queue after it. -/
def step (q : Fifo) : Request → Reply × Fifo
  | .save c => (.dropped (q.save c).1, (q.save c).2)
  | .take i => (.taken (q.exchange i none).1, (q.exchange i none).2)
  | .takeReplacing i c => (.taken (q.exchange i (some c)).1, (q.exchange i (some c)).2)
  | .remove i =>
    (.stored (Copy.of? i q.copies).isSome, { q with copies := Copy.others i q.copies })
  | .contains i => (.stored (Copy.of? i q.copies).isSome, q)
  | .modified i => (.modified ((Copy.of? i q.copies).map Copy.modified), q)
  | .headers i => (.headers ((Copy.of? i q.copies).map Copy.headers), q)
  | .evictOldest =>
    (.dropped (q.copies.head?.map Copy.identity), { q with copies := q.copies.tail })
  | .reopen => (.opened, q)

/-- The reply to each request, with the length of the queue after it and whether it is full. -/
def observed (q : Fifo) : List Request → List (Except Fault Reply × Nat × Bool)
  | [] => []
  | r :: requests =>
    let next := q.step r
    (.ok next.1, next.2.copies.length, next.2.isFull) :: observed next.2 requests

/-- The queue after requests. -/
def after (q : Fifo) (requests : List Request) : Fifo :=
  requests.foldl (fun q r => (q.step r).2) q

/-- The queue has room at all, and no more copies than that. -/
structure Bounded (q : Fifo) : Prop where
  room : 0 < q.capacity
  length_le : q.copies.length ≤ q.capacity

variable {q : Fifo}

theorem Bounded.of_length_le (h : q.Bounded) {copies : List Copy}
    (fewer : copies.length ≤ q.copies.length) :
  Bounded { q with copies := copies }
  := ⟨h.room, Nat.le_trans fewer h.length_le⟩

/-- A new copy drops the first one if there is no room, and goes to the back. -/
theorem Bounded.save_eq (h : q.Bounded) (c : Copy) :
  q.save c = (Copy.dropped q.capacity c.identity q.copies,
    { q with copies := Copy.moved (some c) (Copy.kept q.capacity c.identity q.copies) })
  := by
  have full : q.isFull = true ↔ q.capacity ≤ q.copies.length := by
    have := h.length_le
    rw [isFull, decide_eq_true_eq]
    omega
  rw [save]
  cases found : Copy.of? c.identity q.copies with
  | some old =>
      have roomy : ¬ Copy.Crowded q.capacity c.identity q.copies := by
        simp [Copy.Crowded, found]
      rw [Copy.dropped, Copy.kept, if_neg roomy, if_neg roomy]
      rfl
  | none =>
      have crowded : Copy.Crowded q.capacity c.identity q.copies ↔ q.isFull = true := by
        rw [full, Copy.Crowded]
        exact and_iff_right found
      simp only [Copy.dropped, Copy.kept, crowded]
      split
      · rw [Copy.moved_some (Copy.of?_tail_eq_none found)]
      · rw [Copy.moved_some found]

theorem capacity_exchange (q : Fifo) (i : Identity) (c : Option Copy) :
  (q.exchange i c).2.capacity = q.capacity
  := by
  rw [exchange]
  cases Copy.of? i q.copies <;> rfl

theorem capacity_save (q : Fifo) (c : Copy) :
  (q.save c).2.capacity = q.capacity
  := by
  rw [save]
  cases Copy.of? c.identity q.copies with
  | some old => rfl
  | none =>
      simp only
      split <;> rfl

/-- No request changes the room of the queue. -/
theorem capacity_step (q : Fifo) (r : Request) :
  (q.step r).2.capacity = q.capacity
  := by
  cases r with
  | save c => apply capacity_save
  | take i => apply capacity_exchange
  | takeReplacing i c => apply capacity_exchange
  | remove i => rfl
  | contains i => rfl
  | modified i => rfl
  | headers i => rfl
  | evictOldest => rfl
  | reopen => rfl

theorem capacity_after (q : Fifo) (requests : List Request) :
  (q.after requests).capacity = q.capacity
  := by
  induction requests generalizing q with
  | nil => rfl
  | cons r requests ih => exact (ih (q.step r).2).trans (capacity_step q r)

theorem Bounded.exchange (h : q.Bounded) (i : Identity) (c : Option Copy) :
  (q.exchange i c).2.Bounded
  := by
  rw [Fifo.exchange]
  cases found : Copy.of? i q.copies with
  | none => exact h
  | some taken =>
      obtain ⟨within, rfl⟩ := Copy.mem_of_of?_eq_some found
      apply h.of_length_le
      apply Nat.le_trans (Copy.length_moved_le c _)
      exact Copy.length_others_lt within

theorem Bounded.save (h : q.Bounded) (distinct : (q.copies.map Copy.identity).Nodup) (c : Copy) :
  (q.save c).2.Bounded
  := by
  have room := h.room
  have within := h.length_le
  have longer := Copy.length_moved_kept distinct room c
  rw [h.save_eq]
  refine ⟨room, ?_⟩
  split at longer
  · simp only [longer]
    omega
  · simp only [longer]
    exact within

/-- The queue keeps within its bound if its copies are of distinct identities. -/
theorem Bounded.step (h : q.Bounded) (distinct : (q.copies.map Copy.identity).Nodup) (r : Request) :
  (q.step r).2.Bounded
  := by
  cases r with
  | save c => exact h.save distinct c
  | take i => exact h.exchange i none
  | takeReplacing i c => exact h.exchange i (some c)
  | remove i => exact h.of_length_le (Copy.length_others_le i q.copies)
  | contains i => exact h
  | modified i => exact h
  | headers i => exact h
  | evictOldest =>
      apply h.of_length_le
      rw [List.length_tail]
      apply Nat.sub_le
  | reopen => exact h

end Fifo

namespace DiskTier

variable {q : Fifo}

/-- The tier lists the copies of a queue, with the same bound, on an engine that refuses nothing. -/
structure Queues (d : DiskTier) (q : Fifo) : Prop where
  lists : d.Lists q.copies
  capacity_eq : d.capacity = q.capacity
  bounded : q.Bounded
  healthy : ∀ fault, ¬ d.engine.Refuses fault

/-- The tier is full when the queue is. -/
theorem Queues.isFull_eq (h : d.Queues q) :
  d.isFull = q.isFull
  := by
  have within := h.bounded.length_le
  rw [isFull, h.capacity_eq, h.lists.count_eq, Fifo.isFull, decide_eq_decide]
  omega

/-- What one request does to a tier that lists the copies of a queue: it answers, lists the copies
that the queue has then, and gives out one insertion id at most. -/
private structure Ends (d d' : DiskTier) (q : Fifo) (r : Request) (answer : Except Fault Reply) :
    Prop where
  answer_eq : answer = .ok (q.step r).1
  lists : d'.Lists (q.step r).2.copies
  leads : Leads d d'
  nextId_le : d'.nextId ≤ d.nextId + 1

/-- A look that is answered changes nothing. -/
private theorem Queues.looks {α : Type} (h : d.Queues q) {a : Action DiskTier α} {x : α}
    (looks : Answers a d (.ok x)) (reply : α → Reply) {r : Request}
    (told : q.step r = (reply x, q)) :
  Ends d ((reply <$> a).perform d).2 q r ((reply <$> a).perform d).1
  := by
  obtain ⟨calls, ended | ⟨fault, refused, -⟩⟩ := looks
  · rw [Action.perform_map, ended]
    refine ⟨by rw [told]; rfl, ?_, Leads.of_asking d calls, Nat.le_succ _⟩
    rw [told]
    exact h.lists.asking calls
  · exact absurd refused (h.healthy fault)

/-- A copy is saved as the queue saves it. -/
private theorem Queues.save (h : d.Queues q) (lossless : c.Lossless)
    (countable : d.nextId + 1 < wordBound) :
  let ended := (Request.save c).act.perform d
  Ends d ended.2 q (.save c) ended.1
  := by
  have ends := saved c d
  have next := ends.nextId_le
  have same := h.bounded.save_eq c
  simp only [Request.act, Action.perform_map]
  obtain ⟨_, refused | unstorable, -, -⟩ | ⟨answer, -, lists⟩ :=
    ends.lists h.lists lossless.1 (Nat.lt_of_le_of_lt next countable)
  · exact absurd refused (h.healthy _)
  · exact absurd lossless.2.1 unstorable
  · rw [h.capacity_eq] at answer lists
    rw [lossless.settled_eq] at lists
    refine ⟨?_, ?_, ends.leads, next⟩
    · rw [answer, Fifo.step, same]
      rfl
    · rw [Fifo.step, same]
      exact lists

/-- A copy is taken out, and another one is stored with it if there is one. -/
private theorem Queues.exchange (h : d.Queues q) (fits : i.Fits) {demoted : Option Copy}
    (lossless : ∀ c, demoted = some c → c.Lossless ∧ c.identity ≠ i)
    (countable : d.nextId + 1 < wordBound) {r : Request}
    (told : q.step r = (.taken (q.exchange i demoted).1, (q.exchange i demoted).2)) :
  let ended := (Reply.taken <$> takeReplacing i demoted).perform d
  Ends d ended.2 q r ended.1
  := by
  have ends := taken i demoted d
  have next := ends.nextId_le
  have other (c : Copy) (same : demoted = some c) : c.identity.Fits ∧ c.identity ≠ i :=
    ⟨(lossless c same).1.1, (lossless c same).2⟩
  have settled : demoted.map Copy.settled = demoted := by
    cases demoted with
    | none => rfl
    | some c => exact congrArg some (lossless c rfl).1.settled_eq
  simp only [Action.perform_map]
  obtain ⟨_, refused | ⟨c, same, unstorable⟩, -, -⟩ | ⟨absent, answer, lists⟩
      | ⟨c, found, answer, -, lists⟩ :=
    ends.lists h.lists fits other (Nat.lt_of_le_of_lt next countable)
  · exact absurd refused (h.healthy _)
  · exact absurd (lossless c same).1.2.1 unstorable
  · rw [Fifo.exchange, absent] at told
    exact ⟨by rw [answer, told]; rfl, by rwa [told], ends.leads, next⟩
  · rw [Fifo.exchange, found] at told
    rw [settled] at lists
    exact ⟨by rw [answer, told]; rfl, by rwa [told], ends.leads, next⟩

/-- A tier that is closed and opened again is the same. -/
private theorem Queues.reopened (h : d.Queues q) :
  ∃ calls, reopen.perform d = (.ok (), d.asking calls)
  := by
  obtain ⟨⟨entries, queue, listed⟩, count⟩ := h.lists
  have room : d.capacity ≠ 0 := h.capacity_eq ▸ Nat.ne_of_gt h.bounded.room
  rw [← listed, List.length_map] at count
  obtain ⟨calls, closed | ⟨fault, refused, -⟩⟩ := answers_close d
  · obtain ⟨more, opens⟩ := open?_of_queue (e := d.engine.asking calls) queue room h.healthy
    use more ++ calls
    rw [reopen, Action.perform_bind, closed]
    simp only [Action.perform_ofStep, asking, opens]
    rw [← count]
    simp only [Engine.asking, List.append_assoc]
  · exact absurd refused (h.healthy fault)

/-- One request. -/
theorem Queues.step {r : Request} (h : d.Queues q) (proper : r.Proper)
    (countable : d.nextId + 1 < wordBound) :
  (r.act.perform d).1 = .ok (q.step r).1 ∧ (r.act.perform d).2.Queues (q.step r).2
    ∧ (r.act.perform d).2.nextId ≤ d.nextId + 1
  := by
  have ends : Ends d (r.act.perform d).2 q r (r.act.perform d).1 := by
    cases r with
    | save c => exact h.save proper countable
    | take i => exact h.exchange proper (by rintro c ⟨⟩) countable rfl
    | takeReplacing i c =>
        exact h.exchange proper.1 (by rintro _ ⟨⟩; exact proper.2) countable rfl
    | remove i =>
        have ends := removed i d
        obtain ⟨_, refused, -, -⟩ | ⟨answer, lists⟩ := ends.lists h.lists proper
        · exact absurd refused (h.healthy _)
        · rw [Request.act, Action.perform_map]
          refine ⟨by rw [answer]; rfl, lists, ends.leads, ?_⟩
          rw [ends.nextId_eq]
          apply Nat.le_succ
    | contains i =>
        exact h.looks (h.lists.answers_contains proper) .stored rfl
    | modified i =>
        have looks := answers_modified i d
        rw [h.lists.modified proper] at looks
        exact h.looks looks .modified rfl
    | headers i =>
        have looks := answers_headers i d
        rw [h.lists.headers proper] at looks
        exact h.looks looks .headers rfl
    | evictOldest =>
        have ends := evicted d
        obtain ⟨_, refused, -, -⟩ | ⟨answer, lists⟩ := ends.lists h.lists
        · exact absurd refused (h.healthy _)
        · rw [Request.act, Action.perform_map]
          refine ⟨by rw [answer]; rfl, lists, ends.leads, ?_⟩
          rw [ends.nextId_eq]
          apply Nat.le_succ
    | reopen =>
        obtain ⟨calls, ended⟩ := h.reopened
        rw [Request.act, Action.perform_map, ended]
        exact ⟨rfl, h.lists.asking calls, Leads.of_asking d calls, Nat.le_succ _⟩
  have bounded := h.bounded.step h.lists.nodup r
  refine ⟨ends.answer_eq, ⟨ends.lists, ?_, bounded, ?_⟩, ends.nextId_le⟩
  · rw [ends.leads.capacity_eq, h.capacity_eq, Fifo.capacity_step]
  · intro fault refused
    exact h.healthy fault (ends.leads.refuses.1 refused)

/-- All requests, as long as there are words for the insertion ids that they may give out. -/
theorem Queues.observed {requests : List Request} (h : d.Queues q)
    (proper : ∀ r ∈ requests, r.Proper) (countable : d.nextId + requests.length < wordBound) :
  d.observed requests = q.observed requests ∧ (d.after requests).Queues (q.after requests)
  := by
  induction requests generalizing d q with
  | nil => exact ⟨rfl, h⟩
  | cons r requests ih =>
      obtain ⟨properR, proper⟩ := List.forall_mem_cons.1 proper
      rw [List.length_cons] at countable
      obtain ⟨answer, next, ids⟩ := h.step properR (by omega)
      obtain ⟨answers, last⟩ := ih next proper (by omega)
      refine ⟨?_, last⟩
      simp only [DiskTier.observed, Fifo.observed, answer, answers, next.lists.count_eq,
        next.isFull_eq]

/-- On an engine that is empty at first and refuses nothing, a disk tier can be opened with room for
any number of copies but none, and answers all requests as the queue with that room does, for copies
that are stored without loss.  Then it lists the copies of the queue, which keeps its bound. -/
theorem observed_eq_fifo {engine : Engine} (empty : engine.records = .empty)
    (healthy : ∀ calls, engine.refuses calls = none) {capacity : Nat} (room : 0 < capacity)
    {requests : List Request} (proper : ∀ r ∈ requests, r.Proper)
    (few : requests.length < wordBound) :
  let q : Fifo := ⟨capacity, []⟩
  ∃ d, open? engine capacity = .ok d ∧ d.observed requests = q.observed requests
    ∧ (d.after requests).Lists (q.after requests).copies
    ∧ (q.after requests).copies.length ≤ capacity
  := by
  intro q
  have queue : engine.records.Queue [] 0 := empty ▸ Records.Queue.of_empty
  have allowed := Engine.not_refuses healthy
  obtain ⟨calls, opens⟩ := open?_of_queue queue (Nat.ne_of_gt room) allowed
  have start : Queues ⟨engine.asking calls, capacity, 0, 0⟩ q :=
    ⟨⟨⟨[], queue, rfl⟩, rfl⟩, rfl, ⟨room, Nat.zero_le _⟩, allowed⟩
  have countable : 0 + requests.length < wordBound := by omega
  obtain ⟨answers, last⟩ := start.observed proper countable
  have bounded := last.bounded.length_le
  rw [Fifo.capacity_after] at bounded
  exact ⟨_, opens, answers, last.lists, bounded⟩

/-- Copies are saved, saved again, dropped, exchanged and taken, and the tier is opened again. -/
def Request.turnover : List Request :=
  [.save (.ofOctet "a" 1), .save (.ofOctet "b" 2), .save (.ofOctet "a" 3), .save (.ofOctet "c" 4),
    .takeReplacing ⟨"", "a"⟩ (.ofOctet "b" 5), .reopen, .evictOldest, .take ⟨"", "b"⟩]

/-- A queue with room for two copies and the tier turn over alike. -/
theorem observed_eq_fifo_turnover :
  let q : Fifo := ⟨2, []⟩
  ∃ d, open? {} 2 = .ok d ∧ d.observed Request.turnover = q.observed Request.turnover
    ∧ (d.after Request.turnover).Lists (q.after Request.turnover).copies
    ∧ (q.after Request.turnover).copies.length ≤ 2
  := by
  have healthy (calls : List Engine.Call) : ({} : Engine).refuses calls = none := rfl
  exact observed_eq_fifo rfl healthy (by decide) (by decide) (by decide)

end DiskTier

end SiteCache
