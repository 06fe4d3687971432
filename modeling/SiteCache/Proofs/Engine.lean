import SiteCache.Engine

/-!
# Searching an engine

The two ways to find the records with a given beginning agree: both answer the records whose key
begins with it, in ascending order (`Engine.Search.all_eq_filter`), and both answer the first of
these where one record is asked for (`Engine.Search.first_eq_head?`).  Between the beginning and the
least byte string above it lie exactly the byte strings that begin with it
(`Records.isPrefixOf_iff_between`), and among keys in ascending order these stand together.  So
engines that differ in their search alone cannot be told apart by requests
(`Engine.observed_range_eq_walk`).
-/

namespace SiteCache

namespace Records

/-! ### Beginnings and ranges -/

theorem not_lt_of_isPrefixOf {beginning key : Octets} (h : beginning.isPrefixOf key = true) :
  ¬ key < beginning
  := by
  induction beginning generalizing key with
  | nil => apply List.not_lt_nil
  | cons o beginning ih =>
      cases key with
      | nil => simp at h
      | cons x key =>
          simp only [List.isPrefixOf_cons_cons, Bool.and_eq_true, beq_iff_eq] at h
          obtain ⟨rfl, h⟩ := h
          rw [List.cons_lt_cons_iff]
          rintro (below | ⟨-, below⟩)
          · exact UInt8.lt_irrefl _ below
          · exact ih h below

private theorem eq_top_of_not_lt {x : UInt8} (h : ¬ x < 255) :
  x = 255
  := by
  have := x.toNat_lt
  rw [UInt8.lt_iff_toNat_lt, show (255 : UInt8).toNat = 255 from rfl] at h
  apply UInt8.toNat_inj.1
  rw [show (255 : UInt8).toNat = 255 from rfl]
  omega

private theorem lt_succ_iff {o : UInt8} (h : o ≠ 255) (x : UInt8) :
  x < o + 1 ↔ x < o ∨ x = o
  := by
  have := o.toNat_lt
  have inside : o.toNat ≠ 255 := fun e => h (UInt8.toNat_inj.1 e)
  have succ : (o + 1).toNat = o.toNat + 1 := by
    rw [UInt8.toNat_add, show (1 : UInt8).toNat = 1 from rfl]
    omega
  rw [UInt8.lt_iff_toNat_lt, UInt8.lt_iff_toNat_lt, ← UInt8.toNat_inj, succ]
  omega

/-- Nothing but what begins with octets 255 alone is above them. -/
theorem isPrefixOf_iff_not_lt {beginning : Octets} (h : above? beginning = none) (key : Octets) :
  beginning.isPrefixOf key = true ↔ ¬ key < beginning
  := by
  constructor
  · apply not_lt_of_isPrefixOf
  · intro above
    induction beginning generalizing key with
    | nil => simp
    | cons o beginning ih =>
        cases key with
        | nil => exact absurd (List.nil_lt_cons o beginning) above
        | cons x key =>
            simp only [above?] at h
            split at h
            · simp at h
            next boundless =>
            split at h
            next top =>
              subst top
              rw [List.cons_lt_cons_iff, not_or, not_and] at above
              have same := eq_top_of_not_lt above.1
              simp [same, ih boundless key (above.2 same)]
            · simp at h

/-- A byte string begins with these octets if and only if it lies between them and the least byte
string above all that do. -/
theorem isPrefixOf_iff_between {beginning bound : Octets} (h : above? beginning = some bound)
    (key : Octets) :
  beginning.isPrefixOf key = true ↔ ¬ key < beginning ∧ key < bound
  := by
  induction beginning generalizing bound key with
  | nil => simp [above?] at h
  | cons o beginning ih =>
      cases key with
      | nil => simp
      | cons x key =>
          simp only [above?] at h
          split at h
          next bound above =>
            obtain rfl := Option.some.inj h
            have rest := ih above key
            simp only [List.isPrefixOf_cons_cons, Bool.and_eq_true, beq_iff_eq,
              List.cons_lt_cons_iff, rest]
            grind
          next boundless =>
            split at h
            · simp at h
            next inside =>
            obtain rfl := Option.some.inj h
            simp only [List.isPrefixOf_cons_cons, Bool.and_eq_true, beq_iff_eq,
              List.cons_lt_cons_iff, isPrefixOf_iff_not_lt boundless, lt_succ_iff inside,
              List.not_lt_nil, and_false, or_false]
            grind

/-- A beginning has no bound if it consists of octets 255 alone. -/
theorem above?_replicate (n : Nat) :
  above? (List.replicate n 255) = none
  := by
  induction n with
  | zero => rfl
  | succ n ih => simp [List.replicate_succ, above?, ih]

/-- Otherwise the octets 255 at its end are dropped, and the octet before them is raised by one. -/
theorem above?_append (front : Octets) {o : UInt8} (h : o ≠ 255) (n : Nat) :
  above? (front ++ o :: List.replicate n 255) = some (front ++ [o + 1])
  := by
  induction front with
  | nil => simp [above?, above?_replicate, h]
  | cons x front ih => simp only [List.cons_append, above?, ih]

/-- Both kinds of beginnings span the byte strings that begin with them. -/
theorem prefix_iff_range (beginning key : Octets) :
  beginning <+: key
    ↔ beginning ≤ key ∧ ∀ bound, above? beginning = some bound → key < bound
  := by
  rw [← List.isPrefixOf_iff_prefix, ← List.not_lt]
  cases above : above? beginning with
  | none => simp [isPrefixOf_iff_not_lt above]
  | some bound => simp [isPrefixOf_iff_between above]

/-- What lies between a beginning and a byte string that begins with it begins with it, too. -/
theorem isPrefixOf_of_lt {beginning j k : Octets} (low : ¬ j < beginning) (lt : j < k)
    (h : beginning.isPrefixOf k = true) :
  beginning.isPrefixOf j = true
  := by
  cases above : above? beginning with
  | none => exact (isPrefixOf_iff_not_lt above j).2 low
  | some bound =>
      have high := ((isPrefixOf_iff_between above k).1 h).2
      exact (isPrefixOf_iff_between above j).2 ⟨low, KeyOrder.trans lt high⟩

/-! ### The two searches -/

/-- The records whose key begins with these octets, in ascending order. -/
def startingWith (r : Records) (beginning : Octets) : List (Octets × Octets) :=
  r.entries.filter fun x => beginning.isPrefixOf x.1

theorem takeWhile_eq_filter (beginning : Octets) {entries : List (Octets × Octets)}
    (ascending : entries.Pairwise (fun x y => x.1 < y.1))
    (low : ∀ x ∈ entries, ¬ x.1 < beginning) :
  entries.takeWhile (fun x => beginning.isPrefixOf x.1)
    = entries.filter fun x => beginning.isPrefixOf x.1
  := by
  induction entries with
  | nil => rfl
  | cons x entries ih =>
      obtain ⟨below, ascending⟩ := List.pairwise_cons.1 ascending
      obtain ⟨lowest, low⟩ := List.forall_mem_cons.1 low
      by_cases h : beginning.isPrefixOf x.1 = true
      · rw [List.takeWhile_cons, List.filter_cons, if_pos h, if_pos h, ih ascending low]
      · rw [List.takeWhile_cons, List.filter_cons, if_neg h, if_neg h]
        symm
        apply List.filter_eq_nil_iff.2
        intro y hy later
        exact h (isPrefixOf_of_lt lowest (below y hy) later)

theorem walk_eq_startingWith (r : Records) (beginning : Octets) :
  r.walk beginning = r.startingWith beginning
  := by
  obtain ⟨entries, ascending⟩ := r
  simp only [walk, startingWith]
  induction entries with
  | nil => rfl
  | cons x entries ih =>
      by_cases h : x.1 < beginning
      · have skipped : ¬ beginning.isPrefixOf x.1 = true := fun p => not_lt_of_isPrefixOf p h
        rw [List.dropWhile_cons_of_pos (by simpa using h), List.filter_cons, if_neg skipped,
          ih (List.pairwise_cons.1 ascending).2]
      · have low : ∀ y ∈ x :: entries, ¬ y.1 < beginning := by
          intro y hy lt
          rcases List.mem_cons.1 hy with rfl | hy
          · exact h lt
          · exact h (KeyOrder.trans ((List.pairwise_cons.1 ascending).1 y hy) lt)
        rw [List.dropWhile_cons_of_neg (by simpa using h), takeWhile_eq_filter _ ascending low]

theorem between_eq_startingWith (r : Records) (beginning : Octets) :
  r.between beginning = r.startingWith beginning
  := by
  rw [between, startingWith]
  cases above : above? beginning with
  | none =>
      apply List.filter_congr
      intro x _
      rw [Bool.eq_iff_iff, isPrefixOf_iff_not_lt above, decide_eq_true_eq, List.not_lt]
  | some bound =>
      apply List.filter_congr
      intro x _
      rw [Bool.eq_iff_iff, isPrefixOf_iff_between above, Bool.and_eq_true, decide_eq_true_eq,
        decide_eq_true_eq, List.not_lt]

theorem walkFirst_eq_head? (r : Records) (beginning : Octets) :
  r.walkFirst beginning = (r.walk beginning).head?
  := by
  rw [walkFirst, walk]
  cases r.entries.dropWhile fun x => x.1 < beginning with
  | nil => rfl
  | cons x entries =>
      rw [List.takeWhile_cons, List.head?_cons, Option.filter_some]
      split
      · rfl
      · rfl

end Records

namespace Engine

/-- Either search answers the records whose key begins with the octets asked for, ascending. -/
theorem Search.all_eq_filter (s : Search) (r : Records) (beginning : Octets) :
  s.all r beginning = r.startingWith beginning
  := by
  cases s with
  | walk => apply Records.walk_eq_startingWith
  | range => apply Records.between_eq_startingWith

/-- Either search answers the lowest of these records where a single one is asked for. -/
theorem Search.first_eq_head? (s : Search) (r : Records) (beginning : Octets) :
  s.first r beginning = (r.startingWith beginning).head?
  := by
  cases s with
  | walk => rw [← Records.walk_eq_startingWith, ← Records.walkFirst_eq_head?]; rfl
  | range => rw [← Records.between_eq_startingWith]; rfl

/-! ### Requests -/

/-- What may be asked of an engine. -/
inductive Request where
  | get (key : Octets)
  | put (key value : Octets)
  | delete (key : Octets)
  | scan (beginning : Octets)
  | first (beginning : Octets)
  | write (batch : Batch)

/-- What an engine replies. -/
inductive Reply where
  | value (value : Option Octets)
  | records (records : List (Octets × Octets))
  | record (record : Option (Octets × Octets))
  | done

/-- The call that answers a request. -/
def Request.act : Request → Action Engine Reply
  | .get key => .value <$> Engine.get key
  | .put key value => (fun _ => .done) <$> Engine.write [.put key value]
  | .delete key => (fun _ => .done) <$> Engine.write [.delete key]
  | .scan beginning => .records <$> Engine.scan beginning
  | .first beginning => .record <$> Engine.first beginning
  | .write batch => (fun _ => .done) <$> Engine.write batch

/-- The answer to each request. -/
def observed (e : Engine) : List Request → List (Except Fault Reply)
  | [] => []
  | r :: requests =>
    let next := r.act.perform e
    next.1 :: observed next.2 requests

/-- An engine that searches differently. -/
def searching (s : Search) (e : Engine) : Engine := { e with search := s }

/-- A call with an effect that does not depend on the search has the same answer. -/
private theorem perform_ask_searching {α : Type} (call : Call) {effect : Engine → α × Records}
    {s : Search} {e : Engine} (same : effect (searching s e) = effect e) :
  (ask call effect).perform (searching s e)
    = (((ask call effect).perform e).1, searching s ((ask call effect).perform e).2)
  := by
  rw [searching] at same ⊢
  simp only [ask, Action.perform_ofStep, same]
  cases e.refuses (call :: e.asked) with
  | none => rfl
  | some fault => rfl

/-- The answer to a request does not depend on the search, which stays as it is. -/
theorem Request.perform_act_searching (r : Request) (s : Search) (e : Engine) :
  r.act.perform (searching s e) = ((r.act.perform e).1, searching s (r.act.perform e).2)
  := by
  cases r with
  | get key =>
      rw [act, Action.perform_map, Action.perform_map, Engine.get, perform_ask_searching]
      rfl
  | put key value =>
      rw [act, Action.perform_map, Action.perform_map, Engine.write, perform_ask_searching]
      rfl
  | delete key =>
      rw [act, Action.perform_map, Action.perform_map, Engine.write, perform_ask_searching]
      rfl
  | scan beginning =>
      rw [act, Action.perform_map, Action.perform_map, Engine.scan, perform_ask_searching]
      simp only [Search.all_eq_filter, searching]
  | first beginning =>
      rw [act, Action.perform_map, Action.perform_map, Engine.first, perform_ask_searching]
      simp only [Search.first_eq_head?, searching]
  | write batch =>
      rw [act, Action.perform_map, Action.perform_map, Engine.write, perform_ask_searching]
      rfl

theorem observed_searching (s : Search) (e : Engine) (requests : List Request) :
  (searching s e).observed requests = e.observed requests
  := by
  induction requests generalizing e with
  | nil => rfl
  | cons r requests ih => rw [observed, r.perform_act_searching, ih, observed]

/-- Engines that search by walking and by ranges answer all requests alike, whatever their records
are and whatever they refuse.  The range that a beginning spans contains exactly the byte strings
that begin with it; its bound is found by dropping octets 255 from the end and raising the octet
before them.  A walk finds all records with the beginning, in ascending order, and the first record
is the head of all. -/
theorem observed_range_eq_walk :
  (∀ (e : Engine) (requests : List Request),
      (searching .range e).observed requests = (searching .walk e).observed requests)
    ∧ (∀ beginning key : Octets, beginning <+: key
      ↔ beginning ≤ key ∧ ∀ bound, Records.above? beginning = some bound → key < bound)
    ∧ (∀ n : Nat, Records.above? (List.replicate n 255) = none)
    ∧ (∀ (front : Octets) (o : UInt8) (n : Nat), o ≠ 255 →
      Records.above? (front ++ o :: List.replicate n 255) = some (front ++ [o + 1]))
    ∧ (∀ (r : Records) (beginning : Octets),
      r.walk beginning = r.entries.filter (fun x => beginning.isPrefixOf x.1)
        ∧ (r.walk beginning).Pairwise fun x y => x.1 < y.1)
    ∧ ∀ (s : Search) (r : Records) (beginning : Octets),
      s.first r beginning = (s.all r beginning).head?
  := by
  refine ⟨?_, Records.prefix_iff_range, Records.above?_replicate, ?_, ?_, ?_⟩
  · intro e requests
    rw [observed_searching, observed_searching]
  · intro front o n below
    exact Records.above?_append front below n
  · intro r beginning
    rw [Records.walk_eq_startingWith]
    exact ⟨rfl, r.ascending.filter _⟩
  · intro s r beginning
    rw [s.first_eq_head?, s.all_eq_filter]

end Engine

end SiteCache
