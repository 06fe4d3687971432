import SiteCache.Proofs.Cache.Policy
import SiteCache.Proofs.Cache.Sessions

/-!
# What the counters account for

On an engine that refuses nothing, what a cache counts for a request is decided by the two lists of
the policy that it follows (`Policy.events`, `Cache.Follows.counters_serve`).  The counters then
tell where every copy came from and where it went (`Cache.accounts_of_queue`): the copies in both
tiers, the deleted and the evicted ones are together as many as there were when the cache was opened
and were saved when neither tier had their identity.
-/

namespace SiteCache

open Cache (Request Reply)

variable {hash : Identity → UInt64}

/-! ### Events -/

namespace Counters

/-- The number of events of a kind. -/
def number (k : Counters) : Event → Nat
  | .ramHit => k.ramHits
  | .diskHit => k.diskHits
  | .miss => k.misses
  | .promotion => k.promotions
  | .demotion => k.demotions
  | .eviction => k.evictions
  | .save => k.saves
  | .deletion => k.deletions

/-- Counts events, one after another. -/
def add (k : Counters) (events : List Event) : Counters :=
  events.foldl (fun k e => k.record 1 e) k

theorem add_cons (k : Counters) (e : Event) (events : List Event) :
  k.add (e :: events) = (k.record 1 e).add events
  := rfl

theorem number_record (k : Counters) (times : Nat) (e e' : Event) :
  (k.record times e).number e' = k.number e' + if e = e' then times else 0
  := by
  cases e <;> cases e' <;> rfl

/-- Every event is counted among those of its kind, and only there. -/
theorem number_add (k : Counters) (events : List Event) (e : Event) :
  (k.add events).number e = k.number e + events.count e
  := by
  induction events generalizing k with
  | nil => rfl
  | cons e' events ih =>
      rw [add_cons, ih, number_record, List.count_cons, Nat.add_right_comm, Nat.add_assoc]
      simp only [beq_iff_eq]

end Counters

namespace Cache.Request

/-- The request asks for content. -/
@[simp]
def isRead : Request → Bool
  | .read _ => true
  | _ => false

/-- The request brings a copy. -/
@[simp]
def isSave : Request → Bool
  | .save _ => true
  | _ => false

/-- The request takes an identity out. -/
@[simp]
def isDelete : Request → Bool
  | .delete _ => true
  | _ => false

end Cache.Request

/-! ### What the policy counts -/

namespace Policy

variable {bounds : Bounds} {p : Policy} {i : Identity}

/-- What is counted when the victim, if there is one, goes to a disk list with so much room. -/
def leaving (capacity : Nat) (disk : List Copy) : Option Copy → List Event
  | some _ => if capacity ≤ disk.length then [.eviction, .demotion] else [.demotion]
  | none => []

/-- What is counted when a copy on disk takes the place of the victim, if there is one. -/
def entering : Option Copy → List Event
  | some _ => [.demotion, .diskHit, .promotion]
  | none => [.diskHit, .promotion]

/-- What is counted for a request. -/
def events (hash : Identity → UInt64) (bounds : Bounds) (p : Policy) : Request → List Event
  | .save x =>
    let rest := p.without x.identity
    .save :: leaving bounds.disk rest.disk (rest.victim hash bounds x.identity)
  | .read i =>
    match Copy.of? i p.ram with
    | some _ => [.ramHit]
    | none =>
      match Copy.of? i p.disk with
      | some _ => entering (p.victim hash bounds i)
      | none => [.miss]
  | .delete i => if (p.find i).isSome then [.deletion] else []
  | _ => []

/-- No identity has two copies in the lists. -/
structure Distinct (p : Policy) : Prop where
  ram : (p.ram.map Copy.identity).Nodup
  disk : (p.disk.map Copy.identity).Nodup
  apart : ∀ x ∈ p.ram, ∀ y ∈ p.disk, x.identity ≠ y.identity

/-- An identity that is taken out takes one copy along if there is one. -/
theorem Distinct.length_without (h : p.Distinct) (i : Identity) :
  (p.without i).ram.length + (p.without i).disk.length + (p.find i).isSome.toNat
    = p.ram.length + p.disk.length
  := by
  rw [without, find]
  cases inRam : Copy.of? i p.ram with
  | some x =>
      obtain ⟨hx, rfl⟩ := Copy.mem_of_of?_eq_some inRam
      have absent : Copy.of? x.identity p.disk = none :=
        Copy.of?_eq_none_iff.2 fun y hy => (h.apart x hx y hy).symm
      have shorter := Copy.length_others h.ram hx
      simp only [Copy.others_eq_self absent, Option.some_or, Option.isSome_some, Bool.toNat_true]
      omega
  | none =>
      rw [Copy.others_eq_self inRam, Option.none_or]
      cases onDisk : Copy.of? i p.disk with
      | some x =>
          obtain ⟨hx, rfl⟩ := Copy.mem_of_of?_eq_some onDisk
          have shorter := Copy.length_others h.disk hx
          simp only [Option.isSome_some, Bool.toNat_true]
          omega
      | none =>
          rw [Copy.others_eq_self onDisk]
          rfl

theorem Distinct.without (h : p.Distinct) (i : Identity) :
  (p.without i).Distinct
  := by
  refine ⟨h.ram.sublist ?_, h.disk.sublist ?_, ?_⟩
  · exact List.filter_sublist.map _
  · exact List.filter_sublist.map _
  · intro x hx y hy
    exact h.apart x (Copy.others_subset i _ hx) y (Copy.others_subset i _ hy)

/-- The victim is one copy of RAM. -/
theorem Distinct.length_remaining (h : p.Distinct) (hash : Identity → UInt64) (bounds : Bounds)
    (i : Identity) :
  (RamTier.remaining (p.victim hash bounds i) p.ram).length
      + (p.victim hash bounds i).toList.length
    = p.ram.length
  := by
  cases chosen : p.victim hash bounds i with
  | none => rfl
  | some v => exact Copy.length_others h.ram (RamTier.mem_of_victim chosen)

/-- A demoted copy makes the disk list longer, unless the first copy is dropped and counted. -/
theorem length_pushed {capacity : Nat} (room : 0 < capacity) (v : Option Copy)
    (disk : List Copy) :
  (Cache.pushed capacity v disk).length + (leaving capacity disk v).count .eviction
    = disk.length + v.toList.length
  := by
  cases v with
  | none => rfl
  | some v =>
      rw [Cache.pushed, Copy.spared, leaving]
      split
      · rw [List.length_append, List.length_tail]
        simp only [List.length_singleton, Option.toList_some, reduceCtorEq, not_false_eq_true,
          List.count_cons_self, List.count_cons_of_ne, List.count_nil, ne_eq]
        omega
      · simp

/-- Every read is counted as a hit or a miss, every copy that is hit on disk as promoted, every save
as a save, and a deletion if there is a copy. -/
theorem count_events (hash : Identity → UInt64) (bounds : Bounds) (p : Policy) (r : Request) :
  let events := p.events hash bounds r
  events.count .ramHit + events.count .diskHit + events.count .miss = r.isRead.toNat
    ∧ events.count .promotion = events.count .diskHit
    ∧ events.count .save = r.isSave.toNat
    ∧ events.count .deletion = (r.isDelete && (p.find r.identity).isSome).toNat
  := by
  cases r with
  | save x =>
      rw [events]
      cases (p.without x.identity).victim hash bounds x.identity with
      | none => simp [leaving]
      | some v =>
          rw [leaving]
          split <;> simp
  | read i =>
      rw [events]
      cases Copy.of? i p.ram with
      | some x => simp
      | none =>
          cases Copy.of? i p.disk with
          | none => simp
          | some x =>
              cases p.victim hash bounds i <;> simp [entering]
  | delete i =>
      rw [events, Request.identity]
      cases (p.find i).isSome <;> simp
  | modified i => simp [events]
  | headers i => simp [events]
  | header i name => simp [events]
  | place i => simp [events]

/-- A copy comes to the lists with the save of an identity that is in neither, and leaves them with
an eviction or a deletion. -/
theorem Distinct.length_step (h : p.Distinct) (hash : Identity → UInt64)
    (room : 0 < bounds.disk) (r : Request) :
  let next := (p.step hash bounds r).2
  next.ram.length + next.disk.length + (p.events hash bounds r).count .eviction
      + (r.isDelete && (p.find r.identity).isSome).toNat
    = p.ram.length + p.disk.length + (r.isSave && (p.find r.identity).isNone).toNat
  := by
  intro next
  cases r with
  | save x =>
      have cleared := h.length_without x.identity
      have remaining := (h.without x.identity).length_remaining hash bounds x.identity
      have pushed := length_pushed room ((p.without x.identity).victim hash bounds x.identity)
        (p.without x.identity).disk
      have new : (p.find x.identity).isSome.toNat + (p.find x.identity).isNone.toNat = 1 := by
        cases p.find x.identity <;> rfl
      simp only [next, events, step, enter, List.length_cons, Request.isSave, Request.isDelete,
        Request.identity, Bool.true_and, Bool.false_and, Bool.toNat_false, ne_eq, reduceCtorEq,
        not_false_eq_true, List.count_cons_of_ne]
      omega
  | read i =>
      simp only [next, events, step, Request.isSave, Request.isDelete, Bool.false_and,
        Bool.toNat_false]
      cases inRam : Copy.of? i p.ram with
      | some x =>
          obtain ⟨hx, rfl⟩ := Copy.mem_of_of?_eq_some inRam
          have shorter := Copy.length_others h.ram hx
          simp only [List.length_cons, shorter]
          rfl
      | none =>
          cases onDisk : Copy.of? i p.disk with
          | none => rfl
          | some x =>
              obtain ⟨hx, rfl⟩ := Copy.mem_of_of?_eq_some onDisk
              have shorter := Copy.length_others h.disk hx
              have remaining := h.length_remaining hash bounds x.identity
              have undropped :
                  (entering (p.victim hash bounds x.identity)).count .eviction = 0 := by
                cases p.victim hash bounds x.identity <;> rfl
              simp only [undropped, promote, List.length_cons, List.length_append,
                Option.toList_map, List.length_map]
              omega
  | delete i =>
      have cleared := h.length_without i
      have undropped : (events hash bounds p (.delete i)).count .eviction = 0 := by
        rw [events]
        split <;> rfl
      simp only [next, undropped, step, Request.isSave, Request.isDelete, Request.identity,
        Bool.true_and, Bool.false_and, Bool.toNat_false]
      omega
  | modified i => rfl
  | headers i => rfl
  | header i name => rfl
  | place i => rfl

end Policy

namespace Cache

variable {c : Cache hash} {p : Policy} {bounds : Bounds} {ram disk : List Copy} {x v : Copy}
  {i : Identity}

/-! ### What the cache counts -/

/-- What a cache counts when its disk tier answers this to the save of a demoted copy. -/
def demotions : Except Fault (Option Identity) → List Event
  | .ok (some _) => [.eviction, .demotion]
  | .ok none => [.demotion]
  | .error _ => []

theorem perform_demote (v : Copy) (c : Cache hash) :
  (demote v).perform c
    = let saved := (DiskTier.save v).perform c.disk
      (saved.1.map fun _ => (),
        { c with disk := saved.2, counters := c.counters.add (demotions saved.1) })
  := by
  rw [demote, Action.perform_bind, perform_onDisk]
  rcases (DiskTier.save v).perform c.disk with ⟨fault | (none | j), d⟩
  · rfl
  · rfl
  · rfl

/-- An insertion into RAM counts what the demotion of the victim counts. -/
theorem counters_insert {v : Option Copy} (popped : (c.ram.popDisplaced x.identity).1 = v) :
  ((insert x).perform c).2.disk = v.elim c.disk (fun v => ((DiskTier.save v).perform c.disk).2)
    ∧ ((insert x).perform c).2.counters
      = c.counters.add (v.elim [] fun v => demotions ((DiskTier.save v).perform c.disk).1)
  := by
  simp only [insert, Action.perform_bind, perform_onRam, popped]
  cases v with
  | none => exact ⟨rfl, rfl⟩
  | some v =>
      simp only [Action.perform_bind, Action.perform_attempt, perform_demote, Option.elim_some]
      rcases (DiskTier.save v).perform c.disk with ⟨fault | dropped, d⟩
      · exact ⟨rfl, rfl⟩
      · exact ⟨rfl, rfl⟩

/-- On an engine that refuses nothing, the eviction that a demotion causes is counted. -/
theorem Holds.counters_insert (h : c.Holds ram disk)
    (healthy : ∀ fault, ¬ c.disk.engine.Refuses fault) (room : 0 < c.disk.capacity)
    (absent : Copy.of? x.identity ram = none) {v : Option Copy}
    (chosen : RamTier.victim hash c.ram.capacity ram x.identity = v)
    (storable : ∀ w, v = some w → w.modified.Storable)
    (countable : ((insert x).perform c).2.disk.nextId < wordBound) :
  ((insert x).perform c).2.counters
    = c.counters.add (Policy.leaving c.disk.capacity disk v)
  := by
  obtain ⟨tier, counters⟩ := Cache.counters_insert (h.popDisplaced absent chosen).1
  rw [tier] at countable
  rw [counters]
  cases v with
  | none => rfl
  | some w =>
      obtain ⟨-, fits, new⟩ := h.victim chosen
      obtain ⟨fault, refused | unstorable, -, -⟩ | ⟨answer, -, -⟩ :=
        (DiskTier.saved w c.disk).lists h.lists fits countable
      · exact absurd refused (healthy fault)
      · exact absurd (storable w rfl) unstorable
      · rw [Option.elim_some, answer, Copy.dropped, Policy.leaving]
        have crowded : Copy.Crowded c.disk.capacity w.identity disk
            ↔ c.disk.capacity ≤ disk.length := by
          rw [Copy.Crowded]
          exact and_iff_right new
        by_cases full : c.disk.capacity ≤ disk.length
        · cases disk with
          | nil => exact absurd full (Nat.not_le.2 room)
          | cons y disk =>
              rw [if_pos (crowded.2 full), if_pos full]
              rfl
        · rw [if_neg (crowded.not.2 full), if_neg full]
          rfl

/-- What a cache counts when its disk tier answers this to a promotion that displaces a copy or
not. -/
def promotions (displaced : Option Copy) : Except Fault (Option Copy) → List Event
  | .ok (some _) => Policy.entering displaced
  | .ok none => displaced.toList.map fun _ => .demotion
  | .error _ => []

theorem counters_promote (i : Identity) (c : Cache hash) :
  let displaced := (c.ram.popDisplaced i).1
  let taken := (DiskTier.takeReplacing i displaced).perform c.disk
  ((promote i).perform c).1 = taken.1
    ∧ ((promote i).perform c).2.disk = taken.2
    ∧ ((promote i).perform c).2.counters = c.counters.add (promotions displaced taken.1)
  := by
  simp only [promote, Action.perform_bind, perform_onRam, perform_onDisk, Action.perform_attempt]
  cases (c.ram.popDisplaced i).1 with
  | none =>
      rcases (DiskTier.takeReplacing i none).perform c.disk with ⟨fault | (none | y), d⟩
      · exact ⟨rfl, rfl, rfl⟩
      · exact ⟨rfl, rfl, rfl⟩
      · exact ⟨rfl, rfl, rfl⟩
  | some w =>
      rcases (DiskTier.takeReplacing i (some w)).perform c.disk with ⟨fault | (none | y), d⟩
      · exact ⟨rfl, rfl, rfl⟩
      · exact ⟨rfl, rfl, rfl⟩
      · exact ⟨rfl, rfl, rfl⟩

theorem Follows.counters_save (h : c.Follows bounds p) (room : 0 < bounds.disk)
    (fits : x.identity.Fits) (countable : ((save x).perform c).2.disk.nextId < wordBound) :
  ((save x).perform c).2.counters = c.counters.add (p.events hash bounds (.save x))
  := by
  have removal := DiskTier.removed x.identity c.disk
  have left := h.holds.copies_eq ▸ (RamTier.copies_remove c.ram x.identity).2
  simp only [save, Action.perform_bind, perform_onRam, perform_onDisk] at countable ⊢
  rcases removed : (DiskTier.remove x.identity).perform c.disk with ⟨answer, d⟩
  rw [removed] at removal countable
  obtain ⟨fault, refused, -, -⟩ | ⟨rfl, lists⟩ := removal.lists h.holds.lists fits
  · exact absurd refused (h.healthy fault)
  · have leads := removal.leads
    have cleared := h.holds.of_subset (k := c.counters.record 1 .save) left lists
      (Copy.others_subset _ p.ram) (Copy.others_subset _ p.disk)
    have ramBound := (RamTier.capacity_remove c.ram x.identity).trans h.ramBound
    have diskBound := leads.capacity_eq.trans h.diskBound
    have counted := cleared.counters_insert (x := x)
      (fun fault refused => h.healthy fault (leads.refuses.1 refused)) (diskBound ▸ room)
      (Copy.of?_others _ _) rfl
      (fun w chosen =>
        h.storable w (Copy.others_subset _ _ (RamTier.mem_of_victim chosen))) countable
    rw [ramBound, diskBound] at counted
    exact counted

theorem Follows.victim_eq (h : c.Follows bounds p) (i : Identity) :
  RamTier.victim hash c.ram.capacity p.ram i = p.victim hash bounds i
  := by
  rw [h.ramBound, Policy.victim]

theorem Follows.asking (h : c.Follows bounds p) (calls : List Engine.Call) :
  (c.asking calls).Follows bounds p
  := by
  obtain ⟨⟨copies, lists, apart, fits⟩, healthy, ramBound, diskBound, storable⟩ := h
  exact ⟨⟨copies, lists.asking calls, apart, fits⟩, healthy, ramBound, diskBound, storable⟩

/-- On an engine that refuses nothing, the copy on disk is promoted, with the events of that. -/
theorem Follows.counters_promote (h : c.Follows bounds p) (fits : i.Fits)
    (absent : Copy.of? i p.ram = none) (onDisk : Copy.of? i p.disk = some x)
    (countable : ((promote i).perform c).2.disk.nextId < wordBound) :
  ((promote i).perform c).1 = .ok (some x)
    ∧ ((promote i).perform c).2.counters
      = c.counters.add (Policy.entering (p.victim hash bounds i))
  := by
  obtain ⟨answer, tier, counters⟩ := Cache.counters_promote i c
  obtain ⟨popped, -⟩ := h.holds.popDisplaced absent (h.victim_eq i)
  rw [popped] at answer tier counters
  rw [tier] at countable
  have other := h.holds.other_of_victim (h.victim_eq i) absent
  obtain ⟨fault, refused | ⟨w, chosen, unstorable⟩, -, -⟩ | ⟨missing, -, -⟩
      | ⟨y, found, taken, -, -⟩ :=
    (DiskTier.taken i (p.victim hash bounds i) c.disk).lists h.holds.lists fits other countable
  · exact absurd refused (h.healthy fault)
  · exact absurd (h.storable w (RamTier.mem_of_victim chosen)) unstorable
  · cases onDisk.symm.trans missing
  · obtain rfl := Option.some.inj (onDisk.symm.trans found)
    rw [taken] at answer counters
    exact ⟨answer, counters⟩

theorem Follows.counters_read (h : c.Follows bounds p) (fits : i.Fits)
    (countable : ((read i).perform c).2.disk.nextId < wordBound) :
  ((read i).perform c).2.counters = c.counters.add (p.events hash bounds (.read i))
  := by
  simp only [read, Action.perform_bind, perform_onRam, RamTier.get, h.holds.peek i,
    Policy.events] at countable ⊢
  cases inRam : Copy.of? i p.ram with
  | some y => rfl
  | none =>
      simp only [inRam, Action.perform_bind, perform_onDisk] at countable ⊢
      obtain ⟨calls, ended | ⟨fault, refused, -⟩⟩ := h.holds.lists.answers_contains fits
      · rw [ended] at countable ⊢
        cases onDisk : Copy.of? i p.disk with
        | none => rfl
        | some y =>
            simp only [onDisk, Option.isSome_some, if_true, Action.perform_bind] at countable ⊢
            have promoted := (h.asking calls).counters_promote fits inRam onDisk
            simp only [Cache.asking] at promoted
            generalize (promote i).perform { c with disk := c.disk.asking calls } = ended
              at promoted countable ⊢
            rcases ended with ⟨fault | (none | z), c'⟩
            · cases (promoted countable).1
            · cases (promoted countable).1
            · exact (promoted countable).2
      · exact absurd refused (h.healthy fault)

theorem Follows.counters_delete (h : c.Follows bounds p) (fits : i.Fits) :
  ((delete i).perform c).2.counters = c.counters.add (p.events hash bounds (.delete i))
  := by
  have removal := DiskTier.removed i c.disk
  have inRam := (RamTier.copies_remove c.ram i).1
  rw [h.holds.peek] at inRam
  simp only [delete, Action.perform_bind, perform_onRam, perform_onDisk, inRam]
  obtain ⟨fault, refused, -, -⟩ | ⟨answer, -⟩ := removal.lists h.holds.lists fits
  · exact absurd refused (h.healthy fault)
  · rw [answer, Policy.events, Policy.find]
    cases Copy.of? i p.ram with
    | some y => rfl
    | none => cases Copy.of? i p.disk <;> rfl

theorem Looks.counters_eq {α : Type} {a : Action (Cache hash) α} {answer : Except Fault α}
    (h : Looks a c answer) :
  (a.perform c).2.counters = c.counters
  := by
  obtain ⟨calls, ended | ⟨fault, -, ended⟩⟩ := h
  · rw [ended]
    rfl
  · rw [ended]
    rfl

/-- What a cache counts for a request is what the policy counts. -/
theorem Follows.counters_serve {r : Request} (h : c.Follows bounds p) (room : 0 < bounds.disk)
    (fits : r.identity.Fits) (countable : (c.serve r).2.disk.nextId < wordBound) :
  (c.serve r).2.counters = c.counters.add (p.events hash bounds r)
  := by
  have peek (peeks : r.Peeks) (none : p.events hash bounds r = []) :
      (c.serve r).2.counters = c.counters.add (p.events hash bounds r) := by
    obtain ⟨answer, looks⟩ := looks_of_peeks peeks c
    rw [none]
    exact looks.counters_eq
  cases r with
  | save x =>
      rw [serve, Request.act, Action.perform_map] at countable ⊢
      exact h.counters_save room fits countable
  | read i =>
      rw [serve, Request.act, Action.perform_map] at countable ⊢
      exact h.counters_read fits countable
  | delete i =>
      rw [serve, Request.act, Action.perform_map]
      exact h.counters_delete fits
  | modified i => exact peek trivial rfl
  | headers i => exact peek trivial rfl
  | header i name => exact peek trivial rfl
  | place i => exact peek trivial rfl

/-! ### Accounts -/

/-- Asked for the place of an identity, the cache names a tier. -/
def houses (c : Cache hash) (i : Identity) : Bool :=
  match (c.serve (.place i)).1 with
  | .ok (.place place) => place.isSome
  | _ => false

/-- How many requests find the cache in a state that a test accepts together with the request. -/
def tally (test : Cache hash → Request → Bool) (c : Cache hash) : List Request → Nat
  | [] => 0
  | r :: requests => (test c r).toNat + tally test (c.serve r).2 requests

/-- The request deletes an identity that the cache has. -/
def takesOut (c : Cache hash) (r : Request) : Bool := r.isDelete && c.houses r.identity

/-- The request saves an identity that the cache does not have. -/
def bringsIn (c : Cache hash) (r : Request) : Bool := r.isSave && !c.houses r.identity

/-- What was counted between two states of a cache accounts for so many reads and saves, so many
copies taken out and so many brought in. -/
structure Accounts (c c' : Cache hash) (reads saves out new : Nat) : Prop where
  reads : c'.counters.ramHits + c'.counters.diskHits + c'.counters.misses
    = c.counters.ramHits + c.counters.diskHits + c.counters.misses + reads
  promotions : c'.counters.promotions + c.counters.diskHits
    = c.counters.promotions + c'.counters.diskHits
  saves : c'.counters.saves = c.counters.saves + saves
  deletions : c'.counters.deletions = c.counters.deletions + out
  copies : c'.ram.size + c'.disk.count + c'.counters.deletions + c'.counters.evictions
    = c.ram.size + c.disk.count + c.counters.deletions + c.counters.evictions + new

theorem Accounts.refl (c : Cache hash) :
  Accounts c c 0 0 0 0
  := ⟨rfl, rfl, rfl, rfl, rfl⟩

theorem Accounts.trans {c' c'' : Cache hash} {reads saves out new reads' saves' out' new' : Nat}
    (h : Accounts c c' reads saves out new) (h' : Accounts c' c'' reads' saves' out' new') :
  Accounts c c'' (reads + reads') (saves + saves') (out + out') (new + new')
  := by
  obtain ⟨r, p, s, d, k⟩ := h
  obtain ⟨r', p', s', d', k'⟩ := h'
  constructor <;> omega

theorem Follows.houses_eq (h : c.Follows bounds p) (fits : i.Fits) :
  c.houses i = (p.find i).isSome
  := by
  have looks := h.holds.looks (r := .place i) fits trivial bounds
  rw [houses, serve, looks.answer_eq h.healthy, Policy.step, Policy.find]
  cases Copy.of? i p.ram with
  | some y => rfl
  | none => cases Copy.of? i p.disk <;> rfl

theorem Holds.distinct (h : c.Holds p.ram p.disk) :
  p.Distinct
  := ⟨h.nodup, h.lists.nodup, h.apart⟩

theorem Holds.sizes (h : c.Holds ram disk) :
  c.ram.size = ram.length ∧ c.disk.count = disk.length
  := ⟨by rw [← RamTier.length_copies, h.copies_eq], h.lists.count_eq⟩

/-- What is counted for one request accounts for it. -/
theorem Follows.accounts_serve {r : Request} (h : c.Follows bounds p) (room : 0 < bounds.disk)
    (fits : r.identity.Fits) (storable : ∀ x, r = .save x → x.modified.Storable)
    (countable : (c.serve r).2.disk.nextId < wordBound) :
  Accounts c (c.serve r).2 r.isRead.toNat r.isSave.toNat (c.takesOut r).toNat
    (c.bringsIn r).toNat
  := by
  have next := (h.step fits storable countable).2
  have counters := h.counters_serve room fits countable
  obtain ⟨reads, promotions, saves, deletions⟩ := p.count_events hash bounds r
  have copies := h.holds.distinct.length_step hash room r
  rw [← Option.not_isSome, ← h.houses_eq fits] at copies
  rw [← h.houses_eq fits] at deletions
  have counted (e : Event) :
      (c.serve r).2.counters.number e = c.counters.number e + (p.events hash bounds r).count e := by
    rw [counters, Counters.number_add]
  have ramHits := counted .ramHit
  have diskHits := counted .diskHit
  have misses := counted .miss
  have promoted := counted .promotion
  have evicted := counted .eviction
  have saved := counted .save
  have deleted := counted .deletion
  simp only [Counters.number] at ramHits diskHits misses promoted evicted saved deleted
  obtain ⟨ram, disk⟩ := h.holds.sizes
  obtain ⟨ram', disk'⟩ := next.holds.sizes
  rw [takesOut, bringsIn]
  constructor <;> omega

theorem Follows.accounts_after {requests : List Request} (h : c.Follows bounds p)
    (room : 0 < bounds.disk) (fits : ∀ r ∈ requests, r.identity.Fits)
    (storable : ∀ x, .save x ∈ requests → x.modified.Storable)
    (countable : (c.after requests).disk.nextId < wordBound) :
  Accounts c (c.after requests) (requests.countP Request.isRead) (requests.countP Request.isSave)
    (c.tally takesOut requests) (c.tally bringsIn requests)
  := by
  induction requests generalizing c p with
  | nil => exact Accounts.refl c
  | cons r requests ih =>
      obtain ⟨fitsR, fits⟩ := List.forall_mem_cons.1 fits
      have storableR (x : Copy) (same : r = .save x) : x.modified.Storable :=
        storable x (same ▸ List.mem_cons_self)
      have rest := (leads_after (c.serve r).2 requests).disk
      have countableR := Nat.lt_of_le_of_lt rest.nextId_le countable
      have first := h.accounts_serve room fitsR storableR countableR
      have later := ih (h.step fitsR storableR countableR).2 fits
        (fun x hx => storable x (List.mem_cons_of_mem r hx)) countable
      have count (test : Request → Bool) :
          (r :: requests).countP test = (test r).toNat + requests.countP test := by
        rw [List.countP_cons, Nat.add_comm]
        cases test r <;> rfl
      rw [count, count]
      exact first.trans later

theorem counters_opened {e : Engine} (opens : open? hash bounds e = .ok c) :
  c.counters = {}
  := by
  rw [open?] at opens
  cases checked : bounds.check with
  | error fault =>
      rw [checked] at opens
      cases opens
  | ok =>
      rw [checked] at opens
      cases tier : DiskTier.open? e bounds.disk with
      | error fault =>
          rw [tier] at opens
          cases opens
      | ok d =>
          rw [tier] at opens
          obtain rfl := Except.ok.inj opens
          rfl

/-- On an engine that refuses nothing, whose records hold a queue of copies when the cache is
opened, and for all requests with times that can be stored, the counters account for the requests
and for every copy.  Every read is counted once, as a hit in either tier or as a miss; promotions
are the hits on disk; saves are the saves; deletions are those that found the identity in a tier;
and the copies in both tiers, with the deleted and the evicted ones, are those that the cache was
opened with and those saved when no tier had the identity. -/
theorem accounts_of_queue {engine : Engine} {q : List (Nat × Copy)} {nextId : Nat}
    (queue : engine.records.Queue q nextId) (healthy : ∀ calls, engine.refuses calls = none)
    (opens : open? hash bounds engine = .ok c) {requests : List Request}
    (fits : ∀ r ∈ requests, r.identity.Fits)
    (storable : ∀ x, .save x ∈ requests → x.modified.Storable)
    (countable : (c.after requests).disk.nextId < wordBound) :
  let c' := c.after requests
  let k := c'.counters
  k.ramHits + k.diskHits + k.misses = requests.countP Request.isRead
    ∧ k.promotions = k.diskHits
    ∧ k.saves = requests.countP Request.isSave
    ∧ k.deletions = c.tally takesOut requests
    ∧ c'.ram.size + c'.disk.count + k.deletions + k.evictions
      = q.length + c.tally bringsIn requests
  := by
  intro c' k
  obtain ⟨-, room, -, -⟩ := opened opens
  obtain ⟨holds, ramBound, -, calls, tier⟩ := holds_of_open? queue opens
  have start : c.Follows bounds ⟨[], q.map Prod.snd⟩ := by
    refine ⟨holds, ?_, ramBound, by rw [tier], by rintro x ⟨⟩⟩
    rintro fault ⟨calls, refused⟩
    rw [tier] at refused
    exact absurd ((healthy calls).symm.trans refused) (by simp)
  obtain ⟨reads, promotions, saves, deletions, copies⟩ :=
    start.accounts_after room fits storable countable
  obtain ⟨ram, disk⟩ := holds.sizes
  simp only [counters_opened opens, ram, disk, List.length_nil, List.length_map, Nat.zero_add,
    Nat.add_zero] at reads promotions saves deletions copies
  exact ⟨reads, promotions, saves, deletions, copies⟩

/-- A cache is closed that holds one copy. -/
def shelving : List Session.Step := [.reopen ⟨1, 1⟩, .ask (.save (.ofOctet "a" 1)), .close]

/-- The engine that such a cache leaves. -/
def shelved : Engine := ((Session.closed {} : Session fun _ => 0).after shelving).engine

/-- The copy on disk is read, two copies push each other out of RAM and the first one out of the
disk tier, where it is missed; the second one is deleted twice and the third one replaced. -/
def turnover : List Request :=
  [.read ⟨"", "a"⟩, .save (.ofOctet "b" 2), .save (.ofOctet "c" 3), .read ⟨"", "a"⟩,
    .delete ⟨"", "b"⟩, .delete ⟨"", "b"⟩, .read ⟨"", "c"⟩, .save (.ofOctet "c" 4)]

private theorem storable_turnover :
  ∀ x, .save x ∈ turnover → x.modified.Storable
  := by
  intro x saved
  simp only [turnover, List.mem_cons, List.not_mem_nil, Request.save.injEq, or_false,
    false_or, reduceCtorEq] at saved
  rcases saved with rfl | rfl | rfl
  · decide
  · decide
  · decide

/-- All identities share a slot of RAM, and each event happens. -/
theorem accounts_of_queue_turnover :
  ∃ (q : List (Nat × Copy)) (nextId : Nat) (c : Cache fun _ => 0),
    shelved.records.Queue q nextId ∧ open? _ ⟨2, 1⟩ shelved = .ok c
      ∧ let c' := c.after turnover
        let k := c'.counters
        k = ⟨1, 1, 1, 1, 2, 1, 3, 1⟩
          ∧ k.ramHits + k.diskHits + k.misses = turnover.countP Request.isRead
          ∧ k.promotions = k.diskHits
          ∧ k.saves = turnover.countP Request.isSave
          ∧ k.deletions = c.tally takesOut turnover
          ∧ c'.ram.size + c'.disk.count + k.deletions + k.evictions
            = q.length + c.tally bringsIn turnover
  := by
  have sound : ((Session.closed {} : Session fun _ => 0).after shelving).Sound :=
    Session.sound_after rfl (by decide) (by decide +kernel)
  obtain ⟨q, nextId, queue, -⟩ := sound
  have healthy (calls : List Engine.Call) : shelved.refuses calls = none := rfl
  have counted : ∀ c ∈ (open? (fun _ => 0) ⟨2, 1⟩ shelved).toOption,
      (c.after turnover).counters = ⟨1, 1, 1, 1, 2, 1, 3, 1⟩
        ∧ (c.after turnover).disk.nextId < wordBound := by decide +kernel
  have opened : (open? (fun _ => 0) ⟨2, 1⟩ shelved).isOk := by decide +kernel
  cases opens : open? (fun _ => 0) ⟨2, 1⟩ shelved with
  | error failure =>
      rw [opens] at opened
      cases opened
  | ok c =>
      obtain ⟨counters, countable⟩ := counted c (by rw [opens]; rfl)
      exact ⟨q, nextId, c, queue, rfl, counters,
        accounts_of_queue queue healthy opens (by decide) storable_turnover countable⟩

end Cache

end SiteCache
