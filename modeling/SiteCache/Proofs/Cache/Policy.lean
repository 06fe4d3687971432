import SiteCache.Proofs.Cache.Listing

/-!
# The policy of the tiers

A policy has two lists of copies, one in order of use and one in order of arrival, and says for
every request what is replied and how the lists change (`Policy.step`).  A cache on an engine that
refuses nothing follows it exactly, as long as the times that it is given can be stored
(`Cache.observed_eq_policy`): every reply is the same, and so is the number of copies in each tier
after every request.
-/

namespace SiteCache

open Cache (Request Reply)

variable {hash : Identity → UInt64}

/-- Two lists of copies: in RAM, most recently used first, and on disk, oldest first. -/
structure Policy where
  ram : List Copy := []
  disk : List Copy := []

namespace Policy

/-- The copy of an identity in either list. -/
def find (p : Policy) (i : Identity) : Option Copy := (Copy.of? i p.ram).or (Copy.of? i p.disk)

/-- What is replied to a peek at the copy of an identity, if there is one. -/
def told {α : Type} (p : Policy) (i : Identity) (f : Copy → α) : Except Fault α :=
  (p.find i).elim (.error i.missed) fun x => .ok (f x)

/-- The copy that leaves RAM for an identity that enters: the one with the same hash or, if there is
none and RAM is full, the least recently used one. -/
def victim (hash : Identity → UInt64) (bounds : Bounds) (p : Policy) (i : Identity) : Option Copy :=
  RamTier.victim hash bounds.ram p.ram i

/-- The lists without an identity. -/
def without (p : Policy) (i : Identity) : Policy := ⟨Copy.others i p.ram, Copy.others i p.disk⟩

/-- A copy of a new identity enters RAM; the victim goes to the end of the disk list, which loses
its first copy if it is full. -/
def enter (hash : Identity → UInt64) (bounds : Bounds) (p : Policy) (x : Copy) : Policy :=
  let v := p.victim hash bounds x.identity
  ⟨x :: RamTier.remaining v p.ram, Cache.pushed bounds.disk v p.disk⟩

/-- A copy moves from disk to RAM; the victim goes to the end of the disk list, which has room. -/
def promote (hash : Identity → UInt64) (bounds : Bounds) (p : Policy) (x : Copy) : Policy :=
  let v := p.victim hash bounds x.identity
  ⟨x :: RamTier.remaining v p.ram,
    Copy.others x.identity p.disk ++ (v.map Copy.settled).toList⟩

/-- The reply to a request, and the lists after it. -/
def step (hash : Identity → UInt64) (bounds : Bounds) (p : Policy) :
    Request → Except Fault Reply × Policy
  | .save x => (.ok .done, (p.without x.identity).enter hash bounds x)
  | .read i =>
    match Copy.of? i p.ram with
    | some x => (.ok (.found x.content x.headers), { p with ram := x :: Copy.others i p.ram })
    | none =>
      match Copy.of? i p.disk with
      | some x => (.ok (.found x.content x.headers), p.promote hash bounds x)
      | none => (.error i.missed, p)
  | .delete i => (.ok .done, p.without i)
  | .modified i => (p.told i fun x => .modified x.modified, p)
  | .headers i => (p.told i fun x => .headers x.headers, p)
  | .header i name => (p.told i fun x => .header (x.headers.find? name), p)
  | .place i =>
    (.ok (.place (if (Copy.of? i p.ram).isSome then some .ram
      else if (Copy.of? i p.disk).isSome then some .disk
      else none)), p)

/-- The lists after requests. -/
def after (hash : Identity → UInt64) (bounds : Bounds) (p : Policy) (requests : List Request) :
    Policy :=
  requests.foldl (fun p r => (p.step hash bounds r).2) p

/-- The reply to each request, with the lengths of the lists after it. -/
def observed (hash : Identity → UInt64) (bounds : Bounds) (p : Policy) :
    List Request → List (Except Fault Reply × Nat × Nat)
  | [] => []
  | r :: requests =>
    let next := p.step hash bounds r
    (next.1, next.2.ram.length, next.2.disk.length) :: observed hash bounds next.2 requests

/-- Both lists keep within their bounds. -/
structure Bounded (bounds : Bounds) (p : Policy) : Prop where
  ram : p.ram.length ≤ bounds.ram
  disk : p.disk.length ≤ bounds.disk

variable {bounds : Bounds} {p : Policy} {r : Request} {x : Copy} {i : Identity}

theorem Bounded.without (h : p.Bounded bounds) (i : Identity) :
  (p.without i).Bounded bounds
  := ⟨Nat.le_trans (Copy.length_others_le i p.ram) h.ram,
    Nat.le_trans (Copy.length_others_le i p.disk) h.disk⟩

/-- Once its victim has left, an identity has room in RAM. -/
theorem length_remaining_lt (room : 0 < bounds.ram) (h : p.ram.length ≤ bounds.ram) (i : Identity) :
  (RamTier.remaining (p.victim hash bounds i) p.ram).length < bounds.ram
  := by
  cases chosen : p.victim hash bounds i with
  | some v =>
      have shorter := Copy.length_others_lt (RamTier.mem_of_victim chosen)
      rw [RamTier.remaining]
      omega
  | none =>
      rw [RamTier.remaining]
      rw [victim, RamTier.victim] at chosen
      split at chosen
      · cases chosen
      · split at chosen
        next full =>
          rw [List.getLast?_eq_none_iff] at chosen
          rw [chosen]
          exact room
        next => omega

/-- The policy keeps its lists within their bounds. -/
theorem Bounded.step (h : p.Bounded bounds) (ramRoom : 0 < bounds.ram) (diskRoom : 0 < bounds.disk)
    (r : Request) :
  (p.step hash bounds r).2.Bounded bounds
  := by
  cases r with
  | save x =>
      obtain ⟨ram, disk⟩ := h.without x.identity
      refine ⟨length_remaining_lt ramRoom ram x.identity, ?_⟩
      rw [← Nat.max_eq_right disk]
      apply Cache.length_pushed_le diskRoom
  | read i =>
      rw [Policy.step]
      cases inRam : Copy.of? i p.ram with
      | some x =>
          obtain ⟨hx, rfl⟩ := Copy.mem_of_of?_eq_some inRam
          exact ⟨Nat.le_trans (Copy.length_others_lt hx) h.ram, h.disk⟩
      | none =>
          cases onDisk : Copy.of? i p.disk with
          | none => exact h
          | some x =>
              obtain ⟨hx, rfl⟩ := Copy.mem_of_of?_eq_some onDisk
              have shorter := Copy.length_others_lt hx
              have one := Option.length_toList_le
                (o := (p.victim hash bounds x.identity).map Copy.settled)
              have := h.disk
              refine ⟨length_remaining_lt ramRoom h.ram x.identity, ?_⟩
              simp only [promote, List.length_append]
              omega
  | delete i => exact h.without i
  | modified i => exact h
  | headers i => exact h
  | header i name => exact h
  | place i => exact h

/-- Whatever is in RAM after a request was in one of the lists before, or is saved by it. -/
theorem mem_ram_step {y : Copy} (h : y ∈ (p.step hash bounds r).2.ram) :
  y ∈ p.ram ∨ y ∈ p.disk ∨ r = .save y
  := by
  cases r with
  | save x =>
      rcases List.mem_cons.1 h with rfl | h
      · exact .inr (.inr rfl)
      · exact .inl (Copy.others_subset _ _ (Cache.remaining_subset _ _ h))
  | read i =>
      rw [step] at h
      cases inRam : Copy.of? i p.ram with
      | some x =>
          rw [inRam] at h
          rcases List.mem_cons.1 h with rfl | h
          · exact .inl (Copy.mem_of_of?_eq_some inRam).1
          · exact .inl (Copy.others_subset _ _ h)
      | none =>
          rw [inRam] at h
          cases onDisk : Copy.of? i p.disk with
          | none =>
              rw [onDisk] at h
              exact .inl h
          | some x =>
              rw [onDisk] at h
              rcases List.mem_cons.1 h with rfl | h
              · exact .inr (.inl (Copy.mem_of_of?_eq_some onDisk).1)
              · exact .inl (Cache.remaining_subset _ _ h)
  | delete i => exact .inl (Copy.others_subset _ _ h)
  | modified i => exact .inl h
  | headers i => exact .inl h
  | header i name => exact .inl h
  | place i => exact .inl h

end Policy

namespace Cache

variable {c : Cache hash} {p : Policy} {i : Identity} {α : Type} {bounds : Bounds}

/-- The reply to each request, with the size of RAM and the count of the disk tier after it. -/
def observed (c : Cache hash) : List Request → List (Except Fault Reply × Nat × Nat)
  | [] => []
  | r :: requests =>
    let next := c.serve r
    (next.1, next.2.ram.size, next.2.disk.count) :: next.2.observed requests

/-! ### Peeks -/

private theorem map_told {β : Type} (p : Policy) (i : Identity) (f : Copy → α) (g : α → β) :
  g <$> p.told i f = p.told i fun x => g (f x)
  := by
  rw [Policy.told, Policy.told]
  cases p.find i <;> rfl

/-- A peek is answered from the two lists, unless the engine refuses a call. -/
theorem Holds.looks {r : Request} (h : c.Holds p.ram p.disk) (fits : r.identity.Fits)
    (peeks : r.Peeks) (bounds : Bounds) :
  Looks r.act c (p.step hash bounds r).1
  := by
  cases r with
  | save => cases peeks
  | read => cases peeks
  | delete => cases peeks
  | modified i =>
      have fits : i.Fits := fits
      have looks := (looks_modified i c).map Reply.modified
      rwa [h.peek, h.lists.modified fits, found_eq_elim, ← Policy.find, ← Policy.told,
        map_told] at looks
  | headers i =>
      have fits : i.Fits := fits
      have looks := (looks_headers i c).map Reply.headers
      rwa [h.peek, h.lists.headers fits, found_eq_elim, ← Policy.find, ← Policy.told,
        map_told] at looks
  | header i name =>
      have fits : i.Fits := fits
      have looks := (looks_header i name c).map Reply.header
      rwa [h.peek, h.lists.headers fits, found_eq_elim, ← Policy.find, ← Policy.told,
        map_told, map_told] at looks
  | place i =>
      have fits : i.Fits := fits
      have looks := (looks_place i c).map Reply.place
      obtain ⟨id, stored, same⟩ := h.lists.storedId fits
      have reply : Reply.place <$> (if (c.ram.peek i).isSome then .ok (some .ram)
            else Option.isSome <$> c.disk.engine.records.storedId i.encode
              >>= fun stored => .ok (if stored then some .disk else none))
          = (p.step hash bounds (.place i)).1 := by
        rw [h.peek, stored, Policy.step, ← same]
        cases Copy.of? i p.ram with
        | some x => rfl
        | none => rfl
      rwa [reply] at looks

/-! ### One request -/

/-- On an engine that refuses nothing, a request is answered as the policy says and leaves the lists
that the policy says. -/
theorem Holds.follows {r : Request} (h : c.Holds p.ram p.disk)
    (healthy : ∀ fault, ¬ c.disk.engine.Refuses fault) (ramBound : c.ram.capacity = bounds.ram)
    (diskBound : c.disk.capacity = bounds.disk) (fits : r.identity.Fits)
    (storable : ∀ x ∈ p.ram, x.modified.Storable)
    (countable : (c.serve r).2.disk.nextId < wordBound) :
  (c.serve r).1 = (p.step hash bounds r).1
    ∧ (c.serve r).2.Holds (p.step hash bounds r).2.ram (p.step hash bounds r).2.disk
  := by
  have peek (peeks : r.Peeks) (same : (p.step hash bounds r).2 = p) :
      (c.serve r).1 = (p.step hash bounds r).1
        ∧ (c.serve r).2.Holds (p.step hash bounds r).2.ram (p.step hash bounds r).2.disk := by
    have looks := h.looks fits peeks bounds
    rw [same]
    exact ⟨looks.answer_eq healthy, looks.holds h⟩
  cases r with
  | save x =>
      rw [Cache.serve, Request.act, Action.perform_map] at countable ⊢
      obtain ⟨_, refused, -, -⟩ | ⟨w, _, chosen, reason, -, -⟩ | ⟨answer, -, h⟩ :=
        (saved x c).holds h fits rfl countable
      · exact absurd refused (healthy _)
      · obtain refused | unstorable := reason
        · exact absurd refused (healthy _)
        · have hw := Copy.others_subset _ _ (RamTier.mem_of_victim chosen)
          exact absurd (storable w hw) unstorable
      · rw [ramBound, diskBound] at h
        exact ⟨by rw [answer]; rfl, h⟩
  | read i =>
      rw [Cache.serve, Request.act, Action.perform_map] at countable ⊢
      obtain ⟨x, inRam, answer, h⟩ | ⟨notInRam, ⟨_, reason, -, -⟩ | ⟨missing, answer, h⟩
          | ⟨x, onDisk, answer, -, h⟩⟩ :=
        (reads i c).holds h fits rfl countable
      · rw [answer]
        simp only [Policy.step, inRam]
        exact ⟨rfl, h⟩
      · obtain refused | ⟨w, chosen, unstorable⟩ := reason
        · exact absurd refused (healthy _)
        · exact absurd (storable w (RamTier.mem_of_victim chosen)) unstorable
      · rw [answer]
        simp only [Policy.step, notInRam, missing]
        exact ⟨rfl, h⟩
      · obtain ⟨-, rfl⟩ := Copy.mem_of_of?_eq_some onDisk
        rw [ramBound] at h
        rw [answer]
        simp only [Policy.step, notInRam, onDisk]
        exact ⟨rfl, h⟩
  | delete i =>
      rw [Cache.serve, Request.act, Action.perform_map]
      obtain ⟨_, refused, -, -⟩ | ⟨answer, h⟩ := (deleted i c).holds h fits
      · exact absurd refused (healthy _)
      · exact ⟨by rw [answer]; rfl, h⟩
  | modified i => exact peek trivial rfl
  | headers i => exact peek trivial rfl
  | header i name => exact peek trivial rfl
  | place i => exact peek trivial rfl

/-! ### All requests -/

/-- What the cache has to do with the policy that it follows. -/
structure Follows (bounds : Bounds) (c : Cache hash) (p : Policy) : Prop where
  holds : c.Holds p.ram p.disk
  healthy : ∀ fault, ¬ c.disk.engine.Refuses fault
  ramBound : c.ram.capacity = bounds.ram
  diskBound : c.disk.capacity = bounds.disk
  storable : ∀ x ∈ p.ram, x.modified.Storable

theorem Follows.step {r : Request} (h : c.Follows bounds p) (fits : r.identity.Fits)
    (storable : ∀ x, r = .save x → x.modified.Storable)
    (countable : (c.serve r).2.disk.nextId < wordBound) :
  (c.serve r).1 = (p.step hash bounds r).1
    ∧ (c.serve r).2.Follows bounds (p.step hash bounds r).2
  := by
  obtain ⟨reply, holds⟩ :=
    h.holds.follows h.healthy h.ramBound h.diskBound fits h.storable countable
  have leads := leads_serve c r
  refine ⟨reply, holds, ?_, leads.ram.trans h.ramBound,
    leads.disk.capacity_eq.trans h.diskBound, ?_⟩
  · intro fault refused
    exact h.healthy fault (leads.disk.refuses.1 refused)
  · intro y hy
    obtain hy | hy | saved := Policy.mem_ram_step hy
    · exact h.storable y hy
    · exact h.holds.lists.storable hy
    · exact storable y saved

theorem Follows.observed {requests : List Request} (h : c.Follows bounds p)
    (fits : ∀ r ∈ requests, r.identity.Fits)
    (storable : ∀ x, .save x ∈ requests → x.modified.Storable)
    (countable : (c.after requests).disk.nextId < wordBound) :
  c.observed requests = p.observed hash bounds requests
    ∧ (c.after requests).Follows bounds (p.after hash bounds requests)
  := by
  induction requests generalizing c p with
  | nil => exact ⟨rfl, h⟩
  | cons r requests ih =>
      obtain ⟨fitsR, fits⟩ := List.forall_mem_cons.1 fits
      have rest := (leads_after (c.serve r).2 requests).disk
      obtain ⟨reply, next⟩ := h.step fitsR
        (fun x same => storable x (same ▸ List.mem_cons_self))
        (Nat.lt_of_le_of_lt rest.nextId_le countable)
      obtain ⟨replies, last⟩ := ih next fits
        (fun x hx => storable x (List.mem_cons_of_mem r hx)) countable
      refine ⟨?_, last⟩
      simp only [Cache.observed, Policy.observed, reply, replies, next.holds.lists.count_eq,
        ← RamTier.length_copies, next.holds.copies_eq]

end Cache

/-- The policy keeps its bounds whatever is asked. -/
theorem Policy.Bounded.after {bounds : Bounds} {p : Policy} (h : p.Bounded bounds)
    (ramRoom : 0 < bounds.ram) (diskRoom : 0 < bounds.disk) (requests : List Request) :
  (p.after hash bounds requests).Bounded bounds
  := by
  induction requests generalizing p with
  | nil => exact h
  | cons r requests ih => exact ih (h.step ramRoom diskRoom r)

namespace Cache

variable {c : Cache hash} {bounds : Bounds}

/-- On an engine that is empty at first and refuses nothing, a cache follows the policy for all
requests with times that can be stored, as long as insertion ids are words: every reply is the one
that the policy gives, with as many copies in RAM and on disk; and the cache then holds the lists of
the policy, which keep within their bounds. -/
theorem observed_eq_policy {engine : Engine} (empty : engine.records = .empty)
    (healthy : ∀ calls, engine.refuses calls = none) (opens : open? hash bounds engine = .ok c)
    {requests : List Request} (fits : ∀ r ∈ requests, r.identity.Fits)
    (storable : ∀ x, .save x ∈ requests → x.modified.Storable)
    (countable : (c.after requests).disk.nextId < wordBound) :
  let p : Policy := Policy.after hash bounds {} requests
  c.observed requests = Policy.observed hash bounds {} requests
    ∧ (c.after requests).ram.copies = p.ram ∧ (c.after requests).disk.Lists p.disk
    ∧ p.ram.length ≤ bounds.ram ∧ p.disk.length ≤ bounds.disk
  := by
  intro p
  have queue : engine.records.Queue [] 0 := empty ▸ Records.Queue.of_empty
  obtain ⟨ramRoom, diskRoom, -, -⟩ := opened opens
  obtain ⟨holds, ramBound, -, calls, tier⟩ := holds_of_open? queue opens
  have start : c.Follows bounds {} := by
    refine ⟨holds, ?_, ramBound, by rw [tier], by rintro x ⟨⟩⟩
    rintro fault ⟨calls, refused⟩
    rw [tier] at refused
    exact absurd ((healthy calls).symm.trans refused) (by simp)
  obtain ⟨replies, follows⟩ := start.observed fits storable countable
  have bounded : p.Bounded bounds :=
    Policy.Bounded.after ⟨Nat.zero_le _, Nat.zero_le _⟩ ramRoom diskRoom requests
  exact ⟨replies, follows.holds.copies_eq, follows.holds.lists, bounded.ram, bounded.disk⟩

/-- Two copies change their tiers as the policy says. -/
theorem observed_eq_policy_swap :
  ∃ c : Cache fun _ => 0, open? _ ⟨1, 1⟩ {} = .ok c
    ∧ let p : Policy := Policy.after (fun _ => 0) ⟨1, 1⟩ {} Request.swap
      c.observed Request.swap = Policy.observed (fun _ => 0) ⟨1, 1⟩ {} Request.swap
        ∧ (c.after Request.swap).ram.copies = p.ram ∧ (c.after Request.swap).disk.Lists p.disk
        ∧ p.ram.length ≤ 1 ∧ p.disk.length ≤ 1
  := by
  have healthy (calls : List Engine.Call) : ({} : Engine).refuses calls = none := rfl
  have storable : ∀ x, .save x ∈ Request.swap → x.modified.Storable := by
    intro x saved
    simp only [Request.swap, List.mem_cons, List.not_mem_nil, Request.save.injEq, or_false,
      reduceCtorEq] at saved
    rcases saved with rfl | rfl
    · decide
    · decide
  exact ⟨_, rfl, observed_eq_policy (by rfl) healthy rfl (by decide) storable (by decide)⟩

end Cache

end SiteCache
