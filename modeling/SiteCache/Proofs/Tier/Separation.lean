import SiteCache.Proofs.Action
import SiteCache.Proofs.Copy
import SiteCache.Proofs.Tier.Queue

/-!
# Records of different identities

The key of a record tells what it is and whose it is, whatever octets an identity is made of: the
length before each of its components keeps them apart, and the tag in front keeps the families of
records apart.  So what is done with an identity depends on its own records alone
(`DiskTier.AgreeOn`), and a batch that is built for it (`DiskTier.BuiltFor`) leaves the fields of
every other identity as they are, and its index record too as long as each insertion id leads back
to the identity that has it (`Records.LeadsBack`), which it does where the records are those of a
queue of copies.  The first index record is that of the lowest insertion id.
-/

namespace SiteCache

open Record

namespace Records

variable {r s : Records} {m n : Nat} {k u v : Octets}

/-- What a batch makes of a key depends on the value of this key alone. -/
theorem get?_apply_congr (same : r.get? k = s.get? k) (batch : Batch) :
  (r.apply batch).get? k = (s.apply batch).get? k
  := by
  induction batch generalizing r s with
  | nil => exact same
  | cons w batch ih =>
      apply ih
      cases w with
      | put key value => simp only [change, Table.get?_insert, same]
      | delete key => simp only [change, Table.get?_erase, same]

/-! ### Scans -/

/-- A scan for keys with another tag finds no index record. -/
theorem indexKey_not_mem_all {o : UInt8} (other : o ≠ indexTag) (s : Engine.Search) (r : Records)
    (n : Nat) (v beginning : Octets) :
  (indexKey n, v) ∉ s.all r (o :: beginning)
  := by
  rw [Engine.Search.all_eq_filter, startingWith, List.mem_filter]
  rintro ⟨-, front⟩
  simp [indexKey, other] at front

/-- A scan for index records finds no others. -/
theorem indexed_of_mem_all {s : Engine.Search} {x : Octets × Octets}
    (hx : x ∈ s.all r [indexTag]) :
  Indexed x.1
  := by
  rw [Engine.Search.all_eq_filter, startingWith, List.mem_filter] at hx
  exact hx.2

/-- The first index record has the lowest key. -/
theorem first_le {s : Engine.Search} {x : Octets × Octets} (first : s.first r [indexTag] = some x)
    (indexed : Indexed k) (stored : r.get? k = some v) :
  ¬ k < x.1
  := by
  rw [Engine.Search.first_eq_head?] at first
  obtain ⟨rest, index⟩ := List.head?_eq_some_iff.1 first
  have ascending := r.ascending_index
  have member := mem_index_iff.2 ⟨indexed, stored⟩
  rw [Records.index, index] at ascending member
  rcases List.mem_cons.1 member with rfl | later
  · exact KeyOrder.irrefl _
  · intro below
    exact KeyOrder.irrefl k (KeyOrder.trans below ((List.pairwise_cons.1 ascending).1 _ later))

/-- Where all index records are of insertion ids, the first one is of the lowest id. -/
theorem exists_first (s : Engine.Search)
    (ids : ∀ k v, Indexed k → r.get? k = some v → ∃ n < wordBound, k = indexKey n)
    (hm : m < wordBound) (stored : r.get? (indexKey m) = some u) :
  ∃ n ≤ m, ∃ v, s.first r [indexTag] = some (indexKey n, v) ∧ r.get? (indexKey n) = some v
  := by
  have member : (indexKey m, u) ∈ r.startingWith [indexTag] :=
    mem_index_iff.2 ⟨indexed_indexKey m, stored⟩
  cases first : s.first r [indexTag] with
  | none =>
      rw [Engine.Search.first_eq_head?, List.head?_eq_none_iff] at first
      rw [first] at member
      cases member
  | some x =>
      obtain ⟨k, v⟩ := x
      have low := first_le first (indexed_indexKey m) stored
      have listed : (k, v) ∈ r.index := by
        rw [Engine.Search.first_eq_head?] at first
        exact List.mem_of_head? first
      obtain ⟨indexed, found⟩ := mem_index_iff.1 listed
      obtain ⟨n, hn, rfl⟩ := ids k v indexed found
      rw [indexKey_lt_iff hm hn] at low
      exact ⟨n, Nat.le_of_not_lt low, v, rfl, found⟩

/-- The insertion id of an encoded identity, if it has one, leads back to it. -/
def LeadsBack (r : Records) (b : Octets) : Prop :=
  ∀ n, r.storedId b = .ok (some n) → r.get? (indexKey n) = some b

theorem Queue.leadsBack {q : List (Nat × Copy)} {nextId : Nat} (h : r.Queue q nextId)
    {i : Identity} (fits : i.Fits) :
  r.LeadsBack i.encode
  := by
  intro n stored
  rw [h.storedId_eq fits] at stored
  obtain ⟨x, found, rfl⟩ := Option.map_eq_some_iff.1 (Except.ok.inj stored)
  obtain ⟨hx, rfl⟩ := mem_of_entryOf?_eq_some found
  exact (h.index _ (indexed_indexKey x.1) _).2 ⟨x, hx, rfl, rfl⟩

end Records

namespace DiskTier

variable {α : Type} {r : Records} {b c : Octets} {i : Identity} {batch : Batch}
  {identities : List Identity}

/-! ### Batches -/

/-- The batches that are built for an encoded identity from the records that there are: what deletes
its copy, what stores a copy under a new insertion id, and what evicts it by an index record. -/
inductive BuiltFor (r : Records) (b : Octets) : Batch → Prop
  | deletion {id : Option Nat} (stored : r.storedId b = .ok id) : BuiltFor r b (deletion b id)
  | insertion {x : Copy} {id : Nat} {previous : Option Nat} {batch : Batch}
      (own : x.identity.encode = b) (stored : r.storedId b = .ok previous)
      (fresh : r.get? (indexKey id) = none) (made : insertion x id previous = .ok batch) :
    BuiltFor r b batch
  | eviction {key : Octets} (indexed : Indexed key) (found : r.get? key = some b) :
    BuiltFor r b (eviction key b)

/-- A batch for one identity leaves the fields of every other one as they are. -/
theorem BuiltFor.get?_key (h : BuiltFor r b batch) (other : c ≠ b) (f : Field) :
  (r.apply batch).get? (key c f) = r.get? (key c f)
  := by
  cases h with
  | deletion stored => rw [get?_key_deletion, if_neg other]
  | insertion own stored fresh made =>
      obtain ⟨-, rfl⟩ := insertion_eq_ok_iff.1 made
      rw [get?_key_placement, own, if_neg other]
  | eviction indexed found =>
      rw [get?_key_eviction r indexed, if_neg]
      exact fun both => other both.2

/-- It leaves the index records that lead to another identity, too. -/
theorem BuiltFor.get?_index (h : BuiltFor r b batch) (back : r.LeadsBack b) (other : c ≠ b)
    {k : Octets} (indexed : Indexed k) (leads : r.get? k = some c) :
  (r.apply batch).get? k = some c
  := by
  have apart {id : Option Nat} (stored : r.storedId b = .ok id) :
      k ∉ (id.map indexKey).toList := by
    rw [Option.mem_toList, Option.map_eq_some_iff]
    rintro ⟨n, rfl, rfl⟩
    rw [back n stored] at leads
    exact other (Option.some.inj leads).symm
  cases h with
  | deletion stored => rw [get?_index_deletion r b _ indexed, if_neg (apart stored), leads]
  | @insertion x id previous _ own stored fresh made =>
      obtain ⟨-, rfl⟩ := insertion_eq_ok_iff.1 made
      have new : k ≠ indexKey id := by
        rintro rfl
        rw [fresh] at leads
        cases leads
      rw [get?_index_placement r indexed, if_neg new, if_neg (apart stored), leads]
  | @eviction key evicted found =>
      have kept : k ∉ evictedKeys key b := by
        rw [index_mem_evictedKeys indexed]
        rintro rfl
        rw [found] at leads
        exact other (Option.some.inj leads).symm
      rw [get?_eviction, if_neg kept, leads]

/-! ### Fields that an operation leaves alone -/

/-- The action leaves the fields of an encoded identity as they are. -/
def Spares (c : Octets) (a : Action DiskTier α) (d : DiskTier) : Prop :=
  ∀ f, (a.perform d).2.engine.records.get? (key c f) = d.engine.records.get? (key c f)

theorem spares_remove (other : c ≠ i.encode) (d : DiskTier) :
  Spares c (remove i) d
  := by
  intro f
  have ends := removed i d
  generalize (remove i).perform d = ending at ends ⊢
  obtain ⟨answer, d'⟩ := ending
  cases ends with
  | refused => rfl
  | unreadable => rfl
  | absent => rfl
  | removed stored => exact (get?_key_deletion _ _ _ c f).trans (if_neg other)

/-- What is taken out and what is stored instead are the only ones concerned. -/
theorem spares_takeReplacing {demoted : Option Copy} (other : c ≠ i.encode)
    (otherToo : ∀ v ∈ demoted, c ≠ v.identity.encode) (d : DiskTier) :
  Spares c (takeReplacing i demoted) d
  := by
  intro f
  have ends := taken i demoted d
  generalize (takeReplacing i demoted).perform d = ending at ends ⊢
  obtain ⟨answer, d'⟩ := ending
  cases ends with
  | refused => rfl
  | unreadable => rfl
  | absent => rfl
  | unprepared => rfl
  | taken stored changes =>
      have unstored : demoted.filter (fun v => v.identity.encode = c) = none := by
        apply Option.filter_eq_none_iff.2
        intro v hv
        simpa using (otherToo v hv).symm
      rw [records_wrote, Records.apply_append, get?_key_replacement changes, unstored,
        Option.elim_none, get?_key_deletion, if_neg other]

theorem Evicted.get?_key {d d' : DiskTier} {answer : Except Fault (Option Identity)}
    (h : Evicted d answer d') (stays : ∀ k, d.engine.records.index.head? ≠ some (k, c))
    (f : Field) :
  d'.engine.records.get? (key c f) = d.engine.records.get? (key c f)
  := by
  cases h with
  | refused => rfl
  | vacant => rfl
  | @evicted k identity calls oldest =>
      obtain ⟨rest, index⟩ := List.head?_eq_some_iff.1 oldest
      have indexed := (Records.mem_index_iff.1 (index ▸ List.mem_cons_self)).1
      rw [records_wrote, get?_key_eviction _ indexed, if_neg]
      rintro ⟨-, rfl⟩
      exact stays k oldest

/-- Only the oldest copy may have to leave for a copy that is saved. -/
theorem spares_save {x : Copy} (other : c ≠ x.identity.encode) {d : DiskTier}
    (stays : ∀ k, d.engine.records.index.head? ≠ some (k, c)) :
  Spares c (save x) d
  := by
  intro f
  have ends := saved x d
  generalize (save x).perform d = ending at ends ⊢
  obtain ⟨answer, d'⟩ := ending
  have made {previous : Option Nat} {dropped : Option Identity} {d' : DiskTier}
      (h : Prepared d x.identity.encode previous dropped d') :
      d'.engine.records.get? (key c f) = d.engine.records.get? (key c f) := by
    cases h with
    | spare => rfl
    | evicted _ _ ends => exact ends.get?_key stays f
  cases ends with
  | refused => rfl
  | unreadable => rfl
  | stopped prepared =>
      have same := made prepared
      exact same
  | saved prepared changes =>
      obtain ⟨-, rfl⟩ := insertion_eq_ok_iff.1 changes
      rw [records_wrote, get?_key_placement, if_neg other, made prepared]

/-! ### What is read -/

/-- The tiers differ in their records at most, and not in the fields of these identities. -/
def AgreeOn (identities : List Identity) (d e : DiskTier) : Prop :=
  ∃ r : Records, e = { d with engine := { d.engine with records := r } }
    ∧ ∀ i ∈ identities, ∀ f, r.get? (key i.encode f) = d.engine.records.get? (key i.encode f)

theorem respects_get (own : i ∈ identities) (f : Field) :
  (onEngine (Engine.get (key i.encode f))).Respects (AgreeOn identities)
  := by
  rintro d _ ⟨r, rfl, same⟩
  simp only [onEngine, Engine.get, Engine.ask, Action.perform_within, Action.perform_ofStep]
  cases d.engine.refuses (.get :: d.engine.asked) with
  | some fault => exact ⟨rfl, r, rfl, same⟩
  | none => exact ⟨by rw [same i own f], r, rfl, same⟩

theorem respects_write (batch : Batch) :
  (onEngine (Engine.write batch)).Respects (AgreeOn identities)
  := by
  rintro d _ ⟨r, rfl, same⟩
  simp only [onEngine, Engine.write, Engine.ask, Action.perform_within, Action.perform_ofStep]
  cases d.engine.refuses (.write :: d.engine.asked) with
  | some fault => exact ⟨rfl, r, rfl, same⟩
  | none => exact ⟨rfl, _, rfl, fun i own f => Records.get?_apply_congr (same i own f) batch⟩

/-- Count and next insertion id may change by what they are. -/
theorem respects_recount (count nextId : Nat → Nat) :
  (modify fun d : DiskTier => { d with count := count d.count, nextId := nextId d.nextId }
    : Action DiskTier Unit).Respects (AgreeOn identities)
  := by
  rintro d _ ⟨r, rfl, same⟩
  exact ⟨rfl, r, rfl, same⟩

/-- What is done with a tier that is looked at may depend on everything in it but the records. -/
theorem respects_of_get {f : DiskTier → Action DiskTier α}
    (unread : ∀ d (r : Records), f { d with engine := { d.engine with records := r } } = f d)
    (next : ∀ d, (f d).Respects (AgreeOn identities)) :
  (get >>= f).Respects (AgreeOn identities)
  := by
  rintro d _ ⟨r, rfl, same⟩
  simp only [Action.perform_bind, Action.perform_get, unread]
  exact next d d _ ⟨r, rfl, same⟩

theorem respects_storedId (own : i ∈ identities) :
  (storedId i.encode).Respects (AgreeOn identities)
  := by
  apply (respects_get own .id).bind
  rintro (_ | b)
  · apply Action.respects_pure
  · exact (Action.respects_ofExcept _).map some

theorem respects_contains (own : i ∈ identities) :
  (contains i).Respects (AgreeOn identities)
  := (respects_storedId own).bind fun _ => Action.respects_pure _

theorem respects_modified (own : i ∈ identities) :
  (modified i).Respects (AgreeOn identities)
  := by
  apply (respects_get own .time).bind
  rintro (_ | b)
  · apply Action.respects_pure
  · exact (Action.respects_ofExcept _).map some

theorem respects_headers (own : i ∈ identities) :
  (headers i).Respects (AgreeOn identities)
  := by
  apply (respects_storedId own).bind
  rintro (_ | id)
  · apply Action.respects_pure
  · exact (respects_get own .headers).bind fun _ => (Action.respects_ofExcept _).map some

theorem respects_remove (own : i ∈ identities) :
  (remove i).Respects (AgreeOn identities)
  := by
  apply (respects_storedId own).bind
  rintro (_ | id)
  · apply Action.respects_pure
  · apply (respects_write _).bind
    rintro ⟨⟩
    exact (respects_recount (· - 1) fun n => n).bind fun _ => Action.respects_pure _

theorem respects_replacement {demoted : Option Copy}
    (own : ∀ v ∈ demoted, v.identity ∈ identities) :
  (replacement demoted).Respects (AgreeOn identities)
  := by
  cases demoted with
  | none => apply Action.respects_pure
  | some v =>
      apply (respects_storedId (own v rfl)).bind
      intro previous
      apply respects_of_get fun _ _ => rfl
      intro d
      exact (Action.respects_ofExcept _).bind fun _ => Action.respects_pure _

theorem respects_takeReplacing {demoted : Option Copy} (own : i ∈ identities)
    (ownToo : ∀ v ∈ demoted, v.identity ∈ identities) :
  (takeReplacing i demoted).Respects (AgreeOn identities)
  := by
  apply (respects_storedId own).bind
  rintro (_ | id)
  · apply Action.respects_pure
  · apply (respects_get own .content).bind
    intro content
    apply (respects_get own .time).bind
    intro time
    apply (respects_get own .headers).bind
    intro headers
    apply (respects_replacement ownToo).bind
    rintro ⟨batch, added⟩
    apply (respects_write _).bind
    rintro ⟨⟩
    apply (respects_recount (· - 1 + added)
      (fun n => if demoted.isSome then n + 1 else n)).bind
    rintro ⟨⟩
    rcases content with _ | content
    · apply Action.respects_pure
    · rcases time with _ | time
      · apply Action.respects_pure
      · apply (Action.respects_ofExcept _).bind
        intro modified
        exact (Action.respects_ofExcept _).bind fun _ => Action.respects_pure _

/-! ### Keys and what follows from them -/

/-- Keys of fields are different for different identities and fields, and no two families of records
have a key in common.  No scan for another family finds an index record, and a scan for index
records finds nothing else.  Index keys are ordered as their insertion ids.  So a batch for one
identity leaves the fields of another one as they are, and its index record if the insertion id of
the former leads back to it, as it does where the records are those of a queue of copies.  An
operation leaves the fields of all identities alone that it does not store, take out or evict, and
what is done with a stored identity depends on its own fields alone.  The first index record is that
of the lowest insertion id. -/
theorem records_apart :
  (∀ i j : Identity, i.Fits → j.Fits → ∀ f g,
      key i.encode f = key j.encode g ↔ i = j ∧ f = g)
    ∧ (∀ b f n, key b f ≠ indexKey n ∧ key b f ≠ nextIdKey ∧ indexKey n ≠ nextIdKey)
    ∧ (∀ (s : Engine.Search) (r : Records),
        (∀ n v b, (indexKey n, v) ∉ s.all r (copyTag :: b) ∧ (indexKey n, v) ∉ s.all r nextIdKey)
          ∧ ∀ x ∈ s.all r [indexTag], (∀ b f, x.1 ≠ key b f) ∧ x.1 ≠ nextIdKey)
    ∧ (∀ m < wordBound, ∀ n < wordBound, indexKey m < indexKey n ↔ m < n)
    ∧ (∀ i j : Identity, i.Fits → j.Fits → i ≠ j → ∀ r batch, BuiltFor r i.encode batch →
        (∀ f, (r.apply batch).get? (key j.encode f) = r.get? (key j.encode f))
          ∧ (r.LeadsBack i.encode → ∀ k, Indexed k → r.get? k = some j.encode →
              (r.apply batch).get? k = some j.encode))
    ∧ (∀ (r : Records) q nextId, r.Queue q nextId →
        ∀ i : Identity, i.Fits → r.LeadsBack i.encode)
    ∧ (∀ i j : Identity, i.Fits → j.Fits → i ≠ j → ∀ d,
        Spares j.encode (remove i) d
          ∧ (∀ demoted : Option Copy, (∀ v ∈ demoted, v.identity.Fits ∧ v.identity ≠ j) →
              Spares j.encode (takeReplacing i demoted) d)
          ∧ ∀ x : Copy, x.identity = i →
              (∀ k, d.engine.records.index.head? ≠ some (k, j.encode)) →
              Spares j.encode (save x) d)
    ∧ (∀ i, (contains i).Respects (AgreeOn [i]) ∧ (modified i).Respects (AgreeOn [i])
        ∧ (headers i).Respects (AgreeOn [i]) ∧ (remove i).Respects (AgreeOn [i])
        ∧ ∀ demoted : Option Copy, (takeReplacing i demoted).Respects
            (AgreeOn (i :: (demoted.map Copy.identity).toList)))
    ∧ ∀ (s : Engine.Search) (r : Records),
        (∀ k v, Indexed k → r.get? k = some v → ∃ n < wordBound, k = indexKey n) →
        ∀ m < wordBound, ∀ u, r.get? (indexKey m) = some u →
          ∃ n ≤ m, ∃ v, s.first r [indexTag] = some (indexKey n, v)
            ∧ r.get? (indexKey n) = some v
  := by
  have apart {i j : Identity} (fitsI : i.Fits) (fitsJ : j.Fits) (other : i ≠ j) :
      j.encode ≠ i.encode := by
    rw [ne_eq, Identity.encode_inj fitsJ fitsI]
    exact Ne.symm other
  refine ⟨?_, fun b f n => ⟨key_ne_indexKey b f n, key_ne_nextIdKey b f, indexKey_ne_nextIdKey n⟩,
    fun s r => ⟨fun n v b => ⟨?_, ?_⟩, ?_⟩, fun m hm n hn => indexKey_lt_iff hm hn, ?_,
    fun r q nextId queue i => queue.leadsBack, ?_, fun i => ?_,
    fun s r ids m hm u stored => Records.exists_first s ids hm stored⟩
  · intro i j fitsI fitsJ f g
    rw [key_inj, Identity.encode_inj fitsI fitsJ]
  · exact Records.indexKey_not_mem_all (by decide) s r n v b
  · exact Records.indexKey_not_mem_all (by decide) s r n v []
  · intro x hx
    have indexed := Records.indexed_of_mem_all hx
    exact ⟨fun b f => indexed.ne_key b f, indexed.ne_nextIdKey⟩
  · intro i j fitsI fitsJ other r batch built
    have apart := apart fitsI fitsJ other
    exact ⟨built.get?_key apart, fun back k => built.get?_index back apart⟩
  · intro i j fitsI fitsJ other d
    refine ⟨spares_remove (apart fitsI fitsJ other) d, fun demoted others => ?_, ?_⟩
    · apply spares_takeReplacing (apart fitsI fitsJ other)
      intro v hv
      exact apart (others v hv).1 fitsJ (others v hv).2
    · rintro x rfl stays
      exact spares_save (apart fitsI fitsJ other) stays
  · have own : i ∈ [i] := List.mem_singleton_self i
    refine ⟨respects_contains own, respects_modified own, respects_headers own,
      respects_remove own, fun demoted => ?_⟩
    apply respects_takeReplacing List.mem_cons_self
    intro v hv
    rw [Option.mem_def.1 hv]
    simp

/-- Two paths that consist of tags, stored under ids of which the larger one has the smaller last
octet.  The second one stays when the first is deleted, and when a third one is saved into the full
tier and the first is evicted. -/
theorem records_apart_tags :
  let x := Copy.ofOctet "\u0002" 1
  let y := Copy.ofOctet "\u0002\u0001" 2
  let z := Copy.ofOctet "\u0001" 3
  let r := Records.apply (Records.apply .empty (placement x 3 none)) (placement y 256 none)
  let batch := deletion x.identity.encode (some 3)
  let d : DiskTier := ⟨{ records := r }, 2, 2, 257⟩
  x.identity.Fits ∧ y.identity.Fits ∧ x.identity ≠ y.identity
    ∧ key x.identity.encode .content ≠ key y.identity.encode .content
    ∧ BuiltFor r x.identity.encode batch ∧ r.LeadsBack x.identity.encode
    ∧ (∀ f, (r.apply batch).get? (key y.identity.encode f) = r.get? (key y.identity.encode f))
    ∧ (r.apply batch).get? (indexKey 256) = some y.identity.encode
    ∧ d.isFull = true ∧ Spares y.identity.encode (save z) d
    ∧ indexKey 3 < indexKey 256
    ∧ ∃ n ≤ 256, ∃ v, Engine.Search.walk.first r [indexTag] = some (indexKey n, v)
        ∧ r.get? (indexKey n) = some v
  := by
  intro x y z r batch d
  obtain ⟨keys, -, -, ordered, batches, -, spared, -, lowest⟩ := records_apart
  have fitsX : x.identity.Fits := by decide +kernel
  have fitsY : y.identity.Fits := by decide +kernel
  have fitsZ : z.identity.Fits := by decide +kernel
  have other : x.identity ≠ y.identity := by decide
  have otherToo : z.identity ≠ y.identity := by decide
  have index : r.index
      = [(indexKey 3, x.identity.encode), (indexKey 256, y.identity.encode)] := by
    decide +kernel
  have stored : r.storedId x.identity.encode = .ok (some 3) := by decide +kernel
  have built : BuiltFor r x.identity.encode batch := .deletion stored
  have back : r.LeadsBack x.identity.encode := by
    intro n found
    rw [stored] at found
    obtain rfl := Option.some.inj (Except.ok.inj found)
    exact (Records.mem_index_iff.1 (index ▸ List.mem_cons_self)).2
  have leads : r.get? (indexKey 256) = some y.identity.encode :=
    (Records.mem_index_iff.1 (index ▸ List.mem_cons_of_mem _ (List.mem_singleton_self _))).2
  have ids : ∀ k v, Indexed k → r.get? k = some v → ∃ n < wordBound, k = indexKey n := by
    intro k v indexed found
    have member := Records.mem_index_iff.2 ⟨indexed, found⟩
    rw [index, List.mem_cons, List.mem_singleton, Prod.mk.injEq, Prod.mk.injEq] at member
    rcases member with ⟨rfl, -⟩ | ⟨rfl, -⟩
    · exact ⟨3, by decide, rfl⟩
    · exact ⟨256, by decide, rfl⟩
  have stays : ∀ k, d.engine.records.index.head? ≠ some (k, y.identity.encode) := by
    intro k oldest
    rw [show d.engine.records.index = _ from index, List.head?_cons, Option.some.injEq,
      Prod.mk.injEq, Identity.encode_inj fitsX fitsY] at oldest
    exact other oldest.2
  obtain ⟨fields, leading⟩ := batches _ _ fitsX fitsY other r batch built
  obtain ⟨-, -, saved⟩ := spared _ _ fitsZ fitsY otherToo d
  refine ⟨fitsX, fitsY, other, ?_, built, back, fields,
    leading back _ (indexed_indexKey 256) leads, by decide, saved z rfl stays,
    (ordered 3 (by decide) 256 (by decide)).2 (by decide),
    lowest .walk r ids 256 (by decide) _ leads⟩
  rw [ne_eq, keys _ _ fitsX fitsY]
  exact fun both => other both.1

end DiskTier

end SiteCache
