import SiteCache.Proofs.Headers
import SiteCache.Proofs.Tier.Batch

/-!
# What is stored has a property

If every content that is stored under an identity with its headers has a property (`Records.Only`),
then so has every content after an operation of the disk tier, provided that the copies given to it
have the property; a copy that is taken out has it, too.  After the removal of an identity nothing
is stored under it.  None of this depends on the insertion ids, however many were given out.
-/

namespace SiteCache

namespace Records

open Record DiskTier

variable {P Q : Identity → Octets → Headers → Prop} {r : Records} {i : Identity} {x : Copy}
  {n : Nat} {id previous : Option Nat}

/-- Whatever is stored under an identity, content and headers have this property. -/
def Only (P : Identity → Octets → Headers → Prop) (r : Records) : Prop :=
  ∀ i, i.Fits → r.get? (key i.encode .id) ≠ none → ∃ content headers,
    r.get? (key i.encode .content) = some content
      ∧ r.get? (key i.encode .headers) = some (Headers.encode headers) ∧ P i content headers

namespace Only

theorem of_empty :
  Only P .empty
  := by
  intro i _ stored
  exact absurd rfl stored

theorem mono (h : r.Only P)
    (weaker : ∀ i content headers, P i content headers → Q i content headers) :
  r.Only Q
  := by
  intro i fits stored
  obtain ⟨content, headers, hasContent, hasHeaders, good⟩ := h i fits stored
  exact ⟨content, headers, hasContent, hasHeaders, weaker _ _ _ good⟩

/-- Where nothing is stored under an identity, whatever is stored belongs to others. -/
theorem of_absent (h : r.Only P) (absent : r.get? (key i.encode .id) = none) :
  r.Only fun j content headers => j ≠ i ∧ P j content headers
  := by
  intro j fits stored
  obtain ⟨content, headers, hasContent, hasHeaders, good⟩ := h j fits stored
  refine ⟨content, headers, hasContent, hasHeaders, ?_, good⟩
  rintro rfl
  exact stored absent

/-- A deletion leaves nothing under its identity, and the other identities alone. -/
theorem delete (h : r.Only P) (fits : i.Fits) (id : Option Nat) :
  (r.apply (deletion i.encode id)).Only fun j content headers => j ≠ i ∧ P j content headers
  := by
  have kept : (r.apply (deletion i.encode id)).Only P := by
    intro j jFits stored
    simp only [get?_key_deletion, Identity.encode_inj jFits fits] at stored ⊢
    by_cases same : j = i
    · rw [if_pos same] at stored
      exact absurd rfl stored
    · rw [if_neg same] at stored
      simp only [if_neg same]
      exact h j jFits stored
  apply kept.of_absent
  rw [get?_key_deletion, if_pos rfl]

/-- An eviction deletes all fields of an identity or none. -/
theorem evict {k identity : Octets} (h : r.Only P) (index : Indexed k) :
  (r.apply (eviction k identity)).Only P
  := by
  intro j jFits stored
  simp only [get?_key_eviction r index] at stored ⊢
  split at stored
  next => exact absurd rfl stored
  next other =>
    simp only [if_neg other]
    exact h j jFits stored

/-- What an insertion stores has the property if its copy has it. -/
theorem place (h : r.Only P) (fits : x.identity.Fits) (good : P x.identity x.content x.headers)
    (n : Nat) (previous : Option Nat) :
  (r.apply (placement x n previous)).Only P
  := by
  intro j jFits stored
  simp only [get?_key_placement, Identity.encode_inj jFits fits] at stored ⊢
  by_cases same : j = x.identity
  · subst same
    simp only [if_true, value]
    exact ⟨x.content, x.headers, rfl, rfl, good⟩
  · rw [if_neg same] at stored
    simp only [if_neg same]
    exact h j jFits stored

/-- A complete copy that is stored has the property. -/
theorem copy (h : r.Only P) (fits : i.Fits) (stored : r.get? (key i.encode .id) ≠ none)
    (read : r.copy i = .ok (some x)) :
  x.identity = i ∧ P i x.content x.headers
  := by
  obtain ⟨content, headers, hasContent, hasHeaders, good⟩ := h i fits stored
  rw [Records.copy, hasContent, hasHeaders, decodeHeaders, Headers.decode?_encode_eq] at read
  cases time : r.get? (key i.encode .time) with
  | none =>
      rw [time] at read
      cases read
  | some t =>
      rw [time] at read
      obtain ⟨modified, -, read⟩ := exists_of_bind_eq_ok read
      obtain rfl := Option.some.inj (Except.ok.inj read)
      exact ⟨rfl, good⟩

end Only

theorem absent_of_storedId {b : Octets} (h : r.storedId b = .ok none) :
  r.get? (key b .id) = none
  := by
  rw [storedId] at h
  cases stored : r.get? (key b .id) with
  | none => rfl
  | some word =>
      rw [stored] at h
      simp only at h
      cases decoded : decodeWord .entryId word with
      | error fault =>
          rw [decoded] at h
          cases h
      | ok id =>
          rw [decoded] at h
          cases h

theorem present_of_storedId {b : Octets} (h : r.storedId b = .ok (some n)) :
  r.get? (key b .id) ≠ none
  := by
  intro absent
  rw [storedId, absent] at h
  cases h

theorem indexed_of_index {k v : Octets} (h : r.index.head? = some (k, v)) :
  Indexed k
  := by
  have first := List.mem_of_head? h
  rw [index, startingWith, List.mem_filter] at first
  exact first.2

end Records

namespace DiskTier

variable {P : Identity → Octets → Headers → Prop} {d d' : DiskTier} {i : Identity} {x : Copy}

theorem Removed.only {answer : Except Fault Bool} (ends : Removed d i answer d') (fits : i.Fits)
    (h : d.engine.records.Only P) :
  d'.engine.records.Only P
    ∧ (answer.isOk → d'.engine.records.Only fun j content headers => j ≠ i ∧ P j content headers)
  := by
  cases ends with
  | refused => exact ⟨h, by rintro ⟨⟩⟩
  | unreadable => exact ⟨h, by rintro ⟨⟩⟩
  | absent absent => exact ⟨h, fun _ => h.of_absent (Records.absent_of_storedId absent)⟩
  | @removed id =>
      have rest := h.delete fits (some id)
      exact ⟨rest.mono fun _ _ _ good => good.2, fun _ => rest⟩

theorem Evicted.only {answer : Except Fault (Option Identity)} (ends : Evicted d answer d')
    (h : d.engine.records.Only P) :
  d'.engine.records.Only P
  := by
  cases ends with
  | refused => exact h
  | vacant => exact h
  | evicted first => exact h.evict (Records.indexed_of_index first)

theorem Prepared.only {identity : Octets} {previous : Option Nat} {dropped : Option Identity}
    (ends : Prepared d identity previous dropped d') (h : d.engine.records.Only P) :
  d'.engine.records.Only P
  := by
  cases ends with
  | spare => exact h
  | evicted _ _ ends => exact ends.only h

theorem Saved.only {answer : Except Fault (Option Identity)} (ends : Saved d x answer d')
    (fits : x.identity.Fits) (good : P x.identity x.content x.headers)
    (h : d.engine.records.Only P) :
  d'.engine.records.Only P
  := by
  cases ends with
  | refused => exact h
  | unreadable => exact h
  | stopped prepared => exact prepared.only h
  | saved prepared changes =>
      obtain ⟨-, rfl⟩ := insertion_eq_ok_iff.1 changes
      exact (prepared.only h).place fits good _ _

/-- The changes that come with a demoted copy store what has the property if the copy has it. -/
theorem only_replacement {r : Records} {n : Nat} {demoted : Option Copy} {batch : Batch}
    {added : Nat} (changes : r.replacement n demoted = .ok (batch, added))
    (good : ∀ v, demoted = some v → v.identity.Fits ∧ P v.identity v.content v.headers)
    {s : Records} (h : s.Only P) :
  (s.apply batch).Only P
  := by
  cases demoted with
  | none =>
      obtain ⟨rfl, -⟩ := Prod.mk.inj (Except.ok.inj changes)
      exact h
  | some v =>
      obtain ⟨fits, good⟩ := good v rfl
      obtain ⟨previous, -, changes⟩ := exists_of_bind_eq_ok changes
      obtain ⟨placed, made, changes⟩ := exists_of_bind_eq_ok changes
      obtain ⟨rfl, -⟩ := Prod.mk.inj (Except.ok.inj changes)
      obtain ⟨-, rfl⟩ := insertion_eq_ok_iff.1 made
      exact h.place fits good _ _

theorem Taken.only {demoted : Option Copy} {answer : Except Fault (Option Copy)}
    (ends : Taken d i demoted answer d') (fits : i.Fits)
    (good : ∀ v, demoted = some v → v.identity.Fits ∧ P v.identity v.content v.headers)
    (h : d.engine.records.Only P) :
  d'.engine.records.Only P ∧ ∀ x, answer = .ok (some x) → x.identity = i ∧ P i x.content x.headers
  := by
  cases ends with
  | refused => exact ⟨h, by rintro x ⟨⟩⟩
  | unreadable => exact ⟨h, by rintro x ⟨⟩⟩
  | absent => exact ⟨h, by rintro x ⟨⟩⟩
  | unprepared => exact ⟨h, by rintro x ⟨⟩⟩
  | taken present changes =>
      constructor
      · simp only [records_wrote, Records.apply_append]
        apply only_replacement changes good
        exact (h.delete fits _).mono fun _ _ _ good => good.2
      · intro x read
        exact h.copy fits (Records.present_of_storedId present) read

end DiskTier

end SiteCache
