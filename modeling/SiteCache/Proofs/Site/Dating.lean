import SiteCache.Proofs.Numeral
import SiteCache.Site.Datastore
import SiteCache.Site.Reader

/-!
# Times of deploys

The record of the last deploy of a website is a numeral, the seconds since the epoch.  A numeral
dates a deploy if its value is in the calendar (`Numeral.Dates`).  Exactly these times are read, and
all other records are damaged, each in one way (`Reader.Dating`, `Reader.deployTimeOf_eq_iff`); so a
time is read as it was recorded, unless it is before the epoch or after the calendar
(`Reader.deployTime_exact`).
-/

namespace SiteCache

open SiteCache.Action

namespace Numeral

variable {m : Numeral} {t : Time}

/-- A numeral dates a deploy to this time: its value is a word, also a signed one, and a second of
the calendar, and the time is the beginning of that second. -/
structure Dates (m : Numeral) (t : Time) : Prop where
  word : m.value < wordBound
  signed : m.value < signedBound
  early : Time.earliest ≤ m.value
  late : (m.value : Int) ≤ Time.latest
  seconds : t.seconds = m.value
  nanos : t.nanos = 0

theorem dates_iff :
  m.Dates t ↔ Time.ofSeconds? m.value = some t
  := by
  constructor
  · rintro ⟨-, -, early, late, seconds, nanos⟩
    obtain ⟨_, _, _⟩ := t
    cases seconds
    cases nanos
    exact if_pos ⟨early, late⟩
  · intro found
    rw [Time.ofSeconds?] at found
    split at found
    next inside =>
      cases found
      obtain ⟨early, late⟩ := inside
      have below := late
      simp only [Time.latest] at below
      refine ⟨?_, ?_, early, late, rfl, rfl⟩
      · simp only [wordBound]
        omega
      · simp only [signedBound]
        omega
    next => cases found

/-- Numbers up to the last second of the calendar date a deploy. -/
theorem dates_of_le (late : (m.value : Int) ≤ Time.latest) :
  m.Dates ⟨m.value, 0, by decide⟩
  := dates_iff.2 (if_pos ⟨Int.le_trans (by decide) (Int.natCast_nonneg m.value), late⟩)

end Numeral

/-- The key of the time of the last deploy. -/
def Datastore.deployKey : Octets :=
  (SiteKey.globalMetadata (Utf8.encode SiteKey.deployTimeKey)).encode

namespace Reader

variable {b : Octets} {answer : Except Fault Time}

/-- What the octets of a deploy record are read as. -/
inductive Dating (b : Octets) : Except Fault Time → Prop where
  | dated (m : Numeral) (t : Time) (written : Utf8.encode m.text = b) (dates : m.Dates t) :
      Dating b (.ok t)
  | illegible (h : ∀ text, Utf8.encode text ≠ b) : Dating b (.error (.corrupt .deployText))
  | unnumbered (text : String) (written : Utf8.encode text = b)
      (h : ∀ m : Numeral, m.text = text → wordBound ≤ m.value) :
      Dating b (.error (.corrupt (.deployNumber text)))
  | late (m : Numeral) (written : Utf8.encode m.text = b) (word : m.value < wordBound)
      (late : Time.latest < m.value) : Dating b (.error (.corrupt (.deployRange m.value)))

theorem dating_deployTimeOf (b : Octets) :
  Dating b (deployTimeOf b)
  := by
  rw [deployTimeOf]
  split
  next illegible =>
    apply Dating.illegible
    rintro text rfl
    rw [Utf8.decode?_encode] at illegible
    cases illegible
  next text legible =>
    have written := Utf8.encode_of_decode? legible
    split
    next unread => exact .unnumbered text written (Numeral.parse?_eq_none_iff.1 unread)
    next seconds read =>
      obtain ⟨m, rfl, rfl, word⟩ := Numeral.parse?_eq_some_iff.1 read
      split
      next t found => exact .dated m t written (Numeral.dates_iff.2 found)
      next missing =>
        apply Dating.late m written word
        by_contra late
        have dates := Numeral.dates_of_le (m := m) (by omega)
        rw [Numeral.dates_iff, missing] at dates
        cases dates

/-- The octets of a deploy record are read in one way. -/
theorem deployTimeOf_eq_iff :
  deployTimeOf b = answer ↔ Dating b answer
  := by
  constructor
  · rintro rfl
    exact dating_deployTimeOf b
  · intro h
    cases h with
    | dated m t written dates =>
        have read := Numeral.parse?_eq_some_iff.2 ⟨m, rfl, rfl, dates.word⟩
        rw [deployTimeOf, ← written, Utf8.decode?_encode]
        simp only [read, Numeral.dates_iff.1 dates]
    | illegible h =>
        have undecoded : Utf8.decode? b = none := by
          rw [Option.eq_none_iff_forall_ne_some]
          intro text legible
          exact h text (Utf8.encode_of_decode? legible)
        rw [deployTimeOf, undecoded]
    | unnumbered text written h =>
        have unread := Numeral.parse?_eq_none_iff.2 h
        rw [deployTimeOf, ← written, Utf8.decode?_encode]
        simp only [unread]
    | late m written word late =>
        have read := Numeral.parse?_eq_some_iff.2 ⟨m, rfl, rfl, word⟩
        have missing : Time.ofSeconds? m.value = none := if_neg (by omega)
        rw [deployTimeOf, ← written, Utf8.decode?_encode]
        simp only [read, missing]

/-- A time is read from a record if a numeral in the record dates it. -/
theorem deployTimeOf_eq_ok_iff {t : Time} :
  deployTimeOf b = .ok t ↔ ∃ m : Numeral, Utf8.encode m.text = b ∧ m.Dates t
  := by
  rw [deployTimeOf_eq_iff]
  constructor
  · rintro ⟨m, _, written, dates⟩
    exact ⟨m, written, dates⟩
  · rintro ⟨m, written, dates⟩
    exact .dated m t written dates

/-- Whatever dates no deploy is damaged. -/
theorem exists_damage (undated : ∀ (m : Numeral) t, Utf8.encode m.text = b → ¬ m.Dates t) :
  ∃ damage, deployTimeOf b = .error (.corrupt damage)
  := by
  generalize read : deployTimeOf b = answer
  cases deployTimeOf_eq_iff.1 read with
  | dated m t written dates => exact absurd dates (undated m t written)
  | illegible h => exact ⟨_, rfl⟩
  | unnumbered text written h => exact ⟨_, rfl⟩
  | late m written word late => exact ⟨_, rfl⟩

/-- A time of a deploy is read as it was recorded. -/
theorem deployTimeOf_encode {seconds : Int} (low : 0 ≤ seconds) (high : seconds ≤ Time.latest) :
  deployTimeOf (Utf8.encode (toString seconds)) = .ok ⟨seconds, 0, by decide⟩
  := by
  obtain ⟨n, rfl⟩ := Int.eq_ofNat_of_zero_le low
  have dates := Numeral.dates_of_le (m := .ofNat n) (by rwa [Numeral.value_ofNat])
  rw [deployTimeOf_eq_iff, ← Numeral.text_ofNat]
  simp only [Numeral.value_ofNat] at dates
  exact .dated (.ofNat n) _ rfl dates

/-- A text that is no numeral is refused as a number. -/
theorem deployTimeOf_unnumbered {text : String} (h : Unnumbered text.toList) :
  deployTimeOf (Utf8.encode text) = .error (.corrupt (.deployNumber text))
  := deployTimeOf_eq_iff.2 (.unnumbered text rfl fun m written => absurd written (h.text_ne m))

theorem deployTimeOf_encode_negative {seconds : Int} (low : seconds < 0) :
  deployTimeOf (Utf8.encode (toString seconds))
    = .error (.corrupt (.deployNumber (toString seconds)))
  := by
  apply deployTimeOf_unnumbered
  apply Unnumbered.negative
  cases seconds with
  | ofNat n => exact absurd low (by simp)
  | negSucc n =>
      have written : toString (Int.negSucc n) = "-" ++ Nat.repr (n + 1) := rfl
      rw [written, String.toList_append]
      exact List.mem_append_left _ (by decide)

theorem deployTimeOf_encode_late {seconds : Int} (late : Time.latest < seconds)
    (signed : seconds < signedBound) :
  deployTimeOf (Utf8.encode (toString seconds))
    = .error (.corrupt (.deployRange seconds.toNat))
  := by
  have low : 0 ≤ seconds := Int.le_trans (by decide) (Int.le_of_lt late)
  obtain ⟨n, rfl⟩ := Int.eq_ofNat_of_zero_le low
  have word : n < wordBound := by
    simp only [signedBound] at signed
    simp only [wordBound]
    omega
  have value := Numeral.value_ofNat n
  have range := Dating.late (.ofNat n) rfl (by omega) (by omega)
  rw [Numeral.text_ofNat, value] at range
  rw [deployTimeOf_eq_iff, Int.toNat_natCast]
  exact range

/-! ### The record of a website -/

variable {σ : Type} [Remote σ] {address : String} {s u : σ}

/-- The time of a deploy is that of its record. -/
theorem perform_deployTime_of_some {b : Octets}
    (asked : (Remote.single address Datastore.deployKey).perform s = (.ok (some b), u)) :
  (deployTime address).perform s = (deployTimeOf b, u)
  := by
  rw [deployTime, perform_bind, ← Datastore.deployKey, asked]
  rfl

theorem perform_deployTime_of_none
    (asked : (Remote.single address Datastore.deployKey).perform s = (.ok none, u)) :
  (deployTime address).perform s = (.error (.notFound (.deployTime address)), u)
  := by
  rw [deployTime, perform_bind, ← Datastore.deployKey, asked]
  rfl

end Reader

namespace Datastore

/-- The time of the last deploy of a website, as it is recorded. -/
def deployTime (d : Datastore) (address : String) : Except Fault Time :=
  match (d.site address).get? deployKey with
  | some b => Reader.deployTimeOf b
  | none => .error (.notFound (.deployTime address))

variable {d : Datastore} {address : String} {seconds : Int}

/-- A store that is not offline answers for each single key. -/
theorem perform_single (online : d.offline = false) (address : String) (key : Octets) :
  ((Remote.single address key).perform d).1 = .ok ((d.site address).get? key)
  := by
  simp only [Remote.single, Remote.aligned, perform_bind, Remote.values, perform_ofStep, online,
    Bool.false_eq_true, if_false, answer, site, List.length_singleton, Nat.lt_irrefl, false_and,
    List.map_cons, List.map_nil, if_true, perform_pure, List.head?_cons, Option.join_some]

theorem perform_deployTime (online : d.offline = false) (address : String) :
  ((Reader.deployTime address).perform d).1 = d.deployTime address
  := by
  have found := perform_single online address deployKey
  rw [deployTime]
  cases stored : (d.site address).get? deployKey with
  | some b =>
      rw [stored] at found
      rw [Reader.perform_deployTime_of_some (Prod.ext found rfl)]
  | none =>
      rw [stored] at found
      rw [Reader.perform_deployTime_of_none (Prod.ext found rfl)]

theorem site_put (d : Datastore) (address : String) (key value : Octets) :
  (d.put address key value).site address = (d.site address).insert key value
  := by
  rw [put, site, Table.get?_insert, if_pos rfl]
  rfl

theorem deployTime_setDeployTime_eq (d : Datastore) (address : String) (seconds : Int) :
  (d.setDeployTime address seconds).deployTime address
    = Reader.deployTimeOf (Utf8.encode (toString seconds))
  := by
  rw [deployTime, setDeployTime, setGlobalMetadata, site_put, deployKey, Table.get?_insert,
    if_pos rfl]

theorem deployTime_setDeployTime (low : 0 ≤ seconds) (high : seconds ≤ Time.latest) :
  (d.setDeployTime address seconds).deployTime address = .ok ⟨seconds, 0, by decide⟩
  := by
  rw [deployTime_setDeployTime_eq, Reader.deployTimeOf_encode low high]

end Datastore

namespace Reader

/-- The time of the last deploy is what a numeral in its record dates; a record in which none does
is damaged, and one that is not there is missed.  Blank texts, negative numbers, numbers with a
blank inside and numbers too large for a word are refused as numbers.  A recorded time is read back
from the epoch to the end of the calendar, and refused otherwise. -/
theorem deployTime_exact {σ : Type} [Remote σ] (address : String) :
  (∀ (s u : σ) (b : Octets),
      (Remote.single address Datastore.deployKey).perform s = (.ok (some b), u) →
        (∀ t, (deployTime address).perform s = (.ok t, u)
            ↔ ∃ m : Numeral, Utf8.encode m.text = b ∧ m.Dates t)
          ∧ ((∀ (m : Numeral) t, Utf8.encode m.text = b → ¬ m.Dates t) →
              ∃ damage, (deployTime address).perform s = (.error (.corrupt damage), u)))
    ∧ (∀ s u : σ, (Remote.single address Datastore.deployKey).perform s = (.ok none, u) →
        (deployTime address).perform s = (.error (.notFound (.deployTime address)), u))
    ∧ (∀ text : String,
        Unnumbered text.toList ∨ (∃ m : Numeral, m.text = text ∧ wordBound ≤ m.value) →
          deployTimeOf (Utf8.encode text) = .error (.corrupt (.deployNumber text)))
    ∧ ∀ (d : Datastore) (seconds : Int), d.offline = false →
        let read := ((deployTime address).perform (d.setDeployTime address seconds)).1
        (0 ≤ seconds → seconds ≤ Time.latest → read = .ok ⟨seconds, 0, by decide⟩)
          ∧ (seconds < 0 → read = .error (.corrupt (.deployNumber (toString seconds))))
          ∧ (Time.latest < seconds → seconds < signedBound →
              read = .error (.corrupt (.deployRange seconds.toNat)))
  := by
  refine ⟨fun s u b asked => ?_, fun s u => perform_deployTime_of_none, fun text h => ?_,
    fun d seconds online => ?_⟩
  · rw [perform_deployTime_of_some asked]
    refine ⟨fun t => ?_, fun undated => ?_⟩
    · rw [Prod.mk.injEq, eq_self, and_true, deployTimeOf_eq_ok_iff]
    · obtain ⟨damage, damaged⟩ := exists_damage undated
      exact ⟨damage, by rw [damaged]⟩
  · rcases h with odd | ⟨m, rfl, large⟩
    · exact deployTimeOf_unnumbered odd
    · apply deployTimeOf_eq_iff.2 (.unnumbered m.text rfl _)
      intro m' same
      rwa [Numeral.value_eq_of_text_eq same]
  · have online' : (d.setDeployTime address seconds).offline = false := online
    rw [Datastore.perform_deployTime online', Datastore.deployTime_setDeployTime_eq]
    exact ⟨deployTimeOf_encode, deployTimeOf_encode_negative, deployTimeOf_encode_late⟩

/-- Blanks, a plus sign and leading zeros are read over; a record with a blank inside is damaged, as
are recorded times before the epoch and after the calendar. -/
theorem deployTime_exact_padded :
  let d : Datastore := ({} : Datastore).setGlobalMetadata "A" SiteKey.deployTimeKey " +007\n"
  let read (seconds : Int) := ((deployTime "A").perform (d.setDeployTime "A" seconds)).1
  ((deployTime "A").perform d).1 = .ok ⟨7, 0, by decide⟩
    ∧ ((deployTime "A").perform ({} : Datastore)).1 = .error (.notFound (.deployTime "A"))
    ∧ deployTimeOf (Utf8.encode "1 2") = .error (.corrupt (.deployNumber "1 2"))
    ∧ read 1700000000 = .ok ⟨1700000000, 0, by decide⟩
    ∧ read (-1) = .error (.corrupt (.deployNumber "-1"))
    ∧ read 8210266876800 = .error (.corrupt (.deployRange 8210266876800))
  := by
  intro d read
  -- `decide` would go through all characters that there are, not through those of the lists.
  let m : Numeral :=
    ⟨[' '], true, ['0', '0', '7'], ['\n'], List.all_eq_true.1 rfl, List.all_eq_true.1 rfl,
      List.cons_ne_nil _ _, List.all_eq_true.1 rfl⟩
  obtain ⟨recorded, missing, odd, written⟩ := deployTime_exact (σ := Datastore) "A"
  have stored : ((Remote.single "A" Datastore.deployKey).perform d).1
      = .ok (some (Utf8.encode " +007\n")) := by decide +kernel
  have absent : ((Remote.single "A" Datastore.deployKey).perform ({} : Datastore)).1
      = .ok none := by decide +kernel
  obtain ⟨dated, -⟩ := recorded d _ _ (Prod.ext stored rfl)
  have seven := (dated ⟨7, 0, by decide⟩).2 ⟨m, rfl, Numeral.dates_iff.2 (by decide)⟩
  have inner : Unnumbered (['1'] ++ ' ' :: ['2']) :=
    .broken (by decide) ⟨'1', by decide⟩ ⟨'2', by decide⟩
  refine ⟨by rw [seven], by rw [missing {} _ (Prod.ext absent rfl)], odd "1 2" (.inl inner),
    (written d 1700000000 rfl).1 (by decide) (by decide), (written d (-1) rfl).2.1 (by decide),
    (written d 8210266876800 rfl).2.2 (by decide) (by decide)⟩

end Reader

end SiteCache
