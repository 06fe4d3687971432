import SiteCache.Proofs.Site.Confining
import SiteCache.Proofs.Site.Deployment
import SiteCache.Proofs.Site.Overriding
import SiteCache.Proofs.Site.Transparency

/-!
# Headers whose names differ in case

A path overrides a header of its website under the very same name.  Headers are asked for without
regard to case, though, and so a header of the website may answer for one that the path has under a
name in other letters (`Reader.Recased`): both are in the headers of the path, and in the pages that
are made of them (`Reader.headers_recased`).  The path is safe from this exactly if it overrides,
letter by letter, all headers of the website whose names are the same as its own in any case.
-/

namespace SiteCache

open SiteCache.Action

namespace Headers

/-- Names are the same if they are in small letters. -/
theorem sameName_iff {m n : String} :
  sameName m n = true ↔ m.toList.map Char.toLower = n.toList.map Char.toLower
  := by
  change decide (m.map Char.toLower = n.map Char.toLower) = true ↔ _
  rw [decide_eq_true_iff, ← String.toList_inj, String.toList_map, String.toList_map]

theorem sameName_self (n : String) :
  sameName n n = true
  := sameName_iff.2 rfl

/-- By the name of a header some header is found that has this name, in any case. -/
theorem exists_find?_of_get? {h : Headers} {n v : String} (found : h.get? n = some v) :
  ∃ x w, h.find? n = some w ∧ sameName x n ∧ h.get? x = some w
  := by
  have entry := (Table.mem_entries_iff h n v).2 found
  cases first : h.entries.find? fun x => sameName x.1 n with
  | none =>
      have other := List.find?_eq_none.1 first _ entry
      exact absurd (sameName_self n) other
  | some x =>
      have same := List.find?_some (p := fun y : String × String => sameName y.1 n) first
      refine ⟨x.1, x.2, ?_, same, ?_⟩
      · rw [find?, first, Option.map_some]
      · exact (Table.mem_entries_iff h x.1 x.2).1 (List.mem_of_find?_eq_some first)

end Headers

namespace Reader

/-! ### Headers under several names -/

section Recased

variable {path : String} {listing : List Octets} {contents : Octets → Option Octets}
  {family : Octets → SiteKey} {beginning : Octets} {x v : String}

/-- A family of header keys gives a header with this name and value. -/
def Gives (family : Octets → SiteKey) (listing : List Octets) (contents : Octets → Option Octets)
    (x v : String) : Prop :=
  ∃ value, Utf8.lossy value = v ∧ LastOf family listing contents x value

/-- No header with a name is given exactly if each of its keys is without a value. -/
theorem not_gives_iff (begins : ∀ name, headerKey family name = beginning ++ name) :
  (∀ v, ¬ Gives family listing contents x v)
    ↔ ∀ key ∈ listing, Names family x key → contents key = none
  := by
  rw [← findSome?_valueOf_eq_none_iff begins]
  simp only [Gives, lastOf_iff begins]
  cases listing.reverse.findSome? (valueOf beginning contents x) with
  | none => simp
  | some value => simp

theorem overridden_iff :
  Overridden path listing contents x v
    ↔ Gives (.fileMetadata path) listing contents x v
      ∨ (∀ w, ¬ Gives (.fileMetadata path) listing contents x w)
        ∧ Gives .globalMetadata listing contents x v
  := by
  rw [not_gives_iff (headerKey_file path)]
  constructor
  · rintro ⟨value, read, ours | ⟨alone, theirs⟩⟩
    · exact .inl ⟨value, read, ours⟩
    · exact .inr ⟨alone, value, read, theirs⟩
  · rintro (⟨value, read, ours⟩ | ⟨alone, value, read, theirs⟩)
    · exact ⟨value, read, .inl ours⟩
    · exact ⟨value, read, .inr ⟨alone, theirs⟩⟩

/-- The headers of a path are its own and those of its website under names that the path does not
give.  If the path gives a header, any other with the same name in any case is also given by the
path, or by the website under a name in other letters that the path does not give.  There is none of
the latter exactly if the path gives all names of the website that are the same in any case.  By the
name some header is found that has it in any case. -/
structure Recased (own site : String → String → Prop) (h : Headers) : Prop where
  ours : ∀ n v, own n v → h.get? n = some v
  theirs : ∀ x w, site x w → (∀ w', ¬ own x w') → h.get? x = some w
  others : ∀ n v, own n v → ∀ x w, Headers.sameName x n → h.get? x = some w →
    own x w ∨ x ≠ n ∧ site x w ∧ ∀ w', ¬ own x w'
  wins : ∀ n v, own n v →
    ((∀ x w, Headers.sameName x n → h.get? x = some w → own x w)
      ↔ ∀ x w, Headers.sameName x n → site x w → ∃ w', own x w')
  found : ∀ n v, own n v → ∃ x w, h.find? n = some w ∧ Headers.sameName x n ∧ h.get? x = some w

theorem recased_listedHeaders (path : String) (listing : List Octets)
    (contents : Octets → Option Octets) :
  Recased (Gives (.fileMetadata path) listing contents) (Gives .globalMetadata listing contents)
    (listedHeaders path listing contents)
  := by
  have listed (x w : String) : (listedHeaders path listing contents).get? x = some w
      ↔ Gives (.fileMetadata path) listing contents x w
        ∨ (∀ w', ¬ Gives (.fileMetadata path) listing contents x w')
          ∧ Gives .globalMetadata listing contents x w :=
    get?_listedHeaders_iff.trans overridden_iff
  refine ⟨?_, ?_, ?_, ?_, ?_⟩
  · intro n v own
    exact (listed n v).2 (.inl own)
  · intro x w site alone
    exact (listed x w).2 (.inr ⟨alone, site⟩)
  · intro n v own x w _ found
    obtain ours | ⟨alone, theirs⟩ := (listed x w).1 found
    · exact .inl ours
    · refine .inr ⟨?_, theirs, alone⟩
      rintro rfl
      exact alone v own
  · intro n v own
    constructor
    · intro wins x w same theirs
      by_contra none
      have alone := not_exists.1 none
      exact alone w (wins x w same ((listed x w).2 (.inr ⟨alone, theirs⟩)))
    · intro overrides x w same found
      obtain ours | ⟨alone, theirs⟩ := (listed x w).1 found
      · exact ours
      · obtain ⟨w', ours⟩ := overrides x w same theirs
        exact absurd ours (alone w')
  · intro n v own
    exact Headers.exists_find?_of_get? ((listed n v).2 (.inl own))

end Recased

/-! ### Pages -/

section Remote

variable {σ : Type} [Remote σ] {P : σ → Prop} {address path : String} {listing : List Octets}
  {contents : Octets → Option Octets}

/-- A store that conforms does so after content was fetched. -/
theorem confined_fetch_of_conforms (h : Remote.Conforms P address listing contents) (now : Nat)
    (path : String) :
  (fetch now address path).Confined (fun r : Reader σ => P r.remote) fun _ => True
  := by
  have values (keys : List Octets) :
      (Remote.values address keys).Confined P fun _ => True := (h.values keys).confined
  have listed : (paths now address).Confined (fun r : Reader σ => P r.remote) fun _ => True :=
    confined_paths_of_listPaths trivial
      (confined_listPaths values (fun _ => trivial) h.keys.confined)
  have assembled : (onRemote (assemble address path)).Confined
      (fun r : Reader σ => P r.remote) fun _ => True :=
    (confined_assemble values (fun _ => trivial) trivial).within (fun _ kept => kept)
      fun _ _ _ kept => kept
  exact confined_fetch listed assembled trivial

/-- The headers that are told with a content are those that are read of its path. -/
theorem headers_of_retrieve (h : Remote.Conforms P address listing contents) {now : Nat}
    {r t : Reader σ} (remote : P r.remote) {content : Octets} {found : Headers}
    (ended : (retrieve now ⟨address, path⟩).perform r = (.ok (content, found), t)) :
  found = listedHeaders path listing contents
  := by
  obtain ⟨_, u, fetched, ended⟩ := of_perform_bind ended
  obtain ⟨_, v, read, ended⟩ := of_perform_bind ended
  cases ended
  have kept := (confined_fetch_of_conforms h now path r remote).2
  rw [fetched] at kept
  obtain ⟨answer, -⟩ := of_perform_onRemote read
  obtain ⟨w, -, listed⟩ := answers_headers h path u.remote kept
  rw [listed] at answer
  exact (Except.ok.inj answer).symm

/-- Of a store that conforms, the headers of a path are recased, and they are told with the page
that is made of the path, which is what a cache saves. -/
theorem headers_recased (h : Remote.Conforms P address listing contents) (path : String) :
  ∃ found, (headers address path).Answers P found
    ∧ Recased (Gives (.fileMetadata path) listing contents)
        (Gives .globalMetadata listing contents) found
    ∧ ∀ (hash : Identity → UInt64) (s t : Server σ hash) clock page, P s.reader.remote →
        (Server.fromRemote clock ⟨address, path⟩).perform s = (.ok page, t) → page.headers = found
  := by
  refine ⟨_, answers_headers h path, recased_listedHeaders path listing contents, ?_⟩
  intro hash s t clock page remote ended
  rw [Server.perform_fromRemote] at ended
  generalize retrieved : (retrieve clock.steady ⟨address, path⟩).perform s.reader = outcome at ended
  obtain ⟨fault | ⟨content, found⟩, u⟩ := outcome
  · cases ended
  · cases ended
    exact headers_of_retrieve h remote retrieved

end Remote

end Reader

/-! ### Websites in memory -/

namespace Datastore

/-- An available store conforms as long as it is not written. -/
theorem Available.conforms {d : Datastore} (h : d.Available) (address : String) :
  Remote.Conforms d.Like address (d.site address).keys (d.site address).get?
  := ⟨h.keys address, h.answers address⟩

/-- A website with a header that its page has in other letters. -/
def twoCases : Datastore :=
  (({} : Datastore).upload "AS1" "index.html" [120] 4
    |>.setGlobalHeader "AS1" "Cache-Control" "max-age=60"
    |>.setFileHeader "AS1" "index.html" "cache-control" "no-cache")

namespace twoCases

/-- The headers that a family of keys gives. -/
def given (family : Octets → SiteKey) : String → String → Prop :=
  Reader.Gives family (twoCases.site "AS1").keys (twoCases.site "AS1").get?

theorem conforms :
  Remote.Conforms twoCases.Like "AS1" (twoCases.site "AS1").keys (twoCases.site "AS1").get?
  := Available.conforms ⟨by decide +kernel, by decide +kernel⟩ "AS1"

theorem given_file :
  given (.fileMetadata "index.html") "cache-control" "no-cache"
  := by
  refine ⟨Utf8.encode "no-cache", by decide +kernel, ?_⟩
  rw [Reader.lastOf_iff (Reader.headerKey_file _)]
  decide +kernel

theorem given_global :
  given .globalMetadata "Cache-Control" "max-age=60"
  := by
  refine ⟨Utf8.encode "max-age=60", by decide +kernel, ?_⟩
  rw [Reader.lastOf_iff Reader.headerKey_global]
  decide +kernel

/-- The page has one value only in its headers. -/
theorem eq_of_given_file {x v : String} (h : given (.fileMetadata "index.html") x v) :
  x = "cache-control" ∧ v = "no-cache"
  := by
  obtain ⟨value, rfl, before, key, behind, split, named, found, -⟩ := h
  have listed : key ∈ (twoCases.site "AS1").keys := by
    rw [split]
    simp
  obtain ⟨front, rfl⟩ := (Reader.names_iff (Reader.headerKey_file _) key).1 named
  have only : ∀ key ∈ (twoCases.site "AS1").keys,
      (Reader.fileBeginning "index.html").isPrefixOf key = true →
        Utf8.lossy (key.drop (Reader.fileBeginning "index.html").length) = "cache-control"
          ∧ (twoCases.site "AS1").get? key = some (Utf8.encode "no-cache") := by
    decide +kernel
  obtain ⟨name, value'⟩ := only key listed front
  obtain rfl := Option.some.inj (found.symm.trans value')
  exact ⟨name, by decide +kernel⟩

end twoCases

/-- Both headers are among those of the page, and either may answer for the name. -/
theorem headers_recased_twoCases :
  Remote.Conforms twoCases.Like "AS1" (twoCases.site "AS1").keys (twoCases.site "AS1").get?
    ∧ ∃ found, (Reader.headers "AS1" "index.html").Answers twoCases.Like found
      ∧ found.get? "cache-control" = some "no-cache"
      ∧ found.get? "Cache-Control" = some "max-age=60"
      ∧ ∃ x w, found.find? "cache-control" = some w ∧ Headers.sameName x "cache-control"
        ∧ found.get? x = some w
  := by
  obtain ⟨found, answers, recased, -⟩ := Reader.headers_recased twoCases.conforms "index.html"
  refine ⟨twoCases.conforms, found, answers, recased.ours _ _ twoCases.given_file, ?_,
    recased.found _ _ twoCases.given_file⟩
  apply recased.theirs _ _ twoCases.given_global
  intro w own
  exact absurd (twoCases.eq_of_given_file own).1 (by decide)

/-- A header of the website stays beside that of the page, which has the same name in other letters
and another value; it is told with the page. -/
theorem site_header_survives :
  twoCases.given (.fileMetadata "index.html") "cache-control" "no-cache"
    ∧ (∀ x, ¬ twoCases.given (.fileMetadata "index.html") x "max-age=60")
    ∧ Headers.sameName "Cache-Control" "cache-control"
    ∧ ((Reader.headers "AS1" "index.html").perform twoCases).1.toOption.bind
        (·.get? "Cache-Control") = some "max-age=60"
    ∧ ((Server.serve ⟨Time.ofNanoseconds 0, 0⟩ "AS1" "index.html" true).perform
        (⟨⟨{ lifetime := 0 }, twoCases⟩, none⟩ : Server Datastore fun _ => 0)).1.toOption.bind
        (·.headers.get? "Cache-Control") = some "max-age=60"
  := by
  refine ⟨twoCases.given_file, ?_, Headers.sameName_iff.2 (by decide), by decide +kernel,
    by decide +kernel⟩
  intro x own
  exact absurd (twoCases.eq_of_given_file own).2 (by decide)

end Datastore

end SiteCache
