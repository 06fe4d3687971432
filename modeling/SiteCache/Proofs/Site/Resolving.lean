import SiteCache.Proofs.Site.Confining
import SiteCache.Proofs.Site.Fetching

/-!
# Which path answers a requested one

As long as the path list of a website stays the same, a requested path is answered by itself if it
is listed, else with the suffix of pages behind it if that is listed, else by the index page
(`Reader.canonical`).  An answer is answered by itself, it is listed if any path that was tried is,
and it is not listed only if it is the index page and nothing that was tried is listed
(`Reader.resolve_canonical`).

A path list stays the same as long as it is remembered (`Reader.answers_paths_of_remembered`), and
of a remote store that does not change (`Reader.answers_paths_of_unchanging`).
-/

namespace SiteCache

open SiteCache.Action

namespace Reader

/-- The path that answers a requested one if these are stored. -/
def canonical (list : PathList) (requested : String) : String :=
  if requested ∈ list then requested
  else if ¬ requested.endsWith pageSuffix ∧ requested ++ pageSuffix ∈ list then
    requested ++ pageSuffix
  else indexPage

/-! ### The paths that are tried -/

section Candidates

variable {list : PathList} {requested : String}

/-- The index page is tried last. -/
theorem getLast?_candidates (requested : String) :
  (candidates requested).getLast? = some indexPage
  := by
  rw [candidates]
  generalize (if requested.endsWith pageSuffix then [requested]
    else [requested, requested ++ pageSuffix]) = tried
  by_cases last : tried.getLast? = some indexPage
  · rwa [if_pos last]
  · rw [if_neg last, List.getLast?_concat]

/-- The canonical path is the first one tried that is listed, or else the last one tried. -/
theorem find?_candidates (list : PathList) (requested : String) :
  ((candidates requested).find? (list.contains ·)).getD indexPage = canonical list requested
  := by
  have index (tried : List String) :
      ((tried ++ [indexPage]).find? (list.contains ·)).getD indexPage
        = (tried.find? (list.contains ·)).getD indexPage := by
    rw [List.find?_append]
    cases tried.find? (list.contains ·) with
    | some path => rfl
    | none =>
        rw [List.find?_singleton]
        split <;> rfl
  have either (tried : List String) :
      ((if tried.getLast? = some indexPage then tried else tried ++ [indexPage]).find?
          (list.contains ·)).getD indexPage
        = (tried.find? (list.contains ·)).getD indexPage := by
    split
    · rfl
    · exact index tried
  rw [candidates, either, canonical]
  by_cases listed : requested ∈ list
  · by_cases page : requested.endsWith pageSuffix <;> simp [page, listed]
  · by_cases page : requested.endsWith pageSuffix
    · simp [page, listed]
    · by_cases named : requested ++ pageSuffix ∈ list <;> simp [page, listed, named]

/-- The canonical path is listed if any path that is tried is. -/
theorem canonical_mem_iff :
  canonical list requested ∈ list ↔ ∃ tried ∈ candidates requested, tried ∈ list
  := by
  rw [← find?_candidates]
  constructor
  · intro listed
    refine ⟨_, ?_, listed⟩
    cases found : (candidates requested).find? (list.contains ·) with
    | some path => exact List.mem_of_find?_eq_some found
    | none => exact List.mem_of_getLast? (getLast?_candidates requested)
  · rintro ⟨path, tried, listed⟩
    cases found : (candidates requested).find? (list.contains ·) with
    | some first => exact List.contains_iff_mem.1 (List.find?_some found)
    | none =>
        have unlisted := List.find?_eq_none.1 found path tried
        exact absurd (List.contains_iff_mem.2 listed) unlisted

theorem canonical_eq_indexPage (unlisted : canonical list requested ∉ list) :
  canonical list requested = indexPage
  := by
  rw [canonical] at unlisted ⊢
  split_ifs at unlisted ⊢ with asked named
  · exact absurd asked unlisted
  · exact absurd named.2 unlisted
  · rfl

theorem canonical_canonical (list : PathList) (requested : String) :
  canonical list (canonical list requested) = canonical list requested
  := by
  by_cases listed : canonical list requested ∈ list
  · rw [canonical, if_pos listed]
  · have index := canonical_eq_indexPage listed
    rw [index] at listed
    rw [index, canonical, if_neg listed, if_neg]
    simp [indexPage_endsWith]

end Candidates

/-! ### Path lists that stay the same -/

variable {σ : Type} [Remote σ] {P : σ → Prop} {Q : Reader σ → Prop} {now : Nat}
  {address : String} {list : PathList}

/-- A remembered list is answered until it expires. -/
theorem answers_paths_of_remembered :
  (paths now address).Answers (fun r : Reader σ => r.lists.get now address = some list) list
  := by
  intro r remembered
  refine ⟨r, remembered, ?_⟩
  rw [perform_paths, remembered]

/-- Of a remote store that does not change the list is answered that is read at any time. -/
theorem answers_paths_of_unchanging (h : Remote.Unchanging P) (listed : Lists P address list)
    {lifetime : Nat} (inTime : now + lifetime < Clock.finish) :
  (paths now address).Answers (fun r => Alike P r r ∧ r.lists.lifetime = lifetime) list
  := by
  rintro r ⟨alike, rfl⟩
  have kept := ((compatible_alike h).listed now address r r alike).2
  rw [perform_paths] at kept ⊢
  cases remembered : r.lists.get now address with
  | some kept =>
      obtain rfl := lists_unique alike.first listed (lists_of_get alike.recalls remembered)
      exact ⟨r, ⟨alike, rfl⟩, rfl⟩
  | none =>
      obtain ⟨found, answered, rfl⟩ := listed r.remote alike.first
      simp only [remembered, answered, PathLists.perform_set, if_pos inTime] at kept ⊢
      exact ⟨_, ⟨kept, rfl⟩, rfl⟩

/-! ### Resolving -/

section Fixed

variable (fixed : (paths now address).Answers Q list)
include fixed

theorem answers_stores (path : String) :
  (stores now address path).Answers Q (list.contains path)
  := fixed.bind (answers_pure _)

/-- Of some paths that end with the index page the first one that is listed is answered. -/
theorem answers_firstStored {candidates : List String}
    (last : candidates.getLast? = some indexPage) :
  (firstStored now address candidates).Answers Q
    ((candidates.find? (list.contains ·)).getD indexPage)
  := by
  induction candidates with
  | nil => cases last
  | cons path rest ih =>
      have first := answers_stores fixed path
      cases rest with
      | nil =>
          obtain rfl := Option.some.inj last
          have only : (([indexPage].find? (list.contains ·)).getD indexPage) = indexPage := by
            rw [List.find?_singleton]
            split <;> rfl
          rw [only]
          exact first.bind (answers_pure _)
      | cons next rest =>
          apply first.bind
          rw [List.find?_cons]
          cases list.contains path with
          | true => exact answers_pure _
          | false => exact ih last

theorem answers_resolve (requested : String) :
  (resolve now address requested).Answers Q (canonical list requested)
  := by
  rw [← find?_candidates]
  exact answers_firstStored fixed (getLast?_candidates requested)

/-- A listed path is assembled, any other is refused. -/
theorem perform_fetch_of_fixed (path : String) {r : Reader σ} (hr : Q r) :
  ∃ t, Q t ∧ (fetch now address path).perform r
    = if path ∈ list then (onRemote (assemble address path)).perform t
      else (.error (.notFound (.file path)), t)
  := by
  obtain ⟨t, ht, listed⟩ := fixed r hr
  exact ⟨t, ht, by rw [perform_fetch, listed]; rfl⟩

end Fixed

/-- Content is not found for want of a listing only if the remote store says so. -/
theorem assemble_ne_unlisted {path : String}
    (values : ∀ keys (s : σ),
      ((Remote.values address keys).perform s).1 ≠ .error (.notFound (.file path))) (s : σ) :
  ((assemble address path).perform s).1 ≠ .error (.notFound (.file path))
  := by
  have confined : (assemble address path : Action σ _).Confined (fun _ => True)
      (· ≠ .notFound (.file path)) := by
    apply confined_assemble
    · rintro keys s -
      refine ⟨?_, trivial⟩
      rintro _ stopped rfl
      exact values keys s stopped
    · rintro damage ⟨⟩
    · rintro ⟨⟩
  intro stopped
  exact (confined s trivial).1 _ stopped rfl

/-- At two times at which the path list of a website is the same, a requested path is answered by its
canonical path, and this by itself.  It is listed if any path that is tried is, and else it is the
index page.  When it is fetched it is assembled if it is listed and refused if it is not; unless the
remote store refuses it in the same words, this happens exactly if it is the index page and no path
that is tried is listed. -/
theorem resolve_canonical {later : Nat} (fixed : (paths now address).Answers Q list)
    (still : (paths later address).Answers Q list) (requested : String) :
  let path := canonical list requested
  (resolve now address requested).Answers Q path
    ∧ (resolve now address requested >>= resolve later address).Answers Q path
    ∧ (path ∈ list ↔ ∃ tried ∈ candidates requested, tried ∈ list)
    ∧ (path ∉ list → path = indexPage)
    ∧ (∀ r, Q r → ∃ t, Q t ∧ (fetch later address path).perform r
        = if path ∈ list then (onRemote (assemble address path)).perform t
          else (.error (.notFound (.file path)), t))
    ∧ ((∀ keys (s : σ),
          ((Remote.values address keys).perform s).1 ≠ .error (.notFound (.file path))) →
        ∀ r, Q r → (((fetch later address path).perform r).1 = .error (.notFound (.file path))
          ↔ path = indexPage ∧ ∀ tried ∈ candidates requested, tried ∉ list))
  := by
  intro path
  have answer := answers_resolve fixed requested
  have again := answers_resolve still (canonical list requested)
  rw [canonical_canonical] at again
  refine ⟨answer, answer.bind again, canonical_mem_iff, canonical_eq_indexPage,
    fun r hr => perform_fetch_of_fixed still path hr, ?_⟩
  intro values r hr
  have unlisted : path ∉ list ↔ ∀ tried ∈ candidates requested, tried ∉ list := by
    rw [not_congr canonical_mem_iff]
    push Not
    rfl
  obtain ⟨t, -, fetched⟩ := perform_fetch_of_fixed still path hr
  rw [fetched, ← unlisted]
  by_cases listed : path ∈ list
  · rw [if_pos listed]
    constructor
    · intro stopped
      exact absurd stopped (assemble_ne_unlisted values t.remote)
    · rintro ⟨-, unlisted⟩
      exact absurd listed unlisted
  · rw [if_neg listed]
    exact ⟨fun _ => ⟨canonical_eq_indexPage listed, listed⟩, fun _ => rfl⟩

/-- A website of one page that is asked for without the suffix, and for a page that it has not; its
path list is remembered for a second and read anew then. -/
theorem resolve_canonical_page :
  let store := ({} : Datastore).upload "AS1" "about.html" [72, 105] 1
  let lifetime := Clock.seconds 1
  let Q (r : Reader Datastore) := Alike store.Like r r ∧ r.lists.lifetime = lifetime
  let reader : Reader Datastore := ⟨{ lifetime }, store⟩
  let later := Clock.seconds 5
  (paths 0 "AS1").Answers Q ["about.html"] ∧ (paths later "AS1").Answers Q ["about.html"]
    ∧ ((resolve 0 "AS1" "about").perform reader).1 = .ok "about.html"
    ∧ ((resolve 0 "AS1" "gone" >>= resolve later "AS1").perform reader).1 = .ok "index.html"
    ∧ ((fetch later "AS1" "index.html").perform reader).1 = .error (.notFound (.file "index.html"))
  := by
  intro store lifetime Q reader later
  have listed : Lists store.Like "AS1" ["about.html"] := by
    intro s hs
    refine ⟨["about.html"], ?_, by decide⟩
    rw [(store.unchanging.listPaths "AS1" s store ⟨hs, store.like_refl⟩).1]
    decide +kernel
  have fixed : (paths 0 "AS1").Answers Q ["about.html"] :=
    answers_paths_of_unchanging store.unchanging listed (by decide)
  have still : (paths later "AS1").Answers Q ["about.html"] :=
    answers_paths_of_unchanging store.unchanging listed (by decide)
  have known : Q reader := by
    refine ⟨⟨rfl, ?_, store.like_refl, store.like_refl⟩, rfl⟩
    rintro address lease ⟨⟩
  have about : canonical ["about.html"] "about" = "about.html" := by decide +kernel
  have gone : canonical ["about.html"] "gone" = "index.html" := by decide +kernel
  obtain ⟨found, -⟩ := resolve_canonical fixed still "about"
  obtain ⟨-, again, -, -, -, refused⟩ := resolve_canonical fixed still "gone"
  rw [about] at found
  rw [gone] at again refused
  have values (keys : List Octets) (s : Datastore) :
      ((Remote.values "AS1" keys).perform s).1 ≠ .error (.notFound (.file "index.html")) := by
    simp only [Remote.values, perform_ofStep]
    split <;> rintro ⟨⟩
  refine ⟨fixed, still, ?_, ?_, ?_⟩
  · obtain ⟨t, -, ended⟩ := found reader known
    rw [ended]
  · obtain ⟨t, -, ended⟩ := again reader known
    rw [ended]
  · exact (refused values reader known).2 ⟨rfl, by decide +kernel⟩

end Reader

end SiteCache
