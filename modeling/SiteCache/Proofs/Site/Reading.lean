import SiteCache.Proofs.Identity
import SiteCache.Proofs.Site.Unchanging

/-!
# Reading a website twice

Once a path list was read it is known (`Reader.Knows`): whoever asks for it again at the same time
is answered the same list, remembered or read anew, and the path lists stay as they are.  So after
a path was resolved, what is retrieved of it is what the remote store has of it at any time
(`Reader.Fixed`).
-/

namespace SiteCache

open SiteCache.Action

namespace PathLists

variable {lists lists' : PathLists} {now : Nat} {address : String} {paths : List String}
  {list : PathList}

/-- A path list is stored if it does not outlast the clock. -/
theorem perform_set (now : Nat) (address : String) (paths : List String) (p : PathLists) :
  (set now address paths).perform p
    = if now + p.lifetime < Clock.finish then
        let list := PathList.ofPaths paths
        let live := p.lists.filter (·.isLive now)
        (.ok list, { p with lists := live.insert address ⟨list, now + p.lifetime⟩ })
      else (.error .clock, p)
  := by
  rw [set, perform_ofStep, Clock.expiry]
  by_cases inTime : now + p.lifetime < Clock.finish
  · simp only [if_pos inTime]
  · simp only [if_neg inTime]

/-- A list is stored with its expiry, and the expired lists are dropped. -/
theorem stored_of_set (ended : (set now address paths).perform lists = (.ok list, lists')) :
  ∃ expires, Clock.expiry now lists.lifetime = .ok expires ∧ list = PathList.ofPaths paths
    ∧ lists' = { lists with
        lists := (lists.lists.filter (·.isLive now)).insert address ⟨list, expires⟩ }
  := by
  simp only [set, perform_ofStep] at ended
  cases expiry : Clock.expiry now lists.lifetime with
  | error fault =>
      rw [expiry] at ended
      cases ended
  | ok expires =>
      rw [expiry] at ended
      obtain ⟨answer, rfl⟩ := Prod.mk.inj ended
      obtain rfl := Except.ok.inj answer
      exact ⟨expires, rfl, rfl, rfl⟩

/-- A list that was stored is the one that is answered then, if any is. -/
theorem get_of_set (ended : (set now address paths).perform lists = (.ok list, lists')) :
  lists'.get now address = none ∨ lists'.get now address = some list
  := by
  obtain ⟨expires, -, -, rfl⟩ := stored_of_set ended
  simp only [get, Table.get?_insert, if_true, Option.filter_some]
  split
  · exact .inr rfl
  · exact .inl rfl

/-- A list that is stored twice at the same time is stored once. -/
theorem set_again (ended : (set now address paths).perform lists = (.ok list, lists')) :
  (set now address paths).perform lists' = (.ok list, lists')
  := by
  obtain ⟨expires, expiry, rfl, rfl⟩ := stored_of_set ended
  simp only [set, perform_ofStep, expiry, Prod.mk.injEq, true_and, PathLists.mk.injEq]
  apply Table.ext_get?
  intro k
  simp only [Table.get?_insert, Table.get?_filter]
  by_cases same : address = k
  · simp only [if_pos same]
  · simp only [if_neg same, Option.filter_filter, Bool.and_self]

end PathLists

namespace Reader

variable {σ : Type} [Remote σ] {P : σ → Prop} {r t : Reader σ} {now : Nat} {address : String}
  {list : PathList}

/-- A remembered list is answered; any other is read anew and stored. -/
theorem perform_paths (now : Nat) (address : String) (r : Reader σ) :
  (paths now address).perform r
    = match r.lists.get now address with
      | some list => (.ok list, r)
      | none =>
        let listed := (listPaths address).perform r.remote
        match listed.1 with
        | .error fault => (.error fault, ⟨r.lists, listed.2⟩)
        | .ok found =>
          let stored := (PathLists.set now address found).perform r.lists
          (stored.1, ⟨stored.2, listed.2⟩)
  := by
  simp only [paths, perform_bind, perform_get]
  cases r.lists.get now address with
  | some list => rfl
  | none =>
      simp only [onRemote, onLists, perform_bind, perform_within]
      rcases (listPaths address).perform r.remote with ⟨fault | found, s⟩ <;> rfl

/-- A list that is not remembered is read, and stored unless it outlasts the clock. -/
theorem perform_paths_of_forgotten (forgotten : r.lists.get now address = none) :
  (paths now address).perform r
    = match (listPaths address).perform r.remote with
      | (.error fault, s) => (.error fault, ⟨r.lists, s⟩)
      | (.ok found, s) =>
        if now + r.lists.lifetime < Clock.finish then
          let list := PathList.ofPaths found
          let live := r.lists.lists.filter (·.isLive now)
          (.ok list,
            ⟨{ r.lists with lists := live.insert address ⟨list, now + r.lists.lifetime⟩ }, s⟩)
        else (.error .clock, ⟨r.lists, s⟩)
  := by
  rw [perform_paths, forgotten]
  rcases (listPaths address).perform r.remote with ⟨fault | found, s⟩
  · rfl
  · simp only [PathLists.perform_set]
    split <;> rfl

/-- The path list of a website is known: it is answered again, and then nothing is changed but the
state of the remote store. -/
structure Knows (P : σ → Prop) (now : Nat) (address : String) (list : PathList) (r : Reader σ) :
    Prop where
  remote : P r.remote
  listed : Lists P address list
  recalls : Recalls P r.lists
  again : ∀ s, P s →
    ∃ s', P s' ∧ (paths now address).perform ⟨r.lists, s⟩ = (.ok list, ⟨r.lists, s'⟩)

theorem Knows.asking (k : Knows P now address list r) {s : σ} (hs : P s) :
  Knows P now address list ⟨r.lists, s⟩
  := ⟨hs, k.listed, k.recalls, k.again⟩

/-- A path list is known after it was read. -/
theorem knows_of_paths (h : Remote.Unchanging P) (alike : Alike P r r)
    (ended : (paths now address).perform r = (.ok list, t)) :
  Knows P now address list t
  := by
  have later := ((compatible_alike h).listed now address r r alike).2
  rw [ended] at later
  obtain ⟨-, recalls, remote, -⟩ := later
  have live : ∀ s : σ, t.lists.get now address = some list →
      (paths now address).perform ⟨t.lists, s⟩ = (.ok list, ⟨t.lists, s⟩) := by
    intro s live
    simp only [paths, perform_bind, perform_get, live, perform_pure]
  simp only [paths, perform_bind, perform_get] at ended
  cases remembered : r.lists.get now address with
  | some kept =>
      rw [remembered] at ended
      obtain ⟨answer, rfl⟩ := Prod.mk.inj ended
      obtain rfl := Except.ok.inj answer
      exact ⟨remote, lists_of_get recalls remembered, recalls,
        fun s hs => ⟨s, hs, live s remembered⟩⟩
  | none =>
      rw [remembered] at ended
      simp only [onRemote, onLists, perform_bind, perform_within] at ended
      rcases listed : (listPaths address).perform r.remote with ⟨fault | found, s'⟩
      · rw [listed] at ended
        cases ended
      rcases stored : (PathLists.set now address found).perform r.lists with ⟨answer, lists⟩
      simp only [listed, stored] at ended
      obtain ⟨rfl, rfl⟩ := Prod.mk.inj ended
      have anew : ∀ s, P s → ((listPaths address).perform s).1 = .ok found := by
        intro s hs
        rw [(h.listPaths address s r.remote ⟨hs, alike.first⟩).1, listed]
      refine ⟨remote, ?_, recalls, ?_⟩
      · obtain ⟨-, -, rfl, -⟩ := PathLists.stored_of_set stored
        exact fun s hs => ⟨found, anew s hs, rfl⟩
      · intro s hs
        rcases PathLists.get_of_set stored with expired | remembered
        · have kept := (h.listPaths address s s ⟨hs, hs⟩).2.1
          have answer := anew s hs
          rcases listed' : (listPaths address).perform s with ⟨answer', s''⟩
          rw [listed'] at answer kept
          obtain rfl : answer' = .ok found := answer
          refine ⟨s'', kept, ?_⟩
          simp only [paths, onRemote, onLists, perform_bind, perform_get, perform_within, expired,
            listed', PathLists.set_again stored]
        · exact ⟨s, hs, live s remembered⟩

/-! ### Resolving -/

private theorem firstStored_cons (path next : String) (rest : List String) :
  firstStored now address (path :: next :: rest) = (do
    if ← stores now address path then pure path
    else firstStored now address (next :: rest) : Action (Reader σ) String)
  := rfl

theorem Knows.stores (k : Knows P now address list r) (path : String) :
  ∃ s, P s ∧ (stores now address path).perform r = (.ok (list.contains path), ⟨r.lists, s⟩)
  := by
  obtain ⟨s, hs, ended⟩ := k.again r.remote k.remote
  refine ⟨s, hs, ?_⟩
  rw [Reader.stores, perform_bind]
  rw [ended]
  rfl

theorem Knows.firstStored (k : Knows P now address list r) (candidates : List String) :
  ∃ path s, P s ∧ (firstStored now address candidates).perform r = (.ok path, ⟨r.lists, s⟩)
  := by
  induction candidates generalizing r with
  | nil => exact ⟨indexPage, r.remote, k.remote, rfl⟩
  | cons path rest ih =>
      obtain ⟨s, hs, ended⟩ := k.stores path
      cases rest with
      | nil =>
          refine ⟨path, s, hs, ?_⟩
          rw [Reader.firstStored, perform_bind, ended]
          rfl
      | cons next rest =>
          rw [firstStored_cons, perform_bind, ended]
          cases list.contains path with
          | true => exact ⟨path, s, hs, rfl⟩
          | false => exact ih (k.asking hs)

theorem knows_of_stores (h : Remote.Unchanging P) (alike : Alike P r r) {path : String}
    {stored : Bool} (ended : (stores now address path).perform r = (.ok stored, t)) :
  ∃ list, Knows P now address list t
  := by
  obtain ⟨list, u, read, ended⟩ := of_perform_bind ended
  obtain ⟨-, rfl⟩ := Prod.mk.inj ended
  exact ⟨list, knows_of_paths h alike read⟩

/-- The path list is known when a path has been found. -/
theorem knows_of_firstStored (h : Remote.Unchanging P) (alike : Alike P r r) {path first : String}
    {rest : List String}
    (ended : (firstStored now address (first :: rest)).perform r = (.ok path, t)) :
  ∃ list, Knows P now address list t
  := by
  cases rest with
  | nil =>
      obtain ⟨stored, u, asked, ended⟩ := of_perform_bind ended
      obtain ⟨-, rfl⟩ := Prod.mk.inj ended
      exact knows_of_stores h alike asked
  | cons next rest =>
      rw [firstStored_cons] at ended
      obtain ⟨stored, u, asked, ended⟩ := of_perform_bind ended
      obtain ⟨list, k⟩ := knows_of_stores h alike asked
      cases stored with
      | true =>
          obtain ⟨-, rfl⟩ := Prod.mk.inj ended
          exact ⟨list, k⟩
      | false =>
          obtain ⟨_, s, hs, again⟩ := k.firstStored (next :: rest)
          obtain ⟨-, rfl⟩ := Prod.mk.inj (again.symm.trans ended)
          exact ⟨list, k.asking hs⟩

/-- The requested path itself is tried first. -/
theorem candidates_eq_cons (requested : String) :
  ∃ rest, candidates requested = requested :: rest
  := by
  simp only [candidates]
  by_cases page : requested.endsWith pageSuffix
  · rw [if_pos page]
    split
    · exact ⟨[], rfl⟩
    · exact ⟨[indexPage], rfl⟩
  · rw [if_neg page]
    split
    · exact ⟨[requested ++ pageSuffix], rfl⟩
    · exact ⟨[requested ++ pageSuffix, indexPage], rfl⟩

theorem knows_of_resolve (h : Remote.Unchanging P) (alike : Alike P r r) {requested path : String}
    (ended : (resolve now address requested).perform r = (.ok path, t)) :
  ∃ list, Knows P now address list t
  := by
  obtain ⟨rest, tried⟩ := candidates_eq_cons requested
  rw [resolve, tried] at ended
  exact knows_of_firstStored h alike ended

theorem mem_of_firstStored {candidates : List String} {path : String}
    (ended : (firstStored now address candidates).perform r = (.ok path, t)) :
  path ∈ indexPage :: candidates
  := by
  induction candidates generalizing r with
  | nil =>
      obtain ⟨answer, -⟩ := Prod.mk.inj ended
      obtain rfl := Except.ok.inj answer
      exact List.mem_cons_self
  | cons first rest ih =>
      cases rest with
      | nil =>
          obtain ⟨stored, u, -, ended⟩ := of_perform_bind ended
          obtain ⟨answer, -⟩ := Prod.mk.inj ended
          obtain rfl := Except.ok.inj answer
          simp
      | cons next rest =>
          rw [firstStored_cons] at ended
          obtain ⟨stored, u, -, ended⟩ := of_perform_bind ended
          cases stored with
          | true =>
              obtain ⟨answer, -⟩ := Prod.mk.inj ended
              obtain rfl := Except.ok.inj answer
              simp
          | false =>
              rcases List.mem_cons.1 (ih ended) with rfl | later
              · exact List.mem_cons_self
              · exact List.mem_cons_of_mem _ (List.mem_cons_of_mem _ later)

private theorem length_encode (s : String) :
  (Utf8.encode s).length = s.utf8ByteSize
  := by
  rw [Utf8.encode, Array.length_toList]
  rfl

theorem indexPage_endsWith :
  indexPage.endsWith pageSuffix = true
  := by decide +kernel

theorem mem_candidates_iff {path requested : String} :
  path ∈ candidates requested
    ↔ path = requested ∨ (¬ requested.endsWith pageSuffix ∧ path = requested ++ pageSuffix)
      ∨ path = indexPage
  := by
  by_cases page : requested.endsWith pageSuffix
  · by_cases index : requested = indexPage
    · simp [candidates, index, indexPage_endsWith]
    · simp [candidates, page, index]
  · by_cases index : requested ++ pageSuffix = indexPage
    · simp [candidates, page, index]
    · simp [candidates, page, index]

/-- A path that was resolved can be encoded if the requested one can be with its suffix. -/
theorem fits_of_resolve {requested path : String}
    (fits : Identity.Fits ⟨address, requested ++ pageSuffix⟩)
    (ended : (resolve now address requested).perform r = (.ok path, t)) :
  Identity.Fits ⟨address, path⟩
  := by
  refine ⟨fits.1, ?_⟩
  have long := fits.2
  simp only [length_encode, String.utf8ByteSize_append] at long ⊢
  have tried : path ∈ candidates requested := by
    rcases List.mem_cons.1 (mem_of_firstStored ended) with same | tried
    · exact mem_candidates_iff.2 (.inr (.inr same))
    · exact tried
  rcases mem_candidates_iff.1 tried with rfl | ⟨-, rfl⟩ | rfl
  · exact Nat.lt_of_le_of_lt (Nat.le_add_right _ _) long
  · rwa [String.utf8ByteSize_append]
  · decide

/-! ### Retrieving -/

/-- The content of a stored path as the remote store has it. -/
def assemble (address path : String) : Action σ Octets := do
  let count ← chunkCount address path
  let pieces ← (batches Remote.batchSize (List.range count)).mapM (fetchBatch address path)
  pure pieces.flatten

/-- Content and headers of a resource as the remote store has them. -/
def retrieve (now : Nat) (i : Identity) : Action (Reader σ) (Octets × Headers) := do
  let content ← fetch now i.address i.resource
  let headers ← onRemote (headers i.address i.resource)
  pure (content, headers)

omit [Remote σ] in
theorem of_perform_onRemote {α : Type} {a : Action σ α} {x : α}
    (ended : (onRemote a).perform r = (.ok x, t)) :
  (a.perform r.remote).1 = .ok x ∧ t = ⟨r.lists, (a.perform r.remote).2⟩
  := by
  obtain ⟨answer, same⟩ := Prod.mk.inj ended
  exact ⟨answer, same.symm⟩

omit [Remote σ] in
private theorem onRemote_bind {α β : Type} (a : Action σ α) (f : α → Action σ β) :
  (onRemote (a >>= f) : Action (Reader σ) β) = onRemote a >>= fun x => onRemote (f x)
  := by
  funext r
  change (onRemote (a >>= f)).perform r = (onRemote a >>= fun x => onRemote (f x)).perform r
  rw [perform_bind]
  simp only [onRemote, perform_within]
  rw [perform_bind]
  rcases a.perform r.remote with ⟨fault | x, s⟩ <;> rfl

/-- A path is fetched from the remote store if it is listed. -/
theorem fetch_eq (now : Nat) (address path : String) :
  fetch now address path = (do
    if ← stores now address path then onRemote (assemble address path)
    else throw (.notFound (.file path)) : Action (Reader σ) Octets)
  := by
  rw [fetch, assemble]
  simp only [onRemote_bind]
  rfl

theorem respects_assemble (h : Remote.Unchanging P) (address path : String) :
  (assemble address path).Respects (Both P)
  := (h.chunkCount address path).bind fun _ =>
    (respects_mapM (h.fetchBatch address path) _).bind fun _ => respects_pure _

theorem respects_retrieve {R : Reader σ → Reader σ → Prop} (h : Remote.Unchanging P)
    (compatible : Compatible P R) (now : Nat) (i : Identity) :
  (retrieve now i).Respects R
  := by
  rw [retrieve, fetch_eq]
  apply Respects.bind
  · apply (respects_stores compatible now _ _).bind
    intro stored
    split
    · exact compatible.asked (respects_assemble h _ _)
    · apply respects_throw
  · intro content
    exact (compatible.asked (h.headers _ _)).bind fun _ => respects_pure _

/-- The resource is listed, and this is its content and these are its headers at any time. -/
structure Fixed (P : σ → Prop) (i : Identity) (content : Octets) (headers : Headers) : Prop where
  listed : ∀ list, Lists P i.address list → list.contains i.resource
  content : ∀ s, P s → ((assemble i.address i.resource).perform s).1 = .ok content
  headers : ∀ s, P s → ((Reader.headers i.address i.resource).perform s).1 = .ok headers

theorem lists_unique {list' : PathList} {s : σ} (hs : P s) (h : Lists P address list)
    (h' : Lists P address list') :
  list = list'
  := by
  obtain ⟨paths, listed, rfl⟩ := h s hs
  obtain ⟨paths', listed', rfl⟩ := h' s hs
  obtain rfl := Except.ok.inj (listed.symm.trans listed')
  rfl

variable {i : Identity} {content : Octets} {headers : Headers}

/-- What is retrieved of a known website is fixed. -/
theorem fixed_of_retrieve (h : Remote.Unchanging P) (k : Knows P now i.address list r)
    (ended : (retrieve now i).perform r = (.ok (content, headers), t)) :
  Fixed P i content headers
  := by
  obtain ⟨content', u, fetched, ended⟩ := of_perform_bind ended
  obtain ⟨headers', v, found, ended⟩ := of_perform_bind ended
  obtain ⟨answer, -⟩ := Prod.mk.inj ended
  obtain ⟨rfl, rfl⟩ := Prod.mk.inj (Except.ok.inj answer)
  rw [fetch_eq] at fetched
  obtain ⟨stored, w, asked, fetched⟩ := of_perform_bind fetched
  obtain ⟨s, hs, ended⟩ := k.stores i.resource
  rw [ended] at asked
  obtain ⟨answer, rfl⟩ := Prod.mk.inj asked
  obtain rfl := Except.ok.inj answer
  cases stored : list.contains i.resource with
  | false =>
      rw [stored] at fetched
      cases fetched
  | true =>
      rw [stored, if_pos rfl] at fetched
      obtain ⟨fetched, same⟩ := of_perform_onRemote fetched
      obtain ⟨found, -⟩ := of_perform_onRemote found
      rw [same] at found
      have later := (respects_assemble h i.address i.resource s s ⟨hs, hs⟩).2.1
      constructor
      · intro list' listed
        rwa [lists_unique hs listed k.listed]
      · intro s' hs'
        rw [(respects_assemble h i.address i.resource s' s ⟨hs', hs⟩).1]
        exact fetched
      · intro s' hs'
        rw [(h.headers i.address i.resource s' _ ⟨hs', later⟩).1]
        exact found

/-- What is fixed is retrieved of a known website. -/
theorem Fixed.retrieve (fixed : Fixed P i content headers) (h : Remote.Unchanging P)
    (k : Knows P now i.address list r) :
  ∃ s, P s ∧ (Reader.retrieve now i).perform r = (.ok (content, headers), ⟨r.lists, s⟩)
  := by
  obtain ⟨s, hs, stored⟩ := k.stores i.resource
  rw [fixed.listed list k.listed] at stored
  have kept := (respects_assemble h i.address i.resource s s ⟨hs, hs⟩).2.1
  have answer := fixed.content s hs
  rcases assembled : (assemble i.address i.resource).perform s with ⟨answer', s'⟩
  rw [assembled] at answer kept
  obtain rfl : answer' = .ok content := answer
  have kept' := (h.headers i.address i.resource s' s' ⟨kept, kept⟩).2.1
  have answer := fixed.headers s' kept
  rcases found : (Reader.headers i.address i.resource).perform s' with ⟨answer', s''⟩
  rw [found] at answer kept'
  obtain rfl : answer' = .ok headers := answer
  refine ⟨s'', kept', ?_⟩
  rw [Reader.retrieve, fetch_eq]
  simp only [perform_bind, stored, if_true, onRemote, perform_within, assembled, found,
    perform_pure]

end Reader

end SiteCache
