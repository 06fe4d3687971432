import SiteCache.Proofs.Site.Contents

/-!
# Deploying and fetching

A website in memory is deployed by publications of resources, of metadata and headers, and of
times, in any order (`Datastore.published`).  Whatever else was published, before or after, a
resource that is fetched has the content that was uploaded last for its path
(`Datastore.fetch_published`).  What is written for a path is told apart from all that is written
otherwise by the tag of its keys and the digest of the path (`SiteKey.digest?_encode`), so that a
resource stays deployed (`Datastore.Deployed.write`); and a store that is available tells everything
it holds (`Datastore.Available.assemble`).
-/

namespace SiteCache

open SiteCache.Action Reader

/-! ### Path lists -/

namespace Table

variable {κ ν : Type} [LT κ] [DecidableEq κ] [KeyOrder κ] {k : κ}

theorem mem_keys_iff (t : Table κ ν) :
  k ∈ t.keys ↔ ∃ v, t.get? k = some v
  := by
  rw [keys, List.mem_map]
  constructor
  · rintro ⟨⟨_, v⟩, found, rfl⟩
    exact ⟨v, (mem_entries_iff t _ v).1 found⟩
  · rintro ⟨v, found⟩
    exact ⟨(k, v), (mem_entries_iff t k v).2 found, rfl⟩

variable [DecidableLT κ]

/-- What is in a table or among the pairs that are put into it has a value then. -/
theorem mem_keys_foldl_insert {pairs : List (κ × ν)} {t : Table κ ν}
    (h : k ∈ t.keys ∨ k ∈ pairs.map Prod.fst) :
  k ∈ (pairs.foldl (fun t x => t.insert x.1 x.2) t).keys
  := by
  induction pairs generalizing t with
  | nil => simpa using h
  | cons x pairs ih =>
      rw [List.foldl_cons]
      apply ih
      rw [mem_keys_iff] at h ⊢
      simp only [get?_insert]
      by_cases same : x.1 = k
      · exact .inl ⟨x.2, if_pos same⟩
      · simp only [if_neg same]
        apply h.imp_right
        intro among
        exact (List.mem_cons.1 among).resolve_left (Ne.symm same)

end Table

/-- A path list contains the paths that it is made of. -/
theorem PathList.mem_ofPaths {path : String} {paths : List String} (h : path ∈ paths) :
  path ∈ PathList.ofPaths paths
  := by
  apply Table.mem_keys_foldl_insert
  right
  simpa using h

/-! ### The families of keys -/

namespace SiteKey

/-- The path whose content or location is under the key. -/
def contentPath? : SiteKey → Option String
  | chunkCount path => some path
  | chunk path _ => some path
  | location path => some path
  | fileMetadata _ _ => none
  | globalMetadata _ => none

/-- The digest in the octets of a key of a content or a location. -/
def digest? (b : Octets) : Option Octets :=
  if b.head? = fileTag.head? then some ((b.drop fileTag.length).take 32)
  else if b.head? = locationTag.head? then some ((b.drop locationTag.length).take 32)
  else none

theorem digest?_file (behind : Octets) :
  digest? (fileTag ++ behind) = some (behind.take 32)
  := by
  rw [digest?, if_pos (by rfl), List.drop_left]

theorem digest?_location (behind : Octets) :
  digest? (locationTag ++ behind) = some (behind.take 32)
  := by
  rw [digest?, if_neg, if_pos (by rfl), List.drop_left]
  change ¬ locationTag.head? = fileTag.head?
  decide

/-- The octets of a key tell whose content or location is under it, by the digest of the path. -/
theorem digest?_encode (k : SiteKey) :
  digest? k.encode = k.contentPath?.map pathDigest
  := by
  have front (path : String) (behind : Octets) :
      (pathDigest path ++ behind).take 32 = pathDigest path := by
    apply List.take_left'
    exact Digest.length_sha256 _
  cases k with
  | chunkCount path =>
      rw [encode, List.append_assoc, digest?_file, front]
      rfl
  | chunk path index =>
      rw [encode, List.append_assoc, List.append_assoc, digest?_file, front]
      rfl
  | location path =>
      have whole := front path []
      rw [List.append_nil] at whole
      rw [encode, digest?_location, whole]
      rfl
  | fileMetadata path key => rfl
  | globalMetadata key => rfl

end SiteKey

/-! ### Reading an available store -/

namespace Datastore

variable {α β : Type} {d : Datastore} {address path : String}

/-- The store answers every call, and with as many values as it is asked for. -/
structure Available (d : Datastore) : Prop where
  online : d.offline = false
  aligned : d.shortAnswers = false

/-- Whatever was asked before, the action answers this of the websites and leaves them alone. -/
def Tells (d : Datastore) (a : Action Datastore α) (x : α) : Prop :=
  ∀ e, d.Like e → ∃ f, d.Like f ∧ a.perform e = (.ok x, f)

theorem tells_pure (x : α) :
  d.Tells (pure x) x
  := answers_pure x

theorem Tells.bind {a : Action Datastore α} {f : α → Action Datastore β} {x : α} {y : β}
    (h : d.Tells a x) (next : d.Tells (f x) y) :
  d.Tells (a >>= f) y
  := Answers.bind h next

theorem tells_mapM {f : α → Action Datastore β} {g : α → β} {xs : List α}
    (h : ∀ x ∈ xs, d.Tells (f x) (g x)) :
  d.Tells (xs.mapM f) (xs.map g)
  := answers_mapM h

theorem tells_ofExcept {answer : Except Fault α} {x : α} (h : answer = .ok x) :
  d.Tells (.ofExcept answer) x
  := by
  subst h
  exact fun e like => ⟨e, like, rfl⟩

/-- The paths that the location keys of a website hold. -/
def located (d : Datastore) (address : String) : List String :=
  (((d.site address).keys.filter SiteKey.isLocation).filterMap (d.site address).get?).map Utf8.lossy

theorem mem_located
    (listed : (d.site address).get? (SiteKey.location path).encode = some (Utf8.encode path)) :
  path ∈ d.located address
  := by
  have decoded : Utf8.lossy (Utf8.encode path) = path :=
    Utf8.lossy_of_decode? (Utf8.decode?_encode path)
  refine List.mem_map.2 ⟨Utf8.encode path, List.mem_filterMap.2 ⟨_, ?_, listed⟩, decoded⟩
  refine List.mem_filter.2 ⟨?_, SiteKey.isLocation_location path⟩
  exact (Table.mem_keys_iff _).2 ⟨_, listed⟩

namespace Available

theorem keys (h : d.Available) (address : String) :
  d.Tells (Remote.keys address) (d.site address).keys
  := by
  intro e like
  refine ⟨{ e with keyCalls := e.keyCalls + 1 }, ⟨like.sites, like.offline, like.shortAnswers⟩, ?_⟩
  have online : e.offline = false := like.offline.trans h.online
  simp only [Remote.keys, perform_ofStep, online, Bool.false_eq_true, if_false]
  rw [← like.site address]
  rfl

theorem answers (h : d.Available) (address : String) (keys : List Octets) :
  d.Tells (Remote.values address keys) (keys.map (d.site address).get?)
  := by
  intro e like
  have online : e.offline = false := like.offline.trans h.online
  have aligned : e.shortAnswers = false := like.shortAnswers.trans h.aligned
  refine ⟨{ e with valueCalls := e.valueCalls + 1, keysAsked := e.keysAsked + keys.length },
    ⟨like.sites, like.offline, like.shortAnswers⟩, ?_⟩
  rw [← like.site address]
  simp only [Remote.values, perform_ofStep, online, Bool.false_eq_true, if_false, answer, aligned,
    and_false]
  rfl

theorem values (h : d.Available) (read : Read) (address : String) (keys : List Octets) :
  d.Tells (Remote.aligned read address keys) (keys.map (d.site address).get?)
  := by
  apply (h.answers address keys).bind
  rw [if_pos (List.length_map _)]
  apply tells_pure

theorem single (h : d.Available) (address : String) (key : Octets) :
  d.Tells (Remote.single address key) ((d.site address).get? key)
  := by
  have one : d.Tells (Remote.single address key) ([key].map (d.site address).get?).head?.join :=
    (h.values .single address [key]).bind (tells_pure _)
  exact one

/-- The paths of a website are those that it locates. -/
theorem listPaths (h : d.Available) (address : String) :
  d.Tells (Reader.listPaths address) (d.located address)
  := by
  rw [Reader.listPaths]
  apply (h.keys address).bind
  apply Tells.bind (tells_mapM fun keys _ => h.values .paths address keys)
  rw [← List.map_flatten, batches_flatten (by decide), List.filterMap_map, Function.id_comp]
  exact tells_pure _

/-- Chunks that are stored are fetched. -/
theorem fetchBatch (h : d.Available) {chunk : Nat → Octets} {indices : List Nat}
    (stored : ∀ i ∈ indices, d.Chunked address path i (chunk i)) :
  d.Tells (Reader.fetchBatch address path indices) (indices.map chunk).flatten
  := by
  have values : (indices.map fun i => (SiteKey.chunk path i).encode).map (d.site address).get?
      = indices.map fun i => some (chunk i) := by
    rw [List.map_map]
    apply List.map_congr_left
    intro i hi
    exact (stored i hi).1
  have whole : (indices.zip (indices.map fun i => some (chunk i))).mapM (Reader.wholeChunk path)
      = .ok (indices.map chunk) := by
    have all : Whole indices (indices.map chunk) := by
      refine ⟨List.length_map _, ?_⟩
      rw [List.mem_map]
      rintro ⟨i, hi, empty⟩
      exact (stored i hi).2 empty
    have found := mapM_wholeChunk_of_whole path all
    rwa [List.map_map] at found
  have read := h.values .chunks address (indices.map fun i => (SiteKey.chunk path i).encode)
  rw [values] at read
  exact read.bind ((tells_ofExcept whole).bind (tells_pure _))

/-- What the store holds of a path is assembled. -/
theorem assemble (h : d.Available) {content : Octets} (held : d.Holds address path content) :
  d.Tells (Reader.assemble address path) content
  := by
  obtain ⟨b, count, chunks, counted, decoded, chunked, rfl⟩ := held
  have counts : d.Tells (Reader.chunkCount address path) count := by
    apply (h.single address _).bind
    rw [counted]
    exact tells_ofExcept decoded
  let chunk (i : Nat) : Octets := ((d.site address).get? (SiteKey.chunk path i).encode).getD []
  have same : (List.range count).map chunk = chunks := by
    rw [← List.forall₂_eq_eq_eq, List.forall₂_map_left_iff]
    apply chunked.imp
    rintro i c ⟨found, -⟩
    simp only [chunk, found, Option.getD_some]
  rw [← same, List.forall₂_map_right_iff, List.forall₂_same] at chunked
  have whole : (batches Remote.batchSize (List.range count)).flatten = List.range count :=
    batches_flatten (by decide) _
  apply counts.bind
  apply Tells.bind (tells_mapM (g := fun indices => (indices.map chunk).flatten) ?_)
  · have pieces : ((batches Remote.batchSize (List.range count)).map fun indices =>
        (indices.map chunk).flatten).flatten = chunks.flatten := by
      rw [← same, ← whole, List.map_flatten, List.flatten_flatten, List.map_map, whole]
      rfl
    rw [pieces]
    exact tells_pure _
  · intro indices hb
    apply h.fetchBatch
    intro i hi
    apply chunked i
    rw [← whole]
    exact List.mem_flatten_of_mem hb hi

end Available

end Datastore

/-! ### Deployments -/

/-- What a deployment writes: a resource, metadata of a website or of a resource, a header of
either, or the time. -/
inductive Publication where
  | upload (address path : String) (content : Octets) (chunkSize : Nat)
  | globalMetadata (address key value : String)
  | fileMetadata (address path key value : String)
  | globalHeader (address name value : String)
  | fileHeader (address path name value : String)
  | deployTime (address : String) (seconds : Int)

namespace Publication

def address : Publication → String
  | upload address _ _ _ => address
  | globalMetadata address _ _ => address
  | fileMetadata address _ _ _ => address
  | globalHeader address _ _ => address
  | fileHeader address _ _ _ => address
  | deployTime address _ => address

/-- The path whose content is written. -/
def path? : Publication → Option String
  | upload _ path _ _ => some path
  | _ => none

/-- The store after something was written. -/
def write (d : Datastore) : Publication → Datastore
  | upload address path content chunkSize => d.upload address path content chunkSize
  | globalMetadata address key value => d.setGlobalMetadata address key value
  | fileMetadata address path key value => d.setFileMetadata address path key value
  | globalHeader address name value => d.setGlobalHeader address name value
  | fileHeader address path name value => d.setFileHeader address path name value
  | deployTime address seconds => d.setDeployTime address seconds

/-- The keys that are written, with their values, in order. -/
def entries : Publication → List (SiteKey × Octets)
  | upload _ path content chunkSize =>
    let chunks := Chunk.divide content chunkSize
    (.location path, Utf8.encode path) :: (.chunkCount path, Chunk.encodeCount chunks.length)
      :: chunks.zipIdx.map fun c => (.chunk path c.2, c.1)
  | globalMetadata _ key value => [(.globalMetadata (Utf8.encode key), Utf8.encode value)]
  | fileMetadata _ path key value => [(.fileMetadata path (Utf8.encode key), Utf8.encode value)]
  | globalHeader _ name value =>
    [(.globalMetadata (Utf8.encode (SiteKey.headerMark ++ name)), Utf8.encode value)]
  | fileHeader _ path name value =>
    [(.fileMetadata path (Utf8.encode (SiteKey.headerMark ++ name)), Utf8.encode value)]
  | deployTime _ seconds =>
    [(.globalMetadata (Utf8.encode SiteKey.deployTimeKey), Utf8.encode (toString seconds))]

theorem write_eq (d : Datastore) (p : Publication) :
  p.write d = p.entries.foldl (fun d x => d.put p.address x.1.encode x.2) d
  := by
  cases p with
  | upload address path content chunkSize =>
      rw [write, entries, List.foldl_cons, List.foldl_cons, List.foldl_map]
      rfl
  | globalMetadata address key value => rfl
  | fileMetadata address path key value => rfl
  | globalHeader address name value => rfl
  | fileHeader address path name value => rfl
  | deployTime address seconds => rfl

/-- Contents and locations are written for the path alone. -/
theorem contentPath?_of_mem_entries {p : Publication} {x : SiteKey × Octets} (h : x ∈ p.entries) :
  x.1.contentPath? = p.path?
  := by
  cases p with
  | upload address path content chunkSize =>
      rw [entries, List.mem_cons, List.mem_cons, List.mem_map] at h
      obtain rfl | rfl | ⟨c, -, rfl⟩ := h <;> rfl
  | globalMetadata address key value => obtain rfl := List.mem_singleton.1 h; rfl
  | fileMetadata address path key value => obtain rfl := List.mem_singleton.1 h; rfl
  | globalHeader address name value => obtain rfl := List.mem_singleton.1 h; rfl
  | fileHeader address path name value => obtain rfl := List.mem_singleton.1 h; rfl
  | deployTime address seconds => obtain rfl := List.mem_singleton.1 h; rfl

end Publication

namespace Datastore

variable {d : Datastore} {address path : String}

theorem site_put_of_ne {other : String} (apart : other ≠ address) (d : Datastore)
    (key value : Octets) :
  (d.put other key value).site address = d.site address
  := by
  rw [put, site, Table.get?_insert, if_neg apart]
  rfl

/-- Writing entries leaves all other keys alone. -/
theorem get?_site_foldl_put {entries : List (SiteKey × Octets)} {key : Octets} {target : String}
    (other : target = address → ∀ x ∈ entries, x.1.encode ≠ key) :
  ((entries.foldl (fun d x => d.put target x.1.encode x.2) d).site address).get? key
    = (d.site address).get? key
  := by
  induction entries generalizing d with
  | nil => rfl
  | cons x entries ih =>
      rw [List.foldl_cons, ih fun same y hy => other same y (List.mem_cons_of_mem _ hy)]
      by_cases same : target = address
      · subst same
        rw [site_put, Table.get?_insert, if_neg (other rfl x List.mem_cons_self)]
      · rw [site_put_of_ne same]

/-- The store after publications, from the empty one on. -/
def published (publications : List Publication) : Datastore :=
  publications.foldl (fun d p => p.write d) {}

/-- A content under its path is left alone by what is written for other paths. -/
theorem get?_site_write {k : SiteKey} {p : Publication} (content : k.contentPath? = some path)
    (other : p.address = address →
      ∀ q ∈ p.path?, SiteKey.pathDigest q ≠ SiteKey.pathDigest path) :
  ((p.write d).site address).get? k.encode = (d.site address).get? k.encode
  := by
  rw [Publication.write_eq]
  apply get?_site_foldl_put
  intro same x hx collide
  have digests := congrArg SiteKey.digest? collide
  rw [SiteKey.digest?_encode, SiteKey.digest?_encode, Publication.contentPath?_of_mem_entries hx,
    content] at digests
  obtain ⟨q, written, digest⟩ := Option.map_eq_some_iff.1 digests
  exact other same q written digest

/-- The store holds a content of a path, and the path is listed. -/
structure Deployed (d : Datastore) (address path : String) (content : Octets) : Prop where
  available : d.Available
  holds : d.Holds address path content
  listed : (d.site address).get? (SiteKey.location path).encode = some (Utf8.encode path)

theorem Available.write (h : d.Available) (p : Publication) :
  (p.write d).Available
  := by
  rw [Publication.write_eq]
  apply List.foldlRecOn (motive := Available)
  · exact h
  · intro e kept x _
    exact ⟨kept.online, kept.aligned⟩

theorem available_published (publications : List Publication) :
  (published publications).Available
  := by
  apply List.foldlRecOn (motive := Available)
  · exact ⟨rfl, rfl⟩
  · intro d kept p _
    exact kept.write p

/-- A resource that is uploaded is deployed, whatever was there before. -/
theorem Available.upload (h : d.Available) (address path : String) {content : Octets} {size : Nat}
    (nonempty : content ≠ []) (pos : 0 < size)
    (few : (Chunk.divide content size).length < 2147483648) :
  (d.upload address path content size).Deployed address path content
  := by
  have available := h.write (.upload address path content size)
  refine ⟨available, holds_upload d address path nonempty pos few, ?_⟩
  rw [upload_eq, get?_site_putChunks, site_put, Table.get?_insert, if_neg, site_put,
    Table.get?_insert, if_pos rfl]
  · intro same
    cases SiteKey.firstOctet_eq_of_encode_eq same
  · intro i _ _ same
    cases SiteKey.firstOctet_eq_of_encode_eq same

/-- A resource stays deployed when something else is written. -/
theorem Deployed.write {content : Octets} (h : d.Deployed address path content) {p : Publication}
    (other : p.address = address →
      ∀ q ∈ p.path?, SiteKey.pathDigest q ≠ SiteKey.pathDigest path) :
  (p.write d).Deployed address path content
  := by
  refine ⟨h.available.write p, h.holds.congr_file ?_ fun i => ?_, ?_⟩
  · exact get?_site_write rfl other
  · exact get?_site_write rfl other
  · exact (get?_site_write rfl other).trans h.listed

/-- The paths of a website are read anew where none are remembered. -/
theorem Available.paths (h : d.Available) {now lifetime : Nat}
    (inTime : now + lifetime < Clock.finish) (address : String) :
  ∃ lists e, d.Like e ∧ (Reader.paths now address).perform ⟨{ lifetime }, d⟩
    = (.ok (PathList.ofPaths (d.located address)), ⟨lists, e⟩)
  := by
  obtain ⟨e, like, read⟩ := h.listPaths address d d.like_refl
  have forgotten : ({ lifetime } : PathLists).get now address = none := rfl
  obtain ⟨lists, stored⟩ : ∃ lists, (PathLists.set now address (d.located address)).perform
      { lifetime } = (.ok (PathList.ofPaths (d.located address)), lists) := by
    simp only [PathLists.set, perform_ofStep, Clock.expiry, if_pos inTime]
    exact ⟨_, rfl⟩
  refine ⟨lists, e, like, ?_⟩
  simp only [Reader.paths, perform_bind, perform_get, forgotten, onRemote, onLists, perform_within,
    read, stored]

/-- A deployed resource is fetched. -/
theorem Deployed.fetch {content : Octets} (h : d.Deployed address path content) {now lifetime : Nat}
    (inTime : now + lifetime < Clock.finish) :
  ((Reader.fetch now address path).perform ⟨{ lifetime }, d⟩).1 = .ok content
  := by
  obtain ⟨lists, e, like, read⟩ := h.available.paths inTime address
  obtain ⟨f, -, assembled⟩ := h.available.assemble h.holds e like
  have stored : (PathList.ofPaths (d.located address)).contains path = true :=
    List.contains_iff_mem.2 (PathList.mem_ofPaths (mem_located h.listed))
  simp only [fetch_eq, stores, perform_bind, read, perform_pure, stored, if_true, onRemote,
    perform_within, assembled]

/-- What was uploaded last for a path is fetched, whatever was published before it, and whatever else
is published after it for paths that the digest tells apart from this one.  No list of paths is
remembered, and the clock does not run out. -/
theorem fetch_published {before later : List Publication} {address path : String}
    {content : Octets} {size : Nat} (nonempty : content ≠ []) (pos : 0 < size)
    (few : (Chunk.divide content size).length < 2147483648)
    (last : ∀ p ∈ later, p.address = address → p.path? ≠ some path)
    (distinct : ∀ p ∈ later, ∀ q ∈ p.path?,
      SiteKey.pathDigest q = SiteKey.pathDigest path → q = path)
    {now lifetime : Nat} (inTime : now + lifetime < Clock.finish) :
  let d := published (before ++ .upload address path content size :: later)
  ((Reader.fetch now address path).perform ⟨{ lifetime }, d⟩).1 = .ok content
  := by
  intro d
  have deployed : d.Deployed address path content := by
    simp only [d, published, List.foldl_append, List.foldl_cons]
    apply List.foldlRecOn (motive := fun d : Datastore => d.Deployed address path content)
    · exact (available_published before).upload address path nonempty pos few
    · intro e kept p hp
      apply kept.write
      intro same q written collide
      obtain rfl := distinct p hp q written collide
      exact last p hp same written
  exact deployed.fetch inTime

/-- What is deployed before and after a resource: a longer content of it, metadata, another
resource, and the same path of another website. -/
def Publication.surroundings : List Publication × List Publication :=
  ([.upload "X" "a" [1, 2, 3, 4, 5] 2, .globalHeader "X" "Cache-Control" "no-store",
      .deployTime "X" 7],
    [.fileMetadata "X" "a" "key" "value", .fileHeader "X" "a" "Vary" "*",
      .upload "X" "b" [9] 64, .upload "Y" "a" [] 1, .globalMetadata "X" "key" "value",
      .deployTime "X" 8])

/-- A shorter content is fetched once it was deployed. -/
theorem fetch_published_shorter :
  let d := published (Publication.surroundings.1
    ++ .upload "X" "a" [6, 7, 8] 2 :: Publication.surroundings.2)
  ((Reader.fetch 5 "X" "a").perform ⟨{ lifetime := 10 }, d⟩).1 = .ok [6, 7, 8]
  := fetch_published (by decide) (by decide) (by decide +kernel) (by decide) (by decide +kernel)
    (by decide)

end Datastore

end SiteCache
