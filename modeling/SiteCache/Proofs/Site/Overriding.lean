import SiteCache.Proofs.Site.Transcript
import Mathlib.Data.List.Induction

/-!
# Headers of a website and of its resources

A remote store conforms if it lists certain keys of an address and answers for each key what it
holds (`Remote.Conforms`).  Of a family of header keys the last listed key with a name and a value
counts (`Reader.LastOf`), and the family of a path comes before the family of the website
(`Reader.Overridden`); this is what the headers of the path are, for any listing
(`Reader.headers_overridden`).  If all names are UTF-8 at most one key has a name, and the order of
the listing does not matter.
-/

namespace SiteCache

open SiteCache.Action

namespace Table

variable {κ ν : Type} [LT κ] [DecidableEq κ] [DecidableLT κ] [KeyOrder κ]

/-- Of pairs with the same key the last one counts. -/
theorem get?_ofList (pairs : List (κ × ν)) (k : κ) :
  (ofList pairs).get? k = pairs.reverse.findSome? fun x => if x.1 = k then some x.2 else none
  := by
  induction pairs using List.reverseRecOn with
  | nil => rfl
  | append_singleton pairs x ih =>
      have last : ofList (pairs ++ [x]) = (ofList pairs).insert x.1 x.2 := by
        simp only [ofList, List.foldl_append, List.foldl_cons, List.foldl_nil]
      rw [last, get?_insert, List.reverse_append, List.reverse_singleton, List.singleton_append,
        List.findSome?_cons, ih]
      by_cases same : x.1 = k
      · simp only [if_pos same]
      · simp only [if_neg same]

end Table

/-! ### Stores that conform -/

section Remote

variable {σ : Type} [Remote σ] {P : σ → Prop} {address : String} {listing : List Octets}
  {contents : Octets → Option Octets}

/-- In states with this property, which it keeps, the remote store lists these keys of the address,
and answers for every key what it holds. -/
structure Remote.Conforms (P : σ → Prop) (address : String) (listing : List Octets)
    (contents : Octets → Option Octets) : Prop where
  keys : (Remote.keys address).Answers P listing
  values : ∀ keys, (Remote.values address keys).Answers P (keys.map contents)

theorem Remote.Conforms.aligned (h : Remote.Conforms P address listing contents) (read : Read)
    (keys : List Octets) :
  (Remote.aligned read address keys).Answers P (keys.map contents)
  := by
  apply (h.values keys).bind
  rw [if_pos (List.length_map _)]
  apply answers_pure

end Remote

namespace Reader

variable {σ : Type} [Remote σ] {P : σ → Prop} {address path : String} {listing : List Octets}
  {contents : Octets → Option Octets} {family : Octets → SiteKey} {beginning : Octets} {x : String}

/-! ### Header keys -/

/-- The key of a header in a family of metadata keys. -/
def headerKey (family : Octets → SiteKey) (name : Octets) : Octets :=
  (family (Utf8.encode SiteKey.headerMark ++ name)).encode

/-- The key is of a header in this family, and its name is read as this one. -/
def Names (family : Octets → SiteKey) (x : String) (key : Octets) : Prop :=
  ∃ name, key = headerKey family name ∧ Utf8.lossy name = x

/-- The last key of a header with this name in a family that is listed and has a value has this
one. -/
def LastOf (family : Octets → SiteKey) (listing : List Octets) (contents : Octets → Option Octets)
    (x : String) (value : Octets) : Prop :=
  ∃ before key behind, listing = before ++ key :: behind ∧ Names family x key
    ∧ contents key = some value ∧ ∀ later ∈ behind, Names family x later → contents later = none

/-- A header of a path: its own, or that of the website if it has none. -/
def Overridden (path : String) (listing : List Octets) (contents : Octets → Option Octets)
    (x v : String) : Prop :=
  ∃ value, Utf8.lossy value = v ∧
    (LastOf (.fileMetadata path) listing contents x value
      ∨ (∀ key ∈ listing, Names (.fileMetadata path) x key → contents key = none)
        ∧ LastOf .globalMetadata listing contents x value)

/-- All names of headers of the path and of the website that are listed are UTF-8. -/
def Legible (path : String) (listing : List Octets) : Prop :=
  ∀ key ∈ listing, ∀ name,
    key = headerKey (.fileMetadata path) name ∨ key = headerKey .globalMetadata name →
      ∃ text, Utf8.decode? name = some text

theorem headerKey_file (path : String) (name : Octets) :
  headerKey (.fileMetadata path) name = fileBeginning path ++ name
  := by
  simp only [headerKey, fileBeginning, SiteKey.encode, List.append_assoc]

theorem headerKey_global (name : Octets) :
  headerKey .globalMetadata name = globalBeginning ++ name
  := by
  simp only [headerKey, globalBeginning, SiteKey.encode, List.append_assoc]

theorem names_iff (begins : ∀ name, headerKey family name = beginning ++ name) (key : Octets) :
  Names family x key
    ↔ beginning.isPrefixOf key = true ∧ Utf8.lossy (key.drop beginning.length) = x
  := by
  constructor
  · rintro ⟨name, rfl, rfl⟩
    rw [begins, List.drop_left, List.isPrefixOf_iff_prefix]
    exact ⟨List.prefix_append _ _, rfl⟩
  · rintro ⟨front, named⟩
    obtain ⟨name, rfl⟩ := List.isPrefixOf_iff_prefix.1 front
    rw [List.drop_left] at named
    exact ⟨name, (begins name).symm, named⟩

/-- The value of a key if it has this name. -/
def valueOf (beginning : Octets) (contents : Octets → Option Octets) (x : String) (key : Octets) :
    Option Octets :=
  if beginning.isPrefixOf key = true ∧ Utf8.lossy (key.drop beginning.length) = x then contents key
  else none

theorem valueOf_eq_some_iff (begins : ∀ name, headerKey family name = beginning ++ name)
    (key value : Octets) :
  valueOf beginning contents x key = some value ↔ Names family x key ∧ contents key = some value
  := by
  rw [valueOf, names_iff begins]
  split
  next named => exact (and_iff_right named).symm
  next other => exact ⟨nofun, fun named => absurd named.1 other⟩

theorem valueOf_eq_none_iff (begins : ∀ name, headerKey family name = beginning ++ name)
    (key : Octets) :
  valueOf beginning contents x key = none ↔ (Names family x key → contents key = none)
  := by
  rw [valueOf, names_iff begins]
  split
  next named => exact ⟨fun none _ => none, fun none => none named⟩
  next other => exact ⟨fun _ named => absurd named other, fun _ => rfl⟩

theorem findSome?_valueOf_eq_none_iff
    (begins : ∀ name, headerKey family name = beginning ++ name) :
  listing.reverse.findSome? (valueOf beginning contents x) = none
    ↔ ∀ key ∈ listing, Names family x key → contents key = none
  := by
  rw [List.findSome?_eq_none_iff]
  simp only [List.mem_reverse, valueOf_eq_none_iff begins]

theorem lastOf_iff (begins : ∀ name, headerKey family name = beginning ++ name) (value : Octets) :
  LastOf family listing contents x value
    ↔ listing.reverse.findSome? (valueOf beginning contents x) = some value
  := by
  rw [List.findSome?_eq_some_iff]
  simp only [valueOf_eq_some_iff begins, valueOf_eq_none_iff begins]
  constructor
  · rintro ⟨before, key, behind, rfl, named, found, last⟩
    refine ⟨behind.reverse, key, before.reverse, ?_, ⟨named, found⟩, ?_⟩
    · simp only [List.reverse_append, List.reverse_cons, List.append_assoc, List.singleton_append]
    · simpa only [List.mem_reverse] using last
  · rintro ⟨behind, key, before, split, ⟨named, found⟩, last⟩
    refine ⟨before.reverse, key, behind.reverse, ?_, named, found, ?_⟩
    · rw [← List.reverse_reverse listing, split]
      simp only [List.reverse_append, List.reverse_cons, List.append_assoc, List.singleton_append]
    · simpa only [List.mem_reverse] using last

/-! ### What is read -/

/-- A header that a key and its value are read as. -/
def headerOf (beginning : Octets) (contents : Octets → Option Octets) (key : Octets) :
    Option (String × String) :=
  (contents key).map fun value => (Utf8.lossy (key.drop beginning.length), Utf8.lossy value)

theorem answers_readHeaders (h : Remote.Conforms P address listing contents) (beginning : Octets)
    (keys : List Octets) :
  (readHeaders address beginning keys).Answers P (keys.filterMap (headerOf beginning contents))
  := by
  have paired (batch : List Octets) :
      (do pure (batch.zip (← Remote.aligned .headers address batch)) : Action σ _).Answers P
        (batch.map fun key => (key, contents key)) := by
    apply (h.aligned .headers batch).bind
    have zipped := List.zip_map' (f := id) (g := contents) (l := batch)
    rw [List.map_id] at zipped
    rw [zipped]
    apply answers_pure
  rw [readHeaders]
  apply (answers_mapM fun batch _ => paired batch).bind
  rw [← List.map_flatten, batches_flatten (by decide), List.filterMap_map]
  apply answers_pure

/-- The headers that are read from a listing. -/
def listedHeaders (path : String) (listing : List Octets) (contents : Octets → Option Octets) :
    Headers :=
  .ofList ((listing.filter (globalBeginning.isPrefixOf ·)).filterMap
      (headerOf globalBeginning contents)
    ++ (listing.filter ((fileBeginning path).isPrefixOf ·)).filterMap
      (headerOf (fileBeginning path) contents))

theorem answers_headers (h : Remote.Conforms P address listing contents) (path : String) :
  (headers address path).Answers P (listedHeaders path listing contents)
  := h.keys.bind ((answers_readHeaders h _ _).bind ((answers_readHeaders h _ _).bind
    (answers_pure _)))

/-- Of the headers that are read from keys with this beginning the last one with a name counts. -/
theorem findSome?_headerOf (beginning : Octets) :
  ((listing.filter (beginning.isPrefixOf ·)).filterMap
      (headerOf beginning contents)).reverse.findSome?
        (fun y => if y.1 = x then some y.2 else none)
    = (listing.reverse.findSome? (valueOf beginning contents x)).map Utf8.lossy
  := by
  rw [List.filterMap_filter, ← List.filterMap_reverse, ← List.head?_filterMap,
    List.filterMap_filterMap, List.head?_filterMap, List.map_findSome?]
  congr 1
  funext key
  simp only [headerOf, valueOf, Function.comp_apply]
  by_cases front : beginning.isPrefixOf key = true
  · by_cases named : Utf8.lossy (key.drop beginning.length) = x
    · cases contents key <;> simp [front, named]
    · cases contents key <;> simp [front, named]
  · simp [front]

theorem get?_listedHeaders :
  (listedHeaders path listing contents).get? x
    = ((listing.reverse.findSome? (valueOf (fileBeginning path) contents x)).or
        (listing.reverse.findSome? (valueOf globalBeginning contents x))).map Utf8.lossy
  := by
  rw [listedHeaders, Table.get?_ofList, List.reverse_append, List.findSome?_append,
    findSome?_headerOf, findSome?_headerOf, Option.map_or]

theorem get?_listedHeaders_iff {v : String} :
  (listedHeaders path listing contents).get? x = some v ↔ Overridden path listing contents x v
  := by
  simp only [Overridden, lastOf_iff (headerKey_file path), lastOf_iff headerKey_global,
    ← findSome?_valueOf_eq_none_iff (headerKey_file path), get?_listedHeaders,
    Option.map_eq_some_iff]
  apply exists_congr
  intro value
  rw [and_comm, Option.or_eq_some_iff]

/-! ### The order of the listing -/

/-- A family with UTF-8 names has one key for each name. -/
theorem names_iff_of_legible {key : Octets}
    (legible : ∀ name, key = headerKey family name → ∃ text, Utf8.decode? name = some text) :
  Names family x key ↔ key = headerKey family (Utf8.encode x)
  := by
  constructor
  · rintro ⟨name, rfl, rfl⟩
    obtain ⟨text, decoded⟩ := legible name rfl
    rw [Utf8.lossy_of_decode? decoded, Utf8.encode_of_decode? decoded]
  · rintro rfl
    exact ⟨_, rfl, Utf8.lossy_of_decode? (Utf8.decode?_encode x)⟩

/-- If all names are UTF-8 the last key with a name is the only one. -/
theorem lastOf_iff_of_legible (begins : ∀ name, headerKey family name = beginning ++ name)
    (legible : ∀ key ∈ listing, ∀ name, key = headerKey family name →
      ∃ text, Utf8.decode? name = some text) (value : Octets) :
  LastOf family listing contents x value
    ↔ headerKey family (Utf8.encode x) ∈ listing
      ∧ contents (headerKey family (Utf8.encode x)) = some value
  := by
  have only {value : Octets}
      (last : listing.reverse.findSome? (valueOf beginning contents x) = some value) :
      headerKey family (Utf8.encode x) ∈ listing
        ∧ contents (headerKey family (Utf8.encode x)) = some value := by
    obtain ⟨key, listed, found⟩ := List.exists_of_findSome?_eq_some last
    rw [List.mem_reverse] at listed
    rw [valueOf_eq_some_iff begins, names_iff_of_legible (legible key listed)] at found
    obtain ⟨rfl, found⟩ := found
    exact ⟨listed, found⟩
  rw [lastOf_iff begins]
  constructor
  · exact only
  · rintro ⟨listed, found⟩
    cases last : listing.reverse.findSome? (valueOf beginning contents x) with
    | some other => rw [← found, (only last).2]
    | none =>
        have named : Names family x (headerKey family (Utf8.encode x)) :=
          ⟨_, rfl, Utf8.lossy_of_decode? (Utf8.decode?_encode x)⟩
        have absent := List.findSome?_eq_none_iff.1 last _ (List.mem_reverse.2 listed)
        rw [valueOf_eq_none_iff begins] at absent
        rw [absent named] at found
        cases found

/-- If all names are UTF-8 the order of a listing and its repetitions do not matter. -/
theorem listedHeaders_congr {listing' : List Octets} (legible : Legible path listing)
    (same : ∀ key, key ∈ listing ↔ key ∈ listing') :
  listedHeaders path listing contents = listedHeaders path listing' contents
  := by
  have found {family : Octets → SiteKey} {beginning : Octets} (x : String)
      (begins : ∀ name, headerKey family name = beginning ++ name)
      (legible : ∀ key ∈ listing, ∀ name, key = headerKey family name →
        ∃ text, Utf8.decode? name = some text) :
      listing.reverse.findSome? (valueOf beginning contents x)
        = listing'.reverse.findSome? (valueOf beginning contents x) := by
    apply Option.ext
    intro value
    rw [← lastOf_iff begins, ← lastOf_iff begins, lastOf_iff_of_legible begins legible,
      lastOf_iff_of_legible begins, same]
    exact fun key listed => legible key ((same key).2 listed)
  apply Table.ext_get?
  intro x
  rw [get?_listedHeaders, get?_listedHeaders,
    found x (headerKey_file path) fun key listed name h => legible key listed name (.inl h),
    found x headerKey_global fun key listed name h => legible key listed name (.inr h)]

/-! ### Other keys -/

/-- The keys of headers of a path are metadata keys of paths with its digest. -/
theorem names_file_iff (k : SiteKey) :
  Names (.fileMetadata path) x k.encode
    ↔ ∃ other name, SiteKey.pathDigest other = SiteKey.pathDigest path
        ∧ k = .fileMetadata other (Utf8.encode SiteKey.headerMark ++ name)
        ∧ Utf8.lossy name = x
  := by
  constructor
  · rintro ⟨name, same, named⟩
    cases k with
    | fileMetadata other key =>
        obtain ⟨digest, rfl⟩ := SiteKey.digest_append_inj.1 same
        exact ⟨other, name, digest, rfl, named⟩
    | chunkCount other => cases same
    | chunk other index => cases same
    | location other => cases same
    | globalMetadata key => cases same
  · rintro ⟨other, name, digest, rfl, named⟩
    refine ⟨name, ?_, named⟩
    rw [headerKey, SiteKey.encode, SiteKey.encode, digest]

/-- The keys of headers of a website are metadata keys of the website. -/
theorem names_global_iff (k : SiteKey) :
  Names .globalMetadata x k.encode
    ↔ ∃ name, k = .globalMetadata (Utf8.encode SiteKey.headerMark ++ name) ∧ Utf8.lossy name = x
  := by
  constructor
  · rintro ⟨name, same, named⟩
    cases k with
    | globalMetadata key =>
        obtain rfl := List.append_cancel_left same
        exact ⟨name, rfl, named⟩
    | chunkCount other => cases same
    | chunk other index => cases same
    | location other => cases same
    | fileMetadata other key => cases same
  · rintro ⟨name, rfl, named⟩
    exact ⟨name, rfl, named⟩

/-! ### The result -/

/-- What is answered when headers are read decides the calls and the result. -/
theorem exists_dialogue_headers (address path : String) :
  ∃ T : Dialogue Headers, T.Sound
    ∧ T.Records (σ := σ) (headers address path) (headers address path)
  := by
  have read (beginning : Octets) (keys : List Octets) : ∃ T : Dialogue (List (String × String)),
      T.Sound ∧ T.Records (σ := σ) (readHeaders address beginning keys)
        (readHeaders address beginning keys) := by
    refine ⟨_, ?_, (Dialogue.records_mapM (fun batch => (Dialogue.records_aligned .headers address
      batch).bind fun _ => Dialogue.records_pure _) _).bind fun _ => Dialogue.records_pure _⟩
    exact (Dialogue.sound_each (fun batch => (Dialogue.sound_aligned .headers address batch).next
      fun _ => Dialogue.sound_silent _) _).next fun _ => Dialogue.sound_silent _
  choose T sound records using read
  refine ⟨_, ?_, (Dialogue.records_keys address).bind fun _ => (records _ _).bind fun _ =>
    (records _ _).bind fun _ => Dialogue.records_pure _⟩
  exact (Dialogue.sound_keys address).next fun _ => (sound _ _).next fun _ => (sound _ _).next
    fun _ => Dialogue.sound_silent _

/-- The headers of a path are those that the last listed key with a name and a value gives, keys of
the path before keys of the website; no other key gives a header.  If all names are UTF-8, stores
that list the same keys, in any order and any number of times, give the same headers.  Whatever a
store answers, with a wrong number of values its data are corrupt. -/
theorem headers_overridden {σ σ' : Type} [Remote σ] [Remote σ'] (address path : String) :
  (∀ (P : σ → Prop) listing contents, Remote.Conforms P address listing contents → ∀ s, P s →
      ∃ h t, P t ∧ (headers address path).perform s = (.ok h, t)
        ∧ ∀ x v, h.get? x = some v ↔ Overridden path listing contents x v)
    ∧ (∀ x (k : SiteKey), Names (.fileMetadata path) x k.encode
        ↔ ∃ other name, SiteKey.pathDigest other = SiteKey.pathDigest path
            ∧ k = .fileMetadata other (Utf8.encode SiteKey.headerMark ++ name)
            ∧ Utf8.lossy name = x)
    ∧ (∀ x (k : SiteKey), Names .globalMetadata x k.encode
        ↔ ∃ name, k = .globalMetadata (Utf8.encode SiteKey.headerMark ++ name)
            ∧ Utf8.lossy name = x)
    ∧ (∀ (P : σ → Prop) (P' : σ' → Prop) listing listing' contents,
        Remote.Conforms P address listing contents → Remote.Conforms P' address listing' contents →
        Legible path listing → (∀ key, key ∈ listing ↔ key ∈ listing') → ∀ s s', P s → P' s' →
          ((headers address path).perform s).1 = ((headers address path).perform s').1)
    ∧ ∀ s : σ, ∃ result t log, (headers address path).perform s = (result, t)
        ∧ (headers address path).perform (⟨s, []⟩ : Recorded σ) = (result, ⟨t, log⟩)
        ∧ ((∃ e ∈ log, e.Misaligned) → ∃ damage, result = .error (.corrupt damage))
  := by
  refine ⟨?_, fun _ => names_file_iff, fun _ => names_global_iff, ?_, ?_⟩
  · intro P listing contents conforms s hs
    obtain ⟨t, ht, ended⟩ := answers_headers conforms path s hs
    exact ⟨_, t, ht, ended, fun x v => get?_listedHeaders_iff⟩
  · intro P P' listing listing' contents conforms conforms' legible same s s' hs hs'
    obtain ⟨t, -, ended⟩ := answers_headers conforms path s hs
    obtain ⟨t', -, ended'⟩ := answers_headers conforms' path s' hs'
    rw [ended, ended', listedHeaders_congr legible same]
  · intro s
    obtain ⟨T, sound, records⟩ := exists_dialogue_headers (σ := σ) address path
    obtain ⟨log, said, ended⟩ := records s []
    refine ⟨_, _, log, rfl, ended, ?_⟩
    intro misaligned
    obtain ⟨read, expected, got, stopped⟩ := sound.careful said misaligned
    exact ⟨_, stopped⟩

end Reader

/-- A store that always lists the same keys and answers with the same contents. -/
structure StaticStore where
  listing : List Octets
  contents : Octets → Option Octets

instance : Remote StaticStore where
  values _ keys := .ofStep fun s => (.ok (keys.map s.contents), s)
  keys _ := .ofStep fun s => (.ok s.listing, s)

namespace StaticStore

theorem conforms (s : StaticStore) (address : String) :
  Remote.Conforms (· = s) address s.listing s.contents
  := by
  constructor
  · rintro _ rfl
    exact ⟨_, rfl, rfl⟩
  · rintro keys _ rfl
    exact ⟨_, rfl, rfl⟩

/-- A key of the path without a value gives way to the website, and any other key of the path comes
before that of the website. -/
theorem headers_overridden_static :
  let own (name : String) := Reader.headerKey (.fileMetadata "a") (Utf8.encode name)
  let all (name : String) := Reader.headerKey .globalMetadata (Utf8.encode name)
  let s : StaticStore :=
    ⟨[own "X", own "Y", all "Y", all "X", own "Y"], fun key =>
      if key = own "X" then none
      else if key = own "Y" then some (Utf8.encode "own") else some (Utf8.encode "all")⟩
  Remote.Conforms (· = s) "AS1" s.listing s.contents
    ∧ Reader.Overridden "a" s.listing s.contents "X" "all"
    ∧ Reader.Overridden "a" s.listing s.contents "Y" "own"
  := by
  intro own all s
  obtain ⟨headers, -⟩ := @Reader.headers_overridden StaticStore StaticStore _ _ "AS1" "a"
  obtain ⟨h, t, -, ended, overridden⟩ := headers _ _ _ (s.conforms "AS1") s rfl
  have found (x : String) : (((Reader.headers "AS1" "a").perform s).1.toOption.bind (·.get? x))
      = h.get? x := by
    rw [ended]
    rfl
  refine ⟨s.conforms "AS1", (overridden _ _).1 ?_, (overridden _ _).1 ?_⟩
  · rw [← found]
    decide +kernel
  · rw [← found]
    decide +kernel

end StaticStore

end SiteCache
