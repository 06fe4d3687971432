import SiteCache.Proofs.Site.Chunk
import SiteCache.Proofs.Site.Dating
import SiteCache.Proofs.Site.Key
import SiteCache.Proofs.Site.Reading
import Mathlib.Data.List.Forall2

/-!
# What a website holds

A website in memory holds a content of a path (`Datastore.Holds`) if it has a number of chunks for
the path, as many chunks, and the content is what they are together.  That is what is fetched, and
what an upload leaves, whatever times of deploys are recorded.
-/

namespace SiteCache

open SiteCache.Action Reader

namespace Reader

variable {path : String}

/-- There is a chunk for each index, and none is empty. -/
def Whole (indices : List Nat) (chunks : List Octets) : Prop :=
  chunks.length = indices.length ∧ [] ∉ chunks

theorem wholeChunk_of_filled {i : Nat} {chunk : Octets} (filled : chunk ≠ []) :
  wholeChunk path (i, some chunk) = .ok chunk
  := by
  cases chunk with
  | nil => exact absurd rfl filled
  | cons o rest => rfl

/-- Chunks that are all there are answered. -/
theorem mapM_wholeChunk_of_whole (path : String) {indices : List Nat} {chunks : List Octets}
    (whole : Whole indices chunks) :
  (indices.zip (chunks.map some)).mapM (wholeChunk path) = .ok chunks
  := by
  obtain ⟨aligned, filled⟩ := whole
  induction indices generalizing chunks with
  | nil =>
      obtain rfl := List.length_eq_zero_iff.1 aligned
      rfl
  | cons i indices ih =>
      obtain ⟨chunk, chunks, rfl⟩ := List.exists_cons_of_length_eq_add_one aligned
      rw [List.mem_cons, not_or] at filled
      rw [List.map_cons, List.zip_cons_cons, List.mapM_cons,
        wholeChunk_of_filled (Ne.symm filled.1), ih (Nat.succ.inj aligned) filled.2]
      rfl

end Reader

/-! ### Contents -/

namespace Datastore

variable {d e : Datastore} {address path : String}

/-- The values that a store answers for keys are theirs, one for each. -/
theorem of_perform_aligned {read : Read} {keys : List Octets} {values : List (Option Octets)}
    (ended : (Remote.aligned read address keys).perform d = (.ok values, e)) :
  values = keys.map (d.site address).get? ∧ d.Like e
  := by
  have like := ((unchanging d).aligned read address keys d d ⟨d.like_refl, d.like_refl⟩).2.1
  rw [ended] at like
  refine ⟨?_, like⟩
  obtain ⟨answered, u, asked, ended⟩ := of_perform_bind ended
  simp only [Remote.values, perform_ofStep, Prod.mk.injEq] at asked
  cases offline : d.offline with
  | true =>
      rw [offline] at asked
      cases asked.1
  | false =>
      rw [offline] at asked
      have same := Except.ok.inj asked.1
      by_cases aligned : answered.length = keys.length
      · rw [if_pos aligned] at ended
        obtain rfl := Except.ok.inj (Prod.mk.inj ended).1
        rw [← same] at aligned ⊢
        rw [answer] at aligned ⊢
        by_cases short : 1 < keys.length ∧ d.shortAnswers = true
        · rw [if_pos short, List.length_dropLast, List.length_map] at aligned
          omega
        · rw [if_neg short]
          rfl
      · rw [if_neg aligned] at ended
        cases ended

theorem of_perform_single {key : Octets} {value : Option Octets}
    (ended : (Remote.single address key).perform d = (.ok value, e)) :
  value = (d.site address).get? key ∧ d.Like e
  := by
  obtain ⟨values, u, asked, ended⟩ := of_perform_bind ended
  obtain ⟨rfl, like⟩ := of_perform_aligned asked
  obtain ⟨answer, rfl⟩ := Prod.mk.inj ended
  obtain rfl := Except.ok.inj answer
  exact ⟨by simp, like⟩

/-- The chunk of a path with this index, which is not empty. -/
def Chunked (d : Datastore) (address path : String) (index : Nat) (chunk : Octets) : Prop :=
  (d.site address).get? (SiteKey.chunk path index).encode = some chunk ∧ chunk ≠ []

/-- The store holds this content of a path: the number of its chunks and as many chunks, of which it
consists. -/
def Holds (d : Datastore) (address path : String) (content : Octets) : Prop :=
  ∃ b count chunks, (d.site address).get? (SiteKey.chunkCount path).encode = some b
    ∧ Chunk.decodeCount b = .ok count
    ∧ List.Forall₂ (d.Chunked address path) (List.range count) chunks ∧ chunks.flatten = content

/-- A store holds one content of a path at most. -/
theorem Holds.unique {content content' : Octets} (h : d.Holds address path content)
    (h' : d.Holds address path content') :
  content = content'
  := by
  obtain ⟨b, count, chunks, counted, decoded, chunked, rfl⟩ := h
  obtain ⟨b', count', chunks', counted', decoded', chunked', rfl⟩ := h'
  obtain rfl := Option.some.inj (counted.symm.trans counted')
  obtain rfl := Except.ok.inj (decoded.symm.trans decoded')
  have one : Relator.RightUnique (d.Chunked address path) := by
    intro index chunk chunk' found found'
    exact Option.some.inj (found.1.symm.trans found'.1)
  rw [one.forall₂ chunked chunked']

theorem Like.site (h : d.Like e) (address : String) :
  e.site address = d.site address
  := by
  rw [Datastore.site, h.sites, Datastore.site]

theorem Like.trans {f : Datastore} (h : d.Like e) (h' : e.Like f) :
  d.Like f
  := ⟨h'.sites.trans h.sites, h'.offline.trans h.offline, h'.shortAnswers.trans h.shortAnswers⟩

theorem Like.deployTime_eq (h : d.Like e) (address : String) :
  e.deployTime address = d.deployTime address
  := by
  rw [deployTime, h.site, deployTime]

/-- What a store holds of a path depends on its chunks and their number alone. -/
theorem Holds.congr_file {content : Octets} (h : d.Holds address path content)
    (count : (e.site address).get? (SiteKey.chunkCount path).encode
      = (d.site address).get? (SiteKey.chunkCount path).encode)
    (chunk : ∀ i, (e.site address).get? (SiteKey.chunk path i).encode
      = (d.site address).get? (SiteKey.chunk path i).encode) :
  e.Holds address path content
  := by
  obtain ⟨b, n, chunks, counted, decoded, chunked, whole⟩ := h
  refine ⟨b, n, chunks, count.trans counted, decoded, chunked.imp ?_, whole⟩
  rintro i c ⟨found, nonempty⟩
  exact ⟨(chunk i).trans found, nonempty⟩

/-- What a store holds depends on its websites alone. -/
theorem Holds.congr {content : Octets} (h : d.Holds address path content)
    (same : e.site address = d.site address) :
  e.Holds address path content
  := by
  apply h.congr_file
  · rw [same]
  · intro i
    rw [same]

private theorem chunks_of_mapM_wholeChunk {f : Nat → Option Octets} {indices : List Nat}
    {chunks : List Octets}
    (read : (indices.zip (indices.map f)).mapM (Reader.wholeChunk path) = .ok chunks) :
  List.Forall₂ (fun i chunk => f i = some chunk ∧ chunk ≠ []) indices chunks
  := by
  induction indices generalizing chunks with
  | nil =>
      cases read
      exact .nil
  | cons i indices ih =>
      rw [List.map_cons, List.zip_cons_cons, List.mapM_cons] at read
      obtain ⟨chunk, first, read⟩ := exists_of_bind_eq_ok read
      obtain ⟨rest, later, read⟩ := exists_of_bind_eq_ok read
      cases read
      refine .cons ?_ (ih later)
      rw [Reader.wholeChunk] at first
      split at first
      next o rest found =>
        cases first
        exact ⟨found, List.cons_ne_nil o rest⟩
      next => cases first

/-- A batch that is fetched consists of its chunks. -/
theorem chunks_of_fetchBatch {indices : List Nat} {piece : Octets}
    (ended : (Reader.fetchBatch address path indices).perform d = (.ok piece, e)) :
  d.Like e ∧ ∃ chunks, List.Forall₂ (d.Chunked address path) indices chunks
    ∧ chunks.flatten = piece
  := by
  obtain ⟨values, u, asked, ended⟩ := of_perform_bind ended
  obtain ⟨chunks, v, read, ended⟩ := of_perform_bind ended
  obtain ⟨rfl, like⟩ := of_perform_aligned asked
  obtain ⟨decoded, rfl⟩ := Prod.mk.inj read
  obtain ⟨answer, rfl⟩ := Prod.mk.inj ended
  obtain rfl := Except.ok.inj answer
  rw [List.map_map] at decoded
  exact ⟨like, chunks, chunks_of_mapM_wholeChunk decoded, rfl⟩

/-- Batches that are fetched one after another consist of their chunks. -/
theorem chunks_of_fetchBatches {batches : List (List Nat)} {pieces : List Octets}
    (ended : (batches.mapM (Reader.fetchBatch address path)).perform d = (.ok pieces, e)) :
  d.Like e ∧ ∃ chunks, List.Forall₂ (d.Chunked address path) batches.flatten chunks
    ∧ chunks.flatten = pieces.flatten
  := by
  induction batches generalizing d pieces with
  | nil =>
      obtain ⟨answer, rfl⟩ := Prod.mk.inj ended
      obtain rfl := Except.ok.inj answer
      exact ⟨d.like_refl, [], .nil, rfl⟩
  | cons batch batches ih =>
      rw [List.mapM_cons] at ended
      obtain ⟨piece, u, first, ended⟩ := of_perform_bind ended
      obtain ⟨rest, v, later, ended⟩ := of_perform_bind ended
      obtain ⟨answer, rfl⟩ := Prod.mk.inj ended
      obtain rfl := Except.ok.inj answer
      obtain ⟨like, chunks, chunked, rfl⟩ := chunks_of_fetchBatch first
      obtain ⟨like', chunks', chunked', whole⟩ := ih later
      refine ⟨like.trans like', chunks ++ chunks', ?_, ?_⟩
      · rw [List.flatten_cons]
        apply List.rel_append chunked
        apply chunked'.imp
        rintro i chunk ⟨found, nonempty⟩
        exact ⟨(like.site address) ▸ found, nonempty⟩
      · rw [List.flatten_append, whole, List.flatten_cons]

/-- What is assembled of a path is what the store holds of it. -/
theorem holds_of_assemble {content : Octets}
    (ended : (Reader.assemble address path).perform d = (.ok content, e)) :
  d.Holds address path content
  := by
  obtain ⟨count, u, counted, ended⟩ := of_perform_bind ended
  obtain ⟨pieces, v, fetched, ended⟩ := of_perform_bind ended
  obtain ⟨answer, rfl⟩ := Prod.mk.inj ended
  obtain rfl := Except.ok.inj answer
  obtain ⟨found, w, asked, counted⟩ := of_perform_bind counted
  obtain ⟨rfl, like⟩ := of_perform_single asked
  obtain ⟨-, chunks, chunked, whole⟩ := chunks_of_fetchBatches fetched
  rw [batches_flatten (by decide)] at chunked
  cases found : (d.site address).get? (SiteKey.chunkCount path).encode with
  | none =>
      rw [found] at counted
      cases counted
  | some b =>
      rw [found] at counted
      obtain ⟨decoded, rfl⟩ := Prod.mk.inj counted
      refine ⟨b, count, chunks, found, decoded, chunked.imp ?_, whole⟩
      rintro i chunk ⟨stored, nonempty⟩
      exact ⟨(like.site address) ▸ stored, nonempty⟩

/-- Reading leaves the websites alone, whatever path lists are remembered. -/
theorem like_of_respects {α : Type} {a : Action (Reader Datastore) α} {r : Reader Datastore}
    (h : a.Respects fun r' r'' => r' = r'' ∧ r.remote.Like r'.remote) :
  r.remote.Like (a.perform r).2.remote
  := (h r r ⟨rfl, r.remote.like_refl⟩).2.2

/-- What is retrieved is what the store holds. -/
theorem holds_of_retrieve {r t : Reader Datastore} {now : Nat} {i : Identity} {content : Octets}
    {headers : Headers} (ended : (retrieve now i).perform r = (.ok (content, headers), t)) :
  r.remote.Holds i.address i.resource content
  := by
  obtain ⟨content', u, fetched, ended⟩ := of_perform_bind ended
  obtain ⟨headers', v, found, ended⟩ := of_perform_bind ended
  obtain ⟨answer, -⟩ := Prod.mk.inj ended
  obtain ⟨rfl, rfl⟩ := Prod.mk.inj (Except.ok.inj answer)
  rw [fetch_eq] at fetched
  obtain ⟨stored, w, asked, fetched⟩ := of_perform_bind fetched
  have like := like_of_respects (respects_stores (compatible_eq r.remote.unchanging) now i.address
    i.resource)
  rw [asked] at like
  cases stored with
  | false => cases fetched
  | true =>
      rw [if_pos rfl] at fetched
      obtain ⟨assembled, -⟩ := of_perform_onRemote fetched
      exact (holds_of_assemble (Prod.ext assembled rfl)).congr (like.site i.address).symm

end Datastore

/-! ### Uploads -/

namespace Datastore

variable {d : Datastore} {address path : String}

/-- The store after chunks of a path were written, the first of them with this index. -/
def putChunks (d : Datastore) (address path : String) (first : Nat) (chunks : List Octets) :
    Datastore :=
  (chunks.zipIdx first).foldl (fun d c => d.put address (SiteKey.chunk path c.2).encode c.1) d

theorem putChunks_cons (first : Nat) (chunk : Octets) (chunks : List Octets) :
  d.putChunks address path first (chunk :: chunks)
    = (d.put address (SiteKey.chunk path first).encode chunk).putChunks address path (first + 1)
        chunks
  := rfl

/-- Writing chunks leaves all other keys alone. -/
theorem get?_site_putChunks {key : Octets} {chunks : List Octets} {first : Nat}
    (other : ∀ i, first ≤ i → i < first + chunks.length → (SiteKey.chunk path i).encode ≠ key) :
  ((d.putChunks address path first chunks).site address).get? key = (d.site address).get? key
  := by
  induction chunks generalizing d first with
  | nil => rfl
  | cons chunk chunks ih =>
      rw [List.length_cons] at other
      rw [putChunks_cons, ih, site_put, Table.get?_insert, if_neg]
      · exact other first (Nat.le_refl first) (by omega)
      · intro i low high
        exact other i (by omega) (by omega)

/-- Chunks that were written are stored. -/
theorem chunked_putChunks {chunks : List Octets} {first : Nat}
    (nonempty : ∀ chunk ∈ chunks, chunk ≠ []) (few : first + chunks.length < 4294967296) :
  List.Forall₂ ((d.putChunks address path first chunks).Chunked address path)
    (List.range' first chunks.length) chunks
  := by
  induction chunks generalizing d first with
  | nil => exact .nil
  | cons chunk chunks ih =>
      obtain ⟨filled, nonempty⟩ := List.forall_mem_cons.1 nonempty
      rw [List.length_cons] at few
      rw [putChunks_cons, List.length_cons, List.range'_succ]
      refine .cons ⟨?_, filled⟩ (ih nonempty (by omega))
      rw [get?_site_putChunks, site_put, Table.get?_insert, if_pos rfl]
      intro i low high same
      have := ((SiteKey.encode_chunk_inj (by omega) (by omega)).1 same).2
      omega

theorem upload_eq (d : Datastore) (address path : String) (content : Octets) (size : Nat) :
  d.upload address path content size
    = ((d.put address (SiteKey.location path).encode (Utf8.encode path)).put address
        (SiteKey.chunkCount path).encode
        (Chunk.encodeCount (Chunk.divide content size).length)).putChunks address path 0
      (Chunk.divide content size)
  := rfl

theorem offline_upload (d : Datastore) (address path : String) (content : Octets) (size : Nat) :
  (d.upload address path content size).offline = d.offline
  := by
  rw [upload_eq, putChunks]
  apply List.foldlRecOn (motive := fun e : Datastore => e.offline = d.offline)
  · rfl
  · intro e kept _ _
    exact kept

/-- A store holds the content that was uploaded. -/
theorem holds_upload (d : Datastore) (address path : String) {content : Octets} {size : Nat}
    (nonempty : content ≠ []) (pos : 0 < size)
    (few : (Chunk.divide content size).length < 2147483648) :
  (d.upload address path content size).Holds address path content
  := by
  have divided : Chunk.Divides size content (Chunk.divide content size) :=
    (Chunk.divides_iff pos).2 rfl
  have some : 0 < (Chunk.divide content size).length := by
    apply List.length_pos_iff.2
    intro none
    have whole := divided.whole
    rw [none] at whole
    exact nonempty whole.symm
  rw [upload_eq]
  refine ⟨Chunk.encodeCount (Chunk.divide content size).length, _, Chunk.divide content size, ?_,
    Chunk.decodeCount_encodeCount some few, ?_, divided.whole⟩
  · rw [get?_site_putChunks, site_put, Table.get?_insert, if_pos rfl]
    intro i _ _
    exact SiteKey.encode_chunk_ne_chunkCount path i path
  · rw [List.range_eq_range']
    apply chunked_putChunks
    · exact fun chunk among empty => divided.filled (empty ▸ among)
    · omega

/-- The time of a deploy is no content. -/
theorem Holds.setDeployTime {content : Octets} (h : d.Holds address path content)
    (seconds : Int) :
  (d.setDeployTime address seconds).Holds address path content
  := by
  have other {key : Octets} (file : key.head? = some 0x01) :
      ((d.setDeployTime address seconds).site address).get? key = (d.site address).get? key := by
    rw [Datastore.setDeployTime, setGlobalMetadata, site_put, Table.get?_insert, if_neg]
    rintro rfl
    cases file
  exact h.congr_file (other rfl) fun i => other rfl

end Datastore

end SiteCache
