import SiteCache.Proofs.Site.Transcript
import Mathlib.Data.List.Nodup

/-!
# Fetching from any remote store

What is fetched from a remote store is decided by its answers, call after call: a path list is
remembered or read (`Reader.Listing`), the number of chunks is read (`Reader.Counting`), and the
chunks are asked for until one is missing (`Reader.Chunking`).  If nothing is wrong the content is
complete (`Reader.Complete`), else the first problem decides (`Reader.FirstProblem`), and there is
no third case, whatever the remote store is (`Reader.fetch_decided`).
-/

namespace SiteCache

open SiteCache.Action

namespace Reader

variable {σ : Type} [Remote σ] {lists : PathLists} {now : Nat} {address path : String}

/-! ### What is asked and answered -/

/-- The path list of a website is remembered, or read from the location keys among its keys. -/
inductive Listing (lists : PathLists) (now : Nat) (address : String) : Dialogue PathList
  | remembered {list : PathList} (live : lists.get now address = some list) :
    Listing lists now address [] (.ok list)
  | unanswered (forgotten : lists.get now address = none) (fault : Fault) :
    Listing lists now address [.keys address (.error fault)] (.error fault)
  | read (forgotten : lists.get now address = none) {keys : List Octets}
      {calls : List (List Octets)} (called : Calls (keys.filter SiteKey.isLocation) calls)
      {log : List Exchange} {answers : Except Fault (List (List (Option Octets)))}
      (sweep : Sweep (fun call values => values.length = call.length)
        (fun call values => .values address call (.ok values))
        (Exchange.Problem .paths address) calls log answers) :
    Listing lists now address (.keys address (.ok keys) :: log)
      (answers.map fun values => .ofPaths ((values.flatten.filterMap id).map Utf8.lossy))

/-- A call for the number of chunks that is answered with this value. -/
def countAnswer (address path : String) (value : Option Octets) : Exchange :=
  .values address [(SiteKey.chunkCount path).encode] (.ok [value])

/-- The number of chunks of a path is read from its record. -/
inductive Counting (address path : String) : Dialogue Nat
  | unanswered {e : Exchange} {fault : Fault}
      (problem : Exchange.Problem .single address [(SiteKey.chunkCount path).encode] e fault) :
    Counting address path [e] (.error fault)
  | absent :
    Counting address path [countAnswer address path none] (.error (.notFound (.chunkCount path)))
  | width {record : Octets} (wrong : record.length ≠ 4) :
    Counting address path [countAnswer address path (some record)]
      (.error (.corrupt (.countWidth record.length)))
  | value {record : Octets} (right : record.length = 4) (low : Chunk.signedWord record ≤ 0) :
    Counting address path [countAnswer address path (some record)]
      (.error (.corrupt (.countValue (Chunk.signedWord record))))
  | counted {record : Octets} (right : record.length = 4) {count : Nat} (positive : 0 < count)
      (word : Chunk.signedWord record = count) :
    Counting address path [countAnswer address path (some record)] (.ok count)

/-- The first of some chunks that is absent or empty has this index. -/
inductive FirstEmpty : List Nat → List (Option Octets) → Nat → Prop
  | here {i : Nat} {indices : List Nat} {value : Option Octets} {values : List (Option Octets)}
      (empty : value.getD [] = []) :
    FirstEmpty (i :: indices) (value :: values) i
  | later {i j : Nat} {indices : List Nat} {chunk : Octets} {values : List (Option Octets)}
      (filled : chunk ≠ []) (rest : FirstEmpty indices values j) :
    FirstEmpty (i :: indices) (some chunk :: values) j

/-- The keys of chunks. -/
def chunkKeys (path : String) (indices : List Nat) : List Octets :=
  indices.map fun i => (SiteKey.chunk path i).encode

/-- A call for chunks that is answered with these. -/
def wholeAnswer (address path : String) (indices : List Nat) (chunks : List Octets) : Exchange :=
  .values address (chunkKeys path indices) (.ok (chunks.map some))

/-- What is wrong with an answer to a call for chunks. -/
inductive ChunkProblem (address path : String) (indices : List Nat) : Exchange → Fault → Prop
  | unanswered {e : Exchange} {fault : Fault}
      (problem : Exchange.Problem .chunks address (chunkKeys path indices) e fault) :
    ChunkProblem address path indices e fault
  | empty {values : List (Option Octets)} (aligned : values.length = indices.length) {i : Nat}
      (first : FirstEmpty indices values i) :
    ChunkProblem address path indices (.values address (chunkKeys path indices) (.ok values))
      (.corrupt (.emptyChunk i path))

/-- As many chunks as were counted are asked for, and the content is what they are together. -/
inductive Chunking (address path : String) (count : Nat) : Dialogue Octets
  | asked {calls : List (List Nat)} (called : Calls (List.range count) calls)
      {log : List Exchange} {answers : Except Fault (List (List Octets))}
      (sweep : Sweep Whole (wholeAnswer address path) (ChunkProblem address path) calls log
        answers) :
    Chunking address path count log (answers.map fun chunks => chunks.flatten.flatten)

/-- Nothing is wrong: the path is listed, its chunks are counted, and all of them are there. -/
inductive Complete (lists : PathLists) (now : Nat) (address path : String) (count : Nat) :
    List Exchange → Octets → Prop
  | intro {front middle behind : List Exchange} {list : PathList} {content : Octets}
      (listing : Listing lists now address front (.ok list)) (listed : path ∈ list)
      (counting : Counting address path middle (.ok count))
      (chunking : Chunking address path count behind (.ok content)) :
    Complete lists now address path count (front ++ middle ++ behind) content

/-- The first problem: no path list, a path that is not listed, no number of chunks, or a problem
with the chunks. -/
inductive FirstProblem (lists : PathLists) (now : Nat) (address path : String) :
    List Exchange → Fault → Prop
  | listing {log : List Exchange} {fault : Fault}
      (listing : Listing lists now address log (.error fault)) :
    FirstProblem lists now address path log fault
  | unlisted {log : List Exchange} {list : PathList}
      (listing : Listing lists now address log (.ok list)) (unlisted : path ∉ list) :
    FirstProblem lists now address path log (.notFound (.file path))
  | counting {front behind : List Exchange} {list : PathList} {fault : Fault}
      (listing : Listing lists now address front (.ok list)) (listed : path ∈ list)
      (counting : Counting address path behind (.error fault)) :
    FirstProblem lists now address path (front ++ behind) fault
  | chunking {front middle behind : List Exchange} {list : PathList} {count : Nat} {fault : Fault}
      (listing : Listing lists now address front (.ok list)) (listed : path ∈ list)
      (counting : Counting address path middle (.ok count))
      (chunking : Chunking address path count behind (.error fault)) :
    FirstProblem lists now address path (front ++ middle ++ behind) fault

/-! ### Counting -/

/-- The number of chunks that a value tells. -/
def countOf (path : String) (value : Option Octets) : Except Fault Nat :=
  match value with
  | some record => Chunk.decodeCount record
  | none => .error (.notFound (.chunkCount path))

/-- The dialogue about the number of chunks of a path. -/
def countDialogue (address path : String) : Dialogue Nat :=
  ((Dialogue.aligned .single address [(SiteKey.chunkCount path).encode]).next fun values =>
    .silent (.ok values.head?.join)).next fun value => .silent (countOf path value)

theorem records_chunkCount (address path : String) :
  (countDialogue address path).Records (σ := σ) (chunkCount address path) (chunkCount address path)
  := by
  apply ((Dialogue.records_aligned .single address _).bind fun _ => Dialogue.records_pure _).bind
  intro value
  cases value with
  | some record => apply Dialogue.records_ofExcept
  | none => apply Dialogue.records_throw

theorem sound_countDialogue (address path : String) :
  (countDialogue address path).Sound
  := ((Dialogue.sound_aligned _ _ _).next fun _ => Dialogue.sound_silent _).next fun _ =>
    Dialogue.sound_silent _

theorem countDialogue_iff {log : List Exchange} {result : Except Fault Nat} :
  countDialogue address path log result ↔ Counting address path log result
  := by
  rw [countDialogue, Dialogue.next_silent_iff]
  simp only [Dialogue.next_ok_iff]
  constructor
  · rintro ⟨_, ⟨_, ⟨values, right, rfl, rfl⟩ | ⟨e, fault, problem, rfl, rfl⟩, rfl⟩, rfl⟩
    · obtain ⟨_ | record, rfl⟩ := List.length_eq_one_iff.1 right
      · exact .absent
      · change Counting address path _ (Chunk.decodeCount record)
        rw [Chunk.decodeCount_eq]
        by_cases right : record.length = 4
        · rw [if_pos right]
          by_cases low : Chunk.signedWord record ≤ 0
          · rw [if_pos low]
            exact .value right low
          · rw [if_neg low]
            exact .counted right (by omega) (by omega)
        · rw [if_neg right]
          exact .width right
    · exact .unanswered problem
  · intro counting
    cases counting with
    | unanswered problem => exact ⟨_, ⟨_, .inr ⟨_, _, problem, rfl, rfl⟩, rfl⟩, rfl⟩
    | absent => exact ⟨_, ⟨_, .inl ⟨[none], rfl, rfl, rfl⟩, rfl⟩, rfl⟩
    | @width record wrong =>
        refine ⟨_, ⟨_, .inl ⟨[some record], rfl, rfl, rfl⟩, rfl⟩, ?_⟩
        change _ = Chunk.decodeCount record
        rw [Chunk.decodeCount_eq, if_neg wrong]
    | @value record right low =>
        refine ⟨_, ⟨_, .inl ⟨[some record], rfl, rfl, rfl⟩, rfl⟩, ?_⟩
        change _ = Chunk.decodeCount record
        rw [Chunk.decodeCount_eq, if_pos right, if_pos low]
    | @counted record right count positive word =>
        refine ⟨_, ⟨_, .inl ⟨[some record], rfl, rfl, rfl⟩, rfl⟩, ?_⟩
        change _ = Chunk.decodeCount record
        rw [Chunk.decodeCount_eq, if_pos right, word, if_neg (by omega), Int.toNat_natCast]

/-! ### Chunks -/

theorem wholeChunk_of_empty {i : Nat} {value : Option Octets} (empty : value.getD [] = []) :
  wholeChunk path (i, value) = .error (.corrupt (.emptyChunk i path))
  := by
  cases value with
  | none => rfl
  | some chunk =>
      obtain rfl : chunk = [] := empty
      rfl

/-- The first chunk that is not there decides. -/
theorem mapM_wholeChunk_of_firstEmpty (path : String) {indices : List Nat}
    {values : List (Option Octets)} {i : Nat} (first : FirstEmpty indices values i) :
  (indices.zip values).mapM (wholeChunk path) = .error (.corrupt (.emptyChunk i path))
  := by
  induction first with
  | here empty =>
      rw [List.zip_cons_cons, List.mapM_cons, wholeChunk_of_empty empty]
      rfl
  | later filled rest ih =>
      rw [List.zip_cons_cons, List.mapM_cons, wholeChunk_of_filled filled, ih]
      rfl

theorem whole_or_firstEmpty {indices : List Nat} {values : List (Option Octets)}
    (aligned : values.length = indices.length) :
  (∃ chunks, Whole indices chunks ∧ values = chunks.map some) ∨ ∃ i, FirstEmpty indices values i
  := by
  induction indices generalizing values with
  | nil =>
      obtain rfl := List.length_eq_zero_iff.1 aligned
      exact .inl ⟨[], ⟨rfl, List.not_mem_nil⟩, rfl⟩
  | cons i indices ih =>
      obtain ⟨value, values, rfl⟩ := List.exists_cons_of_length_eq_add_one aligned
      by_cases empty : value.getD [] = []
      · exact .inr ⟨i, .here empty⟩
      · cases value with
        | none => exact absurd rfl empty
        | some chunk =>
            rcases ih (Nat.succ.inj aligned) with ⟨chunks, ⟨long, filled⟩, rfl⟩ | ⟨j, first⟩
            · refine .inl ⟨chunk :: chunks, ⟨congrArg _ long, ?_⟩, rfl⟩
              rw [List.mem_cons, not_or]
              exact ⟨Ne.symm empty, filled⟩
            · exact .inr ⟨j, .later empty first⟩

/-- The dialogue about some consecutive chunks. -/
def batchDialogue (address path : String) (indices : List Nat) : Dialogue Octets :=
  (Dialogue.aligned .chunks address (chunkKeys path indices)).next fun values =>
    (Dialogue.silent ((indices.zip values).mapM (wholeChunk path))).next fun chunks =>
      .silent (.ok chunks.flatten)

theorem records_fetchBatch (address path : String) (indices : List Nat) :
  (batchDialogue address path indices).Records (σ := σ) (fetchBatch address path indices)
    (fetchBatch address path indices)
  := (Dialogue.records_aligned .chunks address _).bind fun _ =>
    (Dialogue.records_ofExcept _).bind fun _ => Dialogue.records_pure _

theorem sound_batchDialogue (address path : String) (indices : List Nat) :
  (batchDialogue address path indices).Sound
  := (Dialogue.sound_aligned _ _ _).next fun _ => (Dialogue.sound_silent _).next fun _ =>
    Dialogue.sound_silent _

theorem batchDialogue_iff (address path : String) (indices : List Nat) (log : List Exchange)
    (result : Except Fault Octets) :
  batchDialogue address path indices log result
    ↔ (∃ chunks, Whole indices chunks ∧ log = [wholeAnswer address path indices chunks]
          ∧ result = .ok chunks.flatten)
      ∨ ∃ e fault, ChunkProblem address path indices e fault ∧ log = [e] ∧ result = .error fault
  := by
  have length_chunkKeys : (chunkKeys path indices).length = indices.length := List.length_map _
  simp only [batchDialogue, Dialogue.silent_next, Dialogue.next_silent_iff]
  constructor
  · rintro ⟨_, ⟨values, aligned, rfl, rfl⟩ | ⟨e, fault, problem, rfl, rfl⟩, rfl⟩
    · rw [length_chunkKeys] at aligned
      simp only [Except.bind]
      rcases whole_or_firstEmpty aligned with ⟨chunks, whole, rfl⟩ | ⟨i, first⟩
      · rw [mapM_wholeChunk_of_whole path whole]
        exact .inl ⟨chunks, whole, rfl, rfl⟩
      · rw [mapM_wholeChunk_of_firstEmpty path first]
        exact .inr ⟨_, _, .empty aligned first, rfl, rfl⟩
    · exact .inr ⟨e, fault, .unanswered problem, rfl, rfl⟩
  · rintro (⟨chunks, whole, rfl, rfl⟩ | ⟨e, fault, problem, rfl, rfl⟩)
    · refine ⟨_, .inl ⟨chunks.map some, ?_, rfl, rfl⟩, ?_⟩
      · rw [List.length_map, length_chunkKeys, whole.1]
      · simp only [Except.bind, mapM_wholeChunk_of_whole path whole]
    · cases problem with
      | unanswered problem => exact ⟨_, .inr ⟨e, fault, problem, rfl, rfl⟩, rfl⟩
      | @empty values aligned i first =>
          refine ⟨_, .inl ⟨values, ?_, rfl, rfl⟩, ?_⟩
          · rw [length_chunkKeys, aligned]
          · simp only [Except.bind, mapM_wholeChunk_of_firstEmpty path first]

/-- The dialogue about as many chunks. -/
def chunksDialogue (address path : String) (count : Nat) : Dialogue Octets :=
  (Dialogue.each (batchDialogue address path)
    (batches Remote.batchSize (List.range count))).next fun pieces => .silent (.ok pieces.flatten)

theorem chunksDialogue_iff {count : Nat} {log : List Exchange} {result : Except Fault Octets} :
  chunksDialogue address path count log result ↔ Chunking address path count log result
  := by
  have flat (answers : Except Fault (List (List Octets))) :
      (answers.map (·.map List.flatten)).map List.flatten
        = answers.map fun chunks => chunks.flatten.flatten := by
    cases answers with
    | error fault => rfl
    | ok chunks => exact congrArg Except.ok List.flatten_flatten.symm
  rw [chunksDialogue, Dialogue.next_ok_iff]
  simp only [Dialogue.each_iff_sweep (batchDialogue_iff address path)]
  constructor
  · rintro ⟨_, ⟨answers, sweep, rfl⟩, rfl⟩
    rw [flat]
    exact .asked (calls_batches _) sweep
  · rintro ⟨called, sweep⟩
    rw [called.eq_batches] at sweep
    exact ⟨_, ⟨_, sweep, rfl⟩, (flat _).symm⟩

/-! ### Path lists -/

/-- The dialogue about the paths of a website. -/
def pathsDialogue (address : String) : Dialogue (List String) :=
  (Dialogue.keys address).next fun keys =>
    (Dialogue.each (Dialogue.aligned .paths address)
      (batches Remote.batchSize (keys.filter SiteKey.isLocation))).next fun values =>
        .silent (.ok ((values.flatten.filterMap id).map Utf8.lossy))

theorem records_listPaths (address : String) :
  (pathsDialogue address).Records (σ := σ) (listPaths address) (listPaths address)
  := (Dialogue.records_keys address).bind fun _ =>
    (Dialogue.records_mapM (Dialogue.records_aligned .paths address) _).bind fun _ =>
      Dialogue.records_pure _

theorem sound_pathsDialogue (address : String) :
  (pathsDialogue address).Sound
  := (Dialogue.sound_keys address).next fun _ =>
    (Dialogue.sound_each (Dialogue.sound_aligned .paths address) _).next fun _ =>
      Dialogue.sound_silent _

theorem pathsDialogue_iff {log : List Exchange} {result : Except Fault (List String)} :
  pathsDialogue address log result
    ↔ (∃ fault, log = [.keys address (.error fault)] ∧ result = .error fault)
      ∨ ∃ keys behind answers,
          Dialogue.each (Dialogue.aligned .paths address)
              (batches Remote.batchSize (keys.filter SiteKey.isLocation)) behind answers
            ∧ log = .keys address (.ok keys) :: behind
            ∧ result = answers.map fun values => (values.flatten.filterMap id).map Utf8.lossy
  := by
  constructor
  · rintro (⟨fault, rfl, rfl⟩ | ⟨keys, _, behind, rfl, after, rfl⟩)
    · exact .inl ⟨fault, rfl, rfl⟩
    · obtain ⟨answers, said, rfl⟩ := Dialogue.next_ok_iff.1 after
      exact .inr ⟨keys, behind, answers, said, rfl, rfl⟩
  · rintro (⟨fault, rfl, rfl⟩ | ⟨keys, behind, answers, said, rfl, rfl⟩)
    · exact .inl ⟨fault, rfl, rfl⟩
    · exact .inr ⟨keys, _, behind, rfl, Dialogue.next_ok_iff.2 ⟨answers, said, rfl⟩, rfl⟩

/-- The path list of the paths that were read, if it expires before the end of the clock. -/
def keptList (lists : PathLists) (now : Nat) (found : List String) : Except Fault PathList :=
  if now + lists.lifetime < Clock.finish then .ok (.ofPaths found) else .error .clock

/-- The dialogue about the path list of a website, which may be remembered. -/
def listDialogue (lists : PathLists) (now : Nat) (address : String) : Dialogue PathList :=
  match lists.get now address with
  | some list => .silent (.ok list)
  | none => (pathsDialogue address).next fun found => .silent (keptList lists now found)

theorem sound_listDialogue (lists : PathLists) (now : Nat) (address : String) :
  (listDialogue lists now address).Sound
  := by
  rw [listDialogue]
  cases lists.get now address with
  | some list => apply Dialogue.sound_silent
  | none => exact (sound_pathsDialogue address).next fun _ => Dialogue.sound_silent _

theorem listDialogue_iff
    (kept : lists.get now address = none → now + lists.lifetime < Clock.finish)
    {log : List Exchange} {result : Except Fault PathList} :
  listDialogue lists now address log result ↔ Listing lists now address log result
  := by
  have mapped (forgotten : lists.get now address = none)
      (answers : Except Fault (List (List (Option Octets)))) :
      (answers.map fun values => (values.flatten.filterMap id).map Utf8.lossy).bind
          (keptList lists now)
        = answers.map fun values => .ofPaths ((values.flatten.filterMap id).map Utf8.lossy) := by
    cases answers with
    | error fault => rfl
    | ok values => exact if_pos (kept forgotten)
  rw [listDialogue]
  constructor
  · intro said
    cases remembered : lists.get now address with
    | some list =>
        rw [remembered] at said
        obtain ⟨rfl, rfl⟩ := said
        exact .remembered remembered
    | none =>
        rw [remembered] at said
        obtain ⟨found, listed, rfl⟩ := Dialogue.next_silent_iff.1 said
        rcases pathsDialogue_iff.1 listed with ⟨fault, rfl, rfl⟩ | ⟨keys, _, answers, asked, rfl, rfl⟩
        · exact .unanswered remembered fault
        · rw [mapped remembered]
          exact .read remembered (calls_batches _) (Dialogue.each_aligned_iff.1 asked)
  · intro listing
    cases listing with
    | remembered live =>
        rw [live]
        exact ⟨rfl, rfl⟩
    | unanswered forgotten fault =>
        rw [forgotten]
        exact Dialogue.next_silent_iff.2 ⟨_, pathsDialogue_iff.2 (.inl ⟨fault, rfl, rfl⟩), rfl⟩
    | @read forgotten keys calls called behind answers sweep =>
        rw [called.eq_batches] at sweep
        have said := pathsDialogue_iff.2
          (.inr ⟨keys, behind, answers, Dialogue.each_aligned_iff.2 sweep, rfl, rfl⟩)
        rw [forgotten, ← mapped forgotten]
        exact Dialogue.next_silent_iff.2 ⟨_, said, rfl⟩

/-- A path list that is there has been listed, and could be kept. -/
theorem listing_of_listDialogue {log : List Exchange} {list : PathList}
    (said : listDialogue lists now address log (.ok list)) :
  Listing lists now address log (.ok list)
  := by
  by_cases kept : lists.get now address = none → now + lists.lifetime < Clock.finish
  · exact (listDialogue_iff kept).1 said
  · obtain ⟨forgotten, late⟩ := Classical.not_imp.1 kept
    rw [listDialogue, forgotten] at said
    obtain ⟨_ | found, -, ended⟩ := Dialogue.next_silent_iff.1 said
    · cases ended
    · rw [Except.bind, keptList, if_neg late] at ended
      cases ended

/-- Reading a path list follows the dialogue. -/
theorem records_paths (lists : PathLists) (now : Nat) (address : String) (s : σ)
    (before : List Exchange) :
  ∃ log result t, listDialogue lists now address log result
    ∧ (paths now address).perform ⟨lists, s⟩ = (result, t)
    ∧ (paths now address).perform (⟨lists, ⟨s, before⟩⟩ : Reader (Recorded σ))
        = (result, ⟨t.lists, ⟨t.remote, before ++ log⟩⟩)
  := by
  simp only [perform_paths, listDialogue]
  cases lists.get now address with
  | some list =>
      refine ⟨[], .ok list, ⟨lists, s⟩, ⟨rfl, rfl⟩, rfl, ?_⟩
      rw [List.append_nil]
  | none =>
      obtain ⟨log, said, ended⟩ := records_listPaths (σ := σ) address s before
      simp only [ended]
      generalize (listPaths address).perform s = listed at said
      obtain ⟨fault | found, t⟩ := listed
      · exact ⟨log, .error fault, ⟨lists, t⟩, .inl ⟨fault, said, rfl⟩, rfl, rfl⟩
      · refine ⟨log, _, ⟨_, t⟩, .inr ⟨found, log, [], said, ⟨rfl, ?_⟩, ?_⟩, rfl, rfl⟩
        · rw [PathLists.perform_set, keptList]
          split <;> rfl
        · rw [List.append_nil]

/-! ### Fetching -/

/-- The dialogue about the content of a path. -/
def assembleDialogue (address path : String) : Dialogue Octets :=
  (countDialogue address path).next (chunksDialogue address path)

theorem records_assemble (address path : String) :
  (assembleDialogue address path).Records (σ := σ) (assemble address path) (assemble address path)
  := (records_chunkCount address path).bind fun _ =>
    (Dialogue.records_mapM (records_fetchBatch address path) _).bind fun _ =>
      Dialogue.records_pure _

theorem sound_assembleDialogue (address path : String) :
  (assembleDialogue address path).Sound
  := (sound_countDialogue address path).next fun _ =>
    (Dialogue.sound_each (sound_batchDialogue address path) _).next fun _ =>
      Dialogue.sound_silent _

/-- The dialogue about the content of a path that must be in this path list. -/
def listedDialogue (address path : String) (list : PathList) : Dialogue Octets :=
  if path ∈ list then assembleDialogue address path else .silent (.error (.notFound (.file path)))

/-- The dialogue about the content of a path that must be listed. -/
def fetchDialogue (lists : PathLists) (now : Nat) (address path : String) : Dialogue Octets :=
  (listDialogue lists now address).next (listedDialogue address path)

theorem sound_fetchDialogue (lists : PathLists) (now : Nat) (address path : String) :
  (fetchDialogue lists now address path).Sound
  := by
  apply (sound_listDialogue lists now address).next
  intro list
  rw [listedDialogue]
  split
  · apply sound_assembleDialogue
  · apply Dialogue.sound_silent

/-- A path is looked up in the path list, and assembled if it is there. -/
theorem perform_fetch (now : Nat) (address path : String) (r : Reader σ) :
  (fetch now address path).perform r
    = match (paths now address).perform r with
      | (.error fault, t) => (.error fault, t)
      | (.ok list, t) =>
        if path ∈ list then
          let assembled := (assemble address path).perform t.remote
          (assembled.1, ⟨t.lists, assembled.2⟩)
        else (.error (.notFound (.file path)), t)
  := by
  rw [fetch_eq, stores, perform_bind, perform_bind]
  rcases (paths now address).perform r with ⟨fault | list, t⟩
  · rfl
  · simp only [perform_pure, List.contains_iff_mem]
    by_cases listed : path ∈ list
    · simp only [if_pos listed]
      rfl
    · simp only [if_neg listed]
      rfl

theorem records_fetch (lists : PathLists) (now : Nat) (address path : String) (s : σ)
    (before : List Exchange) :
  ∃ log result t, fetchDialogue lists now address path log result
    ∧ (fetch now address path).perform ⟨lists, s⟩ = (result, t)
    ∧ (fetch now address path).perform (⟨lists, ⟨s, before⟩⟩ : Reader (Recorded σ))
        = (result, ⟨t.lists, ⟨t.remote, before ++ log⟩⟩)
  := by
  obtain ⟨log, result, t, said, plain, recorded⟩ := records_paths lists now address s before
  simp only [perform_fetch, plain, recorded, fetchDialogue]
  cases result with
  | error fault => exact ⟨log, _, t, .inl ⟨fault, said, rfl⟩, rfl, rfl⟩
  | ok list =>
      by_cases listed : path ∈ list
      · obtain ⟨behind, assembled, ended⟩ :=
          records_assemble (σ := σ) address path t.remote (before ++ log)
        simp only [if_pos listed, ended, List.append_assoc]
        refine ⟨log ++ behind, _, ⟨t.lists, _⟩, .inr ⟨list, log, behind, said, ?_, rfl⟩, rfl, rfl⟩
        rwa [listedDialogue, if_pos listed]
      · simp only [if_neg listed]
        refine ⟨log, _, t, .inr ⟨list, log, [], said, ?_, (List.append_nil log).symm⟩, rfl, rfl⟩
        rw [listedDialogue, if_neg listed]
        exact ⟨rfl, rfl⟩

/-- Content is there only if nothing is wrong. -/
theorem complete_of_fetchDialogue {log : List Exchange} {content : Octets}
    (said : fetchDialogue lists now address path log (.ok content)) :
  ∃ count, Complete lists now address path count log content
  := by
  rcases said with ⟨_, -, ⟨⟩⟩ | ⟨list, front, _, said, after, rfl⟩
  have listing := listing_of_listDialogue said
  by_cases listed : path ∈ list
  · rw [listedDialogue, if_pos listed] at after
    rcases after with ⟨_, -, ⟨⟩⟩ | ⟨count, middle, behind, counted, chunked, rfl⟩
    rw [← List.append_assoc]
    exact ⟨count, listing, listed, countDialogue_iff.1 counted, chunksDialogue_iff.1 chunked⟩
  · rw [listedDialogue, if_neg listed] at after
    cases after.2

section Kept

variable (kept : lists.get now address = none → now + lists.lifetime < Clock.finish)
include kept

theorem fetchDialogue_of_complete {count : Nat} {log : List Exchange} {content : Octets}
    (complete : Complete lists now address path count log content) :
  fetchDialogue lists now address path log (.ok content)
  := by
  obtain ⟨listing, listed, counting, chunking⟩ := complete
  refine .inr ⟨_, _, _, (listDialogue_iff kept).2 listing, ?_, List.append_assoc _ _ _⟩
  rw [listedDialogue, if_pos listed]
  exact .inr ⟨count, _, _, countDialogue_iff.2 counting, chunksDialogue_iff.2 chunking, rfl⟩

theorem fetchDialogue_error_iff {log : List Exchange} {fault : Fault} :
  fetchDialogue lists now address path log (.error fault)
    ↔ FirstProblem lists now address path log fault
  := by
  constructor
  · rintro (⟨_, said, ⟨⟩⟩ | ⟨list, front, _, said, after, rfl⟩)
    · exact .listing ((listDialogue_iff kept).1 said)
    · have listing := (listDialogue_iff kept).1 said
      by_cases listed : path ∈ list
      · rw [listedDialogue, if_pos listed] at after
        rcases after with ⟨_, uncounted, ⟨⟩⟩ | ⟨count, middle, behind, counted, chunked, rfl⟩
        · exact .counting listing listed (countDialogue_iff.1 uncounted)
        · rw [← List.append_assoc]
          exact .chunking listing listed (countDialogue_iff.1 counted)
            (chunksDialogue_iff.1 chunked)
      · rw [listedDialogue, if_neg listed] at after
        obtain ⟨rfl, ⟨⟩⟩ := after
        rw [List.append_nil]
        exact .unlisted listing listed
  · intro problem
    cases problem with
    | listing listing => exact .inl ⟨fault, (listDialogue_iff kept).2 listing, rfl⟩
    | unlisted listing unlisted =>
        refine .inr ⟨_, log, [], (listDialogue_iff kept).2 listing, ?_, (List.append_nil log).symm⟩
        rw [listedDialogue, if_neg unlisted]
        exact ⟨rfl, rfl⟩
    | counting listing listed counting =>
        refine .inr ⟨_, _, _, (listDialogue_iff kept).2 listing, ?_, rfl⟩
        rw [listedDialogue, if_pos listed]
        exact .inl ⟨fault, countDialogue_iff.2 counting, rfl⟩
    | chunking listing listed counting chunking =>
        refine .inr ⟨_, _, _, (listDialogue_iff kept).2 listing, ?_, List.append_assoc _ _ _⟩
        rw [listedDialogue, if_pos listed]
        exact .inr ⟨_, _, _, countDialogue_iff.2 counting, chunksDialogue_iff.2 chunking, rfl⟩

end Kept

/-! ### What is asked for -/

theorem isLocation_chunk (path : String) (i : Nat) :
  SiteKey.isLocation (SiteKey.chunk path i).encode = false
  := by
  rw [Bool.eq_false_iff, ne_eq, SiteKey.isLocation_encode_iff]
  nofun

/-- Only location keys are asked for to list the paths. -/
theorem not_mem_asked_of_listing {log : List Exchange} {list : PathList} {key : Octets}
    (listing : Listing lists now address log (.ok list)) (other : SiteKey.isLocation key = false) :
  key ∉ log.flatMap Exchange.asked
  := by
  generalize ended : Except.ok list = result at listing
  cases listing with
  | remembered live => exact List.not_mem_nil
  | unanswered forgotten fault => cases ended
  | @read forgotten keys calls called behind answers sweep =>
      cases answers with
      | error fault => cases ended
      | ok values =>
          have asked := asked_of_sweep id (fun _ _ => rfl) sweep rfl
          rw [List.flatMap_cons, asked, List.flatMap_id, called.whole]
          intro among
          obtain none | among := List.mem_append.1 among
          · cases none
          · rw [(List.mem_filter.1 among).2] at other
            cases other

/-- One key is asked for to count the chunks, and they are few. -/
theorem asked_of_counting {log : List Exchange} {count : Nat}
    (counting : Counting address path log (.ok count)) :
  log.flatMap Exchange.asked = [(SiteKey.chunkCount path).encode] ∧ count < 2147483648
  := by
  cases counting with
  | @counted record right _ positive word =>
      obtain ⟨low, value⟩ := Chunk.signedWord_of_pos right (by omega)
      exact ⟨rfl, by omega⟩

theorem nodup_chunkKeys {count : Nat} (few : count < 4294967296) :
  (chunkKeys path (List.range count)).Nodup
  := by
  rw [chunkKeys, List.nodup_map_iff_inj_on List.nodup_range]
  intro i hi j hj same
  rw [List.mem_range] at hi hj
  exact ((SiteKey.encode_chunk_inj (by omega) (by omega)).1 same).2

/-- Each chunk is asked for exactly once. -/
theorem Complete.count_asked {count : Nat} {log : List Exchange} {content : Octets} {i : Nat}
    (complete : Complete lists now address path count log content) (hi : i < count) :
  (log.flatMap Exchange.asked).count (SiteKey.chunk path i).encode = 1
  := by
  obtain ⟨listing, listed, counting, chunking⟩ := complete
  obtain ⟨counted, few⟩ := asked_of_counting counting
  generalize ended : Except.ok content = result at chunking
  obtain @⟨calls, called, behind, answers, sweep⟩ := chunking
  cases answers with
  | error fault => cases ended
  | ok chunks =>
      have asked := asked_of_sweep (chunkKeys path) (fun _ _ => rfl) sweep rfl
      have whole : calls.flatMap (chunkKeys path) = chunkKeys path (List.range count) := by
        rw [← called.whole, chunkKeys, List.map_flatten, List.flatMap_def]
        rfl
      have among : (SiteKey.chunk path i).encode ∈ chunkKeys path (List.range count) :=
        List.mem_map.2 ⟨i, List.mem_range.2 hi, rfl⟩
      rw [List.flatMap_append, List.flatMap_append, counted, asked, whole, List.count_append,
        List.count_append,
        List.count_eq_zero_of_not_mem (not_mem_asked_of_listing listing (isLocation_chunk path i)),
        List.count_eq_one_of_mem (nodup_chunkKeys (by omega)) among,
        List.count_singleton, if_neg]
      simpa using (SiteKey.encode_chunk_ne_chunkCount path i path).symm

/-! ### The result -/

/-- Whatever a remote store answers, content is fetched only if the transcript of the calls is
complete; each chunk then was asked for exactly once, and no answer with a wrong number of values is
taken.  If a path list that is read anew expires before the end of the clock, the answers decide
what is fetched: the content of a complete transcript, else the fault of the first problem. -/
theorem fetch_decided (lists : PathLists) (store : σ) (now : Nat) (address path : String) :
  ∃ result lists' store' log,
    (fetch now address path).perform ⟨lists, store⟩ = (result, ⟨lists', store'⟩)
      ∧ (fetch now address path).perform (⟨lists, ⟨store, []⟩⟩ : Reader (Recorded σ))
          = (result, ⟨lists', ⟨store', log⟩⟩)
      ∧ (∀ content, result = .ok content →
          ∃ count, Complete lists now address path count log content)
      ∧ (∀ count content, Complete lists now address path count log content →
          ∀ i < count, (log.flatMap Exchange.asked).count (SiteKey.chunk path i).encode = 1)
      ∧ ((∃ e ∈ log, e.Misaligned) → ∃ damage, result = .error (.corrupt damage))
      ∧ ((lists.get now address = none → now + lists.lifetime < Clock.finish) →
          (∀ content, result = .ok content
            ↔ ∃ count, Complete lists now address path count log content)
          ∧ ∀ fault, result = .error fault ↔ FirstProblem lists now address path log fault)
  := by
  obtain ⟨log, result, t, said, plain, recorded⟩ := records_fetch lists now address path store []
  have sound := sound_fetchDialogue lists now address path
  have complete (content : Octets) (ended : result = .ok content) :
      ∃ count, Complete lists now address path count log content := by
    rw [ended] at said
    exact complete_of_fetchDialogue said
  refine ⟨result, t.lists, t.remote, log, plain, recorded, complete, ?_, ?_, ?_⟩
  · exact fun count content complete i hi => complete.count_asked hi
  · intro misaligned
    obtain ⟨read, expected, got, ended⟩ := sound.careful said misaligned
    exact ⟨_, ended⟩
  · intro kept
    refine ⟨fun content => ⟨complete content, ?_⟩, fun fault => ⟨?_, ?_⟩⟩
    · rintro ⟨count, complete⟩
      exact sound.unique said (fetchDialogue_of_complete kept complete)
    · rintro rfl
      exact (fetchDialogue_error_iff kept).1 said
    · intro problem
      exact sound.unique said ((fetchDialogue_error_iff kept).2 problem)

/-- A resource of two chunks, and the same when calls for several keys are answered with one value
too few. -/
theorem fetch_decided_uploaded :
  let lists : PathLists := { lifetime := Clock.seconds 60 }
  let store := ({} : Datastore).upload "AS1" "a" [72, 105] 1
  (lists.get 0 "AS1" = none → 0 + lists.lifetime < Clock.finish)
    ∧ ((fetch 0 "AS1" "a").perform ⟨lists, store⟩).1 = .ok [72, 105]
    ∧ (∃ count log, Complete lists 0 "AS1" "a" count log [72, 105])
    ∧ ∃ log, FirstProblem lists 0 "AS1" "a" log (.corrupt (.valueCount .chunks 2 1))
  := by
  intro lists store
  have kept : lists.get 0 "AS1" = none → 0 + lists.lifetime < Clock.finish := fun _ => by decide
  have whole : ((fetch 0 "AS1" "a").perform ⟨lists, store⟩).1 = .ok [72, 105] := by decide +kernel
  have short : ((fetch 0 "AS1" "a").perform ⟨lists, { store with shortAnswers := true }⟩).1
      = .error (.corrupt (.valueCount .chunks 2 1)) := by decide +kernel
  refine ⟨kept, whole, ?_, ?_⟩
  · obtain ⟨result, _, _, log, plain, -, -, -, -, decided⟩ := fetch_decided lists store 0 "AS1" "a"
    rw [plain] at whole
    obtain ⟨count, complete⟩ := ((decided kept).1 _).1 whole
    exact ⟨count, log, complete⟩
  · obtain ⟨result, _, _, log, plain, -, -, -, -, decided⟩ :=
      fetch_decided lists { store with shortAnswers := true } 0 "AS1" "a"
    rw [plain] at short
    exact ⟨log, ((decided kept).2 _).1 short⟩

end Reader

end SiteCache
