import SiteCache.Proofs.Action
import SiteCache.Site.Datastore
import SiteCache.Site.Reader

/-!
# Remote stores that do not change

A remote store does not change as long as it has some property (`Remote.Unchanging`) if its calls
respect the relation of having that property on both sides (`Action.Respects`).  Everything that is
read of a website then is the same at any time, and readers with the same path lists
(`Reader.Alike`) read the same.
-/

namespace SiteCache

open SiteCache.Action

/-- Both states have this property. -/
def Both {σ : Type} (P : σ → Prop) (s t : σ) : Prop := P s ∧ P t

section Remote

variable {σ : Type} [Remote σ] {P : σ → Prop}

/-- As long as the remote store has this property it always answers the same, and it keeps the
property. -/
structure Remote.Unchanging (P : σ → Prop) : Prop where
  values : ∀ address keys, (Remote.values address keys).Respects (Both P)
  keys : ∀ address, (Remote.keys address).Respects (Both P)

namespace Remote.Unchanging

theorem aligned (h : Unchanging P) (read : Read) (address : String) (keys : List Octets) :
  (Remote.aligned read address keys).Respects (Both P)
  := by
  apply (h.values address keys).bind
  intro values
  split
  · apply respects_pure
  · apply respects_throw

theorem single (h : Unchanging P) (address : String) (key : Octets) :
  (Remote.single address key).Respects (Both P)
  := (h.aligned .single address [key]).bind fun _ => respects_pure _

theorem listPaths (h : Unchanging P) (address : String) :
  (Reader.listPaths address).Respects (Both P)
  := by
  apply (h.keys address).bind
  intro keys
  exact (respects_mapM (h.aligned .paths address) _).bind fun _ => respects_pure _

theorem chunkCount (h : Unchanging P) (address path : String) :
  (Reader.chunkCount address path).Respects (Both P)
  := by
  apply (h.single _ _).bind
  intro b
  cases b with
  | some b => apply respects_ofExcept
  | none => apply respects_throw

theorem fetchBatch (h : Unchanging P) (address path : String) (indices : List Nat) :
  (Reader.fetchBatch address path indices).Respects (Both P)
  := (h.aligned .chunks address _).bind fun _ =>
    (respects_ofExcept _).bind fun _ => respects_pure _

theorem readHeaders (h : Unchanging P) (address : String) (beginning : Octets)
    (keys : List Octets) :
  (Reader.readHeaders address beginning keys).Respects (Both P)
  := (respects_mapM (fun batch => (h.aligned .headers address batch).bind fun _ =>
    respects_pure _) _).bind fun _ => respects_pure _

theorem headers (h : Unchanging P) (address path : String) :
  (Reader.headers address path).Respects (Both P)
  := (h.keys address).bind fun _ => (h.readHeaders address _ _).bind fun _ =>
    (h.readHeaders address _ _).bind fun _ => respects_pure _

theorem deployTime (h : Unchanging P) (address : String) :
  (Reader.deployTime address).Respects (Both P)
  := by
  apply (h.single _ _).bind
  intro b
  cases b with
  | some b => apply respects_ofExcept
  | none => apply respects_throw

end Remote.Unchanging

end Remote

/-! ### Websites in memory -/

namespace Datastore

/-- The stores hold the same websites and answer for them in the same way. -/
structure Like (d e : Datastore) : Prop where
  sites : e.sites = d.sites
  offline : e.offline = d.offline
  shortAnswers : e.shortAnswers = d.shortAnswers

theorem like_refl (d : Datastore) :
  d.Like d
  := ⟨rfl, rfl, rfl⟩

/-- Websites in memory only change when they are written. -/
theorem unchanging (d : Datastore) :
  Remote.Unchanging d.Like
  := by
  constructor
  · rintro address keys e e' ⟨⟨sites, offline, short⟩, ⟨sites', offline', short'⟩⟩
    refine ⟨?_, ⟨sites, offline, short⟩, ⟨sites', offline', short'⟩⟩
    simp only [Remote.values, perform_ofStep, answer, site, sites, sites', offline, offline',
      short, short']
  · rintro address e e' ⟨⟨sites, offline, short⟩, ⟨sites', offline', short'⟩⟩
    refine ⟨?_, ⟨sites, offline, short⟩, ⟨sites', offline', short'⟩⟩
    simp only [Remote.keys, perform_ofStep, site, sites, sites', offline, offline']

end Datastore

/-! ### Readers -/

namespace Reader

variable {σ α : Type} [Remote σ] {P : σ → Prop} {r r' : Reader σ}

/-- This is the path list that is read of the website at any time. -/
def Lists (P : σ → Prop) (address : String) (list : PathList) : Prop :=
  ∀ s, P s → ∃ paths, ((listPaths address).perform s).1 = .ok paths ∧ PathList.ofPaths paths = list

/-- All path lists that are remembered are those that would be read anew. -/
def Recalls (P : σ → Prop) (lists : PathLists) : Prop :=
  ∀ address lease, lists.lists.get? address = some lease → Lists P address lease.value

/-- The readers remember the same path lists of remote stores with this property. -/
structure Alike (P : σ → Prop) (r r' : Reader σ) : Prop where
  lists : r.lists = r'.lists
  recalls : Recalls P r.lists
  first : P r.remote
  second : P r'.remote

/-- Asking the remote store and reading a path list respect the relation between readers. -/
structure Compatible (P : σ → Prop) (R : Reader σ → Reader σ → Prop) : Prop where
  asked : ∀ {α : Type} {a : Action σ α}, a.Respects (Both P) → (onRemote a).Respects R
  listed : ∀ now address, (paths now address).Respects R

/-- A remembered list is the one that is read anew. -/
theorem lists_of_get {lists : PathLists} (h : Recalls P lists) {now : Nat} {address : String}
    {list : PathList} (live : lists.get now address = some list) :
  Lists P address list
  := by
  obtain ⟨lease, found, rfl⟩ := Option.map_eq_some_iff.1 live
  exact h address lease (Option.filter_eq_some_iff.1 found).1

/-- A list that is stored when it was read is remembered rightly. -/
theorem recalls_set {lists : PathLists} (h : Recalls P lists) {now : Nat} {address : String}
    {paths : List String} (listed : Lists P address (PathList.ofPaths paths)) :
  Recalls P ((PathLists.set now address paths).perform lists).2
  := by
  simp only [PathLists.set, perform_ofStep]
  cases Clock.expiry now lists.lifetime with
  | error fault => exact h
  | ok expires =>
      intro other lease found
      simp only [Table.get?_insert] at found
      split at found
      next same =>
        obtain rfl := Option.some.inj found
        exact same ▸ listed
      next =>
        rw [Table.get?_filter] at found
        exact h other lease (Option.filter_eq_some_iff.1 found).1

private theorem respects_onRemote {a : Action σ α} (h : a.Respects (Both P)) :
  (onRemote a).Respects (Alike P)
  := by
  rintro r r' ⟨lists, recalls, first, second⟩
  obtain ⟨same, first', second'⟩ := h r.remote r'.remote ⟨first, second⟩
  exact ⟨same, lists, recalls, first', second'⟩

private theorem respects_paths (h : Remote.Unchanging P) (now : Nat) (address : String) :
  (paths now address).Respects (Alike P)
  := by
  rintro ⟨lists, s⟩ ⟨_, t⟩ ⟨rfl, recalls, first, second⟩
  simp only [paths, perform_bind, perform_get]
  cases lists.get now address with
  | some list => exact ⟨rfl, rfl, recalls, first, second⟩
  | none =>
      obtain ⟨same, first', second'⟩ := h.listPaths address s t ⟨first, second⟩
      simp only [onRemote, onLists, perform_bind, perform_within]
      rcases listed : (listPaths address).perform s with ⟨answer, s'⟩
      rcases listed' : (listPaths address).perform t with ⟨answer', t'⟩
      rw [listed, listed'] at same
      rw [listed] at first'
      rw [listed'] at second'
      obtain rfl : answer = answer' := same
      cases answer with
      | error fault => exact ⟨rfl, rfl, recalls, first', second'⟩
      | ok paths =>
          have lists : Lists P address (PathList.ofPaths paths) := by
            intro u hu
            refine ⟨paths, ?_, rfl⟩
            rw [(h.listPaths address u s ⟨hu, first⟩).1, listed]
          exact ⟨rfl, rfl, recalls_set recalls lists, first', second'⟩

theorem compatible_alike (h : Remote.Unchanging P) :
  Compatible P (Alike P)
  := ⟨respects_onRemote, respects_paths h⟩

/-- Readers with arbitrary path lists are compared with themselves. -/
theorem compatible_eq (h : Remote.Unchanging P) :
  Compatible P fun r r' => r = r' ∧ P r.remote
  := by
  constructor
  · rintro α a respects r _ ⟨rfl, remote⟩
    exact ⟨rfl, rfl, (respects r.remote r.remote ⟨remote, remote⟩).2.1⟩
  · rintro now address r _ ⟨rfl, remote⟩
    have asked := (h.listPaths address r.remote r.remote ⟨remote, remote⟩).2.1
    refine ⟨rfl, rfl, ?_⟩
    simp only [paths, perform_bind, perform_get]
    cases r.lists.get now address with
    | some list => exact remote
    | none =>
        simp only [onRemote, onLists, perform_bind, perform_within]
        rcases listed : (listPaths address).perform r.remote with ⟨fault | paths, s⟩
        · rwa [listed] at asked
        · rwa [listed] at asked

section Compatible

variable {R : Reader σ → Reader σ → Prop}

theorem respects_stores (h : Compatible P R) (now : Nat) (address path : String) :
  (stores now address path).Respects R
  := (h.listed now address).bind fun _ => respects_pure _

theorem respects_firstStored (h : Compatible P R) (now : Nat) (address : String)
    (candidates : List String) :
  (firstStored now address candidates).Respects R
  := by
  induction candidates with
  | nil => apply respects_pure
  | cons path rest ih =>
      cases rest with
      | nil => exact (respects_stores h now address path).bind fun _ => respects_pure _
      | cons next rest =>
          apply (respects_stores h now address path).bind
          intro stored
          cases stored with
          | true => apply respects_pure
          | false => exact ih

theorem respects_resolve (h : Compatible P R) (now : Nat) (address requested : String) :
  (resolve now address requested).Respects R
  := respects_firstStored h now address _

end Compatible

end Reader

end SiteCache
