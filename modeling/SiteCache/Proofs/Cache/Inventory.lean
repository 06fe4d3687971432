import SiteCache.Proofs.Cache.Listing

/-!
# All copies of a cache

A property that all copies of a cache have (`Cache.All`) is kept by every operation, if it is kept
when a time is settled and a copy that is saved has it.  On an engine that refuses nothing, time
and headers that are told of an identity are those of its copy, a deletion leaves no copy behind,
and what is read belongs to a copy.
-/

namespace SiteCache

variable {P Q : Copy → Prop} {x : Copy}

/-! ### The disk tier -/

namespace DiskTier

variable {d d' : DiskTier}

/-- All copies of the tier have this property, as long as insertion ids are words. -/
def All (Q : Copy → Prop) (d : DiskTier) : Prop :=
  d.nextId < wordBound → ∃ copies, d.Lists copies ∧ ∀ x ∈ copies, Q x

theorem All.asking (h : d.All Q) (calls : List Engine.Call) :
  (d.asking calls).All Q
  := by
  intro countable
  obtain ⟨copies, lists, held⟩ := h countable
  exact ⟨copies, lists.asking calls, held⟩

/-- Whether it succeeds or not, the save of a copy that has the property keeps it. -/
theorem Saved.all {answer : Except Fault (Option Identity)} (ends : Saved d x answer d')
    (settled : ∀ y, Q y → Q y.settled) (h : d.All Q) (fits : x.identity.Fits) (good : Q x) :
  d'.All Q
  := by
  intro countable
  obtain ⟨copies, lists, held⟩ := h (Nat.lt_of_le_of_lt ends.leads.nextId_le countable)
  have kept : ∀ y ∈ Copy.kept d.capacity x.identity copies, Q y :=
    fun y hy => held y (Copy.mem_of_mem_kept hy)
  obtain ⟨_, -, -, lists | lists⟩ | ⟨-, -, lists⟩ := ends.lists lists fits countable
  · exact ⟨_, lists, held⟩
  · exact ⟨_, lists, kept⟩
  · refine ⟨_, lists, ?_⟩
    intro y hy
    rcases List.mem_append.1 hy with hy | hy
    · exact kept y (Copy.others_subset _ _ hy)
    · obtain rfl := List.mem_singleton.1 hy
      exact settled x good

end DiskTier

/-! ### The cache -/

namespace Cache

variable {hash : Identity → UInt64} {c c' : Cache hash} {i : Identity} {ram disk : List Copy}

/-- All copies in either tier have this property, as long as insertion ids are words. -/
def All (Q : Copy → Prop) (c : Cache hash) : Prop :=
  c.disk.nextId < wordBound →
    ∃ ram disk, c.Holds ram disk ∧ (∀ x ∈ ram, Q x) ∧ ∀ x ∈ disk, Q x

theorem All.mono (h : c.All P) (weaker : ∀ x, P x → Q x) :
  c.All Q
  := by
  intro countable
  obtain ⟨ram, disk, holds, inRam, onDisk⟩ := h countable
  exact ⟨ram, disk, holds, fun x hx => weaker x (inRam x hx), fun x hx => weaker x (onDisk x hx)⟩

/-- The copy of an identity is the one that is found first. -/
theorem Holds.find_eq (h : c.Holds ram disk) (hx : x ∈ ram ∨ x ∈ disk) :
  (Copy.of? x.identity ram).or (Copy.of? x.identity disk) = some x
  := by
  rcases hx with hx | hx
  · rw [(Copy.of?_eq_some_iff h.nodup).2 ⟨hx, rfl⟩]
    rfl
  · have absent : Copy.of? x.identity ram = none :=
      Copy.of?_eq_none_iff.2 fun y hy => h.apart y hy x hx
    rw [absent, (Copy.of?_eq_some_iff h.lists.nodup).2 ⟨hx, rfl⟩]
    rfl

theorem Holds.fits_of_mem (h : c.Holds ram disk) (hx : x ∈ ram ∨ x ∈ disk) :
  x.identity.Fits
  := hx.elim (h.fits x) h.lists.fits

/-- Time and headers that are told of an identity are those of its copy. -/
theorem Holds.tells (h : c.Holds ram disk) (healthy : ∀ fault, ¬ c.disk.engine.Refuses fault)
    (hx : x ∈ ram ∨ x ∈ disk) :
  ((modified x.identity).perform c).1 = .ok x.modified
    ∧ ((headers x.identity).perform c).1 = .ok x.headers
  := by
  have fits := h.fits_of_mem hx
  have modified := looks_modified x.identity c
  have headers := looks_headers x.identity c
  rw [h.peek, h.lists.modified fits, found_eq_elim, h.find_eq hx] at modified
  rw [h.peek, h.lists.headers fits, found_eq_elim, h.find_eq hx] at headers
  exact ⟨modified.answer_eq healthy, headers.answer_eq healthy⟩

/-- The place that is told of an identity is that of a copy. -/
theorem Holds.mem_of_place {p : Place} (h : c.Holds ram disk)
    (healthy : ∀ fault, ¬ c.disk.engine.Refuses fault) (fits : i.Fits)
    (resident : ((place i).perform c).1 = .ok (some p)) :
  ∃ x, x.identity = i ∧ (p = .ram ∧ x ∈ ram ∨ p = .disk ∧ x ∈ disk)
  := by
  obtain ⟨id, stored, same⟩ := h.lists.storedId fits
  have looks := (looks_place i c).answer_eq healthy
  rw [resident, h.peek, stored] at looks
  cases inRam : Copy.of? i ram with
  | some x =>
      rw [inRam] at looks
      obtain rfl := Option.some.inj (Except.ok.inj looks)
      obtain ⟨hx, rfl⟩ := Copy.mem_of_of?_eq_some inRam
      exact ⟨x, rfl, .inl ⟨rfl, hx⟩⟩
  | none =>
      rw [inRam] at looks
      replace looks : some p = if id.isSome then some .disk else none := Except.ok.inj looks
      rw [same] at looks
      cases onDisk : Copy.of? i disk with
      | none =>
          rw [onDisk] at looks
          cases looks
      | some x =>
          rw [onDisk] at looks
          obtain rfl := Option.some.inj looks
          obtain ⟨hx, rfl⟩ := Copy.mem_of_of?_eq_some onDisk
          exact ⟨x, rfl, .inr ⟨rfl, hx⟩⟩

theorem Looks.all {α : Type} {a : Action (Cache hash) α} {answer : Except Fault α}
    (looks : Looks a c answer) (h : c.All Q) :
  (a.perform c).2.All Q
  := by
  intro countable
  obtain ⟨ram, disk, holds, held⟩ :=
    h (Nat.lt_of_le_of_lt looks.leads.disk.nextId_le countable)
  exact ⟨ram, disk, looks.holds holds, held⟩

/-- The time that is told of an identity is that of its copy. -/
theorem All.modified (h : c.All Q) (healthy : ∀ fault, ¬ c.disk.engine.Refuses fault) :
  ((Cache.modified i).perform c).2.All fun x =>
    Q x ∧ (x.identity = i → ((Cache.modified i).perform c).1 = .ok x.modified)
  := by
  intro countable
  have looks := looks_modified i c
  obtain ⟨ram, disk, holds, inRam, onDisk⟩ :=
    h (Nat.lt_of_le_of_lt looks.leads.disk.nextId_le countable)
  have told (x : Copy) (hx : x ∈ ram ∨ x ∈ disk) (same : x.identity = i) :
      ((Cache.modified i).perform c).1 = .ok x.modified := by
    subst same
    exact (holds.tells healthy hx).1
  exact ⟨ram, disk, looks.holds holds, fun x hx => ⟨inRam x hx, told x (.inl hx)⟩,
    fun x hx => ⟨onDisk x hx, told x (.inr hx)⟩⟩

/-- A deletion leaves no copy of its identity. -/
theorem All.delete (h : c.All Q) (fits : i.Fits)
    (healthy : ∀ fault, ¬ c.disk.engine.Refuses fault) :
  ((Cache.delete i).perform c).2.All fun x => Q x ∧ x.identity ≠ i
  := by
  intro countable
  have ends := deleted i c
  obtain ⟨ram, disk, holds, inRam, onDisk⟩ :=
    h (Nat.lt_of_le_of_lt ends.leads.disk.nextId_le countable)
  obtain ⟨fault, refused, -⟩ | ⟨-, later⟩ := ends.holds holds fits
  · exact absurd refused (healthy fault)
  refine ⟨_, _, later, ?_, ?_⟩
  · intro x hx
    obtain ⟨hx, other⟩ := Copy.mem_others.1 hx
    exact ⟨inRam x hx, other⟩
  · intro x hx
    obtain ⟨hx, other⟩ := Copy.mem_others.1 hx
    exact ⟨onDisk x hx, other⟩

/-- Copies have the property where a victim has come back. -/
private theorem all_restored {w : Copy} (inRam : ∀ y ∈ ram, Q y) {v : Option Copy}
    (chosen : v = some w) (victim : ∀ w, v = some w → w ∈ ram) :
  ∀ y ∈ RamTier.remaining v ram ++ [w], Q y
  := by
  intro y hy
  rcases List.mem_append.1 hy with hy | hy
  · exact inRam y (remaining_subset v ram hy)
  · obtain rfl := List.mem_singleton.1 hy
    exact inRam y (victim y chosen)

/-- Copies have the property where one entered that has it, and a victim left. -/
private theorem all_entered (inRam : ∀ y ∈ ram, Q y) (good : Q x) (v : Option Copy) :
  ∀ y ∈ x :: RamTier.remaining v ram, Q y
  := by
  intro y hy
  rcases List.mem_cons.1 hy with rfl | hy
  · exact good
  · exact inRam y (remaining_subset v ram hy)

/-- Copies have the property where one went that has it when it is settled. -/
private theorem all_appended (settled : ∀ y, Q y → Q y.settled) (onDisk : ∀ y ∈ disk, Q y)
    {v : Option Copy} (good : ∀ w, v = some w → Q w) :
  ∀ y ∈ disk ++ (v.map Copy.settled).toList, Q y
  := by
  intro y hy
  rcases List.mem_append.1 hy with hy | hy
  · exact onDisk y hy
  · obtain ⟨w, chosen, rfl⟩ := Option.map_eq_some_iff.1 (Option.mem_toList.1 hy)
    exact settled w (good w chosen)

private theorem all_pushed (settled : ∀ y, Q y → Q y.settled) (onDisk : ∀ y ∈ disk, Q y)
    (capacity : Nat) {v : Option Copy} (good : ∀ w, v = some w → Q w) :
  ∀ y ∈ pushed capacity v disk, Q y
  := by
  cases v with
  | none => exact onDisk
  | some w =>
      have spared : ∀ y ∈ Copy.spared capacity disk, Q y :=
        fun y hy => onDisk y (Copy.mem_of_mem_spared hy)
      exact all_appended settled spared good

/-- What all copies have after a save: the saved copy has it if the save succeeds, and so do those
of other identities, and all of them if the engine refused a call. -/
theorem All.replace (settled : ∀ y, Q y → Q y.settled) (h : c.All P) (fits : x.identity.Fits)
    (other : ∀ y, P y → y.identity ≠ x.identity → Q y)
    (refused : ∀ fault, c.disk.engine.Refuses fault → ∀ y, P y → Q y)
    (good : ((Cache.save x).perform c).1 = .ok () → Q x) :
  ((Cache.save x).perform c).2.All Q
  := by
  intro countable
  have ends := saved x c
  obtain ⟨ram, disk, holds, inRam, onDisk⟩ :=
    h (Nat.lt_of_le_of_lt ends.leads.disk.nextId_le countable)
  have inRam : ∀ y ∈ Copy.others x.identity ram, Q y := by
    intro y hy
    obtain ⟨hy, apart⟩ := Copy.mem_others.1 hy
    exact other y (inRam y hy) apart
  have cleared : ∀ y ∈ Copy.others x.identity disk, Q y := by
    intro y hy
    obtain ⟨hy, apart⟩ := Copy.mem_others.1 hy
    exact other y (onDisk y hy) apart
  have spared : ∀ y ∈ Copy.spared c.disk.capacity (Copy.others x.identity disk), Q y :=
    fun y hy => cleared y (Copy.mem_of_mem_spared hy)
  have victim : ∀ w, RamTier.victim hash c.ram.capacity (Copy.others x.identity ram) x.identity
      = some w → w ∈ Copy.others x.identity ram := fun w chosen => RamTier.mem_of_victim chosen
  obtain ⟨fault, refusal, -, later⟩ | ⟨w, _, chosen, -, -, later | later⟩ | ⟨done, -, later⟩ :=
    ends.holds holds fits rfl countable
  · exact ⟨_, _, later, inRam, fun y hy => refused fault refusal y (onDisk y hy)⟩
  · exact ⟨_, _, later, all_restored inRam chosen victim, cleared⟩
  · exact ⟨_, _, later, all_restored inRam chosen victim, spared⟩
  · exact ⟨_, _, later, all_entered inRam (good done) _,
      all_pushed settled cleared _ fun w chosen => inRam w (victim w chosen)⟩

/-- A save keeps the property if its copy has it. -/
theorem All.save (settled : ∀ y, Q y → Q y.settled) (h : c.All Q) (fits : x.identity.Fits)
    (good : Q x) :
  ((Cache.save x).perform c).2.All Q
  := h.replace settled fits (fun _ held _ => held) (fun _ _ _ held => held) fun _ => good

private theorem Read.all {answer : Except Fault (Octets × Headers)} (ends : Read c i answer c')
    (settled : ∀ y, Q y → Q y.settled) (h : c.All Q) (fits : i.Fits)
    (countable : c'.disk.nextId < wordBound) :
  (∃ ram disk, c'.Holds ram disk ∧ (∀ x ∈ ram, Q x) ∧ ∀ x ∈ disk, Q x)
    ∧ ∀ content headers, answer = .ok (content, headers) →
      ∃ x, Q x ∧ x.identity = i ∧ x.content = content ∧ x.headers = headers
  := by
  obtain ⟨ram, disk, holds, inRam, onDisk⟩ :=
    h (Nat.lt_of_le_of_lt ends.leads.disk.nextId_le countable)
  have victim : ∀ w, RamTier.victim hash c.ram.capacity ram i = some w → w ∈ ram :=
    fun w chosen => RamTier.mem_of_victim chosen
  have others : ∀ y ∈ Copy.others i disk, Q y :=
    fun y hy => onDisk y (Copy.others_subset i disk hy)
  obtain ⟨x, found, rfl, later⟩ | ⟨-, ⟨_, -, rfl, later | ⟨w, chosen, later⟩⟩ | ⟨-, rfl, later⟩
      | ⟨x, found, rfl, -, later⟩⟩ := ends.holds holds fits rfl countable
  · obtain ⟨hx, rfl⟩ := Copy.mem_of_of?_eq_some found
    refine ⟨⟨_, _, later, ?_, onDisk⟩, ?_⟩
    · intro y hy
      rcases List.mem_cons.1 hy with rfl | hy
      · exact inRam y hx
      · exact inRam y (Copy.others_subset _ ram hy)
    · rintro content headers ⟨⟩
      exact ⟨x, inRam x hx, rfl, rfl, rfl⟩
  · exact ⟨⟨_, _, later, inRam, onDisk⟩, by rintro _ _ ⟨⟩⟩
  · exact ⟨⟨_, _, later, all_restored inRam chosen victim, onDisk⟩, by rintro _ _ ⟨⟩⟩
  · exact ⟨⟨_, _, later, inRam, onDisk⟩, by rintro _ _ ⟨⟩⟩
  · obtain ⟨hx, rfl⟩ := Copy.mem_of_of?_eq_some found
    refine ⟨⟨_, _, later, all_entered inRam (onDisk x hx) _,
      all_appended settled others fun w chosen => inRam w (victim w chosen)⟩, ?_⟩
    rintro content headers ⟨⟩
    exact ⟨x, onDisk x hx, rfl, rfl, rfl⟩

/-- A read keeps the property, and what it answers belongs to a copy that has it. -/
theorem All.read (settled : ∀ y, Q y → Q y.settled) (h : c.All Q) (fits : i.Fits) :
  ((Cache.read i).perform c).2.All Q
    ∧ ∀ content headers, ((Cache.read i).perform c).1 = .ok (content, headers) →
      ((Cache.read i).perform c).2.disk.nextId < wordBound →
      ∃ x, Q x ∧ x.identity = i ∧ x.content = content ∧ x.headers = headers
  := by
  have ends := reads i c
  constructor
  · intro countable
    exact (ends.all settled h fits countable).1
  · intro content headers answer countable
    exact (ends.all settled h fits countable).2 content headers answer

/-! ### Sessions -/

theorem leads_close (c : Cache hash) :
  ∃ d, DiskTier.Leads c.disk d ∧ c.close.2 = d.engine
  := close_induction (P := DiskTier.Leads c.disk) (fun d calls h => h.trans (.of_asking d calls))
    (fun _ _ _ _ _ ends h => h.trans ends.leads) (.refl c.disk)

/-- Closing keeps the property, in the queue that it leaves behind. -/
theorem All.close (settled : ∀ y, Q y → Q y.settled) (h : c.All Q)
    (counted : c.disk.nextId ≤ c.disk.engine.asked.length)
    (few : c.close.2.asked.length < wordBound) :
  ∃ q nextId, c.close.2.records.Queue q nextId ∧ nextId ≤ c.close.2.asked.length
    ∧ ∀ x ∈ q, Q x.2
  := by
  have before : c.disk.engine.asked.length ≤ c.close.2.asked.length := by
    obtain ⟨d, leads, ended⟩ := leads_close c
    rw [ended]
    exact leads.asked_le
  obtain ⟨ram, disk, holds, inRam, onDisk⟩ := h (by omega)
  obtain ⟨d, ⟨leads, all⟩, ended⟩ := close_induction (c := c)
    (P := fun d => DiskTier.Leads c.disk d ∧ d.All Q)
    (fun d calls h => ⟨h.1.trans (.of_asking d calls), h.2.asking calls⟩)
    (fun d y answer d' hy ends h => by
      rw [holds.copies_eq] at hy
      exact ⟨h.1.trans ends.leads, ends.all settled h.2 (holds.fits y hy) (inRam y hy)⟩)
    ⟨.refl c.disk, fun _ => ⟨disk, holds.lists, onDisk⟩⟩
  rw [ended] at few ⊢
  have counted := leads.counted counted
  obtain ⟨copies, ⟨⟨q, queue, rfl⟩, -⟩, held⟩ := all (Nat.lt_of_le_of_lt counted few)
  exact ⟨q, d.nextId, queue, counted, fun x hx => held _ (List.mem_map_of_mem hx)⟩

/-- A cache that is opened has the copies of the queue. -/
theorem all_of_open? {bounds : Bounds} {e : Engine} {q : List (Nat × Copy)} {nextId : Nat}
    (queue : e.records.Queue q nextId) (opens : open? hash bounds e = .ok c)
    (held : ∀ x ∈ q, Q x.2) :
  c.All Q
  := by
  intro _
  obtain ⟨holds, -⟩ := holds_of_open? queue opens
  refine ⟨[], _, holds, by rintro x ⟨⟩, ?_⟩
  intro x hx
  obtain ⟨y, hy, rfl⟩ := List.mem_map.1 hx
  exact held y hy

end Cache

end SiteCache
