import SiteCache.Proofs.Cache.Crash
import SiteCache.Proofs.Cache.Failure
import SiteCache.Proofs.Cache.Promotion

/-!
# Reads that the engine refuses

A cache that holds two lists can decode whatever it has stored, and so a read that fails for another
reason than a miss fails before the write of a promotion.  The records are then those from before,
with the same count and the same next insertion id, and nothing has been counted
(`Cache.Quiet`).  RAM holds what it held: the copy that had left it to make room is back as the
least recently used one, and all others are in the order in which they were
(`Cache.unmoved_of_refused_read`).
-/

namespace SiteCache

open DiskTier

variable {hash : Identity → UInt64}

namespace Cache

variable {α β : Type} {a : Action (Cache hash) α} {c c' : Cache hash} {i : Identity} {fault : Fault}
  {ram disk : List Copy}

/-! ### What is counted before a failure -/

/-- If the action fails, it has counted nothing, or it is a miss. -/
def Quiet (a : Action (Cache hash) α) : Prop :=
  ∀ c fault, (a.perform c).1 = .error fault → fault.isMiss = false →
    (a.perform c).2.counters = c.counters

/-- The action counts nothing. -/
def Still (a : Action (Cache hash) α) : Prop := ∀ c, (a.perform c).2.counters = c.counters

/-- The action fails only if it misses. -/
def OnlyMisses (a : Action (Cache hash) α) : Prop :=
  ∀ c fault, (a.perform c).1 = .error fault → fault.isMiss = true

theorem Still.quiet (h : Still a) :
  Quiet a
  := fun c _ _ _ => h c

theorem OnlyMisses.quiet (h : OnlyMisses a) :
  Quiet a
  := by
  intro c fault fails notMiss
  rw [h c fault fails] at notMiss
  cases notMiss

/-- What counts nothing may come before. -/
theorem Still.bind {f : α → Action (Cache hash) β} (h : Still a) (later : ∀ x, Quiet (f x)) :
  Quiet (a >>= f)
  := by
  intro c fault fails notMiss
  have first := h c
  rw [Action.perform_bind] at fails ⊢
  generalize a.perform c = ended at first fails
  obtain ⟨stopped | x, c'⟩ := ended
  · exact first
  · exact (later x c' fault fails notMiss).trans first

/-- What fails only by a miss may come after. -/
theorem Quiet.bind {f : α → Action (Cache hash) β} (h : Quiet a) (later : ∀ x, OnlyMisses (f x)) :
  Quiet (a >>= f)
  := by
  intro c fault fails notMiss
  have first := h c fault
  rw [Action.perform_bind] at fails ⊢
  generalize a.perform c = ended at first fails
  obtain ⟨stopped | x, c'⟩ := ended
  · exact first (congrArg Except.error (Except.error.inj fails)) notMiss
  · rw [later x c' fault fails] at notMiss
    cases notMiss

theorem still_onRam (step : RamTier hash → α × RamTier hash) :
  Still (onRam step)
  := fun _ => rfl

theorem still_onDisk (a : Action DiskTier α) :
  Still (onDisk a : Action (Cache hash) α)
  := fun _ => rfl

theorem quiet_settle (displaced : Option Copy) (answer : Except Fault (Option Copy)) :
  Quiet (settle displaced answer : Action (Cache hash) (Option Copy))
  := by
  cases answer with
  | error fault =>
      apply Still.quiet
      intro c
      cases displaced <;> rfl
  | ok taken =>
      apply OnlyMisses.quiet
      intro c fault fails
      cases displaced <;> cases taken <;> cases fails

theorem quiet_promote (i : Identity) :
  Quiet (promote i : Action (Cache hash) (Option Copy))
  := by
  rw [promote_eq]
  apply (still_onRam _).bind
  intro displaced
  have attempted : Still (onDisk (takeReplacing i displaced) : Action (Cache hash) _).attempt :=
    fun _ => rfl
  apply attempted.bind
  intro answer
  apply quiet_settle

theorem onlyMisses_reply (i : Identity) (promoted : Option Copy) :
  OnlyMisses (reply i promoted : Action (Cache hash) (Octets × Headers))
  := by
  intro c fault fails
  cases promoted with
  | some x => cases fails
  | none =>
      cases fails
      rfl

/-- A read counts a hit when it answers, a miss when it misses, and nothing otherwise. -/
theorem quiet_read (i : Identity) :
  Quiet (read i : Action (Cache hash) (Octets × Headers))
  := by
  rw [read_eq]
  apply (still_onRam _).bind
  intro inRam
  cases inRam with
  | some x =>
      apply OnlyMisses.quiet
      intro c fault fails
      cases fails
  | none =>
      apply (still_onDisk (contains i)).bind
      intro stored
      cases stored with
      | true => exact (quiet_promote i).bind (onlyMisses_reply i)
      | false => exact (onlyMisses_reply i none).quiet

/-! ### What is left -/

/-- Every copy that is stored can be decoded, and so nothing is written before a failure. -/
theorem Holds.unmoved_of_failed_read (h : c.Holds ram disk) (fits : i.Fits)
    (fails : (read i).perform c = (.error fault, c')) (notMiss : fault.isMiss = false) :
  Unmoved c c' ∧ (c'.ram.copies = c.ram.copies
    ∨ c'.ram.copies = Copy.moved (c.ram.popDisplaced i).1 c.ram.copies)
  := by
  have ends := reads i c
  rw [fails] at ends
  cases ends with
  | refused => exact ⟨⟨.refl _, rfl, rfl, rfl⟩, .inl rfl⟩
  | unreadable => exact ⟨⟨.refl _, rfl, rfl, rfl⟩, .inl rfl⟩
  | missed => cases notMiss
  | incomplete => cases notMiss
  | @failed _ _ d k notInRam _ ends =>
      have ram := RamTier.perm_restore_popDisplaced notInRam
      have order := RamTier.copies_restored notInRam
      generalize answered : Except.error fault = answer at ends
      cases ends with
      | refused => exact ⟨⟨ram, rfl, rfl, rfl⟩, .inr order⟩
      | unreadable => exact ⟨⟨ram, rfl, rfl, rfl⟩, .inr order⟩
      | absent => cases answered
      | unprepared => exact ⟨⟨ram, rfl, rfl, rfl⟩, .inr order⟩
      | taken =>
          rw [h.lists.copy fits] at answered
          cases answered

/-- In any session on an engine that was empty at first, whatever the engine refuses, a read that
fails without missing its copy changes neither tier and counts nothing, except that a copy that had
to make room in RAM may become the least recently used one. -/
theorem unmoved_of_refused_read {e : Engine} (empty : e.records = .empty)
    {steps : List Session.Step} (fits : ∀ s ∈ steps, s.Fits)
    (reached : (Session.closed e : Session hash).after steps = .opened c) (fitsI : i.Fits)
    (fails : (read i).perform c = (.error fault, c')) (notMiss : fault.isMiss = false)
    (few : c.disk.engine.asked.length < wordBound) :
  c'.disk.engine.records = c.disk.engine.records ∧ c'.disk.count = c.disk.count
    ∧ c'.disk.nextId = c.disk.nextId
    ∧ c'.ram.copies.Perm c.ram.copies
    ∧ (c'.ram.copies = c.ram.copies ∨ ∃ v, (c.ram.popDisplaced i).1 = some v
      ∧ c'.ram.copies = Copy.others v.identity c.ram.copies ++ [v]
      ∧ (c.ram.copies.getLast? = some v → c'.ram.copies = c.ram.copies))
    ∧ c'.counters = c.counters
  := by
  have sound : ((Session.closed e : Session hash).after steps).Sound := by
    apply Session.sound_after empty fits
    rw [reached]
    exact few
  rw [reached] at sound
  obtain ⟨ram, disk, h, -⟩ := sound
  obtain ⟨⟨entries, records, count, nextId⟩, order⟩ := h.unmoved_of_failed_read fitsI fails notMiss
  have counters := quiet_read i c fault (congrArg Prod.fst fails) notMiss
  rw [fails] at counters
  refine ⟨records, count, nextId, entries, ?_, counters⟩
  obtain same | moved := order
  · exact .inl same
  · cases popped : (c.ram.popDisplaced i).1 with
    | none =>
        rw [popped] at moved
        exact .inl moved
    | some v =>
        rw [popped] at moved
        refine .inr ⟨v, rfl, moved, ?_⟩
        intro last
        rw [moved, Copy.moved, ← RamTier.dropLast_eq_others last]
        exact List.dropLast_append_getLast? v last

/-- A hash under which all resources but one collide. -/
def colliding (i : Identity) : UInt64 := if i.resource = "c" then 1 else 0

/-- A cache with room for two copies in RAM, of which the one used last is in the way of the one on
disk. -/
def twoOfThree : List Session.Step :=
  [.reopen ⟨2, 1⟩, .ask (.save (.ofOctet "a" 1)), .ask (.save (.ofOctet "b" 2)),
    .ask (.read ⟨"", "a"⟩), .ask (.save (.ofOctet "c" 3)), .ask (.read ⟨"", "a"⟩)]

/-- The third write is that of the promotion of the copy on disk. -/
private theorem promotionRefused :
  ∃ (c c' : Cache colliding) (fault : Fault),
    (Session.closed thirdWriteRefused).after twoOfThree = .opened c
      ∧ (read ⟨"", "b"⟩).perform c = (.error fault, c') ∧ fault.isMiss = false
      ∧ c.disk.engine.asked.length < wordBound
      ∧ c.ram.copies = [.ofOctet "a" 1, .ofOctet "c" 3]
      ∧ c'.ram.copies = [.ofOctet "c" 3, .ofOctet "a" 1]
  := ⟨_, _, _, rfl, rfl, rfl, by decide, by decide +kernel, by decide +kernel⟩

/-- The copy that made room for the refused promotion was used last and is now to leave first. -/
theorem unmoved_of_third_write_refused :
  ∃ (c c' : Cache colliding) (fault : Fault),
    (Session.closed thirdWriteRefused).after twoOfThree = .opened c
      ∧ (read ⟨"", "b"⟩).perform c = (.error fault, c') ∧ fault.isMiss = false
      ∧ c.disk.engine.asked.length < wordBound
      ∧ c.ram.copies = [.ofOctet "a" 1, .ofOctet "c" 3]
      ∧ c'.ram.copies = [.ofOctet "c" 3, .ofOctet "a" 1]
      ∧ c'.disk.engine.records = c.disk.engine.records ∧ c'.counters = c.counters
  := by
  have fits : ∀ s ∈ twoOfThree, s.Fits := by decide
  obtain ⟨c, c', fault, reached, fails, notMiss, few, before, left⟩ := promotionRefused
  obtain ⟨records, -, -, -, -, counters⟩ :=
    unmoved_of_refused_read rfl fits reached (by decide) fails notMiss few
  exact ⟨c, c', fault, reached, fails, notMiss, few, before, left, records, counters⟩

end Cache

end SiteCache
