import SiteCache.Proofs.Cache.Outcome

/-!
# Histories

Everything that can be asked of a cache (`Cache.Request`) and what it replies (`Cache.Reply`), and
sessions on one engine: a cache is opened, asked, and closed or dropped, with whatever is on the
engine then to be found by the next one.  `Session.trace` records the steps of a session with their
answers.
-/

namespace SiteCache

variable {hash : Identity → UInt64}

namespace Cache

/-- What may be asked of a cache. -/
inductive Request where
  | save (copy : Copy)
  | read (i : Identity)
  | delete (i : Identity)
  | modified (i : Identity)
  | headers (i : Identity)
  | header (i : Identity) (name : String)
  | place (i : Identity)

/-- What a cache replies. -/
inductive Reply where
  | done
  | found (content : Octets) (headers : Headers)
  | modified (time : Time)
  | headers (headers : Headers)
  | header (value : Option String)
  | place (place : Option Place)

namespace Request

/-- The identity that a request concerns. -/
def identity : Request → Identity
  | .save copy => copy.identity
  | .read i => i
  | .delete i => i
  | .modified i => i
  | .headers i => i
  | .header i _ => i
  | .place i => i

/-- The action of a cache that answers a request. -/
def act : Request → Action (Cache hash) Reply
  | .save copy => (fun _ => .done) <$> Cache.save copy
  | .read i => (fun x => .found x.1 x.2) <$> Cache.read i
  | .delete i => (fun _ => .done) <$> Cache.delete i
  | .modified i => .modified <$> Cache.modified i
  | .headers i => .headers <$> Cache.headers i
  | .header i name => .header <$> Cache.header i name
  | .place i => .place <$> Cache.place i

/-- The request only asks what there is. -/
def Peeks : Request → Prop
  | .modified _ => True
  | .headers _ => True
  | .header _ _ => True
  | .place _ => True
  | _ => False

/-- A copy is saved, leaves RAM for another one if there is room for one only, and is read. -/
def swap : List Request :=
  [.save (.ofOctet "a" 1), .save (.ofOctet "b" 2), .read ⟨"", "a"⟩]

end Request

/-- The answer to a request, and the cache after it. -/
def serve (c : Cache hash) (r : Request) : Except Fault Reply × Cache hash := r.act.perform c

/-- The cache after requests. -/
def after (c : Cache hash) (requests : List Request) : Cache hash :=
  requests.foldl (fun c r => (c.serve r).2) c

/-- A peek leaves both tiers alone. -/
theorem looks_of_peeks {r : Request} (peeks : r.Peeks) (c : Cache hash) :
  ∃ answer, Looks r.act c answer
  := by
  cases r with
  | save => cases peeks
  | read => cases peeks
  | delete => cases peeks
  | modified i => exact ⟨_, (looks_modified i c).map _⟩
  | headers i => exact ⟨_, (looks_headers i c).map _⟩
  | header i name => exact ⟨_, (looks_header i name c).map _⟩
  | place i => exact ⟨_, (looks_place i c).map _⟩

@[simp]
theorem after_nil (c : Cache hash) :
  c.after [] = c
  := rfl

@[simp]
theorem after_cons (c : Cache hash) (r : Request) (requests : List Request) :
  c.after (r :: requests) = (c.serve r).2.after requests
  := rfl

/-- A property that every request keeps is kept by all requests after one another. -/
theorem after_induction {P : Cache hash → Prop} {c : Cache hash} {requests : List Request}
    (kept : ∀ c r, r ∈ requests → P c → P (c.serve r).2) (h : P c) :
  P (c.after requests)
  := by
  induction requests generalizing c with
  | nil => exact h
  | cons r requests ih =>
      rw [after_cons]
      apply ih
      · intro c r' hr'
        exact kept c r' (List.mem_cons_of_mem r hr')
      · exact kept c r List.mem_cons_self h

end Cache

/-- An engine that no cache uses, or a cache on an engine. -/
inductive Session (hash : Identity → UInt64) where
  | closed (engine : Engine)
  | opened (cache : Cache hash)

namespace Session

/-- What may happen in a session. -/
inductive Step where
  | ask (request : Cache.Request)
  | close
  | drop
  | reopen (bounds : Bounds)

/-- The reply to a step or its fault, if the step applies to the session. -/
abbrev Answer := Option (Except Fault Cache.Reply)

/-- A request is answered by the open cache, and an engine is opened if no cache uses it.  A cache
that is closed flushes its RAM tier to disk, one that is dropped loses it. -/
def step : Session hash → Step → Answer × Session hash
  | .opened c, .ask r => (some (c.serve r).1, .opened (c.serve r).2)
  | .opened c, .close => (some (c.close.1.map fun _ => .done), .closed c.close.2)
  | .opened c, .drop => (some (.ok .done), .closed c.disk.engine)
  | .closed e, .reopen bounds =>
    match Cache.open? hash bounds e with
    | .ok c => (some (.ok .done), .opened c)
    | .error (fault, e) => (some (.error fault), .closed e)
  | s, _ => (none, s)

/-- The session after some steps. -/
def after (s : Session hash) (steps : List Step) : Session hash :=
  steps.foldl (fun s x => (s.step x).2) s

/-- The steps of a session with their answers. -/
def trace (s : Session hash) : List Step → List (Step × Answer)
  | [] => []
  | x :: steps => (x, (s.step x).1) :: trace (s.step x).2 steps

/-- The engine of a session. -/
def engine : Session hash → Engine
  | .closed e => e
  | .opened c => c.disk.engine

/-- The identity that a step concerns, if it is a request, can be encoded. -/
def Step.Fits : Step → Prop
  | .ask r => r.identity.Fits
  | _ => True

instance : DecidablePred Step.Fits
  | .ask r => inferInstanceAs (Decidable r.identity.Fits)
  | .close => inferInstanceAs (Decidable True)
  | .drop => inferInstanceAs (Decidable True)
  | .reopen _ => inferInstanceAs (Decidable True)

end Session

end SiteCache
