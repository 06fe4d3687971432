import SiteCache.Clock
import SiteCache.Table

/-!
# Path lists

The paths that a website stores, in ascending order and each once, are remembered by address for a
limited time.  An expired list is not answered any more; it stays until some list is stored or its
website is forgotten.
-/

namespace SiteCache

/-- The paths of a website in ascending order. -/
abbrev PathList := List String

/-- The path list of any paths. -/
def PathList.ofPaths (paths : List String) : PathList :=
  (Table.ofList (paths.map fun p => (p, ()))).keys

/-- Path lists by address, each kept for the same lifetime. -/
structure PathLists where
  lifetime : Nat
  lists : Table String (Clock.Lease PathList) := .empty

namespace PathLists

/-- The number of lists, expired ones included. -/
def size (p : PathLists) : Nat := p.lists.size

/-- The list of a website, unless it has expired. -/
def get (now : Nat) (address : String) (p : PathLists) : Option PathList :=
  ((p.lists.get? address).filter (·.isLive now)).map (·.value)

/-- Stores the list of a website from now on and drops the expired lists of all websites. -/
def set (now : Nat) (address : String) (paths : List String) : Action PathLists PathList :=
  .ofStep fun p =>
    match Clock.expiry now p.lifetime with
    | .error fault => (.error fault, p)
    | .ok expires =>
      let list := PathList.ofPaths paths
      let live := p.lists.filter (·.isLive now)
      (.ok list, { p with lists := live.insert address ⟨list, expires⟩ })

/-- Forgets the list of a website. -/
def invalidate (address : String) (p : PathLists) : PathLists :=
  { p with lists := p.lists.erase address }

end PathLists

end SiteCache
