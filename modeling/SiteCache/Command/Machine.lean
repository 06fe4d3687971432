import SiteCache.Command.Files
import SiteCache.Command.Host

/-!
# A machine in memory

A `Machine` is a host whose files, messages and output are values, and whose nodes are given by their
URLs.  Its clock stands still.
-/

namespace SiteCache

/-- A machine, with its messages and its output so far. -/
structure Machine where
  files : Files
  clock : Clock
  node : String → Node
  messages : List (Bool × Message) := []
  printed : Octets := []

namespace Machine

/-- Changes the files, if that is possible. -/
def change (f : Files → Except FileFault Files) : StateM Machine (Except FileFault Unit) :=
  modifyGet fun machine =>
    match f machine.files with
    | .ok files => (.ok (), { machine with files })
    | .error fault => (.error fault, machine)

instance : Host (StateM Machine) where
  clock := do pure (← get).clock
  read path := do pure ((← get).files.read path)
  makeDirectories path := change (·.makeDirectories path)
  write path content := change (·.write path content)
  log json message := modify fun machine =>
    { machine with messages := machine.messages ++ [(json, message)] }
  print content := modify fun machine => { machine with printed := machine.printed ++ content }
  converse url _ talk := do pure (talk ((← get).node url)).1

end Machine

end SiteCache
