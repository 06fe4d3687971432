import SiteCache.Clock
import SiteCache.Command.Message
import SiteCache.Node

/-!
# Hosts

What a command asks of the machine that it runs on: the time, files, a place for messages and for
output, and a conversation with the node at a URL.
-/

namespace SiteCache

/-- A machine that commands run on. -/
class Host (m : Type → Type) where
  /-- The clocks. -/
  clock : m Clock
  /-- The content of a file. -/
  read (path : String) : m (Except FileFault Octets)
  /-- A directory and those above it, made where they are missing. -/
  makeDirectories (path : String) : m (Except FileFault Unit)
  /-- The content of a file from now on. -/
  write (path : String) (content : Octets) : m (Except FileFault Unit)
  /-- Shows a message, as JSON or as words. -/
  log (json : Bool) (message : Message) : m Unit
  /-- Writes to the output. -/
  print (content : Octets) : m Unit
  /-- Lets an action talk to the node at a URL, which has so many seconds for each answer. -/
  converse {α : Type} (url : String) (seconds : Nat) (talk : Node → α × Node) : m α

end SiteCache
