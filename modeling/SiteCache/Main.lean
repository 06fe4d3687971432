import SiteCache.Command.Files
import SiteCache.Command.Run
import SiteCache.Node.Http
import Std.Async.DNS
import Std.Async.TCP
import Std.Async.Timer
import Std.Time.DateTime.Timestamp

/-!
# The command

The command on the machine that it runs on: files of the operating system, messages on the standard
error, and nodes over TCP.  A conversation with a node is played again from its start whenever one
more request has been answered, so that the action in it stays a function of the answers.  Nodes that
speak TLS are out of reach.
-/

namespace SiteCache.LocalMachine

open Std Async

/-- The file fault that an error of the operating system tells of. -/
def fileFault (e : IO.Error) : FileFault :=
  match e with
  | .noFileOrDirectory _ _ _ => .absent
  | .noSuchThing _ _ _ => .absent
  | .permissionDenied _ _ _ => .denied
  | .alreadyExists _ _ _ => .exists
  | .inappropriateType _ 20 _ => .notDirectory
  | .inappropriateType _ 21 _ => .isDirectory
  | .invalidArgument _ 36 _ => .longName
  | .resourceExhausted _ 36 _ => .longName
  | .otherError number words => .system number.toNat words
  | e => .system 5 e.toString

/-- Tries something with the file at a path. -/
def onFile {α : Type} (path : String) (act : IO α) : IO (Except FileFault α) := do
  match Files.checkPath path with
  | .error fault => pure (.error fault)
  | .ok () =>
    match ← act.toBaseIO with
    | .ok x => pure (.ok x)
    | .error e => pure (.error (fileFault e))

/-- Makes a directory; one that is there already is made, too. -/
def makeDirectory (path : String) : IO (Except FileFault Unit) := do
  match ← onFile path (IO.FS.createDir path) with
  | .error .exists =>
    match ← onFile path (IO.FS.createDir (path ++ "/.")) with
    | .error .exists => pure (.ok ())
    | _ => pure (.error .exists)
  | answer => pure answer

/-- Makes a directory behind those above it. -/
partial def makeDirectories (path : String) : IO (Except FileFault Unit) := do
  match ← makeDirectory path with
  | .error .absent =>
    match (path.splitOn "/").dropLast with
    | [] => pure (.error .absent)
    | names =>
      match ← makeDirectories ("/".intercalate names) with
      | .ok () => makeDirectory path
      | answer => pure answer
  | answer => pure answer

/-- The octets of a byte array. -/
def ofBytes (b : ByteArray) : Octets := b.data.toList

/-- A byte array of octets. -/
def toBytes (b : Octets) : ByteArray := ⟨b.toArray⟩

/-- All that comes in until the other side closes, behind what has come so far. -/
partial def receive (socket : TCP.Socket.Client) (soFar : ByteArray) : Async ByteArray := do
  match ← socket.recv? 65536 with
  | some more => receive socket (soFar ++ more)
  | none => pure soFar

/-- Sends octets to a server and receives what it answers. -/
def exchange (host : String) (port : Nat) (sent : Octets) : Async ByteArray := do
  let addresses : Array Net.IPAddr ← DNS.getAddrInfo host (toString port)
  let address : Net.SocketAddress ← match addresses.toList with
    | .v4 a :: _ => pure (.v4 ⟨a, port.toUInt16⟩)
    | .v6 a :: _ => pure (.v6 ⟨a, port.toUInt16⟩)
    | [] => throw (IO.userError "unknown host")
  let socket ← TCP.Socket.Client.mk
  socket.connect address
  socket.send (toBytes sent)
  receive socket ByteArray.empty

/-- What becomes of a request for a URL; no answer within so many seconds is none at all. -/
def deliver (text : String) (seconds : Nat) (body : Octets) : IO Delivery := do
  match (Url.parse? text).map fun u => (u.scheme, u.server, u.target) with
  | some ("http", some (host, port), target) =>
    let shown := if port = 80 then host else host ++ ":" ++ toString port
    let answer := exchange host port (Http.request shown target body)
    let late : Async ByteArray := do
      Async.sleep (Time.Millisecond.Offset.ofNat (min seconds 1000000 * 1000))
      pure ByteArray.empty
    match ← (Async.block (Async.race answer late)).toBaseIO with
    | .ok received =>
      match Http.response? (ofBytes received) with
      | some (status, body) => pure (.reply status body)
      | none => pure .lost
    | .error _ => pure .lost
  | _ => pure .lost

/-- Plays a conversation with a node whose first answers are known. -/
partial def converse {α : Type} (url : String) (seconds : Nat) (talk : Node → α × Node)
    (known : List Delivery) : IO α := do
  let (answer, node) := talk (Node.scripted url known)
  match node.request? known.length with
  | none => pure answer
  | some body => converse url seconds talk (known ++ [← deliver url seconds body])

instance : Host IO where
  clock := do
    let wall := (← Time.Timestamp.now).toNanosecondsSinceUnixEpoch
    pure ⟨SiteCache.Time.ofNanoseconds wall.val, ← IO.monoNanosNow⟩
  read path := onFile path (do pure (ofBytes (← IO.FS.readBinFile path)))
  makeDirectories path := if path.isEmpty then pure (.ok ()) else makeDirectories path
  write path content := onFile path (IO.FS.writeBinFile path (toBytes content))
  log json message := do
    if json then IO.eprintln (Utf8.lossy message.json) else IO.eprintln message.line
  print content := do
    let output ← IO.getStdout
    output.write (toBytes content)
    output.flush
  converse url seconds talk := converse url seconds talk []

/-- The environment variables that a command takes notice of. -/
def environment : IO (List (String × String)) :=
  (Options.rulesVariable :: OptionName.all.filterMap OptionName.variableName).filterMapM fun word => do
    pure ((← IO.getEnv word).map fun value => (word, value))

end SiteCache.LocalMachine

def main (words : List String) : IO UInt32 := do
  let environment ← SiteCache.LocalMachine.environment
  let ending ← SiteCache.Run.command words (environment.lookup ·)
  match ending.line? with
  | some line => IO.eprintln line
  | none => pure ()
  pure ending.code.toUInt32
