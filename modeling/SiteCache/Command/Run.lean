import SiteCache.Command.Host
import SiteCache.Command.Options
import SiteCache.Command.Report
import SiteCache.Engine.DatabaseName
import SiteCache.Engine.Image
import SiteCache.Site.Server

/-!
# Runs

A run of the command: it reads the settings, opens the cache if it is enabled, asks for one resource,
closes the cache, and writes the resource to a file or to the output.  What stops it is its fault;
nothing that goes wrong while the cache is closed does.
-/

namespace SiteCache

/-- How a command ends. -/
inductive Ending where
  | done
  | failed (fault : Fault)
  | notRun (usage : Usage)

/-- The exit code of an ending. -/
def Ending.code : Ending → Nat
  | .done => 0
  | .failed _ => 1
  | .notRun (.misuse _) => 2
  | .notRun _ => 0

/-- The last line of a command, if it did not succeed. -/
def Ending.line? : Ending → Option String
  | .failed fault => some ("Error: " ++ fault.report)
  | .notRun (.misuse fault) => some ("error: " ++ fault.text)
  | _ => none

namespace Run

/-- A step of a run, which may stop with a fault. -/
abbrev Step (m : Type → Type) (α : Type) := ExceptT Fault m α

variable {m : Type → Type} [Monad m]

/-- Does something with a file. -/
def onFile {α : Type} (act : m (Except FileFault α)) : Step m α :=
  .mk (do pure ((← act).mapError .file))

variable [Host m]

/-- Shows a message if the rules say so. -/
def say (o : Options) (message : Message) : Step m Unit :=
  .lift (if VerbosityRule.isShown o.rules message then Host.log o.logJson message else pure ())

/-- Shows what a run does. -/
def tell (o : Options) (text : String) : Step m Unit := say o { level := .info, text }

/-- The settings of a run. -/
def settings (o : Options) : Step m Settings := do
  let stated ← match o.settingsFile with
    | none => pure {}
    | some path => .mk (do pure (Settings.ofFile (← Host.read path)))
  let s := o.override stated
  .mk (pure (s.check.map fun _ => s))

/-- Shows the settings. -/
def describe (o : Options) (nodeUrl : String) (s : Settings) : Step m Unit := do
  tell o "Starting deweb-cache"
  tell o ("  Node URL: " ++ nodeUrl)
  tell o ("  Cache enabled: " ++ toString s.cache.enabled)
  if s.cache.enabled then
    tell o ("  Cache directory: " ++ s.cache.directory)
    tell o ("  Max entries: " ++ toString s.cache.maxRam ++ " RAM, " ++ toString s.cache.maxDisk
      ++ " disk")

/-- The name of the database that keeps the records of a cache in a directory. -/
def recordsName (directory : String) : String :=
  if directory.isEmpty ∨ directory.endsWith "/" then directory ++ "cache.db"
  else directory ++ "/cache.db"

/-- The octets that the file of a database holds; without the file there are none. -/
def imageOf (name : String) : Except FileFault Octets → Except Fault Octets
  | .error .absent => .ok []
  | .error _ => .error (.storage (.unopened (some name)))
  | .ok image => .ok image

/-- The path of the database of a name. -/
def databasePath (name : String) : Step m String :=
  .mk (pure ((DatabaseName.path name).mapError .storage))

/-- What keeps records from being used if directories stand in the places of the files beside them:
the log of changes, its index, and the journal.  Vacant records are set up first. -/
def obstruction? (vacant log index journal : Bool) : Option StorageFault :=
  if journal then some (if vacant then .unopened none else .unreadable)
  else if log then some (if vacant then .unreadable else .unopened none)
  else if index ∧ vacant then some .readOnly
  else none

/-- A directory stands at a path. -/
def isDirectory (path : String) : Step m Bool :=
  .lift do
    match ← Host.read path with
    | .error .isDirectory => pure true
    | _ => pure false

/-- Opens the records of a directory, which is made if it is missing; records that are not there yet
are set up. -/
def openRecords (directory : String) : Step m Records := do
  onFile (Host.makeDirectories directory)
  let name := recordsName directory
  let path ← databasePath name
  let image ← .mk (do pure (imageOf name (← Host.read path)))
  let records ← .mk (pure ((Records.decode image).mapError .storage))
  let vacant := Records.isVacant image
  match obstruction? vacant (← isDirectory (path ++ "-wal")) (← isDirectory (path ++ "-shm"))
      (← isDirectory (path ++ "-journal")) with
  | some fault => throw (.storage fault)
  | none => pure ()
  if vacant then
    let written ← .lift (Host.write path records.encode)
    .mk (pure (written.mapError fun _ => .storage (.unopened (some name))))
  pure records

/-- Opens the cache of a directory, with the records that it begins with. -/
def openCache (s : Settings) : Step m (Cache Identity.hash × Records) := do
  let records ← openRecords s.cache.directory
  match Cache.open? Identity.hash s.bounds { search := .range, records } with
  | .ok cache => pure (cache, records)
  | .error (fault, _) => throw fault

/-- Closes the cache of a directory and keeps its records, if they are not those that it began with. -/
def closeCache (directory : String) (cache : Cache Identity.hash) (before : Records) :
    Step m Unit := do
  let (closed, engine) := cache.close
  if engine.records.entries ≠ before.entries then
    onFile (Host.write (← databasePath (recordsName directory)) engine.records.encode)
  .mk (pure closed)

/-- Asks for the resource, with the cache if there is one. -/
def request (o : Options) (nodeUrl : String) (s : Settings)
    (cache : Option (Cache Identity.hash)) :
    Step m (Except Fault Page × Option (Cache Identity.hash)) :=
  .lift do
    let clock ← Host.clock
    Host.converse nodeUrl o.timeoutSeconds fun node =>
      let (answer, server) :=
        (Server.serve clock o.address o.resource cache.isSome).perform
          ⟨⟨s.pathLists, node⟩, cache⟩
      ((answer, server.cache), server.reader.remote)

/-- Shows the counters of the cache, which began with these records, and closes it. -/
def finish (o : Options) (s : Settings) (cache : Cache Identity.hash) (before : Records) :
    Step m Unit := do
  let counters := cache.counters
  say o
    { level := .info
      text := "Cache statistics"
      numbers := [("disk_hits", counters.diskHits), ("misses", counters.misses),
        ("ram_hits", counters.ramHits)] }
  tryCatch (closeCache s.cache.directory cache before) fun fault =>
    say o { level := .warn, text := "Failed to close cache cleanly: " ++ fault.message }

/-- The word for a source. -/
def sourceText : Source → String
  | .cache => "cache"
  | .remote => "remote"

/-- Shows what was served and writes its content. -/
def deliver (o : Options) (page : Page) : Step m Unit := do
  tell o ("Served " ++ page.resource ++ " (" ++ toString page.content.length ++ " bytes) from "
    ++ sourceText page.source)
  for (name, value) in page.headers.entries do
    tell o ("  " ++ name ++ ": " ++ value)
  match o.output with
  | some path => onFile (Host.write path page.content)
  | none => .lift (Host.print page.content)

/-- A run with these options. -/
def perform (o : Options) : Step m Unit := do
  let s ← settings o
  let nodeUrl ← match s.nodeUrl with
    | some url => pure url
    | none => throw (.setting .noNode)
  describe o nodeUrl s
  let opened ← if s.cache.enabled then some <$> openCache s else pure none
  let (answer, cache) ← request o nodeUrl s (opened.map (·.1))
  match cache, opened with
  | some cache, some (_, before) => finish o s cache before
  | _, _ => pure ()
  match answer with
  | .ok page => deliver o page
  | .error fault =>
    say o
      { level := .error
        text := "Failed to get " ++ o.address ++ "/" ++ o.resource ++ ": " ++ fault.message }
    throw fault

/-- The command with these words and variables. -/
def command (words : List String) (environment : String → Option String) : m Ending := do
  match Options.parse words environment with
  | .error usage =>
    match usage with
    | .help => Host.print (Utf8.encode Usage.synopsis)
    | .version => Host.print (Utf8.encode Usage.versionText)
    | .misuse _ => pure ()
    pure (.notRun usage)
  | .ok o =>
    match ← (perform o).run with
    | .ok () => pure .done
    | .error fault => pure (.failed fault)

end Run

end SiteCache
