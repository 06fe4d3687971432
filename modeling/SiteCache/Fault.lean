import SiteCache.HttpStatus
import SiteCache.Text.Utf8
import SiteCache.Time

/-!
# Faults

What can go wrong between a request and its answer, by cause.  A `Fault` belongs to one of a
few kinds: something is missing from a website, its data are damaged, a copy is in no tier of
the cache, the node does not answer, a cache record or a setting or a file is unusable, or an
expiry lies past the end of the clock.  `message` is the one place that words a fault.
-/

namespace SiteCache

/-- What a website does not have. -/
inductive Missing where
  | chunkCount (path : String)
  | file (path : String)
  | deployTime (address : String)
  | siteName (name : String)
  deriving DecidableEq

/-- The text of what is missing. -/
def Missing.text : Missing → String
  | .chunkCount path => "no chunks found for file '" ++ path ++ "'"
  | .file path => "file '" ++ path ++ "' not found"
  | .deployTime address => "last update timestamp of " ++ address
  | .siteName name => "name '" ++ name ++ "'"

/-- The reads of a datastore that expect as many values as they asked keys. -/
inductive Read where
  | single
  | paths
  | chunks
  | headers
  deriving DecidableEq

/-- How wrong numbers of values are worded for each read. -/
def Read.text (expected got : Nat) : Read → String
  | .single => "expected 1 datastore entry, got " ++ toString got
  | .paths => "expected " ++ toString expected ++ " path entries, got " ++ toString got
  | .chunks => "expected " ++ toString expected ++ " entries, got " ++ toString got
  | .headers => "expected " ++ toString expected ++ " header entries, got " ++ toString got

/-- What is wrong with the data of a website. -/
inductive Damage where
  | valueCount (read : Read) (expected got : Nat)
  | countWidth (octets : Nat)
  | countValue (count : Int)
  | emptyChunk (index : Nat) (path : String)
  | deployText
  | deployNumber (text : String)
  | deployRange (seconds : Nat)
  | unlisted (address : String)
  deriving DecidableEq

/-- The text of a damage. -/
def Damage.text : Damage → String
  | .valueCount read expected got => read.text expected got
  | .countWidth octets => "chunk count must be 4 bytes, got " ++ toString octets
  | .countValue count => "invalid chunk count " ++ toString count
  | .emptyChunk index path => "empty chunk " ++ toString index ++ " of '" ++ path ++ "'"
  | .deployText => "last update timestamp is not utf-8"
  | .deployNumber text => "invalid last update timestamp '" ++ text ++ "'"
  | .deployRange seconds => "last update timestamp " ++ toString seconds ++ " out of range"
  | .unlisted address => "get_addresses returned nothing for " ++ address

/-- Why a datastore does not answer. -/
inductive Outage where
  | offline
  | unusableUrl (parsed : Option String)
  | unreachable (url : String)
  | status (method : String) (code : Nat)
  | undecodable
  | refused (method : String) (code : Int) (text : String)
  | noResult (method : String)
  deriving DecidableEq

/-- The text of an outage. -/
def Outage.text : Outage → String
  | .offline => "in-memory store offline"
  | .unusableUrl none => "builder error"
  | .unusableUrl (some url) => "builder error for url (" ++ url ++ ")"
  | .unreachable url => "error sending request for url (" ++ url ++ ")"
  | .status method code => method ++ " failed with status: " ++ HttpStatus.text code
  | .undecodable => "error decoding response body"
  | .refused method code text => method ++ " returned error " ++ toString code ++ ": " ++ text
  | .noResult method => method ++ " returned no result"

/-- The eight-octet words among the records of the disk tier. -/
inductive Word where
  | indexId
  | nextId
  | entryId
  | timestamp
  deriving DecidableEq

/-- What a word is called. -/
def Word.text : Word → String
  | .indexId => "index id"
  | .nextId => "next id"
  | .entryId => "entry id"
  | .timestamp => "timestamp"

/-- What is wrong with the engine of the disk tier or a record in it. -/
inductive StorageFault where
  | engine (text : String)
  | notDatabase
  | damaged
  | schemaRoot (table : String)
  | unsupported
  | readOnly
  | unreadable
  | unopened (name : Option String)
  | authority (name : String)
  | truncatedIdentity
  | trailingOctets (count : Nat)
  | identityText (defect : Utf8.Defect)
  | wordWidth (word : Word) (octets : Nat)
  | timeRange (time : Time)
  | headers
  deriving DecidableEq

/-- The text of a storage fault. -/
def StorageFault.text : StorageFault → String
  | .engine text => text
  | .notDatabase => "file is not a database"
  | .damaged => "database disk image is malformed"
  | .schemaRoot table => "malformed database schema (" ++ table ++ ") - invalid rootpage"
  | .unsupported => "unsupported file format"
  | .readOnly => "attempt to write a readonly database"
  | .unreadable => "disk I/O error"
  | .unopened none => "unable to open database file"
  | .unopened (some name) => "unable to open database file: " ++ name
  | .authority name => "invalid uri authority: " ++ name
  | .truncatedIdentity => "truncated composite cache key"
  | .trailingOctets count => "trailing " ++ toString count ++ " bytes in composite cache key"
  | .identityText defect => "invalid utf-8 in cache key: " ++ defect.message
  | .wordWidth word octets => word.text ++ " must be 8 bytes, got " ++ toString octets
  | .timeRange time => "timestamp " ++ time.text ++ " out of range"
  | .headers => "invalid stored headers"

/-- What is wrong with the settings. -/
inductive SettingFault where
  | ramBound
  | diskBound
  | noDiskRoom
  | noNode
  | document
  deriving DecidableEq

/-- The text of a wrong setting. -/
def SettingFault.text : SettingFault → String
  | .ramBound => "max_ram_entries must be at least 1"
  | .diskBound => "max_disk_entries must be at least 1"
  | .noDiskRoom => "disk tier needs room for at least one entry"
  | .noNode => "no node URL configured"
  | .document => "invalid settings document"

/-- What is wrong with a file: what the operating system says, or that its name has an octet zero, or
that its content is no text. -/
inductive FileFault where
  | absent
  | denied
  | exists
  | notDirectory
  | isDirectory
  | longName
  | zeroOctet
  | system (number : Nat) (words : String)
  | notText
  deriving DecidableEq

namespace FileFault

/-- The number that the operating system gives a file fault. -/
def number? : FileFault → Option Nat
  | .absent => some 2
  | .denied => some 13
  | .exists => some 17
  | .notDirectory => some 20
  | .isDirectory => some 21
  | .longName => some 36
  | .zeroOctet => none
  | .system number _ => some number
  | .notText => none

/-- The words for a file fault. -/
def words : FileFault → String
  | .absent => "No such file or directory"
  | .denied => "Permission denied"
  | .exists => "File exists"
  | .notDirectory => "Not a directory"
  | .isDirectory => "Is a directory"
  | .longName => "File name too long"
  | .zeroOctet => "file name contained an unexpected NUL byte"
  | .system _ words => words
  | .notText => "stream did not contain valid UTF-8"

/-- The text of a file fault. -/
def text (f : FileFault) : String :=
  match f.number? with
  | some n => f.words ++ " (os error " ++ toString n ++ ")"
  | none => f.words

end FileFault

/-- What can go wrong between a request and its answer. -/
inductive Fault where
  | notFound (missing : Missing)
  | corrupt (damage : Damage)
  | miss (address resource : String)
  | unavailable (outage : Outage)
  | storage (fault : StorageFault)
  | setting (fault : SettingFault)
  | file (fault : FileFault)
  | clock
  deriving DecidableEq

namespace Fault

/-- The text of a fault, kind first. -/
def message : Fault → String
  | .notFound m => "Not found: " ++ m.text
  | .corrupt d => "Corrupt data: " ++ d.text
  | .miss address resource => "Cache miss for " ++ address ++ "/" ++ resource
  | .unavailable o => "Remote datastore unavailable: " ++ o.text
  | .storage s => "Storage error: " ++ s.text
  | .setting s => "Configuration error: " ++ s.text
  | .file f => "I/O error: " ++ f.text
  | .clock => "overflow when adding duration to instant"

/-- Something is missing from the website. -/
def isNotFound : Fault → Bool
  | .notFound _ => true
  | _ => false

/-- The copy is in no tier of the cache. -/
def isMiss : Fault → Bool
  | .miss _ _ => true
  | _ => false

end Fault

end SiteCache
