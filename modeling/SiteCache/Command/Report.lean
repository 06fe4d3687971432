import SiteCache.Fault
import SiteCache.Text.Quoted

/-!
# Reports

A command that fails ends with a line that shows the fault as a term: its kind, and in brackets what
it holds, texts in quotes.
-/

namespace SiteCache

/-- A term with named parts. -/
def reportFields (name : String) (parts : List (String × String)) : String :=
  name ++ " \x7b " ++ ", ".intercalate (parts.map fun x => x.1 ++ ": " ++ x.2) ++ " \x7d"

/-- The kind of a file fault. -/
def FileFault.kind : FileFault → String
  | .absent => "NotFound"
  | .denied => "PermissionDenied"
  | .exists => "AlreadyExists"
  | .notDirectory => "NotADirectory"
  | .isDirectory => "IsADirectory"
  | .longName => "InvalidFilename"
  | .zeroOctet => "InvalidInput"
  | .system _ _ => "Uncategorized"
  | .notText => "InvalidData"

/-- A file fault as a term. -/
def FileFault.report (f : FileFault) : String :=
  match f.number? with
  | some n =>
    reportFields "Os"
      [("code", toString n), ("kind", f.kind), ("message", Quoted.encode f.words)]
  | none => reportFields "Error" [("kind", f.kind), ("message", Quoted.encode f.words)]

/-- A fault as a term. -/
def Fault.report : Fault → String
  | .notFound m => "NotFound(" ++ Quoted.encode m.text ++ ")"
  | .corrupt d => "Corrupt(" ++ Quoted.encode d.text ++ ")"
  | .miss address resource =>
    reportFields "CacheMiss"
      [("address", Quoted.encode address), ("resource", Quoted.encode resource)]
  | .unavailable o => "RemoteUnavailable(" ++ Quoted.encode o.text ++ ")"
  | .storage s => "Storage(" ++ Quoted.encode s.text ++ ")"
  | .setting s => "Config(" ++ Quoted.encode s.text ++ ")"
  | .file f => "Io(" ++ f.report ++ ")"
  | .clock => "Overflow"

end SiteCache
