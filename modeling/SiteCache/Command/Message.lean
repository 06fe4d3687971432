import SiteCache.Json.Printer

/-!
# Messages

What a command says about its work: a level, a text, and numbers by name.  A message is shown if its
level is at least the one asked for, as a line of words or as a JSON object.
-/

namespace SiteCache

/-- How much a message matters. -/
inductive Level where
  | trace
  | debug
  | info
  | warn
  | error
  deriving DecidableEq

namespace Level

/-- The place of a level among the levels. -/
def rank : Level → Nat
  | .trace => 0
  | .debug => 1
  | .info => 2
  | .warn => 3
  | .error => 4

/-- The name of a level. -/
def name : Level → String
  | .trace => "TRACE"
  | .debug => "DEBUG"
  | .info => "INFO"
  | .warn => "WARN"
  | .error => "ERROR"

/-- The level with this name, in any case; other texts stand for `info`. -/
def ofText (s : String) : Level :=
  ([trace, debug, info, warn, error].find? fun l => l.name = s.toUpper).getD info

end Level

/-- A message with numbers in the order of their names. -/
structure Message where
  level : Level
  text : String
  numbers : List (String × Nat) := []
  deriving DecidableEq

namespace Message

/-- The message as a line of words. -/
def line (m : Message) : String :=
  m.level.name ++ " " ++ m.text
    ++ String.join (m.numbers.map fun x => " " ++ x.1 ++ "=" ++ toString x.2)

/-- The message as a JSON object. -/
def json (m : Message) : Octets :=
  Json.printObject [("level", Json.printText m.level.name),
    ("fields", Json.printObject (("message", Json.printText m.text)
      :: m.numbers.map fun x => (x.1, Json.printNat x.2)))]

end Message

end SiteCache
