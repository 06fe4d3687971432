import SiteCache.Command.Message
import SiteCache.Text.Number
import SiteCache.Text.Pieces

/-!
# Which messages are shown

A rule says from which level on messages are shown.  It may be for sources whose names begin in a
certain way only, and for messages with a certain field only.  Of the rules that are for a message the
one that says most about it decides (`isShown`).  Rules are written between commas as
`source[{field}]=level`; every part may be left out, and a source without a level shows all its
messages.
-/

namespace SiteCache

/-- A rule about messages; without a level nothing is shown. -/
structure VerbosityRule where
  source : Option String := none
  field : Option String := none
  least : Option Level
  deriving DecidableEq

namespace VerbosityRule

/-! ### Reading -/

/-- The level, or none at all, that a word or a number from zero to five names. -/
def level? (cs : List Char) : Option (Option Level) :=
  let numbered : List (Option Level) :=
    [none, some .error, some .warn, some .info, some .debug, some .trace]
  let nameOf : Option Level → String
    | none => "OFF"
    | some l => l.name
  match Number.parse? 10 6 cs with
  | some n => numbered[n]?
  | none => numbered.find? fun l => nameOf l = (String.ofList cs).toUpper

/-- The level behind an equals sign, or else the lowest. -/
def levelBehind? : List Char → Option (Option Level)
  | [] => some (some .trace)
  | ['='] => some (some .trace)
  | '=' :: cs => level? cs
  | _ => none

/-- Reads what stands behind an opening bracket: a field in braces without a value.  Rules for spans
of work say nothing about messages. -/
def readFields? (source : Option String) (cs : List Char) : Option VerbosityRule :=
  match cs with
  | '\x7b' :: rest =>
    let (field, after) := Pieces.cut (· = '\x7d') rest
    match after with
    | _ :: ']' :: behind =>
      if field.isEmpty ∨ field.contains '=' then none
      else (levelBehind? behind).map fun least => { source, field := some (String.ofList field), least }
    | _ => none
  | _ => none

/-- A rule may begin so, unless it begins with a bracket. -/
def begins (c : Char) : Bool := c.isAlphanum || c = '-' || c = ':' || c = '_'

/-- The rule that a text writes, if it is one about messages. -/
def read? (cs : List Char) : Option VerbosityRule :=
  match cs with
  | [] => none
  | '[' :: rest => readFields? none rest
  | c :: _ =>
    if !begins c then none
    else
      let (name, rest) := Pieces.cut (fun c => c = '=' || c = '[') cs
      let source := some (String.ofList name)
      match rest with
      | [] =>
        match level? name with
        | some least => some { least }
        | none => some { source, least := some .trace }
      | '[' :: rest => readFields? source rest
      | _ => (levelBehind? rest).map fun least => { source, least }

/-- The rules that a text writes; what is no rule is skipped. -/
def readAll (s : String) : List VerbosityRule :=
  (Pieces.split (· = ',') s.toList).filterMap read?

/-! ### Deciding -/

/-- The source of the messages of a command. -/
def commandSource : String := "deweb_cache"

/-- The rule is for messages with these fields from a source. -/
def covers (r : VerbosityRule) (source : String) (fields : List String) : Bool :=
  r.source.all (fun s => s.toList.isPrefixOf source.toList) && r.field.all fields.contains

/-- The first rule says no more than the second: a source says more the longer it is, then any field
says more than none, and the greater of two fields says more. -/
def saysNoMore (r s : VerbosityRule) : Bool :=
  let length (x : VerbosityRule) : Nat := (x.source.map fun n => n.utf8ByteSize + 1).getD 0
  length r < length s
    || (length r = length s && match r.field, s.field with
      | none, _ => true
      | some _, none => false
      | some a, some b => !decide (b < a))

/-- The rule that decides about messages with these fields from a source: the one that says most, and
the last one of its kind. -/
def deciding? (rules : List VerbosityRule) (source : String) (fields : List String) :
    Option VerbosityRule :=
  (rules.filter (·.covers source fields)).foldl
    (fun best r => if best.all (·.saysNoMore r) then some r else best) none

/-- The message of a command is shown. -/
def isShown (rules : List VerbosityRule) (m : Message) : Bool :=
  match deciding? rules commandSource ("message" :: m.numbers.map (·.1)) with
  | some r => r.least.any fun least => least.rank ≤ m.level.rank
  | none => false

end VerbosityRule

end SiteCache
