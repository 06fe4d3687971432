import SiteCache.Text.Number
import SiteCache.Yaml.Event

/-!
# Reading values from a YAML document

A `Document` is the events of a text together with what its aliases lead to.  Its nodes are known by
the positions of their first events, and each is read as the type that its reader wants: a mapping
of fields, a text, a flag or a whole number.  Plain scalars are taken at their text; a scalar that
is written in another way is a text, or a value of its tag if it is a literal block.  A node that is
left out is an empty mapping.
-/

namespace SiteCache.Yaml

/-- A document: its events, and for the position of every alias the position of its node. -/
structure Document where
  events : List Event
  links : List (Nat × Nat)

namespace Document

/-! ### Aliases -/

/-- The anchor of the node that an event begins. -/
def anchor? : Event → Option String
  | .scalar _ _ ps => ps.anchor
  | .sequenceStart ps => ps.anchor
  | .mappingStart ps => ps.anchor
  | _ => none

/-- The anchors so far, by number, and the nodes of the numbers, the latest first.  The number of an
anchor is how many names came before it, so a name that is met again shares its new number with
the next new name, and the later one of the two gets the node. -/
structure Anchors where
  numbers : List (String × Nat) := []
  nodes : List (Nat × Nat) := []

/-- Meets an anchor at a node. -/
def Anchors.meet (a : Anchors) (name : String) (node : Nat) : Anchors :=
  let number := a.numbers.length
  ⟨(name, number) :: a.numbers.filter (·.1 ≠ name), (number, node) :: a.nodes⟩

/-- The numbers that aliases stand for, by position, and the anchors of the whole text; an alias must
come behind an anchor of its name. -/
def follow : Nat → Anchors → List Event → Option (List (Nat × Nat) × Anchors)
  | _, a, [] => some ([], a)
  | i, a, e :: rest =>
    match e with
    | .alias name =>
      match a.numbers.lookup name with
      | none => none
      | some n => (follow (i + 1) a rest).map fun (links, a) => ((i, n) :: links, a)
    | _ =>
      follow (i + 1)
        (match anchor? e with
          | some name => a.meet name i
          | none => a) rest

/-- The document of a text. -/
def read? (text : List Char) : Option Document := do
  let events ← Event.ofTokens? (← Token.scan text)
  let (links, anchors) ← follow 0 {} events
  pure ⟨events, links.filterMap fun (i, n) => (anchors.nodes.lookup n).map fun node => (i, node)⟩

/-! ### Nodes -/

/-- The position of the node that an alias at this position stands for, or else the position. -/
def target (d : Document) (i : Nat) : Nat := (d.links.lookup i).getD i

/-- How many events the node has that begins these events, inside so many open collections of it. -/
def width : Nat → List Event → Nat
  | _, [] => 0
  | depth, e :: rest =>
    match e with
    | .sequenceStart _ => 1 + width (depth + 1) rest
    | .mappingStart _ => 1 + width (depth + 1) rest
    | .sequenceEnd => if depth ≤ 1 then 1 else 1 + width (depth - 1) rest
    | .mappingEnd => if depth ≤ 1 then 1 else 1 + width (depth - 1) rest
    | _ => if depth = 0 then 1 else 1 + width depth rest

/-- The position behind the node at a position. -/
def next (d : Document) (i : Nat) : Nat := i + width 0 (d.events.drop i)

/-- Text, style and tag of a scalar. -/
def scalar? (d : Document) (i : Nat) : Option (String × Style × Option Octets) :=
  match d.events[d.target i]? with
  | some (.scalar text style ps) => some (text, style, ps.tag)
  | _ => none

/-- Names and values of the pairs from a position on up to the end of their mapping. -/
def pairs (d : Document) : Nat → Nat → Option (List (String × Nat))
  | 0, _ => none
  | fuel + 1, i =>
    match d.events[i]? with
    | some .mappingEnd => some []
    | _ =>
      match d.scalar? i with
      | none => none
      | some (name, _, _) =>
        let value := d.next i
        (pairs d fuel (d.next value)).map fun more => (name, value) :: more

/-- The fields of a mapping, or of a node that is left out. -/
def fields? (d : Document) (i : Nat) : Option (List (String × Nat)) :=
  match d.events[d.target i]? with
  | some (.mappingStart _) => d.pairs (d.events.length + 1) (d.target i + 1)
  | some (.scalar "" .plain _) => some []
  | none => some []
  | _ => none

/-- The value of a field that may be absent, read by `value?`; a field may stand only once. -/
def field? {α : Type} (fields : List (String × Nat)) (name : String) (value? : Nat → Option α) :
    Option (Option α) :=
  match fields.filter (·.1 = name) with
  | [] => some none
  | [(_, i)] => (value? i).map some
  | _ => none

/-! ### Values -/

/-- The tag of a type that the language knows. -/
def coreTag (name : String) : Octets := Utf8.encode ("tag:yaml.org,2002:" ++ name)

/-- The text of a scalar of any style. -/
def text? (d : Document) (i : Nat) : Option String := (d.scalar? i).map (·.1)

/-- The words for no value. -/
def nullWords : List String := ["null", "Null", "NULL", "~"]

/-- A text or none: a plain scalar without text or with a word for no value is none, unless a tag
says otherwise. -/
def optionalText? (d : Document) (i : Nat) : Option (Option String) :=
  match d.scalar? i with
  | none => none
  | some (text, .plain, none) =>
    some (if text.isEmpty ∨ nullWords.contains text then none else some text)
  | some (text, .plain, some tag) =>
    if tag = coreTag "null" then if nullWords.contains text then some none else none
    else some (some text)
  | some (text, _, _) => some (some text)

/-- The text of a scalar that may stand for a value of a type: a plain one, or a literal block with
the tag of the type. -/
def plainText? (d : Document) (tag : String) (i : Nat) : Option String :=
  match d.scalar? i with
  | some (text, .plain, _) => some text
  | some (text, .literal, some t) => if t = coreTag tag then some text else none
  | _ => none

/-- A flag. -/
def flag? (d : Document) (i : Nat) : Option Bool := do
  let text ← d.plainText? "bool" i
  if ["true", "True", "TRUE"].contains text then some true
  else if ["false", "False", "FALSE"].contains text then some false
  else none

/-- Reads digits of a radix, with a word in front that names it and no sign between. -/
def radixed? (mark : String) (radix : Nat) (cs : List Char) : Option Nat :=
  if mark.toList.isPrefixOf cs then
    let digits := cs.drop mark.length
    if starts (fun c => c = '+' || c = '-') digits then none
    else Number.parse? radix wordBound digits
  else none

/-- Digits that begin with a zero but are more than one are no number. -/
def isPaddedZero : List Char → Bool
  | '0' :: rest => !rest.isEmpty && rest.all Char.isDigit
  | _ => false

/-- The number below `2^64` that a text writes: in radix 16, 8 or 2 behind a mark, or in radix 10
without a zero in front; with one plus sign at most. -/
def numberOf? (text : String) : Option Nat :=
  let cs := match text.toList with
    | '+' :: rest => rest
    | cs => cs
  if ["0x+", "0x-", "0o+", "0o-", "0b+", "0b-"].contains (String.ofList (cs.take 3)) then none
  else
    match radixed? "0x" 16 cs, radixed? "0o" 8 cs, radixed? "0b" 2 cs with
    | some n, _, _ => some n
    | _, some n, _ => some n
    | _, _, some n => some n
    | none, none, none =>
      if starts (fun c => c = '+' || c = '-') cs ∨ isPaddedZero cs then none
      else Number.parse? 10 wordBound cs

/-- A whole number below `2^64`. -/
def number? (d : Document) (i : Nat) : Option Nat := do numberOf? (← d.plainText? "int" i)

end Document

end SiteCache.Yaml
