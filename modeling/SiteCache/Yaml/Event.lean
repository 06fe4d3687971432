import SiteCache.Yaml.Token

/-!
# YAML events

The events of a document are its scalars, its aliases and the ends of its collections, in the order
of the text; a node is one scalar or alias, or what stands between the two ends of a collection.
`Event.ofTokens?` reads the events of the one document that the tokens make up.  A node that is left
out counts as an empty plain scalar.
-/

namespace SiteCache.Yaml

/-- Anchor and tag of a node. -/
structure Properties where
  anchor : Option String := none
  tag : Option Octets := none

/-- The events of a document. -/
inductive Event where
  | scalar (text : String) (style : Style) (properties : Properties)
  | alias (name : String)
  | sequenceStart (properties : Properties)
  | sequenceEnd
  | mappingStart (properties : Properties)
  | mappingEnd

namespace Event

/-- Events with the tokens behind them. -/
abbrev Parse := Option (List Event × List Token)

/-- A node that is left out. -/
def omitted : Event := .scalar "" .plain {}

/-- The stems of the tag handles that every document knows. -/
def knownHandles : List (String × Octets) :=
  [("!", Utf8.encode "!"), ("!!", Utf8.encode "tag:yaml.org,2002:")]

/-- The tag that a handle and a suffix make up. -/
def tagOf (handles : List (String × Octets)) (handle : String) (suffix : Octets) : Option Octets :=
  if handle.isEmpty then some suffix else (handles.lookup handle).map (· ++ suffix)

/-- Reads anchor and tag in front of a node, in either order. -/
def properties (handles : List (String × Octets)) : List Token → Option (Properties × List Token)
  | .anchor a :: .tag h s :: rest => (tagOf handles h s).map fun t => (⟨some a, some t⟩, rest)
  | .tag h s :: .anchor a :: rest => (tagOf handles h s).map fun t => (⟨some a, some t⟩, rest)
  | .anchor a :: rest => some (⟨some a, none⟩, rest)
  | .tag h s :: rest => (tagOf handles h s).map fun t => (⟨none, some t⟩, rest)
  | ts => some ({}, ts)

/-- The next token belongs to no node behind an entry of a block sequence. -/
def endsEntry : List Token → Bool
  | .blockEntry :: _ => true
  | .blockEnd :: _ => true
  | _ => false

/-- The next token belongs to no node behind a key or a value of a block mapping. -/
def endsPart : List Token → Bool
  | .key :: _ => true
  | .value :: _ => true
  | .blockEnd :: _ => true
  | _ => false

/-- The next token belongs to no node behind a key or a value inside brackets that close so. -/
def endsFlowPart (close : Token) : List Token → Bool
  | .value :: _ => true
  | .flowEntry :: _ => true
  | t :: _ => t = close
  | [] => false

/-- The value of a pair inside brackets: behind a colon, unless it is left out. -/
def flowValueTokens (close : Token) : List Token → Option (List Token) × List Token
  | .value :: rest =>
    match rest with
    | .flowEntry :: _ => (none, rest)
    | t :: _ => if t = close then (none, rest) else (some rest, rest)
    | [] => (some rest, rest)
  | ts => (none, ts)

mutual

/-- Reads a node; block collections only where they may stand, a sequence without indentation only
below a key. -/
def node (handles : List (String × Octets)) : Nat → Bool → Bool → List Token → Parse
  | 0, _, _, _ => none
  | fuel + 1, block, flush, ts =>
    match ts with
    | .alias name :: rest => some ([.alias name], rest)
    | _ =>
      match properties handles ts with
      | none => none
      | some (ps, ts) =>
        let collect (start stop : Event) (inner : Parse) : Parse :=
          inner.map fun (events, rest) => (start :: events ++ [stop], rest)
        match ts with
        | .scalar text style :: rest => some ([.scalar text style ps], rest)
        | .flowSequenceStart :: rest =>
          collect (.sequenceStart ps) .sequenceEnd (flowSequence handles fuel true rest)
        | .flowMappingStart :: rest =>
          collect (.mappingStart ps) .mappingEnd (flowMapping handles fuel true rest)
        | .blockEntry :: rest =>
          if flush then
            collect (.sequenceStart ps) .sequenceEnd (flushSequence handles fuel (.blockEntry :: rest))
          else if ps.anchor.isSome ∨ ps.tag.isSome then
            some ([.scalar "" .plain ps], .blockEntry :: rest)
          else none
        | _ =>
          match ts, block with
          | .sequenceStart :: rest, true =>
            collect (.sequenceStart ps) .sequenceEnd (blockSequence handles fuel rest)
          | .mappingStart :: rest, true =>
            collect (.mappingStart ps) .mappingEnd (blockMapping handles fuel rest)
          | _, _ =>
            if ps.anchor.isSome ∨ ps.tag.isSome then some ([.scalar "" .plain ps], ts) else none

/-- Reads the entries of a block sequence up to its end. -/
def blockSequence (handles : List (String × Octets)) : Nat → List Token → Parse
  | 0, _ => none
  | fuel + 1, ts =>
    match ts with
    | .blockEntry :: rest =>
      match if endsEntry rest then some ([omitted], rest) else node handles fuel true false rest with
      | none => none
      | some (events, rest) =>
        (blockSequence handles fuel rest).map fun (more, rest) => (events ++ more, rest)
    | .blockEnd :: rest => some ([], rest)
    | _ => none

/-- Reads the entries of a sequence without indentation, which ends before any other token. -/
def flushSequence (handles : List (String × Octets)) : Nat → List Token → Parse
  | 0, _ => none
  | fuel + 1, ts =>
    match ts with
    | .blockEntry :: rest =>
      match if endsEntry rest ∨ endsPart rest then some ([omitted], rest)
          else node handles fuel true false rest with
      | none => none
      | some (events, rest) =>
        (flushSequence handles fuel rest).map fun (more, rest) => (events ++ more, rest)
    | _ => some ([], ts)

/-- Reads the pairs of a block mapping up to its end. -/
def blockMapping (handles : List (String × Octets)) : Nat → List Token → Parse
  | 0, _ => none
  | fuel + 1, ts =>
    let part (rest : List Token) : Parse :=
      if endsPart rest then some ([omitted], rest) else node handles fuel true true rest
    match ts with
    | .key :: rest =>
      match part rest with
      | none => none
      | some (key, rest) =>
        let value := match rest with
          | .value :: rest => part rest
          | _ => some ([omitted], rest)
        match value with
        | none => none
        | some (value, rest) =>
          (blockMapping handles fuel rest).map fun (more, rest) => (key ++ value ++ more, rest)
    | .blockEnd :: rest => some ([], rest)
    | _ => none

/-- Reads the entries of a sequence in brackets up to the closing one. -/
def flowSequence (handles : List (String × Octets)) : Nat → Bool → List Token → Parse
  | 0, _, _ => none
  | fuel + 1, first, ts =>
    let entry (ts : List Token) : Parse :=
      match ts with
      | .flowSequenceEnd :: rest => some ([], rest)
      | .key :: rest =>
        let key :=
          if endsFlowPart .flowSequenceEnd rest then some ([omitted], rest.drop 1)
          else node handles fuel false false rest
        match key with
        | none => none
        | some (key, rest) =>
          let value := match flowValueTokens .flowSequenceEnd rest with
            | (some rest, _) => node handles fuel false false rest
            | (none, rest) => some ([omitted], rest)
          match value with
          | none => none
          | some (value, rest) =>
            (flowSequence handles fuel false rest).map fun (more, rest) =>
              (.mappingStart {} :: key ++ value ++ .mappingEnd :: more, rest)
      | _ =>
        match node handles fuel false false ts with
        | none => none
        | some (events, rest) =>
          (flowSequence handles fuel false rest).map fun (more, rest) => (events ++ more, rest)
    match ts, first with
    | .flowSequenceEnd :: rest, _ => some ([], rest)
    | .flowEntry :: rest, false => entry rest
    | _, true => entry ts
    | _, false => none

/-- Reads the pairs of a mapping in braces up to the closing one. -/
def flowMapping (handles : List (String × Octets)) : Nat → Bool → List Token → Parse
  | 0, _, _ => none
  | fuel + 1, first, ts =>
    let entry (ts : List Token) : Parse :=
      match ts with
      | .flowMappingEnd :: rest => some ([], rest)
      | .key :: rest =>
        let key :=
          if endsFlowPart .flowMappingEnd rest then some ([omitted], rest)
          else node handles fuel false false rest
        match key with
        | none => none
        | some (key, rest) =>
          let value := match flowValueTokens .flowMappingEnd rest with
            | (some rest, _) => node handles fuel false false rest
            | (none, rest) => some ([omitted], rest)
          match value with
          | none => none
          | some (value, rest) =>
            (flowMapping handles fuel false rest).map fun (more, rest) =>
              (key ++ value ++ more, rest)
      | _ =>
        match node handles fuel false false ts with
        | none => none
        | some (key, rest) =>
          (flowMapping handles fuel false rest).map fun (more, rest) =>
            (key ++ omitted :: more, rest)
    match ts, first with
    | .flowMappingEnd :: rest, _ => some ([], rest)
    | .flowEntry :: rest, false => entry rest
    | _, true => entry ts
    | _, false => none

end

/-- Reads the directives in front of a document: one version at most, and every handle once. -/
def directives : Bool → List (String × Octets) → List Token →
    Option (List (String × Octets) × List Token)
  | versioned, handles, .version major minor :: rest =>
    if versioned ∨ major ≠ 1 ∨ (minor ≠ 1 ∧ minor ≠ 2) then none else directives true handles rest
  | versioned, handles, .handle name stem :: rest =>
    if (handles.lookup name).isSome then none else directives versioned ((name, stem) :: handles) rest
  | _, handles, ts => some (handles ++ knownHandles, ts)

/-- The next token belongs to no node behind the mark of a document. -/
def endsDocument : List Token → Bool
  | [] => true
  | .version _ _ :: _ => true
  | .handle _ _ :: _ => true
  | .documentStart :: _ => true
  | .documentEnd :: _ => true
  | _ => false

/-- The events of the only document that the tokens make up; no events without a document. -/
def ofTokens? (ts : List Token) : Option (List Event) := do
  let fuel := 4 * ts.length + 4
  let (events, rest) ← match ts with
    | [] => some ([], [])
    | t :: _ => do
      let (handles, rest) ← directives false [] ts
      match rest with
      | .documentStart :: rest =>
        if endsDocument rest then some ([omitted], rest) else node handles fuel true false rest
      | _ => if endsDocument [t] then none else node handles fuel true false rest
  if (rest.dropWhile (· = .documentEnd)).isEmpty then some events else none

end Event

end SiteCache.Yaml
