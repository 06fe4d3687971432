import SiteCache.Text.Utf8
import SiteCache.Yaml.Text

/-!
# YAML tokens

A document is cut into tokens from left to right.  Indentation becomes tokens that open and close
blocks.  A mapping key is known as one only at the colon behind it, so every token that may begin
a key is remembered (`Candidate`) until the line ends, and the tokens that announce the key are put
in front of it later.  `Token.scan` answers the tokens of a whole text, or `none` if some part of it
is no token.
-/

namespace SiteCache.Yaml

/-- How a scalar is written. -/
inductive Style where
  | plain
  | single
  | double
  | literal
  | folded
  deriving DecidableEq

/-- The tokens of a document. -/
inductive Token where
  | version (major minor : Nat)
  | handle (name : String) (stem : Octets)
  | documentStart
  | documentEnd
  | sequenceStart
  | mappingStart
  | blockEnd
  | flowSequenceStart
  | flowSequenceEnd
  | flowMappingStart
  | flowMappingEnd
  | blockEntry
  | flowEntry
  | key
  | value
  | alias (name : String)
  | anchor (name : String)
  | tag (handle : String) (suffix : Octets)
  | scalar (text : String) (style : Style)
  deriving DecidableEq

/-- A token that may begin a key: whether it has to, how many tokens stand before it, and where it
begins. -/
structure Candidate where
  required : Bool
  number : Nat
  place : Place

/-- The state between two tokens: the place, the tokens so far with the newest first and how many they
are, the columns of the open blocks, how many brackets are open, whether a key may begin here, and
the candidate of each bracket level. -/
structure Scanner where
  place : Place
  tokens : List Token := []
  count : Nat := 0
  indent : Int := -1
  outer : List Int := []
  flow : Nat := 0
  keyAllowed : Bool := true
  candidate : Option Candidate := none
  candidates : List (Option Candidate) := []

namespace Scanner

/-- Appends a token. -/
def push (s : Scanner) (t : Token) : Scanner :=
  { s with tokens := t :: s.tokens, count := s.count + 1 }

/-- Puts a token behind the first `number` tokens. -/
def insert (s : Scanner) (number : Nat) (t : Token) : Scanner :=
  let newer := s.count - number
  { s with tokens := s.tokens.take newer ++ t :: s.tokens.drop newer, count := s.count + 1 }

/-- Moves on in the same line. -/
def skip (s : Scanner) (n : Nat) : Scanner := { s with place := s.place.skip n }

/-- Opens a block at a column, unless it is open or brackets are, with a token behind the first
`number` tokens. -/
def openBlock (s : Scanner) (column : Nat) (number : Nat) (t : Token) : Scanner :=
  if s.flow = 0 ∧ s.indent < column then
    { s.insert number t with outer := s.indent :: s.outer, indent := column }
  else s

/-- Closes the blocks to the right of a column, with a token for each. -/
def closeBlocks (s : Scanner) (column : Int) : Scanner :=
  if s.flow ≠ 0 then s
  else go s.outer s
where
  /-- Closes blocks as long as the innermost one lies to the right of the column. -/
  go : List Int → Scanner → Scanner
    | [], s => s
    | next :: more, s =>
      if column < s.indent then go more { s.push .blockEnd with indent := next, outer := more } else s

/-- Gives the candidate of the current level up, unless it had to be a key. -/
def dropCandidate (s : Scanner) : Option Scanner :=
  if s.candidate.any (·.required) then none else some { s with candidate := none }

/-- Remembers this place as the possible beginning of a key. -/
def saveCandidate (s : Scanner) : Option Scanner :=
  if s.keyAllowed then do
    let required := s.flow = 0 ∧ s.indent = s.place.column
    let s ← s.dropCandidate
    pure { s with candidate := some ⟨required, s.count, s.place⟩ }
  else some s

/-- A key ends in the line in which it begins, and after 1024 octets at most. -/
def isStale (s : Scanner) (c : Candidate) : Bool :=
  c.place.line < s.place.line || c.place.index + 1024 < s.place.index

/-- Gives the candidates of all levels up that can no longer be keys. -/
def dropStale (s : Scanner) : Option Scanner :=
  let stale (c : Option Candidate) : Bool := c.any s.isStale
  let broken (c : Option Candidate) : Bool := stale c && c.any (·.required)
  if broken s.candidate || s.candidates.any broken then none
  else
    let live (c : Option Candidate) := if stale c then none else c
    some { s with candidate := live s.candidate, candidates := s.candidates.map live }

/-- The byte order mark. -/
def isOrderMark (c : Char) : Bool := c.toNat = 0xFEFF

/-- Moves on to the next token, across blanks, comments and line breaks.  A byte order mark may begin
a line and takes up the first column of it.  Tabs are blanks except where a key may begin in a
block. -/
def toToken : Nat → Scanner → Scanner
  | 0, s => s
  | fuel + 1, s =>
    let p := s.place
    let p := if p.column = 0 ∧ starts isOrderMark p.rest then p.skip 1 else p
    let blank (c : Char) : Bool := c = ' ' || (c = '\t' && (s.flow ≠ 0 || !s.keyAllowed))
    let p := p.skipWhile blank
    let p := if starts (· = '#') p.rest then p.skipWhile (!isBreak ·) else p
    match p.nextLine? with
    | some (_, below) =>
      toToken fuel { s with place := below, keyAllowed := s.keyAllowed || s.flow = 0 }
    | none => { s with place := p }

/-! ### Names, tags and directives -/

/-- Reads the name of an anchor behind its sign. -/
def readName (p : Place) : Option (String × Place) :=
  let name := p.rest.takeWhile isWord
  let p := p.skip name.length
  if name.isEmpty then none
  else if atGap p.rest || starts ("?:,]\x7d%@`".toList.contains ·) p.rest then
    some (String.ofList name, p)
  else none

/-- The characters that tags and their stems are made of, besides percent escapes. -/
def isTagChar (verbatim : Bool) (c : Char) : Bool :=
  isWord c || ";/?:@&=+$.!~*'()".toList.contains c || (verbatim && ",[]".toList.contains c)

/-- How many octets have to follow the lead octet of an escaped character. -/
def followers? (lead : UInt8) : Option Nat :=
  if lead < 0x80 then some 0
  else if lead < 0xC0 then none
  else if lead < 0xE0 then some 1
  else if lead < 0xF0 then some 2
  else if lead < 0xF8 then some 3
  else none

/-- The octets of tag characters, with how many characters write them.  Percent escapes stand for
octets; those of a character, of which so many are still to come, stand side by side. -/
def tagOctets (verbatim : Bool) : Nat → List Char → Option (Octets × Nat)
  | pending, [] => if pending = 0 then some ([], 0) else none
  | pending, '%' :: a :: b :: rest => do
    let octet := UInt8.ofNat (16 * (← hexDigit? a) + (← hexDigit? b))
    let pending ←
      if pending = 0 then followers? octet
      else if Utf8.isContinuation octet then some (pending - 1)
      else none
    let (octets, n) ← tagOctets verbatim pending rest
    pure (octet :: octets, n + 3)
  | pending, c :: rest =>
    if c = '%' ∨ pending ≠ 0 then none
    else if isTagChar verbatim c then do
      let (octets, n) ← tagOctets verbatim 0 rest
      pure (Utf8.encode (String.singleton c) ++ octets, n + 1)
    else some ([], 0)

/-- Reads the text of a tag.  It ends before its first octet zero; also answers whether anything is
written at all. -/
def readTagText (verbatim : Bool) (p : Place) : Option (Octets × Bool × Place) := do
  let (octets, n) ← tagOctets verbatim 0 p.rest
  pure (octets.takeWhile (· ≠ 0), n ≠ 0, p.skip n)

/-- Reads a handle: an exclamation mark, or a word between two of them. -/
def readHandle (p : Place) : Option (String × Bool × Place) :=
  match p.rest with
  | '!' :: rest =>
    let name := rest.takeWhile isWord
    let closed := starts (· = '!') (rest.drop name.length)
    let length := name.length + if closed then 2 else 1
    some (String.ofList (p.rest.take length), closed, p.skip length)
  | _ => none

/-- Reads a tag: in angle brackets, behind a handle, or behind a single exclamation mark. -/
def readTag (flow : Bool) (p : Place) : Option (Token × Place) := do
  let (tag, p) ← match p.rest with
    | '!' :: '<' :: _ => do
      let (text, written, q) ← readTagText true (p.skip 2)
      if !written ∨ !starts (· = '>') q.rest then none
      pure (Token.tag "" text, q.skip 1)
    | _ => do
      let (handle, closed, q) ← readHandle p
      let (text, written, r) ← readTagText false q
      if closed then
        if !written then none
        pure (Token.tag handle text, r)
      else
        let suffix := (Utf8.encode handle).drop 1 ++ text
        pure (if suffix.isEmpty then Token.tag "" (Utf8.encode "!") else Token.tag "!" suffix, r)
  if atGap p.rest ∨ (flow ∧ starts (· = ',') p.rest) then pure (tag, p) else none

/-- Reads a number of at most nine digits. -/
def readNumber (p : Place) : Option (Nat × Place) :=
  let digits := p.rest.takeWhile Char.isDigit
  if digits.isEmpty ∨ 9 < digits.length then none
  else some (digits.foldl (fun n d => 10 * n + (d.toNat - 0x30)) 0, p.skip digits.length)

/-- Reads a directive behind its percent sign: the version of the language or a tag handle. -/
def readDirective (p : Place) : Option (Token × Place) := do
  let name := p.rest.takeWhile isWord
  let p := p.skip name.length
  if !atGap p.rest then none
  let p := p.skipWhile isBlank
  let (t, p) ← match String.ofList name with
    | "YAML" => do
      let (major, p) ← readNumber p
      if !starts (· = '.') p.rest then none
      let (minor, p) ← readNumber (p.skip 1)
      pure (Token.version major minor, p)
    | "TAG" => do
      let (handle, closed, p) ← readHandle p
      if (!closed ∧ handle ≠ "!") ∨ !starts isBlank p.rest then none
      let (stem, written, p) ← readTagText true (p.skipWhile isBlank)
      if !written ∨ !atGap p.rest then none
      pure (Token.handle handle stem, p)
    | _ => none
  let p := p.skipWhile isBlank
  let p := if starts (· = '#') p.rest then p.skipWhile (!isBreak ·) else p
  if !atBreak p.rest then none
  pure (t, match p.nextLine? with
    | some (_, below) => below
    | none => p)

/-! ### Single tokens -/

/-- A directive or a mark between documents closes all blocks. -/
def betweenDocuments (s : Scanner) : Option Scanner := do
  let s ← (s.closeBlocks (-1)).dropCandidate
  pure { s with keyAllowed := false }

/-- Opens brackets. -/
def openFlow (s : Scanner) (t : Token) : Option Scanner := do
  let s ← s.saveCandidate
  let s := { s with
    flow := s.flow + 1
    keyAllowed := true
    candidates := s.candidate :: s.candidates
    candidate := none }
  pure ((s.skip 1).push t)

/-- Closes brackets. -/
def closeFlow (s : Scanner) (t : Token) : Option Scanner := do
  let s ← s.dropCandidate
  let s := match s.candidates with
    | c :: more => { s with flow := s.flow - 1, candidate := c, candidates := more }
    | [] => s
  pure (({ s with keyAllowed := false }.skip 1).push t)

/-- An entry of a sequence by its hyphen; in a block it opens the sequence. -/
def entry (s : Scanner) : Option Scanner := do
  if s.flow = 0 ∧ !s.keyAllowed then none
  let s := s.openBlock s.place.column s.count .sequenceStart
  let s ← s.dropCandidate
  pure (({ s with keyAllowed := true }.skip 1).push .blockEntry)

/-- A key by its question mark; in a block it opens the mapping. -/
def explicitKey (s : Scanner) : Option Scanner := do
  if s.flow = 0 ∧ !s.keyAllowed then none
  let s := s.openBlock s.place.column s.count .mappingStart
  let s ← s.dropCandidate
  pure (({ s with keyAllowed := s.flow = 0 }.skip 1).push .key)

/-- A value by its colon, of the candidate if there is one. -/
def keyedValue (s : Scanner) : Option Scanner := do
  let s ← match s.candidate with
    | some c =>
      let s := s.insert c.number .key
      let s := s.openBlock c.place.column c.number .mappingStart
      pure { s with candidate := none, keyAllowed := false }
    | none => do
      if s.flow = 0 ∧ !s.keyAllowed then none
      let s := s.openBlock s.place.column s.count .mappingStart
      pure { s with keyAllowed := s.flow = 0 }
  pure ((s.skip 1).push .value)

/-- A token that may begin a key, read by `read`. -/
def keyPart (s : Scanner) (read : Place → Option (Token × Place)) : Option Scanner := do
  let s ← s.saveCandidate
  let (t, p) ← read s.place
  pure ({ s with keyAllowed := false, place := p }.push t)

/-- A block scalar, where at most `limit` characters are left. -/
def block (s : Scanner) (literal : Bool) (limit : Nat) : Option Scanner := do
  let s ← s.dropCandidate
  let (text, p) ← readBlock literal s.indent limit (s.place.skip 1)
  let t := Token.scalar (String.ofList text) (if literal then .literal else .folded)
  pure ({ s with keyAllowed := true, place := p }.push t)

/-- A quoted scalar, where at most `limit` characters are left. -/
def quoted (s : Scanner) (single : Bool) (limit : Nat) : Option Scanner :=
  s.keyPart fun p => do
    let (text, q) ← readQuoted single (limit + 1) (p.skip 1)
    pure (.scalar (String.ofList text) (if single then .single else .double), q)

/-- A plain scalar, where at most `limit` characters are left; behind a line break a key may begin
again. -/
def plain (s : Scanner) (limit : Nat) : Option Scanner := do
  let s ← s.saveCandidate
  let (text, below, p) ←
    readPlain (s.flow ≠ 0) (s.indent + 1).toNat (limit + 1) {} s.place
  pure ({ s with keyAllowed := below, place := p }.push (.scalar (String.ofList text) .plain))

/-- A plain scalar may begin with these characters. -/
def beginsPlain (flow : Bool) : List Char → Bool
  | [] => false
  | c :: rest =>
    !(isBlank c || isBreak c || "-?:,[]\x7b\x7d#&*!|>'\"%@`".toList.contains c)
      || (c = '-' && !starts isBlank rest)
      || (!flow && (c = '?' || c = ':') && !atGap rest)

/-- Reads the token at this place, where at most `limit` characters are left. -/
def token (s : Scanner) (limit : Nat) : Option Scanner :=
  let p := s.place
  let flow := s.flow ≠ 0
  match p.rest with
  | [] => none
  | c :: rest =>
    if p.column = 0 ∧ c = '%' then do
      let s ← s.betweenDocuments
      let (t, q) ← readDirective (p.skip 1)
      pure ({ s with place := q }.push t)
    else if p.hasMark '-' then do pure (((← s.betweenDocuments).skip 3).push .documentStart)
    else if p.hasMark '.' then do pure (((← s.betweenDocuments).skip 3).push .documentEnd)
    else if c = '[' then s.openFlow .flowSequenceStart
    else if c = '\x7b' then s.openFlow .flowMappingStart
    else if c = ']' then s.closeFlow .flowSequenceEnd
    else if c = '\x7d' then s.closeFlow .flowMappingEnd
    else if c = ',' then do
      pure (({ (← s.dropCandidate) with keyAllowed := true }.skip 1).push .flowEntry)
    else if c = '-' ∧ atGap rest then s.entry
    else if c = '?' ∧ (flow ∨ atGap rest) then s.explicitKey
    else if c = ':' ∧ (flow ∨ atGap rest) then s.keyedValue
    else if c = '*' then
      s.keyPart fun p => (readName (p.skip 1)).map fun (name, q) => (.alias name, q)
    else if c = '&' then
      s.keyPart fun p => (readName (p.skip 1)).map fun (name, q) => (.anchor name, q)
    else if c = '!' then s.keyPart (readTag flow)
    else if c = '|' ∧ !flow then s.block true limit
    else if c = '>' ∧ !flow then s.block false limit
    else if c = '\'' then s.quoted true limit
    else if c = '"' then s.quoted false limit
    else if beginsPlain flow (c :: rest) then s.plain limit
    else none

/-- Reads all tokens up to the end of the text, where at most so many characters are left; every token
takes at least one of them. -/
def run : Nat → Scanner → Option Scanner
  | 0, _ => none
  | limit + 1, s => do
    let s ← (toToken (limit + 1) s).dropStale
    let s := s.closeBlocks s.place.column
    if s.place.rest.isEmpty then (s.closeBlocks (-1)).dropCandidate
    else run limit (← s.token limit)

end Scanner

/-- The tokens of a text. -/
def Token.scan (text : List Char) : Option (List Token) :=
  if text.all isPrintable then
    (Scanner.run (text.length + 2) { place := { rest := text } }).map (·.tokens.reverse)
  else none

end SiteCache.Yaml
