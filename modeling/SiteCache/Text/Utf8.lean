import SiteCache.Octets

/-!
# UTF-8

`encode` writes a text as octets and `decode?` reads exactly such octets back; a byte string that is no
UTF-8 has a first `Defect`, found by reading one character after another from the front.  A lead
octet fixes how many octets its character takes and which second octets are legal
(`Lead`); the character is broken at the first octet that rules it out.  `lossy` reads every
byte string, with U+FFFD in place of each broken character.
-/

namespace SiteCache.Utf8

/-- The octets of a text. -/
def encode (s : String) : Octets := s.toUTF8.data.toList

/-- The text that the octets encode, if they encode one. -/
def decode? (b : Octets) : Option String := String.fromUTF8? ⟨b.toArray⟩

theorem decode?_encode (s : String) :
  decode? (encode s) = some s
  := by
  have whole : (⟨(encode s).toArray⟩ : ByteArray) = s.toByteArray := by simp [encode]
  rw [decode?, whole, String.fromUTF8?, dif_pos s.isValidUTF8]
  rfl

theorem encode_of_decode? {b : Octets} {s : String} (h : decode? b = some s) :
  encode s = b
  := by
  simp only [decode?, String.fromUTF8?] at h
  split at h
  · cases h
    simp [encode, String.fromUTF8]
  · simp at h

/-- What a lead octet announces: how many octets follow it and the range of the first of them. -/
structure Lead where
  follow : Nat
  least : UInt8
  most : UInt8

/-- The lead octets; continuation octets, overlong leads and leads beyond U+10FFFF are none. -/
def lead? (o : UInt8) : Option Lead :=
  if o < 0x80 then some ⟨0, 0, 0⟩
  else if o < 0xC2 then none
  else if o < 0xE0 then some ⟨1, 0x80, 0xBF⟩
  else if o = 0xE0 then some ⟨2, 0xA0, 0xBF⟩
  else if o = 0xED then some ⟨2, 0x80, 0x9F⟩
  else if o < 0xF0 then some ⟨2, 0x80, 0xBF⟩
  else if o = 0xF0 then some ⟨3, 0x90, 0xBF⟩
  else if o < 0xF4 then some ⟨3, 0x80, 0xBF⟩
  else if o = 0xF4 then some ⟨3, 0x80, 0x8F⟩
  else none

/-- Continuation octets. -/
def isContinuation (o : UInt8) : Bool := 0x80 ≤ o && o ≤ 0xBF

/-- How the first character of a byte string reads. -/
inductive Reading where
  /-- A whole character of so many octets. -/
  | whole (width : Nat)
  /-- So many octets begin a character that the next octet rules out. -/
  | broken (width : Nat)
  /-- The end of the byte string cuts the character short. -/
  | cut

/-- Checks the octets that follow a lead, of which `read` octets in all are read so far. -/
def followers : Nat → Nat → UInt8 → UInt8 → Octets → Reading
  | 0, read, _, _, _ => .whole read
  | _ + 1, _, _, _, [] => .cut
  | n + 1, read, least, most, o :: rest =>
    if least ≤ o ∧ o ≤ most then followers n (read + 1) 0x80 0xBF rest else .broken read

/-- Reads the character at the front of a byte string with this lead octet. -/
def reading (o : UInt8) (rest : Octets) : Reading :=
  match lead? o with
  | none => .broken 1
  | some l => followers l.follow 1 l.least l.most rest

/-- Where and how a byte string stops being UTF-8. -/
inductive Defect where
  /-- At this index, so many octets are no character and no beginning of one. -/
  | invalid (width index : Nat)
  /-- At this index begins a character that the end cuts short. -/
  | incomplete (index : Nat)
  deriving DecidableEq, Repr

/-- The text of a defect. -/
def Defect.message : Defect → String
  | .invalid width index =>
    "invalid utf-8 sequence of " ++ toString width ++ " bytes from index " ++ toString index
  | .incomplete index => "incomplete utf-8 byte sequence from index " ++ toString index

/-- The first defect of a byte string whose first octet has index `at`, read in at most `fuel`
characters. -/
def defectFrom : Nat → Nat → Octets → Option Defect
  | 0, _, _ => none
  | _ + 1, _, [] => none
  | fuel + 1, index, o :: rest =>
    match reading o rest with
    | .whole width => defectFrom fuel (index + width) (rest.drop (width - 1))
    | .broken width => some (.invalid width index)
    | .cut => some (.incomplete index)

/-- The first defect of a byte string. -/
def defect? (b : Octets) : Option Defect := defectFrom b.length 0 b

/-- The text of a byte string, or its first defect. -/
def decode (b : Octets) : Except Defect String :=
  match decode? b with
  | some s => .ok s
  | none => .error ((defect? b).getD (.incomplete 0))

/-- The character that octets of a whole character denote: six bits from each continuation octet,
and from the lead what its width leaves. -/
def scalar : Octets → Char
  | [] => '\uFFFD'
  | o :: follow =>
    let top := match follow.length with
      | 0 => o.toNat
      | 1 => o.toNat % 32
      | 2 => o.toNat % 16
      | _ => o.toNat % 8
    Char.ofNat (follow.foldl (fun n c => n * 64 + c.toNat % 64) top)

/-- Reads at most `fuel` characters, with U+FFFD for each broken one. -/
def lossyChars : Nat → Octets → List Char
  | 0, _ => []
  | _ + 1, [] => []
  | fuel + 1, o :: rest =>
    match reading o rest with
    | .whole width => scalar (o :: rest.take (width - 1)) :: lossyChars fuel (rest.drop (width - 1))
    | .broken width => '\uFFFD' :: lossyChars fuel (rest.drop (width - 1))
    | .cut => ['\uFFFD']

/-- The text of a byte string, with U+FFFD in place of what is no UTF-8. -/
def lossy (b : Octets) : String :=
  match decode? b with
  | some s => s
  | none => String.ofList (lossyChars b.length b)

theorem lossy_of_decode? {b : Octets} {s : String} (h : decode? b = some s) :
  lossy b = s
  := by
  simp [lossy, h]

end SiteCache.Utf8
