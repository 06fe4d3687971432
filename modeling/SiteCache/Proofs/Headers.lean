import SiteCache.Headers

/-!
# Stored headers are read back

The printer and the reader of JSON meet on objects of texts.  An octet of a text is written as
itself, as an escape of one letter or as an escape of four hexadecimal digits (`Json.escape`), and
`Json.textRest` reads each of them as that octet.  From there the proof goes outwards, over texts,
members and objects, to the headers that are stored as such an object (`Headers.decode?_encode_eq`).
-/

namespace SiteCache

namespace Json

/-! ### Texts -/

private theorem hexWord?_hexDigit {o : UInt8} (control : o < 0x20) :
  hexWord? (ascii '0') (ascii '0') (hexDigit (o.toNat / 16)) (hexDigit (o.toNat % 16))
    = some o.toNat
  := by
  have digits : ∀ n : Fin 32, hexWord? (ascii '0') (ascii '0') (hexDigit (n.val / 16))
      (hexDigit (n.val % 16)) = some n.val := by decide
  apply digits ⟨o.toNat, control⟩

private theorem charOctets_control {o : UInt8} (control : o < 0x20) :
  charOctets (Char.ofNat o.toNat) = [o]
  := by
  have octets : ∀ n : Fin 32, charOctets (Char.ofNat n.val) = [UInt8.ofNat n.val] := by decide
  have octet := octets ⟨o.toNat, control⟩
  rwa [UInt8.ofNat_toNat] at octet

private theorem backslash_facts :
  ascii '\\' ≠ ascii '"' ∧ ¬ ascii '\\' < 0x20
  := by decide

theorem textRest_quote (rest : Octets) :
  textRest (ascii '"' :: rest) = some (some [], rest)
  := by
  rw [textRest.eq_def]
  simp

theorem textRest_letter {e o : UInt8} (letter : e ≠ ascii 'u') (h : letterEscape? e = some o)
    (rest : Octets) :
  textRest (ascii '\\' :: e :: rest)
    = (textRest rest).map fun (content, r) => (content.map (o :: ·), r)
  := by
  rw [textRest.eq_def]
  simp only [backslash_facts, letter, h, if_false, if_true]

theorem textRest_control {o : UInt8} (control : o < 0x20) (rest : Octets) :
  textRest ([ascii '\\', ascii 'u', ascii '0', ascii '0', hexDigit (o.toNat / 16),
      hexDigit (o.toNat % 16)] ++ rest)
    = (textRest rest).map fun (content, r) => (content.map (o :: ·), r)
  := by
  have scalar : Unit16.ofNat o.toNat = .scalar (Char.ofNat o.toNat) := by
    have : o.toNat < 32 := control
    rw [Unit16.ofNat, if_neg (by omega), if_neg (by omega)]
  rw [textRest.eq_def]
  simp only [List.cons_append, List.nil_append, backslash_facts, if_false, if_true,
    hexWord?_hexDigit control, Option.map_some, scalar, charOctets_control control]

/-- However an octet of a text is written, it is read back in front of what follows it. -/
theorem textRest_escape (o : UInt8) (rest : Octets) :
  textRest (escape o ++ rest) = (textRest rest).map fun (content, r) => (content.map (o :: ·), r)
  := by
  unfold escape
  split
  next quote => exact textRest_letter (by subst quote; decide) (by subst quote; decide) rest
  next noQuote =>
  split
  next slash => exact textRest_letter (by subst slash; decide) (by subst slash; decide) rest
  next noSlash =>
  split
  next h => exact textRest_letter (by decide) (by subst h; decide) rest
  split
  next h => exact textRest_letter (by decide) (by subst h; decide) rest
  split
  next h => exact textRest_letter (by decide) (by subst h; decide) rest
  split
  next h => exact textRest_letter (by decide) (by subst h; decide) rest
  split
  next h => exact textRest_letter (by decide) (by subst h; decide) rest
  split
  next control => exact textRest_control control rest
  next plain =>
    rw [textRest.eq_def]
    simp only [List.singleton_append, noQuote, noSlash, plain, if_false]

theorem textRest_flatMap_escape (content rest : Octets) :
  textRest (content.flatMap escape ++ ascii '"' :: rest) = some (some content, rest)
  := by
  induction content with
  | nil => apply textRest_quote
  | cons o content ih =>
      rw [List.flatMap_cons, List.append_assoc, textRest_escape, ih]
      rfl

/-- A printed text is read back behind its opening quote. -/
theorem textBody_flatMap_escape (s : String) (rest : Octets) :
  textBody ((Utf8.encode s).flatMap escape ++ ascii '"' :: rest) = some (some s, rest)
  := by
  rw [textBody, textRest_flatMap_escape]
  simp [Utf8.decode?_encode]

/-! ### Objects of texts -/

theorem skip_cons {o : UInt8} (h : isSpace o = false) (rest : Octets) :
  skip (o :: rest) = o :: rest
  := by
  simp [skip, h]

theorem value_printText (fuel : Nat) (s : String) (rest : Octets) :
  value (fuel + 1) (printText s ++ rest) = some (.text (some s), rest)
  := by
  rw [printText, List.cons_append, List.append_assoc, value, skip_cons (by decide)]
  simp only [if_true, List.singleton_append, textBody_flatMap_escape, Option.map_some]

/-- The octets of a member that names a text. -/
def printMember (m : String × String) : Octets := printText m.1 ++ ascii ':' :: printText m.2

/-- What such a member is read as. -/
def textMember (m : String × String) : Option String × Json := (some m.1, .text (some m.2))

/-- A printed member is read back, and the octet behind it decides whether another one follows. -/
theorem members_printMember (fuel : Nat) (m : String × String) {o : UInt8}
    (tail : isSpace o = false) (rest : Octets) :
  members (fuel + 2) (printMember m ++ o :: rest)
    = if o = ascii '\x7d' then some ([textMember m], rest)
      else if o = ascii ',' then
        (members (fuel + 1) rest).map fun (ms, r) => (textMember m :: ms, r)
      else none
  := by
  rw [printMember, printText, List.cons_append, List.cons_append, List.append_assoc,
    List.append_assoc, members, skip_cons (by decide)]
  simp only [ne_eq, not_true_eq_false, if_false, List.cons_append, List.nil_append,
    textBody_flatMap_escape]
  rw [skip_cons (by decide)]
  simp only [not_true_eq_false, if_false, value_printText, skip_cons tail, textMember]

theorem members_commaSeparated (fuel : Nat) (m : String × String) (ms : List (String × String))
    (fits : ms.length < fuel) (rest : Octets) :
  members (fuel + 1) (commaSeparated ((m :: ms).map printMember) ++ ascii '\x7d' :: rest)
    = some ((m :: ms).map textMember, rest)
  := by
  induction ms generalizing fuel m with
  | nil =>
      obtain ⟨fuel, rfl⟩ := Nat.exists_eq_add_of_lt fits
      rw [List.map_cons, List.map_nil, commaSeparated, List.length_nil, Nat.zero_add,
        members_printMember _ _ (by decide)]
      simp
  | cons next ms ih =>
      obtain ⟨fuel, rfl⟩ : ∃ n, fuel = n + 1 := ⟨fuel - 1, by omega⟩
      have later := ih fuel next (by simpa using fits)
      rw [List.map_cons, List.map_cons, commaSeparated, List.append_assoc, List.cons_append,
        members_printMember _ _ (by decide), ← List.map_cons, later]
      · simp [show ascii ',' ≠ ascii '\x7d' by decide]
      · simp

theorem length_le_commaSeparated (ms : List (String × String)) :
  ms.length ≤ (commaSeparated (ms.map printMember)).length
  := by
  induction ms with
  | nil => exact Nat.zero_le _
  | cons m ms ih =>
      cases ms with
      | nil =>
          simp only [List.map_cons, List.map_nil, commaSeparated, printMember, printText,
            List.length_append, List.length_cons, List.length_nil]
          omega
      | cons next ms =>
          simp only [List.map_cons, commaSeparated, List.length_append, List.length_cons] at ih ⊢
          omega

private theorem commaSeparated_opening (m : String × String) (ms : List (String × String)) :
  ∃ rest, commaSeparated ((m :: ms).map printMember) = ascii '"' :: rest
  := by
  cases ms with
  | nil => exact ⟨_, rfl⟩
  | cons next ms => exact ⟨_, rfl⟩

/-- A printed object of texts is read back. -/
theorem read?_printObject (ms : List (String × String)) :
  read? (printObject (ms.map fun m => (m.1, printText m.2))) = some (.object (ms.map textMember))
  := by
  have printed : (ms.map fun m => (m.1, printText m.2)).map
      (fun m => printText m.1 ++ ascii ':' :: m.2) = ms.map printMember := by
    rw [List.map_map]
    rfl
  have brace : ascii '\x7b' ≠ ascii '"' ∧ ascii '\x7b' ≠ ascii '[' := by decide
  rw [printObject, printed, read?]
  generalize enough : 2 * List.length _ + 2 = fuel
  have long := length_le_commaSeparated ms
  obtain ⟨fuel, rfl⟩ : ∃ n, fuel = n + 2 := ⟨fuel - 2, by omega⟩
  simp only [List.length_cons, List.length_append, List.length_nil] at enough
  rw [value, skip_cons (by decide)]
  cases ms with
  | nil =>
      have close : skip [ascii '\x7d'] = [ascii '\x7d'] := by decide
      simp only [List.map_nil, commaSeparated, List.nil_append, brace, if_false, if_true, close]
      rfl
  | cons m ms =>
      rw [List.length_cons] at long
      have inner := members_commaSeparated fuel m ms (by omega) []
      obtain ⟨rest, opening⟩ := commaSeparated_opening m ms
      have quote : ascii '"' ≠ ascii '\x7d' ∧ isSpace (ascii '"') = false := by decide
      rw [opening, List.cons_append] at inner ⊢
      simp only [brace, quote, if_false, if_true, skip_cons quote.2, inner, Option.map_some]
      rfl

end Json

namespace Headers

/-- Stored headers are read back as they were. -/
theorem decode?_encode_eq (h : Headers) :
  decode? (encode h) = some h
  := by
  have pairs : ∀ ms : List (String × String), (ms.map Json.textMember).mapM pair? = some ms := by
    intro ms
    induction ms with
    | nil => rfl
    | cons m ms ih => simp [ih, Json.textMember, pair?]
  rw [decode?, encode, Json.read?_printObject]
  simp only [pairs, Option.map_some, Table.ofList_entries]

end Headers

end SiteCache
