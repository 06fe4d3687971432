import SiteCache.Identity

/-!
# Encoded identities

The length in front of a component has eight octets, so that `Identity.encode` loses nothing as long
as both components are shorter than the number of words, that is, for every identity that
`Fits`.  On these `decode` is the inverse of `encode`, and it accepts nothing but their encodings.
Every other byte string is `Identity.Malformed` in exactly one way, which is the fault that `decode`
answers (`Identity.decode_eq_error_iff`): a component is cut short or illegible, or something
follows the second one.  So no encoding is the beginning of another.
-/

namespace SiteCache

/-- Steps that answer one after the other answer each. -/
theorem exists_of_bind_eq_ok {ε α β : Type} {first : Except ε α} {next : α → Except ε β} {y : β}
    (h : first >>= next = .ok y) :
  ∃ x, first = .ok x ∧ next x = .ok y
  := by
  cases first with
  | error fault => cases h
  | ok x => exact ⟨x, rfl, h⟩

theorem Utf8.decode_encode (s : String) :
  Utf8.decode (Utf8.encode s) = .ok s
  := by
  rw [Utf8.decode, Utf8.decode?_encode]

theorem Utf8.encode_of_decode {b : Octets} {s : String} (h : Utf8.decode b = .ok s) :
  Utf8.encode s = b
  := by
  rw [Utf8.decode] at h
  split at h
  next text =>
    cases h
    exact Utf8.encode_of_decode? text
  next => cases h

/-- What is the encoding of no text has a defect. -/
theorem Utf8.exists_defect {b : Octets} (illegible : ∀ s, Utf8.encode s ≠ b) :
  ∃ defect, Utf8.decode b = .error defect
  := by
  cases text : Utf8.decode b with
  | ok s => exact absurd (Utf8.encode_of_decode text) (illegible s)
  | error defect => exact ⟨defect, rfl⟩

namespace Octets

/-- The length of a byte string that was framed is a word. -/
theorem length_lt_of_unframe? {b part rest : Octets} (h : unframe? b = some (part, rest)) :
  part.length < wordBound
  := by
  simp only [unframe?] at h
  split at h
  next fits =>
    obtain ⟨rfl, -⟩ := Prod.mk.inj (Option.some.inj h)
    have below := toNat_lt (b.take 8)
    rw [List.length_take, Nat.min_eq_left fits.1] at below
    rwa [List.length_take, Nat.min_eq_left fits.2]
  next => cases h

/-- No framed byte string is at the front if the octets of the length are cut short, or if it
promises more than follows. -/
theorem unframe?_eq_none_iff {b : Octets} :
  unframe? b = none
    ↔ b.length < 8
      ∨ ∃ size rest, size < wordBound ∧ rest.length < size ∧ b = bigEndian 8 size ++ rest
  := by
  simp only [unframe?, ite_eq_right_iff, reduceCtorEq, imp_false, not_and, Nat.not_le]
  constructor
  · intro broken
    by_cases long : 8 ≤ b.length
    · have word := toNat_lt (b.take 8)
      have front := bigEndian_toNat (b.take 8)
      rw [List.length_take, Nat.min_eq_left long] at word front
      refine .inr ⟨_, b.drop 8, word, broken long, ?_⟩
      rw [front, List.take_append_drop]
    · exact .inl (Nat.lt_of_not_le long)
  · rintro (short | ⟨size, rest, word, beyond, rfl⟩) long
    · omega
    · rwa [List.take_left' (length_bigEndian 8 size), toNat_bigEndian, capacity_eight,
        Nat.mod_eq_of_lt word, List.drop_left' (length_bigEndian 8 size)]

end Octets

namespace Identity

variable {i j : Identity} {b rest : Octets} {fault : StorageFault}

/-- The octets of both components can be counted in a word. -/
def Fits (i : Identity) : Prop :=
  (Utf8.encode i.address).length < wordBound ∧ (Utf8.encode i.resource).length < wordBound

instance (i : Identity) : Decidable i.Fits := inferInstanceAs (Decidable (_ ∧ _))

theorem decodePart_encodePart {s : String} (fits : (Utf8.encode s).length < wordBound)
    (rest : Octets) :
  decodePart (encodePart s ++ rest) = .ok (s, rest)
  := by
  rw [decodePart, encodePart, Octets.unframe?_framed fits, Option.elim_some, Utf8.decode_encode]

/-- Two components are read one after the other, and nothing may follow them. -/
theorem decode_of_parts {behind : Octets} {address resource : String}
    (first : decodePart b = .ok (address, behind))
    (second : decodePart behind = .ok (resource, rest)) :
  decode b = if rest.isEmpty then .ok ⟨address, resource⟩ else .error (.trailingOctets rest.length)
  := by
  rw [decode, first]
  simp only [bind, Except.bind, second]
  rfl

/-- An encoded identity is read back. -/
theorem decode_encode (fits : i.Fits) :
  decode i.encode = .ok i
  := by
  have resource := decodePart_encodePart fits.2 []
  rw [List.append_nil] at resource
  rw [encode, decode_of_parts (decodePart_encodePart fits.1 _) resource, List.isEmpty_nil,
    if_pos rfl]

/-- Identities that fit are told apart by their encodings. -/
theorem encode_inj (fitsI : i.Fits) (fitsJ : j.Fits) :
  i.encode = j.encode ↔ i = j
  := by
  constructor
  · intro same
    have read := decode_encode fitsI
    rw [same, decode_encode fitsJ] at read
    injection read with read
    exact read.symm
  · rintro rfl
    rfl

theorem eq_of_decodePart {s : String} (h : decodePart b = .ok (s, rest)) :
  b = encodePart s ++ rest ∧ (Utf8.encode s).length < wordBound
  := by
  rw [decodePart] at h
  cases part : b.unframe? with
  | none =>
      rw [part] at h
      cases h
  | some x =>
      obtain ⟨octets, after⟩ := x
      rw [part, Option.elim_some] at h
      cases text : Utf8.decode octets with
      | error defect => simp [text] at h
      | ok t =>
          simp only [text] at h
          obtain ⟨rfl, rfl⟩ := Prod.mk.inj (Except.ok.inj h)
          have octets := Utf8.encode_of_decode text
          subst octets
          exact ⟨Octets.eq_framed_of_unframe? part, Octets.length_lt_of_unframe? part⟩

/-- A byte string that is read as an identity is its encoding. -/
theorem eq_encode_of_decode (h : decode b = .ok i) :
  b = i.encode ∧ i.Fits
  := by
  rw [decode] at h
  obtain ⟨⟨address, behind⟩, first, h⟩ := exists_of_bind_eq_ok h
  obtain ⟨⟨resource, rest⟩, second, h⟩ := exists_of_bind_eq_ok h
  simp only at h
  split at h
  next done =>
    obtain rfl := Except.ok.inj h
    obtain ⟨rfl, fitsAddress⟩ := eq_of_decodePart first
    obtain ⟨rfl, fitsResource⟩ := eq_of_decodePart second
    rw [List.isEmpty_iff.1 done, List.append_nil]
    exact ⟨rfl, fitsAddress, fitsResource⟩
  next => cases h

/-! ### Malformed byte strings -/

/-- There is no component at the front of a byte string: the octets of its length are cut short, or
promise more than follows, or its own octets are no UTF-8. -/
inductive Broken : Octets → StorageFault → Prop
  | short {b : Octets} (short : b.length < 8) : Broken b .truncatedIdentity
  | beyond {size : Nat} {rest : Octets} (word : size < wordBound) (beyond : rest.length < size) :
    Broken (Octets.bigEndian 8 size ++ rest) .truncatedIdentity
  | illegible {part rest : Octets} {defect : Utf8.Defect} (fits : part.length < wordBound)
      (illegible : Utf8.decode part = .error defect) :
    Broken (part.framed ++ rest) (.identityText defect)

/-- A byte string is no encoded identity: one of the components is broken, or something follows
them. -/
inductive Malformed : Octets → StorageFault → Prop
  | address {b : Octets} {fault : StorageFault} (broken : Broken b fault) : Malformed b fault
  | resource {address : String} {b : Octets} {fault : StorageFault}
      (fits : (Utf8.encode address).length < wordBound) (broken : Broken b fault) :
    Malformed (encodePart address ++ b) fault
  | trailing {i : Identity} {rest : Octets} (fits : i.Fits) (more : rest ≠ []) :
    Malformed (i.encode ++ rest) (.trailingOctets rest.length)

theorem decodePart_eq_error_iff :
  decodePart b = .error fault ↔ Broken b fault
  := by
  constructor
  · intro refused
    rw [decodePart] at refused
    cases part : b.unframe? with
    | none =>
        rw [part, Option.elim_none] at refused
        cases refused
        obtain short | ⟨size, rest, word, beyond, rfl⟩ := Octets.unframe?_eq_none_iff.1 part
        · exact .short short
        · exact .beyond word beyond
    | some x =>
        obtain ⟨octets, rest⟩ := x
        rw [part, Option.elim_some] at refused
        cases text : Utf8.decode octets with
        | ok s => simp [text] at refused
        | error defect =>
            simp only [text] at refused
            cases refused
            rw [Octets.eq_framed_of_unframe? part]
            exact .illegible (Octets.length_lt_of_unframe? part) text
  · intro broken
    rw [decodePart]
    cases broken with
    | short short => rw [Octets.unframe?_eq_none_iff.2 (.inl short), Option.elim_none]
    | beyond word beyond =>
        rw [Octets.unframe?_eq_none_iff.2 (.inr ⟨_, _, word, beyond, rfl⟩), Option.elim_none]
    | illegible fits illegible =>
        rw [Octets.unframe?_framed fits, Option.elim_some]
        simp only [illegible]

/-- A byte string is refused with a fault exactly if it is malformed in this way. -/
theorem decode_eq_error_iff :
  decode b = .error fault ↔ Malformed b fault
  := by
  constructor
  · intro refused
    cases first : decodePart b with
    | error fault' =>
        rw [decode, first] at refused
        cases refused
        exact .address (decodePart_eq_error_iff.1 first)
    | ok part =>
        obtain ⟨address, behind⟩ := part
        obtain ⟨rfl, fitsAddress⟩ := eq_of_decodePart first
        cases second : decodePart behind with
        | error fault' =>
            rw [decode, first] at refused
            simp only [bind, Except.bind, second] at refused
            cases refused
            exact .resource fitsAddress (decodePart_eq_error_iff.1 second)
        | ok part =>
            obtain ⟨resource, rest⟩ := part
            obtain ⟨rfl, fitsResource⟩ := eq_of_decodePart second
            rw [decode_of_parts first second] at refused
            split at refused
            next => cases refused
            next more =>
              cases refused
              rw [← List.append_assoc]
              apply Malformed.trailing (i := ⟨address, resource⟩) ⟨fitsAddress, fitsResource⟩
              simpa using more
  · intro malformed
    cases malformed with
    | address broken =>
        rw [decode, decodePart_eq_error_iff.2 broken]
        rfl
    | resource fits broken =>
        rw [decode, decodePart_encodePart fits]
        simp only [bind, Except.bind, decodePart_eq_error_iff.2 broken]
    | @trailing i rest fits more =>
        rw [encode, List.append_assoc, decode_of_parts (decodePart_encodePart fits.1 _)
          (decodePart_encodePart fits.2 rest), if_neg (by simpa using more)]

theorem broken_take {part : Octets} (fits : part.length < wordBound) {n : Nat}
    (cut : n < part.framed.length) :
  Broken (part.framed.take n) .truncatedIdentity
  := by
  by_cases short : n < 8
  · apply Broken.short
    rw [List.length_take]
    omega
  · rw [Octets.length_framed] at cut
    rw [Octets.framed, List.take_append, Octets.length_bigEndian,
      List.take_of_length_le (by rw [Octets.length_bigEndian]; omega)]
    apply Broken.beyond fits
    rw [List.length_take]
    omega

/-- Two encoded components that are cut short are an intact one and a broken one at most. -/
theorem malformed_take (fits : i.Fits) {n : Nat} (cut : n < i.encode.length) :
  Malformed (i.encode.take n) .truncatedIdentity
  := by
  rw [encode, List.length_append] at cut
  rw [encode, List.take_append]
  by_cases inside : n < (encodePart i.address).length
  · rw [Nat.sub_eq_zero_of_le (Nat.le_of_lt inside), List.take_zero, List.append_nil]
    exact .address (broken_take fits.1 inside)
  · rw [List.take_of_length_le (Nat.le_of_not_lt inside)]
    have cut : n - (encodePart i.address).length < (encodePart i.resource).length := by omega
    exact .resource fits.1 (broken_take fits.2 cut)

/-- A wrong length in front of the second component promises more than there is, or leaves octets
behind that component. -/
theorem malformed_of_length_ne (fits : i.Fits) {size : Nat} (word : size < wordBound)
    (wrong : size ≠ (Utf8.encode i.resource).length) :
  ∃ fault, Malformed
    (encodePart i.address ++ (Octets.bigEndian 8 size ++ Utf8.encode i.resource)) fault
  := by
  by_cases beyond : (Utf8.encode i.resource).length < size
  · exact ⟨_, .resource fits.1 (.beyond word beyond)⟩
  · have inside : ((Utf8.encode i.resource).take size).length = size := by
      rw [List.length_take]
      omega
    have cut : Octets.bigEndian 8 size ++ Utf8.encode i.resource
        = Octets.framed ((Utf8.encode i.resource).take size)
          ++ (Utf8.encode i.resource).drop size := by
      rw [Octets.framed, inside, List.append_assoc, List.take_append_drop]
    have fitsPart : ((Utf8.encode i.resource).take size).length < wordBound := by rwa [inside]
    rw [cut]
    cases text : Utf8.decode ((Utf8.encode i.resource).take size) with
    | error defect => exact ⟨_, .resource fits.1 (.illegible fitsPart text)⟩
    | ok s =>
        have more : (Utf8.encode i.resource).drop size ≠ [] := by
          rw [ne_eq, List.drop_eq_nil_iff]
          omega
        rw [← Utf8.encode_of_decode text] at fitsPart ⊢
        have trailing := Malformed.trailing (i := ⟨i.address, s⟩) ⟨fits.1, fitsPart⟩ more
        rw [encode, List.append_assoc] at trailing
        exact ⟨_, trailing⟩

/-- No encoded identity is the beginning of another one. -/
theorem eq_of_encode_isPrefix (fitsI : i.Fits) (fitsJ : j.Fits) (front : i.encode <+: j.encode) :
  i = j
  := by
  obtain ⟨rest, whole⟩ := front
  by_cases more : rest = []
  · rw [more, List.append_nil] at whole
    exact (encode_inj fitsI fitsJ).1 whole
  · have refused := decode_eq_error_iff.2 (Malformed.trailing fitsI more)
    rw [whole, decode_encode fitsJ] at refused
    cases refused

/-- A byte string is read as an identity exactly if it is its encoding, and any other byte string is
refused for what is wrong with it.  So an encoding is read back, but not if it is cut short, or if
something is put behind it, or if one of its lengths promises more than follows or that of its
second component is any other one, or if one of its components is no UTF-8; and no encoding is the
beginning of another. -/
theorem decode_exact :
  (∀ b i, decode b = .ok i ↔ i.Fits ∧ i.encode = b)
    ∧ (∀ b fault, decode b = .error fault ↔ Malformed b fault)
    ∧ (∀ size < wordBound, ∀ rest : Octets, rest.length < size →
        decode (Octets.bigEndian 8 size ++ rest) = .error .truncatedIdentity)
    ∧ (∀ part : Octets, part.length < wordBound → (∀ s, Utf8.encode s ≠ part) → ∀ rest,
        ∃ defect, decode (part.framed ++ rest) = .error (.identityText defect))
    ∧ ∀ i : Identity, i.Fits →
        decode i.encode = .ok i
          ∧ (∀ n < i.encode.length, decode (i.encode.take n) = .error .truncatedIdentity)
          ∧ (∀ rest ≠ [], decode (i.encode ++ rest) = .error (.trailingOctets rest.length))
          ∧ (∀ size < wordBound, size ≠ (Utf8.encode i.resource).length → ∃ fault,
              decode (encodePart i.address ++ (Octets.bigEndian 8 size ++ Utf8.encode i.resource))
                = .error fault)
          ∧ (∀ part : Octets, part.length < wordBound → (∀ s, Utf8.encode s ≠ part) → ∀ rest,
              ∃ defect, decode (encodePart i.address ++ (part.framed ++ rest))
                = .error (.identityText defect))
          ∧ ∀ j : Identity, j.Fits → i.encode <+: j.encode → i = j
  := by
  refine ⟨fun b i => ⟨?_, ?_⟩, fun b fault => decode_eq_error_iff, ?_, ?_, fun i fits => ?_⟩
  · intro read
    obtain ⟨rfl, fits⟩ := eq_encode_of_decode read
    exact ⟨fits, rfl⟩
  · rintro ⟨fits, rfl⟩
    exact decode_encode fits
  · intro size word rest beyond
    exact decode_eq_error_iff.2 (.address (.beyond word beyond))
  · intro part fits illegible rest
    obtain ⟨defect, refused⟩ := Utf8.exists_defect illegible
    exact ⟨defect, decode_eq_error_iff.2 (.address (.illegible fits refused))⟩
  · refine ⟨decode_encode fits, ?_, ?_, ?_, ?_, ?_⟩
    · exact fun n cut => decode_eq_error_iff.2 (malformed_take fits cut)
    · exact fun rest more => decode_eq_error_iff.2 (.trailing fits more)
    · intro size word wrong
      obtain ⟨fault, malformed⟩ := malformed_of_length_ne fits word wrong
      exact ⟨fault, decode_eq_error_iff.2 malformed⟩
    · intro part fitsPart illegible rest
      obtain ⟨defect, refused⟩ := Utf8.exists_defect illegible
      exact ⟨defect, decode_eq_error_iff.2 (.resource fits.1 (.illegible fitsPart refused))⟩
    · exact fun j fitsJ front => eq_of_encode_isPrefix fits fitsJ front

/-- An identity of several letters of two octets each: its encoding is read back; it is refused when
it is cut inside a letter, when its first length promises as much as can be told, when its second
length leaves out one octet, which cuts a letter, and when an octet follows. -/
theorem decode_exact_umlauts :
  let i : Identity := ⟨"ÄÖ", "Ü"⟩
  i.Fits ∧ decode i.encode = .ok i
    ∧ 11 < i.encode.length ∧ decode (i.encode.take 11) = .error .truncatedIdentity
    ∧ decode (Octets.bigEndian 8 (wordBound - 1) ++ i.encode.drop 8) = .error .truncatedIdentity
    ∧ (∃ fault, decode (encodePart i.address ++ (Octets.bigEndian 8 1 ++ Utf8.encode i.resource))
        = .error fault)
    ∧ decode (i.encode ++ [0]) = .error (.trailingOctets 1)
  := by
  intro i
  obtain ⟨-, -, beyond, -, encoded⟩ := decode_exact
  have fits : i.Fits := by decide +kernel
  obtain ⟨read, cut, more, wrong, -, -⟩ := encoded i fits
  refine ⟨fits, read, by decide +kernel, cut 11 (by decide +kernel), ?_, ?_, ?_⟩
  · exact beyond _ (by decide) _ (by decide +kernel)
  · exact wrong 1 (by decide) (by decide +kernel)
  · exact more [0] (by decide)

end Identity

end SiteCache
