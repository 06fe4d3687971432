import SiteCache.Text.Blank
import SiteCache.Text.Number
import Mathlib.Data.List.DropRight

/-!
# Numerals

A numeral is a whole number as a text may write it: decimal digits with an optional plus sign,
between blanks (`Numeral`).  A text is read as a number below a bound exactly if it is the numeral
of such a number (`Numeral.parse?_eq_some_iff`); leading zeros do not matter.
-/

namespace SiteCache

/-! ### Digits -/

/-- Decimal digits are the characters from zero to nine. -/
theorem toNat_of_isDigit {c : Char} (digit : c.isDigit = true) :
  48 ≤ c.toNat ∧ c.toNat ≤ 57
  := by
  simp only [Char.isDigit, Bool.and_eq_true, decide_eq_true_eq] at digit
  exact digit

namespace Number

variable {c : Char} {cs : List Char} {d m n bound : Nat}

/-- The digits below ten are the decimal ones; the letters go on from ten. -/
theorem digit?_eq_some_iff :
  digit? c = some d ∧ d < 10 ↔ c.isDigit = true ∧ c.toNat - '0'.toNat = d
  := by
  have zero : '0'.toNat = 48 := rfl
  constructor
  · rintro ⟨value, small⟩
    rw [digit?] at value
    split at value
    next digit => exact ⟨digit, Option.some.inj value⟩
    next =>
      split at value
      next =>
        cases value
        omega
      next =>
        split at value
        next =>
          cases value
          omega
        next => cases value
  · rintro ⟨digit, rfl⟩
    have := toNat_of_isDigit digit
    exact ⟨if_pos digit, by omega⟩

/-- Characters are read as digits if all of them are, with their value by position. -/
theorem digits?_eq_some_iff :
  digits? 10 n cs = some m ↔ (∀ c ∈ cs, c.isDigit = true) ∧ Nat.ofDigitChars 10 cs n = m
  := by
  induction cs generalizing n with
  | nil => simp [digits?, Nat.ofDigitChars]
  | cons c cs ih =>
      rw [List.forall_mem_cons, Nat.ofDigitChars_cons, and_assoc, ← ih]
      constructor
      · intro read
        rw [digits?] at read
        split at read
        next d value =>
          split at read
          next small =>
            obtain ⟨digit, rfl⟩ := digit?_eq_some_iff.1 ⟨value, small⟩
            exact ⟨digit, read⟩
          next => cases read
        next => cases read
      · rintro ⟨digit, read⟩
        obtain ⟨value, small⟩ := digit?_eq_some_iff.2 ⟨digit, rfl⟩
        rw [digits?, value]
        exact (if_pos small).trans read

/-- A plus sign or nothing. -/
def sign (plus : Bool) : List Char := if plus then ['+'] else []

theorem exists_sign (cs : List Char) :
  ∃ plus rest, cs = sign plus ++ rest ∧ (plus = false → rest.head? ≠ some '+')
  := by
  by_cases signed : cs.head? = some '+'
  · exact ⟨true, cs.tail, List.eq_cons_of_mem_head? signed, nofun⟩
  · exact ⟨false, cs, rfl, fun _ => signed⟩

/-- One plus sign is passed over. -/
theorem parse?_sign_append {plus : Bool} {rest : List Char} (nonempty : rest ≠ [])
    (bare : plus = false → rest.head? ≠ some '+') :
  parse? 10 bound (sign plus ++ rest) = (digits? 10 0 rest).filter (· < bound)
  := by
  cases plus with
  | true =>
      rw [sign, if_pos rfl, List.singleton_append, parse?]
      exact nonempty
  | false =>
      rw [sign, if_neg Bool.false_ne_true, List.nil_append, parse?]
      · rintro rest' rfl
        exact bare rfl rfl
      · exact nonempty

/-- A number below a bound is read from its decimal digits, with a plus sign or without one. -/
theorem parse?_eq_some_iff :
  parse? 10 bound cs = some n ↔ ∃ plus digits, cs = sign plus ++ digits ∧ digits ≠ []
    ∧ (∀ c ∈ digits, c.isDigit = true) ∧ Nat.ofDigitChars 10 digits 0 = n ∧ n < bound
  := by
  constructor
  · intro read
    obtain ⟨plus, digits, rfl, bare⟩ := exists_sign cs
    have nonempty : digits ≠ [] := by
      rintro rfl
      cases plus with
      | true => cases read
      | false => cases read
    rw [parse?_sign_append nonempty bare, Option.filter_eq_some_iff, digits?_eq_some_iff,
      decide_eq_true_eq] at read
    obtain ⟨⟨decimal, value⟩, below⟩ := read
    exact ⟨plus, digits, rfl, nonempty, decimal, value, below⟩
  · rintro ⟨plus, digits, rfl, nonempty, decimal, value, below⟩
    have bare : digits.head? ≠ some '+' := by
      intro signed
      exact absurd (decimal '+' (List.mem_of_mem_head? signed)) (by decide)
    rw [parse?_sign_append nonempty fun _ => bare, Option.filter_eq_some_iff, digits?_eq_some_iff,
      decide_eq_true_eq]
    exact ⟨⟨decimal, value⟩, below⟩

end Number

/-! ### Blanks -/

namespace Blank

variable {c : Char} {cs before after front back : List Char}

/-- Decimal digits are not blank. -/
theorem isBlank_of_isDigit (digit : c.isDigit = true) :
  isBlank c = false
  := by
  have := toNat_of_isDigit digit
  simp only [isBlank, ranges, List.any_cons, List.any_nil, Bool.or_eq_false_iff,
    Bool.and_eq_false_iff, decide_eq_false_iff_not]
  grind

/-- A text lies between the blanks that are cut off. -/
theorem exists_trim (cs : List Char) :
  ∃ before after, (∀ c ∈ before, isBlank c = true) ∧ (∀ c ∈ after, isBlank c = true)
    ∧ before ++ trim cs ++ after = cs
  := by
  refine ⟨cs.takeWhile isBlank, (cs.dropWhile isBlank).rtakeWhile isBlank,
    fun _ => List.mem_takeWhile_imp, fun _ => List.mem_rtakeWhile_imp, ?_⟩
  have ended : trim cs = (cs.dropWhile isBlank).rdropWhile isBlank := rfl
  rw [ended, List.append_assoc, List.rdropWhile_append_rtakeWhile, List.takeWhile_append_dropWhile]

private theorem dropWhile_of_bare (bare : ∀ c ∈ cs, isBlank c = false) (nonempty : cs ≠ [])
    (after : List Char) :
  (cs ++ after).dropWhile isBlank = cs ++ after
  := by
  cases cs with
  | nil => exact absurd rfl nonempty
  | cons c cs =>
      apply List.dropWhile_cons_of_neg
      rw [bare c List.mem_cons_self]
      exact Bool.false_ne_true

/-- What has no blanks is left when it stands between blanks. -/
theorem trim_append (before_blank : ∀ c ∈ before, isBlank c = true)
    (after_blank : ∀ c ∈ after, isBlank c = true) (bare : ∀ c ∈ cs, isBlank c = false)
    (nonempty : cs ≠ []) :
  trim (before ++ cs ++ after) = cs
  := by
  have bare' : ∀ c ∈ cs.reverse, isBlank c = false := by simpa using bare
  have nonempty' : cs.reverse ≠ [] := by simpa using nonempty
  have after_blank' : ∀ c ∈ after.reverse, isBlank c = true := by simpa using after_blank
  have ended := dropWhile_of_bare bare' nonempty' []
  rw [List.append_nil] at ended
  rw [trim, List.append_assoc, List.dropWhile_append_of_pos before_blank,
    dropWhile_of_bare bare nonempty, trimEnd, List.reverse_append,
    List.dropWhile_append_of_pos after_blank', ended, List.reverse_reverse]

/-- A character is left if no blanks alone stand before it and none behind it. -/
theorem mem_trim (before : ∃ d ∈ front, isBlank d = false)
    (behind : ∃ d ∈ back, isBlank d = false) :
  c ∈ trim (front ++ c :: back)
  := by
  have kept {cs : List Char} (bare : ∃ d ∈ cs, isBlank d = false) :
      ¬ (cs.dropWhile isBlank).isEmpty = true := by
    obtain ⟨d, hd, bare⟩ := bare
    rw [List.isEmpty_iff, List.dropWhile_eq_nil_iff]
    intro blank
    exact Bool.false_ne_true (bare.symm.trans (blank d hd))
  have behind : ∃ d ∈ back.reverse, isBlank d = false := by simpa using behind
  rw [trim, List.dropWhile_append, if_neg (kept before), trimEnd, List.mem_reverse,
    List.reverse_append, List.reverse_cons, List.append_assoc, List.dropWhile_append,
    if_neg (kept behind), List.mem_append, List.singleton_append]
  exact .inr List.mem_cons_self

end Blank

/-! ### Numerals -/

/-- A whole number as a text writes it: decimal digits with a plus sign or without one, between
blanks. -/
structure Numeral where
  before : List Char
  plus : Bool
  digits : List Char
  after : List Char
  before_blank : ∀ c ∈ before, Blank.isBlank c = true
  after_blank : ∀ c ∈ after, Blank.isBlank c = true
  nonempty : digits ≠ []
  decimal : ∀ c ∈ digits, c.isDigit = true

namespace Numeral

variable {m : Numeral} {n bound : Nat} {s : String}

/-- The sign and the digits. -/
def core (m : Numeral) : List Char := Number.sign m.plus ++ m.digits

/-- The whole text. -/
def text (m : Numeral) : String := .ofList (m.before ++ m.core ++ m.after)

/-- The number. -/
def value (m : Numeral) : Nat := Nat.ofDigitChars 10 m.digits 0

theorem mem_core {c : Char} (h : c ∈ m.core) :
  c = '+' ∨ c.isDigit = true
  := by
  rcases List.mem_append.1 h with signed | digit
  · rw [Number.sign] at signed
    split at signed
    next => exact .inl (List.mem_singleton.1 signed)
    next => cases signed
  · exact .inr (m.decimal c digit)

theorem isBlank_of_mem_core {c : Char} (h : c ∈ m.core) :
  Blank.isBlank c = false
  := by
  rcases mem_core h with rfl | digit
  · decide
  · exact Blank.isBlank_of_isDigit digit

theorem core_ne_nil (m : Numeral) :
  m.core ≠ []
  := List.append_ne_nil_of_right_ne_nil _ m.nonempty

theorem toList_text (m : Numeral) :
  m.text.toList = m.before ++ m.core ++ m.after
  := String.toList_ofList

theorem mem_text_of_mem_core {c : Char} (h : c ∈ m.core) :
  c ∈ m.text.toList
  := by
  rw [toList_text]
  exact List.mem_append_left _ (List.mem_append_right _ h)

theorem mem_text {c : Char} (h : c ∈ m.text.toList) :
  Blank.isBlank c = true ∨ c = '+' ∨ c.isDigit = true
  := by
  rw [toList_text, List.mem_append, List.mem_append] at h
  rcases h with (h | h) | h
  · exact .inl (m.before_blank c h)
  · exact .inr (mem_core h)
  · exact .inl (m.after_blank c h)

theorem trim_text (m : Numeral) :
  Blank.trim m.text.toList = m.core
  := by
  rw [toList_text]
  exact Blank.trim_append m.before_blank m.after_blank (fun _ => isBlank_of_mem_core) m.core_ne_nil

/-- The number that is read between the blanks of a text is that of the numeral that it is. -/
theorem parse?_eq_some_iff :
  Number.parse? 10 bound (Blank.trim s.toList) = some n
    ↔ ∃ m : Numeral, m.text = s ∧ m.value = n ∧ n < bound
  := by
  rw [Number.parse?_eq_some_iff]
  constructor
  · rintro ⟨plus, digits, written, nonempty, decimal, value, below⟩
    obtain ⟨before, after, before_blank, after_blank, whole⟩ := Blank.exists_trim s.toList
    refine ⟨⟨before, plus, digits, after, before_blank, after_blank, nonempty, decimal⟩, ?_, value,
      below⟩
    rw [text, core, ← written, whole, String.ofList_toList]
  · rintro ⟨m, rfl, rfl, below⟩
    exact ⟨m.plus, m.digits, m.trim_text, m.nonempty, m.decimal, rfl, below⟩

theorem parse?_eq_none_iff :
  Number.parse? 10 bound (Blank.trim s.toList) = none
    ↔ ∀ m : Numeral, m.text = s → bound ≤ m.value
  := by
  rw [Option.eq_none_iff_forall_ne_some]
  constructor
  · intro unread m written
    by_contra below
    exact unread m.value (parse?_eq_some_iff.2 ⟨m, written, rfl, Nat.lt_of_not_le below⟩)
  · intro large n read
    obtain ⟨m, written, rfl, below⟩ := parse?_eq_some_iff.1 read
    exact absurd below (Nat.not_lt_of_le (large m written))

/-- A text is the numeral of one number at most. -/
theorem value_eq_of_text_eq {m' : Numeral} (same : m.text = m'.text) :
  m.value = m'.value
  := by
  have below : m.value < m.value + m'.value + 1 := by omega
  have below' : m'.value < m.value + m'.value + 1 := by omega
  have read := parse?_eq_some_iff.2 ⟨m, same, rfl, below⟩
  have read' := parse?_eq_some_iff.2 ⟨m', rfl, rfl, below'⟩
  exact Option.some.inj (read.symm.trans read')

/-- The numeral of a number as it is printed. -/
def ofNat (n : Nat) : Numeral where
  before := []
  plus := false
  digits := Nat.toDigits 10 n
  after := []
  before_blank := nofun
  after_blank := nofun
  nonempty := Nat.toDigits_ne_nil
  decimal _ hc := Nat.isDigit_of_mem_toDigits (by decide) (by decide) hc

theorem text_ofNat (n : Nat) :
  (ofNat n).text = toString (n : Int)
  := by
  have digits : (toString (n : Int)).toList = Nat.toDigits 10 n := Nat.toList_repr
  rw [← String.ofList_toList (s := toString (n : Int)), digits, text, core, ofNat, Number.sign,
    if_neg Bool.false_ne_true, List.nil_append, List.nil_append, List.append_nil]

theorem value_ofNat (n : Nat) :
  (ofNat n).value = n
  := Nat.ofDigitChars_toDigits (by decide) (by decide)

end Numeral

/-- Texts that are no numeral: those of blanks alone, those with a minus sign, and those with a
blank inside. -/
inductive Unnumbered : List Char → Prop where
  | blank {cs : List Char} (h : ∀ c ∈ cs, Blank.isBlank c = true) : Unnumbered cs
  | negative {cs : List Char} (h : '-' ∈ cs) : Unnumbered cs
  | broken {front back : List Char} {c : Char} (h : Blank.isBlank c = true)
      (before : ∃ d ∈ front, Blank.isBlank d = false)
      (behind : ∃ d ∈ back, Blank.isBlank d = false) : Unnumbered (front ++ c :: back)

theorem Unnumbered.text_ne {s : String} (h : Unnumbered s.toList) (m : Numeral) :
  m.text ≠ s
  := by
  rintro rfl
  -- The text is any characters from here on, for the shapes of `h` are no numerals.
  have core := m.trim_text
  generalize written : m.text.toList = cs at h core
  cases h with
  | blank h =>
      obtain ⟨c, inside⟩ := List.exists_mem_of_ne_nil _ m.core_ne_nil
      have bare := Numeral.isBlank_of_mem_core inside
      rw [h c (written ▸ Numeral.mem_text_of_mem_core inside)] at bare
      cases bare
  | negative h =>
      rw [← written] at h
      rcases Numeral.mem_text h with blank | same | digit
      · exact absurd blank (by decide)
      · exact absurd same (by decide)
      · exact absurd digit (by decide)
  | broken h before behind =>
      have bare := Numeral.isBlank_of_mem_core (core ▸ Blank.mem_trim before behind)
      rw [h] at bare
      cases bare

end SiteCache
