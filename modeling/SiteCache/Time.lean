import SiteCache.Octets

/-!
# Times

A `Time` counts whole seconds since the epoch, with nanoseconds on top; a count of a thousand
million nanoseconds or more marks a leap second.  `nanoseconds?` puts a time into one signed
word of sixty-four bits, if it fits, and `ofNanoseconds` splits such a count by floor division.
The calendar has the years from -262143 to 262142 (`earliest`, `latest`); `text` writes date
and time of day.
-/

namespace SiteCache

/-- A point of time: seconds since the epoch and nanoseconds, at least `10^9` in a leap second. -/
structure Time where
  seconds : Int
  nanos : Nat
  nanos_lt : nanos < 2000000000 := by decide
  deriving DecidableEq

namespace Time

/-- Later times are those of later seconds, or of more nanoseconds in the same second. -/
instance : LT Time where
  lt s t := s.seconds < t.seconds ∨ (s.seconds = t.seconds ∧ s.nanos < t.nanos)

instance (s t : Time) : Decidable (s < t) :=
  inferInstanceAs (Decidable (s.seconds < t.seconds ∨ (s.seconds = t.seconds ∧ s.nanos < t.nanos)))

/-- The first second of the calendar. -/
def earliest : Int := -8334601228800

/-- The last second of the calendar. -/
def latest : Int := 8210266876799

/-- The beginning of a second of the calendar. -/
def ofSeconds? (seconds : Int) : Option Time :=
  if earliest ≤ seconds ∧ seconds ≤ latest then some ⟨seconds, 0, by decide⟩ else none

/-- The nanoseconds since the epoch, if they fit in a signed word of sixty-four bits. -/
def nanoseconds? (t : Time) : Option Int :=
  let n := t.seconds * 1000000000 + t.nanos
  if -(signedBound : Int) ≤ n ∧ n < signedBound then some n else none

/-- The time so many nanoseconds after the epoch. -/
def ofNanoseconds (n : Int) : Time :=
  ⟨n.fdiv 1000000000, (n.fmod 1000000000).toNat, by
    have := Int.fmod_lt_of_pos n (b := 1000000000) (by decide)
    omega⟩

/-- A day of the calendar. -/
structure Date where
  year : Int
  month : Nat
  day : Nat

/-- The date so many days after the first of January 1970.  Years are counted from March, so that
the leap day is the last of its year; four hundred of them have 146097 days. -/
def Date.ofDays (days : Int) : Date :=
  let shifted := days + 719468
  let cycle := shifted.fdiv 146097
  let dayOfCycle := (shifted.fmod 146097).toNat
  let yearOfCycle :=
    (dayOfCycle - dayOfCycle / 1460 + dayOfCycle / 36524 - dayOfCycle / 146096) / 365
  let dayOfYear := dayOfCycle - (365 * yearOfCycle + yearOfCycle / 4 - yearOfCycle / 100)
  let fromMarch := (5 * dayOfYear + 2) / 153
  let month := if fromMarch < 10 then fromMarch + 3 else fromMarch - 9
  let year := cycle * 400 + yearOfCycle
  ⟨if month ≤ 2 then year + 1 else year, month, dayOfYear - (153 * fromMarch + 2) / 5 + 1⟩

/-- A number in at least so many digits, with zeros in front. -/
def padded (width n : Nat) : String :=
  let digits := toString n
  String.ofList (List.replicate (width - digits.length) '0') ++ digits

/-- Years have four digits; those outside 0 to 9999 carry a sign. -/
def Date.text (d : Date) : String :=
  let year :=
    if d.year < 0 then "-" ++ padded 4 d.year.natAbs
    else if d.year ≤ 9999 then padded 4 d.year.natAbs
    else "+" ++ padded 4 d.year.natAbs
  year ++ "-" ++ padded 2 d.month ++ "-" ++ padded 2 d.day

/-- A fraction of a second has three, six or nine digits, as few as hold it; a whole second none. -/
def fractionText (nanos : Nat) : String :=
  if nanos = 0 then ""
  else if nanos % 1000000 = 0 then "." ++ padded 3 (nanos / 1000000)
  else if nanos % 1000 = 0 then "." ++ padded 6 (nanos / 1000)
  else "." ++ padded 9 nanos

/-- Date and time of day; a leap second is the sixty-first of its minute. -/
def text (t : Time) : String :=
  let second := (t.seconds.fmod 86400).toNat
  let leap := t.nanos / 1000000000
  (Date.ofDays (t.seconds.fdiv 86400)).text ++ " " ++ padded 2 (second / 3600) ++ ":"
    ++ padded 2 (second / 60 % 60) ++ ":" ++ padded 2 (second % 60 + leap)
    ++ fractionText (t.nanos % 1000000000) ++ " UTC"

end Time

end SiteCache
