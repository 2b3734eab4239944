import PodRunner.Duration

/-!
# Points in time

A point in time is a number of nanoseconds since the start of 1970 in UTC. The calendar reaches from the
first day of the year -262143 to the last of the year 262142, and every point in time lies in it, so
moving one forward may fail. No point in time is a leap second: a clock that counts past the last nanosecond
of a second without going on to the next one has no reading here, and a deadline cannot lie there either.
-/

namespace PodRunner

namespace Time

def earliestNanos : Int := -8334601228800 * 1000000000

def latestNanos : Int := 8210266876799 * 1000000000 + 999999999

end Time

structure Time where
  nanos : Int
  earliest_le : Time.earliestNanos ≤ nanos
  le_latest : nanos ≤ Time.latestNanos
deriving DecidableEq

namespace Time

theorem ext_nanos {a b : Time} (h : a.nanos = b.nanos) : a = b := by
  cases a
  cases b
  cases h
  rfl

def earliest : Time := ⟨earliestNanos, by decide, by decide⟩

def latest : Time := ⟨latestNanos, by decide, by decide⟩

def ofNanos? (nanos : Int) : Option Time :=
  if h : earliestNanos ≤ nanos ∧ nanos ≤ latestNanos then some ⟨nanos, h.1, h.2⟩ else none

/-- The point `secs` seconds and `nanos` nanoseconds after the start of 1970. From `10 ^ 9` on the nanoseconds
reach into the next second, where others would take them for a leap second. -/
def ofUnix? (secs : Int) (nanos : Nat) : Option Time :=
  ofNanos? (secs * 1000000000 + nanos)

instance : LE Time := ⟨fun a b => a.nanos ≤ b.nanos⟩

instance : LT Time := ⟨fun a b => a.nanos < b.nanos⟩

instance (a b : Time) : Decidable (a ≤ b) := inferInstanceAs (Decidable (a.nanos ≤ b.nanos))

instance (a b : Time) : Decidable (a < b) := inferInstanceAs (Decidable (a.nanos < b.nanos))

theorem le_def {a b : Time} : a ≤ b ↔ a.nanos ≤ b.nanos := Iff.rfl

theorem lt_def {a b : Time} : a < b ↔ a.nanos < b.nanos := Iff.rfl

/-- The point `nanos` nanoseconds later, unless it lies beyond the calendar. -/
def later? (t : Time) (nanos : Nat) : Option Time :=
  ofNanos? (t.nanos + nanos)

/-- How long it takes from `now` to `deadline`; nothing once the deadline has passed. -/
def remaining (now deadline : Time) : Duration :=
  ⟨(deadline.nanos - now.nanos).toNat⟩

theorem ofNanos?_eq_some_iff {n : Int} {t : Time} : ofNanos? n = some t ↔ t.nanos = n := by
  unfold ofNanos?
  split
  · constructor
    · intro h
      cases h
      rfl
    · intro h
      cases t
      cases h
      rfl
  · rename_i hout
    constructor
    · intro h
      cases h
    · intro h
      exact absurd ⟨h ▸ t.earliest_le, h ▸ t.le_latest⟩ hout

theorem later?_eq_some_iff {t u : Time} {n : Nat} : t.later? n = some u ↔ u.nanos = t.nanos + n :=
  ofNanos?_eq_some_iff

theorem later?_eq_none_iff {t : Time} {n : Nat} : t.later? n = none ↔ latestNanos < t.nanos + (n : Nat) := by
  have hearly := t.earliest_le
  rw [later?, ofNanos?]
  split
  · rename_i hin
    constructor
    · intro h
      cases h
    · intro h
      omega
  · rename_i hout
    constructor
    · intro _
      omega
    · intro _
      rfl

theorem later?_isSome_of_le {t u : Time} {n : Nat} (h : t.nanos + n ≤ u.nanos) :
    (t.later? n).isSome = true := by
  have hlow := t.earliest_le
  have hhigh := u.le_latest
  have hin : earliestNanos ≤ t.nanos + n ∧ t.nanos + n ≤ latestNanos := by omega
  simp [later?, ofNanos?, hin]

/-- A day of the calendar, with March as month 0 of its year internally. -/
structure Date where
  year : Int
  month : Nat
  day : Nat
deriving DecidableEq, Repr

/-- The date that lies `days` days after the start of 1970. Eras of 400 years have 146097 days each; within
an era, years are counted from March so that the leap day ends them. -/
def Date.ofDays (days : Int) : Date :=
  let shifted := days + 719468
  let era := shifted.fdiv 146097
  let dayOfEra := (shifted - era * 146097).toNat
  let yearOfEra := (dayOfEra - dayOfEra / 1460 + dayOfEra / 36524 - dayOfEra / 146096) / 365
  let dayOfYear := dayOfEra - (365 * yearOfEra + yearOfEra / 4 - yearOfEra / 100)
  let monthFromMarch := (5 * dayOfYear + 2) / 153
  let day := dayOfYear - (153 * monthFromMarch + 2) / 5 + 1
  let month := if monthFromMarch < 10 then monthFromMarch + 3 else monthFromMarch - 9
  let year := yearOfEra + era * 400 + (if month ≤ 2 then 1 else 0)
  ⟨year, month, day⟩

/-- Years of four digits stand bare; all others carry a sign before at least four digits. -/
private def describeYear (year : Int) : String :=
  let digits := Text.zeroPad 4 year.natAbs
  if 0 ≤ year ∧ year ≤ 9999 then digits
  else if year < 0 then "-" ++ digits
  else "+" ++ digits

/-- A fraction of a second in 3, 6 or 9 digits, whichever is the first to be exact; none for zero. -/
private def describeFraction (nanos : Nat) : String :=
  if nanos = 0 then ""
  else if nanos % 1000000 = 0 then "." ++ Text.zeroPad 3 (nanos / 1000000)
  else if nanos % 1000 = 0 then "." ++ Text.zeroPad 6 (nanos / 1000)
  else "." ++ Text.zeroPad 9 nanos

/-- Date and time of day in UTC, with some text between them and the name of the zone. -/
private def written (between zone : String) (t : Time) : String :=
  let secs := t.nanos.fdiv 1000000000
  let nanos := (t.nanos - secs * 1000000000).toNat
  let days := secs.fdiv 86400
  let ofDay := (secs - days * 86400).toNat
  let date := Date.ofDays days
  let two := Text.zeroPad 2
  describeYear date.year ++ "-" ++ two date.month ++ "-" ++ two date.day ++ between ++
    two (ofDay / 3600) ++ ":" ++ two (ofDay / 60 % 60) ++ ":" ++ two (ofDay % 60) ++
    describeFraction nanos ++ zone

def describe (t : Time) : String := t.written " " " UTC"

def stamp (t : Time) : String := t.written "T" "Z"

end Time

end PodRunner
