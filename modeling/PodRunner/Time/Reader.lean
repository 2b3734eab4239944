import PodRunner.Text.White
import PodRunner.Time

/-!
# Reading points in time

A point in time is written as a date and a time of day with an offset from UTC. White space may stand
around most parts of it. The year has a sign or at most four digits, and all other parts have one digit or
two. Leap seconds are read as the second in front of them.
-/

namespace PodRunner.Time

/-- The day of a date, counted from the start of 1970, also for dates that no calendar has. Years are
counted from March in eras of 400 years. -/
private def Date.count (date : Date) : Int :=
  let year := if date.month ≤ 2 then date.year - 1 else date.year
  let monthFromMarch : Int := if date.month ≤ 2 then date.month + 9 else date.month - 3
  let era := year.fdiv 400
  let yearOfEra := year - era * 400
  let dayOfYear := (153 * monthFromMarch + 2).fdiv 5 + date.day - 1
  era * 146097 + yearOfEra * 365 + yearOfEra.fdiv 4 - yearOfEra.fdiv 100 + dayOfYear - 719468

private def Date.days? (date : Date) : Option Int :=
  if Date.ofDays date.count = date then some date.count else none

private def skipWhite (cs : List Char) : List Char := cs.dropWhile Text.isWhite

/-- A number of at most `width` digits behind white space. -/
private def readNumber? (width : Nat) (cs : List Char) : Option (Nat × List Char) :=
  let cs := skipWhite cs
  let digits := (cs.take width).takeWhile Text.isDigit
  (Text.readDigits? 10 digits).map fun n => (n, cs.drop digits.length)

private def readPart? (least greatest : Nat) (cs : List Char) : Option (Nat × List Char) :=
  (readNumber? 2 cs).filter fun (n, _) => least ≤ n && n ≤ greatest

private def readYear? (cs : List Char) : Option (Int × List Char) :=
  match skipWhite cs with
  | '-' :: cs => (readSigned? cs).map fun (n, cs) => (-(n : Int), cs)
  | '+' :: cs => (readSigned? cs).map fun (n, cs) => ((n : Int), cs)
  | cs => (readNumber? 4 cs).map fun (n, cs) => ((n : Int), cs)
where
  readSigned? (cs : List Char) : Option (Nat × List Char) :=
    (Text.readDigits? 10 (cs.takeWhile Text.isDigit)).map fun n => (n, cs.dropWhile Text.isDigit)

private def expect? (mark : Char) (cs : List Char) : Option (List Char) :=
  match skipWhite cs with
  | c :: cs => if c == mark then some cs else none
  | [] => none

private def readDays? (cs : List Char) : Option (Int × List Char) := do
  let (year, cs) ← readYear? cs
  let (month, cs) ← readPart? 1 12 (← expect? '-' cs)
  let (day, cs) ← readPart? 1 31 (← expect? '-' cs)
  return (← Date.days? ⟨year, month, day⟩, cs)

/-- Nanoseconds, the digits of a fraction behind a point. -/
private def readFraction? : List Char → Option (Nat × List Char)
  | '.' :: cs =>
    let digits := cs.takeWhile Text.isDigit
    let counted := (digits ++ List.replicate (9 - digits.length) '0').take 9
    if digits.isEmpty then none
    else (Text.readDigits? 10 counted).map fun n => (n, cs.drop digits.length)
  | cs => some (0, cs)

private def readTimeOfDay? (cs : List Char) : Option (Nat × List Char) := do
  let (hour, cs) ← readPart? 0 23 cs
  let (minute, cs) ← readPart? 0 59 (← expect? ':' cs)
  let (second, cs) ← readPart? 0 60 (← expect? ':' cs)
  let (nanos, cs) ← readFraction? cs
  return ((hour * 3600 + minute * 60 + min second 59) * 1000000000 + nanos, cs)

/-- Two digits for hours and two for minutes, with colons or white space in between. -/
private def readOffsetTime? (cs : List Char) : Option (Nat × List Char) :=
  match cs with
  | a :: b :: cs =>
    match cs.dropWhile fun c => c == ':' || Text.isWhite c with
    | c :: d :: cs =>
      match Text.readDigits? 10 [a, b], Text.readDigits? 10 [c, d] with
      | some hours, some minutes =>
        if hours < 24 && minutes < 60 then some (hours * 3600 + minutes * 60, cs) else none
      | _, _ => none
    | _ => none
  | _ => none

/-- By how many seconds a local time is ahead of UTC. -/
private def readOffset? (cs : List Char) : Option (Int × List Char) :=
  if String.ofList ((cs.take 3).map Char.toLower) = "utc" then some (0, cs.drop 3)
  else
    match cs with
    | 'Z' :: cs | 'z' :: cs => some (0, cs)
    | '+' :: cs => (readOffsetTime? cs).map fun (secs, cs) => ((secs : Int), cs)
    | '-' :: cs | '\u2212' :: cs => (readOffsetTime? cs).map fun (secs, cs) => (-(secs : Int), cs)
    | _ => none

/-- The point in time that a text writes. Its date has to be in the calendar in local time, too. -/
def parse? (text : String) : Option Time := do
  let (days, cs) ← readDays? text.toList
  match cs with
  | separator :: cs =>
    if [' ', 'T', 't'].contains separator then
      let (nanos, cs) ← readTimeOfDay? cs
      let (offset, cs) ← readOffset? (skipWhite cs)
      let localTime ← ofNanos? (days * 86400000000000 + nanos)
      if cs.all Text.isWhite then ofNanos? (localTime.nanos - offset * 1000000000) else none
    else none
  | [] => none

end PodRunner.Time
