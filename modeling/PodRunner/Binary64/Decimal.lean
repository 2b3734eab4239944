import PodRunner.Binary64

/-!
# Decimal text of floating point numbers

Reading takes an optional sign and then either a word for infinity or for no number, in any case of
letters, or digits with at most one point and an optional exponent, and gives the nearest number. Writing
gives the fewest digits that read back, the nearest of those, the greater one of two, and always in positional
notation.
-/

namespace PodRunner.Binary64

open Text (isDigit)

def tenPow (exponent : Nat) : Nat := Nat.pow 10 exponent

/-- The number nearest to `digits * 10 ^ exponent`. Exponents far outside the range of numbers are decided
without computing the power. -/
def ofDecimal (negative : Bool) (digits : Nat) (exponent : Int) : Binary64 :=
  let magnitude := exponent + (toString digits).length
  if digits = 0 then finite negative 0
  else if magnitude > 320 then infinite negative
  else if magnitude < -340 then finite negative 0
  else if 0 ≤ exponent then ofUnits negative (digits * tenPow exponent.toNat * unitsPerOne) 1
  else ofUnits negative (digits * unitsPerOne) (tenPow (-exponent).toNat)

private def digitsValue (cs : List Char) : Nat :=
  cs.foldl (fun value c => value * 10 + (c.toNat - '0'.toNat)) 0

/-- An exponent: nothing, or the letter, an optional sign and digits. -/
private def readExponent? : List Char → Option Int
  | [] => some 0
  | c :: cs =>
    if c != 'e' && c != 'E' then none
    else
      let (negative, digits) := match cs with
        | '-' :: rest => (true, rest)
        | '+' :: rest => (false, rest)
        | rest => (false, rest)
      if digits.isEmpty || !digits.all isDigit then none
      else if negative then some (-(digitsValue digits : Int))
      else some (digitsValue digits)

private def readUnsigned? (negative : Bool) (cs : List Char) : Option Binary64 :=
  let word := String.ofList (cs.map Char.toLower)
  if word == "inf" || word == "infinity" then some (infinite negative)
  else if word == "nan" then some nan
  else
    let whole := cs.takeWhile isDigit
    let afterWhole := cs.dropWhile isDigit
    let (part, afterPart) := match afterWhole with
      | '.' :: rest => (rest.takeWhile isDigit, rest.dropWhile isDigit)
      | rest => ([], rest)
    if whole.isEmpty && part.isEmpty then none
    else match readExponent? afterPart with
      | none => none
      | some exponent =>
        some (ofDecimal negative (digitsValue (whole ++ part)) (exponent - part.length))

def parse? (text : String) : Option Binary64 :=
  match text.toList with
  | '-' :: rest => readUnsigned? true rest
  | '+' :: rest => readUnsigned? false rest
  | rest => readUnsigned? false rest

/-- The least number of places after the point, up to `bound`, at which a positive number below one shows a
digit other than zero. -/
private def leadingPlaces (units : Nat) : Nat → Nat → Nat
  | 0, place => place
  | bound + 1, place =>
    if units * tenPow place < unitsPerOne then leadingPlaces units bound (place + 1) else place

/-- The decimal exponent of a positive number: it is at least `10 ^ (e - 1)` and less than `10 ^ e`. -/
private def decimalExponent (units : Nat) : Int :=
  if unitsPerOne ≤ units then (toString (units / unitsPerOne)).length
  else 1 - (leadingPlaces units 400 0 : Int)

inductive Tie where
  | greater
  | even
deriving DecidableEq, Repr

/-- The neighbours of a positive number on the decimal grid of `10 ^ step`, the nearer one first. -/
private def neighbours (tie : Tie) (units : Nat) (step : Int) : List Nat :=
  let num := if step < 0 then units * tenPow (-step).toNat else units
  let den := if step < 0 then unitsPerOne else unitsPerOne * tenPow step.toNat
  let below := num / den
  let rest := num % den
  let first := 2 * rest < den || (2 * rest == den && tie == .even && below % 2 == 0)
  if first then [below, below + 1] else [below + 1, below]

/-- The digits and the step of the shortest decimal, of `count` digits or more, that reads back. A power of
ten is written with one digit. -/
private def shortest (tie : Tie) (units : Nat) (exponent : Int) : Nat → Nat → Nat × Int
  | 0, count => ((neighbours tie units (exponent - count)).headD 0, exponent - count)
  | more + 1, count =>
    let step := exponent - count
    match (neighbours tie units step).find? fun digits =>
        ofDecimal false digits step == finite false units with
    | some digits => if digits = tenPow count then (1, exponent) else (digits, step)
    | none => shortest tie units exponent more (count + 1)

/-- The shortest decimal, digits and step, that reads back as a positive number of units. -/
def shortestDecimal (tie : Tie) (units : Nat) : Nat × Int :=
  shortest tie units (decimalExponent units) 16 1

/-- `digits * 10 ^ step` in positional notation. -/
private def positional (digits : Nat) (step : Int) : String :=
  if 0 ≤ step then toString digits ++ String.ofList (List.replicate step.toNat '0')
  else
    let places := (-step).toNat
    let padded := (Text.zeroPad (places + 1) digits).toList
    let whole := padded.take (padded.length - places)
    let part := ((padded.drop (padded.length - places)).reverse.dropWhile (· == '0')).reverse
    if part.isEmpty then String.ofList whole
    else String.ofList whole ++ "." ++ String.ofList part

def describe : Binary64 → String
  | nan => "NaN"
  | infinite negative => if negative then "-inf" else "inf"
  | finite negative units =>
    let magnitude :=
      if units = 0 then "0"
      else
        let (digits, step) := shortestDecimal .greater units
        positional digits step
    if negative then "-" ++ magnitude else magnitude

end PodRunner.Binary64
