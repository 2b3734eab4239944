import PodRunner.Binary64.Decimal
import PodRunner.Json
import PodRunner.Text.Digits
import PodRunner.Word

/-!
# Numbers of JSON text

The digits of a number are a significand of 64 bits, digits beyond them only move the point, and the value
is the rounded significand times or divided by a rounded power of ten. So it is near to what the text
says, but it need not be the nearest of the floating point numbers.
-/

namespace PodRunner.Json

/-- A number as it is written, in digits. -/
structure NumberText where
  negative : Bool
  whole : List Char
  /-- The digits behind the point, if there is one. -/
  part : Option (List Char)
  /-- Whether the exponent is negative, and its digits. -/
  exponent : Option (Bool × List Char)

namespace NumberText

/-- A number followed by digits, as long as it has 64 bits; and the digits that are left. -/
private def accumulate : Nat → List Char → Nat × List Char
  | n, [] => (n, [])
  | n, c :: cs =>
    let next := n * 10 + (c.toNat - '0'.toNat)
    if Word.isUnsigned64 next then accumulate next cs else (n, c :: cs)

/-- The significand and the decimal exponent that belongs to it. -/
private def scientific (number : NumberText) : Nat × Int :=
  let part := number.part.getD []
  let (significand, left) := accumulate 0 number.whole
  let (significand, leftOfPart) := accumulate significand part
  let places : Int := part.length - leftOfPart.length
  let written : Int := match number.exponent with
    | none => 0
    | some (negative, digits) =>
      let value := (Text.readDigits? 10 digits).getD 0
      if negative then -value else value
  (significand, left.length - places + written)

/-- The greatest exponent of ten that a floating point number has. -/
private def greatestExponent : Nat := 308

private def power (exponent : Nat) : Binary64 := .ofNat (Binary64.tenPow exponent)

/-- A significand scaled by a power of ten. For small numbers this takes two divisions. -/
private def scale (significand : Nat) (exponent : Int) : Binary64 :=
  let value := Binary64.ofNat significand
  if 0 ≤ exponent then
    if significand = 0 then value
    else if exponent ≤ greatestExponent then value * power exponent.toNat
    else .infinite false
  else
    let places := (-exponent).toNat
    if places ≤ greatestExponent then value / power places
    else if places ≤ 2 * greatestExponent then
      value / power greatestExponent / power (places - greatestExponent)
    else .zero

private def toReal (number : NumberText) : Json :=
  let (significand, exponent) := number.scientific
  let value := scale significand exponent
  if value.isFinite then real (if number.negative then value.neg else value) else unsound

/-- The value; an integer where it is written as one and has 64 bits. A zero with a sign is none. -/
def toJson (number : NumberText) : Json :=
  match number.part, number.exponent, Text.readDigits? 10 number.whole with
  | none, none, some n =>
    if number.negative then
      if n != 0 && Word.isSigned64 (-n) then integer (-n) else number.toReal
    else if Word.isUnsigned64 n then integer n else number.toReal
  | _, _, _ => number.toReal

end NumberText

end PodRunner.Json
