/-!
# Digits

Decimal digits of natural numbers: writing with leading zeros, fractions without trailing zeros, and
reading a non-empty run of digits in a base.
-/

namespace PodRunner.Text

/-- The decimal digits of `n`, with zeros in front up to `width` characters. -/
def zeroPad (width n : Nat) : String :=
  let digits := toString n
  String.ofList (List.replicate (width - digits.length) '0') ++ digits

/-- The digits of the fraction `n / 10 ^ width`, without the zeros at its end; empty for zero. -/
def fraction (width n : Nat) : String :=
  String.ofList ((zeroPad width n).toList.reverse.dropWhile (· == '0')).reverse

/-- The value of a digit up to base 16; letters of both cases count. -/
def digitValue? (c : Char) : Option Nat :=
  if '0' ≤ c ∧ c ≤ '9' then some (c.toNat - '0'.toNat)
  else if 'a' ≤ c ∧ c ≤ 'f' then some (c.toNat - 'a'.toNat + 10)
  else if 'A' ≤ c ∧ c ≤ 'F' then some (c.toNat - 'A'.toNat + 10)
  else none

def isDigit (c : Char) : Bool := '0' ≤ c ∧ c ≤ '9'

def readDigit (base : Nat) (value : Nat) (c : Char) : Option Nat :=
  match digitValue? c with
  | some d => if d < base then some (value * base + d) else none
  | none => none

/-- The number that a non-empty run of digits writes in `base`. -/
def readDigits? (base : Nat) : List Char → Option Nat
  | [] => none
  | c :: cs => (c :: cs).foldlM (readDigit base) 0

end PodRunner.Text
