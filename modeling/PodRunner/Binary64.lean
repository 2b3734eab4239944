import PodRunner.Duration

/-!
# Floating point numbers of 53 bits

Binary numbers with 53 significant bits, computed exactly. A finite number is a sign and a count of the
smallest positive number, `2 ^ -1074`, so every operation is one exact computation in natural numbers and
one rounding, to the nearest number and between two neighbours to the one whose last bit is zero.
Magnitudes from `2 ^ 1024` on become infinite.
-/

namespace PodRunner

inductive Binary64 where
  | nan
  | infinite (negative : Bool)
  | finite (negative : Bool) (units : Nat)
deriving DecidableEq, Repr

namespace Binary64

def unitsPerOne : Nat := 1 <<< 1074

/-- The number of units from which on a magnitude is infinite. -/
def overflow : Nat := 1 <<< 2098

/-- The integer nearest to `num / den`, the even one of two. -/
def roundDiv (num den : Nat) : Nat :=
  let quotient := num / den
  let rest := num % den
  if 2 * rest < den then quotient
  else if den < 2 * rest then quotient + 1
  else if quotient % 2 = 0 then quotient
  else quotient + 1

/-- The integer nearest to `num / den` among those with at most 53 significant bits. -/
def roundBits (num den : Nat) : Nat :=
  let excess := (num / den).log2 - 52
  roundDiv num (den <<< excess) <<< excess

def roundNat (n : Nat) : Nat := roundBits n 1

def ofUnits (negative : Bool) (num den : Nat) : Binary64 :=
  let units := roundBits num den
  if units < overflow then finite negative units else infinite negative

def zero : Binary64 := finite false 0

def one : Binary64 := finite false unitsPerOne

def two : Binary64 := finite false (2 * unitsPerOne)

def ofRatio (num den : Nat) : Binary64 := ofUnits false (num * unitsPerOne) den

def ofNat (n : Nat) : Binary64 := ofRatio n 1

def neg : Binary64 → Binary64
  | nan => nan
  | infinite negative => infinite (!negative)
  | finite negative units => finite (!negative) units

def isFinite : Binary64 → Bool
  | finite _ _ => true
  | _ => false

def add : Binary64 → Binary64 → Binary64
  | nan, _ => nan
  | _, nan => nan
  | infinite s, infinite t => if s = t then infinite s else nan
  | infinite s, finite _ _ => infinite s
  | finite _ _, infinite t => infinite t
  | finite s m, finite t n =>
    if s = t then ofUnits s (m + n) 1
    else if m = n then zero
    else if n < m then ofUnits s (m - n) 1
    else ofUnits t (n - m) 1

def mul : Binary64 → Binary64 → Binary64
  | nan, _ => nan
  | _, nan => nan
  | infinite s, infinite t => infinite (s != t)
  | infinite s, finite t n => if n = 0 then nan else infinite (s != t)
  | finite s m, infinite t => if m = 0 then nan else infinite (s != t)
  | finite s m, finite t n => ofUnits (s != t) (m * n) unitsPerOne

def div : Binary64 → Binary64 → Binary64
  | nan, _ => nan
  | _, nan => nan
  | infinite _, infinite _ => nan
  | infinite s, finite t _ => infinite (s != t)
  | finite s _, infinite t => finite (s != t) 0
  | finite s m, finite t n =>
    if n = 0 then (if m = 0 then nan else infinite (s != t))
    else ofUnits (s != t) (m * unitsPerOne) n

instance : Add Binary64 := ⟨add⟩

instance : Mul Binary64 := ⟨mul⟩

instance : Div Binary64 := ⟨div⟩

/-- Strictly less; nothing is less than `nan` or more. The two zeros are equal. -/
def less : Binary64 → Binary64 → Bool
  | nan, _ => false
  | _, nan => false
  | infinite s, infinite t => s && !t
  | infinite s, finite _ _ => s
  | finite _ _, infinite t => !t
  | finite false m, finite false n => m < n
  | finite true m, finite true n => n < m
  | finite true m, finite false n => m != 0 || n != 0
  | finite false _, finite true _ => false

/-- The smaller number, where a number always wins over `nan`. -/
def least (a b : Binary64) : Binary64 :=
  match a with
  | nan => b
  | _ => if less b a then b else a

/-- `result` times the power of `base`, by repeated squaring from the lowest bit of the exponent. -/
def powerFrom (result base : Binary64) (exponent : Nat) : Binary64 :=
  let next := if exponent % 2 = 1 then result * base else result
  if exponent / 2 = 0 then next
  else powerFrom next (base * base) (exponent / 2)
termination_by exponent

def power (base : Binary64) (exponent : Nat) : Binary64 := powerFrom one base exponent

end Binary64

namespace Duration

/-- A duration in seconds: the rounded sum of the rounded whole seconds and the rounded fraction. -/
def toBinary64 (d : Duration) : Binary64 :=
  Binary64.ofNat d.secs + Binary64.ofRatio d.subsecNanos nanosPerSec

/-- The duration of a number of seconds, rounded to the nearest nanosecond. Negative numbers, numbers from
`2 ^ 64` on and `nan` have none. -/
def ofBinary64? : Binary64 → Option Duration
  | .nan => none
  | .infinite _ => none
  | .finite negative units =>
    if negative && units != 0 then none
    else if units < UInt64.size * Binary64.unitsPerOne then
      some ⟨Binary64.roundDiv (units * nanosPerSec) Binary64.unitsPerOne⟩
    else none

end Duration

end PodRunner
