import PodRunner.Binary64.Decimal
import PodRunner.Text.Quoted
import PodRunner.Word
import PodRunner.Yaml.Node

/-!
# The meaning of scalars

What the text of a plain scalar stands for: nothing, a truth value, a number or just text. Digits with a zero
in front are text.
-/

namespace PodRunner.Yaml

inductive Meaning where
  | nothing
  | bool (value : Bool)
  | integer (value : Int)
  | real (value : Binary64)
  | text (text : String)
deriving DecidableEq, Repr

namespace Meaning

def isNull (cs : List Char) : Bool :=
  ["null", "Null", "NULL", "~"].contains (String.ofList cs)

def bool? (cs : List Char) : Option Bool :=
  if ["true", "True", "TRUE"].contains (String.ofList cs) then some true
  else if ["false", "False", "FALSE"].contains (String.ofList cs) then some false
  else none

private def isSign (c : Char) : Bool := c == '+' || c == '-'

/-- Digits that no number is written with, because they begin with a needless zero. -/
private def isZeroLed (cs : List Char) : Bool :=
  let digits := if cs.head?.any isSign then cs.drop 1 else cs
  digits.length > 1 && digits.head? == some '0' && digits.all Text.isDigit

private def base? : Char → Option Nat
  | 'x' => some 16
  | 'o' => some 8
  | 'b' => some 2
  | _ => none

/-- A number of which a sign has been taken off: digits, or a base and digits in it. -/
private def readMagnitude? (cs : List Char) : Option Nat :=
  match cs with
  | '0' :: letter :: digits =>
    match base? letter with
    | some base => Text.readDigits? base digits
    | none => if isZeroLed cs then none else Text.readDigits? 10 cs
  | _ => if isZeroLed cs then none else Text.readDigits? 10 cs

def integer? : List Char → Option Int
  | '-' :: cs => (readMagnitude? cs).map fun n => -(n : Int)
  | '+' :: cs => (readMagnitude? cs).map Int.ofNat
  | cs => (readMagnitude? cs).map Int.ofNat

/-- A number without a sign of 64 bits. A minus sign does not go with it, not even in front of a zero. -/
def unsigned? (cs : List Char) : Option Nat :=
  match cs with
  | '-' :: _ => none
  | _ =>
    match integer? cs with
    | some n => if Word.isUnsigned64 n then some n.toNat else none
    | none => none

/-- The integers that a plain scalar can mean have at most 128 bits. -/
def isIntegerRange (n : Int) : Bool :=
  -Int.ofNat (1 <<< 127) ≤ n && n < Int.ofNat (1 <<< 128)

/-- Words for infinity and for no number; all others are finite. -/
def real? (cs : List Char) : Option Binary64 :=
  let unsigned := match cs with
    | '+' :: rest => rest
    | rest => rest
  if cs.head? == some '+' && unsigned.head?.any isSign then none
  else if [".inf", ".Inf", ".INF"].contains (String.ofList unsigned) then some (.infinite false)
  else if ["-.inf", "-.Inf", "-.INF"].contains (String.ofList cs) then some (.infinite true)
  else if [".nan", ".NaN", ".NAN"].contains (String.ofList cs) then some .nan
  else (Binary64.parse? (String.ofList unsigned)).filter (·.isFinite)

def boundedInteger? (cs : List Char) : Option Int :=
  (integer? cs).filter isIntegerRange

def ofPlain (cs : List Char) : Meaning :=
  if cs.isEmpty || isNull cs then nothing
  else
    match bool? cs with
    | some value => bool value
    | none =>
      match boundedInteger? cs with
      | some value => integer value
      | none =>
        match if isZeroLed cs then none else real? cs with
        | some value => real value
        | none => text (String.ofList cs)

/-- A floating point number always shows a point. -/
private def describeReal (value : Binary64) : String :=
  let digits := value.describe
  if value.isFinite && !digits.toList.contains '.' then digits ++ ".0" else digits

/-- How a message names what it did not expect. Integers beyond 64 bits are named with their width. -/
def describe : Meaning → String
  | nothing => "unit value"
  | bool value => s!"boolean \x60{value}\x60"
  | integer value =>
    if Word.isSigned64 value || Word.isUnsigned64 value then s!"integer \x60{value}\x60"
    else if 0 ≤ value then s!"integer \x60{value}\x60 as u128"
    else s!"integer \x60{value}\x60 as i128"
  | real value => s!"floating point \x60{describeReal value}\x60"
  | text value => s!"string {Text.quote value}"

def boolTag : List UInt8 := Tag.octets "tag:yaml.org,2002:bool"

def integerTag : List UInt8 := Tag.octets "tag:yaml.org,2002:int"

def realTag : List UInt8 := Tag.octets "tag:yaml.org,2002:float"

def nullTag : List UInt8 := Tag.octets "tag:yaml.org,2002:null"

/-- A scalar that does not have the kind that its tag says. -/
structure Mismatch where
  text : String
  kind : String
deriving DecidableEq, Repr

/-- What a scalar means. A tag of a known kind forces that kind; a private tag leaves a plain scalar as it is;
every other tag and every other style makes text. -/
def ofScalar (tag : Option (List UInt8)) (style : Style) (cs : List Char) : Except Mismatch Meaning :=
  let forced (kind : String) (meaning : Option Meaning) : Except Mismatch Meaning :=
    match meaning with
    | some meaning => .ok meaning
    | none => .error ⟨String.ofList cs, kind⟩
  match tag with
  | none => .ok (if style = .plain then ofPlain cs else text (String.ofList cs))
  | some tag =>
    if tag = boolTag then forced "a boolean" ((bool? cs).map bool)
    else if tag = integerTag then forced "an integer" ((boundedInteger? cs).map integer)
    else if tag = realTag then forced "a float" ((real? cs).map real)
    else if tag = nullTag then forced "null" (if isNull cs then some nothing else none)
    else if tag.head? = some Tag.privateMark && style = .plain then .ok (ofPlain cs)
    else .ok (text (String.ofList cs))

end Meaning

end PodRunner.Yaml
