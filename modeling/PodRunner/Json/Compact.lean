import PodRunner.Binary64.Decimal
import PodRunner.Json
import PodRunner.Text.Quoted

/-!
# Compact JSON text

A value on one line without blanks, the entries of every object in ascending order of their keys, and of
entries with one key only the last.
-/

namespace PodRunner.Json

private def escapeChar (c : Char) : List Char :=
  match c with
  | '"' => ['\\', '"']
  | '\\' => ['\\', '\\']
  | '\n' => ['\\', 'n']
  | '\r' => ['\\', 'r']
  | '\t' => ['\\', 't']
  | '\x08' => ['\\', 'b']
  | '\x0c' => ['\\', 'f']
  | c =>
    if c < ' ' then
      let digits := Text.hex c.toNat
      ['\\', 'u'] ++ List.replicate (4 - digits.length) '0' ++ digits
    else [c]

private def compactText (text : String) : String :=
  String.ofList ('"' :: text.toList.flatMap escapeChar ++ ['"'])

private def zeros (n : Nat) : String := String.ofList (List.replicate n '0')

/-- Positional notation for magnitudes from `10 ^ -5` up to `10 ^ 16`, scientific notation with a signed
exponent elsewhere. -/
private def compactReal (negative : Bool) (units : Nat) : String :=
  let magnitude :=
    if units = 0 then "0.0"
    else
      let (number, step) := Binary64.shortestDecimal .even units
      let digits := toString number
      let point : Int := digits.length + step
      if 0 ≤ step ∧ point ≤ 16 then digits ++ zeros step.toNat ++ ".0"
      else if 0 < point ∧ point ≤ 16 then
        (digits.take point.toNat).toString ++ "." ++ (digits.drop point.toNat).toString
      else if -5 < point ∧ point ≤ 0 then "0." ++ zeros (-point).toNat ++ digits
      else
        let lead := (digits.take 1).toString
        let rest := (digits.drop 1).toString
        let sign := if 0 < point then "+" else ""
        (if rest.isEmpty then lead else lead ++ "." ++ rest) ++ "e" ++ sign ++ toString (point - 1)
  if negative then "-" ++ magnitude else magnitude

/-- Of neighbours with one key the last one. -/
private def lastOfKeys : List (String × String) → List (String × String)
  | a :: b :: rest => if a.1 == b.1 then lastOfKeys (b :: rest) else a :: lastOfKeys (b :: rest)
  | rest => rest

mutual

def compact : Json → String
  | null => "null"
  | bool value => if value then "true" else "false"
  | integer value => toString value
  | real (.finite negative units) => compactReal negative units
  | real _ => "null"
  | string text => compactText text
  | array items => "[" ++ ",".intercalate (compactItems items) ++ "]"
  | object entries =>
    let sorted := lastOfKeys ((compactEntries entries).mergeSort fun a b => decide (a.1 ≤ b.1))
    "\x7b" ++ ",".intercalate (sorted.map fun entry => compactText entry.1 ++ ":" ++ entry.2) ++ "\x7d"
  | unsound => "null"

private def compactItems : List Json → List String
  | [] => []
  | item :: items => compact item :: compactItems items

private def compactEntries : List (String × Json) → List (String × String)
  | [] => []
  | (key, value) :: entries => (key, compact value) :: compactEntries entries

end

end PodRunner.Json
