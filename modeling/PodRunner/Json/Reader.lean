import PodRunner.Json.Number

/-!
# Reading JSON text

A text is one value with blanks around it. Numbers have no superfluous zeros in front, and strings hold no
control characters. Only the form of the text is checked here: what is written well and still means
nothing is read as an unsound value.
-/

namespace PodRunner.Json

open Text (isDigit)

private def isBlank (c : Char) : Bool := c == ' ' || c == '\t' || c == '\n' || c == '\r'

/-! ## Strings -/

private def readUnit? : List Char → Option (Nat × List Char)
  | a :: b :: c :: d :: rest => (Text.readDigits? 16 [a, b, c, d]).map fun unit => (unit, rest)
  | _ => none

private def readSecondUnit? (cs : List Char) : Option (Nat × List Char) :=
  match cs with
  | '\\' :: 'u' :: rest =>
    (readUnit? rest).filter fun (unit, _) => 0xDC00 ≤ unit && unit ≤ 0xDFFF
  | _ => none

/-- What follows the `u` of an escape: a code point, the two units of a pair, or half of a pair, which is no
character. -/
private def readCodePoint? (cs : List Char) : Option (Option Char × List Char) :=
  match readUnit? cs with
  | none => none
  | some (unit, rest) =>
    if unit < 0xD800 || 0xDFFF < unit then some (some (Char.ofNat unit), rest)
    else if 0xDBFF < unit then some (none, rest)
    else
      match readSecondUnit? rest with
      | some (second, rest) =>
        some (some (Char.ofNat (0x10000 + (unit - 0xD800) * 0x400 + (second - 0xDC00))), rest)
      | none => some (none, rest)

private def simpleEscape? : Char → Option Char
  | '"' => some '"'
  | '\\' => some '\\'
  | '/' => some '/'
  | 'b' => some '\x08'
  | 'f' => some '\x0c'
  | 'n' => some '\n'
  | 'r' => some '\r'
  | 't' => some '\t'
  | _ => none

/-- The rest of a string after its opening quote. What has been read is held with the last character
first, as long as all of it is characters. -/
private def readString? : (bound : Nat) → (read : Option (List Char)) → List Char →
    Option (Option String × List Char)
  | 0, _, _ => none
  | bound + 1, read, cs =>
    let readOn (c : Option Char) (rest : List Char) :=
      readString? bound (read.bind fun read => c.map fun c => c :: read) rest
    match cs with
    | [] => none
    | '"' :: rest => some (read.map fun read => String.ofList read.reverse, rest)
    | '\\' :: 'u' :: rest => (readCodePoint? rest).bind fun (c, rest) => readOn c rest
    | '\\' :: c :: rest => (simpleEscape? c).bind fun c => readOn (some c) rest
    | c :: rest => if c < ' ' || c == '\\' then none else readOn (some c) rest

/-! ## Numbers -/

/-- Whether an integer is written without a superfluous zero. -/
private def plainInteger : List Char → Bool
  | [] => false
  | ['0'] => true
  | c :: _ => c != '0'

private def readNumber? (cs : List Char) : Option (NumberText × List Char) :=
  let (negative, unsigned) := match cs with
    | '-' :: rest => (true, rest)
    | rest => (false, rest)
  let whole := unsigned.takeWhile isDigit
  let (part, afterPart) := match unsigned.dropWhile isDigit with
    | '.' :: rest => (some (rest.takeWhile isDigit), rest.dropWhile isDigit)
    | rest => (none, rest)
  let (exponent, rest) := match afterPart with
    | 'e' :: rest | 'E' :: rest =>
      let (negative, digits) := match rest with
        | '-' :: rest => (true, rest)
        | '+' :: rest => (false, rest)
        | rest => (false, rest)
      (some (negative, digits.takeWhile isDigit), digits.dropWhile isDigit)
    | rest => (none, rest)
  let complete := plainInteger whole && !part.any (·.isEmpty) && !exponent.any (·.2.isEmpty)
  if complete then some (⟨negative, whole, part, exponent⟩, rest) else none

/-! ## Values -/

/-- An object, unless one of its keys is unsound. -/
private def ofEntries (entries : Option (List (String × Json))) : Json :=
  entries.elim unsound fun entries => object entries.reverse

mutual

/-- One value after any blanks. The bound is on the number of steps and is never reached when it is at
least twice the length of the text and two more. -/
private def readValue? : (bound : Nat) → List Char → Option (Json × List Char)
  | 0, _ => none
  | bound + 1, cs =>
    match cs.dropWhile isBlank with
    | 'n' :: 'u' :: 'l' :: 'l' :: rest => some (null, rest)
    | 't' :: 'r' :: 'u' :: 'e' :: rest => some (bool true, rest)
    | 'f' :: 'a' :: 'l' :: 's' :: 'e' :: rest => some (bool false, rest)
    | '"' :: rest =>
      (readString? bound (some []) rest).map fun (text, rest) => (text.elim unsound string, rest)
    | '[' :: rest =>
      match rest.dropWhile isBlank with
      | ']' :: rest => some (array [], rest)
      | rest => readItems? bound [] rest
    | '\x7b' :: rest =>
      match rest.dropWhile isBlank with
      | '\x7d' :: rest => some (object [], rest)
      | rest => readEntries? bound (some []) rest
    | rest => (readNumber? rest).map fun (number, rest) => (number.toJson, rest)

private def readItems? : (bound : Nat) → (read : List Json) → List Char → Option (Json × List Char)
  | 0, _, _ => none
  | bound + 1, read, cs =>
    match readValue? bound cs with
    | none => none
    | some (item, rest) =>
      match rest.dropWhile isBlank with
      | ',' :: rest => readItems? bound (item :: read) rest
      | ']' :: rest => some (array (item :: read).reverse, rest)
      | _ => none

/-- The entries that have been read are held with the last one first, as long as all keys are sound. -/
private def readEntries? : (bound : Nat) → (read : Option (List (String × Json))) → List Char →
    Option (Json × List Char)
  | 0, _, _ => none
  | bound + 1, read, cs =>
    match cs.dropWhile isBlank with
    | '"' :: rest =>
      match readString? bound (some []) rest with
      | none => none
      | some (key, rest) =>
        match rest.dropWhile isBlank with
        | ':' :: rest =>
          match readValue? bound rest with
          | none => none
          | some (value, rest) =>
            let read := read.bind fun read => key.map fun key => (key, value) :: read
            match rest.dropWhile isBlank with
            | ',' :: rest => readEntries? bound read rest
            | '\x7d' :: rest => some (ofEntries read, rest)
            | _ => none
        | _ => none
    | _ => none

end

def read? (text : String) : Option Json :=
  let cs := text.toList
  match readValue? (2 * cs.length + 2) cs with
  | some (json, rest) => if rest.all isBlank then some json else none
  | none => none

end PodRunner.Json
