import PodRunner.Text.Digits
import PodRunner.Yaml.Text

/-!
# Tags

A tag in the text is a handle, which stands for the beginning of the tag, and a suffix. A tag in angle
brackets is whole and has the empty handle. A suffix is a run of octets, some of them written in hexadecimal
digits, and ends at a zero octet.
-/

namespace PodRunner.Yaml

structure Tag where
  handle : List Char
  suffix : List UInt8
deriving DecidableEq, Repr

namespace Tag

def octets (text : String) : List UInt8 := text.toList.map fun c => UInt8.ofNat c.toNat

/-- Begins the tags that have a meaning only where they are used. -/
def privateMark : UInt8 := 0x21

/-- A character of a suffix. In angle brackets and in directives some more are allowed. -/
private def isSuffixChar (whole : Bool) (c : Char) : Bool :=
  isWordChar c || ";/?:@&=+$.%!~*'()".toList.contains c || (whole && [',', '[', ']'].contains c)

/-- How many octets follow the first one of a character. -/
private def followers? (octet : Nat) : Option Nat :=
  if octet < 0x80 then some 0
  else if 0xC0 ≤ octet ∧ octet < 0xE0 then some 1
  else if 0xE0 ≤ octet ∧ octet < 0xF0 then some 2
  else if 0xF0 ≤ octet ∧ octet < 0xF8 then some 3
  else none

/-- The octets of a suffix. An octet in two hexadecimal digits stands behind a percent sign; as many more of
them have to follow as the first one of a character says, which are the `pending` ones. -/
private def decode? : (pending : Nat) → List Char → Option (List UInt8)
  | 0, [] => some []
  | _ + 1, [] => none
  | pending, '%' :: high :: low :: rest => do
    let octet := (← Text.digitValue? high) * 16 + (← Text.digitValue? low)
    let pending ← match pending with
      | 0 => followers? octet
      | pending + 1 => if 0x80 ≤ octet ∧ octet < 0xC0 then some pending else none
    return UInt8.ofNat octet :: (← decode? pending rest)
  | 0, c :: rest => if c == '%' then none else (decode? 0 rest).map (UInt8.ofNat c.toNat :: ·)
  | _ + 1, _ => none

/-- A suffix, which may be empty only behind some text that belongs to it. -/
private def readSuffix? (whole : Bool) (before : List Char) (cs : List Char) :
    Option (List UInt8 × List Char) :=
  let raw := cs.takeWhile (isSuffixChar whole)
  let rest := cs.dropWhile (isSuffixChar whole)
  if raw.isEmpty && before.isEmpty then none
  else (decode? 0 (before.drop 1 ++ raw)).map fun octets => (octets.takeWhile (· != 0), rest)

/-- A handle as far as it goes: an exclamation mark, a word and maybe another exclamation mark. -/
private def readHandle? : List Char → Option (List Char × List Char)
  | '!' :: cs =>
    let word := cs.takeWhile isWordChar
    match cs.dropWhile isWordChar with
    | '!' :: rest => some ('!' :: word ++ ['!'], rest)
    | rest => some ('!' :: word, rest)
  | _ => none

private def isClosed (handle : List Char) : Bool :=
  handle.length > 1 && handle.getLast? == some '!'

/-- The tag of a node. A single exclamation mark is a suffix and no handle. -/
def read? (flow : Bool) (cs : List Char) : Option (Tag × List Char) := do
  let (tag, rest) ← match cs with
    | '!' :: '<' :: afterBracket =>
      match readSuffix? true [] afterBracket with
      | some (suffix, '>' :: rest) => some ((⟨[], suffix⟩ : Tag), rest)
      | _ => none
    | _ =>
      match readHandle? cs with
      | none => none
      | some (handle, afterHandle) =>
        if isClosed handle then
          (readSuffix? false [] afterHandle).map fun (suffix, rest) => (⟨handle, suffix⟩, rest)
        else
          (readSuffix? false handle afterHandle).map fun (suffix, rest) =>
            (if suffix.isEmpty then ⟨[], [privateMark]⟩ else ⟨['!'], suffix⟩, rest)
  if atGap rest || (flow && rest.head? == some ',') then return (tag, rest) else none

def readDirective? (cs : List Char) : Option ((List Char × List UInt8) × List Char) := do
  let (handle, rest) ← readHandle? (cs.dropWhile isBlank)
  if handle != ['!'] && !isClosed handle then none
  else if !(rest.head?.any isBlank) then none
  else
    let (beginning, rest) ← readSuffix? true [] (rest.dropWhile isBlank)
    if atGap rest then return ((handle, beginning), rest) else none

def standardHandles : List (List Char × List UInt8) :=
  [(['!'], [privateMark]), (['!', '!'], octets "tag:yaml.org,2002:")]

def resolve? (tag : Tag) (handles : List (List Char × List UInt8)) : Option (List UInt8) :=
  if tag.handle.isEmpty then some tag.suffix
  else (handles.find? fun entry => entry.1 == tag.handle).map fun entry => entry.2 ++ tag.suffix

end Tag

end PodRunner.Yaml
