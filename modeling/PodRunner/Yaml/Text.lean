/-!
# Text of documents

The characters that a document may hold and the classes of characters that its syntax knows. Line breaks are
made uniform before anything else: a carriage return, a line feed, both together and the next-line character
are all read as a line feed, while the line and paragraph separators stay what they are.
-/

namespace PodRunner.Yaml

/-- Control characters other than tab and line breaks make a text unreadable, as do a few code points
beyond. -/
def isReadable (c : Char) : Bool :=
  let code := c.toNat
  code == 0x09 || code == 0x0A || code == 0x0D || (0x20 ≤ code && code ≤ 0x7E) || code == 0x85 ||
    (0xA0 ≤ code && code ≤ 0xD7FF) || (0xE000 ≤ code && code ≤ 0xFFFD) || 0x10000 ≤ code

/-- May stand at the beginning of a line, where it is passed over and takes up a column. -/
def byteOrderMark : Char := '\ufeff'

def nextLine : Char := '\u0085'

def uniformBreaks : List Char → List Char
  | '\r' :: '\n' :: rest => '\n' :: uniformBreaks rest
  | c :: rest => (if c == '\r' || c == nextLine then '\n' else c) :: uniformBreaks rest
  | [] => []

/-- The characters of a text, if all of them are readable. -/
def characters? (text : String) : Option (List Char) :=
  if text.toList.all isReadable then some (uniformBreaks text.toList) else none

def isBreak (c : Char) : Bool := c == '\n' || c == '\u2028' || c == '\u2029'

def isBlank (c : Char) : Bool := c == ' ' || c == '\t'

def isWhite (c : Char) : Bool := isBlank c || isBreak c

def atGap : List Char → Bool
  | [] => true
  | c :: _ => isWhite c

/-- A character of names: of anchors, directives and the handles of tags. -/
def isWordChar (c : Char) : Bool :=
  ('0' ≤ c && c ≤ '9') || ('A' ≤ c && c ≤ 'Z') || ('a' ≤ c && c ≤ 'z') || c == '_' || c == '-'

def isFlowIndicator (c : Char) : Bool := [',', '[', ']', '\x7b', '\x7d'].contains c

/-- A mark that begins or ends a document, as it stands at the beginning of a line. -/
def atDocumentMark : List Char → Bool
  | '-' :: '-' :: '-' :: rest => atGap rest
  | '.' :: '.' :: '.' :: rest => atGap rest
  | _ => false

structure Mark where
  line : Nat
  column : Nat
deriving DecidableEq, Repr

namespace Mark

def start : Mark := ⟨0, 0⟩

def past (mark : Mark) (text : List Char) : Mark :=
  text.foldl
    (fun mark c => if isBreak c then ⟨mark.line + 1, 0⟩ else ⟨mark.line, mark.column + 1⟩) mark

end Mark

end PodRunner.Yaml
