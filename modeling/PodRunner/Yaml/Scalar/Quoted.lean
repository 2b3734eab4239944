import PodRunner.Text.Digits
import PodRunner.Yaml.Scalar

/-!
# Quoted scalars

Between single quotes everything stands for itself, and two quotes stand for one. Between double quotes a
backslash begins an escape. Lines are folded in both, and a line inside must not look like the mark of a
document.
-/

namespace PodRunner.Yaml.Quoted

def escaped? : Char → Option Char
  | '0' => some '\x00'
  | 'a' => some '\x07'
  | 'b' => some '\x08'
  | 't' | '\t' => some '\t'
  | 'n' => some '\n'
  | 'v' => some '\x0b'
  | 'f' => some '\x0c'
  | 'r' => some '\r'
  | 'e' => some '\x1b'
  | ' ' => some ' '
  | '"' => some '"'
  | '/' => some '/'
  | '\\' => some '\\'
  | 'N' => some '\u0085'
  | '_' => some '\u00a0'
  | 'L' => some '\u2028'
  | 'P' => some '\u2029'
  | _ => none

def escapeWidth? : Char → Option Nat
  | 'x' => some 2
  | 'u' => some 4
  | 'U' => some 8
  | _ => none

/-- The character of a code point, unless it is a surrogate or beyond the last one. -/
def character? (code : Nat) : Option Char :=
  if h : code.isValidChar then some (Char.ofNatAux code h) else none

/-- Where in a scalar the reader stands. -/
private inductive Position where
  | text
  | gap (gap : Gap)
  | escape
  | code (digits value : Nat)

/-- Reads on to the closing quote; the text so far is given in reverse. -/
private def readFrom? (quote : Char) :
    (text : List Char) → Position → List Char → Option (List Char × List Char)
  | _, _, [] => none
  | text, .escape, c :: cs =>
    if isBreak c then readFrom? quote text (.gap (.breaks none [] 0)) cs
    else
      match escaped? c with
      | some character => readFrom? quote (character :: text) .text cs
      | none =>
        match escapeWidth? c with
        | some width => readFrom? quote text (.code width 0) cs
        | none => none
  | text, .code digits value, c :: cs =>
    match Text.digitValue? c with
    | none => none
    | some digit =>
      let value := value * 16 + digit
      if 1 < digits then readFrom? quote text (.code (digits - 1) value) cs
      else
        match character? value with
        | some character => readFrom? quote (character :: text) .text cs
        | none => none
  | text, .gap gap, c :: cs =>
    if isWhite c then readFrom? quote text (.gap (gap.extend c)) cs
    else if gap.atLineStart && atDocumentMark (c :: cs) then none
    else
      let text := gap.folded.reverse ++ text
      if c == quote then
        match cs with
        | '\'' :: rest =>
          if quote == '\'' then readFrom? quote ('\'' :: text) .text rest else some (text.reverse, cs)
        | rest => some (text.reverse, rest)
      else if c == '\\' && quote == '"' then readFrom? quote text .escape cs
      else readFrom? quote (c :: text) .text cs
  | text, .text, c :: cs =>
    if isWhite c then readFrom? quote text (.gap (Gap.extend (.blanks []) c)) cs
    else if c == quote then
      match cs with
      | '\'' :: rest =>
        if quote == '\'' then readFrom? quote ('\'' :: text) .text rest else some (text.reverse, cs)
      | rest => some (text.reverse, rest)
    else if c == '\\' && quote == '"' then readFrom? quote text .escape cs
    else readFrom? quote (c :: text) .text cs

def read? (quote : Char) (cs : List Char) : Option (List Char × List Char) :=
  readFrom? quote [] .text cs

end PodRunner.Yaml.Quoted
