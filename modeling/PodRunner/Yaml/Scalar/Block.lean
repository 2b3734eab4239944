import PodRunner.Text.Digits
import PodRunner.Yaml.Scalar

/-!
# Block scalars

A header says how deep the lines are indented, unless the first line with content shows it, and what becomes
of the line breaks at the end. Literal scalars keep all line breaks; folded ones fold those between two lines
that begin with no blank.
-/

namespace PodRunner.Yaml.Block

/-- What becomes of the line breaks at the end: all dropped, one kept, all kept. -/
inductive Chomping where
  | strip
  | clip
  | keep
deriving DecidableEq, Repr

structure Header where
  chomping : Chomping
  /-- How much deeper than its surroundings the scalar is indented, if that is said. -/
  increment : Option Nat
deriving DecidableEq, Repr

private def chomping? : Char → Option Chomping
  | '+' => some .keep
  | '-' => some .strip
  | _ => none

private def increment? (c : Char) : Option Nat :=
  if Text.isDigit c then some (c.toNat - '0'.toNat) else none

/-- The two indicators of a header, in any order and both optional. A zero is an error. -/
private def readIndicators? (cs : List Char) : Option (Header × List Char) :=
  let (header, rest) : Header × List Char := match cs with
    | [] => (⟨.clip, none⟩, [])
    | c :: afterFirst =>
      match chomping? c, increment? c with
      | some chomping, _ =>
        match afterFirst with
        | d :: rest =>
          if Text.isDigit d then (⟨chomping, increment? d⟩, rest)
          else (⟨chomping, none⟩, afterFirst)
        | [] => (⟨chomping, none⟩, [])
      | none, some increment =>
        match afterFirst with
        | d :: rest =>
          match chomping? d with
          | some chomping => (⟨chomping, some increment⟩, rest)
          | none => (⟨.clip, some increment⟩, afterFirst)
        | [] => (⟨.clip, some increment⟩, [])
      | none, none => (⟨.clip, none⟩, cs)
  if header.increment = some 0 then none else some (header, rest)

def endLine? (cs : List Char) : Option (List Char) :=
  let rest := cs.dropWhile isBlank
  let rest := if rest.head? = some '#' then rest.dropWhile fun c => !isBreak c else rest
  match rest with
  | [] => some []
  | c :: rest => if isBreak c then some rest else none

private structure State where
  /-- The text so far in reverse. -/
  text : List Char
  /-- The depth of the lines, once it is known. -/
  depth : Option Nat
  /-- The greatest depth of the lines without content at the beginning. -/
  widest : Nat
  /-- The depth of the present line, or nothing behind its indentation. -/
  column : Option Nat
  /-- The line break behind the last line with content. -/
  first : List Char
  /-- The line breaks of the lines without content behind it. -/
  more : List Char
  /-- The last line with content began with a blank. -/
  blank : Bool

/-- The state in front of the first character `c` of a line with content: the breaks before it have become
text. -/
private def State.beginLine (literal : Bool) (s : State) (c : Char) (depth : Nat) : State :=
  let folds := !literal && s.first == ['\n'] && !s.blank && !isBlank c
  let joint := if folds then (if s.more.isEmpty then [' '] else []) else s.first
  { s with
    text := c :: ((joint ++ s.more).reverse ++ s.text)
    depth := some depth
    column := none
    first := []
    more := []
    blank := isBlank c }

private def State.finish (chomping : Chomping) (s : State) : List Char :=
  match chomping with
  | .strip => s.text.reverse
  | .clip => s.text.reverse ++ s.first
  | .keep => s.text.reverse ++ s.first ++ s.more

private def readFrom? (literal : Bool) (chomping : Chomping) (margin : Nat) :
    State → List Char → Option (List Char × List Char)
  | s, [] => some (s.finish chomping, [])
  | s, c :: cs =>
    match s.column with
    | none =>
      if isBreak c then
        readFrom? literal chomping margin { s with column := some 0, first := [c] } cs
      else readFrom? literal chomping margin { s with text := c :: s.text } cs
    | some column =>
      let indenting := s.depth.all fun depth => column < depth
      let widest := max s.widest column
      if indenting && c == ' ' then
        readFrom? literal chomping margin { s with column := some (column + 1) } cs
      else if indenting && c == '\t' then none
      else if isBreak c then
        readFrom? literal chomping margin { s with column := some 0, more := s.more ++ [c], widest } cs
      else
        let depth := s.depth.getD (max widest (max margin 1))
        if column = depth then
          readFrom? literal chomping margin (s.beginLine literal c depth) cs
        else some (s.finish chomping, c :: cs)

def read? (literal : Bool) (margin : Nat) (cs : List Char) : Option (List Char × List Char) := do
  let (header, rest) ← readIndicators? cs
  let rest ← endLine? rest
  let depth := header.increment.map (margin - 1 + ·)
  readFrom? literal header.chomping margin ⟨[], depth, 0, some 0, [], [], false⟩ rest

end PodRunner.Yaml.Block
