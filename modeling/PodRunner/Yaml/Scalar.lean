import PodRunner.Yaml.Text

/-!
# Scalars

The ways to write a scalar, and how line breaks inside of one are folded: a single break becomes a space, and
of several the first one is dropped.
-/

namespace PodRunner.Yaml

inductive Style where
  | plain
  | singleQuoted
  | doubleQuoted
  | literal
  | folded
deriving DecidableEq, Repr

/-- White space between two stretches of a scalar: blanks on one line, or line breaks with the column that the
last line was indented to. Without a first break the line break itself was escaped. -/
inductive Gap where
  | blanks (text : List Char)
  | breaks (first : Option Char) (more : List Char) (column : Nat)
deriving DecidableEq, Repr

namespace Gap

def extend (gap : Gap) (c : Char) : Gap :=
  match gap with
  | blanks text => if isBreak c then breaks (some c) [] 0 else blanks (text ++ [c])
  | breaks first more column =>
    if isBreak c then breaks first (more ++ [c]) 0 else breaks first more (column + 1)

/-- What is left of a gap in the scalar. -/
def folded : Gap → List Char
  | blanks text => text
  | breaks first more _ =>
    if first = some '\n' then (if more.isEmpty then [' '] else more)
    else first.toList ++ more

def atLineStart : Gap → Bool
  | blanks _ => false
  | breaks _ _ column => column == 0

def isBroken : Gap → Bool
  | blanks _ => false
  | breaks _ _ _ => true

end Gap

end PodRunner.Yaml
