import PodRunner.Error
import PodRunner.Text.Digits

/-!
# Model paths

A model path is a base path, the name of a model and a version, with slashes between them and any number
of slashes at the end. The base path may itself hold slashes, so a path is read from its end.
-/

namespace PodRunner

structure ModelPath where
  basePath : String
  modelName : String
  version : UInt64
deriving DecidableEq, Repr

namespace ModelPath

def invalid (path : String) : Error :=
  .invalidConfig s!"<{path}> is not a <base_path>/<model_name>/<version> model path"

def splitSlash? (cs : List Char) : Option (List Char × List Char) :=
  match cs.dropWhile (· != '/') with
  | [] => none
  | _ :: rest => some (cs.takeWhile (· != '/'), rest)

/-- An unsigned number of 64 bits in decimal digits, with at most one plus sign in front. -/
def readVersion? (cs : List Char) : Option UInt64 :=
  let digits := match cs with
    | '+' :: rest => rest
    | rest => rest
  match Text.readDigits? 10 digits with
  | some n => if n < UInt64.size then some (UInt64.ofNat n) else none
  | none => none

/-- The parts of a path given from its end. -/
def readReversed? (reversed : List Char) : Option ModelPath := do
  let (version, rest) ← splitSlash? (reversed.dropWhile (· == '/'))
  let (name, base) ← splitSlash? rest
  if name.isEmpty || base.isEmpty then none
  else
    let version ← readVersion? version.reverse
    some ⟨String.ofList base.reverse, String.ofList name.reverse, version⟩

def parse (path : String) : Except Error ModelPath :=
  match readReversed? path.toList.reverse with
  | some parts => .ok parts
  | none => .error (invalid path)

def render (parts : ModelPath) : String :=
  parts.basePath ++ "/" ++ parts.modelName ++ "/" ++ toString parts.version.toNat

end ModelPath

end PodRunner
