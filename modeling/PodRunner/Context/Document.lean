import PodRunner.Context.Draft
import PodRunner.Yaml.Document
import PodRunner.Yaml.Meaning

/-!
# Contexts as documents

The document of a context is a mapping with a section for each topic, all of them optional, as are most of
their fields. Unknown keys are passed over. The document is read in its order, and the first field that does
not fit is the error; whether the text as a whole is sound shows only after that.
-/

namespace PodRunner.Context

open Yaml (Node)

/-- Why a document is no context. Fields are named by the keys on the way to them. -/
inductive DocumentProblem where
  /-- The text is not one sound document. -/
  | unsound
  | wrongType (path : List String) (found expected : String)
  | wrongValue (path : List String) (found expected : String)
  | missingField (path : List String) (name : String)
  | repeatedField (path : List String) (name : String)
deriving DecidableEq, Repr

namespace DocumentProblem

/-- The way to a field in front of a message; nothing at the top. -/
private def located (path : List String) (text : String) : String :=
  if path.isEmpty then text else ".".intercalate path ++ ": " ++ text

def message : DocumentProblem → String
  | unsound => "yaml"
  | wrongType path found expected => located path s!"invalid type: {found}, expected {expected}"
  | wrongValue path found expected => located path s!"invalid value: {found}, expected {expected}"
  | missingField path name => located path s!"missing field \x60{name}\x60"
  | repeatedField path name => located path s!"duplicate field \x60{name}\x60"

def toError (problem : DocumentProblem) : Error := .invalidConfig problem.message

end DocumentProblem

/-- A place in a document: what all aliases stand for, and the keys on the way to it. -/
private structure Place where
  root : Node
  path : List String

private def Place.below (place : Place) (key : String) : Place :=
  { place with path := place.path ++ [key] }

/-- The node that counts in the place of a node. -/
private def Place.resolve (place : Place) : Node → Node
  | .aliasOf number => place.root.target number
  | node => node

private def mismatch (place : Place) (node : Node) (expected : String) : DocumentProblem :=
  match node with
  | .scalar _ tag style text =>
    match Yaml.Meaning.ofScalar tag style text with
    | .ok meaning => .wrongType place.path meaning.describe expected
    | .error e => .wrongValue place.path s!"string {Text.quote e.text}" e.kind
  | .sequence _ _ => .wrongType place.path "sequence" expected
  | .mapping _ _ => .wrongType place.path "map" expected
  | .aliasOf _ | .cut => .unsound

/-! ## Fields -/

private def readText (expected : String) (place : Place) (node : Node) : Except DocumentProblem String :=
  match place.resolve node with
  | .scalar _ _ _ text => .ok (String.ofList text)
  | other => .error (mismatch place other expected)

/-- The text that may be read as a number: a plain scalar, or a literal one that is tagged as an integer. -/
private def numeral? : Node → Option (List Char)
  | .scalar _ tag style text =>
    if style = .plain ∨ (style = .literal ∧ tag = some Yaml.Meaning.integerTag) then some text
    else none
  | _ => none

private def readUnsigned (expected : String) (bound : Nat) (place : Place) (node : Node) :
    Except DocumentProblem Nat :=
  let node := place.resolve node
  match (numeral? node).bind Yaml.Meaning.unsigned? with
  | some n =>
    if n < bound then .ok n
    else .error (.wrongValue place.path (Yaml.Meaning.integer n).describe expected)
  | none => .error (mismatch place node expected)

private def readUInt64 (place : Place) (node : Node) : Except DocumentProblem UInt64 :=
  (readUnsigned "u64" UInt64.size place node).map UInt64.ofNat

private def readUInt32 (place : Place) (node : Node) : Except DocumentProblem UInt32 :=
  (readUnsigned "u32" UInt32.size place node).map UInt32.ofNat

private def readInteger (place : Place) (node : Node) : Except DocumentProblem Int :=
  let node := place.resolve node
  match (numeral? node).bind Yaml.Meaning.integer? with
  | some n => if Word.isSigned64 n then .ok n else .error (mismatch place node "i64")
  | none => .error (mismatch place node "i64")

/-- A field that may be missing, null or empty. Under the tag of nulls it may not be anything else. -/
private def readOptional {α : Type} (read : Place → Node → Except DocumentProblem α)
    (around place : Place) (node : Node) : Except DocumentProblem (Option α) :=
  let node := place.resolve node
  match node with
  | .scalar _ tag .plain text =>
    match tag with
    | none =>
      if text.isEmpty || Yaml.Meaning.isNull text then .ok none else (read place node).map some
    | some tag =>
      if tag = Yaml.Meaning.nullTag then
        if Yaml.Meaning.isNull text then .ok none
        else .error (.wrongValue around.path s!"string {Text.quote (String.ofList text)}" "null")
      else (read place node).map some
  | .cut => .error .unsound
  | _ => (read place node).map some

/-! ## Sections -/

/-- A section is read field by field into a draft of type `α`. -/
private structure Section (α : Type) where
  /-- What messages call it. -/
  name : String
  fields : List String
  empty : α
  /-- Reads a field at a place inside the section into the draft. -/
  set : (field : String) → (around place : Place) → Node → α → Except DocumentProblem α
  required : List String

/-- The key of an entry, and what the way to its value is called. -/
private def readKey (place : Place) (key : Node) : Except DocumentProblem (String × String) :=
  match key with
  | .aliasOf _ => (readText "field identifier" place key).map fun text => (text, "?")
  | _ => (readText "field identifier" place key).map fun text => (text, text)

private def readEntries {α : Type} (s : Section α) (place : Place) :
    (seen : List String) → α → List (Node × Node) → Except DocumentProblem (α × List String)
  | seen, draft, [] => .ok (draft, seen)
  | seen, draft, (key, value) :: entries =>
    match readKey place key with
    | .error problem => .error problem
    | .ok (name, step) =>
      if s.fields.contains name then
        if seen.contains name then .error (.repeatedField place.path name)
        else
          match s.set name place (place.below step) value draft with
          | .error problem => .error problem
          | .ok draft => readEntries s place (name :: seen) draft entries
      else if value.isWhole then readEntries s place seen draft entries
      else .error .unsound

private def checkRequired {α : Type} (s : Section α) (place : Place) (read : α × List String) :
    Except DocumentProblem α :=
  match s.required.find? fun field => !read.2.contains field with
  | some field => .error (.missingField place.path field)
  | none => .ok read.1

/-- A section is a mapping; a plain scalar without text is one without entries. -/
private def readSection {α : Type} (s : Section α) (place : Place) (node : Node) :
    Except DocumentProblem α :=
  let node := place.resolve node
  match node with
  | .mapping _ entries => (readEntries s place [] s.empty entries).bind (checkRequired s place)
  | .scalar _ _ .plain [] => checkRequired s place (s.empty, [])
  | other => .error (mismatch place other s!"struct {s.name}")

private def pollingSection : Section Draft.Polling where
  name := "RunnerYaml"
  fields := ["poll_interval_secs", "request_timeout_secs"]
  empty := ⟨none, none⟩
  required := []
  set field around place node draft :=
    match field with
    | "poll_interval_secs" => do
      return { draft with intervalSecs := ← readOptional readUInt64 around place node }
    | _ => do return { draft with timeoutSecs := ← readOptional readUInt64 around place node }

private def cleanupSection : Section Draft.Cleanup where
  name := "CleanupYaml"
  fields := ["attempts", "initial_backoff_secs", "max_backoff_secs"]
  empty := ⟨none, none, none⟩
  required := []
  set field around place node draft :=
    match field with
    | "attempts" => do return { draft with attempts := ← readOptional readUInt32 around place node }
    | "initial_backoff_secs" => do
      return { draft with initialSecs := ← readOptional readUInt64 around place node }
    | _ => do return { draft with maxSecs := ← readOptional readUInt64 around place node }

private def kubernetesSection : Section Draft.Kubernetes where
  name := "KubernetesYaml"
  fields := ["service_account_name", "active_deadline_seconds"]
  empty := ⟨none, none⟩
  required := []
  set field around place node draft :=
    match field with
    | "service_account_name" => do
      let name ← readOptional (readText "a string") around place node
      return { draft with serviceAccountName := name }
    | _ => do return { draft with activeDeadlineSeconds := ← readOptional readInteger around place node }

private def servingSection : Section Draft.Serving where
  name := "ServingYaml"
  fields := ["kind", "model_name", "tag"]
  empty := ⟨none, "", none⟩
  required := ["model_name"]
  set field around place node draft :=
    match field with
    | "kind" => do return { draft with kind := ← readOptional (readText "a string") around place node }
    | "model_name" => do return { draft with modelName := ← readText "a string" place node }
    | _ => do return { draft with tag := ← readOptional (readText "a string") around place node }

private def draftSection : Section Draft where
  name := "InfravalContextYaml"
  fields := ["runner", "cleanup", "kubernetes", "serving"]
  empty := .empty
  required := []
  set field around place node draft :=
    match field with
    | "runner" => do
      return { draft with polling := ← readOptional (readSection pollingSection) around place node }
    | "cleanup" => do
      return { draft with cleanup := ← readOptional (readSection cleanupSection) around place node }
    | "kubernetes" => do
      return { draft with kubernetes := ← readOptional (readSection kubernetesSection) around place node }
    | _ => do return { draft with serving := ← readOptional (readSection servingSection) around place node }

def draftOf (document : Yaml.Document) : Except DocumentProblem Draft := do
  let draft ← match document.root with
    | none => .ok Draft.empty
    | some root => readSection draftSection ⟨root, []⟩ root
  if document.complete then return draft else throw .unsound

def ofYaml (text : String) : Except Error Context := do
  let draft ← (draftOf (.ofText text)).mapError DocumentProblem.toError
  draft.validate.mapError Draft.Problem.toError

end PodRunner.Context
