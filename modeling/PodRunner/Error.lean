import PodRunner.Phase

/-!
# Errors

What an operation can report instead of its result, sorted by what the caller can do about it. Each kind
carries the part of its wording that varies; `Error.message` is the whole wording.
-/

namespace PodRunner

inductive Error where
  | notFound (what : String)
  | internal (text : String)
  | network (text : String)
  | permissionDenied (text : String)
  | invalidConfig (text : String)
  | uninitialized (what : String)
  | invalidState (text : String)
  | notImplemented (what : String)
  | ownerUnavailable (text : String)
  | jobAborted (phase : Phase)
  | deadlineExceeded (text : String)
deriving DecidableEq, Repr

namespace Error

def message : Error → String
  | notFound what => s!"'{what}' not found"
  | internal text => text
  | network text => text
  | permissionDenied text => s!"permission denied: {text}"
  | invalidConfig text => text
  | uninitialized what => s!"'{what}' is not initialized"
  | invalidState text => text
  | notImplemented what => s!"{what} is not implemented"
  | ownerUnavailable text => s!"not running under an expected controller: {text}"
  | jobAborted phase => s!"job has been aborted (phase={phase.name})"
  | deadlineExceeded text => s!"deadline exceeded: {text}"

/-- A later call may not see this error again. -/
def isTransient : Error → Bool
  | network _ => true
  | _ => false

end Error

end PodRunner
