import PodRunner.Error
import PodRunner.Text.Quoted

/-!
# Errors of the Kubernetes API

The ways in which a request to the API can fail, and what each means to the caller: a missing object, a
refused permission, or a disturbance of the network, which covers all the rest.
-/

namespace PodRunner.Kubernetes

/-- The API's own account of a failed request. -/
structure ErrorResponse where
  status : String
  message : String
  reason : String
  code : Nat
deriving DecidableEq, Repr

namespace ErrorResponse

def describe (response : ErrorResponse) : String :=
  s!"{response.message}: {response.reason}"

def inspect (response : ErrorResponse) : String :=
  "ErrorResponse \x7b status: " ++ Text.quote response.status ++ ", message: " ++
    Text.quote response.message ++ ", reason: " ++ Text.quote response.reason ++ ", code: " ++
    toString response.code ++ " \x7d"

end ErrorResponse

inductive ApiError where
  | api (response : ErrorResponse)
  | service (message : String)
  | undecodable
  | emptyName
  | longUri
  | invalidUri
  | endlessLine
deriving DecidableEq, Repr

namespace ApiError

def message : ApiError → String
  | api response => s!"ApiError: {response.describe} ({response.inspect})"
  | service text => s!"ServiceError: {text}"
  | undecodable => "Error deserializing response"
  | emptyName =>
    "Failed to build request: failed to validate request: A non-empty name is required"
  | longUri => "Failed to build request: failed to build request: uri too long"
  | invalidUri => "Failed to build request: failed to build request: invalid uri character"
  | endlessLine => "Error finding newline character"

def toError (e : ApiError) : Error :=
  match e with
  | api response =>
    if response.code = 404 then .notFound response.message
    else if response.code = 401 ∨ response.code = 403 then .permissionDenied response.message
    else .network e.message
  | _ => .network e.message

end ApiError

end PodRunner.Kubernetes
