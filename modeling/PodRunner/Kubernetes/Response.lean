import PodRunner.Json.Reader
import PodRunner.Kubernetes.Error
import PodRunner.Pod.Document

/-!
# Responses of the Kubernetes API

A response is a status code and a text. Codes from 400 to 599 say that the request failed, and the text then
says how, if it can be read. The text of every other response has to be the document that was asked for.
-/

namespace PodRunner.Kubernetes

structure Response where
  code : Nat
  body : String
deriving DecidableEq, Repr

namespace Response

/-- The registered names of the status codes of failures. -/
def reason : Nat → String
  | 400 => "Bad Request"
  | 401 => "Unauthorized"
  | 402 => "Payment Required"
  | 403 => "Forbidden"
  | 404 => "Not Found"
  | 405 => "Method Not Allowed"
  | 406 => "Not Acceptable"
  | 407 => "Proxy Authentication Required"
  | 408 => "Request Timeout"
  | 409 => "Conflict"
  | 410 => "Gone"
  | 411 => "Length Required"
  | 412 => "Precondition Failed"
  | 413 => "Payload Too Large"
  | 414 => "URI Too Long"
  | 415 => "Unsupported Media Type"
  | 416 => "Range Not Satisfiable"
  | 417 => "Expectation Failed"
  | 418 => "I'm a teapot"
  | 421 => "Misdirected Request"
  | 422 => "Unprocessable Entity"
  | 423 => "Locked"
  | 424 => "Failed Dependency"
  | 425 => "Too Early"
  | 426 => "Upgrade Required"
  | 428 => "Precondition Required"
  | 429 => "Too Many Requests"
  | 431 => "Request Header Fields Too Large"
  | 451 => "Unavailable For Legal Reasons"
  | 500 => "Internal Server Error"
  | 501 => "Not Implemented"
  | 502 => "Bad Gateway"
  | 503 => "Service Unavailable"
  | 504 => "Gateway Timeout"
  | 505 => "HTTP Version Not Supported"
  | 506 => "Variant Also Negotiates"
  | 507 => "Insufficient Storage"
  | 508 => "Loop Detected"
  | 510 => "Not Extended"
  | 511 => "Network Authentication Required"
  | _ => "<unknown status code>"

def isFailure (response : Response) : Bool := 400 ≤ response.code && response.code < 600

open Json (Shape)

private def errorParts : List (String × Json.Presence × Shape) :=
  [("status", .required, .text), ("message", .defaulted, .text), ("reason", .defaulted, .text),
    ("code", .required, .integer 0 65535)]

private def errorResponse? (json : Json) : Option ErrorResponse :=
  let named : Json := match json with
    | .array items => .object ((errorParts.map (·.1)).zip items)
    | json => json
  if (Shape.fixedRecord errorParts).accepts Json.greatestDepth json then do
    let status ← named.textAt? "status"
    let code ← (named.get? "code").bind Json.integer?
    some ⟨status, (named.textAt? "message").getD "", (named.textAt? "reason").getD "", code.toNat⟩
  else none

/-- What a failed response says: its own account if its text holds one, or else its code and its text. -/
def errorOf (response : Response) : ErrorResponse :=
  ((Json.read? response.body).bind errorResponse?).getD
    ⟨s!"{response.code} {reason response.code}", Text.quote response.body,
      "Failed to parse error data", response.code⟩

def checked (response : Response) : Except ApiError String :=
  if response.isFailure then .error (.api response.errorOf) else .ok response.body

def pod (response : Response) : Except ApiError Pod := do
  let body ← response.checked
  match (Json.read? body).bind Pod.ofJson? with
  | some pod => .ok pod
  | none => .error .undecodable

private def causeShape : Shape :=
  .fixedRecord (["reason", "message", "field"].map fun name => (name, .defaulted, .text))

private def detailsShape : Shape :=
  .fixedRecord ((["name", "group", "kind", "uid"].map fun name => (name, .defaulted, .text)) ++
    [("causes", .defaulted, .list causeShape),
      ("retryAfterSeconds", .defaulted, .integer 0 (UInt32.size - 1))])

private def outcomeShape : Shape :=
  .fixedRecord [("status", .optional, .variant ["Success", "Failure"]),
    ("code", .defaulted, .integer 0 65535), ("message", .defaulted, .text), ("reason", .defaulted, .text),
    ("details", .optional, detailsShape)]

/-- A deletion is confirmed by the Pod that goes or by a status document. All of its text has to be sound. -/
def deletion (response : Response) : Except ApiError Unit := do
  let body ← response.checked
  match (Json.read? body).filter (·.isSound Json.greatestDepth) with
  | none => .error .undecodable
  | some json =>
    let accepted :=
      if json.textAt? "kind" = some "Status" then outcomeShape.accepts Json.greatestDepth json
      else (Pod.ofJson? json).isSome
    if accepted then .ok () else .error .undecodable

end Response

end PodRunner.Kubernetes
