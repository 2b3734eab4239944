import PodRunner.Kubernetes.Error
import PodRunner.Pod.Document

/-!
# Requests to the Kubernetes API

The requests that create, read and delete a Pod. A Pod is read and deleted by name, and the name must make a
valid address.
-/

namespace PodRunner.Kubernetes

inductive Method where
  | get
  | post
  | delete
deriving DecidableEq, Repr

namespace Method

def name : Method → String
  | get => "GET"
  | post => "POST"
  | delete => "DELETE"

end Method

structure Request where
  method : Method
  uri : String
  body : Option Json
deriving Repr

namespace Request

/-- A character that may stand in the path of an address as it is. -/
def isPathChar (c : Char) : Bool :=
  let code := c.toNat
  code == 0x21 || (0x24 ≤ code && code ≤ 0x3B) || code == 0x3D || (0x40 ≤ code && code ≤ 0x5F) ||
    (0x61 ≤ code && code ≤ 0x7E) || code ≥ 0x80 || c == '"'

/-- A character that may stand behind the question mark of an address as it is. -/
def isQueryChar (c : Char) : Bool :=
  let code := c.toNat
  code == 0x21 || (0x24 ≤ code && code ≤ 0x3B) || code == 0x3D || (0x3F ≤ code && code ≤ 0x7E) ||
    code ≥ 0x80

/-- An address without its fragment, if all of it is valid. -/
def address? (uri : String) : Option String :=
  let cs := uri.toList.takeWhile (· != '#')
  let path := cs.takeWhile (· != '?')
  let query := cs.drop (path.length + 1)
  if path.all isPathChar && query.all isQueryChar then some (String.ofList cs) else none

/-- The number of octets that an address can have, with its fragment. -/
def greatestLength : Nat := 65534

private def make (method : Method) (uri : String) (body : Option Json) : Except ApiError Request :=
  if greatestLength < uri.utf8ByteSize then .error .longUri
  else
    match address? uri with
    | some uri => .ok ⟨method, uri, body⟩
    | none => .error .invalidUri

private theorem make_ok {method : Method} {uri : String} {body : Option Json} {request : Request}
    (h : make method uri body = .ok request) :
    request.method = method ∧ address? uri = some request.uri ∧ request.body = body := by
  unfold make at h
  split at h
  · cases h
  · split at h
    · rename_i address haddress
      cases h
      exact ⟨rfl, haddress, rfl⟩
    · cases h

private theorem make_method {method : Method} {uri : String} {body : Option Json} {request : Request}
    (h : make method uri body = .ok request) : request.method = method :=
  (make_ok h).1

def podsUri (ns : String) : String := s!"/api/v1/namespaces/{ns}/pods"

private def named (name : String) (request : Except ApiError Request) : Except ApiError Request :=
  if name.isEmpty then .error .emptyName else request

private theorem named_ok {name : String} {request : Except ApiError Request} {sent : Request}
    (h : named name request = .ok sent) : request = .ok sent := by
  unfold named at h
  split at h
  · cases h
  · exact h

def createPod (ns : String) (pod : Pod) : Except ApiError Request :=
  make .post s!"{podsUri ns}?" (some pod.toJson)

def getPod (name ns : String) : Except ApiError Request :=
  named name (make .get s!"{podsUri ns}/{name}" none)

def deletePod (name ns : String) : Except ApiError Request :=
  named name (make .delete s!"{podsUri ns}/{name}?" (some (.object [])))

theorem createPod_method {ns : String} {pod : Pod} {request : Request} (h : createPod ns pod = .ok request) :
    request.method = .post :=
  make_method h

theorem getPod_method {name ns : String} {request : Request} (h : getPod name ns = .ok request) :
    request.method = .get :=
  make_method (named_ok h)

theorem getPod_ok {name ns : String} {request : Request} (h : getPod name ns = .ok request) :
    request.method = .get ∧ address? s!"{podsUri ns}/{name}" = some request.uri ∧ request.body = none :=
  make_ok (named_ok h)

theorem deletePod_method {name ns : String} {request : Request} (h : deletePod name ns = .ok request) :
    request.method = .delete :=
  make_method (named_ok h)

end Request

end PodRunner.Kubernetes
