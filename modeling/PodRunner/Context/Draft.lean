import PodRunner.Context

/-!
# Drafts of contexts

A draft is a configuration as somebody wrote it, in which sections and fields may be missing. Validation
fills in the defaults and checks the sections in a fixed order; the first problem counts. A missing section
is as good as its defaults and is not checked.
-/

namespace PodRunner

namespace Draft

structure Polling where
  intervalSecs : Option UInt64
  timeoutSecs : Option UInt64
deriving DecidableEq, Repr

structure Cleanup where
  attempts : Option UInt32
  initialSecs : Option UInt64
  maxSecs : Option UInt64
deriving DecidableEq, Repr

structure Kubernetes where
  serviceAccountName : Option String
  activeDeadlineSeconds : Option Int
deriving DecidableEq, Repr

structure Serving where
  kind : Option String
  modelName : String
  tag : Option String
deriving DecidableEq, Repr

inductive Problem where
  | noInterval
  | timeoutOutOfRange (intervalSecs timeoutSecs : Nat)
  | noAttempts
  | lastDelayOverCap (capSecs : Nat) (last : Duration) (pauses initialSecs : Nat)
  | noModelName
deriving DecidableEq, Repr

namespace Problem

def message : Problem → String
  | noInterval => "poll_interval_secs should be > 0"
  | timeoutOutOfRange interval timeout =>
    s!"request_timeout_secs should be in (0, {interval}). Got {timeout}"
  | noAttempts => "cleanup attempts should be >= 1"
  | lastDelayOverCap cap last pauses initial =>
    s!"max_backoff_secs ({cap}) should be >= {last.describe}, the last of {pauses} delays " ++
      s!"from initial_backoff_secs ({initial})"
  | noModelName => "serving.model_name is empty"

def toError (problem : Problem) : Error := .invalidConfig problem.message

end Problem

namespace Polling

def defaultIntervalSecs : UInt64 := 5

def defaultTimeoutSecs : UInt64 := 3

/-- A query must have been given up before the next one is due. -/
def validate (draft : Polling) : Except Problem PodRunner.Polling :=
  let interval := Duration.ofSecs (draft.intervalSecs.getD defaultIntervalSecs).toNat
  let timeout := Duration.ofSecs (draft.timeoutSecs.getD defaultTimeoutSecs).toNat
  if h : 0 < interval.nanos then
    if Duration.zero < timeout ∧ timeout < interval then .ok ⟨interval, timeout, h⟩
    else .error (.timeoutOutOfRange interval.secs timeout.secs)
  else .error .noInterval

end Polling

namespace Cleanup

def defaultAttempts : UInt32 := 5

def defaultInitialSecs : UInt64 := 1

def defaultMaxSecs : UInt64 := 10

def backoff (draft : Cleanup) : Backoff where
  attempts := draft.attempts.getD defaultAttempts
  initialDelay := .ofSecs (draft.initialSecs.getD defaultInitialSecs).toNat
  maxDelay := .ofSecs (draft.maxSecs.getD defaultMaxSecs).toNat
  multiplier := .two

/-- The pauses have to grow up to the last one, so the first must not be zero and only the last may reach
the cap. -/
def validate (draft : Cleanup) : Except Problem Backoff :=
  let b := draft.backoff
  if b.attempts = 0 then .error .noAttempts
  else if 1 < b.attempts ∧ (b.initialDelay = .zero ∨ b.maxDelay < b.lastDelay) then
    .error (.lastDelayOverCap b.maxDelay.secs b.lastDelay b.pauses b.initialDelay.secs)
  else .ok b

end Cleanup

namespace Kubernetes

/-- An empty account name is none. A deadline may be of any sign here. -/
def config (draft : Kubernetes) : KubernetesConfig where
  serviceAccountName := draft.serviceAccountName.filter fun name => !name.isEmpty
  activeDeadlineSeconds := draft.activeDeadlineSeconds

def defaultConfig : KubernetesConfig := ⟨none, none⟩

end Kubernetes

namespace Serving

def defaultTag : String := "latest"

def validate (draft : Serving) : Except Problem ServingConfig :=
  if draft.modelName.isEmpty then .error .noModelName
  else .ok {
    kind := draft.kind.getD ServingBinary.tensorFlowServingKind
    modelName := draft.modelName
    tag := draft.tag.getD defaultTag }

end Serving

end Draft

structure Draft where
  polling : Option Draft.Polling
  cleanup : Option Draft.Cleanup
  kubernetes : Option Draft.Kubernetes
  serving : Option Draft.Serving
deriving DecidableEq, Repr

namespace Draft

def empty : Draft := ⟨none, none, none, none⟩

/-- The context of a draft without problems. -/
def validate (draft : Draft) : Except Problem Context := do
  let polling ← draft.polling.elim (.ok .default) Polling.validate
  let cleanup ← draft.cleanup.elim (.ok .default) Cleanup.validate
  let kubernetes := draft.kubernetes.elim Kubernetes.defaultConfig Kubernetes.config
  let serving ← match draft.serving with
    | none => .ok none
    | some serving => serving.validate.map some
  return { polling, cleanup, kubernetes, serving }

end Draft

end PodRunner
