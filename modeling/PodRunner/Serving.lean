import PodRunner.ModelPath
import PodRunner.Workload

/-!
# Serving binaries

A family of serving processes: which image to pull, on which ports it listens, and the environment that
points it at a model.
-/

namespace PodRunner

structure ServingConfig where
  kind : String
  modelName : String
  tag : String
deriving DecidableEq, Repr

structure KubernetesConfig where
  serviceAccountName : Option String
  activeDeadlineSeconds : Option Int
deriving DecidableEq, Repr

inductive ServingBinary where
  | tensorFlowServing (modelName tag : String)
deriving DecidableEq, Repr

namespace ServingBinary

def tensorFlowServingKind : String := "tensorflow_serving"

def ofConfig (config : ServingConfig) : Except Error ServingBinary :=
  if config.kind = tensorFlowServingKind then
    .ok (tensorFlowServing config.modelName config.tag)
  else .error (.notImplemented s!"serving binary <{config.kind}>")

def image : ServingBinary → String
  | tensorFlowServing _ tag => s!"tensorflow/serving:{tag}"

/-- The port of the interface that clients of an instance are given. -/
def containerPort : ServingBinary → UInt16
  | tensorFlowServing _ _ => 8500

def restPort : ServingBinary → UInt16
  | tensorFlowServing _ _ => 8501

def otherModel (modelPath modelName : String) : Error :=
  .invalidConfig s!"model path <{modelPath}> does not belong to model <{modelName}>"

def environment (binary : ServingBinary) (modelPath : String) : Except Error Environment :=
  match binary with
  | tensorFlowServing modelName _ => do
    let parts ← ModelPath.parse modelPath
    if parts.modelName = modelName then
      return Environment.ofList
        [("MODEL_NAME", parts.modelName), ("MODEL_BASE_PATH", parts.basePath)]
    else throw (otherModel modelPath modelName)

def workload (binary : ServingBinary) (modelPath : String) (kubernetes : KubernetesConfig)
    (resources : ResourceLimits) : Except Error Workload := do
  let environment ← binary.environment modelPath
  return {
    image := binary.image
    environment
    containerPort := binary.containerPort
    serviceAccountName := kubernetes.serviceAccountName
    activeDeadlineSeconds := kubernetes.activeDeadlineSeconds
    resources }

end ServingBinary

end PodRunner
