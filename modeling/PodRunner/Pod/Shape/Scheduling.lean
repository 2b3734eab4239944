import PodRunner.Pod.Shape.Metadata

/-!
# Shapes of scheduling

Which nodes a Pod may run on, and near which other Pods.
-/

namespace PodRunner.Pod

open Json (Shape)
open Json.Shape

private def nodeTermShape : Shape :=
  fields (each (list requirementShape) ["matchExpressions", "matchFields"])

private def podTermShape : Shape :=
  filled ["topologyKey"] (each labelSelectorShape ["labelSelector", "namespaceSelector"] ++
    each (list text) ["matchLabelKeys", "mismatchLabelKeys", "namespaces"] ++ [("topologyKey", text)])

/-- Terms that are wanted, each with a weight, and terms that must hold. -/
private def duringScheduling (name : String) (term required : Shape) : Shape :=
  let weighted := filled [name, "weight"] [(name, term), ("weight", integer32)]
  fields [("preferredDuringSchedulingIgnoredDuringExecution", list weighted),
    ("requiredDuringSchedulingIgnoredDuringExecution", required)]

def affinityShape : Shape :=
  let nodes := duringScheduling "preference" nodeTermShape
    (filled ["nodeSelectorTerms"] [("nodeSelectorTerms", list nodeTermShape)])
  let pods := duringScheduling "podAffinityTerm" podTermShape (list podTermShape)
  fields [("nodeAffinity", nodes), ("podAffinity", pods), ("podAntiAffinity", pods)]

def tolerationShape : Shape :=
  fields (each text ["effect", "key", "operator", "value"] ++ [("tolerationSeconds", integer64)])

def topologySpreadShape : Shape :=
  filled ["maxSkew", "topologyKey", "whenUnsatisfiable"] (
    each text ["nodeAffinityPolicy", "nodeTaintsPolicy", "topologyKey", "whenUnsatisfiable"] ++
    each integer32 ["maxSkew", "minDomains"] ++
    [("labelSelector", labelSelectorShape), ("matchLabelKeys", list text)])

end PodRunner.Pod
