import PodRunner.Json.Shape

/-!
# Shapes of metadata

What Kubernetes objects of all kinds have in common, and the ways to select them by their labels.
-/

namespace PodRunner.Pod

open Json (Shape)
open Json.Shape

private def ownerReferenceShape : Shape :=
  let texts := ["apiVersion", "kind", "name", "uid"]
  filled texts (each text texts ++ each flag ["blockOwnerDeletion", "controller"])

private def managedFieldsShape : Shape :=
  fields (each text ["apiVersion", "fieldsType", "manager", "operation", "subresource"] ++
    [("fieldsV1", value), ("time", time)])

def metadataShape : Shape :=
  fields (each text ["generateName", "name", "namespace", "resourceVersion", "selfLink", "uid"] ++
    each texts ["annotations", "labels"] ++ each time ["creationTimestamp", "deletionTimestamp"] ++
    each integer64 ["deletionGracePeriodSeconds", "generation"] ++
    [("finalizers", list text), ("managedFields", list managedFieldsShape),
      ("ownerReferences", list ownerReferenceShape)])

def requirementShape : Shape :=
  filled ["key", "operator"] [("key", text), ("operator", text), ("values", list text)]

def labelSelectorShape : Shape :=
  fields [("matchExpressions", list requirementShape), ("matchLabels", texts)]

end PodRunner.Pod
