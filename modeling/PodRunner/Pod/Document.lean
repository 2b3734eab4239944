import PodRunner.Pod
import PodRunner.Pod.Shape

/-!
# Pods as documents

A Pod is written as a JSON object in which absent fields are left out. Any object of the right shape is read
as a Pod.
-/

namespace PodRunner.Pod

open Json

private def textTable (entries : List (String × String)) : Json :=
  object (entries.map fun entry => (entry.1, string entry.2))

private def ownerReferenceToJson (reference : OwnerReference) : Json :=
  object [("apiVersion", string reference.apiVersion), ("kind", string reference.kind),
    ("name", string reference.name), ("uid", string reference.uid)]

private def metadataToJson (metadata : PodMetadata) : Json :=
  ofPresent [
    ("name", metadata.name.map string),
    ("generateName", metadata.generateName.map string),
    ("namespace", metadata.ns.map string),
    ("uid", metadata.uid.map string),
    ("labels", metadata.labels.map textTable),
    ("ownerReferences",
      metadata.ownerReferences.map fun references => array (references.map ownerReferenceToJson))]

private def containerToJson (container : Container) : Json :=
  ofPresent [
    ("name", some (string container.name)),
    ("image", container.image.map string),
    ("env", container.env.map fun entries => array (entries.map fun entry =>
      ofPresent [("name", some (string entry.name)), ("value", entry.value.map string)])),
    ("ports", container.ports.map fun ports => array (ports.map fun port =>
      ofPresent [("containerPort", some (integer port.containerPort)), ("name", port.name.map string)])),
    ("resources", container.resources.map fun resources =>
      ofPresent [("limits", resources.limits.map textTable)])]

private def specToJson (spec : PodSpec) : Json :=
  ofPresent [
    ("containers", some (array (spec.containers.map containerToJson))),
    ("serviceAccountName", spec.serviceAccountName.map string),
    ("restartPolicy", spec.restartPolicy.map string),
    ("activeDeadlineSeconds", spec.activeDeadlineSeconds.map integer)]

private def statusToJson (status : PodStatus) : Json :=
  ofPresent [("phase", status.phase.map string), ("podIP", status.podIp.map string)]

/-- A Pod that was read is written as its document. -/
def toJson (pod : Pod) : Json :=
  pod.document.getD (ofPresent [
    ("apiVersion", some (string apiVersion)),
    ("kind", some (string kind)),
    ("metadata", some (metadataToJson pod.metadata)),
    ("spec", pod.spec.map specToJson),
    ("status", pod.status.map statusToJson)])

private def present? (key : String) (json : Json) : Option Json :=
  match json.get? key with
  | some null => none
  | found => found

private def textsAt? (key : String) (json : Json) : Option (List (String × String)) :=
  ((present? key json).bind entries?).map fun entries =>
    entries.filterMap fun entry => entry.2.text?.map fun text => (entry.1, text)

private def itemsAt? (key : String) (json : Json) : Option (List Json) :=
  (present? key json).bind items?

private def ownerReferenceOfJson (json : Json) : OwnerReference where
  apiVersion := (json.textAt? "apiVersion").getD ""
  kind := (json.textAt? "kind").getD ""
  name := (json.textAt? "name").getD ""
  uid := (json.textAt? "uid").getD ""

private def metadataOfJson (json : Json) : PodMetadata where
  name := json.textAt? "name"
  generateName := json.textAt? "generateName"
  ns := json.textAt? "namespace"
  uid := json.textAt? "uid"
  labels := textsAt? "labels" json
  ownerReferences := (itemsAt? "ownerReferences" json).map (·.map ownerReferenceOfJson)

private def containerOfJson (json : Json) : Container where
  name := (json.textAt? "name").getD ""
  image := json.textAt? "image"
  env := (itemsAt? "env" json).map (·.map fun entry =>
    ⟨(entry.textAt? "name").getD "", entry.textAt? "value"⟩)
  ports := (itemsAt? "ports" json).map (·.map fun port =>
    ⟨((port.get? "containerPort").bind integer?).getD 0, port.textAt? "name"⟩)
  resources := (present? "resources" json).map fun resources => ⟨textsAt? "limits" resources⟩

private def specOfJson (json : Json) : PodSpec where
  containers := ((itemsAt? "containers" json).getD []).map containerOfJson
  serviceAccountName := json.textAt? "serviceAccountName"
  restartPolicy := json.textAt? "restartPolicy"
  activeDeadlineSeconds := (json.get? "activeDeadlineSeconds").bind integer?

private def statusOfJson (json : Json) : PodStatus where
  phase := json.textAt? "phase"
  podIp := json.textAt? "podIP"

/-- The Pod of a document of the right shape. -/
def ofJson? (json : Json) : Option Pod :=
  if shape.accepts greatestDepth json then some {
    metadata := (present? "metadata" json).elim PodMetadata.empty metadataOfJson
    spec := (present? "spec" json).map specOfJson
    status := (present? "status" json).map statusOfJson
    document := some (shape.written json) }
  else none

end PodRunner.Pod
