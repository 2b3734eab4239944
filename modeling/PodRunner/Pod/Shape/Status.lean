import PodRunner.Pod.Shape.Container

/-!
# Shapes of statuses

What the cluster says about a Pod and its containers.
-/

namespace PodRunner.Pod

open Json (Shape)
open Json.Shape

private def containerStateShape : Shape :=
  let terminated := filled ["exitCode"] (each text ["containerID", "message", "reason"] ++
    each integer32 ["exitCode", "signal"] ++ each time ["finishedAt", "startedAt"])
  fields [("running", fields [("startedAt", time)]), ("terminated", terminated),
    ("waiting", ofTexts [] ["message", "reason"])]

private def resourceStatusShape : Shape :=
  filled ["name"] [("name", text), ("resources", list (ofTexts ["resourceID"] ["health", "resourceID"]))]

private def containerUserShape : Shape :=
  let ids := ["gid", "uid"]
  fields [("linux", filled ids (each integer64 ids ++ [("supplementalGroups", list integer64)]))]

private def mountStatusShape : Shape :=
  filled ["mountPath", "name"] (each text ["mountPath", "name", "recursiveReadOnly"] ++ [("readOnly", flag)])

private def containerStatusShape : Shape :=
  filled ["image", "imageID", "name", "ready", "restartCount"] (
    each text ["containerID", "image", "imageID", "name"] ++ each flag ["ready", "started"] ++
    each containerStateShape ["lastState", "state"] ++
    [("allocatedResources", texts), ("allocatedResourcesStatus", list resourceStatusShape),
      ("resources", resourcesShape), ("restartCount", integer32), ("user", containerUserShape),
      ("volumeMounts", list mountStatusShape)])

private def conditionShape : Shape :=
  filled ["status", "type"] (each text ["message", "reason", "status", "type"] ++
    each time ["lastProbeTime", "lastTransitionTime"])

def statusShape : Shape :=
  fields (each text ["hostIP", "message", "nominatedNodeName", "phase", "podIP", "qosClass", "reason",
      "resize"] ++
    each (list containerStatusShape)
      ["containerStatuses", "ephemeralContainerStatuses", "initContainerStatuses"] ++
    each (list (ofTexts ["ip"] ["ip"])) ["hostIPs", "podIPs"] ++
    [("conditions", list conditionShape),
      ("resourceClaimStatuses", list (ofTexts ["name"] ["name", "resourceClaimName"])),
      ("startTime", time)])

end PodRunner.Pod
