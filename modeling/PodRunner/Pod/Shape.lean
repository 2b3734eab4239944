import PodRunner.Pod.Shape.Scheduling
import PodRunner.Pod.Shape.Status
import PodRunner.Pod.Shape.Volume

/-!
# The shape of Pod documents

Which fields a Pod document may have and of what type each is.
-/

namespace PodRunner.Pod

open Json (Shape)
open Json.Shape

private def dnsConfigShape : Shape :=
  fields [("nameservers", list text), ("options", namedValuesShape []), ("searches", list text)]

private def podSecurityShape : Shape :=
  fields (sharedSecurityFields ++
    each text ["fsGroupChangePolicy", "seLinuxChangePolicy", "supplementalGroupsPolicy"] ++
    [("fsGroup", integer64), ("supplementalGroups", list integer64),
      ("sysctls", namedValuesShape ["name", "value"])])

private def specShape : Shape :=
  filled ["containers"] (each text ["dnsPolicy", "hostname", "nodeName", "preemptionPolicy",
      "priorityClassName", "restartPolicy", "runtimeClassName", "schedulerName", "serviceAccount",
      "serviceAccountName", "subdomain"] ++
    each flag ["automountServiceAccountToken", "enableServiceLinks", "hostIPC", "hostNetwork", "hostPID",
      "hostUsers", "setHostnameAsFQDN", "shareProcessNamespace"] ++
    each integer64 ["activeDeadlineSeconds", "terminationGracePeriodSeconds"] ++
    each texts ["nodeSelector", "overhead"] ++
    each (list containerShape) ["containers", "initContainers"] ++
    each (list (ofTexts ["name"] ["name"])) ["imagePullSecrets", "schedulingGates"] ++
    [("affinity", affinityShape), ("dnsConfig", dnsConfigShape),
      ("ephemeralContainers", list ephemeralContainerShape),
      ("hostAliases", list (filled ["ip"] [("hostnames", list text), ("ip", text)])),
      ("os", ofTexts ["name"] ["name"]), ("priority", integer32),
      ("readinessGates", list (ofTexts ["conditionType"] ["conditionType"])),
      ("resourceClaims", list (ofTexts ["name"] ["name", "resourceClaimName", "resourceClaimTemplateName"])),
      ("resources", resourcesShape), ("securityContext", podSecurityShape),
      ("tolerations", list tolerationShape),
      ("topologySpreadConstraints", list topologySpreadShape), ("volumes", list volumeShape)])

def shape : Shape :=
  record [("apiVersion", .defaulted, oneOf ["v1"]), ("kind", .defaulted, oneOf ["Pod"]),
    ("metadata", .filled, metadataShape), ("spec", .optional, specShape),
    ("status", .optional, statusShape)]

end PodRunner.Pod
