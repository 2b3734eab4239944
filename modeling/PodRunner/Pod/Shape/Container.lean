import PodRunner.Json.Shape

/-!
# Shapes of containers

What a container runs, with which rights and resources, and how its health is found out.
-/

namespace PodRunner.Pod

open Json (Shape)
open Json.Shape

/-- Names of another object that may be missing. -/
def keySourceShape (names : List String) : Shape :=
  filled names (each text names ++ [("optional", flag)])

def fieldRefShape : Shape := ofTexts ["fieldPath"] ["apiVersion", "fieldPath"]

def resourceFieldRefShape : Shape := ofTexts ["resource"] ["containerName", "divisor", "resource"]

private def envShape : Shape :=
  let source := fields [("configMapKeyRef", keySourceShape ["key", "name"]), ("fieldRef", fieldRefShape),
    ("resourceFieldRef", resourceFieldRefShape), ("secretKeyRef", keySourceShape ["key", "name"])]
  filled ["name"] [("name", text), ("value", text), ("valueFrom", source)]

private def envSourceShape : Shape :=
  fields [("configMapRef", keySourceShape ["name"]), ("prefix", text), ("secretRef", keySourceShape ["name"])]

def namedValuesShape (always : List String) : Shape := list (ofTexts always ["name", "value"])

private def execShape : Shape := fields [("command", list text)]

private def httpGetShape : Shape :=
  filled ["port"] (each text ["host", "path", "scheme"] ++
    [("httpHeaders", namedValuesShape ["name", "value"]), ("port", integerOrText)])

private def tcpSocketShape : Shape :=
  filled ["port"] [("host", text), ("port", integerOrText)]

private def lifecycleShape : Shape :=
  let handler := fields [("exec", execShape), ("httpGet", httpGetShape),
    ("sleep", filled ["seconds"] [("seconds", integer64)]), ("tcpSocket", tcpSocketShape)]
  fields (each handler ["postStart", "preStop"])

private def probeShape : Shape :=
  fields (each integer32
      ["failureThreshold", "initialDelaySeconds", "periodSeconds", "successThreshold", "timeoutSeconds"] ++
    [("exec", execShape), ("grpc", filled ["port"] [("port", integer32), ("service", text)]),
      ("httpGet", httpGetShape), ("tcpSocket", tcpSocketShape),
      ("terminationGracePeriodSeconds", integer64)])

private def portShape : Shape :=
  filled ["containerPort"] (each text ["hostIP", "name", "protocol"] ++
    each integer32 ["containerPort", "hostPort"])

def resourcesShape : Shape :=
  fields [("claims", list (ofTexts ["name"] ["name", "request"])), ("limits", texts), ("requests", texts)]

/-- The rights that a Pod and its containers can have alike. -/
def sharedSecurityFields : List (String × Shape) :=
  let profile := ofTexts ["type"] ["localhostProfile", "type"]
  let windows := fields (each text ["gmsaCredentialSpec", "gmsaCredentialSpecName", "runAsUserName"] ++
    [("hostProcess", flag)])
  each integer64 ["runAsGroup", "runAsUser"] ++ each profile ["appArmorProfile", "seccompProfile"] ++
    [("runAsNonRoot", flag), ("seLinuxOptions", ofTexts [] ["level", "role", "type", "user"]),
      ("windowsOptions", windows)]

private def securityShape : Shape :=
  fields (sharedSecurityFields ++
    each flag ["allowPrivilegeEscalation", "privileged", "readOnlyRootFilesystem"] ++
    [("capabilities", fields (each (list text) ["add", "drop"])), ("procMount", text)])

private def volumeMountShape : Shape :=
  filled ["mountPath", "name"] (each text
      ["mountPath", "mountPropagation", "name", "recursiveReadOnly", "subPath", "subPathExpr"] ++
    [("readOnly", flag)])

private def containerParts : List (String × Shape) :=
  each text ["image", "imagePullPolicy", "name", "restartPolicy", "terminationMessagePath",
      "terminationMessagePolicy", "workingDir"] ++
    each flag ["stdin", "stdinOnce", "tty"] ++ each (list text) ["args", "command"] ++
    each probeShape ["livenessProbe", "readinessProbe", "startupProbe"] ++
    [("env", list envShape), ("envFrom", list envSourceShape), ("lifecycle", lifecycleShape),
      ("ports", list portShape),
      ("resizePolicy", let names := ["resourceName", "restartPolicy"]; list (ofTexts names names)),
      ("resources", resourcesShape), ("securityContext", securityShape),
      ("volumeDevices", let names := ["devicePath", "name"]; list (ofTexts names names)),
      ("volumeMounts", list volumeMountShape)]

def containerShape : Shape := filled ["name"] containerParts

def ephemeralContainerShape : Shape := filled ["name"] (("targetContainerName", text) :: containerParts)

end PodRunner.Pod
