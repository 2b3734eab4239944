import PodRunner.Pod.Shape.Container
import PodRunner.Pod.Shape.Metadata

/-!
# Shapes of volumes

A volume has a name and one field for each kind of storage that it can come from.
-/

namespace PodRunner.Pod

open Json (Shape)
open Json.Shape

private def secretRefField : String × Shape := ("secretRef", ofTexts ["name"] ["name"])

/-- Storage that is described by texts, of which some are always written, and may be read only. -/
private def storage (always optional : List String) (others : List (String × Shape)) : Shape :=
  filled always (each text (always ++ optional) ++ [("readOnly", flag)] ++ others)

private def itemsField : String × Shape :=
  ("items", list (filled ["key", "path"] [("key", text), ("mode", integer32), ("path", text)]))

private def downwardItemsField : String × Shape :=
  ("items", list (filled ["path"] [("fieldRef", fieldRefShape), ("mode", integer32), ("path", text),
    ("resourceFieldRef", resourceFieldRefShape)]))

private def modeField : String × Shape := ("defaultMode", integer32)

private def filesShape (always : List String) (parts : List (String × Shape)) : Shape :=
  filled always (itemsField :: ("optional", flag) :: parts)

private def projectedShape : Shape :=
  let trustBundle := filled ["path"] (each text ["name", "path", "signerName"] ++
    [("labelSelector", labelSelectorShape), ("optional", flag)])
  let token := filled ["path"] (each text ["audience", "path"] ++ [("expirationSeconds", integer64)])
  let files := filesShape ["name"] [("name", text)]
  let source := fields [("clusterTrustBundle", trustBundle), ("configMap", files),
    ("downwardAPI", fields [downwardItemsField]), ("secret", files), ("serviceAccountToken", token)]
  fields [modeField, ("sources", list source)]

private def ephemeralShape : Shape :=
  let reference (others : List String) := ofTexts ["kind", "name"] ("apiGroup" :: "kind" :: "name" :: others)
  let claim := fields (
    each text ["storageClassName", "volumeAttributesClassName", "volumeMode", "volumeName"] ++
    [("accessModes", list text), ("dataSource", reference []), ("dataSourceRef", reference ["namespace"]),
      ("resources", fields (each texts ["limits", "requests"])), ("selector", labelSelectorShape)])
  fields [("volumeClaimTemplate", filled ["spec"] [("metadata", metadataShape), ("spec", claim)])]

private def networkFields : List (String × Shape) :=
  [("azureFile", storage ["secretName", "shareName"] [] []),
    ("cephfs", filled ["monitors"] ([("monitors", list text), ("readOnly", flag), secretRefField] ++
      each text ["path", "secretFile", "user"])),
    ("cinder", storage ["volumeID"] ["fsType"] [secretRefField]),
    ("csi", storage ["driver"] ["fsType"]
      [("nodePublishSecretRef", ofTexts ["name"] ["name"]), ("volumeAttributes", texts)]),
    ("fc", storage [] ["fsType"] (("lun", integer32) :: each (list text) ["targetWWNs", "wwids"])),
    ("flexVolume", storage ["driver"] ["fsType"] [("options", texts), secretRefField]),
    ("glusterfs", storage ["endpoints", "path"] [] []),
    ("iscsi", filled ["iqn", "lun", "targetPortal"] (
      each text ["fsType", "initiatorName", "iqn", "iscsiInterface", "targetPortal"] ++
      each flag ["chapAuthDiscovery", "chapAuthSession", "readOnly"] ++
      [("lun", integer32), ("portals", list text), secretRefField])),
    ("nfs", storage ["path", "server"] [] []),
    ("portworxVolume", storage ["volumeID"] ["fsType"] []),
    ("quobyte", storage ["registry", "volume"] ["group", "tenant", "user"] []),
    ("rbd", filled ["image", "monitors"] (each text ["fsType", "image", "keyring", "pool", "user"] ++
      [("monitors", list text), ("readOnly", flag), secretRefField])),
    ("scaleIO", filled ["gateway", "secretRef", "system"] (
      each text ["fsType", "gateway", "protectionDomain", "storageMode", "storagePool", "system",
        "volumeName"] ++
      each flag ["readOnly", "sslEnabled"] ++ [secretRefField])),
    ("storageos", storage [] ["fsType", "volumeName", "volumeNamespace"] [secretRefField])]

private def diskFields : List (String × Shape) :=
  [("awsElasticBlockStore", storage ["volumeID"] ["fsType"] [("partition", integer32)]),
    ("azureDisk", storage ["diskName", "diskURI"] ["cachingMode", "fsType", "kind"] []),
    ("flocker", ofTexts [] ["datasetName", "datasetUUID"]),
    ("gcePersistentDisk", storage ["pdName"] ["fsType"] [("partition", integer32)]),
    ("photonPersistentDisk", ofTexts ["pdID"] ["fsType", "pdID"]),
    ("vsphereVolume",
      ofTexts ["volumePath"] ["fsType", "storagePolicyID", "storagePolicyName", "volumePath"])]

def volumeShape : Shape :=
  filled ["name"] (("name", text) :: networkFields ++ diskFields ++
    [("configMap", filesShape ["name"] [("name", text), modeField]),
      ("downwardAPI", fields [modeField, downwardItemsField]),
      ("emptyDir", ofTexts [] ["medium", "sizeLimit"]), ("ephemeral", ephemeralShape),
      ("gitRepo", ofTexts ["repository"] ["directory", "repository", "revision"]),
      ("hostPath", ofTexts ["path"] ["path", "type"]), ("image", ofTexts [] ["pullPolicy", "reference"]),
      ("persistentVolumeClaim", storage ["claimName"] [] []), ("projected", projectedShape),
      ("secret", filesShape [] [("secretName", text), modeField])])

end PodRunner.Pod
