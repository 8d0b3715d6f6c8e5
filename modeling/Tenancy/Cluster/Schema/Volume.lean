import Tenancy.Cluster.Schema.Basic

/-!
# The form of a volume

A volume has a name and one of many sources.
-/

namespace Tenancy.Normaliser

/-! ## Files made of other objects -/

/-- A key that becomes a file. -/
def keyFile : Normaliser := fields [("key", text), ("mode", integer 32), ("path", text)]

/-- A field of a pod that becomes a file. -/
def fieldFile : Normaliser :=
  fields [("fieldRef", fieldReference), ("mode", integer 32), ("path", text),
    ("resourceFieldRef", resourceReference)]

/-- Keys of a map or a secret that become files. -/
def keyFiles : List (String × Normaliser) := [("items", listOf keyFile), ("optional", bool)]

/-- One of several sources of files in a volume. -/
def projection : Normaliser :=
  fields (each (fields (("name", text) :: keyFiles)) ["configMap", "secret"] ++
    [("clusterTrustBundle", fields (each text ["name", "path", "signerName"] ++
        [("labelSelector", labelSelector), ("optional", bool)])),
      ("downwardAPI", fields [("items", listOf fieldFile)]),
      ("serviceAccountToken", fields (each text ["audience", "path"] ++
        [("expirationSeconds", integer 64)]))])

/-- Sources that are made of other objects. -/
def projectedForms : List (String × Normaliser) :=
  [("configMap", fields (("defaultMode", integer 32) :: ("name", text) :: keyFiles)),
    ("downwardAPI", fields [("defaultMode", integer 32), ("items", listOf fieldFile)]),
    ("projected", fields [("defaultMode", integer 32), ("sources", listOf projection)]),
    ("secret", fields (("defaultMode", integer 32) :: ("secretName", text) :: keyFiles))]

/-! ## Claims -/

/-- A claim for storage. -/
def claimSpec : Normaliser :=
  fields (each text ["storageClassName", "volumeAttributesClassName", "volumeMode",
      "volumeName"] ++
    [("accessModes", listOf text),
      ("dataSource", fields (each text ["apiGroup", "kind", "name"])),
      ("dataSourceRef", fields (each text ["apiGroup", "kind", "name", "namespace"])),
      ("resources", fields (each textMap ["limits", "requests"])),
      ("selector", labelSelector)])

/-- A claim that is made for each pod. -/
def claimTemplate : Normaliser :=
  fields [("metadata", Metadata.normaliser), ("spec", claimSpec)]

/-! ## Storage -/

/-- Storage with some texts and nothing else but whether it is only read. -/
def storage (texts : List String) : Normaliser :=
  fields (("readOnly", bool) :: each text texts)

/-- Storage with some texts and a secret that opens it. -/
def secretStorage (secret : String) (texts : List String) (others : List (String × Normaliser)) :
    Normaliser :=
  fields (("readOnly", bool) :: (secret, reference) :: each text texts ++ others)

/-- A disk that is known by a text. -/
def disk (name : String) : Normaliser :=
  fields (each text ["fsType", name] ++ [("partition", integer 32), ("readOnly", bool)])

/-- Sources that are storage of a provider. -/
def providerForms : List (String × Normaliser) :=
  [("awsElasticBlockStore", disk "volumeID"),
    ("azureDisk", storage ["cachingMode", "diskName", "diskURI", "fsType", "kind"]),
    ("azureFile", storage ["secretName", "shareName"]),
    ("cinder", secretStorage "secretRef" ["fsType", "volumeID"] []),
    ("gcePersistentDisk", disk "pdName"),
    ("photonPersistentDisk", fields (each text ["fsType", "pdID"])),
    ("portworxVolume", storage ["fsType", "volumeID"]),
    ("quobyte", storage ["group", "registry", "tenant", "user", "volume"]),
    ("scaleIO", secretStorage "secretRef" ["fsType", "gateway", "protectionDomain",
      "storageMode", "storagePool", "system", "volumeName"] [("sslEnabled", bool)]),
    ("storageos", secretStorage "secretRef" ["fsType", "volumeName", "volumeNamespace"] []),
    ("vsphereVolume", fields (each text ["fsType", "storagePolicyID", "storagePolicyName",
      "volumePath"]))]

/-- Sources that are storage of a network. -/
def networkForms : List (String × Normaliser) :=
  [("cephfs", secretStorage "secretRef" ["path", "secretFile", "user"]
      [("monitors", listOf text)]),
    ("csi", secretStorage "nodePublishSecretRef" ["driver", "fsType"]
      [("volumeAttributes", textMap)]),
    ("fc", fields (each (listOf text) ["targetWWNs", "wwids"] ++
      [("fsType", text), ("lun", integer 32), ("readOnly", bool)])),
    ("flexVolume", secretStorage "secretRef" ["driver", "fsType"] [("options", textMap)]),
    ("flocker", fields (each text ["datasetName", "datasetUUID"])),
    ("glusterfs", storage ["endpoints", "path"]),
    ("iscsi", secretStorage "secretRef" ["fsType", "initiatorName", "iqn", "iscsiInterface",
        "targetPortal"]
      (each bool ["chapAuthDiscovery", "chapAuthSession"] ++
        [("lun", integer 32), ("portals", listOf text)])),
    ("nfs", storage ["path", "server"]),
    ("rbd", secretStorage "secretRef" ["fsType", "image", "keyring", "pool", "user"]
      [("monitors", listOf text)])]

/-- A volume. -/
def volume : Normaliser :=
  fields (projectedForms ++ providerForms ++ networkForms ++
    [("emptyDir", fields (each text ["medium", "sizeLimit"])),
      ("ephemeral", fields [("volumeClaimTemplate", claimTemplate)]),
      ("gitRepo", fields (each text ["directory", "repository", "revision"])),
      ("hostPath", fields (each text ["path", "type"])),
      ("image", fields (each text ["pullPolicy", "reference"])),
      ("name", text),
      ("persistentVolumeClaim", storage ["claimName"])])

end Tenancy.Normaliser
