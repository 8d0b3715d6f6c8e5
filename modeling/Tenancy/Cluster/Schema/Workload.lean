import Tenancy.Cluster.Schema.Volume

/-!
# The forms of workloads and services

What deployments, stateful sets and services may say besides what decisions need of
them.
-/

namespace Tenancy.Normaliser

/-! ## Deployments -/

/-- What a deployment may say besides its replicas, its selector and its template. -/
def deploymentForms : List (String × Normaliser) :=
  each (integer 32) ["minReadySeconds", "progressDeadlineSeconds", "revisionHistoryLimit"] ++
    [("paused", bool),
      ("strategy", fields [("rollingUpdate",
        fields (each integerOrText ["maxSurge", "maxUnavailable"])), ("type", text)])]

/-- The status of a deployment. -/
def deploymentStatus : Normaliser :=
  fields (each (integer 32) ["availableReplicas", "collisionCount", "readyReplicas", "replicas",
      "terminatingReplicas", "unavailableReplicas", "updatedReplicas"] ++
    [("conditions", listOf (condition ["lastTransitionTime", "lastUpdateTime"] [])),
      ("observedGeneration", integer 64)])

/-! ## Stateful sets -/

/-- The status of a claim for storage. -/
def claimStatus : Normaliser :=
  fields (each text ["currentVolumeAttributesClassName", "phase"] ++
    each textMap ["allocatedResourceStatuses", "allocatedResources", "capacity"] ++
    [("accessModes", listOf text),
      ("conditions", listOf (condition ["lastProbeTime", "lastTransitionTime"] [])),
      ("modifyVolumeStatus", fields (each text ["status", "targetVolumeAttributesClassName"]))])

/-- A claim for storage, which may say its type. -/
def claim : Normaliser := fun json => do
  let members ← json.object?
  guard (Resource.agrees ⟨"", "v1", "PersistentVolumeClaim", "persistentvolumeclaims"⟩ members)
  fields [("metadata", Metadata.normaliser), ("spec", claimSpec), ("status", claimStatus)] json

/-- What a stateful set may say besides its replicas, its selector and its template. -/
def statefulSetForms : List (String × Normaliser) :=
  each text ["podManagementPolicy", "serviceName"] ++
    each (integer 32) ["minReadySeconds", "revisionHistoryLimit"] ++
    [("ordinals", fields [("start", integer 32)]),
      ("persistentVolumeClaimRetentionPolicy", fields (each text ["whenDeleted", "whenScaled"])),
      ("updateStrategy", fields [("rollingUpdate",
        fields [("maxUnavailable", integerOrText), ("partition", integer 32)]), ("type", text)]),
      ("volumeClaimTemplates", listOf claim)]

/-- The status of a stateful set. -/
def statefulSetStatus : Normaliser :=
  fields (each text ["currentRevision", "updateRevision"] ++
    each (integer 32) ["availableReplicas", "collisionCount", "currentReplicas",
      "readyReplicas", "replicas", "updatedReplicas"] ++
    [("conditions", listOf (condition ["lastTransitionTime"] [])),
      ("observedGeneration", integer 64)])

/-! ## Services -/

/-- A port of a service. -/
def servicePort : Normaliser :=
  fields (each text ["appProtocol", "name", "protocol"] ++
    each (integer 32) ["nodePort", "port"] ++ [("targetPort", integerOrText)])

/-- What a service may say besides its type. -/
def serviceForms : List (String × Normaliser) :=
  each text ["clusterIP", "externalName", "externalTrafficPolicy", "internalTrafficPolicy",
      "ipFamilyPolicy", "loadBalancerClass", "loadBalancerIP", "sessionAffinity",
      "trafficDistribution"] ++
    each bool ["allocateLoadBalancerNodePorts", "publishNotReadyAddresses"] ++
    each (listOf text) ["clusterIPs", "externalIPs", "ipFamilies",
      "loadBalancerSourceRanges"] ++
    [("healthCheckNodePort", integer 32), ("ports", listOf servicePort), ("selector", textMap),
      ("sessionAffinityConfig",
        fields [("clientIP", fields [("timeoutSeconds", integer 32)])])]

/-- An address of a load balancer. -/
def balancerAddress : Normaliser :=
  fields (each text ["hostname", "ip", "ipMode"] ++
    [("ports", listOf (fields (("port", integer 32) :: each text ["error", "protocol"])))])

/-- The status of a service. -/
def serviceStatus : Normaliser :=
  fields [("conditions", listOf (condition ["lastTransitionTime"] ["observedGeneration"])),
    ("loadBalancer", fields [("ingress", listOf balancerAddress)])]

end Tenancy.Normaliser
