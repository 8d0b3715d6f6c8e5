import Tenancy.Cluster.Schema.Container
import Tenancy.Cluster.Schema.Volume

/-!
# The form of a pod

What a pod may say about where and how it runs, and what its status tells of it.
-/

namespace Tenancy.Normaliser

/-! ## Where a pod may run -/

/-- Nodes by their labels and their fields. -/
def nodeSelectorTerm : Normaliser :=
  fields (each (listOf requirement) ["matchExpressions", "matchFields"])

/-- Pods that a pod is to be near to, or away from. -/
def podAffinityTerm : Normaliser :=
  fields (each labelSelector ["labelSelector", "namespaceSelector"] ++
    each (listOf text) ["matchLabelKeys", "mismatchLabelKeys", "namespaces"] ++
    [("topologyKey", text)])

/-- What has to hold, and what is preferred with which weight. -/
def preferences (required : Normaliser) (termName : String) (term : Normaliser) : Normaliser :=
  fields [("preferredDuringSchedulingIgnoredDuringExecution",
      listOf (fields [(termName, term), ("weight", integer 32)])),
    ("requiredDuringSchedulingIgnoredDuringExecution", required)]

/-- Where a pod is to run. -/
def affinity : Normaliser :=
  let ofPods := preferences (listOf podAffinityTerm) "podAffinityTerm" podAffinityTerm
  fields [("nodeAffinity", preferences
      (fields [("nodeSelectorTerms", listOf nodeSelectorTerm)]) "preference" nodeSelectorTerm),
    ("podAffinity", ofPods), ("podAntiAffinity", ofPods)]

/-- What a pod puts up with. -/
def toleration : Normaliser :=
  fields (("tolerationSeconds", integer 64) :: each text ["effect", "key", "operator", "value"])

/-- How pods are spread. -/
def spread : Normaliser :=
  fields (each text ["nodeAffinityPolicy", "nodeTaintsPolicy", "topologyKey",
      "whenUnsatisfiable"] ++
    each (integer 32) ["maxSkew", "minDomains"] ++
    [("labelSelector", labelSelector), ("matchLabelKeys", listOf text)])

/-! ## How a pod runs -/

/-- The security settings of a pod. -/
def podSecurity : Normaliser :=
  fields (each text ["fsGroupChangePolicy", "seLinuxChangePolicy",
      "supplementalGroupsPolicy"] ++
    [("fsGroup", integer 64), ("supplementalGroups", listOf (integer 64)),
      ("sysctls", listOf namedValue)] ++ securityForms)

/-- How a pod finds names. -/
def nameService : Normaliser :=
  fields (each (listOf text) ["nameservers", "searches"] ++ [("options", listOf namedValue)])

/-- What a pod may say besides its containers and its node selector. -/
def podForms : List (String × Normaliser) :=
  each text ["dnsPolicy", "hostname", "nodeName", "preemptionPolicy", "priorityClassName",
      "restartPolicy", "runtimeClassName", "schedulerName", "serviceAccount",
      "serviceAccountName", "subdomain"] ++
    each bool ["automountServiceAccountToken", "enableServiceLinks", "hostIPC", "hostNetwork",
      "hostPID", "hostUsers", "setHostnameAsFQDN", "shareProcessNamespace"] ++
    each (integer 64) ["activeDeadlineSeconds", "terminationGracePeriodSeconds"] ++
    each (listOf reference) ["imagePullSecrets", "schedulingGates"] ++
    [("affinity", affinity), ("dnsConfig", nameService),
      ("ephemeralContainers", listOf ephemeralContainer),
      ("hostAliases", listOf (fields [("hostnames", listOf text), ("ip", text)])),
      ("initContainers", listOf container), ("os", reference), ("overhead", textMap),
      ("priority", integer 32),
      ("readinessGates", listOf (fields [("conditionType", text)])),
      ("resourceClaims", listOf (fields (each text ["name", "resourceClaimName",
        "resourceClaimTemplateName"]))),
      ("resources", resources), ("securityContext", podSecurity),
      ("tolerations", listOf toleration), ("topologySpreadConstraints", listOf spread),
      ("volumes", listOf volume)]

/-! ## The status of a pod -/

/-- A state of a container. -/
def containerState : Normaliser :=
  fields [("running", fields [("startedAt", time)]),
    ("terminated", fields (each text ["containerID", "message", "reason"] ++
      each (integer 32) ["exitCode", "signal"] ++ each time ["finishedAt", "startedAt"])),
    ("waiting", fields (each text ["message", "reason"]))]

/-- The users that a container runs as. -/
def containerUser : Normaliser :=
  fields [("linux", fields (each (integer 64) ["gid", "uid"] ++
    [("supplementalGroups", listOf (integer 64))]))]

/-- The health of a resource of a container. -/
def resourceHealth : Normaliser :=
  fields [("name", text), ("resources", listOf (fields (each text ["health", "resourceID"])))]

/-- The status of a container. -/
def containerStatus : Normaliser :=
  fields (each text ["containerID", "image", "imageID", "name", "stopSignal"] ++
    each bool ["ready", "started"] ++ each containerState ["lastState", "state"] ++
    [("allocatedResources", textMap),
      ("allocatedResourcesStatus", listOf resourceHealth), ("resources", resources),
      ("restartCount", integer 32), ("user", containerUser),
      ("volumeMounts", listOf (fields (("readOnly", bool) ::
        each text ["mountPath", "name", "recursiveReadOnly"])))])

/-- What the status of a pod may say besides its phase. -/
def podStatusForms : List (String × Normaliser) :=
  each text ["hostIP", "message", "nominatedNodeName", "podIP", "qosClass", "reason",
      "resize"] ++
    each (listOf containerStatus) ["containerStatuses", "ephemeralContainerStatuses",
      "initContainerStatuses"] ++
    each (listOf (fields [("ip", text)])) ["hostIPs", "podIPs"] ++
    [("conditions",
        listOf (condition ["lastProbeTime", "lastTransitionTime"] ["observedGeneration"])),
      ("observedGeneration", integer 64),
      ("resourceClaimStatuses", listOf (fields (each text ["name", "resourceClaimName"]))),
      ("startTime", time)]

end Tenancy.Normaliser
