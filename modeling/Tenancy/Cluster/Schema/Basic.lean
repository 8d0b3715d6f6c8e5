import Tenancy.Cluster.Metadata

/-!
# Forms that several kinds of objects share

Selectors of labels, conditions in a status, quantities of resources and the security
settings that pods and containers have in common.
-/

namespace Tenancy.Normaliser

/-! ## Selectors and conditions -/

/-- A requirement on the value of a label. -/
def requirement : Normaliser :=
  fields (each text ["key", "operator"] ++ [("values", listOf text)])

/-- The requirements of a selector of labels, besides the labels it asks for. -/
def selectorForms : List (String × Normaliser) := [("matchExpressions", listOf requirement)]

/-- A selector of labels. -/
def labelSelector : Normaliser := fields (("matchLabels", textMap) :: selectorForms)

/-- A condition with the times in some fields and the counts in others. -/
def condition (times counts : List String) : Normaliser :=
  fields (each text ["message", "reason", "status", "type"] ++ each time times ++
    each (integer 64) counts)

/-! ## Names of other things -/

/-- An object with nothing but a name. -/
def reference : Normaliser := fields [("name", text)]

/-- A name with something that may be missing. -/
def optionalReference : Normaliser := fields [("name", text), ("optional", bool)]

/-- A name with a value. -/
def namedValue : Normaliser := fields (each text ["name", "value"])

/-- A field of a pod. -/
def fieldReference : Normaliser := fields (each text ["apiVersion", "fieldPath"])

/-- A resource of a container. -/
def resourceReference : Normaliser := fields (each text ["containerName", "divisor", "resource"])

/-! ## Resources and security -/

/-- What is claimed of resources, besides the requests. -/
def resourceForms : List (String × Normaliser) :=
  [("claims", listOf (fields (each text ["name", "request"]))), ("limits", textMap)]

/-- What is claimed of resources. -/
def resources : Normaliser := fields (("requests", textMap) :: resourceForms)

/-- A profile that a process is confined to. -/
def profile : Normaliser := fields (each text ["localhostProfile", "type"])

/-- Who runs a process, and what confines it. -/
def securityForms : List (String × Normaliser) :=
  each (integer 64) ["runAsGroup", "runAsUser"] ++
    each profile ["appArmorProfile", "seccompProfile"] ++
    [("runAsNonRoot", bool),
      ("seLinuxOptions", fields (each text ["level", "role", "type", "user"])),
      ("windowsOptions", fields (("hostProcess", bool) ::
        each text ["gmsaCredentialSpec", "gmsaCredentialSpecName", "runAsUserName"]))]

end Tenancy.Normaliser
