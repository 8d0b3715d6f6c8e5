import Tenancy.Cluster.Schema.Basic

/-!
# The form of a container

What a container may say about its command, its environment, its ports and how it is
looked after.
-/

namespace Tenancy.Normaliser

/-- Where the value of a variable comes from. -/
def variableSource : Normaliser :=
  let key := fields (each text ["key", "name"] ++ [("optional", bool)])
  fields (each key ["configMapKeyRef", "secretKeyRef"] ++
    [("fieldRef", fieldReference), ("resourceFieldRef", resourceReference)])

/-- A variable of the environment. -/
def environmentVariable : Normaliser :=
  fields (each text ["name", "value"] ++ [("valueFrom", variableSource)])

/-- Where variables of the environment come from. -/
def variableSources : Normaliser :=
  fields (each optionalReference ["configMapRef", "secretRef"] ++ each text ["prefix"])

/-- A request over HTTP. -/
def webAction : Normaliser :=
  fields (each text ["host", "path", "scheme"] ++
    [("httpHeaders", listOf namedValue), ("port", integerOrText)])

/-- What is done to a container. -/
def actionForms : List (String × Normaliser) :=
  [("exec", fields [("command", listOf text)]), ("httpGet", webAction),
    ("tcpSocket", fields [("host", text), ("port", integerOrText)])]

/-- What is done when a container starts or stops. -/
def handler : Normaliser :=
  fields (("sleep", fields [("seconds", integer 64)]) :: actionForms)

/-- What is done over the life of a container. -/
def lifecycle : Normaliser :=
  fields (each handler ["postStart", "preStop"] ++ each text ["stopSignal"])

/-- How a container is probed. -/
def probe : Normaliser :=
  fields (each (integer 32) ["failureThreshold", "initialDelaySeconds", "periodSeconds",
      "successThreshold", "timeoutSeconds"] ++
    [("grpc", fields [("port", integer 32), ("service", text)]),
      ("terminationGracePeriodSeconds", integer 64)] ++ actionForms)

/-- A port of a container. -/
def containerPort : Normaliser :=
  fields (each (integer 32) ["containerPort", "hostPort"] ++ each text ["hostIP", "name",
    "protocol"])

/-- The security settings of a container. -/
def containerSecurity : Normaliser :=
  fields (each bool ["allowPrivilegeEscalation", "privileged", "readOnlyRootFilesystem"] ++
    [("capabilities", fields (each (listOf text) ["add", "drop"])), ("procMount", text)] ++
    securityForms)

/-- A place where a volume is seen. -/
def volumeMount : Normaliser :=
  fields (("readOnly", bool) :: each text ["mountPath", "mountPropagation", "name",
    "recursiveReadOnly", "subPath", "subPathExpr"])

/-- What a container may say besides its resources. -/
def containerForms : List (String × Normaliser) :=
  each text ["image", "imagePullPolicy", "name", "restartPolicy", "terminationMessagePath",
      "terminationMessagePolicy", "workingDir"] ++
    each bool ["stdin", "stdinOnce", "tty"] ++
    each (listOf text) ["args", "command"] ++
    each probe ["livenessProbe", "readinessProbe", "startupProbe"] ++
    [("env", listOf environmentVariable), ("envFrom", listOf variableSources),
      ("lifecycle", lifecycle), ("ports", listOf containerPort),
      ("resizePolicy", listOf (fields (each text ["resourceName", "restartPolicy"]))),
      ("securityContext", containerSecurity),
      ("volumeDevices", listOf (fields (each text ["devicePath", "name"]))),
      ("volumeMounts", listOf volumeMount)]

/-- A container that runs before the others. -/
def container : Normaliser := fields (("resources", resources) :: containerForms)

/-- A container that is put into a pod that runs. -/
def ephemeralContainer : Normaliser :=
  fields (("resources", resources) :: ("targetContainerName", text) :: containerForms)

end Tenancy.Normaliser
