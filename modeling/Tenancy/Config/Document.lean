import Tenancy.Config.Basic
import Tenancy.Yaml.Decode

/-!
# Reading a configuration

A configuration is written as a YAML mapping.  A setting may be given once, and
no others than those that exist; what is left out keeps its default.
-/

namespace Tenancy

open Yaml (Node)

/-- Read a rule for label values; what else is written in it does not count. -/
def LabelValueRule.ofNode? (node : Node) : Option LabelValueRule := do
  let members ← node.members?
  let key ← Node.only? Node.text? members "key"
  let value ← Node.only? Node.text? members "value"
  return ⟨key, value⟩

/-- Read a rule for reserved names; what else is written in it does not count. -/
def ReservedNamesRule.ofNode? (node : Node) : Option ReservedNamesRule := do
  let members ← node.members?
  let kind ← Node.only? Node.text? members "kind"
  let names ← Node.only? (Node.listOf? Node.text?) members "names"
  return ⟨kind, names⟩

namespace Config

/-- Set one setting. -/
def set? (config : Config) (name : String) (node : Node) : Option Config :=
  let texts := node.listOf? Node.text?
  match name with
  | "organizationLabel" =>
      node.text?.map fun organizationLabel => { config with organizationLabel }
  | "defaultOrganizationAnnotation" =>
      node.text?.map fun defaultOrganizationAnnotation =>
        { config with defaultOrganizationAnnotation }
  | "privilegedGroups" => texts.map fun privilegedGroups => { config with privilegedGroups }
  | "privilegedUsers" => texts.map fun privilegedUsers => { config with privilegedUsers }
  | "privilegedRoles" => texts.map fun privilegedRoles => { config with privilegedRoles }
  | "privilegedClusterRoles" =>
      texts.map fun privilegedClusterRoles => { config with privilegedClusterRoles }
  | "allowedNamespaceLabels" =>
      texts.map fun allowedNamespaceLabels => { config with allowedNamespaceLabels }
  | "allowedNamespaceAnnotations" =>
      texts.map fun allowedNamespaceAnnotations => { config with allowedNamespaceAnnotations }
  | "namespaceLabelValueRules" =>
      (node.listOf? LabelValueRule.ofNode?).map fun namespaceLabelValueRules =>
        { config with namespaceLabelValueRules }
  | "quotaOverridePrefix" =>
      node.optionalText?.map fun quotaOverridePrefix => { config with quotaOverridePrefix }
  | "defaultNodeSelector" =>
      node.textMap?.map fun defaultNodeSelector => { config with defaultNodeSelector }
  | "nodeClassLabel" =>
      node.optionalText?.map fun nodeClassLabel => { config with nodeClassLabel }
  | "nodeSelectorsByClass" =>
      (node.mapOf? Node.textMap?).map fun nodeSelectorsByClass =>
        { config with nodeSelectorsByClass }
  | "defaultNamespaceQuota" =>
      node.natural?.map fun defaultNamespaceQuota => { config with defaultNamespaceQuota }
  | "namespaceQuotaOverrideNamespace" =>
      node.optionalText?.map fun namespaceQuotaOverrideNamespace =>
        { config with namespaceQuotaOverrideNamespace }
  | "memoryPerCoreLimit" =>
      node.text?.map fun memoryPerCoreLimit => { config with memoryPerCoreLimit }
  | "reservedNames" =>
      (node.listOf? ReservedNamesRule.ofNode?).map fun reservedNames =>
        { config with reservedNames }
  | "protectedLoadBalancerAnnotations" =>
      texts.map fun protectedLoadBalancerAnnotations =>
        { config with protectedLoadBalancerAnnotations }
  | _ => none

/-- Read a configuration from a document. -/
def ofNode? (node : Node) : Option Config := do
  let members ← node.members?
  guard (members.map (·.1)).Nodup
  members.foldlM (fun config (name, value) => config.set? name value) default

/-- Read a configuration from a text; an empty one sets nothing. -/
def parse (text : String) : Except Fault Config :=
  match Node.ofText? text with
  | some none => .ok default
  | some (some node) =>
      match ofNode? node with
      | some config => .ok config
      | none => .error .malformed
  | none => .error .malformed

/-- Read a configuration from the content of a file, if the file can be read. -/
def load (path : String) (content : Option String) : Except Fault Config :=
  match content with
  | some text => parse text
  | none => .error (.unreadable path)

end Config

end Tenancy
