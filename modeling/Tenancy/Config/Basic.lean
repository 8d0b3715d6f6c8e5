import Tenancy.AllowList
import Tenancy.Quantity.Basic

/-!
# The configuration of the policies

What an operator can set.  Everything has a default, and patterns and quantities
are kept as they are written until the policies are made from them.
-/

namespace Tenancy

/-- A pair of patterns for a label of a namespace and its value. -/
structure LabelValueRule where
  key : String
  value : String
  deriving Repr, DecidableEq

/-- Globs for the names that are reserved for a kind of object. -/
structure ReservedNamesRule where
  kind : String
  names : List String
  deriving Repr, DecidableEq

/-- The configuration. -/
structure Config where
  organizationLabel : String
  defaultOrganizationAnnotation : String
  privilegedGroups : List String
  privilegedUsers : List String
  /-- Globs over roles with their namespaces. -/
  privilegedRoles : List String
  privilegedClusterRoles : List String
  allowedNamespaceLabels : List String
  allowedNamespaceAnnotations : List String
  namespaceLabelValueRules : List LabelValueRule
  quotaOverridePrefix : Option String
  defaultNodeSelector : SortedMap String
  nodeClassLabel : Option String
  nodeSelectorsByClass : SortedMap (SortedMap String)
  defaultNamespaceQuota : Nat
  namespaceQuotaOverrideNamespace : Option String
  memoryPerCoreLimit : String
  reservedNames : List ReservedNamesRule
  protectedLoadBalancerAnnotations : List String
  deriving Repr, DecidableEq

namespace Config

/-- The configuration where nothing is set. -/
def default : Config where
  organizationLabel := "appuio.io/organization"
  defaultOrganizationAnnotation := "appuio.io/default-organization"
  privilegedGroups := []
  privilegedUsers := []
  privilegedRoles := []
  privilegedClusterRoles := []
  allowedNamespaceLabels := []
  allowedNamespaceAnnotations := []
  namespaceLabelValueRules := []
  quotaOverridePrefix := none
  defaultNodeSelector := .empty
  nodeClassLabel := none
  nodeSelectorsByClass := .empty
  defaultNamespaceQuota := 25
  namespaceQuotaOverrideNamespace := none
  memoryPerCoreLimit := "4Gi"
  reservedNames := []
  protectedLoadBalancerAnnotations := []

instance : Inhabited Config := ⟨default⟩

/-- Why there is no configuration, or why no policies can be made from it. -/
inductive Fault where
  | unreadable (path : String)
  | malformed
  | labelValue (fault : AllowList.Fault)
  | limit (fault : Quantity.Invalid)
  deriving Repr, DecidableEq

instance : Described Fault where
  message
    | .unreadable path => "failed to read " ++ path
    | .malformed => "failed to parse configuration"
    | .labelValue fault => "invalid namespaceLabelValueRules: " ++ Described.message fault
    | .limit fault => "invalid memoryPerCoreLimit: " ++ fault.message

end Config

end Tenancy
