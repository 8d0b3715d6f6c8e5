import Tenancy.Cluster.Metadata
import Tenancy.Json.Reader
import Tenancy.Quantity.Basic
import Tenancy.Report
import Tenancy.SortedMap
import Tenancy.Text.Quoted

/-!
# Quota overrides

Annotations of the form `<prefix>/<quota>.<resource>` override the limits of a
quota.  Each annotation is resolved on its own, and each override is applied on
its own, so that a fault in one of them never hides another.
-/

namespace Tenancy

/-- A new limit for a resource. -/
structure LimitOverride where
  resource : String
  limit : String
  deriving Repr, DecidableEq, Inhabited

/-- What is wrong with an override. -/
inductive OverrideFault where
  | malformedKey (key : String)
  | malformedClasses (key : String)
  | invalidLimit (resource : String) (fault : Quantity.Invalid)
  deriving Repr, DecidableEq

namespace OverrideFault

/-- The description of limits for storage classes that cannot be read. -/
def notTexts : String := "not a JSON object of texts"

instance : Described OverrideFault where
  message
    | .malformedKey key =>
        "invalid quota override key " ++ Text.quoted key ++ ": expected <name>.<resource>"
    | .malformedClasses key =>
        "invalid storage class quota override " ++ Text.quoted key ++ ": " ++ notTexts
    | .invalidLimit resource fault =>
        "failed to override " ++ resource ++ ": " ++ fault.message

end OverrideFault

/-- Overrides under the names of the quotas that they are for. -/
abbrev Overrides := SortedMap (List LimitOverride)

/-- Resolves the overrides among annotations.  The prefix ends with a slash. -/
structure OverrideResolver where
  keyPrefix : String
  deriving Repr, DecidableEq, Inhabited

namespace OverrideResolver

/-- A resolver with a prefix, to which a slash is added unless it ends with
one. -/
def ofPrefix (text : String) : OverrideResolver :=
  if text.toList.getLast? == some '/' then ⟨text⟩ else ⟨text ++ "/"⟩

/-- The field whose value holds limits for storage classes. -/
def storageClassesField : List Char := "storageclasses".toList

/-- What the resource of a limit for a storage class contains. -/
def storageClassResource : List Char := "storageclass.storage.k8s.io".toList

/-- Whether some characters stand next to each other somewhere in a text. -/
def occursIn (part : List Char) : List Char → Bool
  | [] => part.isEmpty
  | char :: rest => part.isPrefixOf (char :: rest) || occursIn part rest

/-- The limits for storage classes in a JSON text. -/
def storageClassLimits? (text : String) : Option (List LimitOverride) := do
  let json ← Json.parse? text
  let limits ← json.textMap?
  let entries := limits.entries.filter fun (resource, _) =>
    occursIn storageClassResource resource.toList
  return entries.map fun (resource, limit) => ⟨resource, limit⟩

/-- What one annotation contributes: nothing if its key lacks the prefix, and
otherwise overrides for one quota. -/
def contribution (resolver : OverrideResolver) (key value : String) :
    Except OverrideFault (Option (String × List LimitOverride)) :=
  let chars := key.toList
  let opening := resolver.keyPrefix.toList
  if !opening.isPrefixOf chars then .ok none
  else
    let stripped := chars.drop opening.length
    if !stripped.contains '.' then .error (.malformedKey key)
    else
      let quota := String.ofList (stripped.takeWhile (· ≠ '.'))
      let field := (stripped.dropWhile (· ≠ '.')).drop 1
      if field = storageClassesField then
        match storageClassLimits? value with
        | some limits => .ok (some (quota, limits))
        | none => .error (.malformedClasses key)
      else
        let resource := String.ofList (field.map fun char => if char = '_' then '/' else char)
        .ok (some (quota, [⟨resource, value⟩]))

/-- Resolve annotations in the order of their keys. -/
def resolveEntries (resolver : OverrideResolver) :
    List (String × String) → Overrides → Report OverrideFault → Overrides × Report OverrideFault
  | [], overrides, report => (overrides, report)
  | (key, value) :: rest, overrides, report =>
      match resolver.contribution key value with
      | .error fault => resolver.resolveEntries rest overrides (report.add fault)
      | .ok none => resolver.resolveEntries rest overrides report
      | .ok (some (quota, limits)) =>
          resolver.resolveEntries rest (overrides.append quota limits) report

/-- Resolve all overrides among annotations and report the malformed ones.
Quotas without an override are left out. -/
def resolve (resolver : OverrideResolver) (annotations : SortedMap String) :
    Overrides × Report OverrideFault :=
  let (overrides, report) := resolver.resolveEntries annotations.entries .empty .empty
  (overrides.filter fun _ limits => !limits.isEmpty, report)

end OverrideResolver

namespace LimitOverride

/-- Apply overrides to the limits of a quota, one after the other.  A limit that
is no quantity is reported and changes nothing. -/
def applyAll : List LimitOverride → SortedMap String → SortedMap String × Report OverrideFault
  | [], limits => (limits, .empty)
  | override :: rest, limits =>
      match Quantity.parse override.limit with
      | .ok _ => applyAll rest (limits.insert override.resource override.limit)
      | .error fault =>
          let (limits, report) := applyAll rest limits
          (limits, .single (.invalidLimit override.resource fault) ++ report)

end LimitOverride

/-- A scope with what it is asked to be like. -/
structure ScopeRequirement where
  scopeName : String
  operator : String
  values : Option (List String)
  deriving Repr, DecidableEq

/-- The limits of a quota and what they apply to. -/
structure QuotaSpec where
  hard : Option (SortedMap String)
  scopes : Option (List String)
  scopeSelector : Option (Option (List ScopeRequirement))
  deriving Repr, DecidableEq

/-- A specification that says nothing. -/
def QuotaSpec.empty : QuotaSpec := ⟨none, none, none⟩

/-- Limits on the resources of a namespace. -/
structure ResourceQuota where
  metadata : Metadata
  spec : Option QuotaSpec
  deriving Repr, DecidableEq

/-- Read what is asked of a scope. -/
def ScopeRequirement.ofJson? (json : Json) : Option ScopeRequirement := do
  let members ← json.object?
  let scopeName ← Json.optional Json.text? members "scopeName"
  let operator ← Json.optional Json.text? members "operator"
  let values ← Json.optional (Json.listOf? Json.text?) members "values"
  return ⟨scopeName.getD "", operator.getD "", values⟩

namespace ResourceQuota

/-- Read the scopes that a selector asks for. -/
def scopeSelector? (json : Json) : Option (Option (List ScopeRequirement)) := do
  let members ← json.object?
  Json.optional (Json.listOf? ScopeRequirement.ofJson?) members "matchExpressions"

/-- Read the limits of a quota. -/
def spec? (json : Json) : Option QuotaSpec := do
  let members ← json.object?
  let hard ← Json.optional Json.textMap? members "hard"
  let scopes ← Json.optional (Json.listOf? Json.text?) members "scopes"
  let scopeSelector ← Json.optional scopeSelector? members "scopeSelector"
  return ⟨hard, scopes, scopeSelector⟩

/-- What a quota may say besides its metadata and its limits. -/
def forms : List (String × Normaliser) :=
  [("status", .fields (Normaliser.each .textMap ["hard", "used"]))]

instance : Served ResourceQuota where
  resource := ⟨"", "v1", "ResourceQuota", "resourcequotas"⟩
  ofJson? json := do
    let (metadata, members) ← Resource.open? ⟨"", "v1", "ResourceQuota", "resourcequotas"⟩ json
    guard (Normaliser.accepts forms members)
    let spec ← Json.optional spec? members "spec"
    return ⟨metadata, spec⟩
  metadata := ResourceQuota.metadata

/-- Apply the overrides for a quota.  Without any the quota stays as it is. -/
def override (overrides : Overrides) (quota : ResourceQuota) :
    ResourceQuota × Report OverrideFault :=
  match overrides.get? quota.metadata.anyName with
  | none => (quota, .empty)
  | some limits =>
      let spec := quota.spec.getD .empty
      let (hard, report) := LimitOverride.applyAll limits (spec.hard.getD .empty)
      ({ quota with spec := some { spec with hard := some hard } }, report)

/-- Apply overrides to every quota that they name. -/
def overrideAll (overrides : Overrides) (quotas : List ResourceQuota) :
    List ResourceQuota × Report OverrideFault :=
  let results := quotas.map (override overrides)
  (results.map (·.1), .join (results.map (·.2)))

end ResourceQuota

end Tenancy
