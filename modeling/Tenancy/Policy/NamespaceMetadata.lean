import Tenancy.AllowList
import Tenancy.Change
import Tenancy.Policy.Basic
import Tenancy.Quota.Override

/-!
# Changes to namespace metadata

Globs say which labels and annotations of a namespace may change.  Rules may
restrict the values of changed labels, and changed annotations that override
quotas have to hold quantities.  All that is wrong is reported together.
-/

namespace Tenancy

/-- What is wrong with a change to the metadata of a namespace. -/
inductive MetadataFault where
  | labels (change : ForbiddenChange)
  | annotations (change : ForbiddenChange)
  | labelValue (fault : AllowList.Fault)
  | quota (fault : OverrideFault)
  deriving DecidableEq

instance : Described MetadataFault where
  message
    | .labels change => "invalid label change: " ++ Described.message change
    | .annotations change => "invalid annotation change: " ++ Described.message change
    | .labelValue fault => Described.message fault
    | .quota fault => Described.message fault

/-- What a namespace may be labelled and annotated with. -/
structure MetadataRules where
  labels : Globs
  annotations : Globs
  labelValues : Option AllowList
  overrides : Option OverrideResolver

namespace MetadataRules

/-- The faults of changed labels. -/
def labelFaults (rules : MetadataRules) (old new : SortedMap String) :
    Report MetadataFault :=
  match rules.labelValues with
  | some list => (list.validateAll (SortedMap.changedEntries old new)).map .labelValue
  | none => .empty

/-- The faults of changed annotations that override quotas: those of reading
them, and those of applying them to a quota without limits. -/
def overrideFaults (rules : MetadataRules) (old new : SortedMap String) :
    Report MetadataFault :=
  match rules.overrides with
  | none => .empty
  | some resolver =>
      let (overrides, report) := resolver.resolve (SortedMap.changedEntries old new)
      (report ++ .join (overrides.values.map fun limits =>
        (LimitOverride.applyAll limits .empty).2)).map .quota

/-- All that is wrong with a change from old to new metadata. -/
def faults (rules : MetadataRules) (old new : Metadata) : Report MetadataFault :=
  let labels := rules.labels.forbiddenChange? old.allLabels new.allLabels
  let annotations :=
    rules.annotations.forbiddenChange? old.allAnnotations new.allAnnotations
  ⟨(labels.map .labels).toList⟩ ++ ⟨(annotations.map .annotations).toList⟩ ++
    rules.labelFaults old.allLabels new.allLabels ++
    rules.overrideFaults old.allAnnotations new.allAnnotations

end MetadataRules

/-- The metadata of a namespace that may be absent. -/
def metadataOf (found : Option Namespace) : Metadata :=
  (found.map Namespace.metadata).getD .empty

/-- Restricts which labels and annotations of namespaces may change. -/
def Policy.namespaceMetadata (skipper : Skipper) (rules : MetadataRules) : Policy Namespace where
  name := "namespace-metadata"
  skipper := skipper
  decode := Served.ofJson?
  decide request states :=
    if request.operation = .delete then pure (.allowed "deletion does not change metadata")
    else
      pure (.ofReport "namespace metadata changes are allowed"
        (rules.faults (metadataOf states.old) (metadataOf states.new)))

end Tenancy
