import Tenancy.Policy.Basic

/-!
# Default node selectors

New pods get the entries of a node selector that they do not have themselves.  A
label of the namespace may choose among several selectors.
-/

namespace Tenancy

/-- The selectors that pods get. -/
structure NodeSelectors where
  default : SortedMap String
  /-- The label of a namespace that chooses a selector. -/
  classLabel : Option String
  byClass : SortedMap (SortedMap String)
  deriving Repr, DecidableEq

namespace NodeSelectors

/-- The selector of a namespace. -/
def chosen (selectors : NodeSelectors) (classLabel : String) (found : Namespace) :
    SortedMap String :=
  ((found.metadata.allLabels.get? classLabel).bind selectors.byClass.get?).getD
    selectors.default

/-- The selector for the pods of a namespace, which is looked up only if a label
chooses the selector. -/
def forNamespace (selectors : NodeSelectors) (namespaceName : String) :
    Lookup (SortedMap String) :=
  match selectors.classLabel with
  | none => pure selectors.default
  | some classLabel => do
      let found ← Lookup.require Namespace none namespaceName
      return selectors.chosen classLabel found

/-- The entries of a selector whose keys a pod does not have. -/
def missing (selector : SortedMap String) (existing : Option (SortedMap String)) :
    SortedMap String :=
  selector.filter fun key _ => !(existing.any (·.contains key))

/-- Add entries to a pod: one by one to a selector that it has, or as a whole. -/
def operations (missing : SortedMap String) (existing : Option (SortedMap String)) :
    List PatchOperation :=
  match existing with
  | none => [.addAt ["spec", "nodeSelector"] (Json.ofTextMap missing)]
  | some _ =>
      missing.entries.map fun (key, value) =>
        .addAt ["spec", "nodeSelector", key] (.text value)

/-- Decide on a pod, given the selector of its namespace. -/
def complete (selector : SortedMap String) (pod : Pod) : Verdict :=
  let existing := pod.spec.bind (·.nodeSelector)
  let absent := missing selector existing
  if absent.isEmpty then .allowed "node selector is complete"
  else .patched "added default node selector" (operations absent existing)

end NodeSelectors

/-- Completes the node selectors of new pods. -/
def Policy.nodeSelector (skipper : Skipper) (selectors : NodeSelectors) : Policy Pod where
  name := "node-selector"
  skipper := skipper
  decode := Served.ofJson?
  decide request states :=
    if request.operation ≠ .create then
      pure (.allowed "node selectors are only defaulted on creation")
    else
      match states.new with
      | none => pure (.allowed "no pod")
      | some pod => do
          let selector ← selectors.forNamespace request.namespaceName
          return NodeSelectors.complete selector pod

end Tenancy
