import Tenancy.Proofs.Cluster.Metadata

/-!
# Pods as they are read

A pod is read member by member.  Another node selector in its specification is read in place
of the one it had, and nothing else changes.  What is read is not kept in full: a member of a
container has to have its form also where no decision depends on it.
-/

namespace Tenancy

open Json

variable {members fields : List (String × Json)}

/-- The containers and the node selector of a pod are read one by one. -/
theorem PodSpec.ofJson?_object_eq_some_iff {spec : PodSpec} :
    PodSpec.ofJson? (.object fields) = some spec ↔
      Normaliser.accepts Normaliser.podForms fields = true ∧
        (∃ containers, Json.optional (Json.listOf? Container.ofJson?) fields "containers" =
          some containers ∧ containers.getD [] = spec.containers) ∧
        Json.optional textMap? fields "nodeSelector" = some spec.nodeSelector := by
  obtain ⟨containers, nodeSelector⟩ := spec
  simp only [ofJson?, object?, Option.bind_eq_bind, Option.bind_some, Option.bind_eq_some_iff,
    Option.guard_eq_some', exists_const, Option.pure_def, Option.some.injEq, PodSpec.mk.injEq]
  constructor
  · rintro ⟨accepted, found, containersRead, _, selectorRead, same, rfl⟩
    exact ⟨accepted, ⟨found, containersRead, same⟩, selectorRead⟩
  · rintro ⟨accepted, ⟨found, containersRead, same⟩, selectorRead⟩
    exact ⟨accepted, found, containersRead, _, selectorRead, same, rfl⟩

/-- A specification with another node selector is read with it. -/
theorem PodSpec.ofJson?_withSelector {spec : PodSpec} {entries : List (String × Json)}
    {selector : SortedMap String}
    (isRead : PodSpec.ofJson? (.object fields) = some spec)
    (selectorRead : textMap? (.object entries) = some selector) :
    PodSpec.ofJson? (.object (withMember "nodeSelector" (.object entries) fields)) =
      some { spec with nodeSelector := some selector } := by
  obtain ⟨accepted, ⟨containers, containersRead, same⟩, _⟩ :=
    ofJson?_object_eq_some_iff.mp isRead
  refine ofJson?_object_eq_some_iff.mpr ⟨?_, ⟨containers, ?_, same⟩, ?_⟩
  · rw [Normaliser.accepts_withMember (by decide), accepted]
  · rw [optional_withMember_of_ne _ (by decide), containersRead]
  · rw [optional_withMember_object, selectorRead]
    rfl

/-- The metadata, the specification and the phase of a pod are read one by one. -/
theorem Pod.ofJson?_object_eq_some_iff {pod : Pod} :
    Served.ofJson? (.object members) = some pod ↔
      Resource.open? (Served.resource Pod) (.object members) = some (pod.metadata, members) ∧
        Json.optional PodSpec.ofJson? members "spec" = some pod.spec ∧
        ∃ phase, Json.optional Pod.phase? members "status" = some phase ∧
          phase.join = pod.phase := by
  obtain ⟨metadata, spec, phase⟩ := pod
  simp only [Served.ofJson?, Option.bind_eq_bind, Option.bind_eq_some_iff, Option.pure_def,
    Option.some.injEq, Pod.mk.injEq]
  constructor
  · rintro ⟨⟨_, rest⟩, opened, _, specRead, found, phaseRead, rfl, rfl, same⟩
    obtain rfl : rest = members := Resource.open?_object_eq_some opened
    exact ⟨opened, specRead, found, phaseRead, same⟩
  · rintro ⟨opened, specRead, found, phaseRead, same⟩
    exact ⟨(metadata, members), opened, spec, specRead, found, phaseRead, rfl, rfl, same⟩

/-- A pod whose specification is an object is read with it. -/
theorem Pod.ofJson?_spec {pod : Pod} (isRead : Served.ofJson? (.object members) = some pod)
    (hasSpec : find? members "spec" = some (.object fields)) :
    ∃ spec, PodSpec.ofJson? (.object fields) = some spec ∧ pod.spec = some spec := by
  obtain ⟨_, specRead, _⟩ := ofJson?_object_eq_some_iff.mp isRead
  rw [Json.optional, hasSpec] at specRead
  obtain ⟨spec, isSpec, same⟩ := Option.map_eq_some_iff.mp specRead
  exact ⟨spec, isSpec, same.symm⟩

/-- A pod with another specification is read with it. -/
theorem Pod.ofJson?_withSpec {pod : Pod} {spec : PodSpec}
    (isRead : Served.ofJson? (.object members) = some pod)
    (specRead : PodSpec.ofJson? (.object fields) = some spec) :
    Served.ofJson? (.object (withMember "spec" (.object fields) members)) =
      some { pod with spec := some spec } := by
  obtain ⟨opened, _, phase, phaseRead, same⟩ := ofJson?_object_eq_some_iff.mp isRead
  have otherName : "spec" ≠ "apiVersion" ∧ "spec" ≠ "kind" ∧ "spec" ≠ "metadata" := by decide
  refine ofJson?_object_eq_some_iff.mpr
    ⟨Resource.open?_withMember_of_ne opened otherName _, ?_, phase, ?_, same⟩
  · rw [optional_withMember_object, specRead]
    rfl
  · rw [optional_withMember_of_ne _ (by decide), phaseRead]

/-! ## Containers -/

/-- A container is read only if each of its members whose form is known is null or has that
form. -/
theorem Container.form_of_ofJson? {container : Container} {name : String} {value : Json}
    {form : Normaliser} (isRead : Container.ofJson? (.object fields) = some container)
    (member : (name, value) ∈ fields)
    (isKnown : Normaliser.containerForms.lookup name = some form) :
    value = .null ∨ (form value).isSome = true := by
  simp only [ofJson?, object?, Option.bind_eq_bind, Option.bind_some, Option.bind_eq_some_iff,
    Option.guard_eq_some', exists_const] at isRead
  exact Normaliser.accepts_iff.mp isRead.1 name value form member isKnown

/-- A pod is read only if each member of its containers whose form is known is null or has that
form. -/
theorem Pod.form_of_ofJson? {pod : Pod} {elements : List Json} {own : List (String × Json)}
    {name : String} {value : Json} {form : Normaliser}
    (isRead : Served.ofJson? (.object members) = some pod)
    (hasSpec : find? members "spec" = some (.object fields))
    (hasContainers : find? fields "containers" = some (.array elements))
    (listed : .object own ∈ elements) (member : (name, value) ∈ own)
    (isKnown : Normaliser.containerForms.lookup name = some form) :
    value = .null ∨ (form value).isSome = true := by
  obtain ⟨spec, specRead, _⟩ := Pod.ofJson?_spec isRead hasSpec
  obtain ⟨_, ⟨_, containersRead, _⟩, _⟩ := PodSpec.ofJson?_object_eq_some_iff.mp specRead
  rw [Json.optional, hasContainers] at containersRead
  obtain ⟨containers, allRead, _⟩ := Option.map_eq_some_iff.mp containersRead
  have eachRead := isSome_mapM_iff.mp (Option.isSome_iff_exists.mpr ⟨containers, allRead⟩)
  obtain ⟨container, containerRead⟩ := Option.isSome_iff_exists.mp (eachRead _ listed)
  exact Container.form_of_ofJson? containerRead member isKnown

-- no policy looks at the image of a container, and yet it has to be a text
example : (Served.ofJson? (.object [("spec", .object [("containers", .array [.object
    [("image", .number (.integer 5))]])])]) : Option Pod) = none := by
  decide

end Tenancy
