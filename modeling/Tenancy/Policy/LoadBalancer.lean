import Tenancy.Change
import Tenancy.Policy.Basic

/-!
# Annotations of load balancers

Services that are load balancers, before or after a change, keep the annotations
that only the platform may manage.
-/

namespace Tenancy

/-- The type of services that are load balancers. -/
def Service.loadBalancerType : String := "LoadBalancer"

/-- Whether a service is a load balancer. -/
def Service.isLoadBalancer (service : Service) : Bool :=
  service.serviceType == some loadBalancerType

/-- A protected annotation that changed. -/
structure ProtectedAnnotation where
  key : String
  deriving Repr, DecidableEq

instance : Described ProtectedAnnotation where
  message annotation := "annotation " ++ Text.quoted annotation.key ++ " may not be changed"

/-- The annotations of a service that may be absent. -/
def Service.annotationsOf (service : Option Service) : SortedMap String :=
  (service.map (·.metadata.allAnnotations)).getD .empty

/-- The protected annotations that differ between two states of a service. -/
def Globs.protectedChanges (globs : Globs) (states : States Service) :
    Report ProtectedAnnotation :=
  let keys :=
    SortedMap.changedKeys (Service.annotationsOf states.old) (Service.annotationsOf states.new)
  ⟨(keys.filter globs.isMatch).map ProtectedAnnotation.mk⟩

/-- Keeps protected annotations of load balancers as they are. -/
def Policy.loadBalancer (skipper : Skipper) (protectedKeys : Globs) : Policy Service where
  name := "load-balancer-annotations"
  skipper := skipper
  decode := Served.ofJson?
  decide request states :=
    if request.operation = .delete then pure (.allowed "deletion")
    else if !states.new.any Service.isLoadBalancer && !states.old.any Service.isLoadBalancer then
      pure (.allowed "not a load balancer")
    else
      pure (.ofReport "no protected annotation changed" (protectedKeys.protectedChanges states))

end Tenancy
