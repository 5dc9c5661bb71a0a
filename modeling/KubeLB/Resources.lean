import KubeLB.Foundation.Fallible
import KubeLB.Gateway

/-!
Ingresses, HTTPRoutes and GRPCRoutes, and the services they refer to
(internal/resources/ingress and internal/resources/gatewayapi).

An HTTPRoute and a GRPCRoute have one shape in all that is read of them, and the
functions on them are the same text twice. Of a rule only the references and the
mirror filters are shown, of an Ingress path not its type. Where the code of the
Ingress follows a nil pointer the call panics, which is `none`.
-/

namespace KubeLB
open Fallible

def serviceKind : String := "Service"

/-- networkingv1.IngressServiceBackend, with the port by number. -/
structure IngressServiceBackend where
  name : String
  port : Int := 0
  deriving DecidableEq

/-- networkingv1.IngressBackend: a service, or another resource by name. -/
structure IngressBackend where
  service : Option IngressServiceBackend := none
  resource : Option String := none
  deriving DecidableEq

structure HTTPIngressPath where
  path : String := ""
  backend : IngressBackend
  deriving DecidableEq

structure IngressRule where
  host : String := ""
  http : Option (List HTTPIngressPath) := none
  deriving DecidableEq

structure IngressTLS where
  hosts : List String := []
  secretName : String := ""
  deriving DecidableEq

structure IngressSpec where
  ingressClassName : Option String := none
  defaultBackend : Option IngressBackend := none
  rules : List IngressRule := []
  tls : List IngressTLS := []
  deriving DecidableEq

structure Ingress extends ObjectMeta where
  spec : IngressSpec := {}
  deriving DecidableEq

/-- gwapiv1.BackendObjectReference; the group is not read. -/
structure BackendObjectReference where
  name : String
  kind : Option String := none
  ns : Option String := none
  port : Option Int := none
  deriving DecidableEq

/-- A filter of a rule or of a backend, by its RequestMirror part. -/
structure RouteFilter where
  requestMirror : Option BackendObjectReference := none
  deriving DecidableEq

structure RouteBackendRef extends BackendObjectReference where
  filters : List RouteFilter := []
  deriving DecidableEq

structure RouteRule where
  filters : List RouteFilter := []
  backendRefs : List RouteBackendRef := []
  deriving DecidableEq

structure ParentReference where
  name : String
  ns : Option String := none
  deriving DecidableEq

structure GatewayRouteSpec where
  parentRefs : List ParentReference := []
  hostnames : List String := []
  rules : List RouteRule := []
  deriving DecidableEq

structure GatewayRoute extends ObjectMeta where
  spec : GatewayRouteSpec := {}
  deriving DecidableEq

abbrev HTTPRoute := GatewayRoute

abbrev GRPCRoute := GatewayRoute

def BackendObjectReference.service (ref : BackendObjectReference) (ns : String) :
    Option ObjectKey :=
  if ref.kind = none ∨ ref.kind = some serviceKind then some ⟨ref.ns.getD ns, ref.name⟩ else none

def mirroredServices (ns : String) (filters : List RouteFilter) : List ObjectKey :=
  filters.filterMap fun filter => filter.requestMirror.bind (·.service ns)

def RouteRule.services (rule : RouteRule) (ns : String) : List ObjectKey :=
  mirroredServices ns rule.filters ++ rule.backendRefs.flatMap fun ref =>
    (ref.toBackendObjectReference.service ns).toList ++ mirroredServices ns ref.filters

def GatewayRoute.services (route : GatewayRoute) : List ObjectKey :=
  (route.spec.rules.flatMap (·.services route.ns)).eraseDups

def getServicesFromHTTPRoute (httpRoute : HTTPRoute) : List ObjectKey := httpRoute.services

def getServicesFromGRPCRoute (grpcRoute : GRPCRoute) : List ObjectKey := grpcRoute.services

/-- `path.Backend.Service.Name` for every path of a rule. -/
def IngressRule.serviceNames (rule : IngressRule) : Option (List String) := do
  let paths ← rule.http
  paths.mapM fun path => path.backend.service.map IngressServiceBackend.name

def IngressSpec.defaultServiceName (spec : IngressSpec) : Option String :=
  (spec.defaultBackend.bind IngressBackend.service).map IngressServiceBackend.name

def getServicesFromIngress (ingress : Ingress) : Option (List ObjectKey) := do
  let names ← ingress.spec.rules.mapM IngressRule.serviceNames
  return ((names.flatten ++ ingress.spec.defaultServiceName.toList).map
    fun name => ⟨ingress.ns, name⟩).eraseDups

/-- The spec of an object of the tenant cluster that becomes a Route. -/
inductive ResourceSpec
  | ingress (spec : IngressSpec)
  | gateway (spec : GatewaySpec)
  | httpRoute (spec : GatewayRouteSpec)
  | grpcRoute (spec : GatewayRouteSpec)
  deriving DecidableEq

structure TenantResource extends ObjectMeta where
  spec : ResourceSpec
  deriving DecidableEq

def ResourceSpec.kind : ResourceSpec → SourceKind
  | .ingress _ => .ingress
  | .gateway _ => .gateway
  | .httpRoute _ => .httpRoute
  | .grpcRoute _ => .grpcRoute

def TenantResource.kind (resource : TenantResource) : SourceKind := resource.spec.kind

structure ResourceId where
  kind : SourceKind
  key : ObjectKey
  deriving DecidableEq

def TenantResource.id (resource : TenantResource) : ResourceId :=
  ⟨resource.kind, resource.objectKey⟩

/-- The services a reconcile or a cleanup collects. A Gateway has none. -/
def TenantResource.getServices (resource : TenantResource) : Option (List ObjectKey) :=
  match resource.spec with
  | .ingress spec => getServicesFromIngress ⟨resource.toObjectMeta, spec⟩
  | .gateway _ => some []
  | .httpRoute spec => some (getServicesFromHTTPRoute ⟨resource.toObjectMeta, spec⟩)
  | .grpcRoute spec => some (getServicesFromGRPCRoute ⟨resource.toObjectMeta, spec⟩)

/-- The services an Ingress has as backends; rules and paths without one count for
nothing. -/
def Ingress.serviceBackends (ingress : Ingress) : List ObjectKey :=
  (ingress.spec.rules.flatMap fun rule => (rule.http.getD []).filterMap fun path =>
      path.backend.service.map fun service => ⟨ingress.ns, service.name⟩) ++
    ingress.spec.defaultServiceName.toList.map fun name => ⟨ingress.ns, name⟩

def TenantResource.References (resource : TenantResource) (key : ObjectKey) : Prop :=
  match resource.spec with
  | .ingress spec => key ∈ Ingress.serviceBackends ⟨resource.toObjectMeta, spec⟩
  | .gateway _ => False
  | .httpRoute spec | .grpcRoute spec => key ∈ GatewayRoute.services ⟨resource.toObjectMeta, spec⟩

instance (resource : TenantResource) (key : ObjectKey) : Decidable (resource.References key) :=
  match resource with
  | ⟨_, .ingress _⟩ => inferInstanceAs (Decidable (key ∈ _))
  | ⟨_, .gateway _⟩ => inferInstanceAs (Decidable False)
  | ⟨_, .httpRoute _⟩ | ⟨_, .grpcRoute _⟩ => inferInstanceAs (Decidable (key ∈ _))

theorem serviceNames_eq {rule : IngressRule} {names : List String}
    (returned : rule.serviceNames = some names) :
    ((rule.http.getD []).filterMap fun path => path.backend.service.map
      IngressServiceBackend.name) = names := by
  obtain ⟨paths, http, returned⟩ := Option.bind_eq_some_iff.mp returned
  rw [http]
  exact filterMap_of_forall₂ (mapM_eq_some_iff.mp returned)

/-- GetServicesFromIngress returns the service backends, if it returns. -/
theorem mem_getServicesFromIngress {ingress : Ingress} {services : List ObjectKey}
    (returned : getServicesFromIngress ingress = some services) (key : ObjectKey) :
    key ∈ services ↔ key ∈ ingress.serviceBackends := by
  obtain ⟨names, named, returned⟩ := Option.bind_eq_some_iff.mp returned
  cases returned
  have each := (mapM_eq_some_iff.mp named).imp fun _ _ => serviceNames_eq
  have flat := flatMap_eq_flatten_of_forall₂ each
  rw [List.mem_eraseDups, ← flat]
  simp only [Ingress.serviceBackends, List.map_append, List.map_flatMap, List.map_filterMap,
    Option.map_map]
  rfl

theorem mem_getServices {resource : TenantResource} {services : List ObjectKey}
    (returned : resource.getServices = some services) (key : ObjectKey) :
    key ∈ services ↔ resource.References key := by
  obtain ⟨object, spec⟩ := resource
  cases spec with
  | ingress spec => exact mem_getServicesFromIngress returned key
  | gateway spec =>
      cases returned
      exact iff_of_false List.not_mem_nil id
  | httpRoute spec | grpcRoute spec =>
      cases returned
      exact Iff.rfl

end KubeLB
