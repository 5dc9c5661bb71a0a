import KubeLB.Gateway
import KubeLB.Route.ServicesSpec

/-!
The Route controller (internal/controllers/kubelb/route_controller.go) over the
Routes and Services of the cluster.

A reconcile is one step: the controller works on one Route at a time. What it
meets on the way is in `RouteEnv`: the tenant and its Config, the order in
which the status map is ranged over, the draws of the allocator, the answers of
the API server. The CCM writes Routes and asks for their deletion; a Route
without finalizers is gone at once. The resource that manageRoutes applies and
its part of the status are not shown: they touch neither Services nor ports.
-/

namespace KubeLB
open FiniteMap

/-- The part of a Tenant or of the Config that the Route controller reads. -/
structure Settings extends AnnotationSettings where
  ingressDisable : Bool := false
  gatewayAPIDisable : Bool := false

def cleanupFinalizer : String := "kubelb.k8c.io/cleanup"

def isGatewayAPIDisabled (disableGatewayAPI : Bool) (config tenant : Settings) : Bool :=
  disableGatewayAPI || config.gatewayAPIDisable || tenant.gatewayAPIDisable

/-- Whether to reconcile, and whether the kind of the Route is disabled. -/
def shouldReconcile (r : RouteReconciler) (route : Route) (tenant config : Settings) :
    Except String (Bool × Bool) :=
  match route.spec.kubernetes with
  | none => .ok (false, false)
  | some source =>
      match convertUnstructuredToObject source.route with
      | none => .error "failed to convert route to object"
      | some .ingress =>
          if config.ingressDisable || tenant.ingressDisable then .ok (false, true)
          else .ok (true, false)
      | some .gateway =>
          if isGatewayAPIDisabled r.disableGatewayAPI config tenant then .ok (false, true)
          else .ok (source.route.name = parentGatewayName, false)
      | some .grpcRoute | some .httpRoute =>
          if isGatewayAPIDisabled r.disableGatewayAPI config tenant then .ok (false, true)
          else .ok (true, false)
      | some .service => .ok (false, false)

structure RouteEnv where
  tenantAndConfig : Except String (Settings × Settings) := .ok ({}, {})
  faults : ApiFaults := {}
  updateFault : Option String := none
  statusFault : Option String := none
  api : Admission := .verbatim
  order : List String := []
  draws : List Draw := []

structure RouteWorld where
  routes : FiniteMap ObjectKey Route
  services : ServiceStore
  allocator : PortAllocator

def RouteWorld.after (world : RouteWorld) (effects : RouteEffects) : RouteWorld :=
  { world with services := effects.store, allocator := effects.allocator }

def RouteWorld.effects (world : RouteWorld) (route : Route) : RouteEffects :=
  ⟨route.services, world.services, world.allocator, [], []⟩

/-- cleanup with the removal of the finalizer; the Route itself goes when it is
being deleted and this was its last finalizer. -/
def cleanupRoute (r : RouteReconciler) (env : RouteEnv) (world : RouteWorld) (key : ObjectKey)
    (route : Route) : RouteWorld :=
  match cleanup r env.faults env.order route (world.effects route) with
  | (done, some _) => world.after done
  | (done, none) =>
      match env.updateFault with
      | some _ => world.after done
      | none =>
          let finalizers := removeFinalizer route.finalizers cleanupFinalizer
          if route.deletionTimestamp ∧ finalizers = [] then
            { world.after done with routes := world.routes.erase key }
          else
            { world.after done with
              routes := world.routes.insert key { route with finalizers := finalizers } }

/-- The part of Reconcile behind the finalizer: manageServices and, if it reports
no error, the status. -/
def manageRoute (r : RouteReconciler) (env : RouteEnv) (tenant config : Settings)
    (world : RouteWorld) (key : ObjectKey) (route : Route) : Option RouteWorld := do
  let (done, failure) ← manageServices r env.faults env.statusFault env.api env.order env.draws
    (getAnnotations tenant.toAnnotationSettings config.toAnnotationSettings) route
    (world.effects route)
  match failure with
  | some _ => return world.after done
  | none =>
      return { world.after done with
        routes := world.routes.insert key { route with services := done.services } }

def reconcileRoute (r : RouteReconciler) (env : RouteEnv) (world : RouteWorld)
    (key : ObjectKey) : Option RouteWorld :=
  match world.routes.lookup key, env.tenantAndConfig with
  | none, _ => some world
  | some _, .error _ => some world
  | some route, .ok (tenant, config) =>
      if route.deletionTimestamp then
        if cleanupFinalizer ∈ route.finalizers then some (cleanupRoute r env world key route)
        else some world
      else
        match shouldReconcile r route tenant config with
        | .error _ => some world
        | .ok (proceed, disabled) =>
            if cleanupFinalizer ∈ route.finalizers ∧ disabled then
              some (cleanupRoute r env world key route)
            else if proceed = false then some world
            else if cleanupFinalizer ∈ route.finalizers then
              manageRoute r env tenant config world key route
            else
              match env.updateFault with
              | some _ => some world
              | none =>
                  let marked := { route with
                    finalizers := addFinalizer route.finalizers cleanupFinalizer }
                  manageRoute r env tenant config
                    { world with routes := world.routes.insert key marked } key marked

inductive RouteAction
  /-- The CCM creates a Route or updates its spec and labels. -/
  | apply (route : Route)
  /-- The deletion of a Route is asked for. -/
  | delete (key : ObjectKey)
  | reconcile (key : ObjectKey) (env : RouteEnv)

/-- A Route after an apply: the status and the finalizers of an existing one stay. -/
def appliedRoute (existing : Option Route) (route : Route) : Route :=
  match existing with
  | none => { route with services := ∅, deletionTimestamp := false }
  | some old => { old with spec := route.spec, labels := route.labels }

def routeStep (r : RouteReconciler) (world : RouteWorld) : RouteAction → Option RouteWorld
  | .apply route =>
      let key := route.objectKey
      some { world with
        routes := world.routes.insert key (appliedRoute (world.routes.lookup key) route) }
  | .delete key =>
      match world.routes.lookup key with
      | none => some world
      | some route =>
          if route.finalizers = [] then some { world with routes := world.routes.erase key }
          else some { world with
            routes := world.routes.insert key { route with deletionTimestamp := true } }
  | .reconcile key env => reconcileRoute r env world key

end KubeLB
