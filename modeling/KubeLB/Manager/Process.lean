import KubeLB.Envoy.ControlPlane
import KubeLB.LoadBalancer.Service
import KubeLB.Route.Controller

/-!
One manager process: the LoadBalancer controller
(internal/controllers/kubelb/loadbalancer_controller.go), the Envoy control
plane and the Route controller on one port allocator.

Each controller works on one request at a time. A reconcile is taken apart where
other controllers may come in between: at every call of the API server and of
the allocator, whose lock covers one call. A task holds what its reconcile has
read so far. Reading the API gives its present state; a list is given by the
order in which its objects come. An update of an object that has changed since
it was read is a conflict and fails. A snapshot is built in one step.

The Route controller appears by its calls of the allocator only, and other
changes to Routes are at will. The hostname of a LoadBalancer is left out.
-/

namespace KubeLB
open FiniteMap

/-- The cluster as the API server holds it. `origins` has, for the Service of a
LoadBalancer, the LoadBalancer as it was read for the last write; nothing reads
it. -/
structure Api where
  lbs : FiniteMap ObjectKey LoadBalancer
  routes : FiniteMap ObjectKey Route
  services : ServiceStore
  origins : FiniteMap ObjectKey LoadBalancer

def Api.empty : Api := ⟨∅, ∅, ∅, ∅⟩

inductive LoadBalancerTask
  | idle
  | got (lb : LoadBalancer)
  | listed (lb : LoadBalancer) (lbs : List LoadBalancer)
  /-- Ports are being allocated; `requests` are the calls still to be made. -/
  | allocating (lb : LoadBalancer) (className : Option String) (annotations : AnnotationSettings)
      (requests : List (String × List String))
  | written (lb : LoadBalancer)
  | cleaning (lb : LoadBalancer)
  | deallocated (lb : LoadBalancer)
  | serviceDeleted (lb : LoadBalancer)

inductive ControlPlaneTask
  | idle
  | allocating (snapshotName : String) (lbs : List LoadBalancer) (routes : List Route)
      (requests : List (String × List String))
  | built (snapshotName : String) (snapshot : Snapshot)

structure Process where
  allocator : PortAllocator
  lbTask : LoadBalancerTask := .idle
  cpTask : ControlPlaneTask := .idle
  published : FiniteMap String Snapshot := ∅

structure ManagerOptions where
  ns : String
  topology : EnvoyProxyTopology := .shared

/-- The part of a Tenant or of the Config that the LoadBalancer controller reads. -/
structure LoadBalancerSettings extends AnnotationSettings where
  disable : Bool := false
  className : Option String := none

inductive ProcessAction
  | lbGet (key : ObjectKey)
  | lbList (order : List ObjectKey)
  | lbDecide (tenantAndConfig : Except String (LoadBalancerSettings × LoadBalancerSettings))
      (updateFault : Option String)
  | lbAllocate (draws : List Draw)
  | lbWrite (faults : ApiFaults) (api : Admission)
  | lbStatus (checkDNSResolution checkTLSHealth : String → Bool) (hostname : String)
      (fault : Option String)
  | lbDeallocate
  | lbDeleteService (fault : Option String)
  | lbRemoveFinalizers (fault : Option String)
  /-- The reconcile ends with an error that no other action shows. -/
  | lbFail
  | cpList (requestNs : String) (lbs routes : List ObjectKey)
  | cpAllocate (draws : List Draw)
  | cpBuild (get : ObjectKey → Except String (List EndpointAddress))
  | cpPublish
  | cpFail
  | routeAllocate (route : Route) (request : String × List String) (draws : List Draw)
  | routeDeallocate (endpointKeys : List String)

def envoyProxyCleanupFinalizer : String := "kubelb.k8c.io/cleanup-envoy-proxy"
def hostnameCleanupFinalizer : String := "kubelb.k8c.io/cleanup-hostname"

def cleanupFinalizers : List String :=
  [envoyProxyCleanupFinalizer, cleanupFinalizer, hostnameCleanupFinalizer]

/-- The LoadBalancers listed for a reconcile; those being deleted are among them. -/
def listLoadBalancers (topology : EnvoyProxyTopology) (requestNs : String)
    (lbs : List LoadBalancer) : List LoadBalancer :=
  lbs.filter fun lb => inScope topology requestNs lb.ns

/-- The name of the snapshot that serves the Envoy of a namespace. -/
def envoySnapshotName (topology : EnvoyProxyTopology) (requestNs : String) : String :=
  envoyApplicationName topology requestNs

/-- Update: the object is written if it is still the one that was read. One that is
being deleted goes with its last finalizer. -/
def updateLoadBalancer (api : Api) (old new : LoadBalancer) (fault : Option String) : Api :=
  if fault = none ∧ api.lbs.lookup old.objectKey = some old then
    if new.deletionTimestamp ∧ new.finalizers = [] then
      { api with lbs := api.lbs.erase old.objectKey }
    else { api with lbs := api.lbs.insert old.objectKey new }
  else api

def updates (api : Api) (old : LoadBalancer) (fault : Option String) : Bool :=
  fault = none ∧ api.lbs.lookup old.objectKey = some old

def withFinalizer (lb : LoadBalancer) : LoadBalancer :=
  { lb with
    finalizers :=
      removeFinalizer (addFinalizer lb.finalizers cleanupFinalizer) envoyProxyCleanupFinalizer }

def withoutFinalizers (lb : LoadBalancer) : LoadBalancer :=
  { lb with
    finalizers := removeFinalizer (removeFinalizer (removeFinalizer lb.finalizers cleanupFinalizer)
      envoyProxyCleanupFinalizer) hostnameCleanupFinalizer }

/-- Reconcile from the check for deletion to the finalizer. -/
def prepareLoadBalancer (api : Api) (lb : LoadBalancer) (lbs : List LoadBalancer)
    (tenantAndConfig : Except String (LoadBalancerSettings × LoadBalancerSettings))
    (updateFault : Option String) : Api × LoadBalancerTask :=
  if lb.deletionTimestamp then
    if ∃ finalizer ∈ cleanupFinalizers, finalizer ∈ lb.finalizers then (api, .cleaning lb)
    else (api, .idle)
  else
    match tenantAndConfig with
    | .error _ => (api, .idle)
    | .ok (tenant, config) =>
        let allocating (lb : LoadBalancer) : LoadBalancerTask :=
          .allocating lb (tenant.className <|> config.className)
            (getAnnotations tenant.toAnnotationSettings config.toAnnotationSettings)
            (lbs.flatMap loadBalancerRequests)
        if config.disable || tenant.disable then
          if cleanupFinalizer ∈ lb.finalizers then (api, .cleaning lb) else (api, .idle)
        else if cleanupFinalizer ∈ lb.finalizers then (api, allocating lb)
        else if updates api lb updateFault then
          (updateLoadBalancer api lb (withFinalizer lb) updateFault, allocating (withFinalizer lb))
        else (api, .idle)

/-- updateLoadBalancerStatus of the controller, with the write of the status. -/
def writeStatus (o : ManagerOptions) (api : Api) (lb : LoadBalancer)
    (checkDNSResolution checkTLSHealth : String → Bool) (hostname : String)
    (fault : Option String) : Api :=
  match api.services.lookup (loadBalancerServiceKey o.topology o.ns lb), fault with
  | some service, none =>
      match updateLoadBalancerStatus checkDNSResolution checkTLSHealth lb service hostname,
        api.lbs.lookup lb.objectKey with
      | some status, some now =>
          if status = lb.status then api
          else { api with lbs := api.lbs.insert lb.objectKey { now with status := status } }
      | _, _ => api
  | _, _ => api

def allocateNext (p : Process) (request : String × List String) (draws : List Draw) :
    Option Process := do
  let (allocator, _, _) ← p.allocator.allocatePorts request.1 request.2 draws
  return { p with allocator := allocator }

/-- One step of a process. `none`: the action is not what its task does next, or
the call of the allocator has not returned. -/
def processStep (o : ManagerOptions) (api : Api) (p : Process) :
    ProcessAction → Option (Api × Process)
  | .lbGet key =>
      match p.lbTask with
      | .idle =>
          match api.lbs.lookup key with
          | none => some (api, p)
          | some lb =>
              if lb.spec.endpoints = [] then some (api, p)
              else some (api, { p with lbTask := .got lb })
      | _ => none
  | .lbList order =>
      match p.lbTask with
      | .got lb =>
          let lbs := listLoadBalancers o.topology lb.ns (order.filterMap api.lbs.lookup)
          some (api, { p with lbTask := .listed lb lbs })
      | _ => none
  | .lbDecide tenantAndConfig updateFault =>
      match p.lbTask with
      | .listed lb lbs =>
          let (api, task) := prepareLoadBalancer api lb lbs tenantAndConfig updateFault
          some (api, { p with lbTask := task })
      | _ => none
  | .lbAllocate draws =>
      match p.lbTask with
      | .allocating lb className annotations (request :: requests) => do
          let p ← allocateNext p request draws
          return (api, { p with lbTask := .allocating lb className annotations requests })
      | _ => none
  | .lbWrite faults admission =>
      match p.lbTask with
      | .allocating lb className annotations [] =>
          let key := loadBalancerServiceKey o.topology o.ns lb
          match reconcileService faults admission api.services lb key
            (envoyApplicationName o.topology lb.ns) p.allocator className annotations with
          | some (.ok store) =>
              some ({ api with services := store, origins := api.origins.insert key lb },
                { p with lbTask := .written lb })
          | _ => some (api, { p with lbTask := .idle })
      | _ => none
  | .lbStatus checkDNSResolution checkTLSHealth hostname fault =>
      match p.lbTask with
      | .written lb =>
          some (writeStatus o api lb checkDNSResolution checkTLSHealth hostname fault,
            { p with lbTask := .idle })
      | _ => none
  | .lbDeallocate =>
      match p.lbTask with
      | .cleaning lb =>
          some (api, { p with
            allocator := p.allocator.deallocatePortsForLoadBalancer lb
            lbTask := .deallocated lb })
      | _ => none
  | .lbDeleteService fault =>
      match p.lbTask, fault with
      | .deallocated _, some _ => some (api, { p with lbTask := .idle })
      | .deallocated lb, none =>
          let key := loadBalancerServiceKey o.topology o.ns lb
          some ({ api with services := api.services.erase key, origins := api.origins.erase key },
            { p with lbTask := .serviceDeleted lb })
      | _, _ => none
  | .lbRemoveFinalizers fault =>
      match p.lbTask with
      | .serviceDeleted lb =>
          some (updateLoadBalancer api lb (withoutFinalizers lb) fault, { p with lbTask := .idle })
      | _ => none
  | .lbFail => some (api, { p with lbTask := .idle })
  | .cpList requestNs lbs routes =>
      match p.cpTask with
      | .idle =>
          let name := envoySnapshotName o.topology requestNs
          let (lbs, routes) := listLoadBalancersAndRoutes o.topology requestNs
            (lbs.filterMap api.lbs.lookup) (routes.filterMap api.routes.lookup)
          if lbs = [] ∧ routes = [] then
            some (api, { p with published := p.published.erase name })
          else
            some (api, { p with
              cpTask := .allocating name lbs routes
                (lbs.flatMap loadBalancerRequests ++ routes.flatMap routeRequests) })
      | _ => none
  | .cpAllocate draws =>
      match p.cpTask with
      | .allocating name lbs routes (request :: requests) => do
          let p ← allocateNext p request draws
          return (api, { p with cpTask := .allocating name lbs routes requests })
      | _ => none
  | .cpBuild get =>
      match p.cpTask with
      | .allocating name lbs routes [] =>
          match mapSnapshot get lbs routes p.allocator with
          | .error _ => some (api, { p with cpTask := .idle })
          | .ok snapshot => some (api, { p with cpTask := .built name snapshot })
      | _ => none
  | .cpPublish =>
      match p.cpTask with
      | .built name snapshot =>
          let served := updateCache (p.published.lookup name) (.ok snapshot)
          some (api, { p with
            published := (served.map (p.published.insert name ·)).getD p.published
            cpTask := .idle })
      | _ => none
  | .cpFail => some (api, { p with cpTask := .idle })
  | .routeAllocate route request draws =>
      if request ∈ routeRequests route then do
        let p ← allocateNext p request draws
        return (api, p)
      else none
  | .routeDeallocate endpointKeys =>
      some (api, { p with allocator := p.allocator.deallocateEndpoints endpointKeys })

inductive UserAction
  /-- The CCM creates a LoadBalancer or updates its spec, labels and annotations. -/
  | applyLoadBalancer (lb : LoadBalancer)
  | deleteLoadBalancer (key : ObjectKey)
  | setRoutes (routes : FiniteMap ObjectKey Route)

def userStep (api : Api) : UserAction → Api
  | .applyLoadBalancer lb =>
      let applied :=
        match api.lbs.lookup lb.objectKey with
        | none => { lb with status := {}, deletionTimestamp := false }
        | some old =>
            { old with spec := lb.spec, labels := lb.labels, annotations := lb.annotations }
      { api with lbs := api.lbs.insert lb.objectKey applied }
  | .deleteLoadBalancer key =>
      match api.lbs.lookup key with
      | none => api
      | some lb =>
          if lb.finalizers = [] then { api with lbs := api.lbs.erase key }
          else { api with lbs := api.lbs.insert key { lb with deletionTimestamp := true } }
  | .setRoutes routes => { api with routes := routes }

structure ManagerState where
  api : Api
  process : Process

def ManagerState.initial : ManagerState := ⟨.empty, { allocator := newPortAllocator }⟩

inductive ManagerAction
  | user (action : UserAction)
  | process (action : ProcessAction)

def managerStep (o : ManagerOptions) (state : ManagerState) :
    ManagerAction → Option ManagerState
  | .user action => some { state with api := userStep state.api action }
  | .process action =>
      (processStep o state.api state.process action).map fun (api, process) => ⟨api, process⟩

end KubeLB
