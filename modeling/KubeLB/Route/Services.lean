import KubeLB.LoadBalancer.Service

/-!
The Services of a Route (internal/resources/service and the Route controller).

Map iteration is the list of keys in the order the loop meets them. Deleting
the key at hand is all a loop does to the map it ranges over, so each key is
met once. `none` for a generated Service is the panic of GenerateName; the
controller recovers it, and the reconcile ends like one that failed.
-/

namespace KubeLB
open FiniteMap

/-- A port of a generated Service: it leads to the port allocated for it, or to
the node port if there is none. -/
def generatedPort (pa : PortAllocator) (endpointKey : String) (port : ServicePort) :
    ServicePort :=
  { port with
    targetPort := .int
      (((pa.lookup endpointKey (servicePortKey port)).map toInt32).getD port.nodePort)
    nodePort := 0 }

def lbClusterService (service : Service) (name appName ns routeName : String)
    (pa : PortAllocator) (globalTopology : Bool) (annotations : AnnotationSettings) : Service :=
  let endpointKey := envoyEndpointRoutePattern ns service.ns service.name routeName
  { service with
    name := name
    ns := ns
    uid := ""
    type := if service.type = .nodePort then .clusterIP else service.type
    ports := service.ports.map (generatedPort pa endpointKey)
    selector := if globalTopology then ∅
      else (∅ : FiniteMap String String).insert labelAppKubernetesName appName
    annotations := propagateAnnotations service.annotations annotations .service }

def generateServiceForLBCluster (service : Service) (appName ns routeName : String)
    (pa : PortAllocator) (globalTopology : Bool) (annotations : AnnotationSettings) :
    Option Service :=
  (generateName globalTopology service.uid (getServiceName service) service.ns).map fun name =>
    lbClusterService service name appName ns routeName pa globalTopology annotations

def generateBridgeService (service : Service) (appName controllerNs : String) : Service where
  name := service.name
  ns := controllerNs
  ports := service.ports.map fun port =>
    { name := port.name
      protocol := port.protocol
      port := port.targetPort.intVal
      targetPort := port.targetPort }
  labels := (addKubeLBLabels ∅ service.name service.ns "").insert
    labelAppKubernetesType labelBridgeService
  selector := (∅ : FiniteMap String String).insert labelAppKubernetesName appName
  type := .clusterIP

/-- The settings of the Route controller that the modelled functions read. -/
structure RouteReconciler where
  ns : String
  topology : EnvoyProxyTopology := .shared
  disableGatewayAPI : Bool := false
  deriving DecidableEq

/-- The namespace under which updateServiceStatus records a Service. -/
def recordedNamespace (svc : Service) : String :=
  if svc.labels.lookup labelAppKubernetesType = some labelBridgeService then svc.ns
  else getServiceNamespace svc

def statusEntry (svc : Service) (failure : Option String) : String × RouteServiceStatus :=
  (routeServiceMapKey (recordedNamespace svc) (getServiceName svc),
    { name := getServiceName svc
      ns := recordedNamespace svc
      generatedName := svc.name
      failure := failure
      ports := svc.ports })

def updateServiceStatus (services : FiniteMap String RouteServiceStatus) (svc : Service)
    (failure : Option String) : FiniteMap String RouteServiceStatus :=
  services.insert (statusEntry svc failure).1 (statusEntry svc failure).2

def desiredServices (route : Route) : List String :=
  route.sourceServices.map fun svc => routeServiceMapKey svc.ns (getServiceName svc)

/-- What the Route controller changes: the status map at hand, the Services, the
allocator. `orphans` and `deletes` list the status entries it has judged
orphaned and the Delete calls it has made. -/
structure RouteEffects where
  services : FiniteMap String RouteServiceStatus
  store : ServiceStore
  allocator : PortAllocator
  orphans : List String := []
  deletes : List ObjectKey := []

def recordedService (r : RouteReconciler) (route : Route) (value : RouteServiceStatus) :
    ObjectKey :=
  if r.topology.isGlobalTopology ∧ value.ns = r.ns then ⟨r.ns, value.generatedName⟩
  else ⟨route.ns, value.generatedName⟩

/-- Whether cleanupOrphanedServices spares the entry: its source service is in
the spec, or it is a bridge whose tenant side is still recorded. -/
def sparedEntry (r : RouteReconciler) (route : Route)
    (services : FiniteMap String RouteServiceStatus) (key : String)
    (value : RouteServiceStatus) : Prop :=
  key ∈ desiredServices route ∨
    (r.topology.isGlobalTopology ∧ value.ns = r.ns ∧
      ∃ other ∈ services.values, other.generatedName = value.generatedName ∧ other.ns ≠ value.ns)

instance (r : RouteReconciler) (route : Route) (services : FiniteMap String RouteServiceStatus)
    (key : String) (value : RouteServiceStatus) :
    Decidable (sparedEntry r route services key value) :=
  inferInstanceAs (Decidable (_ ∨ _))

def orphanedEndpointKey (route : Route) (value : RouteServiceStatus) : String :=
  envoyEndpointRoutePattern route.ns value.ns value.generatedName (originalRouteName route)

def judgeOrphan (r : RouteReconciler) (route : Route) (effects : RouteEffects) (key : String)
    (value : RouteServiceStatus) : RouteEffects :=
  { effects with
    orphans := effects.orphans ++ [key]
    deletes := effects.deletes ++ [recordedService r route value] }

def removeOrphan (r : RouteReconciler) (route : Route) (effects : RouteEffects) (key : String)
    (value : RouteServiceStatus) : RouteEffects :=
  { judgeOrphan r route effects key value with
    store := effects.store.erase (recordedService r route value)
    services := effects.services.erase key
    allocator := effects.allocator.deallocateEndpoints [orphanedEndpointKey route value] }

def cleanupOrphanedServices (r : RouteReconciler) (faults : ApiFaults) (route : Route) :
    List String → RouteEffects → RouteEffects × Option String
  | [], effects => (effects, none)
  | key :: order, effects =>
      match effects.services.lookup key with
      | none => cleanupOrphanedServices r faults route order effects
      | some value =>
          if sparedEntry r route effects.services key value then
            cleanupOrphanedServices r faults route order effects
          else
            match faults.delete (recordedService r route value) with
            | some err =>
                (judgeOrphan r route effects key value,
                  some ("failed to delete orphaned service: " ++ err))
            | none =>
                cleanupOrphanedServices r faults route order
                  (removeOrphan r route effects key value)

/-- The Services to write for a Route: for each source service the bridge, if the
topology needs one, and the generated Service. -/
def generateServices (r : RouteReconciler) (route : Route) (pa : PortAllocator)
    (annotations : AnnotationSettings) : List Service → Option (List Service)
  | [] => some []
  | service :: rest => do
      let appName := envoyApplicationName r.topology route.ns
      let svc ← generateServiceForLBCluster service appName route.ns (originalRouteName route) pa
        r.topology.isGlobalTopology annotations
      let services ← generateServices r route pa annotations rest
      if r.topology.isGlobalTopology then
        return generateBridgeService svc appName r.ns :: svc :: services
      else return svc :: services

/-- The loop that writes the Services. A failed write is only recorded. -/
def applyServices (faults : ApiFaults) (api : Admission) :
    List Service → RouteEffects → RouteEffects
  | [], effects => effects
  | svc :: services, effects =>
      match createOrUpdateService faults api effects.store svc with
      | .error err =>
          applyServices faults api services
            { effects with services := updateServiceStatus effects.services svc (some err) }
      | .ok (store, stored) =>
          applyServices faults api services
            { effects with
              store := store
              services := updateServiceStatus effects.services stored none }

/-- The error of the call, or `none`; the status is written only without one.
The call as a whole is `none` while the allocator is still drawing. -/
def manageServices (r : RouteReconciler) (faults : ApiFaults) (statusFault : Option String)
    (api : Admission) (order : List String) (draws : List Draw) (annotations : AnnotationSettings)
    (route : Route) (effects : RouteEffects) : Option (RouteEffects × Option String) :=
  match route.spec.kubernetes with
  | none => some (effects, none)
  | some source =>
      match cleanupOrphanedServices r faults route order effects with
      | (cleaned, some err) =>
          some (cleaned, some ("failed to cleanup orphaned services: " ++ err))
      | (cleaned, none) => do
          let (allocator, _) ← cleaned.allocator.allocatePortsForRoutes [route] draws
          let allocated := { cleaned with allocator := allocator }
          match generateServices r route allocator annotations source.services with
          | none => some (allocated, some "panic: slice bounds out of range")
          | some services => some (applyServices faults api services allocated, statusFault)

def deleteRecorded (r : RouteReconciler) (faults : ApiFaults) (route : Route) :
    List String → RouteEffects → RouteEffects × Option String
  | [], effects => (effects, none)
  | key :: order, effects =>
      match route.services.lookup key with
      | none => deleteRecorded r faults route order effects
      | some value =>
          let target := recordedService r route value
          let called := { effects with deletes := effects.deletes ++ [target] }
          match faults.delete target with
          | some err => (called, some ("failed to delete service: " ++ err))
          | none =>
              deleteRecorded r faults route order
                { called with store := effects.store.erase target }

def cleanup (r : RouteReconciler) (faults : ApiFaults) (order : List String) (route : Route)
    (effects : RouteEffects) : RouteEffects × Option String :=
  match deleteRecorded r faults route order effects with
  | (deleted, some err) => (deleted, some err)
  | (deleted, none) =>
      ({ deleted with allocator := deleted.allocator.deallocatePortsForRoute route }, none)

end KubeLB
