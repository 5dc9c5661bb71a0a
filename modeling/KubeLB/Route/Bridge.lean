import KubeLB.Route.Services

/-!
The EndpointSlice behind a Service of the global topology
(internal/controllers/kubelb/bridgeservice_controller.go).

The Service in the tenant namespace has no selector. Its slice has the cluster
IPs of the bridge, which are given apart, and the target ports of the Service.
The owner reference of the slice and its address type are left out.
-/

namespace KubeLB
open FiniteMap

/-- discoveryv1.EndpointPort. -/
structure SlicePort where
  name : String
  port : Int
  protocol : Protocol
  deriving DecidableEq

structure EndpointSlice where
  name : String
  ns : String
  labels : FiniteMap String String
  addresses : List String
  ports : List SlicePort
  deriving DecidableEq

def EndpointSlice.objectKey (slice : EndpointSlice) : ObjectKey := ⟨slice.ns, slice.name⟩

abbrev SliceStore := FiniteMap ObjectKey EndpointSlice

def labelServiceName : String := "kubernetes.io/service-name"

def originalServiceKey (object : Service) : ObjectKey where
  ns := (object.labels.lookup labelOriginNamespace).getD ""
  name := (object.labels.lookup labelOriginName).getD ""

def bridgeEndpointSlice (object originalService : Service) (clusterIPs : List String) :
    EndpointSlice :=
  let key := originalServiceKey object
  { name := key.name
    ns := key.ns
    labels := (addKubeLBLabels ∅ key.name key.ns "Service").insert labelServiceName key.name
    addresses := clusterIPs
    ports := originalService.ports.map fun port =>
      { name := port.name, port := port.targetPort.intVal, protocol := port.protocol } }

def createOrUpdateEndpointSlice (faults : ApiFaults) (slices : SliceStore) (obj : EndpointSlice) :
    Except String SliceStore :=
  match faults.get obj.objectKey with
  | some err => .error ("failed to get EndpointSlice: " ++ err)
  | none =>
      match slices.lookup obj.objectKey with
      | none =>
          match faults.create obj.objectKey with
          | some err => .error ("failed to create EndpointSlice: " ++ err)
          | none => .ok (slices.insert obj.objectKey obj)
      | some existing =>
          if existing.ports = obj.ports ∧ existing.addresses = obj.addresses ∧
              existing.labels = obj.labels then .ok slices
          else
            match faults.update obj.objectKey with
            | some err => .error ("failed to update EndpointSlice: " ++ err)
            | none => .ok (slices.insert obj.objectKey obj)

/-- BridgeServiceReconciler.reconcile: the Services are read, the slices written. -/
def reconcileBridge (faults sliceFaults : ApiFaults) (store : ServiceStore)
    (clusterIPs : List String) (slices : SliceStore) (object : Service) :
    Except String SliceStore :=
  let key := originalServiceKey object
  match faults.get key with
  | some err => .error ("failed to get original service: " ++ err)
  | none =>
      match store.lookup key with
      | none => .error "failed to get original service: not found"
      | some originalService =>
          createOrUpdateEndpointSlice sliceFaults slices
            (bridgeEndpointSlice object originalService clusterIPs)

theorem originalServiceKey_bridge (service : Service) (appName controllerNs : String) :
    originalServiceKey (generateBridgeService service appName controllerNs) =
      service.objectKey := by
  simp [originalServiceKey, generateBridgeService, addKubeLBLabels, labelOriginNamespace,
    labelOriginName, labelManagedBy, labelAppKubernetesType, ObjectMeta.objectKey,
    Finmap.lookup_insert_of_ne]

/-- Without errors of the API there is afterwards a slice with the ports of the
stored Service, whether it was there before or not. -/
theorem reconcileBridge_ports {store : ServiceStore} {object originalService : Service}
    (found : store.lookup (originalServiceKey object) = some originalService)
    (clusterIPs : List String) (slices : SliceStore) :
    ∃ slices' slice, reconcileBridge {} {} store clusterIPs slices object = .ok slices' ∧
      slices'.lookup (originalServiceKey object) = some slice ∧
      slice.ports = originalService.ports.map fun port =>
        { name := port.name, port := port.targetPort.intVal, protocol := port.protocol } := by
  simp only [reconcileBridge, found]
  set desired := bridgeEndpointSlice object originalService clusterIPs with isDesired
  have key : desired.objectKey = originalServiceKey object := rfl
  rw [createOrUpdateEndpointSlice, key]
  cases present : slices.lookup (originalServiceKey object) with
  | none => exact ⟨_, desired, rfl, Finmap.lookup_insert _, rfl⟩
  | some existing =>
      by_cases same : existing.ports = desired.ports ∧ existing.addresses = desired.addresses ∧
          existing.labels = desired.labels
      · exact ⟨slices, existing, if_pos same, present, same.1⟩
      · exact ⟨_, desired, if_neg same, Finmap.lookup_insert _, rfl⟩

end KubeLB
