import KubeLB.Envoy.Addresses

/-!
The clusters and listeners of LoadBalancers, one endpoint port at a time.

What the API promises for a port of an endpoint group is a cluster with every
address of the group at that port, and a listener that forwards to it over the
transport protocol of the port, which is TCP where none is given. The code has
no listener for a port without a protocol, and it narrows port numbers.
-/

namespace KubeLB
open Fallible

structure LoadBalancerEntry where
  lb : LoadBalancer
  index : Nat
  endpoint : LoadBalancerEndpoints
  port : EndpointPort

def loadBalancerEntries (lb : LoadBalancer) : List LoadBalancerEntry :=
  lb.spec.endpoints.zipIdx.flatMap fun (endpoint, i) =>
    endpoint.ports.map fun port => ⟨lb, i, endpoint, port⟩

def FitsUInt32 (n : Int) : Prop := 0 ≤ n ∧ n < 2 ^ 32

instance (n : Int) : Decidable (FitsUInt32 n) := inferInstanceAs (Decidable (_ ∧ _))

def proxyFor : Protocol → ListenerFilter
  | .udp => .udpProxy
  | _ => .tcpProxy

namespace LoadBalancerEntry
variable (pa : PortAllocator) (entry : LoadBalancerEntry)

def identifier : String := loadBalancerIdentifier entry.lb entry.index entry.port

def cluster : Cluster :=
  makeCluster entry.identifier
    (entry.endpoint.addresses.map fun address =>
      makeEndpoint address.ip (toUInt32 entry.port.port))
    entry.port.protocol ""

def listener : Option Listener := loadBalancerListener pa entry.lb entry.index entry.port

/-- The allocated port, or the endpoint port when none is allocated. -/
def number : Int :=
  (pa.lookup (envoyEndpointPattern entry.lb.ns entry.lb.name entry.index)
    (endpointPortKey entry.port)).getD entry.port.port

def promisedCluster : Cluster where
  name := entry.identifier
  endpoints := entry.endpoint.addresses.map fun address => (address.ip, entry.port.port)
  healthCheck := entry.port.protocol ≠ .udp
  httpOptions := none

def promisedListener : Listener where
  name := entry.identifier
  clusterName := entry.identifier
  port := entry.number pa
  filter := proxyFor entry.port.protocol

structure Kept : Prop where
  protocol : entry.port.protocol ≠ .unset
  number : FitsUInt32 (entry.number pa)
  port : entry.endpoint.addresses ≠ [] → FitsUInt32 entry.port.port

end LoadBalancerEntry

theorem toUInt32_eq_self_iff (n : Int) : toUInt32 n = n ↔ FitsUInt32 n := by
  rw [toUInt32, FitsUInt32]
  omega

section
variable {pa : PortAllocator} {entry : LoadBalancerEntry}

theorem name_of_listener {listener : Listener} (built : entry.listener pa = some listener) :
    listener.name = entry.identifier := by
  rw [LoadBalancerEntry.listener, loadBalancerListener] at built
  split at built
  · cases built
    rfl
  · cases built
    rfl
  · cases built

theorem cluster_eq_promised_iff :
    entry.cluster = entry.promisedCluster ↔
      (entry.endpoint.addresses ≠ [] → FitsUInt32 entry.port.port) := by
  rw [LoadBalancerEntry.cluster, LoadBalancerEntry.promisedCluster, makeCluster]
  simp only [Cluster.mk.injEq, true_and, makeEndpoint, List.map_inj_left, Prod.mk.injEq,
    ← toUInt32_eq_self_iff]
  constructor
  · rintro ⟨same, _⟩ some'
    obtain ⟨address, member⟩ := List.exists_mem_of_ne_nil _ some'
    exact same address member
  · intro fits
    exact ⟨fun address member => fits (List.ne_nil_of_mem member), rfl⟩

theorem listener_eq_promised_iff (accepted : entry.port.protocol ≠ .sctp) :
    entry.listener pa = some (entry.promisedListener pa) ↔
      entry.port.protocol ≠ .unset ∧ FitsUInt32 (entry.number pa) := by
  have number : listenerPort pa (envoyEndpointPattern entry.lb.ns entry.lb.name entry.index)
      (endpointPortKey entry.port) entry.port.port = toUInt32 (entry.number pa) := rfl
  rw [LoadBalancerEntry.listener, LoadBalancerEntry.promisedListener, loadBalancerListener,
    ← toUInt32_eq_self_iff]
  simp only [number]
  cases protocol : entry.port.protocol with
  | unset => simp
  | sctp => exact absurd protocol accepted
  | tcp => simp [makeTCPListener, proxyFor, LoadBalancerEntry.identifier]
  | udp => simp [makeUDPListener, proxyFor, LoadBalancerEntry.identifier]

end

section
variable (pa : PortAllocator) (lb : LoadBalancer) (lbs : List LoadBalancer)

theorem mem_loadBalancerEntries {lb : LoadBalancer} {entry : LoadBalancerEntry} :
    entry ∈ loadBalancerEntries lb ↔ entry.lb = lb ∧
      lb.spec.endpoints[entry.index]? = some entry.endpoint ∧
      entry.port ∈ entry.endpoint.ports := by
  obtain ⟨owner, index, endpoint, port⟩ := entry
  simp only [loadBalancerEntries, List.mem_flatMap, List.mem_map, Prod.exists,
    List.mem_zipIdx_iff_getElem?]
  constructor
  · rintro ⟨endpoint, i, found, port, member, ⟨⟩⟩
    exact ⟨rfl, found, member⟩
  · rintro ⟨rfl, found, member⟩
    exact ⟨endpoint, index, found, port, member, rfl⟩

theorem loadBalancerClusters_eq :
    loadBalancerClusters lb = (loadBalancerEntries lb).map LoadBalancerEntry.cluster := by
  simp only [loadBalancerClusters, loadBalancerEntries, List.map_flatMap, List.map_map]
  rfl

theorem loadBalancerListeners_eq :
    loadBalancerListeners pa lb =
      (loadBalancerEntries lb).filterMap (LoadBalancerEntry.listener pa) := by
  simp only [loadBalancerListeners, loadBalancerEntries, List.filterMap_flatMap,
    List.filterMap_map]
  rfl

theorem flatMap_loadBalancerListeners :
    lbs.flatMap (loadBalancerListeners pa) =
      (lbs.flatMap loadBalancerEntries).filterMap (LoadBalancerEntry.listener pa) := by
  simp only [List.filterMap_flatMap, ← loadBalancerListeners_eq]

/-- What is built for the LoadBalancers is what is promised, exactly when every entry is
one for which the promise is kept. -/
theorem built_eq_promised_iff
    (accepted : ∀ entry ∈ lbs.flatMap loadBalancerEntries, entry.port.protocol ≠ .sctp) :
    (lbs.flatMap loadBalancerClusters =
        (lbs.flatMap loadBalancerEntries).map LoadBalancerEntry.promisedCluster ∧
      lbs.flatMap (loadBalancerListeners pa) =
        (lbs.flatMap loadBalancerEntries).map (LoadBalancerEntry.promisedListener pa)) ↔
      ∀ entry ∈ lbs.flatMap loadBalancerEntries, entry.Kept pa := by
  have clusters : lbs.flatMap loadBalancerClusters =
      (lbs.flatMap loadBalancerEntries).map LoadBalancerEntry.cluster := by
    simp only [List.map_flatMap, ← loadBalancerClusters_eq]
  rw [clusters, flatMap_loadBalancerListeners, List.map_inj_left, filterMap_eq_map_iff]
  constructor
  · rintro ⟨ofClusters, ofListeners⟩ entry member
    obtain ⟨protocol, number⟩ :=
      (listener_eq_promised_iff (accepted entry member)).mp (ofListeners entry member)
    exact ⟨protocol, number, cluster_eq_promised_iff.mp (ofClusters entry member)⟩
  · intro kept
    refine ⟨fun entry member => cluster_eq_promised_iff.mpr (kept entry member).port,
      fun entry member => ?_⟩
    exact (listener_eq_promised_iff (accepted entry member)).mpr
      ⟨(kept entry member).protocol, (kept entry member).number⟩

end

theorem port_of_resolved {get : ObjectKey → Except String (List EndpointAddress)}
    {lbs lbs' : List LoadBalancer} {before after : AddressesMap}
    (resolved : lbs.mapM (resolveLoadBalancer get) before = .ok (lbs', after))
    {entry : LoadBalancerEntry} (member : entry ∈ lbs'.flatMap loadBalancerEntries) :
    ∃ lb ∈ lbs, ∃ endpoint ∈ lb.spec.endpoints, entry.port ∈ endpoint.ports := by
  obtain ⟨lb', listed, inLB⟩ := List.mem_flatMap.mp member
  obtain ⟨_, found, inPorts⟩ := mem_loadBalancerEntries.mp inLB
  have related : List.Forall₂ (fun lb resolved : LoadBalancer => List.Forall₂
      (fun endpoint resolved : LoadBalancerEndpoints => resolved.ports = endpoint.ports)
      lb.spec.endpoints resolved.spec.endpoints) lbs lbs' := by
    refine forall₂_of_mapM ?_ resolved
    exact fun _ _ _ _ => resolveLoadBalancer_ports
  obtain ⟨lb, inLBs, endpoints⟩ := exists_of_forall₂ related listed
  obtain ⟨endpoint, inLB, ports⟩ := exists_of_forall₂ endpoints (List.mem_of_getElem? found)
  exact ⟨lb, inLBs, endpoint, inLB, ports ▸ inPorts⟩

/-- For LoadBalancers with the protocols that the API accepts, MapSnapshot builds for each
port of each endpoint group the promised cluster and the promised listener, and beside them
only what it builds for Routes, exactly when every port has a protocol and no number
is narrowed. -/
theorem mapSnapshot_loadBalancers_iff {get : ObjectKey → Except String (List EndpointAddress)}
    {lbs lbs' : List LoadBalancer} {routes routes' : List Route} (pa : PortAllocator)
    (resolved : resolveObjects get lbs routes = .ok (lbs', routes'))
    (accepted : ∀ lb ∈ lbs, ∀ endpoint ∈ lb.spec.endpoints, ∀ port ∈ endpoint.ports,
      port.protocol ≠ .sctp) :
    ∃ snapshot, mapSnapshot get lbs routes pa = .ok snapshot ∧
      ((snapshot.clusters = (lbs'.flatMap loadBalancerEntries).map
            LoadBalancerEntry.promisedCluster ++ routes'.flatMap routeClusters ∧
          snapshot.listeners = (lbs'.flatMap loadBalancerEntries).map
            (LoadBalancerEntry.promisedListener pa) ++ routes'.flatMap (routeListeners pa)) ↔
        ∀ entry ∈ lbs'.flatMap loadBalancerEntries, entry.Kept pa) := by
  refine ⟨snapshotOf pa (lbs', routes'), by rw [mapSnapshot_eq, resolved]; rfl, ?_⟩
  simp only [snapshotOf, List.append_left_inj]
  refine built_eq_promised_iff pa lbs' fun entry member => ?_
  obtain ⟨⟨fromLBs, afterLBs⟩, resolvedLBs, returned⟩ := bind_eq_ok.mp resolved
  obtain ⟨⟨fromRoutes, afterRoutes⟩, resolvedRoutes, returned⟩ := bind_eq_ok.mp returned
  cases returned
  obtain ⟨lb, listed, endpoint, inLB, inPorts⟩ := port_of_resolved resolvedLBs member
  exact accepted lb listed endpoint inLB entry.port inPorts

private def webLoadBalancer (protocol : Protocol) : LoadBalancer :=
  { ns := "tenant-a", name := "web"
    spec := { endpoints := [{ addresses := [⟨"10.0.0.1", ""⟩, ⟨"10.0.0.2", ""⟩]
                              ports := [⟨"http", 31000, protocol⟩] }] } }

theorem mapSnapshot_loadBalancers_tcp :
    ∃ snapshot,
      mapSnapshot (fun _ => .error "not found") [webLoadBalancer .tcp] [] newPortAllocator =
        .ok snapshot ∧
      snapshot.clusters = (loadBalancerEntries (webLoadBalancer .tcp)).map
        LoadBalancerEntry.promisedCluster ∧
      snapshot.listeners = (loadBalancerEntries (webLoadBalancer .tcp)).map
        (LoadBalancerEntry.promisedListener newPortAllocator) := by
  obtain ⟨snapshot, built, promised⟩ := mapSnapshot_loadBalancers_iff newPortAllocator
    (show resolveObjects (fun _ => .error "not found") [webLoadBalancer .tcp] [] =
      .ok ([webLoadBalancer .tcp], []) from rfl) (by decide)
  refine ⟨snapshot, built, ?_⟩
  have kept : ∀ entry ∈ [webLoadBalancer .tcp].flatMap loadBalancerEntries,
      entry.Kept newPortAllocator := by
    intro entry member
    cases List.mem_singleton.mp member
    exact ⟨by decide, by decide, fun _ => by decide⟩
  simpa using promised.mpr kept

/-- A port without a protocol, documented as TCP, gets a cluster and no listener. -/
theorem mapSnapshot_unset_protocol_no_listener :
    mapSnapshot (fun _ => .error "not found") [webLoadBalancer .unset] [] newPortAllocator =
        .ok { clusters := [⟨"tenant-a-web-ep-0-port-31000-",
                [("10.0.0.1", 31000), ("10.0.0.2", 31000)], true, none⟩]
              listeners := [] } ∧
      (loadBalancerEntries (webLoadBalancer .unset)).map
          (LoadBalancerEntry.promisedListener newPortAllocator) =
        [⟨"tenant-a-web-ep-0-port-31000-", "tenant-a-web-ep-0-port-31000-", 31000, .tcpProxy⟩] := by
  decide

end KubeLB
