import KubeLB.Envoy.Resolution
import KubeLB.LoadBalancer.Mapping
import KubeLB.Manager.Ports
import KubeLB.PortLookup.AllocatorRuns

/-!
From the ports of a user Service to the nodes behind them.

MapLoadBalancer writes every port twice, as a port of the LoadBalancer and, with
its node port, as an endpoint port, both under one name. CreateServicePorts
comes from the one to the other by that name and looks the port up that
MapSnapshot gives the listener of the endpoint port. The two look under the same
key, and when the table has nothing there both take the node port.
-/

namespace KubeLB
open FiniteMap Runs PortAllocator

/-- What the Kubernetes API sees to in a Service, as far as it matters here.
Ports may share a node port, and a single port may have any name. -/
structure AcceptedService (svc : Service) : Prop where
  names : (svc.ports.map ServicePort.name).Nodup
  lowerCase : 1 < svc.ports.length →
    ∀ port ∈ svc.ports, port.name ≠ "" ∧ toLower port.name = port.name
  protocols : ∀ port ∈ svc.ports, port.protocol = .tcp ∨ port.protocol = .udp
  nodePorts : ∀ port ∈ svc.ports, 0 ≤ port.nodePort ∧ port.nodePort < 2 ^ 31

def mappedPort (port : ServicePort) : LoadBalancerPort where
  name := mappedPortName port
  port := port.port
  protocol := port.protocol

def mappedEndpointPort (port : ServicePort) : EndpointPort where
  name := mappedPortName port
  port := port.nodePort
  protocol := port.protocol

/-- No other object of the snapshot has a resource under a name of the first
endpoint group of the LoadBalancer. -/
structure Apart (lb : LoadBalancer) (lbs : List LoadBalancer) (routes : List Route) : Prop where
  loadBalancers : ∀ other ∈ lbs, other ≠ lb → ∀ i, loadBalancerKey other i ≠ loadBalancerKey lb 0
  routes : ∀ route ∈ routes, ∀ svc ∈ route.sourceServices, ∀ port ∈ svc.ports, ∀ port',
    routePortIdentifier route svc port ≠ loadBalancerIdentifier lb 0 port'

theorem AcceptedService.mapped_names {svc : Service} (accepted : AcceptedService svc) :
    (svc.ports.map mappedPortName).Nodup := by
  by_cases several : 1 < svc.ports.length
  · have unchanged : svc.ports.map mappedPortName = svc.ports.map ServicePort.name := by
      refine List.map_congr_left fun port member => ?_
      obtain ⟨named, lower⟩ := accepted.lowerCase several port member
      rw [mappedPortName, if_pos named, lower]
    rw [unchanged]
    exact accepted.names
  · match ports : svc.ports with
    | [] => exact List.nodup_nil
    | [port] => exact List.nodup_singleton _
    | _ :: _ :: _ => simp [ports] at several

/-- The search by name ends at the endpoint port made from the same port. -/
theorem AcceptedService.targetEndpointPort_eq {svc : Service} (accepted : AcceptedService svc)
    {port : ServicePort} (member : port ∈ svc.ports) :
    targetEndpointPort (svc.ports.map mappedEndpointPort) (mappedPort port)
      (mappedEndpointPort port) = mappedEndpointPort port := by
  rw [targetEndpointPort]
  cases found : (svc.ports.map mappedEndpointPort).find? fun candidate =>
      decide (candidate.name = (mappedPort port).name) with
  | none => rfl
  | some candidate =>
      have named := List.find?_some found
      obtain ⟨port', member', rfl⟩ := List.mem_map.mp (List.mem_of_find?_eq_some found)
      simp only [decide_eq_true_eq] at named
      rw [List.inj_on_of_nodup_map accepted.mapped_names member' member named]
      rfl

section Service
variable {svc : Service} {addresses : List String} {useAddressesReference : Bool}
  {clusterName : String} {existing : List ServicePort} {pa : PortAllocator}

theorem createServicePorts_mapped (accepted : AcceptedService svc) :
    createServicePorts (mapLoadBalancer svc addresses useAddressesReference clusterName)
        existing pa = some ((svc.ports.map fun port =>
      desiredPort (mapLoadBalancer svc addresses useAddressesReference clusterName) existing pa
        (mappedPort port) port.nodePort).insertionSort fun p q => p.name ≤ q.name) := by
  set lb := mapLoadBalancer svc addresses useAddressesReference clusterName with isLB
  have ports : lb.spec.ports = svc.ports.map mappedPort := rfl
  obtain ⟨endpoint, endpoints, endpointPorts⟩ : ∃ endpoint, lb.spec.endpoints = [endpoint] ∧
      endpoint.ports = svc.ports.map mappedEndpointPort := ⟨_, rfl, rfl⟩
  have enough : lb.spec.ports.length ≤ endpoint.ports.length := by
    rw [ports, endpointPorts, List.length_map, List.length_map]
  rw [createServicePorts_cons endpoints enough, ports, endpointPorts, List.zip_map', List.map_map]
  congr 2
  refine List.map_congr_left fun port member => ?_
  simp only [Function.comp_apply]
  rw [accepted.targetEndpointPort_eq member]
  rfl

theorem createServicePorts_sorted (accepted : AcceptedService svc) {lb : LoadBalancer} :
    ((svc.ports.map fun port => desiredPort lb existing pa (mappedPort port) port.nodePort)
      |>.insertionSort fun p q => p.name ≤ q.name).Pairwise fun p q => p.name < q.name := by
  set written := svc.ports.map fun port =>
    desiredPort lb existing pa (mappedPort port) port.nodePort
  have names : (written.map ServicePort.name).Nodup := by
    rw [List.map_map]
    exact accepted.mapped_names
  have distinct := ((List.perm_insertionSort (fun p q : ServicePort => p.name ≤ q.name)
    written).map ServicePort.name).nodup_iff.mpr names
  have sorted := List.pairwise_insertionSort (fun p q : ServicePort => p.name ≤ q.name) written
  exact (sorted.and (List.pairwise_map.mp distinct)).imp fun order => lt_of_le_of_ne order.1 order.2

theorem targetPort_eq_listenerPort (valid : pa.Valid) (lb : LoadBalancer) {port : ServicePort}
    (range : 0 ≤ port.nodePort ∧ port.nodePort < 2 ^ 31) :
    (desiredPort lb existing pa (mappedPort port) port.nodePort).targetPort =
      .int (listenerPort pa (loadBalancerKey lb 0) (endpointPortKey (mappedEndpointPort port))
        port.nodePort) := by
  simp only [desiredPort, listenerPort, loadBalancerKey, endpointPortKey, mappedPort,
    mappedEndpointPort, IntOrString.int.injEq]
  cases found : pa.lookup (envoyEndpointPattern lb.ns lb.name 0)
      (envoyListenerPattern port.nodePort port.protocol) with
  | none =>
      simp only [Option.map_none, Option.getD_none, toUInt32]
      omega
  | some number =>
      have bounds := valid _ _ _ found
      simp only [Option.map_some, Option.getD_some, toInt32_of_port bounds,
        toUInt32_of_port bounds]

end Service

section Snapshot
variable {get : ObjectKey → Except String (List EndpointAddress)}
  {read : ObjectKey → List EndpointAddress} {lbs : List LoadBalancer} {routes : List Route}
  {pa : PortAllocator} {snapshot : Snapshot} {lb : LoadBalancer} {endpoint : LoadBalancerEndpoints}

/-- A resource name of the LoadBalancer leads to it and to one number and protocol. -/
theorem Apart.eq_of_identifier (apart : Apart lb lbs routes) {other : LoadBalancer}
    (listed : other ∈ lbs) {i : Nat} {port port' : EndpointPort}
    (same : loadBalancerIdentifier other i port' = loadBalancerIdentifier lb 0 port) :
    other = lb ∧ port'.port = port.port ∧ port'.protocol = port.protocol := by
  obtain ⟨keys, ports⟩ := loadBalancerIdentifier_inj same
  refine ⟨?_, envoyListenerPattern_inj ports⟩
  by_contra different
  exact apart.loadBalancers other listed different i keys

theorem Apart.listener_eq (apart : Apart lb lbs routes) (single : lb.spec.endpoints = [endpoint])
    (listed : lb ∈ lbs) (built : mapSnapshot get lbs routes pa = .ok snapshot)
    {port : EndpointPort} (member : port ∈ endpoint.ports) {listener : Listener}
    (emitted : loadBalancerListener pa lb 0 port = some listener) :
    snapshot.listener (loadBalancerIdentifier lb 0 port) = some listener := by
  have named := (loadBalancerListener_eq emitted).1
  rw [Snapshot.listener, mapSnapshot_listeners built, ← named]
  refine lastWith_of_unique ?_ fun other inSnapshot same => ?_
  · refine List.mem_append_left _ (List.mem_flatMap.mpr ⟨lb, listed, ?_⟩)
    refine List.mem_flatMap.mpr ⟨(endpoint, 0), by simp [single], ?_⟩
    exact List.mem_filterMap.mpr ⟨port, member, emitted⟩
  rw [named] at same
  obtain fromLB | fromRoute := List.mem_append.mp inSnapshot
  · obtain ⟨lb', inLBs, inLB⟩ := List.mem_flatMap.mp fromLB
    obtain ⟨pair, inEndpoints, inEndpoint⟩ := List.mem_flatMap.mp inLB
    obtain ⟨port', inPorts, emitted'⟩ := List.mem_filterMap.mp inEndpoint
    rw [(loadBalancerListener_eq emitted').1] at same
    obtain ⟨rfl, number, protocol⟩ := apart.eq_of_identifier inLBs same
    have index : pair.2 = 0 := by
      rw [single] at inEndpoints
      rw [List.mem_singleton.mp inEndpoints]
    have equal : loadBalancerListener pa lb' pair.2 port' = loadBalancerListener pa lb' 0 port := by
      simp only [loadBalancerListener, loadBalancerIdentifier, endpointPortKey, index, number,
        protocol]
    exact Option.some.inj (emitted'.symm.trans (equal.trans emitted))
  · obtain ⟨route, inRoutes, inRoute⟩ := List.mem_flatMap.mp fromRoute
    obtain ⟨svc, inSources, inSource⟩ := List.mem_flatMap.mp inRoute
    obtain ⟨port', inPorts, emitted'⟩ := List.mem_filterMap.mp inSource
    rw [(routeListener_eq emitted').1] at same
    exact absurd same (apart.routes route inRoutes svc inSources port' inPorts port)

theorem Apart.cluster_eq (apart : Apart lb lbs routes) (single : lb.spec.endpoints = [endpoint])
    (listed : lb ∈ lbs)
    (clusters : snapshot.clusters = filledClusters read lbs routes)
    {port : EndpointPort} (member : port ∈ endpoint.ports) :
    snapshot.cluster (loadBalancerIdentifier lb 0 port) = some
      (makeCluster (loadBalancerIdentifier lb 0 port)
        ((filledEndpoint read lb.ns endpoint).addresses.map fun address =>
          makeEndpoint address.ip (toUInt32 port.port)) port.protocol "") := by
  set cluster := makeCluster (loadBalancerIdentifier lb 0 port)
    ((filledEndpoint read lb.ns endpoint).addresses.map fun address =>
      makeEndpoint address.ip (toUInt32 port.port)) port.protocol "" with isCluster
  have filled : (filledLoadBalancer read lb).spec.endpoints =
      [filledEndpoint read lb.ns endpoint] := by
    rw [filledLoadBalancer, single]
    rfl
  have named : cluster.name = loadBalancerIdentifier lb 0 port := rfl
  rw [Snapshot.cluster, clusters, filledClusters, ← named]
  refine lastWith_of_unique ?_ fun other inSnapshot same => ?_
  · refine List.mem_append_left _ (List.mem_flatMap.mpr ⟨lb, listed, ?_⟩)
    refine List.mem_flatMap.mpr ⟨(filledEndpoint read lb.ns endpoint, 0), by simp [filled], ?_⟩
    exact List.mem_map.mpr ⟨port, by rwa [filledEndpoint_ports], rfl⟩
  obtain fromLB | fromRoute := List.mem_append.mp inSnapshot
  · obtain ⟨lb', inLBs, inLB⟩ := List.mem_flatMap.mp fromLB
    obtain ⟨pair, inEndpoints, inEndpoint⟩ := List.mem_flatMap.mp inLB
    obtain ⟨port', inPorts, rfl⟩ := List.mem_map.mp inEndpoint
    obtain ⟨rfl, number, protocol⟩ := apart.eq_of_identifier inLBs same
    rw [filled] at inEndpoints
    obtain rfl := List.mem_singleton.mp inEndpoints
    simp only [isCluster, loadBalancerIdentifier, number, protocol]
    rfl
  · obtain ⟨route, inRoutes, inRoute⟩ := List.mem_flatMap.mp fromRoute
    obtain ⟨svc, inSources, inSource⟩ := List.mem_flatMap.mp inRoute
    obtain ⟨port', inPorts, rfl⟩ := List.mem_map.mp inSource
    obtain ⟨sources, _, identifiers⟩ := filledRoute_eq read route
    rw [sources] at inSources
    have same : routePortIdentifier (filledRoute read route) svc port' =
        loadBalancerIdentifier lb 0 port := same
    rw [identifiers] at same
    exact absurd same (apart.routes route inRoutes svc inSources port' inPorts port)

end Snapshot

/-- The nodes: the given addresses, or those of the object the LoadBalancer refers to. -/
def nodeAddresses (read : ObjectKey → List EndpointAddress) (addresses : List String)
    (useAddressesReference : Bool) (clusterName : String) : List String :=
  if useAddressesReference then (read ⟨clusterName, defaultAddressName⟩).map EndpointAddress.ip
  else addresses

/-- The port written for a user port: traffic to it reaches the listener of the
endpoint port with the user port's node port, and from there the nodes. -/
structure LeadsToNodes (snapshot : Snapshot) (lb : LoadBalancer) (nodes : List String)
    (port written : ServicePort) : Prop where
  samePort : written.port = port.port
  sameProtocol : written.protocol = port.protocol
  forwards : ∃ listener,
    snapshot.listener (loadBalancerIdentifier lb 0 (mappedEndpointPort port)) = some listener ∧
    written.targetPort = .int listener.port ∧
    ∃ cluster, snapshot.cluster listener.clusterName = some cluster ∧
      cluster.endpoints = nodes.map fun address => (address, port.nodePort)

section
variable {svc : Service} {addresses : List String} {useAddressesReference : Bool}
  {clusterName : String} {get : ObjectKey → Except String (List EndpointAddress)}
  {read : ObjectKey → List EndpointAddress} {lbs : List LoadBalancer} {routes : List Route}

theorem leadsToNodes_desiredPort {lb : LoadBalancer}
    (isLB : lb = mapLoadBalancer svc addresses useAddressesReference clusterName)
    (accepted : AcceptedService svc) {pa : PortAllocator} (valid : pa.Valid)
    (existing : List ServicePort) {snapshot : Snapshot} (listed : lb ∈ lbs)
    (apart : Apart lb lbs routes) (built : mapSnapshot get lbs routes pa = .ok snapshot)
    (clusters : snapshot.clusters = filledClusters read lbs routes)
    {port : ServicePort} (member : port ∈ svc.ports) :
    LeadsToNodes snapshot lb (nodeAddresses read addresses useAddressesReference clusterName) port
      (desiredPort lb existing pa (mappedPort port) port.nodePort) := by
  obtain ⟨endpoint, single, isEndpoint⟩ : ∃ endpoint, lb.spec.endpoints = [endpoint] ∧
      endpoint =
        { ports := svc.ports.map mappedEndpointPort
          addressesReference := if useAddressesReference then some defaultAddressName else none
          addresses := if useAddressesReference then []
            else addresses.map fun address => { ip := address } } := by
    rw [isLB]
    exact ⟨_, rfl, rfl⟩
  have inPorts : mappedEndpointPort port ∈ endpoint.ports := by
    rw [isEndpoint]
    exact List.mem_map_of_mem member
  have range := accepted.nodePorts port member
  obtain ⟨listener, emitted⟩ : ∃ listener,
      loadBalancerListener pa lb 0 (mappedEndpointPort port) = some listener := by
    rw [loadBalancerListener]
    obtain tcp | udp := accepted.protocols port member
    · simp [mappedEndpointPort, tcp]
    · simp [mappedEndpointPort, udp]
  obtain ⟨_, clusterIs, portIs⟩ := loadBalancerListener_eq emitted
  have served := apart.cluster_eq single listed clusters inPorts
  rw [← clusterIs] at served
  refine ⟨rfl, rfl, listener, apart.listener_eq single listed built inPorts emitted, ?_, _, served,
    ?_⟩
  · rw [targetPort_eq_listenerPort valid lb range, portIs]
    rfl
  · have number : toUInt32 port.nodePort = port.nodePort := by
      rw [toUInt32]
      omega
    have ns : lb.ns = clusterName := by
      rw [isLB]
      rfl
    simp only [makeCluster, makeEndpoint, mappedEndpointPort, number, isEndpoint, ns]
    cases useAddressesReference with
    | true => simp [filledEndpoint, nodeAddresses]
    | false => simp [filledEndpoint, nodeAddresses]

/-- Layer 4 end to end, in every state of the table after an allocation, which may
but need not be for this LoadBalancer, and in a snapshot with any other objects
that are apart from it. -/
theorem service_ports_lead_to_nodes (accepted : AcceptedService svc)
    {init allocated pa : PortAllocator} {known : List LoadBalancer} {draws rest : List Draw}
    {calls : List Call} (start : init.Valid)
    (allocation : init.allocatePortsForLoadBalancers known draws = some (allocated, rest))
    (reached : run call allocated calls = some pa) (existing : List ServicePort)
    (listed : mapLoadBalancer svc addresses useAddressesReference clusterName ∈ lbs)
    (apart : Apart (mapLoadBalancer svc addresses useAddressesReference clusterName) lbs routes)
    (readable : Readable get read lbs routes) :
    ∃ ports snapshot,
      createServicePorts (mapLoadBalancer svc addresses useAddressesReference clusterName)
        existing pa = some ports ∧
      mapSnapshot get lbs routes pa = .ok snapshot ∧
      ports.Pairwise (fun p q => p.name < q.name) ∧
      ∃ written, ports.Perm written ∧
        List.Forall₂ (LeadsToNodes snapshot
          (mapLoadBalancer svc addresses useAddressesReference clusterName)
          (nodeAddresses read addresses useAddressesReference clusterName)) svc.ports written := by
  have valid := run_valid (allocateAll_valid start allocation) reached
  obtain ⟨snapshot, built, clusters⟩ := mapSnapshot_succeeds readable pa
  refine ⟨_, snapshot, createServicePorts_mapped accepted, built,
    createServicePorts_sorted accepted, _, List.perm_insertionSort _ _, ?_⟩
  refine List.forall₂_map_right_iff.mpr (List.forall₂_same.mpr fun port member => ?_)
  exact leadsToNodes_desiredPort rfl accepted valid existing listed apart built clusters member

end

/-- Two ports that the Service lists in reverse order of their names. -/
theorem service_ports_lead_to_nodes_two_ports :
    let svc : Service :=
      { ns := "default", name := "web", uid := "u-0001", type := .loadBalancer
        ports := [{ name := "web", port := 80, nodePort := 30080 },
          { name := "dns", protocol := .udp, port := 53, nodePort := 30053 }] }
    let lb := mapLoadBalancer svc ["10.0.0.1", "10.0.0.2"] false "tenant-t"
    ∃ pa rest ports snapshot,
      newPortAllocator.allocatePortsForLoadBalancers [lb] [0, 1] = some (pa, rest) ∧
      createServicePorts lb [] pa = some ports ∧
      mapSnapshot (fun _ => .error "not found") [lb] [] pa = .ok snapshot ∧
      ports.Pairwise (fun p q => p.name < q.name) ∧
      ∃ written, ports.Perm written ∧
        List.Forall₂ (LeadsToNodes snapshot lb ["10.0.0.1", "10.0.0.2"]) svc.ports written := by
  intro svc lb
  have accepted : AcceptedService svc := by
    refine ⟨by decide, fun _ => by decide, by decide, by decide⟩
  have alone : Apart lb [lb] [] := by
    refine ⟨fun other listed different => ?_, fun route listed => ?_⟩
    · exact absurd (List.mem_singleton.mp listed) different
    · cases listed
  have noReference (key : ObjectKey) : ¬ Referenced [lb] [] key := by
    rintro (⟨listed, member, refers⟩ | ⟨listed, _⟩)
    · cases List.mem_singleton.mp listed
      cases List.mem_singleton.mp member
      cases refers
    · cases listed
  have readable : Readable (fun _ => .error "not found") (fun _ => []) [lb] [] :=
    readable_of_no_reference noReference
  obtain ⟨⟨pa, rest⟩, allocation⟩ : ∃ result,
      newPortAllocator.allocatePortsForLoadBalancers [lb] [0, 1] = some result := ⟨_, rfl⟩
  have nothingSince : run call pa [] = some pa := rfl
  obtain ⟨ports, snapshot, result⟩ := service_ports_lead_to_nodes accepted valid_new allocation
    nothingSince [] List.mem_cons_self alone readable
  exact ⟨pa, rest, ports, snapshot, allocation, result⟩

end KubeLB
