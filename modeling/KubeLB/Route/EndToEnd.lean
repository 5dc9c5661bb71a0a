import KubeLB.Envoy.Resolution
import KubeLB.Manager.Ports
import KubeLB.PortLookup.AllocatorRuns
import KubeLB.Route.Bridge

/-!
From the source services of a Route to the nodes behind them.

The Service in the load balancer cluster and the listener look their port up
under one key. Without an entry the Service takes the node port and the
listener the port of the source service, so a port leads to its listener exactly
when the table has it or the two numbers are the same. Whether the table has it
depends on the last allocation for the endpoint key, which a service with the
same joined names may have made.
-/

namespace KubeLB
open FiniteMap Runs PortAllocator

structure AcceptedNumbers (port : ServicePort) : Prop where
  own : 0 < port.port ∧ port.port < 2 ^ 31
  node : 0 ≤ port.nodePort ∧ port.nodePort < 2 ^ 31

def routeNodes (read : ObjectKey → List EndpointAddress) (route : Route) : List String :=
  route.spec.endpoints.flatMap fun endpoint =>
    (filledEndpoint read route.ns endpoint).addresses.map EndpointAddress.ip

/-- Every TCP or UDP port has its listener in the snapshot, and a cluster there
that leads to its node port on every node. -/
def ForwardsToNodes (snapshot : Snapshot) (pa : PortAllocator) (route : Route)
    (nodes : List String) (svc : Service) : Prop :=
  ∀ port ∈ svc.ports, port.protocol = .tcp ∨ port.protocol = .udp →
    ∃ listener, routeListener pa route svc port = some listener ∧
      listener ∈ snapshot.listeners ∧
      ∃ cluster ∈ snapshot.clusters, cluster.name = listener.clusterName ∧
        cluster.endpoints = nodes.map fun address => (address, port.nodePort)

def SharedLeads (pa : PortAllocator) (route : Route) (appName : String)
    (annotations : AnnotationSettings) (svc : Service) : Prop :=
  ∃ made, generateServiceForLBCluster svc appName route.ns (originalRouteName route) pa false
      annotations = some made ∧
    List.Forall₂ (fun port q => ∀ listener, routeListener pa route svc port = some listener →
      q.targetPort = .int listener.port) svc.ports made.ports

/-- So does the bridge, with its own ports too, and the slice that is made from
the Service as the API server has stored it. -/
def GlobalLeads (pa : PortAllocator) (route : Route) (appName controllerNs : String)
    (annotations : AnnotationSettings) (svc : Service) : Prop :=
  ∃ made, generateServiceForLBCluster svc appName route.ns (originalRouteName route) pa true
      annotations = some made ∧
    List.Forall₂ (fun port q => q.name = port.name ∧
      ∀ listener, routeListener pa route svc port = some listener →
        q.port = listener.port ∧ q.targetPort = .int listener.port)
      svc.ports (generateBridgeService made appName controllerNs).ports ∧
    ∀ store stored clusterIPs slices, store.lookup made.objectKey = some stored →
      List.Forall₂ AdmittedPort made.ports stored.ports →
      ∃ slices' slice, reconcileBridge {} {} store clusterIPs slices
          (generateBridgeService made appName controllerNs) = .ok slices' ∧
        slices'.lookup made.objectKey = some slice ∧
        List.Forall₂ (fun port q => q.name = port.name ∧
          ∀ listener, routeListener pa route svc port = some listener → q.port = listener.port)
          svc.ports slice.ports

def LeadsEndToEnd (r : RouteReconciler) (annotations : AnnotationSettings) (pa : PortAllocator)
    (snapshot : Snapshot) (nodes : List String) (route : Route) (svc : Service) : Prop :=
  ForwardsToNodes snapshot pa route nodes svc ∧
    if r.topology.isGlobalTopology then
      GlobalLeads pa route (envoyApplicationName r.topology route.ns) r.ns annotations svc
    else SharedLeads pa route (envoyApplicationName r.topology route.ns) annotations svc

/-- The table has the port after an allocation for the Routes and further calls:
the last AllocatePorts call for the endpoint key asks for it, and it has not been
given up since. -/
def AskedLast (known : List Route) (calls : List Call) (e k : String) : Prop :=
  calls.foldl (Call.leaves e k) (decide (k ∈ lastAsked (known.flatMap routeRequests) e)) = true

instance (known : List Route) (calls : List Call) (e k : String) :
    Decidable (AskedLast known calls e k) :=
  inferInstanceAs (Decidable (_ = true))

theorem routeListener_isSome {pa : PortAllocator} {route : Route} {svc : Service}
    {port : ServicePort} :
    (∃ listener, routeListener pa route svc port = some listener) ↔
      port.protocol = .tcp ∨ port.protocol = .udp := by
  simp only [routeListener]
  cases port.protocol with
  | tcp =>
      refine iff_of_true ?_ (Or.inl rfl)
      cases isHTTPRoute (getRouteKind route)
      · exact ⟨_, rfl⟩
      · exact ⟨_, rfl⟩
  | udp => exact iff_of_true ⟨_, rfl⟩ (Or.inr rfl)
  | unset => simp
  | sctp => simp

theorem mem_routeClusters {route : Route} {svc : Service} {port : ServicePort}
    (member : svc ∈ route.sourceServices) (inPorts : port ∈ svc.ports) :
    makeCluster (routePortIdentifier route svc port)
        ((route.spec.endpoints.flatMap LoadBalancerEndpoints.addresses).map fun address =>
          makeEndpoint address.ip (toUInt32 port.nodePort)) port.protocol (getRouteKind route) ∈
      routeClusters route :=
  List.mem_flatMap.mpr ⟨svc, member, List.mem_map_of_mem inPorts⟩

section Ports
variable {pa : PortAllocator} {route : Route} {svc : Service} {port : ServicePort}
  {listener : Listener}

/-- The Service falls back to the node port, the listener to the port. -/
theorem targetPort_generatedPort_iff (valid : pa.Valid) (numbers : AcceptedNumbers port)
    (emitted : routeListener pa route svc port = some listener) :
    (generatedPort pa (routeEndpointKey route svc) port).targetPort = .int listener.port ↔
      port.nodePort = port.port ∨
        (pa.lookup (routeEndpointKey route svc) (servicePortKey port)).isSome := by
  obtain ⟨own, node⟩ := numbers
  rw [(routeListener_eq emitted).2.2, listenerPort]
  simp only [generatedPort, IntOrString.int.injEq]
  cases found : pa.lookup (routeEndpointKey route svc) (servicePortKey port) with
  | none =>
      have number : toUInt32 port.port = port.port := by
        rw [toUInt32]
        omega
      simp only [Option.map_none, Option.getD_none, number, Option.isSome_none, Bool.false_eq_true,
        or_false]
  | some value =>
      have bounds := valid _ _ _ found
      simp only [Option.map_some, Option.getD_some, toInt32_of_port bounds,
        toUInt32_of_port bounds, Option.isSome_some, or_true]

/-- A listener is never on port zero, so the API server keeps the target port. -/
theorem listener_port_ne_zero (valid : pa.Valid) (numbers : AcceptedNumbers port)
    (emitted : routeListener pa route svc port = some listener) : listener.port ≠ 0 := by
  obtain ⟨own, _⟩ := numbers
  rw [(routeListener_eq emitted).2.2, listenerPort]
  cases found : pa.lookup (routeEndpointKey route svc) (servicePortKey port) with
  | none =>
      simp only [Option.getD_none, toUInt32]
      omega
  | some value =>
      have bounds := valid _ _ _ found
      simp only [Option.getD_some, toUInt32_of_port bounds]
      omega

end Ports

section Services
variable {pa : PortAllocator} {route : Route} {svc : Service} {appName : String}
  {annotations : AnnotationSettings}

theorem ports_generateServiceForLBCluster {globalTopology : Bool} {made : Service}
    (generated : generateServiceForLBCluster svc appName route.ns (originalRouteName route) pa
      globalTopology annotations = some made) :
    made.ports = svc.ports.map (generatedPort pa (routeEndpointKey route svc)) := by
  obtain ⟨name, _, rfl⟩ := Option.map_eq_some_iff.mp generated
  rfl

theorem exists_generateServiceForLBCluster (long : nameSuffixLength ≤ svc.uid.length)
    (globalTopology : Bool) :
    ∃ made, generateServiceForLBCluster svc appName route.ns (originalRouteName route) pa
      globalTopology annotations = some made := by
  obtain ⟨name, named⟩ := Option.isSome_iff_exists.mp
    (generateName_isSome globalTopology (getServiceName svc) svc.ns long)
  exact ⟨_, Option.map_eq_some_iff.mpr ⟨name, named, rfl⟩⟩

def PortsLead (pa : PortAllocator) (route : Route) (svc : Service) : Prop :=
  ∀ port ∈ svc.ports, ∀ listener, routeListener pa route svc port = some listener →
    (generatedPort pa (routeEndpointKey route svc) port).targetPort = .int listener.port

theorem sharedLeads_iff (long : nameSuffixLength ≤ svc.uid.length) :
    SharedLeads pa route appName annotations svc ↔ PortsLead pa route svc := by
  constructor
  · rintro ⟨made, generated, leads⟩
    rw [ports_generateServiceForLBCluster generated] at leads
    exact List.forall₂_same.mp (List.forall₂_map_right_iff.mp leads)
  · intro leads
    obtain ⟨made, generated⟩ := exists_generateServiceForLBCluster long false
    refine ⟨made, generated, ?_⟩
    rw [ports_generateServiceForLBCluster generated]
    exact List.forall₂_map_right_iff.mpr (List.forall₂_same.mpr leads)

theorem globalLeads_iff {controllerNs : String} (valid : pa.Valid)
    (numbers : ∀ port ∈ svc.ports, AcceptedNumbers port)
    (long : nameSuffixLength ≤ svc.uid.length) :
    GlobalLeads pa route appName controllerNs annotations svc ↔ PortsLead pa route svc := by
  constructor
  · rintro ⟨made, generated, bridged, _⟩ port member listener emitted
    rw [generateBridgeService, List.forall₂_map_right_iff,
      ports_generateServiceForLBCluster generated, List.forall₂_map_right_iff,
      List.forall₂_same] at bridged
    exact ((bridged port member).2 listener emitted).2
  · intro leads
    obtain ⟨made, generated⟩ := exists_generateServiceForLBCluster long true
    have ports := ports_generateServiceForLBCluster generated
    refine ⟨made, generated, ?_, ?_⟩
    · rw [generateBridgeService, List.forall₂_map_right_iff, ports, List.forall₂_map_right_iff,
        List.forall₂_same]
      intro port member
      refine ⟨rfl, fun listener emitted => ⟨?_, leads port member listener emitted⟩⟩
      exact congrArg IntOrString.intVal (leads port member listener emitted)
    · intro store stored clusterIPs slices found admitted
      rw [← originalServiceKey_bridge made appName controllerNs] at found ⊢
      obtain ⟨slices', slice, written, present, slicePorts⟩ :=
        reconcileBridge_ports found clusterIPs slices
      refine ⟨slices', slice, written, present, ?_⟩
      rw [ports, List.forall₂_map_left_iff] at admitted
      rw [slicePorts, List.forall₂_map_right_iff]
      have both := (List.forall₂_and_left svc.ports stored.ports).mpr
        ⟨fun port (member : port ∈ svc.ports) => member, admitted⟩
      refine both.imp ?_
      rintro port q ⟨member, admitted⟩
      refine ⟨admitted.name, fun listener emitted => ?_⟩
      have target := leads port member listener emitted
      have given : (generatedPort pa (routeEndpointKey route svc) port).targetPort ≠ .int 0 := by
        rw [target, ne_eq, IntOrString.int.injEq]
        exact listener_port_ne_zero valid (numbers port member) emitted
      rw [admitted.targetPort given, target]
      rfl

end Services

section Runs
variable {init allocated pa : PortAllocator} {known : List Route} {draws rest : List Draw}
  {calls : List Call} {route : Route}

theorem isSome_lookup_iff_askedLast (covered : route ∈ known)
    (allocation : init.allocatePortsForRoutes known draws = some (allocated, rest))
    (reached : run call allocated calls = some pa) {svc : Service}
    (member : svc ∈ route.sourceServices) (k : String) :
    (pa.lookup (routeEndpointKey route svc) k).isSome ↔
      AskedLast known calls (routeEndpointKey route svc) k := by
  have asked : routeEndpointKey route svc ∈ (known.flatMap routeRequests).map Prod.fst := by
    refine List.mem_map.mpr ⟨(routeEndpointKey route svc, svc.ports.map servicePortKey), ?_, rfl⟩
    exact List.mem_flatMap.mpr ⟨route, covered, List.mem_map_of_mem member⟩
  have first := isSome_lookup_allocateAll asked allocation k
  rw [isSome_lookup_run reached, AskedLast, Bool.eq_iff_iff.mpr
    (first.trans (decide_eq_true_iff (p := k ∈ lastAsked (known.flatMap routeRequests) _)).symm)]

theorem forwardsToNodes_of_built {get : ObjectKey → Except String (List EndpointAddress)}
    {read : ObjectKey → List EndpointAddress} {lbs : List LoadBalancer} {routes : List Route}
    {snapshot : Snapshot} (listed : route ∈ routes)
    (built : mapSnapshot get lbs routes pa = .ok snapshot)
    (clusters : snapshot.clusters = filledClusters read lbs routes)
    {svc : Service} (member : svc ∈ route.sourceServices)
    (numbers : ∀ port ∈ svc.ports, AcceptedNumbers port) :
    ForwardsToNodes snapshot pa route (routeNodes read route) svc := by
  intro port inPorts protocol
  obtain ⟨listener, emitted⟩ := routeListener_isSome.mpr protocol
  obtain ⟨_, clusterName, _⟩ := routeListener_eq emitted
  refine ⟨listener, emitted, ?_, ?_⟩
  · rw [mapSnapshot_listeners built]
    refine List.mem_append_right _ (List.mem_flatMap.mpr ⟨route, listed, ?_⟩)
    exact List.mem_flatMap.mpr ⟨svc, member, List.mem_filterMap.mpr ⟨port, inPorts, emitted⟩⟩
  · have source : route.spec.kubernetes ≠ none := by
      intro absent
      rw [Route.sourceServices, absent] at member
      cases member
    have number : toUInt32 port.nodePort = port.nodePort := by
      have node := (numbers port inPorts).node
      rw [toUInt32]
      omega
    obtain ⟨sources, _, identifiers⟩ := filledRoute_eq read route
    have inRoute := mem_routeClusters (sources.symm ▸ member) inPorts
    rw [clusters, filledClusters]
    refine ⟨_, List.mem_append_right _ (List.mem_flatMap.mpr ⟨route, listed, inRoute⟩), ?_, ?_⟩
    · exact (identifiers svc port).trans clusterName.symm
    · simp only [makeCluster, makeEndpoint, number, routeNodes, filledRoute, if_neg source,
        List.flatMap_map, List.map_flatMap, List.map_map]
      rfl

/-- A Route leads to its nodes end to end exactly if the table has every port that
is not its own node port, that is, if the last allocation for the endpoint key
of its service was for this port. -/
theorem route_leads_endToEnd_iff (start : init.Valid) (covered : route ∈ known)
    (allocation : init.allocatePortsForRoutes known draws = some (allocated, rest))
    (reached : run call allocated calls = some pa)
    (numbers : ∀ svc ∈ route.sourceServices, ∀ port ∈ svc.ports, AcceptedNumbers port)
    (uids : ∀ svc ∈ route.sourceServices, nameSuffixLength ≤ svc.uid.length)
    {get : ObjectKey → Except String (List EndpointAddress)}
    {read : ObjectKey → List EndpointAddress} {lbs : List LoadBalancer} {routes : List Route}
    (listed : route ∈ routes) (readable : Readable get read lbs routes) (r : RouteReconciler)
    (annotations : AnnotationSettings) :
    ∃ snapshot, mapSnapshot get lbs routes pa = .ok snapshot ∧
      ((∀ svc ∈ route.sourceServices,
          LeadsEndToEnd r annotations pa snapshot (routeNodes read route) route svc) ↔
        ∀ svc ∈ route.sourceServices, ∀ port ∈ svc.ports,
          port.protocol = .tcp ∨ port.protocol = .udp → port.nodePort = port.port ∨
            AskedLast known calls (routeEndpointKey route svc) (servicePortKey port)) := by
  have valid := run_valid (allocateAll_valid start allocation) reached
  obtain ⟨snapshot, built, clusters⟩ := mapSnapshot_succeeds readable pa
  refine ⟨snapshot, built, forall₂_congr fun svc member => ?_⟩
  have forwards := forwardsToNodes_of_built listed built clusters member (numbers svc member)
  have topology : (if r.topology.isGlobalTopology then
      GlobalLeads pa route (envoyApplicationName r.topology route.ns) r.ns annotations svc
      else SharedLeads pa route (envoyApplicationName r.topology route.ns) annotations svc) ↔
        PortsLead pa route svc := by
    split
    · exact globalLeads_iff valid (numbers svc member) (uids svc member)
    · exact sharedLeads_iff (uids svc member)
  rw [LeadsEndToEnd, topology, and_iff_right forwards]
  refine forall₂_congr fun port inPorts => ?_
  rw [← isSome_lookup_iff_askedLast covered allocation reached member]
  constructor
  · intro leads protocol
    obtain ⟨listener, emitted⟩ := routeListener_isSome.mpr protocol
    exact (targetPort_generatedPort_iff valid (numbers svc member port inPorts) emitted).mp
      (leads listener emitted)
  · intro held listener emitted
    exact (targetPort_generatedPort_iff valid (numbers svc member port inPorts) emitted).mpr
      (held (routeListener_isSome.mp ⟨listener, emitted⟩))

end Runs

/-- A NodePort service with one port, and the Route of a resource for it. -/
def nodePortService (name : String) (port nodePort : Int) : Service where
  ns := "default"
  name := name
  uid := "u-0001"
  type := .nodePort
  ports := [{ port := port, nodePort := nodePort }]

def routeNamed (resource : String) (svc : Service) : Route where
  ns := "tenant-t"
  name := "u-" ++ resource
  spec :=
    { endpoints := [{ addresses := [{ ip := "10.0.0.1" }] }]
      kubernetes := some { route := { name := resource }, services := [svc] } }

theorem route_leads_endToEnd_one_service :
    let route := routeNamed "app" (nodePortService "web" 80 30080)
    ∃ pa rest snapshot,
      newPortAllocator.allocatePortsForRoutes [route] [0] = some (pa, rest) ∧
      mapSnapshot (fun _ => .error "not found") [] [route] pa = .ok snapshot ∧
      ∀ svc ∈ route.sourceServices,
        LeadsEndToEnd { ns := "kubelb", topology := .global } {} pa snapshot ["10.0.0.1"] route
          svc := by
  intro route
  have noReference (key : ObjectKey) : ¬ Referenced [] [route] key := by
    rintro (⟨listed, _⟩ | ⟨listed, _, member, refers⟩)
    · cases listed
    · cases List.mem_singleton.mp listed
      cases List.mem_singleton.mp member
      cases refers
  have readable : Readable (fun _ => .error "not found") (fun _ => []) [] [route] :=
    readable_of_no_reference noReference
  have numbers : ∀ svc ∈ route.sourceServices, ∀ port ∈ svc.ports, AcceptedNumbers port := by
    intro svc member port inPorts
    cases List.mem_singleton.mp member
    cases List.mem_singleton.mp inPorts
    exact ⟨by decide, by decide⟩
  obtain ⟨⟨pa, rest⟩, allocation⟩ : ∃ result,
      newPortAllocator.allocatePortsForRoutes [route] [0] = some result := ⟨_, rfl⟩
  have nothingSince : run call pa [] = some pa := rfl
  obtain ⟨snapshot, built, iff_⟩ := route_leads_endToEnd_iff valid_new List.mem_cons_self allocation
    nothingSince numbers (by decide) List.mem_cons_self readable
    { ns := "kubelb", topology := .global } {}
  refine ⟨pa, rest, snapshot, allocation, built, iff_.mpr ?_⟩
  intro svc member port inPorts _
  cases List.mem_singleton.mp member
  cases List.mem_singleton.mp inPorts
  exact Or.inr (by decide)

/-- The service web of the resource api-v1 and the service web-api of the resource
v1 have one endpoint key. The Route of the second leaves the first without a
port: its Service and its bridge lead to 30080 while the listener is on 80. -/
theorem joined_names_take_port :
    let web := nodePortService "web" 80 30080
    let route := routeNamed "api-v1" web
    let other := routeNamed "v1" (nodePortService "web-api" 8080 30090)
    (do let (pa, _) ← newPortAllocator.allocatePortsForRoutes [route, other] [0, 1]
        let shared ← generateServiceForLBCluster web "tenant-t" "tenant-t" "api-v1" pa false {}
        let made ← generateServiceForLBCluster web "global" "tenant-t" "api-v1" pa true {}
        let snapshot ← (mapSnapshot (fun _ => .error "not found") [] [route, other] pa).toOption
        let listener ← snapshot.listener
          "tenant-tenant-t-route-default-web-api-v1-svc-u-0001-port-80-TCP"
        return (shared.ports.map ServicePort.targetPort,
          (generateBridgeService made "global" "kubelb").ports.map ServicePort.port,
          listener.port)) = some ([.int 30080], [30080], 80) := by
  decide

end KubeLB
