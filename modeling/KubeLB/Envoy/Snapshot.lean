import KubeLB.Foundation.Fallible
import KubeLB.PortLookup.Mapper

/-!
The Envoy configuration of a set of LoadBalancers and Routes
(internal/envoy/resource.go).

The source resolves the addresses of an object just before it builds its
resources. Here all addresses are resolved first, in the same order and with
one map of those already read: an error ends the call in either form, and
nothing that is built is read back. Of listeners and clusters the constant
settings are left out. A version is a hash of the resources, so that two
snapshots have the same version when their resources are the same.
-/

namespace KubeLB
open FiniteMap Fallible

/-- The filter at the end of a listener; `udpProxy` listens on UDP, the others on
TCP. -/
inductive ListenerFilter
  | tcpProxy | udpProxy | httpConnectionManager
  deriving DecidableEq, Repr

structure Listener where
  name : String
  clusterName : String
  port : Int
  filter : ListenerFilter
  deriving DecidableEq

inductive HttpVersion
  | http1 | http2
  deriving DecidableEq, Repr

structure Cluster where
  name : String
  endpoints : List (String × Int)
  healthCheck : Bool
  httpOptions : Option HttpVersion
  deriving DecidableEq

/-- The resources of a snapshot in the order in which they were built. -/
structure Snapshot where
  clusters : List Cluster
  listeners : List Listener
  deriving DecidableEq

/-- The listener that the cache serves under a name: resources are indexed by
name, and the last one of a name stays. -/
def Snapshot.listener (snapshot : Snapshot) (name : String) : Option Listener :=
  lastWith Listener.name snapshot.listeners name

def makeEndpoint (address : String) (port : Int) : String × Int := (address, port)

def makeTCPListener (clusterName listenerName : String) (listenerPort : Int) : Listener :=
  ⟨listenerName, clusterName, listenerPort, .tcpProxy⟩

def makeUDPListener (clusterName listenerName : String) (listenerPort : Int) : Listener :=
  ⟨listenerName, clusterName, listenerPort, .udpProxy⟩

def makeHTTPListener (listenerName clusterName : String) (listenerPort : Int) : Listener :=
  ⟨listenerName, clusterName, listenerPort, .httpConnectionManager⟩

def isHTTPRoute (routeKind : String) : Bool :=
  routeKind = "HTTPRoute" || routeKind = "GRPCRoute" || routeKind = "Ingress"

def makeCluster (clusterName : String) (lbEndpoints : List (String × Int)) (protocol : Protocol)
    (routeKind : String) : Cluster where
  name := clusterName
  endpoints := lbEndpoints
  healthCheck := protocol ≠ .udp
  httpOptions :=
    if routeKind = "GRPCRoute" then some .http2
    else if isHTTPRoute routeKind then some .http1
    else none

def getRouteKind (route : Route) : String :=
  let label := (route.labels.lookup labelOriginResourceKind).getD ""
  match route.spec.kubernetes with
  | some source => if source.route.kind ≠ "" then source.route.kind else label
  | none => label

/-- The port a listener gets: the allocated one, or `own` if there is none. -/
def listenerPort (pa : PortAllocator) (endpointKey portKey : String) (own : Int) : Int :=
  toUInt32 ((pa.lookup endpointKey portKey).getD own)

def loadBalancerIdentifier (lb : LoadBalancer) (i : Nat) (port : EndpointPort) : String :=
  envoyResourceIdentifierPattern lb.ns lb.name i port.port port.protocol

/-- The listener of an endpoint port; protocols other than TCP and UDP have none. -/
def loadBalancerListener (pa : PortAllocator) (lb : LoadBalancer) (i : Nat)
    (port : EndpointPort) : Option Listener :=
  let key := loadBalancerIdentifier lb i port
  let number :=
    listenerPort pa (envoyEndpointPattern lb.ns lb.name i) (endpointPortKey port) port.port
  match port.protocol with
  | .tcp => some (makeTCPListener key key number)
  | .udp => some (makeUDPListener key key number)
  | _ => none

def loadBalancerListeners (pa : PortAllocator) (lb : LoadBalancer) : List Listener :=
  lb.spec.endpoints.zipIdx.flatMap fun (endpoint, i) =>
    endpoint.ports.filterMap (loadBalancerListener pa lb i)

def loadBalancerClusters (lb : LoadBalancer) : List Cluster :=
  lb.spec.endpoints.zipIdx.flatMap fun (endpoint, i) =>
    endpoint.ports.map fun port =>
      makeCluster (loadBalancerIdentifier lb i port)
        (endpoint.addresses.map fun address => makeEndpoint address.ip (toUInt32 port.port))
        port.protocol ""

def routePortIdentifier (route : Route) (svc : Service) (port : ServicePort) : String :=
  envoyRoutePortIdentifierPattern route.ns svc.ns svc.name (originalRouteName route) svc.uid
    port.port port.protocol

def routeListener (pa : PortAllocator) (route : Route) (svc : Service) (port : ServicePort) :
    Option Listener :=
  let key := routePortIdentifier route svc port
  let number := listenerPort pa (routeEndpointKey route svc) (servicePortKey port) port.port
  match port.protocol with
  | .tcp =>
      if isHTTPRoute (getRouteKind route) then some (makeHTTPListener key key number)
      else some (makeTCPListener key key number)
  | .udp => some (makeUDPListener key key number)
  | _ => none

def routeListeners (pa : PortAllocator) (route : Route) : List Listener :=
  route.sourceServices.flatMap fun svc => svc.ports.filterMap (routeListener pa route svc)

def routeClusters (route : Route) : List Cluster :=
  let addresses := route.spec.endpoints.flatMap LoadBalancerEndpoints.addresses
  route.sourceServices.flatMap fun svc => svc.ports.map fun port =>
    makeCluster (routePortIdentifier route svc port)
      (addresses.map fun address => makeEndpoint address.ip (toUInt32 port.nodePort))
      port.protocol (getRouteKind route)

abbrev AddressesMap := FiniteMap String (List EndpointAddress)

abbrev Resolve := StateT AddressesMap (Except String)

def endpointAddressReferencePattern (ns name : String) : String := ns ++ "-address-" ++ name

/-- Fills in the addresses of an endpoint that refers to an Addresses object. -/
def resolveEndpoint (get : ObjectKey → Except String (List EndpointAddress)) (ns : String)
    (endpoint : LoadBalancerEndpoints) : Resolve LoadBalancerEndpoints := fun addressesMap =>
  match endpoint.addressesReference with
  | none => .ok (endpoint, addressesMap)
  | some name =>
      let key := endpointAddressReferencePattern ns name
      match addressesMap.lookup key with
      | some addresses => .ok ({ endpoint with addresses := addresses }, addressesMap)
      | none =>
          match get ⟨ns, name⟩ with
          | .error err => .error ("failed to get addresses: " ++ err)
          | .ok addresses =>
              .ok ({ endpoint with addresses := addresses }, addressesMap.insert key addresses)

def resolveLoadBalancer (get : ObjectKey → Except String (List EndpointAddress))
    (lb : LoadBalancer) : Resolve LoadBalancer := do
  let endpoints ← lb.spec.endpoints.mapM (resolveEndpoint get lb.ns)
  return { lb with spec := { lb.spec with endpoints := endpoints } }

/-- A Route without a Kubernetes source is skipped. -/
def resolveRoute (get : ObjectKey → Except String (List EndpointAddress)) (route : Route) :
    Resolve Route :=
  if route.spec.kubernetes = none then pure route
  else do
    let endpoints ← route.spec.endpoints.mapM (resolveEndpoint get route.ns)
    return { route with spec := { route.spec with endpoints := endpoints } }

def mapSnapshot (get : ObjectKey → Except String (List EndpointAddress))
    (lbs : List LoadBalancer) (routes : List Route) (pa : PortAllocator) :
    Except String Snapshot := do
  let (lbs, addressesMap) ← lbs.mapM (resolveLoadBalancer get) ∅
  let (routes, _) ← routes.mapM (resolveRoute get) addressesMap
  return {
    clusters := lbs.flatMap loadBalancerClusters ++ routes.flatMap routeClusters
    listeners := lbs.flatMap (loadBalancerListeners pa) ++ routes.flatMap (routeListeners pa) }

section Listeners
variable {get : ObjectKey → Except String (List EndpointAddress)} {pa : PortAllocator}

theorem resolveEndpoint_ports {ns : String} {endpoint resolved : LoadBalancerEndpoints}
    {addressesMap addressesMap' : AddressesMap}
    (returned : resolveEndpoint get ns endpoint addressesMap = .ok (resolved, addressesMap')) :
    resolved.ports = endpoint.ports := by
  simp only [resolveEndpoint] at returned
  split at returned
  · cases returned
    rfl
  split at returned
  · cases returned
    rfl
  split at returned
  · cases returned
  · cases returned
    rfl

theorem zipIdx_flatMap_congr_ports {β : Type} (f : Nat → List EndpointPort → List β)
    {given resolved : List LoadBalancerEndpoints}
    (ports : List.Forall₂ (fun endpoint resolved => resolved.ports = endpoint.ports)
      given resolved) (start : Nat) :
    ((resolved.zipIdx start).flatMap fun (endpoint, i) => f i endpoint.ports) =
      (given.zipIdx start).flatMap fun (endpoint, i) => f i endpoint.ports := by
  induction ports generalizing start with
  | nil => rfl
  | cons head _ ih =>
      simp only [List.zipIdx_cons, List.flatMap_cons, head]
      rw [ih]

theorem resolveLoadBalancer_ports {lb resolved : LoadBalancer}
    {addressesMap addressesMap' : AddressesMap}
    (returned : resolveLoadBalancer get lb addressesMap = .ok (resolved, addressesMap')) :
    List.Forall₂ (fun endpoint resolved : LoadBalancerEndpoints =>
      resolved.ports = endpoint.ports) lb.spec.endpoints resolved.spec.endpoints := by
  obtain ⟨endpoints, _, looped, returned⟩ := stateT_bind_eq_ok.mp returned
  cases returned
  refine forall₂_of_mapM ?_ looped
  exact fun _ _ _ _ => resolveEndpoint_ports

theorem resolveLoadBalancer_listeners {lb resolved : LoadBalancer}
    {addressesMap addressesMap' : AddressesMap}
    (returned : resolveLoadBalancer get lb addressesMap = .ok (resolved, addressesMap')) :
    loadBalancerListeners pa resolved = loadBalancerListeners pa lb := by
  have ports := resolveLoadBalancer_ports returned
  obtain ⟨endpoints, _, _, returned⟩ := stateT_bind_eq_ok.mp returned
  cases returned
  exact zipIdx_flatMap_congr_ports (fun i => List.filterMap (loadBalancerListener pa lb i)) ports 0

theorem resolveRoute_listeners {route resolved : Route}
    {addressesMap addressesMap' : AddressesMap}
    (returned : resolveRoute get route addressesMap = .ok (resolved, addressesMap')) :
    routeListeners pa resolved = routeListeners pa route := by
  by_cases skipped : route.spec.kubernetes = none
  · rw [resolveRoute, if_pos skipped] at returned
    cases returned
    rfl
  · rw [resolveRoute, if_neg skipped] at returned
    obtain ⟨endpoints, _, _, returned⟩ := stateT_bind_eq_ok.mp returned
    cases returned
    rfl

theorem mapSnapshot_listeners {lbs : List LoadBalancer} {routes : List Route}
    {snapshot : Snapshot} (returned : mapSnapshot get lbs routes pa = .ok snapshot) :
    snapshot.listeners =
      lbs.flatMap (loadBalancerListeners pa) ++ routes.flatMap (routeListeners pa) := by
  obtain ⟨⟨lbs', addressesMap⟩, resolvedLBs, returned⟩ := bind_eq_ok.mp returned
  obtain ⟨⟨routes', _⟩, resolvedRoutes, returned⟩ := bind_eq_ok.mp returned
  cases returned
  have fromLBs : List.Forall₂ (fun lb resolved =>
      loadBalancerListeners pa resolved = loadBalancerListeners pa lb) lbs lbs' := by
    refine forall₂_of_mapM ?_ resolvedLBs
    exact fun _ _ _ _ => resolveLoadBalancer_listeners
  have fromRoutes : List.Forall₂ (fun route resolved =>
      routeListeners pa resolved = routeListeners pa route) routes routes' := by
    refine forall₂_of_mapM ?_ resolvedRoutes
    exact fun _ _ _ _ => resolveRoute_listeners
  simp only [flatMap_congr_forall₂ fromLBs, flatMap_congr_forall₂ fromRoutes]

end Listeners

end KubeLB
