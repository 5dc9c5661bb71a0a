import KubeLB.Envoy.ControlPlane
import KubeLB.Route.Rewriting
import KubeLB.Route.Sharing

/-!
Whether the backends of a Route lead to its own listeners.

Ports are allocated, and listeners made, for each Route and source service; the
generated Service, which sends the traffic to the port, is named after the
source service alone. The last Route to be reconciled decides where a shared
Service leads. As long as no two Routes meet in a Service or in an endpoint
key, and the backends of each are rewritten to the names of its own Services,
every reconciled Route is served by its own listeners, in whatever order the
Routes are reconciled and the control plane allocates.
-/

namespace KubeLB
open FiniteMap PortAllocator

/-- The Service of this name has, for every TCP or UDP port of the source service, the
port of the listener that mapSnapshot emits for the Route, the service and the port. -/
def LeadsToOwnListeners (world : RouteWorld) (snapshot : Snapshot) (route : Route) (svc : Service)
    (name : String) : Prop :=
  ∃ stored, world.services.lookup ⟨route.ns, name⟩ = some stored ∧
    List.Forall₂ (fun port written => port.protocol = .tcp ∨ port.protocol = .udp →
      written.port = port.port ∧ written.protocol = port.protocol ∧
      ∃ listener, routeListener world.allocator route svc port = some listener ∧
        listener ∈ snapshot.listeners ∧ written.targetPort = .int listener.port)
      svc.ports stored.ports

/-- For every source service, the Service generated for it and the Services that its
backends in the resource are rewritten to lead to the listeners of the Route. -/
def OwnListeners (r : RouteReconciler) (world : RouteWorld) (route : Route) : Prop :=
  ∀ get lbs routes snapshot, route ∈ routes →
    mapSnapshot get lbs routes world.allocator = .ok snapshot →
    ∀ source, route.spec.kubernetes = some source → ∀ svc ∈ source.services,
      (∃ name, generatedName r.topology.isGlobalTopology (referencedService svc) = some name ∧
        LeadsToOwnListeners world snapshot route svc name) ∧
      BackendsNamed r.topology.isGlobalTopology source svc
        (LeadsToOwnListeners world snapshot route svc)

/-- The endpoint keys of a Route: those of its source services, and those that its
status entries may give up. -/
def Touches (r : RouteReconciler) (route : Route) (e : String) : Prop :=
  e ∈ (routeRequests route).map Prod.fst ∨
    ∃ value, Entry r route value ∧ e = orphanedEndpointKey route value

/-- No two source services of the Route share a Service or an endpoint key. -/
def OwnApart (r : RouteReconciler) (route : Route) : Prop :=
  ∀ svc ∈ route.sourceServices, ∀ svc' ∈ route.sourceServices,
    (sourceName r svc' = sourceName r svc ∨
      routeEndpointKey route svc' = routeEndpointKey route svc) → svc' = svc

/-- What keeps the Routes of the cluster out of each other's way. The UIDs are
those of the API server. -/
structure BackendsApart (r : RouteReconciler) (world : RouteWorld) : Prop where
  uids : ∀ key route, world.routes.lookup key = some route →
    ∀ svc ∈ route.sourceServices, nameSuffixLength ≤ svc.uid.length
  services : Unshared r world
  ports : ∀ key route key' route', world.routes.lookup key = some route →
    world.routes.lookup key' = some route' → key ≠ key' →
      ∀ svc ∈ route.sourceServices, ¬ Touches r route' (routeEndpointKey route svc)
  own : ∀ key route, world.routes.lookup key = some route → OwnApart r route
  names : ∀ key route, world.routes.lookup key = some route →
    ∀ source, route.spec.kubernetes = some source →
      SourceNamesApart r.topology.isGlobalTopology source

section Evolution
variable {r : RouteReconciler} {world world' : RouteWorld}

theorem originalRouteName_congr {route route' : Route} (name : route'.name = route.name)
    (spec : route'.spec = route.spec) (labels : route'.labels = route.labels) :
    originalRouteName route' = originalRouteName route := by
  simp only [originalRouteName, name, spec, labels]

theorem Evolves.originalRouteName_eq {route route' : Route} (evolves : Evolves r route route') :
    originalRouteName route' = originalRouteName route :=
  originalRouteName_congr (congrArg ObjectKey.name evolves.objectKey) evolves.spec evolves.labels

theorem Evolves.sourceServices_eq {route route' : Route} (evolves : Evolves r route route') :
    route'.sourceServices = route.sourceServices := by
  rw [Route.sourceServices, Route.sourceServices, evolves.spec]

theorem Evolves.routeEndpointKey_eq {route route' : Route} (evolves : Evolves r route route')
    (svc : Service) : routeEndpointKey route' svc = routeEndpointKey route svc := by
  rw [routeEndpointKey, routeEndpointKey, evolves.ns, evolves.originalRouteName_eq]

theorem Evolves.routeRequests_eq {route route' : Route} (evolves : Evolves r route route') :
    routeRequests route' = routeRequests route := by
  simp only [routeRequests, evolves.sourceServices_eq, evolves.routeEndpointKey_eq]

theorem Evolves.touches_le {route route' : Route} (evolves : Evolves r route route') {e : String}
    (touched : Touches r route' e) : Touches r route e := by
  obtain asked | ⟨value, entry, rfl⟩ := touched
  · rw [evolves.routeRequests_eq] at asked
    exact Or.inl asked
  · refine Or.inr ⟨value, evolves.entry_le entry, ?_⟩
    rw [orphanedEndpointKey, orphanedEndpointKey, evolves.ns, evolves.originalRouteName_eq]

theorem BackendsApart.evolve (apart : BackendsApart r world)
    (evolve : RoutesEvolve r world world') : BackendsApart r world' where
  uids key route' found := by
    obtain ⟨route, here, evolves⟩ := evolve key route' found
    rw [evolves.sourceServices_eq]
    exact apart.uids key route here
  services := apart.services.evolve evolve
  ports key₁ route₁' key₂ route₂' found₁ found₂ different svc member touched := by
    obtain ⟨route₁, here₁, evolves₁⟩ := evolve key₁ route₁' found₁
    obtain ⟨route₂, here₂, evolves₂⟩ := evolve key₂ route₂' found₂
    rw [evolves₁.sourceServices_eq] at member
    rw [evolves₁.routeEndpointKey_eq] at touched
    exact apart.ports key₁ route₁ key₂ route₂ here₁ here₂ different svc member
      (evolves₂.touches_le touched)
  own key route' found svc member svc' member' := by
    obtain ⟨route, here, evolves⟩ := evolve key route' found
    rw [evolves.sourceServices_eq] at member member'
    rw [evolves.routeEndpointKey_eq, evolves.routeEndpointKey_eq]
    exact apart.own key route here svc member svc' member'
  names key route' found source kubernetes := by
    obtain ⟨route, here, evolves⟩ := evolve key route' found
    rw [evolves.spec] at kubernetes
    exact apart.names key route here source kubernetes

end Evolution

section Fresh
variable {r : RouteReconciler}

instance (route : Route) : Decidable (OwnApart r route) :=
  inferInstanceAs (Decidable (∀ svc ∈ route.sourceServices, ∀ svc' ∈ route.sourceServices, _))

def freshKeys (r : RouteReconciler) (route : Route) : List String :=
  (routeRequests route).map Prod.fst ++ route.sourceServices.map fun svc =>
    envoyEndpointRoutePattern route.ns (sourceRecord r route svc).ns (sourceName r svc)
      (originalRouteName route)

def FreshApart (r : RouteReconciler) (routes : List Route) : Prop :=
  (∀ route ∈ routes, (∀ svc ∈ route.sourceServices, nameSuffixLength ≤ svc.uid.length) ∧
    OwnApart r route ∧
    ∀ source ∈ route.spec.kubernetes.toList, SourceNamesApart r.topology.isGlobalTopology source) ∧
  ∀ route ∈ routes, ∀ route' ∈ routes, route.objectKey ≠ route'.objectKey →
    ∀ svc ∈ route.sourceServices, routeEndpointKey route svc ∉ freshKeys r route' ∧
      ∀ target ∈ generatedObjects r route svc, ∀ svc' ∈ route'.sourceServices,
        target ∉ generatedObjects r route' svc'

instance (routes : List Route) : Decidable (FreshApart r routes) :=
  inferInstanceAs (Decidable (_ ∧ _))

theorem Touches.mem_freshKeys (shared : r.topology.isGlobalTopology = false) {route : Route}
    (fresh : route.services = ∅) {e : String} (touched : Touches r route e) :
    e ∈ freshKeys r route := by
  obtain asked | ⟨value, ⟨key, found⟩ | ⟨svc, member, name, named, generatedName, ns⟩, rfl⟩ :=
    touched
  · exact List.mem_append_left _ asked
  · rw [fresh] at found
    cases found
  · refine List.mem_append_right _ (List.mem_map.mpr ⟨svc, member, ?_⟩)
    obtain own | ⟨global, _⟩ := ns
    · rw [orphanedEndpointKey, own, generatedName, sourceName, named]
      rfl
    · rw [shared] at global
      cases global

theorem BackendsApart.of_fresh (shared : r.topology.isGlobalTopology = false)
    {world : RouteWorld} {routes : List Route} (compared : FreshApart r routes)
    (listed : ∀ key route, world.routes.lookup key = some route →
      route ∈ routes ∧ route.objectKey = key ∧ route.services = ∅) : BackendsApart r world where
  uids key route found := (compared.1 route (listed key route found).1).1
  own key route found := (compared.1 route (listed key route found).1).2.1
  names key route found source kubernetes :=
    (compared.1 route (listed key route found).1).2.2 source (Option.mem_toList.mpr kubernetes)
  services key route key' route' found found' different target generated claimed := by
    obtain ⟨member, rfl, _⟩ := listed key route found
    obtain ⟨member', rfl, fresh⟩ := listed key' route' found'
    obtain ⟨svc, inSources, made⟩ := generated
    obtain ⟨svc', inSources', made'⟩ | ⟨_, _, recorded, _⟩ := claimed
    · exact (compared.2 route member route' member' different svc inSources).2 target made svc'
        inSources' made'
    · rw [fresh] at recorded
      cases recorded
  ports key route key' route' found found' different svc inSources touched := by
    obtain ⟨member, rfl, _⟩ := listed key route found
    obtain ⟨member', rfl, fresh⟩ := listed key' route' found'
    exact (compared.2 route member route' member' different svc inSources).1
      (touched.mem_freshKeys shared fresh)

end Fresh

section Reconcile
variable {r : RouteReconciler}

theorem manageServices_frame {faults : ApiFaults} {statusFault : Option String}
    {api : Admission} {order : List String} {draws : List Draw}
    {annotations : AnnotationSettings} {route : Route} {world : RouteWorld}
    {after : RouteEffects}
    (returned : manageServices r faults statusFault api order draws annotations route
      (world.effects route) = some (after, none)) :
    (∀ target, ¬ Claims r route target →
      after.store.lookup target = world.services.lookup target) ∧
    ∀ e, ¬ Touches r route e → ∀ k, after.allocator.lookup e k = world.allocator.lookup e k := by
  cases kubernetes : route.spec.kubernetes with
  | none =>
      simp only [manageServices, kubernetes] at returned
      cases returned
      exact ⟨fun _ _ => rfl, fun _ _ _ => rfl⟩
  | some source =>
      obtain ⟨cleaned, allocator, rest, services, cleanedUp, allocated, generated, rfl⟩ :=
        manageServices_ok kubernetes returned
      have sources := sourceServices_eq kubernetes
      obtain ⟨storeKept, portsKept, _⟩ := cleanupOrphanedServices_frame cleanedUp
      constructor
      · intro target unclaimed
        rw [lookup_store_applyServices services _ ?_, storeKept target ?_]
        · rfl
        · rintro key value found rfl
          exact unclaimed (Or.inr ⟨key, value, found, rfl⟩)
        · rintro made member rfl
          obtain ⟨svc, inSources, name, named, shape⟩ := mem_generateServices generated member
          refine unclaimed (Or.inl ⟨svc, sources ▸ inSources, ?_⟩)
          rw [generatedObjects, named]
          obtain rfl | ⟨global, rfl⟩ := shape
          · by_cases global : r.topology.isGlobalTopology = true
            · simp [global, lbClusterService, ObjectMeta.objectKey]
            · simp [global, lbClusterService, ObjectMeta.objectKey]
          · simp [global, generateBridgeService, lbClusterService, ObjectMeta.objectKey]
      · intro e untouched k
        rw [(applyServices_frame _ _ _ _).2.2]
        have absent : e ∉ ([route].flatMap routeRequests).map Prod.fst := by
          rw [List.flatMap_singleton]
          exact fun asked => untouched (Or.inl asked)
        refine (allocateAll_frame absent allocated k).trans (portsKept e ?_ k)
        rintro key value found rfl
        exact untouched (Or.inr ⟨value, Or.inl ⟨key, found⟩, rfl⟩)

def Leads (pa : PortAllocator) (route : Route) (svc : Service) (port written : ServicePort) :
    Prop :=
  written.port = port.port ∧ (port.protocol ≠ .unset → written.protocol = port.protocol) ∧
    ∃ number, pa.lookup (routeEndpointKey route svc) (servicePortKey port) = some number ∧
      written.targetPort = .int number

def Served (r : RouteReconciler) (store : ServiceStore) (pa : PortAllocator) (route : Route) :
    Prop :=
  ∀ svc ∈ route.sourceServices, ∃ name stored,
    generateName r.topology.isGlobalTopology svc.uid (getServiceName svc) svc.ns = some name ∧
    store.lookup ⟨route.ns, name⟩ = some stored ∧
    List.Forall₂ (Leads pa route svc) svc.ports stored.ports

theorem leads_of_admitted {pa : PortAllocator} (valid : pa.Valid) {route : Route} {svc : Service}
    {port written : ServicePort} {number : Int}
    (allocated : pa.lookup (routeEndpointKey route svc) (servicePortKey port) = some number)
    (admitted : AdmittedPort (generatedPort pa (routeEndpointKey route svc) port) written) :
    Leads pa route svc port written := by
  have range := valid _ _ _ allocated
  have target : (generatedPort pa (routeEndpointKey route svc) port).targetPort = .int number := by
    rw [generatedPort, allocated, Option.map_some, Option.getD_some, toInt32_of_port range]
  refine ⟨admitted.port, admitted.protocol, number, allocated, ?_⟩
  rw [← target]
  refine admitted.targetPort ?_
  rw [target]
  rintro ⟨⟩
  omega

/-- The calls for the endpoint key of a source service ask for all its ports. -/
theorem portKey_mem_request {route : Route} (own : OwnApart r route) {svc : Service}
    (member : svc ∈ route.sourceServices) {port : ServicePort} (inPorts : port ∈ svc.ports)
    {portKeys : List String}
    (asked : (routeEndpointKey route svc, portKeys) ∈ routeRequests route) :
    servicePortKey port ∈ portKeys := by
  obtain ⟨svc', member', request⟩ := List.mem_map.mp asked
  obtain ⟨sameKey, rfl⟩ := Prod.mk.inj request
  rw [own svc member svc' member' (Or.inr sameKey)]
  exact List.mem_map_of_mem inPorts

theorem served_manageServices (shared : r.topology.isGlobalTopology = false) {faults : ApiFaults}
    (faultless : faults = {}) {api : Admission} {order : List String} {draws : List Draw}
    {annotations : AnnotationSettings} {route : Route} {before after : RouteEffects}
    (kubernetes : ∃ source, route.spec.kubernetes = some source)
    (own : OwnApart r route) (valid : before.allocator.Valid)
    (returned : manageServices r faults none api order draws annotations route before =
      some (after, none)) :
    after.allocator.Valid ∧ Served r after.store after.allocator route := by
  obtain ⟨source, kubernetes⟩ := kubernetes
  obtain ⟨cleaned, allocator, rest, services, cleanedUp, allocated, generated, rfl⟩ :=
    manageServices_ok kubernetes returned
  have sources := sourceServices_eq kubernetes
  rw [(applyServices_frame _ _ _ _).2.2]
  rw [allocatePortsForRoutes, List.flatMap_singleton] at allocated
  have stillValid : allocator.Valid := by
    refine allocateAll_valid (fun e k port found => ?_) allocated
    exact valid e k port ((cleanupOrphanedServices_frame cleanedUp).2.2 e k port found)
  refine ⟨stillValid, fun svc member => ?_⟩
  obtain ⟨name, named, made⟩ := lbClusterService_mem generated (sources ▸ member)
  -- Two source services of the Route are never written to one object.
  have agree : ∀ made' ∈ services, made'.objectKey = ⟨route.ns, name⟩ →
      made'.ports = svc.ports.map (generatedPort allocator (routeEndpointKey route svc)) := by
    intro made' inServices sameKey
    obtain ⟨svc', member', name', named', shape⟩ := mem_generateServices generated inServices
    obtain rfl | ⟨global, _⟩ := shape
    · have sameName : name' = name := congrArg ObjectKey.name sameKey
      have same : svc' = svc := by
        refine own svc member svc' (sources ▸ member') (Or.inl ?_)
        rw [sourceName, sourceName, named, named', sameName]
      rw [same]
      rfl
    · rw [shared] at global
      cases global
  have writes (key : ObjectKey) :
      faults.get key = none ∧ faults.create key = none ∧ faults.update key = none := by
    rw [faultless]
    exact ⟨rfl, rfl, rfl⟩
  obtain ⟨stored, here, ports⟩ :=
    ports_applyServices writes services { cleaned with allocator := allocator } made agree
  refine ⟨name, stored, named, here, ?_⟩
  simp only [lbClusterService, List.forall₂_map_left_iff] at ports
  have covered : ∀ port ∈ svc.ports, ∃ number,
      allocator.lookup (routeEndpointKey route svc) (servicePortKey port) = some number := by
    intro port inPorts
    refine allocateAll_covers (List.mem_map.mpr ⟨_, List.mem_map_of_mem member, rfl⟩) ?_ allocated
    exact fun portKeys asked => portKey_mem_request own member inPorts asked
  refine ((List.forall₂_and_left _ _).mpr ⟨covered, ports⟩).imp ?_
  rintro port written ⟨⟨number, found⟩, admitted⟩
  exact leads_of_admitted stillValid found admitted

theorem Served.of_lookups {store store' : ServiceStore} {pa pa' : PortAllocator} {route : Route}
    (served : Served r store pa route)
    (services : ∀ target, Generates r route target → store'.lookup target = store.lookup target)
    (shared : r.topology.isGlobalTopology = false)
    (ports : ∀ svc ∈ route.sourceServices, ∀ port ∈ svc.ports, ∀ number,
      pa.lookup (routeEndpointKey route svc) (servicePortKey port) = some number →
        pa'.lookup (routeEndpointKey route svc) (servicePortKey port) = some number) :
    Served r store' pa' route := by
  intro svc member
  obtain ⟨name, stored, named, here, leads⟩ := served svc member
  have generated : Generates r route ⟨route.ns, name⟩ := by
    refine ⟨svc, member, ?_⟩
    rw [generatedObjects, named]
    simp [shared]
  refine ⟨name, stored, named, (services _ generated).trans here, ?_⟩
  refine ((List.forall₂_and_left _ _).mpr ⟨fun _ inPorts => inPorts, leads⟩).imp ?_
  rintro port written ⟨inPorts, samePort, protocol, number, found, target⟩
  exact ⟨samePort, protocol, number, ports svc member port inPorts number found, target⟩

/-- In whatever snapshot is built, the Services of a Route that is served lead to its own
listeners. -/
theorem Served.leadsToOwnListeners {world : RouteWorld} {route : Route}
    (valid : world.allocator.Valid)
    (served : Served r world.services world.allocator route)
    {get : ObjectKey → Except String (List EndpointAddress)} {lbs : List LoadBalancer}
    {routes : List Route} {snapshot : Snapshot} (member : route ∈ routes)
    (built : mapSnapshot get lbs routes world.allocator = .ok snapshot) {svc : Service}
    (inSources : svc ∈ route.sourceServices) :
    ∃ name, generatedName r.topology.isGlobalTopology (referencedService svc) = some name ∧
      LeadsToOwnListeners world snapshot route svc name := by
  obtain ⟨name, stored, named, here, leads⟩ := served svc inSources
  refine ⟨name, named, stored, here, ?_⟩
  refine ((List.forall₂_and_left _ _).mpr ⟨fun _ inPorts => inPorts, leads⟩).imp ?_
  rintro port written ⟨inPorts, samePort, protocol, number, found, target⟩ spoken
  have emitted : ∃ listener, routeListener world.allocator route svc port = some listener ∧
      listener.port = number := by
    have own : listenerPort world.allocator (routeEndpointKey route svc) (servicePortKey port)
        port.port = number := by
      rw [listenerPort, found, Option.getD_some, toUInt32_of_port (valid _ _ _ found)]
    simp only [routeListener, own]
    obtain tcp | udp := spoken
    · rw [tcp]
      by_cases http : isHTTPRoute (getRouteKind route) = true
      · exact ⟨_, if_pos http, rfl⟩
      · exact ⟨_, if_neg http, rfl⟩
    · rw [udp]
      exact ⟨_, rfl, rfl⟩
  obtain ⟨listener, isListener, rfl⟩ := emitted
  have known : port.protocol ≠ .unset := by
    rintro unset
    rw [unset] at spoken
    obtain impossible | impossible := spoken <;> cases impossible
  refine ⟨samePort, protocol known, listener, isListener, ?_, target⟩
  rw [mapSnapshot_listeners built]
  refine List.mem_append_right _ (List.mem_flatMap.mpr ⟨route, member, ?_⟩)
  exact List.mem_flatMap.mpr ⟨svc, inSources, List.mem_filterMap.mpr ⟨port, inPorts, isListener⟩⟩

theorem Served.ownListeners {world : RouteWorld} {route : Route} (valid : world.allocator.Valid)
    (names : ∀ source, route.spec.kubernetes = some source →
      SourceNamesApart r.topology.isGlobalTopology source)
    (served : Served r world.services world.allocator route) : OwnListeners r world route := by
  intro get lbs routes snapshot member built source kubernetes svc inSource
  have inSources : svc ∈ route.sourceServices := sourceServices_eq kubernetes ▸ inSource
  obtain ⟨name, named, leads⟩ := served.leadsToOwnListeners valid member built inSources
  exact ⟨⟨name, named, leads⟩,
    backendsNamed_of_sourceNamesApart (names source kubernetes) inSource named leads⟩

end Reconcile

end KubeLB
