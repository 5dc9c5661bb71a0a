import KubeLB.Envoy.LoadBalancerResources
import KubeLB.Route.Source

/-!
The names of the clusters and listeners in a snapshot.

The cache indexes resources by name and the last one of a name stays. A name joins
namespaces, names, indices and UIDs by hyphens that most of these parts may
contain, and the name of a Route's cluster says neither which Route it is for nor
of which kind its resource is.
-/

namespace KubeLB
open FiniteMap Fallible Joined

def loadBalancerText (lb : LoadBalancer) : String := lb.ns ++ "-" ++ lb.name

/-- The LoadBalancers have the same port and protocol at the same endpoint index. -/
def SharePort (lb lb' : LoadBalancer) : Prop :=
  ∃ entry ∈ loadBalancerEntries lb, ∃ entry' ∈ loadBalancerEntries lb',
    entry.index = entry'.index ∧ entry.port.port = entry'.port.port ∧
      entry.port.protocol = entry'.port.protocol

def routeSources (routes : List Route) : List (Route × Service) :=
  routes.flatMap fun route => route.sourceServices.map fun svc => (route, svc)

def sourceText (source : Route × Service) : String :=
  routeEndpointKey source.1 source.2 ++ "-svc-" ++ source.2.uid

def ShareServicePort (svc svc' : Service) : Prop :=
  ∃ port ∈ svc.ports, ∃ port' ∈ svc'.ports,
    port.port = port'.port ∧ port.protocol = port'.protocol

/-- No two clusters and no two listeners have one name, and the cache holds as many
of each as were built. -/
structure DropsNothing (snapshot : Snapshot) : Prop where
  clusters : (snapshot.clusters.map Cluster.name).Nodup
  listeners : (snapshot.listeners.map Listener.name).Nodup
  clusterCount : (indexBy Cluster.name snapshot.clusters).keys.card = snapshot.clusters.length
  listenerCount :
    (indexBy Listener.name snapshot.listeners).keys.card = snapshot.listeners.length

def LoadBalancersApart (lbs : List LoadBalancer) : Prop :=
  lbs.Pairwise fun lb lb' => loadBalancerText lb = loadBalancerText lb' → ¬ SharePort lb lb'

def SourcesApart (routes : List Route) : Prop :=
  (routeSources routes).Pairwise fun source source' =>
    sourceText source = sourceText source' → ¬ ShareServicePort source.2 source'.2

def loadBalancerNames (lb : LoadBalancer) : List String :=
  (loadBalancerEntries lb).map LoadBalancerEntry.identifier

def sourceNames (source : Route × Service) : List String :=
  source.2.ports.map (routePortIdentifier source.1 source.2)

theorem loadBalancerIdentifier_eq_iff {lb lb' : LoadBalancer} {i i' : Nat}
    {port port' : EndpointPort} :
    loadBalancerIdentifier lb i port = loadBalancerIdentifier lb' i' port' ↔
      loadBalancerText lb = loadBalancerText lb' ∧ i = i' ∧ port.port = port'.port ∧
        port.protocol = port'.protocol := by
  constructor
  · intro same
    obtain ⟨keys, numbers, protocols⟩ := portSuffix_inj same
    obtain ⟨texts, indices⟩ := envoyEndpointPattern_eq_iff.mp keys
    exact ⟨texts, indices, numbers, protocols⟩
  · rintro ⟨texts, rfl, numbers, protocols⟩
    have keys : envoyEndpointPattern lb.ns lb.name i = envoyEndpointPattern lb'.ns lb'.name i :=
      envoyEndpointPattern_eq_iff.mpr ⟨texts, rfl⟩
    change envoyEndpointPattern lb.ns lb.name i ++ _ ++ _ ++ _ ++ _ = _
    rw [keys, numbers, protocols]
    rfl

theorem routePortIdentifier_eq_iff {source source' : Route × Service} {port port' : ServicePort} :
    routePortIdentifier source.1 source.2 port = routePortIdentifier source'.1 source'.2 port' ↔
      sourceText source = sourceText source' ∧ port.port = port'.port ∧
        port.protocol = port'.protocol := by
  constructor
  · exact fun same => portSuffix_inj same
  · rintro ⟨texts, numbers, protocols⟩
    change sourceText source ++ _ ++ _ ++ _ ++ _ = _
    rw [texts, numbers, protocols]
    rfl

section
variable {lbs : List LoadBalancer} {routes : List Route} {lb lb' : LoadBalancer}
  {source source' : Route × Service}

theorem loadBalancerNames_eq (lb : LoadBalancer) : loadBalancerNames lb =
    lb.spec.endpoints.zipIdx.flatMap fun pair =>
      pair.1.ports.map (loadBalancerIdentifier lb pair.2) := by
  simp only [loadBalancerNames, loadBalancerEntries, List.map_flatMap, List.map_map]
  rfl

theorem mem_loadBalancerNames {name : String} : name ∈ loadBalancerNames lb ↔
    ∃ entry ∈ loadBalancerEntries lb, loadBalancerIdentifier lb entry.index entry.port = name := by
  refine List.mem_map.trans (exists_congr fun entry => and_congr_right fun member => ?_)
  rw [LoadBalancerEntry.identifier, (mem_loadBalancerEntries.mp member).1]

theorem loadBalancerNames_disjoint_iff :
    (loadBalancerNames lb).Disjoint (loadBalancerNames lb') ↔
      (loadBalancerText lb = loadBalancerText lb' → ¬ SharePort lb lb') := by
  constructor
  · rintro disjoint texts ⟨entry, member, entry', member', shared⟩
    have same := loadBalancerIdentifier_eq_iff.mpr ⟨texts, shared⟩
    exact disjoint (mem_loadBalancerNames.mpr ⟨entry, member, same⟩)
      (mem_loadBalancerNames.mpr ⟨entry', member', rfl⟩)
  · intro apart name inFirst inSecond
    obtain ⟨entry, member, rfl⟩ := mem_loadBalancerNames.mp inFirst
    obtain ⟨entry', member', same⟩ := mem_loadBalancerNames.mp inSecond
    obtain ⟨texts, shared⟩ := loadBalancerIdentifier_eq_iff.mp same.symm
    exact apart texts ⟨entry, member, entry', member', shared⟩

theorem sourceNames_disjoint_iff :
    (sourceNames source).Disjoint (sourceNames source') ↔
      (sourceText source = sourceText source' → ¬ ShareServicePort source.2 source'.2) := by
  constructor
  · rintro disjoint texts ⟨port, member, port', member', shared⟩
    refine disjoint (List.mem_map.mpr ⟨port, member, ?_⟩) (List.mem_map.mpr ⟨port', member', rfl⟩)
    exact routePortIdentifier_eq_iff.mpr ⟨texts, shared⟩
  · intro apart name inFirst inSecond
    obtain ⟨port, member, rfl⟩ := List.mem_map.mp inFirst
    obtain ⟨port', member', same⟩ := List.mem_map.mp inSecond
    obtain ⟨texts, shared⟩ := routePortIdentifier_eq_iff.mp same.symm
    exact apart texts ⟨port, member, port', member', shared⟩

/-- Within a LoadBalancer the index, the port and the protocol tell names apart. -/
theorem loadBalancerNames_nodup
    (ports : ∀ endpoint ∈ lb.spec.endpoints,
      (endpoint.ports.map fun port => (port.port, port.protocol)).Nodup) :
    (loadBalancerNames lb).Nodup := by
  rw [loadBalancerNames_eq, List.nodup_flatMap]
  constructor
  · intro pair member
    have distinct := ports pair.1 (List.fst_mem_of_mem_zipIdx member)
    rw [List.Nodup, List.pairwise_map] at distinct ⊢
    refine distinct.imp fun different same => different ?_
    obtain ⟨_, _, numbers, protocols⟩ := loadBalancerIdentifier_eq_iff.mp same
    exact Prod.ext numbers protocols
  · have indices : (lb.spec.endpoints.zipIdx.map Prod.snd).Nodup := by
      rw [List.zipIdx_map_snd]
      exact List.nodup_range'
    rw [List.Nodup, List.pairwise_map] at indices
    refine indices.imp fun different name inFirst inSecond => different ?_
    obtain ⟨port, _, rfl⟩ := List.mem_map.mp inFirst
    obtain ⟨port', _, same⟩ := List.mem_map.mp inSecond
    exact (loadBalancerIdentifier_eq_iff.mp same.symm).2.1

theorem sourceNames_nodup
    (ports : (source.2.ports.map fun port => (port.port, port.protocol)).Nodup) :
    (sourceNames source).Nodup := by
  rw [sourceNames]
  rw [List.Nodup, List.pairwise_map] at ports ⊢
  refine ports.imp fun different same => different ?_
  obtain ⟨_, numbers, protocols⟩ := routePortIdentifier_eq_iff.mp same
  exact Prod.ext numbers protocols

/-- All names are different when they are so among LoadBalancers, among source services
and between both. -/
theorem names_nodup_iff
    (endpointPorts : ∀ lb ∈ lbs, ∀ endpoint ∈ lb.spec.endpoints,
      (endpoint.ports.map fun port => (port.port, port.protocol)).Nodup)
    (servicePorts : ∀ source ∈ routeSources routes,
      (source.2.ports.map fun port => (port.port, port.protocol)).Nodup) :
    (lbs.flatMap loadBalancerNames ++ (routeSources routes).flatMap sourceNames).Nodup ↔
      LoadBalancersApart lbs ∧ SourcesApart routes ∧
        ∀ lb ∈ lbs, ∀ name ∈ loadBalancerNames lb,
          ∀ source ∈ routeSources routes, name ∉ sourceNames source := by
  have ofLBs : (lbs.flatMap loadBalancerNames).Nodup ↔ LoadBalancersApart lbs := by
    rw [List.nodup_flatMap]
    refine (and_iff_right fun lb listed =>
      loadBalancerNames_nodup (endpointPorts lb listed)).trans ?_
    exact List.Pairwise.iff fun _ _ => loadBalancerNames_disjoint_iff
  have ofSources : ((routeSources routes).flatMap sourceNames).Nodup ↔ SourcesApart routes := by
    rw [List.nodup_flatMap]
    refine (and_iff_right fun source listed =>
      sourceNames_nodup (servicePorts source listed)).trans ?_
    exact List.Pairwise.iff fun _ _ => sourceNames_disjoint_iff
  rw [List.nodup_append, ofLBs, ofSources]
  refine and_congr_right fun _ => and_congr_right fun _ => ?_
  constructor
  · intro apart lb listed name member source listed' member'
    exact apart name (List.mem_flatMap.mpr ⟨lb, listed, member⟩) name
      (List.mem_flatMap.mpr ⟨source, listed', member'⟩) rfl
  · rintro apart name inLBs _ inSources rfl
    obtain ⟨lb, listed, member⟩ := List.mem_flatMap.mp inLBs
    obtain ⟨source, listed', member'⟩ := List.mem_flatMap.mp inSources
    exact apart lb listed name member source listed' member'

end

section
variable {get : ObjectKey → Except String (List EndpointAddress)} {lbs : List LoadBalancer}
  {routes : List Route} {pa : PortAllocator} {snapshot : Snapshot}

def routeNames (route : Route) : List String :=
  route.sourceServices.flatMap fun svc => sourceNames (route, svc)

theorem flatMap_routeNames (routes : List Route) :
    routes.flatMap routeNames = (routeSources routes).flatMap sourceNames := by
  simp only [routeSources, List.flatMap_assoc, List.flatMap_map]
  rfl

/-- The ports of the source services, each with its service and Route. -/
def routeEntries (routes : List Route) : List ((Route × Service) × ServicePort) :=
  (routeSources routes).flatMap fun source => source.2.ports.map fun port => (source, port)

theorem flatMap_sourceNames (routes : List Route) :
    (routeEntries routes).map (fun entry => routePortIdentifier entry.1.1 entry.1.2 entry.2) =
      (routeSources routes).flatMap sourceNames := by
  simp only [routeEntries, List.map_flatMap, List.map_map]
  rfl

theorem flatMap_routeListeners (pa : PortAllocator) (routes : List Route) :
    routes.flatMap (routeListeners pa) =
      (routeEntries routes).filterMap fun entry =>
        routeListener pa entry.1.1 entry.1.2 entry.2 := by
  simp only [routeEntries, routeSources, List.flatMap_assoc, List.flatMap_map,
    List.filterMap_flatMap, List.filterMap_map]
  rfl

theorem name_of_routeListener {route : Route} {svc : Service} {port : ServicePort}
    {listener : Listener} (built : routeListener pa route svc port = some listener) :
    listener.name = routePortIdentifier route svc port := by
  rw [routeListener] at built
  split at built
  · split at built
    · cases built
      rfl
    · cases built
      rfl
  · cases built
    rfl
  · cases built

theorem resolveLoadBalancer_names {lb resolved : LoadBalancer} {before after : AddressesMap}
    (returned : resolveLoadBalancer get lb before = .ok (resolved, after)) :
    (loadBalancerClusters resolved).map Cluster.name = loadBalancerNames lb := by
  have ports := resolveLoadBalancer_ports returned
  obtain ⟨endpoints, _, _, returned⟩ := stateT_bind_eq_ok.mp returned
  cases returned
  rw [loadBalancerClusters_eq, List.map_map]
  change loadBalancerNames _ = _
  rw [loadBalancerNames_eq, loadBalancerNames_eq]
  exact zipIdx_flatMap_congr_ports (fun i => List.map (loadBalancerIdentifier lb i)) ports 0

theorem resolveRoute_names {route resolved : Route} {before after : AddressesMap}
    (returned : resolveRoute get route before = .ok (resolved, after)) :
    (routeClusters resolved).map Cluster.name = routeNames route := by
  have names (route : Route) : (routeClusters route).map Cluster.name = routeNames route := by
    simp only [routeClusters, List.map_flatMap, List.map_map]
    rfl
  by_cases skipped : route.spec.kubernetes = none
  · rw [resolveRoute, if_pos skipped] at returned
    cases returned
    exact names route
  · rw [resolveRoute, if_neg skipped] at returned
    obtain ⟨endpoints, _, _, returned⟩ := stateT_bind_eq_ok.mp returned
    cases returned
    exact names _

theorem mapSnapshot_clusterNames (built : mapSnapshot get lbs routes pa = .ok snapshot) :
    snapshot.clusters.map Cluster.name =
      lbs.flatMap loadBalancerNames ++ (routeSources routes).flatMap sourceNames := by
  obtain ⟨⟨lbs', addressesMap⟩, resolvedLBs, returned⟩ := bind_eq_ok.mp built
  obtain ⟨⟨routes', _⟩, resolvedRoutes, returned⟩ := bind_eq_ok.mp returned
  cases returned
  have fromLBs : List.Forall₂ (fun lb resolved =>
      (loadBalancerClusters resolved).map Cluster.name = loadBalancerNames lb) lbs lbs' := by
    refine forall₂_of_mapM ?_ resolvedLBs
    exact fun _ _ _ _ => resolveLoadBalancer_names
  have fromRoutes : List.Forall₂ (fun route resolved =>
      (routeClusters resolved).map Cluster.name = routeNames route) routes routes' := by
    refine forall₂_of_mapM ?_ resolvedRoutes
    exact fun _ _ _ _ => resolveRoute_names
  rw [← flatMap_routeNames, List.map_append, List.map_flatMap, List.map_flatMap,
    flatMap_congr_forall₂ fromLBs, flatMap_congr_forall₂ fromRoutes]

theorem mapSnapshot_listenerNames (built : mapSnapshot get lbs routes pa = .ok snapshot) :
    (snapshot.listeners.map Listener.name).Sublist (snapshot.clusters.map Cluster.name) := by
  have ofLBs : ((lbs.flatMap (loadBalancerListeners pa)).map Listener.name).Sublist
      (lbs.flatMap loadBalancerNames) := by
    have names : (lbs.flatMap loadBalancerEntries).map LoadBalancerEntry.identifier =
        lbs.flatMap loadBalancerNames := List.map_flatMap
    rw [flatMap_loadBalancerListeners, ← names]
    exact map_filterMap_sublist (fun _ _ => name_of_listener) _
  have ofSources : ((routes.flatMap (routeListeners pa)).map Listener.name).Sublist
      ((routeSources routes).flatMap sourceNames) := by
    rw [flatMap_routeListeners, ← flatMap_sourceNames]
    exact map_filterMap_sublist (fun _ _ => name_of_routeListener) _
  rw [mapSnapshot_listeners built, mapSnapshot_clusterNames built, List.map_append]
  exact ofLBs.append ofSources

/-- Nothing is dropped if the clusters have different names: the counts and the listeners
follow. -/
theorem dropsNothing_iff (built : mapSnapshot get lbs routes pa = .ok snapshot) :
    DropsNothing snapshot ↔
      (lbs.flatMap loadBalancerNames ++ (routeSources routes).flatMap sourceNames).Nodup := by
  rw [← mapSnapshot_clusterNames built]
  constructor
  · exact DropsNothing.clusters
  · intro clusters
    have listeners := clusters.sublist (mapSnapshot_listenerNames built)
    exact ⟨clusters, listeners, (card_indexBy_iff _ _).mpr clusters,
      (card_indexBy_iff _ _).mpr listeners⟩

/-- The UID ends in two groups without hyphens, the first of which is not the word that
stands before an endpoint index. Every UUID does. -/
def GroupedEnd (uid : String) : Prop :=
  ∃ front group last, uid = front ++ "-" ++ group ++ "-" ++ last ∧ Lacks '-' group ∧
    Lacks '-' last ∧ group ≠ "ep"

theorem loadBalancerIdentifier_ne {lb : LoadBalancer} {i : Nat} {port : EndpointPort}
    {source : Route × Service} {port' : ServicePort} (grouped : GroupedEnd source.2.uid) :
    loadBalancerIdentifier lb i port ≠ routePortIdentifier source.1 source.2 port' := by
  intro same
  obtain ⟨front, group, last, uid, lacksGroup, lacksLast, other⟩ := grouped
  have texts : envoyEndpointPattern lb.ns lb.name i = sourceText source := (portSuffix_inj same).1
  have ofLB : envoyEndpointPattern lb.ns lb.name i =
      (lb.ns ++ "-" ++ lb.name) ++ "-" ++ "ep" ++ "-" ++ i.repr := by
    simp only [envoyEndpointPattern, String.append_assoc]
    rfl
  have ofSource : sourceText source =
      (routeEndpointKey source.1 source.2 ++ "-svc-" ++ front) ++ "-" ++ group ++ "-" ++ last := by
    simp only [sourceText, uid, String.append_assoc]
  rw [ofLB, ofSource] at texts
  obtain ⟨texts, _⟩ := joined_inj_last (lacks_repr i) lacksLast texts
  obtain ⟨_, groups⟩ := joined_inj_last (by decide) lacksGroup texts
  exact other groups.symm

/-- MapSnapshot drops nothing exactly when the names tell the LoadBalancers apart and the
source services apart, and no LoadBalancer has a name of a source service. The last
is so for UIDs that are UUIDs. -/
theorem mapSnapshot_dropsNothing_iff (built : mapSnapshot get lbs routes pa = .ok snapshot)
    (endpointPorts : ∀ lb ∈ lbs, ∀ endpoint ∈ lb.spec.endpoints,
      (endpoint.ports.map fun port => (port.port, port.protocol)).Nodup)
    (servicePorts : ∀ source ∈ routeSources routes,
      (source.2.ports.map fun port => (port.port, port.protocol)).Nodup) :
    (DropsNothing snapshot ↔ LoadBalancersApart lbs ∧ SourcesApart routes ∧
      ∀ lb ∈ lbs, ∀ name ∈ loadBalancerNames lb,
        ∀ source ∈ routeSources routes, name ∉ sourceNames source) ∧
    ((∀ source ∈ routeSources routes, GroupedEnd source.2.uid) →
      (DropsNothing snapshot ↔ LoadBalancersApart lbs ∧ SourcesApart routes)) := by
  have exactly := (dropsNothing_iff built).trans (names_nodup_iff endpointPorts servicePorts)
  refine ⟨exactly, fun grouped => exactly.trans ?_⟩
  refine and_congr_right fun _ => and_iff_left ?_
  intro lb _ name member source listed member'
  obtain ⟨entry, _, rfl⟩ := mem_loadBalancerNames.mp member
  obtain ⟨port, _, same⟩ := List.mem_map.mp member'
  exact loadBalancerIdentifier_ne (grouped source listed) same.symm

end

private def webService : Service :=
  { name := "web", ns := "default", uid := "3f2504e0-4f89-41d3-9a0c-0305e82c3301"
    type := .nodePort, ports := [{ port := 80, nodePort := 30080 }] }

private def docsService : Service :=
  { name := "docs", ns := "default", uid := "7c9e6679-7425-40de-944b-e07fc1f90ae7"
    type := .nodePort, ports := [{ port := 80, nodePort := 30081 }] }

private def webAddresses (_ : ObjectKey) : Except String (List EndpointAddress) :=
  .ok [⟨"10.0.0.1", ""⟩]

private def siteRoute (kind name uid : String) (services : List Service) : Route :=
  generateRoute { kind := kind, name := name, ns := "default", uid := uid } services "tenant-a"

private def hyphenLoadBalancer (ns name : String) (port : Int) : LoadBalancer :=
  { ns := ns, name := name
    spec := { endpoints := [{ ports := [⟨"http", port, .tcp⟩] }] } }

/-- Two LoadBalancers whose namespaces and names join to one text, with different ports,
and two Routes that share a service. -/
theorem mapSnapshot_dropsNothing_shared_service :
    let lbs := [hyphenLoadBalancer "tenant-a" "b-web" 30090,
      hyphenLoadBalancer "tenant-a-b" "web" 30091]
    let routes := [siteRoute "Ingress" "shop" "a1" [webService, docsService],
      siteRoute "HTTPRoute" "wiki" "b2" [webService]]
    ∃ snapshot, mapSnapshot webAddresses lbs routes newPortAllocator = .ok snapshot ∧
      snapshot.clusters.length = 5 ∧ DropsNothing snapshot := by
  intro lbs routes
  obtain ⟨snapshot, built⟩ : ∃ snapshot,
      mapSnapshot webAddresses lbs routes newPortAllocator = .ok snapshot := ⟨_, rfl⟩
  have five : snapshot.clusters.length = 5 := by
    rw [← List.length_map (f := Cluster.name), mapSnapshot_clusterNames built]
    rfl
  refine ⟨snapshot, built, five, ?_⟩
  have sources : routeSources routes =
      [(siteRoute "Ingress" "shop" "a1" [webService, docsService], webService),
        (siteRoute "Ingress" "shop" "a1" [webService, docsService], docsService),
        (siteRoute "HTTPRoute" "wiki" "b2" [webService], webService)] := rfl
  refine ((mapSnapshot_dropsNothing_iff built (by decide) ?_).2 ?_).mpr ⟨?_, ?_⟩
  · intro source member
    simp only [sources, List.mem_cons, List.not_mem_nil, or_false] at member
    obtain rfl | rfl | rfl := member <;> decide
  · have web : GroupedEnd webService.uid :=
      ⟨"3f2504e0-4f89-41d3", "9a0c", "0305e82c3301", by decide, by decide, by decide, by decide⟩
    have docs : GroupedEnd docsService.uid :=
      ⟨"7c9e6679-7425-40de", "944b", "e07fc1f90ae7", by decide, by decide, by decide, by decide⟩
    intro source member
    simp only [sources, List.mem_cons, List.not_mem_nil, or_false] at member
    obtain rfl | rfl | rfl := member
    · exact web
    · exact docs
    · exact web
  · unfold LoadBalancersApart SharePort
    decide
  · rw [SourcesApart, sources]
    unfold ShareServicePort
    decide

/-- An Ingress and an HTTPRoute of one name that share a service: two clusters and two
listeners are built, and the cache holds one of each. -/
theorem mapSnapshot_same_name_dropped :
    let routes := [siteRoute "Ingress" "shop" "a1" [webService],
      siteRoute "HTTPRoute" "shop" "b2" [webService]]
    let name := "tenant-tenant-a-route-default-web-shop-svc-" ++
      "3f2504e0-4f89-41d3-9a0c-0305e82c3301-port-80-TCP"
    ∃ snapshot, mapSnapshot webAddresses [] routes newPortAllocator = .ok snapshot ∧
      snapshot.clusters.map Cluster.name = [name, name] ∧
      snapshot.listeners.map Listener.name = [name, name] ∧
      (indexBy Cluster.name snapshot.clusters).keys.card = 1 ∧
      (indexBy Listener.name snapshot.listeners).keys.card = 1 ∧
      ¬ DropsNothing snapshot := by
  refine ⟨_, rfl, by decide, by decide, by decide, by decide, fun nothing => ?_⟩
  exact absurd nothing.clusters (by decide)

end KubeLB
