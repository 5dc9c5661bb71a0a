import KubeLB.Envoy.Snapshot

/-!
The addresses that MapSnapshot fills in.

One map serves all LoadBalancers and Routes. Its keys are texts made from the
namespace and the name of an Addresses object, and a text may be that of two
objects. Where references with one text read the same, the map changes nothing:
every endpoint has the addresses it would have if each reference was read anew.
-/

namespace KubeLB
open FiniteMap Fallible

section
variable (get : ObjectKey → Except String (List EndpointAddress))

def fetchEndpoint (ns : String) (endpoint : LoadBalancerEndpoints) :
    Except String LoadBalancerEndpoints :=
  match endpoint.addressesReference with
  | none => .ok endpoint
  | some name =>
      match get ⟨ns, name⟩ with
      | .error err => .error ("failed to get addresses: " ++ err)
      | .ok addresses => .ok { endpoint with addresses := addresses }

def fetchLoadBalancer (lb : LoadBalancer) : Except String LoadBalancer := do
  let endpoints ← lb.spec.endpoints.mapM (fetchEndpoint get lb.ns)
  return { lb with spec := { lb.spec with endpoints := endpoints } }

def fetchRoute (route : Route) : Except String Route :=
  if route.spec.kubernetes = none then pure route
  else do
    let endpoints ← route.spec.endpoints.mapM (fetchEndpoint get route.ns)
    return { route with spec := { route.spec with endpoints := endpoints } }

def fetchObjects (lbs : List LoadBalancer) (routes : List Route) :
    Except String (List LoadBalancer × List Route) := do
  let lbs ← lbs.mapM (fetchLoadBalancer get)
  let routes ← routes.mapM (fetchRoute get)
  return (lbs, routes)

/-- The objects with the addresses that MapSnapshot uses for them. -/
def resolveObjects (lbs : List LoadBalancer) (routes : List Route) :
    Except String (List LoadBalancer × List Route) := do
  let (lbs, addressesMap) ← lbs.mapM (resolveLoadBalancer get) ∅
  let (routes, _) ← routes.mapM (resolveRoute get) addressesMap
  return (lbs, routes)

end

def snapshotOf (pa : PortAllocator) (objects : List LoadBalancer × List Route) : Snapshot where
  clusters := objects.1.flatMap loadBalancerClusters ++ objects.2.flatMap routeClusters
  listeners := objects.1.flatMap (loadBalancerListeners pa) ++
    objects.2.flatMap (routeListeners pa)

/-- An Addresses object that an endpoint of a listed object refers to. -/
inductive Referenced (lbs : List LoadBalancer) (routes : List Route) : ObjectKey → Prop
  | loadBalancer {lb endpoint name} (listed : lb ∈ lbs) (member : endpoint ∈ lb.spec.endpoints)
      (refers : endpoint.addressesReference = some name) : Referenced lbs routes ⟨lb.ns, name⟩
  | route {route endpoint name} (listed : route ∈ routes) (source : route.spec.kubernetes ≠ none)
      (member : endpoint ∈ route.spec.endpoints)
      (refers : endpoint.addressesReference = some name) : Referenced lbs routes ⟨route.ns, name⟩

section
variable {get : ObjectKey → Except String (List EndpointAddress)} {lbs : List LoadBalancer}
  {routes : List Route}

theorem mapSnapshot_eq (pa : PortAllocator) :
    mapSnapshot get lbs routes pa = (resolveObjects get lbs routes).map (snapshotOf pa) := by
  rw [mapSnapshot, resolveObjects]
  cases lbs.mapM (resolveLoadBalancer get) ∅ with
  | error err => rfl
  | ok fromLBs =>
      change (routes.mapM (resolveRoute get) fromLBs.2 >>= _) =
        (routes.mapM (resolveRoute get) fromLBs.2 >>= _).map _
      cases routes.mapM (resolveRoute get) fromLBs.2 with
      | error err => rfl
      | ok fromRoutes => rfl

def AddressesAgree (get : ObjectKey → Except String (List EndpointAddress))
    (lbs : List LoadBalancer) (routes : List Route) : Prop :=
  ∀ key key', Referenced lbs routes key → Referenced lbs routes key' →
    endpointAddressReferencePattern key.ns key.name =
      endpointAddressReferencePattern key'.ns key'.name → get key = get key'

def Caches (get : ObjectKey → Except String (List EndpointAddress)) (lbs : List LoadBalancer)
    (routes : List Route) (addressesMap : AddressesMap) : Prop :=
  ∀ key addresses, Referenced lbs routes key →
    addressesMap.lookup (endpointAddressReferencePattern key.ns key.name) = some addresses →
      get key = .ok addresses

theorem resolveEndpoint_eq_fetch (agree : AddressesAgree get lbs routes) {ns : String}
    {endpoint : LoadBalancerEndpoints}
    (listed : ∀ name, endpoint.addressesReference = some name →
      Referenced lbs routes ⟨ns, name⟩)
    {addressesMap : AddressesMap} (caches : Caches get lbs routes addressesMap) :
    ∃ addressesMap', resolveEndpoint get ns endpoint addressesMap =
        (fetchEndpoint get ns endpoint).map (fun resolved => (resolved, addressesMap')) ∧
      Caches get lbs routes addressesMap' := by
  cases refers : endpoint.addressesReference with
  | none =>
      refine ⟨addressesMap, ?_, caches⟩
      simp only [resolveEndpoint, fetchEndpoint, refers, Except.map]
  | some name =>
      have referenced := listed name refers
      cases known : addressesMap.lookup (endpointAddressReferencePattern ns name) with
      | some addresses =>
          refine ⟨addressesMap, ?_, caches⟩
          simp only [resolveEndpoint, fetchEndpoint, refers, known,
            caches _ addresses referenced known, Except.map]
      | none =>
          cases answer : get ⟨ns, name⟩ with
          | error err =>
              refine ⟨addressesMap, ?_, caches⟩
              simp only [resolveEndpoint, fetchEndpoint, refers, known, answer, Except.map]
          | ok addresses =>
              refine ⟨addressesMap.insert (endpointAddressReferencePattern ns name) addresses,
                ?_, ?_⟩
              · simp only [resolveEndpoint, fetchEndpoint, refers, known, answer, Except.map]
              · intro key addresses' other found
                by_cases same : endpointAddressReferencePattern key.ns key.name =
                    endpointAddressReferencePattern ns name
                · rw [same, Finmap.lookup_insert] at found
                  cases found
                  rw [agree key ⟨ns, name⟩ other referenced same]
                  exact answer
                · rw [Finmap.lookup_insert_of_ne _ same] at found
                  exact caches key addresses' other found

theorem resolveEndpoints_eq_fetch (agree : AddressesAgree get lbs routes) {ns : String}
    {endpoints : List LoadBalancerEndpoints}
    (listed : ∀ endpoint ∈ endpoints, ∀ name, endpoint.addressesReference = some name →
      Referenced lbs routes ⟨ns, name⟩)
    {addressesMap : AddressesMap} (caches : Caches get lbs routes addressesMap) :
    ∃ addressesMap', endpoints.mapM (resolveEndpoint get ns) addressesMap =
        (endpoints.mapM (fetchEndpoint get ns)).map (fun resolved => (resolved, addressesMap')) ∧
      Caches get lbs routes addressesMap' := by
  refine mapM_eq_map_mapM (fun endpoint member addressesMap caches => ?_) caches
  exact resolveEndpoint_eq_fetch agree (listed endpoint member) caches

theorem resolveLoadBalancer_eq_fetch (agree : AddressesAgree get lbs routes) {lb : LoadBalancer}
    (listed : lb ∈ lbs) {addressesMap : AddressesMap}
    (caches : Caches get lbs routes addressesMap) :
    ∃ addressesMap', resolveLoadBalancer get lb addressesMap =
        (fetchLoadBalancer get lb).map (fun resolved => (resolved, addressesMap')) ∧
      Caches get lbs routes addressesMap' := by
  obtain ⟨addressesMap', looped, kept⟩ := resolveEndpoints_eq_fetch agree
    (fun endpoint member name refers => .loadBalancer listed member refers) caches
  refine ⟨addressesMap', ?_, kept⟩
  change (lb.spec.endpoints.mapM (resolveEndpoint get lb.ns) addressesMap >>= _) = _
  rw [looped, fetchLoadBalancer]
  cases lb.spec.endpoints.mapM (fetchEndpoint get lb.ns) with
  | error err => rfl
  | ok endpoints => rfl

theorem resolveRoute_eq_fetch (agree : AddressesAgree get lbs routes) {route : Route}
    (listed : route ∈ routes) {addressesMap : AddressesMap}
    (caches : Caches get lbs routes addressesMap) :
    ∃ addressesMap', resolveRoute get route addressesMap =
        (fetchRoute get route).map (fun resolved => (resolved, addressesMap')) ∧
      Caches get lbs routes addressesMap' := by
  by_cases skipped : route.spec.kubernetes = none
  · refine ⟨addressesMap, ?_, caches⟩
    rw [resolveRoute, if_pos skipped, fetchRoute, if_pos skipped]
    rfl
  · obtain ⟨addressesMap', looped, kept⟩ := resolveEndpoints_eq_fetch agree
      (fun endpoint member name refers => .route listed skipped member refers) caches
    refine ⟨addressesMap', ?_, kept⟩
    rw [resolveRoute, if_neg skipped, fetchRoute, if_neg skipped]
    change (route.spec.endpoints.mapM (resolveEndpoint get route.ns) addressesMap >>= _) = _
    rw [looped]
    cases route.spec.endpoints.mapM (fetchEndpoint get route.ns) with
    | error err => rfl
    | ok endpoints => rfl

/-- The map changes nothing where references with one key read the same. -/
theorem resolveObjects_eq_fetch (agree : AddressesAgree get lbs routes) :
    resolveObjects get lbs routes = fetchObjects get lbs routes := by
  have empty : Caches get lbs routes ∅ := by
    intro key addresses _ found
    cases found
  obtain ⟨afterLBs, fromLBs, caches⟩ := mapM_eq_map_mapM
    (fun lb listed _ caches => resolveLoadBalancer_eq_fetch agree listed caches) empty
  obtain ⟨afterRoutes, fromRoutes, _⟩ := mapM_eq_map_mapM
    (fun route listed _ caches => resolveRoute_eq_fetch agree listed caches) caches
  rw [resolveObjects, fetchObjects, fromLBs]
  cases lbs.mapM (fetchLoadBalancer get) with
  | error err => rfl
  | ok lbs' =>
      change (routes.mapM (resolveRoute get) afterLBs >>= _) = _
      rw [fromRoutes]
      change _ = (routes.mapM (fetchRoute get) >>= _)
      cases routes.mapM (fetchRoute get) with
      | error err => rfl
      | ok routes' => rfl

end

def filledEndpoint (read : ObjectKey → List EndpointAddress) (ns : String)
    (endpoint : LoadBalancerEndpoints) : LoadBalancerEndpoints :=
  match endpoint.addressesReference with
  | none => endpoint
  | some name => { endpoint with addresses := read ⟨ns, name⟩ }

def filledLoadBalancer (read : ObjectKey → List EndpointAddress) (lb : LoadBalancer) :
    LoadBalancer :=
  { lb with spec := { lb.spec with
      endpoints := lb.spec.endpoints.map (filledEndpoint read lb.ns) } }

def filledRoute (read : ObjectKey → List EndpointAddress) (route : Route) : Route :=
  if route.spec.kubernetes = none then route
  else { route with spec := { route.spec with
    endpoints := route.spec.endpoints.map (filledEndpoint read route.ns) } }

section
variable {get : ObjectKey → Except String (List EndpointAddress)}
  {read : ObjectKey → List EndpointAddress} {lbs : List LoadBalancer} {routes : List Route}

theorem fetchEndpoint_eq_ok {ns : String} {endpoint : LoadBalancerEndpoints}
    (found : ∀ name, endpoint.addressesReference = some name →
      get ⟨ns, name⟩ = .ok (read ⟨ns, name⟩)) :
    fetchEndpoint get ns endpoint = .ok (filledEndpoint read ns endpoint) := by
  rw [fetchEndpoint, filledEndpoint]
  cases refers : endpoint.addressesReference with
  | none => rfl
  | some name => simp only [found name refers]

/-- When all that is referred to can be read, every endpoint gets its addresses. -/
theorem fetchObjects_eq_ok (found : ∀ key, Referenced lbs routes key → get key = .ok (read key)) :
    fetchObjects get lbs routes =
      .ok (lbs.map (filledLoadBalancer read), routes.map (filledRoute read)) := by
  have fromLBs : lbs.mapM (fetchLoadBalancer get) = .ok (lbs.map (filledLoadBalancer read)) := by
    refine mapM_eq_ok fun lb listed => ?_
    rw [fetchLoadBalancer, mapM_eq_ok fun endpoint member =>
      fetchEndpoint_eq_ok fun name refers => found _ (.loadBalancer listed member refers)]
    rfl
  have fromRoutes : routes.mapM (fetchRoute get) = .ok (routes.map (filledRoute read)) := by
    refine mapM_eq_ok fun route listed => ?_
    by_cases skipped : route.spec.kubernetes = none
    · rw [fetchRoute, if_pos skipped, filledRoute, if_pos skipped]
      rfl
    · rw [fetchRoute, if_neg skipped, filledRoute, if_neg skipped,
        mapM_eq_ok fun endpoint member =>
          fetchEndpoint_eq_ok fun name refers => found _ (.route listed skipped member refers)]
      rfl
  rw [fetchObjects, fromLBs, fromRoutes]
  rfl

theorem fetchObjects_congr {get' : ObjectKey → Except String (List EndpointAddress)}
    (same : ∀ key, Referenced lbs routes key → get key = get' key) :
    fetchObjects get lbs routes = fetchObjects get' lbs routes := by
  have endpoint {ns : String} {endpoint : LoadBalancerEndpoints}
      (refers : ∀ name, endpoint.addressesReference = some name →
        get ⟨ns, name⟩ = get' ⟨ns, name⟩) :
      fetchEndpoint get ns endpoint = fetchEndpoint get' ns endpoint := by
    rw [fetchEndpoint, fetchEndpoint]
    cases reference : endpoint.addressesReference with
    | none => rfl
    | some name => simp only [refers name reference]
  have fromLBs : lbs.mapM (fetchLoadBalancer get) = lbs.mapM (fetchLoadBalancer get') := by
    refine mapM_congr fun lb listed => ?_
    rw [fetchLoadBalancer, fetchLoadBalancer, mapM_congr fun _ member => endpoint fun _ refers =>
      same _ (.loadBalancer listed member refers)]
  have fromRoutes : routes.mapM (fetchRoute get) = routes.mapM (fetchRoute get') := by
    refine mapM_congr fun route listed => ?_
    by_cases skipped : route.spec.kubernetes = none
    · rw [fetchRoute, fetchRoute, if_pos skipped, if_pos skipped]
    · rw [fetchRoute, fetchRoute, if_neg skipped, if_neg skipped, mapM_congr fun _ member =>
        endpoint fun _ refers => same _ (.route listed skipped member refers)]
  rw [fetchObjects, fetchObjects, fromLBs, fromRoutes]

theorem exists_of_fetchEndpoint {ns name : String} {endpoint resolved : LoadBalancerEndpoints}
    (returned : fetchEndpoint get ns endpoint = .ok resolved)
    (refers : endpoint.addressesReference = some name) :
    ∃ addresses, get ⟨ns, name⟩ = .ok addresses := by
  simp only [fetchEndpoint, refers] at returned
  cases answer : get ⟨ns, name⟩ with
  | error err =>
      rw [answer] at returned
      cases returned
  | ok addresses => exact ⟨addresses, rfl⟩

theorem found_of_fetchObjects {objects : List LoadBalancer × List Route}
    (returned : fetchObjects get lbs routes = .ok objects) {key : ObjectKey}
    (referenced : Referenced lbs routes key) : ∃ addresses, get key = .ok addresses := by
  obtain ⟨lbs', fromLBs, returned⟩ := bind_eq_ok.mp returned
  obtain ⟨routes', fromRoutes, _⟩ := bind_eq_ok.mp returned
  cases referenced with
  | loadBalancer listed member refers =>
      obtain ⟨lb', fetched⟩ := exists_of_mapM_eq_ok fromLBs listed
      obtain ⟨endpoints, looped, _⟩ := bind_eq_ok.mp fetched
      obtain ⟨endpoint', fetched⟩ := exists_of_mapM_eq_ok looped member
      exact exists_of_fetchEndpoint fetched refers
  | route listed source member refers =>
      obtain ⟨route', fetched⟩ := exists_of_mapM_eq_ok fromRoutes listed
      rw [fetchRoute, if_neg source] at fetched
      obtain ⟨endpoints, looped, _⟩ := bind_eq_ok.mp fetched
      obtain ⟨endpoint', fetched⟩ := exists_of_mapM_eq_ok looped member
      exact exists_of_fetchEndpoint fetched refers

end

end KubeLB
