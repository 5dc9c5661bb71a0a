import KubeLB.PortLookup.AllocatorSpec

/-!
Allocation for LoadBalancers and Routes (internal/port-lookup/mapper.go).

Both forms of allocation are a list of AllocatePorts calls, one for each
endpoint key of the object; both forms of deallocation delete the endpoint keys.
-/

namespace KubeLB
open FiniteMap

/-- The name under which the ports of a Route are kept: that of the resource it
is made from, else the origin label, else its own. -/
def originalRouteName (route : Route) : String :=
  let label := (route.labels.lookup labelOriginName).getD ""
  match route.spec.kubernetes with
  | some source =>
      if source.route.name ≠ "" then source.route.name
      else if label ≠ "" then label
      else route.name
  | none => if label ≠ "" then label else route.name

/-- The source services, none when the Route has no Kubernetes source. -/
def Route.sourceServices (route : Route) : List Service :=
  match route.spec.kubernetes with
  | some source => source.services
  | none => []

theorem sourceServices_eq {route : Route} {source : KubernetesSource}
    (kubernetes : route.spec.kubernetes = some source) :
    route.sourceServices = source.services := by
  rw [Route.sourceServices, kubernetes]

def routeEndpointKey (route : Route) (svc : Service) : String :=
  envoyEndpointRoutePattern route.ns svc.ns svc.name (originalRouteName route)

def endpointPortKey (port : EndpointPort) : String :=
  envoyListenerPattern port.port port.protocol

def servicePortKey (port : ServicePort) : String :=
  envoyListenerPattern port.port port.protocol

/-- The AllocatePorts calls made for a LoadBalancer, by endpoint key and port keys. -/
def loadBalancerRequests (lb : LoadBalancer) : List (String × List String) :=
  lb.spec.endpoints.zipIdx.map fun (endpoint, i) =>
    (envoyEndpointPattern lb.ns lb.name i, endpoint.ports.map endpointPortKey)

/-- The AllocatePorts calls made for a Route. -/
def routeRequests (route : Route) : List (String × List String) :=
  route.sourceServices.map fun svc => (routeEndpointKey route svc, svc.ports.map servicePortKey)

theorem mem_loadBalancerRequests {lb : LoadBalancer} {e : String} {portKeys : List String} :
    (e, portKeys) ∈ loadBalancerRequests lb ↔ ∃ i endpoint,
      lb.spec.endpoints[i]? = some endpoint ∧ e = envoyEndpointPattern lb.ns lb.name i ∧
        portKeys = endpoint.ports.map endpointPortKey := by
  simp only [loadBalancerRequests, List.mem_map, Prod.exists, List.mem_zipIdx_iff_getElem?]
  constructor
  · rintro ⟨endpoint, i, found, same⟩
    cases same
    exact ⟨i, endpoint, found, rfl, rfl⟩
  · rintro ⟨i, endpoint, found, rfl, rfl⟩
    exact ⟨endpoint, i, found, rfl⟩

theorem mem_loadBalancerKeys {lb : LoadBalancer} {e : String} :
    e ∈ (loadBalancerRequests lb).map Prod.fst ↔
      ∃ i, i < lb.spec.endpoints.length ∧ e = envoyEndpointPattern lb.ns lb.name i := by
  simp only [List.mem_map, Prod.exists, exists_and_right, exists_eq_right,
    mem_loadBalancerRequests]
  constructor
  · rintro ⟨portKeys, i, endpoint, found, rfl, _⟩
    exact ⟨i, (List.getElem?_eq_some_iff.mp found).1, rfl⟩
  · rintro ⟨i, bound, rfl⟩
    exact ⟨_, i, lb.spec.endpoints[i], List.getElem?_eq_getElem bound, rfl, rfl⟩

namespace PortAllocator

def allocateAll (pa : PortAllocator) :
    List (String × List String) → List Draw → Option (PortAllocator × List Draw)
  | [], draws => some (pa, draws)
  | (e, portKeys) :: requests, draws => do
      let (pa, _, draws) ← pa.allocatePorts e portKeys draws
      allocateAll pa requests draws

def allocatePortsForLoadBalancers (pa : PortAllocator) (lbs : List LoadBalancer)
    (draws : List Draw) : Option (PortAllocator × List Draw) :=
  pa.allocateAll (lbs.flatMap loadBalancerRequests) draws

def allocatePortsForRoutes (pa : PortAllocator) (routes : List Route)
    (draws : List Draw) : Option (PortAllocator × List Draw) :=
  pa.allocateAll (routes.flatMap routeRequests) draws

def deallocatePortsForRoute (pa : PortAllocator) (route : Route) : PortAllocator :=
  match route.spec.kubernetes with
  | none => pa
  | some _ => pa.deallocateEndpoints ((routeRequests route).map Prod.fst)

def deallocatePortsForLoadBalancer (pa : PortAllocator) (lb : LoadBalancer) : PortAllocator :=
  pa.deallocateEndpoints ((loadBalancerRequests lb).map Prod.fst)

/-- A property of the allocator that each AllocatePorts call keeps is kept by a
list of calls. -/
theorem allocateAll_induct {P : PortAllocator → Prop} {requests : List (String × List String)}
    (keep : ∀ pa pa' e portKeys draws updated rest fresh, (e, portKeys) ∈ requests → P pa →
      Allocated pa e portKeys draws pa' updated rest fresh → P pa')
    {pa pa' : PortAllocator} {draws rest : List Draw} (start : P pa)
    (returned : pa.allocateAll requests draws = some (pa', rest)) : P pa' := by
  induction requests generalizing pa draws with
  | nil =>
      cases returned
      exact start
  | cons request requests ih =>
      obtain ⟨e, portKeys⟩ := request
      obtain ⟨⟨middle, updated, draws'⟩, first, returned⟩ :=
        Option.bind_eq_some_iff.mp returned
      obtain ⟨fresh, allocated⟩ := allocatePorts_spec first
      refine ih ?_ (keep _ _ _ _ _ _ _ _ List.mem_cons_self start allocated) returned
      intro pa₁ pa₂ e' keys ds flag rs new member
      exact keep pa₁ pa₂ e' keys ds flag rs new (List.mem_cons_of_mem _ member)

theorem allocateAll_separated {pa pa' : PortAllocator} {requests : List (String × List String)}
    {draws rest : List Draw} (consistent : pa.Consistent) (separated : pa.Separated)
    (returned : pa.allocateAll requests draws = some (pa', rest)) : pa'.Separated :=
  (allocateAll_induct (P := fun pa => pa.Consistent ∧ pa.Separated)
    (fun _ _ _ _ _ _ _ _ _ holds allocated =>
      ⟨allocated.consistent, allocated.separated holds.1 holds.2⟩)
    ⟨consistent, separated⟩ returned).2

theorem allocateAll_consistent {pa pa' : PortAllocator} {requests : List (String × List String)}
    {draws rest : List Draw} (consistent : pa.Consistent)
    (returned : pa.allocateAll requests draws = some (pa', rest)) : pa'.Consistent :=
  allocateAll_induct (P := Consistent)
    (fun _ _ _ _ _ _ _ _ _ _ allocated => allocated.consistent) consistent returned

theorem mem_allocateAll {pa pa' : PortAllocator} {requests : List (String × List String)}
    {draws rest : List Draw} (returned : pa.allocateAll requests draws = some (pa', rest))
    (e : String) :
    e ∈ pa'.portLookup ↔ e ∈ requests.map Prod.fst ∨ e ∈ pa.portLookup := by
  induction requests generalizing pa draws with
  | nil =>
      cases returned
      simp
  | cons request requests ih =>
      obtain ⟨e', portKeys⟩ := request
      obtain ⟨⟨middle, updated, draws'⟩, first, others⟩ :=
        Option.bind_eq_some_iff.mp returned
      obtain ⟨fresh, allocated⟩ := allocatePorts_spec first
      rw [ih others, allocated.present, List.map_cons, List.mem_cons]
      tauto

theorem allocateAll_frame {pa pa' : PortAllocator} {requests : List (String × List String)}
    {draws rest : List Draw} {e : String} (absent : e ∉ requests.map Prod.fst)
    (returned : pa.allocateAll requests draws = some (pa', rest)) (k : String) :
    pa'.lookup e k = pa.lookup e k := by
  refine allocateAll_induct (P := fun pa' => pa'.lookup e k = pa.lookup e k) ?_ rfl returned
  intro pa₁ pa₂ e' portKeys ds updated rs fresh member holds allocated
  have other : e ≠ e' := by
    rintro rfl
    exact absent (List.mem_map_of_mem member)
  rw [allocated.other e k other, holds]

/-- An entry stays when every call for its endpoint key asks for its port key. -/
theorem allocateAll_keeps {pa pa' : PortAllocator} {requests : List (String × List String)}
    {draws rest : List Draw} {e k : String} {port : Int} (found : pa.lookup e k = some port)
    (asked : ∀ portKeys, (e, portKeys) ∈ requests → k ∈ portKeys)
    (returned : pa.allocateAll requests draws = some (pa', rest)) :
    pa'.lookup e k = some port := by
  refine allocateAll_induct (P := fun pa => pa.lookup e k = some port) ?_ found returned
  intro pa₁ pa₂ e' portKeys ds updated rs fresh member holds allocated
  by_cases own : e = e'
  · subst own
    exact (allocated.own k port).mpr ⟨asked portKeys member, Or.inl holds⟩
  · rw [allocated.other e k own, holds]

theorem allocateAll_covers {pa pa' : PortAllocator} {requests : List (String × List String)}
    {draws rest : List Draw} {e k : String} (member : e ∈ requests.map Prod.fst)
    (asked : ∀ portKeys, (e, portKeys) ∈ requests → k ∈ portKeys)
    (returned : pa.allocateAll requests draws = some (pa', rest)) :
    ∃ port, pa'.lookup e k = some port := by
  induction requests generalizing pa draws with
  | nil => cases member
  | cons request requests ih =>
      obtain ⟨e', portKeys⟩ := request
      obtain ⟨⟨middle, updated, draws'⟩, first, others⟩ :=
        Option.bind_eq_some_iff.mp returned
      have askedLater := fun keys later => asked keys (List.mem_cons_of_mem _ later)
      by_cases own : e = e'
      · subst own
        obtain ⟨fresh, allocated⟩ := allocatePorts_spec first
        have filled := (allocated.isSome_own k).mpr (asked portKeys List.mem_cons_self)
        obtain ⟨port, found⟩ := Option.isSome_iff_exists.mp filled
        exact ⟨port, allocateAll_keeps found askedLater others⟩
      · obtain same | later := List.mem_cons.mp member
        · exact absurd same own
        · exact ih later askedLater others

def lastAsked (requests : List (String × List String)) (e : String) : List String :=
  ((lastWith Prod.fst requests e).map Prod.snd).getD []

/-- An endpoint key that is asked for has exactly the port keys of its last call. -/
theorem isSome_lookup_allocateAll {pa pa' : PortAllocator}
    {requests : List (String × List String)} {draws rest : List Draw} {e : String}
    (member : e ∈ requests.map Prod.fst)
    (returned : pa.allocateAll requests draws = some (pa', rest)) (k : String) :
    (pa'.lookup e k).isSome ↔ k ∈ lastAsked requests e := by
  induction requests generalizing pa draws with
  | nil => cases member
  | cons request requests ih =>
      obtain ⟨e', portKeys⟩ := request
      obtain ⟨⟨middle, updated, draws'⟩, first, others⟩ :=
        Option.bind_eq_some_iff.mp returned
      by_cases later : e ∈ requests.map Prod.fst
      · obtain ⟨request, inLater, isE⟩ := List.mem_map.mp later
        obtain ⟨last, found⟩ := lastWith_isSome Prod.fst inLater
        rw [isE] at found
        rw [ih later others, lastAsked, lastAsked, lastWith, found, Option.some_or]
      · obtain rfl : e = e' := (List.mem_cons.mp member).resolve_right later
        have noneLater : lastWith Prod.fst requests e = none := by
          cases found : lastWith Prod.fst requests e with
          | none => rfl
          | some request =>
              obtain ⟨inLater, isE⟩ := lastWith_eq_some found
              exact absurd (List.mem_map.mpr ⟨request, inLater, isE⟩) later
        obtain ⟨fresh, allocated⟩ := allocatePorts_spec first
        rw [allocateAll_frame later others k, allocated.isSome_own k, lastAsked, lastWith,
          noneLater, Option.none_or, if_pos rfl]
        rfl

theorem allocateAll_valid {pa pa' : PortAllocator} {requests : List (String × List String)}
    {draws rest : List Draw} (valid : pa.Valid)
    (returned : pa.allocateAll requests draws = some (pa', rest)) : pa'.Valid :=
  allocateAll_induct (P := Valid)
    (fun _ _ _ _ _ _ _ _ _ holds allocated => allocated.valid holds) valid returned

end PortAllocator
end KubeLB
