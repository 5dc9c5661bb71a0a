import KubeLB.Route.Source

/-!
Isolation between objects that share the allocator.

An object is only known to the allocator by its endpoint keys. Work for one
object leaves another one alone exactly when the two have no endpoint key in
common, and the keys of different objects can be equal: the parts of a key are
joined by hyphens and may contain hyphens, and the key of a Route holds neither
the kind nor the namespace of the resource the Route is made from.
-/

namespace KubeLB.PortAllocator
open FiniteMap

/-- Lookup gives the same for every endpoint key and port key of the requests. -/
def Undisturbed (requests : List (String × List String)) (pa pa' : PortAllocator) : Prop :=
  ∀ e portKeys k, (e, portKeys) ∈ requests → k ∈ portKeys → pa'.lookup e k = pa.lookup e k

/-- Neither allocating nor deallocating for the one set of requests disturbs the
other, whatever the state and the draws. -/
def Isolated (own other : List (String × List String)) : Prop :=
  (∀ pa draws pa' rest, pa.allocateAll own draws = some (pa', rest) →
    Undisturbed other pa pa') ∧
  ∀ pa, Undisturbed other pa (pa.deallocateEndpoints (own.map Prod.fst))

theorem isolated_iff_disjoint (own other : List (String × List String)) :
    Isolated own other ↔
      ∀ e portKeys, (e, portKeys) ∈ other → portKeys ≠ [] → e ∉ own.map Prod.fst := by
  constructor
  · intro isolated e portKeys member nonempty shared
    obtain ⟨k, rest, rfl⟩ := List.exists_cons_of_ne_nil nonempty
    -- A table with one entry, which the deallocation deletes.
    let pa := recomputeAvailablePorts
      ((∅ : LookupTable).insert e ((∅ : FiniteMap String Int).insert k 0))
    have before : pa.lookup e k = some 0 := by
      simp [pa, lookup_recompute, lookup₂, Finmap.lookup_insert]
    have after := isolated.2 pa e (k :: rest) k member List.mem_cons_self
    rw [lookup_deallocateEndpoints, if_pos shared, before] at after
    cases after
  · intro disjoint
    refine ⟨?_, ?_⟩
    · intro pa draws pa' rest returned e portKeys k member inKeys
      have absent := disjoint e portKeys member (List.ne_nil_of_mem inKeys)
      exact allocateAll_frame absent returned k
    · intro pa e portKeys k member inKeys
      have absent := disjoint e portKeys member (List.ne_nil_of_mem inKeys)
      rw [lookup_deallocateEndpoints, if_neg absent]

/-- Exactly when work for a LoadBalancer leaves the ports of a LoadBalancer in
another tenant namespace alone. -/
theorem loadBalancer_isolated_iff (x y : LoadBalancer) (_tenants : x.ns ≠ y.ns) :
    ((∀ pa draws pa' rest, pa.allocatePortsForLoadBalancers [x] draws = some (pa', rest) →
        Undisturbed (loadBalancerRequests y) pa pa') ∧
      ∀ pa, Undisturbed (loadBalancerRequests y) pa (pa.deallocatePortsForLoadBalancer x)) ↔
    (x.ns ++ "-" ++ x.name ≠ y.ns ++ "-" ++ y.name ∨
      ∀ i endpoint, i < x.spec.endpoints.length → y.spec.endpoints[i]? = some endpoint →
        endpoint.ports = []) := by
  have isolated : ((∀ pa draws pa' rest,
      pa.allocatePortsForLoadBalancers [x] draws = some (pa', rest) →
        Undisturbed (loadBalancerRequests y) pa pa') ∧
      ∀ pa, Undisturbed (loadBalancerRequests y) pa (pa.deallocatePortsForLoadBalancer x)) ↔
      Isolated (loadBalancerRequests x) (loadBalancerRequests y) := by
    simp only [allocatePortsForLoadBalancers, List.flatMap_cons, List.flatMap_nil,
      List.append_nil, deallocatePortsForLoadBalancer, Isolated]
  rw [isolated, isolated_iff_disjoint]
  constructor
  · intro disjoint
    by_cases joined : x.ns ++ "-" ++ x.name = y.ns ++ "-" ++ y.name
    · refine Or.inr fun i endpoint bound found => ?_
      by_contra nonempty
      refine disjoint _ _ (mem_loadBalancerRequests.mpr ⟨i, endpoint, found, rfl, rfl⟩)
        (by simpa using nonempty) (mem_loadBalancerKeys.mpr ⟨i, bound, ?_⟩)
      exact envoyEndpointPattern_eq_iff.mpr ⟨joined.symm, rfl⟩
    · exact Or.inl joined
  · rintro cond e portKeys member nonempty shared
    obtain ⟨i, endpoint, found, rfl, rfl⟩ := mem_loadBalancerRequests.mp member
    obtain ⟨j, bound, same⟩ := mem_loadBalancerKeys.mp shared
    obtain ⟨joined, rfl⟩ := envoyEndpointPattern_eq_iff.mp same
    cases cond with
    | inl distinct => exact distinct joined.symm
    | inr empty => exact nonempty (by simp [empty i endpoint bound found])

theorem loadBalancer_isolated_iff_tenants_a_b :
    let lb (ns name : String) (port : Int) : LoadBalancer :=
      { ns := ns, name := name
        spec := { endpoints := [{ ports := [{ port := port, protocol := .tcp }] }] } }
    let x := lb "tenant-a" "web" 30080
    let y := lb "tenant-b" "web" 30080
    x.ns ≠ y.ns ∧ ∀ pa,
      Undisturbed (loadBalancerRequests y) pa (pa.deallocatePortsForLoadBalancer x) := by
  intro lb x y
  refine ⟨by decide, ?_⟩
  exact ((loadBalancer_isolated_iff x y (by decide)).mpr (Or.inl (by decide))).2

/-- Tenant `a` names a LoadBalancer `b-web`; its allocation deletes the port of
the LoadBalancer `web` of tenant `a-b`. -/
theorem loadBalancer_allocation_crosses_tenants :
    let lb (ns name : String) (port : Int) : LoadBalancer :=
      { ns := ns, name := name
        spec := { endpoints := [{ ports := [{ port := port, protocol := .tcp }] }] } }
    let x := lb "tenant-a" "b-web" 30443
    let y := lb "tenant-a-b" "web" 30080
    ∃ pa pa', newPortAllocator.allocatePortsForLoadBalancers [y] [0] = some (pa, []) ∧
      pa.allocatePortsForLoadBalancers [x] [1] = some (pa', []) ∧
      pa.lookup "tenant-a-b-web-ep-0" "30080-TCP" = some 10000 ∧
      pa'.lookup "tenant-a-b-web-ep-0" "30080-TCP" = none ∧
      ¬ Undisturbed (loadBalancerRequests y) pa pa' := by
  intro lb x y
  refine ⟨_, _, rfl, rfl, by decide, by decide, ?_⟩
  intro undisturbed
  have same := undisturbed "tenant-a-b-web-ep-0" ["30080-TCP"] "30080-TCP" (by decide) (by decide)
  exact absurd same (by decide)

theorem mem_routeRequests {route : Route} {e : String} {portKeys : List String} :
    (e, portKeys) ∈ routeRequests route ↔ ∃ svc ∈ route.sourceServices,
      e = routeEndpointKey route svc ∧ portKeys = svc.ports.map servicePortKey := by
  simp only [routeRequests, List.mem_map, Prod.mk.injEq]
  constructor
  · rintro ⟨svc, member, rfl, rfl⟩
    exact ⟨svc, member, rfl, rfl⟩
  · rintro ⟨svc, member, rfl, rfl⟩
    exact ⟨svc, member, rfl, rfl⟩

/-- Exactly when work for a generated Route leaves the ports of another one alone. -/
theorem route_isolated_iff (resource resource' : Resource) (services services' : List Service)
    (ns ns' : String)
    (_distinct : (generateRoute resource services ns).objectKey ≠
      (generateRoute resource' services' ns').objectKey) :
    let x := generateRoute resource services ns
    let y := generateRoute resource' services' ns'
    let sourceName (r : Resource) := if r.name ≠ "" then r.name else r.uid
    ((∀ pa draws pa' rest, pa.allocatePortsForRoutes [x] draws = some (pa', rest) →
        Undisturbed (routeRequests y) pa pa') ∧
      ∀ pa, Undisturbed (routeRequests y) pa (pa.deallocatePortsForRoute x)) ↔
    ∀ svc ∈ services, ∀ svc' ∈ services', svc'.ports ≠ [] →
      envoyEndpointRoutePattern ns svc.ns svc.name (sourceName resource) ≠
        envoyEndpointRoutePattern ns' svc'.ns svc'.name (sourceName resource') := by
  intro x y sourceName
  have keyX (svc : Service) : routeEndpointKey x svc =
      envoyEndpointRoutePattern ns svc.ns svc.name (sourceName resource) :=
    congrArg _ (originalRouteName_generateRoute resource services ns)
  have keyY (svc : Service) : routeEndpointKey y svc =
      envoyEndpointRoutePattern ns' svc.ns svc.name (sourceName resource') :=
    congrArg _ (originalRouteName_generateRoute resource' services' ns')
  have isolated : ((∀ pa draws pa' rest,
      pa.allocatePortsForRoutes [x] draws = some (pa', rest) →
        Undisturbed (routeRequests y) pa pa') ∧
      ∀ pa, Undisturbed (routeRequests y) pa (pa.deallocatePortsForRoute x)) ↔
      Isolated (routeRequests x) (routeRequests y) := by
    simp only [allocatePortsForRoutes, List.flatMap_cons, List.flatMap_nil, List.append_nil,
      Isolated]
    rfl
  rw [isolated, isolated_iff_disjoint]
  constructor
  · intro disjoint svc member svc' member' nonempty same
    refine disjoint _ _ (mem_routeRequests.mpr ⟨svc', member', rfl, rfl⟩)
      (by simpa using nonempty) ?_
    rw [keyY, ← same, ← keyX]
    exact List.mem_map.mpr ⟨_, mem_routeRequests.mpr ⟨svc, member, rfl, rfl⟩, rfl⟩
  · rintro separate e portKeys member nonempty shared
    obtain ⟨svc', member', rfl, rfl⟩ := mem_routeRequests.mp member
    obtain ⟨⟨e, portKeys⟩, requested, same⟩ := List.mem_map.mp shared
    obtain ⟨svc, member, rfl, _⟩ := mem_routeRequests.mp requested
    refine separate svc member svc' member' (by simpa using nonempty) ?_
    rw [← keyX, ← keyY]
    exact same

theorem route_isolated_iff_two_names :
    let web : Service := { ns := "default", name := "web-nodeport", ports := [{ port := 80 }] }
    let x := generateRoute { kind := "Ingress", ns := "default", name := "a", uid := "u-1" }
      [web] "tenant-t"
    let y := generateRoute { kind := "Ingress", ns := "default", name := "b", uid := "u-2" }
      [web] "tenant-t"
    x.objectKey ≠ y.objectKey ∧
      ∀ pa, Undisturbed (routeRequests y) pa (pa.deallocatePortsForRoute x) := by
  intro web x y
  refine ⟨by decide, ?_⟩
  refine ((route_isolated_iff { kind := "Ingress", ns := "default", name := "a", uid := "u-1" }
    { kind := "Ingress", ns := "default", name := "b", uid := "u-2" } [web] [web]
    "tenant-t" "tenant-t" (by decide)).mpr ?_).2
  decide

/-- An Ingress and an HTTPRoute of one name with a common backend: deleting the
one frees the port of the other. -/
theorem route_deallocation_crosses_kinds :
    let web : Service := { ns := "default", name := "web-nodeport", ports := [{ port := 80 }] }
    let x := generateRoute { kind := "Ingress", ns := "default", name := "app", uid := "u-1" }
      [web] "tenant-t"
    let y := generateRoute { kind := "HTTPRoute", ns := "default", name := "app", uid := "u-2" }
      [web] "tenant-t"
    x.objectKey ≠ y.objectKey ∧
    ∃ pa, newPortAllocator.allocatePortsForRoutes [y] [0] = some (pa, []) ∧
      pa.lookup "tenant-tenant-t-route-default-web-nodeport-app" "80-TCP" = some 10000 ∧
      (pa.deallocatePortsForRoute x).lookup
        "tenant-tenant-t-route-default-web-nodeport-app" "80-TCP" = none ∧
      ¬ Undisturbed (routeRequests y) pa (pa.deallocatePortsForRoute x) := by
  intro web x y
  refine ⟨by decide, _, rfl, by decide, by decide, ?_⟩
  intro undisturbed
  have same := undisturbed "tenant-tenant-t-route-default-web-nodeport-app" ["80-TCP"] "80-TCP"
    (by decide) (by decide)
  exact absurd same (by decide)

end KubeLB.PortAllocator
