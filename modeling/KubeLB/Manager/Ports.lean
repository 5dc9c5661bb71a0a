import KubeLB.Manager.ProcessSpec

/-!
Where the ports of Services and listeners come from.

Both look a port up and fall back to a port of the spec when the table has
none. When nothing falls back, the ports of a Service and of a snapshot are
those of the table, each under the key of its endpoint, and the name of a
LoadBalancer's listener gives that key back.
-/

namespace KubeLB
open FiniteMap PortAllocator Joined

def loadBalancerKey (lb : LoadBalancer) (i : Nat) : String := envoyEndpointPattern lb.ns lb.name i

def IsLoadBalancerKey (e : String) : Prop := ∃ lb i, e = loadBalancerKey lb i

def targetPortKey (endpoint : LoadBalancerEndpoints) (pair : LoadBalancerPort × EndpointPort) :
    String :=
  envoyListenerPattern (targetEndpointPort endpoint.ports pair.1 pair.2).port pair.1.protocol

def ServicePortsAllocated (pa : PortAllocator) (lb : LoadBalancer) : Prop :=
  ∀ endpoint ∈ lb.spec.endpoints.head?, ∀ pair ∈ lb.spec.ports.zip endpoint.ports,
    (pa.lookup (loadBalancerKey lb 0) (targetPortKey endpoint pair)).isSome

instance (pa : PortAllocator) (lb : LoadBalancer) : Decidable (ServicePortsAllocated pa lb) :=
  inferInstanceAs (Decidable (∀ endpoint ∈ lb.spec.endpoints.head?, _))

def ListenersAllocated (pa : PortAllocator) (lbs : List LoadBalancer) (routes : List Route) :
    Prop :=
  (∀ lb ∈ lbs, ∀ pair ∈ lb.spec.endpoints.zipIdx, ∀ port ∈ pair.1.ports,
    (pa.lookup (loadBalancerKey lb pair.2) (endpointPortKey port)).isSome) ∧
  ∀ route ∈ routes, ∀ svc ∈ route.sourceServices, ∀ port ∈ svc.ports,
    (pa.lookup (routeEndpointKey route svc) (servicePortKey port)).isSome

instance (pa : PortAllocator) (lbs : List LoadBalancer) (routes : List Route) :
    Decidable (ListenersAllocated pa lbs routes) :=
  inferInstanceAs (Decidable (_ ∧ _))

/-- No endpoint key and no listener of the Route has the form of a LoadBalancer's. -/
def NamesApart (route : Route) : Prop :=
  ∀ svc ∈ route.sourceServices, ¬ IsLoadBalancerKey (routeEndpointKey route svc) ∧
    ∀ port ∈ svc.ports, ∀ lb i port',
      routePortIdentifier route svc port ≠ loadBalancerIdentifier lb i port'

/-- The condition on a step that nothing falls back to a port of the spec. -/
def NoFallback (p : Process) : ProcessAction → Prop
  | .lbWrite _ _ => ∀ lb className annotations,
      p.lbTask = .allocating lb className annotations [] → ServicePortsAllocated p.allocator lb
  | .cpBuild _ => ∀ name lbs routes, p.cpTask = .allocating name lbs routes [] →
      ListenersAllocated p.allocator lbs routes ∧ ∀ route ∈ routes, NamesApart route
  | _ => True

theorem loadBalancerIdentifier_inj {lb lb' : LoadBalancer} {i i' : Nat} {port port' : EndpointPort}
    (same : loadBalancerIdentifier lb i port = loadBalancerIdentifier lb' i' port') :
    loadBalancerKey lb i = loadBalancerKey lb' i' ∧
      endpointPortKey port = endpointPortKey port' := by
  obtain ⟨keys, numbers, protocols⟩ := portSuffix_inj same
  exact ⟨keys, by rw [endpointPortKey, endpointPortKey, numbers, protocols]⟩

/-- LoadBalancers with the same Service have the same endpoint keys. -/
theorem loadBalancerKey_of_serviceKey {topology : EnvoyProxyTopology} {ns : String}
    (handled : topology ≠ .dedicated) {lb lb' : LoadBalancer}
    (same : loadBalancerServiceKey topology ns lb = loadBalancerServiceKey topology ns lb')
    (i : Nat) : loadBalancerKey lb i = loadBalancerKey lb' i := by
  rw [loadBalancerKey, loadBalancerKey, envoyEndpointPattern_eq_iff]
  refine ⟨?_, rfl⟩
  apply String.toList_inj.mp
  cases topology with
  | dedicated => exact absurd rfl handled
  | shared =>
      simp only [loadBalancerServiceKey, ObjectKey.mk.injEq] at same
      have names := congrArg String.toList same.2
      simp only [String.toList_append, List.append_right_inj] at names
      simp only [String.toList_append, same.1, names]
  | global =>
      simp only [loadBalancerServiceKey, ObjectKey.mk.injEq, true_and] at same
      have names := congrArg String.toList same
      simp only [String.toList_append, List.append_assoc, List.append_right_inj] at names
      simpa only [String.toList_append, List.append_assoc] using names

theorem reconcileService_spec {faults : ApiFaults} {admission : Admission}
    {store store' : ServiceStore} {lb : LoadBalancer} {key : ObjectKey} {appName : String}
    {pa : PortAllocator} {className : Option String} {annotations : AnnotationSettings}
    (returned : reconcileService faults admission store lb key appName pa className annotations =
      some (.ok store')) :
    (∀ key', key' ≠ key → store'.lookup key' = store.lookup key') ∧
    ∃ existing ports svc, createServicePorts lb existing pa = some ports ∧
      store'.lookup key = some svc ∧ List.Forall₂ AdmittedPort ports svc.ports := by
  simp only [reconcileService] at returned
  split at returned
  · cases returned
  obtain ⟨ports, created, returned⟩ := Option.bind_eq_some_iff.mp returned
  have admits (new : Service) (same : new.ports = ports) :
      List.Forall₂ AdmittedPort ports (admission.accept new).ports := by
    rw [← same]
    exact admission.ports new
  split at returned
  · split at returned
    · cases returned
    · cases returned
      exact ⟨fun _ different => Finmap.lookup_insert_of_ne _ different, _, ports, _, created,
        Finmap.lookup_insert _, admits _ rfl⟩
  · rename_i existing found
    split at returned
    · split at returned
      · cases returned
      · cases returned
        exact ⟨fun _ different => Finmap.lookup_insert_of_ne _ different, _, ports, _, created,
          Finmap.lookup_insert _, admits _ rfl⟩
    · rename_i unchanged
      cases returned
      rw [found, Option.getD_some] at unchanged created
      simp only [ne_eq, not_or, not_not] at unchanged
      refine ⟨fun _ _ => rfl, _, ports, existing, created, found, ?_⟩
      rw [unchanged.1]
      exact Admission.verbatim.ports { existing with ports := ports }

theorem mem_createServicePorts {lb : LoadBalancer} {existing ports : List ServicePort}
    {pa : PortAllocator} (created : createServicePorts lb existing pa = some ports)
    {written : ServicePort} (member : written ∈ ports) :
    ∃ endpoint ∈ lb.spec.endpoints.head?, ∃ pair ∈ lb.spec.ports.zip endpoint.ports,
      written = desiredPort lb existing pa pair.1
        (targetEndpointPort endpoint.ports pair.1 pair.2).port := by
  cases endpoints : lb.spec.endpoints with
  | nil =>
      simp only [createServicePorts, endpoints] at created
      cases created
      cases member
  | cons endpoint others =>
      simp only [createServicePorts, endpoints] at created
      obtain ⟨indexed, paired, created⟩ := Option.bind_eq_some_iff.mp created
      cases created
      rw [pairByIndex] at paired
      split at paired
      · cases paired
        obtain ⟨pair, inZip, rfl⟩ :=
          List.mem_map.mp ((List.perm_insertionSort _ _).mem_iff.mp member)
        exact ⟨endpoint, rfl, pair, inZip, rfl⟩
      · cases paired

/-- When nothing falls back, a port of the Service leads to the port that the table
has for one of the pairs of LoadBalancer port and endpoint port. -/
theorem target_of_admitted {lb : LoadBalancer} {existing ports : List ServicePort}
    {pa : PortAllocator} (valid : pa.Valid) (allocated : ServicePortsAllocated pa lb)
    (created : createServicePorts lb existing pa = some ports) {svc : Service}
    (stored : List.Forall₂ AdmittedPort ports svc.ports) {q : ServicePort}
    (member : q ∈ svc.ports) :
    ∃ endpoint ∈ lb.spec.endpoints.head?, ∃ pair ∈ lb.spec.ports.zip endpoint.ports, ∃ number,
      pa.lookup (loadBalancerKey lb 0) (targetPortKey endpoint pair) = some number ∧
      q.name = pair.1.name ∧ q.targetPort = .int number := by
  obtain ⟨written, inPorts, admitted⟩ : ∃ written ∈ ports, AdmittedPort written q := by
    obtain ⟨i, bound, rfl⟩ := List.getElem_of_mem member
    have bound' : i < ports.length := stored.length_eq ▸ bound
    exact ⟨ports[i], List.getElem_mem bound', stored.get bound' bound⟩
  obtain ⟨endpoint, first, pair, inZip, rfl⟩ := mem_createServicePorts created inPorts
  obtain ⟨number, found⟩ := Option.isSome_iff_exists.mp (allocated endpoint first pair inZip)
  have range := valid _ _ _ found
  refine ⟨endpoint, first, pair, inZip, number, found, admitted.name, ?_⟩
  have target : (desiredPort lb existing pa pair.1
      (targetEndpointPort endpoint.ports pair.1 pair.2).port).targetPort = .int number := by
    simp only [desiredPort]
    rw [loadBalancerKey, targetPortKey] at found
    rw [found, Option.map_some, Option.getD_some, toInt32_of_port range]
  rw [← target]
  refine admitted.targetPort ?_
  rw [target]
  rintro ⟨⟩
  omega

theorem loadBalancerListener_eq {pa : PortAllocator} {lb : LoadBalancer} {i : Nat}
    {port : EndpointPort} {listener : Listener}
    (emitted : loadBalancerListener pa lb i port = some listener) :
    listener.name = loadBalancerIdentifier lb i port ∧
      listener.clusterName = loadBalancerIdentifier lb i port ∧
      listener.port = listenerPort pa (loadBalancerKey lb i) (endpointPortKey port) port.port := by
  simp only [loadBalancerListener] at emitted
  split at emitted <;> cases emitted <;> exact ⟨rfl, rfl, rfl⟩

theorem routeListener_eq {pa : PortAllocator} {route : Route} {svc : Service}
    {port : ServicePort} {listener : Listener}
    (emitted : routeListener pa route svc port = some listener) :
    listener.name = routePortIdentifier route svc port ∧
      listener.clusterName = routePortIdentifier route svc port ∧
      listener.port = listenerPort pa (routeEndpointKey route svc) (servicePortKey port)
        port.port := by
  simp only [routeListener] at emitted
  split at emitted
  · split at emitted <;> cases emitted <;> exact ⟨rfl, rfl, rfl⟩
  · cases emitted
    exact ⟨rfl, rfl, rfl⟩
  · cases emitted

/-- When nothing falls back, a listener of the snapshot has the port that the table
has for it. -/
theorem port_of_listener {get : ObjectKey → Except String (List EndpointAddress)}
    {lbs : List LoadBalancer} {routes : List Route} {pa : PortAllocator} {snapshot : Snapshot}
    (valid : pa.Valid) (allocated : ListenersAllocated pa lbs routes)
    (built : mapSnapshot get lbs routes pa = .ok snapshot) {listener : Listener}
    (member : listener ∈ snapshot.listeners) :
    (∃ lb i port, listener.name = loadBalancerIdentifier lb i port ∧
      listener.clusterName = loadBalancerIdentifier lb i port ∧
      pa.lookup (loadBalancerKey lb i) (endpointPortKey port) = some listener.port) ∨
    ∃ route ∈ routes, ∃ svc ∈ route.sourceServices, ∃ port ∈ svc.ports,
      listener.name = routePortIdentifier route svc port ∧
      listener.clusterName = routePortIdentifier route svc port ∧
      pa.lookup (routeEndpointKey route svc) (servicePortKey port) = some listener.port := by
  have looked {e k : String} {own : Int} (present : (pa.lookup e k).isSome)
      (isPort : listener.port = listenerPort pa e k own) :
      pa.lookup e k = some listener.port := by
    obtain ⟨number, found⟩ := Option.isSome_iff_exists.mp present
    rw [isPort, listenerPort, found, Option.getD_some, toUInt32_of_port (valid _ _ _ found)]
  rw [mapSnapshot_listeners built] at member
  obtain fromLB | fromRoute := List.mem_append.mp member
  · left
    obtain ⟨lb, inLBs, member⟩ := List.mem_flatMap.mp fromLB
    obtain ⟨pair, inEndpoints, member⟩ := List.mem_flatMap.mp member
    obtain ⟨port, inPorts, emitted⟩ := List.mem_filterMap.mp member
    obtain ⟨name, clusterName, number⟩ := loadBalancerListener_eq emitted
    exact ⟨lb, pair.2, port, name, clusterName,
      looked (allocated.1 lb inLBs pair inEndpoints port inPorts) number⟩
  · right
    obtain ⟨route, inRoutes, member⟩ := List.mem_flatMap.mp fromRoute
    obtain ⟨svc, inSources, member⟩ := List.mem_flatMap.mp member
    obtain ⟨port, inPorts, emitted⟩ := List.mem_filterMap.mp member
    obtain ⟨name, clusterName, number⟩ := routeListener_eq emitted
    exact ⟨route, inRoutes, svc, inSources, port, inPorts, name, clusterName,
      looked (allocated.2 route inRoutes svc inSources port inPorts) number⟩

end KubeLB
