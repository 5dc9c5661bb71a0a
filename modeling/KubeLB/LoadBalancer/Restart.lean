import KubeLB.LoadBalancer.Service

/-!
What a restart of the manager keeps of the ports of a LoadBalancer.

The Service lists its ports by name, the status pairs them by index with the
ports of the endpoint as the spec lists them, and LoadState looks for a
recorded port with the right upstream port, protocol and name. A port survives
exactly when the pairing by index gives it its own upstream port.
-/

namespace KubeLB
open FiniteMap

/-- The LoadBalancers in question: the ports of the spec and of the first
endpoint agree index by index in name and protocol, names are distinct, and so
are the endpoint's pairs of port and protocol. -/
structure Aligned (lb : LoadBalancer) (endpoint : LoadBalancerEndpoints) : Prop where
  first : ∃ others, lb.spec.endpoints = endpoint :: others
  ports : List.Forall₂ (fun p q => p.name = q.name ∧ p.protocol = q.protocol)
    lb.spec.ports endpoint.ports
  names : (endpoint.ports.map EndpointPort.name).Nodup
  keys : (endpoint.ports.map fun q => (q.port, q.protocol)).Nodup

/-- In a permutation of a list without repetitions, an element stands opposite
one with its own value everywhere exactly when the values read the same. -/
private theorem opposite_iff_map_eq {α β : Type} (f : α → β) {xs ys : List α}
    (perm : xs.Perm ys) (nodup : ys.Nodup) :
    (∀ y ∈ ys, ∃ opposite, (y, opposite) ∈ xs.zip ys ∧ f opposite = f y) ↔
      xs.map f = ys.map f := by
  have size : xs.length = ys.length := perm.length_eq
  have nodupX : xs.Nodup := perm.nodup_iff.mpr nodup
  constructor
  · intro opposite
    apply List.ext_getElem (by simpa using size)
    intro i inX inY
    simp only [List.getElem_map]
    simp only [List.length_map] at inX inY
    obtain ⟨z, member, same⟩ := opposite xs[i] (perm.subset (List.getElem_mem inX))
    obtain ⟨j, bound, pair⟩ := List.getElem_of_mem member
    rw [List.getElem_zip, Prod.mk.injEq] at pair
    have index := (List.Nodup.getElem_inj_iff nodupX).mp pair.1
    subst index
    rw [← same, ← pair.2]
  · intro values y inY
    obtain ⟨i, bound, rfl⟩ := List.getElem_of_mem (perm.mem_iff.mpr inY)
    refine ⟨ys[i], List.mem_iff_getElem.mpr ⟨i, ?_, List.getElem_zip⟩, ?_⟩
    · rw [List.length_zip]
      omega
    · have atI := List.getElem_of_eq values (i := i) (by simpa using bound)
      simpa using atI.symm

namespace Aligned
variable {lb : LoadBalancer} {endpoint : LoadBalancerEndpoints}

theorem same_length (aligned : Aligned lb endpoint) :
    lb.spec.ports.length = endpoint.ports.length :=
  aligned.ports.length_eq

theorem mem_zip (aligned : Aligned lb endpoint) {s : LoadBalancerPort × EndpointPort}
    (member : s ∈ lb.spec.ports.zip endpoint.ports) :
    s.1.name = s.2.name ∧ s.1.protocol = s.2.protocol ∧ s.2 ∈ endpoint.ports := by
  obtain ⟨name, protocol⟩ := List.forall₂_zip aligned.ports member
  exact ⟨name, protocol, (List.of_mem_zip member).2⟩

theorem name_inj (aligned : Aligned lb endpoint) {p q : EndpointPort}
    (inP : p ∈ endpoint.ports) (inQ : q ∈ endpoint.ports) (same : p.name = q.name) : p = q :=
  List.inj_on_of_nodup_map aligned.names inP inQ same

/-- Under distinct names the search by name finds the port at the same index. -/
theorem targetEndpointPort_eq (aligned : Aligned lb endpoint)
    {s : LoadBalancerPort × EndpointPort} (member : s ∈ lb.spec.ports.zip endpoint.ports) :
    targetEndpointPort endpoint.ports s.1 s.2 = s.2 := by
  obtain ⟨name, _, inPorts⟩ := aligned.mem_zip member
  rw [targetEndpointPort]
  cases found : endpoint.ports.find? fun port => decide (port.name = s.1.name) with
  | none => rfl
  | some q =>
      have named := List.find?_some found
      simp only [decide_eq_true_eq] at named
      exact aligned.name_inj (List.mem_of_find?_eq_some found) inPorts (named.trans name)

/-- The pairs of LoadBalancer port and endpoint port in the order of the Service. -/
def sortedPairs (lb : LoadBalancer) (endpoint : LoadBalancerEndpoints) :
    List (LoadBalancerPort × EndpointPort) :=
  (lb.spec.ports.zip endpoint.ports).insertionSort fun s t => s.2.name ≤ t.2.name

theorem mem_sortedPairs (aligned : Aligned lb endpoint) {s : LoadBalancerPort × EndpointPort}
    (member : s ∈ sortedPairs lb endpoint) :
    s.1.name = s.2.name ∧ s.1.protocol = s.2.protocol ∧ s.2 ∈ endpoint.ports :=
  aligned.mem_zip ((List.mem_insertionSort _).mp member)

theorem sortedPairs_snd (aligned : Aligned lb endpoint) :
    (sortedPairs lb endpoint).map Prod.snd =
      endpoint.ports.insertionSort fun p q => p.name ≤ q.name := by
  rw [sortedPairs, List.map_insertionSort _ (fun p q : EndpointPort => p.name ≤ q.name) Prod.snd _
    (fun _ _ _ _ => Iff.rfl), List.map_snd_zip (le_of_eq aligned.same_length.symm)]

theorem createServicePorts_eq (aligned : Aligned lb endpoint) (existing : List ServicePort)
    (pa : PortAllocator) :
    createServicePorts lb existing pa = some ((sortedPairs lb endpoint).map fun s =>
      desiredPort lb existing pa s.1 s.2.port) := by
  obtain ⟨others, endpoints⟩ := aligned.first
  rw [createServicePorts_cons endpoints (le_of_eq aligned.same_length)]
  have sameTargets : ((lb.spec.ports.zip endpoint.ports).map fun s =>
      desiredPort lb existing pa s.1 (targetEndpointPort endpoint.ports s.1 s.2).port) =
      (lb.spec.ports.zip endpoint.ports).map fun s =>
        desiredPort lb existing pa s.1 s.2.port := by
    refine List.map_congr_left fun s member => ?_
    rw [aligned.targetEndpointPort_eq member]
  rw [sameTargets, sortedPairs,
    List.map_insertionSort _ (fun p q : ServicePort => p.name ≤ q.name)]
  intro s inS t inT
  simp only [desiredPort, (aligned.mem_zip inS).1, (aligned.mem_zip inT).1]

/-- The recorded ports: the pairs in name order, opposite the endpoint ports in
the order of the spec. -/
theorem exists_status (aligned : Aligned lb endpoint) (existing : List ServicePort)
    (pa : PortAllocator) (service : Service) (checkDNSResolution checkTLSHealth : String → Bool)
    (hostname : String) : ∃ ports status, createServicePorts lb existing pa = some ports ∧
      updateLoadBalancerStatus checkDNSResolution checkTLSHealth lb
        { service with ports := ports } hostname = some status ∧
      status.servicePorts = ((sortedPairs lb endpoint).zip endpoint.ports).map fun t =>
        { toServicePort := desiredPort lb existing pa t.1.1 t.1.2.port
          upstreamTargetPort := t.2.port } := by
  obtain ⟨others, endpoints⟩ := aligned.first
  have size : (sortedPairs lb endpoint).length ≤ endpoint.ports.length := by
    rw [sortedPairs, List.length_insertionSort, List.length_zip]
    exact Nat.min_le_right _ _
  let ports := (sortedPairs lb endpoint).map fun s => desiredPort lb existing pa s.1 s.2.port
  have enough : ports.length ≤ endpoint.ports.length := by simpa [ports] using size
  obtain ⟨status, written, recorded⟩ :=
    servicePorts_updateLoadBalancerStatus endpoints { service with ports := ports } enough
      checkDNSResolution checkTLSHealth hostname
  refine ⟨ports, status, aligned.createServicePorts_eq existing pa, written, ?_⟩
  rw [recorded, List.zip_map_left, List.map_map]
  rfl

variable {existing : List ServicePort} {pa : PortAllocator} {status : LoadBalancerStatus}

/-- What is found for a port is the record of its own pair, opposite its number. -/
theorem exists_of_recordedPort (aligned : Aligned lb endpoint)
    (recorded : status.servicePorts = ((sortedPairs lb endpoint).zip endpoint.ports).map fun t =>
      { toServicePort := desiredPort lb existing pa t.1.1 t.1.2.port
        upstreamTargetPort := t.2.port })
    {q : EndpointPort} (inPorts : q ∈ endpoint.ports) {found : StatusServicePort}
    (search : recordedPort status q = some found) :
    ∃ s opposite, (s, opposite) ∈ (sortedPairs lb endpoint).zip endpoint.ports ∧ s.2 = q ∧
      opposite.port = q.port ∧
      found.toServicePort = desiredPort lb existing pa s.1 s.2.port := by
  have inStatus := List.mem_of_find?_eq_some search
  have matched := List.find?_some search
  rw [recorded] at inStatus
  obtain ⟨⟨s, opposite⟩, inZip, rfl⟩ := List.mem_map.mp inStatus
  simp only [decide_eq_true_eq] at matched
  obtain ⟨name, _, inEndpoint⟩ := aligned.mem_sortedPairs (List.of_mem_zip inZip).1
  have same : s.2 = q := aligned.name_inj inEndpoint inPorts (name.symm.trans matched.2.2)
  exact ⟨s, opposite, inZip, same, matched.1, rfl⟩

/-- A port is found again exactly when it stands opposite its own port number;
what is found then carries the port of the table, narrowed to 32 bits. -/
theorem recordedPort_eq_some_iff (aligned : Aligned lb endpoint)
    (recorded : status.servicePorts = ((sortedPairs lb endpoint).zip endpoint.ports).map fun t =>
      { toServicePort := desiredPort lb existing pa t.1.1 t.1.2.port
        upstreamTargetPort := t.2.port })
    {q : EndpointPort} (inPorts : q ∈ endpoint.ports) {port : Int}
    (held : pa.lookup (envoyEndpointPattern lb.ns lb.name 0) (endpointPortKey q) = some port)
    (value : Int) :
    (recordedPort status q).map (fun r => r.targetPort.intValue) = some value ↔
      (∃ opposite, (q, opposite) ∈
        (endpoint.ports.insertionSort fun p q => p.name ≤ q.name).zip endpoint.ports ∧
        opposite.port = q.port) ∧ value = toInt32 port := by
  rw [← aligned.sortedPairs_snd, List.zip_map_left]
  have target {s : LoadBalancerPort × EndpointPort} (inS : s ∈ sortedPairs lb endpoint)
      (same : s.2 = q) :
      (desiredPort lb existing pa s.1 s.2.port).targetPort.intValue = toInt32 port := by
    obtain ⟨_, protocol, _⟩ := aligned.mem_sortedPairs inS
    subst same
    simp only [desiredPort, IntOrString.intValue, protocol]
    rw [show envoyListenerPattern s.2.port s.2.protocol = endpointPortKey s.2 from rfl, held]
    rfl
  constructor
  · intro found
    obtain ⟨r, search, rfl⟩ := Option.map_eq_some_iff.mp found
    obtain ⟨s, opposite, inZip, same, number, written⟩ :=
      aligned.exists_of_recordedPort recorded inPorts search
    rw [written]
    refine ⟨⟨opposite, List.mem_map.mpr ⟨(s, opposite), inZip, ?_⟩, number⟩,
      target (List.of_mem_zip inZip).1 same⟩
    rw [← same]
    rfl
  · rintro ⟨⟨opposite, inZip, number⟩, rfl⟩
    obtain ⟨⟨s, opposite⟩, member, pair⟩ := List.mem_map.mp inZip
    simp only [Prod.map_apply, id_eq, Prod.mk.injEq] at pair
    obtain ⟨rfl, rfl⟩ := pair
    obtain ⟨name, protocol, _⟩ := aligned.mem_sortedPairs (List.of_mem_zip member).1
    have present : (recordedPort status s.2).isSome := by
      rw [recordedPort, List.find?_isSome, recorded]
      refine ⟨_, List.mem_map.mpr ⟨(s, opposite), member, rfl⟩, ?_⟩
      exact decide_eq_true ⟨number, protocol, name⟩
    obtain ⟨r, search⟩ := Option.isSome_iff_exists.mp present
    obtain ⟨s', _, inZip', same, _, written⟩ :=
      aligned.exists_of_recordedPort recorded inPorts search
    rw [search, Option.map_some, written]
    exact congrArg some (target (List.of_mem_zip inZip').1 same)

end Aligned

theorem toInt32_eq_self_iff (n : Int) : toInt32 n = n ↔ -2 ^ 31 ≤ n ∧ n < 2 ^ 31 := by
  simp only [toInt32, Int.bmod_eq_iff (show 0 < 2 ^ 32 by decide)]
  omega

/-- The restart round trip of a LoadBalancer: every port comes back with the
port it had exactly when listing the endpoint's ports by name leaves the
sequence of their numbers as it is, and the ports held fit an int32. -/
theorem loadState_roundTrip_iff (lb : LoadBalancer) (endpoint : LoadBalancerEndpoints)
    (aligned : Aligned lb endpoint) (pa : PortAllocator)
    (covered : ∀ q ∈ endpoint.ports,
      (pa.lookup (envoyEndpointPattern lb.ns lb.name 0) (endpointPortKey q)).isSome)
    (existing : List ServicePort) (service : Service)
    (checkDNSResolution checkTLSHealth : String → Bool) (hostname : String) :
    ∃ ports status, createServicePorts lb existing pa = some ports ∧
      updateLoadBalancerStatus checkDNSResolution checkTLSHealth lb
        { service with ports := ports } hostname = some status ∧
      ((∀ q ∈ endpoint.ports,
          (loadState [{ lb with status := status }] []).lookup
              (envoyEndpointPattern lb.ns lb.name 0) (endpointPortKey q) =
            pa.lookup (envoyEndpointPattern lb.ns lb.name 0) (endpointPortKey q)) ↔
        (endpoint.ports.insertionSort fun p q => p.name ≤ q.name).map EndpointPort.port =
            endpoint.ports.map EndpointPort.port ∧
          ∀ q ∈ endpoint.ports, ∀ port,
            pa.lookup (envoyEndpointPattern lb.ns lb.name 0) (endpointPortKey q) = some port →
              -2 ^ 31 ≤ port ∧ port < 2 ^ 31) := by
  obtain ⟨ports, status, created, written, recorded⟩ :=
    aligned.exists_status existing pa service checkDNSResolution checkTLSHealth hostname
  refine ⟨ports, status, created, written, ?_⟩
  obtain ⟨others, endpoints⟩ := aligned.first
  have keys : (endpoint.ports.map endpointPortKey).Nodup := by
    refine List.Nodup.map_on ?_ (List.Nodup.of_map _ aligned.keys)
    intro p inP q inQ same
    obtain ⟨number, protocol⟩ := envoyListenerPattern_inj same
    exact List.inj_on_of_nodup_map aligned.keys inP inQ (Prod.ext number protocol)
  have loaded (q : EndpointPort) (inPorts : q ∈ endpoint.ports) :
      (loadState [{ lb with status := status }] []).lookup
        (envoyEndpointPattern lb.ns lb.name 0) (endpointPortKey q) =
        (recordedPort status q).map fun r => r.targetPort.intValue := by
    rw [lookup_loadState_singleton { lb with status := status } endpoints]
    have entries := lookup_insertAll_filterMap endpointPortKey
      (fun q => (recordedPort status q).map fun r => r.targetPort.intValue) keys inPorts ∅
    simpa [Option.map_map, Function.comp_def] using entries
  have back (q : EndpointPort) (inPorts : q ∈ endpoint.ports) :
      (loadState [{ lb with status := status }] []).lookup
          (envoyEndpointPattern lb.ns lb.name 0) (endpointPortKey q) =
        pa.lookup (envoyEndpointPattern lb.ns lb.name 0) (endpointPortKey q) ↔
      (∃ opposite, (q, opposite) ∈
        (endpoint.ports.insertionSort fun p q => p.name ≤ q.name).zip endpoint.ports ∧
        opposite.port = q.port) ∧
      ∀ port, pa.lookup (envoyEndpointPattern lb.ns lb.name 0) (endpointPortKey q) = some port →
        -2 ^ 31 ≤ port ∧ port < 2 ^ 31 := by
    obtain ⟨port, held⟩ := Option.isSome_iff_exists.mp (covered q inPorts)
    rw [loaded q inPorts, held, aligned.recordedPort_eq_some_iff recorded inPorts held]
    simp only [Option.some.injEq, forall_eq', ← toInt32_eq_self_iff]
    exact and_congr_right fun _ => eq_comm
  rw [← opposite_iff_map_eq EndpointPort.port (List.perm_insertionSort _ _)
    (List.Nodup.of_map _ aligned.names)]
  constructor
  · intro same
    exact ⟨fun q inPorts => ((back q inPorts).mp (same q inPorts)).1,
      fun q inPorts => ((back q inPorts).mp (same q inPorts)).2⟩
  · rintro ⟨opposite, fits⟩ q inPorts
    exact (back q inPorts).mpr ⟨opposite q inPorts, fits q inPorts⟩

theorem loadState_roundTrip_in_name_order :
    let endpoint : LoadBalancerEndpoints :=
      { ports := [⟨"admin", 30090, .tcp⟩, ⟨"web", 30080, .tcp⟩] }
    let lb : LoadBalancer :=
      { ns := "tenant-a", name := "app"
        spec := { endpoints := [endpoint], ports := [⟨"admin", .tcp, 90⟩, ⟨"web", .tcp, 80⟩] } }
    Aligned lb endpoint ∧
    ∃ pa, newPortAllocator.allocatePortsForLoadBalancers [lb] [0, 1] = some (pa, []) ∧
    ∃ ports status, createServicePorts lb [] pa = some ports ∧
      updateLoadBalancerStatus (fun _ => false) (fun _ => false) lb { ports := ports } "" =
        some status ∧
      ∀ q ∈ endpoint.ports,
        (loadState [{ lb with status := status }] []).lookup "tenant-a-app-ep-0"
          (endpointPortKey q) = pa.lookup "tenant-a-app-ep-0" (endpointPortKey q) := by
  intro endpoint lb
  have aligned : Aligned lb endpoint :=
    { first := ⟨[], rfl⟩
      ports := .cons ⟨rfl, rfl⟩ (.cons ⟨rfl, rfl⟩ .nil)
      names := by decide
      keys := by decide }
  let pa : PortAllocator := PortAllocator.recomputeAvailablePorts ((∅ : LookupTable).insert
    "tenant-a-app-ep-0" (insertAll ∅ [("30090-TCP", 10000), ("30080-TCP", 10001)]))
  refine ⟨aligned, pa, by decide, ?_⟩
  obtain ⟨ports, status, created, written, back⟩ := loadState_roundTrip_iff lb endpoint aligned
    pa (by decide) [] {} (fun _ => false) (fun _ => false) ""
  refine ⟨ports, status, created, written, back.mpr ⟨by decide, ?_⟩⟩
  intro q inPorts port held
  revert held
  simp only [endpoint, List.mem_cons, List.not_mem_nil, or_false] at inPorts
  obtain rfl | rfl := inPorts
  · rintro ⟨⟩
    decide
  · rintro ⟨⟩
    decide

/-- With the ports listed against name order the restart loses both of them. -/
theorem loadState_loses_ports :
    let endpoint : LoadBalancerEndpoints :=
      { ports := [⟨"web", 30080, .tcp⟩, ⟨"admin", 30090, .tcp⟩] }
    let lb : LoadBalancer :=
      { ns := "tenant-a", name := "app"
        spec := { endpoints := [endpoint], ports := [⟨"web", .tcp, 80⟩, ⟨"admin", .tcp, 90⟩] } }
    let status : LoadBalancerStatus :=
      { servicePorts :=
          [⟨⟨"admin", .tcp, 90, .int 10001, 0⟩, 30080⟩, ⟨⟨"web", .tcp, 80, .int 10000, 0⟩, 30090⟩] }
    Aligned lb endpoint ∧
    ∃ pa ports, newPortAllocator.allocatePortsForLoadBalancers [lb] [0, 1] = some (pa, []) ∧
      createServicePorts lb [] pa = some ports ∧
      updateLoadBalancerStatus (fun _ => false) (fun _ => false) lb { ports := ports } "" =
        some status ∧
      pa.lookup "tenant-a-app-ep-0" "30080-TCP" = some 10000 ∧
      pa.lookup "tenant-a-app-ep-0" "30090-TCP" = some 10001 ∧
      (loadState [{ lb with status := status }] []).lookup "tenant-a-app-ep-0" "30080-TCP" =
        none ∧
      (loadState [{ lb with status := status }] []).lookup "tenant-a-app-ep-0" "30090-TCP" =
        none := by
  intro endpoint lb status
  have aligned : Aligned lb endpoint :=
    { first := ⟨[], rfl⟩
      ports := .cons ⟨rfl, rfl⟩ (.cons ⟨rfl, rfl⟩ .nil)
      names := by decide
      keys := by decide }
  refine ⟨aligned, PortAllocator.recomputeAvailablePorts ((∅ : LookupTable).insert
    "tenant-a-app-ep-0" (insertAll ∅ [("30080-TCP", 10000), ("30090-TCP", 10001)])),
    status.servicePorts.map StatusServicePort.toServicePort, ?_⟩
  decide

end KubeLB
