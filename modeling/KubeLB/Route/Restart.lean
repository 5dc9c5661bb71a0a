import KubeLB.PortLookup.Loading
import KubeLB.Route.ServicesSpec

/-!
What a restart of the manager keeps of the ports of a Route.

manageServices records each Service it writes under the origin that its labels
name, or under its new name and the tenant namespace if it has none; LoadState
looks under the namespace and the name of the source service. So a port comes
back only if the entry found there was made for a Service with the same ports in
the table. Here the writer and the reader are put side by side: for each source
service, which of the written Services it is read from; and for each entry of the
loaded table, which service port it was recorded for.
-/

namespace KubeLB
open FiniteMap

section
variable (r : RouteReconciler) (route : Route)

def Written.key (written : Written) : String :=
  if written.bridge then (bridgeRecord r written.svc).key
  else (sourceRecord r route written.svc).key

/-- The status key under which LoadState looks for a source service. -/
def readKey (svc : Service) : String := routeServiceMapKey svc.ns (getName svc.toObjectMeta)

/-- The Service whose entry LoadState finds for a source service: the last one
recorded under its key. -/
def readFrom (svc : Service) : Option Written :=
  lastWith (Written.key r route) (writtenServices r route.sourceServices) (readKey svc)

def heldPort (pa : PortAllocator) (svc : Service) (port : ServicePort) : Int :=
  (pa.lookup (routeEndpointKey route svc) (servicePortKey port)).getD port.nodePort

/-- An entry of the loaded table, with the service port it was recorded for. -/
structure Restored where
  endpointKey : String
  portKey : String
  svc : Service
  port : ServicePort

def Restored.key (entry : Restored) : String × String := (entry.endpointKey, entry.portKey)

/-- A bridge has the allocated port as its own port number too. -/
def restoredPort (pa : PortAllocator) (svc : Service) (written : Written) (port : ServicePort) :
    Restored where
  endpointKey := routeEndpointKey route svc
  portKey := if written.bridge then
      envoyListenerPattern (heldPort route pa written.svc port) port.protocol
    else servicePortKey port
  svc := written.svc
  port := port

def restored (pa : PortAllocator) : List Restored :=
  route.sourceServices.flatMap fun svc =>
    match readFrom r route svc with
    | none => []
    | some written => written.svc.ports.map (restoredPort route pa svc written)

/-- For every source service and port, what stands at its keys after a restart
was recorded for a service port with the same port in the table: as a rule for
the port itself. -/
def RestoresOwn (pa : PortAllocator) : Prop :=
  ∀ svc ∈ route.sourceServices, ∀ port ∈ svc.ports, ∃ entry,
    lastWith Restored.key (restored r route pa)
      (routeEndpointKey route svc, servicePortKey port) = some entry ∧
    pa.lookup (routeEndpointKey route entry.svc) (servicePortKey entry.port) =
      pa.lookup (routeEndpointKey route svc) (servicePortKey port)

/-- The table has a port for every source service and port of the Route, and the
services are as the API server of the tenant cluster hands them out. -/
structure Covered (pa : PortAllocator) : Prop where
  ports : ∀ svc ∈ route.sourceServices, ∀ port ∈ svc.ports,
    ∃ held, pa.lookup (routeEndpointKey route svc) (servicePortKey port) = some held ∧
      0 < held ∧ held < 2 ^ 16
  protocols : ∀ svc ∈ route.sourceServices, ∀ port ∈ svc.ports, port.protocol ≠ .unset

end

section
variable {r : RouteReconciler} {route : Route} {pa : PortAllocator}
  {annotations : AnnotationSettings}

theorem key_madeFor (written : Written) :
    (statusRecord (madeFor r route pa annotations written)).key = written.key r route := by
  obtain ⟨svc, bridge⟩ := written
  cases bridge with
  | false => rfl
  | true =>
      change (statusRecord (generateBridgeService _ _ _)).key = _
      rw [statusRecord_generateBridgeService]
      rfl

def madePort (route : Route) (pa : PortAllocator) (written : Written)
    (port : ServicePort) : ServicePort :=
  let made := generatedPort pa (routeEndpointKey route written.svc) port
  if written.bridge then
    { name := made.name
      protocol := made.protocol
      port := made.targetPort.intVal
      targetPort := made.targetPort }
  else made

theorem ports_madeFor (written : Written) :
    (madeFor r route pa annotations written).ports =
      written.svc.ports.map (madePort route pa written) := by
  obtain ⟨svc, bridge⟩ := written
  cases bridge with
  | false => rfl
  | true =>
      change (List.map _ (List.map _ _)) = _
      rw [List.map_map]
      rfl

/-- An entry of the status gives back, port by port, the keys and the ports of
the service it was made for. -/
theorem Recorded.entries {written : Written} {value : RouteServiceStatus}
    (recorded : Recorded (madeFor r route pa annotations written) value)
    (covered : Covered route pa) (member : written.svc ∈ route.sourceServices) (svc : Service) :
    (value.ports.map fun port =>
        ((routeEndpointKey route svc, servicePortKey port), port.targetPort.intValue)) =
      written.svc.ports.map fun port =>
        ((restoredPort route pa svc written port).key, heldPort route pa written.svc port) := by
  have ports := recorded.ports
  rw [ports_madeFor, List.forall₂_map_left_iff] at ports
  refine (Fallible.map_eq_map_of_forall₂ ports ?_).symm
  intro port inPorts stored admitted
  obtain ⟨held, found, valid⟩ := covered.ports written.svc member port inPorts
  have target : (madePort route pa written port).targetPort = .int held := by
    have narrowed := toInt32_of_port ⟨valid.1, valid.2⟩
    unfold madePort
    split <;> simp [generatedPort, found, narrowed]
  have sameTarget : stored.targetPort = .int held := by
    rw [← target]
    apply admitted.targetPort
    rw [target]
    intro zero
    cases zero
    exact absurd valid.1 (lt_irrefl 0)
  have protocol : (madePort route pa written port).protocol = port.protocol := by
    unfold madePort
    split <;> rfl
  have sameProtocol : stored.protocol = port.protocol := by
    rw [← protocol]
    apply admitted.protocol
    rw [protocol]
    exact covered.protocols written.svc member port inPorts
  have here : heldPort route pa written.svc port = held := by
    rw [heldPort, found]
    rfl
  have number : stored.port =
      if written.bridge then heldPort route pa written.svc port else port.port := by
    rw [admitted.port, here]
    unfold madePort at target ⊢
    split
    · rename_i bridge
      simp only [bridge, if_true] at target
      simp [target, IntOrString.intVal]
    · rfl
  simp only [Restored.key, restoredPort, servicePortKey, sameTarget, sameProtocol, number, here,
    IntOrString.intValue]
  split <;> rfl

theorem mem_of_readFrom {svc : Service} {written : Written}
    (found : readFrom r route svc = some written) : written.svc ∈ route.sourceServices := by
  obtain ⟨source, member, shape⟩ := List.mem_flatMap.mp (lastWith_eq_some found).1
  split at shape <;> simp only [List.mem_cons, List.not_mem_nil, or_false] at shape
  · obtain rfl | rfl := shape <;> exact member
  · exact shape ▸ member

/-- What LoadState reads from a status, given which entries it finds there. -/
theorem reads_eq_restored {status : FiniteMap String RouteServiceStatus}
    (covered : Covered route pa)
    (found : ∀ svc ∈ route.sourceServices,
      match readFrom r route svc with
      | none => status.lookup (readKey svc) = none
      | some written => ∃ value, status.lookup (readKey svc) = some value ∧
          Recorded (madeFor r route pa annotations written) value) :
    ((routeReads { route with services := status }).map fun load =>
        (load.key, load.record.targetPort)) =
      (restored r route pa).map fun entry =>
        (entry.key, heldPort route pa entry.svc entry.port) := by
  simp only [routeReads, restored, List.map_flatMap]
  refine List.flatMap_congr fun svc member => ?_
  have atKey := found svc member
  cases read : readFrom r route svc with
  | none =>
      rw [read, readKey] at atKey
      rw [atKey]
      rfl
  | some written =>
      rw [read] at atKey
      obtain ⟨value, lookedUp, recorded⟩ := atKey
      rw [readKey] at lookedUp
      simp only [lookedUp, List.map_map]
      exact recorded.entries covered (mem_of_readFrom read) svc

/-- What stands in the loaded table, by the service port it was recorded for. -/
theorem lookup_loadState_restored {status : FiniteMap String RouteServiceStatus}
    (same : ((routeReads { route with services := status }).map fun load =>
        (load.key, load.record.targetPort)) =
      (restored r route pa).map fun entry => (entry.key, heldPort route pa entry.svc entry.port))
    (e k : String) :
    (loadState [] [{ route with services := status }]).lookup e k =
      (lastWith Restored.key (restored r route pa) (e, k)).map fun entry =>
        heldPort route pa entry.svc entry.port := by
  have stands := congrArg (fun writes => (lastWith Prod.fst writes (e, k)).map Prod.snd) same
  simp only [lastWith_map, Option.map_map] at stands
  rw [lookup_loadState, reads, List.flatMap_nil, List.nil_append, List.flatMap_cons,
    List.flatMap_nil, List.append_nil]
  exact stands

theorem heldPort_of_restored (covered : Covered route pa) {entry : Restored}
    (member : entry ∈ restored r route pa) :
    pa.lookup (routeEndpointKey route entry.svc) (servicePortKey entry.port) =
      some (heldPort route pa entry.svc entry.port) := by
  obtain ⟨svc, _, shape⟩ := List.mem_flatMap.mp member
  split at shape
  · cases shape
  · rename_i written read
    obtain ⟨port, inPorts, rfl⟩ := List.mem_map.mp shape
    obtain ⟨held, found, _⟩ := covered.ports written.svc (mem_of_readFrom read) port inPorts
    change pa.lookup (routeEndpointKey route written.svc) (servicePortKey port) =
      some (heldPort route pa written.svc port)
    rw [heldPort, found]
    rfl

theorem found_after {faults : ApiFaults} {statusFault : Option String} {api : Admission}
    {order : List String} {draws : List Draw} {source : KubernetesSource}
    {before after : RouteEffects} (kubernetes : route.spec.kubernetes = some source)
    (returned : manageServices r faults statusFault api order draws annotations route before =
      some (after, none))
    (unrecorded : ∀ svc ∈ source.services, readFrom r route svc = none →
      before.services.lookup (readKey svc) = none) {svc : Service}
    (member : svc ∈ source.services) :
    match readFrom r route svc with
    | none => after.services.lookup (readKey svc) = none
    | some written => ∃ value, after.services.lookup (readKey svc) = some value ∧
        Recorded (madeFor r route after.allocator annotations written) value := by
  obtain ⟨cleaned, allocator, rest, services, cleanedUp, _, generated, rfl⟩ :=
    manageServices_ok kubernetes returned
  have sources := sourceServices_eq kubernetes
  have table :
      (applyServices faults api services { cleaned with allocator := allocator }).allocator =
        allocator := (applyServices_frame faults api services _).2.2
  rw [table]
  have last := lookup_applyServices_last faults api services
    { cleaned with allocator := allocator } (readKey svc)
  rw [(generateServices_eq generated).2, lastWith_map] at last
  simp only [key_madeFor, ← sources] at last
  rw [← (generateServices_eq (sources ▸ generated)).2] at last
  have absent := unrecorded svc member
  unfold readFrom at absent ⊢
  cases read : lastWith (Written.key r route) (writtenServices r route.sourceServices)
      (readKey svc) with
  | none =>
      rw [read] at last
      refine Eq.trans last ?_
      cases old : cleaned.services.lookup (readKey svc) with
      | none => rfl
      | some value =>
          have older := lookup_cleanupOrphanedServices cleanedUp old
          cases (absent read).symm.trans older
  | some written =>
      rw [read] at last
      exact last

end

/-- The restart round trip of a Route: after manageServices has written its
status, LoadState gives every source service and port the port it had exactly
when what stands at their keys was recorded for them, or for a service port with
the same port. -/
theorem route_roundTrip_iff {r : RouteReconciler} {faults : ApiFaults}
    {statusFault : Option String} {api : Admission} {order : List String} {draws : List Draw}
    {annotations : AnnotationSettings} {route : Route} {source : KubernetesSource}
    {before after : RouteEffects} (kubernetes : route.spec.kubernetes = some source)
    (returned : manageServices r faults statusFault api order draws annotations route before =
      some (after, none))
    (covered : Covered route after.allocator)
    (unrecorded : ∀ svc ∈ source.services, readFrom r route svc = none →
      before.services.lookup (readKey svc) = none) :
    (∀ svc ∈ source.services, ∀ port ∈ svc.ports,
      (loadState [] [{ route with services := after.services }]).lookup
          (routeEndpointKey route svc) (servicePortKey port) =
        after.allocator.lookup (routeEndpointKey route svc) (servicePortKey port)) ↔
      RestoresOwn r route after.allocator := by
  have sources := sourceServices_eq kubernetes
  have loaded := lookup_loadState_restored (reads_eq_restored covered fun svc member =>
    found_after kubernetes returned unrecorded (sources ▸ member))
  simp only [loaded, RestoresOwn, ← sources]
  refine forall₂_congr fun svc member => forall₂_congr fun port inPorts => ?_
  obtain ⟨held, found, _⟩ := covered.ports svc member port inPorts
  rw [found, Option.map_eq_some_iff]
  refine exists_congr fun entry => and_congr_right fun last => ?_
  rw [heldPort_of_restored covered (lastWith_eq_some last).1, Option.some.injEq]

def routeFor (svc : Service) : Route where
  ns := "tenant-t"
  name := "u-app"
  spec := { kubernetes := some { route := { name := "app" }, services := [svc] } }

theorem replica_port_comes_back :
    let web : Service :=
      { ns := "default", name := "web-nodeport", uid := "u-0001", type := .nodePort
        labels := insertAll ∅ [(labelOriginName, "web"), (labelOriginNamespace, "default")]
        ports := [{ port := 80, nodePort := 30080 }] }
    ∃ after, manageServices { ns := "kubelb" } {} none .verbatim [] [0] {} (routeFor web)
        ⟨∅, ∅, newPortAllocator, [], []⟩ = some (after, none) ∧
      ∀ svc ∈ [web], ∀ port ∈ svc.ports,
        (loadState [] [{ routeFor web with services := after.services }]).lookup
            (routeEndpointKey (routeFor web) svc) (servicePortKey port) =
          after.allocator.lookup (routeEndpointKey (routeFor web) svc) (servicePortKey port) := by
  intro web
  have ran : (manageServices { ns := "kubelb" } {} none .verbatim [] [0] {} (routeFor web)
      ⟨∅, ∅, newPortAllocator, [], []⟩).map (fun result => (result.2, result.1.allocator.lookup
        "tenant-tenant-t-route-default-web-nodeport-app" "80-TCP")) =
      some (none, some 10000) := by
    decide
  obtain ⟨⟨after, failure⟩, returned, shown⟩ := Option.map_eq_some_iff.mp ran
  obtain ⟨rfl, held⟩ := Prod.mk.inj shown
  refine ⟨after, returned, (route_roundTrip_iff rfl returned ⟨?_, by decide⟩
    (fun _ _ _ => rfl)).mpr ?_⟩
  · intro svc member port inPorts
    cases List.mem_singleton.mp member
    cases List.mem_singleton.mp inPorts
    exact ⟨10000, held, by decide⟩
  · intro svc member port inPorts
    cases List.mem_singleton.mp member
    cases List.mem_singleton.mp inPorts
    exact ⟨_, rfl, rfl⟩

/-- A NodePort service goes through unlabelled: its port is recorded under the
generated name, and after the restart it has none. -/
theorem passed_through_port_is_lost :
    let web : Service :=
      { ns := "default", name := "web", uid := "u-0001", type := .nodePort
        ports := [{ port := 80, nodePort := 30080 }] }
    (do let (after, failure) ← manageServices { ns := "kubelb" } {} none .verbatim [] [0] {}
          (routeFor web) ⟨∅, ∅, newPortAllocator, [], []⟩
        let loaded := loadState [] [{ routeFor web with services := after.services }]
        return (failure, after.services.keys,
          after.allocator.lookup "tenant-tenant-t-route-default-web-app" "80-TCP",
          loaded.lookup "tenant-tenant-t-route-default-web-app" "80-TCP")) =
      some (none, {"tenant-t/default-web"}, some 10000, none) := by
  decide

end KubeLB
