import KubeLB.Envoy.Proxy
import KubeLB.Envoy.Snapshot
import KubeLB.PortLookup.AllocatorRuns
import KubeLB.PortLookup.Loading

/-!
The ports that an Envoy pod listens on before any snapshot reaches it
(internal/envoy/bootstrap.go), beside those the allocator hands out.

The bootstrap configuration opens a readiness and a stats listener, and the
shutdown manager listens in the same pod. The three ports lie inside the range
that AllocatePorts draws from, and no draw is compared with them. Where a listener
has no port in the table it binds a port of the spec, which is not compared either.
-/

namespace KubeLB
open FiniteMap PortAllocator Runs

def adminClusterName : String := "admin_cluster"

def getReadinessProbeListener : Listener where
  name := "probe_listener"
  clusterName := adminClusterName
  port := envoyReadinessPort
  filter := .httpConnectionManager

def getStatsListener : Listener where
  name := "stats_listener"
  clusterName := adminClusterName
  port := envoyStatsPort
  filter := .httpConnectionManager

/-- The static listeners of GenerateBootstrap. The admin interface has a socket of
its own, outside the range of the allocator, and no listener. -/
def bootstrapListeners : List Listener := [getReadinessProbeListener, getStatsListener]

/-- The ports of the static listeners and, unless graceful shutdown is switched off,
of the sidecar. -/
def staticPorts (envoyProxy : EnvoyProxy) : List Int :=
  bootstrapListeners.map Listener.port ++
    if envoyProxy.gracefulShutdownEnabled then
      (shutdownManagerContainer envoyProxy).ports.map ContainerPort.containerPort
    else []

theorem staticPorts_eq_containerPorts (envoyProxy : EnvoyProxy)
    (bootstrap ns appName snapshotName : String) :
    staticPorts envoyProxy =
      (getEnvoyProxyPodSpec envoyProxy bootstrap ns appName snapshotName).containers.flatMap
        fun container => container.ports.map ContainerPort.containerPort := by
  rw [staticPorts, getEnvoyProxyPodSpec, List.flatMap_cons]
  congr 1
  split <;> rfl

/-! ## The ports of a snapshot -/

/-- Where a listener takes its port from: the keys it is looked up under, and the port
of the spec that it falls back to. -/
structure ListenerPort where
  endpointKey : String
  portKey : String
  own : Int

def ListenerPort.bound (pa : PortAllocator) (entry : ListenerPort) : Int :=
  listenerPort pa entry.endpointKey entry.portKey entry.own

def Protocol.hasListener : Protocol → Bool
  | .tcp | .udp => true
  | _ => false

def loadBalancerListenerPorts (lb : LoadBalancer) : List ListenerPort :=
  lb.spec.endpoints.zipIdx.flatMap fun (endpoint, i) =>
    (endpoint.ports.filter (·.protocol.hasListener)).map fun port =>
      ⟨envoyEndpointPattern lb.ns lb.name i, endpointPortKey port, port.port⟩

def routeListenerPorts (route : Route) : List ListenerPort :=
  route.sourceServices.flatMap fun svc =>
    (svc.ports.filter (·.protocol.hasListener)).map fun port =>
      ⟨routeEndpointKey route svc, servicePortKey port, port.port⟩

def listenerPorts (lbs : List LoadBalancer) (routes : List Route) : List ListenerPort :=
  lbs.flatMap loadBalancerListenerPorts ++ routes.flatMap routeListenerPorts

section Listeners
variable (pa : PortAllocator)

theorem map_port_filterMap {α : Type} (build : α → Option Listener) (emits : α → Bool)
    (number : α → Int)
    (port : ∀ x, (build x).map Listener.port = if emits x then some (number x) else none)
    (xs : List α) :
    (xs.filterMap build).map Listener.port = (xs.filter emits).map number := by
  rw [List.map_filterMap, ← List.filterMap_eq_map, List.filterMap_filter]
  exact List.filterMap_congr fun x _ => port x

theorem loadBalancerListeners_ports (lb : LoadBalancer) :
    (loadBalancerListeners pa lb).map Listener.port =
      (loadBalancerListenerPorts lb).map (ListenerPort.bound pa) := by
  rw [loadBalancerListeners, loadBalancerListenerPorts, List.map_flatMap, List.map_flatMap]
  refine congrArg (lb.spec.endpoints.zipIdx.flatMap ·) (funext fun pair => ?_)
  rw [List.map_map]
  refine map_port_filterMap _ _ _ (fun port => ?_) _
  rw [loadBalancerListener]
  cases port.protocol <;> rfl

theorem routeListeners_ports (route : Route) :
    (routeListeners pa route).map Listener.port =
      (routeListenerPorts route).map (ListenerPort.bound pa) := by
  rw [routeListeners, routeListenerPorts, List.map_flatMap, List.map_flatMap]
  refine congrArg (route.sourceServices.flatMap ·) (funext fun svc => ?_)
  rw [List.map_map]
  refine map_port_filterMap _ _ _ (fun port => ?_) _
  rw [routeListener]
  cases port.protocol with
  | tcp => simp only []; split <;> rfl
  | udp | sctp | unset => rfl

/-- The ports that a snapshot binds, in the order of its listeners. -/
theorem mapSnapshot_ports {get : ObjectKey → Except String (List EndpointAddress)}
    {lbs : List LoadBalancer} {routes : List Route} {snapshot : Snapshot}
    (built : mapSnapshot get lbs routes pa = .ok snapshot) :
    snapshot.listeners.map Listener.port =
      (listenerPorts lbs routes).map (ListenerPort.bound pa) := by
  rw [mapSnapshot_listeners built, listenerPorts, List.map_append, List.map_append,
    List.map_flatMap, List.map_flatMap, List.map_flatMap, List.map_flatMap]
  simp only [loadBalancerListeners_ports, routeListeners_ports]

end Listeners

/-! ## Runs -/

structure Serving where
  allocator : PortAllocator
  snapshot : Option Snapshot

/-- A manager starts and loads the recorded ports; one of the controllers calls the
allocator; the control plane builds a snapshot. -/
inductive ServingAction
  | loadState (lbs : List LoadBalancer) (routes : List Route)
  | call (c : Call)
  | mapSnapshot (get : ObjectKey → Except String (List EndpointAddress))
      (lbs : List LoadBalancer) (routes : List Route)

namespace Serving

def new : Serving := ⟨newPortAllocator, none⟩

def step (s : Serving) : ServingAction → Option Serving
  | .loadState lbs routes => some { s with allocator := KubeLB.loadState lbs routes }
  | .call c => (s.allocator.call c).map fun pa => { s with allocator := pa }
  | .mapSnapshot get lbs routes =>
      -- After an error the snapshot before stays in the cache.
      match KubeLB.mapSnapshot get lbs routes s.allocator with
      | .ok snapshot => some { s with snapshot := some snapshot }
      | .error _ => some s

/-- No allocated port is one of `static`, and no listener of the snapshot binds one. -/
structure ClearOf (static : List Int) (s : Serving) : Prop where
  allocated : ∀ e k port, s.allocator.lookup e k = some port → port ∉ static
  listeners : ∀ snapshot ∈ s.snapshot, ∀ port ∈ snapshot.listeners.map Listener.port,
    port ∉ static

/-- What a step has to keep to: no port that it brings in is one of `static`, be it a
record that LoadState reads, a draw that AllocatePorts accepts or a port that a
listener binds without having it from the table. -/
def Avoids (static : List Int) (s : Serving) : ServingAction → Prop
  | .loadState lbs routes =>
      ∀ load, Stands (reads lbs routes) load → load.record.targetPort ∉ static
  | .call (.allocatePorts e portKeys draws) =>
      ∀ port ∈ (freePorts s.allocator.portLookupReverse draws).take
        (portKeys.toFinset \ (s.allocator.portsOf e).keys).card, port ∉ static
  | .call (.deallocatePorts _ _) | .call (.deallocateEndpoints _) => True
  | .mapSnapshot get lbs routes =>
      (KubeLB.mapSnapshot get lbs routes s.allocator).isOk →
        ∀ entry ∈ listenerPorts lbs routes,
          s.allocator.lookup entry.endpointKey entry.portKey ≠ some (entry.bound s.allocator) →
            entry.bound s.allocator ∉ static

section Step
variable {static : List Int} {s : Serving}

theorem clearOf_new : new.ClearOf static where
  allocated e k port found := by
    cases found
  listeners _ built := by cases built

theorem ClearOf.allocator_iff (clear : s.ClearOf static) (pa : PortAllocator) :
    ClearOf static { s with allocator := pa } ↔
      ∀ e k port, pa.lookup e k = some port → port ∉ static :=
  ⟨ClearOf.allocated, fun allocated => ⟨allocated, clear.listeners⟩⟩

theorem ClearOf.subset (clear : s.ClearOf static) {pa : PortAllocator}
    (subset : ∀ e k port, pa.lookup e k = some port → s.allocator.lookup e k = some port) :
    ClearOf static { s with allocator := pa } :=
  (clear.allocator_iff pa).mpr fun e k port found =>
    clear.allocated e k port (subset e k port found)

theorem clearOf_loadState_iff (clear : s.ClearOf static) (lbs : List LoadBalancer)
    (routes : List Route) :
    ClearOf static { s with allocator := KubeLB.loadState lbs routes } ↔
      s.Avoids static (.loadState lbs routes) := by
  rw [clear.allocator_iff]
  constructor
  · intro allocated load stands
    exact allocated _ _ _ stands.lookup
  · intro records e k port found
    obtain ⟨load, stands, _, rfl⟩ := stands_of_lookup found
    exact records load stands

theorem clearOf_allocatePorts_iff (clear : s.ClearOf static) {pa : PortAllocator} {e : String}
    {portKeys : List String} {draws rest : List Draw} {updated : Bool}
    (returned : s.allocator.allocatePorts e portKeys draws = some (pa, updated, rest)) :
    ClearOf static { s with allocator := pa } ↔
      s.Avoids static (.call (.allocatePorts e portKeys draws)) := by
  obtain ⟨fresh, allocated⟩ := allocatePorts_spec returned
  rw [clear.allocator_iff, Avoids, ← allocated.missing.ports_eq_take]
  constructor
  · intro clear' port drawn
    obtain ⟨⟨k, _⟩, isFresh, rfl⟩ := List.mem_map.mp drawn
    have asked := ((allocated.missing.keys k).mp (List.mem_map_of_mem isFresh)).1
    exact clear' e k _ ((allocated.own k _).mpr ⟨asked, Or.inr isFresh⟩)
  · intro drawn e' k port found
    by_cases own : e' = e
    · subst own
      obtain ⟨_, old | isFresh⟩ := (allocated.own k port).mp found
      · exact clear.allocated e' k port old
      · exact drawn port (List.mem_map_of_mem isFresh)
    · rw [allocated.other e' k own] at found
      exact clear.allocated e' k port found

/-- A listener that has its port from the table binds none of `static` already. -/
theorem clearOf_mapSnapshot_iff (clear : s.ClearOf static)
    {get : ObjectKey → Except String (List EndpointAddress)} {lbs : List LoadBalancer}
    {routes : List Route} {snapshot : Snapshot}
    (built : KubeLB.mapSnapshot get lbs routes s.allocator = .ok snapshot) :
    ClearOf static { s with snapshot := some snapshot } ↔
      s.Avoids static (.mapSnapshot get lbs routes) := by
  have ports := mapSnapshot_ports s.allocator built
  constructor
  · intro clear' _ entry listed _
    refine clear'.listeners snapshot rfl _ ?_
    rw [ports]
    exact List.mem_map_of_mem listed
  · intro avoids
    refine ⟨clear.allocated, fun snapshot' same port member => ?_⟩
    cases same
    rw [ports] at member
    obtain ⟨entry, listed, rfl⟩ := List.mem_map.mp member
    by_cases fromTable : s.allocator.lookup entry.endpointKey entry.portKey =
        some (entry.bound s.allocator)
    · exact clear.allocated _ _ _ fromTable
    · exact avoids (by rw [built]; rfl) entry listed fromTable

theorem clearOf_step_iff (clear : s.ClearOf static) {a : ServingAction} {s' : Serving}
    (taken : s.step a = some s') : s'.ClearOf static ↔ s.Avoids static a := by
  cases a with
  | loadState lbs routes =>
      cases taken
      exact clearOf_loadState_iff clear lbs routes
  | call c =>
      obtain ⟨pa, returned, rfl⟩ := Option.map_eq_some_iff.mp taken
      cases c with
      | allocatePorts e portKeys draws =>
          obtain ⟨⟨_, updated, rest⟩, allocation, rfl⟩ := Option.map_eq_some_iff.mp returned
          exact clearOf_allocatePorts_iff clear allocation
      | deallocatePorts e portKeys =>
          cases returned
          refine iff_of_true (clear.subset fun e' k port found => ?_) True.intro
          rw [lookup_deallocatePorts] at found
          exact (Option.ite_none_left_eq_some.mp found).2
      | deallocateEndpoints endpointKeys =>
          cases returned
          refine iff_of_true (clear.subset fun e k port found => ?_) True.intro
          rw [lookup_deallocateEndpoints] at found
          exact (Option.ite_none_left_eq_some.mp found).2
  | mapSnapshot get lbs routes =>
      simp only [step] at taken
      split at taken
      · rename_i snapshot built
        cases taken
        exact clearOf_mapSnapshot_iff clear built
      · rename_i failed
        cases taken
        refine iff_of_true clear fun ok => ?_
        rw [failed] at ok
        cases ok

end Step

/-- Exactly when a run keeps allocated ports and listeners off the static ports of the
pods throughout: each step has to bring in none of them. -/
theorem clear_of_static_ports_iff (envoyProxy : EnvoyProxy) (actions : List ServingAction) :
    Throughout step new actions (ClearOf (staticPorts envoyProxy)) ↔
      EachStep step new actions fun s a _ => s.Avoids (staticPorts envoyProxy) a := by
  refine throughout_iff_eachStep (I := fun _ => True) True.intro ?_ clearOf_new ?_ actions
  · exact fun _ _ _ _ _ => True.intro
  · exact fun s a s' _ clear taken => clearOf_step_iff clear taken

end Serving

def drawnLoadBalancer : LoadBalancer :=
  { ns := "tenant-t", name := "web"
    spec := { endpoints := [{ addresses := [⟨"10.0.0.1", ""⟩]
                              ports := [⟨"http", 30080, .tcp⟩] }] } }

def drawnFor (draw : Draw) : List ServingAction :=
  [.call (.allocatePorts "tenant-t-web-ep-0" ["30080-TCP"] [draw]),
    .mapSnapshot (fun _ => .error "not found") [drawnLoadBalancer] []]

/-- The port allocated to the LoadBalancer, and those that the listeners bind. -/
def portsAfter (actions : List ServingAction) : Option (Option Int × Option (List Int)) :=
  (run Serving.step Serving.new actions).map fun s =>
    (s.allocator.lookup "tenant-t-web-ep-0" "30080-TCP",
      s.snapshot.map fun snapshot => snapshot.listeners.map Listener.port)

/-- One draw is enough for each of the static ports: it is allocated to the LoadBalancer,
and the listener of the snapshot binds it. -/
theorem static_ports_drawn :
    [9003, 9001, 9002].map (fun draw => portsAfter (drawnFor draw)) =
        (staticPorts {}).map (fun port => some (some port, some [port])) ∧
      ¬ Throughout Serving.step Serving.new (drawnFor 9001) (Serving.ClearOf (staticPorts {})) := by
  refine ⟨by decide, fun clear => ?_⟩
  have last := clear (drawnFor 9001) _ (List.prefix_refl _) rfl
  exact last.allocated "tenant-t-web-ep-0" "30080-TCP" 19001 (by decide) (by decide)

end KubeLB
