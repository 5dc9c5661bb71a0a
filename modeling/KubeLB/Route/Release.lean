import KubeLB.Foundation.Runs
import KubeLB.Route.ServicesSpec

/-!
What stays in the table of the services that updates drop from a Route.

Each update replaces the source services and is followed by manageServices, which
first cleans up what the status records and the spec no longer has, and then
allocates for the spec. The ports of a service are kept under its namespace and
its name; the cleanup deletes the key made from the namespace and the generated
name that the status records. A dropped service leaves its key behind unless the
two make the same text.
-/

namespace KubeLB
open FiniteMap Runs PortAllocator

/-- An update of the source services, and what the manageServices call that
follows it meets. -/
structure ServicesUpdate where
  services : List Service
  faults : ApiFaults := {}
  statusFault : Option String := none
  api : Admission := .verbatim
  order : List String := []
  draws : List Draw := []
  annotations : AnnotationSettings := {}

structure RouteState where
  route : Route
  store : ServiceStore := ∅
  allocator : PortAllocator := newPortAllocator

def Route.withServices (route : Route) (services : List Service) : Route :=
  { route with spec := { route.spec with
      kubernetes := route.spec.kubernetes.map fun source => { source with services := services } } }

/-- The status is written only if the call reports no error. -/
def servicesStep (r : RouteReconciler) (state : RouteState) (update : ServicesUpdate) :
    Option RouteState := do
  let route := state.route.withServices update.services
  let (done, failure) ← manageServices r update.faults update.statusFault update.api update.order
    update.draws update.annotations route ⟨route.services, state.store, state.allocator, [], []⟩
  match failure with
  | none => return ⟨{ route with services := done.services }, done.store, done.allocator⟩
  | some _ => return ⟨route, done.store, done.allocator⟩

def OwnKey (route : Route) (e : String) : Prop :=
  ∃ ns name, e = envoyEndpointRoutePattern route.ns ns name (originalRouteName route)

/-- Of the keys of the Route the table has exactly those of its source services. -/
def OwnKeysCurrent (state : RouteState) : Prop :=
  ∀ e, OwnKey state.route e → (e ∈ state.allocator.portLookup ↔
    ∃ svc ∈ state.route.sourceServices, routeEndpointKey state.route svc = e)

/-- The Delete calls succeed, and every service that loses its key in the spec
has an entry in the status that is an orphan now and whose namespace and
generated name make the text of its own namespace and name. -/
structure RecordedUnderOwnName (r : RouteReconciler) (state : RouteState)
    (update : ServicesUpdate) : Prop where
  deletes : ∀ key, update.faults.delete key = none
  dropped : ∀ svc ∈ state.route.sourceServices,
    (∀ svc' ∈ update.services,
      routeEndpointKey state.route svc' ≠ routeEndpointKey state.route svc) →
    ∃ key value, state.route.services.lookup key = some value ∧
      ¬ sparedEntry r (state.route.withServices update.services) state.route.services key value ∧
      value.ns ++ "-" ++ value.generatedName = svc.ns ++ "-" ++ svc.name

/-- The endpoint keys depend on the join of namespace and name only. -/
theorem envoyEndpointRoutePattern_congr {ns routeName svcNs svcName svcNs' svcName' : String}
    (same : svcNs ++ "-" ++ svcName = svcNs' ++ "-" ++ svcName') :
    envoyEndpointRoutePattern ns svcNs svcName routeName =
      envoyEndpointRoutePattern ns svcNs' svcName' routeName := by
  have joined (before svcNs svcName : String) :
      before ++ svcNs ++ "-" ++ svcName = before ++ (svcNs ++ "-" ++ svcName) := by
    rw [← String.append_assoc, ← String.append_assoc]
  unfold envoyEndpointRoutePattern
  rw [joined _ svcNs, joined _ svcNs', same]

/-- The keys after a manageServices call, whether or not a later step of it
fails: those of the source services, and those the cleanup has left. -/
theorem mem_portLookup_manageServices {r : RouteReconciler} {faults : ApiFaults} {route : Route}
    {statusFault : Option String} {api : Admission} {order : List String} {draws : List Draw}
    {annotations : AnnotationSettings} {before after : RouteEffects} {failure : Option String}
    {source : KubernetesSource} (kubernetes : route.spec.kubernetes = some source)
    (deletes : ∀ key, faults.delete key = none)
    (returned : manageServices r faults statusFault api order draws annotations route before =
      some (after, failure)) :
    ∃ cleaned, cleanupOrphanedServices r faults route order before = (cleaned, none) ∧
      ∀ e, e ∈ after.allocator.portLookup ↔
        (∃ svc ∈ route.sourceServices, routeEndpointKey route svc = e) ∨
          e ∈ cleaned.allocator.portLookup := by
  simp only [manageServices, kubernetes] at returned
  have cleanedUp := cleanupOrphanedServices_succeeds (r := r) deletes route order before
  split at returned
  · rename_i failed
    rw [failed] at cleanedUp
    cases cleanedUp
  · rename_i cleaned cleanedUp
    obtain ⟨⟨allocator, rest⟩, allocated, returned⟩ := Option.bind_eq_some_iff.mp returned
    have table : after.allocator = allocator := by
      simp only at returned
      split at returned
      · cases returned
        rfl
      · cases returned
        exact (applyServices_frame _ _ _ _).2.2
    refine ⟨cleaned, cleanedUp, fun e => ?_⟩
    rw [table, mem_allocateAll allocated e]
    simp [routeRequests]

section
variable {r : RouteReconciler} {state after : RouteState} {update : ServicesUpdate}

theorem originalRouteName_withServices (route : Route) (services : List Service) :
    originalRouteName (route.withServices services) = originalRouteName route := by
  simp only [originalRouteName, Route.withServices]
  cases route.spec.kubernetes <;> rfl

theorem routeEndpointKey_withServices (route : Route) (services : List Service) (svc : Service) :
    routeEndpointKey (route.withServices services) svc = routeEndpointKey route svc := by
  rw [routeEndpointKey, originalRouteName_withServices]
  rfl

/-- An update and its call change the services in the spec, what the status
records, the Services and the table. -/
theorem servicesStep_cases (taken : servicesStep r state update = some after) :
    ∃ done failure services,
      manageServices r update.faults update.statusFault update.api update.order
        update.draws update.annotations (state.route.withServices update.services)
        ⟨state.route.services, state.store, state.allocator, [], []⟩ = some (done, failure) ∧
      after = ⟨{ state.route.withServices update.services with services := services },
        done.store, done.allocator⟩ := by
  obtain ⟨⟨done, failure⟩, returned, written⟩ := Option.bind_eq_some_iff.mp taken
  refine ⟨done, failure, ?_⟩
  cases failure with
  | none =>
      cases written
      exact ⟨_, returned, rfl⟩
  | some err =>
      cases written
      exact ⟨_, returned, rfl⟩

/-- A service that is dropped and recorded under its own name loses its key. -/
theorem RecordedUnderOwnName.removed (recorded : RecordedUnderOwnName r state update)
    (ordered : Enumerates update.order state.route.services) {cleaned : RouteEffects}
    (cleanedUp : cleanupOrphanedServices r update.faults (state.route.withServices update.services)
      update.order ⟨state.route.services, state.store, state.allocator, [], []⟩ = (cleaned, none))
    {svc : Service} (source : svc ∈ state.route.sourceServices)
    (absent : ∀ svc' ∈ update.services,
      routeEndpointKey state.route svc' ≠ routeEndpointKey state.route svc) :
    routeEndpointKey state.route svc ∉ cleaned.allocator.portLookup := by
  obtain ⟨key, value, found, unspared, joined⟩ := recorded.dropped svc source absent
  have inOrder : key ∈ update.order := (ordered.2 key).mpr (Finmap.mem_of_lookup_eq_some found)
  have gone := (removed_of_unspared cleanedUp inOrder found unspared).2
  rw [orphanedEndpointKey, originalRouteName_withServices] at gone
  rw [routeEndpointKey, ← envoyEndpointRoutePattern_congr joined]
  exact gone

/-- After a call whose Delete calls succeed the Route has the keys of its source
services, and those it had before that no removed entry makes. -/
theorem ownKeysCurrent_of_step (before : OwnKeysCurrent state)
    (ordered : Enumerates update.order state.route.services)
    (recorded : RecordedUnderOwnName r state update)
    (taken : servicesStep r state update = some after) : OwnKeysCurrent after := by
  obtain ⟨done, failure, services, returned, rfl⟩ := servicesStep_cases taken
  intro e own
  have ownBefore : OwnKey state.route e := by
    obtain ⟨ns, name, same⟩ := own
    refine ⟨ns, name, same.trans ?_⟩
    rw [← originalRouteName_withServices state.route update.services]
    rfl
  change e ∈ done.allocator.portLookup ↔
    ∃ svc ∈ (state.route.withServices update.services).sourceServices,
      routeEndpointKey (state.route.withServices update.services) svc = e
  cases kubernetes : state.route.spec.kubernetes with
  | none =>
      -- without a Kubernetes source there are no services and the call does nothing
      have same : state.route.withServices update.services = state.route := by
        rw [Route.withServices, kubernetes, Option.map_none, ← kubernetes]
      rw [same, manageServices, kubernetes] at returned
      cases returned
      rw [same]
      exact before e ownBefore
  | some source =>
      have kubernetes' : (state.route.withServices update.services).spec.kubernetes =
          some { source with services := update.services } := by
        simp only [Route.withServices, kubernetes, Option.map_some]
      obtain ⟨cleaned, cleanedUp, keys⟩ :=
        mem_portLookup_manageServices kubernetes' recorded.deletes returned
      rw [keys e, or_iff_left_iff_imp, sourceServices_eq kubernetes']
      simp only [routeEndpointKey_withServices]
      intro kept
      by_contra absent
      obtain ⟨svc, member, rfl⟩ := (before e ownBefore).mp (mem_of_mem_cleanup cleanedUp kept)
      refine recorded.removed ordered cleanedUp member ?_ kept
      exact fun svc' inServices same => absent ⟨svc', inServices, same⟩

/-- In a run in which every dropped service is recorded under its own name the
table has, of the Route's keys, those of the current source services. -/
theorem run_ownKeysCurrent {init : RouteState} (start : OwnKeysCurrent init)
    {updates : List ServicesUpdate}
    (ordered : EachStep (servicesStep r) init updates fun state update _ =>
      Enumerates update.order state.route.services)
    (recorded : EachStep (servicesStep r) init updates fun state update _ =>
      RecordedUnderOwnName r state update) :
    Throughout (servicesStep r) init updates OwnKeysCurrent := by
  refine throughout_of_eachStep
    (C := fun state update _ => Enumerates update.order state.route.services ∧
      RecordedUnderOwnName r state update) start ?_ ?_
  · rintro state update after before ⟨ordered, recorded⟩ taken
    exact ownKeysCurrent_of_step before ordered recorded taken
  · intro earlier update state after small reached taken
    exact ⟨ordered earlier update state after small reached taken,
      recorded earlier update state after small reached taken⟩

end

/-- A Route without services, and the replica that the tenant side makes of a
NodePort service. -/
def emptyRoute : RouteState where
  route :=
    { ns := "tenant-t", name := "u-app"
      spec := { kubernetes := some { route := { name := "app" } } } }

def replicaOf (ns name : String) : Service where
  ns := ns
  name := name ++ "-nodeport"
  uid := "u-0001"
  type := .nodePort
  labels := insertAll ∅ [(labelOriginName, name), (labelOriginNamespace, ns)]
  ports := [{ port := 80, nodePort := 30080 }]

/-- In this namespace the generated name is the name of the replica. -/
theorem ownKeysCurrent_dropped_replica :
    Throughout (servicesStep { ns := "kubelb" }) emptyRoute
      [{ services := [replicaOf "nodeport" "nodeport"], draws := [0] },
        { services := [], order := ["nodeport/nodeport"] }] OwnKeysCurrent := by
  have start : OwnKeysCurrent emptyRoute := by
    intro e _
    exact iff_of_false (Finmap.notMem_empty) (by simp [emptyRoute, Route.sourceServices])
  have first : (servicesStep { ns := "kubelb" } emptyRoute
      { services := [replicaOf "nodeport" "nodeport"], draws := [0] }).map
        (fun after => (after.route.services.keys, after.route.sourceServices,
          (after.route.services.lookup "nodeport/nodeport").map fun value =>
            (value.ns, value.generatedName))) =
      some ({"nodeport/nodeport"}, [replicaOf "nodeport" "nodeport"],
        some ("nodeport", "nodeport-nodeport")) := by
    decide
  refine run_ownKeysCurrent start ?_ ?_
  · refine eachStep_cons fun after taken => ⟨⟨List.nodup_nil, fun key => ?_⟩, ?_⟩
    · exact iff_of_false List.not_mem_nil (Finmap.notMem_empty)
    · refine eachStep_cons fun _ _ => ⟨⟨List.nodup_singleton _, fun key => ?_⟩, eachStep_nil _⟩
      rw [taken] at first
      have keys := (Prod.mk.inj (Option.some.inj first)).1
      rw [← Finmap.mem_keys, keys, List.mem_singleton, Finset.mem_singleton]
  · refine eachStep_cons fun after taken => ⟨⟨fun _ => rfl, ?_⟩, ?_⟩
    · intro svc member
      cases member
    · refine eachStep_cons fun _ _ => ⟨⟨fun _ => rfl, ?_⟩, eachStep_nil _⟩
      rw [taken] at first
      obtain ⟨_, rest⟩ := Prod.mk.inj (Option.some.inj first)
      obtain ⟨sources, entry⟩ := Prod.mk.inj rest
      obtain ⟨value, found, shown⟩ := Option.map_eq_some_iff.mp entry
      obtain ⟨ns, generated⟩ := Prod.mk.inj shown
      have noServices : (after.route.withServices []).sourceServices = [] := by
        simp only [Route.sourceServices, Route.withServices]
        cases after.route.spec.kubernetes <;> rfl
      intro svc member _
      rw [sources, List.mem_singleton] at member
      refine ⟨_, value, found, ?_, ?_⟩
      · rintro (desired | ⟨global, _⟩)
        · rw [desiredServices, noServices] at desired
          cases desired
        · cases global
      · rw [ns, generated, member]
        rfl

/-- A replica is dropped and its Service deleted; its port stays. -/
theorem dropped_service_keeps_key :
    (do let state ← run (servicesStep { ns := "kubelb" }) emptyRoute
          [{ services := [replicaOf "default" "web", replicaOf "default" "api"], draws := [0, 1] },
            { services := [replicaOf "default" "web"], order := ["default/web", "default/api"] }]
        return (state.route.services.keys, state.store.keys, state.allocator.portLookup.keys)) =
      some ({"default/web"}, {⟨"tenant-t", "default-web"⟩},
        {"tenant-tenant-t-route-default-web-nodeport-app",
          "tenant-tenant-t-route-default-api-nodeport-app"}) := by
  decide

end KubeLB
