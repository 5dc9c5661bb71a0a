import KubeLB.Route.Controller

/-!
How the Routes of the cluster change under the controller: what a Route lays
claim to, and that no step adds to the claims of any Route but the one that is
applied.
-/

namespace KubeLB
open FiniteMap

/-- The Services generated for a source service of a Route: the one in the
namespace of the Route and, in the global topology, its bridge. -/
def generatedObjects (r : RouteReconciler) (route : Route) (svc : Service) : List ObjectKey :=
  match generateName r.topology.isGlobalTopology svc.uid (getServiceName svc) svc.ns with
  | none => []
  | some name =>
      if r.topology.isGlobalTopology then [⟨route.ns, name⟩, ⟨r.ns, name⟩] else [⟨route.ns, name⟩]

def Generates (r : RouteReconciler) (route : Route) (target : ObjectKey) : Prop :=
  ∃ svc ∈ route.sourceServices, target ∈ generatedObjects r route svc

def Names (r : RouteReconciler) (route : Route) (target : ObjectKey) : Prop :=
  ∃ key value, route.services.lookup key = some value ∧ target = recordedService r route value

/-- A Route lays claim to the Services generated for it and to those its status
names. -/
def Claims (r : RouteReconciler) (route : Route) (target : ObjectKey) : Prop :=
  Generates r route target ∨ Names r route target

theorem generates_congr {r : RouteReconciler} {route route' : Route} (ns : route.ns = route'.ns)
    (spec : route.spec = route'.spec) (target : ObjectKey) :
    Generates r route target ↔ Generates r route' target := by
  simp only [Generates, generatedObjects, Route.sourceServices, ns, spec]

theorem recordedService_congr {r : RouteReconciler} {route route' : Route}
    (ns : route.ns = route'.ns) (value : RouteServiceStatus) :
    recordedService r route value = recordedService r route' value := by
  rw [recordedService, recordedService, ns]

theorem recordedService_generated {r : RouteReconciler} {route : Route} {svc : Service}
    {name : String}
    (named : generateName r.topology.isGlobalTopology svc.uid (getServiceName svc) svc.ns =
      some name) {value : RouteServiceStatus} (generatedName : value.generatedName = name) :
    recordedService r route value ∈ generatedObjects r route svc := by
  rw [recordedService, generatedObjects, named, generatedName]
  by_cases global : r.topology.isGlobalTopology = true
  · by_cases bridge : value.ns = r.ns <;> simp [global, bridge]
  · simp [global]

/-- A status entry that manageServices writes for a source service of a Route. -/
def WrittenEntry (r : RouteReconciler) (route : Route) (value : RouteServiceStatus) : Prop :=
  ∃ svc ∈ route.sourceServices, ∃ name,
    generateName r.topology.isGlobalTopology svc.uid (getServiceName svc) svc.ns = some name ∧
    value.generatedName = name ∧
    (value.ns = (sourceRecord r route svc).ns ∨ (r.topology.isGlobalTopology ∧ value.ns = r.ns))

/-- The entries that the status of a Route has or may come to have. -/
def Entry (r : RouteReconciler) (route : Route) (value : RouteServiceStatus) : Prop :=
  (∃ key, route.services.lookup key = some value) ∨ WrittenEntry r route value

theorem writtenEntry_congr {r : RouteReconciler} {route route' : Route}
    (ns : route.ns = route'.ns) (spec : route.spec = route'.spec) (value : RouteServiceStatus) :
    WrittenEntry r route value ↔ WrittenEntry r route' value := by
  simp only [WrittenEntry, sourceRecord, Route.sourceServices, ns, spec]

theorem Entry.claims {r : RouteReconciler} {route : Route} {value : RouteServiceStatus}
    (entry : Entry r route value) : Claims r route (recordedService r route value) := by
  obtain ⟨key, found⟩ | ⟨svc, member, name, named, generatedName, _⟩ := entry
  · exact Or.inr ⟨key, value, found, rfl⟩
  · exact Or.inl ⟨svc, member, recordedService_generated named generatedName⟩

/-- What a step of the controller may do to a Route: its spec and labels stay, and
new entries of the status are those of its source services. -/
structure Evolves (r : RouteReconciler) (route route' : Route) : Prop where
  objectKey : route'.objectKey = route.objectKey
  spec : route'.spec = route.spec
  labels : route'.labels = route.labels
  entries : ∀ key value, route'.services.lookup key = some value → Entry r route value

theorem Evolves.of_services {r : RouteReconciler} {route route' : Route}
    (objectKey : route'.objectKey = route.objectKey) (spec : route'.spec = route.spec)
    (labels : route'.labels = route.labels) (services : route'.services = route.services) :
    Evolves r route route' where
  objectKey := objectKey
  spec := spec
  labels := labels
  entries key _ found := Or.inl ⟨key, services ▸ found⟩

theorem Evolves.refl (r : RouteReconciler) (route : Route) : Evolves r route route :=
  .of_services rfl rfl rfl rfl

theorem Evolves.ns {r : RouteReconciler} {route route' : Route} (evolves : Evolves r route route') :
    route'.ns = route.ns :=
  congrArg ObjectKey.ns evolves.objectKey

theorem Evolves.entry_le {r : RouteReconciler} {route route' : Route}
    (evolves : Evolves r route route') {value : RouteServiceStatus}
    (entry : Entry r route' value) : Entry r route value := by
  obtain ⟨key, found⟩ | written := entry
  · exact evolves.entries key value found
  · exact Or.inr ((writtenEntry_congr evolves.ns evolves.spec value).mp written)

theorem Evolves.claims_le {r : RouteReconciler} {route route' : Route}
    (evolves : Evolves r route route') {target : ObjectKey} (claimed : Claims r route' target) :
    Claims r route target := by
  obtain generated | ⟨key, value, found, rfl⟩ := claimed
  · exact Or.inl ((generates_congr evolves.ns evolves.spec target).mp generated)
  · rw [recordedService_congr evolves.ns]
    exact (evolves.entries key value found).claims

theorem Evolves.trans {r : RouteReconciler} {route route' route'' : Route}
    (first : Evolves r route route') (second : Evolves r route' route'') :
    Evolves r route route'' where
  objectKey := second.objectKey.trans first.objectKey
  spec := second.spec.trans first.spec
  labels := second.labels.trans first.labels
  entries key value found := first.entry_le (second.entries key value found)

/-- The status after a call without error has old entries and written ones. -/
theorem entry_manageServices {r : RouteReconciler} {faults : ApiFaults}
    {statusFault : Option String} {api : Admission} {order : List String} {draws : List Draw}
    {annotations : AnnotationSettings} {route : Route} {world : RouteWorld}
    {after : RouteEffects}
    (returned : manageServices r faults statusFault api order draws annotations route
      (world.effects route) = some (after, none)) {key : String} {value : RouteServiceStatus}
    (found : after.services.lookup key = some value) : Entry r route value := by
  cases kubernetes : route.spec.kubernetes with
  | none =>
      simp only [manageServices, kubernetes] at returned
      cases returned
      exact Or.inl ⟨key, found⟩
  | some source =>
      obtain ⟨cleaned, allocator, rest, services, cleanedUp, _, generated, rfl⟩ :=
        manageServices_ok kubernetes returned
      have lookedUp :=
        lookup_applyServices faults api services { cleaned with allocator := allocator } key
      cases last : lastWith StatusRecord.key (services.map statusRecord) key with
      | none =>
          rw [last] at lookedUp
          exact Or.inl ⟨key,
            lookup_cleanupOrphanedServices cleanedUp (lookedUp.symm.trans found)⟩
      | some entry =>
          rw [last] at lookedUp
          obtain ⟨value', found', ns, generatedName⟩ := lookedUp
          cases found.symm.trans found'
          obtain ⟨made, inServices, rfl⟩ := List.mem_map.mp (lastWith_eq_some last).1
          obtain ⟨svc, member, name, named, shape⟩ := mem_generateServices generated inServices
          have source : svc ∈ route.sourceServices := by
            rw [sourceServices_eq kubernetes]
            exact member
          refine Or.inr ⟨svc, source, name, named, ?_⟩
          obtain rfl | ⟨global, rfl⟩ := shape
          · exact ⟨generatedName, Or.inl ns⟩
          · rw [statusRecord_generateBridgeService] at ns generatedName
            exact ⟨generatedName, Or.inr ⟨global, ns⟩⟩

def RoutesEvolve (r : RouteReconciler) (world world' : RouteWorld) : Prop :=
  ∀ key route', world'.routes.lookup key = some route' →
    ∃ route, world.routes.lookup key = some route ∧ Evolves r route route'

namespace RoutesEvolve
variable {r : RouteReconciler} {world world' : RouteWorld}

theorem of_eq (same : world'.routes = world.routes) : RoutesEvolve r world world' := by
  intro key route' found
  rw [same] at found
  exact ⟨route', found, Evolves.refl r route'⟩

theorem of_erase {key : ObjectKey} (same : world'.routes = world.routes.erase key) :
    RoutesEvolve r world world' := by
  intro key' route' found
  rw [same] at found
  exact ⟨route', lookup_of_lookup_erase found, Evolves.refl r route'⟩

theorem of_insert {key : ObjectKey} {route new : Route}
    (here : world.routes.lookup key = some route)
    (same : world'.routes = world.routes.insert key new) (evolves : Evolves r route new) :
    RoutesEvolve r world world' := by
  intro key' route' found
  rw [same] at found
  by_cases atKey : key' = key
  · subst atKey
    rw [Finmap.lookup_insert] at found
    cases found
    exact ⟨route, here, evolves⟩
  · rw [Finmap.lookup_insert_of_ne _ atKey] at found
    exact ⟨route', found, Evolves.refl r route'⟩

theorem trans {world'' : RouteWorld} (first : RoutesEvolve r world world')
    (second : RoutesEvolve r world' world'') : RoutesEvolve r world world'' := by
  intro key route'' found
  obtain ⟨route', found', evolves'⟩ := second key route'' found
  obtain ⟨route, found, evolves⟩ := first key route' found'
  exact ⟨route, found, evolves.trans evolves'⟩

end RoutesEvolve

variable {r : RouteReconciler} {world world' : RouteWorld}

theorem cleanupRoute_evolve (env : RouteEnv) {key : ObjectKey} {route : Route}
    (here : world.routes.lookup key = some route) :
    RoutesEvolve r world (cleanupRoute r env world key route) := by
  rw [cleanupRoute]
  split
  · exact .of_eq rfl
  · split
    · exact .of_eq rfl
    · simp only
      split
      · exact .of_erase rfl
      · exact .of_insert here rfl (.of_services rfl rfl rfl rfl)

theorem manageRoute_evolve {env : RouteEnv} {tenant config : Settings} {key : ObjectKey}
    {route : Route} (here : world.routes.lookup key = some route)
    (returned : manageRoute r env tenant config world key route = some world') :
    RoutesEvolve r world world' := by
  obtain ⟨⟨done, failure⟩, managed, returned⟩ := Option.bind_eq_some_iff.mp returned
  cases failure with
  | some err =>
      cases returned
      exact .of_eq rfl
  | none =>
      cases returned
      exact .of_insert here rfl ⟨rfl, rfl, rfl, fun _ _ => entry_manageServices managed⟩

theorem reconcileRoute_evolve {env : RouteEnv} {key : ObjectKey}
    (returned : reconcileRoute r env world key = some world') : RoutesEvolve r world world' := by
  simp only [reconcileRoute] at returned
  split at returned
  · cases returned
    exact .of_eq rfl
  · cases returned
    exact .of_eq rfl
  · rename_i route tenant config here _
    split at returned
    · split at returned
      · cases returned
        exact cleanupRoute_evolve env here
      · cases returned
        exact .of_eq rfl
    · split at returned
      · cases returned
        exact .of_eq rfl
      · split at returned
        · cases returned
          exact cleanupRoute_evolve env here
        split at returned
        · cases returned
          exact .of_eq rfl
        split at returned
        · exact manageRoute_evolve here returned
        · split at returned
          · cases returned
            exact .of_eq rfl
          · refine .trans ?_ (manageRoute_evolve (Finmap.lookup_insert _) returned)
            exact .of_insert here rfl (.of_services rfl rfl rfl rfl)

/-- The Routes after a step: those that were there before, or the one applied. -/
theorem routeStep_routes {action : RouteAction} (taken : routeStep r world action = some world') :
    RoutesEvolve r world world' ∨ ∃ applied, action = .apply applied ∧
      world'.routes = world.routes.insert applied.objectKey
        (appliedRoute (world.routes.lookup applied.objectKey) applied) := by
  cases action with
  | apply applied =>
      cases taken
      exact Or.inr ⟨applied, rfl, rfl⟩
  | delete key =>
      left
      simp only [routeStep] at taken
      split at taken
      · cases taken
        exact .of_eq rfl
      · rename_i route here
        split at taken
        · cases taken
          exact .of_erase rfl
        · cases taken
          exact .of_insert here rfl (.of_services rfl rfl rfl rfl)
  | reconcile key env => exact Or.inl (reconcileRoute_evolve taken)

end KubeLB
