import KubeLB.Foundation.Runs
import KubeLB.Route.Backends

/-!
Runs in which the Routes of a tenant are reconciled and the control plane
allocates, in any order.

The last Route to be reconciled decides where a Service leads. When no two
Routes meet in a Service or in an endpoint key and the names of the source
services of each are told apart, every Route that has been reconciled is served
by its own listeners from then on.
-/

namespace KubeLB
open FiniteMap Runs PortAllocator

inductive BackendAction
  | reconcile (key : ObjectKey) (env : RouteEnv)
  /-- The control plane allocates ports for what it has listed. -/
  | allocate (lbs : List LoadBalancer) (routes : List Route) (draws : List Draw)

structure BackendState where
  world : RouteWorld
  reconciled : List ObjectKey

def backendStep (r : RouteReconciler) (state : BackendState) :
    BackendAction → Option BackendState
  | .reconcile key env =>
      (reconcileRoute r env state.world key).map fun world => ⟨world, key :: state.reconciled⟩
  | .allocate lbs routes draws =>
      (envoyAllocate state.world.allocator lbs routes draws).map fun (allocator, _) =>
        ⟨{ state.world with allocator := allocator }, state.reconciled⟩

/-- The steps of a run: a live Route is reconciled without a failure, or ports are
allocated for Routes as they are and for LoadBalancers with endpoint keys of
their own. -/
def Orderly (r : RouteReconciler) (world : RouteWorld) : BackendAction → Prop
  | .reconcile key env => ∃ route tenant config,
      world.routes.lookup key = some route ∧ route.deletionTimestamp = false ∧
      env.tenantAndConfig = .ok (tenant, config) ∧
      shouldReconcile r route tenant config = .ok (true, false) ∧
      env.faults = {} ∧ env.updateFault = none ∧ env.statusFault = none
  | .allocate lbs routes _ =>
      (∀ route ∈ routes, ∃ key, world.routes.lookup key = some route) ∧
      ∀ key route, world.routes.lookup key = some route → ∀ svc ∈ route.sourceServices,
        routeEndpointKey route svc ∉ (lbs.flatMap loadBalancerRequests).map Prod.fst

variable {r : RouteReconciler}

/-- What an orderly reconcile does: one call of manageServices that succeeds. -/
structure Reconciled (r : RouteReconciler) (world : RouteWorld) (key : ObjectKey)
    (world' : RouteWorld) (route : Route) (after : RouteEffects) : Prop where
  here : world.routes.lookup key = some route
  kubernetes : ∃ source, route.spec.kubernetes = some source
  managed : ∃ api order draws annotations finalizers,
    manageServices r {} none api order draws annotations { route with finalizers := finalizers }
      (world.effects route) = some (after, none)
  services : world'.services = after.store
  allocator : world'.allocator = after.allocator
  other : ∀ key', key' ≠ key → world'.routes.lookup key' = world.routes.lookup key'
  own : ∃ finalizers, world'.routes.lookup key =
    some { route with finalizers := finalizers, services := after.services }

theorem reconciled_manageRoute {world world' : RouteWorld} {env : RouteEnv}
    {tenant config : Settings} {key : ObjectKey} {route : Route} {finalizers : List String}
    (here : world.routes.lookup key = some route)
    (kubernetes : ∃ source, route.spec.kubernetes = some source)
    (uids : ∀ svc ∈ route.sourceServices, nameSuffixLength ≤ svc.uid.length)
    (faults : env.faults = {}) (statusFault : env.statusFault = none)
    {routes : FiniteMap ObjectKey Route}
    (others : ∀ key', key' ≠ key → routes.lookup key' = world.routes.lookup key')
    (returned : manageRoute r env tenant config { world with routes := routes } key
      { route with finalizers := finalizers } = some world') :
    ∃ after, Reconciled r world key world' route after := by
  obtain ⟨⟨after, failure⟩, managed, returned⟩ := Option.bind_eq_some_iff.mp returned
  rw [faults, statusFault] at managed
  have succeeded : failure = none := by
    refine manageServices_succeeds (fun _ => rfl) ?_ managed
    exact uids
  subst succeeded
  cases returned
  refine ⟨after, here, kubernetes, ⟨_, _, _, _, finalizers, managed⟩, rfl, rfl, ?_,
    ⟨finalizers, Finmap.lookup_insert _⟩⟩
  intro key' different
  exact (Finmap.lookup_insert_of_ne _ different).trans (others key' different)

theorem reconciled_of_orderly {world world' : RouteWorld} {key : ObjectKey} {env : RouteEnv}
    (apart : BackendsApart r world) (orderly : Orderly r world (.reconcile key env))
    (returned : reconcileRoute r env world key = some world') :
    ∃ route after, Reconciled r world key world' route after := by
  obtain ⟨route, tenant, config, here, live, settings, proceeds, faults, updateFault,
    statusFault⟩ := orderly
  have uids := apart.uids key route here
  have notDeleted : ¬ route.deletionTimestamp = true := by
    rw [live]
    exact Bool.false_ne_true
  have kubernetes : ∃ source, route.spec.kubernetes = some source := by
    refine Option.ne_none_iff_exists'.mp fun missing => ?_
    simp only [shouldReconcile, missing] at proceeds
    cases proceeds
  refine ⟨route, ?_⟩
  simp only [reconcileRoute, here, settings, if_neg notDeleted, proceeds, updateFault,
    Bool.false_eq_true, if_false, and_false, Bool.true_eq_false] at returned
  split at returned
  · exact reconciled_manageRoute here kubernetes uids faults statusFault (fun _ _ => rfl) returned
  · exact reconciled_manageRoute here kubernetes uids faults statusFault
      (fun _ different => Finmap.lookup_insert_of_ne _ different) returned

structure BackendInvariant (r : RouteReconciler) (state : BackendState) : Prop where
  apart : BackendsApart r state.world
  valid : state.world.allocator.Valid
  served : ∀ key route, state.world.routes.lookup key = some route → key ∈ state.reconciled →
    Served r state.world.services state.world.allocator route

theorem BackendInvariant.reconcile (shared : r.topology.isGlobalTopology = false)
    {state : BackendState} (holds : BackendInvariant r state) {key : ObjectKey} {env : RouteEnv}
    (orderly : Orderly r state.world (.reconcile key env)) {world' : RouteWorld}
    (returned : reconcileRoute r env state.world key = some world') :
    BackendInvariant r ⟨world', key :: state.reconciled⟩ := by
  obtain ⟨route, after, reconciled⟩ := reconciled_of_orderly holds.apart orderly returned
  obtain ⟨api, order, draws, annotations, finalizers, managed⟩ := reconciled.managed
  have ownApart : OwnApart r { route with finalizers := finalizers } :=
    holds.apart.own key route reconciled.here
  obtain ⟨valid, served⟩ : after.allocator.Valid ∧
      Served r after.store after.allocator { route with finalizers := finalizers } := by
    refine served_manageServices shared rfl ?_ ownApart holds.valid managed
    exact reconciled.kubernetes
  obtain ⟨servicesKept, portsKept⟩ := manageServices_frame managed
  refine ⟨holds.apart.evolve (reconcileRoute_evolve returned), ?_, ?_⟩
  · rw [reconciled.allocator]
    exact valid
  · intro key' route' found inReconciled
    simp only [reconciled.services, reconciled.allocator]
    by_cases same : key' = key
    · subst same
      obtain ⟨_, own⟩ := reconciled.own
      cases own.symm.trans found
      exact served
    · rw [reconciled.other key' same] at found
      obtain again | earlier := List.mem_cons.mp inReconciled
      · exact absurd again same
      refine (holds.served key' route' found earlier).of_lookups ?_ shared ?_
      · intro target generated
        exact servicesKept target
          (holds.apart.services key' route' key route found reconciled.here same target generated)
      · intro svc member port _ number was
        rw [portsKept _ (holds.apart.ports key' route' key route found reconciled.here same svc
          member)]
        exact was

theorem BackendInvariant.allocate (shared : r.topology.isGlobalTopology = false)
    {state : BackendState} (holds : BackendInvariant r state) {lbs : List LoadBalancer}
    {routes : List Route} {draws rest : List Draw}
    (orderly : Orderly r state.world (.allocate lbs routes draws)) {allocator : PortAllocator}
    (returned : envoyAllocate state.world.allocator lbs routes draws = some (allocator, rest)) :
    BackendInvariant r ⟨{ state.world with allocator := allocator }, state.reconciled⟩ := by
  rw [envoyAllocate_eq] at returned
  refine ⟨⟨holds.apart.uids, holds.apart.services, holds.apart.ports, holds.apart.own,
      holds.apart.names⟩, allocateAll_valid holds.valid returned, ?_⟩
  intro key route found reconciled
  refine (holds.served key route found reconciled).of_lookups (fun _ _ => rfl) shared ?_
  intro svc member port inPorts number was
  refine allocateAll_keeps was ?_ returned
  intro portKeys asked
  obtain fromLB | fromRoute := List.mem_append.mp asked
  · exact absurd (List.mem_map_of_mem fromLB) (orderly.2 key route found svc member)
  · obtain ⟨route', listed, request⟩ := List.mem_flatMap.mp fromRoute
    obtain ⟨key', found'⟩ := orderly.1 route' listed
    by_cases same : key' = key
    · subst same
      cases found.symm.trans found'
      exact portKey_mem_request (holds.apart.own key' route found) member inPorts request
    · exact absurd (Or.inl (List.mem_map_of_mem request))
        (holds.apart.ports key route key' route' found found' (Ne.symm same) svc member)

end KubeLB
