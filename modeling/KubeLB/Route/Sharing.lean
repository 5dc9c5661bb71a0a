import KubeLB.Foundation.Runs
import KubeLB.Route.Evolution

/-!
Services that several Routes share.

A generated Service is named after its source service alone, and the cleanup of
a Route deletes every Service that its own status names. Routes are safe from
each other's cleanup as long as no two of them have a generated Service in
common; the controller itself does nothing to ensure that.
-/

namespace KubeLB
open FiniteMap Runs

variable {r : RouteReconciler} {world world' : RouteWorld}

def Unshared (r : RouteReconciler) (world : RouteWorld) : Prop :=
  ∀ key route key' route', world.routes.lookup key = some route →
    world.routes.lookup key' = some route' → key ≠ key' →
      ∀ target, Generates r route target → ¬ Claims r route' target

theorem Unshared.evolve (unshared : Unshared r world) (evolve : RoutesEvolve r world world') :
    Unshared r world' := by
  intro key route key' route' here here' different target generated claimed
  obtain ⟨old, wasHere, evolves⟩ := evolve key route here
  obtain ⟨old', wasHere', evolves'⟩ := evolve key' route' here'
  exact unshared key old key' old' wasHere wasHere' different target
    ((generates_congr evolves.ns evolves.spec target).mp generated)
    (evolves'.claims_le claimed)

/-- The condition on a step: a Route is applied only with source services none of
whose Services another Route claims. -/
def AppliesUnshared (r : RouteReconciler) (world : RouteWorld) : RouteAction → Prop
  | .apply applied => ∀ key route, world.routes.lookup key = some route →
      key ≠ applied.objectKey → ∀ target, Generates r applied target → ¬ Claims r route target
  | _ => True

/-- The cleanup of a Route deletes no Service generated for a source service of
another Route that is not being deleted. -/
def CleanupSpares (r : RouteReconciler) (world : RouteWorld) : Prop :=
  ∀ key route key' route', world.routes.lookup key = some route →
    world.routes.lookup key' = some route' → key ≠ key' → route'.deletionTimestamp = false →
      ∀ faults order,
        ∀ target ∈ (cleanup r faults order route (world.effects route)).1.deletes,
          ∀ svc ∈ route'.sourceServices, target ∉ generatedObjects r route' svc

def RoutesKeyed (world : RouteWorld) : Prop :=
  ∀ key route, world.routes.lookup key = some route → route.objectKey = key

theorem routesKeyed_step {action : RouteAction} (keyed : RoutesKeyed world)
    (taken : routeStep r world action = some world') : RoutesKeyed world' := by
  intro key route' found
  obtain evolve | ⟨applied, rfl, routes⟩ := routeStep_routes taken
  · obtain ⟨route, here, evolves⟩ := evolve key route' found
    exact evolves.objectKey.trans (keyed key route here)
  · rw [routes] at found
    by_cases same : key = applied.objectKey
    · subst same
      rw [Finmap.lookup_insert] at found
      cases found
      cases old : world.routes.lookup applied.objectKey with
      | none => rfl
      | some route => exact keyed _ route old
    · rw [Finmap.lookup_insert_of_ne _ same] at found
      exact keyed key route' found

theorem deletes_deleteRecorded (faults : ApiFaults) (route : Route) (order : List String)
    (effects : RouteEffects) :
    ∀ target ∈ (deleteRecorded r faults route order effects).1.deletes,
      target ∈ effects.deletes ∨ Names r route target := by
  induction order generalizing effects with
  | nil => exact fun target member => Or.inl member
  | cons key order ih =>
      have called {value : RouteServiceStatus} (found : route.services.lookup key = some value)
          {target : ObjectKey}
          (member : target ∈ effects.deletes ++ [recordedService r route value]) :
          target ∈ effects.deletes ∨ Names r route target := by
        cases List.mem_append.mp member with
        | inl old => exact Or.inl old
        | inr new => exact Or.inr ⟨key, value, found, List.mem_singleton.mp new⟩
      intro target member
      rw [deleteRecorded] at member
      split at member
      · exact ih _ target member
      · rename_i value found
        simp only at member
        split at member
        · exact called found member
        · obtain old | recorded := ih _ target member
          · exact called found old
          · exact Or.inr recorded

theorem cleanupSpares_of_unshared (unshared : Unshared r world) : CleanupSpares r world := by
  intro key route key' route' here here' different _ faults order target member svc inSources
    generated
  have recorded : Names r route target := by
    have inLoop : target ∈
        (deleteRecorded r faults route order (world.effects route)).1.deletes := by
      rw [cleanup] at member
      split at member
      · rename_i same
        rw [same]
        exact member
      · rename_i same
        rw [same]
        exact member
    obtain old | recorded := deletes_deleteRecorded faults route order _ target inLoop
    · cases old
    · exact recorded
  exact unshared key' route' key route here' here (Ne.symm different) target
    ⟨svc, inSources, generated⟩ (Or.inr recorded)

theorem appliedRoute_ns {applied : Route} (keyed : RoutesKeyed world) :
    (appliedRoute (world.routes.lookup applied.objectKey) applied).ns = applied.ns := by
  cases old : world.routes.lookup applied.objectKey with
  | none => rfl
  | some route => exact congrArg ObjectKey.ns (keyed _ route old)

theorem appliedRoute_spec (existing : Option Route) (applied : Route) :
    (appliedRoute existing applied).spec = applied.spec := by
  cases existing <;> rfl

/-- Applying a Route whose Services nobody else claims keeps the claims apart, and
the controller never adds to them. -/
theorem unshared_step {action : RouteAction} (keyed : RoutesKeyed world)
    (unshared : Unshared r world) (applies : AppliesUnshared r world action)
    (taken : routeStep r world action = some world') : Unshared r world' := by
  obtain evolve | ⟨applied, rfl, routes⟩ := routeStep_routes taken
  · exact unshared.evolve evolve
  intro key route key' route' here here' different target generated claimed
  have generates (target : ObjectKey) :
      Generates r (appliedRoute (world.routes.lookup applied.objectKey) applied) target ↔
        Generates r applied target :=
    generates_congr (appliedRoute_ns keyed) (appliedRoute_spec _ applied) target
  rw [routes] at here here'
  by_cases first : key = applied.objectKey
  · subst first
    rw [Finmap.lookup_insert] at here
    rw [Finmap.lookup_insert_of_ne _ (Ne.symm different)] at here'
    cases here
    exact applies key' route' here' (Ne.symm different) target ((generates target).mp generated)
      claimed
  rw [Finmap.lookup_insert_of_ne _ first] at here
  by_cases second : key' = applied.objectKey
  · subst second
    rw [Finmap.lookup_insert] at here'
    cases here'
    obtain generated' | ⟨entry, value, found, rfl⟩ := claimed
    · exact applies key route here different target ((generates target).mp generated')
        (Or.inl generated)
    -- What the status of an applied Route names, it named before.
    · cases old : world.routes.lookup applied.objectKey with
      | none =>
          rw [old] at found
          cases found
      | some was =>
          rw [old] at found generated
          exact unshared key route _ was here old different _ generated
            (Or.inr ⟨entry, value, found, rfl⟩)
  · rw [Finmap.lookup_insert_of_ne _ second] at here'
    exact unshared key route key' route' here here' different target generated claimed

/-- In every run of the CCM and the Route controller in which a Route is applied
only with source services whose Services no other Route claims, the cleanup of
a Route never deletes a Service of another live Route. -/
theorem run_cleanup_spares (r : RouteReconciler) (store : ServiceStore) (pa : PortAllocator)
    (actions : List RouteAction)
    (applies : EachStep (routeStep r) ⟨∅, store, pa⟩ actions
      fun world action _ => AppliesUnshared r world action) :
    Throughout (routeStep r) ⟨∅, store, pa⟩ actions (CleanupSpares r) := by
  have apart : Throughout (routeStep r) ⟨∅, store, pa⟩ actions
      fun world => RoutesKeyed world ∧ Unshared r world := by
    refine throughout_of_eachStep ?_ ?_ applies
    · exact ⟨fun key route found => (by cases found),
        fun key route key' route' found => (by cases found)⟩
    · intro world action world' holds applies taken
      exact ⟨routesKeyed_step holds.1 taken, unshared_step holds.1 holds.2 applies taken⟩
  intro before world small reached
  exact cleanupSpares_of_unshared (apart before world small reached).2

theorem run_cleanup_spares_two_routes :
    let replica (name uid : String) (nodePort : Int) : Service :=
      { ns := "default", name := name ++ "-nodeport", uid := uid, type := .nodePort
        labels := insertAll ∅ [(labelOriginName, name), (labelOriginNamespace, "default")]
        ports := [{ port := 80, nodePort := nodePort }] }
    let ingress (name uid : String) : Resource :=
      ⟨"networking.k8s.io/v1", "Ingress", name, "default", uid⟩
    let a := generateRoute (ingress "a" "u-a") [replica "web" "u-0001" 30080] "tenant-t"
    let b := generateRoute (ingress "b" "u-b") [replica "api" "u-0002" 30090] "tenant-t"
    let actions : List RouteAction :=
      [.apply a, .apply b, .reconcile a.objectKey { draws := [0] },
        .reconcile b.objectKey { draws := [1] }, .delete a.objectKey,
        .reconcile a.objectKey { order := ["default/web"] }]
    ((run (routeStep { ns := "kubelb" }) ⟨∅, ∅, newPortAllocator⟩ actions).map fun world =>
        ((world.services.lookup ⟨"tenant-t", "default-web"⟩).isSome,
          (world.services.lookup ⟨"tenant-t", "default-api"⟩).isSome)) = some (false, true) ∧
      Throughout (routeStep { ns := "kubelb" }) ⟨∅, ∅, newPortAllocator⟩ actions
        (CleanupSpares { ns := "kubelb" }) := by
  intro replica ingress a b actions
  have apart : AppliesUnshared { ns := "kubelb" }
      ⟨(∅ : FiniteMap ObjectKey Route).insert a.objectKey (appliedRoute none a), ∅,
        newPortAllocator⟩ (.apply b) := by
    intro key route found _ target generated claimed
    have isA : route = appliedRoute none a := by
      by_cases same : key = a.objectKey
      · rw [same, Finmap.lookup_insert] at found
        exact (Option.some.inj found).symm
      · rw [Finmap.lookup_insert_of_ne _ same] at found
        cases found
    subst isA
    obtain ⟨svc, listed, generated⟩ := generated
    obtain rfl : svc = replica "api" "u-0002" 30090 := List.mem_singleton.mp listed
    have one : generatedObjects { ns := "kubelb" } b (replica "api" "u-0002" 30090) =
        [⟨"tenant-t", "default-api"⟩] := by decide
    rw [one, List.mem_singleton] at generated
    subst generated
    obtain ⟨other, listed', generated'⟩ | ⟨_, _, recorded, _⟩ := claimed
    · obtain rfl : other = replica "web" "u-0001" 30080 := List.mem_singleton.mp listed'
      exact absurd generated' (by decide)
    · cases recorded
  refine ⟨by decide, run_cleanup_spares { ns := "kubelb" } ∅ newPortAllocator actions ?_⟩
  refine eachStep_cons fun _ taken => ⟨fun key route found => (by cases found), ?_⟩
  cases taken
  refine eachStep_cons fun _ _ => ⟨apart, ?_⟩
  refine eachStep_cons fun _ _ => ⟨trivial, ?_⟩
  refine eachStep_cons fun _ _ => ⟨trivial, ?_⟩
  refine eachStep_cons fun _ _ => ⟨trivial, ?_⟩
  exact eachStep_cons fun _ _ => ⟨trivial, eachStep_nil _⟩

/-- Two Ingresses with one backend. When the first is deleted, its cleanup takes
the Service of the second along. -/
theorem cleanup_deletes_shared_service :
    let web : Service :=
      { ns := "default", name := "web-nodeport", uid := "u-0001", type := .nodePort
        labels := insertAll ∅ [(labelOriginName, "web"), (labelOriginNamespace, "default")]
        ports := [{ port := 80, nodePort := 30080 }] }
    let ingress (name uid : String) : Resource :=
      ⟨"networking.k8s.io/v1", "Ingress", name, "default", uid⟩
    let a := generateRoute (ingress "a" "u-a") [web] "tenant-t"
    let b := generateRoute (ingress "b" "u-b") [web] "tenant-t"
    let setup : List RouteAction :=
      [.apply a, .apply b, .reconcile a.objectKey { draws := [0] },
        .reconcile b.objectKey { draws := [1] }, .delete a.objectKey]
    let run := Runs.run (routeStep { ns := "kubelb" }) ⟨∅, ∅, newPortAllocator⟩
    ((run setup).map fun world => (world.services.lookup ⟨"tenant-t", "default-web"⟩).isSome) =
        some true ∧
      ((run (setup ++ [.reconcile a.objectKey { order := ["default/web"] }])).map fun world =>
        (world.services.lookup ⟨"tenant-t", "default-web"⟩,
          (world.routes.lookup b.objectKey).map fun route =>
            (route.deletionTimestamp, route.sourceServices,
              route.sourceServices.flatMap (generatedObjects { ns := "kubelb" } route)))) =
        some (none, some (false, [web], [⟨"tenant-t", "default-web"⟩])) := by
  decide

end KubeLB
