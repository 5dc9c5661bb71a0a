import KubeLB.Foundation.Program
import KubeLB.Resources
import KubeLB.Route.Status

/-!
Reconcile of the Route controller for one Route as one program on what it writes: the
Services, the resource that manageRoutes applies, the allocator and the Route
(internal/controllers/kubelb/route_controller.go).

A resource is shown by its kind and key. How the CreateOrUpdate call for it ends is in
`ResourceEnv`, and so is the panic on a rule of an Ingress that has no paths. The state
of the resource in the status is that of Route.Status and is left out here.
-/

namespace KubeLB
open FiniteMap Program

/-- A Route and the objects of the LB cluster that its reconcile may touch. -/
structure RouteObjects where
  route : Route
  services : ServiceStore
  allocator : PortAllocator
  resources : Finset ResourceId := ∅

/-- What one reconcile meets, manageRoutes included; `none` is a request that succeeds. -/
structure ResourceEnv extends RouteEnv where
  /-- The topology in the Config, from which the resource gets its name. -/
  globalTopology : Bool := false
  nilPointer : Option String := none
  apply : Option String := none
  /-- The error of the Get after the apply, if it is another one than NotFound. -/
  reread : Option String := none
  resourceStatusFault : Option String := none

inductive RouteResult
  | skipped
  | cleanedUp
  | reconciled
  deriving DecidableEq

abbrev RouteProgram := Program RouteObjects String

def RouteObjects.effects (objects : RouteObjects) (route : Route) : RouteEffects :=
  ⟨route.services, objects.services, objects.allocator, [], []⟩

def RouteObjects.after (objects : RouteObjects) (effects : RouteEffects) : RouteObjects :=
  { objects with services := effects.store, allocator := effects.allocator }

def RouteObjects.withRoute (objects : RouteObjects) (route : Route) : RouteObjects :=
  { objects with route := route }

def Route.unmarked (route : Route) : Route :=
  { route with finalizers := removeFinalizer route.finalizers cleanupFinalizer }

def Route.marked (route : Route) : Route :=
  { route with finalizers := addFinalizer route.finalizers cleanupFinalizer }

def cleanupObjects (r : RouteReconciler) (env : ResourceEnv) (route : Route) :
    RouteProgram RouteResult := do
  let done ← read fun objects =>
    cleanup r env.faults env.order route (objects.effects route)
  write fun objects => objects.after done.1
  attempt done.2
  attempt (env.updateFault.map ("failed to remove finalizer: " ++ ·))
  write fun objects => objects.withRoute route.unmarked
  return .cleanedUp

def addRouteFinalizer (env : ResourceEnv) (route : Route) : RouteProgram Route :=
  if cleanupFinalizer ∈ route.finalizers then pure route
  else do
    attempt (env.updateFault.map ("failed to add finalizer: " ++ ·))
    write fun objects => objects.withRoute route.marked
    return route.marked

def manageRouteServices (r : RouteReconciler) (env : ResourceEnv) (tenant config : Settings)
    (route : Route) : RouteProgram Route := do
  let done ← (read fun objects =>
      manageServices r env.faults env.statusFault env.api env.order env.draws
        (getAnnotations tenant.toAnnotationSettings config.toAnnotationSettings) route
        (objects.effects route)) >>= ofOption
  write fun objects => objects.after done.1
  attempt (done.2.map ("failed to create or update services: " ++ ·))
  write fun objects => objects.withRoute { route with services := done.1.services }
  return { route with services := done.1.services }

/-- The name the resource gets in the LB cluster. A Gateway keeps its own; for the
other kinds `none` is the panic of GenerateName. -/
def resourceName (globalTopology : Bool) (kind : SourceKind) (resource : Resource) :
    Option String :=
  if kind = .gateway then some resource.name
  else generateName globalTopology resource.uid resource.name resource.ns

/-- The CreateOrUpdate call and the Get that follows. An error of the call is dropped. -/
def applyAndReread (env : ResourceEnv) (resource : ResourceId) : RouteProgram Unit :=
  match env.apply with
  | some _ => pure ()
  | none => do
      write fun objects => { objects with resources := insert resource objects.resources }
      attempt (env.reread.map fun err =>
        "failed to create or update route: failed to get " ++ resource.kind.name ++ ": " ++ err)

def manageResource (env : ResourceEnv) (kind : SourceKind) (route : Route) (resource : Resource) :
    RouteProgram Unit :=
  if kind = .service then pure ()
  else do
    attempt env.nilPointer
    let name ← ofExcept ((resourceName env.globalTopology kind resource).elim
      (.error "panic: slice bounds out of range") .ok)
    applyAndReread env ⟨kind, ⟨route.ns, name⟩⟩

def manageRouteResource (env : ResourceEnv) (route : Route) : RouteProgram RouteResult :=
  match route.spec.kubernetes with
  | none => pure .reconciled
  | some source =>
      match convertUnstructuredToObject source.route with
      | none => fail "failed to create or update route: failed to convert route to object"
      | some kind => do
          manageResource env kind route source.route
          attempt (env.resourceStatusFault.map ("failed to create or update route: " ++ ·))
          return .reconciled

def manageObjects (r : RouteReconciler) (env : ResourceEnv) (tenant config : Settings)
    (route : Route) : RouteProgram RouteResult := do
  let route ← addRouteFinalizer env route
  let route ← manageRouteServices r env tenant config route
  manageRouteResource env route

def reconcileObjects (r : RouteReconciler) (env : ResourceEnv) : RouteProgram RouteResult := do
  let route ← read RouteObjects.route
  let (tenant, config) ← ofExcept env.tenantAndConfig
  if route.deletionTimestamp then
    if cleanupFinalizer ∈ route.finalizers then cleanupObjects r env route
    else return .skipped
  else
    let (proceed, disabled) ← ofExcept (shouldReconcile r route tenant config)
    if cleanupFinalizer ∈ route.finalizers ∧ disabled then cleanupObjects r env route
    else if proceed = false then return .skipped
    else manageObjects r env tenant config route

/-- The cluster with a Route, its Services and the allocator as the program leaves them. -/
def RouteWorld.put (world : RouteWorld) (key : ObjectKey) (objects : RouteObjects) :
    RouteWorld where
  routes := world.routes.insert key objects.route
  services := objects.services
  allocator := objects.allocator

section
variable {r : RouteReconciler} {env : ResourceEnv} {world : RouteWorld} {key : ObjectKey}
  {route : Route} {resources : Finset ResourceId}

theorem RouteWorld.put_self (found : world.routes.lookup key = some route) :
    world.put key ⟨route, world.services, world.allocator, resources⟩ = world := by
  have same : world.routes.insert key route = world.routes := by
    refine Finmap.ext_lookup fun other => ?_
    by_cases atKey : other = key
    · rw [atKey, Finmap.lookup_insert, found]
    · rw [Finmap.lookup_insert_of_ne _ atKey]
  simp only [RouteWorld.put, same]

theorem RouteWorld.after_eq_put (found : world.routes.lookup key = some route)
    (done : RouteEffects) :
    world.after done = world.put key ⟨route, done.store, done.allocator, resources⟩ := by
  have same : (world.after done).put key ⟨route, done.store, done.allocator, resources⟩ =
      world.after done := RouteWorld.put_self found
  exact same.symm

theorem RouteWorld.effects_eq :
    RouteObjects.effects ⟨route, world.services, world.allocator, resources⟩ route =
      world.effects route :=
  rfl

/-- On a Route that stays, cleanupRoute is this part of the program. -/
theorem cleanupObjects_spec (found : world.routes.lookup key = some route)
    (stays : route.deletionTimestamp = false) :
    Ensures ⟨route, world.services, world.allocator, resources⟩ (cleanupObjects r env route)
      (fun _ after => cleanupRoute r env.toRouteEnv world key route = world.put key after)
      (fun after => cleanupRoute r env.toRouteEnv world key route = world.put key after) := by
  unfold cleanupObjects cleanupRoute
  rw [ensures_bind, ensures_read, RouteWorld.effects_eq]
  obtain ⟨done, failure⟩ := cleanup r env.faults env.order route (world.effects route)
  cases failure with
  | some err => exact RouteWorld.after_eq_put found done
  | none =>
      cases fault : env.updateFault with
      | some err => exact RouteWorld.after_eq_put found done
      | none =>
          have kept : ¬ (route.deletionTimestamp = true ∧
              removeFinalizer route.finalizers cleanupFinalizer = []) := by simp [stays]
          simp only [if_neg kept]
          exact Eq.refl _

theorem manageRouteServices_spec {tenant config : Settings}
    (found : world.routes.lookup key = some route) :
    Ensures ⟨route, world.services, world.allocator, resources⟩
      (manageRouteServices r env tenant config route)
      (fun recorded after => recorded = after.route ∧
        manageRoute r env.toRouteEnv tenant config world key route = some (world.put key after))
      (fun after => manageRoute r env.toRouteEnv tenant config world key route =
        some (world.put key after)) := by
  unfold manageRouteServices manageRoute
  simp only [ensures_bind, ensures_read, ensures_ofOption, RouteWorld.effects_eq]
  rintro ⟨done, failure⟩ returned
  rw [returned]
  cases failure with
  | some err => exact congrArg some (RouteWorld.after_eq_put found done)
  | none => exact ⟨rfl, rfl⟩

theorem manageRouteResource_spec {objects : RouteObjects} (route : Route) :
    Ensures objects (manageRouteResource env route)
      (fun _ after => after = { objects with resources := after.resources })
      (fun after => after = { objects with resources := after.resources }) := by
  unfold manageRouteResource
  split
  · exact Eq.refl _
  · split
    · exact Eq.refl _
    · rename_i source _ _ kind _
      have applied : Ensures objects (manageResource env kind route source.route)
          (fun _ after => after = { objects with resources := after.resources })
          (fun after => after = { objects with resources := after.resources }) := by
        unfold manageResource applyAndReread
        split
        · exact Eq.refl _
        · refine Ensures.attempt (Eq.refl _) ?_
          rw [ensures_bind, ensures_ofExcept]
          refine ⟨fun name _ => ?_, fun _ _ => Eq.refl _⟩
          split
          · exact Eq.refl _
          · rw [ensures_bind, ensures_write, ensures_attempt]
            exact ⟨fun _ => Eq.refl _, fun _ => Eq.refl _⟩
      refine applied.bind (fun _ after same => ?_) fun _ same => same
      exact Ensures.attempt same same

theorem manageMarked_spec {tenant config : Settings} (world : RouteWorld)
    (found : world.routes.lookup key = some route) :
    Ensures ⟨route, world.services, world.allocator, resources⟩
      (manageRouteServices r env tenant config route >>= manageRouteResource env)
      (fun _ after =>
        manageRoute r env.toRouteEnv tenant config world key route = some (world.put key after))
      (fun after =>
        manageRoute r env.toRouteEnv tenant config world key route =
          some (world.put key after)) := by
  refine (manageRouteServices_spec found).bind ?_ fun _ same => same
  rintro recorded after ⟨_, managed⟩
  refine (manageRouteResource_spec recorded).mono (fun _ later same => ?_) fun later same => ?_
  · rw [same]
    exact managed
  · rw [same]
    exact managed

theorem RouteWorld.put_insert (objects : RouteObjects) (other : Route) :
    RouteWorld.put { world with routes := world.routes.insert key other } key objects =
      world.put key objects := by
  simp only [RouteWorld.put, Finmap.insert_insert]

/-- reconcileRoute on a Route that stays, once it is decided what to do with it. -/
theorem reconcileRoute_decided {tenant config : Settings} {proceed disabled : Bool}
    (found : world.routes.lookup key = some route) (stays : route.deletionTimestamp = false)
    (given : env.tenantAndConfig = .ok (tenant, config))
    (decided : shouldReconcile r route tenant config = .ok (proceed, disabled)) :
    reconcileRoute r env.toRouteEnv world key =
      if cleanupFinalizer ∈ route.finalizers ∧ disabled then
        some (cleanupRoute r env.toRouteEnv world key route)
      else if proceed = false then some world
      else if cleanupFinalizer ∈ route.finalizers then
        manageRoute r env.toRouteEnv tenant config world key route
      else if env.updateFault.isSome then some world
      else
        manageRoute r env.toRouteEnv tenant config
          { world with routes := world.routes.insert key route.marked } key route.marked := by
  have live : ¬ route.deletionTimestamp = true := by simp [stays]
  simp only [reconcileRoute, found, given, decided, if_neg live]
  cases env.updateFault with
  | none => rfl
  | some err => rfl

/-- For a Route that stays, reconcileRoute is the program without the resources. -/
theorem reconcileObjects_spec (found : world.routes.lookup key = some route)
    (stays : route.deletionTimestamp = false) :
    Ensures ⟨route, world.services, world.allocator, resources⟩ (reconcileObjects r env)
      (fun _ after => reconcileRoute r env.toRouteEnv world key = some (world.put key after))
      (fun after => reconcileRoute r env.toRouteEnv world key = some (world.put key after)) := by
  have unchanged : world.put key ⟨route, world.services, world.allocator, resources⟩ = world :=
    RouteWorld.put_self found
  unfold reconcileObjects
  rw [ensures_bind, ensures_read, ensures_bind, ensures_ofExcept]
  refine ⟨?_, fun err given => by simp [reconcileRoute, found, given, unchanged]⟩
  rintro ⟨tenant, config⟩ given
  simp only [ensures_ite, ensures_pure, ensures_bind, ensures_ofExcept]
  refine ⟨fun deleted => absurd deleted (by simp [stays]), fun _ => ⟨?_, fun err decided => ?_⟩⟩
  · rintro ⟨proceed, disabled⟩ decided
    rw [reconcileRoute_decided found stays given decided]
    refine ⟨fun cleaned => ?_, fun goes => ⟨fun skipped => ?_, fun proceeds => ?_⟩⟩
    · rw [if_pos cleaned]
      exact (cleanupObjects_spec found stays).mono (fun _ _ => congrArg some) fun _ =>
        congrArg some
    · rw [if_neg goes, if_pos skipped, unchanged]
    · rw [if_neg goes, if_neg proceeds]
      unfold manageObjects addRouteFinalizer
      by_cases held : cleanupFinalizer ∈ route.finalizers
      · rw [if_pos held, if_pos held]
        exact manageMarked_spec world found
      · rw [if_neg held, if_neg held]
        cases fault : env.updateFault with
        | some err => exact congrArg some unchanged.symm
        | none =>
            change Ensures ⟨route.marked, world.services, world.allocator, resources⟩
              (manageRouteServices r env tenant config route.marked >>= manageRouteResource env) _ _
            have inserted : (world.routes.insert key route.marked).lookup key =
                some route.marked := Finmap.lookup_insert _
            refine (manageMarked_spec { world with
              routes := world.routes.insert key route.marked } inserted).mono ?_ ?_
            · exact fun _ after same => same.trans (congrArg some (RouteWorld.put_insert after _))
            · exact fun after same => same.trans (congrArg some (RouteWorld.put_insert after _))
  · have live : ¬ route.deletionTimestamp = true := by simp [stays]
    simp only [reconcileRoute, found, given, decided, if_neg live, unchanged]

theorem shouldReconcile_disabled {tenant config : Settings} {proceed : Bool}
    (decided : shouldReconcile r route tenant config = .ok (proceed, true)) :
    proceed = false := by
  unfold shouldReconcile at decided
  repeat' split at decided
  all_goals simp_all

/-- The rule for a whole reconcile: it fails or skips, cleans up or goes on. -/
theorem reconcileObjects_rule {objects : RouteObjects} {Q : RouteResult → RouteObjects → Prop}
    {E : RouteObjects → Prop} (failed : E objects)
    (skipped : (∀ tenant config proceed, env.tenantAndConfig = .ok (tenant, config) →
      shouldReconcile r objects.route tenant config = .ok (proceed, true) →
      cleanupFinalizer ∉ objects.route.finalizers) → Q .skipped objects)
    (cleanup : cleanupFinalizer ∈ objects.route.finalizers →
      Ensures objects (cleanupObjects r env objects.route) Q E)
    (manage : ∀ tenant config, env.tenantAndConfig = .ok (tenant, config) →
      shouldReconcile r objects.route tenant config = .ok (true, false) →
      Ensures objects (manageObjects r env tenant config objects.route) Q E) :
    Ensures objects (reconcileObjects r env) Q E := by
  unfold reconcileObjects
  rw [ensures_bind, ensures_read, ensures_bind, ensures_ofExcept]
  refine ⟨?_, fun _ _ => failed⟩
  rintro ⟨tenant, config⟩ given
  simp only [ensures_ite, ensures_pure, ensures_bind, ensures_ofExcept]
  refine ⟨fun _ => ⟨cleanup, fun free => skipped fun _ _ _ _ _ => free⟩, fun _ => ⟨?_, ?_⟩⟩
  · rintro ⟨proceed, disabled⟩ decided
    refine ⟨fun held => cleanup held.1, fun goes => ⟨fun _ => skipped ?_, fun proceeds => ?_⟩⟩
    · intro tenant' config' proceed' given' decided' held
      obtain ⟨rfl, rfl⟩ : tenant = tenant' ∧ config = config' := by
        simpa using given.symm.trans given'
      cases decided.symm.trans decided'
      exact goes ⟨held, rfl⟩
    · have proceeds : proceed = true := by simpa using proceeds
      subst proceeds
      cases disabled with
      | false => exact manage tenant config given decided
      | true => cases shouldReconcile_disabled decided
  · exact fun _ _ => failed

end

end KubeLB
