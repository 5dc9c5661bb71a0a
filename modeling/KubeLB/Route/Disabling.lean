import KubeLB.Foundation.Ledger
import KubeLB.Route.Reconcile
import KubeLB.Route.Remembered

/-!
What is left of a Route after its kind has been disabled.

cleanup is written for a Route that goes: it deletes the Services that the status names
and leaves the resource to the garbage collection. When the kind is disabled the Route
stays, and the resource stays with it.
-/

namespace KubeLB
open FiniteMap Program Runs

/-- The objects, and which of them the reconciles of the Route have created. -/
structure TrackedRoute where
  objects : RouteObjects
  createdServices : Finset ObjectKey := ∅
  createdResources : Finset ResourceId := ∅

def TrackedRoute.next (state : TrackedRoute) (after : RouteObjects) : TrackedRoute where
  objects := after
  createdServices :=
    Ledger.update state.createdServices state.objects.services.keys after.services.keys
  createdResources :=
    Ledger.update state.createdResources state.objects.resources after.resources

inductive RouteChange
  /-- The CCM updates the spec and the labels. -/
  | edit (spec : RouteSpec) (labels : FiniteMap String String)
  | reconcile (env : ResourceEnv)

/-- A reconcile ranges over the whole status map, in some order. -/
def routeChangeStep (r : RouteReconciler) (state : TrackedRoute) :
    RouteChange → Option TrackedRoute
  | .edit spec labels =>
      some { state with
        objects := state.objects.withRoute
          { state.objects.route with spec := spec, labels := labels } }
  | .reconcile env =>
      if ∀ key ∈ state.objects.route.services.keys, key ∈ env.order then
        (reconcileObjects r env state.objects).map fun result => state.next result.2
      else none

def KindDisabled (r : RouteReconciler) (env : ResourceEnv) (route : Route) : Prop :=
  ∃ tenant config proceed, env.tenantAndConfig = .ok (tenant, config) ∧
    shouldReconcile r route tenant config = .ok (proceed, true)

/-- A reconcile that finds the kind of the Route disabled and returns no error. -/
def Disables (r : RouteReconciler) (before : TrackedRoute) (action : RouteChange)
    (after : TrackedRoute) : Prop :=
  ∃ env result, action = .reconcile env ∧ KindDisabled r env before.objects.route ∧
    reconcileObjects r env before.objects = some (.ok result, after.objects)

def LeavesNoService (r : RouteReconciler) (before : TrackedRoute) (action : RouteChange)
    (after : TrackedRoute) : Prop :=
  Disables r before action after → after.createdServices = ∅

def LeavesNoObject (r : RouteReconciler) (before : TrackedRoute) (action : RouteChange)
    (after : TrackedRoute) : Prop :=
  Disables r before action after → after.createdServices = ∅ ∧ after.createdResources = ∅

/-- No resource was created, and the status names the Services that were. -/
def NamesAll (r : RouteReconciler) (before : TrackedRoute) (action : RouteChange)
    (after : TrackedRoute) : Prop :=
  Disables r before action after → before.createdResources = ∅ ∧
    ∀ target ∈ before.createdServices,
      cleanupFinalizer ∈ before.objects.route.finalizers ∧ Names r before.objects.route target

/-- A reconcile that goes on updates the status, and gives each Service an entry that
is not taken. -/
def RecordsServices (r : RouteReconciler) (before : TrackedRoute) (action : RouteChange) : Prop :=
  ∀ env tenant config, action = .reconcile env → env.tenantAndConfig = .ok (tenant, config) →
    shouldReconcile r before.objects.route tenant config = .ok (true, false) →
      env.statusFault = none ∧ KeepsAddresses r before.objects.route

structure TrackedRoute.Present (state : TrackedRoute) : Prop where
  services : state.createdServices ⊆ state.objects.services.keys
  resources : state.createdResources ⊆ state.objects.resources

theorem TrackedRoute.next_present (state : TrackedRoute) (after : RouteObjects) :
    (state.next after).Present :=
  ⟨Ledger.update_subset, Ledger.update_subset⟩

theorem TrackedRoute.Present.next_self {state : TrackedRoute} (present : state.Present) :
    state.next state.objects = state := by
  rw [TrackedRoute.next, Ledger.update_self present.services, Ledger.update_self present.resources]

section
variable {r : RouteReconciler} {env : ResourceEnv} {state : TrackedRoute} {objects : RouteObjects}

/-- A cleanup that returns has deleted the Services that the status names, and no
resource. -/
theorem cleanupObjects_effect
    (ranges : ∀ key ∈ objects.route.services.keys, key ∈ env.order) :
    Ensures objects (cleanupObjects r env objects.route)
      (fun _ after => after.route = objects.route.unmarked ∧
        after.resources = objects.resources ∧
        ∀ target, target ∈ after.services ↔
          target ∈ objects.services ∧ ¬ Names r objects.route target)
      (fun after => after.route = objects.route ∧
        after.services.keys ⊆ objects.services.keys) := by
  unfold cleanupObjects cleanup
  rw [ensures_bind, ensures_read]
  cases deleted : deleteRecorded r env.faults objects.route env.order
      (objects.effects objects.route) with
  | mk done failure =>
      have fewer : done.store.keys ⊆ objects.services.keys := by
        intro target held
        rw [Finmap.mem_keys] at held ⊢
        exact (mem_deleteRecorded deleted target).1 held
      cases failure with
      | some err => exact ⟨rfl, fewer⟩
      | none =>
          rw [ensures_bind, ensures_write]
          refine Ensures.attempt ⟨rfl, fewer⟩ (Ensures.attempt ⟨rfl, fewer⟩ ⟨rfl, rfl, ?_⟩)
          intro target
          refine ((mem_deleteRecorded deleted target).2 rfl).trans (and_congr_right fun _ => ?_)
          constructor
          · rintro unnamed ⟨key, value, found, rfl⟩
            have inOrder := ranges key (Finmap.mem_keys.mpr (Finmap.mem_of_lookup_eq_some found))
            exact unnamed key inOrder value found rfl
          · rintro unnamed key _ value found rfl
            exact unnamed ⟨key, value, found, rfl⟩

/-- The Services in the ledger are named by the status, behind the finalizer. -/
structure Remembered (r : RouteReconciler) (state : TrackedRoute) : Prop where
  present : state.Present
  named : ∀ target ∈ state.createdServices, Names r state.objects.route target
  marked : state.createdServices.Nonempty → cleanupFinalizer ∈ state.objects.route.finalizers

theorem manageRouteServices_remembers {tenant config : Settings} (remembered : Remembered r state)
    (sameStore : objects.services = state.objects.services)
    (sameRoute : objects.route =
      { state.objects.route with finalizers := objects.route.finalizers })
    (held : cleanupFinalizer ∈ objects.route.finalizers)
    (keeps : KeepsAddresses r objects.route) (noFault : env.statusFault = none) :
    Ensures objects (manageRouteServices r env tenant config objects.route)
      (fun _ after => Remembered r (state.next after))
      (fun after => Remembered r (state.next after)) := by
  unfold manageRouteServices
  simp only [ensures_bind, ensures_read, ensures_ofOption, noFault]
  rintro ⟨done, failure⟩ returned
  have names (target : ObjectKey) : Names r objects.route target ↔
      Names r state.objects.route target := by
    rw [sameRoute]
    rfl
  have remembers {target : ObjectKey} (created : target ∈ Ledger.update state.createdServices
      state.objects.services.keys done.store.keys) := by
    obtain ⟨left, created⟩ := Ledger.mem_update.mp created
    refine manageServices_remembers keeps rfl returned (Finmap.mem_keys.mp left) fun before => ?_
    obtain old | new := created
    · exact (names target).mpr (remembered.named target old)
    · exact absurd (Finmap.mem_keys.mpr (sameStore ▸ before)) new
  cases failure with
  | none =>
      refine ⟨state.next_present _, fun target created => ?_, fun _ => held⟩
      exact remembers created
  | some err =>
      refine ⟨state.next_present _, fun target created => ?_, fun _ => held⟩
      have before := remembers created
      rw [if_neg (by simp)] at before
      obtain ⟨_, old | new⟩ := Ledger.mem_update.mp created
      · exact (names target).mpr (remembered.named target old)
      · exact absurd (Finmap.mem_keys.mpr (sameStore ▸ before)) new

theorem Remembered.congr {after after' : RouteObjects} (same : after' =
    { after with resources := after'.resources }) (remembered : Remembered r (state.next after)) :
    Remembered r (state.next after') := by
  rw [same]
  exact ⟨state.next_present _, remembered.named, remembered.marked⟩

theorem manageObjects_remembers {tenant config : Settings} (remembered : Remembered r state)
    (keeps : KeepsAddresses r state.objects.route) (noFault : env.statusFault = none) :
    Ensures state.objects (manageObjects r env tenant config state.objects.route)
      (fun _ after => Remembered r (state.next after))
      (fun after => Remembered r (state.next after)) := by
  have unchanged : Remembered r (state.next state.objects) := by
    rw [remembered.present.next_self]
    exact remembered
  have managed {objects : RouteObjects} (ensures : Ensures objects
      (manageRouteServices r env tenant config objects.route)
      (fun _ after => Remembered r (state.next after))
      (fun after => Remembered r (state.next after))) :
      Ensures objects (manageRouteServices r env tenant config objects.route >>=
        manageRouteResource env)
        (fun _ after => Remembered r (state.next after))
        (fun after => Remembered r (state.next after)) := by
    refine ensures.bind (fun route after done => ?_) fun _ done => done
    exact (manageRouteResource_spec route).mono (fun _ _ same => done.congr same)
      fun _ same => done.congr same
  unfold manageObjects addRouteFinalizer
  by_cases held : cleanupFinalizer ∈ state.objects.route.finalizers
  · rw [if_pos held]
    exact managed (manageRouteServices_remembers remembered rfl rfl held keeps noFault)
  · have remembers : Ensures (state.objects.withRoute state.objects.route.marked)
        (manageRouteServices r env tenant config state.objects.route.marked)
        (fun _ after => Remembered r (state.next after))
        (fun after => Remembered r (state.next after)) :=
      manageRouteServices_remembers remembered rfl rfl (mem_addFinalizer _ _)
        ⟨keeps.replaces, keeps.distinct, keeps.reaches⟩ noFault
    rw [if_neg held, ensures_bind, ensures_bind, ensures_attempt]
    exact ⟨fun _ => managed remembers, fun _ => unchanged⟩

/-- A cleanup that returns leaves no Service that the status has named. -/
theorem Remembered.cleaned (remembered : Remembered r state) {after : RouteObjects}
    (deleted : ∀ target, target ∈ after.services ↔
      target ∈ state.objects.services ∧ ¬ Names r state.objects.route target) :
    (state.next after).createdServices = ∅ := by
  refine Finset.eq_empty_of_forall_notMem fun target created => ?_
  obtain ⟨left, old | new⟩ := Ledger.mem_update.mp created
  · exact ((deleted target).mp (Finmap.mem_keys.mp left)).2 (remembered.named target old)
  · exact new (Finmap.mem_keys.mpr ((deleted target).mp (Finmap.mem_keys.mp left)).1)

theorem reconcileObjects_remembers (remembered : Remembered r state)
    (ranges : ∀ key ∈ state.objects.route.services.keys, key ∈ env.order)
    (records : ∀ tenant config, env.tenantAndConfig = .ok (tenant, config) →
      shouldReconcile r state.objects.route tenant config = .ok (true, false) →
        env.statusFault = none ∧ KeepsAddresses r state.objects.route) :
    Ensures state.objects (reconcileObjects r env)
      (fun _ after => Remembered r (state.next after))
      (fun after => Remembered r (state.next after)) := by
  have unchanged : Remembered r (state.next state.objects) := by
    rw [remembered.present.next_self]
    exact remembered
  refine reconcileObjects_rule unchanged (fun _ => unchanged) (fun _ => ?_) ?_
  · refine (cleanupObjects_effect ranges).mono ?_ ?_
    · rintro _ after ⟨_, _, deleted⟩
      have none := remembered.cleaned deleted
      refine ⟨state.next_present _, ?_, ?_⟩
      · simp [none]
      · simp [none]
    · rintro after ⟨sameRoute, fewer⟩
      have created : (state.next after).createdServices ⊆ state.createdServices :=
        fun target held => ((Ledger.mem_update_of_subset fewer).mp held).1
      refine ⟨state.next_present _, fun target held => ?_, fun nonempty => ?_⟩
      · rw [TrackedRoute.next, sameRoute]
        exact remembered.named target (created held)
      · rw [TrackedRoute.next, sameRoute]
        exact remembered.marked (nonempty.mono created)
  · intro tenant config given decided
    obtain ⟨noFault, keeps⟩ := records tenant config given decided
    exact manageObjects_remembers remembered keeps noFault

theorem routeChangeStep_reconcile {state' : TrackedRoute}
    (taken : routeChangeStep r state (.reconcile env) = some state') :
    (∀ key ∈ state.objects.route.services.keys, key ∈ env.order) ∧
      ∃ outcome after, reconcileObjects r env state.objects = some (outcome, after) ∧
        state' = state.next after := by
  simp only [routeChangeStep] at taken
  split at taken
  · rename_i ranges
    obtain ⟨⟨outcome, after⟩, ran, rfl⟩ := Option.map_eq_some_iff.mp taken
    exact ⟨ranges, outcome, after, ran, rfl⟩
  · cases taken

theorem routeChangeStep_remembers {action : RouteChange} {state' : TrackedRoute}
    (remembered : Remembered r state) (records : RecordsServices r state action)
    (taken : routeChangeStep r state action = some state') : Remembered r state' := by
  cases action with
  | edit spec labels =>
      rw [← Option.some.inj taken]
      exact ⟨⟨remembered.present.services, remembered.present.resources⟩, remembered.named,
        remembered.marked⟩
  | reconcile env =>
      obtain ⟨ranges, outcome, after, ran, rfl⟩ := routeChangeStep_reconcile taken
      have remembers := reconcileObjects_remembers remembered ranges
        fun tenant config => records env tenant config rfl
      exact remembers.elim ran (fun _ => id) id

theorem reconcileObjects_disabled (disabled : KindDisabled r env objects.route)
    (ranges : ∀ key ∈ objects.route.services.keys, key ∈ env.order) :
    Ensures objects (reconcileObjects r env)
      (fun _ after => after.resources = objects.resources ∧
        ∀ target, target ∈ after.services ↔ target ∈ objects.services ∧
          ¬ (cleanupFinalizer ∈ objects.route.finalizers ∧ Names r objects.route target))
      (fun _ => True) := by
  obtain ⟨tenant, config, proceed, given, decided⟩ := disabled
  refine reconcileObjects_rule True.intro (fun free => ?_) (fun held => ?_) ?_
  · have free := free tenant config proceed given decided
    exact ⟨rfl, fun target => by simp [free]⟩
  · refine (cleanupObjects_effect ranges).mono ?_ fun _ _ => True.intro
    rintro _ after ⟨_, resources, deleted⟩
    exact ⟨resources, fun target => by simp [deleted, held]⟩
  · intro tenant' config' given' decided'
    cases given.symm.trans given'
    cases decided.symm.trans decided'

/-- Such a reconcile takes from the ledgers the Services that the status names. -/
theorem Disables.effect {action : RouteChange} {state' : TrackedRoute}
    (disables : Disables r state action state') (present : state.Present)
    (taken : routeChangeStep r state action = some state') :
    state'.createdResources = state.createdResources ∧
    ∀ target, target ∈ state'.createdServices ↔ target ∈ state.createdServices ∧
      ¬ (cleanupFinalizer ∈ state.objects.route.finalizers ∧
        Names r state.objects.route target) := by
  obtain ⟨env, result, rfl, disabled, ran⟩ := disables
  obtain ⟨ranges, _, after, ran', rfl⟩ := routeChangeStep_reconcile taken
  cases ran.symm.trans ran'
  obtain ⟨resources, services⟩ := (reconcileObjects_disabled disabled ranges).of_ok ran'
  have fewer : after.services.keys ⊆ state.objects.services.keys := by
    intro target held
    rw [Finmap.mem_keys] at held ⊢
    exact ((services target).mp held).1
  refine ⟨?_, fun target => ?_⟩
  · simp only [TrackedRoute.next, resources]
    exact Ledger.update_self present.resources
  · refine (Ledger.mem_update_of_subset fewer).trans (and_congr_right fun created => ?_)
    have before := Finmap.mem_keys.mp (present.services created)
    simp only [Finmap.mem_keys, services, before, true_and]

theorem leavesNoObject_iff {action : RouteChange} {state' : TrackedRoute}
    (present : state.Present) (taken : routeChangeStep r state action = some state') :
    LeavesNoObject r state action state' ↔ NamesAll r state action state' := by
  refine forall_congr' fun disables => ?_
  obtain ⟨resources, services⟩ := disables.effect present taken
  rw [resources, and_comm]
  refine and_congr_right fun _ => ?_
  rw [Finset.eq_empty_iff_forall_notMem]
  refine forall_congr' fun target => ?_
  rw [services]
  tauto

theorem Remembered.leavesNoService {action : RouteChange} {state' : TrackedRoute}
    (remembered : Remembered r state) (taken : routeChangeStep r state action = some state') :
    LeavesNoService r state action state' := by
  intro disables
  obtain ⟨_, services⟩ := disables.effect remembered.present taken
  refine Finset.eq_empty_of_forall_notMem fun target left => ?_
  obtain ⟨created, unnamed⟩ := (services target).mp left
  exact unnamed ⟨remembered.marked ⟨target, created⟩, remembered.named target created⟩

theorem routeChangeStep_present {action : RouteChange} {state' : TrackedRoute}
    (present : state.Present) (taken : routeChangeStep r state action = some state') :
    state'.Present := by
  cases action with
  | edit spec labels =>
      rw [← Option.some.inj taken]
      exact ⟨present.services, present.resources⟩
  | reconcile env =>
      obtain ⟨_, _, after, _, rfl⟩ := routeChangeStep_reconcile taken
      exact state.next_present after

end

/-- Over every history of spec updates and reconciles: what was created from a Route is
gone after a reconcile that finds its kind disabled exactly if no resource was created
and the status names the Services that were. The Services do go when every reconcile
that writes them also records them. -/
theorem disabled_leaves_nothing_iff (r : RouteReconciler) (objects : RouteObjects)
    (actions : List RouteChange) :
    (EachStep (routeChangeStep r) { objects := objects } actions (LeavesNoObject r) ↔
      EachStep (routeChangeStep r) { objects := objects } actions (NamesAll r)) ∧
    (EachStep (routeChangeStep r) { objects := objects } actions
        (fun before action _ => RecordsServices r before action) →
      EachStep (routeChangeStep r) { objects := objects } actions (LeavesNoService r)) := by
  have start : TrackedRoute.Present { objects := objects } := ⟨by simp, by simp⟩
  have present : Throughout (routeChangeStep r) { objects := objects } actions
      TrackedRoute.Present :=
    throughout_of_step start (fun _ _ _ present taken => routeChangeStep_present present taken)
      actions
  refine ⟨eachStep_congr present fun _ _ _ present taken => leavesNoObject_iff present taken, ?_⟩
  intro records
  have remembered : Remembered r { objects := objects } := ⟨start, by simp, by simp⟩
  refine eachStep_of_eachStep remembered ?_ records
  intro state action state' remembered records taken
  exact ⟨routeChangeStep_remembers remembered records taken, remembered.leavesNoService taken⟩

section
private def wikiRoute : Route where
  name := "wiki"
  ns := "tenant-a"
  spec :=
    { kubernetes := some
        { route :=
            { apiVersion := "networking.k8s.io/v1", kind := "Ingress", name := "wiki"
              ns := "default", uid := "0f8fad5b-d9cb-469f-a165-70867728950e" }
          services :=
            [{ name := "web", ns := "default", uid := "7c9e6679-7425-40de-944b-e07fc1f90ae7"
               type := .nodePort, ports := [{ port := 80 }] }] } }

private def wikiEnv (disabled : Bool) (order : List String) : ResourceEnv where
  tenantAndConfig := .ok ({}, { ingressDisable := disabled })
  order := order
  draws := [0]

private def wikiObjects : RouteObjects := ⟨wikiRoute, ∅, newPortAllocator, ∅⟩

/-- Ingresses are disabled after a reconcile: the Service goes. -/
theorem disabled_services_gone :
    EachStep (routeChangeStep { ns := "kubelb" }) { objects := wikiObjects }
      [.reconcile (wikiEnv false []), .reconcile (wikiEnv true ["tenant-a/default-web"])]
      (LeavesNoService { ns := "kubelb" }) := by
  refine (disabled_leaves_nothing_iff { ns := "kubelb" } wikiObjects _).2 ?_
  refine eachStep_cons fun middle first => ⟨?_, eachStep_cons fun _ _ => ⟨?_, eachStep_nil _⟩⟩
  · rintro env tenant config ⟨⟩ _ _
    refine ⟨rfl, ?_, by decide, by decide⟩
    rintro record _ value ⟨⟩
  · rintro env tenant config ⟨⟩ ⟨⟩ goes
    rw [← Option.some.inj first] at goes
    cases goes

/-- The Ingress of the Route stays, without a finalizer that would bring cleanup back. -/
theorem disabled_ingress_stays :
    (run (routeChangeStep { ns := "kubelb" }) { objects := wikiObjects }
        [.reconcile (wikiEnv false []), .reconcile (wikiEnv true ["tenant-a/default-web"])]).map
      (fun state => (state.createdServices, state.createdResources,
        state.objects.route.finalizers)) =
      some (∅, {⟨.ingress, ⟨"tenant-a", "default-wiki"⟩⟩}, []) := by
  decide

end

end KubeLB
