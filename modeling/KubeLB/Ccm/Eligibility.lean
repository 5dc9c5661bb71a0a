import KubeLB.Ccm.Service

/-!
Whether the LoadBalancer of a Service follows the Service through its changes.

The type, the class and the ports of a Service change at will, and the Service may be
deleted. Each change is followed by a Reconcile that returns no error. A Service that
is not accepted is skipped, whatever an earlier run has made for it.
-/

namespace KubeLB.Ccm
open Runs

/-- The error that the part of Reconcile behind the finalizer returns. -/
def reconcileLoadBalancerErr (r : ServiceReconciler) (env : ServiceEnv) (state : ServiceState) :
    Option String :=
  match env.getLoadBalancer, state.loadBalancer with
  | some err, _ => some err
  | none, none => env.create
  | none, some actual =>
      let copied := copyStatus state.service actual
      if copied.ingress ≠ state.service.ingress ∧ env.updateStatus.isSome then
        env.updateStatus.map fun err =>
          "failed to update status " ++ state.service.name ++ ": " ++ err
      else if loadBalancerIsDesiredState actual (desiredLoadBalancer r state.service)
          (mappedAnnotations state.service) then none
      else env.updateLoadBalancer

def cleanupServiceErr (env : ServiceEnv) : Option String :=
  match env.deleteLoadBalancer with
  | some err => some ("deleting LoadBalancer: " ++ err)
  | none => env.update.map ("failed to remove finalizer: " ++ ·)

/-- The error that Reconcile returns. That of the first Get is only logged. -/
def reconcileErr (r : ServiceReconciler) (env : ServiceEnv) (state : ServiceState) :
    Option String :=
  if env.get.isSome then none
  else if state.service.deletionTimestamp then
    if cleanupFinalizer ∈ state.service.finalizers ∨ lbFinalizerName ∈ state.service.finalizers then
      cleanupServiceErr env
    else none
  else if shouldReconcile r state.service = false then none
  else if cleanupFinalizer ∈ state.service.finalizers then reconcileLoadBalancerErr r env state
  else
    match env.update with
    | some err => some ("failed to add finalizer: " ++ err)
    | none =>
        reconcileLoadBalancerErr r env { state with service := { state.service with
          finalizers := removeFinalizer (addFinalizer state.service.finalizers cleanupFinalizer)
            lbFinalizerName } }

/-- A Service of the tenant cluster, until it is gone, and its LoadBalancer. -/
structure TenantService where
  service : Option Service
  loadBalancer : Option LoadBalancer := none

inductive ServiceChange
  | edit (type : ServiceType) (loadBalancerClass : Option String) (ports : List ServicePort)
  | delete

def kept (service : Service) : Option Service := if service.isGone then none else some service

def changed (service : Service) : ServiceChange → Option Service
  | .edit type loadBalancerClass ports =>
      some { service with type := type, loadBalancerClass := loadBalancerClass, ports := ports }
  | .delete => kept { service with deletionTimestamp := true }

/-- A change and the run after it; a run that returns an error does not count. A
Service that is gone is not found, and nothing is done. -/
def changeStep (r : ServiceReconciler) (state : TenantService)
    (action : ServiceChange × ServiceEnv) : Option TenantService :=
  match state.service.bind (changed · action.1) with
  | none => some { state with service := none }
  | some service =>
      if (reconcileErr r action.2 ⟨service, state.loadBalancer⟩).isSome then none
      else
        let after := reconcile r action.2 ⟨service, state.loadBalancer⟩
        some { service := kept after.service, loadBalancer := after.loadBalancer }

def WantsLoadBalancer (r : ServiceReconciler) (service : Option Service) : Prop :=
  ∃ svc, service = some svc ∧ svc.deletionTimestamp = false ∧ shouldReconcile r svc = true

def Follows (r : ServiceReconciler) (state : TenantService) : Prop :=
  state.loadBalancer.isSome ↔ WantsLoadBalancer r state.service

/-- What a run has to find: an error of the Get finds all in order, and a Service that
is not accepted has no LoadBalancer. -/
def FindsInOrder (r : ServiceReconciler) (state : TenantService)
    (action : ServiceChange × ServiceEnv) : Prop :=
  ∀ service, state.service.bind (changed · action.1) = some service →
    (action.2.get ≠ none →
      (state.loadBalancer.isSome ↔ WantsLoadBalancer r (some service))) ∧
    (action.2.get = none → service.deletionTimestamp = false →
      shouldReconcile r service = false → state.loadBalancer = none)

def Held (state : TenantService) : Prop :=
  state.loadBalancer.isSome →
    ∃ service, state.service = some service ∧ cleanupFinalizer ∈ service.finalizers

section
variable {r : ServiceReconciler} {env : ServiceEnv} {state : ServiceState}

/-- Behind the finalizer a run without an error leaves a LoadBalancer and, but for
the status, the Service as it was. -/
theorem reconcileLoadBalancer_ok (returned : reconcileLoadBalancerErr r env state = none) :
    (reconcileLoadBalancer r env state).loadBalancer.isSome ∧
      ∃ ingress, (reconcileLoadBalancer r env state).service =
        { state.service with ingress := ingress } := by
  obtain ⟨service, loadBalancer⟩ := state
  unfold reconcileLoadBalancerErr at returned
  unfold reconcileLoadBalancer
  cases found : env.getLoadBalancer with
  | some err =>
      rw [found] at returned
      cases returned
  | none =>
      rw [found] at returned
      cases loadBalancer with
      | none =>
          simp only at returned
          simp only [returned]
          exact ⟨rfl, service.ingress, rfl⟩
      | some actual =>
          have status : ∃ ingress,
              copyStatus service actual = { service with ingress := ingress } := by
            unfold copyStatus
            split
            · exact ⟨_, rfl⟩
            · exact ⟨service.ingress, rfl⟩
          simp only at returned ⊢
          split at returned
          · rename_i refused
            simp [Option.map_eq_none_iff.mp returned] at refused
          · rename_i passed
            simp only [passed, if_false]
            split at returned
            · rename_i desired
              simp only [desired, if_true]
              exact ⟨rfl, status⟩
            · rename_i differs
              simp only [differs, returned]
              exact ⟨rfl, status⟩

theorem cleanupService_ok (state : ServiceState) (returned : cleanupServiceErr env = none) :
    (cleanupService env state).loadBalancer = none ∧
      (cleanupService env state).service.deletionTimestamp =
        state.service.deletionTimestamp := by
  unfold cleanupServiceErr at returned
  unfold cleanupService
  cases refused : env.deleteLoadBalancer with
  | some err =>
      rw [refused] at returned
      cases returned
  | none =>
      rw [refused] at returned
      rw [Option.map_eq_none_iff.mp returned]
      exact ⟨rfl, rfl⟩

theorem mem_adoptedFinalizers (finalizers : List String) :
    cleanupFinalizer ∈
      removeFinalizer (addFinalizer finalizers cleanupFinalizer) lbFinalizerName :=
  List.mem_filter.mpr ⟨mem_addFinalizer _ _, by decide⟩

theorem reconcile_accepted (returned : reconcileErr r env state = none) (read : env.get = none)
    (alive : state.service.deletionTimestamp = false)
    (accepted : shouldReconcile r state.service = true) :
    ∃ marked, reconcile r env state = reconcileLoadBalancer r env marked ∧
      reconcileLoadBalancerErr r env marked = none ∧
      marked.service.deletionTimestamp = false ∧ shouldReconcile r marked.service = true ∧
      cleanupFinalizer ∈ marked.service.finalizers := by
  by_cases held : cleanupFinalizer ∈ state.service.finalizers
  · refine ⟨state, ?_, ?_, alive, accepted, held⟩
    · simp [reconcile, read, alive, accepted, held]
    · simpa [reconcileErr, read, alive, accepted, held] using returned
  · cases written : env.update with
    | some err => simp [reconcileErr, read, alive, accepted, held, written] at returned
    | none =>
        refine ⟨{ state with service := { state.service with
          finalizers := removeFinalizer (addFinalizer state.service.finalizers cleanupFinalizer)
            lbFinalizerName } }, ?_, ?_, alive, accepted, mem_adoptedFinalizers _⟩
        · simp [reconcile, read, alive, accepted, held, written]
        · simpa [reconcileErr, read, alive, accepted, held, written] using returned

theorem reconcile_ok_cases (returned : reconcileErr r env state = none) :
    (env.get ≠ none ∧ reconcile r env state = state) ∨
    (env.get = none ∧ state.service.deletionTimestamp = true ∧
      (reconcile r env state).service.deletionTimestamp = true ∧
      ((reconcile r env state).loadBalancer = none ∨
        cleanupFinalizer ∉ state.service.finalizers ∧ reconcile r env state = state)) ∨
    (env.get = none ∧ state.service.deletionTimestamp = false ∧
      shouldReconcile r state.service = false ∧ reconcile r env state = state) ∨
    (env.get = none ∧ state.service.deletionTimestamp = false ∧
      shouldReconcile r state.service = true ∧ (reconcile r env state).loadBalancer.isSome ∧
      (reconcile r env state).service.deletionTimestamp = false ∧
      shouldReconcile r (reconcile r env state).service = true ∧
      cleanupFinalizer ∈ (reconcile r env state).service.finalizers) := by
  cases read : env.get with
  | some err => exact Or.inl ⟨by simp, by simp [reconcile, read]⟩
  | none =>
      right
      cases deleted : state.service.deletionTimestamp with
      | true =>
          left
          by_cases marked : cleanupFinalizer ∈ state.service.finalizers ∨
              lbFinalizerName ∈ state.service.finalizers
          · have step : reconcile r env state = cleanupService env state := by
              simp [reconcile, read, deleted, marked]
            have err : reconcileErr r env state = cleanupServiceErr env := by
              simp [reconcileErr, read, deleted, marked]
            have cleaned := cleanupService_ok state (err.symm.trans returned)
            rw [step]
            exact ⟨rfl, rfl, cleaned.2.trans deleted, Or.inl cleaned.1⟩
          · have step : reconcile r env state = state := by
              simp [reconcile, read, deleted, marked]
            rw [step]
            exact ⟨rfl, rfl, deleted, Or.inr ⟨fun held => marked (Or.inl held), rfl⟩⟩
      | false =>
          right
          cases accepted : shouldReconcile r state.service with
          | false => exact Or.inl ⟨rfl, rfl, rfl, by simp [reconcile, read, deleted, accepted]⟩
          | true =>
              right
              obtain ⟨marked, step, err, alive, mine, held⟩ :=
                reconcile_accepted returned read deleted accepted
              obtain ⟨present, ingress, same⟩ := reconcileLoadBalancer_ok err
              rw [step, same]
              exact ⟨rfl, rfl, rfl, present, alive, mine, held⟩

theorem kept_of_mem {service : Service} {finalizer : String}
    (held : finalizer ∈ service.finalizers) : kept service = some service := by
  have stays : service.isGone = false := by
    simp [ObjectMeta.isGone, List.ne_nil_of_mem held]
  simp [kept, stays]

/-- A change takes no finalizer, and takes no Service that has one. -/
theorem changed_of_mem {service : Service} {finalizer : String} (change : ServiceChange)
    (held : finalizer ∈ service.finalizers) :
    ∃ after, changed service change = some after ∧ finalizer ∈ after.finalizers := by
  cases change with
  | edit type loadBalancerClass ports => exact ⟨_, rfl, held⟩
  | delete => exact ⟨_, kept_of_mem held, held⟩

theorem wants_iff {service : Service} : WantsLoadBalancer r (some service) ↔
    service.deletionTimestamp = false ∧ shouldReconcile r service = true := by
  simp [WantsLoadBalancer]

theorem wants_kept {service : Service} :
    WantsLoadBalancer r (kept service) ↔ WantsLoadBalancer r (some service) := by
  unfold kept
  split
  · rename_i gone
    simp only [ObjectMeta.isGone, decide_eq_true_eq] at gone
    simp [WantsLoadBalancer, gone.1]
  · rfl

end

/-- The finalizer holds a Service as long as its LoadBalancer is there. -/
theorem held_changed {before : TenantService} (held : Held before) (change : ServiceChange)
    (present : before.loadBalancer.isSome) :
    ∃ service, before.service.bind (changed · change) = some service ∧
      cleanupFinalizer ∈ service.finalizers := by
  obtain ⟨service, atService, finalizer⟩ := held present
  rw [atService]
  exact changed_of_mem change finalizer

theorem Held.finalizer {before : TenantService} {change : ServiceChange} {service : Service}
    (held : Held before) (atService : before.service.bind (changed · change) = some service)
    (present : before.loadBalancer.isSome) : cleanupFinalizer ∈ service.finalizers := by
  obtain ⟨found, atFound, finalizer⟩ := held_changed held change present
  cases atService.symm.trans atFound
  exact finalizer

/-- A step finds no Service after the change, and then there is no LoadBalancer, or its
run returns without an error. -/
theorem changeStep_cases {r : ServiceReconciler} {before after : TenantService}
    {action : ServiceChange × ServiceEnv} (held : Held before)
    (taken : changeStep r before action = some after) :
    (before.service.bind (changed · action.1) = none ∧ after = ⟨none, none⟩) ∨
      ∃ service, before.service.bind (changed · action.1) = some service ∧
        reconcileErr r action.2 ⟨service, before.loadBalancer⟩ = none ∧
        after =
          { service := kept (reconcile r action.2 ⟨service, before.loadBalancer⟩).service
            loadBalancer :=
              (reconcile r action.2 ⟨service, before.loadBalancer⟩).loadBalancer } := by
  unfold changeStep at taken
  cases atService : before.service.bind (changed · action.1) with
  | none =>
      have absent : before.loadBalancer = none := by
        refine Option.not_isSome_iff_eq_none.mp fun present => ?_
        obtain ⟨service, found, _⟩ := held_changed held action.1 present
        cases atService.symm.trans found
      rw [atService] at taken
      cases taken
      exact Or.inl ⟨rfl, by rw [absent]⟩
  | some service =>
      simp only [atService] at taken
      split at taken
      · cases taken
      · rename_i returned
        exact Or.inr ⟨service, rfl, Option.not_isSome_iff_eq_none.mp returned,
          (Option.some.inj taken).symm⟩

theorem held_step {r : ServiceReconciler} {before after : TenantService}
    {action : ServiceChange × ServiceEnv} (held : Held before)
    (taken : changeStep r before action = some after) : Held after := by
  intro present
  obtain ⟨_, rfl⟩ | ⟨service, atService, returned, rfl⟩ := changeStep_cases held taken
  · cases present
  · have finalizer := held.finalizer atService
    simp only at present ⊢
    obtain ⟨_, same⟩ | ⟨_, _, _, removed | ⟨unmarked, same⟩⟩ | ⟨_, _, _, same⟩ |
      ⟨_, _, _, _, _, _, marked⟩ := reconcile_ok_cases returned
    · rw [same] at present ⊢
      exact ⟨service, kept_of_mem (finalizer present), finalizer present⟩
    · rw [removed] at present
      cases present
    · rw [same] at present
      exact absurd (finalizer present) unmarked
    · rw [same] at present ⊢
      exact ⟨service, kept_of_mem (finalizer present), finalizer present⟩
    · exact ⟨_, kept_of_mem marked, marked⟩

/-- The LoadBalancer follows a change exactly when the run finds all in order. -/
theorem follows_step_iff {r : ServiceReconciler} {before after : TenantService}
    {action : ServiceChange × ServiceEnv} (held : Held before)
    (taken : changeStep r before action = some after) :
    Follows r after ↔ FindsInOrder r before action := by
  obtain ⟨gone, rfl⟩ | ⟨service, atService, returned, rfl⟩ := changeStep_cases held taken
  · refine iff_of_true (iff_of_false (by simp) (by simp [WantsLoadBalancer])) ?_
    intro service found
    cases gone.symm.trans found
  · have finalizer := held.finalizer atService
    simp only [Follows, FindsInOrder, atService, Option.some.injEq, forall_eq', wants_kept]
    obtain ⟨failed, same⟩ | ⟨read, deleted, stamped, removed⟩ | ⟨read, alive, refused, same⟩ |
      ⟨read, alive, accepted, present, alive', accepted', _⟩ := reconcile_ok_cases returned
    · rw [same]
      exact ⟨fun follows => ⟨fun _ => follows, fun read => absurd read failed⟩,
        fun finds => finds.1 failed⟩
    · have none : (reconcile r action.2 ⟨service, before.loadBalancer⟩).loadBalancer = none := by
        obtain gone | ⟨unmarked, same⟩ := removed
        · exact gone
        · rw [same]
          by_contra some'
          exact unmarked (finalizer (Option.isSome_iff_ne_none.mpr some'))
      refine iff_of_true ?_ ⟨fun failed => absurd read failed, fun _ alive => ?_⟩
      · rw [none, wants_iff, stamped]
        simp
      · cases deleted.symm.trans alive
    · have unwanted : ¬ WantsLoadBalancer r (some service) := by
        rintro ⟨svc, found, _, accepted⟩
        cases found
        cases refused.symm.trans accepted
      rw [same]
      refine ⟨fun follows => ⟨fun failed => absurd read failed, fun _ _ _ => ?_⟩,
        fun finds => ?_⟩
      · exact Option.not_isSome_iff_eq_none.mp fun present => unwanted (follows.mp present)
      · have absent := finds.2 read alive refused
        exact iff_of_false (by simp [absent]) unwanted
    · refine iff_of_true ?_ ⟨fun failed => absurd read failed, fun _ _ refused => ?_⟩
      · exact iff_of_true present (wants_iff.mpr ⟨alive', accepted'⟩)
      · cases accepted.symm.trans refused

/-- After every run, in every sequence of changes to a Service, its LoadBalancer exists
exactly if it should, when each run finds all in order, and only then. -/
theorem loadBalancer_follows_iff (r : ServiceReconciler) (service : Service)
    (actions : List (ServiceChange × ServiceEnv)) :
    EachStep (changeStep r) { service := some service } actions (fun _ _ after => Follows r after) ↔
      EachStep (changeStep r) { service := some service } actions fun before action _ =>
        FindsInOrder r before action := by
  have start : Held { service := some service } := by
    rintro ⟨⟩
  have invariant : Throughout (changeStep r) { service := some service } actions Held :=
    throughout_of_step start (fun _ _ _ held taken => held_step held taken) actions
  refine eachStep_congr invariant ?_
  intro before action after held taken
  exact follows_step_iff held taken

/-- A Service of type LoadBalancer becomes one of type ClusterIP; the run after it
returns no error and leaves the LoadBalancer. -/
theorem type_change_leaves_loadBalancer :
    (do let state ← run (changeStep { clusterName := "tenant-a" })
          { service := some { name := "web", ns := "default", uid := "0f8fad5b" } }
          [(.edit .loadBalancer none [{ port := 80 }], {}),
            (.edit .clusterIP none [{ port := 80 }], {})]
        let service ← state.service
        return (service.type, service.deletionTimestamp, state.loadBalancer.map (·.name))) =
      some (.clusterIP, false, some "0f8fad5b") := by
  decide

end KubeLB.Ccm
