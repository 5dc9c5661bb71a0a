import KubeLB.Foundation.Runs
import KubeLB.LoadBalancer.Mapping

/-!
The Service controller of the CCM (internal/controllers/ccm/service_controller.go)
over one Service of the tenant cluster and its LoadBalancer.

Without the cloud controller mode the addresses of the LoadBalancer are read from
the status of the Service, where the load balancer of the tenant cluster reports
them; the same reconcile copies what the manager reports on the LoadBalancer into
that status. A reconcile is one step. The tenant, its load balancer and the
manager act in between, in any order.
-/

namespace KubeLB.Ccm
open FiniteMap Runs

def lbFinalizerName : String := "kubelb.k8c.io/lb-finalizer"
def cleanupFinalizer : String := "kubelb.k8c.io/cleanup"
def loadBalancerClassName : String := "kubelb"

/-- The settings of KubeLBServiceReconciler. -/
structure ServiceReconciler where
  clusterName : String
  cloudController : Bool := false
  useLoadbalancerClass : Bool := false

def shouldReconcile (r : ServiceReconciler) (svc : Service) : Bool :=
  svc.type = .loadBalancer ∧
    (r.useLoadbalancerClass → svc.loadBalancerClass = some loadBalancerClassName)

/-- The addresses to forward to, and whether the reference is used instead. -/
def getEndpoints (r : ServiceReconciler) (service : Service) : List String × Bool :=
  if service.type = .loadBalancer ∧ r.cloudController = false then
    (service.ingress.map fun ingress =>
      if ingress.ip ≠ "" then ingress.ip else ingress.hostname, false)
  else ([], true)

structure ServiceEnv where
  get : Option String := none
  update : Option String := none
  getLoadBalancer : Option String := none
  create : Option String := none
  updateStatus : Option String := none
  updateLoadBalancer : Option String := none
  deleteLoadBalancer : Option String := none

structure ServiceState where
  service : Service
  loadBalancer : Option LoadBalancer := none

def desiredLoadBalancer (r : ServiceReconciler) (service : Service) : LoadBalancer :=
  mapLoadBalancer service (getEndpoints r service).1 (getEndpoints r service).2 r.clusterName

def cleanupService (env : ServiceEnv) (state : ServiceState) : ServiceState :=
  match env.deleteLoadBalancer with
  | some _ => state
  | none =>
      match env.update with
      | some _ => { state with loadBalancer := none }
      | none =>
          { service := { state.service with
              finalizers := removeFinalizer
                (removeFinalizer state.service.finalizers lbFinalizerName) cleanupFinalizer }
            loadBalancer := none }

/-- The status of the Service after the comparison with that of the LoadBalancer. -/
def copyStatus (service : Service) (actual : LoadBalancer) : Service :=
  if service.type = .loadBalancer ∧ actual.status.ingress ≠ service.ingress then
    { service with ingress := actual.status.ingress }
  else service

/-- The reconcile behind the finalizer. The desired LoadBalancer is made before
the status is copied. -/
def reconcileLoadBalancer (r : ServiceReconciler) (env : ServiceEnv) (state : ServiceState) :
    ServiceState :=
  let desired := desiredLoadBalancer r state.service
  match env.getLoadBalancer, state.loadBalancer with
  | some _, _ => state
  | none, none =>
      match env.create with
      | some _ => state
      | none => { state with loadBalancer := some desired }
  | none, some actual =>
      let copied := { state with service := copyStatus state.service actual }
      if copied.service.ingress ≠ state.service.ingress ∧ env.updateStatus.isSome then state
      else if loadBalancerIsDesiredState actual desired (mappedAnnotations state.service) then
        copied
      else
        match env.updateLoadBalancer with
        | some _ => copied
        | none =>
            { copied with loadBalancer := some { actual with
                spec := desired.spec, annotations := desired.annotations } }

def reconcile (r : ServiceReconciler) (env : ServiceEnv) (state : ServiceState) : ServiceState :=
  if env.get.isSome then state
  else if state.service.deletionTimestamp then
    if cleanupFinalizer ∈ state.service.finalizers ∨ lbFinalizerName ∈ state.service.finalizers then
      cleanupService env state
    else state
  else if shouldReconcile r state.service = false then state
  else if cleanupFinalizer ∈ state.service.finalizers then reconcileLoadBalancer r env state
  else if env.update.isSome then state
  else
    reconcileLoadBalancer r env { state with service := { state.service with
      finalizers := removeFinalizer (addFinalizer state.service.finalizers cleanupFinalizer)
        lbFinalizerName } }

inductive ServiceAction
  /-- The load balancer of the tenant cluster writes the status of the Service. -/
  | tenantReport (ingress : List LoadBalancerIngress)
  /-- The manager writes the status of the LoadBalancer. -/
  | managerReport (ingress : List LoadBalancerIngress)
  /-- The user changes the Service or asks for its deletion; the key, the UID and
  the status are not theirs to change. -/
  | edit (edited : Service)
  | reconcile (env : ServiceEnv)

def serviceStep (r : ServiceReconciler) (state : ServiceState) :
    ServiceAction → Option ServiceState
  | .tenantReport ingress =>
      some { state with service := { state.service with ingress := ingress } }
  | .managerReport ingress =>
      some { state with loadBalancer := state.loadBalancer.map fun lb =>
        { lb with status := { lb.status with ingress := ingress } } }
  | .edit edited =>
      some { state with service := { edited with
        name := state.service.name
        ns := state.service.ns
        uid := state.service.uid
        ingress := state.service.ingress } }
  | .reconcile env => some (reconcile r env state)

/-- The addresses of an ingress list, IPs and hostnames alike. -/
def ingressAddresses (ingress : List LoadBalancerIngress) : List String :=
  (ingress.flatMap fun entry => [entry.ip, entry.hostname]).filter (· ≠ "")

def specAddresses (spec : LoadBalancerSpec) : List String :=
  (spec.endpoints.flatMap fun endpoint =>
    endpoint.addresses.flatMap fun address => [address.ip, address.hostname]).filter (· ≠ "")

def ForwardsElsewhere (state : ServiceState) : Prop :=
  ∀ lb, state.loadBalancer = some lb →
    (specAddresses lb.spec).Disjoint (ingressAddresses lb.status.ingress)

/-- Behind the finalizer: the requests succeed, and the LoadBalancer found is not
the one wanted. -/
structure Rewrites (r : ServiceReconciler) (env : ServiceEnv) (service : Service)
    (actual : LoadBalancer) : Prop where
  found : env.getLoadBalancer = none
  copied : actual.status.ingress = service.ingress ∨ env.updateStatus = none
  differs : loadBalancerIsDesiredState actual (desiredLoadBalancer r service)
    (mappedAnnotations service) = false
  written : env.updateLoadBalancer = none

structure WritesSpec (r : ServiceReconciler) (env : ServiceEnv) (service : Service)
    (actual : LoadBalancer) : Prop extends Rewrites r env service actual where
  read : env.get = none
  alive : service.deletionTimestamp = false
  managed : shouldReconcile r service = true
  marked : cleanupFinalizer ∈ service.finalizers ∨ env.update = none

/-- What keeps a LoadBalancer from forwarding to itself: a reconcile that writes
its spec reads no address of its own from the status of the Service, and the
manager reports no address that the spec already has. -/
def ReadsForeignAddresses (r : ServiceReconciler) (state : ServiceState) : ServiceAction → Prop
  | .tenantReport _ | .edit _ => True
  | .managerReport ingress => ∀ lb, state.loadBalancer = some lb →
      (specAddresses lb.spec).Disjoint (ingressAddresses ingress)
  | .reconcile env => ∀ actual, state.loadBalancer = some actual →
      WritesSpec r env state.service actual →
        ((getEndpoints r state.service).1.filter (· ≠ "")).Disjoint
          (ingressAddresses actual.status.ingress)

theorem specAddresses_desired (r : ServiceReconciler) (service : Service) :
    specAddresses (desiredLoadBalancer r service).spec =
      (getEndpoints r service).1.filter (· ≠ "") := by
  have flat (endpoints : List String) :
      ((endpoints.map fun endpoint => ({ ip := endpoint } : EndpointAddress)).flatMap fun address =>
        [address.ip, address.hostname]).filter (· ≠ "") = endpoints.filter (· ≠ "") := by
    induction endpoints with
    | nil => rfl
    | cons endpoint endpoints ih =>
        rw [List.map_cons, List.flatMap_cons, List.filter_append, ih]
        by_cases empty : endpoint = "" <;> simp [empty]
  simp only [specAddresses, desiredLoadBalancer, mapLoadBalancer, List.flatMap_cons,
    List.flatMap_nil, List.append_nil]
  by_cases reference : (getEndpoints r service).2 = true
  · have none : (getEndpoints r service).1 = [] := by
      unfold getEndpoints at reference ⊢
      split
      · rename_i own
        simp [own] at reference
      · rfl
    simp [reference, none]
  · simp only [reference]
    exact flat _

section
variable (r : ServiceReconciler) (env : ServiceEnv) {state : ServiceState}

/-- The actual LoadBalancer with the spec that the Service asks for. -/
def respecified (r : ServiceReconciler) (service : Service) (actual : LoadBalancer) :
    LoadBalancer :=
  { actual with
    spec := (desiredLoadBalancer r service).spec
    annotations := (desiredLoadBalancer r service).annotations }

theorem reconcile_absent (absent : state.loadBalancer = none) :
    (reconcile r env state).loadBalancer = none ∨
      (reconcile r env state).loadBalancer = some (desiredLoadBalancer r state.service) := by
  have behind (marked : ServiceState) (none' : marked.loadBalancer = none) :
      (reconcileLoadBalancer r env marked).loadBalancer = none ∨
        (reconcileLoadBalancer r env marked).loadBalancer =
          some (desiredLoadBalancer r marked.service) := by
    unfold reconcileLoadBalancer
    rw [none']
    cases env.getLoadBalancer with
    | some err => exact Or.inl none'
    | none =>
        cases env.create with
        | some err => exact Or.inl none'
        | none => exact Or.inr rfl
  unfold reconcile
  split
  · exact Or.inl absent
  · split
    · split
      · unfold cleanupService
        split
        · exact Or.inl absent
        · split <;> exact Or.inl rfl
      · exact Or.inl absent
    · split
      · exact Or.inl absent
      · split
        · exact behind state absent
        · split
          · exact Or.inl absent
          · exact behind _ absent

/-- Behind the finalizer the spec is written exactly when nothing fails and the
LoadBalancer found is not the desired one. -/
theorem reconcileLoadBalancer_present (state : ServiceState) {actual : LoadBalancer}
    (present : state.loadBalancer = some actual) (balanced : state.service.type = .loadBalancer) :
    (Rewrites r env state.service actual →
      (reconcileLoadBalancer r env state).loadBalancer =
        some (respecified r state.service actual)) ∧
    (¬ Rewrites r env state.service actual →
      (reconcileLoadBalancer r env state).loadBalancer = some actual) := by
  have stopped : (copyStatus state.service actual).ingress ≠ state.service.ingress ∧
      env.updateStatus.isSome ↔
        ¬ (actual.status.ingress = state.service.ingress ∨ env.updateStatus = none) := by
    unfold copyStatus
    by_cases same : actual.status.ingress = state.service.ingress
    · simp [same]
    · simp [same, balanced, Option.isSome_iff_ne_none]
  unfold reconcileLoadBalancer
  rw [present]
  cases found : env.getLoadBalancer with
  | some err =>
      refine ⟨fun rewrites => ?_, fun _ => present⟩
      cases found.symm.trans rewrites.found
  | none =>
      simp only [stopped]
      split
      · rename_i refused
        exact ⟨fun rewrites => absurd rewrites.copied refused, fun _ => present⟩
      · rename_i copied
        split
        · rename_i desired
          refine ⟨fun rewrites => ?_, fun _ => rfl⟩
          cases desired.symm.trans rewrites.differs
        · rename_i differs
          split
          · rename_i err refused
            refine ⟨fun rewrites => ?_, fun _ => rfl⟩
            cases refused.symm.trans rewrites.written
          · rename_i written
            exact ⟨fun _ => rfl, fun stays => absurd
              ⟨found, not_not.mp copied, Bool.eq_false_of_not_eq_true differs, written⟩ stays⟩

theorem type_of_shouldReconcile {r : ServiceReconciler} {service : Service}
    (managed : shouldReconcile r service ≠ false) : service.type = .loadBalancer := by
  simp only [shouldReconcile, ne_eq, decide_eq_false_iff_not, not_not] at managed
  exact managed.1

theorem reconcile_present {actual : LoadBalancer} (present : state.loadBalancer = some actual) :
    (WritesSpec r env state.service actual →
      (reconcile r env state).loadBalancer = some (respecified r state.service actual)) ∧
    (¬ WritesSpec r env state.service actual →
      (reconcile r env state).loadBalancer = none ∨
        (reconcile r env state).loadBalancer = some actual) := by
  unfold reconcile
  split
  · rename_i failed
    exact ⟨fun writes => absurd writes.read (Option.isSome_iff_ne_none.mp failed),
      fun _ => Or.inr present⟩
  · rename_i read
    split
    · rename_i deleted
      refine ⟨fun writes => ?_, fun _ => ?_⟩
      · cases deleted.symm.trans writes.alive
      · split
        · unfold cleanupService
          split
          · exact Or.inr present
          · split <;> exact Or.inl rfl
        · exact Or.inr present
    · rename_i alive
      split
      · rename_i unmanaged
        refine ⟨fun writes => ?_, fun _ => Or.inr present⟩
        cases unmanaged.symm.trans writes.managed
      · rename_i managed
        have balanced := type_of_shouldReconcile managed
        have through (marked : cleanupFinalizer ∈ state.service.finalizers ∨ env.update = none) :
            Rewrites r env state.service actual → WritesSpec r env state.service actual :=
          fun rewrites => ⟨rewrites, by simpa using read, by simpa using alive,
            by simpa using managed, marked⟩
        split
        · rename_i marked
          obtain ⟨writes, stays⟩ := reconcileLoadBalancer_present r env state present balanced
          exact ⟨fun h => writes h.toRewrites,
            fun h => Or.inr (stays fun rewrites => h (through (Or.inl marked) rewrites))⟩
        · rename_i unmarked
          split
          · rename_i refused
            refine ⟨fun writes => ?_, fun _ => Or.inr present⟩
            exact absurd (writes.marked.resolve_left unmarked)
              (Option.isSome_iff_ne_none.mp refused)
          · rename_i updated
            have accepted : env.update = none := by simpa using updated
            obtain ⟨writes, stays⟩ := reconcileLoadBalancer_present r env
              { state with service := { state.service with
                finalizers := removeFinalizer
                  (addFinalizer state.service.finalizers cleanupFinalizer) lbFinalizerName } }
              present balanced
            refine ⟨fun h => writes ?_, fun h => Or.inr (stays fun rewrites => ?_)⟩
            · exact ⟨h.found, h.copied, h.differs, h.written⟩
            · exact h (through (Or.inr accepted)
                ⟨rewrites.found, rewrites.copied, rewrites.differs, rewrites.written⟩)

end

/-- A LoadBalancer comes to forward to itself exactly in a step that reads one of
its own addresses from the Service, or that reports one it forwards to. -/
theorem forwardsElsewhere_step_iff {r : ServiceReconciler} {before after : ServiceState}
    {action : ServiceAction} (holds : ForwardsElsewhere before)
    (taken : serviceStep r before action = some after) :
    ForwardsElsewhere after ↔ ReadsForeignAddresses r before action := by
  cases action with
  | tenantReport ingress =>
      cases taken
      exact iff_of_true holds True.intro
  | edit edited =>
      cases taken
      exact iff_of_true holds True.intro
  | managerReport ingress =>
      cases taken
      constructor
      · intro elsewhere lb present
        exact elsewhere { lb with status := { lb.status with ingress := ingress } }
          (by simp [present])
      · intro reports reported present
        obtain ⟨lb, atLb, rfl⟩ := Option.map_eq_some_iff.mp present
        exact reports lb atLb
  | reconcile env =>
      cases taken
      cases present : before.loadBalancer with
      | none =>
          refine iff_of_true ?_ ?_
          · intro lb atLb
            obtain absent | created := reconcile_absent r env present
            · cases absent.symm.trans atLb
            · cases created.symm.trans atLb
              exact List.disjoint_nil_right _
          · intro actual atActual
            cases present.symm.trans atActual
      | some actual =>
          obtain ⟨writes, stays⟩ := reconcile_present r env present
          by_cases written : WritesSpec r env before.service actual
          · have spec := specAddresses_desired r before.service
            constructor
            · intro elsewhere actual' atActual _
              cases present.symm.trans atActual
              rw [← spec]
              exact elsewhere _ (writes written)
            · intro reads lb atLb
              cases (writes written).symm.trans atLb
              have apart := reads actual present written
              rw [← spec] at apart
              exact apart
          · refine iff_of_true ?_ ?_
            · intro lb atLb
              obtain gone | same := stays written
              · cases gone.symm.trans atLb
              · cases same.symm.trans atLb
                exact holds actual present
            · intro actual' atActual writes'
              cases present.symm.trans atActual
              exact absurd writes' written

/-- In every run from a Service without a LoadBalancer, the LoadBalancer never
forwards to an address of its own exactly when every step that could make it do
so reads and reports foreign addresses only. -/
theorem run_forwards_elsewhere_iff (r : ServiceReconciler) (service : Service)
    (actions : List ServiceAction) :
    Throughout (serviceStep r) { service := service } actions ForwardsElsewhere ↔
      EachStep (serviceStep r) { service := service } actions fun state action _ =>
        ReadsForeignAddresses r state action := by
  have start : ForwardsElsewhere { service := service } := by
    intro lb absent
    cases absent
  refine throughout_iff_eachStep (I := fun _ => True) True.intro (fun _ _ _ _ _ => True.intro)
    start ?_ actions
  intro before action after _ holds taken
  exact forwardsElsewhere_step_iff holds taken

/-- The tenant cluster reports one address and the manager another; the third
reconcile makes the LoadBalancer forward to its own. -/
theorem reported_address_comes_back :
    (do let state ← run (serviceStep { clusterName := "tenant-a" })
          { service := { name := "web", ns := "default", uid := "0f8fad5b", type := .loadBalancer
                         ports := [{ port := 80, nodePort := 30080 }] } }
          [.tenantReport [{ ip := "192.0.2.1" }], .reconcile {},
            .managerReport [{ ip := "203.0.113.9" }], .reconcile {}, .reconcile {}]
        let lb ← state.loadBalancer
        return (specAddresses lb.spec, ingressAddresses lb.status.ingress)) =
      some (["203.0.113.9"], ["203.0.113.9"]) := by
  decide

end KubeLB.Ccm
