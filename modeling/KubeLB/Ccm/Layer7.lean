import KubeLB.Ccm.Service
import KubeLB.Resources
import KubeLB.Route.SourceSpec

/-!
The controllers of the CCM for Ingresses, Gateways, HTTPRoutes and GRPCRoutes
(internal/controllers/ccm), by what they do in the tenant cluster.

The four Reconcile functions are one text but for the type and for cleanup, which
has no services to delete for a Gateway. The Route in the LB cluster appears by the
errors of the requests for it. A Service is addressed by its key in the store. A
List hands out the Services in the order of `ResourceEnv.order`. A panic is
recovered and leaves what was done before it.
-/

namespace KubeLB.Ccm
open FiniteMap

def ingressClassName : String := "kubelb"

structure ResourceReconciler where
  useIngressClass : Bool := false
  useGatewayClass : Bool := false

def shouldReconcileResource (resource : TenantResource) (useGatewayClass : Bool) : Bool :=
  match resource.spec with
  | .gateway spec =>
      resource.name = parentGatewayName ∧
        (useGatewayClass → spec.gatewayClassName = gatewayClassName)
  | .httpRoute spec | .grpcRoute spec =>
      match spec.parentRefs with
      | [parent] => parent.name = parentGatewayName
      | _ => false
  | .ingress _ => false

def managed (r : ResourceReconciler) (resource : TenantResource) : Bool :=
  match resource.spec with
  | .ingress spec => r.useIngressClass → spec.ingressClassName = some ingressClassName
  | .gateway _ => shouldReconcileResource resource r.useGatewayClass
  | .httpRoute _ | .grpcRoute _ => shouldReconcileResource resource false

inductive ResourceEvent
  | create (object : TenantResource)
  | update (old new : TenantResource)
  | delete (object : TenantResource)
  | generic (object : TenantResource)

def resourceFilter (r : ResourceReconciler) : ResourceEvent → Bool
  | .create object | .delete object | .generic object => managed r object
  | .update _ new => managed r new

/-- What one reconcile meets; `none` stands for success. -/
structure ResourceEnv where
  get : Option String := none
  update : Option String := none
  list : Option String := none
  order : List ObjectKey := []
  faults : ApiFaults := {}
  api : Admission := .verbatim
  route : Option String := none

def originalName (key : ObjectKey) (service : Service) : String :=
  let label := (service.labels.lookup labelOriginName).getD ""
  if label ≠ "" then label else key.name

/-- The Services of the namespace that the CCM manages and that stand for one of
the impacted services. -/
def servicesToDelete (store : ServiceStore) (ns : String) (impactedServices : List ObjectKey)
    (order : List ObjectKey) : List ObjectKey :=
  order.filter fun key => key.ns = ns ∧ ∃ service ∈ store.lookup key,
    service.labels.lookup labelManagedBy = some labelControllerName ∧
      ⟨key.ns, originalName key service⟩ ∈ impactedServices

def deleteServices (faults : ApiFaults) :
    List ObjectKey → ServiceStore → ServiceStore × Option String
  | [], store => (store, none)
  | key :: keys, store =>
      match faults.delete key with
      | some err => (store, some ("failed to delete service: " ++ err))
      | none => deleteServices faults keys (store.erase key)

def cleanupServices (env : ResourceEnv) (store : ServiceStore) (resource : TenantResource) :
    ServiceStore × Option String :=
  if resource.kind = .gateway then (store, none)
  else
    match resource.getServices with
    | none => (store, some "panic: nil pointer dereference")
    | some impactedServices =>
        match env.list with
        | some err => (store, some ("failed to list services: " ++ err))
        | none =>
            deleteServices env.faults
              (servicesToDelete store resource.ns impactedServices env.order) store

def cleanupResource (env : ResourceEnv) (store : ServiceStore) (resource : TenantResource) :
    ServiceStore × TenantResource :=
  match cleanupServices env store resource with
  | (store, some _) => (store, resource)
  | (store, none) =>
      if env.route.isSome ∨ env.update.isSome then (store, resource)
      else (store, { resource with
        finalizers := removeFinalizer resource.finalizers cleanupFinalizer })

/-- The Services after the second loop of NormalizeAndReplicateServices, which ends
at the first error. -/
def writtenReplicas (faults : ApiFaults) (api : Admission) :
    List Service → ServiceStore → ServiceStore
  | [], store => store
  | svc :: replicas, store =>
      match createOrUpdateService faults api store svc with
      | .error _ => store
      | .ok (store, _) => writtenReplicas faults api replicas store

/-- The Services after NormalizeAndReplicateServices, whether or not it fails. -/
def replicatedStore (faults : ApiFaults) (api : Admission) (store : ServiceStore)
    (references : List ObjectKey) : ServiceStore :=
  match normalizeServices faults store references with
  | .error _ => store
  | .ok (_, replicas) => writtenReplicas faults api replicas store

/-- The Services after reconcileSourceForRoute, whether or not it fails. -/
def replicateServices (env : ResourceEnv) (store : ServiceStore) (resource : TenantResource) :
    ServiceStore :=
  match resource.getServices with
  | none => store
  | some references =>
      match normalizeServices env.faults store references with
      | .error _ => store
      | .ok (_, replicas) => writtenReplicas env.faults env.api replicas store

def reconcileResource (r : ResourceReconciler) (env : ResourceEnv) (store : ServiceStore)
    (resource : TenantResource) : ServiceStore × TenantResource :=
  if env.get.isSome then (store, resource)
  else if resource.deletionTimestamp then
    if cleanupFinalizer ∈ resource.finalizers then cleanupResource env store resource
    else (store, resource)
  else if managed r resource = false then (store, resource)
  else if cleanupFinalizer ∈ resource.finalizers then
    (replicateServices env store resource, resource)
  else if env.update.isSome then (store, resource)
  else
    let marked := { resource with
      finalizers := addFinalizer resource.finalizers cleanupFinalizer }
    (replicateServices env store marked, marked)

def settled (resource : TenantResource) : Option TenantResource :=
  if resource.isGone then none else some resource

section
variable {faults : ApiFaults} {api : Admission} {store after : ServiceStore}

theorem writtenReplicas_eq {replicas : List Service}
    (returned : writeReplicas faults api replicas store = .ok after) :
    writtenReplicas faults api replicas store = after := by
  induction replicas generalizing store with
  | nil =>
      cases returned
      rfl
  | cons svc replicas ih =>
      rw [writeReplicas] at returned
      rw [writtenReplicas]
      cases result : createOrUpdateService faults api store svc with
      | error err =>
          rw [result] at returned
          cases returned
      | ok written =>
          rw [result] at returned
          exact ih returned

/-- Where NormalizeAndReplicateServices returns, the Services are those it returns. -/
theorem replicatedStore_eq {references : List ObjectKey} {services : List Service}
    (returned : normalizeAndReplicateServices faults api store references =
      .ok (after, services)) : replicatedStore faults api store references = after := by
  obtain ⟨⟨usable, replicas⟩, normalized, returned⟩ := Fallible.bind_eq_ok.mp returned
  obtain ⟨written, writes, returned⟩ := Fallible.bind_eq_ok.mp returned
  obtain ⟨fetched, _, returned⟩ := Fallible.bind_eq_ok.mp returned
  cases returned
  simp only [replicatedStore, normalized]
  exact writtenReplicas_eq writes

theorem lookup_deleteServices (keys : List ObjectKey) (key : ObjectKey) :
    (deleteServices faults keys store).1.lookup key =
      if key ∈ keys.takeWhile (fun key => faults.delete key = none) then none
      else store.lookup key := by
  induction keys generalizing store with
  | nil => simp [deleteServices]
  | cons head keys ih =>
      rw [deleteServices, List.takeWhile_cons]
      cases refused : faults.delete head with
      | some err => simp
      | none =>
          simp only [ih, decide_true, if_true, List.mem_cons]
          by_cases same : key = head
          · subst same
            simp [Finmap.lookup_erase]
          · simp [same, Finmap.lookup_erase_ne same]

end

theorem mem_writtenReplicas {faults : ApiFaults} {api : Admission} {replicas : List Service}
    {store : ServiceStore} {key : ObjectKey} (present : key ∈ store) :
    key ∈ writtenReplicas faults api replicas store := by
  induction replicas generalizing store with
  | nil => exact present
  | cons svc replicas ih =>
      rw [writtenReplicas]
      cases result : createOrUpdateService faults api store svc with
      | error err => exact present
      | ok written =>
          obtain ⟨stored, obj⟩ := written
          have applied := createOrUpdateService_spec result
          refine ih ?_
          by_cases same : key = svc.objectKey
          · obtain ⟨own, found, _⟩ := applied.own
            rw [same]
            exact Finmap.mem_of_lookup_eq_some found
          · rw [← Finmap.lookup_isSome, applied.other key same]
            exact Finmap.lookup_isSome.mpr present

theorem mem_replicateServices (env : ResourceEnv) {store : ServiceStore}
    (resource : TenantResource) {key : ObjectKey} (present : key ∈ store) :
    key ∈ replicateServices env store resource := by
  unfold replicateServices
  split
  · exact present
  · split
    · exact present
    · exact mem_writtenReplicas present

section
variable (r : ResourceReconciler) (env : ResourceEnv)

structure ReachesCleanup (resource : TenantResource) : Prop where
  read : env.get = none
  deleted : resource.deletionTimestamp = true
  finalizer : cleanupFinalizer ∈ resource.finalizers

structure Adopts (resource : TenantResource) : Prop where
  read : env.get = none
  alive : resource.deletionTimestamp = false
  managed : managed r resource = true
  unmarked : cleanupFinalizer ∉ resource.finalizers
  written : env.update = none

theorem reconcileResource_cases (store : ServiceStore) (resource : TenantResource) :
    (ReachesCleanup env resource ∧
      reconcileResource r env store resource = cleanupResource env store resource) ∨
    (¬ ReachesCleanup env resource ∧
      (∀ key ∈ store, key ∈ (reconcileResource r env store resource).1) ∧
      (Adopts r env resource ∧ (reconcileResource r env store resource).2 =
          { resource with finalizers := addFinalizer resource.finalizers cleanupFinalizer } ∨
        ¬ Adopts r env resource ∧ (reconcileResource r env store resource).2 = resource)) := by
  unfold reconcileResource
  by_cases read : env.get = none
  · by_cases deleted : resource.deletionTimestamp = true
    · by_cases finalizer : cleanupFinalizer ∈ resource.finalizers
      · refine Or.inl ⟨⟨read, deleted, finalizer⟩, ?_⟩
        simp [read, deleted, finalizer]
      · refine Or.inr ⟨fun reached => finalizer reached.finalizer, ?_⟩
        simp only [read, deleted, finalizer]
        refine ⟨fun _ present => present, Or.inr ⟨fun adopts => ?_, rfl⟩⟩
        cases deleted.symm.trans adopts.alive
    · refine Or.inr ⟨fun reached => deleted reached.deleted, ?_⟩
      by_cases mine : managed r resource = true
      · by_cases finalizer : cleanupFinalizer ∈ resource.finalizers
        · simp only [read, deleted, mine, finalizer]
          exact ⟨fun _ present => mem_replicateServices env _ present,
            Or.inr ⟨fun adopts => adopts.unmarked finalizer, rfl⟩⟩
        · by_cases written : env.update = none
          · simp only [read, deleted, mine, finalizer, written]
            exact ⟨fun _ present => mem_replicateServices env _ present,
              Or.inl ⟨⟨read, by simpa using deleted, mine, finalizer, written⟩, rfl⟩⟩
          · have refused : env.update.isSome := Option.isSome_iff_ne_none.mpr written
            simp only [read, deleted, mine, finalizer, refused]
            exact ⟨fun _ present => present,
              Or.inr ⟨fun adopts => written adopts.written, rfl⟩⟩
      · simp only [read, deleted, mine]
        exact ⟨fun _ present => present, Or.inr ⟨fun adopts => mine adopts.managed, rfl⟩⟩
  · have failed : env.get.isSome := Option.isSome_iff_ne_none.mpr read
    simp only [failed]
    exact Or.inr ⟨fun reached => read reached.read, fun _ present => present,
      Or.inr ⟨fun adopts => read adopts.read, rfl⟩⟩

end

end KubeLB.Ccm
