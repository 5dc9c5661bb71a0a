import KubeLB.Ccm.CopyRequests

/-!
The LoadBalancers of the Services of a tenant cluster, over all interleavings of the
requests of KubeLBServiceReconciler with the tenant and the manager.

What a reconcile writes to the status of the Service is one of the edits.
-/

namespace KubeLB.Ccm
open FiniteMap Runs Informer KubeObject

/-- KubeLBServiceReconciler. An object with the finalizer of an older release is
cleaned up too, and loses it when it is adopted. -/
def serviceReplicator (r : ServiceReconciler) : Replicator Service LoadBalancer Unit where
  managed := shouldReconcile r
  cleans finalizers := cleanupFinalizer ∈ finalizers ∨ lbFinalizerName ∈ finalizers
  adopt finalizers := removeFinalizer (addFinalizer finalizers cleanupFinalizer) lbFinalizerName
  release finalizers := removeFinalizer (removeFinalizer finalizers lbFinalizerName)
    cleanupFinalizer
  desired service _ := desiredLoadBalancer r service
  revise service _ actual :=
    if loadBalancerIsDesiredState actual (desiredLoadBalancer r service)
        (mappedAnnotations service) then none
    else some (respecified r service actual)
  looksFirst := false
  mem_adopt finalizers := by
    have kept : cleanupFinalizer ≠ lbFinalizerName := by decide
    simp [removeFinalizer, kept, mem_addFinalizer]

def enqueueLoadBalancer (r : ServiceReconciler) (lb : LoadBalancer) : List ObjectKey :=
  if lb.ns ≠ r.clusterName then []
  else if lb.spec.type ≠ .loadBalancer then []
  else
    let originalNamespace := (lb.labels.lookup labelOriginNamespace).getD ""
    let originalName := (lb.labels.lookup labelOriginName).getD ""
    if originalNamespace = "" then []
    else if originalName = "" then []
    else [⟨originalNamespace, originalName⟩]

/-- What the manager leaves of a LoadBalancer when it writes its status and its
finalizers. -/
structure KeepsOrigin (old written : LoadBalancer) : Prop where
  ns : written.ns = old.ns
  labels : written.labels = old.labels
  type : written.spec.type = old.spec.type

theorem enqueueLoadBalancer_congr (r : ServiceReconciler) {old written : LoadBalancer}
    (keeps : KeepsOrigin old written) :
    enqueueLoadBalancer r written = enqueueLoadBalancer r old := by
  simp only [enqueueLoadBalancer, keeps.ns, keeps.labels, keeps.type]

/-- The key is read from the labels of a LoadBalancer of the tenant. -/
theorem enqueueLoadBalancer_eq_iff (r : ServiceReconciler) (lb : LoadBalancer) (key : ObjectKey) :
    enqueueLoadBalancer r lb = [key] ↔ lb.ns = r.clusterName ∧ lb.spec.type = .loadBalancer ∧
      (lb.labels.lookup labelOriginNamespace).getD "" = key.ns ∧
      (lb.labels.lookup labelOriginName).getD "" = key.name ∧ key.ns ≠ "" ∧ key.name ≠ "" := by
  obtain ⟨ns, name⟩ := key
  simp only [enqueueLoadBalancer]
  split_ifs with foreign other noNamespace noName
  · simp [foreign]
  · simp [other]
  · grind
  · grind
  · grind

theorem enqueueLoadBalancer_desired (r : ServiceReconciler) {service : Service}
    (balanced : service.type = .loadBalancer) (ns : service.ns ≠ "") (name : service.name ≠ "") :
    enqueueLoadBalancer r (desiredLoadBalancer r service) = [service.objectKey] := by
  have distinct : ([(labelOriginNamespace, service.ns), (labelOriginName, service.name),
      (labelTenantName, r.clusterName)].map Prod.fst).Nodup := by
    simp [labelOriginNamespace, labelOriginName, labelTenantName]
  have originNs : (desiredLoadBalancer r service).labels.lookup labelOriginNamespace =
      some service.ns := lookup_insertAll_of_mem _ _ distinct _ _ (by simp)
  have originName : (desiredLoadBalancer r service).labels.lookup labelOriginName =
      some service.name := lookup_insertAll_of_mem _ _ distinct _ _ (by simp)
  refine (enqueueLoadBalancer_eq_iff r _ _).mpr ⟨rfl, balanced, ?_, ?_, ns, name⟩
  · rw [originNs]
    rfl
  · rw [originName]
    rfl

theorem serviceReplicator_leadsBack (r : ServiceReconciler) :
    LeadsBack (serviceReplicator r) (enqueueLoadBalancer r) where
  desired service _ managed ns name :=
    enqueueLoadBalancer_desired r (type_of_shouldReconcile (ne_false_of_eq_true managed)) ns name
  revised service _ actual revised key differs leads made := by
    -- the labels are those of the LoadBalancer found, the type is that of the Service
    simp only [serviceReplicator] at differs made
    split at differs
    · cases differs
    · cases differs
      obtain ⟨ns, _, labels⟩ := (enqueueLoadBalancer_eq_iff r actual key).mp leads
      obtain ⟨_, type, _⟩ := (enqueueLoadBalancer_eq_iff r _ key).mp made
      exact (enqueueLoadBalancer_eq_iff r _ key).mpr ⟨ns, type, labels⟩
  deletion lb deleted := enqueueLoadBalancer_congr r ⟨rfl, rfl, rfl⟩
  marked service managed := managed

/-- The tenant keeps the finalizer of the CCM on its Services, and the manager the
labels and the type of the LoadBalancers. -/
def serviceTerms : Terms Service LoadBalancer where
  edits old edited := cleanupFinalizer ∈ old.finalizers → cleanupFinalizer ∈ edited.finalizers
  reports _ := KeepsOrigin
  misses _ := False

theorem serviceTerms_guarding : Guarding serviceTerms where
  edits _ _ kept := kept
  misses _ missed := missed.elim

/-- In every interleaving a LoadBalancer that is not being deleted has a Service with
its UID that still carries the finalizer, and it is this Service that its events
queue. Deleting a Service therefore always deletes its LoadBalancer first. -/
theorem loadBalancers_lead_to_services (r : ServiceReconciler)
    {actions : List (WorldAction Service LoadBalancer Unit)}
    (meets : EachStep (worldStep (serviceReplicator r)) {} actions fun world action _ =>
      Meets (serviceReplicator r) serviceTerms world action) :
    Throughout (worldStep (serviceReplicator r)) {} actions fun world => ∀ uid lb,
      (world.copies uid).present = some lb → lb.deletionTimestamp = false →
      ∃ key service, enqueueLoadBalancer r lb = [key] ∧
        (world.objects key).present = some service ∧ service.uid = uid ∧
        cleanupFinalizer ∈ service.finalizers := by
  have back := copies_lead_back (serviceReplicator_leadsBack r) serviceTerms_guarding
    (fun _ _ _ keeps => enqueueLoadBalancer_congr r keeps) meets
  intro before world small reached uid lb present alive
  obtain ⟨key, service, leads, isPresent, holds⟩ :=
    back before world small reached uid lb present alive
  exact ⟨key, service, leads, isPresent, holds.uid, holds.held⟩

/-- A Service is created and reconciled, and its LoadBalancer leads back to it. -/
theorem loadBalancers_lead_to_services_created :
    let r : ServiceReconciler := { clusterName := "tenant-a" }
    let web : Service := { name := "web", ns := "default", uid := "u-1", type := .loadBalancer }
    ∃ world key service, run (worldStep (serviceReplicator r)) {}
        [.create web.objectKey web, .deliver web.objectKey, .get web.objectKey, .call () false,
          .call () false] = some world ∧
      (world.objects key).present = some service ∧ service.uid = "u-1" ∧
        cleanupFinalizer ∈ service.finalizers := by
  intro r web
  have meets : EachStep (worldStep (serviceReplicator r)) {}
      [.create web.objectKey web, .deliver web.objectKey, .get web.objectKey, .call () false,
        .call () false] fun world action _ =>
          Meets (serviceReplicator r) serviceTerms world action := by
    intro before action world after small _ _
    have listed := small.subset (List.mem_append_right before (List.mem_singleton_self action))
    simp only [List.mem_cons, List.not_mem_nil, or_false] at listed
    rcases listed with rfl | rfl | rfl | rfl | rfl
    all_goals simp [Meets, serviceReplicator]
  obtain ⟨key, service, _, present, uid, held⟩ :=
    loadBalancers_lead_to_services r meets _ _ List.prefix_rfl rfl "u-1" _ rfl rfl
  exact ⟨_, key, service, rfl, present, uid, held⟩

end KubeLB.Ccm
