import KubeLB.Foundation.Ledger
import KubeLB.Foundation.Runs
import KubeLB.LoadBalancer.Effects

/-!
What is left of a LoadBalancer after load balancing has been disabled.

A reconcile puts the Service where the topology says and the Ingress or the HTTPRoute
of the hostname into the namespace of the LoadBalancer. Cleanup looks for all of them
where the topology says, and it asks for the deletion of both resources of a hostname,
whichever was created: a manager without the Gateway API fails there, each time, before
it comes to the Service. The LoadBalancer stays, so nothing else collects what cleanup
does not delete.
-/

namespace KubeLB
open FiniteMap Program Runs

/-- The objects, and which of them the reconciles of the LoadBalancer have created. -/
structure TrackedWorld where
  world : LoadBalancerWorld
  created : Finset ObjectId := ∅

def TrackedWorld.next (state : TrackedWorld) (after : LoadBalancerWorld) : TrackedWorld where
  world := after
  created := Ledger.update state.created state.world.objects after.objects

inductive DisablingAction
  | edit (spec : LoadBalancerSpec) (annotations : FiniteMap String String)
  | reconcile (env : LoadBalancerEnv)

def disablingStep (o : ManagerOptions) (state : TrackedWorld) :
    DisablingAction → Option TrackedWorld
  | .edit spec annotations =>
      some { state with world := { state.world with
        lb := { state.world.lb with spec := spec, annotations := annotations } } }
  | .reconcile env =>
      (reconcileLoadBalancer o env state.world).map fun result => state.next result.2

/-- The reconcile comes to cleanup, because the LoadBalancer is being deleted or load
balancing is disabled, and the API server refuses none of its requests. -/
structure CleansUp (o : ManagerOptions) (env : LoadBalancerEnv) (lb : LoadBalancer) : Prop where
  got : env.get = none
  endpoints : lb.spec.endpoints ≠ []
  listed : env.list = none
  cause : (lb.deletionTimestamp = true ∧ ∃ finalizer ∈ cleanupFinalizers,
      finalizer ∈ lb.finalizers) ∨
    (lb.deletionTimestamp = false ∧ cleanupFinalizer ∈ lb.finalizers ∧ ∃ tenant config,
      env.tenantAndConfig = .ok (tenant, config) ∧
      (config.loadBalancerDisable || tenant.loadBalancerDisable) = true)
  ingress : env.ingresses.delete (hostnameIngressKey (resourceNamespace o lb) lb) = none
  httpRoute : env.httpRoutes.delete (hostnameHTTPRouteKey (resourceNamespace o lb) lb) = none
  service : env.services.delete (loadBalancerServiceKey o.topology o.ns lb) = none
  update : env.update = none

def DeletesCreated (o : ManagerOptions) (before : TrackedWorld) (action : DisablingAction)
    (after : TrackedWorld) : Prop :=
  match action with
  | .reconcile env => CleansUp o env before.world.lb →
      before.created = before.world.objects \ after.world.objects
  | .edit _ _ => True

/-- The objects that a cleanup comes to. Without the Gateway API it ends at the Delete of
the HTTPRoute, if there is one to be made. -/
def reached (o : ManagerOptions) (env : LoadBalancerEnv) (lb : LoadBalancer) : Finset ObjectId :=
  if hostnameCleanupFinalizer ∈ lb.finalizers ∧ env.enableGatewayAPI = false then
    {⟨.ingress, hostnameIngressKey (resourceNamespace o lb) lb⟩}
  else addressed o lb

/-- A cleanup finds no resource of a hostname created, unless they are created where it
looks for them; it knows HTTPRoutes, unless it has none to delete or has created nothing
but an Ingress; and it finds no object of somebody else under the names it deletes. -/
structure FindsOwn (o : ManagerOptions) (env : LoadBalancerEnv) (state : TrackedWorld) : Prop where
  found : ∀ object ∈ state.created, object.kind ≠ .service →
    resourceNamespace o state.world.lb = state.world.lb.ns
  known : ∀ object ∈ state.created, object.kind ≠ .ingress →
    hostnameCleanupFinalizer ∈ state.world.lb.finalizers → env.enableGatewayAPI = true
  own : ∀ object ∈ reached o env state.world.lb,
    object ∈ state.world.objects → object ∈ state.created

def CleanupFindsOwn (o : ManagerOptions) (before : TrackedWorld) (action : DisablingAction) :
    Prop :=
  match action with
  | .reconcile env => CleansUp o env before.world.lb → FindsOwn o env before
  | .edit _ _ => True

/-- What holds of the created objects between reconciles. The finalizer guards those
of the hostname only where cleanup finds them. -/
structure Owned (o : ManagerOptions) (state : TrackedWorld) : Prop where
  present : state.created ⊆ state.world.objects
  own : state.created ⊆ creatable o state.world.lb
  behind : resourceNamespace o state.world.lb = state.world.lb.ns →
    ∀ object ∈ state.created, object.kind ≠ .service →
      hostnameCleanupFinalizer ∈ state.world.lb.finalizers

section
variable {o : ManagerOptions} {state : TrackedWorld} {after : LoadBalancerWorld}

theorem creatable_congr {lb lb' : LoadBalancer} (name : lb'.name = lb.name)
    (ns : lb'.ns = lb.ns) : creatable o lb' = creatable o lb := by
  unfold creatable loadBalancerServiceKey hostnameIngressKey hostnameHTTPRouteKey
  rw [name, ns]

theorem resourceNamespace_congr {lb lb' : LoadBalancer} (ns : lb'.ns = lb.ns) :
    resourceNamespace o lb' = resourceNamespace o lb := by
  unfold resourceNamespace
  rw [ns]

theorem Owned.of_grows (owned : Owned o state) (grows : Grows o state.world.lb state.world after) :
    Owned o (state.next after) where
  present := Ledger.update_subset
  own := by
    intro object held
    obtain ⟨present, old | new⟩ := Ledger.mem_update.mp held
    · exact (creatable_congr grows.name grows.ns).symm ▸ owned.own old
    · obtain older | ⟨own, _⟩ := grows.new object present
      · exact absurd older new
      · exact (creatable_congr grows.name grows.ns).symm ▸ own
  behind := by
    intro found object held notService
    have foundBefore : resourceNamespace o state.world.lb = state.world.lb.ns := by
      rw [← resourceNamespace_congr grows.ns, ← grows.ns]
      exact found
    obtain ⟨present, old | new⟩ := Ledger.mem_update.mp held
    · exact grows.marked (owned.behind foundBefore object old notService)
    · obtain older | ⟨_, behind⟩ := grows.new object present
      · exact absurd older new
      · exact behind notService

theorem Owned.of_fewer (owned : Owned o state) (sameLb : after.lb = state.world.lb)
    (fewer : after.objects ⊆ state.world.objects) : Owned o (state.next after) where
  present := Ledger.update_subset
  own := by
    intro object held
    have own := owned.own ((Ledger.mem_update_of_subset fewer).mp held).1
    rw [← sameLb] at own
    exact own
  behind := by
    intro found object held
    have behind := owned.behind
    rw [← sameLb] at behind
    exact behind found object ((Ledger.mem_update_of_subset fewer).mp held).1

/-- The created objects that a cleanup addresses: the Service, and those of the
hostname where it looks for them. -/
theorem Owned.mem_addressed_iff (owned : Owned o state) {object : ObjectId}
    (created : object ∈ state.created) :
    object ∈ addressed o state.world.lb ↔
      (object.kind ≠ .service → resourceNamespace o state.world.lb = state.world.lb.ns) := by
  have own := owned.own created
  have behind := fun found => owned.behind found object created
  obtain ⟨kind, key⟩ := object
  by_cases marked : hostnameCleanupFinalizer ∈ state.world.lb.finalizers
  · cases kind with
    | service => simp_all [creatable, addressed]
    | ingress => simp_all [creatable, addressed, hostnameIngressKey, eq_comm]
    | httpRoute => simp_all [creatable, addressed, hostnameHTTPRouteKey, eq_comm]
  · cases kind with
    | service => simp_all [creatable, addressed]
    | ingress => simp_all [addressed]
    | httpRoute => simp_all [addressed]

theorem Owned.of_removes (owned : Owned o state) (removes : Removes o state.world after) :
    Owned o (state.next after) where
  present := Ledger.update_subset
  own := by
    intro object held
    have fewer := removes.objects.trans_subset Finset.sdiff_subset
    rw [TrackedWorld.next, creatable_congr removes.name removes.ns]
    exact owned.own ((Ledger.mem_update_of_subset fewer).mp held).1
  behind := by
    -- Where cleanup looks in the right namespace no created object of the hostname is left.
    intro found object held _
    have foundBefore : resourceNamespace o state.world.lb = state.world.lb.ns := by
      rw [← resourceNamespace_congr removes.ns, ← removes.ns]
      exact found
    have fewer := removes.objects.trans_subset Finset.sdiff_subset
    obtain ⟨created, left⟩ := (Ledger.mem_update_of_subset fewer).mp held
    rw [removes.objects, Finset.mem_sdiff] at left
    exact absurd ((owned.mem_addressed_iff created).mpr fun _ => foundBefore) left.2

theorem disablingStep_owned {action : DisablingAction} {state' : TrackedWorld}
    (owned : Owned o state) (taken : disablingStep o state action = some state') :
    Owned o state' := by
  cases action with
  | edit spec annotations =>
      rw [← Option.some.inj taken]
      exact ⟨owned.present, owned.own, owned.behind⟩
  | reconcile env =>
      obtain ⟨⟨outcome, after⟩, ran, rfl⟩ := Option.map_eq_some_iff.mp taken
      refine reconcileLoadBalancer_effect.elim ran ?_ ?_
      · rintro result (⟨_, grows⟩ | ⟨_, removes⟩)
        · exact owned.of_grows grows
        · exact owned.of_removes removes
      · rintro (grows | ⟨sameLb, fewer⟩)
        · exact owned.of_grows grows
        · exact owned.of_fewer sameLb fewer

theorem cleanup_of_cleansUp {env : LoadBalancerEnv} {world : LoadBalancerWorld}
    (cleans : CleansUp o env world.lb) :
    reconcileLoadBalancer o env world = cleanupLoadBalancer o env world.lb world := by
  have goes : ¬ (env.get.isSome = true ∨ world.lb.spec.endpoints = []) := by
    simp [cleans.got, cleans.endpoints]
  rw [reconcileLoadBalancer, read_bind, if_neg goes, cleans.listed, attempt_none_bind]
  obtain ⟨deleted, finalizer⟩ | ⟨alive, finalizer, tenant, config, given, disabled⟩ := cleans.cause
  · rw [if_pos deleted, if_pos finalizer]
  · rw [if_neg (by rw [alive]; exact Bool.false_ne_true), given, ofExcept_ok_bind]
    simp only [disabled, if_true, if_pos finalizer]

/-- A cleanup that has an HTTPRoute to delete and does not know the type stops there. -/
theorem cleanup_unknown {env : LoadBalancerEnv} {world : LoadBalancerWorld}
    (cleans : CleansUp o env world.lb)
    (marked : hostnameCleanupFinalizer ∈ world.lb.finalizers)
    (unknown : env.enableGatewayAPI = false) :
    ∃ err allocator, cleanupLoadBalancer o env world.lb world = some (.error err, { world with
      ingresses := world.ingresses.erase
        (hostnameIngressKey (resourceNamespace o world.lb) world.lb)
      allocator := allocator }) := by
  rw [cleanupLoadBalancer, write_bind, cleanupMarkedHostname, if_pos marked,
    cleanupHostnameResources, bind_bind]
  simp only [cleans.ingress, Option.map_none, attempt_none_bind, bind_bind, write_bind,
    LoadBalancerEnv.httpRouteFaults, unknown]
  exact ⟨_, _, rfl⟩

theorem cleanup_succeeds {env : LoadBalancerEnv} {world : LoadBalancerWorld}
    (cleans : CleansUp o env world.lb)
    (knows : hostnameCleanupFinalizer ∈ world.lb.finalizers → env.enableGatewayAPI = true) :
    ∃ after, cleanupLoadBalancer o env world.lb world = some (.ok .cleanedUp, after) := by
  by_cases marked : hostnameCleanupFinalizer ∈ world.lb.finalizers
  · rw [cleanupLoadBalancer, write_bind, cleanupMarkedHostname, if_pos marked,
      cleanupHostnameResources, bind_bind]
    simp only [cleans.ingress, cleans.httpRoute, cleans.service, cleans.update, Option.map_none,
      attempt_none_bind, bind_bind, write_bind, LoadBalancerEnv.httpRouteFaults, knows marked,
      if_true]
    exact ⟨_, rfl⟩
  · rw [cleanupLoadBalancer, write_bind, cleanupMarkedHostname, if_neg marked]
    simp only [cleans.service, cleans.update, Option.map_none]
    exact ⟨_, rfl⟩

/-- What a cleanup takes out of the set of objects, whether it gets through or not. -/
theorem objects_of_cleansUp {env : LoadBalancerEnv} {world : LoadBalancerWorld}
    (cleans : CleansUp o env world.lb) {outcome : Except String LoadBalancerResult}
    (ran : reconcileLoadBalancer o env world = some (outcome, after)) :
    after.objects = world.objects \ reached o env world.lb := by
  by_cases stuck : hostnameCleanupFinalizer ∈ world.lb.finalizers ∧ env.enableGatewayAPI = false
  · obtain ⟨err, allocator, failed⟩ := cleanup_unknown cleans stuck.1 stuck.2
    rw [cleanup_of_cleansUp cleans, failed] at ran
    cases ran
    rw [reached, if_pos stuck]
    ext ⟨kind, key⟩
    cases kind with
    | service => simp
    | ingress => simp [Finmap.mem_erase, and_comm]
    | httpRoute => simp
  · have knows : hostnameCleanupFinalizer ∈ world.lb.finalizers → env.enableGatewayAPI = true :=
      fun marked => Bool.eq_true_of_not_eq_false fun unknown => stuck ⟨marked, unknown⟩
    obtain ⟨after', returned⟩ := cleanup_succeeds cleans knows
    rw [← cleanup_of_cleansUp cleans] at returned
    cases ran.symm.trans returned
    obtain ⟨other, _⟩ | ⟨_, removes⟩ := reconcileLoadBalancer_effect.of_ok returned
    · exact absurd rfl other
    · rw [reached, if_neg stuck]
      exact removes.objects

theorem Owned.mem_reached_iff (owned : Owned o state) (env : LoadBalancerEnv) {object : ObjectId}
    (created : object ∈ state.created) :
    object ∈ reached o env state.world.lb ↔
      (object.kind ≠ .service → resourceNamespace o state.world.lb = state.world.lb.ns) ∧
      (object.kind ≠ .ingress → hostnameCleanupFinalizer ∈ state.world.lb.finalizers →
        env.enableGatewayAPI = true) := by
  rw [reached]
  split
  · rename_i stuck
    have own := owned.own created
    obtain ⟨kind, key⟩ := object
    cases kind with
    | service => simp [stuck]
    | ingress =>
        have address : key = hostnameIngressKey state.world.lb.ns state.world.lb := by
          simpa [creatable] using own
        simpa [address, hostnameIngressKey] using eq_comm
    | httpRoute => simp [stuck]
  · rename_i free
    have knows : hostnameCleanupFinalizer ∈ state.world.lb.finalizers →
        env.enableGatewayAPI = true :=
      fun marked => Bool.eq_true_of_not_eq_false fun unknown => free ⟨marked, unknown⟩
    rw [owned.mem_addressed_iff created]
    exact ⟨fun found => ⟨found, fun _ => knows⟩, And.left⟩

/-- One cleanup deletes the created objects exactly if it finds its own. -/
theorem Owned.deletesCreated_iff {action : DisablingAction} {state' : TrackedWorld}
    (owned : Owned o state) (taken : disablingStep o state action = some state') :
    DeletesCreated o state action state' ↔ CleanupFindsOwn o state action := by
  cases action with
  | edit spec annotations => exact Iff.rfl
  | reconcile env =>
      obtain ⟨⟨outcome, after⟩, ran, rfl⟩ := Option.map_eq_some_iff.mp taken
      refine forall_congr' fun cleans => ?_
      change state.created = state.world.objects \ after.objects ↔ _
      rw [objects_of_cleansUp cleans ran, sdiff_sdiff_right_self]
      constructor
      · intro same
        have comesTo (object : ObjectId) (created : object ∈ state.created) :=
          (owned.mem_reached_iff env created).mp (Finset.mem_inter.mp (same ▸ created)).2
        refine ⟨fun object created => (comesTo object created).1,
          fun object created => (comesTo object created).2, fun object address present => ?_⟩
        exact same ▸ Finset.mem_inter.mpr ⟨present, address⟩
      · intro finds
        refine subset_antisymm (fun object created => ?_) fun object held => ?_
        · exact Finset.mem_inter.mpr ⟨owned.present created, (owned.mem_reached_iff env created).mpr
            ⟨finds.found object created, finds.known object created⟩⟩
        · obtain ⟨present, address⟩ := Finset.mem_inter.mp held
          exact finds.own object address present

/-- In a run of reconciles and edits, every cleanup deletes what the reconciles had
created and nothing else exactly when none of them comes after resources of a hostname
that were created where it does not look, or has to delete an HTTPRoute without the
Gateway API, or finds objects of somebody else. -/
theorem cleanup_deletes_created_iff (o : ManagerOptions) (world : LoadBalancerWorld)
    (actions : List DisablingAction) :
    EachStep (disablingStep o) { world := world } actions (DeletesCreated o) ↔
      EachStep (disablingStep o) { world := world } actions
        (fun before action _ => CleanupFindsOwn o before action) := by
  have start : Owned o { world := world } := ⟨by simp, by simp, by simp⟩
  have owned : Throughout (disablingStep o) { world := world } actions (Owned o) :=
    throughout_of_step start (fun _ _ _ owned taken => disablingStep_owned owned taken) actions
  exact eachStep_congr owned fun _ _ _ owned taken => owned.deletesCreated_iff taken

private def blogWorld : LoadBalancerWorld where
  lb :=
    { name := "blog", ns := "tenant-a"
      spec :=
        { hostname := "blog.example.com", type := .loadBalancer
          ports := [{ name := "http", port := 80, protocol := .tcp }]
          endpoints := [{ ports := [{ name := "http", port := 30080, protocol := .tcp }] }] } }
  services := ∅
  ingresses := ∅
  httpRoutes := ∅
  allocator := newPortAllocator

private def blogEnv (disabled enableGatewayAPI : Bool) : LoadBalancerEnv where
  tenantAndConfig := .ok ({},
    { dns := { allowExplicitHostnames := true }, loadBalancerDisable := disabled })
  enableGatewayAPI := enableGatewayAPI

/-- In the global topology cleanup looks for the Ingress of the hostname in the
namespace of the manager: the finalizers go, and the Ingress stays. In the shared one,
with a manager as it is started by default, it deletes the Ingress, fails to delete an
HTTPRoute that was never there, and the Service stays. -/
theorem disabled_hostname_objects_stay :
    let left (topology : EnvoyProxyTopology) (enableGatewayAPI : Bool) :=
      (run (disablingStep { ns := "kubelb", topology := topology }) { world := blogWorld }
          [.reconcile (blogEnv false enableGatewayAPI),
            .reconcile (blogEnv true enableGatewayAPI)]).map
        fun state => (state.created, state.world.lb.finalizers)
    left .global true = some ({⟨.ingress, ⟨"tenant-a", "blog-ingress"⟩⟩}, []) ∧
      left .shared false = some ({⟨.service, ⟨"tenant-a", "envoy-blog"⟩⟩},
        [cleanupFinalizer, hostnameCleanupFinalizer]) := by
  decide

end

end KubeLB
