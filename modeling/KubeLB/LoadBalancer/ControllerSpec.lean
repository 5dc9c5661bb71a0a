import KubeLB.LoadBalancer.Controller
import KubeLB.Manager.Ports

/-!
What the parts of a LoadBalancer reconcile do to the objects, each as one statement
for the case that it returns and for the case of an error.
-/

namespace KubeLB
open FiniteMap Program

def chosenHostname (env : LoadBalancerEnv) (lb : LoadBalancer) (tenant : TenantSpec)
    (config : ConfigSpec) : String :=
  if recordedHostname lb ≠ "" then recordedHostname lb else newHostname env lb tenant config

structure NoNewObjects (before after : LoadBalancerWorld) : Prop where
  services : ∀ key, key ∈ after.services → key ∈ before.services
  ingresses : ∀ key, key ∈ after.ingresses → key ∈ before.ingresses
  httpRoutes : ∀ key, key ∈ after.httpRoutes → key ∈ before.httpRoutes

theorem NoNewObjects.rfl {world : LoadBalancerWorld} : NoNewObjects world world :=
  ⟨fun _ => id, fun _ => id, fun _ => id⟩

/-- The resources of the hostname are removed if their finalizer is there. -/
def withoutHostnameResources (world : LoadBalancerWorld) (lb : LoadBalancer) (ns : String) :
    LoadBalancerWorld :=
  if hostnameCleanupFinalizer ∈ lb.finalizers then
    { world with
      ingresses := world.ingresses.erase (hostnameIngressKey ns lb)
      httpRoutes := world.httpRoutes.erase (hostnameHTTPRouteKey ns lb) }
  else world

theorem withoutHostnameResources_spec (world : LoadBalancerWorld) (lb : LoadBalancer)
    (ns : String) :
    (withoutHostnameResources world lb ns).lb = world.lb ∧
      (withoutHostnameResources world lb ns).services = world.services ∧
      NoNewObjects world (withoutHostnameResources world lb ns) := by
  unfold withoutHostnameResources
  split
  · exact ⟨rfl, rfl, fun _ => id, fun _ held => (Finmap.mem_erase.mp held).2,
      fun _ held => (Finmap.mem_erase.mp held).2⟩
  · exact ⟨rfl, rfl, .rfl⟩

structure ServiceApplied (key : ObjectKey) (before after : ServiceStore) : Prop where
  present : key ∈ after
  others : ∀ other, other ≠ key → after.lookup other = before.lookup other

theorem ServiceApplied.of_reconcileService {faults : ApiFaults} {admission : Admission}
    {store store' : ServiceStore} {lb : LoadBalancer} {key : ObjectKey} {appName : String}
    {pa : PortAllocator} {className : Option String} {annotations : AnnotationSettings}
    (returned : reconcileService faults admission store lb key appName pa className annotations =
      some (.ok store')) : ServiceApplied key store store' := by
  obtain ⟨others, _, _, _, _, found, _⟩ := reconcileService_spec returned
  exact ⟨Finmap.mem_of_lookup_eq_some found, others⟩

section
variable {o : ManagerOptions} {env : LoadBalancerEnv} {world : LoadBalancerWorld}
  {lb : LoadBalancer} {tenant : TenantSpec} {config : ConfigSpec}

theorem createForHostname_spec {α : Type} [DecidableEq α] {kind : String} {faults : ApiFaults}
    {key : ObjectKey} {existing : Option (ObjectMeta × α)} {desired stored : ObjectMeta × α}
    (returned : createForHostname kind faults key existing desired = .ok stored) :
    stored.2 = desired.2 := by
  unfold createForHostname at returned
  split at returned
  · cases returned
  · split at returned
    · cases returned
    · cases returned
      rfl
  · rename_i object spec _ _
    simp only at returned
    split at returned
    · split at returned
      · cases returned
      · cases returned
        rfl
    · rename_i same
      cases returned
      simp only [ne_eq, not_or, not_not] at same
      exact same.1

theorem createIngressForHostname_spec (svcName hostname : String)
    (settings : AnnotationSettings) :
    Ensures world (createIngressForHostname env lb svcName hostname tenant config settings)
      (fun _ after => ∃ ingress : Ingress,
        after = { world with
          ingresses := world.ingresses.insert (hostnameIngressKey lb.ns lb) ingress } ∧
        ingress.spec.rules.map IngressRule.host = [hostname])
      (· = world) := by
  simp only [createIngressForHostname, ensures_bind, ensures_ofOption, ensures_read,
    ensures_ofExcept, ensures_write]
  intro port _
  refine ⟨fun stored returned => ⟨_, rfl, ?_⟩, fun _ _ => True.intro⟩
  rw [createForHostname_spec returned]
  rfl

theorem createHTTPRouteForHostname_spec (svcName hostname : String)
    (settings : AnnotationSettings) :
    Ensures world (createHTTPRouteForHostname env lb svcName hostname tenant config settings)
      (fun _ after => ∃ route : HTTPRoute,
        after = { world with
          httpRoutes := world.httpRoutes.insert (hostnameHTTPRouteKey lb.ns lb) route } ∧
        route.spec.hostnames = [hostname])
      (· = world) := by
  unfold createHTTPRouteForHostname
  split
  · simp
  · simp only [ensures_bind, ensures_ofOption, ensures_read, ensures_ofExcept, ensures_write]
    intro port _
    refine ⟨fun stored returned => ⟨_, rfl, ?_⟩, fun _ _ => True.intro⟩
    rw [createForHostname_spec returned]
    rfl

/-- The last part of configureHostname: the one resource, or an error and nothing. -/
theorem hostnameResource_spec (svcName hostname : String) (settings : AnnotationSettings) :
    Ensures world
      (if useGatewayAPI tenant config then do
        createHTTPRouteForHostname env lb svcName hostname tenant config settings
        return (hostname, lb)
      else do
        createIngressForHostname env lb svcName hostname tenant config settings
        return (hostname, lb))
      (fun result after => result = (hostname, lb) ∧
        ((useGatewayAPI tenant config = true ∧ ∃ route : HTTPRoute,
          after = { world with
            httpRoutes := world.httpRoutes.insert (hostnameHTTPRouteKey lb.ns lb) route } ∧
          route.spec.hostnames = [hostname]) ∨
        (useGatewayAPI tenant config = false ∧ ∃ ingress : Ingress,
          after = { world with
            ingresses := world.ingresses.insert (hostnameIngressKey lb.ns lb) ingress } ∧
          ingress.spec.rules.map IngressRule.host = [hostname])))
      (· = world) := by
  split
  · rename_i gateway
    refine (createHTTPRouteForHostname_spec svcName hostname settings).bind ?_ fun _ same => same
    intro _ _ written
    exact ⟨rfl, Or.inl ⟨gateway, written⟩⟩
  · rename_i noGateway
    refine (createIngressForHostname_spec svcName hostname settings).bind ?_ fun _ same => same
    intro _ _ written
    exact ⟨rfl, Or.inr ⟨Bool.eq_false_iff.mpr noGateway, written⟩⟩

theorem recordHostname_spec (synced : world.lb.status = lb.status) :
    Ensures world (recordHostname env lb tenant config)
      (fun result after => result.1 = chosenHostname env lb tenant config ∧
        recordedHostname result.2 = result.1 ∧
        result.2 = { lb with status := result.2.status } ∧
        (recordedHostname lb ≠ "" → result.2 = lb) ∧
        after = { world with lb := { world.lb with status := result.2.status } })
      (· = world) := by
  have same : world = { world with lb := { world.lb with status := lb.status } } := by
    rw [← synced]
  unfold recordHostname chosenHostname
  by_cases recorded : recordedHostname lb = ""
  · rw [if_neg (not_not.mpr recorded), if_neg (not_not.mpr recorded)]
    by_cases empty : newHostname env lb tenant config = ""
    · rw [if_pos empty]
      exact ⟨empty.symm, recorded, rfl, fun _ => rfl, same⟩
    · rw [if_neg empty]
      exact Ensures.attempt rfl ⟨rfl, rfl, rfl, fun before => absurd recorded before, rfl⟩
  · rw [if_pos recorded, if_pos recorded]
    exact ⟨rfl, rfl, rfl, fun _ => rfl, same⟩

theorem addHostnameFinalizer_spec :
    Ensures world (addHostnameFinalizer env lb)
      (fun marked after => marked = { lb with finalizers := marked.finalizers } ∧
        hostnameCleanupFinalizer ∈ marked.finalizers ∧
        (after = world ∧ marked = lb ∨ after = { world with lb := marked }))
      (· = world) := by
  unfold addHostnameFinalizer
  split
  · rename_i held
    exact ⟨rfl, held, Or.inl ⟨rfl, rfl⟩⟩
  · exact Ensures.attempt rfl ⟨rfl, mem_addFinalizer _ _, Or.inr rfl⟩

theorem storeStatus_spec (service : Service) (hostname : String)
    (synced : world.lb.status = lb.status) :
    Ensures world (storeStatus env lb service hostname)
      (fun _ after => ∃ status, updateLoadBalancerStatus env.checkDNSResolution
          env.checkTLSHealth lb service hostname = some status ∧
        after = { world with lb := { world.lb with status := status } })
      (· = world) := by
  unfold storeStatus
  simp only [ensures_bind, ensures_ofOption]
  intro status returned
  split
  · rename_i same
    refine ⟨status, returned, ?_⟩
    rw [same, ← synced]
  · exact Ensures.attempt rfl ⟨status, returned, rfl⟩

theorem addCleanupFinalizer_spec (atLb : world.lb = lb) :
    Ensures world (addCleanupFinalizer env lb)
      (fun marked after => marked = { lb with finalizers := marked.finalizers } ∧
        (hostnameCleanupFinalizer ∈ lb.finalizers →
          hostnameCleanupFinalizer ∈ marked.finalizers) ∧
        after = { world with lb := marked })
      (· = world) := by
  subst atLb
  unfold addCleanupFinalizer
  split
  · exact ⟨rfl, id, rfl⟩
  · refine Ensures.attempt rfl ⟨rfl, fun held => ?_, rfl⟩
    exact List.mem_filter.mpr ⟨mem_addFinalizer_of_mem _ held, by decide⟩

/-- On the way to the hostname only the Service and the allocator are written. -/
theorem applyService_spec (className : Option String) (settings : AnnotationSettings) :
    let key := loadBalancerServiceKey o.topology o.ns lb
    Ensures world (applyService o env lb className settings)
      (fun _ after => ∃ store allocator,
        after = { world with services := store, allocator := allocator } ∧
        ServiceApplied key world.services store)
      (fun after => ∃ store allocator,
        after = { world with services := store, allocator := allocator } ∧
        (store = world.services ∨ ServiceApplied key world.services store)) := by
  unfold applyService
  simp only [ensures_bind, ensures_read, ensures_ofOption]
  rintro ⟨allocator, rest⟩ _
  simp only [ensures_write, ensures_ofExcept]
  refine fun written returned => ⟨fun store done => ?_, fun _ _ => ?_⟩
  · rw [done] at returned
    have applied := ServiceApplied.of_reconcileService returned
    simp only [ensures_attempt]
    exact ⟨fun _ => ⟨fun _ _ => ⟨_, _, rfl, applied⟩, fun _ _ => ⟨_, _, rfl, Or.inr applied⟩⟩,
      fun _ => ⟨_, _, rfl, Or.inr applied⟩⟩
  · exact ⟨_, _, rfl, Or.inl rfl⟩

theorem cleanupHostnameResources_spec (ns : String) :
    Ensures world (cleanupHostnameResources env lb ns)
      (fun _ after => after = { world with
        ingresses := world.ingresses.erase (hostnameIngressKey ns lb)
        httpRoutes := world.httpRoutes.erase (hostnameHTTPRouteKey ns lb) })
      (fun after => after.lb = world.lb ∧ NoNewObjects world after) := by
  unfold cleanupHostnameResources
  refine Ensures.attempt ⟨rfl, .rfl⟩ ?_
  simp only [ensures_bind, ensures_write, ensures_attempt]
  refine ⟨fun _ => True.intro, fun _ => ⟨True.intro, ?_⟩⟩
  exact ⟨fun _ => id, fun _ held => (Finmap.mem_erase.mp held).2, fun _ => id⟩

theorem cleanupMarkedHostname_spec (ns : String) :
    Ensures world (cleanupMarkedHostname env lb ns)
      (fun _ after => after = withoutHostnameResources world lb ns)
      (fun after => after.lb = world.lb ∧ NoNewObjects world after) := by
  unfold cleanupMarkedHostname withoutHostnameResources
  split
  · exact cleanupHostnameResources_spec ns
  · rfl

/-- A cleanup that returns has removed the Service, the finalizers and, if there was a
finalizer for them, the resources of the hostname. -/
theorem cleanupLoadBalancer_spec :
    Ensures world (cleanupLoadBalancer o env lb)
      (fun result after => result = .cleanedUp ∧ ∃ allocator, after =
        { withoutHostnameResources world lb (resourceNamespace o lb) with
          lb := withoutFinalizers lb
          services := world.services.erase (loadBalancerServiceKey o.topology o.ns lb)
          allocator := allocator })
      (fun after => after.lb = world.lb ∧ NoNewObjects world after) := by
  unfold cleanupLoadBalancer
  rw [ensures_bind, ensures_write]
  refine (cleanupMarkedHostname_spec _).bind ?_ ?_
  · rintro _ _ rfl
    obtain ⟨sameLb, sameServices, fewer⟩ := withoutHostnameResources_spec
      { world with allocator := world.allocator.deallocatePortsForLoadBalancer lb } lb
      (resourceNamespace o lb)
    refine Ensures.attempt ⟨sameLb, ⟨fewer.services, fewer.ingresses, fewer.httpRoutes⟩⟩ ?_
    rw [ensures_bind, ensures_write]
    refine Ensures.attempt ⟨sameLb, ⟨?_, fewer.ingresses, fewer.httpRoutes⟩⟩ ?_
    · intro key held
      rw [sameServices] at held
      exact (Finmap.mem_erase.mp held).2
    · rw [ensures_bind, ensures_write, ensures_pure]
      refine ⟨rfl, world.allocator.deallocatePortsForLoadBalancer lb, ?_⟩
      unfold withoutHostnameResources
      split <;> rfl
  · rintro after ⟨sameLb, fewer⟩
    exact ⟨sameLb, fewer.services, fewer.ingresses, fewer.httpRoutes⟩

/-- The rule for a whole reconcile: what it does is to skip, to clean up or to go on. -/
theorem reconcileLoadBalancer_rule {Q : LoadBalancerResult → LoadBalancerWorld → Prop}
    {E : LoadBalancerWorld → Prop} (skipped : Q .skipped world) (failed : E world)
    (cleanup : Ensures world (cleanupLoadBalancer o env world.lb) Q E)
    (manage : ∀ tenant config, world.lb.spec.endpoints ≠ [] →
      env.tenantAndConfig = .ok (tenant, config) →
      (config.loadBalancerDisable || tenant.loadBalancerDisable) = false →
      Ensures world (manageLoadBalancer o env world.lb tenant config) Q E) :
    Ensures world (reconcileLoadBalancer o env) Q E := by
  unfold reconcileLoadBalancer
  simp only [ensures_bind, ensures_read, ensures_ite, ensures_pure, ensures_attempt,
    ensures_ofExcept]
  refine ⟨fun _ => skipped, fun goes => ⟨fun _ => ⟨fun _ => ⟨fun _ => cleanup, fun _ => skipped⟩,
    fun _ => ⟨?_, fun _ _ => failed⟩⟩, fun _ => failed⟩⟩
  rintro ⟨tenant, config⟩ given
  refine ⟨fun _ => ⟨fun _ => cleanup, fun _ => skipped⟩, fun enabled => ?_⟩
  exact manage tenant config (fun none => goes (Or.inr none)) given
    (Bool.eq_false_of_not_eq_true enabled)

end

end KubeLB
