import KubeLB.LoadBalancer.ControllerSpec

/-!
Whether a LoadBalancer reconcile indexes out of range.

CreateServicePorts and updateLoadBalancerStatus index the ports of the first endpoint
group with the positions of the ports of the LoadBalancer and of its Service, and the
two functions for a hostname take the first port of the LoadBalancer. The lengths are
related by no validation. What the reconcile reads of the Service comes from the cache
and may lag behind what it has written, so here the two answers of the cache are given
apart from the store.
-/

namespace KubeLB
open FiniteMap Program

/-- What the cache shows of the Service: to reconcileService, and to the Get behind it. -/
structure CachedService where
  existing : Option Service
  readBack : Option Service

def CachedService.shown (cached : CachedService) (key : ObjectKey) (store : ServiceStore) :
    ServiceStore :=
  match cached.existing with
  | some service => store.insert key service
  | none => store.erase key

/-- The Services at the API server after a write that was decided on what the cache shows.
A write against an old version of the object is refused, which is an error of the request. -/
def arrived (key : ObjectKey) (store shown written : ServiceStore) : ServiceStore :=
  if written.lookup key = shown.lookup key then store
  else ((written.lookup key).map (store.insert key)).getD store

def applyCachedService (o : ManagerOptions) (env : LoadBalancerEnv) (cached : CachedService)
    (lb : LoadBalancer) (className : Option String) (settings : AnnotationSettings) :
    LoadBalancerProgram Service := do
  let key := loadBalancerServiceKey o.topology o.ns lb
  let (allocator, _) ← (read fun world =>
      world.allocator.allocatePortsForLoadBalancers env.lbs env.draws) >>= ofOption
  write fun world => { world with allocator := allocator }
  let shown ← read fun world => cached.shown key world.services
  let written ← ofOption (reconcileService env.services env.admission shown lb key
    (envoyApplicationName o.topology lb.ns) allocator className settings)
  let store ← ofExcept written
  write fun world => { world with services := arrived key world.services shown store }
  attempt env.getService
  ofExcept (cached.readBack.elim (.error "not found") .ok)

def finishLoadBalancer (o : ManagerOptions) (env : LoadBalancerEnv) (lb : LoadBalancer)
    (tenant : TenantSpec) (config : ConfigSpec) (settings : AnnotationSettings)
    (service : Service) : LoadBalancerProgram LoadBalancerResult := do
  let lb := annotatedInMemory lb settings
  if shouldConfigureHostname lb.annotations lb.spec.hostname tenant config then
    let (hostname, lb) ← configureHostname env lb
      (loadBalancerServiceKey o.topology o.ns lb).name tenant config settings
    storeStatus env lb service hostname
    return .reconciled hostname
  else
    storeStatus env lb service ""
    return .reconciled ""

def manageCachedLoadBalancer (o : ManagerOptions) (env : LoadBalancerEnv)
    (cached : CachedService) (lb : LoadBalancer) (tenant : TenantSpec) (config : ConfigSpec) :
    LoadBalancerProgram LoadBalancerResult := do
  let settings := getAnnotations tenant.toAnnotationSettings config.toAnnotationSettings
  let lb ← addCleanupFinalizer env lb
  let service ← applyCachedService o env cached lb
    (tenant.loadBalancerClass <|> config.loadBalancerClass) settings
  finishLoadBalancer o env lb tenant config settings service

def reconcileLoadBalancerWith (o : ManagerOptions) (env : LoadBalancerEnv)
    (manage : LoadBalancer → TenantSpec → ConfigSpec → LoadBalancerProgram LoadBalancerResult) :
    LoadBalancerProgram LoadBalancerResult := do
  let lb ← read LoadBalancerWorld.lb
  if env.get.isSome ∨ lb.spec.endpoints = [] then return .skipped
  else
    attempt env.list
    if lb.deletionTimestamp then
      if ∃ finalizer ∈ cleanupFinalizers, finalizer ∈ lb.finalizers then
        cleanupLoadBalancer o env lb
      else return .skipped
    else
      let (tenant, config) ← ofExcept env.tenantAndConfig
      if config.loadBalancerDisable || tenant.loadBalancerDisable then
        if cleanupFinalizer ∈ lb.finalizers then cleanupLoadBalancer o env lb
        else return .skipped
      else manage lb tenant config

def reconcileCachedLoadBalancer (o : ManagerOptions) (env : LoadBalancerEnv)
    (cached : CachedService) : LoadBalancerProgram LoadBalancerResult :=
  reconcileLoadBalancerWith o env (manageCachedLoadBalancer o env cached)

/-- The allocator does not loop on while it draws ports for the reconcile. -/
def AllocatorReturns (env : LoadBalancerEnv) (world : LoadBalancerWorld) : Prop :=
  (world.allocator.allocatePortsForLoadBalancers env.lbs env.draws).isSome

/-- No reconcile of the LoadBalancer that reads back this Service indexes out of range,
whatever Tenant and Config say, the API server answers and the cache showed before. -/
def NeverIndexesOutOfRange (lb : LoadBalancer) (service : Service) : Prop :=
  ∀ o env existing world, world.lb = lb → AllocatorReturns env world →
    (reconcileCachedLoadBalancer o env ⟨existing, some service⟩ world).isSome

/-- No Tenant and Config can give the LoadBalancer a hostname: it names none, and asks
for none. A LoadBalancer with annotations that do not say may be made to ask by a
default annotation, which PropagateAnnotations writes into its map. -/
def NoHostname (lb : LoadBalancer) : Prop :=
  lb.spec.hostname = "" ∧ (lb.annotations = ∅ ∨
    ∃ value, lb.annotations.lookup annotationRequestWildcardDomain = some value ∧ value ≠ "true")

/-! ### A cache that does not lag -/

theorem shown_eq {cached : CachedService} {key : ObjectKey} {store : ServiceStore}
    (current : cached.existing = store.lookup key) : cached.shown key store = store := by
  refine Finmap.ext_lookup fun other => ?_
  unfold CachedService.shown
  by_cases same : other = key
  · subst same
    cases found : store.lookup other with
    | none => simp [current, found]
    | some service => simp [current, found]
  · cases cached.existing with
    | none => exact Finmap.lookup_erase_ne same
    | some service => exact Finmap.lookup_insert_of_ne _ same

theorem arrived_eq {key : ObjectKey} {store written : ServiceStore}
    (applied : ServiceApplied key store written) : arrived key store store written = written := by
  obtain ⟨service, found⟩ := Finmap.mem_iff.mp applied.present
  refine Finmap.ext_lookup fun other => ?_
  unfold arrived
  by_cases same : other = key
  · subst same
    split
    · rename_i unchanged
      exact unchanged.symm
    · simp [found]
  · split
    · exact (applied.others other same).symm
    · simp [found, Finmap.lookup_insert_of_ne _ same, applied.others other same]

theorem applyService_eq_cached (o : ManagerOptions) (env : LoadBalancerEnv)
    (world : LoadBalancerWorld) (lb : LoadBalancer) (className : Option String)
    (settings : AnnotationSettings) :
    ∃ cached, applyService o env lb className settings world =
      applyCachedService o env cached lb className settings world := by
  let key := loadBalancerServiceKey o.topology o.ns lb
  have same (readBack : Option Service) :
      CachedService.shown ⟨world.services.lookup key, readBack⟩ key world.services =
        world.services := shown_eq rfl
  cases drawn : world.allocator.allocatePortsForLoadBalancers env.lbs env.draws with
  | none =>
      refine ⟨⟨none, none⟩, ?_⟩
      simp only [applyService, applyCachedService, bind_bind, read_bind, drawn, ofOption_none_bind]
  | some allocated =>
      simp only [applyService, applyCachedService, bind_bind, read_bind, drawn,
        ofOption_some_bind, write_bind]
      cases returned : reconcileService env.services env.admission world.services lb key
          (envoyApplicationName o.topology lb.ns) allocated.1 className settings with
      | none =>
          refine ⟨⟨world.services.lookup key, none⟩, ?_⟩
          rw [same, returned, ofOption_none_bind, ofOption_none_bind]
      | some outcome =>
          cases outcome with
          | error err =>
              refine ⟨⟨world.services.lookup key, none⟩, ?_⟩
              rw [same, returned, ofOption_some_bind, ofOption_some_bind, ofExcept_error_bind,
                ofExcept_error_bind]
          | ok store =>
              have applied := arrived_eq (ServiceApplied.of_reconcileService returned)
              refine ⟨⟨world.services.lookup key, store.lookup key⟩, ?_⟩
              rw [same, returned, ofOption_some_bind, ofOption_some_bind, ofExcept_ok_bind,
                ofExcept_ok_bind, write_bind, write_bind, applied]

theorem manageLoadBalancer_eq_cached (o : ManagerOptions) (env : LoadBalancerEnv)
    (world : LoadBalancerWorld) (lb : LoadBalancer) (tenant : TenantSpec) (config : ConfigSpec) :
    ∃ cached, manageLoadBalancer o env lb tenant config world =
      manageCachedLoadBalancer o env cached lb tenant config world := by
  cases marked : addCleanupFinalizer env lb world with
  | none =>
      refine ⟨⟨none, none⟩, ?_⟩
      simp only [manageLoadBalancer, manageCachedLoadBalancer, bind_apply, marked]
  | some result =>
      obtain ⟨outcome, world'⟩ := result
      cases outcome with
      | error err =>
          refine ⟨⟨none, none⟩, ?_⟩
          simp only [manageLoadBalancer, manageCachedLoadBalancer, bind_apply, marked]
      | ok lb' =>
          obtain ⟨cached, same⟩ := applyService_eq_cached o env world' lb'
            (tenant.loadBalancerClass <|> config.loadBalancerClass)
            (getAnnotations tenant.toAnnotationSettings config.toAnnotationSettings)
          refine ⟨cached, ?_⟩
          simp only [manageLoadBalancer, manageCachedLoadBalancer, finishLoadBalancer, bind_apply,
            marked, same]

theorem reconcileLoadBalancerWith_congr {o : ManagerOptions} {env : LoadBalancerEnv}
    {world : LoadBalancerWorld} {manage manage' : LoadBalancer → TenantSpec → ConfigSpec →
      LoadBalancerProgram LoadBalancerResult}
    (same : ∀ tenant config, env.tenantAndConfig = .ok (tenant, config) →
      manage world.lb tenant config world = manage' world.lb tenant config world) :
    reconcileLoadBalancerWith o env manage world =
      reconcileLoadBalancerWith o env manage' world := by
  simp only [reconcileLoadBalancerWith, read_bind]
  split
  · rfl
  · cases env.list with
    | some err => rfl
    | none =>
        change (ite _ _ _ : LoadBalancerProgram LoadBalancerResult) world =
          (ite _ _ _ : LoadBalancerProgram LoadBalancerResult) world
        split
        · rfl
        · cases given : env.tenantAndConfig with
          | error err => rfl
          | ok settings =>
              rw [ofExcept_ok_bind, ofExcept_ok_bind]
              split
              · rfl
              · exact same settings.1 settings.2 given

/-- Where the cache shows what is stored, the reconcile is the one that reads the
store. -/
theorem reconcileLoadBalancer_eq_cached (o : ManagerOptions) (env : LoadBalancerEnv)
    (world : LoadBalancerWorld) :
    ∃ cached, reconcileLoadBalancer o env world =
      reconcileCachedLoadBalancer o env cached world := by
  cases given : env.tenantAndConfig with
  | error err =>
      refine ⟨⟨none, none⟩, reconcileLoadBalancerWith_congr fun tenant config ok => ?_⟩
      cases given.symm.trans ok
  | ok settings =>
      obtain ⟨cached, same⟩ :=
        manageLoadBalancer_eq_cached o env world world.lb settings.1 settings.2
      refine ⟨cached, reconcileLoadBalancerWith_congr fun tenant config ok => ?_⟩
      cases given.symm.trans ok
      exact same

/-! ### Where the reconcile indexes -/

section
variable {o : ManagerOptions} {env : LoadBalancerEnv} {world : LoadBalancerWorld}
  {lb : LoadBalancer} {tenant : TenantSpec} {config : ConfigSpec}
  {endpoint : LoadBalancerEndpoints} {others : List LoadBalancerEndpoints}

theorem pairByIndex_isSome_iff {α β : Type} (xs : List α) (ys : List β) :
    (pairByIndex xs ys).isSome ↔ xs.length ≤ ys.length := by
  unfold pairByIndex
  split
  · simpa
  · rename_i short
    simpa using short

theorem createServicePorts_isSome_iff (accepted : lb.spec.endpoints = endpoint :: others)
    (existing : List ServicePort) (pa : PortAllocator) :
    (createServicePorts lb existing pa).isSome ↔
      lb.spec.ports.length ≤ endpoint.ports.length := by
  rw [← pairByIndex_isSome_iff]
  simp only [createServicePorts, accepted]
  cases pairByIndex lb.spec.ports endpoint.ports with
  | none => rfl
  | some indexed => simp

theorem updateLoadBalancerStatus_isSome_iff (accepted : lb.spec.endpoints = endpoint :: others)
    (checkDNSResolution checkTLSHealth : String → Bool) (service : Service) (hostname : String) :
    (updateLoadBalancerStatus checkDNSResolution checkTLSHealth lb service hostname).isSome ↔
      service.ports.length ≤ endpoint.ports.length := by
  rw [← pairByIndex_isSome_iff]
  simp only [updateLoadBalancerStatus, accepted, updatedPorts]
  cases pairByIndex service.ports endpoint.ports with
  | none => rfl
  | some indexed =>
      simp only [Option.bind_eq_bind, Option.bind_some, Option.pure_def, Option.isSome_some]
      split <;> simp

/-- reconcileService panics exactly when it comes to CreateServicePorts and this does. -/
theorem reconcileService_isSome_iff (accepted : lb.spec.endpoints = endpoint :: others)
    (faults : ApiFaults) (admission : Admission) (store : ServiceStore) (key : ObjectKey)
    (appName : String) (pa : PortAllocator) (className : Option String)
    (settings : AnnotationSettings) :
    (reconcileService faults admission store lb key appName pa className settings).isSome ↔
      (faults.get key = none → lb.spec.ports.length ≤ endpoint.ports.length) := by
  unfold reconcileService
  cases faults.get key with
  | some err => simp
  | none =>
      have created := createServicePorts_isSome_iff accepted
        ((store.lookup key).getD { ns := key.ns, name := key.name }).ports pa
      simp only [true_imp_iff, ← created]
      cases createServicePorts lb
          ((store.lookup key).getD { ns := key.ns, name := key.name }).ports pa with
      | none => rfl
      | some ports =>
          refine iff_of_true ?_ rfl
          simp only [Option.bind_eq_bind, Option.bind_some]
          split
          · split <;> rfl
          · split
            · split <;> rfl
            · rfl

theorem returns_applyCachedService (accepted : lb.spec.endpoints = endpoint :: others)
    (enough : lb.spec.ports.length ≤ endpoint.ports.length)
    (allocates : AllocatorReturns env world) (existing : Option Service) (service : Service)
    (className : Option String) (settings : AnnotationSettings) :
    Returns world (applyCachedService o env ⟨existing, some service⟩ lb className settings)
      fun readBack _ => readBack = service := by
  obtain ⟨allocated, drawn⟩ := Option.isSome_iff_exists.mp allocates
  simp only [applyCachedService, returns_bind, returns_read, returns_ofOption, returns_write,
    returns_ofExcept, returns_attempt]
  refine ⟨allocated, drawn, ?_⟩
  obtain ⟨written, reconciled⟩ := Option.isSome_iff_exists.mp
    ((reconcileService_isSome_iff accepted env.services env.admission
      (CachedService.shown ⟨existing, some service⟩ (loadBalancerServiceKey o.topology o.ns lb)
        world.services) (loadBalancerServiceKey o.topology o.ns lb)
      (envoyApplicationName o.topology lb.ns) allocated.1 className settings).mpr fun _ => enough)
  refine ⟨written, reconciled, fun store _ _ readBack read => ?_⟩
  cases read
  rfl

theorem returns_storeStatus (accepted : lb.spec.endpoints = endpoint :: others)
    {service : Service} (enough : service.ports.length ≤ endpoint.ports.length)
    (hostname : String) :
    Returns world (storeStatus env lb service hostname) fun _ _ => True := by
  obtain ⟨status, updated⟩ := Option.isSome_iff_exists.mp
    ((updateLoadBalancerStatus_isSome_iff accepted env.checkDNSResolution env.checkTLSHealth
      service hostname).mpr enough)
  simp only [storeStatus, returns_bind, returns_ofOption, returns_ite, returns_pure,
    returns_attempt, returns_write]
  exact ⟨status, updated, fun _ => True.intro, fun _ _ => True.intro⟩

/-- With a port, the resource of a hostname is built without a panic. -/
theorem returns_hostnameResource (ports : lb.spec.ports ≠ []) (svcName hostname : String)
    (settings : AnnotationSettings) :
    Returns world (createIngressForHostname env lb svcName hostname tenant config settings)
        (fun _ _ => True) ∧
      Returns world (createHTTPRouteForHostname env lb svcName hostname tenant config settings)
        fun _ _ => True := by
  obtain ⟨port, rest, given⟩ := List.exists_cons_of_ne_nil ports
  constructor
  · simp [createIngressForHostname, given]
  · unfold createHTTPRouteForHostname
    split <;> simp [given]

theorem returns_configureHostname (ports : lb.spec.ports ≠ []) (svcName : String)
    (settings : AnnotationSettings) :
    Returns world (configureHostname env lb svcName tenant config settings)
      fun result _ => result.2.spec = lb.spec := by
  have recorded : Returns world (recordHostname env lb tenant config)
      fun result _ => result.2.spec = lb.spec := by
    simp [recordHostname]
  rw [configureHostname, returns_bind]
  refine recorded.mono ?_
  rintro ⟨hostname, lb'⟩ world' same
  simp only [returns_ite, returns_pure, returns_bind]
  refine ⟨fun _ => same, fun _ => ?_⟩
  have marked : Returns world' (addHostnameFinalizer env lb')
      fun marked _ => marked.spec = lb.spec := by
    simp only [addHostnameFinalizer, returns_ite, returns_pure, returns_bind, returns_attempt,
      returns_write]
    exact ⟨fun _ => same, fun _ _ => same⟩
  refine marked.mono fun lb'' world'' same' => ?_
  have ports'' : lb''.spec.ports ≠ [] := by rwa [same']
  obtain ⟨ingress, httpRoute⟩ :=
    @returns_hostnameResource env world'' lb'' tenant config ports'' svcName hostname settings
  exact ⟨fun _ => httpRoute.mono fun _ _ _ => same', fun _ => ingress.mono fun _ _ _ => same'⟩

theorem lookup_annotatedInMemory (settings : AnnotationSettings) (k : String) :
    (annotatedInMemory lb settings).annotations.lookup k =
      if settings.propagateAllAnnotations = some true ∧ lb.annotations ≠ ∅ then
        (lb.annotations.lookup k).or (defaultValue settings .service k)
      else lb.annotations.lookup k := by
  unfold annotatedInMemory extendedAnnotations readBack
  by_cases empty : lb.annotations = ∅
  · simp [empty]
  · by_cases all : settings.propagateAllAnnotations = some true
    · simp [empty, all, lookup_applyDefaultAnnotations]
    · simp [empty, all]

theorem NoHostname.shouldConfigureHostname (none : NoHostname lb)
    (settings : AnnotationSettings) :
    KubeLB.shouldConfigureHostname (annotatedInMemory lb settings).annotations lb.spec.hostname
      tenant config = false := by
  obtain ⟨unnamed, unasked⟩ := none
  have lookup : (annotatedInMemory lb settings).annotations.lookup
      annotationRequestWildcardDomain ≠ some "true" := by
    rw [lookup_annotatedInMemory]
    obtain empty | ⟨value, found, refuses⟩ := unasked
    · simp [empty]
    · split <;> simp [found, refuses]
  simp [KubeLB.shouldConfigureHostname, unnamed, lookup]

theorem returns_finishLoadBalancer (accepted : lb.spec.endpoints = endpoint :: others)
    {service : Service} (enough : service.ports.length ≤ endpoint.ports.length)
    (ports : lb.spec.ports ≠ [] ∨ NoHostname lb) (settings : AnnotationSettings) :
    Returns world (finishLoadBalancer o env lb tenant config settings service)
      fun _ _ => True := by
  have inMemory : (annotatedInMemory lb settings).spec = lb.spec := rfl
  simp only [finishLoadBalancer, returns_ite, returns_bind, returns_pure]
  refine ⟨fun configured => ?_, fun _ => ?_⟩
  · obtain ports | none := ports
    · refine (returns_configureHostname (inMemory ▸ ports) _ settings).mono ?_
      rintro ⟨hostname, lb'⟩ _ same
      have acceptedAfter : lb'.spec.endpoints = endpoint :: others := by
        rw [← accepted, ← inMemory, ← same]
      exact returns_storeStatus acceptedAfter enough hostname
    · rw [inMemory, none.shouldConfigureHostname settings] at configured
      cases configured
  · exact returns_storeStatus accepted enough ""

theorem returns_addCleanupFinalizer :
    Returns world (addCleanupFinalizer env lb) fun marked after =>
      marked = { lb with finalizers := marked.finalizers } ∧
        after.allocator = world.allocator := by
  simp [addCleanupFinalizer, withFinalizer]

theorem returns_cleanupLoadBalancer :
    Returns world (cleanupLoadBalancer o env lb) fun _ _ => True := by
  simp [cleanupLoadBalancer, cleanupMarkedHostname, cleanupHostnameResources]

theorem neverIndexesOutOfRange_of_lengths {service : Service}
    (accepted : lb.spec.endpoints = endpoint :: others)
    (lengths : lb.deletionTimestamp = false →
      lb.spec.ports.length ≤ endpoint.ports.length ∧
        service.ports.length ≤ endpoint.ports.length ∧
        (lb.spec.ports ≠ [] ∨ NoHostname lb)) :
    NeverIndexesOutOfRange lb service := by
  rintro o env existing world rfl allocates
  rw [isSome_iff_returns]
  simp only [reconcileCachedLoadBalancer, reconcileLoadBalancerWith, returns_bind, returns_read,
    returns_ite, returns_pure, returns_attempt, returns_ofExcept]
  refine ⟨fun _ => True.intro, fun _ _ => ⟨fun _ => ⟨fun _ => returns_cleanupLoadBalancer,
    fun _ => True.intro⟩, fun alive => ?_⟩⟩
  rintro ⟨tenant, config⟩ _
  refine ⟨fun _ => ⟨fun _ => returns_cleanupLoadBalancer, fun _ => True.intro⟩, fun _ => ?_⟩
  obtain ⟨enough, enoughRead, ports⟩ := lengths (Bool.eq_false_of_not_eq_true alive)
  rw [manageCachedLoadBalancer, returns_bind]
  refine returns_addCleanupFinalizer.mono ?_
  rintro marked after ⟨same, sameAllocator⟩
  have acceptedMarked : marked.spec.endpoints = endpoint :: others := by rw [same]; exact accepted
  have portsMarked : marked.spec.ports ≠ [] ∨ NoHostname marked := by rw [same]; exact ports
  have enoughMarked : marked.spec.ports.length ≤ endpoint.ports.length := by
    rw [same]; exact enough
  have allocatesAfter : AllocatorReturns env after := by
    rw [AllocatorReturns, sameAllocator]; exact allocates
  rw [returns_bind]
  refine (returns_applyCachedService acceptedMarked enoughMarked allocatesAfter existing service
    _ _).mono ?_
  rintro _ _ rfl
  exact returns_finishLoadBalancer acceptedMarked enoughRead portsMarked _

/-! ### The environments that show it -/

/-- A Tenant that grants every LoadBalancer a hostname that it names or asks for, and
lets those with annotations ask by default. -/
def hostnameTenant : TenantSpec where
  propagateAllAnnotations := some true
  defaultAnnotations := some (Finmap.singleton .service
    (Finmap.singleton annotationRequestWildcardDomain "true"))
  dns := { wildcardDomain := some "example.com", allowExplicitHostnames := some true }

def quietEnv (tenant : TenantSpec) (config : ConfigSpec) : LoadBalancerEnv :=
  { tenantAndConfig := .ok (tenant, config) }

def worldOf (lb : LoadBalancer) : LoadBalancerWorld := ⟨lb, ∅, ∅, ∅, newPortAllocator⟩

theorem exists_of_returns_addCleanupFinalizer {Q : LoadBalancer → LoadBalancerWorld → Prop}
    (accepts : env.update = none) (returns : Returns world (addCleanupFinalizer env lb) Q) :
    ∃ marked after, marked = { lb with finalizers := marked.finalizers } ∧ Q marked after := by
  simp only [addCleanupFinalizer, returns_ite, returns_pure, returns_bind, returns_attempt,
    returns_write, accepts, Option.map_none, true_imp_iff] at returns
  by_cases held : cleanupFinalizer ∈ lb.finalizers
  · exact ⟨lb, _, rfl, returns.1 held⟩
  · exact ⟨withFinalizer lb, _, rfl, returns.2 held⟩

/-- The Service is not there yet, so it is created, and the one in the cache is read. -/
theorem exists_of_returns_applyCachedService {Q : Service → LoadBalancerWorld → Prop}
    (accepted : lb.spec.endpoints = endpoint :: others) {service : Service}
    {className : Option String} {settings : AnnotationSettings}
    (returns : Returns world (applyCachedService o (quietEnv tenant config) ⟨none, some service⟩ lb
      className settings) Q) :
    lb.spec.ports.length ≤ endpoint.ports.length ∧ ∃ after, Q service after := by
  simp only [applyCachedService, returns_bind, returns_read, returns_ofOption, returns_write,
    returns_ofExcept, returns_attempt] at returns
  obtain ⟨allocated, _, written, reconciled, rest⟩ := returns
  have enough := (reconcileService_isSome_iff accepted _ _ _ _ _ _ _ _).mp
    (Option.isSome_iff_exists.mpr ⟨written, reconciled⟩) rfl
  obtain ⟨ports, created⟩ := Option.isSome_iff_exists.mp
    ((createServicePorts_isSome_iff accepted [] allocated.1).mpr enough)
  obtain ⟨store, rfl⟩ : ∃ store, written = .ok store := by
    simp only [reconcileService, CachedService.shown, Finmap.lookup_erase, Option.getD_none,
      created, quietEnv, Option.bind_eq_bind, Option.bind_some] at reconciled
    exact ⟨_, (Option.some.inj reconciled).symm⟩
  exact ⟨enough, _, rest store rfl rfl service rfl⟩

/-- What has to go well if the reconcile in a quiet cluster is not to panic. -/
theorem finish_of_neverIndexesOutOfRange {service : Service}
    (never : NeverIndexesOutOfRange lb service)
    (accepted : lb.spec.endpoints = endpoint :: others) (alive : lb.deletionTimestamp = false)
    (enabled : (config.loadBalancerDisable || tenant.loadBalancerDisable) = false) :
    lb.spec.ports.length ≤ endpoint.ports.length ∧ ∃ marked after,
      marked = { lb with finalizers := marked.finalizers } ∧
      Returns after (finishLoadBalancer { ns := "kubelb" } (quietEnv tenant config) marked tenant
        config (getAnnotations tenant.toAnnotationSettings config.toAnnotationSettings) service)
        fun _ _ => True := by
  have ran := never { ns := "kubelb" } (quietEnv tenant config) none (worldOf lb) rfl rfl
  rw [isSome_iff_returns] at ran
  simp only [reconcileCachedLoadBalancer, reconcileLoadBalancerWith, worldOf,
    returns_bind, returns_read, returns_ite, returns_attempt, returns_ofExcept] at ran
  have found := ran.2 (by simp [accepted, quietEnv]) rfl
  have managed := (found.2 (by simp [alive]) (tenant, config) rfl).2 (by simp [enabled])
  rw [manageCachedLoadBalancer, returns_bind] at managed
  obtain ⟨marked, _, same, applied⟩ := exists_of_returns_addCleanupFinalizer rfl managed
  have acceptedMarked : marked.spec.endpoints = endpoint :: others := by rw [same]; exact accepted
  rw [returns_bind] at applied
  obtain ⟨enough, after, finished⟩ := exists_of_returns_applyCachedService acceptedMarked applied
  rw [same] at enough
  exact ⟨enough, marked, after, same, finished⟩

/-- A hostname that is chosen is recorded where the API server accepts it. -/
theorem exists_of_returns_recordHostname
    {Q : String × LoadBalancer → LoadBalancerWorld → Prop} (accepts : env.updateStatus = none)
    (chosen : chosenHostname env lb tenant config ≠ "")
    (returns : Returns world (recordHostname env lb tenant config) Q) :
    ∃ hostname lb' world', hostname ≠ "" ∧ lb'.spec = lb.spec ∧ Q (hostname, lb') world' := by
  unfold chosenHostname at chosen
  simp only [recordHostname, returns_ite, returns_pure, returns_bind, returns_attempt,
    returns_write, accepts, Option.map_none, true_imp_iff] at returns
  by_cases recorded : recordedHostname lb = ""
  · rw [if_neg (not_not.mpr recorded)] at chosen
    refine ⟨_, _, _, chosen, ?_, (returns.2 (not_not.mpr recorded)).2 chosen⟩
    rfl
  · exact ⟨_, _, _, recorded, rfl, returns.1 recorded⟩

theorem exists_of_returns_addHostnameFinalizer {Q : LoadBalancer → LoadBalancerWorld → Prop}
    (accepts : env.updateHostname = none)
    (returns : Returns world (addHostnameFinalizer env lb) Q) :
    ∃ lb' world', lb'.spec = lb.spec ∧ Q lb' world' := by
  simp only [addHostnameFinalizer, returns_ite, returns_pure, returns_bind, returns_attempt,
    returns_write, accepts, Option.map_none, true_imp_iff] at returns
  by_cases held : hostnameCleanupFinalizer ∈ lb.finalizers
  · exact ⟨lb, world, rfl, returns.1 held⟩
  · refine ⟨_, _, ?_, returns.2 held⟩
    rfl

/-- Without a port, a reconcile that comes to the Ingress of a hostname panics. -/
theorem not_returns_configureHostname {Q : String × LoadBalancer → LoadBalancerWorld → Prop}
    (accepts : env.updateStatus = none ∧ env.updateHostname = none)
    (viaIngress : useGatewayAPI tenant config = false)
    (chosen : chosenHostname env lb tenant config ≠ "") (portless : lb.spec.ports = [])
    (svcName : String) (settings : AnnotationSettings) :
    ¬ Returns world (configureHostname env lb svcName tenant config settings) Q := by
  intro returns
  rw [configureHostname, returns_bind] at returns
  obtain ⟨hostname, lb', _, nonempty, same, returns⟩ :=
    exists_of_returns_recordHostname accepts.1 chosen returns
  rw [returns_ite, returns_bind] at returns
  obtain ⟨lb'', _, same', returns⟩ :=
    exists_of_returns_addHostnameFinalizer accepts.2 (returns.2 nonempty)
  have portless'' : lb''.spec.ports = [] := by rw [same', same, portless]
  simp [viaIngress, createIngressForHostname, portless''] at returns

/-- The tenant has a hostname for every LoadBalancer that may have one. -/
theorem hostname_of_not_noHostname (may : ¬ NoHostname lb) :
    let settings := getAnnotations hostnameTenant.toAnnotationSettings {}
    shouldConfigureHostname (annotatedInMemory lb settings).annotations lb.spec.hostname
        hostnameTenant {} = true ∧
      chosenHostname (quietEnv hostnameTenant {}) (annotatedInMemory lb settings) hostnameTenant
        {} ≠ "" := by
  intro settings
  have generated : generateHostname hostnameTenant.dns ({} : ConfigSpec).dns
      (quietEnv hostnameTenant {}).hostnameDraw ≠ "" := by decide
  have chosen : chosenHostname (quietEnv hostnameTenant {}) (annotatedInMemory lb settings)
      hostnameTenant {} ≠ "" := by
    unfold chosenHostname newHostname
    split
    · assumption
    · split
      · assumption
      · exact generated
  refine ⟨?_, chosen⟩
  by_cases named : lb.spec.hostname = ""
  · have asks : (annotatedInMemory lb settings).annotations.lookup
        annotationRequestWildcardDomain = some "true" := by
      have annotated : lb.annotations ≠ ∅ := fun empty => may ⟨named, Or.inl empty⟩
      have all : settings.propagateAllAnnotations = some true := rfl
      have default : defaultValue settings .service annotationRequestWildcardDomain =
          some "true" := by decide
      rw [lookup_annotatedInMemory, if_pos ⟨all, annotated⟩, default]
      cases found : lb.annotations.lookup annotationRequestWildcardDomain with
      | none => rfl
      | some value =>
          have granted : value = "true" := by
            by_contra refuses
            exact may ⟨named, Or.inr ⟨value, found, refuses⟩⟩
          rw [granted]
          rfl
    simp [shouldConfigureHostname, named, asks, hostnameTenant]
  · simp [shouldConfigureHostname, named, hostnameTenant]

end

/-- Exactly when no reconcile of a LoadBalancer indexes out of range: it is being
deleted, or neither its ports nor those of the Service that is read back outnumber the
ports of its first endpoint group, and it has a port or can have no hostname. -/
theorem never_indexes_out_of_range_iff {lb : LoadBalancer} {endpoint : LoadBalancerEndpoints}
    {others : List LoadBalancerEndpoints} (accepted : lb.spec.endpoints = endpoint :: others)
    (service : Service) :
    NeverIndexesOutOfRange lb service ↔
      (lb.deletionTimestamp = false →
        lb.spec.ports.length ≤ endpoint.ports.length ∧
          service.ports.length ≤ endpoint.ports.length ∧
          (lb.spec.ports ≠ [] ∨ NoHostname lb)) := by
  refine ⟨fun never alive => ?_, neverIndexesOutOfRange_of_lengths accepted⟩
  obtain ⟨enough, marked, after, same, returns⟩ :=
    @finish_of_neverIndexesOutOfRange lb {} {} endpoint others service never accepted alive rfl
  have acceptedMarked : marked.spec.endpoints = endpoint :: others := by rw [same]; exact accepted
  refine ⟨enough, ?_, or_iff_not_imp_right.mpr fun may portless => ?_⟩
  · -- without settings no hostname is configured, and the status is written at once
    have unconfigured (annotations : FiniteMap String String) (hostname : String) :
        shouldConfigureHostname annotations hostname {} {} = false := by
      simp [shouldConfigureHostname]
    simp only [finishLoadBalancer, unconfigured, returns_ite, returns_bind, storeStatus,
      returns_ofOption] at returns
    obtain ⟨status, updated, _⟩ := returns.2 Bool.false_ne_true
    have accepted' : (annotatedInMemory marked (getAnnotations {} {})).spec.endpoints =
        endpoint :: others := acceptedMarked
    exact (updateLoadBalancerStatus_isSome_iff accepted' _ _ service "").mp
      (Option.isSome_iff_exists.mpr ⟨status, updated⟩)
  · obtain ⟨_, marked, after, same, returns⟩ :=
      @finish_of_neverIndexesOutOfRange lb hostnameTenant {} endpoint others service never accepted
        alive rfl
    have mayMarked : ¬ NoHostname marked := by rw [same]; exact may
    have portlessMarked : marked.spec.ports = [] := by rw [same]; exact portless
    obtain ⟨configured, chosen⟩ := hostname_of_not_noHostname mayMarked
    simp only [finishLoadBalancer, returns_ite, returns_bind] at returns
    exact not_returns_configureHostname ⟨rfl, rfl⟩ rfl chosen portlessMarked _ _
      (returns.1 configured)

/-- A LoadBalancer as MapLoadBalancer makes it: as many endpoint ports as ports. -/
def pairedLoadBalancer : LoadBalancer where
  name := "web"
  ns := "tenant-a"
  spec :=
    { ports := [{ name := "http", protocol := .tcp, port := 80 }]
      endpoints := [{ ports := [{ name := "http", port := 30080, protocol := .tcp }] }] }

theorem never_indexes_out_of_range_paired :
    NeverIndexesOutOfRange pairedLoadBalancer { ports := [{ name := "http", port := 80 }] } :=
  (never_indexes_out_of_range_iff rfl { ports := [{ name := "http", port := 80 }] }).mpr
    fun _ => ⟨by decide, by decide, Or.inl (by decide)⟩

/-- The reconcile of a LoadBalancer in a quiet cluster, by whether it panics. -/
def panics (lb : LoadBalancer) (tenant : TenantSpec) (service : Service) : Bool :=
  (reconcileCachedLoadBalancer { ns := "kubelb" } (quietEnv tenant {}) ⟨none, some service⟩
    (worldOf lb)).isNone

/-- More ports than endpoint ports; a Service that still has a port of an earlier spec; a
LoadBalancer without ports that names a hostname. -/
theorem reconcile_indexes_out_of_range :
    let port : LoadBalancerPort := { name := "http", protocol := .tcp, port := 80 }
    let endpointPort : EndpointPort := { name := "http", port := 30080, protocol := .tcp }
    let old : ServicePort := { name := "old", port := 8080 }
    panics { name := "web", ns := "tenant-a", spec := { ports := [port], endpoints := [{}] } } {}
        {} = true ∧
      panics pairedLoadBalancer {}
        { ports := [{ name := "http", port := 80 }, old] } = true ∧
      panics { name := "web", ns := "tenant-a",
               spec := { hostname := "web.example.com"
                         endpoints := [{ ports := [endpointPort] }] } }
        hostnameTenant {} = true := by
  decide

end KubeLB
