import KubeLB.LoadBalancer.ControllerSpec

/-!
The hostname of a LoadBalancer over its reconciles.

configureHostname prefers the hostname in the status to the one in the spec. That is
what keeps a generated hostname, and what keeps an explicit one after it was changed.
-/

namespace KubeLB
open FiniteMap Program Runs

/-- The decision that ShouldConfigureHostname takes in a reconcile. -/
def hostnameAllowed (lb : LoadBalancer) (tenant : TenantSpec) (config : ConfigSpec) : Bool :=
  let settings := getAnnotations tenant.toAnnotationSettings config.toAnnotationSettings
  shouldConfigureHostname (annotatedInMemory lb settings).annotations lb.spec.hostname tenant config

def PublishedAs (world : LoadBalancerWorld) (tenant : TenantSpec) (config : ConfigSpec)
    (hostname : String) : Prop :=
  recordedHostname world.lb = hostname ∧
    if useGatewayAPI tenant config then
      ∃ route, world.httpRoutes.lookup (hostnameHTTPRouteKey world.lb.ns world.lb) = some route ∧
        route.spec.hostnames = [hostname]
    else
      ∃ ingress, world.ingresses.lookup (hostnameIngressKey world.lb.ns world.lb) = some ingress ∧
        ingress.spec.rules.map IngressRule.host = [hostname]

section
variable {o : ManagerOptions} {env : LoadBalancerEnv} {world : LoadBalancerWorld}
  {lb : LoadBalancer} {tenant : TenantSpec} {config : ConfigSpec}

theorem hostname_updateLoadBalancerStatus {service : Service} {hostname : String}
    {status : LoadBalancerStatus} {checkDNSResolution checkTLSHealth : String → Bool}
    (endpoints : lb.spec.endpoints ≠ [])
    (returned : updateLoadBalancerStatus checkDNSResolution checkTLSHealth lb service hostname =
      some status) :
    (status.hostname.map HostnameStatus.hostname).getD "" =
      if hostname = "" then "" else if recordedHostname lb ≠ "" then recordedHostname lb
        else hostname := by
  have updated : status.hostname =
      updatedHostname checkDNSResolution checkTLSHealth lb hostname := by
    unfold updateLoadBalancerStatus at returned
    split at returned
    · rename_i none
      exact absurd none endpoints
    · obtain ⟨ports, _, returned⟩ := Option.bind_eq_some_iff.mp returned
      simp only at returned
      split at returned
      · cases returned
        rfl
      · rename_i unchanged
        cases returned
        simp only [ne_eq, not_or, not_not] at unchanged
        exact unchanged.2.2
  rw [updated, updatedHostname]
  split
  · rfl
  · rfl

/-- configureHostname publishes the hostname that it chooses, and an error leaves the
status, once it has a hostname. -/
theorem configureHostname_spec (svcName : String) (settings : AnnotationSettings)
    (synced : world.lb.status = lb.status) (name : world.lb.name = lb.name)
    (ns : world.lb.ns = lb.ns) :
    Ensures world (configureHostname env lb svcName tenant config settings)
      (fun result after => result.1 = chosenHostname env lb tenant config ∧
        recordedHostname result.2 = result.1 ∧ result.2.spec = lb.spec ∧
        after.lb.status = result.2.status ∧
        (result.1 ≠ "" → PublishedAs after tenant config result.1))
      (fun after => recordedHostname lb ≠ "" → after.lb.status = lb.status) := by
  unfold configureHostname
  refine (recordHostname_spec synced).bind ?_ (by rintro _ rfl _; exact synced)
  rintro ⟨hostname, recorded⟩ after ⟨chosen, records, inMemory, kept, rfl⟩
  dsimp only at chosen records inMemory kept ⊢
  have spec : recorded.spec = lb.spec := by rw [inMemory]
  have failed (before : recordedHostname lb ≠ "") : recorded.status = lb.status := by
    rw [kept before]
  by_cases empty : hostname = ""
  · rw [if_pos empty]
    exact ⟨empty.symm.trans chosen, records.trans empty, spec, rfl, fun some' => absurd rfl some'⟩
  · rw [if_neg empty]
    refine addHostnameFinalizer_spec.bind ?_ (by rintro _ rfl; exact failed)
    rintro marked after ⟨finalized, _, stored⟩
    have status : marked.status = recorded.status := by rw [finalized]
    have hostnameKept : recordedHostname marked = hostname := by
      rw [recordedHostname, status]
      exact records
    have atStatus : after.lb.status = recorded.status := by
      obtain ⟨rfl, _⟩ | rfl := stored
      · rfl
      · exact status
    have atName : after.lb.name = marked.name ∧ after.lb.ns = marked.ns := by
      obtain ⟨rfl, rfl⟩ | rfl := stored
      · rw [inMemory]
        exact ⟨name, ns⟩
      · exact ⟨rfl, rfl⟩
    have routeKey : hostnameHTTPRouteKey after.lb.ns after.lb =
        hostnameHTTPRouteKey marked.ns marked := by
      simp only [hostnameHTTPRouteKey, atName]
    have ingressKey : hostnameIngressKey after.lb.ns after.lb =
        hostnameIngressKey marked.ns marked := by
      simp only [hostnameIngressKey, atName]
    have markedSpec : marked.spec = lb.spec := by rw [finalized, spec]
    refine (hostnameResource_spec svcName hostname settings).mono ?_ ?_
    · rintro _ final ⟨rfl, written⟩
      have sameLb : final.lb = after.lb := by
        obtain ⟨_, _, rfl, _⟩ | ⟨_, _, rfl, _⟩ := written
        · rfl
        · rfl
      refine ⟨chosen, hostnameKept, markedSpec, ?_, fun _ => ⟨?_, ?_⟩⟩
      · rw [sameLb, atStatus, status]
      · rw [recordedHostname, sameLb, atStatus]
        exact records
      · obtain ⟨gateway, route, rfl, published⟩ | ⟨noGateway, ingress, rfl, published⟩ := written
        · rw [if_pos gateway]
          exact ⟨route, by rw [routeKey, Finmap.lookup_insert], published⟩
        · rw [if_neg (Bool.eq_false_iff.mp noGateway)]
          exact ⟨ingress, by rw [ingressKey, Finmap.lookup_insert], published⟩
    · rintro _ rfl before
      rw [atStatus, failed before]

/-- A reconcile that may configure a hostname publishes the one it chooses; an error
leaves the hostname of the status. -/
theorem manageLoadBalancer_allowed (atLb : world.lb = lb) (endpoints : lb.spec.endpoints ≠ [])
    (allowed : hostnameAllowed lb tenant config = true) :
    Ensures world (manageLoadBalancer o env lb tenant config)
      (fun result after => ∃ hostname, result = .reconciled hostname ∧
        hostname = chosenHostname env lb tenant config ∧ recordedHostname after.lb = hostname ∧
        (hostname ≠ "" → PublishedAs after tenant config hostname))
      (fun after => recordedHostname lb ≠ "" →
        recordedHostname after.lb = recordedHostname lb) := by
  unfold manageLoadBalancer
  refine (addCleanupFinalizer_spec atLb).bind ?_ (by rintro _ rfl _; rw [atLb])
  rintro marked _ ⟨finalized, _, rfl⟩
  have sameStatus : marked.status = lb.status := by rw [finalized]
  refine (applyService_spec _ _).bind ?_ ?_
  · rintro service _ ⟨store, allocator, rfl, _⟩
    -- the LoadBalancer in memory, with the annotations of the Service written into it
    generalize inMemory : annotatedInMemory marked _ = held
    have heldStatus : held.status = lb.status := by rw [← inMemory, ← sameStatus]; rfl
    have heldSpec : held.spec = lb.spec := by rw [← inMemory, finalized]; rfl
    have allowed' : shouldConfigureHostname held.annotations held.spec.hostname tenant config =
        true := by
      rw [← inMemory, finalized]
      exact allowed
    have sameChoice : chosenHostname env held tenant config =
        chosenHostname env lb tenant config := by
      unfold chosenHostname newHostname recordedHostname
      rw [heldStatus, heldSpec]
    have synced : marked.status = held.status := sameStatus.trans heldStatus.symm
    have name : marked.name = held.name := by rw [← inMemory]; rfl
    have ns : marked.ns = held.ns := by rw [← inMemory]; rfl
    dsimp only
    rw [if_pos allowed']
    refine (configureHostname_spec _ _ synced name ns).bind ?_ ?_
    · rintro ⟨hostname, configured⟩ after ⟨chosen, recorded, spec, status, published⟩
      dsimp only at chosen recorded spec status published ⊢
      have choice := chosen.trans sameChoice
      refine (storeStatus_spec service hostname status).bind ?_ ?_
      · rintro _ _ ⟨newStatus, returned, rfl⟩
        have final := hostname_updateLoadBalancerStatus
          (by rw [spec, heldSpec]; exact endpoints) returned
        have kept : recordedHostname { after.lb with status := newStatus } = hostname := by
          rw [recorded] at final
          refine final.trans ?_
          split
          · exact Eq.symm ‹_›
          · rfl
        exact ⟨hostname, rfl, choice, kept, fun named => ⟨kept, (published named).2⟩⟩
      · rintro _ rfl before
        rw [recordedHostname, status]
        refine recorded.trans (choice.trans ?_)
        rw [chosenHostname, if_pos before]
    · intro after failed before
      have kept := failed (by rw [recordedHostname, heldStatus]; exact before)
      rw [recordedHostname, kept, heldStatus]
      rfl
  · rintro _ ⟨store, allocator, rfl, _⟩ _
    rw [recordedHostname, sameStatus]
    rfl

theorem reconcileLoadBalancer_allowed
    (tenantAndConfig : env.tenantAndConfig = .ok (tenant, config))
    (allowed : hostnameAllowed world.lb tenant config = true) :
    Ensures world (reconcileLoadBalancer o env)
      (fun result after => ∀ hostname, result = .reconciled hostname →
        hostname = chosenHostname env world.lb tenant config ∧
        (hostname ≠ "" → PublishedAs after tenant config hostname))
      (fun _ => True) := by
  refine reconcileLoadBalancer_rule (by rintro _ ⟨⟩) True.intro ?_ ?_
  · refine cleanupLoadBalancer_spec.mono ?_ fun _ _ => True.intro
    rintro _ after ⟨rfl, _⟩ hostname ⟨⟩
  · intro tenant' config' endpoints given _
    cases tenantAndConfig.symm.trans given
    refine (manageLoadBalancer_allowed rfl endpoints allowed).mono ?_ fun _ _ => True.intro
    rintro _ after ⟨_, rfl, chosen, _, published⟩ hostname ⟨⟩
    exact ⟨chosen, published⟩

/-- A hostname in the status stays there as long as one is allowed, whatever happens
to the reconcile, and is the one that a reconcile returns. -/
theorem reconcileLoadBalancer_recorded (recorded : recordedHostname world.lb ≠ "")
    (allowed : ∀ tenant config, env.tenantAndConfig = .ok (tenant, config) →
      (config.loadBalancerDisable || tenant.loadBalancerDisable) = false →
      hostnameAllowed world.lb tenant config = true) :
    Ensures world (reconcileLoadBalancer o env)
      (fun result after => recordedHostname after.lb = recordedHostname world.lb ∧
        ∀ hostname, result = .reconciled hostname → hostname = recordedHostname world.lb ∧
          ∀ tenant config, env.tenantAndConfig = .ok (tenant, config) →
            PublishedAs after tenant config hostname)
      (fun after => recordedHostname after.lb = recordedHostname world.lb) := by
  refine reconcileLoadBalancer_rule ⟨rfl, by rintro _ ⟨⟩⟩ rfl ?_ ?_
  · refine cleanupLoadBalancer_spec.mono ?_ ?_
    · rintro _ _ ⟨rfl, allocator, rfl⟩
      exact ⟨rfl, by rintro _ ⟨⟩⟩
    · rintro after ⟨same, _⟩
      rw [same]
  · intro tenant config endpoints given enabled
    refine (manageLoadBalancer_allowed rfl endpoints (allowed tenant config given enabled)).mono
      ?_ fun _ kept => kept recorded
    rintro _ after ⟨chosen, rfl, rfl, records, published⟩
    have choice : chosenHostname env world.lb tenant config = recordedHostname world.lb := by
      rw [chosenHostname, if_pos recorded]
    refine ⟨records.trans choice, ?_⟩
    rintro hostname ⟨⟩
    refine ⟨choice, fun tenant' config' given' => ?_⟩
    cases given.symm.trans given'
    exact published (choice ▸ recorded)

end

inductive HostnameAction
  /-- The CCM changes the spec or the annotations. -/
  | edit (spec : LoadBalancerSpec) (annotations : FiniteMap String String)
  | reconcile (env : LoadBalancerEnv)
  /-- Others change the Services, the Ingresses or the HTTPRoutes. -/
  | others (services : ServiceStore) (ingresses : FiniteMap ObjectKey Ingress)
      (httpRoutes : FiniteMap ObjectKey HTTPRoute)

def hostnameStep (o : ManagerOptions) (world : LoadBalancerWorld) :
    HostnameAction → Option LoadBalancerWorld
  | .edit spec annotations =>
      some { world with lb := { world.lb with spec := spec, annotations := annotations } }
  | .reconcile env => (reconcileLoadBalancer o env world).map Prod.snd
  | .others services ingresses httpRoutes =>
      some { world with
        services := services, ingresses := ingresses, httpRoutes := httpRoutes }

/-- A reconcile that returns without an error, with the hostname it configured. -/
structure Configures (o : ManagerOptions) (env : LoadBalancerEnv) (before : LoadBalancerWorld)
    (tenant : TenantSpec) (config : ConfigSpec) (hostname : String)
    (after : LoadBalancerWorld) : Prop where
  tenantAndConfig : env.tenantAndConfig = .ok (tenant, config)
  allowed : hostnameAllowed before.lb tenant config = true
  returned : reconcileLoadBalancer o env before = some (.ok (.reconciled hostname), after)

def PublishesExplicit (o : ManagerOptions) (before : LoadBalancerWorld) (action : HostnameAction)
    (after : LoadBalancerWorld) : Prop :=
  match action with
  | .reconcile env => ∀ tenant config hostname,
      Configures o env before tenant config hostname after → before.lb.spec.hostname ≠ "" →
        hostname = before.lb.spec.hostname ∧ PublishedAs after tenant config hostname
  | _ => True

/-- A reconcile finds no other hostname in the status than the explicit one. -/
def FindsNoOther (o : ManagerOptions) (before : LoadBalancerWorld) (action : HostnameAction)
    (after : LoadBalancerWorld) : Prop :=
  match action with
  | .reconcile env => ∀ tenant config hostname,
      Configures o env before tenant config hostname after → before.lb.spec.hostname ≠ "" →
        recordedHostname before.lb = "" ∨ recordedHostname before.lb = before.lb.spec.hostname
  | _ => True

/-- No explicit hostname, and the request for a generated one is allowed. -/
def StaysAllowed (before : LoadBalancerWorld) : HostnameAction → Prop
  | .reconcile env => before.lb.spec.hostname = "" ∧
      ∀ tenant config, env.tenantAndConfig = .ok (tenant, config) →
        (config.loadBalancerDisable || tenant.loadBalancerDisable) = false →
        hostnameAllowed before.lb tenant config = true
  | _ => True

def Publishes (o : ManagerOptions) (hostname : String) (before : LoadBalancerWorld)
    (action : HostnameAction) (after : LoadBalancerWorld) : Prop :=
  match action with
  | .reconcile env => ∀ tenant config published,
      Configures o env before tenant config published after →
        published = hostname ∧ PublishedAs after tenant config hostname
  | _ => True

section
variable {o : ManagerOptions} {before after : LoadBalancerWorld} {action : HostnameAction}

theorem publishesExplicit_iff : PublishesExplicit o before action after ↔
    FindsNoOther o before action after := by
  cases action with
  | edit spec annotations => exact iff_of_true True.intro True.intro
  | others services ingresses httpRoutes => exact iff_of_true True.intro True.intro
  | reconcile env =>
      have each (tenant config hostname) (explicit : before.lb.spec.hostname ≠ "")
          (configures : Configures o env before tenant config hostname after) :
          (hostname = before.lb.spec.hostname ∧ PublishedAs after tenant config hostname) ↔
            (recordedHostname before.lb = "" ∨
              recordedHostname before.lb = before.lb.spec.hostname) := by
        obtain ⟨chosen, published⟩ := (reconcileLoadBalancer_allowed configures.tenantAndConfig
          configures.allowed).of_ok configures.returned hostname rfl
        have fresh : newHostname env before.lb tenant config = before.lb.spec.hostname :=
          if_pos explicit
        rw [chosenHostname, fresh] at chosen
        constructor
        · rintro ⟨same, _⟩
          by_cases recorded : recordedHostname before.lb = ""
          · exact Or.inl recorded
          · rw [if_pos recorded] at chosen
            exact Or.inr (chosen.symm.trans same)
        · intro finds
          have same : hostname = before.lb.spec.hostname := by
            obtain empty | equal := finds
            · rwa [if_neg (not_not.mpr empty)] at chosen
            · rwa [equal, ite_self] at chosen
          exact ⟨same, published (same ▸ explicit)⟩
      exact ⟨fun publishes tenant config hostname configures explicit =>
          (each tenant config hostname explicit configures).mp
            (publishes tenant config hostname configures explicit),
        fun finds tenant config hostname configures explicit =>
          (each tenant config hostname explicit configures).mpr
            (finds tenant config hostname configures explicit)⟩

/-- As long as it stays allowed a step keeps the hostname that is recorded. -/
theorem recorded_step {hostname : String} (named : hostname ≠ "")
    (recorded : recordedHostname before.lb = hostname) (allowed : StaysAllowed before action)
    (taken : hostnameStep o before action = some after) :
    recordedHostname after.lb = hostname ∧ Publishes o hostname before action after := by
  cases action with
  | edit spec annotations =>
      cases taken
      exact ⟨recorded, True.intro⟩
  | others services ingresses httpRoutes =>
      cases taken
      exact ⟨recorded, True.intro⟩
  | reconcile env =>
      subst recorded
      have keeps := reconcileLoadBalancer_recorded (o := o) named allowed.2
      obtain ⟨⟨outcome, world⟩, returned, rfl⟩ := Option.map_eq_some_iff.mp taken
      refine ⟨keeps.elim returned (fun _ kept => kept.1) id, ?_⟩
      · intro tenant config published configures
        obtain ⟨same, publishes⟩ := (keeps.of_ok configures.returned).2 published rfl
        subst same
        exact ⟨rfl, publishes tenant config configures.tenantAndConfig⟩

end

/-- Over every run: explicit hostnames are published exactly as long as no reconcile
finds another one in the status; and after a reconcile has configured a hostname,
every later one publishes the same as long as the spec has none and the request for a
generated one stays allowed. -/
theorem hostname_published_iff (o : ManagerOptions) (init : LoadBalancerWorld)
    (actions : List HostnameAction) :
    (EachStep (hostnameStep o) init actions (PublishesExplicit o) ↔
      EachStep (hostnameStep o) init actions (FindsNoOther o)) ∧
    ∀ env tenant config hostname after,
      Configures o env init tenant config hostname after → hostname ≠ "" →
      EachStep (hostnameStep o) after actions (fun before action _ => StaysAllowed before action) →
      EachStep (hostnameStep o) after actions (Publishes o hostname) := by
  constructor
  · exact eachStep_congr_of_step (fun _ _ _ _ => publishesExplicit_iff) actions
  · intro env tenant config hostname after configures named allowed
    have recorded : recordedHostname after.lb = hostname :=
      ((reconcileLoadBalancer_allowed configures.tenantAndConfig configures.allowed).of_ok
        configures.returned hostname rfl).2 named |>.1
    refine eachStep_of_eachStep (P := fun world => recordedHostname world.lb = hostname)
      recorded ?_ allowed
    intro before action next records stays taken
    exact recorded_step named records stays taken

section
private def shopWorld (hostname : String) : LoadBalancerWorld where
  lb :=
    { name := "shop", ns := "tenant-a"
      annotations := (∅ : FiniteMap String String).insert annotationRequestWildcardDomain "true"
      spec :=
        { hostname := hostname, type := .loadBalancer
          ports := [{ name := "http", port := 80, protocol := .tcp }]
          endpoints := [{ ports := [{ name := "http", port := 30080, protocol := .tcp }] }] } }
  services := ∅
  ingresses := ∅
  httpRoutes := ∅
  allocator := newPortAllocator

private def shopConfig : ConfigSpec where
  dns := { allowExplicitHostnames := true, wildcardDomain := "lb.example.com" }

private def shopEnv (now : Int) : LoadBalancerEnv where
  tenantAndConfig := .ok ({}, shopConfig)
  hostnameDraw := { randomBytes := none, now := now }

/-- A generated hostname, and a reconcile after it that would draw another one. -/
theorem generated_hostname_kept : ∃ after,
    Configures { ns := "kubelb" } (shopEnv 1) (shopWorld "") {} shopConfig
      "lb-1.lb.example.com" after ∧
    EachStep (hostnameStep { ns := "kubelb" }) after [.reconcile (shopEnv 2)]
      (Publishes { ns := "kubelb" } "lb-1.lb.example.com") := by
  refine ⟨_, ⟨rfl, by decide, rfl⟩, ?_⟩
  refine (hostname_published_iff { ns := "kubelb" } (shopWorld "") [.reconcile (shopEnv 2)]).2
    (shopEnv 1) {} shopConfig "lb-1.lb.example.com" _ ⟨rfl, by decide, rfl⟩ (by decide) ?_
  refine eachStep_cons fun _ _ => ⟨⟨by decide, ?_⟩, eachStep_nil _⟩
  rintro _ _ ⟨⟩ _
  decide

/-- The hostname in the spec is changed after it was published: the Ingress and the
status keep the old one. -/
theorem changed_hostname_not_published :
    (do let world ← run (hostnameStep { ns := "kubelb" }) (shopWorld "old.example.com")
          [.reconcile (shopEnv 1),
            .edit { (shopWorld "").lb.spec with hostname := "new.example.com" } ∅,
            .reconcile (shopEnv 2)]
        let ingress ← world.ingresses.lookup ⟨"tenant-a", "shop-ingress"⟩
        return (world.lb.spec.hostname, recordedHostname world.lb,
          ingress.spec.rules.map IngressRule.host)) =
      some ("new.example.com", "old.example.com", ["old.example.com"]) := by
  decide

end

end KubeLB
