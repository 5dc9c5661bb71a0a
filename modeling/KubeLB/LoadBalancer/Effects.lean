import KubeLB.LoadBalancer.ControllerSpec

/-!
What a reconcile of a LoadBalancer does to the set of objects in the LB cluster.

A reconcile that goes on adds objects of the LoadBalancer, those of its hostname behind
the finalizer; a cleanup takes away what it addresses. Both sets are computed from the
LoadBalancer, each in its own way.
-/

namespace KubeLB
open FiniteMap Program

inductive ObjectKind
  | service | ingress | httpRoute
  deriving DecidableEq

structure ObjectId where
  kind : ObjectKind
  key : ObjectKey
  deriving DecidableEq

def LoadBalancerWorld.objects (world : LoadBalancerWorld) : Finset ObjectId :=
  world.services.keys.image (ObjectId.mk .service) ∪
    world.ingresses.keys.image (ObjectId.mk .ingress) ∪
    world.httpRoutes.keys.image (ObjectId.mk .httpRoute)

@[simp] theorem service_mem_objects {world : LoadBalancerWorld} {key : ObjectKey} :
    ⟨.service, key⟩ ∈ world.objects ↔ key ∈ world.services := by
  simp [LoadBalancerWorld.objects, Finmap.mem_keys]

@[simp] theorem ingress_mem_objects {world : LoadBalancerWorld} {key : ObjectKey} :
    ⟨.ingress, key⟩ ∈ world.objects ↔ key ∈ world.ingresses := by
  simp [LoadBalancerWorld.objects, Finmap.mem_keys]

@[simp] theorem httpRoute_mem_objects {world : LoadBalancerWorld} {key : ObjectKey} :
    ⟨.httpRoute, key⟩ ∈ world.objects ↔ key ∈ world.httpRoutes := by
  simp [LoadBalancerWorld.objects, Finmap.mem_keys]

def addressed (o : ManagerOptions) (lb : LoadBalancer) : Finset ObjectId :=
  insert ⟨.service, loadBalancerServiceKey o.topology o.ns lb⟩
    (if hostnameCleanupFinalizer ∈ lb.finalizers then
      {⟨.ingress, hostnameIngressKey (resourceNamespace o lb) lb⟩,
        ⟨.httpRoute, hostnameHTTPRouteKey (resourceNamespace o lb) lb⟩}
    else ∅)

def creatable (o : ManagerOptions) (lb : LoadBalancer) : Finset ObjectId :=
  {⟨.service, loadBalancerServiceKey o.topology o.ns lb⟩,
    ⟨.ingress, hostnameIngressKey lb.ns lb⟩, ⟨.httpRoute, hostnameHTTPRouteKey lb.ns lb⟩}

/-- What a reconcile that goes on may do: the objects of the LoadBalancer `owner` come,
those of its hostname behind the finalizer, and none goes. -/
structure Grows (o : ManagerOptions) (owner : LoadBalancer) (before after : LoadBalancerWorld) :
    Prop where
  name : after.lb.name = before.lb.name
  ns : after.lb.ns = before.lb.ns
  marked : hostnameCleanupFinalizer ∈ before.lb.finalizers →
    hostnameCleanupFinalizer ∈ after.lb.finalizers
  keeps : before.objects ⊆ after.objects
  new : ∀ object ∈ after.objects, object ∈ before.objects ∨ object ∈ creatable o owner ∧
    (object.kind ≠ .service → hostnameCleanupFinalizer ∈ after.lb.finalizers)

section
variable {o : ManagerOptions} {owner : LoadBalancer} {before middle after : LoadBalancerWorld}

theorem Grows.trans (first : Grows o owner before middle) (second : Grows o owner middle after) :
    Grows o owner before after where
  name := second.name.trans first.name
  ns := second.ns.trans first.ns
  marked := second.marked ∘ first.marked
  keeps := first.keeps.trans second.keeps
  new := by
    intro object held
    obtain old | new := second.new object held
    · obtain older | ⟨own, behind⟩ := first.new object old
      · exact Or.inl older
      · exact Or.inr ⟨own, second.marked ∘ behind⟩
    · exact Or.inr new

theorem Grows.of_lb (lb : LoadBalancer) (name : lb.name = before.lb.name)
    (ns : lb.ns = before.lb.ns)
    (marked : hostnameCleanupFinalizer ∈ before.lb.finalizers →
      hostnameCleanupFinalizer ∈ lb.finalizers) :
    Grows o owner before { before with lb := lb } :=
  ⟨name, ns, marked, fun _ held => held, fun _ held => Or.inl held⟩

theorem Grows.rfl : Grows o owner before before :=
  Grows.of_lb before.lb (Eq.refl _) (Eq.refl _) id

theorem Grows.of_write (object : ObjectId) (sameLb : after.lb = before.lb)
    (objects : ∀ other, other ∈ after.objects ↔ other = object ∨ other ∈ before.objects)
    (own : object ∈ creatable o owner)
    (behind : object.kind ≠ .service → hostnameCleanupFinalizer ∈ before.lb.finalizers) :
    Grows o owner before after where
  name := by rw [sameLb]
  ns := by rw [sameLb]
  marked := by rw [sameLb]; exact id
  keeps := fun other held => (objects other).mpr (Or.inr held)
  new := by
    intro other held
    obtain rfl | old := (objects other).mp held
    · exact Or.inr ⟨own, sameLb ▸ behind⟩
    · exact Or.inl old

theorem Grows.of_service {key : ObjectKey} {store : ServiceStore} (allocator : PortAllocator)
    (own : key = loadBalancerServiceKey o.topology o.ns owner)
    (applied : ServiceApplied key before.services store) :
    Grows o owner before { before with services := store, allocator := allocator } := by
  refine .of_write ⟨.service, key⟩ (Eq.refl _) ?_ (by simp [creatable, own])
    fun notService => absurd (Eq.refl _) notService
  rintro ⟨kind, other⟩
  cases kind with
  | ingress => simp
  | httpRoute => simp
  | service =>
      by_cases same : other = key
      · simp [same, applied.present]
      · rw [service_mem_objects, service_mem_objects, ← Finmap.lookup_isSome,
          applied.others other same, Finmap.lookup_isSome]
        simp [same]

theorem Grows.of_ingress {lb : LoadBalancer} (ingress : Ingress) (name : lb.name = owner.name)
    (ns : lb.ns = owner.ns) (marked : hostnameCleanupFinalizer ∈ before.lb.finalizers) :
    Grows o owner before { before with
      ingresses := before.ingresses.insert (hostnameIngressKey lb.ns lb) ingress } := by
  refine .of_write ⟨.ingress, hostnameIngressKey lb.ns lb⟩ (Eq.refl _) ?_
    (by simp [creatable, hostnameIngressKey, name, ns]) fun _ => marked
  rintro ⟨kind, other⟩
  cases kind with
  | service => simp
  | httpRoute => simp
  | ingress => simp [Finmap.mem_insert]

theorem Grows.of_httpRoute {lb : LoadBalancer} (route : HTTPRoute) (name : lb.name = owner.name)
    (ns : lb.ns = owner.ns) (marked : hostnameCleanupFinalizer ∈ before.lb.finalizers) :
    Grows o owner before { before with
      httpRoutes := before.httpRoutes.insert (hostnameHTTPRouteKey lb.ns lb) route } := by
  refine .of_write ⟨.httpRoute, hostnameHTTPRouteKey lb.ns lb⟩ (Eq.refl _) ?_
    (by simp [creatable, hostnameHTTPRouteKey, name, ns]) fun _ => marked
  rintro ⟨kind, other⟩
  cases kind with
  | service => simp
  | ingress => simp
  | httpRoute => simp [Finmap.mem_insert]

end

section
variable {o : ManagerOptions} {env : LoadBalancerEnv} {world : LoadBalancerWorld}
  {owner lb : LoadBalancer} {tenant : TenantSpec} {config : ConfigSpec}

theorem configureHostname_grows (lb : LoadBalancer) (svcName : String)
    (settings : AnnotationSettings)
    (atLb : world.lb = { lb with annotations := world.lb.annotations })
    (name : lb.name = owner.name) (ns : lb.ns = owner.ns) :
    Ensures world (configureHostname env lb svcName tenant config settings)
      (fun result after => Grows o owner world after ∧ after.lb.status = result.2.status)
      (fun after => Grows o owner world after) := by
  unfold configureHostname
  have synced : world.lb.status = lb.status := by rw [atLb]
  refine (recordHostname_spec synced).bind ?_ (by rintro _ rfl; exact .rfl)
  rintro ⟨hostname, recorded⟩ _ ⟨_, _, inMemory, _, rfl⟩
  dsimp only at inMemory ⊢
  have first : Grows o owner world { world with
      lb := { world.lb with status := recorded.status } } :=
    .of_lb _ rfl rfl id
  by_cases empty : hostname = ""
  · rw [if_pos empty]
    exact ⟨first, rfl⟩
  · rw [if_neg empty]
    refine addHostnameFinalizer_spec.bind ?_ (by rintro _ rfl; exact first)
    rintro marked after ⟨finalized, held, stored⟩
    have markedName : marked.name = owner.name := by rw [finalized, inMemory]; exact name
    have markedNs : marked.ns = owner.ns := by rw [finalized, inMemory]; exact ns
    have second : Grows o owner world after ∧ after.lb.status = marked.status ∧
        hostnameCleanupFinalizer ∈ after.lb.finalizers := by
      obtain ⟨rfl, rfl⟩ | rfl := stored
      · refine ⟨first, rfl, ?_⟩
        rw [inMemory] at held
        rw [atLb]
        exact held
      · refine ⟨first.trans (.of_lb _ ?_ ?_ fun _ => held), rfl, held⟩
        · rw [finalized, inMemory, atLb]
        · rw [finalized, inMemory, atLb]
    refine (hostnameResource_spec svcName hostname settings).mono ?_
      (by rintro _ rfl; exact second.1)
    rintro _ _ ⟨rfl, ⟨_, route, rfl, _⟩ | ⟨_, ingress, rfl, _⟩⟩
    · exact ⟨second.1.trans (.of_httpRoute route markedName markedNs second.2.2), second.2.1⟩
    · exact ⟨second.1.trans (.of_ingress ingress markedName markedNs second.2.2), second.2.1⟩

theorem manageLoadBalancer_grows (atLb : world.lb = lb) :
    Ensures world (manageLoadBalancer o env lb tenant config)
      (fun result after => result ≠ .cleanedUp ∧ Grows o lb world after)
      (fun after => Grows o lb world after) := by
  unfold manageLoadBalancer
  refine (addCleanupFinalizer_spec atLb).bind ?_ (by rintro _ rfl; exact .rfl)
  rintro marked _ ⟨finalized, kept, rfl⟩
  have name : marked.name = lb.name := by rw [finalized]
  have ns : marked.ns = lb.ns := by rw [finalized]
  have key : loadBalancerServiceKey o.topology o.ns marked =
      loadBalancerServiceKey o.topology o.ns lb := by
    unfold loadBalancerServiceKey
    rw [name, ns]
  have first : Grows o lb world { world with lb := marked } := by
    refine .of_lb _ ?_ ?_ ?_
    · rw [name, atLb]
    · rw [ns, atLb]
    · rw [atLb]
      exact kept
  refine (applyService_spec _ _).bind ?_ ?_
  · rintro service _ ⟨store, allocator, rfl, applied⟩
    have second := first.trans (.of_service allocator key applied)
    dsimp only at second ⊢
    split
    · refine (configureHostname_grows (o := o) (annotatedInMemory marked _) _ _ rfl name ns).bind
        ?_ ?_
      · rintro ⟨hostname, configured⟩ after ⟨grows, status⟩
        refine (storeStatus_spec service hostname status).bind ?_ ?_
        · rintro _ _ ⟨newStatus, _, rfl⟩
          exact ⟨by rintro ⟨⟩, second.trans (grows.trans (.of_lb _ rfl rfl id))⟩
        · rintro _ rfl
          exact second.trans grows
      · intro after grows
        exact second.trans grows
    · refine (storeStatus_spec service "" rfl).bind ?_ ?_
      · rintro _ _ ⟨newStatus, _, rfl⟩
        exact ⟨by rintro ⟨⟩, second.trans (.of_lb _ rfl rfl id)⟩
      · rintro _ rfl
        exact second
  · rintro _ ⟨store, allocator, rfl, rfl | applied⟩
    · exact first.trans ⟨rfl, rfl, id, fun _ held => held, fun _ held => Or.inl held⟩
    · exact first.trans (.of_service allocator key applied)

structure Removes (o : ManagerOptions) (before after : LoadBalancerWorld) : Prop where
  name : after.lb.name = before.lb.name
  ns : after.lb.ns = before.lb.ns
  objects : after.objects = before.objects \ addressed o before.lb

theorem withoutHostnameResources_objects (world : LoadBalancerWorld) (lb : LoadBalancer)
    (allocator : PortAllocator) :
    LoadBalancerWorld.objects { withoutHostnameResources world world.lb
        (resourceNamespace o world.lb) with
      lb := lb
      services := world.services.erase (loadBalancerServiceKey o.topology o.ns world.lb)
      allocator := allocator } = world.objects \ addressed o world.lb := by
  ext ⟨kind, key⟩
  unfold withoutHostnameResources addressed
  by_cases marked : hostnameCleanupFinalizer ∈ world.lb.finalizers
  · cases kind with
    | service => simp [marked, Finmap.mem_erase, and_comm]
    | ingress => simp [marked, Finmap.mem_erase, and_comm]
    | httpRoute => simp [marked, Finmap.mem_erase, and_comm]
  · cases kind with
    | service => simp [marked, Finmap.mem_erase, and_comm]
    | ingress => simp [marked]
    | httpRoute => simp [marked]

theorem NoNewObjects.objects_subset {before after : LoadBalancerWorld}
    (fewer : NoNewObjects before after) : after.objects ⊆ before.objects := by
  rintro ⟨kind, key⟩ held
  cases kind with
  | service => simpa using fewer.services key (by simpa using held)
  | ingress => simpa using fewer.ingresses key (by simpa using held)
  | httpRoute => simpa using fewer.httpRoutes key (by simpa using held)

/-- A reconcile adds objects of the LoadBalancer, or takes objects away: all that are
addressed, when it is a cleanup that returns. -/
theorem reconcileLoadBalancer_effect :
    Ensures world (reconcileLoadBalancer o env)
      (fun result after => result ≠ .cleanedUp ∧ Grows o world.lb world after ∨
        result = .cleanedUp ∧ Removes o world after)
      (fun after => Grows o world.lb world after ∨
        after.lb = world.lb ∧ after.objects ⊆ world.objects) := by
  refine reconcileLoadBalancer_rule (Or.inl ⟨by rintro ⟨⟩, .rfl⟩) (Or.inl .rfl) ?_ ?_
  · refine cleanupLoadBalancer_spec.mono ?_ ?_
    · rintro result after ⟨cleaned, allocator, rfl⟩
      refine Or.inr ⟨cleaned, rfl, rfl, ?_⟩
      exact withoutHostnameResources_objects world _ allocator
    · rintro after ⟨sameLb, fewer⟩
      exact Or.inr ⟨sameLb, fewer.objects_subset⟩
  · intro tenant config _ _ _
    exact (manageLoadBalancer_grows rfl).mono (fun _ _ => Or.inl) (fun _ => Or.inl)

end

end KubeLB
