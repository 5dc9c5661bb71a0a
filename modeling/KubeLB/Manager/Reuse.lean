import KubeLB.Foundation.Runs
import KubeLB.Manager.Provenance

/-!
Ports that are given out again while they are still in use.

The allocator knows the ports of its table and no others. A port whose entry is
gone may be on a Service that has not been deleted, and in a snapshot that is
served until the next one is published, if one is. The table, the Services and
the snapshots of one process never give a port to two owners as long as a draw
takes no port that a Service or a snapshot still has, and nothing is built or
written while an entry for it is missing. The name of a cluster is then that of
the LoadBalancer whose Service leads to it, and its addresses are too if no other
LoadBalancer of the Envoy has the same name.
-/

namespace KubeLB
open FiniteMap PortAllocator Runs Ownership

/-- When the Service of a LoadBalancer that has been applied has the port of a listener
in the snapshot of its Envoy, that listener forwards to a cluster of it: under the
cluster's name the snapshot serves the addresses of this LoadBalancer. -/
def NoMisrouting (o : ManagerOptions) (history : List ManagerAction) (state : ManagerState) :
    Prop :=
  ∀ lb svc q number snapshot name listener,
    ManagerAction.user (.applyLoadBalancer lb) ∈ history →
    state.api.services.lookup (loadBalancerServiceKey o.topology o.ns lb) = some svc →
    q ∈ svc.ports → q.targetPort = .int number →
    state.process.published.lookup (envoySnapshotName o.topology lb.ns) = some snapshot →
    snapshot.listener name = some listener → listener.port = number →
      (∃ i port, listener.clusterName = loadBalancerIdentifier lb i port) ∧
      ∃ cluster, snapshot.cluster listener.clusterName = some cluster ∧
        ClusterOf history lb cluster

def Unused (api : Api) (p : Process) (number : Int) : Prop :=
  (∀ key svc, api.services.lookup key = some svc → ∀ q ∈ svc.ports, q.targetPort ≠ .int number) ∧
    ∀ listener, p.Carries listener → listener.port ≠ number

/-- The condition on a step: no draw that the allocator accepts is in use, nothing
falls back to a port of the spec, and no reference gets the addresses of another. -/
structure Careful (api : Api) (p : Process) (action : ProcessAction) : Prop where
  draws : ∀ request draws, p.call action = some (request, draws) →
    ∀ draw ∈ draws, draw.port ∈ p.allocator.portLookupReverse ∨ Unused api p draw.port
  looked : NoFallback p action
  agree : ReferencesAgree p action

/-- Whom a port is for. Routes are not told apart. -/
inductive PortOwner
  | loadBalancer (endpointKey : String)
  | route

open Classical in
noncomputable def portOwner (e : String) : PortOwner :=
  if IsLoadBalancerKey e then .loadBalancer e else .route

theorem portOwner_loadBalancerKey (lb : LoadBalancer) (i : Nat) :
    portOwner (loadBalancerKey lb i) = .loadBalancer (loadBalancerKey lb i) :=
  if_pos ⟨lb, i, rfl⟩

def Forwards (listener : Listener) (owner : PortOwner) : Prop :=
  (∃ lb i port, listener.clusterName = loadBalancerIdentifier lb i port ∧
    owner = .loadBalancer (loadBalancerKey lb i)) ∨
  (∀ lb i port, listener.clusterName ≠ loadBalancerIdentifier lb i port) ∧ owner = .route

def Holds (o : ManagerOptions) (api : Api) (p : Process) (owner : PortOwner) (number : Int) :
    Prop :=
  (∃ e k, p.allocator.lookup e k = some number ∧ owner = portOwner e) ∨
  (∃ lb svc q, api.services.lookup (loadBalancerServiceKey o.topology o.ns lb) = some svc ∧
    q ∈ svc.ports ∧ q.targetPort = .int number ∧ owner = .loadBalancer (loadBalancerKey lb 0)) ∨
  ∃ listener, p.Carries listener ∧ listener.port = number ∧ Forwards listener owner

structure ReuseInvariant (o : ManagerOptions) (api : Api) (p : Process) : Prop where
  consistent : p.allocator.Consistent
  valid : p.allocator.Valid
  unique : Relator.LeftUnique (Holds o api p)

section Steps
variable {o : ManagerOptions} {api api' : Api} {p p' : Process} {action : ProcessAction}

/-- What becomes in use by a Service or a snapshot was in the table. -/
theorem Holds.of_table_only (table : ∀ e k number, p'.allocator.lookup e k = some number →
      Holds o api p (portOwner e) number)
    (services : ∀ lb svc q number,
      api'.services.lookup (loadBalancerServiceKey o.topology o.ns lb) = some svc →
      q ∈ svc.ports → q.targetPort = .int number →
        Holds o api p (.loadBalancer (loadBalancerKey lb 0)) number)
    (listeners : ∀ listener owner, p'.Carries listener → Forwards listener owner →
      Holds o api p owner listener.port) {owner : PortOwner} {number : Int}
    (holds : Holds o api' p' owner number) : Holds o api p owner number := by
  obtain ⟨e, k, found, rfl⟩ | ⟨lb, svc, q, found, member, target, rfl⟩ |
    ⟨listener, carried, rfl, forwards⟩ := holds
  · exact table e k number found
  · exact services lb svc q number found member target
  · exact listeners listener owner carried forwards

/-- A listener of a snapshot that is built forwards to the owner of its port. -/
theorem holds_of_built {get : ObjectKey → Except String (List EndpointAddress)}
    {lbs : List LoadBalancer} {routes : List Route} {snapshot : Snapshot}
    (valid : p.allocator.Valid) (allocated : ListenersAllocated p.allocator lbs routes)
    (apart : ∀ route ∈ routes, NamesApart route)
    (built : mapSnapshot get lbs routes p.allocator = .ok snapshot) {listener : Listener}
    (member : listener ∈ snapshot.listeners) {owner : PortOwner}
    (forwards : Forwards listener owner) : Holds o api p owner listener.port := by
  left
  obtain ⟨lb, i, port, _, cluster, found⟩ |
    ⟨route, inRoutes, svc, inSources, port, inPorts, _, cluster, found⟩ :=
    port_of_listener valid allocated built member
  · refine ⟨_, _, found, ?_⟩
    obtain ⟨lb', i', port', cluster', rfl⟩ | ⟨none, _⟩ := forwards
    · rw [portOwner_loadBalancerKey,
        (loadBalancerIdentifier_inj (cluster.symm.trans cluster')).1]
    · exact absurd cluster (none lb i port)
  · refine ⟨_, _, found, ?_⟩
    obtain ⟨notKey, notName⟩ := apart route inRoutes svc inSources
    obtain ⟨lb', i', port', cluster', _⟩ | ⟨_, rfl⟩ := forwards
    · exact absurd (cluster.symm.trans cluster') (notName port inPorts lb' i' port')
    · exact (if_neg notKey).symm

theorem holds_of_written (handled : o.topology ≠ .dedicated) (valid : p.allocator.Valid)
    {lb : LoadBalancer} (allocated : ServicePortsAllocated p.allocator lb) {faults : ApiFaults}
    {admission : Admission} {store : ServiceStore} {className : Option String}
    {annotations : AnnotationSettings}
    (returned : reconcileService faults admission api.services lb
      (loadBalancerServiceKey o.topology o.ns lb) (envoyApplicationName o.topology lb.ns)
      p.allocator className annotations = some (.ok store))
    {lb' : LoadBalancer} {svc : Service} {q : ServicePort} {number : Int}
    (found : store.lookup (loadBalancerServiceKey o.topology o.ns lb') = some svc)
    (member : q ∈ svc.ports) (target : q.targetPort = .int number) :
    Holds o api p (.loadBalancer (loadBalancerKey lb' 0)) number := by
  obtain ⟨others, existing, ports, stored, created, here, admitted⟩ :=
    reconcileService_spec returned
  by_cases same : loadBalancerServiceKey o.topology o.ns lb' =
      loadBalancerServiceKey o.topology o.ns lb
  · rw [same] at found
    cases here.symm.trans found
    obtain ⟨_, _, _, _, number', looked, _, target'⟩ :=
      target_of_admitted valid allocated created admitted member
    cases target.symm.trans target'
    refine Or.inl ⟨_, _, looked, ?_⟩
    rw [loadBalancerKey_of_serviceKey handled same, portOwner_loadBalancerKey]
  · rw [others _ same] at found
    exact Or.inr (Or.inl ⟨lb', svc, q, found, member, target, rfl⟩)

theorem not_holds_drawn (consistent : p.allocator.Consistent) (careful : Careful api p action)
    {e : String} {portKeys : List String} {draws rest : List Draw} {updated : Bool}
    {fresh : List (String × Int)} (called : p.call action = some ((e, portKeys), draws))
    (allocated : Allocated p.allocator e portKeys draws p'.allocator updated rest fresh)
    {k : String} {number : Int} (new : (k, number) ∈ fresh) (owner : PortOwner) :
    ¬ Holds o api p owner number := by
  obtain ⟨draw, inDraws, rfl, free⟩ := allocated.missing.exists_draw new
  obtain used | ⟨noService, noListener⟩ := careful.draws _ _ called draw inDraws
  · exact absurd used free
  rintro (⟨e', k', found, _⟩ | ⟨_, svc, q, found, member, target, _⟩ |
    ⟨listener, carried, onPort, _⟩)
  · exact free ((mem_reverse consistent _).mpr ⟨e', k', found⟩)
  · exact noService _ svc found q member target
  · exact noListener listener carried onPort

theorem ReuseInvariant.initial (o : ManagerOptions) :
    ReuseInvariant o ManagerState.initial.api ManagerState.initial.process := by
  have nothing (owner : PortOwner) (number : Int) :
      ¬ Holds o Api.empty { allocator := newPortAllocator } owner number := by
    rintro (⟨_, _, found, _⟩ | ⟨_, _, _, found, _⟩ | ⟨_, ⟨_, _, built, _⟩ | ⟨_, _, served, _⟩, _⟩)
    · cases found
    · cases found
    · cases built
    · cases served
  exact ⟨rfl, fun _ _ _ found => (by cases found),
    fun owner _ number first => absurd first (nothing owner number)⟩

theorem ReuseInvariant.of_services (holds : ReuseInvariant o api p)
    (services : api'.services = api.services) : ReuseInvariant o api' p := by
  have same : Holds o api' p = Holds o api p := by
    funext owner number
    simp only [Holds, services]
  exact ⟨holds.consistent, holds.valid, same ▸ holds.unique⟩

theorem ReuseInvariant.step (handled : o.topology ≠ .dedicated) (holds : ReuseInvariant o api p)
    (careful : Careful api p action) (taken : processStep o api p action = some (api', p')) :
    ReuseInvariant o api' p' := by
  -- A relation that stays within what was held before keeps its owners apart.
  have within (smaller : ∀ owner number, Holds o api' p' owner number →
      Holds o api p owner number) : Relator.LeftUnique (Holds o api' p') :=
    fun _ _ _ first second => holds.unique (smaller _ _ first) (smaller _ _ second)
  have carriedOver (listeners : ∀ listener, p'.Carries listener → p.Carries listener)
      (listener : Listener) (owner : PortOwner) (carried : p'.Carries listener)
      (forwards : Forwards listener owner) : Holds o api p owner listener.port :=
    Or.inr (Or.inr ⟨listener, listeners listener carried, rfl, forwards⟩)
  cases processStep_effect taken with
  | shrink table endpoints consistent services listeners =>
      refine ⟨consistent holds.consistent, fun e k number found =>
        holds.valid e k number (table e k number found), within fun _ _ => ?_⟩
      refine .of_table_only ?_ ?_ (carriedOver listeners)
      · exact fun e k number found => Or.inl ⟨e, k, table e k number found, rfl⟩
      · exact fun lb svc q number found member target =>
          Or.inr (Or.inl ⟨lb, svc, q, (services _ svc found).1, member, target, rfl⟩)
  | allocate e portKeys draws rest updated fresh called allocated api_ listeners =>
      subst api_
      refine ⟨allocated.consistent, allocated.valid holds.valid, ?_⟩
      let New (owner : PortOwner) (number : Int) : Prop :=
        owner = portOwner e ∧ ∃ k, (k, number) ∈ fresh
      refine leftUnique_grow (N := New) holds.unique ?_ ?_ ?_
      · rintro _ _ _ ⟨rfl, _⟩ ⟨rfl, _⟩
        rfl
      · rintro owner owner' number ⟨_, k, new⟩ old
        exact absurd old (not_holds_drawn holds.consistent careful called allocated new owner')
      · rintro owner number
          (⟨e', k, found, rfl⟩ | ⟨lb, svc, q, service⟩ | ⟨listener, carried, rest⟩)
        · obtain old | ⟨rfl, new⟩ := allocated.lookup_cases found
          · exact Or.inl (Or.inl ⟨e', k, old, rfl⟩)
          · exact Or.inr ⟨rfl, k, new⟩
        · exact Or.inl (Or.inr (Or.inl ⟨lb, svc, q, service⟩))
        · exact Or.inl (Or.inr (Or.inr ⟨listener, listeners listener carried, rest⟩))
  | write lb className annotations faults admission store task isWrite returned services origins
      allocator listeners =>
      subst isWrite services
      refine ⟨allocator ▸ holds.consistent, allocator ▸ holds.valid, within fun _ _ => ?_⟩
      refine .of_table_only ?_ ?_ (carriedOver listeners)
      · rw [allocator]
        exact fun e k number found => Or.inl ⟨e, k, found, rfl⟩
      · exact fun lb' svc q number found member target => holds_of_written handled holds.valid
          (careful.looked lb className annotations task) returned found member target
  | build name lbs routes get snapshot task isBuild built api_ allocator listeners =>
      subst isBuild api_
      obtain ⟨allocated, apart⟩ := careful.looked name lbs routes task
      refine ⟨allocator ▸ holds.consistent, allocator ▸ holds.valid, within fun _ _ => ?_⟩
      refine .of_table_only ?_ ?_ ?_
      · rw [allocator]
        exact fun e k number found => Or.inl ⟨e, k, found, rfl⟩
      · exact fun lb svc q number found member target =>
          Or.inr (Or.inl ⟨lb, svc, q, found, member, target, rfl⟩)
      · intro listener owner carried forwards
        obtain old | new := listeners listener carried
        · exact Or.inr (Or.inr ⟨listener, old, rfl, forwards⟩)
        · exact holds_of_built holds.valid allocated apart built new forwards

/-- The cluster of a listener on a port of the Service has a name of the LoadBalancer's. -/
theorem ReuseInvariant.clusterName {state : ManagerState}
    (holds : ReuseInvariant o state.api state.process) {lb : LoadBalancer} {svc : Service}
    {q : ServicePort} {name : String} {snapshot : Snapshot} {listener : Listener}
    (service : state.api.services.lookup (loadBalancerServiceKey o.topology o.ns lb) = some svc)
    (member : q ∈ svc.ports) (target : q.targetPort = .int listener.port)
    (served : state.process.published.lookup name = some snapshot)
    (listed : listener ∈ snapshot.listeners) :
    ∃ i port, listener.clusterName = loadBalancerIdentifier lb i port := by
  have carried : state.process.Carries listener := Or.inr ⟨_, snapshot, served, listed⟩
  have byService : Holds o state.api state.process (.loadBalancer (loadBalancerKey lb 0))
      listener.port := Or.inr (Or.inl ⟨lb, svc, q, service, member, target, rfl⟩)
  by_cases named : ∃ lb' i port, listener.clusterName = loadBalancerIdentifier lb' i port
  · obtain ⟨lb', i, port, cluster⟩ := named
    have byListener : Holds o state.api state.process (.loadBalancer (loadBalancerKey lb' i))
        listener.port :=
      Or.inr (Or.inr ⟨listener, carried, rfl, Or.inl ⟨lb', i, port, cluster, rfl⟩⟩)
    have sameKey := PortOwner.loadBalancer.inj (holds.unique byListener byService)
    obtain ⟨joined, rfl⟩ := envoyEndpointPattern_eq_iff.mp sameKey
    refine ⟨0, port, cluster.trans ?_⟩
    simp only [loadBalancerIdentifier, envoyResourceIdentifierPattern, joined]
  · have byListener : Holds o state.api state.process .route listener.port := by
      refine Or.inr (Or.inr ⟨listener, carried, rfl, Or.inr ⟨?_, rfl⟩⟩)
      exact fun lb' i port cluster => named ⟨lb', i, port, cluster⟩
    cases holds.unique byListener byService

theorem ReuseInvariant.noMisrouting {state : ManagerState} {history : List ManagerAction}
    (holds : ReuseInvariant o state.api state.process)
    (sourced : Sourced o history state.api state.process) (apart : AppliedApart o history) :
    NoMisrouting o history state := by
  intro lb svc q number snapshot name listener applied service member target served indexed onPort
  subst onPort
  have listed : listener ∈ snapshot.listeners := (lastWith_eq_some indexed).1
  obtain ⟨i, port, named⟩ := holds.clusterName service member target served listed
  exact ⟨⟨i, port, named⟩, sourced.clusterOf apart applied served listed named⟩

/-- The control plane lists nothing under the dedicated topology, so that nothing is
ever built. -/
def Process.Unserved (p : Process) : Prop := p.cpTask = .idle ∧ p.published = ∅

theorem Process.Unserved.of_eq (unserved : p.Unserved) (cpTask : p'.cpTask = p.cpTask)
    (published : p'.published = p.published) : p'.Unserved :=
  ⟨cpTask.trans unserved.1, published.trans unserved.2⟩

theorem unserved_step (dedicated : o.topology = .dedicated) (unserved : p.Unserved)
    (taken : processStep o api p action = some (api', p')) : p'.Unserved := by
  obtain ⟨idle, nothing⟩ := id unserved
  cases transition_of_processStep taken with
  | withdrawn =>
      refine ⟨idle, ?_⟩
      simp only [nothing]
      rfl
  | cpListed requestNs keys routeKeys lbs routes _ isListed something =>
      have none : (lbs, routes) = ([], []) := by
        rw [← isListed]
        simp [listLoadBalancersAndRoutes, inScope, dedicated]
      exact absurd ⟨congrArg Prod.fst none, congrArg Prod.snd none⟩ something
  | cpAllocated _ _ _ _ _ _ _ task | buildFailed _ _ _ _ _ task | built _ _ _ _ _ task
  | published _ _ task => cases idle.symm.trans task
  | cpFailed => exact ⟨rfl, nothing⟩
  | lbAllocated draws lb className annotations request requests middle task allocated =>
      obtain ⟨cpTask, _, published⟩ := allocateNext_tasks allocated
      exact unserved.of_eq cpTask published
  | routeAllocated route request draws middle requested allocated =>
      obtain ⟨cpTask, _, published⟩ := allocateNext_tasks allocated
      exact unserved.of_eq cpTask published
  | _ => exact unserved.of_eq rfl rfl

theorem noMisrouting_of_unserved {state : ManagerState} (unserved : state.process.Unserved)
    (history : List ManagerAction) : NoMisrouting o history state := by
  intro lb svc q number snapshot name listener _ _ _ _ served
  rw [unserved.2] at served
  cases served

structure RunInvariant (o : ManagerOptions) (history : List ManagerAction) (state : ManagerState) :
    Prop where
  sourced : Sourced o history state.api state.process
  unserved : o.topology = .dedicated → state.process.Unserved
  reuse : o.topology ≠ .dedicated → ReuseInvariant o state.api state.process

theorem RunInvariant.step {history : List ManagerAction} {state state' : ManagerState}
    {action : ManagerAction} (holds : RunInvariant o history state)
    (careful : ∀ taken, action = .process taken → Careful state.api state.process taken)
    (inHistory : action ∈ history) (taken : managerStep o state action = some state') :
    RunInvariant o history state' := by
  cases action with
  | user action =>
      cases taken
      refine ⟨?_, holds.unserved, fun handled => ?_⟩
      · exact holds.sourced.of_task (holds.sourced.stored.user inHistory) holds.sourced.task rfl rfl
      · exact (holds.reuse handled).of_services (services_userStep _ action).1
  | process action =>
      obtain ⟨⟨api, process⟩, stepped, rfl⟩ := Option.map_eq_some_iff.mp taken
      have careful := careful action rfl
      exact ⟨holds.sourced.step inHistory careful.looked careful.agree stepped,
        fun dedicated => unserved_step dedicated (holds.unserved dedicated) stepped,
        fun handled => (holds.reuse handled).step handled careful stepped⟩

/-- In every run from the empty cluster in which no port is drawn that a Service or
a snapshot still has, nothing falls back to a port of the spec, and the LoadBalancers
of the global Envoy have names of their own, no Service leads to a listener of another
LoadBalancer or of a Route. -/
theorem run_no_misrouting (o : ManagerOptions) (actions : List ManagerAction)
    (apart : o.topology = .global → AppliedApart o actions)
    (careful : EachStep (managerStep o) .initial actions fun state action _ =>
      ∀ taken, action = .process taken → Careful state.api state.process taken) :
    ∀ history state, history <+: actions → run (managerStep o) .initial history = some state →
      NoMisrouting o history state := by
  intro history state small reached
  have start : RunInvariant o history .initial :=
    ⟨.initial o history, fun _ => ⟨rfl, rfl⟩, fun _ => .initial o⟩
  have steps : EachStep (managerStep o) .initial history fun state action _ =>
      (∀ taken, action = .process taken → Careful state.api state.process taken) ∧
        action ∈ history := by
    intro before action state state' smaller begun taken
    exact ⟨careful before action state state' (smaller.trans small) begun taken,
      smaller.subset (List.mem_append_right _ List.mem_cons_self)⟩
  have invariant : Throughout (managerStep o) .initial history (RunInvariant o history) :=
    throughout_of_eachStep start (fun _ _ _ holds meets taken =>
      holds.step meets.1 meets.2 taken) steps
  have holds := invariant history state (List.prefix_refl _) reached
  have noMisrouting (served : o.topology ≠ .dedicated) (apart : AppliedApart o history) :=
    (holds.reuse served).noMisrouting holds.sourced apart
  cases topology : o.topology with
  | dedicated => exact noMisrouting_of_unserved (holds.unserved topology) history
  | shared => exact noMisrouting (by simp [topology]) (appliedApart_of_shared topology)
  | global =>
      refine noMisrouting (by simp [topology]) fun lb lb' applied applied' => ?_
      exact apart topology lb lb' (small.subset applied) (small.subset applied')

theorem careful_of_noCall (noCall : p.call action = none) (looked : NoFallback p action)
    (agree : ReferencesAgree p action) (taken : ProcessAction)
    (same : ManagerAction.process action = .process taken) : Careful api p taken := by
  cases same
  refine ⟨fun request draws called => ?_, looked, agree⟩
  rw [noCall] at called
  cases called

theorem careful_of_unused
    (unused : ∀ request draws, p.call action = some (request, draws) →
      ∀ draw ∈ draws, Unused api p draw.port)
    (looked : NoFallback p action) (agree : ReferencesAgree p action) (taken : ProcessAction)
    (same : ManagerAction.process action = .process taken) : Careful api p taken := by
  cases same
  exact ⟨fun request draws called draw member =>
    Or.inr (unused request draws called draw member), looked, agree⟩

theorem unused_of_nothing_served (services : api.services = ∅) (cpTask : p.cpTask = .idle)
    (published : p.published = ∅) (number : Int) : Unused api p number := by
  refine ⟨fun key svc found => ?_, ?_⟩
  · rw [services] at found
    cases found
  · rintro listener (⟨_, _, built, _⟩ | ⟨_, _, served, _⟩)
    · cases cpTask.symm.trans built
    · rw [published] at served
      cases served

/-- Two tenants' LoadBalancers of one name behind the global Envoy: both are reconciled
and published. -/
theorem run_no_misrouting_two_loadBalancers :
    let lb (ns ip : String) : LoadBalancer :=
      { ns := ns, name := "web", finalizers := [cleanupFinalizer]
        spec :=
          { endpoints := [{ addresses := [⟨ip, ""⟩]
                            ports := [{ name := "http", port := 30080, protocol := .tcp }] }]
            ports := [{ name := "http", port := 80, protocol := .tcp }] } }
    let x := lb "tenant-a" "10.1.1.1"
    let y := lb "tenant-b" "10.2.2.2"
    let listed := [x.objectKey, y.objectKey]
    let reconcile (lb : LoadBalancer) (first second : List Draw) : List ManagerAction :=
      [.process (.lbGet lb.objectKey), .process (.lbList listed),
        .process (.lbDecide (.ok ({}, {})) none), .process (.lbAllocate first),
        .process (.lbAllocate second), .process (.lbWrite {} .verbatim), .process .lbFail]
    let publish : List ManagerAction :=
      [.process (.cpList "tenant-a" listed []), .process (.cpAllocate []),
        .process (.cpAllocate []), .process (.cpBuild fun _ => .error "not found"),
        .process .cpPublish]
    let actions : List ManagerAction := .user (.applyLoadBalancer x) ::
      .user (.applyLoadBalancer y) :: reconcile x [0] [1] ++ reconcile y [] [] ++ publish
    let o : ManagerOptions := { ns := "kubelb", topology := .global }
    (do
      let state ← run (managerStep o) .initial actions
      let ofX ← state.api.services.lookup (loadBalancerServiceKey o.topology o.ns x)
      let ofY ← state.api.services.lookup (loadBalancerServiceKey o.topology o.ns y)
      let snapshot ← state.process.published.lookup (envoySnapshotName o.topology "tenant-a")
      return ((ofX.ports ++ ofY.ports).map ServicePort.targetPort,
        snapshot.listeners.map Listener.port, snapshot.clusters.flatMap Cluster.endpoints)) =
        some ([.int 10000, .int 10001], [10000, 10001],
          [("10.1.1.1", 30080), ("10.2.2.2", 30080)]) ∧
      ∀ history state, history <+: actions → run (managerStep o) .initial history = some state →
        NoMisrouting o history state := by
  intro lb x y listed reconcile publish actions o
  have apart : o.topology = .global → AppliedApart o actions := by
    intro _ lb lb' applied applied' _ sameText
    have isOne (lb : LoadBalancer)
        (applied : ManagerAction.user (.applyLoadBalancer lb) ∈ actions) : lb = x ∨ lb = y := by
      simpa [actions, reconcile, publish] using applied
    obtain rfl | rfl := isOne lb applied <;> obtain rfl | rfl := isOne lb' applied'
    · rfl
    · exact absurd sameText (by decide)
    · exact absurd sameText (by decide)
    · rfl
  refine ⟨by decide, run_no_misrouting o actions apart ?_⟩
  refine eachStep_taken rfl (fun _ same => (by cases same)) ?_
  refine eachStep_taken rfl (fun _ same => (by cases same)) ?_
  -- The first reconcile draws a port for each of the two.
  refine eachStep_taken rfl (careful_of_noCall rfl trivial trivial) ?_
  refine eachStep_taken rfl (careful_of_noCall rfl trivial trivial) ?_
  refine eachStep_taken rfl (careful_of_noCall rfl trivial trivial) ?_
  refine eachStep_taken rfl (careful_of_unused (fun _ _ _ _ _ =>
    unused_of_nothing_served rfl rfl rfl _) trivial trivial) ?_
  refine eachStep_taken rfl (careful_of_unused (fun _ _ _ _ _ =>
    unused_of_nothing_served rfl rfl rfl _) trivial trivial) ?_
  refine eachStep_taken rfl
    (careful_of_noCall rfl (fun _ _ _ task => (by cases task; decide)) trivial) ?_
  refine eachStep_taken rfl (careful_of_noCall rfl trivial trivial) ?_
  -- The second one finds them.
  refine eachStep_taken rfl (careful_of_noCall rfl trivial trivial) ?_
  refine eachStep_taken rfl (careful_of_noCall rfl trivial trivial) ?_
  refine eachStep_taken rfl (careful_of_noCall rfl trivial trivial) ?_
  refine eachStep_taken rfl (careful_of_unused (fun _ _ called _ drawn =>
    (by cases called; cases drawn)) trivial trivial) ?_
  refine eachStep_taken rfl (careful_of_unused (fun _ _ called _ drawn =>
    (by cases called; cases drawn)) trivial trivial) ?_
  refine eachStep_taken rfl
    (careful_of_noCall rfl (fun _ _ _ task => (by cases task; decide)) trivial) ?_
  refine eachStep_taken rfl (careful_of_noCall rfl trivial trivial) ?_
  refine eachStep_taken rfl (careful_of_noCall rfl trivial trivial) ?_
  refine eachStep_taken rfl (careful_of_unused (fun _ _ called _ drawn =>
    (by cases called; cases drawn)) trivial trivial) ?_
  refine eachStep_taken rfl (careful_of_unused (fun _ _ called _ drawn =>
    (by cases called; cases drawn)) trivial trivial) ?_
  refine eachStep_taken rfl (careful_of_noCall rfl (fun _ _ _ task => (by
    cases task
    exact ⟨by decide, fun _ member => (by cases member)⟩)) fun _ _ _ _ _ _ _ _ _ => rfl) ?_
  exact eachStep_cons fun _ _ => ⟨careful_of_noCall rfl trivial trivial, eachStep_nil _⟩

/-- The port of a LoadBalancer that is cleaned up goes to the next one, whose
Service then leads to the listener of the first in the snapshot still served. -/
theorem reused_port_misroutes :
    let lb (name : String) : LoadBalancer :=
      { ns := "tenant-t", name := name, finalizers := [cleanupFinalizer]
        spec :=
          { endpoints := [{ ports := [{ name := "http", port := 30080, protocol := .tcp }] }]
            ports := [{ name := "http", port := 80, protocol := .tcp }] } }
    let a := lb "a"
    let b := lb "b"
    let reconcile (lb : LoadBalancer) (draws : List Draw) : List ManagerAction :=
      [.process (.lbGet lb.objectKey), .process (.lbList [lb.objectKey]),
        .process (.lbDecide (.ok ({}, {})) none), .process (.lbAllocate draws),
        .process (.lbWrite {} .verbatim),
        .process (.lbStatus (fun _ => true) (fun _ => true) "" none)]
    let publish : List ManagerAction :=
      [.process (.cpList "tenant-t" [a.objectKey] []), .process (.cpAllocate []),
        .process (.cpBuild fun _ => .error "not found"), .process .cpPublish]
    let cleanUp : List ManagerAction :=
      [.user (.deleteLoadBalancer a.objectKey), .process (.lbGet a.objectKey),
        .process (.lbList [a.objectKey]), .process (.lbDecide (.ok ({}, {})) none),
        .process .lbDeallocate, .process (.lbDeleteService none),
        .process (.lbRemoveFinalizers none)]
    (do
      let state ← run (managerStep { ns := "kubelb" }) .initial
        (.user (.applyLoadBalancer a) :: reconcile a [0] ++ publish ++ cleanUp ++
          .user (.applyLoadBalancer b) :: reconcile b [0])
      let service ← state.api.services.lookup ⟨"tenant-t", "envoy-b"⟩
      let snapshot ← state.process.published.lookup "tenant-t"
      return (service.ports.map ServicePort.targetPort,
        snapshot.listeners.map fun listener => (listener.port, listener.clusterName))) =
      some ([.int 10000], [(10000, "tenant-t-a-ep-0-port-30080-TCP")]) := by
  decide

end Steps

end KubeLB
