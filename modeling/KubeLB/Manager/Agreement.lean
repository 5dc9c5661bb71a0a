import KubeLB.Foundation.Runs
import KubeLB.Manager.Replicas

/-!
When the replicas agree with the Services.

Tables, Services and snapshots have at most one port for an entry of a
LoadBalancer, in all replicas together, as long as nobody draws for an entry
that has one. The leader and the others draw each for themselves, so this
needs the first to write the status before the others start.
-/

namespace KubeLB
open FiniteMap PortAllocator Runs Ownership

structure AgreeInvariant (o : ManagerOptions) (state : ReplicasState) : Prop where
  valid : ∀ i p, state.processes.lookup i = some p → p.allocator.Valid
  unique : Relator.RightUnique (InUse o state)

section Steps
variable {o : ManagerOptions} {api api' : Api} {processes : FiniteMap Nat Process}
  {leader leader' : Option Nat} {p p' : Process} {action : ProcessAction}

theorem Process.Has.mono (table : ∀ e k number, p'.allocator.lookup e k = some number →
      p.allocator.lookup e k = some number)
    (listeners : ∀ listener, p'.Carries listener → p.Carries listener)
    {entry : String × String} {number : Int} (has : p'.Has entry number) :
    p.Has entry number := by
  obtain ⟨isKey, found⟩ | ⟨listener, lb, i, port, carried, rest⟩ := has
  · exact Or.inl ⟨isKey, table _ _ _ found⟩
  · exact Or.inr ⟨listener, lb, i, port, listeners listener carried, rest⟩

theorem targets_of_services (services : ∀ key svc, api'.services.lookup key = some svc →
      api.services.lookup key = some svc ∧ api'.origins.lookup key = api.origins.lookup key)
    {lb : LoadBalancer} {endpoint : LoadBalancerEndpoints}
    {pair : LoadBalancerPort × EndpointPort} {number : Int}
    (targets : Targets o api' lb endpoint pair number) : Targets o api lb endpoint pair number := by
  obtain ⟨first, member, origin, svc, found, target⟩ := targets
  obtain ⟨old, sameOrigin⟩ := services _ svc found
  exact ⟨first, member, sameOrigin ▸ origin, svc, old, target⟩

theorem eq_of_mem_zip_of_name {ports : List LoadBalancerPort} {endpointPorts : List EndpointPort}
    (distinct : (ports.map LoadBalancerPort.name).Nodup)
    {pair pair' : LoadBalancerPort × EndpointPort} (member : pair ∈ ports.zip endpointPorts)
    (member' : pair' ∈ ports.zip endpointPorts) (same : pair.1.name = pair'.1.name) :
    pair = pair' := by
  obtain ⟨i, bound, rfl⟩ := List.getElem_of_mem member
  obtain ⟨j, bound', rfl⟩ := List.getElem_of_mem member'
  have shorter : (ports.zip endpointPorts).length ≤ (ports.map LoadBalancerPort.name).length := by
    simp
  have left := bound.trans_le shorter
  have right := bound'.trans_le shorter
  have names : (ports.map LoadBalancerPort.name)[i] = (ports.map LoadBalancerPort.name)[j] := by
    simpa using same
  cases distinct.getElem_inj_iff.mp names
  rfl

theorem has_of_written {lb : LoadBalancer} {faults : ApiFaults} {admission : Admission}
    {store : ServiceStore} {className : Option String} {annotations : AnnotationSettings}
    (valid : p.allocator.Valid) (allocated : ServicePortsAllocated p.allocator lb)
    (distinct : (lb.spec.ports.map LoadBalancerPort.name).Nodup)
    (returned : reconcileService faults admission api.services lb
      (loadBalancerServiceKey o.topology o.ns lb) (envoyApplicationName o.topology lb.ns)
      p.allocator className annotations = some (.ok store))
    (services : api'.services = store)
    (origins : api'.origins = api.origins.insert (loadBalancerServiceKey o.topology o.ns lb) lb)
    {lb' : LoadBalancer} {endpoint : LoadBalancerEndpoints}
    {pair : LoadBalancerPort × EndpointPort} {number : Int}
    (targets : Targets o api' lb' endpoint pair number) :
    Targets o api lb' endpoint pair number ∨
      p.Has (loadBalancerKey lb' 0, targetPortKey endpoint pair) number := by
  obtain ⟨others, existing, ports, stored, created, here, admitted⟩ :=
    reconcileService_spec returned
  obtain ⟨first, inZip, origin, svc, found, q, member, name, target⟩ := targets
  rw [origins] at origin
  rw [services] at found
  obtain ⟨same, rfl⟩ | ⟨different, origin⟩ := lookup_of_lookup_insert origin
  · right
    cases here.symm.trans found
    obtain ⟨endpoint', first', pair', inZip', number', looked, name', target'⟩ :=
      target_of_admitted valid allocated created admitted member
    cases target.symm.trans target'
    cases Option.mem_unique first first'
    cases eq_of_mem_zip_of_name distinct inZip inZip' (name.symm.trans name')
    exact Or.inl ⟨⟨_, _, rfl⟩, looked⟩
  · left
    rw [others _ different] at found
    exact ⟨first, inZip, origin, svc, found, q, member, name, target⟩

/-- A listener of a snapshot that is built has the port that the table has for it. -/
theorem has_of_built {get : ObjectKey → Except String (List EndpointAddress)}
    {lbs : List LoadBalancer} {routes : List Route} {snapshot : Snapshot}
    (valid : p.allocator.Valid) (allocated : ListenersAllocated p.allocator lbs routes)
    (apart : ∀ route ∈ routes, NamesApart route)
    (built : mapSnapshot get lbs routes p.allocator = .ok snapshot) {listener : Listener}
    (member : listener ∈ snapshot.listeners) {lb : LoadBalancer} {i : Nat} {port : EndpointPort}
    (name : listener.name = loadBalancerIdentifier lb i port) :
    p.Has (loadBalancerKey lb i, endpointPortKey port) listener.port := by
  obtain ⟨lb', i', port', name', _, found⟩ |
    ⟨route, inRoutes, svc, inSources, port', inPorts, name', _⟩ :=
    port_of_listener valid allocated built member
  · obtain ⟨sameKey, samePort⟩ := loadBalancerIdentifier_inj (name.symm.trans name')
    exact Or.inl ⟨⟨_, _, rfl⟩, by rwa [sameKey, samePort]⟩
  · exact absurd (name'.symm.trans name)
      ((apart route inRoutes svc inSources).2 port' inPorts lb i port)

theorem LoadsInUse.of_lookup {state : ReplicasState} {lbs : List LoadBalancer}
    {routes : List Route} (loads : LoadsInUse o state lbs routes) {e k : String} {number : Int}
    (found : (loadState lbs routes).lookup e k = some number) :
    (0 < number ∧ number < 2 ^ 16) ∧ (IsLoadBalancerKey e → ∀ number',
      InUse o state (e, k) number' → number = number') := by
  rw [loadState, lookup_recompute] at found
  obtain empty | ⟨entries, loaded, entry⟩ := lookup₂_loadAll found
  · cases empty
  obtain fromLB | fromRoute := List.mem_append.mp loaded
  · obtain ⟨lb, inLBs, member⟩ := List.mem_flatMap.mp fromLB
    obtain ⟨pair, inEndpoints, same⟩ := List.mem_map.mp member
    cases same
    obtain ⟨port, inPorts, recordedAs⟩ := List.mem_filterMap.mp entry
    obtain ⟨recorded, isRecorded, same⟩ := Option.map_eq_some_iff.mp recordedAs
    cases same
    obtain ⟨range, agrees⟩ := loads.lbs lb inLBs pair inEndpoints port inPorts recorded isRecorded
    exact ⟨range, fun _ => agrees⟩
  · obtain ⟨route, inRoutes, member⟩ := List.mem_flatMap.mp fromRoute
    obtain ⟨notKey, ranges⟩ := loads.routes route inRoutes _ member
    exact ⟨ranges _ entry, fun isKey => absurd isKey notKey⟩

theorem has_startProcess {lbs routes : List ObjectKey} {entry : String × String} {number : Int}
    (has : (startProcess api lbs routes).Has entry number) :
    IsLoadBalancerKey entry.1 ∧
      (startProcess api lbs routes).allocator.lookup entry.1 entry.2 = some number := by
  obtain table | ⟨_, _, _, _, ⟨_, _, built, _⟩ | ⟨_, _, served, _⟩, _⟩ := has
  · exact table
  · cases built
  · cases served

theorem AgreeInvariant.initial (o : ManagerOptions) : AgreeInvariant o .initial := by
  have nothing (entry : String × String) (number : Int) :
      ¬ InUse o .initial entry number := by
    rintro (⟨_, _, _, ⟨_, _, _, _, found, _⟩, _⟩ | ⟨_, _, found, _⟩) <;> cases found
  exact ⟨fun _ _ found => (by cases found),
    fun entry number _ first => absurd first (nothing entry number)⟩

theorem AgreeInvariant.start {state : ReplicasState} (holds : AgreeInvariant o state) (i : Nat)
    {lbs routes : List ObjectKey}
    (loads : LoadsInUse o state (lbs.filterMap state.api.lbs.lookup)
      (routes.filterMap state.api.routes.lookup)) :
    AgreeInvariant o { state with
      processes := state.processes.insert i (startProcess state.api lbs routes) } := by
  refine ⟨?_, ?_⟩
  · intro j p found
    obtain ⟨rfl, rfl⟩ | ⟨_, old⟩ := lookup_of_lookup_insert found
    · exact fun e k number looked => (loads.of_lookup looked).1
    · exact holds.valid j p old
  · let New (entry : String × String) (number : Int) : Prop := IsLoadBalancerKey entry.1 ∧
      (startProcess state.api lbs routes).allocator.lookup entry.1 entry.2 = some number
    refine rightUnique_grow (N := New) holds.unique ?_ ?_ ?_
    · rintro _ _ _ ⟨_, first⟩ ⟨_, second⟩
      exact Option.some.inj (first.symm.trans second)
    · rintro ⟨e, k⟩ number number' ⟨isKey, looked⟩ inUse
      exact (loads.of_lookup looked).2 isKey number' inUse
    · rintro entry number (service | ⟨j, p, found, has⟩)
      · exact Or.inl (Or.inl service)
      · obtain ⟨rfl, rfl⟩ | ⟨_, old⟩ := lookup_of_lookup_insert found
        · exact Or.inr (has_startProcess has)
        · exact Or.inl (Or.inr ⟨j, p, old, has⟩)

/-- A step of one process, by what comes into use: `N`, for entries without a port. -/
theorem AgreeInvariant.of_act {state : ReplicasState} (holds : AgreeInvariant o state) {i : Nat}
    (running : state.processes.lookup i = some p) (valid : p'.allocator.Valid)
    {N : String × String → Int → Prop} (newUnique : Relator.RightUnique N)
    (unused : ∀ entry number number', N entry number → ¬ InUse o state entry number')
    (services : ∀ lb endpoint pair number, Targets o api' lb endpoint pair number →
      Targets o state.api lb endpoint pair number ∨
        p.Has (loadBalancerKey lb 0, targetPortKey endpoint pair) number)
    (has : ∀ entry number, p'.Has entry number → p.Has entry number ∨ N entry number) :
    AgreeInvariant o { state with api := api', processes := state.processes.insert i p' } := by
  refine ⟨?_, rightUnique_grow holds.unique newUnique ?_ ?_⟩
  · intro j q found
    obtain ⟨rfl, rfl⟩ | ⟨_, old⟩ := lookup_of_lookup_insert found
    · exact valid
    · exact holds.valid j q old
  · exact fun entry number number' new old => absurd old (unused entry number number' new)
  · rintro entry number (⟨lb, endpoint, pair, targets, rfl⟩ | ⟨j, q, found, hasNow⟩)
    · left
      obtain old | had := services lb endpoint pair number targets
      · exact Or.inl ⟨lb, endpoint, pair, old, rfl⟩
      · exact Or.inr ⟨i, p, running, had⟩
    · obtain ⟨rfl, rfl⟩ | ⟨_, old⟩ := lookup_of_lookup_insert found
      · obtain had | new := has entry number hasNow
        · exact Or.inl (Or.inr ⟨j, p, running, had⟩)
        · exact Or.inr new
      · exact Or.inl (Or.inr ⟨j, q, old, hasNow⟩)

/-- The same when nothing comes into use that the process did not have. -/
theorem AgreeInvariant.of_act_within {state : ReplicasState} (holds : AgreeInvariant o state)
    {i : Nat} (running : state.processes.lookup i = some p) (valid : p'.allocator.Valid)
    (services : ∀ lb endpoint pair number, Targets o api' lb endpoint pair number →
      Targets o state.api lb endpoint pair number ∨
        p.Has (loadBalancerKey lb 0, targetPortKey endpoint pair) number)
    (has : ∀ entry number, p'.Has entry number → p.Has entry number) :
    AgreeInvariant o { state with api := api', processes := state.processes.insert i p' } :=
  holds.of_act running valid (N := fun _ _ => False) (fun _ _ _ impossible => impossible.elim)
    (fun _ _ _ => False.elim) services fun entry number hasNow => Or.inl (has entry number hasNow)

theorem AgreeInvariant.act {state : ReplicasState} (holds : AgreeInvariant o state) {i : Nat}
    (running : state.processes.lookup i = some p) (alone : DrawsAlone o state p action)
    (taken : processStep o state.api p action = some (api', p')) :
    AgreeInvariant o { state with api := api', processes := state.processes.insert i p' } := by
  have valid := holds.valid i p running
  cases processStep_effect taken with
  | shrink table endpoints consistent services listeners =>
      refine holds.of_act_within running ?_ ?_ fun _ _ => .mono table listeners
      · exact fun e k number found => valid e k number (table e k number found)
      · exact fun _ _ _ _ targets => Or.inl (targets_of_services services targets)
  | allocate e portKeys draws rest updated fresh called allocated api_ listeners =>
      subst api_
      let New (entry : String × String) (number : Int) : Prop :=
        entry.1 = e ∧ (entry.2, number) ∈ fresh
      refine holds.of_act running (allocated.valid valid) (N := New) ?_ ?_
        (fun _ _ _ _ => Or.inl) ?_
      · rintro ⟨_, k⟩ number number' ⟨rfl, first⟩ ⟨_, second⟩
        exact congrArg Prod.snd (List.inj_on_of_nodup_map allocated.missing.nodup first second rfl)
      · rintro ⟨_, k⟩ number number' ⟨rfl, new⟩
        obtain ⟨asked, absent⟩ := (allocated.missing.keys k).mp (List.mem_map_of_mem new)
        refine alone.draws _ portKeys draws called k asked ?_ number'
        rw [lookup_eq_portsOf]
        exact Finmap.lookup_eq_none.mpr absent
      · rintro ⟨e', k⟩ number (⟨isKey, found⟩ | ⟨listener, lb, j, port, carried, rest⟩)
        · obtain old | new := allocated.lookup_cases found
          · exact Or.inl (Or.inl ⟨isKey, old⟩)
          · exact Or.inr new
        · exact Or.inl (Or.inr ⟨listener, lb, j, port, listeners listener carried, rest⟩)
  | write lb className annotations faults admission store task isWrite returned services origins
      allocator listeners =>
      subst isWrite
      refine holds.of_act_within running (allocator ▸ valid) ?_ fun _ _ =>
        .mono (fun _ _ _ found => allocator ▸ found) listeners
      exact fun _ _ _ _ => has_of_written valid (alone.looked lb className annotations task)
        (alone.names _ _ rfl lb className annotations task) returned services origins
  | build name lbs routes get snapshot task isBuild built api_ allocator listeners =>
      subst isBuild api_
      obtain ⟨allocated, apart⟩ := alone.looked name lbs routes task
      refine holds.of_act_within running (allocator ▸ valid) (fun _ _ _ _ => Or.inl) ?_
      rintro entry number (⟨isKey, found⟩ | ⟨listener, lb, j, port, carried, name, rfl, rfl⟩)
      · exact Or.inl ⟨isKey, allocator ▸ found⟩
      · obtain old | new := listeners listener carried
        · exact Or.inr ⟨listener, lb, j, port, old, name, rfl, rfl⟩
        · exact has_of_built valid allocated apart built new name

theorem AgreeInvariant.agree {state : ReplicasState} (holds : AgreeInvariant o state) :
    ReplicasAgree o state := by
  intro lb endpoint pair number targets i p name snapshot port listener running served sameKey
    indexed
  obtain ⟨listed, named⟩ := lastWith_eq_some indexed
  have byService : InUse o state (loadBalancerKey lb 0, targetPortKey endpoint pair) number :=
    Or.inl ⟨lb, endpoint, pair, targets, rfl⟩
  have byListener : InUse o state (loadBalancerKey lb 0, targetPortKey endpoint pair)
      listener.port :=
    Or.inr ⟨i, p, running, Or.inr ⟨listener, lb, 0, port, Or.inr ⟨name, snapshot, served, listed⟩,
      named, rfl, by rw [sameKey]⟩⟩
  exact holds.unique byListener byService

theorem agreeInvariant_step {state state' : ReplicasState} {action : ReplicasAction}
    (holds : AgreeInvariant o state) (agreeing : Agreeing o state action)
    (taken : replicasStep o state action = some state') : AgreeInvariant o state' := by
  cases action with
  | user action =>
      cases taken
      obtain ⟨services, origins⟩ := services_userStep state.api action
      have same : InUse o { state with api := userStep state.api action } = InUse o state := by
        funext entry number
        simp only [InUse, Targets, services, origins]
      exact ⟨holds.valid, same ▸ holds.unique⟩
  | start i lbs routes =>
      simp only [replicasStep] at taken
      split at taken
      · cases taken
      · cases taken
        exact holds.start i agreeing
  | stop i =>
      cases taken
      refine ⟨fun j p found => holds.valid j p (lookup_of_lookup_erase found), ?_⟩
      have within (entry : String × String) (number : Int) (inUse : InUse o { state with
          processes := state.processes.erase i
          leader := if state.leader = some i then none else state.leader } entry number) :
          InUse o state entry number := by
        obtain service | ⟨j, p, found, has⟩ := inUse
        · exact Or.inl service
        · exact Or.inr ⟨j, p, lookup_of_lookup_erase found, has⟩
      exact fun _ _ _ first second => holds.unique (within _ _ first) (within _ _ second)
  | elect i =>
      simp only [replicasStep] at taken
      split at taken
      · cases taken
        exact ⟨holds.valid, holds.unique⟩
      · cases taken
  | act i action =>
      simp only [replicasStep] at taken
      split at taken
      · obtain ⟨p, running, taken⟩ := Option.bind_eq_some_iff.mp taken
        obtain ⟨⟨api', p'⟩, stepped, taken⟩ := Option.bind_eq_some_iff.mp taken
        cases taken
        exact holds.act running (agreeing p running) stepped
      · cases taken

/-- In every run of the replicas in which a port is drawn only for an entry that has
none anywhere, a start loads the ports in use, and nothing falls back to a port of
the spec, every snapshot agrees with the Services. -/
theorem run_replicas_agree (o : ManagerOptions) (actions : List ReplicasAction)
    (agreeing : EachStep (replicasStep o) .initial actions
      fun state action _ => Agreeing o state action) :
    Throughout (replicasStep o) .initial actions (ReplicasAgree o) := by
  have invariant : Throughout (replicasStep o) .initial actions (AgreeInvariant o) := by
    refine throughout_of_eachStep (.initial o) ?_ agreeing
    exact fun _ _ _ holds meets taken => agreeInvariant_step holds meets taken
  intro before state small reached
  exact (invariant before state small reached).agree

/-- A step that neither writes nor builds meets the condition when each port key that it asks
for has a port already. -/
theorem agreeing_of_held {state : ReplicasState} {i : Nat}
    (held : ∀ p ∈ values state.processes, ((p.call action).all fun call =>
      call.1.2.all fun k => (p.allocator.lookup call.1.1 k).isSome) = true)
    (looked : ∀ p, NoFallback p action)
    (noWrite : ∀ faults admission, action ≠ .lbWrite faults admission) :
    Agreeing o state (.act i action) := by
  intro p running
  refine ⟨?_, looked p, fun _ _ same => absurd same (noWrite _ _)⟩
  intro e portKeys draws called k asked absent
  have all := held p ((mem_values _ _).mpr ⟨i, running⟩)
  rw [called, Option.all_some, List.all_eq_true] at all
  have has := all k asked
  rw [absent] at has
  cases has

/-- A step that draws nothing and neither writes nor builds meets the condition. -/
theorem agreeing_of_quiet {state : ReplicasState} {i : Nat}
    (noCall : ∀ p : Process, p.call action = none) (looked : ∀ p, NoFallback p action)
    (noWrite : ∀ faults admission, action ≠ .lbWrite faults admission) :
    Agreeing o state (.act i action) := by
  refine agreeing_of_held (fun p _ => ?_) looked noWrite
  rw [noCall, Option.all_none]

def ControlPlaneTask.snapshot : ControlPlaneTask → Option Snapshot
  | .built _ snapshot => some snapshot
  | _ => none

/-- While no replica has a snapshot, the ports in use are those of the Services and
of the tables. -/
theorem InUse.of_values {state : ReplicasState} {P : Int → Prop}
    (services : ∀ svc ∈ values state.api.services, ∀ q ∈ svc.ports, P q.targetPort.intValue)
    (tables : ∀ p ∈ values state.processes, ∀ number ∈ values₂ p.allocator.portLookup, P number)
    (silent : ∀ p ∈ values state.processes, p.cpTask.snapshot.isNone ∧ p.published.keys = ∅)
    {entry : String × String} {number : Int} (inUse : InUse o state entry number) : P number := by
  obtain ⟨_, _, _, ⟨_, _, _, svc, found, q, member, _, target⟩, _⟩ | ⟨i, p, running, has⟩ := inUse
  · have := services svc ((mem_values _ _).mpr ⟨_, found⟩) q member
    rwa [target] at this
  · have isValue : p ∈ values state.processes := (mem_values _ _).mpr ⟨i, running⟩
    obtain ⟨unbuilt, unpublished⟩ := silent p isValue
    obtain ⟨_, found⟩ | ⟨_, _, _, _, ⟨_, _, built, _⟩ | ⟨name, _, served, _⟩, _⟩ := has
    · exact tables p isValue number ((mem_values₂ _ _).mpr ⟨_, _, found⟩)
    · rw [built] at unbuilt
      cases unbuilt
    · have isKey : name ∈ p.published.keys :=
        Finmap.mem_keys.mpr (Finmap.mem_of_lookup_eq_some served)
      rw [unpublished] at isKey
      cases isKey

/-- The leader allocates, writes the Service and the status; a second replica starts
after that and serves the listener on the same port. -/
theorem replicas_agree_late_start :
    let x : LoadBalancer :=
      { ns := "tenant-t", name := "x", finalizers := [cleanupFinalizer]
        spec :=
          { endpoints := [{ ports := [{ name := "http", port := 30080, protocol := .tcp }] }]
            ports := [{ name := "http", port := 80, protocol := .tcp }] } }
    let actions : List ReplicasAction :=
      [.start 0 [] [], .elect 0, .user (.applyLoadBalancer x), .act 0 (.lbGet x.objectKey),
        .act 0 (.lbList [x.objectKey]), .act 0 (.lbDecide (.ok ({}, {})) none),
        .act 0 (.lbAllocate [0]), .act 0 (.lbWrite {} .verbatim),
        .act 0 (.lbStatus (fun _ => true) (fun _ => true) "" none), .start 1 [x.objectKey] [],
        .act 1 (.cpList "tenant-t" [x.objectKey] []), .act 1 (.cpAllocate []),
        .act 1 (.cpBuild fun _ => .error "not found"), .act 1 .cpPublish]
    let o : ManagerOptions := { ns := "kubelb" }
    (do
      let state ← run (replicasStep o) .initial actions
      let service ← state.api.services.lookup ⟨"tenant-t", "envoy-x"⟩
      let replica ← state.processes.lookup 1
      let snapshot ← replica.published.lookup "tenant-t"
      return (service.ports.map ServicePort.targetPort,
        snapshot.listeners.map fun listener => (listener.name, listener.port))) =
        some ([.int 10000], [("tenant-t-x-ep-0-port-30080-TCP", 10000)]) ∧
      Throughout (replicasStep o) .initial actions (ReplicasAgree o) := by
  intro x actions o
  refine ⟨by decide, run_replicas_agree o actions ?_⟩
  refine eachStep_taken rfl ⟨fun _ member => (by cases member),
    fun _ member => (by cases member)⟩ ?_
  refine eachStep_taken rfl trivial ?_
  refine eachStep_taken rfl trivial ?_
  refine eachStep_taken rfl (agreeing_of_quiet (fun _ => rfl) (fun _ => trivial) (by simp)) ?_
  refine eachStep_taken rfl (agreeing_of_quiet (fun _ => rfl) (fun _ => trivial) (by simp)) ?_
  refine eachStep_taken rfl (agreeing_of_quiet (fun _ => rfl) (fun _ => trivial) (by simp)) ?_
  refine eachStep_taken rfl ?_ ?_
  · intro p running
    cases running
    refine ⟨?_, trivial, by simp⟩
    intro _ _ _ called k asked _ number
    cases called
    exact InUse.of_values (P := fun _ => False) (by decide) (by decide) (by decide)
  refine eachStep_taken rfl ?_ ?_
  · intro p running
    cases running
    refine ⟨fun _ _ _ called => (by cases called), ?_, ?_⟩
    · intro _ _ _ task
      cases task
      decide
    · intro _ _ _ _ _ _ task
      cases task
      decide
  refine eachStep_taken rfl (agreeing_of_quiet (fun _ => rfl) (fun _ => trivial) (by simp)) ?_
  refine eachStep_taken rfl ?_ ?_
  · refine ⟨?_, fun _ member => (by cases member)⟩
    intro lb inLBs pair inEndpoints port inPorts recorded isRecorded
    have value : recorded.targetPort.intValue = 10000 := by
      revert lb pair port recorded
      decide
    refine ⟨by omega, fun number inUse => value.trans ?_⟩
    exact InUse.of_values (by decide) (by decide) (by decide) inUse
  refine eachStep_taken rfl (agreeing_of_quiet (fun _ => rfl) (fun _ => trivial) (by simp)) ?_
  refine eachStep_taken rfl (agreeing_of_held (by decide) (fun _ => trivial) (by simp)) ?_
  refine eachStep_taken rfl ?_ ?_
  · intro p running
    cases running
    refine ⟨fun _ _ _ called => (by cases called), ?_, by simp⟩
    intro _ _ _ task
    cases task
    exact ⟨by decide, fun _ member => (by cases member)⟩
  exact eachStep_cons fun _ _ =>
    ⟨agreeing_of_quiet (fun _ => rfl) (fun _ => trivial) (by simp), eachStep_nil _⟩

/-- Two replicas start before the LoadBalancer exists. The leader draws one port and
writes it to the Service, the other draws another and listens there. -/
theorem replicas_draw_different_ports :
    let x : LoadBalancer :=
      { ns := "tenant-t", name := "x", finalizers := [cleanupFinalizer]
        spec :=
          { endpoints := [{ ports := [{ name := "http", port := 30080, protocol := .tcp }] }]
            ports := [{ name := "http", port := 80, protocol := .tcp }] } }
    let actions : List ReplicasAction :=
      [.start 0 [] [], .start 1 [] [], .elect 0, .user (.applyLoadBalancer x),
        .act 0 (.lbGet x.objectKey), .act 0 (.lbList [x.objectKey]),
        .act 0 (.lbDecide (.ok ({}, {})) none), .act 0 (.lbAllocate [0]),
        .act 0 (.lbWrite {} .verbatim), .act 1 (.cpList "tenant-t" [x.objectKey] []),
        .act 1 (.cpAllocate [1]), .act 1 (.cpBuild fun _ => .error "not found"),
        .act 1 .cpPublish]
    let o : ManagerOptions := { ns := "kubelb" }
    (do
      let state ← run (replicasStep o) .initial actions
      let service ← state.api.services.lookup ⟨"tenant-t", "envoy-x"⟩
      let replica ← state.processes.lookup 1
      let snapshot ← replica.published.lookup "tenant-t"
      return (service.ports.map ServicePort.targetPort,
        snapshot.listeners.map fun listener => (listener.name, listener.port))) =
        some ([.int 10000], [("tenant-t-x-ep-0-port-30080-TCP", 10001)]) := by
  decide

end Steps

end KubeLB
