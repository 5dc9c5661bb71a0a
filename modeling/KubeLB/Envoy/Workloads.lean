import KubeLB.Envoy.Proxy
import KubeLB.Foundation.Runs
import KubeLB.Manager.Process

/-!
How many workloads run the Envoy of a namespace.

A reconcile sees one kind of workload, that of the Config at hand. When the Config has
changed its kind, the workload of the other kind is neither found nor deleted any more.
-/

namespace KubeLB
open FiniteMap Program Runs

inductive EnvoyAction
  | setConfig (config : EnvoyProxy)
  | setObjects (lbs : List LoadBalancer) (routes : List Route)
  | reconcile (ns : String) (env : EnvoyEnv)

def envoyStep (o : ManagerOptions) (world : EnvoyWorld) : EnvoyAction → Option EnvoyWorld
  | .setConfig config => some { world with config := config }
  | .setObjects lbs routes => some { world with lbs := lbs, routes := routes }
  | .reconcile ns env => (reconcileEnvoy o.topology o.ns env ns world).map Prod.snd

def envoyWorkload (o : ManagerOptions) (ns : String) (kind : WorkloadKind) : WorkloadId :=
  ⟨kind, ⟨envoyNamespace o.topology o.ns ns,
    envoyResourcePattern (envoyApplicationName o.topology ns)⟩⟩

def ownWorkload (o : ManagerOptions) (ns : String) (world : EnvoyWorld) : WorkloadId :=
  envoyWorkload o ns world.config.workloadKind

/-- A LoadBalancer or a Route of the namespace is there, if only to be deleted. -/
def NamespaceInUse (o : ManagerOptions) (ns : String) (world : EnvoyWorld) : Prop :=
  (∃ lb ∈ world.lbs, inScope o.topology ns lb.ns) ∨
    ∃ route ∈ world.routes, inScope o.topology ns route.ns

def Serves (o : ManagerOptions) (ns : String) (world : EnvoyWorld) : Prop :=
  listLoadBalancersAndRoutes o.topology ns world.lbs world.routes ≠ ([], [])

/-- At most one workload runs, and none for a namespace that is not in use. -/
structure OneWorkload (o : ManagerOptions) (ns : String) (world : EnvoyWorld) : Prop where
  one : ∀ kind kind', envoyWorkload o ns kind ∈ world.workloads →
    envoyWorkload o ns kind' ∈ world.workloads → kind = kind'
  unused : ¬ NamespaceInUse o ns world → ∀ kind, envoyWorkload o ns kind ∉ world.workloads

def Reconciles (o : ManagerOptions) (before : EnvoyWorld) (action : EnvoyAction) (ns : String)
    (after : EnvoyWorld) : Prop :=
  ∃ env, action = .reconcile ns env ∧
    reconcileEnvoy o.topology o.ns env ns before = some (.ok (), after)

def LeavesOneWorkload (o : ManagerOptions) (before : EnvoyWorld) (action : EnvoyAction)
    (after : EnvoyWorld) : Prop :=
  ∀ ns, Reconciles o before action ns after → OneWorkload o ns after

/-- No workload of another kind than the Config's is there, unless all that is left of
the namespace is about to be deleted. -/
def FindsNoOtherKind (o : ManagerOptions) (before : EnvoyWorld) (action : EnvoyAction)
    (after : EnvoyWorld) : Prop :=
  ∀ ns, Reconciles o before action ns after → Serves o ns before ∨ ¬ NamespaceInUse o ns before →
    ∀ kind, envoyWorkload o ns kind ∈ before.workloads → kind = before.config.workloadKind

/-- The Config changes its kind of workload only while there is none. -/
def ChangesKindWhenIdle (before : EnvoyWorld) (action : EnvoyAction) : Prop :=
  ∀ config, action = .setConfig config →
    config.useDaemonset = before.config.useDaemonset ∨ before.workloads = ∅

def OneKind (world : EnvoyWorld) : Prop :=
  ∀ workload ∈ world.workloads, workload.kind = world.config.workloadKind

/-- What a reconcile does to the world but for the ports and the cache: the workload of
the Config's kind may come or go. -/
structure TouchesWorkload (workload : WorkloadId) (before after : EnvoyWorld) : Prop where
  config : after.config = before.config
  lbs : after.lbs = before.lbs
  routes : after.routes = before.routes
  others : ∀ other ≠ workload, other ∈ after.workloads ↔ other ∈ before.workloads

section
variable {o : ManagerOptions} {env : EnvoyEnv} {world : EnvoyWorld} {ns : String}

theorem ensureEnvoyProxy_spec (envoyProxy : EnvoyProxy) (appName snapshotName : String) :
    let workload : WorkloadId := ⟨envoyProxy.workloadKind, ⟨ns, envoyResourcePattern appName⟩⟩
    Ensures world (ensureEnvoyProxy env envoyProxy ns appName snapshotName)
      (fun _ after => TouchesWorkload workload world after ∧ workload ∈ after.workloads)
      (fun after => TouchesWorkload workload world after) := by
  intro workload
  have unchanged : TouchesWorkload workload world world := ⟨rfl, rfl, rfl, fun _ _ => Iff.rfl⟩
  have inserted (stored : Workload) : TouchesWorkload workload world
      { world with workloads := world.workloads.insert workload stored } :=
    ⟨rfl, rfl, rfl, fun other differs => by simp [Finmap.mem_insert, differs]⟩
  unfold ensureEnvoyProxy
  refine Ensures.attempt unchanged ?_
  rw [ensures_bind, ensures_read]
  split
  · refine Ensures.attempt unchanged ⟨inserted _, ?_⟩
    exact Finmap.mem_insert.mpr (Or.inl rfl)
  · rename_i existing found
    split
    · refine Ensures.attempt unchanged ⟨inserted _, ?_⟩
      exact Finmap.mem_insert.mpr (Or.inl rfl)
    · exact ⟨unchanged, Finmap.mem_of_lookup_eq_some found⟩

theorem cleanupEnvoyProxy_spec (envoyProxy : EnvoyProxy) (appName : String) :
    let workload : WorkloadId := ⟨envoyProxy.workloadKind, ⟨ns, envoyResourcePattern appName⟩⟩
    Ensures world (cleanupEnvoyProxy env envoyProxy appName ns)
      (fun _ after => TouchesWorkload workload world after ∧ workload ∉ after.workloads)
      (fun after => TouchesWorkload workload world after) := by
  intro workload
  unfold cleanupEnvoyProxy
  refine Ensures.attempt ⟨rfl, rfl, rfl, fun _ _ => Iff.rfl⟩ ⟨⟨rfl, rfl, rfl, ?_⟩, ?_⟩
  · exact fun other differs => Finmap.mem_erase.trans (and_iff_right differs)
  · exact Finmap.notMem_erase_self

theorem publishSnapshot_spec (snapshotName : String) (lbs : List LoadBalancer)
    (routes : List Route) :
    Ensures world (publishSnapshot env snapshotName lbs routes)
      (fun _ after => after = { world with allocator := after.allocator, cache := after.cache })
      (fun after => after =
        { world with allocator := after.allocator, cache := after.cache }) := by
  unfold publishSnapshot
  rw [ensures_bind, ensures_bind, ensures_read, ensures_ofOption]
  intro allocated _
  rw [ensures_bind, ensures_write, ensures_bind, ensures_ofExcept]
  exact ⟨fun _ _ => Eq.refl _, fun _ _ => Eq.refl _⟩

/-- A reconcile that returns has the workload of the Config's kind exactly if there is
something to serve. -/
theorem reconcileEnvoy_spec :
    Ensures world (reconcileEnvoy o.topology o.ns env ns)
      (fun _ after => TouchesWorkload (ownWorkload o ns world) world after ∧
        (ownWorkload o ns world ∈ after.workloads ↔ Serves o ns world))
      (fun after => TouchesWorkload (ownWorkload o ns world) world after) := by
  have unchanged : TouchesWorkload (ownWorkload o ns world) world world :=
    ⟨rfl, rfl, rfl, fun _ _ => Iff.rfl⟩
  unfold reconcileEnvoy
  refine Ensures.attempt unchanged ?_
  rw [ensures_bind, ensures_read]
  refine Ensures.attempt unchanged ?_
  rw [ensures_bind, ensures_read]
  dsimp only
  split
  · rename_i idle
    rw [ensures_bind, ensures_write]
    have serves : ¬ Serves o ns world := fun serves => serves (Prod.ext idle.1 idle.2)
    refine (cleanupEnvoyProxy_spec _ _).mono (fun _ after => ?_) fun after touches => ?_
    · rintro ⟨touches, gone⟩
      exact ⟨⟨touches.config, touches.lbs, touches.routes, touches.others⟩,
        iff_of_false gone serves⟩
    · exact ⟨touches.config, touches.lbs, touches.routes, touches.others⟩
  · rename_i busy
    have serves : Serves o ns world := fun empty =>
      busy ⟨congrArg Prod.fst empty, congrArg Prod.snd empty⟩
    refine (ensureEnvoyProxy_spec _ _ _).bind (fun _ after => ?_) fun after touches => touches
    rintro ⟨touches, present⟩
    refine (publishSnapshot_spec _ _ _).mono (fun _ later same => ?_) fun later same => ?_
    · rw [same]
      exact ⟨⟨touches.config, touches.lbs, touches.routes, touches.others⟩,
        iff_of_true present serves⟩
    · rw [same]
      exact ⟨touches.config, touches.lbs, touches.routes, touches.others⟩

theorem namespaceInUse_congr {workload : WorkloadId} {after : EnvoyWorld}
    (touches : TouchesWorkload workload world after) :
    NamespaceInUse o ns after ↔ NamespaceInUse o ns world := by
  unfold NamespaceInUse
  rw [touches.lbs, touches.routes]

theorem Serves.namespaceInUse (serves : Serves o ns world) : NamespaceInUse o ns world := by
  by_contra idle
  simp only [NamespaceInUse, not_or, not_exists, not_and] at idle
  refine serves (Prod.ext ?_ ?_)
  · refine List.filter_eq_nil_iff.mpr fun lb member => ?_
    simp [idle.1 lb member]
  · refine List.filter_eq_nil_iff.mpr fun route member => ?_
    simp [idle.2 route member]

theorem envoyWorkload_injective {kind kind' : WorkloadKind}
    (same : envoyWorkload o ns kind = envoyWorkload o ns kind') : kind = kind' :=
  congrArg WorkloadId.kind same

theorem leavesOneWorkload_iff {action : EnvoyAction} {after : EnvoyWorld} :
    LeavesOneWorkload o world action after ↔ FindsNoOtherKind o world action after := by
  refine forall_congr' fun ns => forall_congr' fun reconciles => ?_
  obtain ⟨env, rfl, returned⟩ := reconciles
  obtain ⟨touches, own⟩ := reconcileEnvoy_spec.of_ok returned
  have other {kind : WorkloadKind} (differs : kind ≠ world.config.workloadKind) :=
    touches.others (envoyWorkload o ns kind) fun same => differs (envoyWorkload_injective same)
  constructor
  · rintro ⟨one, unused⟩ used kind present
    by_contra differs
    have still := (other differs).mpr present
    obtain serves | idle := used
    · exact differs (one kind _ still (own.mpr serves))
    · exact unused (fun used => idle ((namespaceInUse_congr touches).mp used)) kind still
  · intro finds
    by_cases serves : Serves o ns world
    · have all {kind : WorkloadKind} (present : envoyWorkload o ns kind ∈ after.workloads) :
          kind = world.config.workloadKind := by
        by_contra differs
        exact differs (finds (Or.inl serves) kind ((other differs).mp present))
      refine ⟨fun kind kind' first second => (all first).trans (all second).symm, ?_⟩
      intro idle
      exact absurd ((namespaceInUse_congr touches).mpr serves.namespaceInUse) idle
    · have otherKind {kind : WorkloadKind}
          (present : envoyWorkload o ns kind ∈ after.workloads) :
          kind ≠ world.config.workloadKind := by
        rintro rfl
        exact serves (own.mp present)
      refine ⟨fun kind kind' first second => ?_, fun idle kind present => ?_⟩
      · have first := otherKind first
        have second := otherKind second
        revert first second
        cases kind <;> cases kind' <;> cases world.config.workloadKind <;> simp
      · have idle := fun used => idle ((namespaceInUse_congr touches).mpr used)
        have differs := otherKind present
        exact differs (finds (Or.inr idle) kind ((other differs).mp present))

theorem envoyStep_oneKind {action : EnvoyAction} {after : EnvoyWorld} (oneKind : OneKind world)
    (changes : ChangesKindWhenIdle world action)
    (taken : envoyStep o world action = some after) : OneKind after := by
  cases action with
  | setConfig config =>
      rw [← Option.some.inj taken]
      obtain same | empty := changes config rfl
      · intro workload present
        rw [EnvoyProxy.workloadKind, same]
        exact oneKind workload present
      · intro workload present
        exact absurd present (empty ▸ Finmap.notMem_empty)
  | setObjects lbs routes =>
      rw [← Option.some.inj taken]
      exact oneKind
  | reconcile ns env =>
      obtain ⟨⟨outcome, later⟩, ran, rfl⟩ := Option.map_eq_some_iff.mp taken
      have touches : TouchesWorkload (ownWorkload o ns world) world later :=
        reconcileEnvoy_spec.elim ran (fun _ done => done.1) id
      intro workload present
      rw [touches.config]
      by_cases own : workload = ownWorkload o ns world
      · rw [own]
        rfl
      · exact oneKind workload ((touches.others workload own).mp present)

end

/-- Over every run: each reconcile that returns leaves at most one workload, and none
without use, exactly if none of them finds a workload of another kind than the Config
has. None does as long as the Config changes its kind only while no workload runs. -/
theorem one_workload_iff (o : ManagerOptions) (world : EnvoyWorld) (actions : List EnvoyAction) :
    (EachStep (envoyStep o) world actions (LeavesOneWorkload o) ↔
      EachStep (envoyStep o) world actions (FindsNoOtherKind o)) ∧
    (OneKind world →
      EachStep (envoyStep o) world actions
        (fun before action _ => ChangesKindWhenIdle before action) →
      EachStep (envoyStep o) world actions (LeavesOneWorkload o)) := by
  constructor
  · exact eachStep_congr_of_step (fun _ _ _ _ => leavesOneWorkload_iff) actions
  · intro start changes
    refine eachStep_of_eachStep start ?_ changes
    intro before action after oneKind changes taken
    refine ⟨envoyStep_oneKind oneKind changes taken, leavesOneWorkload_iff.mpr ?_⟩
    exact fun ns _ _ kind present => oneKind _ present

section
private def gridWorld : EnvoyWorld where
  config := {}
  lbs := [{ name := "grid", ns := "tenant-a" }]
  routes := []
  workloads := ∅
  allocator := newPortAllocator
  cache := ∅

/-- The Config changes, but not the kind of the workload. -/
theorem one_workload_same_kind :
    EachStep (envoyStep { ns := "kubelb" }) gridWorld
      [.reconcile "tenant-a" {}, .setConfig { replicas := 5 }, .reconcile "tenant-a" {}]
      (LeavesOneWorkload { ns := "kubelb" }) := by
  refine (one_workload_iff { ns := "kubelb" } gridWorld _).2 ?_ ?_
  · exact fun workload present => absurd present Finmap.notMem_empty
  · refine eachStep_cons fun middle first => ⟨?_, eachStep_cons fun _ _ => ⟨?_, ?_⟩⟩
    · rintro config ⟨⟩
    · rintro config ⟨⟩
      rw [← Option.some.inj first]
      exact Or.inl rfl
    · refine eachStep_cons fun _ _ => ⟨?_, eachStep_nil _⟩
      rintro config ⟨⟩

/-- UseDaemonset is switched on: the Deployment runs beside the DaemonSet, and it stays
when the last LoadBalancer has gone. -/
theorem changed_kind_keeps_deployment :
    let switched : List EnvoyAction := [.reconcile "tenant-a" {},
      .setConfig { useDaemonset := true }, .reconcile "tenant-a" {}]
    let key : ObjectKey := ⟨"tenant-a", "envoy-tenant-a"⟩
    (run (envoyStep { ns := "kubelb" }) gridWorld switched).map (·.workloads.keys) =
        some {⟨.deployment, key⟩, ⟨.daemonSet, key⟩} ∧
      (run (envoyStep { ns := "kubelb" }) gridWorld
        (switched ++ [.setObjects [] [], .reconcile "tenant-a" {}])).map (·.workloads.keys) =
        some {⟨.deployment, key⟩} := by
  decide

end

end KubeLB
