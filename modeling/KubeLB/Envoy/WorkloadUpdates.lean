import KubeLB.Envoy.Proxy

/-!
Whether a change of the Config reaches the workload that runs Envoy.

ensureEnvoyProxy builds the whole workload and updates the stored one only if
podTemplateSpecNeedsUpdate finds a difference between the two templates. The number of
replicas of a Deployment is no part of the template.
-/

namespace KubeLB
open FiniteMap Program

/-- The fields of a workload that a reconcile is to bring to their desired values. -/
structure ManagedFields where
  replicas : Option Int
  labels : FiniteMap String String
  annotations : FiniteMap String String
  terminationGracePeriodSeconds : Option Int
  containers : List Container
  affinity : Option Affinity
  tolerations : List Toleration
  nodeSelector : Option (FiniteMap String String)
  topologySpreadConstraints : List TopologySpreadConstraint
  deriving DecidableEq

/-- A DaemonSet has no replicas to look at. -/
def managedFields (kind : WorkloadKind) (workload : Workload) : ManagedFields where
  replicas :=
    match kind with
    | .deployment => workload.replicas
    | .daemonSet => none
  labels := workload.template.labels
  annotations := workload.template.annotations
  terminationGracePeriodSeconds := workload.template.terminationGracePeriodSeconds
  containers := workload.template.containers
  affinity := workload.template.affinity
  tolerations := workload.template.tolerations
  nodeSelector := workload.template.nodeSelector
  topologySpreadConstraints := workload.template.topologySpreadConstraints

structure EnsureCall where
  envoyProxy : EnvoyProxy
  bootstrap : String
  ns : String
  appName : String
  snapshotName : String

namespace EnsureCall

def kind (call : EnsureCall) : WorkloadKind := call.envoyProxy.workloadKind

def workload (call : EnsureCall) : WorkloadId :=
  ⟨call.kind, ⟨call.ns, envoyResourcePattern call.appName⟩⟩

def template (call : EnsureCall) : PodTemplate :=
  getEnvoyProxyPodSpec call.envoyProxy call.bootstrap call.ns call.appName call.snapshotName

/-- The workload that the call builds; the labels are those of the object at hand. -/
def built (call : EnsureCall) (labels : FiniteMap String String) : Workload :=
  desiredWorkload call.envoyProxy call.appName call.template labels

def run (call : EnsureCall) (faults : ApiFaults) : EnvoyProgram Unit :=
  ensureEnvoyProxy { workloads := faults, bootstrap := call.bootstrap } call.envoyProxy call.ns
    call.appName call.snapshotName

/-- With updates refused the call fails, so it has asked for one. -/
def RequestsUpdate (call : EnsureCall) (world : EnvoyWorld) : Prop :=
  ∃ err after, call.run { update := fun _ => some "refused" } world = some (.error err, after)

/-- What the call should do in a world: ask for an update of a stored workload that
differs from the one built, and leave the fields as they were built when it succeeds,
whatever requests fail. -/
structure BringsUpToDate (call : EnsureCall) (world : EnvoyWorld) : Prop where
  requests : ∀ existing, world.workloads.lookup call.workload = some existing →
    managedFields call.kind existing ≠ managedFields call.kind (call.built existing.labels) →
    call.RequestsUpdate world
  leaves : ∀ faults after, call.run faults world = some (.ok (), after) →
    ∃ stored, after.workloads.lookup call.workload = some stored ∧
      managedFields call.kind stored = managedFields call.kind (call.built stored.labels)

variable (call : EnsureCall) {world : EnvoyWorld} {existing : Workload}

/-- What is not compared: the replicas of a Deployment. -/
def SameReplicas (existing : Workload) : Prop :=
  call.envoyProxy.useDaemonset = true ∨ existing.replicas = some call.envoyProxy.replicas

theorem needsUpdate_eq_false_iff (original desired : PodTemplate) :
    podTemplateSpecNeedsUpdate original desired = false ↔
      original.annotations = desired.annotations ∧ original.labels = desired.labels ∧
      original.terminationGracePeriodSeconds = desired.terminationGracePeriodSeconds ∧
      original.containers = desired.containers ∧ original.affinity = desired.affinity ∧
      original.tolerations = desired.tolerations ∧
      original.nodeSelector = desired.nodeSelector ∧
      original.topologySpreadConstraints = desired.topologySpreadConstraints := by
  simp only [podTemplateSpecNeedsUpdate, decide_eq_false_iff_not, not_or, not_not]

/-- The fields are those built exactly when the templates are found equal and the
replicas are the same. -/
theorem managedFields_eq_iff :
    managedFields call.kind existing = managedFields call.kind (call.built existing.labels) ↔
      podTemplateSpecNeedsUpdate existing.template call.template = false ∧
        call.SameReplicas existing := by
  have replicas : (managedFields call.kind existing).replicas =
      (managedFields call.kind (call.built existing.labels)).replicas ↔
        call.SameReplicas existing := by
    unfold managedFields SameReplicas kind EnvoyProxy.workloadKind built desiredWorkload
    cases call.envoyProxy.useDaemonset <;> simp
  rw [needsUpdate_eq_false_iff, ← replicas, ManagedFields.mk.injEq]
  constructor
  · rintro ⟨replicas, labels, annotations, period, containers, affinity, tolerations, selector,
      spread⟩
    exact ⟨⟨annotations, labels, period, containers, affinity, tolerations, selector, spread⟩,
      replicas⟩
  · rintro ⟨⟨annotations, labels, period, containers, affinity, tolerations, selector, spread⟩,
      replicas⟩
    exact ⟨replicas, labels, annotations, period, containers, affinity, tolerations, selector,
      spread⟩

/-- How a call ends: it creates a workload that is not there, and asks for an update of
one that is exactly when the templates are found different. -/
theorem run_eq (faults : ApiFaults) (world : EnvoyWorld) :
    call.run faults world =
      match faults.get call.workload.key, world.workloads.lookup call.workload with
      | some err, _ => some (.error ("failed to update Envoy proxy: " ++ err), world)
      | none, none =>
          match faults.create call.workload.key with
          | some err => some (.error ("failed to update Envoy proxy: " ++ err), world)
          | none => some (.ok (), { world with
              workloads := world.workloads.insert call.workload
                (call.built (workloadLabels call.appName)) })
      | none, some existing =>
          if podTemplateSpecNeedsUpdate existing.template call.template then
            match faults.update call.workload.key with
            | some err => some (.error ("failed to update Envoy proxy: " ++
                ("failed to update envoy proxy: " ++ err)), world)
            | none => some (.ok (), { world with
                workloads := world.workloads.insert call.workload
                  (call.built existing.labels) })
          else some (.ok (), world) := by
  unfold run ensureEnvoyProxy
  rw [show (⟨call.envoyProxy.workloadKind, ⟨call.ns, envoyResourcePattern call.appName⟩⟩ :
    WorkloadId) = call.workload from rfl]
  cases faults.get call.workload.key with
  | some err => rfl
  | none =>
      rw [Option.map_none, attempt_none_bind, read_bind]
      cases world.workloads.lookup call.workload with
      | none => cases faults.create call.workload.key <;> rfl
      | some existing =>
          change (if podTemplateSpecNeedsUpdate existing.template call.template then _
            else pure () : EnvoyProgram Unit) world = _
          by_cases different : podTemplateSpecNeedsUpdate existing.template call.template = true
          · simp only [if_pos different]
            cases faults.update call.workload.key <;> rfl
          · simp only [if_neg different]
            rfl

/-- An update is asked for exactly when the templates are found different. -/
theorem requestsUpdate_iff (present : world.workloads.lookup call.workload = some existing) :
    call.RequestsUpdate world ↔
      podTemplateSpecNeedsUpdate existing.template call.template = true := by
  have ran : call.run { update := fun _ => some "refused" } world =
      if podTemplateSpecNeedsUpdate existing.template call.template then
        some (.error ("failed to update Envoy proxy: " ++
          ("failed to update envoy proxy: " ++ "refused")), world)
      else some (.ok (), world) := by
    rw [run_eq, present]
  unfold RequestsUpdate
  rw [ran]
  by_cases different : podTemplateSpecNeedsUpdate existing.template call.template = true
  · rw [if_pos different]
    exact iff_of_true ⟨_, _, rfl⟩ different
  · rw [if_neg different]
    exact iff_of_false (by rintro ⟨err, after, ⟨⟩⟩) different

/-- A call that succeeds leaves the workload as it was built, or one that was there and
whose template was found equal. -/
theorem stored_of_run {faults : ApiFaults} {after : EnvoyWorld}
    (returned : call.run faults world = some (.ok (), after)) :
    ∃ stored, after.workloads.lookup call.workload = some stored ∧
      (managedFields call.kind stored = managedFields call.kind (call.built stored.labels) ∨
        (world.workloads.lookup call.workload = some stored ∧
          podTemplateSpecNeedsUpdate stored.template call.template = false)) := by
  rw [run_eq] at returned
  split at returned
  · cases returned
  · split at returned
    · cases returned
    · cases returned
      exact ⟨_, Finmap.lookup_insert _, Or.inl rfl⟩
  · rename_i existing _ present
    split at returned
    · split at returned
      · cases returned
      · cases returned
        exact ⟨_, Finmap.lookup_insert _, Or.inl rfl⟩
    · rename_i same
      cases returned
      exact ⟨existing, present, Or.inr ⟨present, Bool.eq_false_of_not_eq_true same⟩⟩

/-- The workload is brought up to date exactly when, if there is one already, its
template is found different from the one built or its replicas are those of the Config. -/
theorem bringsUpToDate_iff (world : EnvoyWorld) :
    call.BringsUpToDate world ↔
      ∀ existing, world.workloads.lookup call.workload = some existing →
        podTemplateSpecNeedsUpdate existing.template call.template = true ∨
          call.SameReplicas existing := by
  constructor
  · intro upToDate existing present
    by_cases same : managedFields call.kind existing =
        managedFields call.kind (call.built existing.labels)
    · exact Or.inr ((call.managedFields_eq_iff).mp same).2
    · exact Or.inl ((call.requestsUpdate_iff present).mp (upToDate.requests existing present same))
  · intro condition
    constructor
    · intro existing present differs
      refine (call.requestsUpdate_iff present).mpr ?_
      rcases condition existing present with different | replicas
      · exact different
      · by_contra equal
        exact differs ((call.managedFields_eq_iff).mpr
          ⟨Bool.eq_false_of_not_eq_true equal, replicas⟩)
    · intro faults after returned
      obtain ⟨stored, found, fields | ⟨present, same⟩⟩ := call.stored_of_run returned
      · exact ⟨stored, found, fields⟩
      · have replicas := (condition stored present).resolve_left (by simp [same])
        exact ⟨stored, found, (call.managedFields_eq_iff).mpr ⟨same, replicas⟩⟩

end EnsureCall

/-- The call for a namespace with a Config that asks for so many replicas. -/
def scaledCall (replicas : Int) : EnsureCall where
  envoyProxy := { replicas := replicas }
  bootstrap := ""
  ns := "tenant-t"
  appName := "tenant-t"
  snapshotName := "tenant-t"

/-- The Config goes from three replicas to five and changes in nothing else: no update
is asked for, and the Deployment keeps its three. -/
theorem scaled_config_not_applied :
    let stored := (scaledCall 3).built (workloadLabels "tenant-t")
    let world : EnvoyWorld :=
      { config := { replicas := 5 }, lbs := [], routes := []
        workloads := Finmap.singleton (scaledCall 5).workload stored
        allocator := newPortAllocator, cache := ∅ }
    (scaledCall 5).run {} world = some (.ok (), world) ∧ stored.replicas = some 3 ∧
      ¬ (scaledCall 5).RequestsUpdate world ∧ ¬ (scaledCall 5).BringsUpToDate world := by
  intro stored world
  have present : world.workloads.lookup (scaledCall 5).workload = some stored :=
    Finmap.lookup_singleton_eq
  have same : podTemplateSpecNeedsUpdate stored.template (scaledCall 5).template = false :=
    (EnsureCall.needsUpdate_eq_false_iff _ _).mpr ⟨rfl, rfl, rfl, rfl, rfl, rfl, rfl, rfl⟩
  have noRequest : ¬ (scaledCall 5).RequestsUpdate world := by
    rw [(scaledCall 5).requestsUpdate_iff present, same]
    decide
  refine ⟨?_, rfl, noRequest, ?_⟩
  · rw [EnsureCall.run_eq, present]
    simp only [same]
    rfl
  · intro upToDate
    refine noRequest (upToDate.requests stored present fun equal => ?_)
    exact absurd (congrArg ManagedFields.replicas equal) (by decide)

end KubeLB
