import KubeLB.Foundation.Informer
import KubeLB.Foundation.Runs
import KubeLB.Route.Bridge

/-!
The EndpointSlice of one Service of the global topology, while the Route controller writes
the Service and its bridge (bridgeservice_controller.go, manageServices in
route_controller.go).

The slice has the ports of the Service, but only events of the bridge start the controller
that writes it: a change of the Service is heard of by the change of the bridge that comes
with it. manageServices writes the bridge first. All three are read from the cache, which
lags behind; an Update of a slice that is not the present one fails. The cluster IPs are
assigned once. A request that comes from a resync is an action of its own. Deletions of
the two Services, which go together with the slice, are left out.
-/

namespace KubeLB
open FiniteMap Runs Informer

structure BridgeSetting where
  key : ObjectKey
  appName : String
  controllerNs : String
  clusterIPs : List String

structure BridgeWorld where
  bridge : Versions (Option Service) := { present := none }
  service : Versions (Option Service) := { present := none }
  slice : Versions (Option EndpointSlice) := { present := none }
  queued : Bool := false
  /-- The bridge that the reconcile has in hand. -/
  task : Option Service := none

inductive BridgeAction
  | writeBridge (svc : Service)
  | writeService (svc : Service)
  | deliverBridge
  | deliverService
  | deliverSlice
  | request
  | take
  /-- The rest of the reconcile, with the errors it meets. -/
  | work (faults sliceFaults : ApiFaults)
  | restart

/-- predicate.ByLabel for bridges, which is asked about both versions. -/
def isBridge (service : Option Service) : Bool :=
  service.any fun svc => svc.labels.lookup labelAppKubernetesType = some labelBridgeService

def slicePorts (service : Service) : List SlicePort :=
  service.ports.map fun port =>
    { name := port.name, port := port.targetPort.intVal, protocol := port.protocol }

section
variable (b : BridgeSetting)

def BridgeSetting.bridgeOf (svc : Service) : Service :=
  generateBridgeService svc b.appName b.controllerNs

def BridgeWorld.shown (w : BridgeWorld) : ServiceStore :=
  match w.service.seen with
  | none => ∅
  | some svc => (∅ : ServiceStore).insert b.key svc

def BridgeWorld.shownSlices (w : BridgeWorld) : SliceStore :=
  match w.slice.seen with
  | none => ∅
  | some slice => (∅ : SliceStore).insert b.key slice

/-- BridgeServiceReconciler.Reconcile up to the call of reconcile. -/
def BridgeWorld.take (w : BridgeWorld) : BridgeWorld :=
  match w.bridge.seen with
  | none => { w with queued := false }
  | some object =>
      if object.deletionTimestamp then { w with queued := false }
      else { w with queued := false, task := some object }

def BridgeWorld.work (w : BridgeWorld) (object : Service) (faults sliceFaults : ApiFaults) :
    BridgeWorld :=
  match reconcileBridge faults sliceFaults (w.shown b) b.clusterIPs (w.shownSlices b) object with
  | .error _ => { w with queued := true, task := none }
  | .ok slices =>
      if slices.lookup b.key = w.slice.seen then { w with task := none }
      else if w.slice.present = w.slice.seen then
        { w with slice := w.slice.write (slices.lookup b.key), task := none }
      else { w with queued := true, task := none }

def bridgeStep (w : BridgeWorld) : BridgeAction → Option BridgeWorld
  | .writeBridge svc =>
      if svc.objectKey = b.key then
        some { w with bridge := w.bridge.write (some (b.bridgeOf svc)) }
      else none
  | .writeService svc =>
      if svc.objectKey = b.key then some { w with service := w.service.write (some svc) }
      else none
  | .deliverBridge =>
      if w.bridge.behind = [] then none
      else
        some { w with
          bridge := w.bridge.advance
          queued := w.queued || isBridge w.bridge.seen || isBridge w.bridge.advance.seen }
  | .deliverService => some { w with service := w.service.advance }
  | .deliverSlice => some { w with slice := w.slice.advance }
  | .request => some { w with queued := true }
  | .take => if w.queued ∧ w.task = none then some w.take else none
  | .work faults sliceFaults => w.task.map fun object => w.work b object faults sliceFaults
  | .restart => some { w with queued := true, task := none }

end

/-- A reconcile without errors leaves a slice for the Service that it has read. -/
theorem reconcileBridge_spec {faults sliceFaults : ApiFaults} {store : ServiceStore}
    {clusterIPs : List String} {slices after : SliceStore} {object : Service}
    (returned : reconcileBridge faults sliceFaults store clusterIPs slices object = .ok after) :
    ∃ svc slice, store.lookup (originalServiceKey object) = some svc ∧
      after.lookup (originalServiceKey object) = some slice ∧
      slice.ports = slicePorts svc ∧ slice.addresses = clusterIPs := by
  simp only [reconcileBridge] at returned
  split at returned
  · cases returned
  split at returned
  · cases returned
  rename_i svc found
  set desired := bridgeEndpointSlice object svc clusterIPs with isDesired
  have key : desired.objectKey = originalServiceKey object := rfl
  rw [createOrUpdateEndpointSlice, key] at returned
  split at returned
  · cases returned
  split at returned
  · split at returned
    · cases returned
    · cases returned
      exact ⟨svc, desired, found, Finmap.lookup_insert _, rfl, rfl⟩
  · rename_i existing present
    split at returned
    · rename_i same
      cases returned
      exact ⟨svc, existing, found, present, same.1, same.2.1⟩
    · split at returned
      · cases returned
      · cases returned
        exact ⟨svc, desired, found, Finmap.lookup_insert _, rfl, rfl⟩

section
variable {b : BridgeSetting} {w w' : BridgeWorld}

theorem isBridge_bridgeOf (b : BridgeSetting) (svc : Service) :
    isBridge (some (b.bridgeOf svc)) = true := by
  simp [isBridge, BridgeSetting.bridgeOf, generateBridgeService]

def BridgeWorld.Serves (b : BridgeSetting) (w : BridgeWorld) (svc : Service) : Prop :=
  ∃ slice, w.slice.present = some slice ∧ slice.ports = slicePorts svc ∧
    slice.addresses = b.clusterIPs

def IsBridgeOf (b : BridgeSetting) (bridge : Option Service) : Prop :=
  ∀ object, bridge = some object → ∃ svc, svc.objectKey = b.key ∧ object = b.bridgeOf svc

structure BridgeWorld.Keyed (b : BridgeSetting) (w : BridgeWorld) : Prop where
  bridges : ∀ bridge ∈ w.bridge.all, IsBridgeOf b bridge
  task : IsBridgeOf b w.task

inductive BridgeWorld.Progress (b : BridgeSetting) (w : BridgeWorld) : Prop
  | absent (absent : w.bridge.present = none)
  | queued (queued : w.queued = true)
  | coming (coming : w.bridge.behind ≠ [])
  | working (working : w.task ≠ none)
  | served {svc : Service} (seen : w.service.seen = some svc) (serves : w.Serves b svc)

theorem IsBridgeOf.originalServiceKey {object : Service} (isBridge : IsBridgeOf b (some object)) :
    originalServiceKey object = b.key ∧ object.deletionTimestamp = false := by
  obtain ⟨svc, key, rfl⟩ := isBridge object rfl
  exact ⟨(originalServiceKey_bridge svc b.appName b.controllerNs).trans key, rfl⟩

/-- What a reconcile without errors makes of the slice that it is shown. -/
theorem reconcileBridge_shown_spec {object : Service} {faults sliceFaults : ApiFaults}
    {slices : SliceStore} (key : originalServiceKey object = b.key)
    (returned : reconcileBridge faults sliceFaults (w.shown b) b.clusterIPs (w.shownSlices b)
      object = .ok slices) :
    ∃ svc slice, w.service.seen = some svc ∧ slices.lookup b.key = some slice ∧
      slice.ports = slicePorts svc ∧ slice.addresses = b.clusterIPs := by
  obtain ⟨svc, slice, found, stored, ports, addresses⟩ := reconcileBridge_spec returned
  rw [key] at found stored
  refine ⟨svc, slice, ?_, stored, ports, addresses⟩
  unfold BridgeWorld.shown at found
  split at found
  · simp at found
  · rename_i shown seen
    rw [Finmap.lookup_insert] at found
    exact seen.trans found

theorem BridgeWorld.Keyed.step {a : BridgeAction} (keyed : w.Keyed b)
    (taken : bridgeStep b w a = some w') : w'.Keyed b := by
  have none_ : IsBridgeOf b none := by rintro _ ⟨⟩
  cases a with
  | writeBridge svc =>
      simp only [bridgeStep] at taken
      split at taken
      · rename_i own
        cases taken
        refine ⟨Versions.forall_mem_all_write.mpr ⟨keyed.bridges, ?_⟩, keyed.task⟩
        rintro _ ⟨⟩
        exact ⟨svc, own, rfl⟩
      · cases taken
  | writeService svc =>
      simp only [bridgeStep] at taken
      split at taken
      · cases taken
        exact ⟨keyed.bridges, keyed.task⟩
      · cases taken
  | deliverBridge =>
      simp only [bridgeStep] at taken
      split at taken
      · cases taken
      · cases taken
        exact ⟨Versions.forall_mem_all_advance keyed.bridges, keyed.task⟩
  | deliverService | deliverSlice | request =>
      cases taken
      exact ⟨keyed.bridges, keyed.task⟩
  | take =>
      simp only [bridgeStep, BridgeWorld.take] at taken
      split at taken
      · split at taken
        · cases taken
          exact ⟨keyed.bridges, keyed.task⟩
        · rename_i object seen
          split at taken
          · cases taken
            exact ⟨keyed.bridges, keyed.task⟩
          · cases taken
            exact ⟨keyed.bridges, seen ▸ keyed.bridges _ w.bridge.seen_mem⟩
      · cases taken
  | work faults sliceFaults =>
      obtain ⟨object, _, taken⟩ := Option.map_eq_some_iff.mp taken
      subst taken
      have left : (w.work b object faults sliceFaults).bridge = w.bridge ∧
          (w.work b object faults sliceFaults).task = none := by
        unfold BridgeWorld.work
        split
        · exact ⟨rfl, rfl⟩
        · split
          · exact ⟨rfl, rfl⟩
          · split <;> exact ⟨rfl, rfl⟩
      exact ⟨left.1 ▸ keyed.bridges, left.2 ▸ none_⟩
  | restart =>
      cases taken
      exact ⟨keyed.bridges, none_⟩

/-- Other ports of the Service reach the cache only while a run for its bridge is still to
come or has not yet read the Service, and a run is shown the slice as it is. -/
def BridgeWorld.Timely (w : BridgeWorld) : BridgeAction → Prop
  | .deliverService => w.service.advance.seen.map slicePorts ≠ w.service.seen.map slicePorts →
      w.queued = true ∨ w.bridge.behind ≠ [] ∨ w.task ≠ none
  | .work _ _ => w.slice.behind = []
  | _ => True

/-- A step that leaves bridge, queue and worker alone can only affect what is served. -/
theorem BridgeWorld.Progress.transport (progress : w.Progress b) (bridge : w'.bridge = w.bridge)
    (queued : w'.queued = w.queued) (task : w'.task = w.task)
    (served : ∀ svc, w.service.seen = some svc → w.Serves b svc → w'.Progress b) :
    w'.Progress b := by
  cases progress with
  | absent absent => exact .absent (bridge ▸ absent)
  | queued isQueued => exact .queued (queued.trans isQueued)
  | coming coming => exact .coming (bridge ▸ coming)
  | working working => exact .working (task ▸ working)
  | served seen serves => exact served _ seen serves

/-- The cache has moved on from one version of the Service to another. -/
theorem BridgeWorld.Progress.deliverService (progress : w.Progress b)
    (timely : w.Timely .deliverService) :
    BridgeWorld.Progress b { w with service := w.service.advance } := by
  refine progress.transport rfl rfl rfl fun svc seen serves => ?_
  by_cases same : w.service.advance.seen.map slicePorts = w.service.seen.map slicePorts
  · rw [seen, Option.map_some] at same
    obtain ⟨next, shown, ports⟩ := Option.map_eq_some_iff.mp same
    obtain ⟨slice, stored, isPorts, addresses⟩ := serves
    exact .served shown ⟨slice, stored, isPorts.trans ports.symm, addresses⟩
  · rcases timely same with queued | coming | working
    · exact .queued queued
    · exact .coming coming
    · exact .working working

theorem BridgeWorld.Progress.take (keyed : w.Keyed b) : BridgeWorld.Progress b w.take := by
  unfold BridgeWorld.take
  split
  · rename_i unseen
    by_cases caught : w.bridge.behind = []
    · exact .absent ((Versions.seen_eq_present caught).symm.trans unseen)
    · exact .coming caught
  · rename_i object seen
    have alive := (seen ▸ keyed.bridges _ w.bridge.seen_mem :
      IsBridgeOf b (some object)).originalServiceKey.2
    rw [if_neg (by simp [alive])]
    exact .working (by simp)

theorem BridgeWorld.Progress.work (keyed : w.Keyed b) {object : Service}
    (task : w.task = some object) (caught : w.slice.behind = [])
    (faults sliceFaults : ApiFaults) :
    BridgeWorld.Progress b (w.work b object faults sliceFaults) := by
  have key := (task ▸ keyed.task : IsBridgeOf b (some object)).originalServiceKey.1
  unfold BridgeWorld.work
  split
  · exact .queued rfl
  · rename_i slices returned
    obtain ⟨svc, slice, seen, made, fits⟩ := reconcileBridge_shown_spec key returned
    split
    · rename_i same
      rw [Versions.seen_eq_present caught, made] at same
      exact .served seen ⟨slice, same.symm, fits⟩
    · split
      · exact .served seen ⟨slice, made, fits⟩
      · exact .queued rfl

theorem BridgeWorld.Progress.step {a : BridgeAction} (progress : w.Progress b) (keyed : w.Keyed b)
    (timely : w.Timely a) (taken : bridgeStep b w a = some w') : w'.Progress b := by
  cases a with
  | writeBridge svc =>
      simp only [bridgeStep] at taken
      split at taken
      · cases taken
        exact .coming (Versions.behind_write_ne_nil _ _)
      · cases taken
  | writeService svc =>
      simp only [bridgeStep] at taken
      split at taken
      · cases taken
        exact progress.transport rfl rfl rfl fun _ seen serves =>
          .served ((Versions.seen_write _ _).trans seen) serves
      · cases taken
  | deliverBridge =>
      simp only [bridgeStep] at taken
      split at taken
      · cases taken
      · cases taken
        -- the version that the cache comes to show is one of manageServices
        cases next : w.bridge.advance.seen with
        | none =>
            by_cases caught : w.bridge.advance.behind = []
            · exact .absent ((Versions.seen_eq_present caught).symm.trans next)
            · exact .coming caught
        | some object =>
            obtain ⟨svc, _, rfl⟩ := (next ▸ Versions.forall_mem_all_advance keyed.bridges _
              w.bridge.advance.seen_mem : IsBridgeOf b (some object)) object rfl
            exact .queued (by simp [isBridge_bridgeOf])
  | deliverService =>
      cases taken
      exact progress.deliverService timely
  | deliverSlice =>
      cases taken
      exact progress.transport rfl rfl rfl fun _ seen serves => .served seen serves
  | request | restart =>
      cases taken
      exact .queued rfl
  | take =>
      simp only [bridgeStep] at taken
      split at taken
      · cases taken
        exact .take keyed
      · cases taken
  | work faults sliceFaults =>
      obtain ⟨object, task, taken⟩ := Option.map_eq_some_iff.mp taken
      subst taken
      exact .work keyed task timely faults sliceFaults

structure BridgeWorld.Quiescent (w : BridgeWorld) : Prop where
  queued : w.queued = false
  idle : w.task = none
  bridge : w.bridge.behind = []
  service : w.service.behind = []

end

/-! ### The first slice -/

section
variable {b : BridgeSetting} {w w' : BridgeWorld} {old svc : Service}

theorem originalServiceKey_bridgeOf (own : svc.objectKey = b.key) :
    originalServiceKey (b.bridgeOf svc) = b.key :=
  (originalServiceKey_bridge svc b.appName b.controllerNs).trans own

theorem reconcileBridge_shown (own : svc.objectKey = b.key) (seen : w.service.seen = some old) :
    reconcileBridge {} {} (w.shown b) b.clusterIPs (w.shownSlices b) (b.bridgeOf svc) =
      createOrUpdateEndpointSlice {} (w.shownSlices b)
        (bridgeEndpointSlice (b.bridgeOf svc) old b.clusterIPs) := by
  have found : (w.shown b).lookup (originalServiceKey (b.bridgeOf svc)) = some old := by
    rw [BridgeWorld.shown, seen, originalServiceKey_bridgeOf own]
    exact Finmap.lookup_insert _
  simp only [reconcileBridge, found]

theorem work_creates (own : svc.objectKey = b.key) (seen : w.service.seen = some old)
    (unseen : w.slice.seen = none) (absent : w.slice.present = none) :
    w.work b (b.bridgeOf svc) {} {} = { w with
      slice := w.slice.write (some (bridgeEndpointSlice (b.bridgeOf svc) old b.clusterIPs))
      task := none } := by
  have key : (bridgeEndpointSlice (b.bridgeOf svc) old b.clusterIPs).objectKey = b.key :=
    originalServiceKey_bridgeOf own
  have shown : w.shownSlices b = ∅ := by
    rw [BridgeWorld.shownSlices, unseen]
  rw [BridgeWorld.work, reconcileBridge_shown own seen, shown]
  simp [createOrUpdateEndpointSlice, Finmap.lookup_empty, key, unseen, absent]

def provisioned (svc : Service) : List BridgeAction :=
  [.writeBridge svc, .writeService svc, .deliverBridge, .deliverService, .take, .work {} {},
    .deliverSlice]

def BridgeSetting.synced (b : BridgeSetting) (svc : Service) : BridgeWorld where
  bridge := ⟨[], some (b.bridgeOf svc)⟩
  service := ⟨[], some svc⟩
  slice := ⟨[], some (bridgeEndpointSlice (b.bridgeOf svc) svc b.clusterIPs)⟩

theorem run_provisioned (own : svc.objectKey = b.key) :
    run (bridgeStep b) {} (provisioned svc) = some (b.synced svc) := by
  have alive : (b.bridgeOf svc).deletionTimestamp = false := rfl
  have made := work_creates (b := b) (w := { b.synced svc with
    slice := { present := none }, task := some (b.bridgeOf svc) }) own rfl rfl rfl
  simp only [BridgeSetting.synced] at made
  simp [run, provisioned, bridgeStep, own, Versions.write, Versions.advance, Versions.seen,
    isBridge_bridgeOf, BridgeWorld.take, alive, made, BridgeSetting.synced]

theorem BridgeWorld.slice_take (w : BridgeWorld) : w.take.slice = w.slice := by
  unfold BridgeWorld.take
  split
  · rfl
  · split <;> rfl

theorem timely_provisioned (own : svc.objectKey = b.key) :
    EachStep (bridgeStep b) {} (provisioned svc) fun w a _ => w.Timely a := by
  refine eachStep_cons fun w taken => ⟨trivial, ?_⟩
  simp only [bridgeStep, if_pos own] at taken
  cases taken
  refine eachStep_cons fun w taken => ⟨trivial, ?_⟩
  simp only [bridgeStep, if_pos own] at taken
  cases taken
  refine eachStep_cons fun w taken => ⟨trivial, ?_⟩
  simp only [bridgeStep, Versions.write, List.append_eq_nil_iff, List.cons_ne_nil, and_false,
    if_false] at taken
  cases taken
  -- the request of the bridge is in the queue when the Service is shown
  refine eachStep_cons fun w taken => ⟨fun _ => Or.inl ?_, ?_⟩
  · simp [Versions.advance, Versions.seen, isBridge_bridgeOf]
  cases taken
  refine eachStep_cons fun w taken => ⟨trivial, ?_⟩
  simp only [bridgeStep] at taken
  split at taken
  · cases taken
    refine eachStep_cons fun w taken => ⟨?_, ?_⟩
    · exact congrArg Versions.behind (BridgeWorld.slice_take _)
    · exact eachStep_cons fun w taken => ⟨trivial, eachStep_nil _⟩
  · cases taken

end

/-- In every run in which the Service is shown in time: once nothing is left to do, the
slice of a Service with a bridge leads to the bridge, by the target ports of the Service. -/
theorem slice_settles (b : BridgeSetting) {actions : List BridgeAction}
    (timely : EachStep (bridgeStep b) {} actions fun w a _ => w.Timely a) :
    Throughout (bridgeStep b) {} actions fun w =>
      w.Quiescent → w.bridge.present ≠ none →
        ∃ svc slice, w.service.present = some svc ∧ w.slice.present = some slice ∧
          slice.ports = slicePorts svc ∧ slice.addresses = b.clusterIPs := by
  have progress : Throughout (bridgeStep b) {} actions fun w => w.Keyed b ∧ w.Progress b := by
    refine throughout_of_eachStep (C := fun w a _ => BridgeWorld.Timely w a)
      (P := fun w => BridgeWorld.Keyed b w ∧ BridgeWorld.Progress b w)
      ⟨⟨?_, ?_⟩, .absent rfl⟩ ?_ timely
    · intro bridge shown
      simp only [Versions.all, List.nil_append, List.mem_singleton] at shown
      subst shown
      rintro _ ⟨⟩
    · rintro _ ⟨⟩
    · rintro w a w' ⟨keyed, progress⟩ timely taken
      exact ⟨keyed.step taken, progress.step keyed timely taken⟩
  intro before w small reached quiescent bridged
  cases (progress before w small reached).2 with
  | absent absent => exact absurd absent bridged
  | queued queued => exact absurd (quiescent.queued.symm.trans queued) (by decide)
  | coming coming => exact absurd quiescent.bridge coming
  | working working => exact absurd quiescent.idle working
  | @served svc seen serves =>
      obtain ⟨slice, stored, ports, addresses⟩ := serves
      rw [Versions.seen_eq_present quiescent.service] at seen
      exact ⟨svc, slice, seen, stored, ports, addresses⟩

def bridgedSetting : BridgeSetting :=
  ⟨⟨"tenant-primary", "web"⟩, "envoy", "kubelb", ["10.0.0.9"]⟩

def bridgedService (port : Int) : Service where
  name := "web"
  ns := "tenant-primary"
  ports := [{ name := "http", protocol := .tcp, port := 80, targetPort := .int port }]

theorem slice_settles_provisioned :
    ∃ w, run (bridgeStep bridgedSetting) {} (provisioned (bridgedService 10001)) = some w ∧
      w.Quiescent ∧
      ∃ svc slice, w.service.present = some svc ∧
        w.slice.present = some slice ∧
        slice.ports = slicePorts svc ∧ slice.addresses = bridgedSetting.clusterIPs := by
  have own : (bridgedService 10001).objectKey = bridgedSetting.key := rfl
  have quiescent : (bridgedSetting.synced (bridgedService 10001)).Quiescent :=
    ⟨rfl, rfl, rfl, rfl⟩
  exact ⟨_, run_provisioned own, quiescent, slice_settles bridgedSetting
    (timely_provisioned own) _ _ List.prefix_rfl (run_provisioned own) quiescent
    (Option.some_ne_none _)⟩

/-! ### A bridge that is reconciled before its Service -/

section
variable {b : BridgeSetting} {w w' : BridgeWorld} {old new svc : Service}

theorem bridgeEndpointSlice_bridgeOf (own : old.objectKey = b.key) (own' : new.objectKey = b.key)
    (svc : Service) : bridgeEndpointSlice (b.bridgeOf new) svc b.clusterIPs =
      bridgeEndpointSlice (b.bridgeOf old) svc b.clusterIPs := by
  simp only [bridgeEndpointSlice, originalServiceKey_bridgeOf own,
    originalServiceKey_bridgeOf own']

theorem work_keeps (own : svc.objectKey = b.key) (own' : new.objectKey = b.key)
    (seen : w.service.seen = some old)
    (stored : w.slice.seen = some (bridgeEndpointSlice (b.bridgeOf svc) old b.clusterIPs)) :
    w.work b (b.bridgeOf new) {} {} = { w with task := none } := by
  have key : (bridgeEndpointSlice (b.bridgeOf svc) old b.clusterIPs).objectKey = b.key :=
    originalServiceKey_bridgeOf own
  have shown : (w.shownSlices b).lookup
      (bridgeEndpointSlice (b.bridgeOf svc) old b.clusterIPs).objectKey =
        some (bridgeEndpointSlice (b.bridgeOf svc) old b.clusterIPs) := by
    rw [BridgeWorld.shownSlices, stored, key]
    exact Finmap.lookup_insert _
  rw [BridgeWorld.work, reconcileBridge_shown own' seen, bridgeEndpointSlice_bridgeOf own own']
  simp only [createOrUpdateEndpointSlice, shown, and_self, if_true]
  rw [key] at shown
  rw [if_pos (shown.trans stored.symm)]

/-- manageServices writes bridge and Service; the bridge is reconciled in between. -/
def overtaken (svc : Service) : List BridgeAction :=
  [.writeBridge svc, .deliverBridge, .take, .work {} {}, .writeService svc, .deliverService]

theorem run_overtaken (own : old.objectKey = b.key) (own' : new.objectKey = b.key) :
    run (bridgeStep b) (b.synced old) (overtaken new) = some { b.synced old with
      bridge := ⟨[], some (b.bridgeOf new)⟩, service := ⟨[], some new⟩ } := by
  have alive : (b.bridgeOf new).deletionTimestamp = false := rfl
  have kept := work_keeps (b := b) (w := { b.synced old with
    bridge := ⟨[], some (b.bridgeOf new)⟩, task := some (b.bridgeOf new) }) own own' rfl rfl
  simp only [BridgeSetting.synced] at kept
  simp [run, overtaken, bridgeStep, own', Versions.write, Versions.advance, Versions.seen,
    isBridge_bridgeOf, BridgeWorld.take, alive, kept, BridgeSetting.synced]

/-- Nobody gives the controller a reason to look at the bridge again. -/
def BridgeAction.Quiet : BridgeAction → Prop
  | .deliverBridge | .deliverService | .deliverSlice | .take | .work _ _ => True
  | _ => False

/-- The bridge has been reconciled, and the slice is that of an earlier Service. -/
structure BridgeWorld.LeftStale (b : BridgeSetting) (old new : Service) (w : BridgeWorld) :
    Prop where
  queued : w.queued = false
  idle : w.task = none
  caught : w.bridge.behind = []
  bridge : w.bridge.present = some (b.bridgeOf new)
  service : w.service.present = some new
  serves : w.Serves b old

theorem BridgeWorld.LeftStale.step {a : BridgeAction} (stale : w.LeftStale b old new)
    (quiet : a.Quiet) (taken : bridgeStep b w a = some w') : w'.LeftStale b old new := by
  cases a with
  | writeBridge | writeService | request | restart => cases quiet
  | deliverBridge =>
      simp only [bridgeStep, if_pos stale.caught] at taken
      cases taken
  | deliverService | deliverSlice =>
      cases taken
      exact ⟨stale.queued, stale.idle, stale.caught, stale.bridge, stale.service, stale.serves⟩
  | take =>
      simp only [bridgeStep, stale.queued, Bool.false_eq_true, false_and, if_false] at taken
      cases taken
  | work =>
      simp only [bridgeStep, stale.idle, Option.map_none] at taken
      cases taken

end

/-- A Service gets other target ports, and its bridge, which is written first, is
reconciled before the Service is written: then the slice keeps the old ports, whatever
else happens, until the bridge is written once more, the cache is resynced or the manager
is restarted. The bridge itself has no longer the ports that the slice leads to. -/
theorem overtaken_service_leaves_slice (b : BridgeSetting) (old new : Service)
    (own : old.objectKey = b.key) (own' : new.objectKey = b.key)
    (differs : slicePorts new ≠ slicePorts old) (later : List BridgeAction)
    (quiet : ∀ a ∈ later, a.Quiet) :
    ∃ w, run (bridgeStep b) {} (provisioned old ++ overtaken new) = some w ∧
      Throughout (bridgeStep b) w later fun w =>
        w.bridge.present = some (b.bridgeOf new) ∧ w.service.present = some new ∧
          w.Serves b old ∧ ¬ w.Serves b new := by
  have reached : run (bridgeStep b) {} (provisioned old ++ overtaken new) =
      some { b.synced old with
        bridge := ⟨[], some (b.bridgeOf new)⟩, service := ⟨[], some new⟩ } := by
    rw [run_append, run_provisioned own]
    exact run_overtaken own own'
  refine ⟨_, reached, ?_⟩
  have begun : BridgeWorld.LeftStale b old new { b.synced old with
      bridge := ⟨[], some (b.bridgeOf new)⟩, service := ⟨[], some new⟩ } := by
    refine ⟨rfl, rfl, rfl, rfl, rfl, ?_⟩
    exact ⟨bridgeEndpointSlice (b.bridgeOf old) old b.clusterIPs, rfl, rfl, rfl⟩
  have stale : Throughout (bridgeStep b) { b.synced old with
      bridge := ⟨[], some (b.bridgeOf new)⟩, service := ⟨[], some new⟩ } later
      (BridgeWorld.LeftStale b old new) := by
    refine throughout_of_eachStep (C := fun _ a _ => BridgeAction.Quiet a) begun ?_ ?_
    · intro w a w' stale quiet taken
      exact stale.step quiet taken
    · intro before a w w' small _ _
      exact quiet a (small.subset (List.mem_append_right _ (List.mem_singleton_self a)))
  intro before w small reached
  have left := stale before w small reached
  refine ⟨left.bridge, left.service, left.serves, ?_⟩
  rintro ⟨slice, stored, ports, _⟩
  obtain ⟨slice', stored', ports', _⟩ := left.serves
  cases stored.symm.trans stored'
  exact differs (ports.symm.trans ports')

theorem overtaken_service_leaves_slice_renumbered :
    ∃ w, run (bridgeStep bridgedSetting) {}
        (provisioned (bridgedService 10001) ++ overtaken (bridgedService 10002)) = some w ∧
      ∀ w', run (bridgeStep bridgedSetting) w [.deliverService] = some w' →
        w'.service.present = some (bridgedService 10002) ∧
          ¬ w'.Serves bridgedSetting (bridgedService 10002) := by
  obtain ⟨w, reached, stale⟩ := overtaken_service_leaves_slice bridgedSetting
    (bridgedService 10001) (bridgedService 10002) rfl rfl (by decide) [.deliverService]
    (by simp [BridgeAction.Quiet])
  refine ⟨w, reached, fun w' later => ?_⟩
  obtain ⟨_, service, _, lacks⟩ := stale _ w' List.prefix_rfl later
  exact ⟨service, lacks⟩

end KubeLB
