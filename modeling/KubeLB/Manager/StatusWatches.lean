import KubeLB.Foundation.Informer
import KubeLB.Manager.Process

/-!
Whether the status of a LoadBalancer is left behind (Reconcile,
updateLoadBalancerStatus, filterServicesPredicate and the watches in
internal/controllers/kubelb/loadbalancer_controller.go).

One LoadBalancer and its Service, with the informers through which the manager
reads both. A version that is written reaches the cache later, and only then do its
filters decide whether the LoadBalancer is queued. `labelled` is the answer of
the filter on namespaces at that time: it asks for the label on the namespace of
the object, which for a Service of the global topology is that of the manager.
An update of an object whose cached version is not the present one is a conflict.

The LoadBalancer is not deleted and not disabled, and it has no hostname. Of the
status of a Service the ingress is kept.
-/

namespace KubeLB.StatusWatch
open FiniteMap Informer Runs

/-- filterServicesPredicate, for the version before and the one after an event. -/
def filterServicesPredicate : Option Service → Option Service → Bool
  | none, none => false
  | none, some new => (new.labels.lookup labelLoadBalancerName).getD "" ≠ ""
  | some old, none => (old.labels.lookup labelLoadBalancerName).getD "" ≠ ""
  | some old, some new =>
      (new.labels.lookup labelLoadBalancerName).getD "" ≠ "" ∧ new.ingress ≠ old.ingress

def loadBalancerOfService (service : Service) : List ObjectKey :=
  match service.labels.lookup labelLoadBalancerName,
    service.labels.lookup labelLoadBalancerNamespace with
  | some name, some ns => [⟨ns, name⟩]
  | _, _ => []

/-- The requests of an event of a Service; the handler is called for both versions. -/
def serviceRequests (old new : Option Service) : List ObjectKey :=
  if filterServicesPredicate old new then
    (old.toList ++ new.toList).flatMap loadBalancerOfService
  else []

inductive StatusTask
  | idle
  | got (lb : LoadBalancer)
  | written (lb : LoadBalancer)
  | read (lb : LoadBalancer) (service : Service)

structure StatusWorld where
  lb : Versions LoadBalancer
  service : Versions (Option Service)
  queued : Bool
  task : StatusTask := .idle

structure ServiceCall where
  faults : ApiFaults := {}
  admission : Admission
  allocator : PortAllocator
  className : Option String := none
  annotations : AnnotationSettings

inductive StatusAction
  /-- The CCM or a user changes the LoadBalancer, its status apart. -/
  | edit (lb : LoadBalancer)
  | setIngress (ingress : List LoadBalancerIngress)
  /-- Others change something else of the Service. -/
  | touch (service : Service)
  | deleteService
  | deliverLoadBalancer (labelled : Bool)
  | deliverService (labelled : Bool)
  /-- An event of the Config or of the Tenant, or one of a resync. -/
  | request
  | take (updateFault : Option String)
  | write (call : ServiceCall)
  | read
  | record (fault : Option String)
  | fail
  | restart (labelled : Bool)

/-- A merge patch of the difference between two statuses, applied to a third one. -/
def patchStatus (original changed current : LoadBalancerStatus) : LoadBalancerStatus where
  ingress := if original.ingress = changed.ingress then current.ingress else changed.ingress
  servicePorts :=
    if original.servicePorts = changed.servicePorts then current.servicePorts
    else changed.servicePorts
  hostname := if original.hostname = changed.hostname then current.hostname else changed.hostname

theorem patchStatus_self (current changed : LoadBalancerStatus) :
    patchStatus current changed current = changed := by
  simp only [patchStatus, ite_eq_right_iff.mpr id]

namespace StatusWorld
variable (s : StatusWorld)

def requeue : StatusWorld := { s with queued := true, task := .idle }

def take (updateFault : Option String) : StatusWorld :=
  let lb := s.lb.seen
  if lb.spec.endpoints = [] then { s with queued := false }
  else if cleanupFinalizer ∈ lb.finalizers then { s with queued := false, task := .got lb }
  else if updateFault = none ∧ s.lb.behind = [] then
    { s with
      queued := false
      lb := s.lb.write (withFinalizer lb)
      task := .got (withFinalizer lb) }
  else s.requeue

def write (o : ManagerOptions) (lb : LoadBalancer) (call : ServiceCall) : StatusWorld :=
  let key := loadBalancerServiceKey o.topology o.ns lb
  match reconcileService call.faults call.admission (assign ∅ key s.service.seen) lb key
    (envoyApplicationName o.topology lb.ns) call.allocator call.className call.annotations with
  | some (.ok store) =>
      if store.lookup key = s.service.seen then { s with task := .written lb }
      else if s.service.behind = [] then
        { s with service := s.service.write (store.lookup key), task := .written lb }
      else s.requeue
  | _ => s.requeue

/-- updateLoadBalancerStatus of the controller. The LoadBalancer is read once more for
the patch. -/
def record (lb : LoadBalancer) (service : Service) (fault : Option String) : StatusWorld :=
  match updateLoadBalancerStatus (fun _ => false) (fun _ => false) lb service "" with
  | none => s.requeue
  | some status =>
      let patched := patchStatus s.lb.seen.status status s.lb.present.status
      if status = lb.status then { s with task := .idle }
      else if fault ≠ none then s.requeue
      else if s.lb.seen.status = status ∨ patched = s.lb.present.status then
        { s with task := .idle }
      else
        { s with lb := s.lb.write { s.lb.present with status := patched }, task := .idle }

end StatusWorld

def statusStep (o : ManagerOptions) (s : StatusWorld) : StatusAction → Option StatusWorld
  | .edit lb =>
      if lb.objectKey = s.lb.present.objectKey ∧ lb.status = s.lb.present.status then
        some { s with lb := s.lb.write lb }
      else none
  | .setIngress ingress => do
      let service ← s.service.present
      return { s with service := s.service.write (some { service with ingress := ingress }) }
  | .touch service => do
      let present ← s.service.present
      if service.labels = present.labels ∧ service.ports = present.ports ∧
          service.ingress = present.ingress then
        return { s with service := s.service.write (some service) }
      else none
  | .deleteService => do
      let _ ← s.service.present
      return { s with service := s.service.write none }
  | .deliverLoadBalancer labelled =>
      if s.lb.behind = [] then none
      else some { s with lb := s.lb.advance, queued := s.queued || labelled }
  | .deliverService labelled =>
      if s.service.behind = [] then none
      else
        let requests := serviceRequests s.service.seen s.service.advance.seen
        some { s with
          service := s.service.advance
          queued := s.queued || (labelled && decide (s.lb.present.objectKey ∈ requests)) }
  | .request => some { s with queued := true }
  | .take updateFault =>
      match s.task with
      | .idle => if s.queued then some (s.take updateFault) else none
      | _ => none
  | .write call =>
      match s.task with
      | .got lb => some (s.write o lb call)
      | _ => none
  | .read =>
      match s.task with
      | .written lb =>
          match s.service.seen with
          | some service => some { s with task := .read lb service }
          | none => some s.requeue
      | _ => none
  | .record fault =>
      match s.task with
      | .read lb service => some (s.record lb service fault)
      | _ => none
  | .fail =>
      match s.task with
      | .idle => none
      | _ => some s.requeue
  | .restart labelled =>
      some {
        lb := { present := s.lb.present }
        service := { present := s.service.present }
        queued := labelled }

inductive StatusEffect (o : ManagerOptions) (s : StatusWorld) : StatusAction → StatusWorld → Prop
  | edit {lb : LoadBalancer} (named : lb.objectKey = s.lb.present.objectKey) :
      StatusEffect o s (.edit lb) { s with lb := s.lb.write lb }
  | setIngress {ingress : List LoadBalancerIngress} {service : Service}
      (found : s.service.present = some service) :
      StatusEffect o s (.setIngress ingress)
        { s with service := s.service.write (some { service with ingress := ingress }) }
  | touch {service present : Service} (found : s.service.present = some present)
      (labels : service.labels = present.labels) (ports : service.ports = present.ports)
      (ingress : service.ingress = present.ingress) :
      StatusEffect o s (.touch service) { s with service := s.service.write (some service) }
  | deleteService {service : Service} (found : s.service.present = some service) :
      StatusEffect o s .deleteService { s with service := s.service.write none }
  | deliverLoadBalancer {labelled : Bool} (behind : s.lb.behind ≠ []) :
      StatusEffect o s (.deliverLoadBalancer labelled)
        { s with lb := s.lb.advance, queued := s.queued || labelled }
  | deliverService {labelled : Bool} :
      StatusEffect o s (.deliverService labelled)
        { s with
          service := s.service.advance
          queued := s.queued || (labelled && decide (s.lb.present.objectKey ∈
            serviceRequests s.service.seen s.service.advance.seen)) }
  | request : StatusEffect o s .request { s with queued := true }
  | take {updateFault : Option String} (idle : s.task = .idle) (queued : s.queued = true) :
      StatusEffect o s (.take updateFault) (s.take updateFault)
  | write {lb : LoadBalancer} {call : ServiceCall} (got : s.task = .got lb) :
      StatusEffect o s (.write call) (s.write o lb call)
  | read {lb : LoadBalancer} {service : Service} (written : s.task = .written lb)
      (shown : s.service.seen = some service) :
      StatusEffect o s .read { s with task := .read lb service }
  | missing {lb : LoadBalancer} (written : s.task = .written lb) :
      StatusEffect o s .read s.requeue
  | record {lb : LoadBalancer} {service : Service} {fault : Option String}
      (read : s.task = .read lb service) :
      StatusEffect o s (.record fault) (s.record lb service fault)
  | fail (busy : s.task ≠ .idle) : StatusEffect o s .fail s.requeue
  | restart {labelled : Bool} :
      StatusEffect o s (.restart labelled)
        { lb := { present := s.lb.present }, service := { present := s.service.present },
          queued := labelled }

theorem statusEffect_of_step {o : ManagerOptions} {s s' : StatusWorld} {a : StatusAction}
    (taken : statusStep o s a = some s') : StatusEffect o s a s' := by
  cases a with
  | edit lb =>
      simp only [statusStep] at taken
      split at taken
      · rename_i same
        cases taken
        exact .edit same.1
      · cases taken
  | setIngress ingress =>
      obtain ⟨service, found, taken⟩ := Option.bind_eq_some_iff.mp taken
      cases taken
      exact .setIngress found
  | touch service =>
      obtain ⟨present, found, taken⟩ := Option.bind_eq_some_iff.mp taken
      split at taken
      · rename_i same
        cases taken
        exact .touch found same.1 same.2.1 same.2.2
      · cases taken
  | deleteService =>
      obtain ⟨_, found, taken⟩ := Option.bind_eq_some_iff.mp taken
      cases taken
      exact .deleteService found
  | deliverLoadBalancer labelled =>
      simp only [statusStep] at taken
      split at taken
      · cases taken
      · rename_i behind
        cases taken
        exact .deliverLoadBalancer behind
  | deliverService labelled =>
      simp only [statusStep] at taken
      split at taken
      · cases taken
      · cases taken
        exact .deliverService
  | request =>
      cases taken
      exact .request
  | take updateFault =>
      simp only [statusStep] at taken
      split at taken
      · rename_i idle
        split at taken
        · rename_i queued
          cases taken
          exact .take idle queued
        · cases taken
      · cases taken
  | write call =>
      simp only [statusStep] at taken
      split at taken
      · rename_i lb got
        cases taken
        exact .write got
      · cases taken
  | read =>
      simp only [statusStep] at taken
      split at taken
      · rename_i lb written
        split at taken
        · rename_i service shown
          cases taken
          exact .read written shown
        · cases taken
          exact .missing written
      · cases taken
  | record fault =>
      simp only [statusStep] at taken
      split at taken
      · rename_i lb service read
        cases taken
        exact .record read
      · cases taken
  | fail =>
      simp only [statusStep] at taken
      split at taken
      · cases taken
      · rename_i busy
        cases taken
        exact .fail busy
  | restart labelled =>
      cases taken
      exact .restart

/-! ## What an event of a Service tells -/

structure LeadsTo (key : ObjectKey) (service : Service) : Prop where
  name : service.labels.lookup labelLoadBalancerName = some key.name
  ns : service.labels.lookup labelLoadBalancerNamespace = some key.ns

section
variable {key : ObjectKey}

theorem LeadsTo.mem_requests {service : Service} (leads : LeadsTo key service) :
    key ∈ loadBalancerOfService service := by
  rw [loadBalancerOfService, leads.name, leads.ns]
  exact List.mem_singleton_self _

/-- An event is heard of if the Service comes, goes or has a new ingress. -/
theorem mem_serviceRequests {old new : Option Service} (named : key.name ≠ "")
    (oldLeads : ∀ service, old = some service → LeadsTo key service)
    (newLeads : ∀ service, new = some service → LeadsTo key service)
    (differs : old.map Service.ingress ≠ new.map Service.ingress) :
    key ∈ serviceRequests old new := by
  have passes : filterServicesPredicate old new = true := by
    cases old with
    | none =>
        cases new with
        | none => exact absurd rfl differs
        | some new => simp [filterServicesPredicate, (newLeads new rfl).name, named]
    | some old =>
        cases new with
        | none => simp [filterServicesPredicate, (oldLeads old rfl).name, named]
        | some new =>
            have changed : new.ingress ≠ old.ingress := fun same => differs (by simp [same])
            simp [filterServicesPredicate, (newLeads new rfl).name, named, changed]
  rw [serviceRequests, if_pos passes]
  refine List.mem_flatMap.mpr ?_
  cases new with
  | some new => exact ⟨new, by simp, (newLeads new rfl).mem_requests⟩
  | none =>
      cases old with
      | some old => exact ⟨old, by simp, (oldLeads old rfl).mem_requests⟩
      | none => exact absurd rfl differs

theorem leadsTo_of_labels (lb : LoadBalancer) (serviceKey : ObjectKey) (appName : String)
    (className : Option String) (annotations : AnnotationSettings) (service : Service)
    (labels : service.labels =
      (desiredService lb serviceKey appName className annotations).labels) :
    LeadsTo lb.objectKey service := by
  constructor
  · rw [labels]
    simp [desiredService, insertAll, labelLoadBalancerName, labelLoadBalancerNamespace,
      labelOriginNamespace, labelOriginName, Finmap.lookup_insert_of_ne, ObjectMeta.objectKey]
  · rw [labels]
    simp [desiredService, insertAll, labelLoadBalancerNamespace, labelOriginNamespace,
      labelOriginName, Finmap.lookup_insert_of_ne, ObjectMeta.objectKey]

theorem leadsTo_of_reconcileService {call : ServiceCall} {store store' : ServiceStore}
    {lb : LoadBalancer} {serviceKey : ObjectKey} {appName : String} {service : Service}
    (returned : reconcileService call.faults call.admission store lb serviceKey appName
      call.allocator call.className call.annotations = some (.ok store'))
    (found : store'.lookup serviceKey = some service) :
    store.lookup serviceKey = some service ∨ LeadsTo lb.objectKey service := by
  simp only [reconcileService] at returned
  split at returned
  · cases returned
  obtain ⟨ports, _, returned⟩ := Option.bind_eq_some_iff.mp returned
  have leads := leadsTo_of_labels lb serviceKey appName call.className call.annotations
  split at returned
  · split at returned
    · cases returned
    · cases returned
      rw [Finmap.lookup_insert] at found
      cases found
      exact Or.inr (leads _ (call.admission.labels _))
  · split at returned
    · split at returned
      · cases returned
      · cases returned
        rw [Finmap.lookup_insert] at found
        cases found
        exact Or.inr (leads _ (call.admission.labels _))
    · cases returned
      exact Or.inl found

end

/-! ## The status follows the Service -/

/-- The status shows the ports of the Service, and for a Service of type LoadBalancer its
ingress. -/
structure StatusRecorded (lb : LoadBalancer) (service : Service) : Prop where
  ports : ∀ endpoint others, lb.spec.endpoints = endpoint :: others →
    updatedPorts service.ports endpoint = some lb.status.servicePorts
  ingress : lb.spec.type = .loadBalancer → lb.status.ingress = service.ingress

theorem StatusRecorded.of_updateLoadBalancerStatus
    {checkDNSResolution checkTLSHealth : String → Bool}
    {lb : LoadBalancer} {service : Service} {hostname : String}
    (some_ : lb.spec.endpoints ≠ [])
    (same : updateLoadBalancerStatus checkDNSResolution checkTLSHealth lb service hostname =
      some lb.status) : StatusRecorded lb service := by
  unfold updateLoadBalancerStatus at same
  split at same
  · contradiction
  · rename_i endpoint others endpoints
    obtain ⟨ports, updated, same⟩ := Option.bind_eq_some_iff.mp same
    dsimp only at same
    have recorded : ports = lb.status.servicePorts ∧
        (lb.spec.type = .loadBalancer → lb.status.ingress = service.ingress) := by
      split at same
      · have status := Option.some.inj same
        rw [← status]
        exact ⟨rfl, fun _ => rfl⟩
      · rename_i unchanged
        simp only [ne_eq, not_or, not_and, not_not] at unchanged
        exact ⟨unchanged.1.symm, unchanged.2.1⟩
    refine ⟨?_, recorded.2⟩
    intro endpoint' others' endpoints'
    rw [endpoints] at endpoints'
    cases endpoints'
    rw [updated, recorded.1]

theorem StatusRecorded.congr {lb : LoadBalancer} {service service' : Service}
    (recorded : StatusRecorded lb service) (ports : service'.ports = service.ports)
    (ingress : service'.ingress = service.ingress) : StatusRecorded lb service' := by
  refine ⟨?_, ?_⟩
  · rw [ports]
    exact recorded.ports
  · rw [ingress]
    exact recorded.ingress

/-- No version of the Service that has yet to reach the cache will be heard of. -/
def Unheard (service : Versions (Option Service)) : Prop :=
  service.Constant (Option.map Service.ingress)

namespace StatusWorld

def Stage (s : StatusWorld) : Prop :=
  match s.task with
  | .idle => s.lb.present.spec.endpoints ≠ [] →
      ∃ service, s.service.present = some service ∧ StatusRecorded s.lb.present service
  | .got lb => lb = s.lb.present
  | .written lb => lb = s.lb.present
  | .read lb service => lb = s.lb.present ∧ ∃ now, s.service.present = some now ∧
      now.ports = service.ports ∧ now.ingress = service.ingress

inductive Progress (s : StatusWorld) : Prop
  | queued (queued : s.queued = true)
  | behind (behind : s.lb.behind ≠ [])
  | heard (heard : ¬ Unheard s.service)
  | stage (stage : s.Stage)

/-- All versions are those of one LoadBalancer and of a Service that leads to it. -/
structure Keyed (key : ObjectKey) (s : StatusWorld) : Prop where
  lbs : ∀ lb ∈ s.lb.all, lb.objectKey = key
  services : ∀ version ∈ s.service.all, ∀ service, version = some service → LeadsTo key service
  task : match s.task with
    | .idle => True
    | .got lb | .written lb | .read lb _ => lb.objectKey = key

section
variable {key : ObjectKey} {s : StatusWorld}

theorem Keyed.present (keyed : s.Keyed key) : s.lb.present.objectKey = key :=
  keyed.lbs _ s.lb.present_mem

theorem Keyed.requeue (keyed : s.Keyed key) : s.requeue.Keyed key :=
  ⟨keyed.lbs, keyed.services, trivial⟩

theorem Keyed.take {updateFault : Option String} (keyed : s.Keyed key) :
    (s.take updateFault).Keyed key := by
  have named := keyed.lbs _ s.lb.seen_mem
  simp only [StatusWorld.take]
  split
  · exact ⟨keyed.lbs, keyed.services, keyed.task⟩
  split
  · exact ⟨keyed.lbs, keyed.services, named⟩
  split
  · exact ⟨Versions.forall_mem_all_write.mpr ⟨keyed.lbs, named⟩, keyed.services, named⟩
  · exact keyed.requeue

theorem Keyed.write {o : ManagerOptions} {lb : LoadBalancer} {call : ServiceCall}
    (keyed : s.Keyed key) (got : s.task = .got lb) : (s.write o lb call).Keyed key := by
  have named := keyed.task
  rw [got] at named
  simp only [StatusWorld.write]
  split
  · rename_i store returned
    split
    · exact ⟨keyed.lbs, keyed.services, named⟩
    split
    · refine ⟨keyed.lbs, Versions.forall_mem_all_write.mpr ⟨keyed.services, ?_⟩, named⟩
      intro service found
      rcases leadsTo_of_reconcileService returned found with before | leads
      · rw [lookup_assign, if_pos rfl] at before
        exact keyed.services _ s.service.seen_mem service before
      · rwa [← named]
    · exact keyed.requeue
  · exact keyed.requeue

theorem Keyed.record {lb : LoadBalancer} {service : Service} {fault : Option String}
    (keyed : s.Keyed key) : (s.record lb service fault).Keyed key := by
  simp only [StatusWorld.record]
  split
  · exact keyed.requeue
  split
  · exact ⟨keyed.lbs, keyed.services, trivial⟩
  split
  · exact keyed.requeue
  split
  · exact ⟨keyed.lbs, keyed.services, trivial⟩
  · exact ⟨Versions.forall_mem_all_write.mpr ⟨keyed.lbs, keyed.present⟩, keyed.services, trivial⟩

theorem Keyed.step {o : ManagerOptions} {a : StatusAction} {s' : StatusWorld}
    (keyed : s.Keyed key) (effect : StatusEffect o s a s') : s'.Keyed key := by
  cases effect with
  | edit named =>
      exact ⟨Versions.forall_mem_all_write.mpr ⟨keyed.lbs, named.trans keyed.present⟩,
        keyed.services, keyed.task⟩
  | @setIngress _ service found =>
      have leads := keyed.services _ s.service.present_mem service found
      refine ⟨keyed.lbs, Versions.forall_mem_all_write.mpr ⟨keyed.services, ?_⟩, keyed.task⟩
      rintro _ ⟨⟩
      exact ⟨leads.name, leads.ns⟩
  | @touch service present found labels _ _ =>
      have leads := keyed.services _ s.service.present_mem present found
      refine ⟨keyed.lbs, Versions.forall_mem_all_write.mpr ⟨keyed.services, ?_⟩, keyed.task⟩
      rintro _ ⟨⟩
      exact ⟨labels ▸ leads.name, labels ▸ leads.ns⟩
  | deleteService _ =>
      refine ⟨keyed.lbs, Versions.forall_mem_all_write.mpr ⟨keyed.services, ?_⟩, keyed.task⟩
      rintro _ ⟨⟩
  | deliverLoadBalancer _ =>
      exact ⟨Versions.forall_mem_all_advance keyed.lbs, keyed.services, keyed.task⟩
  | deliverService =>
      exact ⟨keyed.lbs, Versions.forall_mem_all_advance keyed.services, keyed.task⟩
  | request => exact ⟨keyed.lbs, keyed.services, keyed.task⟩
  | take _ _ => exact keyed.take
  | write got => exact keyed.write got
  | read written _ =>
      have named := keyed.task
      rw [written] at named
      exact ⟨keyed.lbs, keyed.services, named⟩
  | missing _ => exact keyed.requeue
  | record _ => exact keyed.record
  | fail _ => exact keyed.requeue
  | restart =>
      refine ⟨?_, ?_, trivial⟩
      · rintro lb member
        rw [List.mem_singleton.mp member]
        exact keyed.present
      · rintro version member
        rw [List.mem_singleton.mp member]
        exact keyed.services _ s.service.present_mem

/-! ### Progress -/

theorem Progress.take {updateFault : Option String} (idle : s.task = .idle) :
    (s.take updateFault).Progress := by
  by_cases caught : s.lb.behind = []
  · have shown := Versions.seen_eq_present caught
    simp only [StatusWorld.take, shown]
    split
    · rename_i none
      refine .stage ?_
      simp only [Stage, idle]
      exact fun some => absurd none some
    split
    · exact .stage rfl
    split
    · exact .behind (Versions.behind_write_ne_nil _ _)
    · exact .queued rfl
  · simp only [StatusWorld.take]
    split
    · exact .behind caught
    split
    · exact .behind caught
    split
    · exact .behind (Versions.behind_write_ne_nil _ _)
    · exact .queued rfl

/-- A step that leaves the LoadBalancer alone and adds to what is on its way. -/
theorem Progress.mono {s' : StatusWorld} (progress : s.Progress)
    (queued : s.queued = true → s'.queued = true) (behind : s.lb.behind ≠ [] → s'.lb.behind ≠ [])
    (heard : Unheard s'.service → Unheard s.service) (stage : s.Stage → s'.Progress) :
    s'.Progress := by
  cases progress with
  | queued held => exact .queued (queued held)
  | behind held => exact .behind (behind held)
  | heard held => exact .heard fun unheard => held (heard unheard)
  | stage held => exact stage held

theorem Progress.write {o : ManagerOptions} {lb : LoadBalancer} {call : ServiceCall}
    (progress : s.Progress) (got : s.task = .got lb) : (s.write o lb call).Progress := by
  have current : s.Stage → lb = s.lb.present := by
    intro stage
    simpa only [Stage, got] using stage
  simp only [StatusWorld.write]
  split
  · split
    · exact progress.mono id id id fun stage => .stage (current stage)
    split
    · exact progress.mono id id Versions.Constant.of_write fun stage => .stage (current stage)
    · exact .queued rfl
  · exact .queued rfl

theorem Progress.record {lb : LoadBalancer} {service : Service} {fault : Option String}
    (progress : s.Progress) (read : s.task = .read lb service) :
    (s.record lb service fault).Progress := by
  simp only [StatusWorld.record]
  split
  · exact .queued rfl
  rename_i status computed
  split
  · rename_i same
    refine progress.mono id id id fun stage => .stage ?_
    simp only [Stage, read] at stage
    obtain ⟨rfl, now, found, ports, ingress⟩ := stage
    intro some_
    rw [same] at computed
    exact ⟨now, found, (StatusRecorded.of_updateLoadBalancerStatus some_ computed).congr ports
      ingress⟩
  rename_i differs
  split
  · exact .queued rfl
  split
  · rename_i nothing
    by_cases caught : s.lb.behind = []
    · -- the LoadBalancer in the cache is the present one, so the patch is not empty
      refine progress.mono id id id fun stage => ?_
      simp only [Stage, read] at stage
      obtain ⟨rfl, _⟩ := stage
      rw [Versions.seen_eq_present caught, patchStatus_self] at nothing
      exact absurd (nothing.elim Eq.symm id) differs
    · exact .behind caught
  · exact .behind (Versions.behind_write_ne_nil _ _)

/-- A new version of the Service that keeps the ports is heard of, or it changes nothing of
what is recorded. -/
theorem Progress.writeService {service new : Service} (progress : s.Progress)
    (found : s.service.present = some service) (ports : new.ports = service.ports) :
    ({ s with service := s.service.write (some new) } : StatusWorld).Progress := by
  refine progress.mono id id Versions.Constant.of_write fun stage => ?_
  by_cases ingress : new.ingress = service.ingress
  · refine .stage ?_
    cases task : s.task with
    | idle =>
        simp only [Stage, task] at stage ⊢
        intro some_
        obtain ⟨_, found', recorded⟩ := stage some_
        cases found.symm.trans found'
        exact ⟨new, rfl, recorded.congr ports ingress⟩
    | got lb =>
        simp only [Stage, task] at stage ⊢
        exact stage
    | written lb =>
        simp only [Stage, task] at stage ⊢
        exact stage
    | read lb shown =>
        simp only [Stage, task] at stage ⊢
        obtain ⟨current, _, found', samePorts, sameIngress⟩ := stage
        cases found.symm.trans found'
        exact ⟨current, new, rfl, ports.trans samePorts, ingress.trans sameIngress⟩
  · refine .heard fun unheard => ingress ?_
    have same := Versions.Constant.eq_of_write unheard
    rw [found] at same
    exact Option.some.inj same

/-- What has to come in time: the namespaces have their label when an event is filtered,
and a reconcile reads the ports of the Service as it has left them. -/
def Timely (s : StatusWorld) : StatusAction → Prop
  | .deliverLoadBalancer labelled | .deliverService labelled | .restart labelled =>
      labelled = true
  | .read => s.service.seen.map Service.ports = s.service.present.map Service.ports
  | _ => True

theorem Progress.step {o : ManagerOptions} {a : StatusAction} {s' : StatusWorld}
    (named : key.name ≠ "") (keyed : s.Keyed key) (progress : s.Progress) (timely : s.Timely a)
    (effect : StatusEffect o s a s') : s'.Progress := by
  cases effect with
  | edit _ => exact .behind (Versions.behind_write_ne_nil _ _)
  | setIngress found => exact progress.writeService found rfl
  | touch found _ ports _ => exact progress.writeService found ports
  | deleteService found =>
      refine .heard fun unheard => ?_
      have same := Versions.Constant.eq_of_write unheard
      rw [found] at same
      cases same
  | deliverLoadBalancer _ => exact .queued (by rw [timely, Bool.or_true])
  | @deliverService labelled =>
      have isLabelled : labelled = true := timely
      by_cases same : s.service.seen.map Service.ingress =
          s.service.advance.seen.map Service.ingress
      · refine progress.mono (fun queued => by rw [queued, Bool.true_or]) id
          (fun unheard => Versions.Constant.of_advance unheard same.symm) ?_
        exact fun stage => .stage stage
      · refine .queued ?_
        have shown : s.service.advance.seen ∈ s.service.all :=
          s.service.all_advance.subset s.service.advance.seen_mem
        have heard := mem_serviceRequests named (keyed.services _ s.service.seen_mem)
          (keyed.services _ shown) same
        simp only [keyed.present, heard, isLabelled, decide_true, Bool.and_self, Bool.or_true]
  | request => exact .queued rfl
  | take idle _ => exact Progress.take idle
  | write got => exact progress.write got
  | @read lb service written shown =>
      by_cases unheard : Unheard s.service
      · refine progress.mono id id id fun stage => .stage ?_
        simp only [Stage, written] at stage ⊢
        have ports : s.service.seen.map Service.ports =
          s.service.present.map Service.ports := timely
        have ingress := Versions.Constant.seen unheard
        rw [shown] at ports ingress
        cases present : s.service.present with
        | none =>
            rw [present] at ports
            cases ports
        | some now =>
            rw [present] at ports ingress
            exact ⟨stage, now, rfl, (Option.some.inj ports).symm, (Option.some.inj ingress).symm⟩
      · exact .heard unheard
  | missing _ => exact .queued rfl
  | record read => exact progress.record read
  | fail _ => exact .queued rfl
  | restart => exact .queued timely

end

/-- A manager that starts: the caches are filled, and the LoadBalancer is queued. -/
def start (lb : LoadBalancer) (service : Option Service) : StatusWorld where
  lb := { present := lb }
  service := { present := service }
  queued := true

structure Quiescent (s : StatusWorld) : Prop where
  idle : s.task = .idle
  queued : s.queued = false
  lb : s.lb.behind = []
  service : s.service.behind = []

theorem Quiescent.unheard {s : StatusWorld} (quiescent : s.Quiescent) : Unheard s.service := by
  intro a isA b isB
  rw [Versions.all, quiescent.service] at isA isB
  rw [List.mem_singleton.mp isA, List.mem_singleton.mp isB]

end StatusWorld

/-- In every run in which events and reads come in time: once nothing is left to do, the
status of the LoadBalancer shows the Service as it is. -/
theorem status_settles (o : ManagerOptions) (lb : LoadBalancer) (service : Option Service)
    (actions : List StatusAction) (named : lb.name ≠ "")
    (leads : ∀ stored, service = some stored → LeadsTo lb.objectKey stored)
    (timely : EachStep (statusStep o) (.start lb service) actions fun s a _ => s.Timely a) :
    Throughout (statusStep o) (.start lb service) actions fun s =>
      s.Quiescent → s.lb.present.spec.endpoints ≠ [] →
        ∃ stored, s.service.present = some stored ∧ StatusRecorded s.lb.present stored := by
  have invariant : Throughout (statusStep o) (.start lb service) actions fun s =>
      s.Keyed lb.objectKey ∧ s.Progress := by
    refine throughout_of_eachStep (P := fun s => s.Keyed lb.objectKey ∧ s.Progress) ?_ ?_ timely
    · refine ⟨⟨?_, ?_, trivial⟩, .queued rfl⟩
      · intro version member
        rw [List.mem_singleton.mp member]
        rfl
      · intro version member
        rw [List.mem_singleton.mp member]
        exact leads
    · intro s a s' held timely taken
      have effect := statusEffect_of_step taken
      exact ⟨held.1.step effect, held.2.step named held.1 timely effect⟩
  intro before s small reached quiescent some_
  cases (invariant before s small reached).2 with
  | queued queued => exact absurd quiescent.queued (by simp [queued])
  | behind behind => exact absurd quiescent.lb behind
  | heard heard => exact absurd quiescent.unheard heard
  | stage stage =>
      simp only [StatusWorld.Stage, quiescent.idle] at stage
      exact stage some_

def settlingLoadBalancer : LoadBalancer where
  name := "web"
  ns := "tenant-a"
  finalizers := [cleanupFinalizer]
  spec := {
    endpoints := [{ ports := [{ port := 30080 }] }]
    ports := [{ port := 80 }]
    type := .loadBalancer }

def reconcileActions : List StatusAction :=
  [.take none, .write { admission := .verbatim, allocator := newPortAllocator, annotations := {} },
    .read, .record none]

def settlingActions : List StatusAction :=
  [.take none, .write { admission := .verbatim, allocator := newPortAllocator, annotations := {} },
    .deliverService true, .read, .record none, .deliverLoadBalancer true] ++
  reconcileActions ++ [.setIngress [{ ip := "192.0.2.1" }], .deliverService true] ++
  reconcileActions ++ [.deliverLoadBalancer true] ++ reconcileActions

theorem status_settles_address :
    ∃ s, run (statusStep { ns := "kubelb" }) (.start settlingLoadBalancer none) settlingActions =
        some s ∧ s.lb.present.status.ingress = [{ ip := "192.0.2.1" }] ∧
      ∃ stored, s.service.present = some stored ∧ StatusRecorded s.lb.present stored := by
  refine ⟨_, rfl, rfl, ?_⟩
  refine status_settles { ns := "kubelb" } settlingLoadBalancer none settlingActions (by decide)
    (fun _ none => by cases none) ?_ settlingActions _ (List.prefix_refl _) rfl
    ⟨rfl, rfl, rfl, rfl⟩ (List.cons_ne_nil _ _)
  iterate 21
    refine eachStep_taken rfl ?_ ?_
    · trivial
  exact eachStep_nil _

/-! ## A read that comes too early -/

theorem serviceRequests_eq_nil {old new : Option Service}
    (same : old.map Service.ingress = new.map Service.ingress) : serviceRequests old new = [] := by
  have dropped : filterServicesPredicate old new = false := by
    cases old with
    | none =>
        cases new with
        | none => rfl
        | some new => cases same
    | some old =>
        cases new with
        | none => cases same
        | some new => simp [filterServicesPredicate, Option.some.inj same]
  rw [serviceRequests, dropped]
  rfl

theorem map_updatedPorts {ports : List ServicePort} {endpoint : LoadBalancerEndpoints}
    {recorded : List StatusServicePort} (updated : updatedPorts ports endpoint = some recorded) :
    recorded.map StatusServicePort.toServicePort = ports := by
  obtain ⟨indexed, paired, updated⟩ := Option.bind_eq_some_iff.mp updated
  cases updated
  rw [pairByIndex] at paired
  split at paired
  · rename_i enough
    cases paired
    rw [List.map_map]
    exact List.map_fst_zip enough
  · cases paired

/-- Nobody gives the controller a reason to look at the LoadBalancer again. -/
def StatusAction.Quiet : StatusAction → Prop
  | .edit _ | .setIngress _ | .deleteService | .request | .restart _ => False
  | _ => True

structure LeftBehind (lb : Versions LoadBalancer) (ports : List ServicePort) (s : StatusWorld) :
    Prop where
  idle : s.task = .idle
  queued : s.queued = false
  lb : s.lb = lb
  service : ∃ stored, s.service.present = some stored ∧ stored.ports = ports
  unheard : Unheard s.service

theorem LeftBehind.step {o : ManagerOptions} {lb : Versions LoadBalancer}
    {ports : List ServicePort} {s s' : StatusWorld} {a : StatusAction} (caught : lb.behind = [])
    (left : LeftBehind lb ports s) (quiet : a.Quiet) (effect : StatusEffect o s a s') :
    LeftBehind lb ports s' := by
  have notBusy : ∀ task, s.task = task → task ≠ .idle → False :=
    fun task held busy => busy (held.symm.trans left.idle)
  cases effect with
  | edit _ | setIngress _ | deleteService _ | request | restart => cases quiet
  | @touch service present found _ samePorts ingress =>
      obtain ⟨stored, found', ports⟩ := left.service
      cases found.symm.trans found'
      refine ⟨left.idle, left.queued, left.lb, ⟨service, rfl, samePorts.trans ports⟩, ?_⟩
      refine Versions.Constant.write left.unheard ?_
      rw [found]
      exact congrArg some ingress
  | deliverLoadBalancer behind => exact absurd (left.lb ▸ caught) behind
  | deliverService =>
      have same : s.service.seen.map Service.ingress =
          s.service.advance.seen.map Service.ingress :=
        left.unheard _ s.service.seen_mem _
          (s.service.all_advance.subset s.service.advance.seen_mem)
      refine ⟨left.idle, ?_, left.lb, left.service, Versions.Constant.advance left.unheard⟩
      simp [serviceRequests_eq_nil same, left.queued]
  | take _ queued => exact absurd left.queued (by simp [queued])
  | write got => exact (notBusy _ got (by simp)).elim
  | read written _ => exact (notBusy _ written (by simp)).elim
  | missing written => exact (notBusy _ written (by simp)).elim
  | record read => exact (notBusy _ read (by simp)).elim
  | fail busy => exact absurd left.idle busy

/-- A reconcile has changed the ports of the Service, and the cache still shows the Service
as it was, as does the status: then the status is not written, and whatever else happens,
it stays behind until the LoadBalancer, the ingress, the Config or the Tenant changes, the
cache is resynced or the manager is restarted. -/
theorem stale_read_leaves_status (o : ManagerOptions) (s : StatusWorld) (old new : Service)
    (fault : Option String) (later : List StatusAction)
    (written : s.task = .written s.lb.present) (caught : s.lb.behind = [])
    (free : s.queued = false) (endpoints : s.lb.present.spec.endpoints ≠ [])
    (shown : s.service.seen = some old) (present : s.service.present = some new)
    (unheard : Unheard s.service) (differs : new.ports ≠ old.ports)
    (recorded : updateLoadBalancerStatus (fun _ => false) (fun _ => false) s.lb.present old "" =
      some s.lb.present.status)
    (quiet : ∀ a ∈ later, a.Quiet) :
    ∀ s', run (statusStep o) s (.read :: .record fault :: later) = some s' →
      s'.task = .idle ∧ s'.queued = false ∧ s'.lb.present = s.lb.present ∧
        ∃ stored, s'.service.present = some stored ∧ ¬ StatusRecorded s'.lb.present stored := by
  have begun : LeftBehind s.lb new.ports { s with task := .idle } :=
    ⟨rfl, free, rfl, ⟨new, present, rfl⟩, unheard⟩
  have steps : run (statusStep o) s [.read, .record fault] = some { s with task := .idle } := by
    simp [run, statusStep, written, shown, StatusWorld.record, recorded]
  have left : Throughout (statusStep o) { s with task := .idle } later
      (LeftBehind s.lb new.ports) := by
    refine throughout_of_eachStep (C := fun _ a _ => a.Quiet) begun ?_ ?_
    · intro s a s' left quiet taken
      exact left.step caught quiet (statusEffect_of_step taken)
    · intro before a _ _ small _ _
      exact quiet a (small.subset (List.mem_append_right _ (List.mem_singleton_self a)))
  intro s' reached
  have split := run_append (statusStep o) s [.read, .record fault] later
  rw [steps] at split
  have left := left later s' (List.prefix_refl _) (split.symm.trans reached)
  obtain ⟨stored, found, ports⟩ := left.service
  refine ⟨left.idle, left.queued, by rw [left.lb], stored, found, ?_⟩
  intro now
  rw [left.lb] at now
  obtain ⟨endpoint, others, isFirst⟩ := List.exists_cons_of_ne_nil endpoints
  have before := (StatusRecorded.of_updateLoadBalancerStatus endpoints recorded).ports _ _ isFirst
  have after := now.ports _ _ isFirst
  refine differs ?_
  rw [← ports, ← map_updatedPorts after, map_updatedPorts before]

/-- The LoadBalancer has got a second port, which the status does not show. -/
def widenedLoadBalancer : LoadBalancer where
  name := "web"
  ns := "tenant-a"
  finalizers := [cleanupFinalizer]
  spec := {
    endpoints := [{ ports := [{ port := 30080 }, { port := 30443 }] }]
    ports := [{ name := "http", port := 80 }, { name := "https", port := 443 }] }
  status := { servicePorts := [{ name := "http", port := 80, upstreamTargetPort := 30080 }] }

def narrowService : Service where
  ports := [{ name := "http", port := 80 }]

def widenedService : Service where
  ports := [{ name := "http", port := 80 }, { name := "https", port := 443 }]

def widenedWorld : StatusWorld where
  lb := { present := widenedLoadBalancer }
  service := { behind := [some narrowService], present := some widenedService }
  queued := false
  task := .written widenedLoadBalancer

theorem stale_read_leaves_status_widened :
    ∃ s', run (statusStep { ns := "kubelb" }) widenedWorld
        [.read, .record none, .deliverService true] = some s' ∧ s'.Quiescent ∧
      ∃ stored, s'.service.present = some stored ∧ ¬ StatusRecorded s'.lb.present stored := by
  refine ⟨_, rfl, ⟨rfl, rfl, rfl, rfl⟩, ?_⟩
  have unheard : Unheard widenedWorld.service := by
    intro a isA b isB
    simp only [widenedWorld, Versions.all, List.cons_append, List.nil_append, List.mem_cons,
      List.not_mem_nil, or_false] at isA isB
    rcases isA with rfl | rfl <;> rcases isB with rfl | rfl <;> rfl
  have quiet : ∀ a ∈ [StatusAction.deliverService true], a.Quiet := by
    intro a isA
    rw [List.mem_singleton.mp isA]
    trivial
  exact (stale_read_leaves_status { ns := "kubelb" } widenedWorld narrowService widenedService
    none [.deliverService true] rfl rfl rfl (List.cons_ne_nil _ _) rfl rfl unheard (by decide)
    rfl quiet _ rfl).2.2.2

end KubeLB.StatusWatch
