import KubeLB.Route.OrphanCleanup
import KubeLB.Route.SourceSpec

/-!
What manageServices does to the Services, the status map and the allocator. Later
modules use these lemmas and unfold none of the functions.
-/

namespace KubeLB
open FiniteMap

theorem lookup_store_applyServices {faults : ApiFaults} {api : Admission}
    (services : List Service) (effects : RouteEffects) {key : ObjectKey}
    (other : ∀ svc ∈ services, svc.objectKey ≠ key) :
    (applyServices faults api services effects).store.lookup key = effects.store.lookup key := by
  induction services generalizing effects with
  | nil => rfl
  | cons svc services ih =>
      have rest := fun svc' member => other svc' (List.mem_cons_of_mem svc member)
      cases result : createOrUpdateService faults api effects.store svc with
      | error err =>
          simp only [applyServices, result]
          rw [ih _ rest]
      | ok pair =>
          simp only [applyServices, result]
          rw [ih _ rest]
          exact (createOrUpdateService_spec result).other key
            (Ne.symm (other svc List.mem_cons_self))

/-- Objects that are written hold the ports they are written with. When several
writes go to one object, they have to agree. -/
theorem ports_applyServices {faults : ApiFaults} {api : Admission}
    (writes : ∀ key, faults.get key = none ∧ faults.create key = none ∧ faults.update key = none)
    (services : List Service) (effects : RouteEffects) {svc : Service} (member : svc ∈ services)
    (agree : ∀ svc' ∈ services, svc'.objectKey = svc.objectKey → svc'.ports = svc.ports) :
    ∃ stored, (applyServices faults api services effects).store.lookup svc.objectKey =
      some stored ∧ List.Forall₂ AdmittedPort svc.ports stored.ports := by
  induction services generalizing effects svc with
  | nil => cases member
  | cons head services ih =>
      obtain ⟨store, answer, result⟩ := createOrUpdateService_succeeds writes api effects.store head
      simp only [applyServices, result]
      by_cases later : ∃ svc' ∈ services, svc'.objectKey = svc.objectKey
      · obtain ⟨svc', inRest, same⟩ := later
        have samePorts := agree svc' (List.mem_cons_of_mem _ inRest) same
        rw [← same, ← samePorts]
        refine ih _ inRest fun other inRest' sameKey => ?_
        rw [samePorts]
        exact agree other (List.mem_cons_of_mem _ inRest') (sameKey.trans same)
      · have only : svc = head := by
          obtain rfl | inRest := List.mem_cons.mp member
          · rfl
          · exact absurd ⟨svc, inRest, rfl⟩ later
        subst only
        rw [lookup_store_applyServices services _
          fun svc' inRest same => later ⟨svc', inRest, same⟩]
        obtain ⟨stored, here, _, ports⟩ := (createOrUpdateService_spec result).own
        exact ⟨stored, here, ports⟩

theorem applyServices_frame (faults : ApiFaults) (api : Admission)
    (services : List Service) (effects : RouteEffects) :
    (applyServices faults api services effects).orphans = effects.orphans ∧
      (applyServices faults api services effects).deletes = effects.deletes ∧
      (applyServices faults api services effects).allocator = effects.allocator := by
  induction services generalizing effects with
  | nil => exact ⟨rfl, rfl, rfl⟩
  | cons svc services ih =>
      rw [applyServices]
      split
      · exact ih _
      · exact ih _

/-- What a status entry says of a Service, its ports and its outcome apart. -/
structure StatusRecord where
  ns : String
  name : String
  generatedName : String
  deriving DecidableEq

def StatusRecord.key (entry : StatusRecord) : String := routeServiceMapKey entry.ns entry.name

def statusRecord (svc : Service) : StatusRecord :=
  ⟨recordedNamespace svc, getServiceName svc, svc.name⟩

theorem statusRecord_congr {svc svc' : Service} (objectKey : svc.objectKey = svc'.objectKey)
    (labels : svc.labels = svc'.labels) : statusRecord svc = statusRecord svc' := by
  have names : svc.ns = svc'.ns ∧ svc.name = svc'.name := by
    simpa [ObjectMeta.objectKey] using objectKey
  simp only [statusRecord, recordedNamespace, getServiceNamespace, getNamespace, getServiceName,
    getName, labels, names]

/-- A status entry as it is made for a Service, from what was written or from the
answer of the API server. -/
structure Recorded (svc : Service) (value : RouteServiceStatus) : Prop where
  ns : value.ns = (statusRecord svc).ns
  generatedName : value.generatedName = (statusRecord svc).generatedName
  ports : List.Forall₂ AdmittedPort svc.ports value.ports

theorem recorded_statusEntry {svc written : Service}
    (same : statusRecord written = statusRecord svc)
    (ports : List.Forall₂ AdmittedPort svc.ports written.ports) (failure : Option String) :
    Recorded svc (statusEntry written failure).2 where
  ns := congrArg StatusRecord.ns same
  generatedName := congrArg StatusRecord.generatedName same
  ports := ports

/-- After the loop that writes the Services, a key of the status holds the entry
of the last Service recorded under it; other keys are as before. -/
theorem lookup_applyServices_last (faults : ApiFaults) (api : Admission) (services : List Service)
    (effects : RouteEffects) (key : String) :
    match lastWith (fun svc => (statusRecord svc).key) services key with
    | none => (applyServices faults api services effects).services.lookup key =
        effects.services.lookup key
    | some svc => ∃ value,
        (applyServices faults api services effects).services.lookup key = some value ∧
        Recorded svc value := by
  induction services generalizing effects with
  | nil => rfl
  | cons svc services ih =>
      have recorded (written : Service) (failure : Option String)
          (same : statusRecord written = statusRecord svc)
          (ports : List.Forall₂ AdmittedPort svc.ports written.ports) (next : RouteEffects)
          (status : next.services = updateServiceStatus effects.services written failure) :
          match lastWith (fun svc => (statusRecord svc).key) (svc :: services) key with
          | none => (applyServices faults api services next).services.lookup key =
              effects.services.lookup key
          | some svc => ∃ value,
              (applyServices faults api services next).services.lookup key = some value ∧
              Recorded svc value := by
        have later := ih next
        rw [lastWith]
        cases last : lastWith (fun svc => (statusRecord svc).key) services key with
        | some svc' =>
            rw [last] at later
            exact later
        | none =>
            rw [last] at later
            simp only at later
            rw [Option.none_or, later, status]
            by_cases atKey : (statusRecord svc).key = key
            · subst atKey
              simp only [if_pos]
              refine ⟨_, ?_, recorded_statusEntry same ports failure⟩
              rw [← congrArg StatusRecord.key same]
              exact Finmap.lookup_insert _
            · simp only [if_neg atKey]
              refine Finmap.lookup_insert_of_ne _ ?_
              rw [← congrArg StatusRecord.key same] at atKey
              exact Ne.symm atKey
      cases result : createOrUpdateService faults api effects.store svc with
      | error err =>
          simp only [applyServices, result]
          exact recorded svc (some err) rfl (Admission.verbatim.ports svc) _ rfl
      | ok pair =>
          simp only [applyServices, result]
          have applied := createOrUpdateService_spec result
          exact recorded pair.2 none (statusRecord_congr applied.objectKey applied.labels)
            (createOrUpdateService_ports result) _ rfl

theorem lookup_applyServices (faults : ApiFaults) (api : Admission) (services : List Service)
    (effects : RouteEffects) (key : String) :
    match lastWith StatusRecord.key (services.map statusRecord) key with
    | none => (applyServices faults api services effects).services.lookup key =
        effects.services.lookup key
    | some entry => ∃ value,
        (applyServices faults api services effects).services.lookup key = some value ∧
        value.ns = entry.ns ∧ value.generatedName = entry.generatedName := by
  have last := lookup_applyServices_last faults api services effects key
  rw [lastWith_map]
  cases found : lastWith (fun svc => (statusRecord svc).key) services key with
  | none =>
      rw [found] at last
      exact last
  | some svc =>
      rw [found] at last
      obtain ⟨value, lookedUp, recorded⟩ := last
      exact ⟨value, lookedUp, recorded.ns, recorded.generatedName⟩

def sourceName (r : RouteReconciler) (svc : Service) : String :=
  (generateName r.topology.isGlobalTopology svc.uid (getServiceName svc) svc.ns).getD ""

/-- A Service written for a source service: the generated one, or its bridge. -/
structure Written where
  svc : Service
  bridge : Bool

def writtenServices (r : RouteReconciler) (sources : List Service) : List Written :=
  sources.flatMap fun svc =>
    if r.topology.isGlobalTopology then [⟨svc, true⟩, ⟨svc, false⟩] else [⟨svc, false⟩]

def madeFor (r : RouteReconciler) (route : Route) (pa : PortAllocator)
    (annotations : AnnotationSettings) (written : Written) : Service :=
  let svc := lbClusterService written.svc (sourceName r written.svc)
    (envoyApplicationName r.topology route.ns) route.ns (originalRouteName route) pa
    r.topology.isGlobalTopology annotations
  if written.bridge then
    generateBridgeService svc (envoyApplicationName r.topology route.ns) r.ns
  else svc

theorem mem_writtenServices {r : RouteReconciler} {sources : List Service} {written : Written} :
    written ∈ writtenServices r sources ↔
      written.svc ∈ sources ∧ (written.bridge = true → r.topology.isGlobalTopology = true) := by
  obtain ⟨svc, bridge⟩ := written
  cases global : r.topology.isGlobalTopology <;> cases bridge <;>
    simp [writtenServices, global]

theorem generateServices_eq {r : RouteReconciler} {route : Route} {pa : PortAllocator}
    {annotations : AnnotationSettings} {sources services : List Service}
    (generated : generateServices r route pa annotations sources = some services) :
    (∀ svc ∈ sources, generateName r.topology.isGlobalTopology svc.uid (getServiceName svc) svc.ns =
      some (sourceName r svc)) ∧
    services = (writtenServices r sources).map (madeFor r route pa annotations) := by
  induction sources generalizing services with
  | nil =>
      cases generated
      exact ⟨fun _ member => absurd member List.not_mem_nil, rfl⟩
  | cons svc sources ih =>
      obtain ⟨made, here, generated⟩ := Option.bind_eq_some_iff.mp generated
      obtain ⟨rest, later, generated⟩ := Option.bind_eq_some_iff.mp generated
      obtain ⟨name, named, rfl⟩ := Option.map_eq_some_iff.mp here
      have sameName : name = sourceName r svc := by rw [sourceName, named]; rfl
      subst sameName
      obtain ⟨names, same⟩ := ih later
      refine ⟨List.forall_mem_cons.mpr ⟨named, names⟩, ?_⟩
      rw [writtenServices, List.flatMap_cons, ← writtenServices, List.map_append, ← same]
      split at generated
      · rename_i global
        cases generated
        simp only [global, if_true]
        simp [madeFor, global]
      · rename_i shared
        cases generated
        simp [madeFor, shared]

/-- The Services written for a Route, each with its source service. -/
theorem mem_generateServices {r : RouteReconciler} {route : Route} {pa : PortAllocator}
    {annotations : AnnotationSettings} {sources services : List Service}
    (generated : generateServices r route pa annotations sources = some services)
    {made : Service} (member : made ∈ services) :
    ∃ svc ∈ sources, ∃ name,
      generateName r.topology.isGlobalTopology svc.uid (getServiceName svc) svc.ns = some name ∧
      let tenantSide := lbClusterService svc name (envoyApplicationName r.topology route.ns)
        route.ns (originalRouteName route) pa r.topology.isGlobalTopology annotations
      made = tenantSide ∨ (r.topology.isGlobalTopology ∧ made = generateBridgeService tenantSide
        (envoyApplicationName r.topology route.ns) r.ns) := by
  obtain ⟨names, rfl⟩ := generateServices_eq generated
  obtain ⟨⟨svc, bridge⟩, inWritten, rfl⟩ := List.mem_map.mp member
  obtain ⟨inSources, global⟩ := mem_writtenServices.mp inWritten
  refine ⟨svc, inSources, _, names svc inSources, ?_⟩
  cases bridge with
  | false => exact Or.inl rfl
  | true => exact Or.inr ⟨global rfl, rfl⟩

theorem lbClusterService_mem {r : RouteReconciler} {route : Route} {pa : PortAllocator}
    {annotations : AnnotationSettings} {sources services : List Service}
    (generated : generateServices r route pa annotations sources = some services)
    {svc : Service} (member : svc ∈ sources) :
    ∃ name,
      generateName r.topology.isGlobalTopology svc.uid (getServiceName svc) svc.ns = some name ∧
      lbClusterService svc name (envoyApplicationName r.topology route.ns) route.ns
        (originalRouteName route) pa r.topology.isGlobalTopology annotations ∈ services := by
  obtain ⟨names, rfl⟩ := generateServices_eq generated
  refine ⟨_, names svc member, List.mem_map.mpr ⟨⟨svc, false⟩, ?_, rfl⟩⟩
  exact mem_writtenServices.mpr ⟨member, fun bridge => by cases bridge⟩

/-- What the status records of the Service generated for a source service. -/
def sourceRecord (r : RouteReconciler) (route : Route) (svc : Service) : StatusRecord where
  ns := if svc.labels.lookup labelAppKubernetesType = some labelBridgeService then route.ns
    else (svc.labels.lookup labelOriginNamespace).getD route.ns
  name := (svc.labels.lookup labelOriginName).getD (sourceName r svc)
  generatedName := sourceName r svc

def bridgeRecord (r : RouteReconciler) (svc : Service) : StatusRecord :=
  ⟨r.ns, sourceName r svc, sourceName r svc⟩

def records (r : RouteReconciler) (route : Route) (sources : List Service) :
    List StatusRecord :=
  sources.flatMap fun svc =>
    if r.topology.isGlobalTopology then [bridgeRecord r svc, sourceRecord r route svc]
    else [sourceRecord r route svc]

theorem statusRecord_generateBridgeService (svc : Service) (appName controllerNs : String) :
    statusRecord (generateBridgeService svc appName controllerNs) =
      ⟨controllerNs, svc.name, svc.name⟩ := by
  simp [statusRecord, recordedNamespace, getServiceName, getName, generateBridgeService,
    addKubeLBLabels, Finmap.lookup_insert, Finmap.lookup_insert_of_ne, labelOriginName,
    labelAppKubernetesType, labelManagedBy, labelOriginNamespace]

/-- The records of the Services written for a Route depend on its spec alone. -/
theorem map_statusRecord_generateServices {r : RouteReconciler} {route : Route}
    {pa : PortAllocator} {annotations : AnnotationSettings} {sources services : List Service}
    (generated : generateServices r route pa annotations sources = some services) :
    services.map statusRecord = records r route sources := by
  obtain ⟨_, rfl⟩ := generateServices_eq generated
  rw [writtenServices, records, List.map_map, List.map_flatMap]
  refine List.flatMap_congr fun svc _ => ?_
  cases r.topology.isGlobalTopology with
  | false => rfl
  | true =>
      simp only [if_true, List.map_cons, List.map_nil, Function.comp_apply, madeFor,
        statusRecord_generateBridgeService]
      rfl

theorem exists_generateServices (r : RouteReconciler) (route : Route) {sources : List Service}
    (uids : ∀ svc ∈ sources, nameSuffixLength ≤ svc.uid.length) (pa : PortAllocator)
    (annotations : AnnotationSettings) :
    ∃ services, generateServices r route pa annotations sources = some services := by
  induction sources with
  | nil => exact ⟨[], rfl⟩
  | cons svc sources ih =>
      obtain ⟨rest, later⟩ := ih fun svc member => uids svc (List.mem_cons_of_mem _ member)
      obtain ⟨name, named⟩ := Option.isSome_iff_exists.mp
        (generateName_isSome r.topology.isGlobalTopology (getServiceName svc) svc.ns
          (uids svc List.mem_cons_self))
      simp only [generateServices, generateServiceForLBCluster, named, later, Option.map_some,
        Option.bind_eq_bind, Option.bind_some]
      split
      · exact ⟨_, rfl⟩
      · exact ⟨_, rfl⟩

/-- A call that reports no error ran to its end and wrote the status. -/
theorem manageServices_ok {r : RouteReconciler} {faults : ApiFaults} {statusFault : Option String}
    {api : Admission} {order : List String} {draws : List Draw}
    {annotations : AnnotationSettings} {route : Route} {before after : RouteEffects}
    {source : KubernetesSource} (kubernetes : route.spec.kubernetes = some source)
    (returned : manageServices r faults statusFault api order draws annotations route before =
      some (after, none)) :
    ∃ cleaned allocator rest services,
      cleanupOrphanedServices r faults route order before = (cleaned, none) ∧
      cleaned.allocator.allocatePortsForRoutes [route] draws = some (allocator, rest) ∧
      generateServices r route allocator annotations source.services = some services ∧
      after = applyServices faults api services { cleaned with allocator := allocator } := by
  simp only [manageServices, kubernetes] at returned
  split at returned
  · cases returned
  · rename_i cleaned cleanedUp
    obtain ⟨⟨allocator, rest⟩, allocated, returned⟩ := Option.bind_eq_some_iff.mp returned
    simp only at returned
    split at returned
    · cases returned
    · rename_i services generated
      cases returned
      exact ⟨cleaned, allocator, rest, services, cleanedUp, allocated, generated, rfl⟩

/-- Without faults, and with the UIDs of the API server, the call reports no error. -/
theorem manageServices_succeeds {r : RouteReconciler} {faults : ApiFaults} {api : Admission}
    {order : List String} {draws : List Draw} {annotations : AnnotationSettings} {route : Route}
    {before after : RouteEffects} {failure : Option String}
    (deletes : ∀ key, faults.delete key = none)
    (uids : ∀ svc ∈ route.sourceServices, nameSuffixLength ≤ svc.uid.length)
    (returned : manageServices r faults none api order draws annotations route before =
      some (after, failure)) : failure = none := by
  cases kubernetes : route.spec.kubernetes with
  | none =>
      simp only [manageServices, kubernetes] at returned
      cases returned
      rfl
  | some source =>
      simp only [manageServices, kubernetes] at returned
      rw [sourceServices_eq kubernetes] at uids
      have cleanedUp := cleanupOrphanedServices_succeeds (r := r) deletes route order before
      split at returned
      · rename_i failed
        rw [failed] at cleanedUp
        cases cleanedUp
      · obtain ⟨⟨allocator, rest⟩, _, returned⟩ := Option.bind_eq_some_iff.mp returned
        obtain ⟨services, generated⟩ := exists_generateServices r route uids allocator annotations
        simp only [generated] at returned
        cases returned
        rfl

end KubeLB
