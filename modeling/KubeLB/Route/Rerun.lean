import KubeLB.Route.Orphans

/-!
The second reconcile for the source services that the CCM produces: replicas,
which carry the labels of their origin, and services passed through without
them. For these the condition of the previous module is read back to the
namespaces, names and UIDs of the source services.
-/

namespace KubeLB
open FiniteMap Joined

/-- A Route of a tenant with source services from the CCM. Namespaces are DNS
labels and UIDs are those of the API server. -/
structure TenantRoute (r : RouteReconciler) (route : Route) (source : KubernetesSource) : Prop where
  kubernetes : route.spec.kubernetes = some source
  produced : ∀ svc ∈ source.services, CCMProduced svc
  uids : ∀ svc ∈ source.services, nameSuffixLength ≤ svc.uid.length
  tenant : route.ns ≠ r.ns
  slashes : Lacks '/' r.ns ∧ Lacks '/' route.ns ∧ ∀ svc ∈ source.services, Lacks '/' svc.ns

/-- A source service with the namespace and, by its origin label if there is one,
the name. -/
def Listed (sources : List Service) (ns name : String) : Prop :=
  ∃ svc ∈ sources, svc.ns = ns ∧ getServiceName svc = name

theorem mem_records {r : RouteReconciler} {route : Route} {sources : List Service}
    {entry : StatusRecord} : entry ∈ records r route sources ↔ ∃ svc ∈ sources,
      entry = sourceRecord r route svc ∨
        (r.topology.isGlobalTopology ∧ entry = bridgeRecord r svc) := by
  simp only [records, List.mem_flatMap]
  refine exists_congr fun svc => and_congr_right fun _ => ?_
  by_cases global : r.topology.isGlobalTopology = true
  · simp [global, or_comm]
  · simp [global]

/-- Away from the bridges, the last record of a key is that of the last source
service with it. -/
theorem lastWith_records {r : RouteReconciler} {route : Route} {sources : List Service}
    {key : String} (noBridge : ∀ svc ∈ sources, (bridgeRecord r svc).key ≠ key) :
    lastWith StatusRecord.key (records r route sources) key =
      (lastWith (fun svc => (sourceRecord r route svc).key) sources key).map
        (sourceRecord r route) := by
  induction sources with
  | nil => rfl
  | cons svc sources ih =>
      have rest := ih fun svc member => noBridge svc (List.mem_cons_of_mem _ member)
      rw [records, List.flatMap_cons, ← records, lastWith_append, rest, lastWith]
      have head : lastWith StatusRecord.key
          (if r.topology.isGlobalTopology = true then
            [bridgeRecord r svc, sourceRecord r route svc] else [sourceRecord r route svc]) key =
          (if (sourceRecord r route svc).key = key then some svc else none).map
            (sourceRecord r route) := by
        by_cases same : (sourceRecord r route svc).key = key <;> split <;>
          simp [lastWith, same, noBridge svc List.mem_cons_self]
      rw [head]
      cases lastWith (fun svc => (sourceRecord r route svc).key) sources key with
      | none => rfl
      | some later => rfl

namespace TenantRoute
variable {r : RouteReconciler} {route : Route} {source : KubernetesSource}

theorem sources (h : TenantRoute r route source) : route.sourceServices = source.services := by
  exact sourceServices_eq h.kubernetes

theorem mem_desiredServices (h : TenantRoute r route source) {ns name : String}
    (slash : Lacks '/' ns) :
    routeServiceMapKey ns name ∈ desiredServices route ↔ Listed source.services ns name := by
  rw [desiredServices, h.sources, List.mem_map]
  refine exists_congr fun svc => and_congr_right fun member => ?_
  constructor
  · intro same
    exact slash_inj_first (h.slashes.2.2 svc member) slash same
  · rintro ⟨rfl, rfl⟩
    rfl

theorem lacks_sourceRecord (h : TenantRoute r route source) {svc : Service}
    (member : svc ∈ source.services) : Lacks '/' (sourceRecord r route svc).ns := by
  simp only [sourceRecord]
  split
  · exact h.slashes.2.1
  · obtain ⟨name, _, ns⟩ | ⟨_, ns⟩ := h.produced svc member
    · rw [ns]
      exact h.slashes.2.2 svc member
    · rw [ns]
      exact h.slashes.2.1

/-- A generated Service is recorded in the controller namespace only if that is
where its source service lives, and then under the service's own name. -/
theorem listed_of_controller (h : TenantRoute r route source) {svc : Service}
    (member : svc ∈ source.services) (controller : (sourceRecord r route svc).ns = r.ns) :
    Listed source.services r.ns (sourceRecord r route svc).name := by
  simp only [sourceRecord] at controller ⊢
  split at controller
  · exact absurd controller h.tenant
  · obtain ⟨name, named, ns⟩ | ⟨_, ns⟩ := h.produced svc member
    · rw [ns, Option.getD_some] at controller
      refine ⟨svc, member, controller, ?_⟩
      rw [getServiceName, getName, named]
      rfl
    · rw [ns] at controller
      exact absurd controller h.tenant

theorem key_inj (h : TenantRoute r route source) {entry entry' : StatusRecord}
    (member : entry ∈ records r route source.services)
    (member' : entry' ∈ records r route source.services) (same : entry.key = entry'.key) :
    entry.ns = entry'.ns ∧ entry.name = entry'.name := by
  have lacks {entry : StatusRecord} (member : entry ∈ records r route source.services) :
      Lacks '/' entry.ns := by
    obtain ⟨svc, inSources, rfl | ⟨_, rfl⟩⟩ := mem_records.mp member
    · exact h.lacks_sourceRecord inSources
    · exact h.slashes.1
  exact slash_inj_first (lacks member) (lacks member') same

theorem source_mem_records (r : RouteReconciler) (route : Route) {svc : Service}
    (member : svc ∈ source.services) :
    sourceRecord r route svc ∈ records r route source.services :=
  mem_records.mpr ⟨svc, member, Or.inl rfl⟩

theorem bridge_mem_records (route : Route) (global : r.topology.isGlobalTopology) {svc : Service}
    (member : svc ∈ source.services) :
    bridgeRecord r svc ∈ records r route source.services :=
  mem_records.mpr ⟨svc, member, Or.inr ⟨global, rfl⟩⟩

/-- What else stands under the key of a bridge has the same generated name, or is
the record of a source service of that name in the controller namespace. -/
theorem generatedName_of_bridge_key (h : TenantRoute r route source)
    (global : r.topology.isGlobalTopology) {svc : Service} (member : svc ∈ source.services)
    {entry : StatusRecord} (inRecords : entry ∈ records r route source.services)
    (same : entry.key = (bridgeRecord r svc).key) :
    entry.generatedName = sourceName r svc ∨ Listed source.services r.ns (sourceName r svc) := by
  obtain ⟨ns, name⟩ := h.key_inj inRecords (bridge_mem_records route global member) same
  obtain ⟨svc', member', rfl | ⟨_, rfl⟩⟩ := mem_records.mp inRecords
  · right
    have listed := h.listed_of_controller member' ns
    rw [name] at listed
    exact listed
  · exact Or.inl name

theorem no_bridge_key (h : TenantRoute r route source) (global : r.topology.isGlobalTopology)
    {svc : Service} (member : svc ∈ source.services)
    (elsewhere : (sourceRecord r route svc).ns ≠ r.ns) :
    ∀ other ∈ source.services, (bridgeRecord r other).key ≠ (sourceRecord r route svc).key := by
  intro other inSources same
  exact elsewhere
    (h.key_inj (source_mem_records r route member)
      (bridge_mem_records route global inSources) same.symm).1

theorem source_listed (h : TenantRoute r route source) (spared : RecordsSpared r route)
    {svc : Service} (member : svc ∈ source.services) :
    Listed source.services (sourceRecord r route svc).ns (sourceRecord r route svc).name := by
  rw [RecordsSpared, h.sources] at spared
  obtain ⟨last, isLast⟩ :=
    lastWith_isSome StatusRecord.key (source_mem_records r route member)
  obtain ⟨lastIn, lastKey⟩ := lastWith_eq_some isLast
  obtain desired | ⟨_, controller, _⟩ := spared _ _ isLast
  · exact (h.mem_desiredServices (h.lacks_sourceRecord member)).mp desired
  · have ns :=
      (h.key_inj (source_mem_records r route member) lastIn lastKey.symm).1.trans controller
    rw [ns]
    exact h.listed_of_controller member ns

theorem bridge_listed (h : TenantRoute r route source) (spared : RecordsSpared r route)
    (global : r.topology.isGlobalTopology) {svc : Service} (member : svc ∈ source.services) :
    Listed source.services r.ns (sourceName r svc) ∨
      ∃ svc', lastWith (fun svc => (sourceRecord r route svc).key) source.services
          (sourceRecord r route svc').key = some svc' ∧
        sourceName r svc' = sourceName r svc ∧ (sourceRecord r route svc').ns ≠ r.ns := by
  rw [RecordsSpared, h.sources] at spared
  obtain ⟨last, isLast⟩ :=
    lastWith_isSome StatusRecord.key (bridge_mem_records route global member)
  obtain ⟨lastIn, lastKey⟩ := lastWith_eq_some isLast
  obtain desired | ⟨_, _, key', entry', isLast', sameName, elsewhere⟩ := spared _ _ isLast
  · exact Or.inl ((h.mem_desiredServices h.slashes.1).mp desired)
  obtain named | listed := h.generatedName_of_bridge_key global member lastIn lastKey
  · right
    obtain ⟨inRecords', rfl⟩ := lastWith_eq_some isLast'
    obtain ⟨svc', member', rfl | ⟨_, rfl⟩⟩ := mem_records.mp inRecords'
    · rw [lastWith_records (h.no_bridge_key global member' elsewhere),
        Option.map_eq_some_iff] at isLast'
      obtain ⟨svc'', isLast'', sameRecord⟩ := isLast'
      have generated : sourceName r svc'' = sourceName r svc' :=
        congrArg StatusRecord.generatedName sameRecord
      refine ⟨svc'', ?_, ?_, ?_⟩
      · rw [sameRecord]
        exact isLast''
      · rw [generated, ← named]
        exact sameName
      · rw [sameRecord]
        exact elsewhere
    · exact absurd rfl elsewhere
  · exact Or.inl listed

/-- The condition on the records, read back to the source services. -/
theorem recordsSpared_iff (h : TenantRoute r route source) :
    RecordsSpared r route ↔
      (∀ svc ∈ source.services,
        Listed source.services (sourceRecord r route svc).ns (sourceRecord r route svc).name) ∧
      (r.topology.isGlobalTopology → ∀ svc ∈ source.services,
        Listed source.services r.ns (sourceName r svc) ∨
        ∃ svc', lastWith (fun svc => (sourceRecord r route svc).key) source.services
            (sourceRecord r route svc').key = some svc' ∧
          sourceName r svc' = sourceName r svc ∧ (sourceRecord r route svc').ns ≠ r.ns) := by
  constructor
  · intro spared
    exact ⟨fun _ => h.source_listed spared, fun global _ => h.bridge_listed spared global⟩
  · rintro ⟨tenantSide, bridgeSide⟩
    rw [RecordsSpared, h.sources]
    intro key entry isLast
    obtain ⟨inRecords, rfl⟩ := lastWith_eq_some isLast
    obtain ⟨svc, member, rfl | ⟨global, rfl⟩⟩ := mem_records.mp inRecords
    · left
      exact (h.mem_desiredServices (h.lacks_sourceRecord member)).mpr (tenantSide svc member)
    · obtain listed | ⟨svc', isLast', sameName, elsewhere⟩ := bridgeSide global svc member
      · left
        exact (h.mem_desiredServices h.slashes.1).mpr listed
      · right
        refine ⟨global, rfl, (sourceRecord r route svc').key, sourceRecord r route svc', ?_,
          sameName, elsewhere⟩
        have member' := (lastWith_eq_some isLast').1
        rw [lastWith_records (h.no_bridge_key global member' elsewhere), isLast']
        rfl

end TenantRoute

/-- Exactly when a second reconcile of an unchanged Route deletes none of what the
first one made: every generated Service is recorded under the namespace and the
name of a source service, and in the global topology the same holds of each
bridge, or its generated name is recorded outside the controller namespace too. -/
theorem manageServices_second_run_iff (r : RouteReconciler) (route : Route)
    (source : KubernetesSource) (tenantRoute : TenantRoute r route source)
    (allocatable : ∃ pa draws pa' rest,
      PortAllocator.allocatePortsForRoutes pa [route] draws = some (pa', rest)) :
    SecondRunKeeps r route ↔
      (∀ svc ∈ source.services,
        Listed source.services (sourceRecord r route svc).ns (sourceRecord r route svc).name) ∧
      (r.topology.isGlobalTopology → ∀ svc ∈ source.services,
        Listed source.services r.ns (sourceName r svc) ∨
        ∃ svc', lastWith (fun svc => (sourceRecord r route svc).key) source.services
            (sourceRecord r route svc').key = some svc' ∧
          sourceName r svc' = sourceName r svc ∧ (sourceRecord r route svc').ns ≠ r.ns) := by
  rw [← tenantRoute.recordsSpared_iff]
  constructor
  · exact recordsSpared_of_secondRunKeeps tenantRoute.kubernetes tenantRoute.uids allocatable
  · exact secondRunKeeps_of_recordsSpared tenantRoute.kubernetes

theorem second_run_keeps_replica :
    let web : Service :=
      { ns := "default", name := "web-nodeport", uid := "u-0001", type := .nodePort
        labels := insertAll ∅ [(labelOriginName, "web"), (labelOriginNamespace, "default")]
        ports := [{ port := 80, nodePort := 30080 }] }
    let source : KubernetesSource := { route := { name := "app" }, services := [web] }
    let route : Route := { ns := "tenant-t", name := "u-app", spec := { kubernetes := source } }
    let r : RouteReconciler := { ns := "kubelb" }
    TenantRoute r route source ∧ SecondRunKeeps r route := by
  intro web source route r
  have tenantRoute : TenantRoute r route source :=
    { kubernetes := rfl
      produced := fun svc member => by
        obtain rfl := List.mem_singleton.mp member
        exact Or.inl ⟨"web", by decide, by decide⟩
      uids := by decide
      tenant := by decide
      slashes := by decide }
  refine ⟨tenantRoute, (manageServices_second_run_iff r route source tenantRoute
    ⟨newPortAllocator, [0], _, _, rfl⟩).mpr ⟨?_, fun global => absurd global (by decide)⟩⟩
  intro svc member
  obtain rfl := List.mem_singleton.mp member
  exact ⟨web, List.mem_singleton_self _, by decide, by decide⟩

/-- A NodePort service goes through unlabelled. The second reconcile deletes the
Service that the first one created for it. -/
theorem second_run_deletes_passed_through :
    let web : Service :=
      { ns := "default", name := "web", uid := "u-0001", type := .nodePort
        ports := [{ port := 80, nodePort := 30080 }] }
    let source : KubernetesSource := { route := { name := "app" }, services := [web] }
    let route : Route := { ns := "tenant-t", name := "u-app", spec := { kubernetes := source } }
    let r : RouteReconciler := { ns := "kubelb" }
    TenantRoute r route source ∧
    (do
      let (first, failure) ← manageServices r {} none .verbatim [] [0] {} route
        ⟨∅, ∅, newPortAllocator, [], []⟩
      let (second, failure') ← manageServices r {} none .verbatim ["tenant-t/default-web"] [1] {}
        route first
      return (failure, first.services.keys, (first.store.lookup ⟨"tenant-t", "default-web"⟩).isSome,
        failure', second.deletes)) =
      some (none, {"tenant-t/default-web"}, true, none, [⟨"tenant-t", "default-web"⟩]) := by
  intro web source route r
  have tenantRoute : TenantRoute r route source :=
    { kubernetes := rfl
      produced := fun svc member => by
        obtain rfl := List.mem_singleton.mp member
        exact Or.inr ⟨by decide, by decide⟩
      uids := by decide
      tenant := by decide
      slashes := by decide }
  exact ⟨tenantRoute, by decide⟩

end KubeLB
