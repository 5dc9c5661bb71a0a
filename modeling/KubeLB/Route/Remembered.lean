import KubeLB.Route.Evolution

/-!
Whether the status of a Route goes on naming the Services that were written for it.

An entry of the status is addressed by the namespace and the name of the source
service, and holds the generated name. A source service that comes back with another
UID, or two that share a name, get one entry for two Services.
-/

namespace KubeLB
open FiniteMap

/-- The Service that a record of the status stands for, as cleanup addresses it. -/
def recordedAddress (r : RouteReconciler) (route : Route) (record : StatusRecord) : ObjectKey :=
  recordedService r route { ns := record.ns, generatedName := record.generatedName }

structure KeepsAddresses (r : RouteReconciler) (route : Route) : Prop where
  /-- An entry that is written over stands for the same Service. -/
  replaces : ∀ record ∈ records r route route.sourceServices, ∀ value,
    route.services.lookup record.key = some value →
      recordedService r route value = recordedAddress r route record
  distinct : ∀ record ∈ records r route route.sourceServices,
    ∀ other ∈ records r route route.sourceServices, record.key = other.key →
      recordedAddress r route record = recordedAddress r route other
  /-- No source service is taken for a bridge. -/
  reaches : r.topology.isGlobalTopology → ∀ svc ∈ route.sourceServices,
    (sourceRecord r route svc).ns ≠ r.ns

section
variable {r : RouteReconciler} {route : Route} {faults : ApiFaults} {api : Admission}
  {order : List String} {draws : List Draw} {annotations : AnnotationSettings}

theorem recordedService_eq {value : RouteServiceStatus} {record : StatusRecord}
    (ns : value.ns = record.ns) (generatedName : value.generatedName = record.generatedName) :
    recordedService r route value = recordedAddress r route record := by
  unfold recordedAddress recordedService
  rw [ns, generatedName]

theorem KeepsAddresses.address_made (keeps : KeepsAddresses r route) {pa : PortAllocator}
    {services : List Service}
    (generated : generateServices r route pa annotations route.sourceServices = some services)
    {made : Service} (member : made ∈ services) :
    recordedAddress r route (statusRecord made) = made.objectKey := by
  obtain ⟨_, rfl⟩ := generateServices_eq generated
  obtain ⟨⟨svc, bridge⟩, inWritten, rfl⟩ := List.mem_map.mp member
  obtain ⟨inSources, global⟩ := mem_writtenServices.mp inWritten
  unfold recordedAddress recordedService
  cases bridge with
  | true =>
      simp only [madeFor, if_true, statusRecord_generateBridgeService]
      rw [if_pos ⟨global rfl, trivial⟩]
      rfl
  | false =>
      rw [if_neg]
      · rfl
      · rintro ⟨isGlobal, bridgeNs⟩
        exact keeps.reaches isGlobal svc inSources bridgeNs

/-- After the loop that writes the Services the status names them, and what it named
before. -/
theorem names_applyServices (keeps : KeepsAddresses r route) {pa : PortAllocator}
    {services : List Service}
    (generated : generateServices r route pa annotations route.sourceServices = some services)
    {effects : RouteEffects}
    (status : ∀ k value, effects.services.lookup k = some value →
      route.services.lookup k = some value) {target : ObjectKey}
    (held : target ∈ (applyServices faults api services effects).store)
    (named : target ∈ effects.store → ∃ k value, effects.services.lookup k = some value ∧
      target = recordedService r route value) :
    ∃ k value, (applyServices faults api services effects).services.lookup k = some value ∧
      target = recordedService r route value := by
  have inRecords {record : StatusRecord} (member : record ∈ services.map statusRecord) :
      record ∈ records r route route.sourceServices := by
    rw [← map_statusRecord_generateServices generated]
    exact member
  by_cases written : ∃ made ∈ services, made.objectKey = target
  · obtain ⟨made, member, rfl⟩ := written
    have recorded := List.mem_map_of_mem (f := statusRecord) member
    obtain ⟨record, found⟩ := lastWith_isSome StatusRecord.key recorded
    have last := lookup_applyServices faults api services effects (statusRecord made).key
    rw [found] at last
    obtain ⟨value, lookedUp, ns, generatedName⟩ := last
    obtain ⟨member', sameKey⟩ := lastWith_eq_some found
    refine ⟨_, value, lookedUp, ?_⟩
    rw [recordedService_eq ns generatedName, ← keeps.address_made generated member]
    exact (keeps.distinct record (inRecords member') _ (inRecords recorded) sameKey).symm
  · have before : target ∈ effects.store := by
      rw [← Finmap.lookup_isSome] at held ⊢
      rw [← lookup_store_applyServices services effects
        fun made member same => written ⟨made, member, same⟩]
      exact held
    obtain ⟨k, value, found, address⟩ := named before
    have last := lookup_applyServices faults api services effects k
    cases replaced : lastWith StatusRecord.key (services.map statusRecord) k with
    | none =>
        rw [replaced] at last
        exact ⟨k, value, last.trans found, address⟩
    | some record =>
        rw [replaced] at last
        obtain ⟨value', lookedUp, ns, generatedName⟩ := last
        obtain ⟨member, rfl⟩ := lastWith_eq_some replaced
        refine ⟨_, value', lookedUp, ?_⟩
        rw [address, recordedService_eq ns generatedName]
        exact keeps.replaces record (inRecords member) value (status _ _ found)

/-- The loop over the orphans forgets an entry only with its Service. -/
theorem cleanupOrphanedServices_remembers {effects cleaned : RouteEffects}
    {failure : Option String}
    (returned : cleanupOrphanedServices r faults route order effects = (cleaned, failure)) :
    (∀ target ∈ cleaned.store, target ∈ effects.store) ∧
    ∀ k value, effects.services.lookup k = some value →
      recordedService r route value ∈ cleaned.store → cleaned.services.lookup k = some value := by
  let P (now : RouteEffects) : Prop := (∀ target ∈ now.store, target ∈ effects.store) ∧
    ∀ k value, effects.services.lookup k = some value →
      recordedService r route value ∈ now.store → now.services.lookup k = some value
  have all : P (cleanupOrphanedServices r faults route order effects).1 := by
    refine cleanupOrphanedServices_induct ?_ ?_ order ⟨fun _ => id, fun _ _ found _ => found⟩
    · intro now _ _ holds _ _
      exact holds
    · rintro now key value ⟨fewer, entries⟩ found _
      refine ⟨fun target held => fewer target (Finmap.mem_erase.mp held).2, ?_⟩
      intro k other before held
      obtain ⟨kept, still⟩ := Finmap.mem_erase.mp held
      have entry := entries k other before still
      by_cases same : k = key
      · subst same
        cases found.symm.trans entry
        exact absurd rfl kept
      · exact (Finmap.lookup_erase_ne same).trans entry
  rw [returned] at all
  exact all

/-- manageServices, with a status update that succeeds, leaves no Service unnamed that
it has found named or has created; when it fails it has created none. -/
theorem manageServices_remembers (keeps : KeepsAddresses r route) {before after : RouteEffects}
    {failure : Option String} (starts : before.services = route.services)
    (returned : manageServices r faults none api order draws annotations route before =
      some (after, failure)) {target : ObjectKey} (held : target ∈ after.store)
    (named : target ∈ before.store → Names r route target) :
    if failure = none then Names r { route with services := after.services } target
    else target ∈ before.store := by
  cases kubernetes : route.spec.kubernetes with
  | none =>
      simp only [manageServices, kubernetes] at returned
      cases returned
      rw [if_pos rfl, starts]
      exact named held
  | some source =>
      simp only [manageServices, kubernetes] at returned
      split at returned
      · rename_i cleaned err failed
        cases returned
        rw [if_neg (by simp)]
        exact (cleanupOrphanedServices_remembers failed).1 target held
      · rename_i cleaned cleanedUp
        obtain ⟨fewer, entries⟩ := cleanupOrphanedServices_remembers cleanedUp
        obtain ⟨⟨allocator, rest⟩, _, returned⟩ := Option.bind_eq_some_iff.mp returned
        simp only at returned
        split at returned
        · cases returned
          rw [if_neg (by simp)]
          exact fewer target held
        · rename_i services generated
          cases returned
          rw [← sourceServices_eq kubernetes] at generated
          rw [if_pos rfl]
          refine names_applyServices keeps generated ?_ held ?_
          · intro k value found
            rw [← starts]
            exact lookup_cleanupOrphanedServices cleanedUp found
          · intro still
            obtain ⟨k, value, found, rfl⟩ := named (fewer _ still)
            exact ⟨k, value, entries k value (starts ▸ found) still, rfl⟩

/-- The loop of cleanup only deletes Services, and if it ends well it has deleted all
that the keys it met stand for. -/
theorem mem_deleteRecorded {before after : RouteEffects} {failure : Option String}
    (returned : deleteRecorded r faults route order before = (after, failure))
    (target : ObjectKey) :
    (target ∈ after.store → target ∈ before.store) ∧
    (failure = none → (target ∈ after.store ↔ target ∈ before.store ∧
      ∀ key ∈ order, ∀ value, route.services.lookup key = some value →
        target ≠ recordedService r route value)) := by
  induction order generalizing before with
  | nil =>
      cases returned
      simp
  | cons key order ih =>
      rw [deleteRecorded] at returned
      split at returned
      · rename_i absent
        obtain ⟨fewer, exactly⟩ := ih returned
        refine ⟨fewer, fun ended => (exactly ended).trans ?_⟩
        simp [absent]
      · rename_i value found
        simp only at returned
        split at returned
        · cases returned
          exact ⟨id, fun ended => by cases ended⟩
        · obtain ⟨fewer, exactly⟩ := ih returned
          refine ⟨fun held => (Finmap.mem_erase.mp (fewer held)).2, fun ended => ?_⟩
          rw [exactly ended, Finmap.mem_erase]
          simp only [List.forall_mem_cons, found, Option.some.injEq, forall_eq']
          tauto

end

end KubeLB
