import KubeLB.Route.OrphanCleanup

/-!
Whether cleanupOrphanedServices depends on the order in which Go ranges over the
status map.

The loop deletes from the map it ranges over, and decides about a bridge by looking
for its tenant side in the same map. Met before its tenant side, the bridge of a
dropped source service is spared; met after it, it is deleted. With API errors the
order shows in what is deleted before the first error.
-/

namespace KubeLB
open FiniteMap

def beforeCleanup (route : Route) (store : ServiceStore) (allocator : PortAllocator) :
    RouteEffects :=
  { services := route.services, store := store, allocator := allocator }

def IsBridge (r : RouteReconciler) (value : RouteServiceStatus) : Prop :=
  r.topology.isGlobalTopology ∧ value.ns = r.ns

instance (r : RouteReconciler) : DecidablePred (IsBridge r) :=
  fun _ => inferInstanceAs (Decidable (_ ∧ _))

structure Orphan (r : RouteReconciler) (route : Route) (key : String)
    (value : RouteServiceStatus) : Prop where
  recorded : route.services.lookup key = some value
  unspared : ¬ sparedEntry r route route.services key value

/-- The two entries of a source service that is no longer in the spec: that of its
generated Service and that of its bridge. -/
structure Dropped (r : RouteReconciler) (route : Route) (key bridgeKey : String)
    (value bridge : RouteServiceStatus) : Prop where
  recorded : route.services.lookup key = some value
  undesired : key ∉ desiredServices route
  tenant : value.ns ≠ r.ns
  bridgeRecorded : route.services.lookup bridgeKey = some bridge
  bridgeUndesired : bridgeKey ∉ desiredServices route
  isBridge : IsBridge r bridge
  sameName : value.generatedName = bridge.generatedName

section
variable (r : RouteReconciler) (faults : ApiFaults) (route : Route) (store : ServiceStore)
  (allocator : PortAllocator)

/-- Any two orders give the same deletions and leave the same status. -/
def SameInEveryOrder : Prop :=
  ∀ order order', Enumerates order route.services → Enumerates order' route.services →
    let first := (cleanupOrphanedServices r faults route order
      (beforeCleanup route store allocator)).1
    let second := (cleanupOrphanedServices r faults route order'
      (beforeCleanup route store allocator)).1
    (∀ target, target ∈ first.deletes ↔ target ∈ second.deletes) ∧
      first.services = second.services

/-- A call that succeeds deletes both Services of a dropped source service, and their
entries. -/
def DeletesDropped : Prop :=
  ∀ order, Enumerates order route.services → ∀ cleaned,
    cleanupOrphanedServices r faults route order (beforeCleanup route store allocator) =
      (cleaned, none) →
    ∀ key bridgeKey value bridge, Dropped r route key bridgeKey value bridge →
      (recordedService r route value ∈ cleaned.deletes ∧ cleaned.services.lookup key = none) ∧
        recordedService r route bridge ∈ cleaned.deletes ∧
          cleaned.services.lookup bridgeKey = none

end

section
variable {r : RouteReconciler} {faults : ApiFaults} {route : Route} (store : ServiceStore)
  (allocator : PortAllocator) {key bridgeKey : String} {value bridge : RouteServiceStatus}

/-- An entry that is no bridge is spared by its source service alone. -/
theorem sparedEntry_iff_of_not_bridge {services : FiniteMap String RouteServiceStatus}
    (tenant : ¬ IsBridge r value) :
    sparedEntry r route services key value ↔ key ∈ desiredServices route := by
  constructor
  · rintro (desired | ⟨global, bridge, _⟩)
    · exact desired
    · exact absurd ⟨global, bridge⟩ tenant
  · exact Or.inl

theorem Dropped.orphan (dropped : Dropped r route key bridgeKey value bridge) :
    Orphan r route key value := by
  refine ⟨dropped.recorded, fun spared => dropped.undesired ?_⟩
  exact (sparedEntry_iff_of_not_bridge fun isBridge => dropped.tenant isBridge.2).mp spared

theorem Dropped.spared {services : FiniteMap String RouteServiceStatus}
    (dropped : Dropped r route key bridgeKey value bridge)
    (recorded : services.lookup key = some value) :
    sparedEntry r route services bridgeKey bridge := by
  refine Or.inr ⟨dropped.isBridge.1, dropped.isBridge.2, value, ?_, dropped.sameName, ?_⟩
  · exact (mem_values _ _).mpr ⟨key, recorded⟩
  · rw [dropped.isBridge.2]
    exact dropped.tenant

/-- What the loop has done as long as it has only met orphans of the start: they are
the only entries that may be gone, and their Services the ones deleted. -/
structure OnlyOrphans (r : RouteReconciler) (route : Route) (now : RouteEffects) : Prop where
  fewer : ∀ key value, now.services.lookup key = some value →
    route.services.lookup key = some value
  kept : ∀ key value, route.services.lookup key = some value →
    sparedEntry r route route.services key value → now.services.lookup key = some value
  deleted : ∀ target ∈ now.deletes, ∃ key value, Orphan r route key value ∧
    recordedService r route value = target
  gone : ∀ key value, route.services.lookup key = some value → now.services.lookup key = none →
    recordedService r route value ∈ now.deletes

theorem onlyOrphans_start : OnlyOrphans r route (beforeCleanup route store allocator) where
  fewer _ _ found := found
  kept _ _ found _ := found
  deleted _ member := by cases member
  gone _ _ found absent := by cases found.symm.trans absent

/-- Without dropped source services, an entry that is spared at the start stays so. -/
theorem OnlyOrphans.orphan {now : RouteEffects} (holds : OnlyOrphans r route now)
    (noneDropped : ∀ key bridgeKey value bridge, ¬ Dropped r route key bridgeKey value bridge)
    (found : now.services.lookup key = some value)
    (unspared : ¬ sparedEntry r route now.services key value) : Orphan r route key value := by
  refine ⟨holds.fewer key value found, ?_⟩
  rintro (desired | ⟨global, isBridge, other, member, sameName, elsewhere⟩)
  · exact unspared (Or.inl desired)
  · obtain ⟨otherKey, recorded⟩ := (mem_values _ _).mp member
    have tenant : other.ns ≠ r.ns := by rwa [← isBridge]
    have desired : otherKey ∈ desiredServices route := by
      by_contra undesired
      exact noneDropped otherKey key other value
        { recorded := recorded, undesired := undesired, tenant := tenant
          bridgeRecorded := holds.fewer key value found
          bridgeUndesired := fun desired => unspared (Or.inl desired)
          isBridge := ⟨global, isBridge⟩, sameName := sameName }
    have still := holds.kept otherKey other recorded (Or.inl desired)
    exact unspared (Or.inr ⟨global, isBridge, other, (mem_values _ _).mpr ⟨otherKey, still⟩,
      sameName, elsewhere⟩)

theorem OnlyOrphans.remove {now : RouteEffects} (holds : OnlyOrphans r route now)
    (orphan : Orphan r route key value) :
    OnlyOrphans r route (removeOrphan r route now key value) where
  fewer other kept found := holds.fewer other kept (lookup_of_lookup_erase found)
  kept other kept found spared := by
    have different : other ≠ key := by
      rintro rfl
      cases found.symm.trans orphan.recorded
      exact orphan.unspared spared
    exact (Finmap.lookup_erase_ne different).trans (holds.kept other kept found spared)
  deleted target member := by
    obtain old | new := List.mem_append.mp member
    · exact holds.deleted target old
    · exact ⟨key, value, orphan, (List.mem_singleton.mp new).symm⟩
  gone other lost found absent := by
    by_cases same : other = key
    · subst same
      cases found.symm.trans orphan.recorded
      exact List.mem_append_right _ (List.mem_singleton_self _)
    · refine List.mem_append_left _ (holds.gone other lost found ?_)
      exact (Finmap.lookup_erase_ne same).symm.trans absent

section
variable {order : List String} (enumerates : Enumerates order route.services)
include enumerates

/-- With nothing dropped and no API error the call removes exactly the orphans. -/
theorem cleanup_removes_orphans
    (deletable : ∀ key value, Orphan r route key value →
      faults.delete (recordedService r route value) = none)
    (noneDropped : ∀ key bridgeKey value bridge, ¬ Dropped r route key bridgeKey value bridge) :
    ∃ cleaned, cleanupOrphanedServices r faults route order
        (beforeCleanup route store allocator) = (cleaned, none) ∧
      (∀ target, target ∈ cleaned.deletes ↔
        ∃ key value, Orphan r route key value ∧ recordedService r route value = target) ∧
      ∀ key value, cleaned.services.lookup key = some value ↔
        route.services.lookup key = some value ∧
          sparedEntry r route route.services key value := by
  obtain ⟨cleaned, returned, holds⟩ |
      ⟨now, key, value, err, _, holds, _, found, unspared, fails⟩ :=
    cleanupOrphanedServices_outcome (P := OnlyOrphans r route) faults order
      (fun now key value holds _ found unspared _ =>
        holds.remove (holds.orphan noneDropped found unspared)) (onlyOrphans_start store allocator)
  · have removed {key : String} {value : RouteServiceStatus} (orphan : Orphan r route key value) :
        cleaned.services.lookup key = none :=
      (removed_of_unspared returned
        ((enumerates.2 key).mpr (Finmap.mem_of_lookup_eq_some orphan.recorded)) orphan.recorded
        orphan.unspared).1
    refine ⟨cleaned, returned, fun target => ⟨holds.deleted target, ?_⟩, fun key value => ⟨?_, ?_⟩⟩
    · rintro ⟨key, value, orphan, rfl⟩
      exact holds.gone key value orphan.recorded (removed orphan)
    · intro found
      refine ⟨holds.fewer key value found, ?_⟩
      by_contra unspared
      cases (removed ⟨holds.fewer key value found, unspared⟩).symm.trans found
    · rintro ⟨recorded, spared⟩
      exact holds.kept key value recorded spared
  · exact absurd (deletable key value (holds.orphan noneDropped found unspared)) fails

/-- If no orphan can be deleted, nothing is, and the call fails if there is one. -/
theorem cleanup_stuck
    (stuck : ∀ key value, Orphan r route key value →
      faults.delete (recordedService r route value) ≠ none) :
    (cleanupOrphanedServices r faults route order (beforeCleanup route store allocator) =
        (beforeCleanup route store allocator, none) ∧
      ∀ key value, ¬ Orphan r route key value) ∨
    ∃ key value err, Orphan r route key value ∧
      cleanupOrphanedServices r faults route order (beforeCleanup route store allocator) =
        (judgeOrphan r route (beforeCleanup route store allocator) key value, some err) := by
  obtain ⟨cleaned, returned, rfl⟩ |
      ⟨_, key, value, err, returned, rfl, _, found, unspared, _⟩ :=
    cleanupOrphanedServices_outcome (P := (· = beforeCleanup route store allocator)) faults order
      (by
        rintro _ key value rfl _ found unspared deletable
        exact absurd deletable (stuck key value ⟨found, unspared⟩)) rfl
  · refine Or.inl ⟨returned, fun key value orphan => ?_⟩
    have removed := removed_of_unspared returned
      ((enumerates.2 key).mpr (Finmap.mem_of_lookup_eq_some orphan.recorded)) orphan.recorded
      orphan.unspared
    cases removed.1.symm.trans orphan.recorded
  · exact Or.inr ⟨key, value, err, ⟨found, unspared⟩, returned⟩

end

/-! ### The orders that show it -/

theorem cleanupOrphanedServices_append (front back : List String) (effects : RouteEffects) :
    cleanupOrphanedServices r faults route (front ++ back) effects =
      match cleanupOrphanedServices r faults route front effects with
      | (after, none) => cleanupOrphanedServices r faults route back after
      | (after, some err) => (after, some err) := by
  induction front generalizing effects with
  | nil => rfl
  | cons key front ih =>
      rw [List.cons_append, cleanupOrphanedServices, cleanupOrphanedServices]
      split
      · exact ih effects
      · split
        · exact ih effects
        · split
          · rfl
          · exact ih _

theorem exists_bridges_first (r : RouteReconciler) (route : Route) :
    ∃ bridges others, Enumerates (bridges ++ others) route.services ∧
      (∀ key ∈ bridges, ∀ value, route.services.lookup key = some value → IsBridge r value) ∧
      ∀ key ∈ others, ∀ value, route.services.lookup key = some value → ¬ IsBridge r value := by
  let ofBridge (key : String) : Bool := ∃ value ∈ route.services.lookup key, IsBridge r value
  let keys := route.services.keys.toList
  have perm := List.filter_append_perm ofBridge keys
  refine ⟨keys.filter ofBridge, keys.filter (fun key => !ofBridge key), ⟨?_, fun key => ?_⟩,
    fun key member value recorded => ?_, fun key member value recorded isBridge => ?_⟩
  · exact perm.nodup_iff.mpr (Finset.nodup_toList _)
  · rw [perm.mem_iff, Finset.mem_toList, Finmap.mem_keys]
  · obtain ⟨other, found, isBridge⟩ := of_decide_eq_true (List.mem_filter.mp member).2
    cases recorded.symm.trans found
    exact isBridge
  · have tenant := (List.mem_filter.mp member).2
    rw [Bool.not_eq_true', decide_eq_false_iff_not] at tenant
    exact tenant ⟨value, recorded, isBridge⟩

/-- While only bridges have been met, the tenant sides are all recorded, and so is the
bridge of a dropped source service. -/
structure TenantsLeft (r : RouteReconciler) (route : Route) (bridgeKey : String)
    (bridge : RouteServiceStatus) (now : RouteEffects) : Prop where
  fewer : ∀ key value, now.services.lookup key = some value →
    route.services.lookup key = some value
  tenants : ∀ key value, route.services.lookup key = some value → ¬ IsBridge r value →
    now.services.lookup key = some value
  bridge : now.services.lookup bridgeKey = some bridge

/-- With the tenant sides recorded, a bridge is judged as it is at the start. -/
theorem TenantsLeft.orphan {now : RouteEffects} {otherKey : String} {other : RouteServiceStatus}
    (holds : TenantsLeft r route bridgeKey bridge now) (isBridge : IsBridge r other)
    (found : now.services.lookup otherKey = some other)
    (unspared : ¬ sparedEntry r route now.services otherKey other) :
    Orphan r route otherKey other := by
  refine ⟨holds.fewer otherKey other found, ?_⟩
  rintro (desired | ⟨global, inNs, third, member, sameName, elsewhere⟩)
  · exact unspared (Or.inl desired)
  · obtain ⟨thirdKey, recorded⟩ := (mem_values _ _).mp member
    have tenant : ¬ IsBridge r third := fun also => elsewhere (also.2.trans isBridge.2.symm)
    have still := holds.tenants thirdKey third recorded tenant
    exact unspared (Or.inr ⟨global, inNs, third, (mem_values _ _).mpr ⟨thirdKey, still⟩, sameName,
      elsewhere⟩)

/-- The removal of a bridge keeps the tenant sides and the bridge of a dropped source
service, which is spared as long as its tenant side is recorded. -/
theorem TenantsLeft.remove {now : RouteEffects} {otherKey : String} {other : RouteServiceStatus}
    (holds : TenantsLeft r route bridgeKey bridge now)
    (dropped : Dropped r route key bridgeKey value bridge) (isBridge : IsBridge r other)
    (found : now.services.lookup otherKey = some other)
    (unspared : ¬ sparedEntry r route now.services otherKey other) :
    TenantsLeft r route bridgeKey bridge (removeOrphan r route now otherKey other) := by
  have tenant : ¬ IsBridge r value := fun isBridge => dropped.tenant isBridge.2
  refine ⟨fun _ _ here => holds.fewer _ _ (lookup_of_lookup_erase here),
    fun thirdKey third recorded isTenant => ?_, ?_⟩
  · have different : thirdKey ≠ otherKey := by
      rintro rfl
      cases recorded.symm.trans (holds.fewer _ _ found)
      exact isTenant isBridge
    exact (Finmap.lookup_erase_ne different).trans
      (holds.tenants thirdKey third recorded isTenant)
  · have different : bridgeKey ≠ otherKey := by
      rintro rfl
      cases holds.bridge.symm.trans found
      exact unspared (dropped.spared (holds.tenants key value dropped.recorded tenant))
    exact (Finmap.lookup_erase_ne different).trans holds.bridge

section
variable (deletable : ∀ key value, Orphan r route key value →
    faults.delete (recordedService r route value) = none)
  (dropped : Dropped r route key bridgeKey value bridge)
include deletable dropped

/-- The loop over the bridges, as long as no tenant side has been met. -/
theorem cleanup_bridges {bridges : List String}
    (areBridges : ∀ key ∈ bridges, ∀ value, route.services.lookup key = some value →
      IsBridge r value) :
    ∃ after, cleanupOrphanedServices r faults route bridges
        (beforeCleanup route store allocator) = (after, none) ∧
      TenantsLeft r route bridgeKey bridge after := by
  have start : TenantsLeft r route bridgeKey bridge (beforeCleanup route store allocator) :=
    ⟨fun _ _ found => found, fun _ _ found _ => found, dropped.bridgeRecorded⟩
  obtain through | ⟨now, otherKey, other, _, _, holds, member, found, unspared, fails⟩ :=
    cleanupOrphanedServices_outcome (P := TenantsLeft r route bridgeKey bridge) faults bridges
      (fun now otherKey other holds member found unspared _ => holds.remove dropped
        (areBridges otherKey member other (holds.fewer _ _ found)) found unspared) start
  · exact through
  · have isBridge := areBridges otherKey member other (holds.fewer _ _ found)
    exact absurd (deletable otherKey other (holds.orphan isBridge found unspared)) fails

/-- Behind the bridges only tenant sides are met, and none of them is the bridge. -/
theorem cleanup_tenants {others : List String} {effects : RouteEffects}
    (areTenants : ∀ key ∈ others, ∀ value, route.services.lookup key = some value →
      ¬ IsBridge r value)
    (start : TenantsLeft r route bridgeKey bridge effects) :
    ∃ cleaned, cleanupOrphanedServices r faults route others effects = (cleaned, none) ∧
      cleaned.services.lookup bridgeKey = some bridge := by
  let P (now : RouteEffects) : Prop :=
    (∀ key value, now.services.lookup key = some value →
      route.services.lookup key = some value) ∧ now.services.lookup bridgeKey = some bridge
  obtain ⟨cleaned, returned, _, kept⟩ |
      ⟨now, otherKey, other, _, _, holds, member, found, unspared, fails⟩ :=
    cleanupOrphanedServices_outcome (P := P) faults others
      (fun now otherKey other holds member found _ _ => by
        refine ⟨fun _ _ here => holds.1 _ _ (lookup_of_lookup_erase here), ?_⟩
        have different : bridgeKey ≠ otherKey := by
          rintro rfl
          exact areTenants bridgeKey member bridge dropped.bridgeRecorded dropped.isBridge
        exact (Finmap.lookup_erase_ne different).trans holds.2) ⟨start.fewer, start.bridge⟩
  · exact ⟨cleaned, returned, kept⟩
  · have isTenant := areTenants otherKey member other (holds.1 _ _ found)
    rw [sparedEntry_iff_of_not_bridge isTenant] at unspared
    have orphan : Orphan r route otherKey other := by
      refine ⟨holds.1 _ _ found, ?_⟩
      rwa [sparedEntry_iff_of_not_bridge isTenant]
    exact absurd (deletable otherKey other orphan) fails

/-- If all bridges are met first, that of a dropped source service outlives the call. -/
theorem exists_order_keeps_bridge :
    ∃ order cleaned, Enumerates order route.services ∧
      cleanupOrphanedServices r faults route order (beforeCleanup route store allocator) =
        (cleaned, none) ∧ cleaned.services.lookup bridgeKey = some bridge := by
  obtain ⟨bridges, others, enumerates, areBridges, areTenants⟩ := exists_bridges_first r route
  obtain ⟨middle, ran, holds⟩ := cleanup_bridges store allocator deletable dropped areBridges
  obtain ⟨cleaned, returned, kept⟩ := cleanup_tenants deletable dropped areTenants holds
  refine ⟨bridges ++ others, cleaned, enumerates, ?_, kept⟩
  rw [cleanupOrphanedServices_append, ran]
  exact returned

end

/-- An orphan that cannot be deleted ends the call when it is met first. -/
theorem cleanup_failing_first (order : List String) (orphan : Orphan r route key value)
    (fails : faults.delete (recordedService r route value) ≠ none) :
    (cleanupOrphanedServices r faults route (key :: order)
      (beforeCleanup route store allocator)).1 =
        judgeOrphan r route (beforeCleanup route store allocator) key value := by
  obtain ⟨err, refused⟩ := Option.ne_none_iff_exists'.mp fails
  have found : (beforeCleanup route store allocator).services.lookup key = some value :=
    orphan.recorded
  rw [cleanupOrphanedServices, found]
  simp only [beforeCleanup, if_neg orphan.unspared, refused]

theorem lookup_cleanup_passing_first (order : List String) (orphan : Orphan r route key value)
    (passes : faults.delete (recordedService r route value) = none) :
    (cleanupOrphanedServices r faults route (key :: order)
      (beforeCleanup route store allocator)).1.services.lookup key = none := by
  have found : (beforeCleanup route store allocator).services.lookup key = some value :=
    orphan.recorded
  rw [cleanupOrphanedServices, found]
  simp only [beforeCleanup, if_neg orphan.unspared, passes]
  refine cleanupOrphanedServices_induct (P := fun now => now.services.lookup key = none) ?_ ?_
    order (Finmap.lookup_erase _ _)
  · exact fun _ _ _ gone _ _ => gone
  · intro now other kept gone found unspared
    by_contra present
    obtain ⟨back, here⟩ := Option.ne_none_iff_exists'.mp present
    cases gone.symm.trans (lookup_of_lookup_erase here)

/-- If some orphan cannot be deleted and the order does not show, then none can, and
all stand for one Service. -/
theorem orphans_alike (same : SameInEveryOrder r faults route store allocator)
    (orphan : Orphan r route key value)
    (fails : faults.delete (recordedService r route value) ≠ none) {otherKey : String}
    {other : RouteServiceStatus} (otherOrphan : Orphan r route otherKey other) :
    recordedService r route other = recordedService r route value := by
  obtain ⟨order, enumerates⟩ :=
    exists_enumerates_cons (Finmap.mem_of_lookup_eq_some orphan.recorded)
  obtain ⟨order', enumerates'⟩ :=
    exists_enumerates_cons (Finmap.mem_of_lookup_eq_some otherOrphan.recorded)
  have ends := cleanup_failing_first store allocator order orphan fails
  obtain ⟨deletes, services⟩ := same _ _ enumerates enumerates'
  rw [ends] at deletes services
  by_cases passes : faults.delete (recordedService r route other) = none
  · have gone := lookup_cleanup_passing_first store allocator order' otherOrphan passes
    rw [← services] at gone
    cases gone.symm.trans otherOrphan.recorded
  · rw [cleanup_failing_first store allocator order' otherOrphan passes] at deletes
    exact List.mem_singleton.mp ((deletes _).mpr (List.mem_singleton_self _))

/-- With nothing dropped and no API error, every order removes the same orphans. -/
theorem sameInEveryOrder_of_deletable
    (deletable : ∀ key value, Orphan r route key value →
      faults.delete (recordedService r route value) = none)
    (noneDropped : ∀ key bridgeKey value bridge, ¬ Dropped r route key bridgeKey value bridge) :
    SameInEveryOrder r faults route store allocator := by
  intro order order' enumerates enumerates'
  obtain ⟨first, returned, deletes, services⟩ :=
    cleanup_removes_orphans store allocator enumerates deletable noneDropped
  obtain ⟨second, returned', deletes', services'⟩ :=
    cleanup_removes_orphans store allocator enumerates' deletable noneDropped
  simp only [returned, returned']
  refine ⟨fun target => (deletes target).trans (deletes' target).symm, ?_⟩
  refine Finmap.ext_lookup fun key => Option.ext fun value => ?_
  exact (services key value).trans (services' key value).symm

section
variable {target : ObjectKey} (stuck : ∀ key value, Orphan r route key value →
  recordedService r route value = target ∧ faults.delete target ≠ none)
include stuck

theorem refused_of_stuck (key : String) (value : RouteServiceStatus)
    (orphan : Orphan r route key value) :
    faults.delete (recordedService r route value) ≠ none := by
  rw [(stuck key value orphan).1]
  exact (stuck key value orphan).2

/-- When all orphans stand for one Service that cannot be deleted, every order asks once
for this Service. -/
theorem sameInEveryOrder_of_stuck : SameInEveryOrder r faults route store allocator := by
  intro order order' enumerates enumerates'
  obtain ⟨returned, noOrphan⟩ | ⟨key, value, err, orphan, returned⟩ :=
    cleanup_stuck store allocator enumerates (refused_of_stuck stuck) <;>
  obtain ⟨returned', noOrphan'⟩ | ⟨key', value', err', orphan', returned'⟩ :=
    cleanup_stuck store allocator enumerates' (refused_of_stuck stuck)
  · simp [returned, returned']
  · exact absurd orphan' (noOrphan key' value')
  · exact absurd orphan (noOrphan' key value)
  · simp [returned, returned', judgeOrphan, (stuck key value orphan).1,
      (stuck key' value' orphan').1]

theorem deletesDropped_of_stuck : DeletesDropped r faults route store allocator := by
  intro order enumerates cleaned returned key bridgeKey value bridge dropped
  obtain ⟨_, noOrphan⟩ | ⟨_, _, err, _, failed⟩ :=
    cleanup_stuck store allocator enumerates (refused_of_stuck stuck)
  · exact absurd dropped.orphan (noOrphan key value)
  · cases returned.symm.trans failed

end

end

/-- The order of iteration does not show, and both Services of every dropped source
service are deleted in one call, exactly when all orphans can be deleted and no source
service has been dropped of which the bridge is recorded too, or when no orphan can be
deleted and all of them stand for one Service. -/
theorem cleanup_order_irrelevant_iff (r : RouteReconciler) (faults : ApiFaults) (route : Route)
    (store : ServiceStore) (allocator : PortAllocator) :
    (SameInEveryOrder r faults route store allocator ∧
      DeletesDropped r faults route store allocator) ↔
    ((∀ key value, Orphan r route key value →
        faults.delete (recordedService r route value) = none) ∧
      ∀ key bridgeKey value bridge, ¬ Dropped r route key bridgeKey value bridge) ∨
    ∃ target, ∀ key value, Orphan r route key value →
      recordedService r route value = target ∧ faults.delete target ≠ none := by
  constructor
  · rintro ⟨same, together⟩
    by_cases deletable : ∀ key value, Orphan r route key value →
        faults.delete (recordedService r route value) = none
    · refine Or.inl ⟨deletable, fun key bridgeKey value bridge dropped => ?_⟩
      obtain ⟨order, cleaned, enumerates, returned, kept⟩ :=
        exists_order_keeps_bridge store allocator deletable dropped
      have gone := (together order enumerates cleaned returned _ _ _ _ dropped).2.2
      cases gone.symm.trans kept
    · simp only [not_forall] at deletable
      obtain ⟨key, value, orphan, fails⟩ := deletable
      refine Or.inr ⟨recordedService r route value, fun otherKey other otherOrphan => ?_⟩
      exact ⟨orphans_alike store allocator same orphan fails otherOrphan, fails⟩
  · rintro (⟨deletable, noneDropped⟩ | ⟨target, stuck⟩)
    · exact ⟨sameInEveryOrder_of_deletable store allocator deletable noneDropped,
        fun _ _ _ _ _ _ _ _ dropped => absurd dropped (noneDropped _ _ _ _)⟩
    · exact ⟨sameInEveryOrder_of_stuck store allocator stuck,
        deletesDropped_of_stuck store allocator stuck⟩

/-- A Route in the global topology whose only source service has been dropped. -/
def droppedRoute : Route where
  name := "u-app"
  ns := "tenant-t"
  spec := { kubernetes := some {} }
  services := insertAll ∅
    [("default/web", { name := "web", ns := "default", generatedName := "default-web-0001" }),
      ("kubelb/default-web-0001",
        { name := "default-web-0001", ns := "kubelb", generatedName := "default-web-0001" })]

/-- The bridge is deleted with the generated Service if it is met second, and left if
it is met first. -/
theorem cleanup_order_leaves_bridge :
    let r : RouteReconciler := { ns := "kubelb", topology := .global }
    let cleaned (order : List String) := (cleanupOrphanedServices r {} droppedRoute order
      (beforeCleanup droppedRoute ∅ newPortAllocator)).1
    let tenantFirst := cleaned ["default/web", "kubelb/default-web-0001"]
    let bridgeFirst := cleaned ["kubelb/default-web-0001", "default/web"]
    tenantFirst.deletes = [⟨"tenant-t", "default-web-0001"⟩, ⟨"kubelb", "default-web-0001"⟩] ∧
      tenantFirst.services = ∅ ∧
      bridgeFirst.deletes = [⟨"tenant-t", "default-web-0001"⟩] ∧
      bridgeFirst.services.keys = {"kubelb/default-web-0001"} := by
  decide

end KubeLB
