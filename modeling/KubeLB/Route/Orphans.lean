import KubeLB.Route.ServicesSpec

/-!
Whether a second reconcile of an unchanged Route deletes what the first one made.

The status is keyed by what the generated Service says of its origin, the set
of desired services by the source service itself. A replica made by the CCM
carries its origin in labels and has one key in both. A service that is passed
through unlabelled is recorded under its new name and the tenant namespace, so
that the next reconcile takes it for an orphan.
-/

namespace KubeLB
open FiniteMap Joined

/-- A second call of manageServices on the unchanged Route, from the status that
the first one wrote, judges none of the entries written by the first orphaned.
Unless the first one left stale bridges in place, which the global topology
allows, the second one deletes nothing at all. -/
def SecondRunKeeps (r : RouteReconciler) (route : Route) : Prop :=
  ∀ faults api order draws annotations before after,
    Enumerates order before.services →
    manageServices r faults none api order draws annotations route before = some (after, none) →
    ∀ faults' order', Enumerates order' after.services →
      let second := (cleanupOrphanedServices r faults' route order'
        { after with orphans := [], deletes := [] }).1
      (∀ entry ∈ records r route route.sourceServices, entry.key ∉ second.orphans) ∧
        (r.topology.isGlobalTopology = false ∨ before.services = ∅ → second.deletes = [])

/-- Every record that the source services leave in the status is spared: it has
the key of a source service, or it is a bridge of another record. -/
def RecordsSpared (r : RouteReconciler) (route : Route) : Prop :=
  ∀ key entry,
    lastWith StatusRecord.key (records r route route.sourceServices) key = some entry →
    key ∈ desiredServices route ∨
      (r.topology.isGlobalTopology ∧ entry.ns = r.ns ∧ ∃ key' entry',
        lastWith StatusRecord.key (records r route route.sourceServices) key' = some entry' ∧
          entry'.generatedName = entry.generatedName ∧ entry'.ns ≠ r.ns)

variable {r : RouteReconciler} {route : Route} {source : KubernetesSource}

private theorem lookup_after {faults : ApiFaults} {api : Admission} {order : List String}
    {draws : List Draw} {annotations : AnnotationSettings} {before after : RouteEffects}
    (kubernetes : route.spec.kubernetes = some source)
    (returned : manageServices r faults none api order draws annotations route before =
      some (after, none)) {key : String} {entry : StatusRecord}
    (last : lastWith StatusRecord.key (records r route route.sourceServices) key = some entry) :
    ∃ value, after.services.lookup key = some value ∧ value.ns = entry.ns ∧
      value.generatedName = entry.generatedName := by
  obtain ⟨cleaned, allocator, rest, services, _, _, generated, rfl⟩ :=
    manageServices_ok kubernetes returned
  have found := lookup_applyServices faults api services { cleaned with allocator := allocator } key
  have sources := sourceServices_eq kubernetes
  rw [map_statusRecord_generateServices generated, ← sources, last] at found
  exact found

/-- What the records of the source services need for the second run to spare them
is in the status at every moment of it. -/
private theorem unspared_is_no_record {faults : ApiFaults} {api : Admission}
    {order : List String} {draws : List Draw} {annotations : AnnotationSettings}
    {before after now : RouteEffects} (kubernetes : route.spec.kubernetes = some source)
    (spared : RecordsSpared r route)
    (returned : manageServices r faults none api order draws annotations route before =
      some (after, none))
    (kept : ∀ key entry,
      lastWith StatusRecord.key (records r route route.sourceServices) key = some entry →
        now.services.lookup key = after.services.lookup key)
    {key : String} {value : RouteServiceStatus} (found : now.services.lookup key = some value)
    (unspared : ¬ sparedEntry r route now.services key value) :
    ∀ entry ∈ records r route route.sourceServices, entry.key ≠ key := by
  rintro entry member rfl
  obtain ⟨last, isLast⟩ := lastWith_isSome StatusRecord.key member
  obtain ⟨recorded, lookedUp, ns, generatedName⟩ := lookup_after kubernetes returned isLast
  have same : recorded = value := by
    rw [← kept _ _ isLast, found] at lookedUp
    exact (Option.some.inj lookedUp).symm
  subst same
  apply unspared
  obtain desired | ⟨global, bridge, key', entry', isLast', sameName, elsewhere⟩ :=
    spared _ _ isLast
  · exact Or.inl desired
  · obtain ⟨other, lookedUp', ns', generatedName'⟩ := lookup_after kubernetes returned isLast'
    refine Or.inr ⟨global, ns.trans bridge, other, ?_, ?_, ?_⟩
    · exact (mem_values _ _).mpr ⟨key', (kept _ _ isLast').trans lookedUp'⟩
    · rw [generatedName', sameName, generatedName]
    · rw [ns', ns, bridge]
      exact elsewhere

/-- After a first run that found no stale bridges, every entry is a record of a
source service or has the key of one. -/
private theorem mem_after {faults : ApiFaults} {api : Admission} {order : List String}
    {draws : List Draw} {annotations : AnnotationSettings} {before after : RouteEffects}
    (kubernetes : route.spec.kubernetes = some source)
    (enumerates : Enumerates order before.services)
    (returned : manageServices r faults none api order draws annotations route before =
      some (after, none))
    (noBridges : r.topology.isGlobalTopology = false ∨ before.services = ∅)
    {key : String} {value : RouteServiceStatus} (found : after.services.lookup key = some value) :
    (∃ entry ∈ records r route route.sourceServices, entry.key = key) ∨
      key ∈ desiredServices route := by
  obtain ⟨cleaned, allocator, rest, services, cleanedUp, _, generated, rfl⟩ :=
    manageServices_ok kubernetes returned
  have lookedUp :=
    lookup_applyServices faults api services { cleaned with allocator := allocator } key
  have sources := sourceServices_eq kubernetes
  rw [map_statusRecord_generateServices generated, ← sources] at lookedUp
  cases last : lastWith StatusRecord.key (records r route route.sourceServices) key with
  | some entry =>
      exact Or.inl ⟨entry, lastWith_eq_some last⟩
  | none =>
      rw [last] at lookedUp
      have old : cleaned.services.lookup key = some value := lookedUp.symm.trans found
      have older := lookup_cleanupOrphanedServices cleanedUp old
      cases noBridges with
      | inl shared =>
          have inOrder := (enumerates.2 key).mpr (Finmap.mem_of_lookup_eq_some older)
          exact Or.inr (mem_desired_of_cleanup shared cleanedUp inOrder old)
      | inr fresh =>
          rw [fresh] at older
          cases older

theorem secondRunKeeps_of_recordsSpared (kubernetes : route.spec.kubernetes = some source)
    (spared : RecordsSpared r route) : SecondRunKeeps r route := by
  intro faults api order draws annotations before after enumerates returned faults' order' _
  let Kept (now : RouteEffects) : Prop := ∀ key entry,
    lastWith StatusRecord.key (records r route route.sourceServices) key = some entry →
      now.services.lookup key = after.services.lookup key
  have noRecord (now : RouteEffects) (key : String) (value : RouteServiceStatus)
      (kept : Kept now) (found : now.services.lookup key = some value)
      (unspared : ¬ sparedEntry r route now.services key value) :
      ∀ entry ∈ records r route route.sourceServices, entry.key ≠ key :=
    unspared_is_no_record kubernetes spared returned kept found unspared
  have keptErased (now : RouteEffects) (key : String) (value : RouteServiceStatus)
      (kept : Kept now) (found : now.services.lookup key = some value)
      (unspared : ¬ sparedEntry r route now.services key value) :
      Kept (removeOrphan r route now key value) := by
    intro key' entry isLast
    obtain ⟨member, atKey⟩ := lastWith_eq_some isLast
    have different : key' ≠ key := by
      rw [← atKey]
      exact noRecord now key value kept found unspared entry member
    exact (Finmap.lookup_erase_ne different).trans (kept key' entry isLast)
  refine ⟨?_, ?_⟩
  · let P (now : RouteEffects) : Prop :=
      Kept now ∧ ∀ entry ∈ records r route route.sourceServices, entry.key ∉ now.orphans
    have logged (now : RouteEffects) (key : String) (value : RouteServiceStatus) (holds : P now)
        (found : now.services.lookup key = some value)
        (unspared : ¬ sparedEntry r route now.services key value) :
        ∀ entry ∈ records r route route.sourceServices,
          entry.key ∉ (judgeOrphan r route now key value).orphans := by
      intro entry member logged
      cases List.mem_append.mp logged with
      | inl old => exact holds.2 entry member old
      | inr new =>
          exact noRecord now key value holds.1 found unspared entry member
            (List.mem_singleton.mp new)
    have start : P { after with orphans := [], deletes := [] } :=
      ⟨fun _ _ _ => rfl, fun _ _ => List.not_mem_nil⟩
    refine (cleanupOrphanedServices_induct ?_ ?_ order' start).2
    · intro now key value holds found unspared
      exact ⟨holds.1, logged now key value holds found unspared⟩
    · intro now key value holds found unspared
      exact ⟨keptErased now key value holds.1 found unspared,
        logged now key value holds found unspared⟩
  · intro noBridges
    -- No entry is ever judged orphaned, so that the list of deletions stays empty.
    let P (now : RouteEffects) : Prop :=
      Kept now ∧ (∀ key value, now.services.lookup key = some value →
        after.services.lookup key = some value) ∧ now.deletes = []
    have never (now : RouteEffects) (key : String) (value : RouteServiceStatus) (holds : P now)
        (found : now.services.lookup key = some value)
        (unspared : ¬ sparedEntry r route now.services key value) : False := by
      obtain ⟨entry, member, atKey⟩ | desired :=
        mem_after kubernetes enumerates returned noBridges (holds.2.1 key value found)
      · exact noRecord now key value holds.1 found unspared entry member atKey
      · exact unspared (Or.inl desired)
    have start : P { after with orphans := [], deletes := [] } :=
      ⟨fun _ _ _ => rfl, fun _ _ found => found, rfl⟩
    refine (cleanupOrphanedServices_induct ?_ ?_ order' start).2.2
    · intro now key value holds found unspared
      exact (never now key value holds found unspared).elim
    · intro now key value holds found unspared
      exact (never now key value holds found unspared).elim

/-- The other direction runs a Route without a status first, and lets the second
run begin with the entry in question. -/
theorem recordsSpared_of_secondRunKeeps (kubernetes : route.spec.kubernetes = some source)
    (uids : ∀ svc ∈ source.services, nameSuffixLength ≤ svc.uid.length)
    (allocatable : ∃ pa draws pa' rest,
      PortAllocator.allocatePortsForRoutes pa [route] draws = some (pa', rest))
    (keeps : SecondRunKeeps r route) : RecordsSpared r route := by
  intro key entry isLast
  by_contra unspared
  rw [not_or] at unspared
  obtain ⟨pa, draws, pa', rest, allocated⟩ := allocatable
  obtain ⟨services, generated⟩ := exists_generateServices r route uids pa' {}
  have sources := sourceServices_eq kubernetes
  let before : RouteEffects := ⟨∅, ∅, pa, [], []⟩
  let after := applyServices {} Admission.verbatim services { before with allocator := pa' }
  have returned : manageServices r {} none Admission.verbatim [] draws {} route before =
      some (after, none) := by
    simp only [manageServices, kubernetes, cleanupOrphanedServices, before, allocated,
      Option.bind_eq_bind, Option.bind_some, generated]
    rfl
  have onlyRecords {key' : String} {other : RouteServiceStatus}
      (found : after.services.lookup key' = some other) : ∃ entry',
        lastWith StatusRecord.key (records r route route.sourceServices) key' = some entry' ∧
          other.ns = entry'.ns ∧ other.generatedName = entry'.generatedName := by
    have lookedUp := lookup_applyServices {} Admission.verbatim services
      { before with allocator := pa' } key'
    rw [map_statusRecord_generateServices generated, ← sources] at lookedUp
    cases last : lastWith StatusRecord.key (records r route route.sourceServices) key' with
    | none =>
        rw [last] at lookedUp
        cases found.symm.trans lookedUp
    | some entry' =>
        rw [last] at lookedUp
        obtain ⟨value, atKey, ns, generatedName⟩ := lookedUp
        cases found.symm.trans atKey
        exact ⟨entry', rfl, ns, generatedName⟩
  obtain ⟨value, found, ns, generatedName⟩ := lookup_after kubernetes returned isLast
  obtain ⟨order, enumerates⟩ :=
    exists_enumerates_cons (Finmap.mem_of_lookup_eq_some found)
  have orphaned : ¬ sparedEntry r route after.services key value := by
    rintro (desired | ⟨global, bridge, other, member, sameName, elsewhere⟩)
    · exact unspared.1 desired
    · obtain ⟨key', atKey⟩ := (mem_values _ _).mp member
      obtain ⟨entry', isLast', ns', generatedName'⟩ := onlyRecords atKey
      refine unspared.2 ⟨global, ns.symm.trans bridge, key', entry', isLast', ?_, ?_⟩
      · rw [← generatedName', sameName, generatedName]
      · rw [← ns', ← bridge]
        exact elsewhere
  obtain ⟨member, atKey⟩ := lastWith_eq_some isLast
  refine (keeps {} Admission.verbatim [] draws {} before after ⟨List.nodup_nil, ?_⟩ returned {}
    (key :: order) enumerates).1 entry member ?_
  · exact fun a => iff_of_false List.not_mem_nil Finmap.notMem_empty
  · rw [cleanupOrphanedServices, found]
    simp only [if_neg orphaned]
    rw [atKey]
    exact cleanupOrphanedServices_induct (P := fun now => key ∈ now.orphans)
      (fun now _ _ logged _ _ => List.mem_append_left _ logged)
      (fun now _ _ logged _ _ => List.mem_append_left _ logged) order
      (List.mem_append_right _ List.mem_cons_self)

end KubeLB
