import KubeLB.Route.Services

/-!
What cleanupOrphanedServices does to the Services, the status map and the allocator:
entries only go, each with its Service and its ports, and those of source services in
the spec stay.
-/

namespace KubeLB
open FiniteMap

section
variable {r : RouteReconciler} {faults : ApiFaults} {route : Route} {order : List String}
  {effects cleaned : RouteEffects} {failure : Option String}

/-- How the loop ends, with what every removal keeps: it is through, or the Delete of
an entry that is not spared has failed. -/
theorem cleanupOrphanedServices_outcome {P : RouteEffects → Prop} (faults : ApiFaults)
    (order : List String)
    (remove : ∀ now key value, P now → key ∈ order → now.services.lookup key = some value →
      ¬ sparedEntry r route now.services key value →
      faults.delete (recordedService r route value) = none →
        P (removeOrphan r route now key value))
    (start : P effects) :
    (∃ after, cleanupOrphanedServices r faults route order effects = (after, none) ∧ P after) ∨
    ∃ now key value err, cleanupOrphanedServices r faults route order effects =
        (judgeOrphan r route now key value, some err) ∧
      P now ∧ key ∈ order ∧ now.services.lookup key = some value ∧
      ¬ sparedEntry r route now.services key value ∧
      faults.delete (recordedService r route value) ≠ none := by
  induction order generalizing effects with
  | nil => exact Or.inl ⟨effects, rfl, start⟩
  | cons head order ih =>
      have later {now : RouteEffects} (holds : P now) := ih
        (fun now key value holds member => remove now key value holds
          (List.mem_cons_of_mem _ member)) holds
      have lift {now : RouteEffects} (holds : P now) :
          (∃ after, cleanupOrphanedServices r faults route order now = (after, none) ∧ P after) ∨
          ∃ now' key value err, cleanupOrphanedServices r faults route order now =
              (judgeOrphan r route now' key value, some err) ∧
            P now' ∧ key ∈ head :: order ∧ now'.services.lookup key = some value ∧
            ¬ sparedEntry r route now'.services key value ∧
            faults.delete (recordedService r route value) ≠ none := by
        refine (later holds).imp_right ?_
        rintro ⟨now', key, value, err, returned, holds, member, rest⟩
        exact ⟨now', key, value, err, returned, holds, List.mem_cons_of_mem _ member, rest⟩
      rw [cleanupOrphanedServices]
      split
      · exact lift start
      · rename_i value found
        split
        · exact lift start
        · rename_i unspared
          split
          · rename_i err fails
            refine Or.inr ⟨effects, head, value, _, rfl, start, List.mem_cons_self, found,
              unspared, ?_⟩
            rw [fails]
            exact Option.some_ne_none err
          · rename_i passes
            exact lift (remove effects head value start List.mem_cons_self found unspared passes)

/-- Induction over cleanupOrphanedServices: what every entry that is not spared
keeps, the whole loop keeps. -/
theorem cleanupOrphanedServices_induct {P : RouteEffects → Prop}
    (judge : ∀ effects key value, P effects → effects.services.lookup key = some value →
      ¬ sparedEntry r route effects.services key value →
        P (judgeOrphan r route effects key value))
    (remove : ∀ effects key value, P effects → effects.services.lookup key = some value →
      ¬ sparedEntry r route effects.services key value →
        P (removeOrphan r route effects key value))
    (order : List String) {effects : RouteEffects} (start : P effects) :
    P (cleanupOrphanedServices r faults route order effects).1 := by
  obtain ⟨after, returned, holds⟩ |
      ⟨now, key, value, err, returned, holds, _, found, unspared, _⟩ :=
    cleanupOrphanedServices_outcome faults order
      (fun now key value holds _ found unspared _ => remove now key value holds found unspared)
      start
  · rw [returned]
    exact holds
  · rw [returned]
    exact judge now key value holds found unspared

theorem lookup_cleanupOrphanedServices
    (returned : cleanupOrphanedServices r faults route order effects = (cleaned, failure))
    {key : String} {value : RouteServiceStatus}
    (found : cleaned.services.lookup key = some value) :
    effects.services.lookup key = some value := by
  let P (now : RouteEffects) : Prop := ∀ key value, now.services.lookup key = some value →
    effects.services.lookup key = some value
  have all : P (cleanupOrphanedServices r faults route order effects).1 := by
    refine cleanupOrphanedServices_induct ?_ ?_ order (fun _ _ found => found)
    · intro now _ _ holds _ _
      exact holds
    · intro now _ _ holds _ _ other value here
      exact holds other value (lookup_of_lookup_erase here)
  rw [returned] at all
  exact all key value found

theorem mem_of_mem_cleanup
    (returned : cleanupOrphanedServices r faults route order effects = (cleaned, failure))
    {e : String} (member : e ∈ cleaned.allocator.portLookup) :
    e ∈ effects.allocator.portLookup := by
  have all : e ∈ (cleanupOrphanedServices r faults route order effects).1.allocator.portLookup →
      e ∈ effects.allocator.portLookup := by
    refine cleanupOrphanedServices_induct
      (P := fun now => e ∈ now.allocator.portLookup → e ∈ effects.allocator.portLookup) ?_ ?_
      order id
    · intro now _ _ holds _ _
      exact holds
    · intro now key value holds _ _ here
      exact holds ((PortAllocator.mem_deallocateEndpoints _ _ e).mp here).1
  rw [returned] at all
  exact all member

theorem sparedEntry_mono {services services' : FiniteMap String RouteServiceStatus}
    (fewer : ∀ key value, services'.lookup key = some value → services.lookup key = some value)
    {key : String} {value : RouteServiceStatus} (spared : sparedEntry r route services' key value) :
    sparedEntry r route services key value := by
  obtain desired | ⟨global, bridge, other, member, same, elsewhere⟩ := spared
  · exact Or.inl desired
  · obtain ⟨atKey, found⟩ := (mem_values _ _).mp member
    exact Or.inr ⟨global, bridge, other, (mem_values _ _).mpr ⟨atKey, fewer _ _ found⟩, same,
      elsewhere⟩

/-- An entry that is not spared when a loop that ends well starts is gone after
it, and so is the endpoint key made from it. -/
theorem removed_of_unspared
    (returned : cleanupOrphanedServices r faults route order effects = (cleaned, none))
    {key : String} (inOrder : key ∈ order) {value : RouteServiceStatus}
    (found : effects.services.lookup key = some value)
    (unspared : ¬ sparedEntry r route effects.services key value) :
    cleaned.services.lookup key = none ∧
      orphanedEndpointKey route value ∉ cleaned.allocator.portLookup := by
  induction order generalizing effects with
  | nil => cases inOrder
  | cons head order ih =>
      rw [cleanupOrphanedServices] at returned
      split at returned
      · rename_i absent
        obtain rfl | later := List.mem_cons.mp inOrder
        · cases absent.symm.trans found
        · exact ih returned later found unspared
      · rename_i other here
        split at returned
        · rename_i spared
          obtain rfl | later := List.mem_cons.mp inOrder
          · cases here.symm.trans found
            exact absurd spared unspared
          · exact ih returned later found unspared
        · split at returned
          · cases returned
          · by_cases same : key = head
            · subst same
              cases here.symm.trans found
              refine ⟨?_, fun member => ?_⟩
              · by_contra present
                obtain ⟨kept, still⟩ := Option.ne_none_iff_exists'.mp present
                have gone := lookup_cleanupOrphanedServices returned still
                cases (Finmap.lookup_erase _ _).symm.trans gone
              · have before := mem_of_mem_cleanup returned member
                exact ((PortAllocator.mem_deallocateEndpoints _ _ _).mp before).2
                  (List.mem_singleton_self _)
            · have kept : (effects.services.erase head).lookup key = some value :=
                (Finmap.lookup_erase_ne same).trans found
              refine ih returned ((List.mem_cons.mp inOrder).resolve_left same) kept fun spared =>
                unspared (sparedEntry_mono (fun _ _ => lookup_of_lookup_erase) spared)

/-- Outside the global topology a loop that ends well leaves only entries whose
source service is in the spec. -/
theorem mem_desired_of_cleanup (shared : r.topology.isGlobalTopology = false)
    (returned : cleanupOrphanedServices r faults route order effects = (cleaned, none))
    {key : String} (inOrder : key ∈ order) {value : RouteServiceStatus}
    (found : cleaned.services.lookup key = some value) : key ∈ desiredServices route := by
  by_contra undesired
  have before := lookup_cleanupOrphanedServices returned found
  have removed := removed_of_unspared returned inOrder before fun spared => by
    obtain desired | ⟨global, _⟩ := spared
    · exact undesired desired
    · rw [shared] at global
      cases global
  cases removed.1.symm.trans found

/-- The Services and the ports that no entry of the status stands for are left
alone, and no port is added. -/
theorem cleanupOrphanedServices_frame
    (returned : cleanupOrphanedServices r faults route order effects = (cleaned, failure)) :
    (∀ target, (∀ key value, effects.services.lookup key = some value →
      recordedService r route value ≠ target) →
        cleaned.store.lookup target = effects.store.lookup target) ∧
    (∀ e, (∀ key value, effects.services.lookup key = some value →
      orphanedEndpointKey route value ≠ e) →
        ∀ k, cleaned.allocator.lookup e k = effects.allocator.lookup e k) ∧
    ∀ e k port, cleaned.allocator.lookup e k = some port →
      effects.allocator.lookup e k = some port := by
  let P (now : RouteEffects) : Prop :=
    (∀ key value, now.services.lookup key = some value →
      effects.services.lookup key = some value) ∧
    (∀ target, (∀ key value, effects.services.lookup key = some value →
      recordedService r route value ≠ target) →
        now.store.lookup target = effects.store.lookup target) ∧
    (∀ e, (∀ key value, effects.services.lookup key = some value →
      orphanedEndpointKey route value ≠ e) →
        ∀ k, now.allocator.lookup e k = effects.allocator.lookup e k) ∧
    ∀ e k port, now.allocator.lookup e k = some port → effects.allocator.lookup e k = some port
  have all : P (cleanupOrphanedServices r faults route order effects).1 := by
    refine cleanupOrphanedServices_induct ?_ ?_ order
      ⟨fun _ _ found => found, fun _ _ => rfl, fun _ _ _ => rfl, fun _ _ _ found => found⟩
    · intro now _ _ holds _ _
      exact holds
    · rintro now key value ⟨entries, store, ports, noneAdded⟩ found _
      refine ⟨?_, ?_, ?_, ?_⟩
      · intro other kept here
        exact entries other kept (lookup_of_lookup_erase here)
      · intro target unnamed
        refine Eq.trans (Finmap.lookup_erase_ne ?_) (store target unnamed)
        exact Ne.symm (unnamed key value (entries key value found))
      · intro e unnamed k
        have other := unnamed key value (entries key value found)
        refine Eq.trans (PortAllocator.lookup_deallocateEndpoints _ _ e k) ?_
        rw [if_neg (by simpa using Ne.symm other)]
        exact ports e unnamed k
      · intro e k port here
        refine noneAdded e k port ?_
        have cut := (PortAllocator.lookup_deallocateEndpoints now.allocator
          [orphanedEndpointKey route value] e k).symm.trans here
        split at cut
        · cases cut
        · exact cut
  rw [returned] at all
  exact all.2

theorem cleanupOrphanedServices_succeeds (deletes : ∀ key, faults.delete key = none)
    (route : Route) (order : List String) (effects : RouteEffects) :
    (cleanupOrphanedServices r faults route order effects).2 = none := by
  induction order generalizing effects with
  | nil => rfl
  | cons key order ih =>
      rw [cleanupOrphanedServices]
      split
      · exact ih _
      · split
        · exact ih _
        · rw [deletes]
          exact ih _

end

end KubeLB
