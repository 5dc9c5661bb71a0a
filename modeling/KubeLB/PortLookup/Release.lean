import KubeLB.Foundation.Runs
import KubeLB.PortLookup.Mapper

/-!
What a LoadBalancer leaves in the table when it is deleted.

Each update of its spec is followed by an AllocatePortsForLoadBalancers call for
the LoadBalancer among others; the deletion calls DeallocatePortsForLoadBalancer
with the last spec. Allocation never deletes an endpoint key, and deallocation
walks the endpoint groups of the spec it is given, so the keys of groups that an
update dropped stay behind with their ports.
-/

namespace KubeLB
open PortAllocator Runs

/-- An update of the spec and the call that follows it: the LoadBalancer stands
in the list between the others. -/
structure SpecUpdate where
  spec : LoadBalancerSpec
  before : List LoadBalancer := []
  after : List LoadBalancer := []
  draws : List Draw := []

section
variable (lb : LoadBalancer)

def SpecUpdate.others (u : SpecUpdate) : List LoadBalancer := u.before ++ u.after

def SpecUpdate.listed (u : SpecUpdate) : List LoadBalancer :=
  u.before ++ { lb with spec := u.spec } :: u.after

def SpecUpdate.Apart (u : SpecUpdate) : Prop :=
  ∀ other ∈ u.others, lb.ns ++ "-" ++ lb.name ≠ other.ns ++ "-" ++ other.name

def updateStep (pa : PortAllocator) (u : SpecUpdate) : Option PortAllocator :=
  (pa.allocatePortsForLoadBalancers (u.listed lb) u.draws).map Prod.fst

/-- Nothing of the LoadBalancer is left: none of its endpoint keys, and each port
that it held at any time is free, or was drawn for another LoadBalancer since. -/
structure LeavesNothing (init : PortAllocator) (updates : List SpecUpdate)
    (final : PortAllocator) : Prop where
  keys : ∀ i, envoyEndpointPattern lb.ns lb.name i ∉ final.portLookup
  ports : ∀ before pa i k port, before <+: updates →
    run (updateStep lb) init before = some pa →
    pa.lookup (envoyEndpointPattern lb.ns lb.name i) k = some port →
    port ∉ final.portLookupReverse ∨
      ∃ u ∈ updates, ∃ other ∈ u.others, ∃ e ∈ (loadBalancerRequests other).map Prod.fst,
        ∃ k', pa.lookup e k' ≠ some port ∧ final.lookup e k' = some port

variable {lb}

/-- Of the keys of the LoadBalancer an update asks for those of its groups. -/
theorem SpecUpdate.Apart.mem_keys {u : SpecUpdate} (apart : u.Apart lb) (i : Nat) :
    envoyEndpointPattern lb.ns lb.name i ∈
        ((u.listed lb).flatMap loadBalancerRequests).map Prod.fst ↔
      i < u.spec.endpoints.length := by
  simp only [List.map_flatMap, List.mem_flatMap, mem_loadBalancerKeys]
  constructor
  · rintro ⟨listed, member, j, inside, same⟩
    obtain ⟨joined, rfl⟩ := envoyEndpointPattern_eq_iff.mp same
    rw [SpecUpdate.listed, List.mem_append, List.mem_cons] at member
    obtain first | rfl | last := member
    · exact absurd joined (apart listed (List.mem_append_left _ first))
    · exact inside
    · exact absurd joined (apart listed (List.mem_append_right _ last))
  · intro inside
    exact ⟨{ lb with spec := u.spec }, by simp [SpecUpdate.listed], i, inside, rfl⟩

theorem updateStep_eq_some {pa pa' : PortAllocator} {u : SpecUpdate}
    (taken : updateStep lb pa u = some pa') :
    ∃ rest, pa.allocateAll ((u.listed lb).flatMap loadBalancerRequests) u.draws =
      some (pa', rest) := by
  obtain ⟨⟨_, rest⟩, returned, rfl⟩ := Option.map_eq_some_iff.mp taken
  exact ⟨rest, returned⟩

/-- The keys of the LoadBalancer after a run of updates are those it started
with and those of the longest list of groups. -/
theorem mem_run_updates {init pa : PortAllocator} {updates : List SpecUpdate}
    (apart : ∀ u ∈ updates, u.Apart lb) (ran : run (updateStep lb) init updates = some pa)
    (i : Nat) :
    envoyEndpointPattern lb.ns lb.name i ∈ pa.portLookup ↔
      envoyEndpointPattern lb.ns lb.name i ∈ init.portLookup ∨
        ∃ u ∈ updates, i < u.spec.endpoints.length := by
  induction updates generalizing init with
  | nil =>
      cases ran
      simp
  | cons u updates ih =>
      rw [run_cons] at ran
      obtain ⟨middle, taken, ran⟩ := Option.bind_eq_some_iff.mp ran
      obtain ⟨rest, returned⟩ := updateStep_eq_some taken
      rw [ih (fun u' later => apart u' (List.mem_cons_of_mem _ later)) ran,
        mem_allocateAll returned, (apart u List.mem_cons_self).mem_keys]
      simp only [List.mem_cons, exists_eq_or_imp]
      tauto

/-- Endpoint keys that no update of the run asks for keep their entries. -/
theorem lookup_run_updates {init pa : PortAllocator} {updates : List SpecUpdate} {e : String}
    (absent : ∀ u ∈ updates, e ∉ ((u.listed lb).flatMap loadBalancerRequests).map Prod.fst)
    (ran : run (updateStep lb) init updates = some pa) (k : String) :
    pa.lookup e k = init.lookup e k := by
  induction updates generalizing init with
  | nil =>
      cases ran
      rfl
  | cons u updates ih =>
      rw [run_cons] at ran
      obtain ⟨middle, taken, ran⟩ := Option.bind_eq_some_iff.mp ran
      obtain ⟨rest, returned⟩ := updateStep_eq_some taken
      rw [ih (fun u' later => absent u' (List.mem_cons_of_mem _ later)) ran,
        allocateAll_frame (absent u List.mem_cons_self) returned]

theorem separated_run_updates {init pa : PortAllocator} (consistent : init.Consistent)
    (separated : init.Separated) {updates : List SpecUpdate}
    (ran : run (updateStep lb) init updates = some pa) : pa.Separated := by
  have kept : Throughout (updateStep lb) init updates fun pa => pa.Consistent ∧ pa.Separated := by
    refine throughout_of_step ⟨consistent, separated⟩ ?_ updates
    intro pa u pa' holds taken
    obtain ⟨rest, returned⟩ := updateStep_eq_some taken
    exact ⟨allocateAll_consistent holds.1 returned,
      allocateAll_separated holds.1 holds.2 returned⟩
  exact (kept updates pa List.prefix_rfl ran).2

/-- Once its keys are gone, a port of the LoadBalancer can only be in use at a
key that was asked for since. -/
theorem ports_released {init pa : PortAllocator} (consistent : init.Consistent)
    (separated : init.Separated) {updates : List SpecUpdate}
    (ran : run (updateStep lb) init updates = some pa) {endpointKeys : List String}
    (gone : ∀ i, envoyEndpointPattern lb.ns lb.name i ∉
      (pa.deallocateEndpoints endpointKeys).portLookup)
    {before : List SpecUpdate} {earlier : PortAllocator} (small : before <+: updates)
    (reached : run (updateStep lb) init before = some earlier) {i : Nat} {k : String} {port : Int}
    (held : earlier.lookup (envoyEndpointPattern lb.ns lb.name i) k = some port) :
    port ∉ (pa.deallocateEndpoints endpointKeys).portLookupReverse ∨
      ∃ u ∈ updates, ∃ other ∈ u.others, ∃ e ∈ (loadBalancerRequests other).map Prod.fst,
        ∃ k', earlier.lookup e k' ≠ some port ∧
          (pa.deallocateEndpoints endpointKeys).lookup e k' = some port := by
  refine or_iff_not_imp_left.mpr fun used => ?_
  obtain ⟨e, k', found⟩ :=
    (mem_reverse (consistent_deallocateEndpoints pa endpointKeys) port).mp (not_not.mp used)
  have present : e ∈ (pa.deallocateEndpoints endpointKeys).portLookup := by
    obtain ⟨ports, atKey, _⟩ := Option.bind_eq_some_iff.mp found
    exact Finmap.mem_of_lookup_eq_some atKey
  have foreign (j : Nat) : e ≠ envoyEndpointPattern lb.ns lb.name j :=
    fun own => gone j (own ▸ present)
  have elsewhere : earlier.lookup e k' ≠ some port := fun shared =>
    foreign i (separated_run_updates consistent separated reached _ _ _ _ _ shared held)
  obtain ⟨later, rfl⟩ := small
  rw [run_append, reached] at ran
  -- The entry is not the earlier one, so one of the later calls asked for its key.
  by_contra unasked
  simp only [not_exists, not_and] at unasked
  have absent : ∀ u ∈ later,
      e ∉ ((u.listed lb).flatMap loadBalancerRequests).map Prod.fst := by
    intro u member asked
    rw [List.map_flatMap, List.mem_flatMap] at asked
    obtain ⟨other, listed, key⟩ := asked
    have notOwn : other ∈ u.others := by
      rw [SpecUpdate.listed, List.mem_append, List.mem_cons] at listed
      obtain first | rfl | last := listed
      · exact List.mem_append_left _ first
      · obtain ⟨j, _, own⟩ := mem_loadBalancerKeys.mp key
        exact absurd own (foreign j)
      · exact List.mem_append_right _ last
    exact unasked u (List.mem_append_right _ member) other notOwn e key k' elsewhere found
  rw [lookup_deallocateEndpoints] at found
  split at found
  · cases found
  · exact elsewhere ((lookup_run_updates absent ran k').symm.trans found)

/-- Deleting a LoadBalancer gives back all it ever held exactly when no earlier
spec had more endpoint groups than the last one. -/
theorem leavesNothing_iff_longest_last {init pa : PortAllocator} (consistent : init.Consistent)
    (separated : init.Separated) {updates : List SpecUpdate} {last : SpecUpdate}
    (apart : ∀ u ∈ updates ++ [last], u.Apart lb)
    (ran : run (updateStep lb) init (updates ++ [last]) = some pa) :
    LeavesNothing lb init (updates ++ [last])
        (pa.deallocatePortsForLoadBalancer { lb with spec := last.spec }) ↔
      (∀ i, envoyEndpointPattern lb.ns lb.name i ∈ init.portLookup →
        i < last.spec.endpoints.length) ∧
      ∀ u ∈ updates, u.spec.endpoints.length ≤ last.spec.endpoints.length := by
  have remaining (i : Nat) : envoyEndpointPattern lb.ns lb.name i ∈
      (pa.deallocatePortsForLoadBalancer { lb with spec := last.spec }).portLookup ↔
        (envoyEndpointPattern lb.ns lb.name i ∈ init.portLookup ∨
          ∃ u ∈ updates ++ [last], i < u.spec.endpoints.length) ∧
        ¬ i < last.spec.endpoints.length := by
    have dropped : envoyEndpointPattern lb.ns lb.name i ∈
        (loadBalancerRequests { lb with spec := last.spec }).map Prod.fst ↔
          i < last.spec.endpoints.length := by
      rw [mem_loadBalancerKeys]
      constructor
      · rintro ⟨j, inside, same⟩
        obtain ⟨_, rfl⟩ := envoyEndpointPattern_eq_iff.mp same
        exact inside
      · exact fun inside => ⟨i, inside, rfl⟩
    rw [deallocatePortsForLoadBalancer, mem_deallocateEndpoints, dropped,
      mem_run_updates apart ran]
  constructor
  · rintro ⟨keys, _⟩
    refine ⟨?_, ?_⟩
    · intro i old
      by_contra beyond
      exact keys i ((remaining i).mpr ⟨Or.inl old, beyond⟩)
    · intro u member
      by_contra longer
      exact keys last.spec.endpoints.length ((remaining _).mpr
        ⟨Or.inr ⟨u, List.mem_append_left _ member, by omega⟩, by omega⟩)
  · rintro ⟨old, shorter⟩
    have gone (i : Nat) : envoyEndpointPattern lb.ns lb.name i ∉
        (pa.deallocatePortsForLoadBalancer { lb with spec := last.spec }).portLookup := by
      rw [remaining]
      rintro ⟨before | ⟨u, member, inside⟩, beyond⟩
      · exact beyond (old i before)
      · obtain earlier | only := List.mem_append.mp member
        · exact beyond (inside.trans_le (shorter u earlier))
        · cases List.mem_singleton.mp only
          exact beyond inside
    exact ⟨gone, fun before earlier i k port small reached held =>
      ports_released consistent separated ran gone small reached held⟩

end

def specWithGroups (nodePorts : List Int) : LoadBalancerSpec where
  endpoints := nodePorts.map fun port => { ports := [{ port := port, protocol := .tcp }] }

theorem leavesNothing_grown_spec : ∃ pa,
    run (updateStep { ns := "tenant-a", name := "web" }) newPortAllocator
      ([{ spec := specWithGroups [30080], draws := [0] }] ++
        [{ spec := specWithGroups [30080, 30081], draws := [0, 1] }]) = some pa ∧
    LeavesNothing { ns := "tenant-a", name := "web" } newPortAllocator
      ([{ spec := specWithGroups [30080], draws := [0] }] ++
        [{ spec := specWithGroups [30080, 30081], draws := [0, 1] }])
      (pa.deallocatePortsForLoadBalancer
        { ns := "tenant-a", name := "web", spec := specWithGroups [30080, 30081] }) := by
  refine ⟨_, rfl, (leavesNothing_iff_longest_last consistent_new injective_new.separated
    ?_ rfl).mpr ⟨?_, ?_⟩⟩
  · intro u member other listed
    fin_cases member <;> cases listed
  · intro i present
    cases present
  · intro u member
    cases List.mem_singleton.mp member
    decide

/-- A second endpoint group that an update dropped keeps its key and its port. -/
theorem dropped_group_keeps_port :
    (do let pa ← run (updateStep { ns := "tenant-a", name := "web" }) newPortAllocator
          [{ spec := specWithGroups [30080, 30081], draws := [0, 1] },
            { spec := specWithGroups [30080] }]
        let final := pa.deallocatePortsForLoadBalancer
          { ns := "tenant-a", name := "web", spec := specWithGroups [30080] }
        return (final.lookup "tenant-a-web-ep-1" "30081-TCP",
          decide (10001 ∈ final.portLookupReverse))) = some (some 10001, true) := by
  decide

end KubeLB
