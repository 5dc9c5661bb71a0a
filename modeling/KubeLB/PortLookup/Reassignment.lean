import KubeLB.Foundation.MapLoop
import KubeLB.PortLookup.AllocatorSpec

/-!
AllocatePorts with its second loop as it runs: over the keys of the inner map, in
an order of the runtime's choice, deleting from the map it ranges over.

Whatever the order, the call gives an endpoint key exactly the port keys it is asked
for, moves no port that stays and touches no other endpoint key.
-/

namespace KubeLB.PortAllocator
open FiniteMap

/-- The body of the deleting loop, on the inner map and the result of the call. -/
def removeUnneeded (portKeys : List String) (k : String) (_ : Int)
    (state : FiniteMap String Int × Bool) : FiniteMap String Int × Bool :=
  if k ∈ portKeys then state else (state.1.erase k, true)

/-- AllocatePorts, with the order in which the deleting loop meets the keys. -/
def allocatePortsIn (order : List String) (pa : PortAllocator) (endpointKey : String)
    (portKeys : List String) (draws : List Draw) : Option (PortAllocator × Bool × List Draw) := do
  let (ports, added, draws) ←
    allocateMissing pa.portLookupReverse portKeys (pa.portsOf endpointKey) false draws
  let (kept, updated) := rangeLoop ports (removeUnneeded portKeys) order (ports, added)
  return (recomputeAvailablePorts (pa.portLookup.insert endpointKey kept), updated, draws)

/-- When the deleting loop begins, the inner map has the keys it had and those asked
for; the loop meets each of them once. -/
def MeetsKeys (order : List String) (pa : PortAllocator) (endpointKey : String)
    (portKeys : List String) : Prop :=
  order.Nodup ∧ order.toFinset = (pa.portsOf endpointKey).keys ∪ portKeys.toFinset

instance (order : List String) (pa : PortAllocator) (endpointKey : String)
    (portKeys : List String) : Decidable (MeetsKeys order pa endpointKey portKeys) :=
  inferInstanceAs (Decidable (_ ∧ _))

section Loop
variable (portKeys : List String) (state : FiniteMap String Int × Bool)

theorem lookup_removeUnneeded (first : String) (port : Int) (k : String) :
    (removeUnneeded portKeys first port state).1.lookup k =
      if k = first ∧ first ∉ portKeys then none else state.1.lookup k := by
  rw [removeUnneeded]
  by_cases asked : first ∈ portKeys
  · simp [asked]
  · by_cases same : k = first
    · subst same
      simp [asked, Finmap.lookup_erase]
    · simp [asked, same, Finmap.lookup_erase_ne same]

theorem removeUnneeded_flag (first : String) (port : Int) :
    (removeUnneeded portKeys first port state).2 = true ↔
      state.2 = true ∨ first ∉ portKeys := by
  rw [removeUnneeded]
  by_cases asked : first ∈ portKeys <;> simp [asked]

/-- What the loop has removed, and whether it has removed anything, after the keys of
`order`. -/
theorem rangeLoop_removeUnneeded (ports : FiniteMap String Int) (order : List String) :
    (∀ k, (rangeLoop ports (removeUnneeded portKeys) order state).1.lookup k =
      if k ∈ order ∧ k ∈ ports ∧ k ∉ portKeys then none else state.1.lookup k) ∧
    ((rangeLoop ports (removeUnneeded portKeys) order state).2 = true ↔
      state.2 = true ∨ ∃ k ∈ order, k ∈ ports ∧ k ∉ portKeys) := by
  induction order generalizing state with
  | nil => simp [rangeLoop]
  | cons first order ih =>
      rw [rangeLoop]
      cases found : ports.lookup first with
      | none =>
          have absent : first ∉ ports := Finmap.lookup_eq_none.mp found
          obtain ⟨kept, flag⟩ := ih state
          refine ⟨fun k => (kept k).trans ?_, flag.trans ?_⟩
          · by_cases same : k = first <;> simp [same, absent]
          · simp [absent]
      | some port =>
          have present : first ∈ ports := Finmap.mem_of_lookup_eq_some found
          obtain ⟨kept, flag⟩ := ih (removeUnneeded portKeys first port state)
          refine ⟨fun k => (kept k).trans ?_, flag.trans ?_⟩
          · rw [lookup_removeUnneeded]
            by_cases same : k = first
            · subst same
              by_cases asked : k ∈ portKeys <;> simp [asked, present]
            · simp [same]
          · rw [removeUnneeded_flag, List.exists_mem_cons_iff, or_assoc,
              and_iff_right present]

end Loop

/-- After the adding loop the inner map has the keys it had and those asked for. -/
theorem mem_of_allocateMissing {reverse : Finset Int} {portKeys : List String}
    {ports ports' : FiniteMap String Int} {updated updated' : Bool} {draws rest : List Draw}
    (returned : allocateMissing reverse portKeys ports updated draws =
      some (ports', updated', rest)) (k : String) :
    k ∈ ports' ↔ k ∈ ports ∨ k ∈ portKeys := by
  obtain ⟨fresh, missing, rfl, _⟩ := allocateMissing_spec returned
  rw [mem_insertAll, missing.keys]
  tauto

/-- The order does not show: the loop leaves what AllocatePorts keeps. -/
theorem allocatePortsIn_eq {order : List String} {pa : PortAllocator} {e : String}
    {portKeys : List String} (meets : MeetsKeys order pa e portKeys) (draws : List Draw) :
    pa.allocatePortsIn order e portKeys draws = pa.allocatePorts e portKeys draws := by
  rw [allocatePortsIn, allocatePorts]
  refine Option.bind_congr ?_
  rintro ⟨ports, added, rest⟩ looped
  have keys (k : String) : k ∈ order ↔ k ∈ ports := by
    rw [mem_of_allocateMissing looped, ← List.mem_toFinset, meets.2, Finset.mem_union,
      Finmap.mem_keys, List.mem_toFinset]
  obtain ⟨kept, flag⟩ := rangeLoop_removeUnneeded portKeys (ports, added) ports order
  have same : (rangeLoop ports (removeUnneeded portKeys) order (ports, added)).1 =
      filterKeys (· ∈ portKeys) ports := by
    refine Finmap.ext_lookup fun k => (kept k).trans ?_
    rw [lookup_filterKeys]
    simp only [keys]
    by_cases asked : k ∈ portKeys
    · simp [asked]
    · by_cases present : k ∈ ports
      · simp [asked, present]
      · simp [asked, present, Finmap.lookup_eq_none.mpr present]
  have removed : (rangeLoop ports (removeUnneeded portKeys) order (ports, added)).2 =
      (added || decide (∃ k ∈ ports.keys, k ∉ portKeys)) := by
    rw [Bool.eq_iff_iff, flag, Bool.or_eq_true, decide_eq_true_iff]
    simp only [keys, Finmap.mem_keys, and_self_left]
  simp only [same, removed]

section Allocated
variable {pa pa' : PortAllocator} {e : String} {portKeys : List String} {draws rest : List Draw}
  {updated : Bool} {fresh : List (String × Int)}

/-- A frame on the inner maps: those of other endpoint keys are what they were. -/
theorem Allocated.inner_other (allocated : Allocated pa e portKeys draws pa' updated rest fresh)
    {e' : String} (other : e' ≠ e) : pa'.portLookup.lookup e' = pa.portLookup.lookup e' := by
  have present := allocated.present e'
  rw [or_iff_right other, Finmap.mem_iff, Finmap.mem_iff] at present
  cases after : pa'.portLookup.lookup e' with
  | none =>
      cases before : pa.portLookup.lookup e' with
      | none => rfl
      | some ports =>
          obtain ⟨_, found⟩ := present.mpr ⟨ports, before⟩
          cases after.symm.trans found
  | some ports' =>
      obtain ⟨ports, before⟩ := present.mp ⟨ports', after⟩
      rw [before]
      refine congrArg some (Finmap.ext_lookup fun k => ?_)
      have same := allocated.other e' k other
      simpa only [lookup, lookup₂, after, before, Option.bind_some] using same

theorem Allocated.mem_portsOf (allocated : Allocated pa e portKeys draws pa' updated rest fresh)
    (k : String) : k ∈ pa'.portsOf e ↔ k ∈ portKeys := by
  rw [← allocated.isSome_own, lookup_eq_portsOf, Finmap.lookup_isSome]

/-- A key is added or removed exactly when the set of keys changes: a key that is added
was not there, and one that is removed is not asked for. -/
theorem Allocated.updated_iff (allocated : Allocated pa e portKeys draws pa' updated rest fresh) :
    updated = true ↔ (pa'.portsOf e).keys ≠ (pa.portsOf e).keys := by
  rw [allocated.flag]
  constructor
  · rintro (new | ⟨k, had, dropped⟩) same
    · obtain ⟨⟨k, port⟩, isFresh⟩ := List.exists_mem_of_ne_nil _ new
      obtain ⟨asked, absent⟩ := (allocated.missing.keys k).mp (List.mem_map_of_mem isFresh)
      rw [← allocated.mem_portsOf, ← Finmap.mem_keys, same, Finmap.mem_keys] at asked
      exact absent asked
    · rw [← Finmap.mem_keys, ← same, Finmap.mem_keys, allocated.mem_portsOf] at had
      exact dropped had
  · intro changed
    by_contra unchanged
    rw [not_or, not_not, not_exists] at unchanged
    obtain ⟨noneNew, noneDropped⟩ := unchanged
    refine changed (Finset.ext fun k => ?_)
    rw [Finmap.mem_keys, Finmap.mem_keys, allocated.mem_portsOf]
    constructor
    · intro asked
      by_contra absent
      have isFresh := (allocated.missing.keys k).mpr ⟨asked, absent⟩
      rw [noneNew] at isFresh
      cases isFresh
    · intro had
      by_contra dropped
      exact noneDropped k ⟨had, dropped⟩

end Allocated

/-- What AllocatePorts does: `e` gets exactly the keys asked for, a key that has a port
keeps it, a new port was drawn and not in use, nothing else changes, and the result
tells whether the keys have changed. -/
structure Reassigned (pa : PortAllocator) (e : String) (portKeys : List String)
    (pa' : PortAllocator) (updated : Bool) : Prop where
  keys : ∃ ports, pa'.portLookup.lookup e = some ports ∧ ports.keys = portKeys.toFinset
  kept : ∀ k ∈ portKeys, ∀ port, pa.lookup e k = some port → pa'.lookup e k = some port
  drawn : ∀ k port, pa.lookup e k = none → pa'.lookup e k = some port →
    (10000 ≤ port ∧ port ≤ 65534) ∧ ∀ e' k', pa.lookup e' k' ≠ some port
  others : ∀ e', e' ≠ e → pa'.portLookup.lookup e' = pa.portLookup.lookup e'
  reverse : ∀ port, port ∈ pa'.portLookupReverse ↔ ∃ e' k, pa'.lookup e' k = some port
  updated : updated = true ↔ (pa'.portsOf e).keys ≠ (pa.portsOf e).keys

/-- For every order of the deleting loop and every sequence of draws that lets the call
return. -/
theorem allocatePorts_reassigns {order : List String} {pa pa' : PortAllocator} {e : String}
    {portKeys : List String} {draws rest : List Draw} {updated : Bool}
    (consistent : ∀ port, port ∈ pa.portLookupReverse ↔ ∃ e' k, pa.lookup e' k = some port)
    (meets : MeetsKeys order pa e portKeys)
    (returned : pa.allocatePortsIn order e portKeys draws = some (pa', updated, rest)) :
    Reassigned pa e portKeys pa' updated := by
  rw [allocatePortsIn_eq meets] at returned
  obtain ⟨fresh, allocated⟩ := allocatePorts_spec returned
  obtain ⟨ports, found⟩ := Finmap.mem_iff.mp ((allocated.present e).mpr (Or.inl rfl))
  have inner : pa'.portsOf e = ports := by rw [portsOf, found]; rfl
  refine ⟨⟨ports, found, ?_⟩, ?_, ?_, fun e' other => allocated.inner_other other,
    mem_reverse allocated.consistent, allocated.updated_iff⟩
  · ext k
    rw [← inner, Finmap.mem_keys, allocated.mem_portsOf, List.mem_toFinset]
  · intro k asked port had
    exact (allocated.own k port).mpr ⟨asked, Or.inl had⟩
  · intro k port missing new
    obtain ⟨_, old | isFresh⟩ := (allocated.own k port).mp new
    · cases missing.symm.trans old
    · obtain ⟨unused, low, high⟩ := allocated.missing.port_free isFresh
      simp only [startPort, endPort] at low high
      exact ⟨by omega, fun e' k' used => unused ((consistent port).mpr ⟨e', k', used⟩)⟩

def busyAllocator : PortAllocator :=
  recomputeAvailablePorts (insertAll ∅
    [("tenant-a-web-ep-0", insertAll ∅ [("30080-TCP", 10000), ("30443-TCP", 10001)]),
      ("tenant-a-api-ep-0", insertAll ∅ [("31000-TCP", 10002)])])

/-- One key is given up, one stays, and one is asked for twice; two draws are in use. -/
theorem allocatePorts_reassigns_busy : ∃ pa',
    busyAllocator.allocatePortsIn ["30090-TCP", "30443-TCP", "30080-TCP"] "tenant-a-web-ep-0"
      ["30443-TCP", "30090-TCP", "30090-TCP"] [0, 2, 5] = some (pa', true, []) ∧
    pa'.lookup "tenant-a-web-ep-0" "30090-TCP" = some 10005 ∧
    Reassigned busyAllocator "tenant-a-web-ep-0" ["30443-TCP", "30090-TCP", "30090-TCP"] pa'
      true := by
  have meets : MeetsKeys ["30090-TCP", "30443-TCP", "30080-TCP"] busyAllocator
      "tenant-a-web-ep-0" ["30443-TCP", "30090-TCP", "30090-TCP"] := by decide
  obtain ⟨pa', returned, port⟩ : ∃ pa',
      busyAllocator.allocatePortsIn ["30090-TCP", "30443-TCP", "30080-TCP"] "tenant-a-web-ep-0"
        ["30443-TCP", "30090-TCP", "30090-TCP"] [0, 2, 5] = some (pa', true, []) ∧
      pa'.lookup "tenant-a-web-ep-0" "30090-TCP" = some 10005 := ⟨_, rfl, by decide⟩
  exact ⟨pa', returned, port,
    allocatePorts_reassigns (mem_reverse (consistent_recompute _)) meets returned⟩

end KubeLB.PortAllocator
