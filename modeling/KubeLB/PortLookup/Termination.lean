import KubeLB.Foundation.Recurrence
import KubeLB.PortLookup.AllocatorRuns
import KubeLB.PortLookup.LoadState

/-!
Whether AllocatePorts returns when every value of rand.Intn comes again and again.

allocatePort loops until it draws a port that is not in use, with no way out. It is
called for the port keys that have no port yet, and what one call of AllocatePorts has
drawn itself does not count as in use. So one free port is enough for any number of new
keys, and without a free port the first new key is never served. The mutex is held
all the while.
-/

namespace KubeLB
open FiniteMap Recurrence Runs

namespace PortAllocator

def ReturnsOn (pa : PortAllocator) (draws : Nat → Draw) (e : String) (portKeys : List String) :
    Prop :=
  ∃ n, (pa.allocatePorts e portKeys (firstValues draws n)).isSome

def drawablePorts (pa : PortAllocator) : Finset Int :=
  (values₂ pa.portLookup).toFinset.filter fun port => (startPort : Int) ≤ port ∧ port < endPort

section Loops
variable {reverse : Finset Int}

theorem length_freePorts (draws : List Draw) :
    (freePorts reverse draws).length = draws.countP fun draw => draw.port ∉ reverse := by
  rw [freePorts, List.filter_map, List.length_map, List.countP_eq_length_filter]
  rfl

theorem allocatePort_isSome {draws : List Draw} (free : freePorts reverse draws ≠ []) :
    ∃ port rest, allocatePort reverse draws = some (port, rest) := by
  induction draws with
  | nil => exact absurd rfl free
  | cons draw draws ih =>
      rw [allocatePort]
      by_cases used : draw.port ∈ reverse
      · rw [if_pos used]
        refine ih ?_
        simpa [freePorts, used] using free
      · rw [if_neg used]
        exact ⟨_, _, rfl⟩

theorem allocateMissing_isSome {portKeys : List String} {ports : FiniteMap String Int}
    {updated : Bool} {draws : List Draw}
    (enough : portKeys.length ≤ (freePorts reverse draws).length) :
    (allocateMissing reverse portKeys ports updated draws).isSome := by
  induction portKeys generalizing ports updated draws with
  | nil => rfl
  | cons k portKeys ih =>
      rw [List.length_cons] at enough
      rw [allocateMissing]
      by_cases present : k ∈ ports
      · rw [if_pos present]
        exact ih (by omega)
      · rw [if_neg present]
        have free : freePorts reverse draws ≠ [] := by
          intro none
          rw [none, List.length_nil] at enough
          omega
        obtain ⟨port, rest, drew⟩ := allocatePort_isSome free
        rw [freePorts_allocatePort drew, List.length_cons] at enough
        rw [drew]
        exact ih (by omega)

theorem allocateMissing_of_present {portKeys : List String} {ports : FiniteMap String Int}
    (present : ∀ k ∈ portKeys, k ∈ ports) (updated : Bool) (draws : List Draw) :
    allocateMissing reverse portKeys ports updated draws = some (ports, updated, draws) := by
  induction portKeys with
  | nil => rfl
  | cons k portKeys ih =>
      rw [allocateMissing, if_pos (present k List.mem_cons_self)]
      exact ih fun k' member => present k' (List.mem_cons_of_mem k member)

end Loops

section Request
variable (pa : PortAllocator) (e : String) (portKeys : List String)

theorem allocatePorts_isSome_iff (draws : List Draw) :
    (pa.allocatePorts e portKeys draws).isSome ↔
      (allocateMissing pa.portLookupReverse portKeys (pa.portsOf e) false draws).isSome := by
  rw [allocatePorts]
  cases allocateMissing pa.portLookupReverse portKeys (pa.portsOf e) false draws <;> simp

/-- A request returns exactly when it asks for no new key or some port can be drawn that
is not in use. -/
theorem returnsOn_iff {draws : Nat → Draw} (recurs : Recurs draws) :
    pa.ReturnsOn draws e portKeys ↔
      (∀ k ∈ portKeys, k ∈ pa.portsOf e) ∨ ∃ draw : Draw, draw.port ∉ pa.portLookupReverse := by
  constructor
  · rintro ⟨n, returned⟩
    obtain ⟨⟨pa', updated, rest⟩, returned⟩ := Option.isSome_iff_exists.mp returned
    obtain ⟨fresh, allocated⟩ := allocatePorts_spec returned
    refine or_iff_not_imp_left.mpr fun someNew => ?_
    simp only [not_forall] at someNew
    obtain ⟨k, asked, absent⟩ := someNew
    obtain ⟨⟨_, port⟩, isFresh, rfl⟩ :=
      List.mem_map.mp ((allocated.missing.keys k).mpr ⟨asked, absent⟩)
    obtain ⟨draw, _, rfl, unused⟩ := allocated.missing.exists_draw isFresh
    exact ⟨draw, unused⟩
  · rintro (noneNew | ⟨draw, unused⟩)
    · refine ⟨0, (pa.allocatePorts_isSome_iff e portKeys _).mpr ?_⟩
      rw [allocateMissing_of_present noneNew]
      rfl
    · obtain ⟨n, enough⟩ := exists_le_countP recurs (fun draw => draw.port ∉ pa.portLookupReverse)
        unused portKeys.length
      refine ⟨n, (pa.allocatePorts_isSome_iff e portKeys _).mpr (allocateMissing_isSome ?_)⟩
      rw [length_freePorts]
      exact enough

end Request

/-- There are as many ports to draw as numbers in the range, so one is free exactly when
fewer of them are in the table. -/
theorem exists_free_iff {pa : PortAllocator} (consistent : pa.Consistent) :
    (∃ draw : Draw, draw.port ∉ pa.portLookupReverse) ↔
      pa.drawablePorts.card < endPort - startPort := by
  have size : (Finset.Ico (startPort : Int) endPort).card = endPort - startPort := by
    rw [Int.card_Ico]
    rfl
  have small : pa.drawablePorts ⊆ Finset.Ico (startPort : Int) endPort :=
    fun port drawable => Finset.mem_Ico.mpr (Finset.mem_filter.mp drawable).2
  rw [consistent]
  constructor
  · rintro ⟨draw, unused⟩
    rw [← size]
    refine Finset.card_lt_card (small.ssubset_of_mem_notMem (Finset.mem_Ico.mpr draw.port_range) ?_)
    exact fun drawable => unused (Finset.mem_filter.mp drawable).1
  · intro fewer
    rw [← size] at fewer
    obtain ⟨port, inRange, unused⟩ := Finset.exists_mem_notMem_of_card_lt_card fewer
    rw [Finset.mem_Ico] at inRange
    refine ⟨⟨(port - startPort).toNat, by omega⟩, fun used => unused ?_⟩
    have same : Draw.port ⟨(port - startPort).toNat, by omega⟩ = port := by
      simp only [Draw.port]
      omega
    rw [same] at used
    exact Finset.mem_filter.mpr ⟨used, inRange⟩

end PortAllocator

/-! ## Runs -/

/-- A manager starts and loads the recorded ports, or one of the controllers calls the
allocator. -/
inductive AllocatorAction
  | loadState (lbs : List LoadBalancer) (routes : List Route)
  | call (c : PortAllocator.Call)

def allocatorStep (pa : PortAllocator) : AllocatorAction → Option PortAllocator
  | .loadState lbs routes => some (loadState lbs routes)
  | .call c => pa.call c

theorem allocatorStep_consistent {pa pa' : PortAllocator} {action : AllocatorAction}
    (taken : allocatorStep pa action = some pa') : pa'.Consistent := by
  cases action with
  | loadState lbs routes =>
      cases taken
      exact PortAllocator.consistent_recompute _
  | call c => exact PortAllocator.call_consistent taken

/-- In every state of every run, and for all draws that recur, a request returns exactly
when it asks for no new port key or the table leaves a port to draw. -/
theorem allocatePorts_returns_throughout (actions : List AllocatorAction) :
    Throughout allocatorStep newPortAllocator actions fun pa =>
      ∀ e portKeys draws, Recurs draws →
        (pa.ReturnsOn draws e portKeys ↔
          (∀ k ∈ portKeys, k ∈ pa.portsOf e) ∨
            pa.drawablePorts.card < endPort - startPort) := by
  intro before pa small reached e portKeys draws recurs
  have consistent : pa.Consistent :=
    throughout_of_step PortAllocator.consistent_new
      (fun _ _ _ _ taken => allocatorStep_consistent taken) actions before pa small reached
  rw [← PortAllocator.exists_free_iff consistent]
  exact pa.returnsOn_iff e portKeys recurs

/-! ## A table without a free port -/

/-- The endpoint key of a LoadBalancer that is named after the number drawn for it. -/
def occupiedKey (draw : Draw) : String := envoyEndpointPattern "tenant-t" draw.val.repr 0

def occupy (draw : Draw) : AllocatorAction :=
  .call (.allocatePorts (occupiedKey draw) ["30080-TCP"] [draw])

theorem occupiedKey_inj {draw draw' : Draw} (same : occupiedKey draw = occupiedKey draw') :
    draw = draw' := by
  obtain ⟨joined, _⟩ := envoyEndpointPattern_eq_iff.mp same
  obtain ⟨_, numbers⟩ := Joined.joined_inj_last (Joined.lacks_repr _) (Joined.lacks_repr _) joined
  exact Fin.ext (Nat.repr_inj.mp numbers)

theorem Draw.port_inj {draw draw' : Draw} (same : draw.port = draw'.port) : draw = draw' := by
  simp only [Draw.port] at same
  exact Fin.ext (by omega)

/-- The table holds one port for each of the draws, and nothing else. -/
structure Occupied (draws : Finset Draw) (pa : PortAllocator) : Prop where
  consistent : pa.Consistent
  table : ∀ e k port, pa.lookup e k = some port ↔
    ∃ draw ∈ draws, e = occupiedKey draw ∧ k = "30080-TCP" ∧ port = draw.port

section Occupied
variable {draws : Finset Draw} {pa : PortAllocator} {draw : Draw}

theorem Occupied.port_mem_iff (occupied : Occupied draws pa) :
    draw.port ∈ pa.portLookupReverse ↔ draw ∈ draws := by
  rw [PortAllocator.mem_reverse occupied.consistent]
  constructor
  · rintro ⟨e, k, found⟩
    obtain ⟨draw', member, _, _, same⟩ := (occupied.table e k draw.port).mp found
    rw [Draw.port_inj same]
    exact member
  · intro member
    exact ⟨_, _, (occupied.table _ _ _).mpr ⟨draw, member, rfl, rfl, rfl⟩⟩

theorem Occupied.step (occupied : Occupied draws pa) (new : draw ∉ draws) :
    ∃ pa', allocatorStep pa (occupy draw) = some pa' ∧ Occupied (insert draw draws) pa' := by
  have free : draw.port ∉ pa.portLookupReverse := fun used => new (occupied.port_mem_iff.mp used)
  have returns : (pa.allocatePorts (occupiedKey draw) ["30080-TCP"] [draw]).isSome := by
    rw [PortAllocator.allocatePorts_isSome_iff]
    refine PortAllocator.allocateMissing_isSome ?_
    simp [PortAllocator.freePorts, free]
  obtain ⟨⟨pa', updated, rest⟩, returned⟩ := Option.isSome_iff_exists.mp returns
  obtain ⟨fresh, allocated⟩ := PortAllocator.allocatePorts_spec returned
  refine ⟨pa', by simp [allocatorStep, occupy, PortAllocator.call, returned],
    allocated.consistent, fun e k port => ?_⟩
  have absent : pa.lookup (occupiedKey draw) "30080-TCP" = none := by
    refine Option.eq_none_iff_forall_ne_some.mpr fun port found => ?_
    obtain ⟨draw', member, same, _, _⟩ := (occupied.table _ _ _).mp found
    rw [occupiedKey_inj same] at new
    exact new member
  have drawn (port : Int) (isFresh : ("30080-TCP", port) ∈ fresh) : port = draw.port := by
    obtain ⟨draw', member, same, _⟩ := allocated.missing.exists_draw isFresh
    rw [← same, List.mem_singleton.mp member]
  constructor
  · intro found
    obtain old | ⟨rfl, isFresh⟩ := allocated.lookup_cases found
    · obtain ⟨draw', member, entry⟩ := (occupied.table e k port).mp old
      exact ⟨draw', Finset.mem_insert_of_mem member, entry⟩
    · have asked := ((allocated.missing.keys k).mp (List.mem_map_of_mem isFresh)).1
      rw [List.mem_singleton.mp asked] at isFresh ⊢
      exact ⟨draw, Finset.mem_insert_self _ _, rfl, rfl, drawn port isFresh⟩
  · rintro ⟨draw', member, rfl, rfl, rfl⟩
    obtain rfl | older := Finset.mem_insert.mp member
    · obtain ⟨port, found⟩ :=
        Option.isSome_iff_exists.mp ((allocated.isSome_own "30080-TCP").mpr List.mem_cons_self)
      obtain old | ⟨_, isFresh⟩ := allocated.lookup_cases found
      · cases absent.symm.trans old
      · rw [found, drawn port isFresh]
    · have other : occupiedKey draw' ≠ occupiedKey draw := fun same =>
        new (occupiedKey_inj same ▸ older)
      rw [allocated.other _ _ other]
      exact (occupied.table _ _ _).mpr ⟨draw', older, rfl, rfl, rfl⟩

theorem Occupied.run {later : List Draw} (occupied : Occupied draws pa) (nodup : later.Nodup)
    (new : ∀ draw ∈ later, draw ∉ draws) :
    ∃ pa', Runs.run allocatorStep pa (later.map occupy) = some pa' ∧
      Occupied (draws ∪ later.toFinset) pa' := by
  induction later generalizing draws pa with
  | nil => exact ⟨pa, rfl, by simpa using occupied⟩
  | cons draw later ih =>
      obtain ⟨middle, taken, occupied'⟩ := occupied.step (new draw List.mem_cons_self)
      obtain ⟨unmet, nodup'⟩ := List.nodup_cons.mp nodup
      have new' : ∀ draw' ∈ later, draw' ∉ insert draw draws := by
        intro draw' member inDraws
        obtain rfl | older := Finset.mem_insert.mp inDraws
        · exact unmet member
        · exact new draw' (List.mem_cons_of_mem _ member) older
      obtain ⟨pa', reached, done⟩ := ih occupied' nodup' new'
      refine ⟨pa', ?_, ?_⟩
      · rw [List.map_cons, run_cons, taken]
        exact reached
      · rw [List.toFinset_cons, Finset.union_insert, ← Finset.insert_union]
        exact done

end Occupied

/-- 55535 LoadBalancers with one port each use every port that can be drawn. When the first
of them asks for a second port, the call draws for ever. -/
theorem exhausted_allocator_never_returns :
    ∃ pa, run allocatorStep newPortAllocator
        ((List.finRange (endPort - startPort)).map occupy) = some pa ∧
      Recurs (cycle (endPort - startPort)) ∧
      ¬ pa.ReturnsOn (cycle (endPort - startPort)) (occupiedKey 0) ["30080-TCP", "30443-TCP"] := by
  have start : Occupied ∅ newPortAllocator := by
    refine ⟨PortAllocator.consistent_new, fun e k port => ?_⟩
    exact iff_of_false nofun (by simp)
  obtain ⟨pa, reached, occupied⟩ := start.run (List.nodup_finRange _) (by simp)
  have recurs := recurs_cycle (endPort - startPort)
  refine ⟨pa, reached, recurs, ?_⟩
  rw [pa.returnsOn_iff _ _ recurs]
  rintro (noneNew | ⟨draw, unused⟩)
  · obtain ⟨port, found⟩ := Finmap.mem_iff.mp (noneNew "30443-TCP" (by simp))
    rw [← PortAllocator.lookup_eq_portsOf, occupied.table] at found
    obtain ⟨_, _, _, impossible, _⟩ := found
    exact absurd impossible (by decide)
  · refine unused (occupied.port_mem_iff.mpr ?_)
    simp

end KubeLB
