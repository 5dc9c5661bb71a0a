import KubeLB.PortLookup.Allocator

/-!
What one call of the allocator does to the table. Every later result about the
allocator cites these lemmas and never unfolds the loops again.

`Allocated` is the contract of AllocatePorts: the keys asked for that had no
port get the first drawn ports that were free when the call began, in order;
nothing says that these ports differ from each other.
-/

namespace KubeLB.PortAllocator
open FiniteMap

/-- The drawn ports that are not in use, in the order in which they are drawn. -/
def freePorts (reverse : Finset Int) (draws : List Draw) : List Int :=
  (draws.map Draw.port).filter (· ∉ reverse)

theorem freePorts_allocatePort {reverse : Finset Int} {draws rest : List Draw} {port : Int}
    (returned : allocatePort reverse draws = some (port, rest)) :
    freePorts reverse draws = port :: freePorts reverse rest := by
  induction draws with
  | nil => cases returned
  | cons draw draws ih =>
      simp only [allocatePort] at returned
      by_cases used : draw.port ∈ reverse
      · rw [if_pos used] at returned
        simpa [freePorts, used] using ih returned
      · rw [if_neg used] at returned
        cases returned
        simp [freePorts, used]

/-- What the allocating loop adds: the missing keys with the free ports. -/
structure Missing (reverse : Finset Int) (portKeys : List String)
    (ports : FiniteMap String Int) (draws rest : List Draw) (fresh : List (String × Int)) :
    Prop where
  nodup : (fresh.map Prod.fst).Nodup
  keys : ∀ k, k ∈ fresh.map Prod.fst ↔ k ∈ portKeys ∧ k ∉ ports
  drawn : freePorts reverse draws = fresh.map Prod.snd ++ freePorts reverse rest

theorem allocateMissing_spec {reverse : Finset Int} {portKeys : List String}
    {ports ports' : FiniteMap String Int} {updated updated' : Bool} {draws rest : List Draw}
    (returned : allocateMissing reverse portKeys ports updated draws =
      some (ports', updated', rest)) :
    ∃ fresh, Missing reverse portKeys ports draws rest fresh ∧
      ports' = insertAll ports fresh ∧ updated' = (updated || decide (fresh ≠ [])) := by
  induction portKeys generalizing ports updated draws with
  | nil =>
      cases returned
      exact ⟨[], ⟨List.nodup_nil, by simp, rfl⟩, rfl, by simp⟩
  | cons k portKeys ih =>
      simp only [allocateMissing] at returned
      by_cases present : k ∈ ports
      · rw [if_pos present] at returned
        obtain ⟨fresh, missing, added, flag⟩ := ih returned
        refine ⟨fresh, ⟨missing.nodup, ?_, missing.drawn⟩, added, flag⟩
        intro k'
        rw [missing.keys, List.mem_cons]
        constructor
        · exact fun h => ⟨Or.inr h.1, h.2⟩
        · rintro ⟨rfl | member, absent⟩
          · exact absurd present absent
          · exact ⟨member, absent⟩
      · rw [if_neg present] at returned
        obtain ⟨⟨port, draws'⟩, drew, returned⟩ := Option.bind_eq_some_iff.mp returned
        obtain ⟨fresh, missing, added, flag⟩ := ih returned
        refine ⟨(k, port) :: fresh, ⟨?_, ?_, ?_⟩, added, by simp [flag]⟩
        · refine List.nodup_cons.mpr ⟨fun again => ?_, missing.nodup⟩
          exact ((missing.keys k).mp again).2 (Finmap.mem_insert.mpr (Or.inl rfl))
        · intro k'
          simp only [List.map_cons, List.mem_cons, missing.keys, Finmap.mem_insert, not_or]
          by_cases same : k' = k
          · simp [same, present]
          · simp [same]
        · rw [freePorts_allocatePort drew, missing.drawn]
          rfl

section Missing
variable {reverse : Finset Int} {portKeys : List String} {ports : FiniteMap String Int}
  {draws rest : List Draw} {fresh : List (String × Int)}

/-- The inner map after the allocating loop: no key is met twice, so nothing is replaced. -/
theorem Missing.lookup_insertAll (missing : Missing reverse portKeys ports draws rest fresh)
    (k : String) (port : Int) :
    (insertAll ports fresh).lookup k = some port ↔
      ports.lookup k = some port ∨ (k, port) ∈ fresh := by
  by_cases isFresh : k ∈ fresh.map Prod.fst
  · have absent : ports.lookup k = none :=
      Finmap.lookup_eq_none.mpr ((missing.keys k).mp isFresh).2
    obtain ⟨⟨_, port'⟩, member, rfl⟩ := List.mem_map.mp isFresh
    rw [lookup_insertAll_of_mem _ _ missing.nodup _ _ member, absent]
    constructor
    · rintro ⟨rfl⟩
      exact Or.inr member
    · rintro (impossible | other)
      · cases impossible
      · rw [← lookup_insertAll_of_mem ports _ missing.nodup _ _ member]
        exact lookup_insertAll_of_mem _ _ missing.nodup _ _ other
  · rw [lookup_insertAll_of_notMem _ _ _ isFresh]
    constructor
    · exact Or.inl
    · rintro (old | new)
      · exact old
      · exact absurd (List.mem_map_of_mem new) isFresh

theorem Missing.exists_draw (missing : Missing reverse portKeys ports draws rest fresh)
    {k : String} {port : Int} (member : (k, port) ∈ fresh) :
    ∃ draw ∈ draws, draw.port = port ∧ port ∉ reverse := by
  have free : port ∈ freePorts reverse draws := by
    rw [missing.drawn]
    exact List.mem_append_left _ (List.mem_map_of_mem member)
  obtain ⟨drawn, unused⟩ := List.mem_filter.mp free
  obtain ⟨draw, inDraws, rfl⟩ := List.mem_map.mp drawn
  exact ⟨draw, inDraws, rfl, by simpa using unused⟩

/-- Ports handed out by one call are free, and lie in the range of the draws. -/
theorem Missing.port_free (missing : Missing reverse portKeys ports draws rest fresh)
    {k : String} {port : Int} (member : (k, port) ∈ fresh) :
    port ∉ reverse ∧ (startPort : Int) ≤ port ∧ port < endPort := by
  obtain ⟨draw, _, rfl, unused⟩ := missing.exists_draw member
  exact ⟨unused, draw.port_range⟩

theorem Missing.length_fresh (missing : Missing reverse portKeys ports draws rest fresh) :
    fresh.length = (portKeys.toFinset \ ports.keys).card := by
  rw [← List.length_map Prod.fst, ← List.toFinset_card_of_nodup missing.nodup]
  congr 1
  ext k
  rw [List.mem_toFinset, missing.keys, Finset.mem_sdiff, List.mem_toFinset, Finmap.mem_keys]

theorem Missing.ports_eq_take (missing : Missing reverse portKeys ports draws rest fresh) :
    fresh.map Prod.snd =
      (freePorts reverse draws).take (portKeys.toFinset \ ports.keys).card := by
  rw [missing.drawn, ← missing.length_fresh, ← List.length_map Prod.snd, List.take_left]

end Missing

/-- The contract of AllocatePorts, with the entries `fresh` that it adds. -/
structure Allocated (pa : PortAllocator) (e : String) (portKeys : List String)
    (draws : List Draw) (pa' : PortAllocator) (updated : Bool) (rest : List Draw)
    (fresh : List (String × Int)) : Prop where
  missing : Missing pa.portLookupReverse portKeys (pa.portsOf e) draws rest fresh
  other : ∀ e' k, e' ≠ e → pa'.lookup e' k = pa.lookup e' k
  own : ∀ k port, pa'.lookup e k = some port ↔
    k ∈ portKeys ∧ (pa.lookup e k = some port ∨ (k, port) ∈ fresh)
  present : ∀ e', e' ∈ pa'.portLookup ↔ e' = e ∨ e' ∈ pa.portLookup
  consistent : pa'.Consistent
  flag : updated = true ↔ fresh ≠ [] ∨ ∃ k, k ∈ pa.portsOf e ∧ k ∉ portKeys

theorem allocatePorts_spec {pa pa' : PortAllocator} {e : String} {portKeys : List String}
    {draws rest : List Draw} {updated : Bool}
    (returned : pa.allocatePorts e portKeys draws = some (pa', updated, rest)) :
    ∃ fresh, Allocated pa e portKeys draws pa' updated rest fresh := by
  obtain ⟨⟨ports, added, rest'⟩, looped, returned⟩ := Option.bind_eq_some_iff.mp returned
  cases returned
  obtain ⟨fresh, missing, inserted, flag⟩ := allocateMissing_spec looped
  have lookupPorts (k : String) (port : Int) : ports.lookup k = some port ↔
      pa.lookup e k = some port ∨ (k, port) ∈ fresh := by
    rw [inserted, lookup_eq_portsOf]
    exact missing.lookup_insertAll k port
  refine ⟨fresh, missing, ?_, ?_, ?_, consistent_recompute _, ?_⟩
  · intro e' k different
    simp only [lookup_recompute, lookup₂, Finmap.lookup_insert_of_ne _ different]
    rfl
  · intro k port
    simp only [lookup_recompute, lookup₂, Finmap.lookup_insert, Option.bind_some,
      lookup_filterKeys]
    by_cases asked : k ∈ portKeys
    · simp [asked, lookupPorts]
    · simp [asked]
  · intro e'
    exact Finmap.mem_insert
  · rw [Bool.or_eq_true, flag, Bool.false_or, decide_eq_true_iff, decide_eq_true_iff, inserted]
    simp only [Finmap.mem_keys, mem_insertAll]
    constructor
    · rintro (new | ⟨k, old | new, dropped⟩)
      · exact Or.inl new
      · exact Or.inr ⟨k, old, dropped⟩
      · exact absurd ((missing.keys k).mp new).1 dropped
    · rintro (new | ⟨k, old, dropped⟩)
      · exact Or.inl new
      · exact Or.inr ⟨k, Or.inl old, dropped⟩

theorem lookup_deallocatePorts (pa : PortAllocator) (e : String) (portKeys : List String)
    (e' k : String) :
    (pa.deallocatePorts e portKeys).1.lookup e' k =
      if e' = e ∧ k ∈ portKeys then none else pa.lookup e' k := by
  cases found : pa.portLookup.lookup e with
  | none =>
      simp only [deallocatePorts, found, lookup_recompute]
      split
      · rename_i h
        rw [lookup₂, h.1, found]
        rfl
      · rfl
  | some ports =>
      simp only [deallocatePorts, found, lookup_recompute, lookup₂]
      by_cases same : e' = e
      · subst same
        simp [Finmap.lookup_insert, lookup_eraseAll, lookup, lookup₂, found]
      · simp [same, Finmap.lookup_insert_of_ne, lookup, lookup₂]

theorem consistent_deallocatePorts (pa : PortAllocator) (e : String)
    (portKeys : List String) : (pa.deallocatePorts e portKeys).1.Consistent := by
  simp only [deallocatePorts]
  split <;> exact consistent_recompute _

theorem lookup_deallocateEndpoints (pa : PortAllocator) (endpointKeys : List String)
    (e k : String) :
    (pa.deallocateEndpoints endpointKeys).lookup e k =
      if e ∈ endpointKeys then none else pa.lookup e k := by
  simp only [deallocateEndpoints, lookup_recompute, lookup₂, lookup_eraseAll]
  split <;> rfl

theorem mem_deallocateEndpoints (pa : PortAllocator) (endpointKeys : List String) (e : String) :
    e ∈ (pa.deallocateEndpoints endpointKeys).portLookup ↔
      e ∈ pa.portLookup ∧ e ∉ endpointKeys :=
  mem_eraseAll _ _ _

theorem consistent_deallocateEndpoints (pa : PortAllocator) (endpointKeys : List String) :
    (pa.deallocateEndpoints endpointKeys).Consistent :=
  consistent_recompute _

def Valid (pa : PortAllocator) : Prop :=
  ∀ e k port, pa.lookup e k = some port → 0 < port ∧ port < 2 ^ 16

theorem valid_new : newPortAllocator.Valid := by
  intro e k port found
  cases found

section Allocated
variable {pa pa' : PortAllocator} {e : String} {portKeys : List String} {draws rest : List Draw}
  {updated : Bool} {fresh : List (String × Int)}

/-- Endpoint keys of different calls never come to share a port: what one call
hands out was free in the whole table when the call began. -/
theorem Allocated.separated (allocated : Allocated pa e portKeys draws pa' updated rest fresh)
    (consistent : pa.Consistent) (separated : pa.Separated) : pa'.Separated := by
  have foreign (e' k k' : String) (port : Int) (other : e' ≠ e)
      (found : pa'.lookup e' k = some port) (own : pa'.lookup e k' = some port) : False := by
    rw [allocated.other e' k other] at found
    obtain ⟨_, old | new⟩ := (allocated.own k' port).mp own
    · exact other (separated _ _ _ _ _ found old)
    · exact (allocated.missing.port_free new).1 ((mem_reverse consistent port).mpr ⟨e', k, found⟩)
  intro e₁ k₁ e₂ k₂ port first second
  by_cases own₁ : e₁ = e <;> by_cases own₂ : e₂ = e
  · rw [own₁, own₂]
  · subst own₁
    exact absurd first fun found => foreign e₂ k₂ k₁ port own₂ second found
  · subst own₂
    exact absurd second fun found => foreign e₁ k₁ k₂ port own₁ first found
  · rw [allocated.other e₁ k₁ own₁] at first
    rw [allocated.other e₂ k₂ own₂] at second
    exact separated _ _ _ _ _ first second

/-- An entry after the call is an old one or one of those handed out. -/
theorem Allocated.lookup_cases (allocated : Allocated pa e portKeys draws pa' updated rest fresh)
    {e' k : String} {port : Int} (found : pa'.lookup e' k = some port) :
    pa.lookup e' k = some port ∨ (e' = e ∧ (k, port) ∈ fresh) := by
  by_cases own : e' = e
  · subst own
    obtain ⟨_, old | new⟩ := (allocated.own k port).mp found
    · exact Or.inl old
    · exact Or.inr ⟨rfl, new⟩
  · exact Or.inl ((allocated.other e' k own).symm.trans found)

theorem Allocated.isSome_own (allocated : Allocated pa e portKeys draws pa' updated rest fresh)
    (k : String) : (pa'.lookup e k).isSome ↔ k ∈ portKeys := by
  rw [Option.isSome_iff_exists]
  constructor
  · rintro ⟨port, found⟩
    exact ((allocated.own k port).mp found).1
  · intro asked
    by_cases old : k ∈ pa.portsOf e
    · obtain ⟨port, found⟩ := Finmap.mem_iff.mp old
      exact ⟨port, (allocated.own k port).mpr
        ⟨asked, Or.inl ((lookup_eq_portsOf pa e k).trans found)⟩⟩
    · obtain ⟨⟨_, port⟩, new, rfl⟩ :=
        List.mem_map.mp ((allocated.missing.keys k).mpr ⟨asked, old⟩)
      exact ⟨port, (allocated.own _ port).mpr ⟨asked, Or.inr new⟩⟩

theorem Allocated.valid (allocated : Allocated pa e portKeys draws pa' updated rest fresh)
    (valid : pa.Valid) : pa'.Valid := by
  intro e' k port found
  obtain old | ⟨_, new⟩ := allocated.lookup_cases found
  · exact valid e' k port old
  · have range := (allocated.missing.port_free new).2
    simp only [startPort, endPort] at range
    omega

end Allocated

end KubeLB.PortAllocator
