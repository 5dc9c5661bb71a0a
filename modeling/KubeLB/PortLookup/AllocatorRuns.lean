import KubeLB.Foundation.Runs
import KubeLB.PortLookup.AllocatorSpec

/-!
Runs of the allocator: any sequence of calls with any draws.

Within one AllocatePorts call a draw is compared with the ports in use when the
call began and not with those drawn since, so the table stays injective exactly
as long as the draws accepted within each single call differ. Between calls,
and between endpoint keys, nothing can go wrong.
-/

namespace KubeLB.PortAllocator
open FiniteMap Runs

inductive Call
  | allocatePorts (endpointKey : String) (portKeys : List String) (draws : List Draw)
  | deallocatePorts (endpointKey : String) (portKeys : List String)
  | deallocateEndpoints (endpointKeys : List String)

def call (pa : PortAllocator) : Call → Option PortAllocator
  | .allocatePorts e portKeys draws => (pa.allocatePorts e portKeys draws).map Prod.fst
  | .deallocatePorts e portKeys => some (pa.deallocatePorts e portKeys).1
  | .deallocateEndpoints endpointKeys => some (pa.deallocateEndpoints endpointKeys)

/-- The draws that the call accepts are pairwise different: of the drawn ports
that are not in use, the first as many as there are keys without a port. -/
def DistinctDraws (pa : PortAllocator) : Call → Prop
  | .allocatePorts e portKeys draws =>
      ((freePorts pa.portLookupReverse draws).take
        (portKeys.toFinset \ (pa.portsOf e).keys).card).Nodup
  | .deallocatePorts _ _ | .deallocateEndpoints _ => True

theorem call_consistent {pa pa' : PortAllocator} {c : Call}
    (returned : pa.call c = some pa') : pa'.Consistent := by
  cases c with
  | allocatePorts e portKeys draws =>
      obtain ⟨⟨pa'', updated, rest⟩, allocation, rfl⟩ := Option.map_eq_some_iff.mp returned
      obtain ⟨fresh, allocated⟩ := allocatePorts_spec allocation
      exact allocated.consistent
  | deallocatePorts e portKeys =>
      cases returned
      exact consistent_deallocatePorts pa e portKeys
  | deallocateEndpoints endpointKeys =>
      cases returned
      exact consistent_deallocateEndpoints pa endpointKeys

theorem call_valid {pa pa' : PortAllocator} {c : Call} (valid : pa.Valid)
    (returned : pa.call c = some pa') : pa'.Valid := by
  cases c with
  | allocatePorts e portKeys draws =>
      obtain ⟨⟨pa'', updated, rest⟩, allocation, rfl⟩ := Option.map_eq_some_iff.mp returned
      obtain ⟨fresh, allocated⟩ := allocatePorts_spec allocation
      exact allocated.valid valid
  | deallocatePorts e portKeys =>
      cases returned
      intro e' k port found
      rw [lookup_deallocatePorts] at found
      exact valid e' k port (Option.ite_none_left_eq_some.mp found).2
  | deallocateEndpoints endpointKeys =>
      cases returned
      intro e k port found
      rw [lookup_deallocateEndpoints] at found
      exact valid e k port (Option.ite_none_left_eq_some.mp found).2

theorem run_valid {init pa : PortAllocator} {calls : List Call} (start : init.Valid)
    (reached : run call init calls = some pa) : pa.Valid :=
  throughout_of_step start (fun _ _ _ valid => call_valid valid) calls calls pa
    (List.prefix_refl calls) reached

/-- Whether a port key has a port after a call, when `had` says whether it had
one before. -/
def Call.leaves (e k : String) (had : Bool) : Call → Bool
  | .allocatePorts e' portKeys _ => if e' = e then decide (k ∈ portKeys) else had
  | .deallocatePorts e' portKeys => if e = e' ∧ k ∈ portKeys then false else had
  | .deallocateEndpoints endpointKeys => if e ∈ endpointKeys then false else had

theorem isSome_lookup_call {pa pa' : PortAllocator} {c : Call} (returned : pa.call c = some pa')
    (e k : String) : (pa'.lookup e k).isSome = c.leaves e k (pa.lookup e k).isSome := by
  cases c with
  | allocatePorts e' portKeys draws =>
      obtain ⟨⟨pa'', updated, rest⟩, allocation, rfl⟩ := Option.map_eq_some_iff.mp returned
      obtain ⟨fresh, allocated⟩ := allocatePorts_spec allocation
      by_cases own : e' = e
      · subst own
        rw [Call.leaves, if_pos rfl, Bool.eq_iff_iff, decide_eq_true_eq]
        exact allocated.isSome_own k
      · rw [Call.leaves, if_neg own, allocated.other e k (Ne.symm own)]
  | deallocatePorts e' portKeys =>
      cases returned
      rw [lookup_deallocatePorts, Call.leaves]
      split <;> rfl
  | deallocateEndpoints endpointKeys =>
      cases returned
      rw [lookup_deallocateEndpoints, Call.leaves]
      split <;> rfl

theorem isSome_lookup_run {init pa : PortAllocator} {calls : List Call}
    (reached : run call init calls = some pa) (e k : String) :
    (pa.lookup e k).isSome = calls.foldl (Call.leaves e k) (init.lookup e k).isSome := by
  induction calls generalizing init with
  | nil =>
      cases reached
      rfl
  | cons c calls ih =>
      rw [run_cons] at reached
      obtain ⟨middle, first, reached⟩ := Option.bind_eq_some_iff.mp reached
      rw [ih reached, List.foldl_cons, isSome_lookup_call first]

theorem injective_of_subset {pa pa' : PortAllocator} (injective : pa.Injective)
    (subset : ∀ e k port, pa'.lookup e k = some port → pa.lookup e k = some port) :
    pa'.Injective :=
  fun _ _ _ _ _ first second => injective _ _ _ _ _ (subset _ _ _ first) (subset _ _ _ second)

/-- Two keys that one call adds share a port exactly when it accepts two equal
draws. -/
theorem Allocated.injective_iff {pa pa' : PortAllocator} {e : String}
    {portKeys : List String} {draws rest : List Draw} {updated : Bool}
    {fresh : List (String × Int)}
    (allocated : Allocated pa e portKeys draws pa' updated rest fresh)
    (consistent : pa.Consistent) (injective : pa.Injective) :
    pa'.Injective ↔ (fresh.map Prod.snd).Nodup := by
  have separated := allocated.separated consistent injective.separated
  have freshNodup : fresh.Nodup := allocated.missing.nodup.of_map
  constructor
  · intro injective'
    refine (List.nodup_map_iff_inj_on freshNodup).mpr ?_
    rintro ⟨k, port⟩ member ⟨k', port'⟩ member' same
    change port = port' at same
    subst same
    have asked (k : String) (h : (k, port) ∈ fresh) : k ∈ portKeys :=
      ((allocated.missing.keys k).mp (List.mem_map_of_mem h)).1
    have equal := injective' e k e k' port
      ((allocated.own k port).mpr ⟨asked k member, Or.inr member⟩)
      ((allocated.own k' port).mpr ⟨asked k' member', Or.inr member'⟩)
    rw [equal.2]
  · intro distinct e₁ k₁ e₂ k₂ port first second
    have sameEndpoint := separated _ _ _ _ _ first second
    subst sameEndpoint
    refine ⟨rfl, ?_⟩
    by_cases own : e₁ = e
    · subst own
      have free (k : String) (h : (k, port) ∈ fresh) (k' : String)
          (used : pa.lookup e₁ k' = some port) : False :=
        (allocated.missing.port_free h).1 ((mem_reverse consistent port).mpr ⟨e₁, k', used⟩)
      obtain ⟨_, old₁ | new₁⟩ := (allocated.own k₁ port).mp first <;>
        obtain ⟨_, old₂ | new₂⟩ := (allocated.own k₂ port).mp second
      · exact (injective _ _ _ _ _ old₁ old₂).2
      · exact (free k₂ new₂ k₁ old₁).elim
      · exact (free k₁ new₁ k₂ old₂).elim
      · have equal := (List.nodup_map_iff_inj_on freshNodup).mp distinct _ new₁ _ new₂ rfl
        exact congrArg Prod.fst equal
    · rw [allocated.other e₁ k₁ own] at first
      rw [allocated.other e₁ k₂ own] at second
      exact (injective _ _ _ _ _ first second).2

theorem call_injective_iff {pa pa' : PortAllocator} {c : Call} (consistent : pa.Consistent)
    (injective : pa.Injective) (returned : pa.call c = some pa') :
    pa'.Injective ↔ pa.DistinctDraws c := by
  cases c with
  | allocatePorts e portKeys draws =>
      obtain ⟨⟨pa'', updated, rest⟩, allocation, rfl⟩ := Option.map_eq_some_iff.mp returned
      obtain ⟨fresh, allocated⟩ := allocatePorts_spec allocation
      rw [DistinctDraws, ← allocated.missing.ports_eq_take]
      exact allocated.injective_iff consistent injective
  | deallocatePorts e portKeys =>
      cases returned
      refine iff_of_true (injective_of_subset injective ?_) True.intro
      intro e' k port found
      rw [lookup_deallocatePorts] at found
      exact (Option.ite_none_left_eq_some.mp found).2
  | deallocateEndpoints endpointKeys =>
      cases returned
      refine iff_of_true (injective_of_subset injective ?_) True.intro
      intro e k port found
      rw [lookup_deallocateEndpoints] at found
      exact (Option.ite_none_left_eq_some.mp found).2

/-- Exactly when a run from NewPortAllocator keeps the table injective after
every call, in either reading of injectivity: the draws accepted within each
AllocatePorts call have to differ. -/
theorem run_injective_iff_distinct_draws (calls : List Call) :
    (Throughout call newPortAllocator calls Injective ↔
      EachStep call newPortAllocator calls fun pa c _ => pa.DistinctDraws c) ∧
    Throughout call newPortAllocator calls fun pa =>
      (pa.Injective ↔ pa.portLookupReverse.card = (values₂ pa.portLookup).card) := by
  have keep : ∀ pa c pa', pa.Consistent → call pa c = some pa' → pa'.Consistent :=
    fun _ _ _ _ returned => call_consistent returned
  refine ⟨?_, ?_⟩
  · exact throughout_iff_eachStep consistent_new keep injective_new
      (fun _ _ _ consistent injective returned =>
        call_injective_iff consistent injective returned) calls
  · intro before pa small reached
    exact injective_iff_card
      (throughout_of_step consistent_new keep calls before pa small reached)

/-- One call for two new keys that draws the same value twice. -/
theorem run_shares_port : ∃ pa,
    run call newPortAllocator
      [.allocatePorts "tenant-a-web-ep-0" ["30080-TCP", "30443-TCP"] [0, 0]] = some pa ∧
    pa.lookup "tenant-a-web-ep-0" "30080-TCP" = some 10000 ∧
    pa.lookup "tenant-a-web-ep-0" "30443-TCP" = some 10000 ∧ ¬ pa.Injective := by
  refine ⟨_, rfl, by decide, by decide, ?_⟩
  intro injective
  have same := injective "tenant-a-web-ep-0" "30080-TCP" "tenant-a-web-ep-0" "30443-TCP" 10000
    (by decide) (by decide)
  exact absurd same.2 (by decide)

end KubeLB.PortAllocator
