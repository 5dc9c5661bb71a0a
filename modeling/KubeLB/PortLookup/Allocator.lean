import KubeLB.Names

/-!
The port allocator (internal/port-lookup/allocator.go).

rand.Intn is the list of the values it returns, consumed from the left. A call
that is still looping in `allocatePort` when the list is used up is `none`: it
has not returned. The mutex makes each exported method one step.
-/

namespace KubeLB
open FiniteMap

def startPort : Nat := 10000
def endPort : Nat := 65535

/-- A value of rand.Intn(endPort-startPort). -/
abbrev Draw := Fin (endPort - startPort)

instance : NeZero (endPort - startPort) := ⟨by decide⟩

def Draw.port (draw : Draw) : Int := (draw.val + startPort : Nat)

theorem Draw.port_range (draw : Draw) : startPort ≤ draw.port ∧ draw.port < endPort := by
  have below := draw.isLt
  simp only [Draw.port, startPort, endPort] at *
  omega

abbrev LookupTable := FiniteMap String (FiniteMap String Int)

structure PortAllocator where
  portLookup : LookupTable
  portLookupReverse : Finset Int
  deriving DecidableEq

def newPortAllocator : PortAllocator := ⟨∅, ∅⟩

namespace PortAllocator

def lookup (pa : PortAllocator) (endpointKey portKey : String) : Option Int :=
  lookup₂ pa.portLookup endpointKey portKey

def portsOf (pa : PortAllocator) (endpointKey : String) : FiniteMap String Int :=
  (pa.portLookup.lookup endpointKey).getD ∅

def allocatePort (reverse : Finset Int) : List Draw → Option (Int × List Draw)
  | [] => none
  | draw :: draws =>
      if draw.port ∈ reverse then allocatePort reverse draws else some (draw.port, draws)

def recomputeAvailablePorts (table : LookupTable) : PortAllocator :=
  ⟨table, (values₂ table).toFinset⟩

/-- The first loop of AllocatePorts. `reverse` stays as it was when the call
began, whatever the loop has drawn already. -/
def allocateMissing (reverse : Finset Int) :
    List String → FiniteMap String Int → Bool → List Draw →
      Option (FiniteMap String Int × Bool × List Draw)
  | [], ports, updated, draws => some (ports, updated, draws)
  | k :: portKeys, ports, updated, draws =>
      if k ∈ ports then allocateMissing reverse portKeys ports updated draws
      else do
        let (port, draws) ← allocatePort reverse draws
        allocateMissing reverse portKeys (ports.insert k port) true draws

def allocatePorts (pa : PortAllocator) (endpointKey : String) (portKeys : List String)
    (draws : List Draw) : Option (PortAllocator × Bool × List Draw) := do
  let (ports, added, draws) ←
    allocateMissing pa.portLookupReverse portKeys (pa.portsOf endpointKey) false draws
  let kept := filterKeys (· ∈ portKeys) ports
  let removed := decide (∃ k ∈ ports.keys, k ∉ portKeys)
  return (recomputeAvailablePorts (pa.portLookup.insert endpointKey kept), added || removed, draws)

def deallocatePorts (pa : PortAllocator) (endpointKey : String) (portKeys : List String) :
    PortAllocator × Bool :=
  match pa.portLookup.lookup endpointKey with
  | none => (recomputeAvailablePorts pa.portLookup, false)
  | some ports =>
      (recomputeAvailablePorts (pa.portLookup.insert endpointKey (eraseAll ports portKeys)),
        portKeys ≠ [])

def deallocateEndpoints (pa : PortAllocator) (endpointKeys : List String) : PortAllocator :=
  recomputeAvailablePorts (eraseAll pa.portLookup endpointKeys)

/-- The reverse table is the set of the ports in the table. -/
def Consistent (pa : PortAllocator) : Prop :=
  pa.portLookupReverse = (values₂ pa.portLookup).toFinset

def Injective (pa : PortAllocator) : Prop :=
  ∀ e k e' k' port, pa.lookup e k = some port → pa.lookup e' k' = some port → e = e' ∧ k = k'

def Separated (pa : PortAllocator) : Prop :=
  ∀ e k e' k' port, pa.lookup e k = some port → pa.lookup e' k' = some port → e = e'

theorem consistent_new : newPortAllocator.Consistent := rfl

theorem injective_new : newPortAllocator.Injective := by
  intro e k e' k' port found
  cases found

theorem Injective.separated {pa : PortAllocator} (h : pa.Injective) : pa.Separated :=
  fun e k e' k' port first second => (h e k e' k' port first second).1

theorem consistent_recompute (table : LookupTable) :
    (recomputeAvailablePorts table).Consistent := rfl

theorem lookup_recompute (table : LookupTable) (e k : String) :
    (recomputeAvailablePorts table).lookup e k = lookup₂ table e k := rfl

theorem lookup_eq_portsOf (pa : PortAllocator) (e k : String) :
    pa.lookup e k = (pa.portsOf e).lookup k := by
  simp only [lookup, lookup₂, portsOf]
  cases pa.portLookup.lookup e with
  | none => rfl
  | some ports => rfl

theorem mem_reverse {pa : PortAllocator} (consistent : pa.Consistent) (port : Int) :
    port ∈ pa.portLookupReverse ↔ ∃ e k, pa.lookup e k = some port := by
  rw [consistent, Multiset.mem_toFinset]
  exact mem_values₂ pa.portLookup port

/-- The two readings of injectivity: no shared port, and as many ports in the
reverse table as there are entries. -/
theorem injective_iff_card {pa : PortAllocator} (consistent : pa.Consistent) :
    pa.Injective ↔ pa.portLookupReverse.card = (values₂ pa.portLookup).card := by
  rw [consistent, Multiset.toFinset_card_eq_card_iff_nodup, values₂_nodup_iff]
  rfl

end PortAllocator
end KubeLB
