import KubeLB.PortLookup.Mapper

/-!
The table a manager starts with (LoadState in internal/port-lookup/allocator.go).

Every endpoint of a LoadBalancer and every source service of a Route is one
load: an endpoint key and the entries that its recorded status yields. The two
List calls are taken as answered; an error of either leaves the allocator as
it was.
-/

namespace KubeLB
open FiniteMap

/-- The recorded Service port of an endpoint port: same upstream port, protocol
and name. -/
def recordedPort (status : LoadBalancerStatus) (port : EndpointPort) :
    Option StatusServicePort :=
  status.servicePorts.find? fun recorded => recorded.upstreamTargetPort = port.port ∧
    recorded.protocol = port.protocol ∧ recorded.name = port.name

def loadBalancerLoads (lb : LoadBalancer) : List (String × List (String × Int)) :=
  lb.spec.endpoints.zipIdx.map fun (endpoint, i) =>
    (envoyEndpointPattern lb.ns lb.name i, endpoint.ports.filterMap fun port =>
      (recordedPort lb.status port).map fun recorded =>
        (endpointPortKey port, recorded.targetPort.intValue))

def routeLoads (route : Route) : List (String × List (String × Int)) :=
  route.sourceServices.map fun svc =>
    (routeEndpointKey route svc,
      match route.services.lookup (routeServiceMapKey svc.ns (getName svc.toObjectMeta)) with
      | none => []
      | some recorded =>
          recorded.ports.map fun port => (servicePortKey port, port.targetPort.intValue))

/-- One load: the inner map is made if there is none, then filled. -/
def loadEndpoint (table : LookupTable) (load : String × List (String × Int)) : LookupTable :=
  table.insert load.1 (insertAll ((table.lookup load.1).getD ∅) load.2)

def loadAll (table : LookupTable) (loads : List (String × List (String × Int))) : LookupTable :=
  loads.foldl loadEndpoint table

def loadState (lbs : List LoadBalancer) (routes : List Route) : PortAllocator :=
  PortAllocator.recomputeAvailablePorts
    (loadAll ∅ (lbs.flatMap loadBalancerLoads ++ routes.flatMap routeLoads))

theorem lookup₂_loadEndpoint_of_ne {table : LookupTable} {load : String × List (String × Int)}
    {e : String} (other : e ≠ load.1) (k : String) :
    lookup₂ (loadEndpoint table load) e k = lookup₂ table e k := by
  simp only [lookup₂, loadEndpoint, Finmap.lookup_insert_of_ne _ other]

theorem lookup₂_loadEndpoint_self (table : LookupTable) (load : String × List (String × Int))
    (k : String) : lookup₂ (loadEndpoint table load) load.1 k =
      (insertAll ((table.lookup load.1).getD ∅) load.2).lookup k := by
  simp only [lookup₂, loadEndpoint, Finmap.lookup_insert, Option.bind_some]

theorem lookup₂_loadAll_of_notMem {loads : List (String × List (String × Int))} {e : String}
    (absent : e ∉ loads.map Prod.fst) (table : LookupTable) (k : String) :
    lookup₂ (loadAll table loads) e k = lookup₂ table e k := by
  induction loads generalizing table with
  | nil => rfl
  | cons load loads ih =>
      simp only [List.map_cons, List.mem_cons, not_or] at absent
      change lookup₂ (loadAll (loadEndpoint table load) loads) e k = _
      rw [ih absent.2, lookup₂_loadEndpoint_of_ne absent.1]

def loadWrites (loads : List (String × List (String × Int))) : List ((String × String) × Int) :=
  loads.flatMap fun load => load.2.map fun entry => ((load.1, entry.1), entry.2)

theorem lastWith_write (e : String) (entries : List (String × Int)) (e' k : String) :
    lastWith Prod.fst (entries.map fun entry => ((e, entry.1), entry.2)) (e', k) =
      if e = e' then (lastWith Prod.fst entries k).map fun entry => ((e, entry.1), entry.2)
      else none := by
  rw [lastWith_map]
  induction entries with
  | nil => simp [lastWith]
  | cons entry entries ih =>
      rw [lastWith, Option.map_or, ih, lastWith]
      by_cases own : e = e'
      · rw [if_pos own, if_pos own, Option.map_or]
        by_cases same : entry.1 = k <;> simp only [own, same, ite_true, ite_false, Prod.mk.injEq,
          and_false]
      · simp [own]

theorem lookup₂_loadAll_eq (loads : List (String × List (String × Int))) (table : LookupTable)
    (e k : String) :
    lookup₂ (loadAll table loads) e k =
      ((lastWith Prod.fst (loadWrites loads) (e, k)).map Prod.snd).or (lookup₂ table e k) := by
  induction loads generalizing table with
  | nil => rfl
  | cons load loads ih =>
      have first : lookup₂ (loadEndpoint table load) e k =
          ((lastWith Prod.fst (load.2.map fun entry => ((load.1, entry.1), entry.2)) (e, k)).map
            Prod.snd).or (lookup₂ table e k) := by
        rw [lastWith_write]
        by_cases own : load.1 = e
        · subst own
          rw [lookup₂_loadEndpoint_self, lookup_insertAll_eq, if_pos rfl, Option.map_map]
          congr 1
          rw [lookup₂]
          cases table.lookup load.1 <;> rfl
        · rw [lookup₂_loadEndpoint_of_ne (Ne.symm own), if_neg own]
          rfl
      have cut : loadWrites (load :: loads) =
          (load.2.map fun entry => ((load.1, entry.1), entry.2)) ++ loadWrites loads :=
        List.flatMap_cons
      change lookup₂ (loadAll (loadEndpoint table load) loads) e k = _
      rw [ih, first, cut, lastWith_append, Option.map_or, Option.or_assoc]

theorem lookup₂_loadAll {loads : List (String × List (String × Int))} {table : LookupTable}
    {e k : String} {port : Int} (found : lookup₂ (loadAll table loads) e k = some port) :
    lookup₂ table e k = some port ∨ ∃ entries, (e, entries) ∈ loads ∧ (k, port) ∈ entries := by
  rw [lookup₂_loadAll_eq] at found
  cases last : lastWith Prod.fst (loadWrites loads) (e, k) with
  | none =>
      rw [last] at found
      exact Or.inl found
  | some write =>
      rw [last] at found
      cases found
      obtain ⟨member, same⟩ := lastWith_eq_some last
      obtain ⟨load, inLoads, inLoad⟩ := List.mem_flatMap.mp member
      obtain ⟨entry, inEntries, rfl⟩ := List.mem_map.mp inLoad
      cases same
      exact Or.inr ⟨load.2, inLoads, inEntries⟩

/-- The entries of the first endpoint of a LoadBalancer loaded on its own. -/
theorem lookup_loadState_singleton (lb : LoadBalancer) {endpoint : LoadBalancerEndpoints}
    {others : List LoadBalancerEndpoints} (endpoints : lb.spec.endpoints = endpoint :: others)
    (k : String) :
    (loadState [lb] []).lookup (envoyEndpointPattern lb.ns lb.name 0) k =
      (insertAll ∅ (endpoint.ports.filterMap fun port =>
        (recordedPort lb.status port).map fun recorded =>
          (endpointPortKey port, recorded.targetPort.intValue))).lookup k := by
  simp only [loadState, PortAllocator.lookup_recompute, List.flatMap_cons, List.flatMap_nil,
    List.append_nil, loadBalancerLoads, endpoints, List.zipIdx_cons, List.map_cons]
  have absent : envoyEndpointPattern lb.ns lb.name 0 ∉
      ((others.zipIdx (0 + 1)).map fun (x : LoadBalancerEndpoints × Nat) =>
        (envoyEndpointPattern lb.ns lb.name x.2, x.1.ports.filterMap fun port =>
          (recordedPort lb.status port).map fun recorded =>
            (endpointPortKey port, recorded.targetPort.intValue))).map Prod.fst := by
    simp only [List.map_map, List.mem_map, Function.comp_apply, not_exists, not_and]
    rintro ⟨endpoint', i⟩ member same
    have later := List.le_snd_of_mem_zipIdx member
    have index := (envoyEndpointPattern_eq_iff.mp same).2
    simp only at later index
    omega
  rw [loadAll, List.foldl_cons]
  exact (lookup₂_loadAll_of_notMem absent _ k).trans (lookup₂_loadEndpoint_self _ _ k)

end KubeLB
