import KubeLB.PortLookup.LoadState

/-!
When the table a manager starts with is injective.

Every entry of the table comes from a port that some status records. Where the
recorded target ports all differ, two entries can only share a port if they come
from the same record: LoadState reads the one status of a LoadBalancer for each
of its endpoint groups, and one status entry of a Route for every source service
with the namespace and origin name of that entry.
-/

namespace KubeLB
open FiniteMap

/-- A port in a status: one of a LoadBalancer, or one of an entry of a Route. -/
inductive Record
  | loadBalancer (recorded : StatusServicePort)
  | route (status : RouteServiceStatus) (port : ServicePort)
  deriving DecidableEq

namespace Record

def targetPort : Record → Int
  | .loadBalancer recorded => recorded.targetPort.intValue
  | .route _ port => port.targetPort.intValue

/-- The port key under which LoadState enters the record. -/
def portKey : Record → String
  | .loadBalancer recorded => envoyListenerPattern recorded.upstreamTargetPort recorded.protocol
  | .route _ port => servicePortKey port

/-- The entries updateServiceStatus makes for bridge Services: they stand under
the controller namespace and the generated name. -/
def Bridge (controllerNs : String) : Record → Prop
  | .loadBalancer _ => False
  | .route status _ => status.ns = controllerNs ∧ status.name = status.generatedName

instance (controllerNs : String) (record : Record) : Decidable (record.Bridge controllerNs) :=
  match record with
  | .loadBalancer _ => inferInstanceAs (Decidable False)
  | .route _ _ => inferInstanceAs (Decidable (_ ∧ _))

end Record

def recordsOf (lbs : List LoadBalancer) (routes : List Route) : Multiset Record :=
  (lbs : Multiset LoadBalancer).bind (fun lb => lb.status.servicePorts.map Record.loadBalancer) +
    (routes : Multiset Route).bind fun route =>
      (values route.services).bind fun status => status.ports.map (Record.route status)

def DistinctRecords (controllerNs : String) (lbs : List LoadBalancer) (routes : List Route) :
    Prop :=
  (((recordsOf lbs routes).filter (¬ ·.Bridge controllerNs)).map Record.targetPort).Nodup

instance (controllerNs : String) (lbs : List LoadBalancer) (routes : List Route) :
    Decidable (DistinctRecords controllerNs lbs routes) :=
  inferInstanceAs (Decidable (Multiset.Nodup _))

/-- One write of LoadState: where it goes, and the record it is read from. -/
structure Load where
  endpointKey : String
  portKey : String
  record : Record
  deriving DecidableEq

def Load.key (load : Load) : String × String := (load.endpointKey, load.portKey)

/-- The writes for a LoadBalancer: for each of its groups the same status is read. -/
def loadBalancerReads (lb : LoadBalancer) : List Load :=
  lb.spec.endpoints.zipIdx.flatMap fun (endpoint, i) => endpoint.ports.filterMap fun port =>
    (recordedPort lb.status port).map fun recorded =>
      ⟨envoyEndpointPattern lb.ns lb.name i, endpointPortKey port, .loadBalancer recorded⟩

def routeReads (route : Route) : List Load :=
  route.sourceServices.flatMap fun svc =>
    match route.services.lookup (routeServiceMapKey svc.ns (getName svc.toObjectMeta)) with
    | none => []
    | some status => status.ports.map fun port =>
        ⟨routeEndpointKey route svc, servicePortKey port, .route status port⟩

/-- All the writes, in the order of LoadState. -/
def reads (lbs : List LoadBalancer) (routes : List Route) : List Load :=
  lbs.flatMap loadBalancerReads ++ routes.flatMap routeReads

/-- The write is not overwritten: it is the last one at its pair of keys. -/
def Stands (loads : List Load) (load : Load) : Prop :=
  lastWith Load.key loads load.key = some load

/-- Every record that is read stands at one endpoint key; and a bridge's record,
if one is read at all, shares its port with nothing else. -/
structure ReadOnce (controllerNs : String) (loads : List Load) : Prop where
  records : ∀ load load', Stands loads load → Stands loads load' →
    load.record = load'.record → load.endpointKey = load'.endpointKey
  bridges : ∀ load load', Stands loads load → Stands loads load' →
    load.record.Bridge controllerNs → load.record.targetPort = load'.record.targetPort →
      load.key = load'.key

theorem loadWrites_loadBalancerLoads (lb : LoadBalancer) :
    loadWrites (loadBalancerLoads lb) =
      (loadBalancerReads lb).map fun load => (load.key, load.record.targetPort) := by
  simp only [loadWrites, loadBalancerLoads, loadBalancerReads, List.flatMap_map, List.map_flatMap,
    List.map_filterMap, Option.map_map]
  rfl

theorem loadWrites_routeLoads (route : Route) :
    loadWrites (routeLoads route) =
      (routeReads route).map fun load => (load.key, load.record.targetPort) := by
  simp only [loadWrites, routeLoads, routeReads, List.flatMap_map, List.map_flatMap]
  congr 1
  funext svc
  cases route.services.lookup (routeServiceMapKey svc.ns (getName svc.toObjectMeta)) with
  | none => rfl
  | some status =>
      simp only [List.map_map]
      rfl

/-- The loaded table holds at each pair of keys what the standing write read. -/
theorem lookup_loadState (lbs : List LoadBalancer) (routes : List Route) (e k : String) :
    (loadState lbs routes).lookup e k =
      (lastWith Load.key (reads lbs routes) (e, k)).map fun load => load.record.targetPort := by
  have writes : loadWrites (lbs.flatMap loadBalancerLoads ++ routes.flatMap routeLoads) =
      (reads lbs routes).map fun load => (load.key, load.record.targetPort) := by
    rw [reads, List.map_append, List.map_flatMap, List.map_flatMap, loadWrites,
      List.flatMap_append, List.flatMap_assoc, List.flatMap_assoc]
    congr 1
    · exact congrArg (lbs.flatMap ·) (funext loadWrites_loadBalancerLoads)
    · exact congrArg (routes.flatMap ·) (funext loadWrites_routeLoads)
  rw [loadState, PortAllocator.lookup_recompute, lookup₂_loadAll_eq, writes, lastWith_map,
    Option.map_map]
  exact Option.or_none

/-- What LoadState reads is recorded, and goes to the key of the record. -/
theorem mem_reads {lbs : List LoadBalancer} {routes : List Route} {load : Load}
    (member : load ∈ reads lbs routes) :
    load.record ∈ recordsOf lbs routes ∧ load.portKey = load.record.portKey := by
  simp only [reads, List.mem_append, List.mem_flatMap] at member
  simp only [recordsOf, Multiset.mem_add, Multiset.mem_bind, Multiset.mem_coe, mem_values]
  obtain ⟨lb, listed, read⟩ | ⟨route, listed, read⟩ := member
  · obtain ⟨⟨endpoint, i⟩, _, read⟩ := List.mem_flatMap.mp read
    obtain ⟨port, _, read⟩ := List.mem_filterMap.mp read
    obtain ⟨recorded, found, rfl⟩ := Option.map_eq_some_iff.mp read
    have matching := List.find?_some found
    simp only [decide_eq_true_eq] at matching
    refine ⟨Or.inl ⟨lb, listed, List.mem_map_of_mem (List.mem_of_find?_eq_some found)⟩, ?_⟩
    simp only [Record.portKey, endpointPortKey, matching.1, matching.2.1]
  · obtain ⟨svc, _, read⟩ := List.mem_flatMap.mp read
    split at read
    · cases read
    · rename_i status found
      obtain ⟨port, inStatus, rfl⟩ := List.mem_map.mp read
      exact ⟨Or.inr ⟨route, listed, status, ⟨_, found⟩, List.mem_map_of_mem inStatus⟩, rfl⟩

theorem Stands.mem {loads : List Load} {load : Load} (stands : Stands loads load) :
    load ∈ loads :=
  (lastWith_eq_some stands).1

theorem stands_of_lookup {lbs : List LoadBalancer} {routes : List Route} {e k : String}
    {port : Int} (found : (loadState lbs routes).lookup e k = some port) :
    ∃ load, Stands (reads lbs routes) load ∧ load.key = (e, k) ∧
      load.record.targetPort = port := by
  rw [lookup_loadState] at found
  obtain ⟨load, last, rfl⟩ := Option.map_eq_some_iff.mp found
  have key := (lastWith_eq_some last).2
  exact ⟨load, by rw [Stands, key, last], key, rfl⟩

theorem Stands.lookup {lbs : List LoadBalancer} {routes : List Route} {load : Load}
    (stands : Stands (reads lbs routes) load) :
    (loadState lbs routes).lookup load.endpointKey load.portKey =
      some load.record.targetPort := by
  rw [lookup_loadState]
  exact congrArg (Option.map _) stands

theorem DistinctRecords.record_inj {controllerNs : String} {lbs : List LoadBalancer}
    {routes : List Route} (distinct : DistinctRecords controllerNs lbs routes)
    {load load' : Load} (member : load ∈ reads lbs routes) (member' : load' ∈ reads lbs routes)
    (plain : ¬ load.record.Bridge controllerNs) (plain' : ¬ load'.record.Bridge controllerNs)
    (same : load.record.targetPort = load'.record.targetPort) : load.record = load'.record :=
  Multiset.inj_on_of_nodup_map distinct _
    (Multiset.mem_filter.mpr ⟨(mem_reads member).1, plain⟩) _
    (Multiset.mem_filter.mpr ⟨(mem_reads member').1, plain'⟩) same

/-- Of statuses whose recorded ports all differ, LoadState builds an injective
table exactly when it reads no record for two endpoint keys. -/
theorem loadState_injective_iff {controllerNs : String} {lbs : List LoadBalancer}
    {routes : List Route} (distinct : DistinctRecords controllerNs lbs routes) :
    (loadState lbs routes).Injective ↔ ReadOnce controllerNs (reads lbs routes) := by
  constructor
  · intro injective
    refine ⟨?_, ?_⟩
    · intro load load' stands stands' same
      have found := stands'.lookup
      rw [← same] at found
      exact (injective _ _ _ _ _ stands.lookup found).1
    · intro load load' stands stands' _ same
      have found := stands'.lookup
      rw [← same] at found
      obtain ⟨endpoints, ports⟩ := injective _ _ _ _ _ stands.lookup found
      exact Prod.ext endpoints ports
  · intro once e k e' k' port first second
    obtain ⟨load, stands, key, atPort⟩ := stands_of_lookup first
    obtain ⟨load', stands', key', atPort'⟩ := stands_of_lookup second
    have same := atPort.trans atPort'.symm
    have keys : load.key = load'.key := by
      by_cases bridge : load.record.Bridge controllerNs
      · exact once.bridges load load' stands stands' bridge same
      · by_cases bridge' : load'.record.Bridge controllerNs
        · exact (once.bridges load' load stands' stands bridge' same.symm).symm
        · have records := distinct.record_inj stands.mem stands'.mem bridge bridge' same
          refine Prod.ext (once.records load load' stands stands' records) ?_
          exact ((mem_reads stands.mem).2.trans (congrArg Record.portKey records)).trans
            (mem_reads stands'.mem).2.symm
    rw [key, key', Prod.mk.injEq] at keys
    exact keys

/-- A LoadBalancer with a number of endpoint groups, all with one port, and one
recorded port. -/
def recordedLoadBalancer (name : String) (groups : Nat) (targetPort : Int) : LoadBalancer where
  ns := "tenant-a"
  name := name
  spec := { endpoints := List.replicate groups { ports := [⟨"http", 30080, .tcp⟩] } }
  status :=
    { servicePorts := [{ name := "http", port := 80, targetPort := .int targetPort,
                         upstreamTargetPort := 30080 }] }

theorem loadState_injective_single_groups :
    let lbs := [recordedLoadBalancer "web" 1 10000, recordedLoadBalancer "api" 1 10001]
    (loadState lbs []).Injective := by
  intro lbs
  have separate : ∀ load ∈ reads lbs [], ∀ load' ∈ reads lbs [],
      ¬ load.record.Bridge "kubelb" ∧
        (load.record = load'.record → load.endpointKey = load'.endpointKey) := by
    decide
  refine (loadState_injective_iff (by decide : DistinctRecords "kubelb" _ _)).mpr ⟨?_, ?_⟩
  · intro load load' stands stands'
    exact (separate load stands.mem load' stands'.mem).2
  · intro load load' stands stands' bridge
    exact absurd bridge (separate load stands.mem load' stands'.mem).1

/-- Two endpoint groups with the same port: the one recorded port is entered
for both, although no other port is recorded anywhere. -/
theorem endpoint_groups_load_one_port :
    let lbs := [recordedLoadBalancer "web" 2 10000]
    DistinctRecords "kubelb" lbs [] ∧
      (loadState lbs []).lookup "tenant-a-web-ep-0" "30080-TCP" = some 10000 ∧
      (loadState lbs []).lookup "tenant-a-web-ep-1" "30080-TCP" = some 10000 := by
  decide

end KubeLB
