import KubeLB.Envoy.Addresses

/-!
The clusters of a snapshot and the addresses in them.

The addresses an endpoint refers to are read once for each key made from the
namespace and the name of the reference. When all can be read and references
with one key have the same addresses, every endpoint gets the addresses of its
own reference.
-/

namespace KubeLB
open FiniteMap Fallible

def Snapshot.cluster (snapshot : Snapshot) (name : String) : Option Cluster :=
  lastWith Cluster.name snapshot.clusters name

def filledClusters (read : ObjectKey → List EndpointAddress) (lbs : List LoadBalancer)
    (routes : List Route) : List Cluster :=
  (lbs.flatMap fun lb => loadBalancerClusters (filledLoadBalancer read lb)) ++
    routes.flatMap fun route => routeClusters (filledRoute read route)

theorem filledEndpoint_ports (read : ObjectKey → List EndpointAddress) (ns : String)
    (endpoint : LoadBalancerEndpoints) :
    (filledEndpoint read ns endpoint).ports = endpoint.ports := by
  rw [filledEndpoint]
  split <;> rfl

theorem filledRoute_eq (read : ObjectKey → List EndpointAddress) (route : Route) :
    (filledRoute read route).sourceServices = route.sourceServices ∧
      getRouteKind (filledRoute read route) = getRouteKind route ∧
      ∀ svc port, routePortIdentifier (filledRoute read route) svc port =
        routePortIdentifier route svc port := by
  rw [filledRoute]
  split
  · exact ⟨rfl, rfl, fun _ _ => rfl⟩
  · exact ⟨rfl, rfl, fun _ _ => rfl⟩

def foundAddresses (get : ObjectKey → Except String (List EndpointAddress)) (key : ObjectKey) :
    List EndpointAddress :=
  (get key).toOption.getD []

/-- All that is referred to can be read, and keys that are the same text stand
for the same addresses. -/
structure Readable (get : ObjectKey → Except String (List EndpointAddress))
    (read : ObjectKey → List EndpointAddress) (lbs : List LoadBalancer) (routes : List Route) :
    Prop where
  found : ∀ key, Referenced lbs routes key → get key = .ok (read key)
  apart : ∀ key key', Referenced lbs routes key → Referenced lbs routes key' →
    endpointAddressReferencePattern key.ns key.name =
      endpointAddressReferencePattern key'.ns key'.name → read key = read key'

section
variable {get : ObjectKey → Except String (List EndpointAddress)}
  {read : ObjectKey → List EndpointAddress} {lbs : List LoadBalancer} {routes : List Route}

theorem readable_of_no_reference (nothing : ∀ key, ¬ Referenced lbs routes key) :
    Readable get read lbs routes where
  found key referenced := absurd referenced (nothing key)
  apart key _ referenced := absurd referenced (nothing key)

/-- The snapshot is built, with the addresses that are referred to. -/
theorem mapSnapshot_succeeds (readable : Readable get read lbs routes) (pa : PortAllocator) :
    ∃ snapshot, mapSnapshot get lbs routes pa = .ok snapshot ∧
      snapshot.clusters = filledClusters read lbs routes := by
  have agree : AddressesAgree get lbs routes := by
    intro key key' referenced referenced' text
    rw [readable.found key referenced, readable.found key' referenced',
      readable.apart key key' referenced referenced' text]
  rw [mapSnapshot_eq, resolveObjects_eq_fetch agree, fetchObjects_eq_ok readable.found]
  refine ⟨_, rfl, ?_⟩
  simp only [snapshotOf, filledClusters, List.flatMap_map]

theorem mapSnapshot_clusters {pa : PortAllocator} {snapshot : Snapshot}
    (agree : AddressesAgree get lbs routes)
    (built : mapSnapshot get lbs routes pa = .ok snapshot) :
    snapshot.clusters = filledClusters (foundAddresses get) lbs routes := by
  have found : ∀ key, Referenced lbs routes key → get key = .ok (foundAddresses get key) := by
    intro key referenced
    rw [mapSnapshot_eq, resolveObjects_eq_fetch agree] at built
    cases fetched : fetchObjects get lbs routes with
    | error err =>
        rw [fetched] at built
        cases built
    | ok objects =>
        obtain ⟨addresses, answer⟩ := found_of_fetchObjects fetched referenced
        rw [foundAddresses, answer]
        rfl
  have readable : Readable get (foundAddresses get) lbs routes := by
    refine ⟨found, fun key key' referenced referenced' text => ?_⟩
    rw [foundAddresses, foundAddresses, agree key key' referenced referenced' text]
  obtain ⟨snapshot', built', clusters⟩ := mapSnapshot_succeeds readable pa
  cases built.symm.trans built'
  exact clusters

end
end KubeLB
