import KubeLB.Envoy.Snapshot

/-!
The Envoy control plane (internal/controllers/kubelb/envoy_cp_controller.go):
what a reconcile lists, the ports it allocates and what it does to the snapshot
that Envoy is served. The workload that runs Envoy is in Envoy.Proxy.

The consistency check of a snapshot always passes: clusters carry their
endpoints and listeners their routes, so that no resource refers to another one
of a type the check counts.
-/

namespace KubeLB

/-- Whether an object is among those listed for a request in the namespace. -/
def inScope (topology : EnvoyProxyTopology) (requestNs ns : String) : Bool :=
  match topology with
  | .shared => ns = requestNs
  | .global => true
  | .dedicated => false

def listLoadBalancersAndRoutes (topology : EnvoyProxyTopology) (requestNs : String)
    (lbs : List LoadBalancer) (routes : List Route) : List LoadBalancer × List Route :=
  (lbs.filter fun lb => inScope topology requestNs lb.ns && !lb.deletionTimestamp,
    routes.filter fun route => inScope topology requestNs route.ns && !route.deletionTimestamp)

def envoyAllocate (pa : PortAllocator) (lbs : List LoadBalancer) (routes : List Route)
    (draws : List Draw) : Option (PortAllocator × List Draw) := do
  let (pa, draws) ← pa.allocatePortsForLoadBalancers lbs draws
  pa.allocatePortsForRoutes routes draws

/-- The snapshot that is served after updateCache. The version of a snapshot is a hash
of its resources; snapshots with the same version are taken to be the same. -/
def updateCache (current : Option Snapshot) (desired : Except String Snapshot) :
    Option Snapshot :=
  match desired with
  | .error _ => current
  | .ok desired =>
      match current with
      | none => some desired
      | some served => if served = desired then some served else some desired

theorem updateCache_ok (current : Option Snapshot) (desired : Snapshot) :
    updateCache current (.ok desired) = some desired := by
  cases current with
  | none => rfl
  | some served =>
      simp only [updateCache]
      split
      · rename_i same
        rw [same]
      · rfl

theorem PortAllocator.allocateAll_append (pa : PortAllocator)
    (requests requests' : List (String × List String)) (draws : List Draw) :
    pa.allocateAll (requests ++ requests') draws =
      (pa.allocateAll requests draws).bind fun (pa, draws) => pa.allocateAll requests' draws := by
  induction requests generalizing pa draws with
  | nil => rfl
  | cons request requests ih =>
      simp only [List.cons_append, allocateAll, Option.bind_eq_bind, Option.bind_assoc, ih]

theorem envoyAllocate_eq (pa : PortAllocator) (lbs : List LoadBalancer) (routes : List Route)
    (draws : List Draw) : envoyAllocate pa lbs routes draws =
      pa.allocateAll (lbs.flatMap loadBalancerRequests ++ routes.flatMap routeRequests) draws :=
  (pa.allocateAll_append _ _ draws).symm

end KubeLB
