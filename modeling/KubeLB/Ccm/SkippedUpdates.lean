import KubeLB.Ccm.Service

/-!
What an update that the Service controller of the CCM skips would have written.

The controller updates the LoadBalancer unless LoadBalancerIsDesiredState finds that
it is the one MapLoadBalancer makes. The comparison walks the fields by hand. It
passes over the names of the ports and the reference to the addresses.
-/

namespace KubeLB
open FiniteMap

def updatedLoadBalancer (actual desired : LoadBalancer) : LoadBalancer :=
  { actual with spec := desired.spec, annotations := desired.annotations }

structure MappedEndpoints where
  ports : List EndpointPort
  addresses : List EndpointAddress
  addressesReference : Option String
  deriving DecidableEq

structure MappedFields where
  type : ServiceType
  ports : List LoadBalancerPort
  endpoints : List MappedEndpoints
  deriving DecidableEq

def mappedEndpoints (endpoint : LoadBalancerEndpoints) : MappedEndpoints :=
  ⟨endpoint.ports, endpoint.addresses, endpoint.addressesReference⟩

def mappedFields (lb : LoadBalancer) : MappedFields :=
  ⟨lb.spec.type, lb.spec.ports, lb.spec.endpoints.map mappedEndpoints⟩

/-- What MapLoadBalancer sets in an endpoint group and the comparison does not read. -/
def uncomparedEndpoints (endpoint : LoadBalancerEndpoints) : List String × Option String :=
  (endpoint.ports.map (·.name), endpoint.addressesReference)

/-- What MapLoadBalancer sets in a spec and the comparison does not read. -/
def uncomparedFields (lb : LoadBalancer) : List String × List (List String × Option String) :=
  (lb.spec.ports.map (·.name), lb.spec.endpoints.map uncomparedEndpoints)

/-- Two lists that agree in two views of their elements agree in what the views
determine together. -/
theorem map_eq_of_map_eq {α β γ δ : Type} {f : α → β} {g : α → γ} {h : α → δ}
    (determined : ∀ a b, f a = f b → g a = g b → h a = h b) {as bs : List α}
    (first : as.map f = bs.map f) (second : as.map g = bs.map g) : as.map h = bs.map h := by
  induction as generalizing bs with
  | nil =>
      cases bs with
      | nil => rfl
      | cons b bs => cases first
  | cons a as ih =>
      cases bs with
      | nil => cases first
      | cons b bs =>
          simp only [List.map_cons, List.cons.injEq] at first second ⊢
          exact ⟨determined a b first.1 second.1, ih first.2 second.2⟩

theorem ports_eq_of_compared {actual desired : List LoadBalancerPort}
    (compared : actual.map (fun port => (port.protocol, port.port)) =
      desired.map (fun port => (port.protocol, port.port)))
    (names : actual.map (·.name) = desired.map (·.name)) : actual = desired := by
  have same := map_eq_of_map_eq (h := id) (fun a b compared name => ?_) compared names
  · simpa using same
  · obtain ⟨protocol, port⟩ := Prod.mk.inj compared
    cases a
    simp_all

theorem mappedEndpoints_eq_of_compared (actual desired : LoadBalancerEndpoints)
    (compared : comparedEndpoints actual = comparedEndpoints desired)
    (uncompared : uncomparedEndpoints actual = uncomparedEndpoints desired) :
    mappedEndpoints actual = mappedEndpoints desired := by
  obtain ⟨addresses, ports⟩ := Prod.mk.inj compared
  obtain ⟨names, reference⟩ := Prod.mk.inj uncompared
  have samePorts := map_eq_of_map_eq (h := id) (fun a b compared name => ?_) ports names
  have sameAddresses : actual.addresses = desired.addresses := by
    refine List.map_injective_iff.mpr (fun a b same => ?_) addresses
    obtain ⟨hostname, ip⟩ := Prod.mk.inj same
    cases a
    simp_all
  · rw [mappedEndpoints, mappedEndpoints, sameAddresses, reference]
    rw [List.map_id, List.map_id] at samePorts
    rw [samePorts]
  · obtain ⟨port, protocol⟩ := Prod.mk.inj compared
    cases a
    simp_all

theorem uncomparedFields_eq (lb : LoadBalancer) :
    uncomparedFields lb = ((mappedFields lb).ports.map (·.name),
      (mappedFields lb).endpoints.map fun group =>
        (group.ports.map (·.name), group.addressesReference)) := by
  rw [mappedFields, List.map_map]
  rfl

/-- Agreement in what is compared and in what is not is agreement in all that is set. -/
theorem mappedFields_eq_iff {actual desired : LoadBalancer}
    (type : actual.spec.type = desired.spec.type)
    (ports : actual.spec.ports.map (fun port => (port.protocol, port.port)) =
      desired.spec.ports.map (fun port => (port.protocol, port.port)))
    (endpoints : actual.spec.endpoints.map comparedEndpoints =
      desired.spec.endpoints.map comparedEndpoints) :
    mappedFields desired = mappedFields actual ↔
      uncomparedFields desired = uncomparedFields actual := by
  constructor
  · intro same
    rw [uncomparedFields_eq, uncomparedFields_eq, same]
  · intro uncompared
    obtain ⟨names, groups⟩ := Prod.mk.inj uncompared
    rw [mappedFields, mappedFields, type, ports_eq_of_compared ports names.symm,
      map_eq_of_map_eq mappedEndpoints_eq_of_compared endpoints groups.symm]

/-- Where the update is skipped, it would have changed no annotation but the one that is
not compared, and no field that MapLoadBalancer sets exactly when the names of the ports
and the references to the addresses are the desired ones already. -/
theorem skipped_update_changes_nothing_iff (userService : Service)
    (clusterEndpoints : List String) (useAddressesReference : Bool) (clusterName : String)
    (actual : LoadBalancer)
    (skipped : loadBalancerIsDesiredState actual
      (mapLoadBalancer userService clusterEndpoints useAddressesReference clusterName)
      (mappedAnnotations userService) = true) :
    let desired := mapLoadBalancer userService clusterEndpoints useAddressesReference clusterName
    let updated := updatedLoadBalancer actual desired
    (∀ key ≠ lastAppliedConfigAnnotation,
      updated.annotations.lookup key = actual.annotations.lookup key) ∧
      (mappedFields updated = mappedFields actual ↔
        uncomparedFields desired = uncomparedFields actual) := by
  obtain ⟨type, ports, endpoints, annotations⟩ := of_decide_eq_true skipped
  refine ⟨fun key relevant => ?_, mappedFields_eq_iff type ports endpoints⟩
  rw [← getD_readBack actual.annotations]
  exact (lookup_eq_of_compareAnnotations annotations relevant).symm

def namedPortService (portName : String) : Service where
  name := "web"
  ns := "default"
  uid := "0f0e-4a1b"
  type := .loadBalancer
  ports := [{ name := portName, protocol := .tcp, port := 80, nodePort := 30080 }]

theorem skipped_update_unchanged_service :
    let desired := mapLoadBalancer (namedPortService "http") ["10.0.0.1"] false "tenant-t"
    loadBalancerIsDesiredState desired desired (mappedAnnotations (namedPortService "http")) ∧
      mappedFields (updatedLoadBalancer desired desired) = mappedFields desired :=
  ⟨by decide, (skipped_update_changes_nothing_iff (namedPortService "http") ["10.0.0.1"] false
    "tenant-t" _ (by decide)).2.mpr rfl⟩

/-- Renaming the port of a Service is lost, and so is the switch between an empty list of
addresses and the reference to them. -/
theorem skipped_update_loses_names_and_reference :
    let http := mapLoadBalancer (namedPortService "http") [] false "tenant-t"
    let web := mapLoadBalancer (namedPortService "web") [] false "tenant-t"
    let referring := mapLoadBalancer (namedPortService "http") [] true "tenant-t"
    (loadBalancerIsDesiredState http web (mappedAnnotations (namedPortService "web")) ∧
      mappedFields (updatedLoadBalancer http web) ≠ mappedFields http) ∧
    (loadBalancerIsDesiredState http referring (mappedAnnotations (namedPortService "http")) ∧
      mappedFields (updatedLoadBalancer http referring) ≠ mappedFields http) :=
  ⟨⟨by decide, by decide⟩, by decide, by decide⟩

namespace Ccm

/-- A reconcile that skips the update leaves the LoadBalancer different from the desired
one exactly in what is not compared, however often it runs. -/
theorem reconcile_skips_uncompared (r : ServiceReconciler) (env : ServiceEnv)
    (state : ServiceState) {actual lb : LoadBalancer}
    (present : state.loadBalancer = some actual)
    (skipped : loadBalancerIsDesiredState actual (desiredLoadBalancer r state.service)
      (mappedAnnotations state.service) = true)
    (left : (reconcile r env state).loadBalancer = some lb) :
    lb = actual ∧ (mappedFields (desiredLoadBalancer r state.service) = mappedFields lb ↔
      uncomparedFields (desiredLoadBalancer r state.service) = uncomparedFields lb) := by
  have unwritten : ¬ WritesSpec r env state.service actual := fun writes => by
    cases skipped.symm.trans writes.differs
  have stays : lb = actual := by
    rcases (reconcile_present r env present).2 unwritten with gone | kept
    · cases left.symm.trans gone
    · exact Option.some.inj (left.symm.trans kept)
  obtain ⟨type, ports, endpoints, _⟩ := of_decide_eq_true skipped
  rw [stays]
  exact ⟨rfl, mappedFields_eq_iff type ports endpoints⟩

end Ccm
end KubeLB
