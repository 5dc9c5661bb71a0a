import KubeLB.Envoy.Addresses

/-!
The map of addresses that MapSnapshot keeps, and when it is exact.

Entries of the map are never replaced, so that in the end one map gives all the
addresses that were filled in. If they are those of the objects themselves whatever
the objects hold, no two objects have one key.
-/

namespace KubeLB
open FiniteMap Fallible

section
variable {get : ObjectKey → Except String (List EndpointAddress)}
  {read : ObjectKey → List EndpointAddress} {lbs : List LoadBalancer} {routes : List Route}

def MapServes (addressesMap : AddressesMap) (ns : String)
    (endpoint resolved : LoadBalancerEndpoints) : Prop :=
  ∀ name, endpoint.addressesReference = some name →
    addressesMap.lookup (endpointAddressReferencePattern ns name) = some resolved.addresses

def MapExtends (before after : AddressesMap) : Prop :=
  ∀ text addresses, before.lookup text = some addresses → after.lookup text = some addresses

theorem MapExtends.refl (addressesMap : AddressesMap) : MapExtends addressesMap addressesMap :=
  fun _ _ known => known

theorem MapExtends.trans {before between after : AddressesMap} (first : MapExtends before between)
    (later : MapExtends between after) : MapExtends before after :=
  fun text addresses known => later text addresses (first text addresses known)

theorem MapServes.extends {before after : AddressesMap} {ns : String}
    {endpoint resolved : LoadBalancerEndpoints} (grown : MapExtends before after)
    (served : MapServes before ns endpoint resolved) : MapServes after ns endpoint resolved :=
  fun name refers => grown _ _ (served name refers)

theorem resolveEndpoint_served {ns : String} {endpoint resolved : LoadBalancerEndpoints}
    {before after : AddressesMap}
    (returned : resolveEndpoint get ns endpoint before = .ok (resolved, after)) :
    MapExtends before after ∧ MapServes after ns endpoint resolved := by
  rw [resolveEndpoint] at returned
  split at returned
  · rename_i alone
    cases returned
    exact ⟨.refl _, fun name refers => by cases alone.symm.trans refers⟩
  · rename_i name refers
    have own {addresses : List EndpointAddress} {addressesMap : AddressesMap}
        (known : addressesMap.lookup (endpointAddressReferencePattern ns name) = some addresses) :
        MapServes addressesMap ns endpoint { endpoint with addresses := addresses } := by
      intro name' refers'
      cases refers.symm.trans refers'
      exact known
    simp only at returned
    split at returned
    · rename_i addresses known
      cases returned
      exact ⟨.refl _, own known⟩
    · rename_i unknown
      split at returned
      · cases returned
      · cases returned
        refine ⟨fun text addresses known => ?_, own (Finmap.lookup_insert _)⟩
        have other : text ≠ endpointAddressReferencePattern ns name := by
          rintro rfl
          cases unknown.symm.trans known
        rw [Finmap.lookup_insert_of_ne _ other]
        exact known

theorem resolveEndpoints_served {ns : String} {endpoints resolved : List LoadBalancerEndpoints}
    {before after : AddressesMap}
    (returned : endpoints.mapM (resolveEndpoint get ns) before = .ok (resolved, after)) :
    MapExtends before after ∧ List.Forall₂ (MapServes after ns) endpoints resolved := by
  refine forall₂_of_growing (R := fun addressesMap => MapServes addressesMap ns) .refl .trans
    MapServes.extends ?_ returned
  exact fun _ _ _ _ => resolveEndpoint_served

/-- The endpoints that MapSnapshot goes through for a Route. -/
def usedEndpoints (route : Route) : List LoadBalancerEndpoints :=
  if route.spec.kubernetes = none then [] else route.spec.endpoints

def MapServesLoadBalancer (addressesMap : AddressesMap) (lb resolved : LoadBalancer) : Prop :=
  List.Forall₂ (MapServes addressesMap lb.ns) lb.spec.endpoints resolved.spec.endpoints

def MapServesRoute (addressesMap : AddressesMap) (route resolved : Route) : Prop :=
  List.Forall₂ (MapServes addressesMap route.ns) (usedEndpoints route) (usedEndpoints resolved)

theorem MapServesLoadBalancer.extends {before after : AddressesMap} {lb resolved : LoadBalancer}
    (grown : MapExtends before after) (served : MapServesLoadBalancer before lb resolved) :
    MapServesLoadBalancer after lb resolved :=
  served.imp fun _ _ => MapServes.extends grown

theorem MapServesRoute.extends {before after : AddressesMap} {route resolved : Route}
    (grown : MapExtends before after) (served : MapServesRoute before route resolved) :
    MapServesRoute after route resolved :=
  served.imp fun _ _ => MapServes.extends grown

theorem resolveLoadBalancer_served {lb resolved : LoadBalancer} {before after : AddressesMap}
    (returned : resolveLoadBalancer get lb before = .ok (resolved, after)) :
    MapExtends before after ∧ MapServesLoadBalancer after lb resolved := by
  obtain ⟨endpoints, _, looped, returned⟩ := stateT_bind_eq_ok.mp returned
  cases returned
  exact resolveEndpoints_served looped

theorem resolveRoute_served {route resolved : Route} {before after : AddressesMap}
    (returned : resolveRoute get route before = .ok (resolved, after)) :
    MapExtends before after ∧ MapServesRoute after route resolved := by
  by_cases skipped : route.spec.kubernetes = none
  · rw [resolveRoute, if_pos skipped] at returned
    cases returned
    simp only [MapServesRoute, usedEndpoints, if_pos skipped]
    exact ⟨.refl _, .nil⟩
  · rw [resolveRoute, if_neg skipped] at returned
    obtain ⟨endpoints, _, looped, returned⟩ := stateT_bind_eq_ok.mp returned
    cases returned
    simp only [MapServesRoute, usedEndpoints, if_neg skipped]
    exact resolveEndpoints_served looped

/-- At the end of MapSnapshot every endpoint has the addresses that the map holds
for its reference. -/
theorem resolveObjects_served {lbs' : List LoadBalancer} {routes' : List Route}
    (returned : resolveObjects get lbs routes = .ok (lbs', routes')) :
    ∃ addressesMap, List.Forall₂ (MapServesLoadBalancer addressesMap) lbs lbs' ∧
      List.Forall₂ (MapServesRoute addressesMap) routes routes' := by
  obtain ⟨⟨fromLBs, afterLBs⟩, resolvedLBs, returned⟩ := bind_eq_ok.mp returned
  obtain ⟨⟨fromRoutes, afterRoutes⟩, resolvedRoutes, returned⟩ := bind_eq_ok.mp returned
  cases returned
  obtain ⟨_, servedLBs⟩ := forall₂_of_growing (R := MapServesLoadBalancer) MapExtends.refl .trans
    MapServesLoadBalancer.extends (fun _ _ _ _ => resolveLoadBalancer_served) resolvedLBs
  obtain ⟨grown, servedRoutes⟩ := forall₂_of_growing (R := MapServesRoute) MapExtends.refl .trans
    MapServesRoute.extends (fun _ _ _ _ => resolveRoute_served) resolvedRoutes
  exact ⟨afterRoutes, servedLBs.imp fun _ _ => MapServesLoadBalancer.extends grown, servedRoutes⟩

/-- If MapSnapshot gives every endpoint the addresses of its own reference, they are
those that some map holds under the reference's key. -/
theorem lookup_of_resolved
    (returned : resolveObjects get lbs routes =
      .ok (lbs.map (filledLoadBalancer read), routes.map (filledRoute read))) :
    ∃ addressesMap : AddressesMap, ∀ key, Referenced lbs routes key →
      addressesMap.lookup (endpointAddressReferencePattern key.ns key.name) =
        some (read key) := by
  obtain ⟨addressesMap, servedLBs, servedRoutes⟩ := resolveObjects_served returned
  rw [List.forall₂_map_right_iff, List.forall₂_same] at servedLBs servedRoutes
  have filled {ns name : String} {endpoint : LoadBalancerEndpoints}
      (refers : endpoint.addressesReference = some name) :
      (filledEndpoint read ns endpoint).addresses = read ⟨ns, name⟩ := by
    simp only [filledEndpoint, refers]
  refine ⟨addressesMap, fun key referenced => ?_⟩
  cases referenced with
  | loadBalancer listed member refers =>
      have served := servedLBs _ listed
      rw [MapServesLoadBalancer, filledLoadBalancer, List.forall₂_map_right_iff, List.forall₂_same]
        at served
      rw [← filled refers]
      exact served _ member _ refers
  | route listed source member refers =>
      have served := servedRoutes _ listed
      simp only [MapServesRoute, usedEndpoints, filledRoute, if_neg source,
        List.forall₂_map_right_iff, List.forall₂_same] at served
      rw [← filled refers]
      exact served _ member _ refers

end

/-- Within one namespace, or for references of one name, the key tells the objects apart. -/
theorem key_eq_of_text {key key' : ObjectKey}
    (text : endpointAddressReferencePattern key.ns key.name =
      endpointAddressReferencePattern key'.ns key'.name)
    (part : key.ns = key'.ns ∨ key.name = key'.name) : key = key' := by
  obtain ⟨ns, name⟩ := key
  obtain ⟨ns', name'⟩ := key'
  have lists := congrArg String.toList text
  simp only [endpointAddressReferencePattern, String.toList_append, List.append_assoc] at lists
  obtain rfl | rfl : ns = ns' ∨ name = name' := part
  · rw [List.append_right_inj, List.append_right_inj, String.toList_inj] at lists
    rw [lists]
  · rw [← List.append_assoc, ← List.append_assoc, List.append_left_inj, List.append_left_inj,
      String.toList_inj] at lists
    rw [lists]

/-- In the shared topology, where all objects are in one namespace, and for the LoadBalancers
and Routes of the CCM, which refer to Addresses of one name, the map is exact. -/
theorem resolveObjects_eq_fetch_of_part {lbs : List LoadBalancer} {routes : List Route}
    (part : ∀ key key', Referenced lbs routes key → Referenced lbs routes key' →
      key.ns = key'.ns ∨ key.name = key'.name)
    (get : ObjectKey → Except String (List EndpointAddress)) :
    resolveObjects get lbs routes = fetchObjects get lbs routes := by
  refine resolveObjects_eq_fetch fun key key' referenced referenced' text => ?_
  rw [key_eq_of_text text (part key key' referenced referenced')]

/-- MapSnapshot uses for every endpoint the addresses of the object it refers to, whatever
the API server holds and whichever requests it refuses, exactly when no two different
objects that are referred to have one key. -/
theorem resolveObjects_eq_fetchObjects_iff (lbs : List LoadBalancer) (routes : List Route) :
    (∀ get, resolveObjects get lbs routes = fetchObjects get lbs routes) ↔
      ∀ key key', Referenced lbs routes key → Referenced lbs routes key' →
        endpointAddressReferencePattern key.ns key.name =
          endpointAddressReferencePattern key'.ns key'.name → key = key' := by
  constructor
  · intro same key key' referenced referenced' text
    by_contra different
    let read (other : ObjectKey) : List EndpointAddress := if other = key then [⟨"", ""⟩] else []
    have found : ∀ other, Referenced lbs routes other →
        (fun key => Except.ok (read key) : ObjectKey → Except String _) other =
          .ok (read other) := fun _ _ => rfl
    obtain ⟨addressesMap, served⟩ :=
      lookup_of_resolved ((same _).trans (fetchObjects_eq_ok found))
    have clash := (served key referenced).symm.trans (text ▸ served key' referenced')
    simp [read, Ne.symm different] at clash
  · intro apart get
    refine resolveObjects_eq_fetch fun key key' referenced referenced' text => ?_
    rw [apart key key' referenced referenced' text]

private def referringLB (ns reference : String) : LoadBalancer :=
  { ns := ns, name := "app"
    spec := { endpoints := [{ addressesReference := some reference
                              ports := [⟨"", 31000, .tcp⟩] }] } }

private def tenantAddresses (key : ObjectKey) : Except String (List EndpointAddress) :=
  if key = ⟨"tenant-a", "x-address-y"⟩ then .ok [⟨"10.0.0.1", ""⟩]
  else if key = ⟨"tenant-a-address-x", "y"⟩ then .ok [⟨"10.0.0.2", ""⟩]
  else .error "not found"

/-- Both references have the key tenant-a-address-x-address-y: the second tenant's
cluster gets the first tenant's address. -/
theorem resolveObjects_mixes_tenants :
    let lbs := [referringLB "tenant-a" "x-address-y", referringLB "tenant-a-address-x" "y"]
    resolveObjects tenantAddresses lbs [] ≠ fetchObjects tenantAddresses lbs [] ∧
      (resolveObjects tenantAddresses lbs []).map (fun objects =>
          (snapshotOf newPortAllocator objects).clusters.map Cluster.endpoints) =
        .ok [[("10.0.0.1", 31000)], [("10.0.0.1", 31000)]] ∧
      (fetchObjects tenantAddresses lbs []).map (fun objects =>
          (snapshotOf newPortAllocator objects).clusters.map Cluster.endpoints) =
        .ok [[("10.0.0.1", 31000)], [("10.0.0.2", 31000)]] := by
  decide

end KubeLB
