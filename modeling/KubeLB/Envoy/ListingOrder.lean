import KubeLB.Envoy.ControlPlane
import KubeLB.Envoy.FirstReader
import KubeLB.Envoy.Resolution
import KubeLB.Foundation.Reordering

/-!
Whether the version of a snapshot depends on the order in which objects are listed.

The version is a hash of the marshalled clusters and listeners, one after the
other in the order in which MapSnapshot builds them, which is the order of the
lists. How a resource is marshalled is a parameter, and the hash is taken to
tell contents apart. The order of the lists also decides which of several
references with one key is read.
-/

namespace KubeLB
open Fallible Reordering

/-- MarshalResource, for the two types of resources. -/
structure Marshalling (β : Type) where
  cluster : Cluster → List β
  listener : Listener → List β

variable {β ρ : Type}

def Marshalling.content (marshal : Marshalling β) (snapshot : Snapshot) : List β :=
  snapshot.clusters.flatMap marshal.cluster ++ snapshot.listeners.flatMap marshal.listener

/-- updateCache with the comparison by version. -/
def updateCacheBy [DecidableEq ρ] (version : Snapshot → ρ) (current : Option Snapshot)
    (desired : Except String Snapshot) : Option Snapshot :=
  match desired with
  | .error _ => current
  | .ok desired =>
      match current with
      | none => some desired
      | some served => if version served = version desired then some served else some desired

theorem updateCache_eq (current : Option Snapshot) (desired : Except String Snapshot) :
    updateCache current desired = updateCacheBy id current desired := by
  cases desired <;> cases current <;> rfl

/-- Listing the objects in another order changes neither the version nor the cache. -/
structure OrderIrrelevant [DecidableEq ρ] (version : Snapshot → ρ)
    (get : ObjectKey → Except String (List EndpointAddress)) (lbs : List LoadBalancer)
    (routes : List Route) (pa : PortAllocator) : Prop where
  sameVersion : ∀ lbs' routes', lbs'.Perm lbs → routes'.Perm routes →
    (mapSnapshot get lbs' routes' pa).toOption.map version =
      (mapSnapshot get lbs routes pa).toOption.map version
  sameCache : ∀ lbs' routes' served, lbs'.Perm lbs → routes'.Perm routes →
    mapSnapshot get lbs routes pa = .ok served →
      updateCacheBy version (some served) (mapSnapshot get lbs' routes' pa) = some served

def AllFound (get : ObjectKey → Except String (List EndpointAddress)) (lbs : List LoadBalancer)
    (routes : List Route) : Prop :=
  ∀ key, Referenced lbs routes key → ∃ addresses, get key = .ok addresses

/-- Whichever of the references with one key is read first, the same is read. -/
def ReadersAgree (get : ObjectKey → Except String (List EndpointAddress))
    (lbs : List LoadBalancer) (routes : List Route) : Prop :=
  ∀ key key', Reader lbs routes key → Reader lbs routes key' →
    referenceText key = referenceText key' → get key = get key'

def OneReader (lbs : List LoadBalancer) (routes : List Route) : Prop :=
  ∀ key key', Reader lbs routes key → Reader lbs routes key' →
    referenceText key = referenceText key' → key = key'

instance (lbs : List LoadBalancer) (routes : List Route) : Decidable (OneReader lbs routes) :=
  decidable_of_iff (∀ key ∈ readKeys lbs routes, ∀ key' ∈ readKeys lbs routes,
      Reader lbs routes key → Reader lbs routes key' →
        referenceText key = referenceText key' → key = key') <| by
    simp only [mem_readKeys]
    exact ⟨fun one key key' reader reader' =>
        one key reader.referenced key' reader'.referenced reader reader',
      fun one key _ key' _ => one key key'⟩

section Contents
variable (marshal : Marshalling β) (get : ObjectKey → Except String (List EndpointAddress))
  (pa : PortAllocator)

def lbClusterContent (lb : LoadBalancer) : List β :=
  (loadBalancerClusters (filledLoadBalancer (foundAddresses get) lb)).flatMap marshal.cluster

def lbListenerContent (lb : LoadBalancer) : List β :=
  (loadBalancerListeners pa lb).flatMap marshal.listener

def routeClusterContent (route : Route) : List β :=
  (routeClusters (filledRoute (foundAddresses get) route)).flatMap marshal.cluster

def routeListenerContent (route : Route) : List β :=
  (routeListeners pa route).flatMap marshal.listener

/-- What any two LoadBalancers, and any two Routes, contribute to the content may stand in
either order. -/
structure ContentsCommute (lbs : List LoadBalancer) (routes : List Route) : Prop where
  lbClusters : Commuting (lbClusterContent marshal get) lbs
  lbListeners : Commuting (lbListenerContent marshal pa) lbs
  routeClusters : Commuting (routeClusterContent marshal get) routes
  routeListeners : Commuting (routeListenerContent marshal pa) routes

def listedContent (lbs : List LoadBalancer) (routes : List Route) : List β :=
  (lbs.flatMap (lbClusterContent marshal get) ++
      routes.flatMap (routeClusterContent marshal get)) ++
    (lbs.flatMap (lbListenerContent marshal pa) ++
      routes.flatMap (routeListenerContent marshal pa))

end Contents

section
variable {marshal : Marshalling β} {get : ObjectKey → Except String (List EndpointAddress)}
  {pa : PortAllocator} {lbs lbs' : List LoadBalancer} {routes routes' : List Route}

theorem AddressesAgree.perm (agree : AddressesAgree get lbs routes) (permLBs : lbs'.Perm lbs)
    (permRoutes : routes'.Perm routes) : AddressesAgree get lbs' routes' :=
  fun key key' referenced referenced' =>
    agree key key' (referenced.perm permLBs permRoutes) (referenced'.perm permLBs permRoutes)

theorem AllFound.perm (found : AllFound get lbs routes) (permLBs : lbs'.Perm lbs)
    (permRoutes : routes'.Perm routes) : AllFound get lbs' routes' :=
  fun key referenced => found key (referenced.perm permLBs permRoutes)

/-- When every reference can be read, the snapshot has the content of the lists. -/
theorem mapSnapshot_of_found (agree : AddressesAgree get lbs routes)
    (found : AllFound get lbs routes) (marshal : Marshalling β) (pa : PortAllocator) :
    ∃ snapshot, mapSnapshot get lbs routes pa = .ok snapshot ∧
      marshal.content snapshot = listedContent marshal get pa lbs routes := by
  have read : ∀ key, Referenced lbs routes key → get key = .ok (foundAddresses get key) := by
    intro key referenced
    obtain ⟨addresses, answer⟩ := found key referenced
    rw [foundAddresses, answer]
    rfl
  have built : mapSnapshot get lbs routes pa = .ok (snapshotOf pa
      (lbs.map (filledLoadBalancer (foundAddresses get)),
        routes.map (filledRoute (foundAddresses get)))) := by
    rw [mapSnapshot_eq, resolveObjects_eq_fetch agree, fetchObjects_eq_ok read]
    rfl
  refine ⟨_, built, ?_⟩
  rw [Marshalling.content, mapSnapshot_listeners built, listedContent, snapshotOf]
  simp only [List.flatMap_append, List.flatMap_map, List.flatMap_assoc]
  rfl

theorem mapSnapshot_of_not_found (agree : AddressesAgree get lbs routes)
    (missing : ¬ AllFound get lbs routes) (pa : PortAllocator) :
    ∃ err, mapSnapshot get lbs routes pa = .error err := by
  rw [mapSnapshot_eq, resolveObjects_eq_fetch agree]
  cases fetched : fetchObjects get lbs routes with
  | error err => exact ⟨err, rfl⟩
  | ok objects => exact absurd (fun key => found_of_fetchObjects fetched) missing

theorem listedContent_perm (commute : ContentsCommute marshal get pa lbs routes)
    (permLBs : lbs'.Perm lbs) (permRoutes : routes'.Perm routes) :
    listedContent marshal get pa lbs' routes' = listedContent marshal get pa lbs routes := by
  rw [listedContent, listedContent, flatMap_eq_of_perm commute.lbClusters permLBs,
    flatMap_eq_of_perm commute.lbListeners permLBs,
    flatMap_eq_of_perm commute.routeClusters permRoutes,
    flatMap_eq_of_perm commute.routeListeners permRoutes]

theorem contentsCommute_of_same
    (same : ∀ lbs' routes', lbs'.Perm lbs → routes'.Perm routes →
      listedContent marshal get pa lbs' routes' = listedContent marshal get pa lbs routes) :
    ContentsCommute marshal get pa lbs routes := by
  obtain ⟨lbClusters, lbListeners⟩ := commuting_of_same (l := lbs)
    (f := lbClusterContent marshal get) (g := lbListenerContent marshal pa) []
    (routes.flatMap (routeClusterContent marshal get))
    (routes.flatMap (routeListenerContent marshal pa)) fun lbs' perm => by
      have content := same lbs' routes perm (.refl _)
      simpa only [listedContent, List.append_assoc, List.nil_append] using content
  obtain ⟨routeClusters, routeListeners⟩ := commuting_of_same (l := routes)
    (f := routeClusterContent marshal get) (g := routeListenerContent marshal pa)
    (lbs.flatMap (lbClusterContent marshal get)) (lbs.flatMap (lbListenerContent marshal pa))
    [] fun routes' perm => by
      have content := same lbs routes' (.refl _) perm
      simpa only [listedContent, List.append_assoc, List.append_nil] using content
  exact ⟨lbClusters, lbListeners, routeClusters, routeListeners⟩

theorem orderIrrelevant_iff [DecidableEq ρ] {version : Snapshot → ρ} :
    OrderIrrelevant version get lbs routes pa ↔
      ∀ lbs' routes', lbs'.Perm lbs → routes'.Perm routes →
        (mapSnapshot get lbs' routes' pa).toOption.map version =
          (mapSnapshot get lbs routes pa).toOption.map version := by
  refine ⟨OrderIrrelevant.sameVersion, fun same => ⟨same, ?_⟩⟩
  intro lbs' routes' served permLBs permRoutes built
  have versions := same lbs' routes' permLBs permRoutes
  cases built' : mapSnapshot get lbs' routes' pa with
  | error err => rfl
  | ok snapshot =>
      rw [built, built'] at versions
      have versions : version snapshot = version served := Option.some.inj versions
      exact if_pos versions.symm

theorem orderIrrelevant_iff_commute [DecidableEq ρ] {hash : List β → ρ}
    (injective : Function.Injective hash) (agree : AddressesAgree get lbs routes) :
    OrderIrrelevant (fun snapshot => hash (marshal.content snapshot)) get lbs routes pa ↔
      (AllFound get lbs routes → ContentsCommute marshal get pa lbs routes) := by
  rw [orderIrrelevant_iff]
  constructor
  · intro same found
    refine contentsCommute_of_same fun lbs' routes' permLBs permRoutes => ?_
    obtain ⟨snapshot, built, content⟩ := mapSnapshot_of_found agree found marshal pa
    obtain ⟨snapshot', built', content'⟩ := mapSnapshot_of_found (agree.perm permLBs permRoutes)
      (found.perm permLBs permRoutes) marshal pa
    have versions := same lbs' routes' permLBs permRoutes
    rw [built, built'] at versions
    have contents := injective (Option.some.inj versions)
    rw [← content, ← content', contents]
  · intro commute lbs' routes' permLBs permRoutes
    by_cases found : AllFound get lbs routes
    · obtain ⟨snapshot, built, content⟩ := mapSnapshot_of_found agree found marshal pa
      obtain ⟨snapshot', built', content'⟩ := mapSnapshot_of_found (agree.perm permLBs permRoutes)
        (found.perm permLBs permRoutes) marshal pa
      have contents := listedContent_perm (commute found) permLBs permRoutes
      rw [built, built']
      refine congrArg some (congrArg hash ?_)
      rw [content, content', contents]
    · have missing : ¬ AllFound get lbs' routes' := fun found' =>
        found (found'.perm permLBs.symm permRoutes.symm)
      obtain ⟨err, failed⟩ := mapSnapshot_of_not_found agree found pa
      obtain ⟨err', failed'⟩ :=
        mapSnapshot_of_not_found (agree.perm permLBs permRoutes) missing pa
      rw [failed, failed']
      rfl

/-- Where the readers agree, a reference is given the same in every order. -/
theorem ReadersAgree.mapSnapshot (agree : ReadersAgree get lbs routes) (permLBs : lbs'.Perm lbs)
    (permRoutes : routes'.Perm routes) :
    mapSnapshot get lbs' routes' pa = mapSnapshot (served get lbs routes) lbs' routes' pa := by
  have same : ∀ key, Referenced lbs' routes' key →
      served get lbs' routes' key = served get lbs routes key := by
    intro key referenced
    obtain ⟨reader, text⟩ := firstReader_reader referenced
    obtain ⟨reader', text'⟩ := firstReader_reader (referenced.perm permLBs permRoutes)
    exact agree _ _ (reader.perm permLBs permRoutes) reader' (text.trans text'.symm)
  rw [mapSnapshot_eq, mapSnapshot_eq, resolveObjects_eq_fetch_served, fetchObjects_congr same,
    resolveObjects_eq_fetch (addressesAgree_served.perm permLBs permRoutes)]

theorem orderIrrelevant_served [DecidableEq ρ] {version : Snapshot → ρ}
    (agree : ReadersAgree get lbs routes) : OrderIrrelevant version get lbs routes pa ↔
      OrderIrrelevant version (served get lbs routes) lbs routes pa := by
  rw [orderIrrelevant_iff, orderIrrelevant_iff]
  refine forall₄_congr fun lbs' routes' permLBs permRoutes => ?_
  rw [agree.mapSnapshot permLBs permRoutes, agree.mapSnapshot (.refl _) (.refl _)]

/-- If two different references may be read first, whether there is a snapshot depends on
the order where one of them cannot be read. -/
theorem oneReader_of_orderIrrelevant [DecidableEq ρ] {version : Snapshot → ρ}
    (irrelevant : ∀ get, OrderIrrelevant version get lbs routes pa) : OneReader lbs routes := by
  intro key key' reader reader' text
  by_contra different
  let get (other : ObjectKey) : Except String (List EndpointAddress) :=
    if other = key then .error "" else .ok []
  obtain ⟨lbs₁, routes₁, permLBs, permRoutes, first⟩ := reader.exists_perm
  obtain ⟨lbs₂, routes₂, permLBs', permRoutes', first'⟩ := reader'.exists_perm
  have failed : (mapSnapshot get lbs₁ routes₁ pa).toOption = none := by
    rw [mapSnapshot_eq, resolveObjects_eq_fetch_served]
    cases fetched : fetchObjects (served get lbs₁ routes₁) lbs₁ routes₁ with
    | error err => rfl
    | ok objects =>
        obtain ⟨addresses, answer⟩ := found_of_fetchObjects fetched
          (reader.referenced.perm permLBs.symm permRoutes.symm)
        simp [served, first, get] at answer
  have built : ∃ snapshot, mapSnapshot get lbs₂ routes₂ pa = .ok snapshot := by
    have found : ∀ other, Referenced lbs₂ routes₂ other →
        served get lbs₂ routes₂ other = .ok ((fun _ => []) other) := by
      intro other referenced
      refine if_neg fun same => different ?_
      have text' : referenceText other = referenceText key' := by
        rw [← text, ← same, (firstReader_reader referenced).2]
      rw [← same, firstReader_congr text' referenced
        (reader'.referenced.perm permLBs'.symm permRoutes'.symm), first']
    exact ⟨_, by rw [mapSnapshot_eq, resolveObjects_eq_fetch_served, fetchObjects_eq_ok found]; rfl⟩
  obtain ⟨snapshot, built⟩ := built
  have same := ((irrelevant get).sameVersion lbs₂ routes₂ permLBs' permRoutes').trans
    ((irrelevant get).sameVersion lbs₁ routes₁ permLBs permRoutes).symm
  rw [built, failed] at same
  cases same

end

/-- The order in which LoadBalancers and Routes are listed changes neither the version nor
the cache, for Addresses that agree wherever the order decides which are read, exactly
when there is no snapshot because some cannot be read, or what any two objects
contribute to the content may stand in either order. Whatever the Addresses hold, it
is so exactly when moreover the order never decides which are read. -/
theorem listing_order_irrelevant_iff [DecidableEq ρ] (marshal : Marshalling β)
    (hash : List β → ρ) (injective : Function.Injective hash) (lbs : List LoadBalancer)
    (routes : List Route) (pa : PortAllocator) :
    (∀ get, ReadersAgree get lbs routes →
      (OrderIrrelevant (fun snapshot => hash (marshal.content snapshot)) get lbs routes pa ↔
        (AllFound (served get lbs routes) lbs routes →
          ContentsCommute marshal (served get lbs routes) pa lbs routes))) ∧
    ((∀ get, OrderIrrelevant (fun snapshot => hash (marshal.content snapshot)) get lbs routes pa) ↔
      OneReader lbs routes ∧ ∀ get, AllFound (served get lbs routes) lbs routes →
        ContentsCommute marshal (served get lbs routes) pa lbs routes) := by
  have fixed (get : ObjectKey → Except String (List EndpointAddress))
      (agree : ReadersAgree get lbs routes) :
      OrderIrrelevant (fun snapshot => hash (marshal.content snapshot)) get lbs routes pa ↔
        (AllFound (served get lbs routes) lbs routes →
          ContentsCommute marshal (served get lbs routes) pa lbs routes) :=
    (orderIrrelevant_served agree).trans
      (orderIrrelevant_iff_commute injective addressesAgree_served)
  refine ⟨fixed, fun irrelevant => ?_, fun ⟨one, commute⟩ get => ?_⟩
  · have one := oneReader_of_orderIrrelevant irrelevant
    refine ⟨one, fun get => (fixed get ?_).mp (irrelevant get)⟩
    exact fun key key' reader reader' text => congrArg get (one key key' reader reader' text)
  · refine (fixed get ?_).mpr (commute get)
    exact fun key key' reader reader' text => congrArg get (one key key' reader reader' text)

def resourceMarshalling : Marshalling (Cluster ⊕ Listener) where
  cluster cluster := [.inl cluster]
  listener listener := [.inr listener]

private def keyedLB (name reference : String) (ports : List EndpointPort) : LoadBalancer :=
  { ns := "tenant-a", name := name
    spec := { endpoints := [{ addressesReference := some reference, ports := ports }] } }

private def keyedRoute : Route :=
  { ns := "tenant-a-address-x", name := "wiki"
    spec :=
      { endpoints := [{ addressesReference := some "y" }]
        kubernetes := some { services := [{ name := "web", ports := [{ port := 80 }] }] } } }

/-- Two LoadBalancers, one of them without ports, and a Route of another tenant whose
reference has the key of the first one's: it is read for the LoadBalancer, in each
order. -/
theorem listing_order_irrelevant_clash :
    referenceText ⟨"tenant-a", "x-address-y"⟩ = referenceText ⟨"tenant-a-address-x", "y"⟩ ∧
      ∀ get, OrderIrrelevant (fun snapshot => resourceMarshalling.content snapshot) get
        [keyedLB "web" "x-address-y" [⟨"", 31000, .tcp⟩], keyedLB "idle" "z" []]
        [keyedRoute] newPortAllocator := by
  refine ⟨by decide, (listing_order_irrelevant_iff resourceMarshalling id Function.injective_id
    _ _ _).2.mpr ⟨by decide, fun get _ => ?_⟩⟩
  have idle {f : LoadBalancer → List (Cluster ⊕ Listener)} {lb : LoadBalancer}
      (silent : f (keyedLB "idle" "z" []) = []) :
      Commuting f [lb, keyedLB "idle" "z" []] := by
    refine commuting_of_silent lb fun other member => ?_
    obtain rfl | rfl : other = lb ∨ other = keyedLB "idle" "z" [] := by simpa using member
    · exact .inl rfl
    · exact .inr silent
  have single {f : Route → List (Cluster ⊕ Listener)} : Commuting f [keyedRoute] :=
    commuting_of_silent keyedRoute fun other member => .inl (List.mem_singleton.mp member)
  exact ⟨idle rfl, idle rfl, single, single⟩

private def listedLB (name : String) : LoadBalancer :=
  { ns := "tenant-a", name := name
    spec := { endpoints := [{ addresses := [⟨"10.0.0.1", ""⟩], ports := [⟨"", 31000, .tcp⟩] }] } }

/-- Two LoadBalancers listed the other way round: the resources are hashed in another
order, and the cache is replaced. -/
theorem listing_order_changes_version :
    let get : ObjectKey → Except String (List EndpointAddress) := fun _ => .error "not found"
    let lbs := [listedLB "web", listedLB "api"]
    let lbs' := [listedLB "api", listedLB "web"]
    lbs'.Perm lbs ∧
      ∃ served desired, mapSnapshot get lbs [] newPortAllocator = .ok served ∧
        mapSnapshot get lbs' [] newPortAllocator = .ok desired ∧
        resourceMarshalling.content served ≠ resourceMarshalling.content desired ∧
        updateCacheBy resourceMarshalling.content (some served)
          (mapSnapshot get lbs' [] newPortAllocator) = some desired ∧
        served ≠ desired := by
  refine ⟨List.Perm.swap _ _ _, _, _, rfl, rfl, by decide, by decide, by decide⟩

end KubeLB
