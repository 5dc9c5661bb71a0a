import KubeLB.Envoy.FirstReader
import KubeLB.Foundation.Watch
import KubeLB.Manager.Process

/-!
What the Envoy control plane is told of, and whether a snapshot is left behind
(SetupWithManager and its handlers in
internal/controllers/kubelb/envoy_cp_controller.go, ByLabelExistsOnNamespace in
internal/controllers/utils.go).

The state is that of the caches of the manager: a change is announced when it has
reached the cache from which a reconcile reads, and the filter on namespaces
looks into a cache as well. A reconcile reads LoadBalancers, Routes and each
Addresses object at times of its own. The generation of a Route stands for its
spec and its mark of deletion. What the Config and Tenants queue is any set of requests.
The allocator is given as it is when the snapshot is built.
-/

namespace KubeLB
open FiniteMap Fallible Runs Watch

def requeueAllResources : String := "requeue-all-for-route"

/-- The caches that the control plane reads, each object under its own key. -/
structure WatchedObjects where
  namespaces : FiniteMap String (FiniteMap String String) := ∅
  lbs : FiniteMap ObjectKey LoadBalancer := ∅
  routes : FiniteMap ObjectKey Route := ∅
  addresses : FiniteMap ObjectKey (List EndpointAddress) := ∅
  lbs_keyed : ∀ key lb, lbs.lookup key = some lb → lb.objectKey = key := by simp
  routes_keyed : ∀ key route, routes.lookup key = some route → route.objectKey = key := by simp

/-- An object, or with `none` its absence, reaches the cache. -/
inductive WatchedChange
  | ofNamespace (name : String) (labels : Option (FiniteMap String String))
  | ofLoadBalancer (key : ObjectKey) (new : Option LoadBalancer)
  | ofRoute (key : ObjectKey) (new : Option Route)
  | ofAddresses (key : ObjectKey) (new : Option (List EndpointAddress))
  /-- An event of the Config or of a Tenant. -/
  | ofSettings (requests : Finset ObjectKey)

namespace WatchedObjects
variable (w : WatchedObjects)

def change : WatchedChange → Option WatchedObjects
  | .ofNamespace name labels => some { w with namespaces := w.namespaces.assign name labels }
  | .ofLoadBalancer key new =>
      if named : ∀ lb ∈ new, lb.objectKey = key then
        some { w with
          lbs := w.lbs.assign key new
          lbs_keyed := keyed_assign w.lbs_keyed named }
      else none
  | .ofRoute key new =>
      if named : ∀ route ∈ new, route.objectKey = key then
        some { w with
          routes := w.routes.assign key new
          routes_keyed := keyed_assign w.routes_keyed named }
      else none
  | .ofAddresses key new => some { w with addresses := w.addresses.assign key new }
  | .ofSettings _ => some w

/-- ByLabelExistsOnNamespace. -/
def byLabelExistsOnNamespace (ns : String) : Bool :=
  (w.namespaces.lookup ns).bind (·.lookup labelManagedBy) = some labelControllerName

end WatchedObjects

/-- predicate.GenerationChangedPredicate, which looks at updates only. -/
def generationChanged : Option Route → Option Route → Bool
  | none, none => false
  | some old, some new =>
      old.spec ≠ new.spec ∨ old.deletionTimestamp ≠ new.deletionTimestamp
  | _, _ => true

def enqueueLoadBalancers (key : ObjectKey) : ObjectKey := ⟨key.ns, requeueAllResources⟩

namespace WatchedObjects
variable (w : WatchedObjects)

def requests : WatchedChange → Finset ObjectKey
  | .ofNamespace _ _ => ∅
  | .ofLoadBalancer key new =>
      if w.byLabelExistsOnNamespace key.ns ∧ (w.lbs.lookup key ≠ none ∨ new ≠ none) then {key}
      else ∅
  | .ofRoute key new =>
      if w.byLabelExistsOnNamespace key.ns ∧ generationChanged (w.routes.lookup key) new then
        {enqueueLoadBalancers key}
      else ∅
  | .ofAddresses key new =>
      if w.byLabelExistsOnNamespace key.ns ∧ w.addresses.lookup key ≠ new then
        {enqueueLoadBalancers key}
      else ∅
  | .ofSettings requests => requests

/-- When a manager starts, every object is announced as new. -/
def announced : Finset ObjectKey :=
  let labelled := fun key : ObjectKey => w.byLabelExistsOnNamespace key.ns = true
  w.lbs.keys.filter labelled ∪
    (w.routes.keys.filter labelled ∪ w.addresses.keys.filter labelled).image enqueueLoadBalancers

end WatchedObjects

def getAddresses (lookup : ObjectKey → Option (List EndpointAddress)) (key : ObjectKey) :
    Except String (List EndpointAddress) :=
  match lookup key with
  | some addresses => .ok addresses
  | none => .error (key.name ++ " not found")

/-- What a reconcile of the control plane meets with: at which of the states it reads
what, in which order objects are listed, and what fails. -/
structure SnapshotInput where
  lbsAt : Nat := 0
  lbOrder : List ObjectKey
  routesAt : Nat := 0
  routeOrder : List ObjectKey
  addressesAt : ObjectKey → Nat := fun _ => 0
  allocator : PortAllocator
  getConfigFails : Bool := false
  listFails : Bool := false
  cleanupEnvoyProxyFails : Bool := false
  ensureEnvoyProxyFails : Bool := false

/-- EnvoyCPReconciler.Reconcile, by the snapshot it leaves. -/
def reconcileSnapshot (topology : EnvoyProxyTopology) (seen : List WatchedObjects)
    (request : ObjectKey) (input : SnapshotInput) (served : Option Snapshot) :
    Option (Option Snapshot × Bool) :=
  if input.getConfigFails ∨ input.listFails then some (served, false)
  else
    match seen[input.lbsAt]?, seen[input.routesAt]? with
    | some atLbs, some atRoutes =>
        if Enumerates input.lbOrder atLbs.lbs ∧ Enumerates input.routeOrder atRoutes.routes then
          let listed := listLoadBalancersAndRoutes topology request.ns
            (input.lbOrder.filterMap atLbs.lbs.lookup)
            (input.routeOrder.filterMap atRoutes.routes.lookup)
          let get := getAddresses fun key =>
            (seen.getD (input.addressesAt key) atRoutes).addresses.lookup key
          if listed.1 = [] ∧ listed.2 = [] then some (none, !input.cleanupEnvoyProxyFails)
          else if input.ensureEnvoyProxyFails then some (served, false)
          else
            match mapSnapshot get listed.1 listed.2 input.allocator with
            | .error _ => some (served, false)
            | .ok snapshot => some (updateCache served (.ok snapshot), true)
        else none
    | _, _ => none

def snapshotController (topology : EnvoyProxyTopology) :
    Controller WatchedObjects WatchedChange ObjectKey String SnapshotInput (Option Snapshot) where
  change := WatchedObjects.change
  requests := WatchedObjects.requests
  announced := WatchedObjects.announced
  topic request := envoySnapshotName topology request.ns
  blank := none
  reconcile := reconcileSnapshot topology

/-! ## What a snapshot is made of -/

/-- The part of a Route that MapSnapshot reads. -/
def Route.mapped (route : Route) : Route where
  name := route.name
  ns := route.ns
  labels := route.labels
  spec := route.spec

inductive ServedFor (get : ObjectKey → Except String (List EndpointAddress))
    (lbs : List LoadBalancer) (routes : List Route) : Option Snapshot → Prop
  | cleared (nothing : lbs = [] ∧ routes = []) : ServedFor get lbs routes none
  | built {pa : PortAllocator} {snapshot : Snapshot} (needed : ¬ (lbs = [] ∧ routes = []))
      (mapped : mapSnapshot get lbs routes pa = .ok snapshot) :
      ServedFor get lbs routes (some snapshot)

section
variable {get get' : ObjectKey → Except String (List EndpointAddress)}
  {lbs : List LoadBalancer} {routes routes' : List Route}

theorem resolveRoute_mapped (route : Route) :
    resolveRoute get route.mapped = Route.mapped <$> resolveRoute get route := by
  unfold resolveRoute
  by_cases skipped : route.spec.kubernetes = none
  · rw [if_pos skipped, if_pos (show route.mapped.spec.kubernetes = none from skipped), map_pure]
  · rw [if_neg skipped, if_neg (show route.mapped.spec.kubernetes ≠ none from skipped), map_bind]
    simp only [map_pure, Route.mapped]

theorem mapSnapshot_mapped (pa : PortAllocator) :
    mapSnapshot get lbs (routes.map Route.mapped) pa = mapSnapshot get lbs routes pa := by
  unfold mapSnapshot
  refine congrArg _ (funext fun fromLBs => ?_)
  rw [mapM_map_comm resolveRoute_mapped]
  change ((routes.mapM (resolveRoute get) fromLBs.2 >>= fun fromRoutes =>
    pure (fromRoutes.1.map Route.mapped, fromRoutes.2)) >>= _) = _
  rw [bind_assoc]
  refine congrArg _ (funext fun fromRoutes => ?_)
  simp only [pure_bind, List.flatMap_map]
  rfl

theorem Referenced.of_mapped {key : ObjectKey}
    (referenced : Referenced lbs (routes.map Route.mapped) key) : Referenced lbs routes key := by
  cases referenced with
  | loadBalancer listed member refers => exact .loadBalancer listed member refers
  | route listed source member refers =>
      obtain ⟨route, member', rfl⟩ := List.mem_map.mp listed
      change Referenced lbs routes ⟨route.ns, _⟩
      exact .route member' source member refers

theorem ServedFor.congr {served : Option Snapshot}
    (sameRoutes : routes.map Route.mapped = routes'.map Route.mapped)
    (sameAddresses : ∀ key, Referenced lbs routes key → get key = get' key)
    (given : ServedFor get lbs routes served) : ServedFor get' lbs routes' served := by
  have empty : routes = [] ↔ routes' = [] := by
    rw [← List.map_eq_nil_iff (f := Route.mapped), sameRoutes, List.map_eq_nil_iff]
  cases given with
  | cleared nothing => exact .cleared ⟨nothing.1, empty.mp nothing.2⟩
  | built needed mapped =>
      rw [mapSnapshot_eq, resolveObjects_congr sameAddresses, ← mapSnapshot_eq,
        ← mapSnapshot_mapped, sameRoutes, mapSnapshot_mapped] at mapped
      exact .built (fun nothing => needed ⟨nothing.1, empty.mpr nothing.2⟩) mapped

end

/-! ## Nothing is left behind -/

@[ext]
structure SnapshotView where
  lbs : ObjectKey → Option LoadBalancer
  routes : ObjectKey → Option Route
  addresses : ObjectKey → Option (List EndpointAddress)

section
variable (topology : EnvoyProxyTopology)

def isListed (requestNs : String) (object : ObjectMeta) : Bool :=
  inScope topology requestNs object.ns && !object.deletionTimestamp

def snapshotView (w : WatchedObjects) (requestNs : String) : SnapshotView where
  lbs key := (w.lbs.lookup key).filter fun lb => isListed topology requestNs lb.toObjectMeta
  routes key := ((w.routes.lookup key).filter fun route =>
    isListed topology requestNs route.toObjectMeta).map Route.mapped
  addresses key := if inScope topology requestNs key.ns then w.addresses.lookup key else none

structure SnapshotView.Lists (v : SnapshotView) (lbOrder routeOrder : List ObjectKey) : Prop where
  lbs_nodup : lbOrder.Nodup
  routes_nodup : routeOrder.Nodup
  lbs : ∀ key, v.lbs key ≠ none → key ∈ lbOrder
  routes : ∀ key, v.routes key ≠ none → key ∈ routeOrder

theorem inScope_envoySnapshotName (requestNs ns : String) :
    inScope topology (envoySnapshotName topology requestNs) ns = inScope topology requestNs ns := by
  cases topology <;> rfl

/-- An object that is listed for a namespace is served by the snapshot of the name. -/
theorem envoySnapshotName_of_inScope {topology : EnvoyProxyTopology} {requestNs ns : String}
    (scope : inScope topology requestNs ns = true) :
    envoySnapshotName topology ns = envoySnapshotName topology requestNs := by
  cases topology with
  | shared =>
      have same : ns = requestNs := by simpa [inScope] using scope
      rw [same]
  | global => rfl
  | dedicated => rfl

variable {topology}
variable {w : WatchedObjects} {requestNs : String}

theorem snapshotView_envoySnapshotName :
    snapshotView topology w (envoySnapshotName topology requestNs) =
      snapshotView topology w requestNs := by
  simp only [snapshotView, isListed, inScope_envoySnapshotName]

theorem listed_lbs (lbOrder : List ObjectKey) (routes : List Route) :
    (listLoadBalancersAndRoutes topology requestNs (lbOrder.filterMap w.lbs.lookup) routes).1 =
      lbOrder.filterMap (snapshotView topology w requestNs).lbs := by
  simp only [listLoadBalancersAndRoutes, List.filter_filterMap]
  rfl

theorem listed_routes (routeOrder : List ObjectKey) (lbs : List LoadBalancer) :
    (listLoadBalancersAndRoutes topology requestNs lbs
        (routeOrder.filterMap w.routes.lookup)).2.map Route.mapped =
      routeOrder.filterMap (snapshotView topology w requestNs).routes := by
  simp only [listLoadBalancersAndRoutes, List.filter_filterMap, List.map_filterMap]
  rfl

/-- What a listed object refers to is in the scope of the snapshot. -/
theorem inScope_of_referenced {lbs : List LoadBalancer} {routes : List Route} {key : ObjectKey}
    (referenced : Referenced (listLoadBalancersAndRoutes topology requestNs lbs routes).1
      (listLoadBalancersAndRoutes topology requestNs lbs routes).2 key) :
    inScope topology requestNs key.ns = true := by
  cases referenced with
  | loadBalancer listed member refers =>
      have passed := (List.mem_filter.mp listed).2
      exact (Bool.and_eq_true_iff.mp passed).1
  | route listed source member refers =>
      have passed := (List.mem_filter.mp listed).2
      exact (Bool.and_eq_true_iff.mp passed).1

end

/-- What is served is what MapSnapshot makes of the objects in the caches, listed in some
order; without any object, nothing is served. -/
def SnapshotUpToDate (topology : EnvoyProxyTopology) (w : WatchedObjects) (requestNs : String)
    (served : Option Snapshot) : Prop :=
  ∃ lbOrder routeOrder, (snapshotView topology w requestNs).Lists lbOrder routeOrder ∧
    let listed := listLoadBalancersAndRoutes topology requestNs
      (lbOrder.filterMap w.lbs.lookup) (routeOrder.filterMap w.routes.lookup)
    ServedFor (getAddresses w.addresses.lookup) listed.1 listed.2 served

def SnapshotView.Fits (v : SnapshotView) (served : Option Snapshot) : Prop :=
  ∃ lbOrder routeOrder, v.Lists lbOrder routeOrder ∧
    ServedFor (getAddresses v.addresses) (lbOrder.filterMap v.lbs)
      (routeOrder.filterMap v.routes) served

section
variable {topology : EnvoyProxyTopology} {w : WatchedObjects} {requestNs : String}
  {served : Option Snapshot}

theorem Route.mapped_mapped (route : Route) : route.mapped.mapped = route.mapped := rfl

theorem map_mapped_mapped (routes : List Route) :
    (routes.map Route.mapped).map Route.mapped = routes.map Route.mapped := by
  simp [Function.comp_def, Route.mapped_mapped]

theorem getAddresses_view {key : ObjectKey} (scope : inScope topology requestNs key.ns = true) :
    getAddresses (snapshotView topology w requestNs).addresses key =
      getAddresses w.addresses.lookup key := by
  simp only [getAddresses, snapshotView, scope, if_true]

/-- LoadBalancers, Routes and addresses may have been read at different times, so long
as what matters was the same. -/
theorem SnapshotView.Fits.of_reads {v : SnapshotView} {atLbs atRoutes : WatchedObjects}
    {get : ObjectKey → Except String (List EndpointAddress)} {lbOrder routeOrder : List ObjectKey}
    (lbs : snapshotView topology atLbs requestNs = v)
    (routes : snapshotView topology atRoutes requestNs = v)
    (addresses : ∀ key, inScope topology requestNs key.ns = true →
      get key = getAddresses v.addresses key)
    (lists : v.Lists lbOrder routeOrder)
    (given : ServedFor get
      (listLoadBalancersAndRoutes topology requestNs (lbOrder.filterMap atLbs.lbs.lookup)
        (routeOrder.filterMap atRoutes.routes.lookup)).1
      (listLoadBalancersAndRoutes topology requestNs (lbOrder.filterMap atLbs.lbs.lookup)
        (routeOrder.filterMap atRoutes.routes.lookup)).2 served) : v.Fits served := by
  refine ⟨lbOrder, routeOrder, lists, ?_⟩
  have moved := given.congr (map_mapped_mapped _).symm
    fun key referenced => addresses key (inScope_of_referenced referenced)
  rwa [listed_lbs, listed_routes, lbs, routes] at moved

theorem SnapshotView.Fits.upToDate (fits : (snapshotView topology w requestNs).Fits served) :
    SnapshotUpToDate topology w requestNs served := by
  obtain ⟨lbOrder, routeOrder, lists, given⟩ := fits
  refine ⟨lbOrder, routeOrder, lists, ?_⟩
  rw [← listed_lbs lbOrder (routeOrder.filterMap w.routes.lookup),
    ← listed_routes routeOrder (lbOrder.filterMap w.lbs.lookup)] at given
  exact given.congr (map_mapped_mapped _) fun key referenced =>
    getAddresses_view (inScope_of_referenced referenced.of_mapped)

/-- An object of the view is in the cache and in the scope of the snapshot. -/
theorem of_view_lbs {key : ObjectKey}
    (listed : (snapshotView topology w requestNs).lbs key ≠ none) :
    key ∈ w.lbs ∧ inScope topology requestNs key.ns = true := by
  obtain ⟨lb, kept⟩ := Option.ne_none_iff_exists'.mp listed
  obtain ⟨found, passed⟩ := Option.filter_eq_some_iff.mp kept
  refine ⟨Finmap.lookup_isSome.mp (Option.isSome_of_eq_some found), ?_⟩
  rw [← w.lbs_keyed key lb found]
  exact (Bool.and_eq_true_iff.mp passed).1

theorem of_view_routes {key : ObjectKey}
    (listed : (snapshotView topology w requestNs).routes key ≠ none) :
    key ∈ w.routes ∧ inScope topology requestNs key.ns = true := by
  obtain ⟨_, kept⟩ := Option.ne_none_iff_exists'.mp listed
  obtain ⟨route, kept, _⟩ := Option.map_eq_some_iff.mp kept
  obtain ⟨found, passed⟩ := Option.filter_eq_some_iff.mp kept
  refine ⟨Finmap.lookup_isSome.mp (Option.isSome_of_eq_some found), ?_⟩
  rw [← w.routes_keyed key route found]
  exact (Bool.and_eq_true_iff.mp passed).1

theorem getD_mem {α : Type} {as : List α} (i : Nat) {a : α} (member : a ∈ as) :
    as.getD i a ∈ as := by
  rw [List.getD_eq_getElem?_getD]
  cases found : as[i]? with
  | none => exact member
  | some b => exact List.mem_of_getElem? found

theorem fits_of_reconcile {seen : List WatchedObjects} {request : ObjectKey}
    {input : SnapshotInput} {before after : Option Snapshot} {v : SnapshotView}
    (once : ∀ w ∈ seen, snapshotView topology w request.ns = v)
    (returned : reconcileSnapshot topology seen request input before = some (after, true)) :
    v.Fits after := by
  unfold reconcileSnapshot at returned
  split at returned
  · cases returned
  split at returned
  · rename_i atLbs atRoutes lbsAt routesAt
    split at returned
    · rename_i orders
      have ofLbs := once atLbs (List.mem_of_getElem? lbsAt)
      have ofRoutes := once atRoutes (List.mem_of_getElem? routesAt)
      have lists : v.Lists input.lbOrder input.routeOrder := by
        refine ⟨orders.1.1, orders.2.1, ?_, ?_⟩
        · rw [← ofLbs]
          exact fun key listed => (orders.1.2 key).mpr (of_view_lbs listed).1
        · rw [← ofRoutes]
          exact fun key listed => (orders.2.2 key).mpr (of_view_routes listed).1
      have gets : ∀ key, inScope topology request.ns key.ns = true →
          getAddresses (fun key =>
            (seen.getD (input.addressesAt key) atRoutes).addresses.lookup key) key =
          getAddresses v.addresses key := by
        intro key scope
        rw [← once _ (getD_mem _ (List.mem_of_getElem? routesAt)), getAddresses_view scope]
        rfl
      refine .of_reads ofLbs ofRoutes gets lists ?_
      dsimp only at returned
      split at returned
      · rename_i nothing
        simp only [Option.some.injEq, Prod.mk.injEq] at returned
        obtain ⟨rfl, _⟩ := returned
        exact .cleared nothing
      · rename_i needed
        split at returned
        · cases returned
        split at returned
        · cases returned
        · rename_i snapshot mapped
          rw [updateCache_ok] at returned
          cases returned
          exact .built needed mapped
    · cases returned
  · cases returned

end

def snapshotPurpose (topology : EnvoyProxyTopology) :
    Purpose (snapshotController topology) SnapshotView where
  view := snapshotView topology
  Fits := SnapshotView.Fits
  fits := by
    intro seen request input before after v once returned
    refine fits_of_reconcile (fun w member => ?_) returned
    rw [← once w member]
    exact snapshotView_envoySnapshotName.symm

section
variable (topology : EnvoyProxyTopology) (requestNs : String)

/-- When the manager starts, the namespaces of all objects in the scope of the snapshot
have the label. -/
def AnnouncedFor (w : WatchedObjects) : Prop :=
  ∀ key, key ∈ w.lbs ∨ key ∈ w.routes → inScope topology requestNs key.ns = true →
    w.byLabelExistsOnNamespace key.ns = true

/-- Where an object in the scope of the snapshot changes, its namespace has the label at
that time, and a Route has new labels only together with a new spec. -/
def HeardFor (w : WatchedObjects) : WatchedChange → Prop
  | .ofLoadBalancer key _ | .ofAddresses key _ =>
      inScope topology requestNs key.ns = true → w.byLabelExistsOnNamespace key.ns = true
  | .ofRoute key new => inScope topology requestNs key.ns = true →
      w.byLabelExistsOnNamespace key.ns = true ∧
        ∀ old ∈ w.routes.lookup key, ∀ route ∈ new, route.spec = old.spec →
          route.labels = old.labels
  | _ => True

def HeardForStep (s : State WatchedObjects ObjectKey String (Option Snapshot)) :
    Action WatchedChange ObjectKey SnapshotInput → Prop
  | .change a => HeardFor topology requestNs s.world a
  | .restart => AnnouncedFor topology requestNs s.world
  | _ => True

end

section
variable {topology : EnvoyProxyTopology} {w w' : WatchedObjects} {requestNs : String}

theorem announced_or_blank (announced : AnnouncedFor topology requestNs w) :
    (∃ request ∈ w.announced,
        envoySnapshotName topology request.ns = envoySnapshotName topology requestNs) ∨
      (snapshotView topology w requestNs).Fits none := by
  by_cases lbs : ∃ key, (snapshotView topology w requestNs).lbs key ≠ none
  · obtain ⟨key, listed⟩ := lbs
    obtain ⟨member, scope⟩ := of_view_lbs listed
    have labelled := announced key (Or.inl member) scope
    refine Or.inl ⟨key, ?_, envoySnapshotName_of_inScope scope⟩
    simp [WatchedObjects.announced, Finmap.mem_keys, member, labelled]
  by_cases routes : ∃ key, (snapshotView topology w requestNs).routes key ≠ none
  · obtain ⟨key, listed⟩ := routes
    obtain ⟨member, scope⟩ := of_view_routes listed
    have labelled := announced key (Or.inr member) scope
    refine Or.inl ⟨enqueueLoadBalancers key, ?_, envoySnapshotName_of_inScope scope⟩
    refine Finset.mem_union_right _ (Finset.mem_image_of_mem _ (Finset.mem_union_left _ ?_))
    exact Finset.mem_filter.mpr ⟨Finmap.mem_keys.mpr member, labelled⟩
  · refine Or.inr ⟨[], [], ⟨.nil, .nil, ?_, ?_⟩, .cleared ⟨rfl, rfl⟩⟩
    · exact fun key listed => absurd ⟨key, listed⟩ lbs
    · exact fun key listed => absurd ⟨key, listed⟩ routes

/-- An object outside the scope of the snapshot is not in its view. -/
theorem filter_isListed_eq_none {β : Type} {metaOf : β → ObjectMeta} {object : Option β}
    {key : ObjectKey} (keyed : ∀ b ∈ object, (metaOf b).objectKey = key)
    (outside : ¬ inScope topology requestNs key.ns = true) :
    object.filter (fun b => isListed topology requestNs (metaOf b)) = none := by
  refine Option.filter_eq_none_iff.mpr fun b found => ?_
  rw [← keyed b found] at outside
  simp only [isListed, Bool.and_eq_true]
  exact fun listed => outside listed.1

theorem mapped_of_generation {old new : Option Route} {key : ObjectKey}
    (oldKeyed : ∀ route ∈ old, route.objectKey = key)
    (newKeyed : ∀ route ∈ new, route.objectKey = key)
    (unchanged : generationChanged old new = false)
    (labels : ∀ route ∈ old, ∀ route' ∈ new, route'.spec = route.spec →
      route'.labels = route.labels) :
    (new.filter fun route => isListed topology requestNs route.toObjectMeta).map Route.mapped =
      (old.filter fun route => isListed topology requestNs route.toObjectMeta).map
        Route.mapped := by
  cases old with
  | none =>
      cases new with
      | none => rfl
      | some new => cases unchanged
  | some old =>
      cases new with
      | none => cases unchanged
      | some new =>
          simp only [generationChanged, decide_eq_false_iff_not, not_or, not_not] at unchanged
          have sameKey := (oldKeyed old rfl).trans (newKeyed new rfl).symm
          simp only [ObjectMeta.objectKey, ObjectKey.mk.injEq] at sameKey
          have sameLabels := labels old rfl new rfl unchanged.1.symm
          have sameMapped : new.mapped = old.mapped := by
            simp only [Route.mapped, sameKey.1, sameKey.2, sameLabels, unchanged.1]
          have sameListed : isListed topology requestNs new.toObjectMeta =
              isListed topology requestNs old.toObjectMeta := by
            simp only [isListed, sameKey.1, unchanged.2]
          simp only [Option.filter, sameListed]
          split
          · simp only [Option.map_some, sameMapped]
          · rfl

section
variable {key : ObjectKey}

theorem view_ofLoadBalancer {new : Option LoadBalancer}
    (changed : w.change (.ofLoadBalancer key new) = some w')
    (same : new.filter (fun lb => isListed topology requestNs lb.toObjectMeta) =
      (w.lbs.lookup key).filter fun lb => isListed topology requestNs lb.toObjectMeta) :
    snapshotView topology w' requestNs = snapshotView topology w requestNs := by
  simp only [WatchedObjects.change] at changed
  split at changed
  · cases changed
    ext1
    · funext key'
      exact read_assign (f := Option.filter fun lb : LoadBalancer =>
        isListed topology requestNs lb.toObjectMeta) same key'
    · rfl
    · rfl
  · cases changed

theorem view_ofRoute {new : Option Route} (changed : w.change (.ofRoute key new) = some w')
    (same : (new.filter fun route => isListed topology requestNs route.toObjectMeta).map
        Route.mapped =
      ((w.routes.lookup key).filter fun route =>
        isListed topology requestNs route.toObjectMeta).map Route.mapped) :
    snapshotView topology w' requestNs = snapshotView topology w requestNs := by
  simp only [WatchedObjects.change] at changed
  split at changed
  · cases changed
    ext1
    · rfl
    · funext key'
      exact read_assign (f := fun object : Option Route => (object.filter fun route =>
        isListed topology requestNs route.toObjectMeta).map Route.mapped) same key'
    · rfl
  · cases changed

theorem view_ofAddresses {new : Option (List EndpointAddress)}
    (changed : w.change (.ofAddresses key new) = some w')
    (same : inScope topology requestNs key.ns = true → new = w.addresses.lookup key) :
    snapshotView topology w' requestNs = snapshotView topology w requestNs := by
  cases changed
  ext1
  · rfl
  · rfl
  · funext key'
    simp only [snapshotView, lookup_assign]
    split
    · rename_i scope
      split
      · rename_i own
        subst own
        exact same scope
      · rfl
    · rfl

theorem named_of_ofLoadBalancer {new : Option LoadBalancer}
    (changed : w.change (.ofLoadBalancer key new) = some w') :
    ∀ lb ∈ new, lb.objectKey = key := by
  simp only [WatchedObjects.change] at changed
  split at changed
  · assumption
  · cases changed

theorem named_of_ofRoute {new : Option Route}
    (changed : w.change (.ofRoute key new) = some w') : ∀ route ∈ new, route.objectKey = key := by
  simp only [WatchedObjects.change] at changed
  split at changed
  · assumption
  · cases changed

end

theorem requests_of_view_ne {a : WatchedChange} (changed : w.change a = some w')
    (heard : HeardFor topology requestNs w a)
    (differs : snapshotView topology w' requestNs ≠ snapshotView topology w requestNs) :
    ∃ request ∈ w.requests a,
      envoySnapshotName topology request.ns = envoySnapshotName topology requestNs := by
  cases a with
  | ofNamespace name labels =>
      cases changed
      exact absurd rfl differs
  | ofSettings requests =>
      cases changed
      exact absurd rfl differs
  | ofLoadBalancer key new =>
      by_cases scope : inScope topology requestNs key.ns = true
      · by_cases event : w.lbs.lookup key ≠ none ∨ new ≠ none
        · refine ⟨key, ?_, envoySnapshotName_of_inScope scope⟩
          rw [WatchedObjects.requests, if_pos ⟨heard scope, event⟩]
          exact Finset.mem_singleton_self key
        · simp only [not_or, not_not] at event
          exact absurd (view_ofLoadBalancer changed (by rw [event.1, event.2])) differs
      · refine absurd (view_ofLoadBalancer changed ?_) differs
        rw [filter_isListed_eq_none (named_of_ofLoadBalancer changed) scope,
          filter_isListed_eq_none (w.lbs_keyed key) scope]
  | ofRoute key new =>
      have named := named_of_ofRoute changed
      by_cases scope : inScope topology requestNs key.ns = true
      · obtain ⟨labelled, labels⟩ := heard scope
        by_cases event : generationChanged (w.routes.lookup key) new = true
        · refine ⟨enqueueLoadBalancers key, ?_, envoySnapshotName_of_inScope scope⟩
          rw [WatchedObjects.requests, if_pos ⟨labelled, event⟩]
          exact Finset.mem_singleton_self _
        · refine absurd (view_ofRoute changed ?_) differs
          exact mapped_of_generation (w.routes_keyed key) named (Bool.eq_false_iff.mpr event) labels
      · refine absurd (view_ofRoute changed ?_) differs
        rw [filter_isListed_eq_none named scope,
          filter_isListed_eq_none (w.routes_keyed key) scope]
  | ofAddresses key new =>
      by_cases event : inScope topology requestNs key.ns = true ∧ w.addresses.lookup key ≠ new
      · obtain ⟨scope, differs⟩ := event
        refine ⟨enqueueLoadBalancers key, ?_, envoySnapshotName_of_inScope scope⟩
        rw [WatchedObjects.requests, if_pos ⟨heard scope, differs⟩]
        exact Finset.mem_singleton_self _
      · refine absurd (view_ofAddresses changed fun scope => ?_) differs
        by_contra different
        exact event ⟨scope, Ne.symm different⟩

end

/-- In every state of every run in which changes are heard of: once no request for the
snapshot is queued or worked on, Envoy is served what the objects in the caches make. -/
theorem snapshot_settles (topology : EnvoyProxyTopology) (requestNs : String)
    (w : WatchedObjects) (actions : List (Action WatchedChange ObjectKey SnapshotInput))
    (announced : AnnouncedFor topology requestNs w)
    (heard : EachStep (snapshotController topology).step ((snapshotController topology).begin w)
      actions fun s a _ => HeardForStep topology requestNs s a) :
    Throughout (snapshotController topology).step ((snapshotController topology).begin w)
      actions fun s =>
        (∀ request ∈ s.queue,
          envoySnapshotName topology request.ns ≠ envoySnapshotName topology requestNs) →
        (∀ request seen, s.working = some (request, seen) →
          envoySnapshotName topology request.ns ≠ envoySnapshotName topology requestNs) →
        SnapshotUpToDate topology s.world requestNs
          (s.output (envoySnapshotName topology requestNs)) := by
  have start := announced_or_blank announced
  rw [← snapshotView_envoySnapshotName] at start
  have all : EachStep (snapshotController topology).step
      ((snapshotController topology).begin w) actions
      ((snapshotPurpose topology).Heard (envoySnapshotName topology requestNs)) := by
    intro before a s s' small reached taken
    have heard := heard before a s s' small reached taken
    cases a with
    | change a =>
        intro differs
        obtain ⟨world, changed, taken⟩ := Option.bind_eq_some_iff.mp taken
        cases taken
        simp only [snapshotPurpose, snapshotView_envoySnapshotName] at differs
        exact requests_of_view_ne changed heard differs
    | take request => trivial
    | finish input => trivial
    | restart =>
        have blank := announced_or_blank heard
        rwa [← snapshotView_envoySnapshotName] at blank
  have settled := (snapshotPurpose topology).settled_throughout start all
  intro before s small reached idle stopped
  refine SnapshotView.Fits.upToDate ?_
  rw [← snapshotView_envoySnapshotName]
  refine settled before s small reached ?_ ?_
  · rintro ⟨request, member, about⟩
    exact idle request member about
  · rintro ⟨request, seen, working, about⟩
    exact stopped request seen working about

def watchedTenant : WatchedObjects where
  namespaces := (∅ : FiniteMap String (FiniteMap String String)).insert "tenant-a"
    ((∅ : FiniteMap String String).insert labelManagedBy labelControllerName)

def watchedLoadBalancer : LoadBalancer where
  name := "web"
  ns := "tenant-a"
  spec.endpoints := [{ addresses := [{ ip := "10.0.0.1" }], ports := [{ port := 30080 }] }]

def servedActions : List (Action WatchedChange ObjectKey SnapshotInput) :=
  [.change (.ofLoadBalancer ⟨"tenant-a", "web"⟩ (some watchedLoadBalancer)),
    .take ⟨"tenant-a", "web"⟩,
    .finish {
      lbOrder := [⟨"tenant-a", "web"⟩]
      routeOrder := []
      allocator := newPortAllocator }]

theorem snapshot_settles_created :
    ∃ s, run (snapshotController .shared).step ((snapshotController .shared).begin watchedTenant)
        servedActions = some s ∧ (s.output "tenant-a").isSome ∧
      SnapshotUpToDate .shared s.world "tenant-a" (s.output "tenant-a") := by
  refine ⟨_, rfl, by decide, ?_⟩
  refine snapshot_settles .shared "tenant-a" watchedTenant servedActions ?_ ?_ servedActions _
    (List.prefix_refl _) rfl ?_ ?_
  · rintro key (member | member)
    · exact absurd member Finmap.notMem_empty
    · exact absurd member Finmap.notMem_empty
  · refine eachStep_taken rfl (fun _ => by decide) ?_
    refine eachStep_taken rfl trivial ?_
    exact eachStep_taken rfl trivial (eachStep_nil _)
  · intro request member
    exact absurd member (by decide +revert)
  · intro request seen working
    cases working

end KubeLB
