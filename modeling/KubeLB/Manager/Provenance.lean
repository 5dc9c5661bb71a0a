import KubeLB.Envoy.Resolution
import KubeLB.Envoy.ResourceNames
import KubeLB.Manager.Ports

/-!
Where the clusters of a snapshot come from.

The manager writes finalizers and status, never the spec of a LoadBalancer. What
it lists, and what it builds a snapshot from, has therefore been applied before,
and every cluster that a snapshot serves under the name of a LoadBalancer's has
the addresses of some LoadBalancer with that name.
-/

namespace KubeLB
open FiniteMap

def AppliedBefore (history : List ManagerAction) (lb : LoadBalancer) : Prop :=
  ∃ version, ManagerAction.user (.applyLoadBalancer version) ∈ history ∧
    version.objectKey = lb.objectKey ∧ version.spec = lb.spec

def LoadBalancerTask.loadBalancer : LoadBalancerTask → Option LoadBalancer
  | .idle => none
  | .got lb | .listed lb _ | .allocating lb _ _ _ | .written lb | .cleaning lb | .deallocated lb
  | .serviceDeleted lb => some lb

/-- The LoadBalancers of a snapshot have been applied, and belong to its Envoy. -/
def ListedFor (o : ManagerOptions) (history : List ManagerAction) (name : String)
    (lbs : List LoadBalancer) : Prop :=
  ∀ lb ∈ lbs, AppliedBefore history lb ∧ envoySnapshotName o.topology lb.ns = name

structure BuiltFrom (o : ManagerOptions) (history : List ManagerAction) (name : String)
    (snapshot : Snapshot) (get : ObjectKey → Except String (List EndpointAddress))
    (lbs : List LoadBalancer) (routes : List Route) (pa : PortAllocator) : Prop where
  listed : ListedFor o history name lbs
  read : ManagerAction.process (.cpBuild get) ∈ history
  agree : AddressesAgree get lbs routes
  apart : ∀ route ∈ routes, NamesApart route
  built : mapSnapshot get lbs routes pa = .ok snapshot

def StoredApplied (history : List ManagerAction) (api : Api) : Prop :=
  ∀ key lb, api.lbs.lookup key = some lb → lb.objectKey = key ∧ AppliedBefore history lb

structure Sourced (o : ManagerOptions) (history : List ManagerAction) (api : Api) (p : Process) :
    Prop where
  stored : StoredApplied history api
  task : ∀ lb, p.lbTask.loadBalancer = some lb → AppliedBefore history lb
  listed : ∀ name lbs routes requests, p.cpTask = .allocating name lbs routes requests →
    ListedFor o history name lbs
  snapshots : ∀ name snapshot,
    (p.cpTask = .built name snapshot ∨ p.published.lookup name = some snapshot) →
      ∃ get lbs routes pa, BuiltFrom o history name snapshot get lbs routes pa

/-- The condition on a build that references which the address map cannot tell apart
have the same addresses. -/
def ReferencesAgree (p : Process) : ProcessAction → Prop
  | .cpBuild get => ∀ name lbs routes, p.cpTask = .allocating name lbs routes [] →
      AddressesAgree get lbs routes
  | _ => True

section Steps
variable {o : ManagerOptions} {history : List ManagerAction} {api api' : Api} {p p' : Process}
  {action : ProcessAction}

theorem AppliedBefore.congr {lb lb' : LoadBalancer} (applied : AppliedBefore history lb)
    (key : lb'.objectKey = lb.objectKey) (spec : lb'.spec = lb.spec) :
    AppliedBefore history lb' := by
  obtain ⟨version, inHistory, sameKey, sameSpec⟩ := applied
  exact ⟨version, inHistory, sameKey.trans key.symm, sameSpec.trans spec.symm⟩

theorem StoredApplied.insert (stored : StoredApplied history api) (lb : LoadBalancer)
    (applied : AppliedBefore history lb) :
    StoredApplied history { api with lbs := api.lbs.insert lb.objectKey lb } := by
  intro key lb' found
  obtain ⟨rfl, rfl⟩ | ⟨_, found⟩ := lookup_of_lookup_insert found
  · exact ⟨rfl, applied⟩
  · exact stored key lb' found

theorem StoredApplied.erase (stored : StoredApplied history api) (key : ObjectKey) :
    StoredApplied history { api with lbs := api.lbs.erase key } :=
  fun key' lb found => stored key' lb (lookup_of_lookup_erase found)

theorem StoredApplied.update (stored : StoredApplied history api) {old : LoadBalancer}
    (applied : AppliedBefore history old) (new : LoadBalancer) (key : new.objectKey = old.objectKey)
    (spec : new.spec = old.spec) (fault : Option String) :
    StoredApplied history (updateLoadBalancer api old new fault) := by
  rw [updateLoadBalancer]
  split
  · split
    · exact stored.erase _
    · rw [← key]
      exact stored.insert new (applied.congr key spec)
  · exact stored

theorem StoredApplied.prepare (stored : StoredApplied history api) {lb : LoadBalancer}
    (applied : AppliedBefore history lb) (lbs : List LoadBalancer)
    (tenantAndConfig : Except String (LoadBalancerSettings × LoadBalancerSettings))
    (updateFault : Option String) :
    let prepared := prepareLoadBalancer api lb lbs tenantAndConfig updateFault
    StoredApplied history prepared.1 ∧
      ∀ lb', prepared.2.loadBalancer = some lb' → AppliedBefore history lb' := by
  have same : ∀ lb', some lb = some lb' → AppliedBefore history lb' := fun _ is =>
    Option.some.inj is ▸ applied
  have nothing : ∀ lb', (none : Option LoadBalancer) = some lb' → AppliedBefore history lb' :=
    fun _ is => nomatch is
  simp only [prepareLoadBalancer]
  split
  · split
    · exact ⟨stored, same⟩
    · exact ⟨stored, nothing⟩
  · split
    · exact ⟨stored, nothing⟩
    · split
      · split
        · exact ⟨stored, same⟩
        · exact ⟨stored, nothing⟩
      · split
        · exact ⟨stored, same⟩
        · split
          · refine ⟨stored.update applied (withFinalizer lb) rfl rfl updateFault, fun lb' is => ?_⟩
            cases is
            exact applied.congr rfl rfl
          · exact ⟨stored, nothing⟩

theorem StoredApplied.status (stored : StoredApplied history api) (lb : LoadBalancer)
    (checkDNSResolution checkTLSHealth : String → Bool) (hostname : String)
    (fault : Option String) : StoredApplied history
      (writeStatus o api lb checkDNSResolution checkTLSHealth hostname fault) := by
  simp only [writeStatus]
  split
  · split
    · rename_i status now _ found
      split
      · exact stored
      · obtain ⟨key, applied⟩ := stored _ now found
        rw [← key]
        exact stored.insert { now with status := status } (applied.congr rfl rfl)
    · exact stored
  · exact stored

theorem StoredApplied.user (stored : StoredApplied history api) {action : UserAction}
    (taken : ManagerAction.user action ∈ history) :
    StoredApplied history (userStep api action) := by
  cases action with
  | applyLoadBalancer lb =>
      simp only [userStep]
      split
      · exact stored.insert { lb with status := {}, deletionTimestamp := false }
          ⟨lb, taken, rfl, rfl⟩
      · rename_i old found
        obtain ⟨key, _⟩ := stored _ old found
        rw [← key]
        exact stored.insert
          { old with spec := lb.spec, labels := lb.labels, annotations := lb.annotations }
          ⟨lb, taken, key.symm, rfl⟩
  | deleteLoadBalancer key =>
      simp only [userStep]
      split
      · exact stored
      · rename_i lb found
        obtain ⟨rfl, applied⟩ := stored key lb found
        split
        · exact stored.erase _
        · exact stored.insert { lb with deletionTimestamp := true }
            (applied.congr rfl rfl)
  | setRoutes routes => exact stored

/-- What is listed for a request belongs to the Envoy of its namespace. -/
theorem listedFor_listLoadBalancersAndRoutes (stored : StoredApplied history api)
    {requestNs : String} {keys routeKeys : List ObjectKey} {lbs : List LoadBalancer}
    {routes : List Route}
    (isListed : listLoadBalancersAndRoutes o.topology requestNs (keys.filterMap api.lbs.lookup)
      (routeKeys.filterMap api.routes.lookup) = (lbs, routes)) :
    ListedFor o history (envoySnapshotName o.topology requestNs) lbs := by
  obtain ⟨rfl, _⟩ := Prod.mk.inj isListed
  intro lb member
  obtain ⟨inKeys, inside⟩ := List.mem_filter.mp member
  obtain ⟨key, _, found⟩ := List.mem_filterMap.mp inKeys
  refine ⟨(stored key lb found).2, ?_⟩
  have inside := (Bool.and_eq_true_iff.mp inside).1
  cases topology : o.topology with
  | shared =>
      rw [topology] at inside
      exact of_decide_eq_true inside
  | global => rfl
  | dedicated => rfl

theorem Sourced.initial (o : ManagerOptions) (history : List ManagerAction) :
    Sourced o history ManagerState.initial.api ManagerState.initial.process where
  stored _ _ found := by cases found
  task _ is := by cases is
  listed _ _ _ _ task := by cases task
  snapshots _ _ := by
    rintro (built | served)
    · cases built
    · cases served

theorem Sourced.of_task (sourced : Sourced o history api p) (stored : StoredApplied history api')
    (task : ∀ lb, p'.lbTask.loadBalancer = some lb → AppliedBefore history lb)
    (cpTask : p'.cpTask = p.cpTask) (published : p'.published = p.published) :
    Sourced o history api' p' where
  stored := stored
  task := task
  listed := cpTask ▸ sourced.listed
  snapshots := by
    rw [cpTask, published]
    exact sourced.snapshots

theorem Sourced.of_sameLoadBalancer (sourced : Sourced o history api p)
    (stored : StoredApplied history api')
    (lbTask : p'.lbTask.loadBalancer = p.lbTask.loadBalancer) (cpTask : p'.cpTask = p.cpTask)
    (published : p'.published = p.published) : Sourced o history api' p' :=
  sourced.of_task stored (lbTask ▸ sourced.task) cpTask published

theorem Sourced.of_released (sourced : Sourced o history api p)
    (stored : StoredApplied history api') (lbTask : p'.lbTask.loadBalancer = none)
    (cpTask : p'.cpTask = p.cpTask) (published : p'.published = p.published) :
    Sourced o history api' p' := by
  refine sourced.of_task stored (fun lb held => ?_) cpTask published
  rw [lbTask] at held
  cases held

/-- A step of the control plane, by what it leaves to be published and served. -/
theorem Sourced.of_plane (sourced : Sourced o history api p) (lbTask : p'.lbTask = p.lbTask)
    (listed : ∀ name lbs routes requests, p'.cpTask = .allocating name lbs routes requests →
      ListedFor o history name lbs)
    (built : ∀ name snapshot, p'.cpTask = .built name snapshot →
      ∃ get lbs routes pa, BuiltFrom o history name snapshot get lbs routes pa)
    (published : ∀ name snapshot, p'.published.lookup name = some snapshot →
      p.cpTask = .built name snapshot ∨ p.published.lookup name = some snapshot) :
    Sourced o history api p' where
  stored := sourced.stored
  task := lbTask ▸ sourced.task
  listed := listed
  snapshots name snapshot := by
    rintro (isBuilt | served)
    · exact built name snapshot isBuilt
    · exact sourced.snapshots name snapshot (published name snapshot served)

theorem Sourced.step (sourced : Sourced o history api p) (taken : .process action ∈ history)
    (looked : NoFallback p action) (agree : ReferencesAgree p action)
    (stepped : processStep o api p action = some (api', p')) : Sourced o history api' p' := by
  cases transition_of_processStep stepped with
  | passed => exact sourced
  | got key lb task found =>
      refine sourced.of_task sourced.stored ?_ rfl rfl
      rintro _ ⟨⟩
      exact (sourced.stored key lb found).2
  | listed order lb task =>
      exact sourced.of_sameLoadBalancer sourced.stored (by rw [task]; rfl) rfl rfl
  | decided tenantAndConfig updateFault lb lbs task =>
      obtain ⟨stored, onTask⟩ := sourced.stored.prepare
        (sourced.task lb (by rw [task]; rfl)) lbs tenantAndConfig updateFault
      exact sourced.of_task stored onTask rfl rfl
  | lbAllocated draws lb className annotations request requests middle task allocated =>
      obtain ⟨cpTask, _, published⟩ := allocateNext_tasks allocated
      exact sourced.of_sameLoadBalancer sourced.stored (by rw [task]; rfl) cpTask published
  | wrote faults admission lb className annotations store task =>
      exact sourced.of_sameLoadBalancer sourced.stored (by rw [task]; rfl) rfl rfl
  | writeFailed | deleteFailed | lbFailed =>
      exact sourced.of_released sourced.stored rfl rfl rfl
  | statusWritten checkDNSResolution checkTLSHealth hostname fault lb =>
      exact sourced.of_released (sourced.stored.status lb checkDNSResolution checkTLSHealth
        hostname fault) rfl rfl rfl
  | deallocated lb task | serviceDeleted lb task =>
      exact sourced.of_sameLoadBalancer sourced.stored (by rw [task]; rfl) rfl rfl
  | finalizersRemoved fault lb task =>
      have applied := sourced.task lb (by rw [task]; rfl)
      exact sourced.of_released
        (sourced.stored.update applied (withoutFinalizers lb) rfl rfl fault) rfl rfl rfl
  | withdrawn requestNs keys routeKeys =>
      refine sourced.of_plane rfl sourced.listed
        (fun name snapshot built => sourced.snapshots name snapshot (Or.inl built)) ?_
      exact fun _ _ served => Or.inr (lookup_of_lookup_erase served)
  | cpListed requestNs keys routeKeys lbs routes task isListed =>
      refine sourced.of_plane rfl ?_ (fun _ _ built => nomatch built) fun _ _ => Or.inr
      rintro _ _ _ _ ⟨⟩
      exact listedFor_listLoadBalancersAndRoutes sourced.stored isListed
  | cpAllocated draws name lbs routes request requests middle task allocated =>
      obtain ⟨_, lbTask, published⟩ := allocateNext_tasks allocated
      refine sourced.of_plane lbTask ?_ (fun _ _ built => nomatch built) ?_
      · rintro _ _ _ _ ⟨⟩
        exact sourced.listed _ _ _ _ task
      · rw [published]
        exact fun _ _ => Or.inr
  | buildFailed | cpFailed =>
      exact sourced.of_plane rfl (fun _ _ _ _ listed => nomatch listed)
        (fun _ _ built => nomatch built) fun _ _ => Or.inr
  | built get name lbs routes snapshot task isBuilt =>
      refine sourced.of_plane rfl (fun _ _ _ _ listed => nomatch listed) ?_ fun _ _ => Or.inr
      rintro _ _ ⟨⟩
      obtain ⟨_, apart⟩ := looked name lbs routes task
      exact ⟨get, lbs, routes, _, sourced.listed _ _ _ _ task, taken, agree name lbs routes task,
        apart, isBuilt⟩
  | published name snapshot task =>
      refine sourced.of_plane rfl (fun _ _ _ _ listed => nomatch listed)
        (fun _ _ built => nomatch built) ?_
      intro name' snapshot' served
      simp only [updateCache_ok, Option.map_some, Option.getD_some] at served
      obtain ⟨rfl, rfl⟩ | ⟨_, old⟩ := lookup_of_lookup_insert served
      · exact Or.inl task
      · exact Or.inr old
  | routeAllocated route request draws middle requested allocated =>
      obtain ⟨cpTask, lbTask, published⟩ := allocateNext_tasks allocated
      exact sourced.of_sameLoadBalancer sourced.stored (congrArg _ lbTask) cpTask published
  | routeDeallocated => exact sourced.of_sameLoadBalancer sourced.stored rfl rfl rfl

end Steps

/-- The cluster has the addresses of the LoadBalancer as it was applied in the run, those
it refers to as a build of the run read them. -/
def ClusterOf (history : List ManagerAction) (lb : LoadBalancer) (cluster : Cluster) : Prop :=
  ∃ version get, ManagerAction.user (.applyLoadBalancer version) ∈ history ∧
    version.objectKey = lb.objectKey ∧ ManagerAction.process (.cpBuild get) ∈ history ∧
    cluster ∈ loadBalancerClusters (filledLoadBalancer (foundAddresses get) version)

section Clusters
variable {o : ManagerOptions} {history : List ManagerAction} {name : String} {snapshot : Snapshot}
  {get : ObjectKey → Except String (List EndpointAddress)} {lbs : List LoadBalancer}
  {routes : List Route} {pa : PortAllocator}

theorem clusterName_of_routeClusters {route : Route} {read : ObjectKey → List EndpointAddress}
    {cluster : Cluster} (member : cluster ∈ routeClusters (filledRoute read route)) :
    ∃ svc ∈ route.sourceServices, ∃ port ∈ svc.ports,
      cluster.name = routePortIdentifier route svc port := by
  obtain ⟨sources, _, identifiers⟩ := filledRoute_eq read route
  obtain ⟨svc, inSources, member⟩ := List.mem_flatMap.mp member
  obtain ⟨port, inPorts, rfl⟩ := List.mem_map.mp member
  exact ⟨svc, sources ▸ inSources, port, inPorts, identifiers svc port⟩

theorem clusterName_of_loadBalancerClusters {lb : LoadBalancer}
    {read : ObjectKey → List EndpointAddress} {cluster : Cluster}
    (member : cluster ∈ loadBalancerClusters (filledLoadBalancer read lb)) :
    ∃ i port, cluster.name = loadBalancerIdentifier lb i port := by
  obtain ⟨pair, _, member⟩ := List.mem_flatMap.mp member
  obtain ⟨port, _, rfl⟩ := List.mem_map.mp member
  exact ⟨pair.2, port, rfl⟩

/-- The name of a LoadBalancer's cluster is served with the addresses of a listed
LoadBalancer of that name. -/
theorem BuiltFrom.cluster (source : BuiltFrom o history name snapshot get lbs routes pa)
    {listener : Listener} (member : listener ∈ snapshot.listeners) {lb : LoadBalancer} {i : Nat}
    {port : EndpointPort} (cluster : listener.clusterName = loadBalancerIdentifier lb i port) :
    ∃ cluster, snapshot.cluster listener.clusterName = some cluster ∧ ∃ lb' ∈ lbs,
      loadBalancerText lb' = loadBalancerText lb ∧
      cluster ∈ loadBalancerClusters (filledLoadBalancer (foundAddresses get) lb') := by
  have notRoute {route : Route} (listed : route ∈ routes) {svc : Service}
      (inSources : svc ∈ route.sourceServices) {port' : ServicePort} (inPorts : port' ∈ svc.ports) :
      routePortIdentifier route svc port' ≠ listener.clusterName := by
    rw [cluster]
    exact (source.apart route listed svc inSources).2 port' inPorts lb i port
  have present : listener.clusterName ∈ snapshot.clusters.map Cluster.name := by
    rw [mapSnapshot_clusterNames source.built]
    rw [mapSnapshot_listeners source.built] at member
    obtain fromLB | fromRoute := List.mem_append.mp member
    · obtain ⟨lb', inLBs, member⟩ := List.mem_flatMap.mp fromLB
      refine List.mem_append_left _ (List.mem_flatMap.mpr ⟨lb', inLBs, ?_⟩)
      obtain ⟨pair, inEndpoints, member⟩ := List.mem_flatMap.mp member
      obtain ⟨port', inPorts, emitted⟩ := List.mem_filterMap.mp member
      rw [(loadBalancerListener_eq emitted).2.1, loadBalancerNames_eq]
      exact List.mem_flatMap.mpr ⟨pair, inEndpoints, List.mem_map_of_mem inPorts⟩
    · obtain ⟨route, inRoutes, member⟩ := List.mem_flatMap.mp fromRoute
      obtain ⟨svc, inSources, member⟩ := List.mem_flatMap.mp member
      obtain ⟨port', inPorts, emitted⟩ := List.mem_filterMap.mp member
      exact absurd (routeListener_eq emitted).2.1.symm (notRoute inRoutes inSources inPorts)
  obtain ⟨other, inClusters, sameName⟩ := List.mem_map.mp present
  obtain ⟨served, isServed⟩ := lastWith_isSome Cluster.name inClusters
  rw [sameName] at isServed
  refine ⟨served, isServed, ?_⟩
  obtain ⟨inClusters, servedName⟩ := lastWith_eq_some isServed
  rw [mapSnapshot_clusters source.agree source.built] at inClusters
  obtain fromLB | fromRoute := List.mem_append.mp inClusters
  · obtain ⟨lb', inLBs, made⟩ := List.mem_flatMap.mp fromLB
    obtain ⟨i', port', named⟩ := clusterName_of_loadBalancerClusters made
    have same := named.symm.trans (servedName.trans cluster)
    exact ⟨lb', inLBs, (loadBalancerIdentifier_eq_iff.mp same).1, made⟩
  · obtain ⟨route, inRoutes, made⟩ := List.mem_flatMap.mp fromRoute
    obtain ⟨svc, inSources, port', inPorts, named⟩ := clusterName_of_routeClusters made
    exact absurd (named.symm.trans servedName) (notRoute inRoutes inSources inPorts)

/-- LoadBalancers that one Envoy serves have names of their own. Within a namespace they
always have. -/
def AppliedApart (o : ManagerOptions) (history : List ManagerAction) : Prop :=
  ∀ lb lb', ManagerAction.user (.applyLoadBalancer lb) ∈ history →
    ManagerAction.user (.applyLoadBalancer lb') ∈ history →
    envoySnapshotName o.topology lb.ns = envoySnapshotName o.topology lb'.ns →
    loadBalancerText lb = loadBalancerText lb' → lb.objectKey = lb'.objectKey

theorem appliedApart_of_shared (shared : o.topology = .shared) : AppliedApart o history := by
  intro lb lb' _ _ sameEnvoy sameText
  rw [shared] at sameEnvoy
  have sameNs : lb.ns = lb'.ns := sameEnvoy
  have lists := congrArg String.toList sameText
  simp only [loadBalancerText, sameNs, String.toList_append, List.append_right_inj,
    String.toList_inj] at lists
  exact congrArg₂ ObjectKey.mk sameNs lists

/-- A listener whose cluster has the name of a LoadBalancer's forwards to its addresses. -/
theorem Sourced.clusterOf {state : ManagerState}
    (sourced : Sourced o history state.api state.process) (apart : AppliedApart o history)
    {lb : LoadBalancer} (applied : ManagerAction.user (.applyLoadBalancer lb) ∈ history)
    (served : state.process.published.lookup (envoySnapshotName o.topology lb.ns) = some snapshot)
    {listener : Listener} (member : listener ∈ snapshot.listeners) {i : Nat} {port : EndpointPort}
    (named : listener.clusterName = loadBalancerIdentifier lb i port) :
    ∃ cluster, snapshot.cluster listener.clusterName = some cluster ∧
      ClusterOf history lb cluster := by
  obtain ⟨get, lbs, routes, pa, source⟩ := sourced.snapshots _ _ (Or.inr served)
  obtain ⟨cluster, isServed, lb', inLBs, sameText, made⟩ := source.cluster member named
  obtain ⟨⟨version, inHistory, sameKey, sameSpec⟩, sameEnvoy⟩ := source.listed lb' inLBs
  have ns : version.ns = lb'.ns := congrArg ObjectKey.ns sameKey
  have name : version.name = lb'.name := congrArg ObjectKey.name sameKey
  refine ⟨cluster, isServed, version, get, inHistory, ?_, source.read, ?_⟩
  · refine apart version lb inHistory applied (by rw [ns, sameEnvoy]) ?_
    rw [loadBalancerText, ns, name]
    exact sameText
  · have same : loadBalancerClusters (filledLoadBalancer (foundAddresses get) version) =
        loadBalancerClusters (filledLoadBalancer (foundAddresses get) lb') := by
      simp only [loadBalancerClusters, filledLoadBalancer, loadBalancerIdentifier, ns, name,
        sameSpec]
    rw [same]
    exact made

end Clusters

end KubeLB
