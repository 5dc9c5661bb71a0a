import KubeLB.Manager.Process

/-!
The ways a step of a process can go, as a relation. What a step does is read off its
transition; the step function is not unfolded anywhere else.
-/

namespace KubeLB

inductive Transition (o : ManagerOptions) (api : Api) (p : Process) :
    ProcessAction → Api → Process → Prop
  | passed (key : ObjectKey) (task : p.lbTask = .idle)
      (nothing : ∀ lb, api.lbs.lookup key = some lb → lb.spec.endpoints = []) :
      Transition o api p (.lbGet key) api p
  | got (key : ObjectKey) (lb : LoadBalancer) (task : p.lbTask = .idle)
      (found : api.lbs.lookup key = some lb) (endpoints : lb.spec.endpoints ≠ []) :
      Transition o api p (.lbGet key) api { p with lbTask := .got lb }
  | listed (order : List ObjectKey) (lb : LoadBalancer) (task : p.lbTask = .got lb) :
      Transition o api p (.lbList order) api
        { p with
          lbTask := .listed lb
            (listLoadBalancers o.topology lb.ns (order.filterMap api.lbs.lookup)) }
  | decided (tenantAndConfig : Except String (LoadBalancerSettings × LoadBalancerSettings))
      (updateFault : Option String) (lb : LoadBalancer) (lbs : List LoadBalancer)
      (task : p.lbTask = .listed lb lbs) :
      Transition o api p (.lbDecide tenantAndConfig updateFault)
        (prepareLoadBalancer api lb lbs tenantAndConfig updateFault).1
        { p with lbTask := (prepareLoadBalancer api lb lbs tenantAndConfig updateFault).2 }
  | lbAllocated (draws : List Draw) (lb : LoadBalancer) (className : Option String)
      (annotations : AnnotationSettings) (request : String × List String)
      (requests : List (String × List String)) (middle : Process)
      (task : p.lbTask = .allocating lb className annotations (request :: requests))
      (allocated : allocateNext p request draws = some middle) :
      Transition o api p (.lbAllocate draws) api
        { middle with lbTask := .allocating lb className annotations requests }
  | wrote (faults : ApiFaults) (admission : Admission) (lb : LoadBalancer)
      (className : Option String) (annotations : AnnotationSettings) (store : ServiceStore)
      (task : p.lbTask = .allocating lb className annotations [])
      (returned : reconcileService faults admission api.services lb
        (loadBalancerServiceKey o.topology o.ns lb) (envoyApplicationName o.topology lb.ns)
        p.allocator className annotations = some (.ok store)) :
      Transition o api p (.lbWrite faults admission)
        { api with
          services := store
          origins := api.origins.insert (loadBalancerServiceKey o.topology o.ns lb) lb }
        { p with lbTask := .written lb }
  | writeFailed (faults : ApiFaults) (admission : Admission) (lb : LoadBalancer)
      (className : Option String) (annotations : AnnotationSettings)
      (task : p.lbTask = .allocating lb className annotations [])
      (failed : ∀ store, reconcileService faults admission api.services lb
        (loadBalancerServiceKey o.topology o.ns lb) (envoyApplicationName o.topology lb.ns)
        p.allocator className annotations ≠ some (.ok store)) :
      Transition o api p (.lbWrite faults admission) api { p with lbTask := .idle }
  | statusWritten (checkDNSResolution checkTLSHealth : String → Bool) (hostname : String)
      (fault : Option String) (lb : LoadBalancer) (task : p.lbTask = .written lb) :
      Transition o api p (.lbStatus checkDNSResolution checkTLSHealth hostname fault)
        (writeStatus o api lb checkDNSResolution checkTLSHealth hostname fault)
        { p with lbTask := .idle }
  | deallocated (lb : LoadBalancer) (task : p.lbTask = .cleaning lb) :
      Transition o api p .lbDeallocate api
        { p with
          allocator := p.allocator.deallocatePortsForLoadBalancer lb
          lbTask := .deallocated lb }
  | deleteFailed (err : String) (lb : LoadBalancer) (task : p.lbTask = .deallocated lb) :
      Transition o api p (.lbDeleteService (some err)) api { p with lbTask := .idle }
  | serviceDeleted (lb : LoadBalancer) (task : p.lbTask = .deallocated lb) :
      Transition o api p (.lbDeleteService none)
        { api with
          services := api.services.erase (loadBalancerServiceKey o.topology o.ns lb)
          origins := api.origins.erase (loadBalancerServiceKey o.topology o.ns lb) }
        { p with lbTask := .serviceDeleted lb }
  | finalizersRemoved (fault : Option String) (lb : LoadBalancer)
      (task : p.lbTask = .serviceDeleted lb) :
      Transition o api p (.lbRemoveFinalizers fault)
        (updateLoadBalancer api lb (withoutFinalizers lb) fault) { p with lbTask := .idle }
  | lbFailed : Transition o api p .lbFail api { p with lbTask := .idle }
  | withdrawn (requestNs : String) (keys routeKeys : List ObjectKey) (task : p.cpTask = .idle)
      (nothing : listLoadBalancersAndRoutes o.topology requestNs (keys.filterMap api.lbs.lookup)
        (routeKeys.filterMap api.routes.lookup) = ([], [])) :
      Transition o api p (.cpList requestNs keys routeKeys) api
        { p with published := p.published.erase (envoySnapshotName o.topology requestNs) }
  | cpListed (requestNs : String) (keys routeKeys : List ObjectKey) (lbs : List LoadBalancer)
      (routes : List Route) (task : p.cpTask = .idle)
      (isListed : listLoadBalancersAndRoutes o.topology requestNs
        (keys.filterMap api.lbs.lookup) (routeKeys.filterMap api.routes.lookup) = (lbs, routes))
      (something : ¬ (lbs = [] ∧ routes = [])) :
      Transition o api p (.cpList requestNs keys routeKeys) api
        { p with
          cpTask := .allocating (envoySnapshotName o.topology requestNs) lbs routes
            (lbs.flatMap loadBalancerRequests ++ routes.flatMap routeRequests) }
  | cpAllocated (draws : List Draw) (name : String) (lbs : List LoadBalancer)
      (routes : List Route) (request : String × List String)
      (requests : List (String × List String)) (middle : Process)
      (task : p.cpTask = .allocating name lbs routes (request :: requests))
      (allocated : allocateNext p request draws = some middle) :
      Transition o api p (.cpAllocate draws) api
        { middle with cpTask := .allocating name lbs routes requests }
  | buildFailed (get : ObjectKey → Except String (List EndpointAddress)) (name err : String)
      (lbs : List LoadBalancer) (routes : List Route)
      (task : p.cpTask = .allocating name lbs routes [])
      (failed : mapSnapshot get lbs routes p.allocator = .error err) :
      Transition o api p (.cpBuild get) api { p with cpTask := .idle }
  | built (get : ObjectKey → Except String (List EndpointAddress)) (name : String)
      (lbs : List LoadBalancer) (routes : List Route) (snapshot : Snapshot)
      (task : p.cpTask = .allocating name lbs routes [])
      (isBuilt : mapSnapshot get lbs routes p.allocator = .ok snapshot) :
      Transition o api p (.cpBuild get) api { p with cpTask := .built name snapshot }
  | published (name : String) (snapshot : Snapshot) (task : p.cpTask = .built name snapshot) :
      Transition o api p .cpPublish api
        { p with
          published := ((updateCache (p.published.lookup name) (.ok snapshot)).map
            (p.published.insert name ·)).getD p.published
          cpTask := .idle }
  | cpFailed : Transition o api p .cpFail api { p with cpTask := .idle }
  | routeAllocated (route : Route) (request : String × List String) (draws : List Draw)
      (middle : Process) (requested : request ∈ routeRequests route)
      (allocated : allocateNext p request draws = some middle) :
      Transition o api p (.routeAllocate route request draws) api middle
  | routeDeallocated (endpointKeys : List String) :
      Transition o api p (.routeDeallocate endpointKeys) api
        { p with allocator := p.allocator.deallocateEndpoints endpointKeys }

section
variable {o : ManagerOptions} {api api' : Api} {p p' : Process}

theorem transition_of_lbGet {key : ObjectKey}
    (taken : processStep o api p (.lbGet key) = some (api', p')) :
    Transition o api p (.lbGet key) api' p' := by
  simp only [processStep] at taken
  split at taken
  · rename_i task
    split at taken
    · rename_i absent
      cases taken
      exact .passed key task fun lb found => by cases absent.symm.trans found
    · rename_i lb found
      split at taken
      · rename_i none
        cases taken
        refine .passed key task fun lb' found' => ?_
        cases found.symm.trans found'
        exact none
      · rename_i endpoints
        cases taken
        exact .got key lb task found endpoints
  · cases taken

theorem transition_of_lbAllocate {draws : List Draw}
    (taken : processStep o api p (.lbAllocate draws) = some (api', p')) :
    Transition o api p (.lbAllocate draws) api' p' := by
  simp only [processStep] at taken
  split at taken
  · rename_i task
    obtain ⟨middle, allocated, taken⟩ := Option.bind_eq_some_iff.mp taken
    cases taken
    exact .lbAllocated draws _ _ _ _ _ middle task allocated
  · cases taken

theorem transition_of_lbWrite {faults : ApiFaults} {admission : Admission}
    (taken : processStep o api p (.lbWrite faults admission) = some (api', p')) :
    Transition o api p (.lbWrite faults admission) api' p' := by
  simp only [processStep] at taken
  split at taken
  · rename_i lb className annotations task
    split at taken
    · rename_i store returned
      cases taken
      exact .wrote faults admission lb className annotations store task returned
    · rename_i failed
      cases taken
      exact .writeFailed faults admission lb className annotations task failed
  · cases taken

theorem transition_of_lbDeleteService {fault : Option String}
    (taken : processStep o api p (.lbDeleteService fault) = some (api', p')) :
    Transition o api p (.lbDeleteService fault) api' p' := by
  simp only [processStep] at taken
  split at taken
  · rename_i lb err task
    cases taken
    exact .deleteFailed err lb task
  · rename_i lb task
    cases taken
    exact .serviceDeleted lb task
  · cases taken

theorem transition_of_cpList {requestNs : String} {keys routeKeys : List ObjectKey}
    (taken : processStep o api p (.cpList requestNs keys routeKeys) = some (api', p')) :
    Transition o api p (.cpList requestNs keys routeKeys) api' p' := by
  simp only [processStep] at taken
  split at taken
  · rename_i task
    split at taken
    · rename_i nothing
      cases taken
      exact .withdrawn requestNs keys routeKeys task (Prod.ext nothing.1 nothing.2)
    · rename_i something
      cases taken
      exact .cpListed requestNs keys routeKeys _ _ task rfl something
  · cases taken

theorem transition_of_cpAllocate {draws : List Draw}
    (taken : processStep o api p (.cpAllocate draws) = some (api', p')) :
    Transition o api p (.cpAllocate draws) api' p' := by
  simp only [processStep] at taken
  split at taken
  · rename_i task
    obtain ⟨middle, allocated, taken⟩ := Option.bind_eq_some_iff.mp taken
    cases taken
    exact .cpAllocated draws _ _ _ _ _ middle task allocated
  · cases taken

theorem transition_of_cpBuild {get : ObjectKey → Except String (List EndpointAddress)}
    (taken : processStep o api p (.cpBuild get) = some (api', p')) :
    Transition o api p (.cpBuild get) api' p' := by
  simp only [processStep] at taken
  split at taken
  · rename_i name lbs routes task
    split at taken
    · rename_i err failed
      cases taken
      exact .buildFailed get name err lbs routes task failed
    · rename_i snapshot isBuilt
      cases taken
      exact .built get name lbs routes snapshot task isBuilt
  · cases taken

theorem transition_of_routeAllocate {route : Route} {request : String × List String}
    {draws : List Draw}
    (taken : processStep o api p (.routeAllocate route request draws) = some (api', p')) :
    Transition o api p (.routeAllocate route request draws) api' p' := by
  simp only [processStep] at taken
  split at taken
  · rename_i requested
    obtain ⟨middle, allocated, taken⟩ := Option.bind_eq_some_iff.mp taken
    cases taken
    exact .routeAllocated route request draws _ requested allocated
  · cases taken

theorem transition_of_processStep {action : ProcessAction}
    (taken : processStep o api p action = some (api', p')) :
    Transition o api p action api' p' := by
  cases action with
  | lbGet key => exact transition_of_lbGet taken
  | lbList order =>
      simp only [processStep] at taken
      split at taken
      · rename_i lb task
        cases taken
        exact .listed order lb task
      · cases taken
  | lbDecide tenantAndConfig updateFault =>
      simp only [processStep] at taken
      split at taken
      · rename_i lb lbs task
        cases taken
        exact .decided tenantAndConfig updateFault lb lbs task
      · cases taken
  | lbAllocate draws => exact transition_of_lbAllocate taken
  | lbWrite faults admission => exact transition_of_lbWrite taken
  | lbStatus checkDNSResolution checkTLSHealth hostname fault =>
      simp only [processStep] at taken
      split at taken
      · rename_i lb task
        cases taken
        exact .statusWritten checkDNSResolution checkTLSHealth hostname fault lb task
      · cases taken
  | lbDeallocate =>
      simp only [processStep] at taken
      split at taken
      · rename_i lb task
        cases taken
        exact .deallocated lb task
      · cases taken
  | lbDeleteService fault => exact transition_of_lbDeleteService taken
  | lbRemoveFinalizers fault =>
      simp only [processStep] at taken
      split at taken
      · rename_i lb task
        cases taken
        exact .finalizersRemoved fault lb task
      · cases taken
  | lbFail =>
      cases taken
      exact .lbFailed
  | cpList requestNs keys routeKeys => exact transition_of_cpList taken
  | cpAllocate draws => exact transition_of_cpAllocate taken
  | cpBuild get => exact transition_of_cpBuild taken
  | cpPublish =>
      simp only [processStep] at taken
      split at taken
      · rename_i name snapshot task
        cases taken
        exact .published name snapshot task
      · cases taken
  | cpFail =>
      cases taken
      exact .cpFailed
  | routeAllocate route request draws => exact transition_of_routeAllocate taken
  | routeDeallocate endpointKeys =>
      cases taken
      exact .routeDeallocated endpointKeys

end

end KubeLB
