import KubeLB.Manager.Transitions

/-!
What one step of a process can do to the ports in use: to the table, to the
Services and to the listeners of its snapshots. Later modules derive their
invariants from `Effect`.
-/

namespace KubeLB
open FiniteMap PortAllocator

def Process.Carries (p : Process) (listener : Listener) : Prop :=
  (∃ name snapshot, p.cpTask = .built name snapshot ∧ listener ∈ snapshot.listeners) ∨
    ∃ name snapshot, p.published.lookup name = some snapshot ∧ listener ∈ snapshot.listeners

/-- The AllocatePorts call that the action makes, with its draws. -/
def Process.call (p : Process) : ProcessAction → Option ((String × List String) × List Draw)
  | .lbAllocate draws =>
      match p.lbTask with
      | .allocating _ _ _ (request :: _) => some (request, draws)
      | _ => none
  | .cpAllocate draws =>
      match p.cpTask with
      | .allocating _ _ _ (request :: _) => some (request, draws)
      | _ => none
  | .routeAllocate _ request draws => some (request, draws)
  | _ => none

/-- The kinds of steps, by the ports that come into use. -/
inductive Effect (o : ManagerOptions) (api : Api) (p : Process) (action : ProcessAction)
    (api' : Api) (p' : Process) : Prop
  /-- None do. -/
  | shrink
      (table : ∀ e k port, p'.allocator.lookup e k = some port →
        p.allocator.lookup e k = some port)
      (endpoints : ∀ e, e ∈ p'.allocator.portLookup → e ∈ p.allocator.portLookup)
      (consistent : p.allocator.Consistent → p'.allocator.Consistent)
      (services : ∀ key svc, api'.services.lookup key = some svc →
        api.services.lookup key = some svc ∧ api'.origins.lookup key = api.origins.lookup key)
      (listeners : ∀ listener, p'.Carries listener → p.Carries listener)
  /-- Those that AllocatePorts adds to the table. -/
  | allocate (e : String) (portKeys : List String) (draws rest : List Draw) (updated : Bool)
      (fresh : List (String × Int)) (called : p.call action = some ((e, portKeys), draws))
      (allocated : Allocated p.allocator e portKeys draws p'.allocator updated rest fresh)
      (api_ : api' = api)
      (listeners : ∀ listener, p'.Carries listener → p.Carries listener)
  /-- Those of a Service that is written. -/
  | write (lb : LoadBalancer) (className : Option String) (annotations : AnnotationSettings)
      (faults : ApiFaults) (admission : Admission) (store : ServiceStore)
      (task : p.lbTask = .allocating lb className annotations [])
      (isWrite : action = .lbWrite faults admission)
      (returned : reconcileService faults admission api.services lb
        (loadBalancerServiceKey o.topology o.ns lb) (envoyApplicationName o.topology lb.ns)
        p.allocator className annotations = some (.ok store))
      (services : api'.services = store)
      (origins : api'.origins =
        api.origins.insert (loadBalancerServiceKey o.topology o.ns lb) lb)
      (allocator : p'.allocator = p.allocator)
      (listeners : ∀ listener, p'.Carries listener → p.Carries listener)
  /-- Those of a snapshot that is built. -/
  | build (name : String) (lbs : List LoadBalancer) (routes : List Route)
      (get : ObjectKey → Except String (List EndpointAddress)) (snapshot : Snapshot)
      (task : p.cpTask = .allocating name lbs routes [])
      (isBuild : action = .cpBuild get)
      (built : mapSnapshot get lbs routes p.allocator = .ok snapshot)
      (api_ : api' = api)
      (allocator : p'.allocator = p.allocator)
      (listeners : ∀ listener, p'.Carries listener →
        p.Carries listener ∨ listener ∈ snapshot.listeners)

section Effects
variable {o : ManagerOptions} {api api' : Api} {p p' : Process} {action : ProcessAction}

theorem Effect.of_eq (allocator : p'.allocator = p.allocator)
    (services : api'.services = api.services) (origins : api'.origins = api.origins)
    (listeners : ∀ listener, p'.Carries listener → p.Carries listener) :
    Effect o api p action api' p' := by
  refine .shrink ?_ ?_ ?_ ?_ listeners
  · rw [allocator]
    exact fun _ _ _ found => found
  · rw [allocator]
    exact fun _ present => present
  · rw [allocator]
    exact id
  · rw [services, origins]
    exact fun _ _ found => ⟨found, rfl⟩

/-- A step of the LoadBalancer or the Route controller leaves the snapshots alone. -/
theorem carries_of_eq (cpTask : p'.cpTask = p.cpTask) (published : p'.published = p.published)
    (listener : Listener) (carried : p'.Carries listener) : p.Carries listener := by
  rw [Process.Carries, cpTask, published] at carried
  exact carried

/-- A control plane task that has built nothing carries only what is served. -/
theorem carries_of_published (published : ∀ name snapshot,
      p'.published.lookup name = some snapshot → p.published.lookup name = some snapshot)
    (unbuilt : ∀ name snapshot, p'.cpTask ≠ .built name snapshot) (listener : Listener)
    (carried : p'.Carries listener) : p.Carries listener := by
  obtain ⟨name, snapshot, built, _⟩ | ⟨name, snapshot, served, member⟩ := carried
  · exact absurd built (unbuilt name snapshot)
  · exact Or.inr ⟨name, snapshot, published name snapshot served, member⟩

theorem Effect.of_deallocate {endpointKeys : List String}
    (allocator : p'.allocator = p.allocator.deallocateEndpoints endpointKeys) (api_ : api' = api)
    (listeners : ∀ listener, p'.Carries listener → p.Carries listener) :
    Effect o api p action api' p' := by
  subst api_
  refine .shrink ?_ ?_ ?_ (fun _ _ found => ⟨found, rfl⟩) listeners
  · intro e k port found
    rw [allocator, lookup_deallocateEndpoints] at found
    split at found
    · cases found
    · exact found
  · intro e present
    rw [allocator, mem_deallocateEndpoints] at present
    exact present.1
  · intro _
    rw [allocator]
    exact consistent_deallocateEndpoints _ _

theorem Effect.of_allocateNext {request : String × List String} {draws : List Draw}
    {middle : Process} (called : p.call action = some (request, draws))
    (returned : allocateNext p request draws = some middle)
    (allocator : p'.allocator = middle.allocator)
    (listeners : ∀ listener, p'.Carries listener → p.Carries listener) :
    Effect o api p action api p' := by
  obtain ⟨⟨pa, updated, rest⟩, allocated, returned⟩ := Option.bind_eq_some_iff.mp returned
  cases returned
  obtain ⟨fresh, spec⟩ := allocatePorts_spec allocated
  exact .allocate request.1 request.2 draws rest updated fresh called (allocator ▸ spec) rfl
    listeners

theorem allocateNext_tasks {request : String × List String} {draws : List Draw}
    {middle : Process} (returned : allocateNext p request draws = some middle) :
    middle.cpTask = p.cpTask ∧ middle.lbTask = p.lbTask ∧ middle.published = p.published := by
  obtain ⟨_, _, returned⟩ := Option.bind_eq_some_iff.mp returned
  cases returned
  exact ⟨rfl, rfl, rfl⟩

theorem services_updateLoadBalancer (old new : LoadBalancer) (fault : Option String) :
    (updateLoadBalancer api old new fault).services = api.services ∧
      (updateLoadBalancer api old new fault).origins = api.origins := by
  rw [updateLoadBalancer]
  split
  · split
    · exact ⟨rfl, rfl⟩
    · exact ⟨rfl, rfl⟩
  · exact ⟨rfl, rfl⟩

theorem services_prepareLoadBalancer (lb : LoadBalancer) (lbs : List LoadBalancer)
    (tenantAndConfig : Except String (LoadBalancerSettings × LoadBalancerSettings))
    (updateFault : Option String) :
    let prepared := (prepareLoadBalancer api lb lbs tenantAndConfig updateFault).1
    prepared.services = api.services ∧ prepared.origins = api.origins := by
  simp only [prepareLoadBalancer]
  split
  · split <;> exact ⟨rfl, rfl⟩
  · split
    · exact ⟨rfl, rfl⟩
    · split
      · split <;> exact ⟨rfl, rfl⟩
      · split
        · exact ⟨rfl, rfl⟩
        · split
          · exact services_updateLoadBalancer _ _ _
          · exact ⟨rfl, rfl⟩

theorem services_writeStatus (lb : LoadBalancer)
    (checkDNSResolution checkTLSHealth : String → Bool) (hostname : String)
    (fault : Option String) :
    let written := writeStatus o api lb checkDNSResolution checkTLSHealth hostname fault
    written.services = api.services ∧ written.origins = api.origins := by
  simp only [writeStatus]
  split
  · split
    · split <;> exact ⟨rfl, rfl⟩
    · exact ⟨rfl, rfl⟩
  · exact ⟨rfl, rfl⟩

theorem services_userStep (api : Api) (action : UserAction) :
    (userStep api action).services = api.services ∧
      (userStep api action).origins = api.origins := by
  cases action with
  | applyLoadBalancer lb => exact ⟨rfl, rfl⟩
  | deleteLoadBalancer key =>
      simp only [userStep]
      split
      · exact ⟨rfl, rfl⟩
      · split <;> exact ⟨rfl, rfl⟩
  | setRoutes routes => exact ⟨rfl, rfl⟩

theorem processStep_effect (taken : processStep o api p action = some (api', p')) :
    Effect o api p action api' p' := by
  cases transition_of_processStep taken with
  | passed => exact .of_eq rfl rfl rfl fun _ => id
  | got | listed | writeFailed | deleteFailed | lbFailed =>
      exact .of_eq rfl rfl rfl (carries_of_eq rfl rfl)
  | decided tenantAndConfig updateFault lb lbs =>
      obtain ⟨services, origins⟩ := services_prepareLoadBalancer lb lbs tenantAndConfig updateFault
      exact .of_eq rfl services origins (carries_of_eq rfl rfl)
  | lbAllocated draws lb className annotations request requests middle task allocated =>
      obtain ⟨cpTask, _, published⟩ := allocateNext_tasks allocated
      exact .of_allocateNext (by simp only [Process.call, task]) allocated rfl
        (carries_of_eq cpTask published)
  | wrote faults admission lb className annotations store task returned =>
      exact .write lb className annotations faults admission store task rfl returned rfl rfl rfl
        (carries_of_eq rfl rfl)
  | statusWritten checkDNSResolution checkTLSHealth hostname fault lb =>
      obtain ⟨services, origins⟩ :=
        services_writeStatus lb checkDNSResolution checkTLSHealth hostname fault
      exact .of_eq rfl services origins (carries_of_eq rfl rfl)
  | deallocated | routeDeallocated => exact .of_deallocate rfl rfl (carries_of_eq rfl rfl)
  | serviceDeleted lb =>
      refine .shrink (fun _ _ _ => id) (fun _ => id) id ?_ (carries_of_eq rfl rfl)
      intro key svc found
      refine ⟨lookup_of_lookup_erase found, Finmap.lookup_erase_ne ?_⟩
      rintro rfl
      cases (Finmap.lookup_erase _ _).symm.trans found
  | finalizersRemoved fault lb =>
      obtain ⟨services, origins⟩ := services_updateLoadBalancer lb (withoutFinalizers lb) fault
      exact .of_eq rfl services origins (carries_of_eq rfl rfl)
  | withdrawn requestNs keys routeKeys idle =>
      refine .of_eq rfl rfl rfl (carries_of_published (fun _ _ => lookup_of_lookup_erase) ?_)
      simp [idle]
  | cpListed | buildFailed | cpFailed =>
      refine .of_eq rfl rfl rfl (carries_of_published (fun _ _ => id) ?_)
      simp
  | cpAllocated draws name lbs routes request requests middle task allocated =>
      obtain ⟨_, _, published⟩ := allocateNext_tasks allocated
      refine .of_allocateNext (by simp only [Process.call, task]) allocated rfl
        (carries_of_published ?_ ?_)
      · simp [published]
      · simp
  | built get name lbs routes snapshot task isBuilt =>
      refine .build name lbs routes get snapshot task rfl isBuilt rfl rfl ?_
      rintro listener (⟨_, _, again, member⟩ | served)
      · cases again
        exact Or.inr member
      · exact Or.inl (Or.inr served)
  | published name snapshot task =>
      refine .of_eq rfl rfl rfl ?_
      rintro listener (⟨_, _, isBuilt, _⟩ | ⟨name', snapshot', served, member⟩)
      · cases isBuilt
      · simp only [updateCache_ok, Option.map_some, Option.getD_some] at served
        by_cases same : name' = name
        · subst same
          rw [Finmap.lookup_insert] at served
          cases served
          exact Or.inl ⟨_, _, task, member⟩
        · rw [Finmap.lookup_insert_of_ne _ same] at served
          exact Or.inr ⟨name', snapshot', served, member⟩
  | routeAllocated route request draws middle requested allocated =>
      obtain ⟨cpTask, _, published⟩ := allocateNext_tasks allocated
      exact .of_allocateNext rfl allocated rfl (carries_of_eq cpTask published)

end Effects

end KubeLB
