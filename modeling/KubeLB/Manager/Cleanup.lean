import KubeLB.Foundation.Runs
import KubeLB.Manager.ProcessSpec

/-!
Endpoint keys of LoadBalancers that are gone.

Cleanup takes the keys of a LoadBalancer out of the table, then its Service and
its finalizers. Whoever has listed the LoadBalancer before may still allocate
for it: the control plane leaves out objects that are being deleted when it
lists, the LoadBalancer controller does not, and neither looks again before it
allocates. The keys stay out when nobody does, and when the cleanup knows them
all.
-/

namespace KubeLB
open FiniteMap PortAllocator Runs

def HasEndpoint (pa : PortAllocator) (key : ObjectKey) : Prop :=
  ∃ i, envoyEndpointPattern key.ns key.name i ∈ pa.portLookup

/-- A LoadBalancer that is not in the cluster has no endpoint key in the table. -/
def Released (key : ObjectKey) (state : ManagerState) : Prop :=
  state.api.lbs.lookup key = none → ¬ HasEndpoint state.process.allocator key

/-- A cleanup of the LoadBalancer has given up its ports and is not done yet. -/
def Process.Releasing (p : Process) (key : ObjectKey) : Prop :=
  ∃ lb : LoadBalancer, lb.objectKey = key ∧
    (p.lbTask = .deallocated lb ∨ p.lbTask = .serviceDeleted lb)

/-- The condition on a step of the process: AllocatePorts is not called for an
endpoint key of the LoadBalancer once it is gone or its cleanup has given its
ports up, and a cleanup knows all its endpoint keys in the table. -/
def AllocatesLive (key : ObjectKey) (api : Api) (p : Process) : ProcessAction → Prop
  | .lbDeallocate => ∀ lb : LoadBalancer, p.lbTask = .cleaning lb → lb.objectKey = key →
      ∀ i, envoyEndpointPattern key.ns key.name i ∈ p.allocator.portLookup →
        i < lb.spec.endpoints.length
  | action => ∀ i portKeys draws,
      p.call action = some ((envoyEndpointPattern key.ns key.name i, portKeys), draws) →
        api.lbs.lookup key ≠ none ∧ ¬ p.Releasing key

/-- The condition on a step of a user: a LoadBalancer that goes without a cleanup,
because it has no finalizer, has no endpoint key in the table. -/
def DeletesUnallocated (key : ObjectKey) (api : Api) (pa : PortAllocator) : UserAction → Prop
  | .deleteLoadBalancer deleted => deleted = key → ∀ lb, api.lbs.lookup key = some lb →
      lb.finalizers = [] → ¬ HasEndpoint pa key
  | _ => True

def ReleasesOrderly (key : ObjectKey) (state : ManagerState) : ManagerAction → Prop
  | .user action => DeletesUnallocated key state.api state.process.allocator action
  | .process action => AllocatesLive key state.api state.process action

section Steps
variable {o : ManagerOptions} {api api' : Api} {p p' : Process} {action : ProcessAction}
  {key : ObjectKey}

theorem lookup_none_of_insert {lbs : FiniteMap ObjectKey LoadBalancer} {key' : ObjectKey}
    {lb : LoadBalancer} (gone : (lbs.insert key' lb).lookup key = none) :
    lbs.lookup key = none := by
  by_cases same : key = key'
  · subst same
    cases (Finmap.lookup_insert _).symm.trans gone
  · exact (Finmap.lookup_insert_of_ne _ same).symm.trans gone

theorem lookup_none_of_update {old new : LoadBalancer} {fault : Option String}
    (gone : (updateLoadBalancer api old new fault).lbs.lookup key = none) :
    api.lbs.lookup key = none ∨ (old.objectKey = key ∧ new.deletionTimestamp = true) := by
  rw [updateLoadBalancer] at gone
  split at gone
  · split at gone
    · rename_i deleted
      by_cases same : old.objectKey = key
      · exact Or.inr ⟨same, deleted.1⟩
      · exact Or.inl ((Finmap.lookup_erase_ne (Ne.symm same)).symm.trans gone)
    · exact Or.inl (lookup_none_of_insert gone)
  · exact Or.inl gone

theorem lookup_none_of_prepare {lb : LoadBalancer} {lbs : List LoadBalancer}
    {tenantAndConfig : Except String (LoadBalancerSettings × LoadBalancerSettings)}
    {updateFault : Option String}
    (gone : (prepareLoadBalancer api lb lbs tenantAndConfig updateFault).1.lbs.lookup key = none) :
    api.lbs.lookup key = none := by
  simp only [prepareLoadBalancer] at gone
  split at gone
  · split at gone <;> exact gone
  · rename_i live
    split at gone
    · exact gone
    · split at gone
      · split at gone <;> exact gone
      · split at gone
        · exact gone
        · split at gone
          · obtain absent | ⟨_, deleted⟩ := lookup_none_of_update gone
            · exact absent
            · exact absurd deleted live
          · exact gone

theorem lookup_none_of_writeStatus {lb : LoadBalancer}
    {checkDNSResolution checkTLSHealth : String → Bool} {hostname : String}
    {fault : Option String}
    (gone : (writeStatus o api lb checkDNSResolution checkTLSHealth hostname fault).lbs.lookup
      key = none) : api.lbs.lookup key = none := by
  simp only [writeStatus] at gone
  split at gone
  · split at gone
    · split at gone
      · exact gone
      · exact lookup_none_of_insert gone
    · exact gone
  · exact gone

/-- The preparation of a reconcile never leads past a deallocation. -/
theorem prepareLoadBalancer_task (lb : LoadBalancer) (lbs : List LoadBalancer)
    (tenantAndConfig : Except String (LoadBalancerSettings × LoadBalancerSettings))
    (updateFault : Option String) (lb' : LoadBalancer) :
    (prepareLoadBalancer api lb lbs tenantAndConfig updateFault).2 ≠ .deallocated lb' ∧
      (prepareLoadBalancer api lb lbs tenantAndConfig updateFault).2 ≠ .serviceDeleted lb' := by
  simp only [prepareLoadBalancer]
  split
  · split <;> simp
  · split
    · simp
    · split
      · split <;> simp
      · split
        · simp
        · split <;> simp

/-- How the LoadBalancers and the cleanup of one of them come out of a step: one that
a step removes was being released, and a release begins with a deallocation. -/
structure ReleaseStep (api : Api) (p : Process) (key : ObjectKey) (action : ProcessAction)
    (api' : Api) (p' : Process) : Prop where
  gone : api'.lbs.lookup key = none → api.lbs.lookup key = none ∨ p.Releasing key
  releasing : p'.Releasing key → p.Releasing key ∨ ∃ lb : LoadBalancer, action = .lbDeallocate ∧
    p.lbTask = .cleaning lb ∧ lb.objectKey = key ∧
    p'.allocator = p.allocator.deallocatePortsForLoadBalancer lb

theorem ReleaseStep.of_task (gone : api'.lbs.lookup key = none → api.lbs.lookup key = none)
    (task : p'.lbTask = p.lbTask ∨ ∀ lb, p'.lbTask ≠ .deallocated lb ∧
      p'.lbTask ≠ .serviceDeleted lb) : ReleaseStep api p key action api' p' where
  gone absent := Or.inl (gone absent)
  releasing := by
    rintro ⟨lb, sameKey, past⟩
    obtain same | other := task
    · rw [same] at past
      exact Or.inl ⟨lb, sameKey, past⟩
    · obtain past | past := past
      · exact absurd past (other lb).1
      · exact absurd past (other lb).2

theorem releaseStep_of_step (taken : processStep o api p action = some (api', p')) :
    ReleaseStep api p key action api' p' := by
  cases transition_of_processStep taken with
  | passed | withdrawn | cpListed | buildFailed | built | published | cpFailed
  | routeDeallocated => exact .of_task id (Or.inl rfl)
  | got | listed | lbAllocated | wrote | writeFailed | deleteFailed | lbFailed =>
      exact .of_task id (Or.inr (by simp))
  | decided => exact .of_task lookup_none_of_prepare (Or.inr (prepareLoadBalancer_task _ _ _ _))
  | statusWritten => exact .of_task lookup_none_of_writeStatus (Or.inr (by simp))
  | deallocated lb task =>
      refine ⟨Or.inl, ?_⟩
      rintro ⟨lb', sameKey, past | past⟩
      · cases past
        exact Or.inr ⟨lb, rfl, task, sameKey, rfl⟩
      · cases past
  | serviceDeleted lb task =>
      refine ⟨Or.inl, ?_⟩
      rintro ⟨lb', sameKey, past | past⟩
      · cases past
      · cases past
        exact Or.inl ⟨_, sameKey, Or.inl task⟩
  | finalizersRemoved fault lb task =>
      refine ⟨fun gone => ?_, ?_⟩
      · obtain absent | ⟨sameKey, _⟩ := lookup_none_of_update gone
        · exact Or.inl absent
        · exact Or.inr ⟨lb, sameKey, Or.inr task⟩
      · rintro ⟨_, _, past | past⟩ <;> cases past
  | cpAllocated draws name lbs routes request requests middle task allocated =>
      exact .of_task id (Or.inl (allocateNext_tasks allocated).2.1)
  | routeAllocated route request draws middle requested allocated =>
      exact .of_task id (Or.inl (allocateNext_tasks allocated).2.1)

theorem AllocatesLive.of_call (live : AllocatesLive key api p action) {i : Nat}
    {portKeys : List String} {draws : List Draw}
    (called : p.call action = some ((envoyEndpointPattern key.ns key.name i, portKeys), draws)) :
    api.lbs.lookup key ≠ none ∧ ¬ p.Releasing key := by
  cases action with
  | lbDeallocate => cases called
  | _ => exact live i portKeys draws called

/-- An endpoint key after a step was there before, or is asked for in the step. -/
theorem mem_portLookup_of_step (taken : processStep o api p action = some (api', p')) {e : String}
    (present : e ∈ p'.allocator.portLookup) :
    e ∈ p.allocator.portLookup ∨ ∃ portKeys draws,
      p.call action = some ((e, portKeys), draws) := by
  cases processStep_effect taken with
  | shrink table endpoints consistent services listeners => exact Or.inl (endpoints e present)
  | allocate e' portKeys draws rest updated fresh called allocated api_ listeners =>
      obtain rfl | old := (allocated.present e).mp present
      · exact Or.inr ⟨portKeys, draws, called⟩
      · exact Or.inl old
  | write lb className annotations faults admission store task isWrite returned services origins
      allocator listeners =>
      rw [allocator] at present
      exact Or.inl present
  | build name lbs routes get snapshot task isBuild built api_ allocator listeners =>
      rw [allocator] at present
      exact Or.inl present

/-- While a LoadBalancer is gone or being released, it has no endpoint key. -/
def KeepsReleased (key : ObjectKey) (api : Api) (p : Process) : Prop :=
  api.lbs.lookup key = none ∨ p.Releasing key → ¬ HasEndpoint p.allocator key

theorem keepsReleased_step (keeps : KeepsReleased key api p)
    (live : AllocatesLive key api p action)
    (taken : processStep o api p action = some (api', p')) : KeepsReleased key api' p' := by
  have steps : ReleaseStep api p key action api' p' := releaseStep_of_step taken
  -- What was gone or being released before the step has no key after it.
  have stays (before : api.lbs.lookup key = none ∨ p.Releasing key) :
      ¬ HasEndpoint p'.allocator key := by
    rintro ⟨i, present⟩
    obtain old | ⟨portKeys, draws, called⟩ := mem_portLookup_of_step taken present
    · exact keeps before ⟨i, old⟩
    · obtain ⟨here, notReleasing⟩ := live.of_call called
      exact before.elim here notReleasing
  rintro (gone | releasing)
  · exact stays (steps.gone gone)
  obtain before | ⟨lb, rfl, task, sameKey, deallocated⟩ := steps.releasing releasing
  · exact stays (Or.inr before)
  rintro ⟨i, present⟩
  rw [deallocated, deallocatePortsForLoadBalancer, mem_deallocateEndpoints] at present
  have bound := live lb task sameKey i present.1
  subst sameKey
  exact present.2 (mem_loadBalancerKeys.mpr ⟨_, bound, rfl⟩)

theorem keepsReleased_userStep {user : UserAction} (keeps : KeepsReleased key api p)
    (unallocated : DeletesUnallocated key api p.allocator user) :
    KeepsReleased key (userStep api user) p := by
  rintro (gone | releasing)
  · cases user with
    | applyLoadBalancer lb => exact keeps (Or.inl (lookup_none_of_insert gone))
    | setRoutes routes => exact keeps (Or.inl gone)
    | deleteLoadBalancer deleted =>
        simp only [userStep] at gone
        split at gone
        · exact keeps (Or.inl gone)
        · rename_i lb found
          split at gone
          · rename_i unfinalized
            by_cases same : key = deleted
            · exact unallocated same.symm lb (same ▸ found) unfinalized
            · exact keeps (Or.inl ((Finmap.lookup_erase_ne same).symm.trans gone))
          · exact keeps (Or.inl (lookup_none_of_insert gone))
  · exact keeps (Or.inr releasing)

/-- In every run in which no port is allocated for a LoadBalancer that is gone or
whose ports its cleanup has given up, and in which the cleanup knows all its
endpoint keys, the table has none of them once the LoadBalancer is gone. -/
theorem run_released (o : ManagerOptions) (key : ObjectKey) (actions : List ManagerAction)
    (orderly : EachStep (managerStep o) .initial actions
      fun state action _ => ReleasesOrderly key state action) :
    Throughout (managerStep o) .initial actions (Released key) := by
  have invariant : Throughout (managerStep o) .initial actions
      fun state => KeepsReleased key state.api state.process := by
    refine throughout_of_eachStep (P := fun state => KeepsReleased key state.api state.process)
      ?_ ?_ orderly
    · rintro _ ⟨i, present⟩
      exact Finmap.notMem_empty present
    · intro state action state' keeps orderly taken
      cases action with
      | user action =>
          cases taken
          exact keepsReleased_userStep keeps orderly
      | process action =>
          obtain ⟨⟨api, process⟩, stepped, rfl⟩ := Option.map_eq_some_iff.mp taken
          exact keepsReleased_step keeps orderly stepped
  intro before state small reached gone
  exact invariant before state small reached (Or.inl gone)

/-- A LoadBalancer is allocated for, deleted and cleaned up. -/
theorem run_released_cleaned_up :
    let x : LoadBalancer :=
      { ns := "tenant-t", name := "x", finalizers := [cleanupFinalizer]
        spec :=
          { endpoints := [{ ports := [{ name := "http", port := 30080, protocol := .tcp }] }]
            ports := [{ name := "http", port := 80, protocol := .tcp }] } }
    let actions : List ManagerAction :=
      [.user (.applyLoadBalancer x), .process (.lbGet x.objectKey),
        .process (.lbList [x.objectKey]), .process (.lbDecide (.ok ({}, {})) none),
        .process (.lbAllocate [0]), .process .lbFail, .user (.deleteLoadBalancer x.objectKey),
        .process (.lbGet x.objectKey), .process (.lbList [x.objectKey]),
        .process (.lbDecide (.ok ({}, {})) none), .process .lbDeallocate,
        .process (.lbDeleteService none), .process (.lbRemoveFinalizers none)]
    let o : ManagerOptions := { ns := "kubelb" }
    ((run (managerStep o) .initial actions).map fun state =>
        (state.api.lbs.lookup x.objectKey).isSome) = some false ∧
      Throughout (managerStep o) .initial actions (Released x.objectKey) := by
  intro x actions o
  refine ⟨by decide, run_released o x.objectKey actions ?_⟩
  refine eachStep_taken rfl trivial ?_
  refine eachStep_taken rfl (fun _ _ _ called => (by cases called)) ?_
  refine eachStep_taken rfl (fun _ _ _ called => (by cases called)) ?_
  refine eachStep_taken rfl (fun _ _ _ called => (by cases called)) ?_
  refine eachStep_taken rfl (fun _ _ _ _ => ⟨by decide, ?_⟩) ?_
  · rintro ⟨_, _, task | task⟩ <;> cases task
  refine eachStep_taken rfl (fun _ _ _ called => (by cases called)) ?_
  refine eachStep_taken rfl ?_ ?_
  · rintro _ lb found unfinalized
    cases found
    cases unfinalized
  refine eachStep_taken rfl (fun _ _ _ called => (by cases called)) ?_
  refine eachStep_taken rfl (fun _ _ _ called => (by cases called)) ?_
  refine eachStep_taken rfl (fun _ _ _ called => (by cases called)) ?_
  refine eachStep_taken rfl ?_ ?_
  · intro lb task _ i present
    cases task
    have only : envoyEndpointPattern "tenant-t" "x" i ∈
        ({envoyEndpointPattern "tenant-t" "x" 0} : Finset String) :=
      Finmap.mem_keys.mpr present
    obtain ⟨_, rfl⟩ := envoyEndpointPattern_eq_iff.mp (Finset.mem_singleton.mp only)
    decide
  refine eachStep_taken rfl (fun _ _ _ called => (by cases called)) ?_
  exact eachStep_cons fun _ _ => ⟨fun _ _ _ called => (by cases called), eachStep_nil _⟩

/-- The control plane has listed the LoadBalancer when its deletion is asked for. It
allocates after the cleanup, and the endpoint key is back for good. -/
theorem cleaned_up_endpoint_comes_back :
    let x : LoadBalancer :=
      { ns := "tenant-t", name := "x", finalizers := [cleanupFinalizer]
        spec :=
          { endpoints := [{ ports := [{ name := "http", port := 30080, protocol := .tcp }] }]
            ports := [{ name := "http", port := 80, protocol := .tcp }] } }
    let actions : List ManagerAction :=
      [.user (.applyLoadBalancer x), .process (.cpList "tenant-t" [x.objectKey] []),
        .user (.deleteLoadBalancer x.objectKey), .process (.lbGet x.objectKey),
        .process (.lbList [x.objectKey]), .process (.lbDecide (.ok ({}, {})) none),
        .process .lbDeallocate, .process (.lbDeleteService none),
        .process (.lbRemoveFinalizers none), .process (.cpAllocate [0]),
        .process (.cpBuild fun _ => .error "not found"), .process .cpPublish]
    ((run (managerStep { ns := "kubelb" }) .initial actions).map fun state =>
      ((state.api.lbs.lookup x.objectKey).isSome,
        match state.process.lbTask, state.process.cpTask with
        | .idle, .idle => true
        | _, _ => false,
        state.process.allocator.portLookup.keys)) =
      some (false, true, {envoyEndpointPattern "tenant-t" "x" 0}) := by
  decide

end Steps

end KubeLB
