import KubeLB.Ccm.SharedReplicas

/-!
Which resources the CCM reconciles again when a Service changes.

The collector of references gives a backend without a namespace the namespace of the
resource, and keeps another namespace where the user names one. The map functions of
the watches list the namespace of the Service only, and know a replica by the form of
its name.
-/

namespace KubeLB.Ccm
open FiniteMap Fallible

/-- The resources of a tenant cluster, in the order in which a List returns them. -/
structure ResourceList where
  items : List TenantResource
  distinct : (items.map TenantResource.id).Nodup

def ResourceList.inNamespace (resources : ResourceList) (kind : SourceKind) (ns : String) :
    List TenantResource :=
  resources.items.filter fun resource => resource.kind = kind ∧ resource.ns = ns

def matchesService (o : Service) (serviceRef : ObjectKey) : Bool :=
  (serviceRef.name = o.name ∨ nodePortServicePattern serviceRef.name = o.name) ∧
    serviceRef.ns = o.ns

def requestsFor (o : Service) (resource : TenantResource) : Option (List ObjectKey) := do
  let services ← resource.getServices
  return (services.filter (matchesService o)).map fun _ => resource.objectKey

/-- enqueueResources of the controller of a kind; `listErr` is the error of the List. -/
def enqueueResources (r : ResourceReconciler) (kind : SourceKind) (listErr : Option String)
    (resources : ResourceList) (o : Service) : Option (List ObjectKey) :=
  if listErr.isSome then some []
  else do
    let result ← ((resources.inNamespace kind o.ns).filter (managed r)).mapM (requestsFor o)
    return result.flatten

/-- The list of references has the Service, or the service it is the replica of. -/
def RefersTo (resource : TenantResource) (o : Service) : Prop :=
  ∃ services ∈ resource.getServices, ∃ ref ∈ services,
    ref = o.objectKey ∨ ReplicaOf ref o.objectKey o

structure Watched (r : ResourceReconciler) (kind : SourceKind) (resources : ResourceList)
    (resource : TenantResource) : Prop where
  listed : resource ∈ resources.items
  kind : resource.kind = kind
  managed : managed r resource = true

/-- The map function returns the requests of exactly the managed resources that refer
to the Service. -/
def EnqueuesReferring (r : ResourceReconciler) (kind : SourceKind) (listErr : Option String)
    (resources : ResourceList) (o : Service) : Prop :=
  ∃ result, enqueueResources r kind listErr resources o = some result ∧
    ∀ key, key ∈ result ↔
      ∃ resource, Watched r kind resources resource ∧ resource.objectKey = key ∧ RefersTo resource o

/-- The Service has the name of a replica of a service that the resource refers to. -/
def RefersByName (resource : TenantResource) (o : Service) : Prop :=
  ∃ services ∈ resource.getServices, ∃ ref ∈ services, replicaKey ref = o.objectKey

/-- When the two traversals describe one relation: `returns` is about an Ingress with
a rule or a path that has no service. -/
structure SeesAll (r : ResourceReconciler) (kind : SourceKind) (resources : ResourceList)
    (o : Service) : Prop where
  returns : ∀ resource, Watched r kind resources resource → resource.ns = o.ns →
    resource.getServices.isSome
  inNamespace : ∀ resource, Watched r kind resources resource → RefersTo resource o →
    resource.ns = o.ns
  replicas : ∀ resource, Watched r kind resources resource → resource.ns = o.ns →
    RefersByName resource o → RefersTo resource o

theorem matchesService_iff {o : Service} {ref : ObjectKey} :
    matchesService o ref = true ↔ ref = o.objectKey ∨ replicaKey ref = o.objectKey := by
  obtain ⟨ns, name⟩ := ref
  simp only [matchesService, replicaKey, ObjectMeta.objectKey, ObjectKey.mk.injEq,
    decide_eq_true_eq]
  tauto

section
variable {r : ResourceReconciler} {kind : SourceKind} {resources : ResourceList} {o : Service}
  {resource : TenantResource}

theorem requestsFor_isSome : (requestsFor o resource).isSome ↔ resource.getServices.isSome := by
  unfold requestsFor
  cases resource.getServices <;> simp

theorem mem_requestsFor {key : ObjectKey} :
    (∃ requests, requestsFor o resource = some requests ∧ key ∈ requests) ↔
      resource.objectKey = key ∧
        ∃ services ∈ resource.getServices, ∃ ref ∈ services,
          ref = o.objectKey ∨ replicaKey ref = o.objectKey := by
  simp only [← matchesService_iff]
  constructor
  · rintro ⟨requests, returned, member⟩
    obtain ⟨services, collected, returned⟩ := Option.bind_eq_some_iff.mp returned
    cases returned
    obtain ⟨ref, matching, sameKey⟩ := List.mem_map.mp member
    obtain ⟨refers, matching⟩ := List.mem_filter.mp matching
    exact ⟨sameKey, services, collected, ref, refers, matching⟩
  · rintro ⟨sameKey, services, collected, ref, refers, matching⟩
    refine ⟨_, Option.bind_eq_some_iff.mpr ⟨services, collected, rfl⟩, ?_⟩
    exact List.mem_map.mpr ⟨ref, List.mem_filter.mpr ⟨refers, matching⟩, sameKey⟩

theorem watched_iff : resource ∈ (resources.inNamespace kind o.ns).filter (managed r) ↔
    Watched r kind resources resource ∧ resource.ns = o.ns := by
  simp only [ResourceList.inNamespace, List.mem_filter, decide_eq_true_eq]
  constructor
  · rintro ⟨⟨listed, sameKind, sameNs⟩, mine⟩
    exact ⟨⟨listed, sameKind, mine⟩, sameNs⟩
  · rintro ⟨⟨listed, sameKind, mine⟩, sameNs⟩
    exact ⟨⟨listed, sameKind, sameNs⟩, mine⟩

/-- The map function returns unless a reference cannot be collected. -/
theorem enqueueResources_isSome :
    (enqueueResources r kind none resources o).isSome ↔
      ∀ resource, Watched r kind resources resource → resource.ns = o.ns →
        resource.getServices.isSome := by
  have loop : (((resources.inNamespace kind o.ns).filter (managed r)).mapM
      (requestsFor o)).isSome ↔ _ := mapM_isSome_iff
  simp only [watched_iff, requestsFor_isSome, and_imp] at loop
  rw [← loop, enqueueResources]
  cases ((resources.inNamespace kind o.ns).filter (managed r)).mapM (requestsFor o) <;> simp

/-- The requests that are returned: for the resources of the namespace of the Service
that refer to it, or to a service whose replica has its name. -/
theorem mem_enqueueResources {result : List ObjectKey}
    (returned : enqueueResources r kind none resources o = some result) (key : ObjectKey) :
    key ∈ result ↔ ∃ resource, Watched r kind resources resource ∧ resource.ns = o.ns ∧
      resource.objectKey = key ∧
        ∃ services ∈ resource.getServices, ∃ ref ∈ services,
          ref = o.objectKey ∨ replicaKey ref = o.objectKey := by
  obtain ⟨perResource, collected, returned⟩ := Option.bind_eq_some_iff.mp returned
  cases returned
  rw [← filterMap_of_forall₂ (mapM_eq_some_iff.mp collected), List.mem_flatten]
  constructor
  · rintro ⟨requests, member, mine⟩
    obtain ⟨resource, listed, returned⟩ := List.mem_filterMap.mp member
    obtain ⟨watched, sameNs⟩ := watched_iff.mp listed
    exact ⟨resource, watched, sameNs, mem_requestsFor.mp ⟨requests, returned, mine⟩⟩
  · rintro ⟨resource, watched, sameNs, refers⟩
    obtain ⟨requests, returned, mine⟩ := mem_requestsFor.mpr refers
    exact ⟨requests,
      List.mem_filterMap.mpr ⟨resource, watched_iff.mpr ⟨watched, sameNs⟩, returned⟩, mine⟩

theorem Watched.eq_of_key {other : TenantResource} (watched : Watched r kind resources resource)
    (watched' : Watched r kind resources other) (sameKey : other.objectKey = resource.objectKey) :
    other = resource := by
  refine List.inj_on_of_nodup_map resources.distinct watched'.listed watched.listed ?_
  simp only [TenantResource.id, watched.kind, watched'.kind, sameKey]

/-- Where the List succeeds, the requests are the right ones exactly when the two
traversals describe one relation. -/
theorem enqueuesReferring_listed :
    EnqueuesReferring r kind none resources o ↔ SeesAll r kind resources o := by
  constructor
  · rintro ⟨result, returned, right⟩
    have mem := mem_enqueueResources returned
    refine ⟨enqueueResources_isSome.mp (by rw [returned]; rfl), ?_, ?_⟩
    · intro resource watched refers
      obtain ⟨other, _, sameNs, sameKey, _⟩ :=
        (mem _).mp ((right _).mpr ⟨resource, watched, rfl, refers⟩)
      rw [← sameNs]
      exact congrArg ObjectKey.ns sameKey.symm
    · rintro resource watched sameNs ⟨services, collected, ref, member, named⟩
      have queued := (mem _).mpr
        ⟨resource, watched, sameNs, rfl, services, collected, ref, member, Or.inr named⟩
      obtain ⟨other, watched', sameKey, refers⟩ := (right _).mp queued
      rw [← watched.eq_of_key watched' sameKey]
      exact refers
  · intro sees
    obtain ⟨result, returned⟩ :=
      Option.isSome_iff_exists.mp (enqueueResources_isSome.mpr sees.returns)
    refine ⟨result, returned, fun key => ?_⟩
    rw [mem_enqueueResources returned]
    constructor
    · rintro ⟨resource, watched, sameNs, sameKey, services, collected, ref, member, own | named⟩
      · exact ⟨resource, watched, sameKey, services, collected, ref, member, Or.inl own⟩
      · exact ⟨resource, watched, sameKey,
          sees.replicas resource watched sameNs ⟨services, collected, ref, member, named⟩⟩
    · rintro ⟨resource, watched, sameKey, refers⟩
      have sameNs := sees.inNamespace resource watched refers
      obtain ⟨services, collected, ref, member, own | replica⟩ := refers
      · exact ⟨resource, watched, sameNs, sameKey, services, collected, ref, member, Or.inl own⟩
      · exact ⟨resource, watched, sameNs, sameKey, services, collected, ref, member,
          Or.inr replica.key.symm⟩

end

/-- A Service event queues exactly the managed resources that refer to the Service or
to the service it replicates, when the List succeeds and sees all of them, or when it
fails and there are none. -/
theorem enqueues_referring_iff (r : ResourceReconciler) (kind : SourceKind)
    (listErr : Option String) (resources : ResourceList) (o : Service) :
    EnqueuesReferring r kind listErr resources o ↔
      (listErr = none ∧ SeesAll r kind resources o) ∨
        (listErr ≠ none ∧
          ∀ resource, Watched r kind resources resource → ¬ RefersTo resource o) := by
  cases listErr with
  | none => simp [enqueuesReferring_listed]
  | some err =>
      simp only [EnqueuesReferring, enqueueResources]
      constructor
      · rintro ⟨result, returned, right⟩
        cases returned
        refine Or.inr ⟨by simp, fun resource watched refers => ?_⟩
        cases (right _).mpr ⟨resource, watched, rfl, refers⟩
      · rintro (⟨listed, _⟩ | ⟨_, none⟩)
        · cases listed
        · refine ⟨[], rfl, fun key => iff_of_false List.not_mem_nil ?_⟩
          rintro ⟨resource, watched, _, refers⟩
          exact none resource watched refers

/-- The HTTPRoute frontend/shop has the backend backend/api; an event of that Service
queues nothing. -/
theorem backend_elsewhere_not_enqueued :
    let shop : TenantResource :=
      { name := "shop", ns := "frontend"
        spec := .httpRoute {
          parentRefs := [{ name := "kubelb" }]
          rules := [{ backendRefs := [{ name := "api", ns := some "backend" }] }] } }
    let api : Service := { name := "api", ns := "backend", type := .nodePort }
    let resources : ResourceList := ⟨[shop], by simp⟩
    enqueueResources {} .httpRoute none resources api = some [] ∧
      ¬ EnqueuesReferring {} .httpRoute none resources api := by
  refine ⟨by decide, ?_⟩
  rintro ⟨result, returned, right⟩
  have nothing : result = [] := Option.some.inj (returned.symm.trans (by decide))
  subst nothing
  have queued := (right ⟨"frontend", "shop"⟩).mpr
    ⟨_, ⟨List.mem_singleton_self _, by decide, by decide⟩, rfl,
      [⟨"backend", "api"⟩], by decide, ⟨"backend", "api"⟩, List.mem_singleton_self _, Or.inl rfl⟩
  cases queued

end KubeLB.Ccm
