import KubeLB.Ccm.Layer7
import KubeLB.Foundation.Runs

/-!
Whether the deletion of a resource that the CCM has put its finalizer on reaches
cleanup.

Reconcile itself looks at the deletion timestamp before it asks whether the resource
is managed. The events are filtered before they are queued, by what the resource is
at that moment, and the user may have changed it since the finalizer was set.
-/

namespace KubeLB.Ccm
open Runs

/-- An object of the tenant cluster, until it is gone, and the Services of the cluster. -/
structure ResourceState where
  resource : Option TenantResource
  services : ServiceStore := ∅

inductive ResourceAction
  /-- The user changes the class, the references or the parents. -/
  | edit (spec : ResourceSpec)
  /-- The deletion is asked for. -/
  | delete
  | reconcile (env : ResourceEnv)
  /-- Services of the cluster change. -/
  | setServices (services : ServiceStore)

def marked (resource : TenantResource) : TenantResource :=
  { resource with deletionTimestamp := true }

def resourceStep (r : ResourceReconciler) (state : ResourceState) :
    ResourceAction → Option ResourceState
  | .edit spec => do
      let resource ← state.resource
      if spec.kind = resource.kind then
        return { state with resource := some { resource with spec := spec } }
      else none
  | .delete => do
      let resource ← state.resource
      return { state with resource := settled (marked resource) }
  | .reconcile env => do
      let resource ← state.resource
      let reconciled := reconcileResource r env state.services resource
      return { resource := settled reconciled.2, services := reconciled.1 }
  | .setServices services => some { state with services := services }

/-- The deletion of a resource with the finalizer passes the filter, and then cleanup
is reached. -/
def DeletionSeen (r : ResourceReconciler) (before : ResourceState) (action : ResourceAction)
    (after : ResourceState) : Prop :=
  match action with
  | .delete => ∀ resource, before.resource = some resource →
      resource.deletionTimestamp = false → cleanupFinalizer ∈ resource.finalizers →
        after.resource = some (marked resource) ∧
          resourceFilter r (.update resource (marked resource)) = true ∧
          ∀ env, env.get = none → ReachesCleanup env (marked resource)
  | _ => True

def Adopted (r : ResourceReconciler) (init : ResourceState) (actions : List ResourceAction) :
    Prop :=
  ∃ earlier env state resource, earlier ++ [.reconcile env] <+: actions ∧
    run (resourceStep r) init earlier = some state ∧ state.resource = some resource ∧
    Adopts r env resource

section
variable {r : ResourceReconciler} {init : ResourceState}

theorem eq_of_settled {resource after : TenantResource} (kept : settled resource = some after) :
    after = resource := by
  unfold settled at kept
  split at kept
  · cases kept
  · exact (Option.some.inj kept).symm

theorem settled_of_mem {resource : TenantResource} {finalizer : String}
    (held : finalizer ∈ resource.finalizers) : settled resource = some resource := by
  have stays : resource.isGone = false := by
    simp [ObjectMeta.isGone, List.ne_nil_of_mem held]
  simp [settled, stays]

theorem cleanupResource_deletionTimestamp (env : ResourceEnv) (store : ServiceStore)
    (resource : TenantResource) :
    (cleanupResource env store resource).2.deletionTimestamp = resource.deletionTimestamp := by
  unfold cleanupResource
  split
  · rfl
  · split <;> rfl

theorem not_adopted_nil : ¬ Adopted r init [] := by
  rintro ⟨earlier, env, state, resource, small, _⟩
  simp at small

/-- Whether a longer run has adopted the resource is decided by its last step. -/
theorem adopted_concat {actions : List ResourceAction} {action : ResourceAction}
    {state : ResourceState} (reached : run (resourceStep r) init actions = some state) :
    Adopted r init (actions ++ [action]) ↔ Adopted r init actions ∨
      ∃ env resource, action = .reconcile env ∧ state.resource = some resource ∧
        Adopts r env resource := by
  constructor
  · rintro ⟨earlier, env, before, resource, small, atBefore, present, adopts⟩
    obtain same | shorter := List.prefix_concat_iff.mp small
    · obtain ⟨rfl, last⟩ := List.append_inj' same rfl
      cases last
      cases reached.symm.trans atBefore
      exact Or.inr ⟨env, resource, rfl, present, adopts⟩
    · exact Or.inl ⟨earlier, env, before, resource, shorter, atBefore, present, adopts⟩
  · rintro (⟨earlier, env, before, resource, small, adopted⟩ | ⟨env, resource, rfl, adopted⟩)
    · exact ⟨earlier, env, before, resource, small.trans (List.prefix_append _ _), adopted⟩
    · exact ⟨actions, env, state, resource, List.prefix_rfl, reached, adopted⟩

/-- All that a step can do to a resource that is not being deleted after it. -/
theorem resourceStep_alive {before after : ResourceState} {action : ResourceAction}
    {resource' : TenantResource} (taken : resourceStep r before action = some after)
    (present : after.resource = some resource') (alive : resource'.deletionTimestamp = false) :
    ∃ resource, before.resource = some resource ∧ resource.deletionTimestamp = false ∧
      ((∃ env, action = .reconcile env ∧ Adopts r env resource ∧
          cleanupFinalizer ∈ resource'.finalizers) ∨
        ((∀ env, action = .reconcile env → ¬ Adopts r env resource) ∧
          resource'.finalizers = resource.finalizers)) := by
  cases action with
  | setServices services =>
      cases taken
      exact ⟨resource', present, alive, Or.inr ⟨by simp, rfl⟩⟩
  | edit spec =>
      obtain ⟨resource, atBefore, taken⟩ := Option.bind_eq_some_iff.mp taken
      split at taken
      · cases taken
        cases present
        exact ⟨resource, atBefore, alive, Or.inr ⟨by simp, rfl⟩⟩
      · cases taken
  | delete =>
      obtain ⟨resource, atBefore, taken⟩ := Option.bind_eq_some_iff.mp taken
      cases taken
      cases eq_of_settled present
      cases alive
  | reconcile env =>
      obtain ⟨resource, atBefore, taken⟩ := Option.bind_eq_some_iff.mp taken
      have kept : resource' = (reconcileResource r env before.services resource).2 := by
        rw [← Option.some.inj taken] at present
        exact eq_of_settled present
      refine ⟨resource, atBefore, ?_⟩
      obtain ⟨reaches, cleaned⟩ | ⟨_, _, ⟨adopts, after'⟩ | ⟨not, after'⟩⟩ :=
        reconcileResource_cases r env before.services resource
      · rw [kept, cleaned, cleanupResource_deletionTimestamp, reaches.deleted] at alive
        cases alive
      · rw [kept, after']
        exact ⟨adopts.alive, Or.inl ⟨env, rfl, adopts, mem_addFinalizer _ _⟩⟩
      · rw [after'] at kept
        rw [kept] at alive ⊢
        refine ⟨alive, Or.inr ⟨?_, rfl⟩⟩
        rintro env' same
        cases same
        exact not

/-- The finalizer is a record of the past: a live resource has it exactly when an
earlier reconcile has put it there. -/
theorem finalizer_iff_adopted
    (fresh : ∀ resource, init.resource = some resource → cleanupFinalizer ∉ resource.finalizers)
    {actions : List ResourceAction} {state : ResourceState} {resource : TenantResource}
    (reached : run (resourceStep r) init actions = some state)
    (present : state.resource = some resource) (alive : resource.deletionTimestamp = false) :
    cleanupFinalizer ∈ resource.finalizers ↔ Adopted r init actions := by
  induction actions using List.reverseRecOn generalizing state resource with
  | nil =>
      cases reached
      exact iff_of_false (fresh resource present) not_adopted_nil
  | append_singleton actions action ih =>
      rw [run_concat] at reached
      obtain ⟨before, atBefore, taken⟩ := Option.bind_eq_some_iff.mp reached
      obtain ⟨old, atOld, oldAlive, ⟨env, rfl, adopts, held⟩ | ⟨not, same⟩⟩ :=
        resourceStep_alive taken present alive
      · have adopted := (adopted_concat atBefore).mpr (Or.inr ⟨env, old, rfl, atOld, adopts⟩)
        exact iff_of_true held adopted
      · rw [same, ih atBefore atOld oldAlive, adopted_concat atBefore]
        refine ⟨Or.inl, ?_⟩
        rintro (adopted | ⟨env, held, now, present', adopts⟩)
        · exact adopted
        · cases atOld.symm.trans present'
          exact absurd adopts (not env now)

end

/-- In every run of edits and reconciles on a resource that starts without the
finalizer, its deletion is seen whenever it has the finalizer, exactly when no
resource is deleted that was adopted once and is not managed any more. -/
theorem deletion_seen_iff (r : ResourceReconciler) (init : ResourceState)
    (fresh : ∀ resource, init.resource = some resource → cleanupFinalizer ∉ resource.finalizers)
    (actions : List ResourceAction) :
    EachStep (resourceStep r) init actions (DeletionSeen r) ↔
      ∀ before state resource, before ++ [.delete] <+: actions →
        run (resourceStep r) init before = some state → state.resource = some resource →
        resource.deletionTimestamp = false → Adopted r init before →
          managed r resource = true := by
  constructor
  · intro seen before state resource small reached present alive adopted
    have held := (finalizer_iff_adopted fresh reached present alive).mpr adopted
    have taken : resourceStep r state .delete =
        some { state with resource := settled (marked resource) } := by
      simp only [resourceStep, present]
      rfl
    exact (seen before .delete state _ small reached taken resource present alive held).2.1
  · intro stays before action state after small reached taken
    cases action with
    | edit spec => exact True.intro
    | reconcile env => exact True.intro
    | setServices services => exact True.intro
    | delete =>
        intro resource present alive held
        have adopted := (finalizer_iff_adopted fresh reached present alive).mp held
        refine ⟨?_, stays before state resource small reached present alive adopted, ?_⟩
        · simp only [resourceStep, present] at taken
          rw [← Option.some.inj taken]
          have kept : settled (marked resource) = some (marked resource) := settled_of_mem held
          exact kept
        · exact fun env read => ⟨read, rfl, held⟩

/-- An adopted Ingress that is deleted with the class it had. -/
theorem deletion_seen_kept_class :
    EachStep (resourceStep { useIngressClass := true })
      { resource := some { name := "shop", ns := "default"
                           spec := .ingress { ingressClassName := some "kubelb" } } }
      [.reconcile {}, .delete] (DeletionSeen { useIngressClass := true }) := by
  refine (deletion_seen_iff _ _ ?_ _).mpr ?_
  · rintro resource ⟨⟩
    decide
  · intro before state resource small reached present _ _
    cases before with
    | nil => simp at small
    | cons first before =>
        obtain ⟨rfl, small⟩ := List.cons_prefix_cons.mp small
        cases before with
        | nil =>
            cases reached
            cases present
            decide
        | cons second before => simp at small

/-- The class of an adopted Ingress is changed, then it is deleted: the event does not
pass, and the finalizer stays. -/
theorem changed_class_deletion_dropped :
    ¬ EachStep (resourceStep { useIngressClass := true })
      { resource := some { name := "shop", ns := "default"
                           spec := .ingress { ingressClassName := some "kubelb" } } }
      [.reconcile {}, .edit (.ingress { ingressClassName := some "nginx" }), .delete]
      (DeletionSeen { useIngressClass := true }) := by
  intro seen
  have last := seen [.reconcile {}, .edit (.ingress { ingressClassName := some "nginx" })] .delete
    _ _ List.prefix_rfl rfl rfl _ rfl (by decide) (by decide)
  exact absurd last.2.1 (by decide)

end KubeLB.Ccm
