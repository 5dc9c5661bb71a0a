import KubeLB.Ccm.Copies
import KubeLB.Tenant.Controller

/-!
No object of a Tenant outlives it.

The argument is that of the custody protocol, for each UID of a Tenant: the finalizer is
the guard, the objects are the copy, and what the cache may still show is promised. Cleanup
may be interrupted and begun again any number of times; what it has deleted stays deleted
while it runs, since only the same worker creates the objects.
-/

namespace KubeLB.TenantLifecycle
open Runs Informer KubeObject

/-! ### The objects -/

section
variable {objects after : Objects} {uid : String}

theorem present_remove (objects : Objects) (object other : Owned) :
    (remove objects object other).present =
      if other = object then
        if object = .namespaceObject then
          (objects object).present.map fun kept => { kept with terminating := true }
        else none
      else (objects other).present := by
  unfold remove
  cases present : (objects object).present with
  | none =>
      by_cases same : other = object
      · simp [same, present]
      · simp [same]
  | some kept =>
      by_cases same : other = object
      · simp [same]
      · simp [same]

def Terminating (objects : Objects) : Prop :=
  ∃ kept, (objects .namespaceObject).present = some kept ∧ kept.terminating = true

/-- The object is there for the Tenant and nobody has begun to take it down. -/
def Stands (objects : Objects) (uid : String) (object : Owned) : Prop :=
  ∃ kept, (objects object).present = some kept ∧ kept.owner = uid ∧
    (object = .namespaceObject ∨ object = .tenantState → ¬ Terminating objects)

def Gone (objects : Objects) (object : Owned) : Prop :=
  ∀ kept, (objects object).present = some kept →
    object = .namespaceObject ∧ kept.terminating = true

def Housed (objects : Objects) : Prop :=
  ∀ object kept, (objects object).present = some kept →
    ∃ home, (objects .namespaceObject).present = some home

theorem Terminating.remove (terminating : Terminating objects) (object : Owned) :
    Terminating (remove objects object) := by
  obtain ⟨kept, present, leaves⟩ := terminating
  by_cases same : Owned.namespaceObject = object
  · subst same
    exact ⟨{ kept with terminating := true }, by simp [present_remove, present], rfl⟩
  · exact ⟨kept, by simpa [present_remove, same] using present, leaves⟩

theorem Gone.remove {object : Owned} (gone : Gone objects object) (other : Owned) :
    Gone (remove objects other) object := by
  intro kept present
  rw [present_remove] at present
  split at present
  · rename_i same
    split at present
    · rename_i isNamespace
      obtain ⟨old, _, rfl⟩ := Option.map_eq_some_iff.mp present
      exact ⟨same.trans isNamespace, rfl⟩
    · cases present
  · exact gone kept present

theorem gone_remove (objects : Objects) (object : Owned) : Gone (remove objects object) object := by
  intro kept present
  rw [present_remove, if_pos rfl] at present
  split at present
  · rename_i isNamespace
    obtain ⟨old, _, rfl⟩ := Option.map_eq_some_iff.mp present
    exact ⟨isNamespace, rfl⟩
  · cases present

theorem Stands.of_remove {object other : Owned}
    (stands : Stands (remove objects object) uid other) : Stands objects uid other := by
  obtain ⟨kept, present, owner, stays⟩ := stands
  have stays' : other = .namespaceObject ∨ other = .tenantState → ¬ Terminating objects :=
    fun leaves terminating => stays leaves (terminating.remove object)
  by_cases same : other = object
  · subst same
    obtain ⟨isNamespace, terminating⟩ := gone_remove objects other kept present
    subst isNamespace
    exact absurd ⟨kept, present, terminating⟩ (stays (Or.inl rfl))
  · rw [present_remove, if_neg same] at present
    exact ⟨kept, present, owner, stays'⟩

theorem Housed.remove (housed : Housed objects) (object : Owned) :
    Housed (remove objects object) := by
  intro other kept present
  have before : ∃ old, (objects other).present = some old := by
    rw [present_remove] at present
    split at present
    · rename_i same
      subst same
      split at present
      · obtain ⟨old, isOld, _⟩ := Option.map_eq_some_iff.mp present
        exact ⟨old, isOld⟩
      · cases present
    · exact ⟨kept, present⟩
  obtain ⟨old, isOld⟩ := before
  obtain ⟨home, isHome⟩ := housed other old isOld
  by_cases same : Owned.namespaceObject = object
  · subst same
    exact ⟨{ home with terminating := true }, by simp [present_remove, isHome]⟩
  · exact ⟨home, by simpa [present_remove, same] using isHome⟩

/-- Where all that cleanup deletes is gone, the TenantState is on its way out as well. -/
theorem not_stands_of_gone (housed : Housed objects)
    (gone : ∀ object ∈ deletion, Gone objects object) (object : Owned) :
    ¬ Stands objects uid object := by
  rintro ⟨kept, present, _, stays⟩
  have terminating (home : Kept) (isHome : (objects .namespaceObject).present = some home) :
      Terminating objects :=
    ⟨home, isHome, (gone _ (by simp [deletion]) home isHome).2⟩
  cases object with
  | namespaceObject => exact stays (Or.inl rfl) (terminating kept present)
  | tenantState =>
      obtain ⟨home, isHome⟩ := housed _ kept present
      exact stays (Or.inr rfl) (terminating home isHome)
  | serviceAccount | role | roleBinding | tokenSecret | kubeconfigSecret =>
      cases (gone _ (by simp [deletion]) kept present).1

inductive Ensured (objects : Objects) (tenant : Tenant) (object : Owned) : Objects → Prop
  | created (absent : (objects object).present = none)
      (room : object = .namespaceObject ∨ isActive objects = true) :
      Ensured objects tenant object (put objects object (some { owner := tenant.uid }))
  | claimed {kept : Kept} (isNamespace : object = .namespaceObject)
      (present : (objects object).present = some kept) :
      Ensured objects tenant object (put objects object (some { kept with owner := tenant.uid }))
  | found : Ensured objects tenant object objects

variable {tenant : Tenant} {object : Owned}

theorem ensured_of_ensure (taken : ensure objects tenant object = some after) :
    Ensured objects tenant object after := by
  unfold ensure at taken
  split at taken
  · split at taken
    · rename_i enabled
      cases taken
      exact .created enabled.1 enabled.2
    · cases taken
  · split at taken
    · rename_i differs
      split at taken
      · rename_i present
        cases taken
        exact .claimed differs.1 present
      · cases taken
    · cases taken
      exact .found

theorem Ensured.terminating (ensured : Ensured objects tenant object after)
    (terminating : Terminating objects) : Terminating after := by
  obtain ⟨kept, present, leaves⟩ := terminating
  cases ensured with
  | created absent room =>
      by_cases same : Owned.namespaceObject = object
      · subst same
        cases absent.symm.trans present
      · exact ⟨kept, by simpa [same] using present, leaves⟩
  | claimed isNamespace isKept =>
      subst isNamespace
      cases present.symm.trans isKept
      exact ⟨{ kept with owner := tenant.uid }, by simp, leaves⟩
  | found => exact ⟨kept, present, leaves⟩

/-- An object stands for the Tenant of the reconcile, or it stood before. -/
theorem Ensured.stands (ensured : Ensured objects tenant object after) {other : Owned}
    (stands : Stands after uid other) : Stands objects uid other ∨ tenant.uid = uid := by
  obtain ⟨kept, present, owner, stays⟩ := stands
  have stays' : other = .namespaceObject ∨ other = .tenantState → ¬ Terminating objects :=
    fun leaves terminating => stays leaves (ensured.terminating terminating)
  cases ensured with
  | created | claimed =>
      by_cases same : other = object
      · simp only [present_put, if_pos same, Option.some.injEq] at present
        subst present
        exact Or.inr owner
      · rw [present_put, if_neg same] at present
        exact Or.inl ⟨kept, present, owner, stays'⟩
  | found => exact Or.inl ⟨kept, present, owner, stays⟩

theorem Ensured.housed (ensured : Ensured objects tenant object after) (housed : Housed objects) :
    Housed after := by
  cases ensured with
  | created absent room =>
      intro other kept present
      by_cases same : Owned.namespaceObject = object
      · exact ⟨{ owner := tenant.uid }, by simp [same]⟩
      · have active := room.resolve_left (Ne.symm same)
        cases home : (objects .namespaceObject).present with
        | none => simp [isActive, home] at active
        | some kept => exact ⟨kept, by simpa [same] using home⟩
  | claimed isNamespace isKept =>
      subst isNamespace
      intro other kept present
      exact ⟨_, by rw [present_put, if_pos rfl]⟩
  | found => exact housed

end

/-! ### The steps -/

/-- All that a step can do, by the parts of the world it changes. -/
inductive Effect (w : World) : World → Prop
  | created {tenant : Tenant} (absent : w.tenant.present = none)
      (fresh : tenant.uid ∉ w.uids) :
      Effect w { w with
        tenant := w.tenant.write (some tenant), uids := insert tenant.uid w.uids }
  | edited {old tenant : Tenant} (present : w.tenant.present = some old)
      (uid : tenant.uid = old.uid) (deletion : tenant.deletionTimestamp = old.deletionTimestamp)
      (kept : cleanupFinalizer ∈ old.finalizers → cleanupFinalizer ∈ tenant.finalizers) :
      Effect w { w with tenant := w.tenant.write (settle tenant) }
  | deleted {old : Tenant} (present : w.tenant.present = some old) :
      Effect w { w with tenant := w.tenant.write (settle (setDeletionTimestamp old true)) }
  | delivered : Effect w { w with tenant := w.tenant.advance }
  | removed (object : Owned) : Effect w { w with objects := remove w.objects object }
  | finalized (empty : ∀ object ∈ reconciled, object ≠ .namespaceObject →
        (w.objects object).present = none) :
      Effect w { w with objects := put w.objects .namespaceObject none }
  | objectDelivered (object : Owned) : Effect w { w with objects := deliver w.objects object }
  | contents (contents : Content → Versions (Finset String)) :
      Effect w { w with contents := contents }
  | got {tenant : Tenant} (seen : w.tenant.seen = some tenant) :
      Effect w { w with task := .got tenant }
  | adopted {tenant : Tenant} (task : w.task = .got tenant)
      (alive : tenant.deletionTimestamp = false) (present : w.tenant.present = some tenant) :
      Effect w { w with
        tenant := w.tenant.write (settle (marked tenant))
        task := .keeping (marked tenant) reconciled }
  | begun {tenant : Tenant} (task : w.task = .got tenant)
      (alive : tenant.deletionTimestamp = false) (held : cleanupFinalizer ∈ tenant.finalizers) :
      Effect w { w with task := .keeping tenant reconciled }
  | ensured {tenant : Tenant} {object : Owned} {left : List Owned} {objects : Objects}
      (task : w.task = .keeping tenant (object :: left))
      (ensured : Ensured w.objects tenant object objects) :
      Effect w { w with objects := objects, task := .keeping tenant left }
  | cleanup {tenant : Tenant} (task : w.task = .got tenant)
      (deleted : tenant.deletionTimestamp = true) :
      Effect w { w with task := .clearing tenant cleanupResources }
  | cleared {tenant : Tenant} {call : ContentCall} {left : List ContentCall}
      (task : w.task = .clearing tenant (call :: left))
      (contents : Content → Versions (Finset String)) :
      Effect w { w with contents := contents, task := .clearing tenant left }
  | emptied {tenant : Tenant} (task : w.task = .clearing tenant []) :
      Effect w { w with task := .deleting tenant deletion }
  | tornDown {tenant : Tenant} {object : Owned} {left : List Owned}
      (task : w.task = .deleting tenant (object :: left)) :
      Effect w { w with objects := remove w.objects object, task := .deleting tenant left }
  | released {tenant : Tenant} (task : w.task = .deleting tenant [])
      (present : w.tenant.present = some tenant) :
      Effect w { w with tenant := w.tenant.write (settle (unmarked tenant)), task := .idle }
  | halted : Effect w w.halt
  | unchanged : Effect w w

section
variable {w w' : World}

theorem effect_callContents {tenant : Tenant} {call : ContentCall} {left : List ContentCall}
    (task : w.task = .clearing tenant (call :: left)) (kept : Finset String) :
    Effect w (w.callContents tenant call left kept) := by
  cases call with
  | deleteAllOf content => exact .cleared task _
  | list content =>
      simp only [World.callContents]
      split
      · exact .cleared task w.contents
      · exact .halted

theorem effect_call {kept : Finset String} (taken : w.call kept = some w') : Effect w w' := by
  unfold World.call at taken
  split at taken
  · cases taken
  · rename_i tenant task
    split at taken
    · rename_i deleted
      split at taken
      · cases taken
        exact .cleanup task deleted
      · cases taken
        exact .halted
    · rename_i alive
      have alive : tenant.deletionTimestamp = false := by simpa using alive
      split at taken
      · rename_i held
        cases taken
        exact .begun task alive held
      · cases taken
        unfold World.updateTenant
        split
        · rename_i present
          exact .adopted task alive present
        · exact .halted
  · cases taken
    exact .halted
  · rename_i tenant object left task
    split at taken
    · cases taken
      exact .halted
    · rename_i objects ensured
      cases taken
      exact .ensured task (ensured_of_ensure ensured)
  · rename_i tenant task
    cases taken
    exact .emptied task
  · rename_i tenant call left task
    cases taken
    exact effect_callContents task kept
  · rename_i tenant object left task
    cases taken
    exact .tornDown task
  · rename_i tenant task
    cases taken
    unfold World.updateTenant
    split
    · rename_i present
      exact .released task present
    · exact .halted

theorem effect_of_step {action : Action} (keeps : KeepsFinalizer w action)
    (taken : tenantStep w action = some w') : Effect w w' := by
  cases action with
  | create tenant =>
      simp only [tenantStep] at taken
      split at taken
      · rename_i enabled
        cases taken
        exact .created enabled.1 enabled.2.2
      · cases taken
  | edit tenant =>
      obtain ⟨old, present, taken⟩ := Option.bind_eq_some_iff.mp taken
      split at taken
      · rename_i enabled
        cases taken
        exact .edited present enabled.1 enabled.2 (keeps old present)
      · cases taken
  | delete =>
      obtain ⟨old, present, taken⟩ := Option.bind_eq_some_iff.mp taken
      cases taken
      exact .deleted present
  | deliver =>
      cases taken
      exact .delivered
  | remove object =>
      cases taken
      exact .removed object
  | finalize =>
      simp only [tenantStep] at taken
      split at taken
      · rename_i enabled
        cases taken
        exact .finalized enabled.2
      · cases taken
  | deliverObject object =>
      cases taken
      exact .objectDelivered object
  | setContents content names =>
      cases taken
      exact .contents _
  | deliverContents content =>
      cases taken
      exact .contents _
  | get =>
      simp only [tenantStep] at taken
      split at taken
      · rename_i seen
        cases taken
        exact .got seen
      · cases taken
        exact .unchanged
      · cases taken
  | call kept failed =>
      simp only [tenantStep] at taken
      split at taken
      · cases taken
        exact .halted
      · exact effect_call taken
  | stop =>
      cases taken
      exact .halted

end

/-! ### The Tenant and its cache -/

namespace Task

def inHand : Task → Option Tenant
  | .idle => none
  | .got tenant | .keeping tenant _ | .clearing tenant _ | .deleting tenant _ => some tenant

def cleaned : Task → Option Tenant
  | .clearing tenant _ | .deleting tenant _ => some tenant
  | _ => none

end Task

open Ccm (StaysDeleted)

/-- What holds between the versions of the Tenant, the UIDs and the worker. -/
structure Ordered (w : World) : Prop where
  assigned : ∀ tenant, some tenant ∈ w.tenant.all → tenant.uid ∈ w.uids
  lasting : w.tenant.all.Pairwise StaysDeleted
  read : ∀ tenant, w.task.inHand = some tenant → tenant.uid ∈ w.uids
  /-- A reconcile that has seen the deletion is past the versions before it. -/
  passed : ∀ tenant, w.task.inHand = some tenant → tenant.deletionTimestamp = true →
    ∀ shown ∈ w.tenant.all, StaysDeleted (some tenant) shown
  deleted : ∀ tenant, w.task.cleaned = some tenant → tenant.deletionTimestamp = true

section
variable {w w' : World}

theorem ordered_empty : Ordered {} := by
  refine ⟨?_, List.pairwise_singleton _ _, ?_, ?_, ?_⟩
  · intro tenant shown
    simp [Versions.all] at shown
  · rintro tenant ⟨⟩
  · rintro tenant ⟨⟩
  · rintro tenant ⟨⟩

theorem Ordered.moves (ordered : Ordered w) {task : Task} (objects : Objects)
    (contents : Content → Versions (Finset String))
    (same : ∀ tenant, task.inHand = some tenant → w.task.inHand = some tenant)
    (deleted : ∀ tenant, task.cleaned = some tenant → tenant.deletionTimestamp = true) :
    Ordered { w with objects := objects, contents := contents, task := task } := by
  refine ⟨ordered.assigned, ordered.lasting, ?_, ?_, deleted⟩
  · intro tenant held
    exact ordered.read tenant (same tenant held)
  · intro tenant held
    exact ordered.passed tenant (same tenant held)

theorem Ordered.halt (ordered : Ordered w) : Ordered w.halt :=
  ordered.moves w.objects w.contents (by rintro _ ⟨⟩) (by rintro _ ⟨⟩)

theorem Ordered.deliver (ordered : Ordered w) :
    Ordered { w with tenant := w.tenant.advance } := by
  have earlier : ∀ {shown}, shown ∈ w.tenant.advance.all → shown ∈ w.tenant.all :=
    fun isShown => w.tenant.all_advance.subset isShown
  refine ⟨?_, Versions.pairwise_advance ordered.lasting, ordered.read, ?_, ordered.deleted⟩
  · intro tenant shown
    exact ordered.assigned tenant (earlier shown)
  · intro tenant held deleted shown isShown
    exact ordered.passed tenant held deleted shown (earlier isShown)

theorem Ordered.got (ordered : Ordered w) {tenant : Tenant} (seen : w.tenant.seen = some tenant) :
    Ordered { w with task := .got tenant } := by
  refine ⟨ordered.assigned, ordered.lasting, ?_, ?_, ?_⟩
  · rintro _ ⟨⟩
    exact ordered.assigned tenant (seen ▸ w.tenant.seen_mem)
  · rintro _ ⟨⟩ _ shown isShown
    rcases Versions.rel_seen ordered.lasting isShown with rfl | later
    · rw [seen]
      exact StaysDeleted.refl _
    · rwa [seen] at later
  · rintro _ ⟨⟩

theorem Ordered.create (ordered : Ordered w) {tenant : Tenant} (fresh : tenant.uid ∉ w.uids) :
    Ordered { w with
      tenant := w.tenant.write (some tenant), uids := insert tenant.uid w.uids } := by
  have later {other : Tenant} (assigned : other.uid ∈ w.uids) :
      StaysDeleted (some other) (some tenant) := by
    rintro _ ⟨⟩ _ ⟨⟩ same
    exact absurd (same ▸ assigned : tenant.uid ∈ w.uids) fresh
  refine ⟨?_, ?_, ?_, ?_, ordered.deleted⟩
  · intro other shown
    rw [Versions.all_write, List.mem_append, List.mem_singleton, Option.some.injEq] at shown
    rcases shown with earlier | rfl
    · exact Finset.mem_insert_of_mem (ordered.assigned other earlier)
    · exact Finset.mem_insert_self _ _
  · refine Versions.pairwise_write ordered.lasting fun earlier shown => ?_
    cases earlier with
    | none => rintro _ ⟨⟩
    | some other => exact later (ordered.assigned other shown)
  · intro other held
    exact Finset.mem_insert_of_mem (ordered.read other held)
  · intro other held deleted
    refine Versions.forall_mem_all_write.mpr ⟨ordered.passed other held deleted, ?_⟩
    exact later (ordered.read other held)

/-- The Tenant is written: the UID stays and a deletion is not taken back. -/
theorem Ordered.write (ordered : Ordered w) {old : Tenant}
    (present : w.tenant.present = some old) (tenant : Tenant) (uid : tenant.uid = old.uid)
    (deletion : old.deletionTimestamp = true → tenant.deletionTimestamp = true) :
    Ordered { w with tenant := w.tenant.write (settle tenant) } := by
  have shown : some old ∈ w.tenant.all := present ▸ w.tenant.present_mem
  refine ⟨?_, ?_, ordered.read, ?_, ordered.deleted⟩
  · intro other isShown
    rw [Versions.all_write, List.mem_append, List.mem_singleton] at isShown
    rcases isShown with earlier | isNew
    · exact ordered.assigned other earlier
    · rw [settle_eq_some isNew.symm, uid]
      exact ordered.assigned old shown
  · refine Versions.pairwise_write ordered.lasting fun earlier isShown => ?_
    have before : StaysDeleted earlier (some old) := by
      rcases Versions.rel_present ordered.lasting isShown with rfl | before
      · exact present ▸ StaysDeleted.refl _
      · rwa [present] at before
    exact before.settle uid deletion
  · intro other held deleted
    refine Versions.forall_mem_all_write.mpr ⟨ordered.passed other held deleted, ?_⟩
    exact (ordered.passed other held deleted (some old) shown).settle uid deletion

theorem Ordered.step (ordered : Ordered w) (effect : Effect w w') : Ordered w' := by
  cases effect with
  | created absent fresh => exact ordered.create fresh
  | @edited old tenant present uid deletion kept =>
      exact ordered.write present tenant uid fun deleted => deletion.trans deleted
  | @deleted old present =>
      exact ordered.write present (setDeletionTimestamp old true) rfl fun _ => rfl
  | delivered => exact ordered.deliver
  | removed | finalized | objectDelivered | contents =>
      exact ordered.moves _ _ (fun _ held => held) ordered.deleted
  | got seen => exact ordered.got seen
  | @adopted tenant task alive present =>
      have written := ordered.write present (marked tenant) rfl fun deleted => deleted
      refine ⟨written.assigned, written.lasting, ?_, ?_, ?_⟩
      · rintro _ ⟨⟩
        exact ordered.read tenant (by rw [task]; rfl)
      · rintro _ ⟨⟩ deleted
        exact absurd (alive.symm.trans deleted) (by decide)
      · rintro _ ⟨⟩
  | begun task alive held | ensured task ensured =>
      refine ordered.moves _ _ (fun _ held => ?_) (by rintro _ ⟨⟩)
      rw [task]
      exact held
  | cleanup task deleted =>
      refine ordered.moves _ _ (fun _ held => ?_) ?_
      · rw [task]
        exact held
      · rintro _ ⟨⟩
        exact deleted
  | cleared task contents | emptied task | tornDown task =>
      refine ordered.moves _ _ (fun _ held => ?_) fun _ cleaned => ?_
      · rw [task]
        exact held
      · refine ordered.deleted _ ?_
        rw [task]
        exact cleaned
  | @released tenant task present =>
      exact (ordered.write present (unmarked tenant) rfl fun deleted => deleted).halt
  | halted => exact ordered.halt
  | unchanged => exact ordered

end

/-! ### Where the objects are -/

structure Placed (w : World) : Prop where
  housed : Housed w.objects
  /-- What cleanup has deleted does not come back while it runs. -/
  torn : ∀ tenant left, w.task = .deleting tenant left →
    ∃ done, deletion = done ++ left ∧ ∀ object ∈ done, Gone w.objects object

section
variable {w w' : World}

theorem placed_empty : Placed {} := by
  refine ⟨?_, ?_⟩
  · rintro object kept ⟨⟩
  · rintro tenant left ⟨⟩

theorem Placed.remove (placed : Placed w) (object : Owned) :
    Placed { w with objects := remove w.objects object } := by
  refine ⟨placed.housed.remove object, ?_⟩
  intro tenant left task
  obtain ⟨done, split, gone⟩ := placed.torn tenant left task
  exact ⟨done, split, fun other isDone => (gone other isDone).remove object⟩

theorem Placed.finalize (placed : Placed w)
    (empty : ∀ object ∈ reconciled, object ≠ .namespaceObject →
      (w.objects object).present = none) :
    Placed { w with objects := put w.objects .namespaceObject none } := by
  have absent : ∀ object kept,
      (put w.objects .namespaceObject none object).present ≠ some kept := by
    intro object kept present
    rw [present_put] at present
    split at present
    · cases present
    · rename_i other
      have listed : object ∈ reconciled := by cases object <;> simp [reconciled]
      rw [empty object listed other] at present
      cases present
  refine ⟨?_, ?_⟩
  · intro object kept present
    exact absurd present (absent object kept)
  · intro tenant left task
    obtain ⟨done, split, _⟩ := placed.torn tenant left task
    exact ⟨done, split, fun object _ kept present => absurd present (absent object kept)⟩

theorem Placed.step (placed : Placed w) (effect : Effect w w') : Placed w' := by
  cases effect with
  | created | edited | deleted | delivered | contents => exact ⟨placed.housed, placed.torn⟩
  | removed object => exact placed.remove object
  | finalized empty => exact placed.finalize empty
  | objectDelivered object =>
      refine ⟨?_, ?_⟩
      · intro other kept present
        simpa using placed.housed other kept (by simpa using present)
      · intro tenant left task
        obtain ⟨done, split, gone⟩ := placed.torn tenant left task
        exact ⟨done, split, fun other isDone kept present =>
          gone other isDone kept (by simpa using present)⟩
  | got | adopted | begun | cleanup | cleared | halted | released =>
      refine ⟨placed.housed, ?_⟩
      rintro _ _ ⟨⟩
  | ensured task ensured =>
      refine ⟨ensured.housed placed.housed, ?_⟩
      rintro _ _ ⟨⟩
  | emptied task =>
      refine ⟨placed.housed, ?_⟩
      rintro _ _ ⟨⟩
      exact ⟨[], rfl, by simp⟩
  | @tornDown tenant object left task =>
      obtain ⟨done, split, gone⟩ := placed.torn tenant _ task
      refine ⟨placed.housed.remove object, ?_⟩
      rintro _ _ ⟨⟩
      refine ⟨done ++ [object], by simp [split], ?_⟩
      intro other isDone
      rcases List.mem_append.mp isDone with earlier | last
      · exact (gone other earlier).remove object
      · rw [List.mem_singleton.mp last]
        exact gone_remove _ _
  | unchanged => exact placed

end

/-! ### Custody -/

structure Holds (uid : String) (tenant : Tenant) : Prop where
  uid : tenant.uid = uid
  held : cleanupFinalizer ∈ tenant.finalizers

inductive Arms : Task → Tenant → Prop
  | got {tenant : Tenant} (alive : tenant.deletionTimestamp = false)
      (held : cleanupFinalizer ∈ tenant.finalizers) : Arms (.got tenant) tenant
  | keeping (tenant : Tenant) (left : List Owned) : Arms (.keeping tenant left) tenant

/-- The custody of one UID. -/
def custody (uid : String) (w : World) : Custody.State where
  guarded := ∃ tenant, w.tenant.present = some tenant ∧ Holds uid tenant
  copied := ∃ object, Stands w.objects uid object
  promised := ∃ tenant, some tenant ∈ w.tenant.all ∧ Holds uid tenant ∧
    tenant.deletionTimestamp = false
  armed := ∃ tenant, Arms w.task tenant ∧ tenant.uid = uid
  cleared := ∃ tenant, w.task = .deleting tenant [] ∧ tenant.uid = uid

section
variable {w w' : World} {uid : String}

theorem Placed.not_copied (placed : Placed w) (cleared : (custody uid w).cleared) :
    ¬ (custody uid w).copied := by
  obtain ⟨tenant, task, _⟩ := cleared
  obtain ⟨done, split, gone⟩ := placed.torn tenant [] task
  rw [List.append_nil] at split
  rintro ⟨object, stands⟩
  exact not_stands_of_gone placed.housed (split ▸ gone) object stands

theorem step_of_same_tenant (placed : Placed w') (same : w'.tenant = w.tenant)
    (copies : ∀ object, Stands w'.objects uid object →
      (∃ object, Stands w.objects uid object) ∨ (custody uid w).armed)
    (arms : ∀ tenant, Arms w'.task tenant → Arms w.task tenant ∨
      some tenant ∈ w.tenant.all ∧ cleanupFinalizer ∈ tenant.finalizers ∧
        tenant.deletionTimestamp = false) :
    Custody.Step (custody uid w) (custody uid w') := by
  refine ⟨?_, ?_, ?_, placed.not_copied, ?_⟩
  · rintro ⟨object, stands⟩
    exact copies object stands
  · rintro ⟨tenant, armed, isUid⟩
    rcases arms tenant armed with before | ⟨shown, held, alive⟩
    · exact Or.inl ⟨tenant, before, isUid⟩
    · exact Or.inr (Or.inl ⟨tenant, shown, ⟨isUid, held⟩, alive⟩)
  · rintro ⟨tenant, shown, promised⟩
    exact Or.inl ⟨tenant, same ▸ shown, promised⟩
  · rintro ⟨tenant, present, holds⟩
    exact Or.inl ⟨tenant, same ▸ present, holds⟩

theorem step_of_write (placed : Placed w') {old tenant : Tenant}
    (present : w.tenant.present = some old) (objects : w'.objects = w.objects)
    (written : w'.tenant = w.tenant.write (settle tenant))
    (held : Holds uid old → Holds uid tenant)
    (arms : ∀ other, Arms w'.task other → Arms w.task other ∨
      other = tenant ∧ cleanupFinalizer ∈ tenant.finalizers) :
    Custody.Step (custody uid w) (custody uid w') := by
  have guards (holds : Holds uid tenant) : (custody uid w').guarded := by
    refine ⟨tenant, ?_, holds⟩
    rw [written]
    exact settle_of_mem holds.held
  refine ⟨?_, ?_, ?_, placed.not_copied, ?_⟩
  · rintro ⟨object, stands⟩
    exact Or.inl ⟨object, objects ▸ stands⟩
  · rintro ⟨other, armed, isUid⟩
    rcases arms other armed with before | ⟨rfl, isHeld⟩
    · exact Or.inl ⟨other, before, isUid⟩
    · exact Or.inr (Or.inr (guards ⟨isUid, isHeld⟩))
  · rintro ⟨other, shown, holds, alive⟩
    rw [written, Versions.all_write, List.mem_append, List.mem_singleton] at shown
    rcases shown with earlier | isNew
    · exact Or.inl ⟨other, earlier, holds, alive⟩
    · rw [settle_eq_some isNew.symm] at holds
      exact Or.inr (guards holds)
  · rintro ⟨other, isPresent, holds⟩
    cases present.symm.trans isPresent
    exact Or.inl (guards (held holds))

theorem step_of_create (placed : Placed w) {tenant : Tenant} (absent : w.tenant.present = none) :
    Custody.Step (custody uid w) (custody uid { w with
      tenant := w.tenant.write (some tenant), uids := insert tenant.uid w.uids }) := by
  refine ⟨Or.inl, Or.inl, ?_, placed.not_copied, ?_⟩
  · rintro ⟨other, shown, holds, alive⟩
    simp only [Versions.all_write, List.mem_append, List.mem_singleton, Option.some.injEq] at shown
    rcases shown with earlier | rfl
    · exact Or.inl ⟨other, earlier, holds, alive⟩
    · exact Or.inr ⟨other, rfl, holds⟩
  · rintro ⟨other, present, _⟩
    cases absent.symm.trans present

/-- The finalizer comes off: the cache is past all versions of the Tenant that were not
being deleted. -/
theorem step_of_release (ordered : Ordered w) {tenant : Tenant}
    (task : w.task = .deleting tenant []) (present : w.tenant.present = some tenant) :
    Custody.Step (custody uid w) (custody uid { w with
      tenant := w.tenant.write (settle (unmarked tenant)), task := .idle }) := by
  have deleted := ordered.deleted tenant (by rw [task]; rfl)
  have promised : (custody uid { w with
      tenant := w.tenant.write (settle (unmarked tenant)), task := .idle }).promised →
      (custody uid w).promised := by
    rintro ⟨other, shown, holds, alive⟩
    simp only [Versions.all_write, List.mem_append, List.mem_singleton] at shown
    rcases shown with earlier | isNew
    · exact ⟨other, earlier, holds, alive⟩
    · have released := settle_eq_some isNew.symm ▸ holds.held
      simp [unmarked, setFinalizers, withMeta, removeFinalizer] at released
  refine ⟨Or.inl, ?_, fun later => Or.inl (promised later), ?_, ?_⟩
  · rintro ⟨_, ⟨⟩, _⟩
  · rintro ⟨_, ⟨⟩, _⟩
  · rintro ⟨other, isPresent, holds⟩
    cases present.symm.trans isPresent
    refine Or.inr ⟨⟨tenant, task, holds.uid⟩, id, ?_, ?_⟩
    · rintro ⟨_, ⟨⟩, _⟩
    · intro later
      obtain ⟨shown, isShown, holds', alive⟩ := promised later
      have late := ordered.passed tenant (by rw [task]; rfl) deleted _ isShown tenant rfl shown rfl
        (holds'.uid.trans holds.uid.symm) deleted
      exact absurd (late.symm.trans alive) (by decide)

theorem custody_step (ordered : Ordered w) (placed : Placed w) (effect : Effect w w') :
    Custody.Step (custody uid w) (custody uid w') := by
  have placed' := placed.step effect
  have same : ∀ object, Stands w.objects uid object →
      (∃ object, Stands w.objects uid object) ∨ (custody uid w).armed :=
    fun object stands => Or.inl ⟨object, stands⟩
  cases effect with
  | created absent fresh => exact step_of_create placed absent
  | edited present isUid deletion kept =>
      refine step_of_write placed' present rfl rfl (fun holds => ?_) fun _ => Or.inl
      exact ⟨isUid.trans holds.uid, kept holds.held⟩
  | deleted present =>
      exact step_of_write placed' present rfl rfl (fun holds => ⟨holds.uid, holds.held⟩)
        fun _ => Or.inl
  | delivered =>
      refine ⟨Or.inl, Or.inl, ?_, placed'.not_copied, Or.inl⟩
      rintro ⟨tenant, shown, promised⟩
      exact Or.inl ⟨tenant, w.tenant.all_advance.subset shown, promised⟩
  | removed object =>
      exact step_of_same_tenant placed' rfl (fun other stands => same other stands.of_remove)
        fun _ => Or.inl
  | finalized empty =>
      refine step_of_same_tenant placed' rfl (fun other stands => ?_) fun _ => Or.inl
      obtain ⟨kept, present, _⟩ := stands
      obtain ⟨home, isHome⟩ := placed'.housed other kept present
      simp at isHome
  | objectDelivered object =>
      refine step_of_same_tenant placed' rfl (fun other stands => same other ?_) fun _ => Or.inl
      simpa [Stands, Terminating] using stands
  | contents => exact step_of_same_tenant placed' rfl same fun _ => Or.inl
  | got seen =>
      refine step_of_same_tenant placed' rfl same fun tenant armed => Or.inr ?_
      cases armed with
      | got alive held => exact ⟨seen ▸ w.tenant.seen_mem, held, alive⟩
  | @adopted tenant task alive present =>
      refine step_of_write placed' present rfl rfl (fun holds => ?_) fun other armed => ?_
      · exact ⟨holds.uid, mem_addFinalizer _ _⟩
      · cases armed with
        | keeping => exact Or.inr ⟨rfl, mem_addFinalizer _ _⟩
  | begun task alive held =>
      refine step_of_same_tenant placed' rfl same fun tenant armed => Or.inl ?_
      cases armed with
      | keeping =>
          rw [task]
          exact .got alive held
  | @ensured tenant object left objects task ensured =>
      have armed : Arms w.task tenant := task ▸ .keeping tenant _
      refine step_of_same_tenant placed' rfl (fun other stands => ?_) fun other arms => Or.inl ?_
      · rcases ensured.stands stands with before | isUid
        · exact Or.inl ⟨other, before⟩
        · exact Or.inr ⟨tenant, armed, isUid⟩
      · cases arms with
        | keeping => exact armed
  | tornDown task =>
      refine step_of_same_tenant placed' rfl (fun other stands => same other stands.of_remove) ?_
      rintro _ ⟨⟩
  | cleanup | cleared | emptied | halted =>
      refine step_of_same_tenant placed' rfl same ?_
      rintro _ ⟨⟩
  | released task present => exact step_of_release ordered task present
  | unchanged => exact step_of_same_tenant placed' rfl same fun _ => Or.inl

end

/-- In every interleaving, each object that stands for a Tenant has this Tenant, with the
finalizer on it: neither the Namespace nor an account, a role, a token or a kubeconfig in
it outlives the Tenant it was made for, also if a Tenant of the same name comes back. -/
theorem tenant_outlives_its_objects {actions : List Action}
    (keeps : EachStep tenantStep {} actions fun w action _ => KeepsFinalizer w action) :
    Throughout tenantStep {} actions fun w => ∀ uid object, Stands w.objects uid object →
      ∃ tenant, w.tenant.present = some tenant ∧ tenant.uid = uid ∧
        cleanupFinalizer ∈ tenant.finalizers := by
  have sound : Throughout tenantStep {} actions fun w =>
      ∀ uid, Custody.Sound (custody uid w) := by
    refine Custody.throughout_sound (P := fun w => Ordered w ∧ Placed w)
      ⟨⟨ordered_empty, placed_empty⟩, fun uid => ?_⟩ ?_ ?_ keeps
    · refine ⟨?_, fun cleared => placed_empty.not_copied cleared⟩
      rintro (⟨_, _, ⟨⟩, _⟩ | ⟨_, ⟨⟩, _⟩ | ⟨_, shown, _⟩)
      simp [Versions.all] at shown
    · rintro w action w' ⟨ordered, placed⟩ kept taken
      have effect := effect_of_step kept taken
      exact ⟨ordered.step effect, placed.step effect⟩
    · rintro w action w' ⟨ordered, placed⟩ kept taken uid _
      exact custody_step ordered placed (effect_of_step kept taken)
  intro before w small reached uid object stands
  obtain ⟨tenant, present, holds⟩ :=
    (sound before w small reached uid).guarded (Or.inl ⟨object, stands⟩)
  exact ⟨tenant, present, holds.uid, holds.held⟩

def startedActions : List Action :=
  [.create ⟨{ name := "primary", uid := "u" }⟩, .deliver, .get, .call ∅ false, .call ∅ false]

theorem tenant_outlives_its_objects_started :
    ∃ w, run tenantStep {} startedActions = some w ∧
      Stands w.objects "u" .namespaceObject ∧
      ∃ tenant, w.tenant.present = some tenant ∧ tenant.uid = "u" ∧
        cleanupFinalizer ∈ tenant.finalizers := by
  have keeps : EachStep tenantStep {} startedActions fun w action _ => KeepsFinalizer w action := by
    intro before action w w' small _ _
    have listed : action ∈ startedActions :=
      small.subset (List.mem_append_right _ (List.mem_singleton_self _))
    simp only [startedActions, List.mem_cons, List.not_mem_nil, or_false] at listed
    rcases listed with rfl | rfl | rfl | rfl | rfl <;> trivial
  obtain ⟨w, reached, stands⟩ : ∃ w, run tenantStep {} startedActions = some w ∧
      Stands w.objects "u" .namespaceObject := by
    refine ⟨_, rfl, { owner := "u" }, rfl, rfl, fun _ => ?_⟩
    rintro ⟨kept, present, terminating⟩
    cases present
    cases terminating
  exact ⟨w, reached, stands, tenant_outlives_its_objects keeps startedActions w
    List.prefix_rfl reached "u" .namespaceObject stands⟩

end KubeLB.TenantLifecycle
