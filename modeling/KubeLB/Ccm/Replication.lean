import KubeLB.Foundation.Custody
import KubeLB.Foundation.Informer
import KubeLB.Ccm.Service

/-!
The controllers of the CCM that keep a copy of an object in the LB cluster, request
by request.

They are one text: Get the object, clean up if it is being deleted, put the cleanup
finalizer on it, then create or update the copy under the UID of the object in the
namespace of the tenant. They differ in what the copy is made of and in cleanup,
where some look the copy up before they delete it.

Reads come from the caches of the two managers, each of which lags behind its
cluster. A write goes through if the object it was made from is still the present
one; a Create if there is none. Between two requests of a reconcile users, other
controllers and the manager act, in any order. A request may fail at any time, which
ends the reconcile; so does a restart of the CCM. Each controller has one worker.
-/

namespace KubeLB.Ccm
open FiniteMap Runs Informer KubeObject

/-- A controller that keeps a copy, a `β`, of each object, an `α`, that it manages.
`ι` is what else the copy is made of. -/
structure Replicator (α β ι : Type) where
  managed : α → Bool
  /-- The finalizers for which an object that is being deleted is cleaned up. -/
  cleans : List String → Bool
  adopt : List String → List String
  release : List String → List String
  desired : α → ι → β
  /-- The update of a copy that is not as desired. -/
  revise : α → ι → β → Option β
  /-- Cleanup reads the copy and deletes it if it is there. -/
  looksFirst : Bool
  mem_adopt (finalizers : List String) : cleanupFinalizer ∈ adopt finalizers

/-- Where a reconcile is. -/
inductive Task (α : Type)
  | idle
  /-- Get has returned the object. -/
  | got (key : ObjectKey) (object : α)
  /-- The finalizer has been written. -/
  | adopted (key : ObjectKey) (object : α)
  /-- Cleanup has deleted the copy. -/
  | cleaned (key : ObjectKey) (object : α)

/-- The objects of the tenant cluster, the copies in the namespace of the tenant by
name, the UIDs given out so far with the key of their object, and the worker. -/
structure World (α β : Type) where
  objects : ObjectKey → Versions (Option α) := fun _ => { present := none }
  copies : String → Versions (Option β) := fun _ => { present := none }
  uids : FiniteMap String ObjectKey := ∅
  task : Task α := .idle

inductive WorldAction (α β ι : Type)
  | create (key : ObjectKey) (object : α)
  /-- Anyone writes the object; its key, its UID and its deletion are not theirs. -/
  | edit (key : ObjectKey) (object : α)
  | delete (key : ObjectKey)
  /-- The cache of the tenant cluster moves on. -/
  | deliver (key : ObjectKey)
  /-- The manager writes the copy. -/
  | report (name : String) (copy : β)
  | deleteCopy (name : String)
  /-- The cache of the LB cluster moves on. -/
  | deliverCopy (name : String)
  /-- A reconcile starts. -/
  | get (key : ObjectKey)
  /-- The next request of the reconcile. -/
  | call (input : ι) (failed : Bool)

section
variable {α β ι : Type} [KubeObject α]

def Replicator.marked (r : Replicator α β ι) (object : α) : α :=
  setFinalizers object (r.adopt (objectMeta object).finalizers)

def Replicator.unmarked (r : Replicator α β ι) (object : α) : α :=
  setFinalizers object (r.release (objectMeta object).finalizers)

@[simp] theorem Replicator.objectMeta_marked (r : Replicator α β ι) (object : α) :
    objectMeta (r.marked object) = { objectMeta object with
      finalizers := r.adopt (objectMeta object).finalizers } := objectMeta_setFinalizers _ _

@[simp] theorem Replicator.objectMeta_unmarked (r : Replicator α β ι) (object : α) :
    objectMeta (r.unmarked object) = { objectMeta object with
      finalizers := r.release (objectMeta object).finalizers } := objectMeta_setFinalizers _ _

variable [KubeObject β] [DecidableEq α] [DecidableEq β]

def World.stop (world : World α β) : World α β := { world with task := .idle }

def replicate (r : Replicator α β ι) (world : World α β) (object : α) (input : ι) :
    World α β :=
  let name := (objectMeta object).uid
  match (world.copies name).seen with
  | none =>
      if (world.copies name).present = none then
        { world with
          copies := put world.copies name (some (r.desired object input)), task := .idle }
      else world.stop
  | some actual =>
      match r.revise object input actual with
      | none => world.stop
      | some revised =>
          if (world.copies name).present = some actual then
            { world with
              copies := put world.copies name (settle (setDeletionTimestamp revised
                (objectMeta actual).deletionTimestamp))
              task := .idle }
          else world.stop

/-- Delete on the LB cluster; a copy with finalizers stays, marked. -/
def deletedCopies (copies : String → Versions (Option β)) (name : String) :
    String → Versions (Option β) :=
  match (copies name).present with
  | none => copies
  | some copy => put copies name (settle (setDeletionTimestamp copy true))

omit [DecidableEq β] in
theorem present_deletedCopies (copies : String → Versions (Option β)) (name other : String) :
    (deletedCopies copies name other).present =
      if other = name then
        (copies name).present.bind fun copy => settle (setDeletionTimestamp copy true)
      else (copies other).present := by
  unfold deletedCopies
  cases present : (copies name).present with
  | none =>
      by_cases same : other = name
      · simp [same, present]
      · simp [same]
  | some copy => simp

/-- The first half of cleanup. Where the copy is looked up first, one that is not
found counts as deleted, and one that is gone by the time of the Delete as an error. -/
def removeCopy (r : Replicator α β ι) (world : World α β) (key : ObjectKey) (object : α) :
    World α β :=
  let name := (objectMeta object).uid
  if r.looksFirst then
    if (world.copies name).seen = none then { world with task := .cleaned key object }
    else if (world.copies name).present = none then world.stop
    else { world with copies := deletedCopies world.copies name, task := .cleaned key object }
  else { world with copies := deletedCopies world.copies name, task := .cleaned key object }

def updateObject (world : World α β) (key : ObjectKey) (read written : α) (next : Task α) :
    World α β :=
  if (world.objects key).present = some read then
    { world with objects := put world.objects key (settle written), task := next }
  else world.stop

def call (r : Replicator α β ι) (world : World α β) (input : ι) (failed : Bool) :
    Option (World α β) :=
  match world.task with
  | .idle => none
  | .got key object =>
      if (objectMeta object).deletionTimestamp then
        if r.cleans (objectMeta object).finalizers = false ∨ failed then some world.stop
        else some (removeCopy r world key object)
      else if r.managed object = false ∨ failed then some world.stop
      else if cleanupFinalizer ∈ (objectMeta object).finalizers then
        some (replicate r world object input)
      else
        some (updateObject world key object (r.marked object) (.adopted key (r.marked object)))
  | .adopted _ object =>
      if failed then some world.stop else some (replicate r world object input)
  | .cleaned key object =>
      if failed then some world.stop
      else some (updateObject world key object (r.unmarked object) .idle)

def worldStep (r : Replicator α β ι) (world : World α β) :
    WorldAction α β ι → Option (World α β)
  | .create key object =>
      if (world.objects key).present = none ∧
          ((objectMeta object).objectKey = key ∧ key.ns ≠ "" ∧ key.name ≠ "") ∧
          (objectMeta object).deletionTimestamp = false ∧
          (objectMeta object).uid ∉ world.uids then
        some { world with
          objects := put world.objects key (some object)
          uids := world.uids.insert (objectMeta object).uid key }
      else none
  | .edit key object => do
      let old ← (world.objects key).present
      if (objectMeta object).objectKey = (objectMeta old).objectKey ∧
          (objectMeta object).uid = (objectMeta old).uid ∧
          (objectMeta object).deletionTimestamp = (objectMeta old).deletionTimestamp then
        return { world with objects := put world.objects key (settle object) }
      else none
  | .delete key => do
      let old ← (world.objects key).present
      return { world with
        objects := put world.objects key (settle (setDeletionTimestamp old true)) }
  | .deliver key => some { world with objects := deliver world.objects key }
  | .report name copy => do
      let old ← (world.copies name).present
      if (objectMeta copy).deletionTimestamp = (objectMeta old).deletionTimestamp then
        return { world with copies := put world.copies name (settle copy) }
      else none
  | .deleteCopy name => some { world with copies := deletedCopies world.copies name }
  | .deliverCopy name => some { world with copies := deliver world.copies name }
  | .get key =>
      match world.task with
      | .idle =>
          match (world.objects key).seen with
          | none => some world
          | some object => some { world with task := .got key object }
      | _ => none
  | .call input failed => call r world input failed

inductive Arms (r : Replicator α β ι) : Task α → ObjectKey → α → Prop
  | got {key : ObjectKey} {object : α}
      (alive : (objectMeta object).deletionTimestamp = false)
      (managed : r.managed object = true)
      (held : cleanupFinalizer ∈ (objectMeta object).finalizers) :
      Arms r (.got key object) key object
  | adopted (key : ObjectKey) (object : α) : Arms r (.adopted key object) key object

/-- What is assumed of the others: how an object is edited, how the copy of a name is
written and whether it is deleted, and what is there when cleanup finds no copy in its
cache. -/
structure Terms (α β : Type) where
  edits : α → α → Prop := fun _ _ => True
  reports : String → β → β → Prop := fun _ _ _ => True
  deletes : String → Prop := fun _ => True
  misses : Option β → Prop := fun _ => True

def Meets (r : Replicator α β ι) (terms : Terms α β) (world : World α β) :
    WorldAction α β ι → Prop
  | .edit key object => ∀ old, (world.objects key).present = some old → terms.edits old object
  | .report name copy => ∀ old, (world.copies name).present = some old →
      terms.reports name old copy
  | .deleteCopy name => terms.deletes name
  | .call _ false => ∀ key object, world.task = .got key object →
      (objectMeta object).deletionTimestamp = true → r.looksFirst = true →
      (world.copies (objectMeta object).uid).seen = none →
        terms.misses (world.copies (objectMeta object).uid).present
  | _ => True

/-- All that a step can do, by the parts of the world it changes. -/
inductive Effect (r : Replicator α β ι) (terms : Terms α β) (world : World α β) :
    World α β → Prop
  | created {key : ObjectKey} {object : α} (absent : (world.objects key).present = none)
      (own : (objectMeta object).objectKey = key ∧ key.ns ≠ "" ∧ key.name ≠ "")
      (alive : (objectMeta object).deletionTimestamp = false)
      (fresh : (objectMeta object).uid ∉ world.uids) :
      Effect r terms world { world with
        objects := put world.objects key (some object)
        uids := world.uids.insert (objectMeta object).uid key }
  | edited {key : ObjectKey} {old object : α} (present : (world.objects key).present = some old)
      (own : (objectMeta object).objectKey = (objectMeta old).objectKey)
      (uid : (objectMeta object).uid = (objectMeta old).uid)
      (deletion : (objectMeta object).deletionTimestamp = (objectMeta old).deletionTimestamp)
      (kept : terms.edits old object) :
      Effect r terms world { world with objects := put world.objects key (settle object) }
  | deleted {key : ObjectKey} {old : α} (present : (world.objects key).present = some old) :
      Effect r terms world { world with
        objects := put world.objects key (settle (setDeletionTimestamp old true)) }
  | adopted {key : ObjectKey} {object : α} (task : world.task = .got key object)
      (alive : (objectMeta object).deletionTimestamp = false)
      (managed : r.managed object = true)
      (present : (world.objects key).present = some object) :
      Effect r terms world { world with
        objects := put world.objects key (settle (r.marked object))
        task := .adopted key (r.marked object) }
  | released {key : ObjectKey} {object : α} (task : world.task = .cleaned key object)
      (present : (world.objects key).present = some object) :
      Effect r terms world { world with
        objects := put world.objects key (settle (r.unmarked object)), task := .idle }
  | delivered (key : ObjectKey) :
      Effect r terms world { world with objects := deliver world.objects key }
  | copied {key : ObjectKey} {object : α} (armed : Arms r world.task key object) (input : ι)
      (absent : (world.copies (objectMeta object).uid).present = none) :
      Effect r terms world { world with
        copies := put world.copies (objectMeta object).uid (some (r.desired object input))
        task := .idle }
  | revised {key : ObjectKey} {object : α} (armed : Arms r world.task key object) {input : ι}
      {actual revised : β}
      (present : (world.copies (objectMeta object).uid).present = some actual)
      (differs : r.revise object input actual = some revised) :
      Effect r terms world { world with
        copies := put world.copies (objectMeta object).uid
          (settle (setDeletionTimestamp revised (objectMeta actual).deletionTimestamp))
        task := .idle }
  | reported {name : String} {old copy : β} (present : (world.copies name).present = some old)
      (deletion : (objectMeta copy).deletionTimestamp = (objectMeta old).deletionTimestamp)
      (kept : terms.reports name old copy) :
      Effect r terms world { world with copies := put world.copies name (settle copy) }
  | uncopied {name : String} (deletes : terms.deletes name) :
      Effect r terms world { world with copies := deletedCopies world.copies name }
  | copyDelivered (name : String) :
      Effect r terms world { world with copies := deliver world.copies name }
  | got {key : ObjectKey} {object : α} (seen : (world.objects key).seen = some object) :
      Effect r terms world { world with task := .got key object }
  | cleaned {key : ObjectKey} {object : α} (task : world.task = .got key object)
      (deleted : (objectMeta object).deletionTimestamp = true) :
      Effect r terms world { world with
        copies := deletedCopies world.copies (objectMeta object).uid
        task := .cleaned key object }
  /-- The copy is not in the cache, which counts as deleted. -/
  | missed {key : ObjectKey} {object : α} (task : world.task = .got key object)
      (deleted : (objectMeta object).deletionTimestamp = true)
      (absent : terms.misses (world.copies (objectMeta object).uid).present) :
      Effect r terms world { world with task := .cleaned key object }
  | stopped : Effect r terms world world.stop
  | unchanged : Effect r terms world world

section
variable {r : Replicator α β ι} {terms : Terms α β} {world after : World α β}

omit [DecidableEq α] in
theorem effect_replicate (key : ObjectKey) {object : α} (armed : Arms r world.task key object)
    (input : ι) : Effect r terms world (replicate r world object input) := by
  unfold replicate
  dsimp only
  split
  · split
    · rename_i absent
      exact .copied armed input absent
    · exact .stopped
  · split
    · exact .stopped
    · rename_i differs
      split
      · rename_i present
        exact .revised armed present differs
      · exact .stopped

omit [DecidableEq α] [DecidableEq β] in
theorem effect_removeCopy {key : ObjectKey} {object : α} (task : world.task = .got key object)
    (deleted : (objectMeta object).deletionTimestamp = true)
    (found : r.looksFirst = true → (world.copies (objectMeta object).uid).seen = none →
      terms.misses (world.copies (objectMeta object).uid).present) :
    Effect r terms world (removeCopy r world key object) := by
  unfold removeCopy
  dsimp only
  split
  · rename_i looks
    split
    · rename_i unseen
      exact .missed task deleted (found looks unseen)
    · split
      · exact .stopped
      · exact .cleaned task deleted
  · exact .cleaned task deleted

theorem effect_call {input : ι} {failed : Bool} (meets : Meets r terms world (.call input failed))
    (taken : call r world input failed = some after) : Effect r terms world after := by
  unfold call at taken
  split at taken
  · cases taken
  · rename_i key object task
    split at taken
    · rename_i deleted
      split at taken
      · cases taken
        exact .stopped
      · rename_i goes
        cases taken
        have succeeds : failed = false := by
          simpa using (not_or.mp goes).2
        subst succeeds
        exact effect_removeCopy task deleted (meets key object task deleted)
    · rename_i alive
      split at taken
      · cases taken
        exact .stopped
      · rename_i goes
        have managed : r.managed object = true := by
          simpa using (not_or.mp goes).1
        split at taken
        · rename_i held
          cases taken
          refine effect_replicate key ?_ input
          rw [task]
          exact .got (by simpa using alive) managed held
        · cases taken
          unfold updateObject
          split
          · rename_i present
            exact .adopted task (by simpa using alive) managed present
          · exact .stopped
  · rename_i key object task
    split at taken
    · cases taken
      exact .stopped
    · cases taken
      refine effect_replicate key ?_ input
      rw [task]
      exact .adopted key object
  · rename_i key object task
    split at taken
    · cases taken
      exact .stopped
    · cases taken
      unfold updateObject
      split
      · rename_i present
        exact .released task present
      · exact .stopped

theorem effect_of_step {action : WorldAction α β ι} (meets : Meets r terms world action)
    (taken : worldStep r world action = some after) : Effect r terms world after := by
  cases action with
  | create key object =>
      simp only [worldStep] at taken
      split at taken
      · rename_i enabled
        cases taken
        exact .created enabled.1 enabled.2.1 enabled.2.2.1 enabled.2.2.2
      · cases taken
  | edit key object =>
      obtain ⟨old, present, taken⟩ := Option.bind_eq_some_iff.mp taken
      split at taken
      · rename_i enabled
        cases taken
        exact .edited present enabled.1 enabled.2.1 enabled.2.2 (meets old present)
      · cases taken
  | delete key =>
      obtain ⟨old, present, taken⟩ := Option.bind_eq_some_iff.mp taken
      cases taken
      exact .deleted present
  | deliver key =>
      cases taken
      exact .delivered key
  | report name copy =>
      obtain ⟨old, present, taken⟩ := Option.bind_eq_some_iff.mp taken
      split at taken
      · rename_i deletion
        cases taken
        exact .reported present deletion (meets old present)
      · cases taken
  | deleteCopy name =>
      cases taken
      exact .uncopied meets
  | deliverCopy name =>
      cases taken
      exact .copyDelivered name
  | get key =>
      simp only [worldStep] at taken
      split at taken
      · split at taken
        · cases taken
          exact .unchanged
        · rename_i seen
          cases taken
          exact .got seen
      · cases taken
  | call input failed => exact effect_call meets taken

end

end

end KubeLB.Ccm
