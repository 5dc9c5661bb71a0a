import KubeLB.Ccm.Replication

/-!
No copy in the LB cluster outlives its object.

The argument is that of the custody protocol, for each UID: the finalizer is the
guard, and what the cache of the tenant cluster may still show is promised. A stale
read does no harm: the cache passes the versions in order, so a reconcile that has
seen the deletion is past all versions that were not yet being deleted.
-/

namespace KubeLB.Ccm
open FiniteMap Runs Informer KubeObject

section
variable {α β ι : Type} [KubeObject α]

inductive Task.Reads : Task α → ObjectKey → α → Prop
  | got (key : ObjectKey) (object : α) : Reads (.got key object) key object
  | adopted (key : ObjectKey) (object : α) : Reads (.adopted key object) key object
  | cleaned (key : ObjectKey) (object : α) : Reads (.cleaned key object) key object

theorem Arms.reads {r : Replicator α β ι} {task : Task α} {key : ObjectKey} {object : α}
    (armed : Arms r task key object) : task.Reads key object := by
  cases armed with
  | got => exact .got key object
  | adopted => exact .adopted key object

def StaysDeleted (old new : Option α) : Prop :=
  ∀ object ∈ old, ∀ object' ∈ new, (objectMeta object').uid = (objectMeta object).uid →
    (objectMeta object).deletionTimestamp = true → (objectMeta object').deletionTimestamp = true

theorem StaysDeleted.refl (object : Option α) : StaysDeleted object object := by
  intro old isOld new isNew _ deleted
  cases isOld.symm.trans isNew
  exact deleted

/-- What follows the present version is later than all that came before it. -/
theorem StaysDeleted.settle {old object : α} {earlier : Option α}
    (stays : StaysDeleted earlier (some old))
    (uid : (objectMeta object).uid = (objectMeta old).uid)
    (deletion : (objectMeta old).deletionTimestamp = true →
      (objectMeta object).deletionTimestamp = true) :
    StaysDeleted earlier (KubeObject.settle object) := by
  intro first isFirst last isLast same deleted
  cases settle_eq_some isLast
  exact deletion (stays first isFirst old rfl (uid ▸ same) deleted)

/-- What holds between the versions of the objects, the UIDs and the worker. -/
structure Consistent (world : World α β) : Prop where
  assigned : ∀ key object, some object ∈ (world.objects key).all →
    world.uids.lookup (objectMeta object).uid = some key ∧ (objectMeta object).objectKey = key
  lasting : ∀ key, (world.objects key).all.Pairwise StaysDeleted
  read : ∀ key object, world.task.Reads key object →
    world.uids.lookup (objectMeta object).uid = some key ∧ (objectMeta object).objectKey = key
  /-- A reconcile that has seen the deletion is past the versions before it. -/
  passed : ∀ key object, world.task.Reads key object →
    (objectMeta object).deletionTimestamp = true → ∀ shown ∈ (world.objects key).all,
      StaysDeleted (some object) shown
  cleaned : ∀ key object, world.task = .cleaned key object →
    (objectMeta object).deletionTimestamp = true

theorem consistent_empty : Consistent ({} : World α β) := by
  refine ⟨?_, ?_, ?_, ?_, ?_⟩
  · intro key object shown
    simp [Versions.all] at shown
  · exact fun key => List.pairwise_singleton _ _
  · rintro key object ⟨⟩
  · rintro key object ⟨⟩
  · rintro key object ⟨⟩

section
variable {world : World α β} (consistent : Consistent world)
include consistent

theorem Consistent.withCopies (copies : String → Versions (Option β)) :
    Consistent { world with copies := copies } :=
  ⟨consistent.assigned, consistent.lasting, consistent.read, consistent.passed,
    consistent.cleaned⟩

theorem Consistent.stop : Consistent { world with task := .idle } := by
  refine ⟨consistent.assigned, consistent.lasting, ?_, ?_, ?_⟩
  · rintro key object ⟨⟩
  · rintro key object ⟨⟩
  · rintro key object ⟨⟩

theorem Consistent.deliver (key : ObjectKey) :
    Consistent { world with objects := Informer.deliver world.objects key } := by
  refine ⟨?_, pairwise_deliver consistent.lasting, consistent.read, ?_, consistent.cleaned⟩
  · intro other object shown
    exact consistent.assigned other object (mem_all_of_deliver _ _ shown)
  · intro other object reads deleted version shown
    exact consistent.passed other object reads deleted version (mem_all_of_deliver _ _ shown)

/-- The reconcile that Get starts is past all that the cache has passed. -/
theorem Consistent.got {key : ObjectKey} {object : α}
    (seen : (world.objects key).seen = some object) :
    Consistent { world with task := .got key object } := by
  have shown : some object ∈ (world.objects key).all := seen ▸ Versions.seen_mem _
  refine ⟨consistent.assigned, consistent.lasting, ?_, ?_, ?_⟩
  · rintro _ _ ⟨⟩
    exact consistent.assigned key object shown
  · rintro _ _ ⟨⟩ _ version isShown
    rcases Versions.rel_seen (consistent.lasting key) isShown with rfl | later
    · rw [seen]
      exact StaysDeleted.refl _
    · rwa [seen] at later
  · rintro _ _ ⟨⟩

theorem Consistent.cleaning {key : ObjectKey} {object : α} (task : world.task = .got key object)
    (deleted : (objectMeta object).deletionTimestamp = true) :
    Consistent { world with task := .cleaned key object } := by
  have reads : world.task.Reads key object := task ▸ .got key object
  refine ⟨consistent.assigned, consistent.lasting, ?_, ?_, ?_⟩
  · rintro _ _ ⟨⟩
    exact consistent.read key object reads
  · rintro _ _ ⟨⟩
    exact consistent.passed key object reads
  · rintro _ _ ⟨⟩
    exact deleted

theorem Consistent.create {key : ObjectKey} {object : α}
    (own : (objectMeta object).objectKey = key)
    (fresh : (objectMeta object).uid ∉ world.uids) :
    Consistent { world with
      objects := put world.objects key (some object)
      uids := world.uids.insert (objectMeta object).uid key } := by
  have differs {other : α} {key' : ObjectKey}
      (assigned : world.uids.lookup (objectMeta other).uid = some key') :
      (objectMeta other).uid ≠ (objectMeta object).uid := by
    intro same
    exact fresh (same ▸ Finmap.mem_of_lookup_eq_some assigned)
  have kept {other : α} {key' : ObjectKey}
      (assigned : world.uids.lookup (objectMeta other).uid = some key') :
      (world.uids.insert (objectMeta object).uid key).lookup (objectMeta other).uid =
        some key' := by
    rwa [Finmap.lookup_insert_of_ne _ (differs assigned)]
  have later {other : α} {key' : ObjectKey}
      (assigned : world.uids.lookup (objectMeta other).uid = some key') :
      StaysDeleted (some other) (some object) := by
    rintro _ ⟨⟩ _ ⟨⟩ same
    exact absurd same.symm (differs assigned)
  refine ⟨?_, ?_, ?_, ?_, consistent.cleaned⟩
  · intro other version isShown
    rcases (mem_all_put _ _).mp isShown with earlier | ⟨rfl, isNew⟩
    · obtain ⟨assigned, itsOwn⟩ := consistent.assigned other version earlier
      exact ⟨kept assigned, itsOwn⟩
    · cases isNew
      exact ⟨Finmap.lookup_insert _, own⟩
  · refine pairwise_put consistent.lasting fun earlier isShown => ?_
    cases earlier with
    | none => rintro _ ⟨⟩
    | some version => exact later (consistent.assigned key version isShown).1
  · intro other read reads
    obtain ⟨assigned, itsOwn⟩ := consistent.read other read reads
    exact ⟨kept assigned, itsOwn⟩
  · intro other read reads deleted version isShown
    rcases (mem_all_put _ _).mp isShown with earlier | ⟨rfl, rfl⟩
    · exact consistent.passed other read reads deleted version earlier
    · exact later (consistent.read other read reads).1

/-- The object is written: the UID stays and a deletion is not taken back. -/
theorem Consistent.write {key : ObjectKey} {old : α}
    (present : (world.objects key).present = some old) (object : α)
    (own : (objectMeta object).objectKey = (objectMeta old).objectKey)
    (uid : (objectMeta object).uid = (objectMeta old).uid)
    (deletion : (objectMeta old).deletionTimestamp = true →
      (objectMeta object).deletionTimestamp = true) :
    Consistent { world with objects := put world.objects key (settle object) } := by
  have shown : some old ∈ (world.objects key).all := present ▸ Versions.present_mem _
  refine ⟨?_, ?_, consistent.read, ?_, consistent.cleaned⟩
  · intro other version isShown
    rcases (mem_all_put _ _).mp isShown with earlier | ⟨rfl, isNew⟩
    · exact consistent.assigned other version earlier
    · cases settle_eq_some isNew.symm
      rw [uid, own]
      exact consistent.assigned other old shown
  · refine pairwise_put consistent.lasting fun earlier isShown => ?_
    have before : StaysDeleted earlier (some old) := by
      rcases Versions.rel_present (consistent.lasting key) isShown with rfl | before
      · exact present ▸ StaysDeleted.refl _
      · rwa [present] at before
    exact before.settle uid deletion
  · intro other read reads deleted version isShown
    rcases (mem_all_put _ _).mp isShown with earlier | ⟨rfl, rfl⟩
    · exact consistent.passed other read reads deleted version earlier
    · exact (consistent.passed other read reads deleted (some old) shown).settle uid deletion

/-- The finalizer is written on an object that is not being deleted. -/
theorem Consistent.adopt (r : Replicator α β ι) {key : ObjectKey} {object : α}
    (task : world.task = .got key object)
    (alive : (objectMeta object).deletionTimestamp = false)
    (present : (world.objects key).present = some object) :
    Consistent { world with
      objects := put world.objects key (settle (r.marked object))
      task := .adopted key (r.marked object) } := by
  have written := consistent.write present (r.marked object)
    (by simp [ObjectMeta.objectKey]) (by simp) (by simp)
  obtain ⟨assigned, own⟩ := consistent.read key object (task ▸ .got key object)
  refine ⟨written.assigned, written.lasting, ?_, ?_, ?_⟩
  · rintro _ _ ⟨⟩
    rw [r.objectMeta_marked]
    exact ⟨assigned, own⟩
  · rintro _ _ ⟨⟩ deleted
    simp [alive] at deleted
  · rintro _ _ ⟨⟩

end

section
variable [KubeObject β] {world after : World α β} {r : Replicator α β ι}
  {terms : Terms α β}

/-- Every step keeps the versions, the UIDs and the worker in order. -/
theorem Consistent.step (consistent : Consistent world) (effect : Effect r terms world after) :
    Consistent after := by
  cases effect with
  | created absent own alive fresh => exact consistent.create own.1 fresh
  | edited present own uid deletion kept =>
      exact consistent.write present _ own uid fun deleted => deletion ▸ deleted
  | @deleted key old present =>
      exact consistent.write present (setDeletionTimestamp old true)
        (by simp [ObjectMeta.objectKey]) (by simp) (by simp)
  | adopted task alive managed present => exact consistent.adopt r task alive present
  | @released key object task present =>
      have written := consistent.write present (r.unmarked object)
        (by simp [ObjectMeta.objectKey]) (by simp) (by simp)
      exact written.stop
  | delivered key => exact consistent.deliver key
  | copied armed input absent => exact consistent.stop.withCopies _
  | revised armed present differs => exact consistent.stop.withCopies _
  | reported present deletion kept => exact consistent.withCopies _
  | uncopied deletes => exact consistent.withCopies _
  | copyDelivered name => exact consistent.withCopies _
  | got seen => exact consistent.got seen
  | cleaned task deleted => exact (consistent.cleaning task deleted).withCopies _
  | missed task deleted absent => exact consistent.cleaning task deleted
  | stopped => exact consistent.stop
  | unchanged => exact consistent

structure HoldsFinalizer (uid : String) (object : α) : Prop where
  uid : (objectMeta object).uid = uid
  held : cleanupFinalizer ∈ (objectMeta object).finalizers

/-- The custody of one UID. -/
def custody (r : Replicator α β ι) (uid : String) (world : World α β) : Custody.State where
  guarded := ∃ key object, (world.objects key).present = some object ∧ HoldsFinalizer uid object
  copied := ∃ copy, (world.copies uid).present = some copy ∧
    (objectMeta copy).deletionTimestamp = false
  promised := ∃ key object, some object ∈ (world.objects key).all ∧ HoldsFinalizer uid object ∧
    (objectMeta object).deletionTimestamp = false
  armed := ∃ key object, Arms r world.task key object ∧ (objectMeta object).uid = uid
  cleared := ∃ key object, world.task = .cleaned key object ∧ (objectMeta object).uid = uid

/-- A write that keeps the finalizer leaves the object of every UID guarded. -/
theorem guarded_write {uid : String} {key : ObjectKey} {old object : α}
    (present : (world.objects key).present = some old)
    (held : HoldsFinalizer uid old → HoldsFinalizer uid object)
    (guarded : (custody r uid world).guarded) (task : Task α) :
    (custody r uid { world with
      objects := put world.objects key (settle object), task := task }).guarded := by
  obtain ⟨other, owner, isPresent, holds⟩ := guarded
  by_cases same : other = key
  · subst same
    cases present.symm.trans isPresent
    exact ⟨other, object, by simp [settle_of_mem (held holds).held], held holds⟩
  · exact ⟨other, owner, by simpa [same] using isPresent, holds⟩

theorem promised_write {uid : String} {key : ObjectKey} {object : α} {task : Task α}
    (promised : (custody r uid { world with
      objects := put world.objects key (settle object), task := task }).promised) :
    (custody r uid world).promised ∨ (custody r uid { world with
      objects := put world.objects key (settle object), task := task }).guarded := by
  obtain ⟨other, version, shown, holds, alive⟩ := promised
  rcases (mem_all_put _ _).mp shown with earlier | ⟨rfl, isNew⟩
  · exact Or.inl ⟨other, version, earlier, holds, alive⟩
  · exact Or.inr ⟨other, version, by simp [isNew], holds⟩

theorem copied_of_deletedCopies {uid name : String} {task : Task α}
    (copied : (custody r uid { world with
      copies := deletedCopies world.copies name, task := task }).copied) :
    (custody r uid world).copied := by
  obtain ⟨copy, present, alive⟩ := copied
  rw [present_deletedCopies] at present
  split at present
  · obtain ⟨old, _, left⟩ := Option.bind_eq_some_iff.mp present
    cases settle_eq_some left
    simp at alive
  · exact ⟨copy, present, alive⟩

theorem not_copied_deletedCopies (uid : String) (task : Task α) :
    ¬ (custody r uid { world with
      copies := deletedCopies world.copies uid, task := task }).copied := by
  rintro ⟨copy, present, alive⟩
  rw [present_deletedCopies, if_pos rfl] at present
  obtain ⟨old, _, left⟩ := Option.bind_eq_some_iff.mp present
  cases settle_eq_some left
  simp at alive

/-- The controller takes its finalizer off: the cache is past all versions of the
object that were not being deleted. -/
theorem not_promised_released (consistent : Consistent world) {key : ObjectKey} {object : α}
    (task : world.task = .cleaned key object) :
    ¬ (custody r (objectMeta object).uid { world with
      objects := put world.objects key (settle (r.unmarked object)), task := .idle }).promised := by
  have deleted := consistent.cleaned key object task
  have reads : world.task.Reads key object := task ▸ .cleaned key object
  rintro ⟨other, version, shown, holds, alive⟩
  rcases (mem_all_put _ _).mp shown with earlier | ⟨_, isNew⟩
  · have assigned := (consistent.assigned other version earlier).1
    rw [holds.uid, (consistent.read key object reads).1] at assigned
    cases assigned
    have late := consistent.passed key object reads deleted _ earlier object rfl version rfl
      holds.uid deleted
    rw [alive] at late
    cases late
  · cases settle_eq_some isNew.symm
    rw [r.objectMeta_unmarked] at alive
    exact absurd (deleted.symm.trans alive) (by simp)

/-- Terms under which no copy outlives its object: nobody else takes the finalizer
off, and cleanup does not overlook a copy that its cache does not show yet. -/
structure Guarding (terms : Terms α β) : Prop where
  edits : ∀ old object, terms.edits old object →
    cleanupFinalizer ∈ (objectMeta old).finalizers →
      cleanupFinalizer ∈ (objectMeta object).finalizers
  misses : ∀ present, terms.misses present → ∀ copy, present = some copy →
    (objectMeta copy).deletionTimestamp = true

section
variable {uid : String} (sound : Custody.Sound (custody r uid world))

include sound in
theorem custody_created {key : ObjectKey} {object : α} {uids : FiniteMap String ObjectKey}
    (absent : (world.objects key).present = none) :
    Custody.Step (custody r uid world) (custody r uid { world with
      objects := put world.objects key (some object), uids := uids }) := by
  refine ⟨Or.inl, Or.inl, ?_, sound.cleared, ?_⟩
  · rintro ⟨other, version, shown, holds, alive⟩
    rcases (mem_all_put _ _).mp shown with earlier | ⟨rfl, isNew⟩
    · exact Or.inl ⟨other, version, earlier, holds, alive⟩
    · exact Or.inr ⟨other, version, by simp [isNew], holds⟩
  · rintro ⟨other, owner, present, holds⟩
    have differs : other ≠ key := by
      rintro rfl
      cases absent.symm.trans present
    exact Or.inl ⟨other, owner, by simpa [differs] using present, holds⟩

include sound in
theorem custody_written {key : ObjectKey} {old object : α}
    (present : (world.objects key).present = some old)
    (held : HoldsFinalizer uid old → HoldsFinalizer uid object) :
    Custody.Step (custody r uid world) (custody r uid { world with
      objects := put world.objects key (settle object) }) :=
  ⟨Or.inl, Or.inl, promised_write, sound.cleared,
    fun guarded => Or.inl (guarded_write present held guarded _)⟩

theorem custody_adopted {key : ObjectKey} {object : α}
    (present : (world.objects key).present = some object) :
    Custody.Step (custody r uid world) (custody r uid { world with
      objects := put world.objects key (settle (r.marked object))
      task := .adopted key (r.marked object) }) := by
  have held : cleanupFinalizer ∈ (objectMeta (r.marked object)).finalizers := by
    simp [r.mem_adopt]
  refine ⟨Or.inl, ?_, promised_write, ?_, fun guarded => Or.inl ?_⟩
  · rintro ⟨_, _, ⟨⟩, same⟩
    exact Or.inr (Or.inr ⟨key, r.marked object, by simp [settle_of_mem held], same, held⟩)
  · rintro ⟨_, _, ⟨⟩, _⟩
  · exact guarded_write present (fun holds => ⟨by simp [holds.uid], held⟩) guarded _

theorem custody_released (consistent : Consistent world) {key : ObjectKey} {object : α}
    (task : world.task = .cleaned key object)
    (present : (world.objects key).present = some object) :
    Custody.Step (custody r uid world) (custody r uid { world with
      objects := put world.objects key (settle (r.unmarked object)), task := .idle }) := by
  refine ⟨Or.inl, ?_, promised_write, ?_, ?_⟩
  · rintro ⟨_, _, ⟨⟩, _⟩
  · rintro ⟨_, _, ⟨⟩, _⟩
  · rintro ⟨other, owner, isPresent, holds⟩
    by_cases same : other = key
    · subst same
      cases present.symm.trans isPresent
      cases holds.uid
      refine Or.inr ⟨⟨other, object, task, rfl⟩, id, ?_, not_promised_released consistent task⟩
      rintro ⟨_, _, ⟨⟩, _⟩
    · exact Or.inl ⟨other, owner, by simpa [same] using isPresent, holds⟩

include sound in
theorem custody_delivered (key : ObjectKey) :
    Custody.Step (custody r uid world) (custody r uid { world with
      objects := deliver world.objects key }) := by
  refine ⟨Or.inl, Or.inl, ?_, sound.cleared, ?_⟩
  · rintro ⟨other, version, shown, holds⟩
    exact Or.inl ⟨other, version, mem_all_of_deliver _ _ shown, holds⟩
  · rintro ⟨other, owner, present, holds⟩
    exact Or.inl ⟨other, owner, by simpa using present, holds⟩

include sound in
theorem custody_copies {copies : String → Versions (Option β)}
    (before : (custody r uid { world with copies := copies }).copied →
      (custody r uid world).copied) :
    Custody.Step (custody r uid world) (custody r uid { world with copies := copies }) :=
  ⟨fun copied => Or.inl (before copied), Or.inl, Or.inl,
    fun cleared copied => sound.cleared cleared (before copied), Or.inl⟩

theorem custody_stopped {copies : String → Versions (Option β)}
    (before : (custody r uid { world with copies := copies, task := .idle }).copied →
      (custody r uid world).copied ∨ (custody r uid world).armed) :
    Custody.Step (custody r uid world)
      (custody r uid { world with copies := copies, task := .idle }) := by
  refine ⟨before, ?_, Or.inl, ?_, Or.inl⟩
  · rintro ⟨_, _, ⟨⟩, _⟩
  · rintro ⟨_, _, ⟨⟩, _⟩

theorem custody_got {key : ObjectKey} {object : α}
    (seen : (world.objects key).seen = some object) :
    Custody.Step (custody r uid world) (custody r uid { world with task := .got key object }) := by
  refine ⟨Or.inl, ?_, Or.inl, ?_, Or.inl⟩
  · rintro ⟨_, _, ⟨alive, managed, held⟩, same⟩
    exact Or.inr (Or.inl ⟨key, object, seen ▸ Versions.seen_mem _, ⟨same, held⟩, alive⟩)
  · rintro ⟨_, _, ⟨⟩, _⟩

/-- Cleanup leaves no copy of the object that is not being deleted. -/
theorem custody_cleaned {key : ObjectKey} {object : α} {copies : String → Versions (Option β)}
    (before : (custody r uid { world with copies := copies, task := .cleaned key object }).copied →
      (custody r uid world).copied)
    (clean : (objectMeta object).uid = uid →
      ¬ (custody r uid { world with copies := copies, task := .cleaned key object }).copied) :
    Custody.Step (custody r uid world)
      (custody r uid { world with copies := copies, task := .cleaned key object }) := by
  refine ⟨fun copied => Or.inl (before copied), ?_, Or.inl, ?_, Or.inl⟩
  · rintro ⟨_, _, ⟨⟩, _⟩
  · rintro ⟨_, _, ⟨⟩, own⟩
    exact clean own

end

theorem copied_of_put {uid name : String} {copy : Option β} {task : Task α}
    (copied : (custody r uid { world with
      copies := put world.copies name copy, task := task }).copied) :
    (custody r uid world).copied ∨ uid = name ∧ ∃ written, copy = some written ∧
      (objectMeta written).deletionTimestamp = false := by
  obtain ⟨written, present, alive⟩ := copied
  rw [present_put] at present
  split at present
  · rename_i same
    exact Or.inr ⟨same, written, present, alive⟩
  · exact Or.inl ⟨written, present, alive⟩

theorem custody_step (guarding : Guarding terms) (consistent : Consistent world)
    (effect : Effect r terms world after) (uid : String)
    (sound : Custody.Sound (custody r uid world)) :
    Custody.Step (custody r uid world) (custody r uid after) := by
  cases effect with
  | created absent own alive fresh => exact custody_created sound absent
  | edited present own uid deletion kept =>
      exact custody_written sound present fun holds =>
        ⟨uid ▸ holds.uid, guarding.edits _ _ kept holds.held⟩
  | deleted present =>
      exact custody_written sound present fun holds =>
        ⟨by simp [holds.uid], by simp [holds.held]⟩
  | adopted task alive managed present => exact custody_adopted present
  | released task present => exact custody_released consistent task present
  | delivered key => exact custody_delivered sound key
  | @copied key object armed input absent =>
      refine custody_stopped fun copied => ?_
      obtain before | ⟨same, _⟩ := copied_of_put copied
      · exact Or.inl before
      · exact Or.inr ⟨key, object, armed, same.symm⟩
  | @revised key object armed input actual revised isActual differs =>
      refine custody_stopped fun copied => Or.inl ?_
      obtain before | ⟨same, written, left, alive⟩ := copied_of_put copied
      · exact before
      · cases settle_eq_some left
        exact ⟨actual, same ▸ isActual, by simpa using alive⟩
  | @reported name old copy isOld deletion kept =>
      refine custody_copies sound fun copied => ?_
      obtain before | ⟨same, written, left, alive⟩ := copied_of_put copied
      · exact before
      · cases settle_eq_some left
        exact ⟨old, same ▸ isOld, deletion ▸ alive⟩
  | uncopied deletes => exact custody_copies sound copied_of_deletedCopies
  | copyDelivered name =>
      refine custody_copies sound ?_
      rintro ⟨copy, present, alive⟩
      exact ⟨copy, by simpa using present, alive⟩
  | got seen => exact custody_got seen
  | cleaned task deleted =>
      refine custody_cleaned copied_of_deletedCopies ?_
      rintro rfl
      exact not_copied_deletedCopies _ _
  | missed task deleted absent =>
      refine custody_cleaned id ?_
      rintro rfl ⟨copy, present, alive⟩
      cases (guarding.misses _ absent copy present).symm.trans alive
  | stopped => exact custody_stopped Or.inl
  | unchanged => exact Custody.Step.refl sound

theorem sound_empty (r : Replicator α β ι) (uid : String) :
    Custody.Sound (custody r uid ({} : World α β)) := by
  refine ⟨?_, ?_⟩
  · rintro (⟨copy, ⟨⟩, _⟩ | ⟨key, object, ⟨⟩, _⟩ | ⟨key, object, shown, _⟩)
    simp [Versions.all] at shown
  · rintro ⟨key, object, ⟨⟩, _⟩

variable [DecidableEq α] [DecidableEq β]

/-- In every run each copy that is not being deleted has its object, with the
finalizer on it. -/
theorem copies_guarded (r : Replicator α β ι) (guarding : Guarding terms)
    {actions : List (WorldAction α β ι)}
    (meets : EachStep (worldStep r) {} actions fun world action _ =>
      Meets r terms world action) :
    Throughout (worldStep r) {} actions fun world => ∀ uid copy,
      (world.copies uid).present = some copy → (objectMeta copy).deletionTimestamp = false →
      ∃ key object, (world.objects key).present = some object ∧ HoldsFinalizer uid object := by
  have sound : Throughout (worldStep r) {} actions fun world =>
      ∀ uid, Custody.Sound (custody r uid world) := by
    refine Custody.throughout_sound (P := Consistent) ⟨consistent_empty, sound_empty r⟩ ?_ ?_ meets
    · intro world action after consistent met taken
      exact consistent.step (effect_of_step met taken)
    · intro world action after consistent met taken uid
      exact custody_step guarding consistent (effect_of_step met taken) uid
  intro before world small reached uid copy present alive
  exact (sound before world small reached uid).guarded (Or.inl ⟨copy, present, alive⟩)

/-- The object of a copy is gone, the cache does not show it any more and no reconcile
has it in hand. -/
structure Abandoned (uid : String) (copy : β) (world : World α β) : Prop where
  present : (world.copies uid).present = some copy
  used : uid ∈ world.uids
  gone : ∀ key object, some object ∈ (world.objects key).all → (objectMeta object).uid ≠ uid
  idle : ∀ key object, world.task.Reads key object → (objectMeta object).uid ≠ uid

def leaving (uid : String) : Terms α β where
  reports name _ _ := name ≠ uid
  deletes name := name ≠ uid

section
variable {uid : String} {copy : β} (abandoned : Abandoned uid copy world)
include abandoned

omit [KubeObject β] [DecidableEq α] [DecidableEq β] in
theorem Abandoned.write {key : ObjectKey} {old : α}
    (present : (world.objects key).present = some old) (object : α)
    (same : (objectMeta object).uid = (objectMeta old).uid) :
    Abandoned uid copy { world with objects := put world.objects key (settle object) } := by
  refine ⟨abandoned.present, abandoned.used, ?_, abandoned.idle⟩
  intro other version shown
  rcases (mem_all_put _ _).mp shown with earlier | ⟨rfl, isNew⟩
  · exact abandoned.gone other version earlier
  · cases settle_eq_some isNew.symm
    rw [same]
    exact abandoned.gone other old (present ▸ Versions.present_mem _)

omit [KubeObject β] [DecidableEq α] [DecidableEq β] in
/-- The worker turns to an object with another UID, and another copy is written. -/
theorem Abandoned.turn {task : Task α}
    (idle : ∀ key object, task.Reads key object → (objectMeta object).uid ≠ uid)
    {copies : String → Versions (Option β)}
    (same : (copies uid).present = (world.copies uid).present) :
    Abandoned uid copy { world with copies := copies, task := task } :=
  ⟨same.trans abandoned.present, abandoned.used, abandoned.gone, idle⟩

omit [DecidableEq α] [DecidableEq β] in
theorem Abandoned.step (effect : Effect r (leaving uid) world after) :
    Abandoned uid copy after := by
  have stopped : ∀ (key : ObjectKey) (object : α), Task.idle.Reads key object →
      (objectMeta object).uid ≠ uid := by
    rintro _ _ ⟨⟩
  cases effect with
  | @created key object absent own alive fresh =>
      refine ⟨abandoned.present, Finmap.mem_insert.mpr (Or.inr abandoned.used), ?_,
        abandoned.idle⟩
      intro other version shown
      rcases (mem_all_put _ _).mp shown with earlier | ⟨_, isNew⟩
      · exact abandoned.gone other version earlier
      · cases isNew
        rintro rfl
        exact fresh abandoned.used
  | edited present own same deletion kept => exact abandoned.write present _ same
  | deleted present => exact abandoned.write present _ (by simp)
  | @adopted key object task alive managed present =>
      have written := abandoned.write present (r.marked object) (by simp)
      refine written.turn ?_ rfl
      rintro _ _ ⟨⟩
      rw [r.objectMeta_marked]
      exact abandoned.idle key object (task ▸ .got key object)
  | @released key object task present =>
      exact (abandoned.write present (r.unmarked object) (by simp)).turn stopped rfl
  | delivered key =>
      refine ⟨abandoned.present, abandoned.used, ?_, abandoned.idle⟩
      intro other version shown
      exact abandoned.gone other version (mem_all_of_deliver _ _ shown)
  | @copied key object armed input absent =>
      refine abandoned.turn stopped ?_
      rw [present_put, if_neg (abandoned.idle key object armed.reads).symm]
  | @revised key object armed input actual revised isActual differs =>
      refine abandoned.turn stopped ?_
      rw [present_put, if_neg (abandoned.idle key object armed.reads).symm]
  | reported present deletion kept =>
      refine abandoned.turn abandoned.idle ?_
      rw [present_put, if_neg (Ne.symm kept)]
  | uncopied deletes =>
      refine abandoned.turn abandoned.idle ?_
      rw [present_deletedCopies, if_neg (Ne.symm deletes)]
  | copyDelivered name =>
      refine abandoned.turn abandoned.idle ?_
      rw [present_deliver]
  | @got key object seen =>
      refine abandoned.turn ?_ rfl
      rintro _ _ ⟨⟩
      exact abandoned.gone key object (seen ▸ Versions.seen_mem _)
  | @cleaned key object task deleted =>
      have other := abandoned.idle key object (task ▸ .got key object)
      refine abandoned.turn ?_ ?_
      · rintro _ _ ⟨⟩
        exact other
      · rw [present_deletedCopies, if_neg other.symm]
  | @missed key object task deleted absent =>
      refine abandoned.turn ?_ rfl
      rintro _ _ ⟨⟩
      exact abandoned.idle key object (task ▸ .got key object)
  | stopped => exact abandoned.turn stopped rfl
  | unchanged => exact abandoned

theorem Abandoned.stays {actions : List (WorldAction α β ι)}
    (left : EachStep (worldStep r) world actions fun world action _ =>
      Meets r (leaving uid) world action) :
    Throughout (worldStep r) world actions (Abandoned uid copy) := by
  refine throughout_of_eachStep abandoned ?_ left
  intro world action after abandoned met taken
  exact abandoned.step (effect_of_step met taken)

end

omit [KubeObject β] [DecidableEq α] [DecidableEq β] in
/-- A copy without an object is abandoned once the cache has caught up with the key of
the object and the worker is idle. -/
theorem Consistent.abandoned (consistent : Consistent world) {uid : String} {copy : β}
    {key : ObjectKey} (present : (world.copies uid).present = some copy)
    (assigned : world.uids.lookup uid = some key) (idle : world.task = .idle)
    (current : (world.objects key).behind = [])
    (gone : ∀ object, (world.objects key).present = some object →
      (objectMeta object).uid ≠ uid) : Abandoned uid copy world := by
  refine ⟨present, Finmap.mem_of_lookup_eq_some assigned, ?_, ?_⟩
  · rintro other object shown rfl
    cases assigned.symm.trans (consistent.assigned other object shown).1
    simp only [Versions.all, current, List.nil_append, List.mem_singleton] at shown
    exact gone object shown.symm rfl
  · intro other object reads
    rw [idle] at reads
    cases reads

/-- Every run keeps the versions, the UIDs and the worker in order. -/
theorem consistent_throughout (r : Replicator α β ι) (actions : List (WorldAction α β ι)) :
    Throughout (worldStep r) {} actions Consistent := by
  refine throughout_of_step consistent_empty ?_ actions
  intro world action after consistent taken
  have free : Meets r {} world action := by
    unfold Meets
    split <;> simp
  exact consistent.step (effect_of_step free taken)

end

end

end KubeLB.Ccm
