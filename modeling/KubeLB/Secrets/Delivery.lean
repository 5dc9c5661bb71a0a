import KubeLB.Foundation.Runs
import KubeLB.Gateway
import KubeLB.Secrets

/-!
A Secret of the tenant cluster arrives in the LB cluster.

Three controllers pass it on, each of which leaves a copy that it then finds equal to
what it wants. The stages disturb one another only in the finalizers: an update of a
copy drops the finalizer that the next controller put there, and the next controller
puts it there again.
-/

namespace KubeLB
open FiniteMap Runs KubeObject

/-- The tenant cluster and the LB cluster, by their Secrets and SyncSecrets. -/
structure SecretWorld where
  secrets : SecretStore := ∅
  syncSecrets : SecretStore := ∅
  lbSyncSecrets : SecretStore := ∅
  lbSecrets : SecretStore := ∅

inductive SecretAction
  | convert (env : SecretEnv) (key : ObjectKey)
  | copy (env : SecretEnv) (key : ObjectKey)
  | unwrap (env : SecretEnv) (key : ObjectKey)

def secretStep (clusterName : String) (world : SecretWorld) : SecretAction → Option SecretWorld
  | .convert env key =>
      let (secrets, syncSecrets) :=
        reconcileSecret secretConversion env world.secrets world.syncSecrets key
      some { world with secrets := secrets, syncSecrets := syncSecrets }
  | .copy env key =>
      let (syncSecrets, lbSyncSecrets) := reconcileSecret (syncSecretCopying clusterName) env
        world.syncSecrets world.lbSyncSecrets key
      some { world with syncSecrets := syncSecrets, lbSyncSecrets := lbSyncSecrets }
  | .unwrap env key =>
      let (lbSyncSecrets, lbSecrets) := reconcileSecret syncSecretUnwrapping env
        world.lbSyncSecrets world.lbSecrets key
      some { world with lbSyncSecrets := lbSyncSecrets, lbSecrets := lbSecrets }

structure SecretEnv.Succeeds (env : SecretEnv) : Prop where
  get : env.get = none
  update : env.update = none
  copy : env.copy = none

def SlotUsable (store : SecretStore) (key : ObjectKey) : Prop :=
  ∀ secret, store.lookup key = some secret →
    secret.deletionTimestamp = false ∧ secret.objectKey = key

/-- The controller has nothing left to do for the object: the finalizer is there, and
the copy is as desired. -/
structure Mirrors (c : SecretController) (store copies : SecretStore) (key : ObjectKey)
    (object copy : Secret) : Prop where
  stored : store.lookup key = some object
  alive : object.deletionTimestamp = false
  held : Ccm.cleanupFinalizer ∈ object.finalizers
  copied : copies.lookup (c.desired object).objectKey = some copy
  copyAlive : copy.deletionTimestamp = false
  copyKey : copy.objectKey = (c.desired object).objectKey
  same : SameContent copy (c.desired object)

structure Admits (c : SecretController) (obj : Secret) : Prop where
  same : ∀ uid, SameContent (c.accept { obj with uid := uid }) obj
  metadata : ∀ uid, (c.accept { obj with uid := uid }).toObjectMeta =
    { obj.toObjectMeta with uid := uid }

def markedSecret (object : Secret) : Secret :=
  { object with finalizers := addFinalizer object.finalizers Ccm.cleanupFinalizer }

theorem markedSecret_of_mem {object : Secret} (held : Ccm.cleanupFinalizer ∈ object.finalizers) :
    markedSecret object = object := by
  simp [markedSecret, addFinalizer, held]

section
variable {c : SecretController} {env : SecretEnv} {store copies : SecretStore} {key : ObjectKey}
  {object copy : Secret}

/-- Whatever the requests meet, a controller that has nothing to do does nothing. -/
theorem Mirrors.idle (mirrors : Mirrors c store copies key object copy) (env : SecretEnv) :
    reconcileSecret c env store copies key = (store, copies) := by
  have unchanged : createOrUpdateSecret c env copies (c.desired object) = copies := by
    simp [createOrUpdateSecret, mirrors.copied, updatedSecret, mirrors.same]
  unfold reconcileSecret
  rw [mirrors.stored]
  cases env.get with
  | some err => rfl
  | none => simp [mirrors.alive, mirrors.held, unchanged]

theorem Mirrors.markCopy (mirrors : Mirrors c store copies key object copy)
    {copies' : SecretStore}
    (marked : copies'.lookup (c.desired object).objectKey = some (markedSecret copy)) :
    Mirrors c store copies' key object (markedSecret copy) :=
  ⟨mirrors.stored, mirrors.alive, mirrors.held, marked, mirrors.copyAlive, mirrors.copyKey,
    ⟨mirrors.same.data, mirrors.same.stringData, mirrors.same.type, mirrors.same.labels,
      mirrors.same.annotations⟩⟩

theorem createOrUpdateSecret_same (env : SecretEnv) {obj : Secret} (admits : Admits c obj)
    (alive : obj.deletionTimestamp = false) (usable : SlotUsable copies obj.objectKey) :
    ∃ copy, (createOrUpdateSecret c env copies obj).lookup obj.objectKey = some copy ∧
      copy.deletionTimestamp = false ∧ copy.objectKey = obj.objectKey ∧ SameContent copy obj := by
  have written (uid : String) :
      (c.accept { obj with uid := uid }).deletionTimestamp = false ∧
        (c.accept { obj with uid := uid }).objectKey = obj.objectKey := by
    rw [admits.metadata uid]
    exact ⟨alive, rfl⟩
  unfold createOrUpdateSecret
  cases found : copies.lookup obj.objectKey with
  | none =>
      exact ⟨_, Finmap.lookup_insert _, (written env.uid).1, (written env.uid).2,
        admits.same env.uid⟩
  | some existing =>
      obtain ⟨existingAlive, existingKey⟩ := usable existing found
      by_cases same : SameContent existing obj
      · simp only [updatedSecret, same, if_true]
        exact ⟨existing, found, existingAlive, existingKey, same⟩
      · simp only [updatedSecret, same, if_false, existingAlive, ← alive]
        have stays : settle (c.accept { obj with uid := existing.uid }) =
            some (c.accept { obj with uid := existing.uid }) := by
          simp [settle, ObjectMeta.isGone, objectMeta, (written existing.uid).1]
        rw [stays]
        refine ⟨_, Finmap.lookup_insert _, ?_, (written existing.uid).2, admits.same existing.uid⟩
        exact (written existing.uid).1.trans alive.symm

theorem mirrors_of_reconcileSecret (succeeds : env.Succeeds)
    (stored : store.lookup key = some object) (alive : object.deletionTimestamp = false)
    (desired : c.desired (markedSecret object) = c.desired object)
    (admits : Admits c (c.desired object)) (fresh : (c.desired object).deletionTimestamp = false)
    (usable : SlotUsable copies (c.desired object).objectKey) :
    (reconcileSecret c env store copies key).1.lookup key = some (markedSecret object) ∧
    ∃ copy, Mirrors c (reconcileSecret c env store copies key).1
      (reconcileSecret c env store copies key).2 key (markedSecret object) copy := by
  obtain ⟨copy, copied, copyAlive, copyKey, same⟩ :=
    createOrUpdateSecret_same env admits fresh usable
  have held : Ccm.cleanupFinalizer ∈ (markedSecret object).finalizers := mem_addFinalizer _ _
  rw [← desired] at copied copyKey same
  have reconciled : (reconcileSecret c env store copies key).1.lookup key =
        some (markedSecret object) ∧
      (reconcileSecret c env store copies key).2 =
        createOrUpdateSecret c env copies (c.desired object) := by
    unfold reconcileSecret
    rw [succeeds.get, stored]
    by_cases marked : Ccm.cleanupFinalizer ∈ object.finalizers
    · rw [markedSecret_of_mem marked]
      simp [alive, marked, succeeds.copy, stored]
    · rw [← desired]
      simp [alive, marked, succeeds.copy, succeeds.update, markedSecret]
  rw [← desired] at reconciled
  refine ⟨reconciled.1, copy, reconciled.1, alive, held, ?_, copyAlive, copyKey, same⟩
  rw [reconciled.2]
  exact copied

end

theorem originLabels_originLabels (labels : FiniteMap String String) (ns name : String) :
    originLabels (originLabels labels ns name) ns name = originLabels labels ns name := by
  refine Finmap.ext_lookup fun label => ?_
  unfold originLabels
  by_cases isName : label = labelOriginName
  · rw [isName, Finmap.lookup_insert, Finmap.lookup_insert]
  · rw [Finmap.lookup_insert_of_ne _ isName, Finmap.lookup_insert_of_ne _ isName]
    by_cases isNamespace : label = labelOriginNamespace
    · rw [isNamespace, Finmap.lookup_insert, Finmap.lookup_insert]
    · rw [Finmap.lookup_insert_of_ne _ isNamespace, Finmap.lookup_insert_of_ne _ isName]

theorem lookup_originLabels (labels : FiniteMap String String) (ns name : String) :
    (originLabels labels ns name).lookup labelOriginName = some name ∧
      (originLabels labels ns name).lookup labelOriginNamespace = some ns := by
  refine ⟨Finmap.lookup_insert _, ?_⟩
  unfold originLabels
  rw [Finmap.lookup_insert_of_ne _ (by decide), Finmap.lookup_insert]

theorem admits_of_id {c : SecretController} (accept : c.accept = id) (obj : Secret) :
    Admits c obj := by
  refine ⟨fun uid => ?_, fun uid => ?_⟩
  · rw [accept]
    exact ⟨rfl, rfl, rfl, rfl, rfl⟩
  · rw [accept]
    rfl

/-- A core Secret is stored as it is written if the write-only field is not used. -/
theorem admits_unwrapping {obj : Secret} (merged : obj.stringData = ∅) :
    Admits syncSecretUnwrapping obj := by
  refine ⟨fun uid => ⟨?_, merged.symm, rfl, rfl, rfl⟩, fun uid => rfl⟩
  change obj.stringData ∪ obj.data = obj.data
  rw [merged, Finmap.empty_union]

/-- A Secret that GetSecretNameIfExists may take. -/
def HasOrigin (name ns tenantNamespace : String) (secret : ObjectMeta) : Prop :=
  secret.ns = tenantNamespace ∧ secret.labels.lookup labelOriginName = some name ∧
    secret.labels.lookup labelOriginNamespace = some ns

instance (name ns tenantNamespace : String) (secret : ObjectMeta) :
    Decidable (HasOrigin name ns tenantNamespace secret) :=
  inferInstanceAs (Decidable (_ ∧ _ ∧ _))

/-- One of the Secrets with the origin is found, and any of them in some order of the list:
all of them have to have the name. -/
theorem getSecretNameIfExists_iff {items : List ObjectMeta} {secret : ObjectMeta}
    {name ns tenantNamespace : String} (listed : secret ∈ items)
    (origin : HasOrigin name ns tenantNamespace secret) :
    (∀ items', items'.Perm items →
        getSecretNameIfExists (.ok items') name ns tenantNamespace = secret.name) ↔
      ∀ other ∈ items, HasOrigin name ns tenantNamespace other → other.name = secret.name := by
  constructor
  · intro always other isListed otherOrigin
    obtain ⟨before, after, rfl⟩ := List.append_of_mem isListed
    have first := always _ List.perm_middle.symm
    have taken : (other.ns = tenantNamespace ∧ other.labels.lookup labelOriginName = some name ∧
        other.labels.lookup labelOriginNamespace = some ns) := otherOrigin
    rwa [getSecretNameIfExists, List.find?_cons_of_pos (by simpa using taken)] at first
  · intro same items' perm
    simp only [getSecretNameIfExists]
    cases found : items'.find? fun other => other.ns = tenantNamespace ∧
        other.labels.lookup labelOriginName = some name ∧
        other.labels.lookup labelOriginNamespace = some ns with
    | none =>
        have missed := List.find?_eq_none.mp found secret (perm.mem_iff.mpr listed)
        exact absurd (decide_eq_true origin) missed
    | some other =>
        have otherOrigin := List.find?_some found
        simp only [decide_eq_true_eq] at otherOrigin
        exact same other (perm.mem_iff.mp (List.mem_of_find?_eq_some found)) otherOrigin

theorem run_of_idle {clusterName : String} {world : SecretWorld} {env₁ env₂ env₃ : SecretEnv}
    {key lbKey : ObjectKey}
    (idle₁ : reconcileSecret secretConversion env₁ world.secrets world.syncSecrets key =
      (world.secrets, world.syncSecrets))
    (idle₂ : reconcileSecret (syncSecretCopying clusterName) env₂ world.syncSecrets
      world.lbSyncSecrets key = (world.syncSecrets, world.lbSyncSecrets))
    (idle₃ : reconcileSecret syncSecretUnwrapping env₃ world.lbSyncSecrets world.lbSecrets lbKey =
      (world.lbSyncSecrets, world.lbSecrets)) :
    run (secretStep clusterName) world [.convert env₁ key, .copy env₂ key, .unwrap env₃ lbKey] =
      some world := by
  simp only [run_cons, secretStep, idle₁, idle₂, idle₃, Option.bind_some]
  rfl

/-- The Secret has arrived under the UID of the copy of its SyncSecret: a reference to
it is resolved to that name, in whatever order the Secrets are listed, exactly if no
Secret of another name has the same origin, and no further reconcile of the three
controllers changes anything. -/
structure Arrived (clusterName : String) (world : SecretWorld) (secret lbSecret : Secret)
    (uid : String) : Prop where
  stored : world.lbSecrets.lookup lbSecret.objectKey = some lbSecret
  ns : lbSecret.ns = clusterName
  data : lbSecret.data = secret.data
  type : lbSecret.type = secret.type
  labels : lbSecret.labels = originLabels secret.labels secret.ns secret.name
  named : ∀ items : List ObjectMeta, lbSecret.toObjectMeta ∈ items →
    ((∀ items', items'.Perm items →
        getSecretNameIfExists (.ok items') secret.name secret.ns clusterName = lbSecret.name) ↔
      ∀ other ∈ items, HasOrigin secret.name secret.ns clusterName other →
        other.name = lbSecret.name)
  settled : ∀ env₁ env₂ env₃, run (secretStep clusterName) world
    [.convert env₁ secret.objectKey, .copy env₂ secret.objectKey,
      .unwrap env₃ ⟨clusterName, uid⟩] = some world

/-- One reconcile of each controller in turn, without faults, brings the Secret to the
LB cluster, whatever copies of an earlier state are in its way. -/
theorem secret_arrives (clusterName : String) {world : SecretWorld} {secret : Secret}
    (stored : world.secrets.lookup secret.objectKey = some secret)
    (alive : secret.deletionTimestamp = false) (merged : secret.stringData = ∅)
    (syncSecrets : SlotUsable world.syncSecrets secret.objectKey)
    (lbSyncSecrets : ∀ uid, SlotUsable world.lbSyncSecrets ⟨clusterName, uid⟩)
    (lbSecrets : ∀ uid, SlotUsable world.lbSecrets ⟨clusterName, uid⟩)
    {env₁ env₂ env₃ : SecretEnv} (converts : env₁.Succeeds) (copies : env₂.Succeeds)
    (unwraps : env₃.Succeeds) :
    ∃ uid after lbSecret, run (secretStep clusterName) world
        [.convert env₁ secret.objectKey, .copy env₂ secret.objectKey,
          .unwrap env₃ ⟨clusterName, uid⟩] = some after ∧
      Arrived clusterName after secret lbSecret uid := by
  -- each stage leaves nothing to do, and the next one touches only the finalizers
  obtain ⟨_, sync, first⟩ := mirrors_of_reconcileSecret converts stored alive rfl
    (admits_of_id (c := secretConversion) rfl _) rfl syncSecrets
  obtain ⟨syncMarked, lbSync, second⟩ := mirrors_of_reconcileSecret copies first.copied
    first.copyAlive rfl (admits_of_id (c := syncSecretCopying clusterName) rfl _) first.copyAlive
    (lbSyncSecrets sync.uid)
  have lbNs : lbSync.ns = clusterName := congrArg ObjectKey.ns second.copyKey
  have unwritten : lbSync.stringData = ∅ :=
    second.same.stringData.trans (first.same.stringData.trans merged)
  have usable : SlotUsable world.lbSecrets (secretOfSyncSecret lbSync).objectKey := by
    change SlotUsable world.lbSecrets ⟨lbSync.ns, lbSync.uid⟩
    rw [lbNs]
    exact lbSecrets lbSync.uid
  obtain ⟨lbMarked, lbSecret, third⟩ := mirrors_of_reconcileSecret unwraps second.copied
    second.copyAlive rfl (admits_unwrapping unwritten) rfl usable
  have labels : lbSecret.labels = originLabels secret.labels secret.ns secret.name := by
    have lbLabels : lbSecret.labels = lbSync.labels := third.same.labels
    have copied : lbSync.labels = originLabels sync.labels sync.ns sync.name := second.same.labels
    have converted : sync.labels = originLabels secret.labels secret.ns secret.name :=
      first.same.labels
    have ns : sync.ns = secret.ns := congrArg ObjectKey.ns first.copyKey
    have name : sync.name = secret.name := congrArg ObjectKey.name first.copyKey
    rw [lbLabels, copied, converted, ns, name, originLabels_originLabels]
  have ns : lbSecret.ns = clusterName := (congrArg ObjectKey.ns third.copyKey).trans lbNs
  obtain ⟨originName, originNs⟩ := lookup_originLabels secret.labels secret.ns secret.name
  rw [← labels] at originName originNs
  refine ⟨sync.uid, _, lbSecret, rfl, ?_, ns, ?_, ?_, labels, ?_, ?_⟩
  · rw [third.copyKey]
    exact third.copied
  · exact third.same.data.trans (second.same.data.trans first.same.data)
  · exact third.same.type.trans (second.same.type.trans first.same.type)
  · exact fun items listed => getSecretNameIfExists_iff listed ⟨ns, originName, originNs⟩
  · intro env₁' env₂' env₃'
    exact run_of_idle ((first.markCopy syncMarked).idle env₁')
      ((second.markCopy lbMarked).idle env₂') (third.idle env₃')

theorem slotUsable_singleton {key : ObjectKey} {secret : Secret}
    (alive : secret.deletionTimestamp = false) (own : secret.objectKey = key)
    (other : ObjectKey) : SlotUsable (Finmap.singleton key secret : SecretStore) other := by
  intro found listed
  by_cases same : other = key
  · subst same
    rw [Finmap.lookup_singleton_eq] at listed
    cases listed
    exact ⟨alive, own⟩
  · have absent : other ∉ (Finmap.singleton key secret : SecretStore) := by simpa using same
    rw [Finmap.lookup_eq_none.mpr absent] at listed
    cases listed

theorem secret_arrives_renewed :
    let tls : Secret := { name := "tls", ns := "default", data := Finmap.singleton "tls.crt" [2] }
    let old : Secret := { tls with data := Finmap.singleton "tls.crt" [1], uid := "u-1" }
    let oldCopy : Secret := { old with name := "u-1", ns := "tenant-a", uid := "u-2" }
    let oldSecret : Secret := { oldCopy with name := "u-2", uid := "u-3" }
    ∃ uid after lbSecret, run (secretStep "tenant-a")
        { secrets := Finmap.singleton tls.objectKey tls
          syncSecrets := Finmap.singleton old.objectKey old
          lbSyncSecrets := Finmap.singleton oldCopy.objectKey oldCopy
          lbSecrets := Finmap.singleton oldSecret.objectKey oldSecret }
        [.convert {} tls.objectKey, .copy {} tls.objectKey, .unwrap {} ⟨"tenant-a", uid⟩] =
          some after ∧
      Arrived "tenant-a" after tls lbSecret uid := by
  intro tls old oldCopy oldSecret
  exact secret_arrives "tenant-a" (Finmap.lookup_singleton_eq) rfl rfl
    (slotUsable_singleton rfl rfl _) (fun _ => slotUsable_singleton rfl rfl _)
    (fun _ => slotUsable_singleton rfl rfl _) ⟨rfl, rfl, rfl⟩ ⟨rfl, rfl, rfl⟩ ⟨rfl, rfl, rfl⟩

end KubeLB
