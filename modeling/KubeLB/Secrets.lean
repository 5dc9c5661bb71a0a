import KubeLB.Ccm.Service

/-!
The synchronisation of Secrets (secret_conversion_controller.go and
sync_secret_controller.go in internal/controllers/ccm, sync_secret_controller.go in
internal/controllers/kubelb).

A Secret of the tenant cluster becomes a SyncSecret beside it, the SyncSecret a copy
in the namespace of the tenant in the LB cluster, and that copy a Secret there. A
Secret and a SyncSecret have one shape. The three Reconcile functions are one text but
for the object they make, and so are CreateOrUpdateSyncSecret and
CreateOrUpdateSecret. A reconcile is one step here. The owner reference of the last
Secret is left out.
-/

namespace KubeLB
open FiniteMap KubeObject

/-- corev1.Secret, and v1alpha1.SyncSecret. -/
structure Secret extends ObjectMeta where
  immutable : Option Bool := none
  data : FiniteMap String (List UInt8) := ∅
  stringData : FiniteMap String (List UInt8) := ∅
  type : String := ""
  deriving DecidableEq

abbrev SyncSecret := Secret

instance : KubeObject Secret where
  objectMeta := Secret.toObjectMeta
  withMeta secret metadata := { secret with toObjectMeta := metadata }
  objectMeta_withMeta _ _ := rfl

def originLabels (labels : FiniteMap String String) (ns name : String) :
    FiniteMap String String :=
  (labels.insert labelOriginNamespace ns).insert labelOriginName name

def convertSecret (secret : Secret) : SyncSecret where
  name := secret.name
  ns := secret.ns
  labels := originLabels secret.labels secret.ns secret.name
  data := secret.data
  stringData := secret.stringData
  immutable := secret.immutable
  type := secret.type

def copySyncSecret (clusterName : String) (object : SyncSecret) : SyncSecret :=
  { object with
    labels := originLabels object.labels object.ns object.name
    ns := clusterName
    finalizers := []
    name := object.uid
    uid := "" }

def secretOfSyncSecret (object : SyncSecret) : Secret where
  data := object.data
  stringData := object.stringData
  type := object.type
  labels := object.labels
  annotations := object.annotations
  ns := object.ns
  name := object.uid

/-- What the two CreateOrUpdate functions compare. -/
structure SameContent (existingObj obj : Secret) : Prop where
  data : existingObj.data = obj.data
  stringData : existingObj.stringData = obj.stringData
  type : existingObj.type = obj.type
  labels : existingObj.labels = obj.labels
  annotations : existingObj.annotations = obj.annotations

instance (existingObj obj : Secret) : Decidable (SameContent existingObj obj) :=
  decidable_of_iff (existingObj.data = obj.data ∧ existingObj.stringData = obj.stringData ∧
      existingObj.type = obj.type ∧ existingObj.labels = obj.labels ∧
      existingObj.annotations = obj.annotations)
    ⟨fun ⟨data, stringData, type, labels, annotations⟩ =>
      ⟨data, stringData, type, labels, annotations⟩,
    fun same => ⟨same.data, same.stringData, same.type, same.labels, same.annotations⟩⟩

def updatedSecret (existingObj obj : Secret) : Option Secret :=
  if SameContent existingObj obj then none else some { obj with uid := existingObj.uid }

abbrev SecretStore := FiniteMap ObjectKey Secret

def putSecret (store : SecretStore) (key : ObjectKey) : Option Secret → SecretStore
  | none => store.erase key
  | some secret => store.insert key secret

def deleteSecret (store : SecretStore) (key : ObjectKey) : SecretStore :=
  match store.lookup key with
  | none => store
  | some secret => putSecret store key (settle { secret with deletionTimestamp := true })

/-- What the three controllers make of an object, and what the API server stores of it. -/
structure SecretController where
  desired : Secret → Secret
  accept : Secret → Secret := id

/-- The write-only field of a core Secret goes into its data. -/
def mergeStringData (secret : Secret) : Secret :=
  { secret with data := secret.stringData ∪ secret.data, stringData := ∅ }

/-- SecretConversionReconciler of the CCM. -/
def secretConversion : SecretController where
  desired := convertSecret

def syncSecretCopying (clusterName : String) : SecretController where
  desired := copySyncSecret clusterName

def syncSecretUnwrapping : SecretController where
  desired := secretOfSyncSecret
  accept := mergeStringData

/-- What one reconcile meets: the faults of its requests, `none` for success, and the
UID of a new object. -/
structure SecretEnv where
  get : Option String := none
  update : Option String := none
  copy : Option String := none
  uid : String := ""

def createOrUpdateSecret (c : SecretController) (env : SecretEnv) (copies : SecretStore)
    (obj : Secret) : SecretStore :=
  match copies.lookup obj.objectKey with
  | none => copies.insert obj.objectKey (c.accept { obj with uid := env.uid })
  | some existingObj =>
      match updatedSecret existingObj obj with
      | none => copies
      | some updated => putSecret copies obj.objectKey (settle (c.accept
          { updated with deletionTimestamp := existingObj.deletionTimestamp }))

def reconcileSecret (c : SecretController) (env : SecretEnv) (store copies : SecretStore)
    (key : ObjectKey) : SecretStore × SecretStore :=
  match env.get, store.lookup key with
  | some _, _ | none, none => (store, copies)
  | none, some object =>
      if object.deletionTimestamp then
        if Ccm.cleanupFinalizer ∉ object.finalizers ∨ env.copy.isSome then (store, copies)
        else
          let left := deleteSecret copies (c.desired object).objectKey
          if env.update.isSome then (store, left)
          else (putSecret store key (settle { object with
            finalizers := removeFinalizer object.finalizers Ccm.cleanupFinalizer }), left)
      else if Ccm.cleanupFinalizer ∈ object.finalizers then
        if env.copy.isSome then (store, copies)
        else (store, createOrUpdateSecret c env copies (c.desired object))
      else if env.update.isSome then (store, copies)
      else
        let marked := { object with
          finalizers := addFinalizer object.finalizers Ccm.cleanupFinalizer }
        if env.copy.isSome then (store.insert key marked, copies)
        else (store.insert key marked, createOrUpdateSecret c env copies (c.desired marked))

end KubeLB
