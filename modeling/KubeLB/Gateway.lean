import KubeLB.Foundation.Runs
import KubeLB.Route.Source

/-!
The Gateway of a tenant (internal/resources/gatewayapi/gateway).

A Gateway keeps its name when it moves into the namespace of its tenant, so
Gateways from different namespaces of the tenant cluster meet at one key. The
call lists the namespace and compares names; where a stored Gateway came from is
only in the label origin-ns, which the call writes and never reads. The API
server is taken to store a Gateway as it is written. Of the spec only the class
and the certificates of the listeners are changed on the way, and of a listener
only what is needed to tell two of them apart is shown besides.
-/

namespace KubeLB
open FiniteMap Runs

/-- gwapiv1.SecretObjectReference. -/
structure CertificateRef where
  name : String
  ns : Option String := none
  deriving DecidableEq

/-- gwapiv1.Listener; `certificateRefs` is `none` without a TLS section. -/
structure GatewayListener where
  name : String
  port : Int
  hostname : Option String := none
  certificateRefs : Option (List CertificateRef) := none
  deriving DecidableEq

structure GatewaySpec where
  gatewayClassName : String := ""
  listeners : List GatewayListener := []
  deriving DecidableEq

structure Gateway extends ObjectMeta where
  spec : GatewaySpec := {}
  deriving DecidableEq

abbrev GatewayStore := FiniteMap ObjectKey Gateway

def maxGatewaysPerTenant : Nat := 1
def parentGatewayName : String := "kubelb"
def gatewayClassName : String := "kubelb"

/-- The Secret synchronised for one of the tenant cluster, by its name. -/
def getSecretNameIfExists (secrets : Except String (List ObjectMeta))
    (name ns tenantNamespace : String) : String :=
  match secrets with
  | .error _ => ""
  | .ok items =>
      ((items.find? fun secret => secret.ns = tenantNamespace ∧
        secret.labels.lookup labelOriginName = some name ∧
        secret.labels.lookup labelOriginNamespace = some ns).map ObjectMeta.name).getD ""

structure GatewayCall where
  object : Gateway
  ns : String
  configClass : Option String := none
  tenantClass : Option String := none
  annotations : AnnotationSettings := {}
  secrets : Except String (List ObjectMeta) := .ok []
  listFault : Option String := none
  faults : ApiFaults := {}
  uid : String := ""

def GatewayCall.objectKey (call : GatewayCall) : ObjectKey := ⟨call.ns, call.object.name⟩

/-- A certificate reference after the call. Those across namespaces are cut. -/
def GatewayCall.certificateRef (call : GatewayCall) (reference : CertificateRef) :
    CertificateRef :=
  let secretName := getSecretNameIfExists call.secrets reference.name call.object.ns call.ns
  { name := if secretName ≠ "" then secretName else reference.name }

def GatewayCall.desired (call : GatewayCall) : Gateway :=
  { call.object with
    ns := call.ns
    uid := ""
    labels := addKubeLBLabels call.object.labels call.object.name call.object.ns ""
    annotations := propagateAnnotations call.object.annotations call.annotations .gateway
    spec :=
      { gatewayClassName :=
          (call.tenantClass <|> call.configClass).getD call.object.spec.gatewayClassName
        listeners := call.object.spec.listeners.map fun listener =>
          { listener with
            certificateRefs := listener.certificateRefs.map
              (·.map call.certificateRef) } } }

def GatewayStore.inNamespace (store : GatewayStore) (ns : String) : GatewayStore :=
  filterKeys (fun key => key.ns = ns) store

def createOrUpdateGateway (call : GatewayCall) (store : GatewayStore) :
    Except String GatewayStore :=
  match call.listFault with
  | some err => .error ("failed to list Gateways: " ++ err)
  | none =>
      let gateways := store.inNamespace call.ns
      let found := ∃ key ∈ gateways.keys, key.name = call.object.name
      if ¬ found ∧ maxGatewaysPerTenant ≤ gateways.keys.card then
        .error ("maximum of " ++ maxGatewaysPerTenant.repr ++
          " Gateway object(s) per tenant is supported")
      else
        let desired := call.desired
        match call.faults.get call.objectKey with
        | some err => .error ("failed to get Gateway: " ++ err)
        | none =>
            match store.lookup call.objectKey with
            | none =>
                match call.faults.create call.objectKey with
                | some err => .error ("failed to create Gateway: " ++ err)
                | none => .ok (store.insert call.objectKey { desired with uid := call.uid })
            | some existing =>
                let merged :=
                  mergeAnnotations (readBack existing.annotations) (some desired.annotations)
                if existing.spec = desired.spec ∧ existing.labels = desired.labels ∧
                    compareAnnotations (readBack existing.annotations) merged then .ok store
                else
                  match call.faults.update call.objectKey with
                  | some err => .error ("failed to update Gateway: " ++ err)
                  | none =>
                      .ok (store.insert call.objectKey
                        { desired with uid := existing.uid, annotations := merged.getD ∅ })

/-- One call; a failed one leaves the Gateways as they are. -/
def gatewayStep (store : GatewayStore) (call : GatewayCall) : Option GatewayStore :=
  match createOrUpdateGateway call store with
  | .ok store => some store
  | .error _ => some store

def WithinLimit (store : GatewayStore) : Prop :=
  ∀ ns, (store.inNamespace ns).keys.card ≤ maxGatewaysPerTenant

/-- A stored Gateway of the namespace that the call did not come from. -/
def Foreign (store : GatewayStore) (call : GatewayCall) (key : ObjectKey) (stored : Gateway) :
    Prop :=
  store.lookup key = some stored ∧ key.ns = call.ns ∧
    stored.labels.lookup labelOriginNamespace ≠ some call.object.ns

/-- The call fails if a Gateway of another origin is stored, and leaves that one alone. -/
def RefusesForeign (store : GatewayStore) (call : GatewayCall) (after : GatewayStore) : Prop :=
  ∀ key stored, Foreign store call key stored →
    (∃ err, createOrUpdateGateway call store = .error err) ∧ after.lookup key = some stored

/-- The Gateway stored under the name of the call has its origin, or the API
server refuses one of the requests that lead to an update. -/
def SameOriginOrRefused (store : GatewayStore) (call : GatewayCall) : Prop :=
  (∀ stored, store.lookup call.objectKey = some stored →
    stored.labels.lookup labelOriginNamespace = some call.object.ns) ∨
  call.listFault.isSome ∨ (call.faults.get call.objectKey).isSome ∨
  (call.faults.update call.objectKey).isSome

@[simp] theorem mem_inNamespace {store : GatewayStore} {ns : String} {key : ObjectKey} :
    key ∈ (store.inNamespace ns).keys ↔ key ∈ store ∧ key.ns = ns := by
  rw [Finmap.mem_keys, ← Finmap.lookup_isSome, GatewayStore.inNamespace, lookup_filterKeys,
    ← Finmap.lookup_isSome]
  by_cases inside : key.ns = ns <;> simp [inside]

theorem found_iff {store : GatewayStore} {call : GatewayCall} :
    (∃ key ∈ (store.inNamespace call.ns).keys, key.name = call.object.name) ↔
      call.objectKey ∈ store := by
  constructor
  · rintro ⟨⟨ns, name⟩, member, named⟩
    obtain ⟨present, inside⟩ := mem_inNamespace.mp member
    cases named
    cases inside
    exact present
  · intro present
    exact ⟨call.objectKey, mem_inNamespace.mpr ⟨present, rfl⟩, rfl⟩

theorem origin_desired (call : GatewayCall) :
    call.desired.labels.lookup labelOriginNamespace = some call.object.ns := by
  simp [GatewayCall.desired, addKubeLBLabels, labelOriginNamespace, labelManagedBy,
    Finmap.lookup_insert_of_ne]

/-- What a successful call does to the stored Gateways: nothing, a creation
within the limit, or a write over the stored one. -/
theorem createOrUpdateGateway_ok {call : GatewayCall} {store after : GatewayStore}
    (done : createOrUpdateGateway call store = .ok after) :
    call.listFault = none ∧ call.faults.get call.objectKey = none ∧
    (after = store ∧ (∃ existing, store.lookup call.objectKey = some existing ∧
        existing.labels = call.desired.labels) ∨
      (∃ written, after = store.insert call.objectKey written ∧
        written.labels = call.desired.labels ∧
        (call.objectKey ∉ store ∧
            (store.inNamespace call.ns).keys.card < maxGatewaysPerTenant ∨
          call.objectKey ∈ store ∧ call.faults.update call.objectKey = none))) := by
  unfold createOrUpdateGateway at done
  cases listed : call.listFault with
  | some err => simp [listed] at done
  | none =>
      simp only [listed] at done
      split at done
      · cases done
      · rename_i admitted
        rw [found_iff, not_and, not_le] at admitted
        cases read : call.faults.get call.objectKey with
        | some err => simp [read] at done
        | none =>
            refine ⟨rfl, rfl, ?_⟩
            simp only [read] at done
            cases existing : store.lookup call.objectKey with
            | none =>
                have absent : call.objectKey ∉ store := Finmap.lookup_eq_none.mp existing
                simp only [existing] at done
                split at done
                · cases done
                · cases done
                  exact Or.inr ⟨_, rfl, rfl, Or.inl ⟨absent, admitted absent⟩⟩
            | some stored =>
                have present : call.objectKey ∈ store := Finmap.mem_of_lookup_eq_some existing
                simp only [existing] at done
                split at done
                · rename_i same
                  cases done
                  exact Or.inl ⟨rfl, stored, rfl, same.2.1⟩
                · split at done
                  · cases done
                  · rename_i accepted
                    cases done
                    exact Or.inr ⟨_, rfl, rfl, Or.inr ⟨present, accepted⟩⟩

theorem card_inNamespace_insert_le {store : GatewayStore} {key : ObjectKey} (gateway : Gateway)
    {ns : String} (kept : key.ns = ns → key ∈ store) :
    (GatewayStore.inNamespace (store.insert key gateway) ns).keys.card ≤
      (store.inNamespace ns).keys.card := by
  apply Finset.card_le_card
  intro other member
  rw [mem_inNamespace, Finmap.mem_insert] at member
  rw [mem_inNamespace]
  obtain ⟨rfl | old, inside⟩ := member
  · exact ⟨kept inside, inside⟩
  · exact ⟨old, inside⟩

theorem card_inNamespace_insert_le_succ (store : GatewayStore) (key : ObjectKey)
    (gateway : Gateway) (ns : String) :
    (GatewayStore.inNamespace (store.insert key gateway) ns).keys.card ≤
      (store.inNamespace ns).keys.card + 1 := by
  have grows : (GatewayStore.inNamespace (store.insert key gateway) ns).keys ⊆
      insert key (store.inNamespace ns).keys := by
    intro other member
    rw [mem_inNamespace, Finmap.mem_insert] at member
    rw [Finset.mem_insert, mem_inNamespace]
    exact member.1.imp id fun old => ⟨old, member.2⟩
  exact (Finset.card_le_card grows).trans (Finset.card_insert_le _ _)

theorem withinLimit_step {store after : GatewayStore} {call : GatewayCall}
    (within : WithinLimit store) (taken : gatewayStep store call = some after) :
    WithinLimit after := by
  unfold gatewayStep at taken
  split at taken
  · rename_i written done
    cases taken
    obtain ⟨_, _, ⟨rfl, _⟩ | ⟨gateway, rfl, _, ⟨_, room⟩ | ⟨present, _⟩⟩⟩ :=
      createOrUpdateGateway_ok done
    · exact within
    · intro ns
      by_cases here : call.ns = ns
      · have grown := card_inNamespace_insert_le_succ store call.objectKey gateway ns
        rw [here] at room
        omega
      · exact (card_inNamespace_insert_le gateway fun own => absurd own here).trans (within ns)
    · intro ns
      exact (card_inNamespace_insert_le gateway fun _ => present).trans (within ns)
  · cases taken
    exact within

/-- The one Gateway of a namespace stands under every name that stands there. -/
theorem WithinLimit.unique {store : GatewayStore} (within : WithinLimit store)
    {key key' : ObjectKey} (first : key ∈ store) (second : key' ∈ store)
    (same : key.ns = key'.ns) : key = key' :=
  Finset.card_le_one.mp (within key'.ns) key (mem_inNamespace.mpr ⟨first, same⟩) key'
    (mem_inNamespace.mpr ⟨second, rfl⟩)

/-- A call that succeeds next to a Gateway of another origin has written over it,
and the API server has accepted all its requests. -/
theorem refusesForeign_iff {store after : GatewayStore} {call : GatewayCall}
    (within : WithinLimit store) (taken : gatewayStep store call = some after) :
    RefusesForeign store call after ↔ SameOriginOrRefused store call := by
  constructor
  · intro refuses
    by_contra meets
    simp only [SameOriginOrRefused, not_or, not_forall] at meets
    obtain ⟨⟨stored, here, other⟩, listed, read, updated⟩ := meets
    obtain ⟨⟨err, failed⟩, _⟩ := refuses call.objectKey stored ⟨here, rfl, other⟩
    have present : call.objectKey ∈ store := Finmap.mem_of_lookup_eq_some here
    have changed : stored.labels ≠ call.desired.labels :=
      fun same => other (same ▸ origin_desired call)
    simp only [Bool.not_eq_true, Option.isSome_eq_false_iff, Option.isNone_iff_eq_none]
      at listed read updated
    simp only [createOrUpdateGateway, listed, found_iff, present, not_true_eq_false, false_and,
      if_false, read, here, changed, and_false, updated] at failed
    cases failed
  · rintro meets key stored ⟨here, inside, other⟩
    have present : key ∈ store := Finmap.mem_of_lookup_eq_some here
    unfold gatewayStep at taken
    split at taken
    · rename_i written done
      exfalso
      obtain ⟨listed, read, ⟨rfl, existing, atKey, labels⟩ | ⟨gateway, rfl, _, cases⟩⟩ :=
        createOrUpdateGateway_ok done
      · cases within.unique present (Finmap.mem_of_lookup_eq_some atKey) inside
        cases here.symm.trans atKey
        exact other (labels ▸ origin_desired call)
      · obtain ⟨_, room⟩ | ⟨atKey, updated⟩ := cases
        · have occupied := Finset.card_pos.mpr ⟨key, mem_inNamespace.mpr ⟨present, inside⟩⟩
          simp only [maxGatewaysPerTenant] at room
          omega
        · cases within.unique present atKey inside
          obtain same | refused := meets
          · exact other (same stored here)
          · simp [listed, read, updated] at refused
    · rename_i err failed
      cases taken
      exact ⟨⟨err, failed⟩, here⟩

/-- Over every sequence of calls the limit holds, and the Gateways of other
origins are safe exactly when none of the calls meets one under its own name. -/
theorem run_gateways_kept_iff {init : GatewayStore} (within : WithinLimit init)
    (calls : List GatewayCall) :
    (Throughout gatewayStep init calls WithinLimit ∧
      EachStep gatewayStep init calls RefusesForeign) ↔
    EachStep gatewayStep init calls fun store call _ => SameOriginOrRefused store call := by
  have limit : Throughout gatewayStep init calls WithinLimit :=
    throughout_of_step within (fun _ _ _ holds taken => withinLimit_step holds taken) calls
  have refuses := eachStep_congr limit fun _ _ _ holds taken => refusesForeign_iff holds taken
  rw [← refuses]
  exact and_iff_right limit

def gatewayFrom (ns listener : String) : GatewayCall where
  object := { name := "kubelb", ns := ns, spec := { listeners := [⟨listener, 80, none, none⟩] } }
  ns := "tenant-primary"

theorem gateways_kept_one_origin :
    Throughout gatewayStep ∅ [gatewayFrom "default" "web", gatewayFrom "default" "api"]
        WithinLimit ∧
      EachStep gatewayStep ∅ [gatewayFrom "default" "web", gatewayFrom "default" "api"]
        RefusesForeign := by
  have empty : WithinLimit ∅ := fun ns => Nat.zero_le _
  refine (run_gateways_kept_iff empty _).mpr ?_
  refine eachStep_cons fun after taken => ⟨Or.inl fun stored atKey => ?_, ?_⟩
  · cases atKey
  · have created : after = (∅ : GatewayStore).insert ⟨"tenant-primary", "kubelb"⟩
        (gatewayFrom "default" "web").desired := by
      cases taken
      rfl
    refine eachStep_cons fun _ _ => ⟨Or.inl fun stored atKey => ?_, eachStep_nil _⟩
    rw [created] at atKey
    cases atKey
    exact origin_desired _

/-- The second Gateway of the tenant cluster that is named kubelb replaces the
listeners and the labels of the first, and its call reports no error. -/
theorem gateway_replaced_by_other_origin :
    (do let first ← createOrUpdateGateway (gatewayFrom "team-a" "a") ∅
        let second ← createOrUpdateGateway (gatewayFrom "team-b" "b") first
        let shown (store : GatewayStore) := (store.lookup ⟨"tenant-primary", "kubelb"⟩).map
          fun stored => (stored.spec.listeners.map GatewayListener.name,
            stored.labels.lookup labelOriginNamespace)
        return (shown first, shown second)) =
      Except.ok (some (["a"], some "team-a"), some (["b"], some "team-b")) := by
  decide

end KubeLB
