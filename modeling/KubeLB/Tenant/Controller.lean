import KubeLB.Foundation.Informer
import KubeLB.Foundation.Runs
import KubeLB.Route.Controller

/-!
The objects that the manager keeps for a Tenant, from the first reconcile to the end of
cleanup (internal/controllers/kubelb/tenant_controller.go and resources/tenant).

One Tenant name is followed. A reconcile puts the cleanup finalizer on the Tenant, then
sees to the Namespace, the account of the CCM with its role, its token and its
kubeconfig, and the TenantState, each by a Get from the cache and a Create or an Update.
Cleanup deletes the Routes, LoadBalancers and SyncSecrets of the Namespace, waits until
the cache shows none, deletes the objects one by one, the Namespace last, and takes the
finalizer off. The TenantState is not deleted but goes with the Namespace.

Between two requests anyone may act: a Tenant of the same name may come back, the
Namespace may be slow to go. A request may fail, and the manager may stop at any moment,
also after a request that went through; the cache of the next one is further on. What is
in the objects is left out, except for the Tenant that the Namespace names as its owner;
of the others it is recorded for which Tenant they were created.
-/

namespace KubeLB.TenantLifecycle
open Runs Informer KubeObject

structure Tenant extends ObjectMeta
  deriving DecidableEq

instance : KubeObject Tenant where
  objectMeta := Tenant.toObjectMeta
  withMeta _ metadata := ⟨metadata⟩
  objectMeta_withMeta _ _ := rfl

inductive Owned
  | namespaceObject | serviceAccount | role | roleBinding | tokenSecret | kubeconfigSecret
  | tenantState
  deriving DecidableEq

def reconciled : List Owned :=
  [.namespaceObject, .serviceAccount, .role, .roleBinding, .tokenSecret, .kubeconfigSecret,
    .tenantState]

/-- tenantresources.Deletion. -/
def deletion : List Owned :=
  [.serviceAccount, .role, .roleBinding, .tokenSecret, .kubeconfigSecret, .namespaceObject]

inductive Content
  | routes | loadBalancers | syncSecrets
  deriving DecidableEq

inductive ContentCall
  | deleteAllOf (content : Content)
  | list (content : Content)

def cleanupResources : List ContentCall :=
  [.deleteAllOf .routes, .deleteAllOf .loadBalancers, .deleteAllOf .syncSecrets,
    .list .routes, .list .loadBalancers, .list .syncSecrets]

structure Kept where
  /-- The UID of the Tenant. -/
  owner : String
  terminating : Bool := false
  deriving DecidableEq

abbrev Objects := Owned → Versions (Option Kept)

/-- Where a reconcile is, with the Tenant it has in hand and the calls that are left. -/
inductive Task
  | idle
  | got (tenant : Tenant)
  | keeping (tenant : Tenant) (left : List Owned)
  | clearing (tenant : Tenant) (left : List ContentCall)
  | deleting (tenant : Tenant) (left : List Owned)

structure World where
  tenant : Versions (Option Tenant) := { present := none }
  uids : Finset String := ∅
  objects : Objects := fun _ => { present := none }
  /-- The names of the Routes, LoadBalancers and SyncSecrets of the Namespace. -/
  contents : Content → Versions (Finset String) := fun _ => { present := ∅ }
  task : Task := .idle

inductive Action
  | create (tenant : Tenant)
  /-- Anyone writes the Tenant; its UID and its deletion are not theirs. -/
  | edit (tenant : Tenant)
  | delete
  | deliver
  /-- Anyone deletes an object, such as the controllers that empty a Namespace. -/
  | remove (object : Owned)
  /-- A Namespace that is being deleted goes once it is empty. -/
  | finalize
  | deliverObject (object : Owned)
  | setContents (content : Content) (names : Finset String)
  | deliverContents (content : Content)
  /-- A reconcile starts. -/
  | get
  /-- The next request; `kept` are the names that a DeleteAllOf leaves for their
  finalizers. -/
  | call (kept : Finset String) (failed : Bool)
  | stop

def marked (tenant : Tenant) : Tenant :=
  setFinalizers tenant (addFinalizer tenant.finalizers cleanupFinalizer)

def unmarked (tenant : Tenant) : Tenant :=
  setFinalizers tenant (removeFinalizer tenant.finalizers cleanupFinalizer)

/-- Delete: the Namespace stays for a while, the other objects have no finalizers. -/
def remove (objects : Objects) (object : Owned) : Objects :=
  match (objects object).present with
  | none => objects
  | some kept =>
      put objects object
        (if object = .namespaceObject then some { kept with terminating := true } else none)

def isActive (objects : Objects) : Bool :=
  (objects .namespaceObject).present.any fun kept => !kept.terminating

/-- One object is created, or updated if it is not as desired; none is an error. -/
def ensure (objects : Objects) (tenant : Tenant) (object : Owned) : Option Objects :=
  match (objects object).seen with
  | none =>
      if (objects object).present = none ∧ (object = .namespaceObject ∨ isActive objects) then
        some (put objects object (some { owner := tenant.uid }))
      else none
  | some shown =>
      -- SetOwnerReferences on the Namespace
      if object = .namespaceObject ∧ shown.owner ≠ tenant.uid then
        if (objects object).present = some shown then
          some (put objects object (some { shown with owner := tenant.uid }))
        else none
      else some objects

namespace World
variable (w : World)

def halt : World := { w with task := .idle }

def updateTenant (read written : Tenant) (next : Task) : World :=
  if w.tenant.present = some read then
    { w with tenant := w.tenant.write (settle written), task := next }
  else w.halt

def callContents (tenant : Tenant) (call : ContentCall) (left : List ContentCall)
    (kept : Finset String) : World :=
  match call with
  | .deleteAllOf content =>
      { w with
        contents := put w.contents content ((w.contents content).present ∩ kept)
        task := .clearing tenant left }
  | .list content =>
      if (w.contents content).seen = ∅ then { w with task := .clearing tenant left }
      else w.halt

def call (kept : Finset String) : Option World :=
  match w.task with
  | .idle => none
  | .got tenant =>
      if tenant.deletionTimestamp then
        if cleanupFinalizer ∈ tenant.finalizers then
          some { w with task := .clearing tenant cleanupResources }
        else some w.halt
      else if cleanupFinalizer ∈ tenant.finalizers then
        some { w with task := .keeping tenant reconciled }
      else some (w.updateTenant tenant (marked tenant) (.keeping (marked tenant) reconciled))
  | .keeping _ [] => some w.halt
  | .keeping tenant (object :: left) =>
      match ensure w.objects tenant object with
      | none => some w.halt
      | some objects => some { w with objects := objects, task := .keeping tenant left }
  | .clearing tenant [] => some { w with task := .deleting tenant deletion }
  | .clearing tenant (call :: left) => some (w.callContents tenant call left kept)
  | .deleting tenant (object :: left) =>
      some { w with objects := remove w.objects object, task := .deleting tenant left }
  | .deleting tenant [] => some (w.updateTenant tenant (unmarked tenant) .idle)

end World

def tenantStep (w : World) : Action → Option World
  | .create tenant =>
      if w.tenant.present = none ∧ tenant.deletionTimestamp = false ∧ tenant.uid ∉ w.uids then
        some { w with
          tenant := w.tenant.write (some tenant), uids := insert tenant.uid w.uids }
      else none
  | .edit tenant => do
      let old ← w.tenant.present
      if tenant.uid = old.uid ∧ tenant.deletionTimestamp = old.deletionTimestamp then
        return { w with tenant := w.tenant.write (settle tenant) }
      else none
  | .delete => do
      let old ← w.tenant.present
      return { w with tenant := w.tenant.write (settle (setDeletionTimestamp old true)) }
  | .deliver => some { w with tenant := w.tenant.advance }
  | .remove object => some { w with objects := remove w.objects object }
  | .finalize =>
      if isActive w.objects = false ∧
          ∀ object ∈ reconciled, object ≠ .namespaceObject →
            (w.objects object).present = none then
        some { w with objects := put w.objects .namespaceObject none }
      else none
  | .deliverObject object => some { w with objects := deliver w.objects object }
  | .setContents content names => some { w with contents := put w.contents content names }
  | .deliverContents content => some { w with contents := deliver w.contents content }
  | .get =>
      match w.task, w.tenant.seen with
      | .idle, some tenant => some { w with task := .got tenant }
      | .idle, none => some w
      | _, _ => none
  | .call kept failed => if failed then some w.halt else w.call kept
  | .stop => some w.halt

def KeepsFinalizer (w : World) : Action → Prop
  | .edit tenant => ∀ old, w.tenant.present = some old →
      cleanupFinalizer ∈ old.finalizers → cleanupFinalizer ∈ tenant.finalizers
  | _ => True

end KubeLB.TenantLifecycle
