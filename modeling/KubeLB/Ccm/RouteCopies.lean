import KubeLB.Ccm.CopyRequests
import KubeLB.Ccm.Layer7

/-!
The Routes of the Ingresses, Gateways, HTTPRoutes and GRPCRoutes of a tenant cluster,
over all interleavings of the requests of their controllers with the tenant and the
manager (reconcileSourceForRoute, cleanupRoute and enqueueRoutes in
internal/controllers/ccm/shared.go; internal/resources/route).

Each controller has the objects of one kind. The Services that go into a Route are
whatever NormalizeAndReplicateServices returns. What a reconcile writes to the status
of the object is one of the edits.

cleanupRoute looks the Route up before it deletes it, and the look goes to a cache. A
Route that the cache does not show yet is overlooked, and nothing comes back to it.
-/

namespace KubeLB

inductive RouteController
  | ingress | gateway | httpRoute | grpcRoute
  deriving DecidableEq

namespace RouteController

def kind : RouteController → SourceKind
  | .ingress => .ingress
  | .gateway => .gateway
  | .httpRoute => .httpRoute
  | .grpcRoute => .grpcRoute

def groupKind : RouteController → String
  | .ingress => "Ingress.networking.k8s.io"
  | .gateway => "Gateway.gateway.networking.k8s.io"
  | .httpRoute => "HTTPRoute.gateway.networking.k8s.io"
  | .grpcRoute => "GRPCRoute.gateway.networking.k8s.io"

theorem groupKind_injective : Function.Injective groupKind := by
  intro c c' same
  cases c <;> cases c' <;> first | rfl | exact absurd same (by decide)

abbrev Object (c : RouteController) : Type :=
  { resource : TenantResource // resource.kind = c.kind }

instance (c : RouteController) : KubeObject c.Object where
  objectMeta object := object.val.toObjectMeta
  withMeta object metadata := ⟨{ object.val with toObjectMeta := metadata }, object.property⟩
  objectMeta_withMeta _ _ := rfl

end RouteController

def ResourceSpec.typeMeta : ResourceSpec → String × String
  | .ingress _ => ("networking.k8s.io/v1", "Ingress")
  | .gateway _ => ("gateway.networking.k8s.io/v1", "Gateway")
  | .httpRoute _ => ("gateway.networking.k8s.io/v1", "HTTPRoute")
  | .grpcRoute _ => ("gateway.networking.k8s.io/v1", "GRPCRoute")

/-- ConvertObjectToUnstructured and NormalizeUnstructured, by the metadata that is
read without conversion. -/
def normalizeUnstructured (resource : TenantResource) : Resource where
  apiVersion := resource.spec.typeMeta.1
  kind := resource.spec.typeMeta.2
  name := resource.name
  ns := resource.ns
  uid := resource.uid

/-- The label of a Route and the kind its controller asks for are the same text. -/
theorem groupKind_normalizeUnstructured {c : RouteController} (object : c.Object) :
    (normalizeUnstructured object.val).groupKind = c.groupKind := by
  have networking : "networking.k8s.io/v1".toList.splitOn '/' =
      ["networking.k8s.io".toList, "v1".toList] := by decide
  have gateway : "gateway.networking.k8s.io/v1".toList.splitOn '/' =
      ["gateway.networking.k8s.io".toList, "v1".toList] := by decide
  obtain ⟨⟨metadata, spec⟩, kind⟩ := object
  cases spec <;> cases c <;> cases kind <;>
    simp only [normalizeUnstructured, Resource.groupKind, ResourceSpec.typeMeta, networking,
      gateway, RouteController.groupKind, String.ofList_toList] <;> decide

namespace Ccm
open FiniteMap Runs Informer KubeObject

/-- CreateUpdateRoute for a Route that is there. -/
def updateRoute (existingRoute route : Route) : Option Route :=
  if existingRoute.spec ≠ route.spec ∨ existingRoute.labels ≠ route.labels ∨
      existingRoute.annotations ≠ route.annotations then
    some { existingRoute with
      spec := route.spec, labels := route.labels, annotations := route.annotations }
  else none

def routeReplicator (c : RouteController) (r : ResourceReconciler) (clusterName : String) :
    Replicator c.Object Route (List Service) where
  managed object := KubeLB.Ccm.managed r object.val
  cleans finalizers := cleanupFinalizer ∈ finalizers
  adopt finalizers := addFinalizer finalizers cleanupFinalizer
  release finalizers := removeFinalizer finalizers cleanupFinalizer
  desired object services := generateRoute (normalizeUnstructured object.val) services clusterName
  revise object services existingRoute :=
    updateRoute existingRoute
      (generateRoute (normalizeUnstructured object.val) services clusterName)
  looksFirst := true
  mem_adopt _ := mem_addFinalizer _ _

def enqueueRoutes (gvk clusterNamespace : String) (route : Route) : List ObjectKey :=
  if route.ns ≠ clusterNamespace then []
  else
    let originalNamespace := (route.labels.lookup labelOriginNamespace).getD ""
    let originalName := (route.labels.lookup labelOriginName).getD ""
    if originalNamespace = "" then []
    else if originalName = "" then []
    else
      match route.labels.lookup labelOriginResourceKind with
      | none => []
      | some resourceGVK =>
          if gvk ≠ resourceGVK then [] else [⟨originalNamespace, originalName⟩]

/-- The key is read from the labels of a Route of the tenant, of the kind asked for. -/
theorem enqueueRoutes_eq_iff (gvk clusterNamespace : String) (route : Route) (key : ObjectKey) :
    enqueueRoutes gvk clusterNamespace route = [key] ↔ route.ns = clusterNamespace ∧
      route.labels.lookup labelOriginResourceKind = some gvk ∧
      (route.labels.lookup labelOriginNamespace).getD "" = key.ns ∧
      (route.labels.lookup labelOriginName).getD "" = key.name ∧ key.ns ≠ "" ∧ key.name ≠ "" := by
  obtain ⟨ns, name⟩ := key
  simp only [enqueueRoutes]
  split_ifs with foreign noNamespace noName
  · simp [foreign]
  · grind
  · grind
  · split
    · simp_all
    · grind

/-- What the manager leaves of a Route when it writes its status and its finalizers. -/
structure RouteKeepsOrigin (old written : Route) : Prop where
  ns : written.ns = old.ns
  labels : written.labels = old.labels

theorem enqueueRoutes_congr (gvk clusterNamespace : String) {old written : Route}
    (keeps : RouteKeepsOrigin old written) :
    enqueueRoutes gvk clusterNamespace written = enqueueRoutes gvk clusterNamespace old := by
  simp only [enqueueRoutes, keeps.ns, keeps.labels]

theorem enqueueRoutes_generateRoute (resource : Resource) (services : List Service)
    (clusterName : String) (ns : resource.ns ≠ "") (name : resource.name ≠ "") :
    enqueueRoutes resource.groupKind clusterName (generateRoute resource services clusterName) =
      [⟨resource.ns, resource.name⟩] := by
  refine (enqueueRoutes_eq_iff _ _ _ _).mpr ⟨rfl, ?_, ?_, ?_, ns, name⟩ <;>
    simp [generateRoute, labelOriginNamespace, labelOriginName, labelOriginResourceKind,
      labelManagedBy, Finmap.lookup_insert_of_ne]

theorem routeReplicator_leadsBack (c : RouteController) (r : ResourceReconciler)
    (clusterName : String) :
    LeadsBack (routeReplicator c r clusterName) (enqueueRoutes c.groupKind clusterName) where
  desired object services _ ns name := by
    have leads := enqueueRoutes_generateRoute (normalizeUnstructured object.val) services
      clusterName ns name
    rwa [groupKind_normalizeUnstructured object] at leads
  revised object services actual revised key differs leads made := by
    -- the labels are written anew, with the same origin
    simp only [routeReplicator, updateRoute] at differs
    split at differs
    · cases differs
      obtain ⟨ns, _⟩ := (enqueueRoutes_eq_iff _ _ _ key).mp leads
      obtain ⟨_, labels⟩ := (enqueueRoutes_eq_iff _ _ _ key).mp made
      exact (enqueueRoutes_eq_iff _ _ _ key).mpr ⟨ns, labels⟩
    · cases differs
  deletion route deleted := enqueueRoutes_congr _ _ ⟨rfl, rfl⟩
  marked object managed := managed

/-- The tenant keeps the finalizer of the CCM, the manager the labels of the Routes,
and no cleanup misses a Route that its cache does not show yet. -/
def routeTerms (c : RouteController) : Terms c.Object Route where
  edits old edited := cleanupFinalizer ∈ old.val.finalizers →
    cleanupFinalizer ∈ edited.val.finalizers
  reports _ := RouteKeepsOrigin
  misses present := ∀ route, present = some route → route.deletionTimestamp = true

theorem routeTerms_guarding (c : RouteController) : Guarding (routeTerms c) where
  edits _ _ kept := kept
  misses _ found := found

/-- In every interleaving in which no cleanup overlooks a Route, a Route that is not
being deleted has an object with its UID that still carries the finalizer. Its events
queue this object with the controller of its kind, and nothing with the others. -/
theorem routes_lead_to_resources (c : RouteController) (r : ResourceReconciler)
    (clusterName : String) {actions : List (WorldAction c.Object Route (List Service))}
    (meets : EachStep (worldStep (routeReplicator c r clusterName)) {} actions
      fun world action _ => Meets (routeReplicator c r clusterName) (routeTerms c) world action) :
    Throughout (worldStep (routeReplicator c r clusterName)) {} actions fun world =>
      ∀ uid route, (world.copies uid).present = some route → route.deletionTimestamp = false →
      ∃ key object,
        (∀ other : RouteController, enqueueRoutes other.groupKind clusterName route =
          if other = c then [key] else []) ∧
        (world.objects key).present = some object ∧ object.val.uid = uid ∧
        cleanupFinalizer ∈ object.val.finalizers := by
  have back := copies_lead_back (routeReplicator_leadsBack c r clusterName)
    (routeTerms_guarding c) (fun _ _ _ keeps => enqueueRoutes_congr _ _ keeps) meets
  intro before world small reached uid route present alive
  obtain ⟨key, object, leads, isPresent, holds⟩ :=
    back before world small reached uid route present alive
  refine ⟨key, object, fun other => ?_, isPresent, holds.uid, holds.held⟩
  split
  · rename_i same
    rw [same]
    exact leads
  · rename_i differs
    obtain ⟨_, kind, _⟩ := (enqueueRoutes_eq_iff _ _ _ key).mp leads
    have apart : other.groupKind ≠ c.groupKind :=
      fun same => differs (RouteController.groupKind_injective same)
    simp only [enqueueRoutes, kind]
    simp [apart]

/-- An Ingress is created, reconciled and deleted, and its Route goes with it. -/
theorem routes_lead_to_resources_deleted :
    let app : RouteController.ingress.Object :=
      ⟨{ name := "app", ns := "default", uid := "u-1", spec := .ingress {} }, rfl⟩
    let key : ObjectKey := ⟨"default", "app"⟩
    let step := worldStep (routeReplicator .ingress {} "tenant-a")
    let created : List (WorldAction RouteController.ingress.Object Route (List Service)) :=
      [.create key app, .deliver key, .get key, .call [] false, .call [] false]
    let cleaned : List (WorldAction RouteController.ingress.Object Route (List Service)) :=
      [.deliverCopy "u-1", .delete key, .deliver key, .deliver key, .get key, .call [] false,
        .call [] false]
    ∃ world after key object, run step {} created = some world ∧
      run step {} (created ++ cleaned) = some after ∧ (after.copies "u-1").present = none ∧
      (world.objects key).present = some object ∧ cleanupFinalizer ∈ object.val.finalizers := by
  intro app key step created cleaned
  have meets : EachStep step {} created fun world action _ =>
      Meets (routeReplicator .ingress {} "tenant-a") (routeTerms .ingress) world action := by
    refine eachStep_taken rfl trivial ?_
    refine eachStep_taken rfl trivial ?_
    refine eachStep_taken rfl trivial ?_
    refine eachStep_taken rfl ?_ ?_
    · rintro _ _ ⟨⟩ ⟨⟩
    refine eachStep_taken rfl ?_ (eachStep_nil _)
    rintro _ _ ⟨⟩
  obtain ⟨key', object, _, present, _, held⟩ :=
    routes_lead_to_resources .ingress {} "tenant-a" meets _ _ List.prefix_rfl rfl "u-1" _ rfl rfl
  exact ⟨_, _, key', object, rfl, rfl, rfl, present, held⟩

/-- A Route whose object is gone stays as it is, whatever the CCM does, once the cache
has caught up with the key of the object; only somebody else can delete it. -/
theorem ownerless_routes_stay (c : RouteController) (r : ResourceReconciler)
    (clusterName : String) {before later : List (WorldAction c.Object Route (List Service))}
    {world : World c.Object Route} {uid : String} {route : Route} {key : ObjectKey}
    (reached : run (worldStep (routeReplicator c r clusterName)) {} before = some world)
    (present : (world.copies uid).present = some route)
    (assigned : world.uids.lookup uid = some key) (idle : world.task = .idle)
    (current : (world.objects key).behind = [])
    (gone : ∀ object, (world.objects key).present = some object → object.val.uid ≠ uid)
    (left : EachStep (worldStep (routeReplicator c r clusterName)) world later
      fun world action _ => Meets (routeReplicator c r clusterName) (leaving uid) world action) :
    Throughout (worldStep (routeReplicator c r clusterName)) world later fun world =>
      (world.copies uid).present = some route := by
  have consistent := consistent_throughout (routeReplicator c r clusterName) before before world
    List.prefix_rfl reached
  have stays := (consistent.abandoned present assigned idle current gone).stays left
  exact fun earlier after small reached' => (stays earlier after small reached').present

/-- The Ingress of the Route is deleted before the cache shows the Route: the Ingress
goes and the Route stays. -/
theorem ownerless_routes_stay_overlooked :
    let app : RouteController.ingress.Object :=
      ⟨{ name := "app", ns := "default", uid := "u-1", spec := .ingress {} }, rfl⟩
    let key : ObjectKey := ⟨"default", "app"⟩
    let step := worldStep (routeReplicator .ingress {} "tenant-a")
    let overlooked : List (WorldAction RouteController.ingress.Object Route (List Service)) :=
      [.create key app, .deliver key, .get key, .call [] false, .call [] false, .delete key,
        .deliver key, .deliver key, .get key, .call [] false, .call [] false, .deliver key]
    ∃ world route, run step {} overlooked = some world ∧ (world.objects key).present = none ∧
      Throughout step world [.deliverCopy "u-1", .get key] fun world =>
        (world.copies "u-1").present = some route := by
  intro app key step overlooked
  refine ⟨_, _, rfl, rfl, ownerless_routes_stay .ingress {} "tenant-a"
    (show run step {} overlooked = some _ from rfl) rfl (show _ = some key from rfl) rfl rfl ?_ ?_⟩
  · rintro object ⟨⟩
  · refine eachStep_taken rfl trivial ?_
    exact eachStep_taken rfl trivial (eachStep_nil _)

end Ccm

end KubeLB
