import KubeLB.Foundation.Runs
import KubeLB.Route.Controller

/-!
The status of the resource that a Route stands for (manageRoutes and
updateResourceStatus in internal/controllers/kubelb/route_controller.go).

What this part of a reconcile meets is in `StatusEnv`; the outcomes of
manageServices and of cleanup are among it, since nothing but their errors
matters here. `applies` lists the CreateOrUpdate calls made so far, by the spec
they were made for and whether they succeeded; the code keeps no such list. Of
the recorded state the raw status of the resource, its kind and the time of the
condition are left out.
-/

namespace KubeLB
open Runs

/-- metav1.Condition. -/
structure Condition where
  type : String
  status : Bool
  reason : String
  message : String
  deriving DecidableEq

def conditionResourceAppliedSuccessfully : String := "ResourceAppliedSuccessfully"

def generateConditions : Option String → List Condition
  | none =>
      [{ type := conditionResourceAppliedSuccessfully
         status := true
         reason := "InstallationSuccessful"
         message := "Success" }]
  | some err =>
      [{ type := conditionResourceAppliedSuccessfully
         status := false
         reason := "InstallationFailed"
         message := err }]

/-- v1alpha1.ResourceState; a Route that was never applied has the empty one. -/
structure ResourceState where
  generatedName : String := ""
  ns : String := ""
  name : String := ""
  conditions : List Condition := []
  deriving DecidableEq

def ResourceState.Says (state : ResourceState) (applied : Bool) : Prop :=
  ∃ condition ∈ state.conditions,
    condition.type = conditionResourceAppliedSuccessfully ∧ condition.status = applied

instance (state : ResourceState) (applied : Bool) : Decidable (state.Says applied) :=
  inferInstanceAs (Decidable (∃ condition ∈ state.conditions, _))

def updateResourceStatus (obj : ObjectMeta) (err : Option String) : ResourceState where
  generatedName := obj.name
  ns := getNamespace obj
  name := getName obj
  conditions := generateConditions err

inductive Reread
  | found (obj : ObjectMeta)
  | notFound
  | failed (err : String)

/-- What a reconcile meets; `none` stands for success. -/
structure StatusEnv where
  getFault : Option String := none
  tenantAndConfig : Except String (Settings × Settings) := .ok ({}, {})
  updateFault : Option String := none
  cleanupFault : Option String := none
  servicesFault : Option String := none
  apply : Option String := none
  reread : Reread := .notFound
  statusFault : Option String := none

structure StatusState where
  route : Route
  resource : ResourceState := {}
  applies : List (RouteSpec × Bool) := []

def SourceKind.name : SourceKind → String
  | .ingress => "Ingress"
  | .service => "Service"
  | .gateway => "Gateway"
  | .httpRoute => "HTTPRoute"
  | .grpcRoute => "GRPCRoute"

/-- UpdateRouteStatus for the resource part: the new state, unless a request fails. -/
def updateRouteStatus (env : StatusEnv) (state : StatusState) (resource : ResourceState) :
    StatusState × Option String :=
  match env.statusFault with
  | some err => (state, some err)
  | none => ({ state with resource := resource }, none)

/-- The apply, the re-read and the status update that all four kinds share. An
error of the apply is dropped: it skips the update of the state, and
UpdateRouteStatus writes the old one back. -/
def applyResource (env : StatusEnv) (kind : SourceKind) (state : StatusState) :
    StatusState × Option String :=
  let applied := { state with
    applies := state.applies ++ [(state.route.spec, decide (env.apply = none))] }
  match env.apply with
  | some _ => updateRouteStatus env applied state.resource
  | none =>
      match env.reread with
      | .failed err => (applied, some ("failed to get " ++ kind.name ++ ": " ++ err))
      -- The error of the Get is local to the branch: what is passed on is that of the apply.
      | .notFound => updateRouteStatus env applied (updateResourceStatus {} none)
      | .found obj => updateRouteStatus env applied (updateResourceStatus obj none)

def manageRoutes (env : StatusEnv) (state : StatusState) : StatusState × Option String :=
  match state.route.spec.kubernetes with
  | none => (state, none)
  | some source =>
      match convertUnstructuredToObject source.route with
      | none => (state, some "failed to convert route to object")
      | some .ingress => applyResource env .ingress state
      | some .gateway => applyResource env .gateway state
      | some .httpRoute => applyResource env .httpRoute state
      | some .grpcRoute => applyResource env .grpcRoute state
      | some .service => updateRouteStatus env state state.resource

inductive Stage
  | failed (err : String)
  | skipped
  | manage

def cleanupStage (env : StatusEnv) (route : Route) : Route × Stage :=
  match env.cleanupFault with
  | some err => (route, .failed err)
  | none =>
      ({ route with finalizers := removeFinalizer route.finalizers cleanupFinalizer }, .skipped)

def servicesStage (env : StatusEnv) (route : Route) : Route × Stage :=
  match env.servicesFault with
  | some err => (route, .failed ("failed to create or update services: " ++ err))
  | none => (route, .manage)

def beforeManageRoutes (r : RouteReconciler) (env : StatusEnv) (route : Route) : Route × Stage :=
  match env.getFault, env.tenantAndConfig with
  | some err, _ => (route, .failed err)
  | none, .error err => (route, .failed err)
  | none, .ok (tenant, config) =>
      if route.deletionTimestamp then
        if cleanupFinalizer ∈ route.finalizers then cleanupStage env route else (route, .skipped)
      else
        match shouldReconcile r route tenant config with
        | .error err => (route, .failed err)
        | .ok (proceed, disabled) =>
            if cleanupFinalizer ∈ route.finalizers ∧ disabled then cleanupStage env route
            else if proceed = false then (route, .skipped)
            else if cleanupFinalizer ∈ route.finalizers then servicesStage env route
            else
              match env.updateFault with
              | some err => (route, .failed ("failed to add finalizer: " ++ err))
              | none =>
                  servicesStage env { route with
                    finalizers := addFinalizer route.finalizers cleanupFinalizer }

def reconcileStatus (r : RouteReconciler) (env : StatusEnv) (state : StatusState) :
    StatusState × Option String :=
  match beforeManageRoutes r env state.route with
  | (route, .failed err) => ({ state with route := route }, some err)
  | (route, .skipped) => ({ state with route := route }, none)
  | (route, .manage) =>
      match manageRoutes env { state with route := route } with
      | (managed, none) => (managed, none)
      | (managed, some err) => (managed, some ("failed to create or update route: " ++ err))

inductive StatusAction
  /-- The CCM writes a new spec. -/
  | update (spec : RouteSpec)
  /-- The deletion of the Route is asked for. -/
  | delete
  | reconcile (env : StatusEnv)

def statusStep (r : RouteReconciler) (state : StatusState) : StatusAction → Option StatusState
  | .update spec => some { state with route := { state.route with spec := spec } }
  | .delete => some { state with route := { state.route with deletionTimestamp := true } }
  | .reconcile env => some (reconcileStatus r env state).1

/-- A recorded success is that of the last apply, and that one was for the spec at hand. -/
def SuccessIsCurrent (state : StatusState) : Prop :=
  state.resource.Says true → state.applies.getLast? = some (state.route.spec, true)

/-- A reconcile that returns no error has left a status that is true: success is
recorded only if the last apply was for this spec and succeeded, and an apply
that failed in this reconcile is recorded as failed. -/
def TellsTruth (r : RouteReconciler) (before : StatusState) (action : StatusAction)
    (after : StatusState) : Prop :=
  match action with
  | .reconcile env => (reconcileStatus r env before).2 = none →
      SuccessIsCurrent after ∧
        (after.applies = before.applies ++ [(after.route.spec, false)] → after.resource.Says false)
  | .update _ | .delete => True

/-- What a reconcile has to meet: an apply that it comes to succeeds, or the
status cannot be written either, or it says already that the resource is not
applied; a reconcile that ends before must not find a superseded success. -/
def AppliesOrKnown (r : RouteReconciler) (state : StatusState) : StatusAction → Prop
  | .reconcile env =>
      match (beforeManageRoutes r env state.route).2 with
      | .failed _ => True
      | .skipped => SuccessIsCurrent state
      | .manage => env.apply = none ∨ env.statusFault.isSome ∨
          (state.resource.Says false ∧ ¬ state.resource.Says true)
  | .update _ | .delete => True

theorem says_updateResourceStatus (obj : ObjectMeta) :
    (updateResourceStatus obj none).Says true ∧ ¬ (updateResourceStatus obj none).Says false := by
  simp [updateResourceStatus, generateConditions, ResourceState.Says]

theorem shouldReconcile_proceed {r : RouteReconciler} {route : Route} {tenant config : Settings}
    {disabled : Bool} (judged : shouldReconcile r route tenant config = .ok (true, disabled)) :
    ∃ source kind, route.spec.kubernetes = some source ∧
      convertUnstructuredToObject source.route = some kind ∧ kind ≠ .service := by
  unfold shouldReconcile at judged
  cases kubernetes : route.spec.kubernetes with
  | none => simp [kubernetes] at judged
  | some source =>
      cases converted : convertUnstructuredToObject source.route with
      | none => simp [kubernetes, converted] at judged
      | some kind =>
          refine ⟨source, kind, rfl, converted, ?_⟩
          rintro rfl
          simp [kubernetes, converted] at judged

theorem spec_beforeManageRoutes (r : RouteReconciler) (env : StatusEnv) (route : Route) :
    (beforeManageRoutes r env route).1.spec = route.spec := by
  have cleaned : (cleanupStage env route).1.spec = route.spec := by
    unfold cleanupStage
    split <;> rfl
  have served (route : Route) : (servicesStage env route).1.spec = route.spec := by
    unfold servicesStage
    split <;> rfl
  unfold beforeManageRoutes
  split
  · rfl
  · rfl
  · split
    · split
      · exact cleaned
      · rfl
    · split
      · rfl
      · split
        · exact cleaned
        · split
          · rfl
          · split
            · exact served route
            · split
              · rfl
              · exact served _

/-- A reconcile comes to manageRoutes only for the kinds that have an apply. -/
theorem kind_of_manage {r : RouteReconciler} {env : StatusEnv} {route : Route}
    (reached : (beforeManageRoutes r env route).2 = .manage) :
    ∃ source kind, route.spec.kubernetes = some source ∧
      convertUnstructuredToObject source.route = some kind ∧ kind ≠ .service := by
  have cleaned : (cleanupStage env route).2 ≠ .manage := by
    unfold cleanupStage
    split <;> nofun
  unfold beforeManageRoutes at reached
  split at reached
  · cases reached
  · cases reached
  · split at reached
    · split at reached
      · exact absurd reached cleaned
      · cases reached
    · split at reached
      · cases reached
      · rename_i proceed disabled judged
        split at reached
        · exact absurd reached cleaned
        · split at reached
          · cases reached
          · rename_i goesOn
            rw [Bool.eq_true_of_not_eq_false goesOn] at judged
            exact shouldReconcile_proceed judged

/-- Once it comes to manageRoutes, a reconcile applies the resource. -/
theorem reconcileStatus_manage {r : RouteReconciler} {env : StatusEnv} {state : StatusState}
    (reached : (beforeManageRoutes r env state.route).2 = .manage) :
    ∃ kind route,
      (reconcileStatus r env state).1 = (applyResource env kind { state with route := route }).1 ∧
      ((reconcileStatus r env state).2 = none ↔
        (applyResource env kind { state with route := route }).2 = none) := by
  obtain ⟨source, kind, kubernetes, converted, applied⟩ := kind_of_manage reached
  have same := spec_beforeManageRoutes r env state.route
  cases got : beforeManageRoutes r env state.route with
  | mk route stage =>
      rw [got] at reached same
      subst reached
      have managed : manageRoutes env { state with route := route } =
          applyResource env kind { state with route := route } := by
        unfold manageRoutes
        rw [show (StatusState.route { state with route := route }).spec.kubernetes = some source
          from (congrArg RouteSpec.kubernetes same).trans kubernetes]
        simp only [converted]
        cases kind with
        | service => exact absurd rfl applied
        | ingress | gateway | httpRoute | grpcRoute => rfl
      refine ⟨kind, route, ?_⟩
      simp only [reconcileStatus, got, managed]
      cases outcome : applyResource env kind { state with route := route } with
      | mk after failure => cases failure <;> simp

/-- What an apply does: it is listed with its outcome; without an error the
state it leaves is the old one if it failed, else one that says it succeeded. -/
theorem applyResource_spec (env : StatusEnv) (kind : SourceKind) (state : StatusState) :
    (applyResource env kind state).1.route = state.route ∧
    (applyResource env kind state).1.applies =
      state.applies ++ [(state.route.spec, decide (env.apply = none))] ∧
    ((applyResource env kind state).2 = none →
      env.statusFault = none ∧
        (env.apply = none → (applyResource env kind state).1.resource.Says true) ∧
        (env.apply ≠ none → (applyResource env kind state).1.resource = state.resource)) ∧
    (env.apply ≠ none → env.statusFault = none → (applyResource env kind state).2 = none) := by
  unfold applyResource
  cases failed : env.apply with
  | some err => cases written : env.statusFault <;> simp [updateRouteStatus, written]
  | none =>
      cases env.reread with
      | failed err => simp
      | notFound | found obj =>
          cases written : env.statusFault <;>
            simp [updateRouteStatus, written, says_updateResourceStatus]

/-- An apply tells the truth unless its failure is dropped next to a status that
does not record one. -/
theorem tellsTruth_applyResource_iff (env : StatusEnv) (kind : SourceKind)
    (before : StatusState) (route : Route) :
    ((applyResource env kind { before with route := route }).2 = none →
      SuccessIsCurrent (applyResource env kind { before with route := route }).1 ∧
        ((applyResource env kind { before with route := route }).1.applies =
            before.applies ++
              [((applyResource env kind { before with route := route }).1.route.spec, false)] →
          (applyResource env kind { before with route := route }).1.resource.Says false)) ↔
      env.apply = none ∨ env.statusFault.isSome ∨
        (before.resource.Says false ∧ ¬ before.resource.Says true) := by
  obtain ⟨sameRoute, applies, returned, dropped⟩ :=
    applyResource_spec env kind { before with route := route }
  simp only [SuccessIsCurrent, sameRoute, applies, List.getLast?_concat, List.append_cancel_left_eq]
  by_cases succeeded : env.apply = none
  · simp [succeeded]
  · by_cases written : env.statusFault = none
    · have quiet := dropped succeeded written
      have kept := (returned quiet).2.2 succeeded
      simp only [quiet, kept, succeeded, written]
      simp
      tauto
    · have loud : (applyResource env kind { before with route := route }).2 ≠ none :=
        fun quiet => written (returned quiet).1
      simp [loud, Option.isSome_iff_ne_none, written]

/-- One reconcile tells the truth exactly when it meets the condition. -/
theorem tellsTruth_iff {r : RouteReconciler} {before after : StatusState} {action : StatusAction}
    (taken : statusStep r before action = some after) :
    TellsTruth r before action after ↔ AppliesOrKnown r before action := by
  cases action with
  | update spec => exact Iff.rfl
  | delete => exact Iff.rfl
  | reconcile env =>
      cases taken
      simp only [TellsTruth, AppliesOrKnown]
      cases got : beforeManageRoutes r env before.route with
      | mk route stage =>
          have same : route.spec = before.route.spec := by
            rw [← spec_beforeManageRoutes r env before.route, got]
          cases stage with
          | failed err => simp [reconcileStatus, got]
          | skipped =>
              simp only [reconcileStatus, got, SuccessIsCurrent, same, true_implies]
              refine and_iff_left ?_
              intro grown
              simp at grown
          | manage =>
              obtain ⟨kind, route, left, returned⟩ :=
                reconcileStatus_manage (r := r) (congrArg Prod.snd got)
              rw [returned, left]
              exact tellsTruth_applyResource_iff env kind before route

/-- Over every run of reconciles, with any failures in any order, the status
tells the truth exactly when no failed apply is dropped and no reconcile ends
early on a success that an update has superseded. -/
theorem run_status_tells_truth_iff (r : RouteReconciler) (init : StatusState)
    (actions : List StatusAction) :
    EachStep (statusStep r) init actions (TellsTruth r) ↔
      EachStep (statusStep r) init actions fun state action _ => AppliesOrKnown r state action := by
  refine eachStep_congr_of_step ?_ actions
  exact fun _ _ _ taken => tellsTruth_iff taken

def ingressSpec (name : String) : RouteSpec where
  kubernetes := some
    { route := { apiVersion := "networking.k8s.io/v1", kind := "Ingress", name := name } }

/-- The Ingress of the first spec is applied, that of the second is not: the
status says success all the same, and the reconcile returns no error. -/
theorem failed_apply_leaves_success :
    (do let state ← run (statusStep { ns := "kubelb" }) { route := { spec := ingressSpec "web" } }
          [.reconcile {}, .update (ingressSpec "shop")]
        let (after, returned) :=
          reconcileStatus { ns := "kubelb" } { apply := some "forbidden" } state
        return (returned, decide (after.resource.Says true),
          after.applies.map Prod.snd)) = some (none, true, [true, false]) := by
  decide

end KubeLB
