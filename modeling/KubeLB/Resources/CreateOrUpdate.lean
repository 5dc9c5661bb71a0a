import KubeLB.Foundation.LastMatch
import KubeLB.Resources

/-!
CreateOrUpdateHTTPRoute, CreateOrUpdateGRPCRoute and CreateOrUpdateIngress
(internal/resources): the object of the tenant is given the names its services
have in the LB cluster and is written to the namespace of the tenant.

A nil pointer, an index out of range and the panic of GenerateName are `none`. For
a route the name and the namespace to look for are copied before the loop over the
services; for an Ingress they are read through a pointer, so that the loop sees
what it has written. The API server is taken to store an object as it is written.
-/

namespace KubeLB
open FiniteMap LastMatch

structure LbObject (σ : Type) extends ObjectMeta where
  spec : σ
  deriving DecidableEq

abbrev LbStore (σ : Type) := FiniteMap ObjectKey (LbObject σ)

structure ApplyCall (σ : Type) where
  object : ObjectMeta
  spec : σ
  services : List ObjectMeta := []
  ns : String
  annotations : AnnotationSettings := {}
  globalTopology : Bool := false
  faults : ApiFaults := {}
  uid : String := ""

def ApplyCall.desiredMeta {σ : Type} (call : ApplyCall σ) (resource : AnnotatedResource) :
    Option ObjectMeta := do
  let name ←
    generateName call.globalTopology call.object.uid call.object.name call.object.ns
  return { call.object with
    name := name
    ns := call.ns
    uid := ""
    labels := addKubeLBLabels call.object.labels call.object.name call.object.ns ""
    annotations := propagateAnnotations call.object.annotations call.annotations resource }

/-- The end of the three functions: Get, then Create, Update or nothing. -/
def ApplyCall.applyObject {σ : Type} [DecidableEq σ] (call : ApplyCall σ) (kind : String)
    (desired : LbObject σ) (store : LbStore σ) : Except String (LbStore σ) :=
  let key := desired.objectKey
  match call.faults.get key with
  | some err => .error ("failed to get " ++ kind ++ ": " ++ err)
  | none =>
      match store.lookup key with
      | none =>
          match call.faults.create key with
          | some err => .error ("failed to create " ++ kind ++ ": " ++ err)
          | none => .ok (store.insert key { desired with uid := call.uid })
      | some existing =>
          let merged :=
            mergeAnnotations (readBack existing.annotations) (some desired.annotations)
          if existing.spec = desired.spec ∧ existing.labels = desired.labels ∧
              compareAnnotations (readBack existing.annotations) merged then .ok store
          else
            match call.faults.update key with
            | some err => .error ("failed to update " ++ kind ++ ": " ++ err)
            | none =>
                .ok (store.insert key
                  { desired with uid := existing.uid, annotations := merged.getD ∅ })

theorem spec_of_applyObject {σ : Type} [DecidableEq σ] {call : ApplyCall σ} {kind : String}
    {desired : LbObject σ} {store after : LbStore σ}
    (done : call.applyObject kind desired store = .ok after) :
    (after.lookup desired.objectKey).map LbObject.spec = some desired.spec := by
  simp only [ApplyCall.applyObject] at done
  split at done
  · cases done
  · split at done
    · split at done
      · cases done
      · cases done
        simp
    · rename_i existing stored
      split at done
      · rename_i same
        cases done
        rw [stored, Option.map_some, same.1]
      · split at done
        · cases done
        · cases done
          simp

/-- The call builds an object with a spec that satisfies `P`, and leaves this spec
stored if it succeeds. -/
def Leaves {σ : Type} (built : Option (LbObject σ))
    (run : LbStore σ → Option (Except String (LbStore σ))) (P : σ → Prop) : Prop :=
  ∃ desired, built = some desired ∧ P desired.spec ∧
    ∀ store after, run store = some (.ok after) →
      (after.lookup desired.objectKey).map LbObject.spec = some desired.spec

/-- What is stored is what is built, so it is enough to look at the latter. -/
theorem leaves_iff {σ : Type} [DecidableEq σ] {call : ApplyCall σ} {kind : String}
    {built : Option (LbObject σ)} {P : σ → Prop} :
    Leaves built (fun store => built.map fun desired => call.applyObject kind desired store) P ↔
      ∃ desired, built = some desired ∧ P desired.spec := by
  constructor
  · rintro ⟨desired, isBuilt, holds, _⟩
    exact ⟨desired, isBuilt, holds⟩
  · rintro ⟨desired, rfl, holds⟩
    refine ⟨desired, rfl, holds, fun store after done => ?_⟩
    exact spec_of_applyObject (Option.some.inj done)

/-! ### HTTPRoutes and GRPCRoutes -/

def BackendObjectReference.IsService (ref : BackendObjectReference) : Prop :=
  ref.kind = none ∨ ref.kind = some serviceKind

instance (ref : BackendObjectReference) : Decidable ref.IsService :=
  inferInstanceAs (Decidable (_ ∨ _))

/-- A reference without a namespace matches the services of all namespaces. -/
def BackendObjectReference.Matches (ref : BackendObjectReference) (service : ObjectMeta) : Prop :=
  ref.name = service.name ∧ (ref.ns = none ∨ ref.ns = some service.ns)

instance (ref : BackendObjectReference) : DecidablePred ref.Matches :=
  fun _ => inferInstanceAs (Decidable (_ ∧ _))

/-- The name is set and the namespace is cleared. -/
def BackendObjectReference.renamed (ref : BackendObjectReference) (name : String) :
    BackendObjectReference :=
  { ref with name := name, ns := none }

theorem renamed_eq_self_iff {ref : BackendObjectReference} {name : String} :
    ref.renamed name = ref ↔ ref.name = name ∧ ref.ns = none := by
  constructor
  · intro same
    rw [← same]
    exact ⟨rfl, rfl⟩
  · rintro ⟨rfl, cleared⟩
    cases ref
    cases cleared
    rfl

section
variable (globalTopology : Bool) (services : List ObjectMeta)

def generatedName (service : ObjectMeta) : Option String :=
  generateName globalTopology service.uid service.name service.ns

def rewriteReference (ref : BackendObjectReference) : Option BackendObjectReference :=
  if ref.IsService then
    loop ref.Matches (generatedName globalTopology) (fun target name => some (target.renamed name))
      services ref
  else some ref

def rewriteFilter (filter : RouteFilter) : Option RouteFilter :=
  match filter.requestMirror with
  | none => some filter
  | some mirror =>
      (rewriteReference globalTopology services mirror).map fun mirror =>
        { filter with requestMirror := some mirror }

def rewriteBackendRef (ref : RouteBackendRef) : Option RouteBackendRef :=
  (rewriteReference globalTopology services ref.toBackendObjectReference).map fun target =>
    { ref with toBackendObjectReference := target }

/-- The write to `Rules[i].Filters[j].RequestMirror.BackendRef`. -/
def overwriteMirror (j : Nat) (filters : List RouteFilter) (name : String) :
    Option (List RouteFilter) := do
  let filter ← filters[j]?
  let mirror ← filter.requestMirror
  return filters.set j { filter with requestMirror := some (mirror.renamed name) }

/-- The loop over the filters of a backend. The index `j` is that of the backend, and
what is written is a filter of the rule. -/
def rewriteNested (j : Nat) (nested filters : List RouteFilter) : Option (List RouteFilter) :=
  nested.foldlM (fun filters filter =>
    match filter.requestMirror with
    | none => some filters
    | some mirror =>
        if mirror.IsService then
          loop mirror.Matches (generatedName globalTopology) (overwriteMirror j) services filters
        else some filters) filters

/-- The loop over the backends of a rule, from index `j` on, with the filters of the
rule as they are so far. -/
def rewriteBackendRefs : Nat → List RouteBackendRef → List RouteFilter →
    Option (List RouteBackendRef × List RouteFilter)
  | _, [], filters => some ([], filters)
  | j, ref :: refs, filters => do
      let target ← rewriteBackendRef globalTopology services ref
      let filters ← rewriteNested globalTopology services j ref.filters filters
      let (targets, filters) ← rewriteBackendRefs (j + 1) refs filters
      return (target :: targets, filters)

def rewriteRule (rule : RouteRule) : Option RouteRule := do
  let filters ← rule.filters.mapM (rewriteFilter globalTopology services)
  let (backendRefs, filters) ←
    rewriteBackendRefs globalTopology services 0 rule.backendRefs filters
  return { filters := filters, backendRefs := backendRefs }

end

def normalizeParentRefs (parentRefs : List ParentReference) : List ParentReference :=
  parentRefs.map fun parentRef => { parentRef with ns := none }

inductive GatewayRouteKind
  | httpRoute | grpcRoute
  deriving DecidableEq

def GatewayRouteKind.name : GatewayRouteKind → String
  | .httpRoute => "HTTPRoute"
  | .grpcRoute => "GRPCRoute"

def GatewayRouteKind.annotated : GatewayRouteKind → AnnotatedResource
  | .httpRoute => .httpRoute
  | .grpcRoute => .grpcRoute

abbrev RouteCall := ApplyCall GatewayRouteSpec

def RouteCall.desired (kind : GatewayRouteKind) (call : RouteCall) :
    Option (LbObject GatewayRouteSpec) := do
  let rules ← call.spec.rules.mapM (rewriteRule call.globalTopology call.services)
  let object ← call.desiredMeta kind.annotated
  return { toObjectMeta := object
           spec := { call.spec with
             parentRefs := normalizeParentRefs call.spec.parentRefs, rules := rules } }

def createOrUpdateGatewayRoute (kind : GatewayRouteKind) (call : RouteCall)
    (store : LbStore GatewayRouteSpec) : Option (Except String (LbStore GatewayRouteSpec)) :=
  (call.desired kind).map fun desired => call.applyObject kind.name desired store

theorem RouteCall.leaves_iff {kind : GatewayRouteKind} {call : RouteCall}
    {P : GatewayRouteSpec → Prop} :
    Leaves (call.desired kind) (createOrUpdateGatewayRoute kind call) P ↔
      ∃ desired, call.desired kind = some desired ∧ P desired.spec :=
  KubeLB.leaves_iff

def createOrUpdateHTTPRoute := createOrUpdateGatewayRoute .httpRoute

def createOrUpdateGRPCRoute := createOrUpdateGatewayRoute .grpcRoute

/-! ### Ingresses -/

section
variable (globalTopology : Bool) (services : List ObjectMeta)

def rewriteIngressBackend (backend : IngressBackend) : Option IngressBackend :=
  services.foldlM (fun backend service => do
    let target ← backend.service
    if target.name = service.name then
      let name ← generatedName globalTopology service
      return { backend with service := some { target with name := name } }
    else
      return backend) backend

def rewriteIngressPath (path : HTTPIngressPath) : Option HTTPIngressPath :=
  (rewriteIngressBackend globalTopology services path.backend).map fun backend =>
    { path with backend := backend }

def rewriteIngressRule (rule : IngressRule) : Option IngressRule := do
  let paths ← rule.http
  (paths.mapM (rewriteIngressPath globalTopology services)).map fun paths =>
    { rule with http := some paths }

/-- The default backend is left alone unless it is a service. -/
def rewriteDefaultBackend : Option IngressBackend → Option (Option IngressBackend)
  | none => some none
  | some backend =>
      if backend.service.isSome then
        (rewriteIngressBackend globalTopology services backend).map some
      else some (some backend)

end

structure IngressCall extends ApplyCall IngressSpec where
  configClass : Option String := none
  tenantClass : Option String := none
  secrets : Except String (List ObjectMeta) := .ok []

def IngressCall.tls (call : IngressCall) (tls : IngressTLS) : IngressTLS :=
  let secretName := getSecretNameIfExists call.secrets tls.secretName call.object.ns call.ns
  if secretName ≠ "" then { tls with secretName := secretName } else tls

def IngressCall.desired (call : IngressCall) : Option (LbObject IngressSpec) := do
  let rules ← call.spec.rules.mapM (rewriteIngressRule call.globalTopology call.services)
  let defaultBackend ←
    rewriteDefaultBackend call.globalTopology call.services call.spec.defaultBackend
  let object ← call.desiredMeta .ingress
  return { toObjectMeta := object
           spec :=
             { ingressClassName :=
                 call.tenantClass <|> call.configClass <|> call.spec.ingressClassName
               defaultBackend := defaultBackend
               rules := rules
               tls := call.spec.tls.map call.tls } }

def createOrUpdateIngress (call : IngressCall) (store : LbStore IngressSpec) :
    Option (Except String (LbStore IngressSpec)) :=
  call.desired.map fun desired => call.applyObject "Ingress" desired store

theorem IngressCall.leaves_iff {call : IngressCall} {P : IngressSpec → Prop} :
    Leaves call.desired (createOrUpdateIngress call) P ↔
      ∃ desired, call.desired = some desired ∧ P desired.spec :=
  KubeLB.leaves_iff

end KubeLB
