import KubeLB.Resources.RuleSpec
import KubeLB.Route.Services

/-!
What becomes of the backends of a route.

A reference stands for the service of its name in its namespace, which is that of
the route if it has none; this is how the services of a route are collected. The
loop that puts in the names of the LB cluster does not know the namespace of the
route: a reference without a namespace is matched by every service of its name, and
the last one in the list wins. A reference that is resolved leads to the Service that
manageServices writes, if both use one topology.
-/

namespace KubeLB
open Fallible

/-- What a reference of a route in namespace `n` should become. -/
structure Resolved (globalTopology : Bool) (n : String) (services : List ObjectMeta)
    (ref ref' : BackendObjectReference) : Prop where
  listed : ∀ service ∈ services, ref.service n = some service.objectKey →
    ∃ name, generatedName globalTopology service = some name ∧ ref' = ref.renamed name
  unlisted : (∀ service ∈ services, ref.service n ≠ some service.objectKey) → ref' = ref

def BackendRefsResolved (call : RouteCall) (spec : GatewayRouteSpec) : Prop :=
  List.Forall₂ (fun rule rule' : RouteRule =>
    List.Forall₂ (fun ref ref' : RouteBackendRef =>
      Resolved call.globalTopology call.object.ns call.services ref.toBackendObjectReference
        ref'.toBackendObjectReference) rule.backendRefs rule'.backendRefs)
    call.spec.rules spec.rules

def Mistaken (n : String) (ref : BackendObjectReference) (service : ObjectMeta) : Prop :=
  ref.IsService ∧ ref.Matches service ∧ ref.service n ≠ some service.objectKey

/-- Services the reference is mistaken for do no harm: their name in the LB cluster
is the one it should get. -/
def HarmlessMistakes (globalTopology : Bool) (n : String) (services : List ObjectMeta)
    (ref : BackendObjectReference) : Prop :=
  ∀ service ∈ services, Mistaken n ref service → ∃ name,
    generatedName globalTopology service = some name ∧
    Resolved globalTopology n services ref (ref.renamed name)

section
variable {globalTopology : Bool} {n : String} {services services' : List ObjectMeta}
  {ref ref' : BackendObjectReference} {service : ObjectMeta}

theorem matches_of_service (stands : ref.service n = some service.objectKey) :
    ref.IsService ∧ ref.Matches service := by
  unfold BackendObjectReference.service at stands
  split at stands
  · rename_i isService
    obtain ⟨inNamespace, named⟩ := ObjectKey.mk.inj (Option.some.inj stands)
    refine ⟨isService, named, ?_⟩
    cases own : ref.ns with
    | none => exact Or.inl rfl
    | some ns =>
        rw [own, Option.getD_some] at inNamespace
        exact Or.inr (congrArg some inNamespace)
  · cases stands

/-- Only a reference without a namespace is mistaken, for a service of another one. -/
theorem mistaken_iff : Mistaken n ref service ↔
    ref.IsService ∧ ref.ns = none ∧ ref.name = service.name ∧ service.ns ≠ n := by
  unfold Mistaken BackendObjectReference.Matches BackendObjectReference.service ObjectMeta.objectKey
  rw [BackendObjectReference.IsService]
  refine and_congr_right fun isService => ?_
  rw [if_pos isService]
  cases ref.ns <;> simp <;> tauto

theorem Resolved.of_mem_iff (same : ∀ service, service ∈ services' ↔ service ∈ services)
    (resolved : Resolved globalTopology n services' ref ref') :
    Resolved globalTopology n services ref ref' :=
  ⟨fun service listed => resolved.listed service ((same service).mpr listed),
    fun unlisted => resolved.unlisted fun service listed =>
      unlisted service ((same service).mp listed)⟩

theorem eq_of_objectKey (distinct : (services.map ObjectMeta.objectKey).Nodup)
    {service service' : ObjectMeta} (listed : service ∈ services) (listed' : service' ∈ services)
    (same : service.objectKey = service'.objectKey) : service = service' :=
  List.inj_on_of_nodup_map distinct listed listed' same

theorem resolved_of_rewriteReference (distinct : (services.map ObjectMeta.objectKey).Nodup)
    (harmless : HarmlessMistakes globalTopology n services ref)
    (returned : rewriteReference globalTopology services ref = some ref') :
    Resolved globalTopology n services ref ref' := by
  obtain ⟨rfl, unmatched⟩ | ⟨isService, service, listed, matched, name, named, rfl⟩ :=
    eq_or_renamed_of_rewriteReference returned
  · refine ⟨fun service listed stands => ?_, fun _ => rfl⟩
    obtain ⟨isService, matched⟩ := matches_of_service stands
    exact absurd matched (unmatched isService service listed)
  · by_cases stands : ref.service n = some service.objectKey
    · refine ⟨fun other otherListed otherStands => ⟨name, ?_, rfl⟩,
        fun unlisted => absurd stands (unlisted service listed)⟩
      have same := Option.some.inj (stands.symm.trans otherStands)
      rwa [← eq_of_objectKey distinct listed otherListed same]
    · obtain ⟨name', named', resolved⟩ := harmless service listed ⟨isService, matched, stands⟩
      cases named.symm.trans named'
      exact resolved

end

section
variable {kind : GatewayRouteKind} {call : RouteCall} {spec : GatewayRouteSpec}

/-- A rule that is rewritten has its backends rewritten one by one. -/
theorem backendRefs_of_rewriteRule {globalTopology : Bool} {services : List ObjectMeta}
    {rule rule' : RouteRule} (rewritten : rewriteRule globalTopology services rule = some rule') :
    List.Forall₂ (fun ref ref' : RouteBackendRef =>
      rewriteReference globalTopology services ref.toBackendObjectReference =
        some ref'.toBackendObjectReference) rule.backendRefs rule'.backendRefs := by
  obtain ⟨own, _, returned⟩ := rewriteRule_eq_some.mp rewritten
  refine (mapM_eq_some_iff.mp (mapM_of_rewriteBackendRefs returned)).imp
    fun ref ref' rewritten => ?_
  obtain ⟨target, found, rfl⟩ := Option.map_eq_some_iff.mp rewritten
  exact found

theorem backendRefsResolved_of_harmless
    (distinct : (call.services.map ObjectMeta.objectKey).Nodup)
    (harmless : ∀ rule ∈ call.spec.rules, ∀ ref ∈ rule.backendRefs,
      HarmlessMistakes call.globalTopology call.object.ns call.services
        ref.toBackendObjectReference)
    (rewritten : call.spec.rules.mapM (rewriteRule call.globalTopology call.services) =
      some spec.rules) : BackendRefsResolved call spec := by
  have rules := (List.forall₂_and_left _ _).mpr ⟨harmless, mapM_eq_some_iff.mp rewritten⟩
  refine rules.imp fun rule rule' ⟨harmlessRefs, rewritten⟩ => ?_
  have refs := (List.forall₂_and_left _ _).mpr
    ⟨harmlessRefs, backendRefs_of_rewriteRule rewritten⟩
  exact refs.imp fun ref ref' ⟨safe, returned⟩ =>
    resolved_of_rewriteReference distinct safe returned

theorem resolved_of_last {rule : RouteRule} {ref : RouteBackendRef} {service : ObjectMeta}
    {front : List ObjectMeta} (listed : call.services = front ++ [service])
    (resolved : BackendRefsResolved call spec)
    (rewritten : call.spec.rules.mapM (rewriteRule call.globalTopology call.services) =
      some spec.rules)
    (inRules : rule ∈ call.spec.rules) (inRule : ref ∈ rule.backendRefs)
    (isService : ref.IsService) (matched : ref.Matches service) :
    ∃ name, generatedName call.globalTopology service = some name ∧
      Resolved call.globalTopology call.object.ns call.services ref.toBackendObjectReference
        (ref.renamed name) := by
  have rules := forall₂_and resolved (mapM_eq_some_iff.mp rewritten)
  obtain ⟨rule', _, resolvedRefs, rewritten⟩ := exists_of_forall₂ rules.flip inRules
  have refs := forall₂_and resolvedRefs (backendRefs_of_rewriteRule rewritten)
  obtain ⟨ref', _, resolvedRef, returned⟩ := exists_of_forall₂ refs.flip inRule
  rw [listed] at returned
  obtain ⟨name, named, renamed⟩ := rewriteReference_concat isService matched returned
  rw [renamed] at resolvedRef
  exact ⟨name, named, resolvedRef⟩

/-- In every order of the services all backends become what they should, exactly
when the call returns and no backend is taken to mean a service of another
namespace, or the two have one name in the LB cluster. -/
theorem backendRefs_resolved_iff (distinct : (call.services.map ObjectMeta.objectKey).Nodup) :
    (∀ services', services'.Perm call.services →
      Leaves (RouteCall.desired kind { call with services := services' })
        (createOrUpdateGatewayRoute kind { call with services := services' })
        (BackendRefsResolved { call with services := services' })) ↔
    call.Returns ∧ ∀ rule ∈ call.spec.rules, ∀ ref ∈ rule.backendRefs,
      HarmlessMistakes call.globalTopology call.object.ns call.services
        ref.toBackendObjectReference := by
  simp only [RouteCall.leaves_iff]
  constructor
  · intro always
    constructor
    · obtain ⟨desired, built, _⟩ := always call.services (List.Perm.refl _)
      exact RouteCall.desired_isSome_iff.mp (Option.isSome_iff_exists.mpr ⟨desired, built⟩)
    · intro rule inRules ref inRule service listed mistaken
      have perm : ((call.services.erase service) ++ [service]).Perm call.services :=
        (List.perm_append_singleton _ _).trans (List.perm_cons_erase listed).symm
      obtain ⟨desired, built, resolved⟩ := always _ perm
      obtain ⟨name, named, resolvedRef⟩ := resolved_of_last rfl resolved
        (RouteCall.rules_of_desired built) inRules inRule mistaken.1 mistaken.2.1
      exact ⟨name, named, resolvedRef.of_mem_iff fun _ => perm.mem_iff⟩
  · rintro ⟨returns, harmless⟩ services' perm
    have isSome : (RouteCall.desired kind { call with services := services' }).isSome := by
      refine RouteCall.desired_isSome_iff.mpr ⟨returns.object, fun rule member => ?_⟩
      exact (returns.rules rule member).of_mem_iff fun _ => perm.mem_iff
    obtain ⟨desired, built⟩ := Option.isSome_iff_exists.mp isSome
    refine ⟨desired, built, backendRefsResolved_of_harmless ?_ ?_
      (RouteCall.rules_of_desired built)⟩
    · exact (perm.map _).nodup_iff.mpr distinct
    · intro rule inRules ref inRule service listed mistaken
      obtain ⟨name, named, resolved⟩ :=
        harmless rule inRules ref inRule service (perm.mem_iff.mp listed) mistaken
      exact ⟨name, named, resolved.of_mem_iff fun _ => perm.mem_iff.symm⟩

end

/-! ### The services manageRoutes passes on -/

def referencedService (service : Service) : ObjectMeta :=
  { name := getServiceName service, ns := service.ns, uid := service.uid }

def referencedServices (source : KubernetesSource) : List ObjectMeta :=
  source.services.map referencedService

def shopCall (refs : List RouteBackendRef) (services : List ObjectMeta) : RouteCall where
  object := { name := "shop", ns := "default", uid := "5d3c-77aa" }
  spec := { rules := [{ backendRefs := refs }] }
  services := services
  ns := "tenant-primary"

def apiCall : List ObjectMeta → RouteCall := shopCall [{ name := "api" }]

def apiIn (ns uid : String) : ObjectMeta := { name := "api", ns := ns, uid := uid }

/-- A backend of the route's own namespace and one of another, which it names. -/
theorem backendRefs_resolved_two_namespaces :
    let call := shopCall [{ name := "api" }, { name := "web", ns := some "team-b" }]
      [apiIn "default" "0f0e-4a1b", { name := "web", ns := "team-b", uid := "9c21-08fd" }]
    ∀ services', services'.Perm call.services →
      Leaves (RouteCall.desired .httpRoute { call with services := services' })
        (createOrUpdateGatewayRoute .httpRoute { call with services := services' })
        (BackendRefsResolved { call with services := services' }) := by
  intro call
  refine (@backendRefs_resolved_iff .httpRoute call (by decide)).mpr ⟨?_, ?_⟩
  · exact (@RouteCall.desired_isSome_iff .httpRoute _).mp (by decide)
  · intro rule inRules ref inRule service listed mistaken
    obtain ⟨_, unqualified, named, foreign⟩ := mistaken_iff.mp mistaken
    cases List.mem_singleton.mp inRules
    simp only [call, shopCall, List.mem_cons, List.not_mem_nil, or_false] at inRule listed
    obtain rfl | rfl := inRule
    · obtain rfl | rfl := listed
      · exact absurd rfl foreign
      · exact absurd named (by decide)
    · cases unqualified

/-- The backend api of a route in the namespace default gets the name of the service
api in the namespace team-b, if that one is last in the list. -/
theorem backendRef_taken_by_other_namespace :
    let names (services : List ObjectMeta) := do
      let done ← createOrUpdateHTTPRoute (apiCall services) ∅
      let store ← done.toOption
      let stored ← store.lookup ⟨"tenant-primary", "default-shop"⟩
      return stored.spec.rules.map fun rule => rule.backendRefs.map fun ref => ref.name
    let own := apiIn "default" "0f0e-4a1b"
    let other := apiIn "team-b" "9c21-08fd"
    [own.objectKey, other.objectKey].Nodup ∧
      names [other, own] = some [["default-api"]] ∧ names [own, other] = some [["team-b-api"]] := by
  decide

end KubeLB
