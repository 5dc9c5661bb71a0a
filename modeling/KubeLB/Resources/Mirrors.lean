import KubeLB.Resources.RuleSpec

/-!
The mirrors in the filters of a backend.

They are collected with the other services of the route. When the names of the LB
cluster are put in, they are found again, but the name is written to the filter of
the rule that has the index of the backend: the mirror itself stays as it is, and
the rule may have no such filter, or one that is not a mirror.
-/

namespace KubeLB
open Fallible

def GatewayRouteKind.getServices : GatewayRouteKind → GatewayRoute → List ObjectKey
  | .httpRoute => getServicesFromHTTPRoute
  | .grpcRoute => getServicesFromGRPCRoute

/-- A filter of a backend before and after the call: the mirror of a service that is
collected and listed has its name in the LB cluster. -/
def MirrorRewritten (kind : GatewayRouteKind) (call : RouteCall) (filter filter' : RouteFilter) :
    Prop :=
  ∀ mirror, filter.requestMirror = some mirror →
    ∀ key ∈ kind.getServices ⟨call.object, call.spec⟩, mirror.service call.object.ns = some key →
      (∃ service ∈ call.services, service.objectKey = key) →
      ∃ service ∈ call.services, service.objectKey = key ∧
        ∃ name, generatedName call.globalTopology service = some name ∧
          filter'.requestMirror = some (mirror.renamed name)

/-- The mirrors of the backends are rewritten in place, and the filters of a rule by
their own references only. -/
def MirrorsRewritten (kind : GatewayRouteKind) (call : RouteCall) (spec : GatewayRouteSpec) :
    Prop :=
  List.Forall₂ (fun rule rule' : RouteRule =>
    List.Forall₂ (fun ref ref' : RouteBackendRef =>
      List.Forall₂ (MirrorRewritten kind call) ref.filters ref'.filters)
      rule.backendRefs rule'.backendRefs ∧
    rule.filters.mapM (rewriteFilter call.globalTopology call.services) = some rule'.filters)
    call.spec.rules spec.rules

/-- Nothing is lost with backend number `j`: what is written for its mirrors is
there already, and the mirrors have the names they should get. -/
structure Undisturbed (call : RouteCall) (rule : RouteRule) (j : Nat) (ref : RouteBackendRef) :
    Prop where
  generated : ∀ service ∈ nestedMatches call.services ref.filters,
    (generatedName call.globalTopology service).isSome
  written : ∀ service, (nestedMatches call.services ref.filters).getLast? = some service →
    ∃ filter filter' mirror, rule.filters[j]? = some filter ∧
      rewriteFilter call.globalTopology call.services filter = some filter' ∧
      filter'.requestMirror = some mirror ∧
      generatedName call.globalTopology service = some mirror.name ∧ mirror.ns = none
  named : ∀ filter ∈ ref.filters, ∀ mirror, filter.requestMirror = some mirror →
    (∃ service ∈ call.services, mirror.service call.object.ns = some service.objectKey) →
    ∃ service ∈ call.services, mirror.service call.object.ns = some service.objectKey ∧
      generatedName call.globalTopology service = some mirror.name ∧ mirror.ns = none

/-- The rule has all names for its own references, and no backend disturbs it. -/
structure RuleUndisturbed (call : RouteCall) (rule : RouteRule) : Prop where
  filters : ∀ filter ∈ rule.filters, ∀ mirror, filter.requestMirror = some mirror →
    ReferenceReturns call.globalTopology call.services mirror
  backends : ∀ ref ∈ rule.backendRefs,
    ReferenceReturns call.globalTopology call.services ref.toBackendObjectReference
  undisturbed : ∀ j ref, rule.backendRefs[j]? = some ref → Undisturbed call rule j ref

section
variable {kind : GatewayRouteKind} {call : RouteCall} {rule rule' : RouteRule}
  {ref : RouteBackendRef} {filter : RouteFilter} {mirror : BackendObjectReference} {j : Nat}

theorem mem_getServices_of_nested (inRules : rule ∈ call.spec.rules)
    (inRule : ref ∈ rule.backendRefs) (inRef : filter ∈ ref.filters)
    (mirrors : filter.requestMirror = some mirror) {key : ObjectKey}
    (stands : mirror.service call.object.ns = some key) :
    key ∈ kind.getServices ⟨call.object, call.spec⟩ := by
  have nested : key ∈ mirroredServices call.object.ns ref.filters :=
    List.mem_filterMap.mpr ⟨filter, inRef, by rw [mirrors, Option.bind_some, stands]⟩
  have collected : key ∈ GatewayRoute.services ⟨call.object, call.spec⟩ := by
    rw [GatewayRoute.services, List.mem_eraseDups, List.mem_flatMap]
    refine ⟨rule, inRules, List.mem_append_right _ (List.mem_flatMap.mpr ⟨ref, inRule, ?_⟩)⟩
    exact List.mem_append_right _ nested
  cases kind <;> exact collected

/-- A filter that is left alone is as it should be if the name is there already. -/
theorem mirrorRewritten_self_iff (inRules : rule ∈ call.spec.rules)
    (inRule : ref ∈ rule.backendRefs) (inRef : filter ∈ ref.filters) :
    MirrorRewritten kind call filter filter ↔
      ∀ mirror, filter.requestMirror = some mirror →
        (∃ service ∈ call.services, mirror.service call.object.ns = some service.objectKey) →
        ∃ service ∈ call.services, mirror.service call.object.ns = some service.objectKey ∧
          generatedName call.globalTopology service = some mirror.name ∧ mirror.ns = none := by
  refine forall₂_congr fun mirror mirrors => ?_
  constructor
  · rintro rewritten ⟨service, listed, stands⟩
    obtain ⟨service', listed', sameKey, name, named, same⟩ := rewritten service.objectKey
      (mem_getServices_of_nested inRules inRule inRef mirrors stands) stands ⟨service, listed, rfl⟩
    rw [mirrors] at same
    obtain ⟨rfl, cleared⟩ := renamed_eq_self_iff.mp (Option.some.inj same).symm
    exact ⟨service', listed', by rw [sameKey, stands], named, cleared⟩
  · rintro named key _ stands ⟨service, listed, rfl⟩
    obtain ⟨service', listed', stands', generated, cleared⟩ := named ⟨service, listed, stands⟩
    refine ⟨service', listed', Option.some.inj (stands'.symm.trans stands), mirror.name,
      generated, ?_⟩
    rw [mirrors, renamed_eq_self_iff.mpr ⟨rfl, cleared⟩]

/-- The rewriting of a rule that returns does what it should exactly if no backend
disturbs the rule. -/
theorem rule_rewritten_iff (inRules : rule ∈ call.spec.rules)
    (rewritten : rewriteRule call.globalTopology call.services rule = some rule') :
    (List.Forall₂ (fun ref ref' : RouteBackendRef =>
        List.Forall₂ (MirrorRewritten kind call) ref.filters ref'.filters)
        rule.backendRefs rule'.backendRefs ∧
      rule.filters.mapM (rewriteFilter call.globalTopology call.services) = some rule'.filters) ↔
    ∀ j ref, rule.backendRefs[j]? = some ref → Undisturbed call rule j ref := by
  obtain ⟨own, filtered, returned⟩ := rewriteRule_eq_some.mp rewritten
  -- The call leaves the filters of the backends alone.
  have nested_iff : List.Forall₂ (fun ref ref' : RouteBackendRef =>
      List.Forall₂ (MirrorRewritten kind call) ref.filters ref'.filters)
      rule.backendRefs rule'.backendRefs ↔ ∀ ref ∈ rule.backendRefs, ∀ filter ∈ ref.filters,
        MirrorRewritten kind call filter filter := by
    refine forall₂_iff_of_forall₂ (mapM_eq_some_iff.mp (mapM_of_rewriteBackendRefs returned)) ?_
    intro ref ref' rewritten
    obtain ⟨target, _, rfl⟩ := Option.map_eq_some_iff.mp rewritten
    exact List.forall₂_same
  have filters_iff : rule.filters.mapM (rewriteFilter call.globalTopology call.services) =
      some rule'.filters ↔ rule'.filters = own := by
    rw [filtered, Option.some.injEq, eq_comm]
  rw [nested_iff, filters_iff, rewriteBackendRefs_filters_eq_iff returned]
  simp only [Nat.zero_add, rewriteNested_eq_self_iff, getElem?_of_mapM filtered,
    Option.bind_eq_some_iff]
  constructor
  · rintro ⟨named, kept⟩ j ref found
    have inRule : ref ∈ rule.backendRefs := List.mem_of_getElem? found
    obtain ⟨generated, written⟩ := kept j ref found
    refine ⟨generated, fun service last => ?_, fun filter inRef => ?_⟩
    · obtain ⟨filter', mirror, ⟨filter, found, rewritten⟩, mirrors⟩ := written service last
      exact ⟨filter, filter', mirror, found, rewritten, mirrors⟩
    · exact (mirrorRewritten_self_iff inRules inRule inRef).mp (named ref inRule filter inRef)
  · intro undisturbed
    constructor
    · intro ref inRule filter inRef
      obtain ⟨j, found⟩ := List.mem_iff_getElem?.mp inRule
      exact (mirrorRewritten_self_iff inRules inRule inRef).mpr
        ((undisturbed j ref found).named filter inRef)
    · intro j ref found
      refine ⟨(undisturbed j ref found).generated, fun service last => ?_⟩
      obtain ⟨filter, filter', mirror, found, rewritten, mirrors⟩ :=
        (undisturbed j ref found).written service last
      exact ⟨filter', mirror, ⟨filter, found, rewritten⟩, mirrors⟩

theorem RuleUndisturbed.returns (kept : RuleUndisturbed call rule) :
    RuleReturns call.globalTopology call.services rule := by
  refine ⟨kept.filters, fun j ref found => ⟨kept.backends ref (List.mem_of_getElem? found), ?_⟩⟩
  intro service matched
  have undisturbed := kept.undisturbed j ref found
  refine ⟨undisturbed.generated service matched, ?_⟩
  obtain ⟨last, isLast⟩ := Option.isSome_iff_exists.mp
    (List.getLast?_isSome.mpr (List.ne_nil_of_mem matched))
  obtain ⟨filter, filter', mirror, found, rewritten, mirrors, _⟩ := undisturbed.written last isLast
  refine ⟨filter, found, ?_⟩
  rw [← isSome_requestMirror_of_rewriteFilter rewritten, mirrors]
  rfl

/-- The call returns, rewrites the mirrors of the backends in place and writes no
filter of a rule for them, exactly if no rule is disturbed. -/
theorem mirrors_rewritten_iff :
    Leaves (call.desired kind) (createOrUpdateGatewayRoute kind call)
      (MirrorsRewritten kind call) ↔
    (generatedName call.globalTopology call.object).isSome ∧
      ∀ rule ∈ call.spec.rules, RuleUndisturbed call rule := by
  rw [RouteCall.leaves_iff]
  have rules_iff {desired : LbObject GatewayRouteSpec}
      (built : call.desired kind = some desired) :
      MirrorsRewritten kind call desired.spec ↔ ∀ rule ∈ call.spec.rules,
        ∀ j ref, rule.backendRefs[j]? = some ref → Undisturbed call rule j ref := by
    have rewritten := mapM_eq_some_iff.mp (RouteCall.rules_of_desired built)
    have members := (List.forall₂_and_left _ _).mpr ⟨fun _ member => member, rewritten⟩
    exact forall₂_iff_of_forall₂ members fun rule rule' ⟨inRules, rewritten⟩ =>
      rule_rewritten_iff inRules rewritten
  constructor
  · rintro ⟨desired, built, rewritten⟩
    have returns : call.Returns :=
      RouteCall.desired_isSome_iff.mp (Option.isSome_iff_exists.mpr ⟨desired, built⟩)
    refine ⟨returns.object, fun rule inRules => ⟨(returns.rules rule inRules).filters, ?_,
      (rules_iff built).mp rewritten rule inRules⟩⟩
    intro ref inRule
    obtain ⟨j, found⟩ := List.mem_iff_getElem?.mp inRule
    exact ((returns.rules rule inRules).backends j ref found).reference
  · rintro ⟨object, kept⟩
    have returns : call.Returns := ⟨object, fun rule inRules => (kept rule inRules).returns⟩
    obtain ⟨desired, built⟩ := Option.isSome_iff_exists.mp
      ((@RouteCall.desired_isSome_iff kind call).mpr returns)
    exact ⟨desired, built,
      (rules_iff built).mpr fun rule inRules => (kept rule inRules).undisturbed⟩

end

def mirrorTo (name : String) : RouteFilter := { requestMirror := some { name := name } }

/-- A route with a rule with these filters and one backend, which mirrors to audit. -/
def auditCall (filters : List RouteFilter) : RouteCall where
  object := { name := "shop", ns := "default", uid := "5d3c-77aa" }
  spec :=
    { rules := [{ filters := filters
                  backendRefs := [{ name := "web", filters := [mirrorTo "audit"] }] }] }
  services := [{ name := "audit", ns := "default", uid := "0f0e-4a1b" }]
  ns := "tenant-primary"

/-- Without a filter in the rule the call panics. With a mirror to another service
there, this mirror is sent to audit, and the one of the backend keeps its name. -/
theorem nested_mirror_panics_or_overwrites :
    createOrUpdateHTTPRoute (auditCall []) ∅ = none ∧
    (do let done ← createOrUpdateHTTPRoute (auditCall [mirrorTo "log"]) ∅
        let store ← done.toOption
        let stored ← store.lookup ⟨"tenant-primary", "default-shop"⟩
        let mirrors (filters : List RouteFilter) := filters.map fun filter =>
          filter.requestMirror.map BackendObjectReference.name
        return stored.spec.rules.map fun rule =>
          (mirrors rule.filters, rule.backendRefs.map fun ref => mirrors ref.filters)) =
      some [([some "default-audit"], [[some "audit"]])] := by
  refine ⟨?_, by decide⟩
  rfl

end KubeLB
