import KubeLB.Resources.RewriteSpec

/-!
The backends and the rules of a route: when the rewriting returns, and when it
leaves the filters of a rule to their own references.

The loop over the backends is followed by the index it has reached. Filters with a
smaller index are final, so that what backend `j` writes to filter `j` is there at
the end.
-/

namespace KubeLB
open Fallible LastMatch

/-- Backend number `j` of a rule with these filters is rewritten without a panic. -/
structure BackendReturns (globalTopology : Bool) (services : List ObjectMeta)
    (filters : List RouteFilter) (j : Nat) (ref : RouteBackendRef) : Prop where
  reference : ReferenceReturns globalTopology services ref.toBackendObjectReference
  nested : ∀ service ∈ nestedMatches services ref.filters,
    (generatedName globalTopology service).isSome ∧ HasMirror filters j

structure RuleReturns (globalTopology : Bool) (services : List ObjectMeta) (rule : RouteRule) :
    Prop where
  filters : ∀ filter ∈ rule.filters, ∀ mirror, filter.requestMirror = some mirror →
    ReferenceReturns globalTopology services mirror
  backends : ∀ j ref, rule.backendRefs[j]? = some ref →
    BackendReturns globalTopology services rule.filters j ref

structure RouteCall.Returns (call : RouteCall) : Prop where
  object : (generatedName call.globalTopology call.object).isSome
  rules : ∀ rule ∈ call.spec.rules, RuleReturns call.globalTopology call.services rule

section
variable {globalTopology : Bool} {services services' : List ObjectMeta}
  {filters filters' : List RouteFilter} {i j : Nat}

theorem rewriteBackendRef_isSome_iff {ref : RouteBackendRef} :
    (rewriteBackendRef globalTopology services ref).isSome ↔
      ReferenceReturns globalTopology services ref.toBackendObjectReference := by
  rw [rewriteBackendRef, Option.isSome_map, rewriteReference_isSome_iff]

theorem backendReturns_congr {ref : RouteBackendRef}
    (same : HasMirror filters' j ↔ HasMirror filters j) :
    BackendReturns globalTopology services filters' j ref ↔
      BackendReturns globalTopology services filters j ref := by
  constructor <;> intro returns
  · exact ⟨returns.reference, fun service written =>
      (returns.nested service written).imp id same.mp⟩
  · exact ⟨returns.reference, fun service written =>
      (returns.nested service written).imp id same.mpr⟩

variable {backend : RouteBackendRef} {backends targets : List RouteBackendRef}

theorem rewriteBackendRefs_cons_eq_some :
    rewriteBackendRefs globalTopology services j (backend :: backends) filters =
        some (targets, filters') ↔
      ∃ target between later,
        rewriteBackendRef globalTopology services backend = some target ∧
        rewriteNested globalTopology services j backend.filters filters = some between ∧
        rewriteBackendRefs globalTopology services (j + 1) backends between =
          some (later, filters') ∧
        targets = target :: later := by
  simp only [rewriteBackendRefs, Option.bind_eq_bind, Option.bind_eq_some_iff, Option.pure_def,
    Option.some.injEq, Prod.mk.injEq, Prod.exists]
  constructor
  · rintro ⟨target, rewritten, between, written, later, after, rest, rfl, rfl⟩
    exact ⟨target, between, later, rewritten, written, rest, rfl⟩
  · rintro ⟨target, between, later, rewritten, written, rest, rfl⟩
    exact ⟨target, rewritten, between, written, later, filters', rest, rfl, rfl⟩

theorem rewriteBackendRefs_isSome_iff :
    (rewriteBackendRefs globalTopology services j backends filters).isSome ↔
      ∀ k backend, backends[k]? = some backend →
        BackendReturns globalTopology services filters (j + k) backend := by
  induction backends generalizing j filters with
  | nil => simp [rewriteBackendRefs]
  | cons backend backends ih =>
      rw [forall_getElem?_cons]
      constructor
      · intro isSome
        obtain ⟨⟨targets, after⟩, returned⟩ := Option.isSome_iff_exists.mp isSome
        obtain ⟨target, between, later, rewritten, written, rest, _⟩ :=
          rewriteBackendRefs_cons_eq_some.mp returned
        refine ⟨⟨rewriteBackendRef_isSome_iff.mp (by simp [rewritten]),
          rewriteNested_isSome_iff.mp (by simp [written])⟩, fun k other found => ?_⟩
        have isSome : (rewriteBackendRefs globalTopology services (j + 1) backends
            between).isSome := by simp [rest]
        have returns := ih.mp isSome k other found
        rw [backendReturns_congr (hasMirror_of_rewriteNested written _)] at returns
        rwa [show j + (k + 1) = j + 1 + k by omega]
      · rintro ⟨first, later⟩
        obtain ⟨target, rewritten⟩ := Option.isSome_iff_exists.mp
          (rewriteBackendRef_isSome_iff.mpr first.reference)
        obtain ⟨between, written⟩ := Option.isSome_iff_exists.mp
          (rewriteNested_isSome_iff.mpr first.nested)
        have isSome : (rewriteBackendRefs globalTopology services (j + 1) backends
            between).isSome := by
          refine ih.mpr fun k other found => ?_
          rw [backendReturns_congr (hasMirror_of_rewriteNested written _)]
          have returns := later k other found
          rwa [show j + (k + 1) = j + 1 + k by omega] at returns
        obtain ⟨⟨rest, after⟩, returned⟩ := Option.isSome_iff_exists.mp isSome
        refine Option.isSome_iff_exists.mpr ⟨(target :: rest, after), ?_⟩
        exact rewriteBackendRefs_cons_eq_some.mpr
          ⟨target, between, rest, rewritten, written, returned, rfl⟩

theorem mapM_of_rewriteBackendRefs
    (returned : rewriteBackendRefs globalTopology services j backends filters =
      some (targets, filters')) :
    backends.mapM (rewriteBackendRef globalTopology services) = some targets := by
  induction backends generalizing j filters targets with
  | nil =>
      cases returned
      rfl
  | cons backend backends ih =>
      obtain ⟨target, between, later, rewritten, _, rest, rfl⟩ :=
        rewriteBackendRefs_cons_eq_some.mp returned
      simp [List.mapM_cons, rewritten, ih rest]

theorem getElem?_rewriteBackendRefs_of_lt
    (returned : rewriteBackendRefs globalTopology services j backends filters =
      some (targets, filters')) (before : i < j) : filters'[i]? = filters[i]? := by
  induction backends generalizing j filters targets with
  | nil =>
      cases returned
      rfl
  | cons backend backends ih =>
      obtain ⟨target, between, later, _, written, rest, rfl⟩ :=
        rewriteBackendRefs_cons_eq_some.mp returned
      rw [ih rest (by omega), getElem?_rewriteNested_of_ne (by omega) written]

/-- The filters of the rule stay as they are if no backend changes its own. -/
theorem rewriteBackendRefs_filters_eq_iff
    (returned : rewriteBackendRefs globalTopology services j backends filters =
      some (targets, filters')) :
    filters' = filters ↔ ∀ k backend, backends[k]? = some backend →
      rewriteNested globalTopology services (j + k) backend.filters filters = some filters := by
  induction backends generalizing j filters targets with
  | nil =>
      cases returned
      simp
  | cons backend backends ih =>
      obtain ⟨target, between, later, _, written, rest, rfl⟩ :=
        rewriteBackendRefs_cons_eq_some.mp returned
      rw [forall_getElem?_cons]
      constructor
      · rintro rfl
        -- What backend `j` wrote to filter `j` is there at the end.
        have same : between = filters' := by
          refine List.ext_getElem? fun i => ?_
          by_cases here : i = j
          · rw [here, ← getElem?_rewriteBackendRefs_of_lt rest (Nat.lt_succ_self j)]
          · exact getElem?_rewriteNested_of_ne here written
        subst same
        refine ⟨written, fun k other found => ?_⟩
        rw [show j + (k + 1) = j + 1 + k by omega]
        exact (ih rest).mp rfl k other found
      · rintro ⟨first, others⟩
        cases written.symm.trans first
        refine (ih rest).mpr fun k other found => ?_
        rw [show j + 1 + k = j + (k + 1) by omega]
        exact others k other found

/-! ### The rules of a route -/

variable {rule rule' : RouteRule}

theorem rewriteRule_eq_some :
    rewriteRule globalTopology services rule = some rule' ↔
      ∃ own, rule.filters.mapM (rewriteFilter globalTopology services) = some own ∧
        rewriteBackendRefs globalTopology services 0 rule.backendRefs own =
          some (rule'.backendRefs, rule'.filters) := by
  simp only [rewriteRule, Option.bind_eq_bind, Option.bind_eq_some_iff, Option.pure_def,
    Option.some.injEq, Prod.exists]
  constructor
  · rintro ⟨own, filtered, backendRefs, filters, returned, rfl⟩
    exact ⟨own, filtered, returned⟩
  · rintro ⟨own, filtered, returned⟩
    exact ⟨own, filtered, _, _, returned, rfl⟩

theorem rewriteRule_isSome_iff :
    (rewriteRule globalTopology services rule).isSome ↔
      RuleReturns globalTopology services rule := by
  have own_iff : (rule.filters.mapM (rewriteFilter globalTopology services)).isSome ↔
      ∀ filter ∈ rule.filters, ∀ mirror, filter.requestMirror = some mirror →
        ReferenceReturns globalTopology services mirror := by
    simp only [mapM_isSome_iff, rewriteFilter_isSome_iff]
  constructor
  · intro isSome
    obtain ⟨rule', returned⟩ := Option.isSome_iff_exists.mp isSome
    obtain ⟨own, filtered, returned⟩ := rewriteRule_eq_some.mp returned
    refine ⟨own_iff.mp (by simp [filtered]), fun j backend found => ?_⟩
    have isSome : (rewriteBackendRefs globalTopology services 0 rule.backendRefs own).isSome := by
      simp [returned]
    have returns := rewriteBackendRefs_isSome_iff.mp isSome j backend found
    rwa [Nat.zero_add, backendReturns_congr (hasMirror_of_rewriteFilters filtered j)] at returns
  · intro returns
    obtain ⟨own, filtered⟩ := Option.isSome_iff_exists.mp (own_iff.mpr returns.filters)
    have isSome : (rewriteBackendRefs globalTopology services 0 rule.backendRefs own).isSome := by
      refine rewriteBackendRefs_isSome_iff.mpr fun j backend found => ?_
      rw [Nat.zero_add, backendReturns_congr (hasMirror_of_rewriteFilters filtered j)]
      exact returns.backends j backend found
    obtain ⟨⟨backendRefs, filters⟩, returned⟩ := Option.isSome_iff_exists.mp isSome
    exact Option.isSome_iff_exists.mpr
      ⟨⟨filters, backendRefs⟩, rewriteRule_eq_some.mpr ⟨own, filtered, returned⟩⟩

theorem RuleReturns.of_mem_iff (same : ∀ service, service ∈ services' ↔ service ∈ services)
    (returns : RuleReturns globalTopology services rule) :
    RuleReturns globalTopology services' rule := by
  have reference {ref : BackendObjectReference}
      (holds : ReferenceReturns globalTopology services ref) :
      ReferenceReturns globalTopology services' ref :=
    fun isService service listed => holds isService service ((same service).mp listed)
  refine ⟨fun filter member mirror mirrors =>
      reference (returns.filters filter member mirror mirrors),
    fun j backend found => ⟨reference (returns.backends j backend found).reference, ?_⟩⟩
  intro service written
  rw [mem_nestedMatches, same, ← mem_nestedMatches] at written
  exact (returns.backends j backend found).nested service written

end

section
variable {kind : GatewayRouteKind} {call : RouteCall} {desired : LbObject GatewayRouteSpec}

theorem RouteCall.rules_of_desired (built : call.desired kind = some desired) :
    call.spec.rules.mapM (rewriteRule call.globalTopology call.services) =
      some desired.spec.rules := by
  obtain ⟨rules, rewritten, built⟩ := Option.bind_eq_some_iff.mp built
  obtain ⟨object, _, built⟩ := Option.bind_eq_some_iff.mp built
  cases built
  exact rewritten

theorem RouteCall.desired_isSome_iff : (call.desired kind).isSome ↔ call.Returns := by
  have object_iff : (call.desiredMeta kind.annotated).isSome ↔
      (generatedName call.globalTopology call.object).isSome := by
    simp only [ApplyCall.desiredMeta, generatedName]
    cases generateName call.globalTopology call.object.uid call.object.name call.object.ns <;> rfl
  have rules_iff : (call.spec.rules.mapM (rewriteRule call.globalTopology call.services)).isSome ↔
      ∀ rule ∈ call.spec.rules, RuleReturns call.globalTopology call.services rule := by
    simp only [mapM_isSome_iff, rewriteRule_isSome_iff]
  constructor
  · intro isSome
    obtain ⟨desired, built⟩ := Option.isSome_iff_exists.mp isSome
    obtain ⟨rules, rewritten, built⟩ := Option.bind_eq_some_iff.mp built
    obtain ⟨object, named, _⟩ := Option.bind_eq_some_iff.mp built
    exact ⟨object_iff.mp (by simp [named]), rules_iff.mp (by simp [rewritten])⟩
  · rintro ⟨object, rules⟩
    obtain ⟨object, named⟩ := Option.isSome_iff_exists.mp (object_iff.mpr object)
    obtain ⟨rules, rewritten⟩ := Option.isSome_iff_exists.mp (rules_iff.mpr rules)
    simp [RouteCall.desired, named, rewritten]

end

end KubeLB
