import KubeLB.Resources.IngressNames

/-!
What becomes of the backends of an Ingress: the paths of its rules and the default
backend, each with the name that the loop over the services finds for it.
-/

namespace KubeLB
open Fallible

def IngressRule.backends (rule : IngressRule) : List IngressBackend :=
  (rule.http.getD []).map HTTPIngressPath.backend

/-- The backends of all paths, and the default backend. -/
def IngressSpec.backends (spec : IngressSpec) : List IngressBackend :=
  spec.rules.flatMap IngressRule.backends ++ spec.defaultBackend.toList

def BackendResolved (globalTopology : Bool) (services : List ObjectMeta)
    (backend backend' : IngressBackend) : Prop :=
  ∃ target name, backend.service = some target ∧
    NameResolved globalTopology services target.name name ∧
    backend'.service = some { target with name := name }

/-- Every path of every rule and the default backend are as they should be. -/
def BackendsResolved (call : IngressCall) (spec : IngressSpec) : Prop :=
  List.Forall₂ (fun rule rule' : IngressRule =>
    List.Forall₂ (BackendResolved call.globalTopology call.services)
      rule.backends rule'.backends) call.spec.rules spec.rules ∧
  List.Forall₂ (BackendResolved call.globalTopology call.services)
    call.spec.defaultBackend.toList spec.defaultBackend.toList

section
variable {globalTopology : Bool} {services : List ObjectMeta}

/-! ### The backends -/

variable {backend backend' : IngressBackend} {target : IngressServiceBackend}

theorem rewriteIngressBackend_eq (found : backend.service = some target) :
    rewriteIngressBackend globalTopology services backend =
      (rewriteName globalTopology services target.name).map fun name =>
        { backend with service := some { target with name := name } } := by
  induction services generalizing backend target with
  | nil =>
      cases backend
      cases found
      rfl
  | cons service services ih =>
      rw [rewriteIngressBackend, rewriteName, List.foldlM_cons, List.foldlM_cons]
      simp only [found, Option.bind_eq_bind, Option.bind_some]
      by_cases named : target.name = service.name
      · rw [if_pos named, if_pos named]
        cases generatedName globalTopology service with
        | none => rfl
        | some name =>
            exact @ih { backend with service := some { target with name := name } }
              { target with name := name } rfl
      · rw [if_neg named, if_neg named]
        exact ih found

theorem backendResolved_iff (found : backend.service = some target)
    (rewritten : rewriteIngressBackend globalTopology services backend = some backend') :
    BackendResolved globalTopology services backend backend' ↔
      ResolvesName globalTopology services target.name := by
  rw [rewriteIngressBackend_eq found] at rewritten
  obtain ⟨name, found', rfl⟩ := Option.map_eq_some_iff.mp rewritten
  constructor
  · rintro ⟨target', name', isTarget, resolved, written⟩
    cases found.symm.trans isTarget
    cases written
    exact ⟨name, found', resolved⟩
  · rintro ⟨name', isFound, resolved⟩
    cases found'.symm.trans isFound
    exact ⟨target, name, found, resolved, rfl⟩

def ServiceResolved (globalTopology : Bool) (services : List ObjectMeta)
    (backend : IngressBackend) : Prop :=
  ∀ target, backend.service = some target → ResolvesName globalTopology services target.name

theorem ServiceResolved.isSome (isService : backend.service.isSome)
    (resolved : ServiceResolved globalTopology services backend) :
    (rewriteIngressBackend globalTopology services backend).isSome := by
  obtain ⟨target, found⟩ := Option.isSome_iff_exists.mp isService
  obtain ⟨name, rewritten, _⟩ := resolved target found
  rw [rewriteIngressBackend_eq found, rewritten]
  rfl

/-- A backend without a service is followed as soon as there is a service to compare it
with; where there is none it is left alone. -/
theorem rewriteIngressBackend_resource (resource : backend.service = none)
    (rewritten : rewriteIngressBackend globalTopology services backend = some backend') :
    backend' = backend := by
  cases services with
  | nil => exact (Option.some.inj rewritten).symm
  | cons service services =>
      rw [rewriteIngressBackend, List.foldlM_cons, resource] at rewritten
      cases rewritten

structure BackendRewritten (globalTopology : Bool) (services : List ObjectMeta)
    (backend backend' : IngressBackend) : Prop where
  service : ∀ target, backend.service = some target →
    rewriteIngressBackend globalTopology services backend = some backend'
  resource : backend.service = none → backend' = backend

/-- Service backends that are rewritten one by one are as they should be exactly if
the loop finds their names. -/
theorem forall₂_backendResolved_iff {backends backends' : List IngressBackend}
    (isService : ∀ backend ∈ backends, backend.service.isSome)
    (rewritten : List.Forall₂ (BackendRewritten globalTopology services) backends backends') :
    List.Forall₂ (BackendResolved globalTopology services) backends backends' ↔
      ∀ backend ∈ backends, ServiceResolved globalTopology services backend := by
  refine forall₂_iff_of_forall₂ ((List.forall₂_and_left _ _).mpr ⟨isService, rewritten⟩) ?_
  rintro backend backend' ⟨isService, rewritten⟩
  obtain ⟨target, found⟩ := Option.isSome_iff_exists.mp isService
  rw [backendResolved_iff found (rewritten.service target found)]
  constructor
  · intro resolved other found'
    cases found.symm.trans found'
    exact resolved
  · exact fun resolved => resolved target found

/-! ### The rules and the default backend -/

variable {rule rule' : IngressRule}

theorem backends_of_rewriteIngressRule
    (rewritten : rewriteIngressRule globalTopology services rule = some rule') :
    List.Forall₂ (BackendRewritten globalTopology services) rule.backends rule'.backends := by
  obtain ⟨paths, http, rewritten⟩ := Option.bind_eq_some_iff.mp rewritten
  obtain ⟨paths', each, rfl⟩ := Option.map_eq_some_iff.mp rewritten
  simp only [IngressRule.backends, http, Option.getD_some, List.forall₂_map_left_iff,
    List.forall₂_map_right_iff]
  refine (mapM_eq_some_iff.mp each).imp fun path path' rewritten => ?_
  obtain ⟨backend, returned, rfl⟩ := Option.map_eq_some_iff.mp rewritten
  exact ⟨fun _ _ => returned, fun resource => rewriteIngressBackend_resource resource returned⟩

theorem rewriteIngressRule_isSome_iff :
    (rewriteIngressRule globalTopology services rule).isSome ↔
      rule.http.isSome ∧ ∀ backend ∈ rule.backends,
        (rewriteIngressBackend globalTopology services backend).isSome := by
  unfold rewriteIngressRule IngressRule.backends
  cases rule.http with
  | none => simp
  | some paths =>
      simp only [Option.bind_eq_bind, Option.bind_some, Option.isSome_map, mapM_isSome_iff,
        rewriteIngressPath, Option.isSome_some, true_and, Option.getD_some, List.forall_mem_map]

theorem backends_of_rewriteDefaultBackend {defaultBackend defaultBackend' : Option IngressBackend}
    (rewritten : rewriteDefaultBackend globalTopology services defaultBackend =
      some defaultBackend') :
    List.Forall₂ (BackendRewritten globalTopology services)
      defaultBackend.toList defaultBackend'.toList := by
  cases defaultBackend with
  | none =>
      cases rewritten
      exact .nil
  | some backend =>
      rw [rewriteDefaultBackend] at rewritten
      split at rewritten
      · obtain ⟨backend', returned, rfl⟩ := Option.map_eq_some_iff.mp rewritten
        refine .cons ⟨fun _ _ => returned, fun resource => ?_⟩ .nil
        exact rewriteIngressBackend_resource resource returned
      · rename_i noService
        cases rewritten
        refine .cons ⟨fun target found => ?_, fun _ => rfl⟩ .nil
        exact absurd (Option.isSome_iff_exists.mpr ⟨target, found⟩) noService

theorem rewriteDefaultBackend_isSome {defaultBackend : Option IngressBackend}
    (each : ∀ backend ∈ defaultBackend.toList,
      (rewriteIngressBackend globalTopology services backend).isSome) :
    (rewriteDefaultBackend globalTopology services defaultBackend).isSome := by
  unfold rewriteDefaultBackend
  split
  · rfl
  · split
    · rw [Option.isSome_map]
      exact each _ (by simp)
    · rfl

end

section
variable {call : IngressCall}

theorem forall_mem_backends {spec : IngressSpec} {P : IngressBackend → Prop} :
    (∀ backend ∈ spec.backends, P backend) ↔
      (∀ rule ∈ spec.rules, ∀ backend ∈ rule.backends, P backend) ∧
        ∀ backend ∈ spec.defaultBackend.toList, P backend := by
  simp only [IngressSpec.backends, List.forall_mem_append, List.forall_mem_flatMap]

theorem IngressCall.desired_eq_some {desired : LbObject IngressSpec}
    (built : call.desired = some desired) :
    call.spec.rules.mapM (rewriteIngressRule call.globalTopology call.services) =
        some desired.spec.rules ∧
      rewriteDefaultBackend call.globalTopology call.services call.spec.defaultBackend =
        some desired.spec.defaultBackend ∧
      (generatedName call.globalTopology call.object).isSome := by
  obtain ⟨rules, rewritten, built⟩ := Option.bind_eq_some_iff.mp built
  obtain ⟨defaultBackend, rewrittenDefault, built⟩ := Option.bind_eq_some_iff.mp built
  obtain ⟨object, named, built⟩ := Option.bind_eq_some_iff.mp built
  cases built
  refine ⟨rewritten, rewrittenDefault, ?_⟩
  obtain ⟨name, generated, _⟩ := Option.bind_eq_some_iff.mp named
  exact Option.isSome_iff_exists.mpr ⟨name, generated⟩

theorem IngressCall.backends_of_desired {desired : LbObject IngressSpec}
    (built : call.desired = some desired) :
    List.Forall₂ (BackendRewritten call.globalTopology call.services)
      call.spec.backends desired.spec.backends := by
  obtain ⟨rules, defaultBackend, _⟩ := IngressCall.desired_eq_some built
  refine List.rel_append (List.rel_flatMap (mapM_eq_some_iff.mp rules) ?_)
    (backends_of_rewriteDefaultBackend defaultBackend)
  exact fun _ _ rewritten => backends_of_rewriteIngressRule rewritten

theorem IngressCall.exists_desired
    (rules : ∀ rule ∈ call.spec.rules,
      (rewriteIngressRule call.globalTopology call.services rule).isSome)
    (defaultBackend : (rewriteDefaultBackend call.globalTopology call.services
      call.spec.defaultBackend).isSome)
    (object : (generatedName call.globalTopology call.object).isSome) :
    ∃ desired, call.desired = some desired := by
  obtain ⟨rules, rewritten⟩ := Option.isSome_iff_exists.mp (mapM_isSome_iff.mpr rules)
  obtain ⟨defaultBackend, rewrittenDefault⟩ := Option.isSome_iff_exists.mp defaultBackend
  obtain ⟨name, generated⟩ := Option.isSome_iff_exists.mp object
  rw [generatedName] at generated
  simp [IngressCall.desired, ApplyCall.desiredMeta, rewritten, rewrittenDefault, generated]

theorem leaves_backendsResolved_iff
    (isService : ∀ backend ∈ call.spec.backends, backend.service.isSome) :
    Leaves call.desired (createOrUpdateIngress call) (BackendsResolved call) ↔
      (generatedName call.globalTopology call.object).isSome ∧
      (∀ rule ∈ call.spec.rules, rule.http.isSome) ∧
      ∀ backend ∈ call.spec.backends,
        ServiceResolved call.globalTopology call.services backend := by
  obtain ⟨inRules, inDefault⟩ := forall_mem_backends.mp isService
  have resolved_iff {desired : LbObject IngressSpec} (built : call.desired = some desired) :
      BackendsResolved call desired.spec ↔ ∀ backend ∈ call.spec.backends,
        ServiceResolved call.globalTopology call.services backend := by
    obtain ⟨rules, defaultBackend, _⟩ := IngressCall.desired_eq_some built
    rw [BackendsResolved, forall_mem_backends, forall₂_backendResolved_iff inDefault
      (backends_of_rewriteDefaultBackend defaultBackend)]
    refine and_congr_left fun _ => forall₂_iff_of_forall₂
      ((List.forall₂_and_left _ _).mpr ⟨inRules, mapM_eq_some_iff.mp rules⟩) ?_
    rintro rule rule' ⟨isService, rewritten⟩
    exact forall₂_backendResolved_iff isService (backends_of_rewriteIngressRule rewritten)
  rw [IngressCall.leaves_iff]
  constructor
  · rintro ⟨desired, built, resolved⟩
    obtain ⟨rules, _, object⟩ := IngressCall.desired_eq_some built
    refine ⟨object, fun rule member => ?_, (resolved_iff built).mp resolved⟩
    have each := mapM_isSome_iff.mp (Option.isSome_iff_exists.mpr ⟨_, rules⟩) rule member
    exact (rewriteIngressRule_isSome_iff.mp each).1
  · rintro ⟨object, http, resolved⟩
    have isSome := fun backend member => (resolved backend member).isSome (isService backend member)
    obtain ⟨someInRules, someDefault⟩ := forall_mem_backends.mp isSome
    obtain ⟨desired, built⟩ := IngressCall.exists_desired
      (fun rule member => rewriteIngressRule_isSome_iff.mpr
        ⟨http rule member, someInRules rule member⟩)
      (rewriteDefaultBackend_isSome someDefault) object
    exact ⟨desired, built, (resolved_iff built).mpr resolved⟩

/-- In every order of the services all backends get the names of exactly their
services, if and only if the call does not panic and no name that it writes is that
of another service with a name of its own. -/
theorem ingress_backends_resolved_iff
    (isService : ∀ backend ∈ call.spec.backends, backend.service.isSome)
    (distinct : (call.services.map ObjectMeta.name).Nodup) :
    (∀ services', services'.Perm call.services →
      Leaves (IngressCall.desired { call with services := services' })
        (createOrUpdateIngress { call with services := services' })
        (BackendsResolved { call with services := services' })) ↔
    (generatedName call.globalTopology call.object).isSome ∧
      (∀ rule ∈ call.spec.rules, rule.http.isSome) ∧
      ∀ backend ∈ call.spec.backends, ∀ target, backend.service = some target →
        Settled call.globalTopology call.services target.name := by
  have each (services' : List ObjectMeta) :=
    @leaves_backendsResolved_iff { call with services := services' } isService
  simp only [each]
  constructor
  · intro always
    obtain ⟨object, http, _⟩ := always call.services (List.Perm.refl _)
    refine ⟨object, http, fun backend member target found => ?_⟩
    exact (resolvesName_always_iff distinct).mp fun services' perm =>
      (always services' perm).2.2 backend member target found
  · rintro ⟨object, http, settled⟩ services' perm
    refine ⟨object, http, fun backend member target found => ?_⟩
    exact (resolvesName_always_iff distinct).mpr (settled backend member target found)
      services' perm

end

def ingressCall (rule : IngressRule) (services : List ObjectMeta) : IngressCall where
  object := { name := "shop", ns := "a", uid := "5d3c-77aa" }
  spec := { rules := [rule] }
  services := services
  ns := "tenant-primary"

def toBackend (name : String) : IngressRule :=
  { http := some [{ backend := { service := some { name := name } } }] }

def serviceInA (name uid : String) : ObjectMeta := { name := name, ns := "a", uid := uid }

/-- A rule with two backends, and a service that none of them means. -/
theorem ingress_backends_resolved_three_services :
    let rule : IngressRule := { http := some [{ backend := { service := some { name := "b" } } },
      { backend := { service := some { name := "c" } } }] }
    let call := ingressCall rule [serviceInA "b" "0f0e-4a1b", serviceInA "c" "9c21-08fd",
      serviceInA "d" "77aa-12ef"]
    ∀ services', services'.Perm call.services →
      Leaves (IngressCall.desired { call with services := services' })
        (createOrUpdateIngress { call with services := services' })
        (BackendsResolved { call with services := services' }) := by
  intro rule call
  refine (@ingress_backends_resolved_iff call (by decide) (by decide)).mpr
    ⟨by decide, by decide, fun backend _ target _ service listed _ => ?_⟩
  have own : ∃ name, generatedName call.globalTopology service = some name ∧
      ∀ other ∈ call.services, other.name ≠ name := by
    simp only [call, ingressCall, List.mem_cons, List.not_mem_nil, or_false] at listed
    obtain rfl | rfl | rfl := listed
    · exact ⟨"a-b", by decide, by decide⟩
    · exact ⟨"a-c", by decide, by decide⟩
    · exact ⟨"a-d", by decide, by decide⟩
  obtain ⟨name, generated, unused⟩ := own
  exact ⟨name, generated, fun other otherListed same => absurd same (unused other otherListed)⟩

/-- With a service a-b in the list behind it, the backend b is rewritten twice. A rule
without paths is a panic. -/
theorem ingress_backend_rewritten_twice :
    let names (rule : IngressRule) (services : List ObjectMeta) := do
      let done ← createOrUpdateIngress (ingressCall rule services) ∅
      let store ← done.toOption
      let stored ← store.lookup ⟨"tenant-primary", "a-shop"⟩
      return stored.spec.backends.map fun backend =>
        backend.service.map IngressServiceBackend.name
    let b := serviceInA "b" "0f0e-4a1b"
    let ab := serviceInA "a-b" "9c21-08fd"
    names (toBackend "b") [b] = some [some "a-b"] ∧
      names (toBackend "b") [ab, b] = some [some "a-b"] ∧
      names (toBackend "b") [b, ab] = some [some "a-a-b"] ∧
      names {} [b] = none := by
  decide

end KubeLB
