import KubeLB.Resources.IngressBackends

/-!
Ingresses with parts that may be missing: a rule without paths, a backend that is a
resource and no service.

GetServicesFromIngress in the CCM and CreateOrUpdateIngress in the manager walk the
same lists, and both take every rule to have paths and every path to lead to a service.
Only the default backend is looked at before it is followed.
-/

namespace KubeLB
open Fallible

/-- What the two functions should do with an Ingress: return, the one with exactly the
service backends, each once, the other with the resource backends as they were. That
the names of the objects can be generated is taken for granted. -/
structure IngressHandled (ingress : Ingress) : Prop where
  collects : ∃ services, getServicesFromIngress ingress = some services ∧ services.Nodup ∧
    ∀ key, key ∈ services ↔ key ∈ ingress.serviceBackends
  rewrites : ∀ call : IngressCall, call.spec = ingress.spec →
    (generatedName call.globalTopology call.object).isSome →
    (∀ service ∈ call.services, (generatedName call.globalTopology service).isSome) →
    ∃ desired, call.desired = some desired ∧
      List.Forall₂ (fun backend backend' => backend.service = none → backend' = backend)
        call.spec.backends desired.spec.backends

def IngressSpec.Complete (spec : IngressSpec) : Prop :=
  ∀ rule ∈ spec.rules, rule.http.isSome ∧ ∀ backend ∈ rule.backends, backend.service.isSome

theorem serviceNames_isSome_iff (rule : IngressRule) :
    rule.serviceNames.isSome ↔
      rule.http.isSome ∧ ∀ backend ∈ rule.backends, backend.service.isSome := by
  unfold IngressRule.serviceNames IngressRule.backends
  cases rule.http with
  | none => simp
  | some paths => simp [mapM_isSome_iff]

theorem getServicesFromIngress_isSome_iff (ingress : Ingress) :
    (getServicesFromIngress ingress).isSome ↔ ingress.spec.Complete := by
  have collected : (getServicesFromIngress ingress).isSome ↔
      (ingress.spec.rules.mapM IngressRule.serviceNames).isSome := by
    unfold getServicesFromIngress
    cases ingress.spec.rules.mapM IngressRule.serviceNames with
    | none => rfl
    | some names => rfl
  rw [collected, mapM_isSome_iff]
  exact forall₂_congr fun rule _ => serviceNames_isSome_iff rule

theorem nodup_eraseDups {α : Type} [BEq α] [LawfulBEq α] (as : List α) : as.eraseDups.Nodup := by
  -- each step also filters the tail, so the recursion is on the length
  induction length : as.length using Nat.strong_induction_on generalizing as with
  | h n ih =>
      cases as with
      | nil => exact List.nodup_nil
      | cons a as =>
          rw [List.eraseDups_cons, List.nodup_cons, List.mem_eraseDups]
          have shorter : (as.filter fun b => !b == a).length < n :=
            length ▸ Nat.lt_succ_of_le (List.length_filter_le _ as)
          exact ⟨by simp, ih _ shorter _ rfl⟩

section
variable {globalTopology : Bool} {services : List ObjectMeta}

/-- With names for all services, the name of a backend can be rewritten. -/
theorem rewriteName_isSome
    (named : ∀ service ∈ services, (generatedName globalTopology service).isSome)
    (name : String) : (rewriteName globalTopology services name).isSome := by
  induction services generalizing name with
  | nil => rfl
  | cons service services ih =>
      have later := ih fun other member => named other (List.mem_cons_of_mem _ member)
      rw [rewriteName, List.foldlM_cons]
      split
      · obtain ⟨name', generated⟩ := Option.isSome_iff_exists.mp (named service List.mem_cons_self)
        rw [generated]
        exact later name'
      · exact later name

theorem rewriteIngressBackend_isSome
    (named : ∀ service ∈ services, (generatedName globalTopology service).isSome)
    {backend : IngressBackend} (isService : backend.service.isSome) :
    (rewriteIngressBackend globalTopology services backend).isSome := by
  obtain ⟨target, found⟩ := Option.isSome_iff_exists.mp isService
  rw [rewriteIngressBackend_eq found, Option.isSome_map]
  exact rewriteName_isSome named target.name

end

/-- Whatever an Ingress looks like, a call that builds one leaves its resource backends
unchanged. -/
theorem resourceBackends_unchanged {call : IngressCall} {desired : LbObject IngressSpec}
    (built : call.desired = some desired) :
    List.Forall₂ (fun backend backend' => backend.service = none → backend' = backend)
      call.spec.backends desired.spec.backends := by
  exact (IngressCall.backends_of_desired built).imp fun _ _ rewritten => rewritten.resource

theorem exists_desired_of_complete {call : IngressCall} (complete : call.spec.Complete)
    (object : (generatedName call.globalTopology call.object).isSome)
    (named : ∀ service ∈ call.services, (generatedName call.globalTopology service).isSome) :
    ∃ desired, call.desired = some desired := by
  refine IngressCall.exists_desired (fun rule member => ?_) ?_ object
  · obtain ⟨http, services⟩ := complete rule member
    exact rewriteIngressRule_isSome_iff.mpr ⟨http, fun backend inRule =>
      rewriteIngressBackend_isSome named (services backend inRule)⟩
  · cases call.spec.defaultBackend with
    | none => rfl
    | some backend =>
        rw [rewriteDefaultBackend]
        split
        · rename_i isService
          rw [Option.isSome_map]
          exact rewriteIngressBackend_isSome named isService
        · rfl

/-- Both functions do with an Ingress what they should exactly when every rule of it has
paths and all paths lead to services. -/
theorem ingress_handled_iff (ingress : Ingress) :
    IngressHandled ingress ↔ ingress.spec.Complete := by
  constructor
  · intro handled
    obtain ⟨services, collected, _⟩ := handled.collects
    exact (getServicesFromIngress_isSome_iff ingress).mp
      (Option.isSome_iff_exists.mpr ⟨services, collected⟩)
  · intro complete
    constructor
    · obtain ⟨services, collected⟩ :=
        Option.isSome_iff_exists.mp ((getServicesFromIngress_isSome_iff ingress).mpr complete)
      refine ⟨services, collected, ?_, mem_getServicesFromIngress collected⟩
      obtain ⟨names, _, returned⟩ := Option.bind_eq_some_iff.mp collected
      cases returned
      exact nodup_eraseDups _
    · rintro call same object named
      obtain ⟨desired, built⟩ := exists_desired_of_complete (same ▸ complete) object named
      exact ⟨desired, built, resourceBackends_unchanged built⟩

/-- A rule with a host only, and a path that leads to a resource: both functions panic,
the second one as soon as the Route has a service. -/
theorem ingress_part_missing_panics :
    let hostOnly : IngressRule := { host := "shop.example.com" }
    let toResource : IngressRule :=
      { http := some [{ path := "/", backend := { resource := some "static-assets" } }] }
    let collects (rule : IngressRule) :=
      (getServicesFromIngress { ns := "a", spec := { rules := [rule] } }).isSome
    let builds (rule : IngressRule) :=
      (ingressCall rule [serviceInA "b" "0f0e-4a1b"]).desired.isSome
    collects hostOnly = false ∧ builds hostOnly = false ∧
      collects toResource = false ∧ builds toResource = false ∧
      collects (toBackend "b") = true ∧ builds (toBackend "b") = true := by
  decide

end KubeLB
