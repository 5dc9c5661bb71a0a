import KubeLB.Resources.BackendRefs
import KubeLB.Resources.IngressBackends

/-!
The names that the backends of a Route's resource get in the LB cluster.

manageRoutes hands the source services of the Route on to the function that
applies the resource, which puts the generated names in. These are names of the
Route's own Services as long as no source service is called what another one is
called in the LB cluster (for an Ingress, whose loop sees what it has written) and
a name that the resource uses without a namespace is that of one service only.
-/

namespace KubeLB
open Fallible

structure ApplyCall.IsFor {σ : Type} (call : ApplyCall σ) (globalTopology : Bool)
    (source : KubernetesSource) : Prop where
  ns : call.object.ns = source.route.ns
  services : call.services = referencedServices source
  topology : call.globalTopology = globalTopology

/-- What becomes of the backends of an Ingress that mean the source service. -/
def IngressBackendsNamed (globalTopology : Bool) (source : KubernetesSource) (svc : Service)
    (P : String → Prop) : Prop :=
  ∀ (call : IngressCall) (desired : LbObject IngressSpec),
    call.toApplyCall.IsFor globalTopology source → call.desired = some desired →
    List.Forall₂ (fun backend backend' : IngressBackend =>
      ∀ target, backend.service = some target → target.name = getServiceName svc →
        svc.ns = source.route.ns → ∃ target', backend'.service = some target' ∧ P target'.name)
      call.spec.backends desired.spec.backends

def GatewayRouteSpec.backendRefs (spec : GatewayRouteSpec) : List RouteBackendRef :=
  spec.rules.flatMap RouteRule.backendRefs

def BackendRefsNamed (kind : GatewayRouteKind) (globalTopology : Bool) (source : KubernetesSource)
    (svc : Service) (P : String → Prop) : Prop :=
  ∀ (call : RouteCall) (desired : LbObject GatewayRouteSpec),
    call.IsFor globalTopology source → call.desired kind = some desired →
    List.Forall₂ (fun ref ref' : RouteBackendRef =>
      ref.toBackendObjectReference.service source.route.ns =
        some ⟨svc.ns, getServiceName svc⟩ → ref'.ns = none ∧ P ref'.name)
      call.spec.backendRefs desired.spec.backendRefs

/-- In the resource as it is applied, every backend that means the source service
names a Service with `P`. -/
def BackendsNamed (globalTopology : Bool) (source : KubernetesSource) (svc : Service)
    (P : String → Prop) : Prop :=
  match convertUnstructuredToObject source.route with
  | some .ingress => IngressBackendsNamed globalTopology source svc P
  | some .httpRoute => BackendRefsNamed .httpRoute globalTopology source svc P
  | some .grpcRoute => BackendRefsNamed .grpcRoute globalTopology source svc P
  | _ => True

structure SourceNamesApart (globalTopology : Bool) (source : KubernetesSource) : Prop where
  meant : ∀ svc ∈ source.services, ∀ svc' ∈ source.services,
    getServiceName svc' = getServiceName svc → (svc'.ns = svc.ns ∨ svc.ns = source.route.ns) →
      generatedName globalTopology (referencedService svc') =
        generatedName globalTopology (referencedService svc)
  written : convertUnstructuredToObject source.route = some .ingress →
    ∀ svc ∈ source.services, svc.ns = source.route.ns → ∀ svc' ∈ source.services,
      generatedName globalTopology (referencedService svc) = some (getServiceName svc') →
        generatedName globalTopology (referencedService svc') =
          generatedName globalTopology (referencedService svc)

instance (globalTopology : Bool) (source : KubernetesSource) :
    Decidable (SourceNamesApart globalTopology source) :=
  decidable_of_iff (_ ∧ _)
    ⟨fun both => SourceNamesApart.mk both.1 both.2, fun apart => ⟨apart.meant, apart.written⟩⟩

variable {globalTopology : Bool} {source : KubernetesSource} {svc : Service} {name : String}
  {P : String → Prop}

theorem rewriteName_of_sourceNamesApart (apart : SourceNamesApart globalTopology source)
    (ingress : convertUnstructuredToObject source.route = some .ingress)
    (member : svc ∈ source.services) (own : svc.ns = source.route.ns)
    (named : generatedName globalTopology (referencedService svc) = some name) :
    rewriteName globalTopology (referencedServices source) (getServiceName svc) = some name := by
  refine rewriteName_of_listed ⟨_, List.mem_map_of_mem member, rfl⟩ ?_ ?_
  · rintro service listed sameName
    obtain ⟨svc', member', rfl⟩ := List.mem_map.mp listed
    rw [apart.meant svc member svc' member' sameName (Or.inr own), named]
  · rintro service listed written
    obtain ⟨svc', member', rfl⟩ := List.mem_map.mp listed
    rw [apart.written ingress svc member own svc' member' (by rw [named, ← written]; rfl), named]

theorem ingressBackendsNamed_of_sourceNamesApart (apart : SourceNamesApart globalTopology source)
    (ingress : convertUnstructuredToObject source.route = some .ingress)
    (member : svc ∈ source.services)
    (named : generatedName globalTopology (referencedService svc) = some name) (holds : P name) :
    IngressBackendsNamed globalTopology source svc P := by
  intro call desired isFor built
  refine (IngressCall.backends_of_desired built).imp fun backend backend' rewritten => ?_
  intro target found sameName own
  have returned := rewritten.service target found
  rw [rewriteIngressBackend_eq found, isFor.topology, isFor.services, sameName,
    rewriteName_of_sourceNamesApart apart ingress member own named] at returned
  cases returned
  exact ⟨_, rfl, holds⟩

/-- A reference that means the source service gets its name, whatever other services
it matches. -/
theorem rewriteReference_of_sourceNamesApart (apart : SourceNamesApart globalTopology source)
    (member : svc ∈ source.services)
    (named : generatedName globalTopology (referencedService svc) = some name)
    {ref ref' : BackendObjectReference}
    (stands : ref.service source.route.ns = some ⟨svc.ns, getServiceName svc⟩)
    (returned : rewriteReference globalTopology (referencedServices source) ref = some ref') :
    ref' = ref.renamed name := by
  have stands : ref.service source.route.ns = some (referencedService svc).objectKey := stands
  obtain ⟨isService, sameName, inNamespace⟩ := matches_of_service stands
  obtain ⟨_, unmatched⟩ | ⟨_, service, listed, matched, name', named', rfl⟩ :=
    eq_or_renamed_of_rewriteReference returned
  · exact absurd ⟨sameName, inNamespace⟩ (unmatched isService _ (List.mem_map_of_mem member))
  · obtain ⟨svc', member', rfl⟩ := List.mem_map.mp listed
    have meant : svc'.ns = svc.ns ∨ svc.ns = source.route.ns := by
      have ns : ref.ns.getD source.route.ns = svc.ns := by
        rw [BackendObjectReference.service, if_pos (by exact isService)] at stands
        exact congrArg ObjectKey.ns (Option.some.inj stands)
      obtain unset | set := matched.2
      · rw [unset, Option.getD_none] at ns
        exact Or.inr ns.symm
      · rw [set, Option.getD_some] at ns
        exact Or.inl ns
    have same := apart.meant svc member svc' member' (matched.1.symm.trans sameName) meant
    cases named'.symm.trans (same.trans named)
    rfl

theorem backendRefsNamed_of_sourceNamesApart {kind : GatewayRouteKind}
    (apart : SourceNamesApart globalTopology source) (member : svc ∈ source.services)
    (named : generatedName globalTopology (referencedService svc) = some name) (holds : P name) :
    BackendRefsNamed kind globalTopology source svc P := by
  intro call desired isFor built
  have rules := mapM_eq_some_iff.mp (RouteCall.rules_of_desired built)
  refine List.rel_flatMap rules fun rule rule' rewritten => ?_
  refine (backendRefs_of_rewriteRule rewritten).imp fun ref ref' returned stands => ?_
  rw [isFor.topology, isFor.services] at returned
  have renamed := rewriteReference_of_sourceNamesApart apart member named stands returned
  rw [renamed]
  exact ⟨rfl, holds⟩

/-- The backends that mean a source service name the Service generated for it. -/
theorem backendsNamed_of_sourceNamesApart (apart : SourceNamesApart globalTopology source)
    (member : svc ∈ source.services)
    (named : generatedName globalTopology (referencedService svc) = some name) (holds : P name) :
    BackendsNamed globalTopology source svc P := by
  unfold BackendsNamed
  split
  · rename_i ingress
    exact ingressBackendsNamed_of_sourceNamesApart apart ingress member named holds
  · exact backendRefsNamed_of_sourceNamesApart apart member named holds
  · exact backendRefsNamed_of_sourceNamesApart apart member named holds
  · trivial

end KubeLB
