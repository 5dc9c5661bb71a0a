import KubeLB.Route.Services
import KubeLB.Route.SourceSpec

/-!
When the names of two generated Services collide.

GenerateName joins namespace and name by a hyphen, which both may contain, cuts
the join at 55 characters where the name would get too long, and appends the
last four characters of the UID where it was cut or where the topology is
global. In the global topology the bridge Services of all tenants share one
namespace, and nothing in their names tells the tenants apart.
-/

namespace KubeLB

def cutLength : Nat := maxNameLength - (nameSuffixLength + 1)

def nameStem (svc : Service) : String := svc.ns ++ "-" ++ getServiceName svc

/-- Whether the name of a source service is cut and gets the suffix. -/
def Suffixed (globalTopology : Bool) (svc : Service) : Prop :=
  globalTopology = true ∨ maxNameLength ≤ (nameStem svc).length

/-- What the names tell apart: the stems where both are kept whole; what is kept of
the stems or the ends of the UIDs where both get a suffix. A name with a
suffix that was cut is longer than one that was not. -/
structure DistinguishedNames (globalTopology : Bool) (s t : Service) : Prop where
  whole : ¬ Suffixed globalTopology s → ¬ Suffixed globalTopology t → nameStem s ≠ nameStem t
  suffixed : Suffixed globalTopology s → Suffixed globalTopology t →
    (nameStem s).toList.take cutLength ≠ (nameStem t).toList.take cutLength ∨
      sliceLast s.uid nameSuffixLength ≠ sliceLast t.uid nameSuffixLength

/-- The two Services have different names, so that writing the second leaves the
first as it is, whatever the store holds and the API server answers. -/
def KeptApart (first second : Service) : Prop :=
  first.name ≠ second.name ∧
    ∀ faults api store store' stored,
      createOrUpdateService faults api store second = .ok (store', stored) →
        store'.lookup first.objectKey = store.lookup first.objectKey

theorem length_of_sliceLast {s suffix : String} {n : Nat} (cut : sliceLast s n = some suffix) :
    suffix.toList.length = n := by
  obtain ⟨enough, ⟨⟩⟩ := Option.ite_none_right_eq_some.mp cut
  rw [String.toList_ofList, List.length_drop, String.length_toList]
  omega

/-- GenerateName in one equation: with a suffix the stem is cut, which
changes nothing if it is short. -/
theorem generateName_eq_some {appendUID : Bool} {uid name ns out : String}
    (generated : generateName appendUID uid name ns = some out) :
    ∃ suffix, sliceLast uid nameSuffixLength = some suffix ∧
      out.toList =
        if appendUID = true ∨ maxNameLength ≤ (ns ++ "-" ++ name).length then
          (ns ++ "-" ++ name).toList.take cutLength ++ '-' :: suffix.toList
        else (ns ++ "-" ++ name).toList := by
  simp only [generateName] at generated
  generalize ns ++ "-" ++ name = stem at generated ⊢
  obtain ⟨suffix, cut, generated⟩ := Option.bind_eq_some_iff.mp generated
  refine ⟨suffix, cut, ?_⟩
  have size := length_of_sliceLast cut
  rw [String.length_toList] at size
  split at generated
  · rename_i long
    obtain ⟨front, sliced, ⟨⟩⟩ := Option.bind_eq_some_iff.mp generated
    obtain ⟨_, ⟨⟩⟩ := Option.ite_none_right_eq_some.mp sliced
    rw [if_pos (long.elim Or.inr fun asked => Or.inl asked.1)]
    simp [cutLength]
  · rename_i short
    split at generated
    · rename_i asked
      cases generated
      have fits : stem.toList.length ≤ cutLength := by
        rw [String.length_toList]
        simp only [not_or, not_and, not_le] at short
        have room := short.2 asked
        simp only [cutLength]
        omega
      rw [if_pos (Or.inl asked), List.take_of_length_le fits]
      simp
    · rename_i plain
      cases generated
      rw [if_neg]
      exact not_or.mpr ⟨plain, (not_or.mp short).1⟩

section
variable {globalTopology : Bool} {s t a b : Service} {ns ns' appName appName' : String}
  {routeName routeName' : String} {pa pa' : PortAllocator}
  {annotations annotations' : AnnotationSettings}

theorem name_of_generated
    (generated : generateServiceForLBCluster s appName ns routeName pa globalTopology annotations =
      some a) :
    ∃ suffix, sliceLast s.uid nameSuffixLength = some suffix ∧
      (Suffixed globalTopology s →
        a.name.toList = (nameStem s).toList.take cutLength ++ '-' :: suffix.toList) ∧
      (¬ Suffixed globalTopology s → a.name.toList = (nameStem s).toList) := by
  obtain ⟨name, named, rfl⟩ := Option.map_eq_some_iff.mp generated
  obtain ⟨suffix, cut, text⟩ := generateName_eq_some named
  exact ⟨suffix, cut, fun long => text.trans (if_pos long), fun short => text.trans (if_neg short)⟩

theorem suffixed_ne_whole {suffix : List Char} (size : suffix.length = nameSuffixLength)
    (long : Suffixed globalTopology s) (short : ¬ Suffixed globalTopology t) :
    (nameStem s).toList.take cutLength ++ '-' :: suffix ≠ (nameStem t).toList := by
  intro same
  have lengths := congrArg List.length same
  simp only [Suffixed, not_or] at long short
  have long := long.resolve_left short.1
  simp only [List.length_append, List.length_take, List.length_cons, String.length_toList, size,
    cutLength, maxNameLength, nameSuffixLength] at lengths long short
  omega

/-- The names of two generated Services differ exactly when the cut stems, or
the ends of the UIDs, tell them apart. -/
theorem name_ne_iff
    (first : generateServiceForLBCluster s appName ns routeName pa globalTopology annotations =
      some a)
    (second : generateServiceForLBCluster t appName' ns' routeName' pa' globalTopology
      annotations' = some b) :
    a.name ≠ b.name ↔ DistinguishedNames globalTopology s t := by
  obtain ⟨u, cutS, longS, shortS⟩ := name_of_generated first
  obtain ⟨v, cutT, longT, shortT⟩ := name_of_generated second
  have sizes : ('-' :: u.toList).length = ('-' :: v.toList).length := by
    simp only [List.length_cons, length_of_sliceLast cutS, length_of_sliceLast cutT]
  rw [ne_eq, ← String.toList_inj]
  by_cases hs : Suffixed globalTopology s <;> by_cases ht : Suffixed globalTopology t
  · rw [longS hs, longT ht]
    constructor
    · intro different
      refine ⟨fun whole => absurd hs whole, fun _ _ => ?_⟩
      by_contra same
      simp only [not_or, not_not, cutS, cutT, Option.some.injEq] at same
      exact different (by rw [same.1, same.2])
    · intro apart same
      obtain ⟨stems, tails⟩ := List.append_inj' same sizes
      cases apart.suffixed hs ht with
      | inl different => exact different stems
      | inr different =>
          rw [cutS, cutT, ne_eq, Option.some.injEq, ← String.toList_inj] at different
          exact different (List.cons.inj tails).2
  · rw [longS hs, shortT ht]
    exact iff_of_true (suffixed_ne_whole (length_of_sliceLast cutS) hs ht)
      ⟨fun whole => absurd hs whole, fun _ suffixed => absurd suffixed ht⟩
  · rw [shortS hs, longT ht]
    exact iff_of_true (fun same => suffixed_ne_whole (length_of_sliceLast cutT) ht hs same.symm)
      ⟨fun _ whole => absurd ht whole, fun suffixed => absurd suffixed hs⟩
  · rw [shortS hs, shortT ht, String.toList_inj]
    exact ⟨fun different => ⟨fun _ _ => different, fun suffixed => absurd suffixed hs⟩,
      fun apart => apart.whole hs ht⟩

theorem keptApart_iff {first second : Service} :
    KeptApart first second ↔ first.name ≠ second.name := by
  refine ⟨And.left, fun different => ⟨different, ?_⟩⟩
  intro faults api store store' stored written
  refine (createOrUpdateService_spec written).other _ ?_
  intro same
  exact different (congrArg ObjectKey.name same)

end

/-- The Services generated for two source services of a tenant stay apart in the
shared topology, and the bridges of two source services of any tenants in the
global one, exactly when what is left of their names and UIDs tells them apart. -/
theorem generated_services_kept_apart_iff (s t : Service) (controllerNs : String) :
    (∀ tenant appName routeName routeName' pa pa' annotations annotations' a b,
      generateServiceForLBCluster s appName tenant routeName pa false annotations = some a →
      generateServiceForLBCluster t appName tenant routeName' pa' false annotations' = some b →
      (KeptApart a b ↔ DistinguishedNames false s t)) ∧
    (∀ tenant tenant' appName routeName routeName' pa pa' annotations annotations' a b,
      generateServiceForLBCluster s appName tenant routeName pa true annotations = some a →
      generateServiceForLBCluster t appName tenant' routeName' pa' true annotations' = some b →
      (KeptApart (generateBridgeService a appName controllerNs)
          (generateBridgeService b appName controllerNs) ↔ DistinguishedNames true s t)) := by
  refine ⟨?_, ?_⟩
  · intro tenant appName routeName routeName' pa pa' annotations annotations' a b first second
    rw [keptApart_iff, name_ne_iff first second]
  · intro tenant tenant' appName routeName routeName' pa pa' annotations annotations' a b first
      second
    rw [keptApart_iff]
    change a.name ≠ b.name ↔ _
    exact name_ne_iff first second

def sourceService (ns name uid : String) (port : Int) : Service where
  ns := ns
  name := name
  uid := uid
  type := .nodePort
  ports := [{ port := port }]

theorem services_kept_apart_plain_names : ∃ a b,
    generateServiceForLBCluster
      (sourceService "default" "web" "0f8fad5b-d9cb-469f-a165-70867728950e" 80)
      "envoy" "tenant-primary" "ingress" newPortAllocator true {} = some a ∧
    generateServiceForLBCluster
      (sourceService "default" "api" "7c9e6679-7425-40de-944b-e07fc1f90ae7" 80)
      "envoy" "tenant-secondary" "ingress" newPortAllocator true {} = some b ∧
    KeptApart (generateBridgeService a "envoy" "kubelb")
      (generateBridgeService b "envoy" "kubelb") := by
  obtain ⟨a, first⟩ : ∃ a, generateServiceForLBCluster
      (sourceService "default" "web" "0f8fad5b-d9cb-469f-a165-70867728950e" 80)
      "envoy" "tenant-primary" "ingress" newPortAllocator true {} = some a := ⟨_, rfl⟩
  obtain ⟨b, second⟩ : ∃ b, generateServiceForLBCluster
      (sourceService "default" "api" "7c9e6679-7425-40de-944b-e07fc1f90ae7" 80)
      "envoy" "tenant-secondary" "ingress" newPortAllocator true {} = some b := ⟨_, rfl⟩
  refine ⟨a, b, first, second, ((generated_services_kept_apart_iff _ _ "kubelb").2
    _ _ _ _ _ _ _ _ _ _ _ first second).mpr ⟨?_, ?_⟩⟩
  · intro whole
    exact absurd (Or.inl rfl) whole
  · intro _ _
    exact Or.inl (by decide)

/-- The hyphen does not say where the namespace ends, and four characters of a
UID do not tell two tenants apart: in both topologies the second Service is
written over the first. -/
theorem second_service_replaces_first :
    (do let a ← generateServiceForLBCluster
          (sourceService "team-a" "web" "0f8fad5b-d9cb-469f-a165-70867728950e" 80)
          "envoy" "tenant-primary" "ingress" newPortAllocator false {}
        let b ← generateServiceForLBCluster
          (sourceService "team" "a-web" "7c9e6679-7425-40de-944b-e07fc1f90ae7" 90)
          "envoy" "tenant-primary" "ingress" newPortAllocator false {}
        let (store, _) ← (createOrUpdateService {} .verbatim ∅ a).toOption
        let (store', _) ← (createOrUpdateService {} .verbatim store b).toOption
        return (a.name, (store'.lookup a.objectKey).map (·.ports.map ServicePort.port))) =
      some ("team-a-web", some [90]) ∧
    (do let a ← generateServiceForLBCluster
          (sourceService "default" "web" "0f8fad5b-d9cb-469f-a165-70867728950e" 80)
          "envoy" "tenant-primary" "ingress" newPortAllocator true {}
        let b ← generateServiceForLBCluster
          (sourceService "default" "web" "7c9e6679-7425-40de-944b-e07fc1f9950e" 80)
          "envoy" "tenant-secondary" "ingress" newPortAllocator true {}
        let (store, _) ← (createOrUpdateService {} .verbatim ∅
          (generateBridgeService a "envoy" "kubelb")).toOption
        let (store', _) ← (createOrUpdateService {} .verbatim store
          (generateBridgeService b "envoy" "kubelb")).toOption
        return (a.name, (store'.lookup ⟨"kubelb", a.name⟩).map
          (·.labels.lookup labelOriginNamespace))) =
      some ("default-web-950e", some (some "tenant-secondary")) := by
  constructor <;> decide

end KubeLB
