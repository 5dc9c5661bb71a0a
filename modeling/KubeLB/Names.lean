import KubeLB.Foundation.Joined
import KubeLB.Objects

/-!
Labels, key patterns and generated names (internal/kubelb/utils.go).

A fmt.Sprintf with only %s, %d and %v verbs is the concatenation of its parts.
Object names and UIDs are ASCII, so that the byte offsets of Go's slices are
the character offsets used here; a slice out of range is `none`.
-/

namespace KubeLB
open Joined

def labelOriginNamespace : String := "kubelb.k8c.io/origin-ns"
def labelOriginName : String := "kubelb.k8c.io/origin-name"
def labelOriginResourceKind : String := "kubelb.k8c.io/origin-resource-kind"
def labelLoadBalancerNamespace : String := "kubelb.k8c.io/lb-namespace"
def labelLoadBalancerName : String := "kubelb.k8c.io/lb-name"
def labelManagedBy : String := "kubelb.k8c.io/managed-by"
def labelControllerName : String := "kubelb"
def labelBridgeService : String := "bridge-service"
def labelAppKubernetesName : String := "app.kubernetes.io/name"
def labelAppKubernetesType : String := "app.kubernetes.io/type"

def envoyEndpointPattern (ns name : String) (index : Nat) : String :=
  ns ++ "-" ++ name ++ "-ep-" ++ index.repr

def envoyResourceIdentifierPattern (ns name : String) (index : Nat) (port : Int)
    (protocol : Protocol) : String :=
  ns ++ "-" ++ name ++ "-ep-" ++ index.repr ++ "-port-" ++ port.repr ++ "-" ++ toString protocol

def envoyEndpointRoutePattern (ns svcNs svcName routeName : String) : String :=
  "tenant-" ++ ns ++ "-route-" ++ svcNs ++ "-" ++ svcName ++ "-" ++ routeName

def envoyRoutePortIdentifierPattern (ns svcNs svcName routeName uid : String) (port : Int)
    (protocol : Protocol) : String :=
  "tenant-" ++ ns ++ "-route-" ++ svcNs ++ "-" ++ svcName ++ "-" ++ routeName ++
    "-svc-" ++ uid ++ "-port-" ++ port.repr ++ "-" ++ toString protocol

def envoyListenerPattern (port : Int) (protocol : Protocol) : String :=
  port.repr ++ "-" ++ toString protocol

def routeServiceMapKey (ns name : String) : String := ns ++ "/" ++ name

def nameSuffixLength : Nat := 4
def maxNameLength : Nat := 60

/-- `s[:n]`. -/
def sliceTo (s : String) (n : Nat) : Option String :=
  if n ≤ s.length then some (String.ofList (s.toList.take n)) else none

/-- `s[len(s)-n:]`. -/
def sliceLast (s : String) (n : Nat) : Option String :=
  if n ≤ s.length then some (String.ofList (s.toList.drop (s.length - n))) else none

def generateName (appendUID : Bool) (uid name ns : String) : Option String := do
  let output := ns ++ "-" ++ name
  let uidSuffix ← sliceLast uid nameSuffixLength
  -- Names over the limit are cut and get the suffix even if none was asked for.
  if maxNameLength ≤ output.length ∨
      (appendUID ∧ maxNameLength ≤ output.length + uidSuffix.length + 1) then
    let output ← sliceTo output (maxNameLength - (nameSuffixLength + 1))
    return output ++ "-" ++ uidSuffix
  else if appendUID then
    return output ++ "-" ++ uidSuffix
  else
    return output

def getName (object : ObjectMeta) : String :=
  (object.labels.lookup labelOriginName).getD object.name

def getNamespace (object : ObjectMeta) : String :=
  (object.labels.lookup labelOriginNamespace).getD object.ns

def addKubeLBLabels (labels : FiniteMap String String) (name ns gvk : String) :
    FiniteMap String String :=
  let labels := (labels.insert labelOriginName name).insert labelOriginNamespace ns
  let labels := labels.insert labelManagedBy labelControllerName
  if gvk ≠ "" then labels.insert labelOriginResourceKind gvk else labels

theorem lacks_protocol (protocol : Protocol) : Lacks '-' (toString protocol) := by
  cases protocol <;> decide

theorem protocol_toString_inj {p q : Protocol} (same : toString p = toString q) : p = q := by
  cases p <;> cases q <;> first | rfl | exact absurd same (by decide)

theorem envoyListenerPattern_inj {port port' : Int} {protocol protocol' : Protocol}
    (same : envoyListenerPattern port protocol = envoyListenerPattern port' protocol') :
    port = port' ∧ protocol = protocol' := by
  obtain ⟨ports, protocols⟩ :=
    joined_inj_last (lacks_protocol protocol) (lacks_protocol protocol') same
  exact ⟨Int.repr_inj.mp ports, protocol_toString_inj protocols⟩

theorem portSuffix_inj {front front' : String} {port port' : Int} {protocol protocol' : Protocol}
    (same : front ++ "-port-" ++ port.repr ++ "-" ++ toString protocol =
      front' ++ "-port-" ++ port'.repr ++ "-" ++ toString protocol') :
    front = front' ∧ port = port' ∧ protocol = protocol' := by
  have hyphened (front digits : String) : front ++ "-port-" ++ digits =
      (front ++ "-port") ++ "-" ++ digits := by
    simp only [String.append_assoc]
    rfl
  rw [hyphened, hyphened] at same
  obtain ⟨fronts, protocols⟩ :=
    joined_inj_last (lacks_protocol protocol) (lacks_protocol protocol') same
  obtain ⟨fronts, numbers⟩ := joined_inj_int (by simp) (by simp) fronts
  refine ⟨?_, numbers, protocol_toString_inj protocols⟩
  have lists := congrArg String.toList fronts
  simp only [String.toList_append, List.append_left_inj] at lists
  exact String.toList_inj.mp lists

/-- An endpoint key gives back its index and the join of namespace and name,
but not where the namespace ends: both parts may contain hyphens. -/
theorem envoyEndpointPattern_eq_iff {ns ns' name name' : String} {i j : Nat} :
    envoyEndpointPattern ns name i = envoyEndpointPattern ns' name' j ↔
      ns ++ "-" ++ name = ns' ++ "-" ++ name' ∧ i = j := by
  constructor
  · intro same
    have hyphened (ns name : String) (i : Nat) : envoyEndpointPattern ns name i =
        (ns ++ "-" ++ name ++ "-ep") ++ "-" ++ i.repr := by
      simp only [envoyEndpointPattern, String.append_assoc]
      rfl
    rw [hyphened, hyphened] at same
    obtain ⟨fronts, indices⟩ := joined_inj_last (lacks_repr i) (lacks_repr j) same
    refine ⟨?_, Nat.repr_inj.mp indices⟩
    have lists := congrArg String.toList fronts
    simp only [String.toList_append, List.append_left_inj] at lists
    apply String.toList_inj.mp
    simpa only [String.toList_append] using lists
  · rintro ⟨joined, rfl⟩
    simp only [envoyEndpointPattern, joined]

/-- A generated name never panics on the UIDs the API server hands out. -/
theorem generateName_isSome (appendUID : Bool) {uid : String} (name ns : String)
    (long : nameSuffixLength ≤ uid.length) : (generateName appendUID uid name ns).isSome := by
  have suffix : ∃ s, sliceLast uid nameSuffixLength = some s ∧ s.length = nameSuffixLength := by
    refine ⟨_, if_pos long, ?_⟩
    rw [String.length_ofList, List.length_drop, String.length_toList]
    omega
  obtain ⟨s, atS, size⟩ := suffix
  simp only [generateName, atS]
  generalize ns ++ "-" ++ name = output
  simp only [Option.bind_eq_bind, Option.bind_some, Option.pure_def]
  split
  · rename_i tooLong
    have fits : maxNameLength - (nameSuffixLength + 1) ≤ output.length := by
      simp only [maxNameLength, nameSuffixLength] at *
      omega
    simp [sliceTo, fits]
  · split <;> rfl

end KubeLB
