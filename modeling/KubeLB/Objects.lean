import KubeLB.Foundation.FiniteMap

/-!
The Kubernetes and KubeLB objects that the modelled code reads and writes.

Go's int32 and int are `Int`; the two places where the code narrows one apply
`toInt32` and `toUInt32`. A nil map is the empty map: no modelled function tells
the two apart. Fields that no modelled function uses are left out.
-/

namespace KubeLB

def toInt32 (n : Int) : Int := Int.bmod n (2 ^ 32)

def toUInt32 (n : Int) : Int := n % 2 ^ 32

theorem toInt32_of_port {port : Int} (valid : 0 < port ∧ port < 2 ^ 16) : toInt32 port = port := by
  rw [toInt32, Int.bmod_def]
  omega

theorem toUInt32_of_port {port : Int} (valid : 0 < port ∧ port < 2 ^ 16) :
    toUInt32 port = port := by
  rw [toUInt32]
  omega

/-- corev1.Protocol; `unset` is the empty string, which the CRD admits. -/
inductive Protocol
  | unset | tcp | udp | sctp
  deriving DecidableEq, Repr

instance : ToString Protocol where
  toString
    | .unset => ""
    | .tcp => "TCP"
    | .udp => "UDP"
    | .sctp => "SCTP"

/-- corev1.ServiceType; `unset` is the empty string. -/
inductive ServiceType
  | unset | clusterIP | nodePort | loadBalancer | externalName
  deriving DecidableEq, Repr

inductive EnvoyProxyTopology
  | shared | dedicated | global
  deriving DecidableEq, Repr

def EnvoyProxyTopology.isGlobalTopology (topology : EnvoyProxyTopology) : Bool :=
  topology = .global

/-- intstr.IntOrString. -/
inductive IntOrString
  | int (value : Int)
  | str (value : String)
  deriving DecidableEq, Repr

/-- The digits of strconv.Atoi: a non-empty run of them, read in base ten. -/
def atoiDigits : List Char → Option Nat
  | [] => none
  | digits =>
      if digits.all Char.isDigit then
        some (digits.foldl (fun n c => 10 * n + (c.toNat - '0'.toNat)) 0)
      else none

/-- strconv.Atoi with its error dropped, as intstr.IntValue calls it: zero for
a malformed string, the nearest int64 for one out of range. -/
def atoi (s : String) : Int :=
  let clip (n : Int) : Int := max (-2 ^ 63) (min n (2 ^ 63 - 1))
  match s.toList with
  | '-' :: digits => ((atoiDigits digits).map fun n => clip (-n)).getD 0
  | '+' :: digits => ((atoiDigits digits).map fun n => clip n).getD 0
  | digits => ((atoiDigits digits).map fun n => clip n).getD 0

def IntOrString.intValue : IntOrString → Int
  | .int value => value
  | .str value => atoi value

/-- The IntVal field, which is zero for a string. -/
def IntOrString.intVal : IntOrString → Int
  | .int value => value
  | .str _ => 0

structure ObjectKey where
  ns : String
  name : String
  deriving DecidableEq

/-- metav1.ObjectMeta. -/
structure ObjectMeta where
  name : String := ""
  ns : String := ""
  uid : String := ""
  labels : FiniteMap String String := ∅
  annotations : FiniteMap String String := ∅
  deletionTimestamp : Bool := false
  finalizers : List String := []
  deriving DecidableEq

def ObjectMeta.objectKey (object : ObjectMeta) : ObjectKey := ⟨object.ns, object.name⟩

/-- An object that is being deleted goes with its last finalizer. -/
def ObjectMeta.isGone (object : ObjectMeta) : Bool :=
  object.deletionTimestamp ∧ object.finalizers = []

/-- corev1.ServicePort. -/
structure ServicePort where
  name : String := ""
  protocol : Protocol := .tcp
  port : Int
  targetPort : IntOrString := .int 0
  nodePort : Int := 0
  deriving DecidableEq

/-- corev1.LoadBalancerIngress, by address. -/
structure LoadBalancerIngress where
  ip : String := ""
  hostname : String := ""
  deriving DecidableEq

/-- corev1.Service. -/
structure Service extends ObjectMeta where
  type : ServiceType := .clusterIP
  ports : List ServicePort := []
  selector : FiniteMap String String := ∅
  loadBalancerClass : Option String := none
  ingress : List LoadBalancerIngress := []
  deriving DecidableEq

structure EndpointPort where
  name : String := ""
  port : Int
  protocol : Protocol := .unset
  deriving DecidableEq

structure EndpointAddress where
  ip : String
  hostname : String := ""
  deriving DecidableEq

structure LoadBalancerEndpoints where
  name : String := ""
  addresses : List EndpointAddress := []
  addressesReference : Option String := none
  ports : List EndpointPort := []
  deriving DecidableEq

structure LoadBalancerPort where
  name : String := ""
  protocol : Protocol := .unset
  port : Int
  deriving DecidableEq

structure LoadBalancerSpec where
  endpoints : List LoadBalancerEndpoints := []
  ports : List LoadBalancerPort := []
  hostname : String := ""
  type : ServiceType := .clusterIP
  deriving DecidableEq

/-- v1alpha1.ServicePort: a Service port with the endpoint port it leads to. -/
structure StatusServicePort extends ServicePort where
  upstreamTargetPort : Int
  deriving DecidableEq

structure HostnameStatus where
  hostname : String := ""
  tlsEnabled : Bool := false
  dnsRecordCreated : Bool := false
  deriving DecidableEq

structure LoadBalancerStatus where
  ingress : List LoadBalancerIngress := []
  servicePorts : List StatusServicePort := []
  hostname : Option HostnameStatus := none
  deriving DecidableEq

structure LoadBalancer extends ObjectMeta where
  spec : LoadBalancerSpec := {}
  status : LoadBalancerStatus := {}
  deriving DecidableEq

/-- unstructured.Unstructured, by the metadata that is read without conversion. -/
structure Resource where
  apiVersion : String := ""
  kind : String := ""
  name : String := ""
  ns : String := ""
  uid : String := ""
  deriving DecidableEq

/-- The types unstructured.ConvertUnstructuredToObject knows. -/
inductive SourceKind
  | ingress | service | gateway | httpRoute | grpcRoute
  deriving DecidableEq, Repr

/-- unstructured.ConvertUnstructuredToObject, by the type it picks. The field by
field conversion that follows in the source can only fail further. -/
def convertUnstructuredToObject (resource : Resource) : Option SourceKind :=
  match resource.apiVersion, resource.kind with
  | "networking.k8s.io/v1", "Ingress" => some .ingress
  | "v1", "Service" => some .service
  | "gateway.networking.k8s.io/v1", "Gateway" => some .gateway
  | "gateway.networking.k8s.io/v1", "HTTPRoute" => some .httpRoute
  | "gateway.networking.k8s.io/v1", "GRPCRoute" => some .grpcRoute
  | _, _ => none

/-- schema.GroupKind.String: the kind and, unless it is the core group, the group. -/
def Resource.groupKind (resource : Resource) : String :=
  match resource.apiVersion.toList.splitOn '/' with
  | [group, _] => resource.kind ++ "." ++ String.ofList group
  | _ => resource.kind

structure KubernetesSource where
  route : Resource := {}
  services : List Service := []
  deriving DecidableEq

structure RouteSpec where
  endpoints : List LoadBalancerEndpoints := []
  kubernetes : Option KubernetesSource := none
  deriving DecidableEq

/-- v1alpha1.RouteServiceStatus, with the outcome of the last apply as its
condition: `none` for success, else the error's text. -/
structure RouteServiceStatus where
  name : String := ""
  ns : String := ""
  generatedName : String := ""
  failure : Option String := none
  ports : List ServicePort := []
  deriving DecidableEq

structure Route extends ObjectMeta where
  spec : RouteSpec := {}
  services : FiniteMap String RouteServiceStatus := ∅
  deriving DecidableEq

/-- controllerutil.RemoveFinalizer. -/
def removeFinalizer (finalizers : List String) (finalizer : String) : List String :=
  finalizers.filter (· ≠ finalizer)

/-- controllerutil.AddFinalizer. -/
def addFinalizer (finalizers : List String) (finalizer : String) : List String :=
  if finalizer ∈ finalizers then finalizers else finalizers ++ [finalizer]

theorem mem_addFinalizer_of_mem {finalizers : List String} {other : String} (finalizer : String)
    (held : other ∈ finalizers) : other ∈ addFinalizer finalizers finalizer := by
  unfold addFinalizer
  split
  · exact held
  · exact List.mem_append_left _ held

theorem mem_addFinalizer (finalizers : List String) (finalizer : String) :
    finalizer ∈ addFinalizer finalizers finalizer := by
  unfold addFinalizer
  split
  · assumption
  · exact List.mem_append_right _ (List.mem_singleton_self _)

/-- metav1.Object: the metadata of an object, to be read and set. -/
class KubeObject (α : Type) where
  objectMeta : α → ObjectMeta
  withMeta : α → ObjectMeta → α
  objectMeta_withMeta (object : α) (metadata : ObjectMeta) :
    objectMeta (withMeta object metadata) = metadata

namespace KubeObject
variable {α : Type} [KubeObject α]

def setFinalizers (object : α) (finalizers : List String) : α :=
  withMeta object { objectMeta object with finalizers := finalizers }

def setDeletionTimestamp (object : α) (deleted : Bool) : α :=
  withMeta object { objectMeta object with deletionTimestamp := deleted }

/-- What the API server keeps of an object that is written. -/
def settle (object : α) : Option α :=
  if (objectMeta object).isGone then none else some object

@[simp] theorem objectMeta_setFinalizers (object : α) (finalizers : List String) :
    objectMeta (setFinalizers object finalizers) =
      { objectMeta object with finalizers := finalizers } := objectMeta_withMeta _ _

@[simp] theorem objectMeta_setDeletionTimestamp (object : α) (deleted : Bool) :
    objectMeta (setDeletionTimestamp object deleted) =
      { objectMeta object with deletionTimestamp := deleted } := objectMeta_withMeta _ _

theorem settle_eq_some {object kept : α} (left : settle object = some kept) : kept = object := by
  unfold settle at left
  split at left
  · cases left
  · exact (Option.some.inj left).symm

theorem settle_of_mem {object : α} {finalizer : String}
    (held : finalizer ∈ (objectMeta object).finalizers) : settle object = some object := by
  have stays : (objectMeta object).isGone = false := by
    simp [ObjectMeta.isGone, List.ne_nil_of_mem held]
  simp [settle, stays]

end KubeObject

instance : KubeObject Service where
  objectMeta := Service.toObjectMeta
  withMeta service metadata := { service with toObjectMeta := metadata }
  objectMeta_withMeta _ _ := rfl

instance : KubeObject LoadBalancer where
  objectMeta := LoadBalancer.toObjectMeta
  withMeta lb metadata := { lb with toObjectMeta := metadata }
  objectMeta_withMeta _ _ := rfl

instance : KubeObject Route where
  objectMeta := Route.toObjectMeta
  withMeta route metadata := { route with toObjectMeta := metadata }
  objectMeta_withMeta _ _ := rfl

end KubeLB
