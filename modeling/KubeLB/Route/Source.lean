import KubeLB.Annotations
import KubeLB.PortLookup.Mapper

/-!
The CCM side of a Route: the source services it collects and the Route it
generates (internal/resources/service and internal/resources/route).

An `Admission` stands for what the API server fills in on a write. `ApiFaults`
are the errors other than NotFound that the client may return. Of
cleanseService only the fields kept in the model are shown; the cluster
specific ones it clears are not among them.
-/

namespace KubeLB
open FiniteMap

abbrev ServiceStore := FiniteMap ObjectKey Service

/-- Errors of the API client, by object; `none` is success. -/
structure ApiFaults where
  get : ObjectKey → Option String := fun _ => none
  create : ObjectKey → Option String := fun _ => none
  update : ObjectKey → Option String := fun _ => none
  delete : ObjectKey → Option String := fun _ => none

/-- A port as written and as stored: node ports are assigned, and a protocol or a
target port that was left out gets its default. -/
structure AdmittedPort (written stored : ServicePort) : Prop where
  name : stored.name = written.name
  port : stored.port = written.port
  protocol : written.protocol ≠ .unset → stored.protocol = written.protocol
  targetPort : written.targetPort ≠ .int 0 → stored.targetPort = written.targetPort

/-- What the API server makes of a Service it is given. -/
structure Admission where
  accept : Service → Service
  objectKey : ∀ svc, (accept svc).objectKey = svc.objectKey
  labels : ∀ svc, (accept svc).labels = svc.labels
  ports : ∀ svc, List.Forall₂ AdmittedPort svc.ports (accept svc).ports

def Admission.verbatim : Admission where
  accept := id
  objectKey _ := rfl
  labels _ := rfl
  ports _ := List.forall₂_same.mpr fun _ _ => ⟨rfl, rfl, fun _ => rfl, fun _ => rfl⟩

def getServiceName (svc : Service) : String := getName svc.toObjectMeta

def getServiceNamespace (svc : Service) : String := getNamespace svc.toObjectMeta

/-- The comparison that spares CreateOrUpdateService an update. -/
def sameService (existing obj : Service) : Bool :=
  existing.type = obj.type ∧ existing.ports = obj.ports ∧ existing.selector = obj.selector ∧
    existing.loadBalancerClass = obj.loadBalancerClass ∧ existing.labels = obj.labels ∧
    existing.annotations = obj.annotations

/-- The store after the call, and the object as the call leaves it: the client
overwrites what it was given by the server's answer. -/
def createOrUpdateService (faults : ApiFaults) (api : Admission) (store : ServiceStore)
    (obj : Service) : Except String (ServiceStore × Service) :=
  let key := obj.objectKey
  match faults.get key with
  | some err => .error ("failed to get Service: " ++ err)
  | none =>
      match store.lookup key with
      | none =>
          match faults.create key with
          | some err => .error ("failed to create Service: " ++ err)
          | none => .ok (store.insert key (api.accept obj), api.accept obj)
      | some existing =>
          if sameService existing obj then .ok (store, obj)
          else
            match faults.update key with
            | some err => .error ("failed to update Service: " ++ err)
            | none =>
                let stored := api.accept { obj with uid := existing.uid }
                .ok (store.insert key stored, stored)

def cleanseService (svc : Service) (removeUID : Bool) : Service where
  name := svc.name
  ns := svc.ns
  labels := svc.labels
  annotations := svc.annotations.erase lastAppliedConfigAnnotation
  uid := if removeUID then "" else svc.uid
  type := svc.type
  ports := svc.ports
  selector := svc.selector
  loadBalancerClass := svc.loadBalancerClass

def nodePortServicePattern (name : String) : String := name ++ "-nodeport"

/-- The NodePort replica of a ClusterIP service. -/
def replicaService (svc : Service) : Service :=
  let cleansed := cleanseService svc true
  { cleansed with
    type := .nodePort
    labels := ((cleansed.labels.insert labelOriginNamespace svc.ns).insert
      labelOriginName svc.name).insert labelManagedBy labelControllerName
    name := nodePortServicePattern svc.name }

/-- The first loop of NormalizeAndReplicateServices: the services usable as they
are, and the replicas to write. -/
def normalizeServices (faults : ApiFaults) (store : ServiceStore) :
    List ObjectKey → Except String (List Service × List Service)
  | [] => .ok ([], [])
  | ref :: references =>
      match faults.get ref with
      | some err =>
          .error ("failed to get service " ++ ref.ns ++ "/" ++ ref.name ++ ": " ++ err)
      | none => do
          let (services, replicas) ← normalizeServices faults store references
          match store.lookup ref with
          | none => .ok (services, replicas)
          | some svc =>
              if svc.type ≠ .clusterIP then .ok (cleanseService svc false :: services, replicas)
              else .ok (services, replicaService svc :: replicas)

def writeReplicas (faults : ApiFaults) (api : Admission) :
    List Service → ServiceStore → Except String ServiceStore
  | [], store => .ok store
  | svc :: replicas, store =>
      match createOrUpdateService faults api store svc with
      | .error err => .error ("failed to create or update Service: " ++ err)
      | .ok (store, _) => writeReplicas faults api replicas store

def fetchReplicas (faults : ApiFaults) (store : ServiceStore) :
    List Service → Except String (List Service)
  | [] => .ok []
  | svc :: replicas =>
      match faults.get svc.objectKey with
      | some err =>
          .error ("failed to get service " ++ svc.ns ++ "/" ++ svc.name ++ ": " ++ err)
      | none => do
          let services ← fetchReplicas faults store replicas
          match store.lookup svc.objectKey with
          | none => .ok services
          | some svc => .ok (cleanseService svc false :: services)

def normalizeAndReplicateServices (faults : ApiFaults) (api : Admission)
    (store : ServiceStore) (references : List ObjectKey) :
    Except String (ServiceStore × List Service) := do
  let (services, replicas) ← normalizeServices faults store references
  let store ← writeReplicas faults api replicas store
  let fetched ← fetchReplicas faults store replicas
  return (store, services ++ fetched)

def defaultAddressName : String := "default"

def generateRoute (resource : Resource) (services : List Service) (ns : String) : Route where
  name := resource.uid
  ns := ns
  labels := (((((∅ : FiniteMap String String).insert labelOriginNamespace resource.ns).insert
    labelOriginName resource.name).insert labelOriginResourceKind resource.groupKind).insert
    labelManagedBy labelControllerName)
  spec :=
    { endpoints := [{ name := "default", addressesReference := some defaultAddressName }]
      kubernetes := some { route := resource, services := services } }

/-- A generated Route keeps its ports under the name of its resource; its kind
and its namespace are not part of that. -/
theorem originalRouteName_generateRoute (resource : Resource) (services : List Service)
    (ns : String) : originalRouteName (generateRoute resource services ns) =
      if resource.name ≠ "" then resource.name else resource.uid := by
  by_cases named : resource.name = "" <;>
    simp [originalRouteName, generateRoute, named, labelOriginName, labelOriginResourceKind,
      labelManagedBy, Finmap.lookup_insert_of_ne]

end KubeLB
