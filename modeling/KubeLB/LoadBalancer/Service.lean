import Mathlib.Data.List.Sort
import KubeLB.PortLookup.LoadState
import KubeLB.Route.Source

/-!
The Service of a LoadBalancer and the status written from it
(internal/kubelb/loadbalancer.go and the LoadBalancer controller).

An index out of range is a panic and is `none`. sort.Slice promises no order
among ports of one name; the stable order is taken.
-/

namespace KubeLB
open FiniteMap

/-- `ys[i]` for every index `i` of `xs`. -/
def pairByIndex {α β : Type} (xs : List α) (ys : List β) : Option (List (α × β)) :=
  if xs.length ≤ ys.length then some (xs.zip ys) else none

/-- The endpoint port a LoadBalancer port leads to: the first of its name, else
the one at its index. -/
def targetEndpointPort (ports : List EndpointPort) (lbPort : LoadBalancerPort)
    (byIndex : EndpointPort) : EndpointPort :=
  (ports.find? fun port => port.name = lbPort.name).getD byIndex

def matchingPort (existing : List ServicePort) (lbPort : LoadBalancerPort) : Option ServicePort :=
  existing.find? fun port => port.name = lbPort.name ∨
    (port.port = lbPort.port ∧ port.protocol = lbPort.protocol)

def desiredPort (lb : LoadBalancer) (existing : List ServicePort) (pa : PortAllocator)
    (lbPort : LoadBalancerPort) (targetPort : Int) : ServicePort :=
  let endpointKey := envoyEndpointPattern lb.ns lb.name 0
  let portKey := envoyListenerPattern targetPort lbPort.protocol
  { name := lbPort.name
    port := lbPort.port
    targetPort := .int (((pa.lookup endpointKey portKey).map toInt32).getD targetPort)
    protocol := lbPort.protocol
    nodePort := ((matchingPort existing lbPort).map ServicePort.nodePort).getD 0 }

def createServicePorts (lb : LoadBalancer) (existing : List ServicePort) (pa : PortAllocator) :
    Option (List ServicePort) :=
  match lb.spec.endpoints with
  | [] => some []
  | endpoint :: _ => do
      let indexed ← pairByIndex lb.spec.ports endpoint.ports
      let desiredPorts := indexed.map fun (lbPort, byIndex) =>
        desiredPort lb existing pa lbPort (targetEndpointPort endpoint.ports lbPort byIndex).port
      return desiredPorts.insertionSort fun p q => p.name ≤ q.name

def envoyGlobalCache : String := "global"

def envoyApplicationName (topology : EnvoyProxyTopology) (ns : String) : String :=
  match topology with
  | .shared => ns
  | .global => envoyGlobalCache
  | .dedicated => ""

/-- The Service of a LoadBalancer, by name and namespace. Under the dedicated
topology, which the controller no longer handles, the namespace stays empty. -/
def loadBalancerServiceKey (topology : EnvoyProxyTopology) (controllerNs : String)
    (lb : LoadBalancer) : ObjectKey :=
  match topology with
  | .shared => ⟨lb.ns, "envoy-" ++ lb.name⟩
  | .global => ⟨controllerNs, "envoy-" ++ lb.ns ++ "-" ++ lb.name⟩
  | .dedicated => ⟨"", "envoy-" ++ lb.name⟩

def desiredService (lb : LoadBalancer) (key : ObjectKey) (appName : String)
    (className : Option String) (annotations : AnnotationSettings) : Service where
  name := key.name
  ns := key.ns
  labels := insertAll ∅
    [(labelAppKubernetesName, appName), (labelLoadBalancerName, lb.name),
      (labelLoadBalancerNamespace, lb.ns),
      (labelOriginNamespace, (lb.labels.lookup labelOriginNamespace).getD ""),
      (labelOriginName, (lb.labels.lookup labelOriginName).getD "")]
  annotations := propagateAnnotations lb.annotations annotations .service
  type := lb.spec.type
  selector := (∅ : FiniteMap String String).insert labelAppKubernetesName appName
  loadBalancerClass := className

def reconcileService (faults : ApiFaults) (api : Admission) (store : ServiceStore)
    (lb : LoadBalancer) (key : ObjectKey) (appName : String) (pa : PortAllocator)
    (className : Option String) (annotations : AnnotationSettings) :
    Option (Except String ServiceStore) :=
  match faults.get key with
  | some err => some (.error err)
  | none => do
      let existing := (store.lookup key).getD { ns := key.ns, name := key.name }
      let ports ← createServicePorts lb existing.ports pa
      let desired := { desiredService lb key appName className annotations with ports := ports }
      match store.lookup key with
      | none =>
          match faults.create key with
          | some err => some (.error ("failed to create service: " ++ err))
          | none => some (.ok (store.insert key (api.accept desired)))
      | some _ =>
          let merged := mergeAnnotations (readBack existing.annotations) (some desired.annotations)
          if existing.ports ≠ desired.ports ∨ existing.selector ≠ desired.selector ∨
              existing.type ≠ desired.type ∨
              existing.loadBalancerClass ≠ desired.loadBalancerClass ∨
              existing.labels ≠ desired.labels ∨
              compareAnnotations (readBack existing.annotations) merged = false then
            match faults.update key with
            | some err => some (.error ("failed to update service: " ++ err))
            | none =>
                some (.ok (store.insert key (api.accept { desired with
                  uid := existing.uid
                  ingress := existing.ingress
                  annotations := merged.getD ∅ })))
          else some (.ok store)

def updatedPorts (ports : List ServicePort) (endpoint : LoadBalancerEndpoints) :
    Option (List StatusServicePort) := do
  let indexed ← pairByIndex ports endpoint.ports
  return indexed.map fun (port, target) =>
    { toServicePort := port, upstreamTargetPort := target.port }

/-- The hostname part of the status: a recorded hostname is kept. The two checks
are the answers of DNS and of the TLS endpoint. -/
def updatedHostname (checkDNSResolution checkTLSHealth : String → Bool) (lb : LoadBalancer)
    (hostname : String) : Option HostnameStatus :=
  if hostname = "" then none
  else
    let recorded := (lb.status.hostname.map HostnameStatus.hostname).getD ""
    let hostnameToUse := if recorded ≠ "" then recorded else hostname
    some
      { hostname := hostnameToUse
        tlsEnabled := checkTLSHealth ("https://" ++ hostnameToUse)
        dnsRecordCreated := checkDNSResolution hostnameToUse }

def updateLoadBalancerStatus (checkDNSResolution checkTLSHealth : String → Bool)
    (lb : LoadBalancer) (service : Service) (hostname : String) : Option LoadBalancerStatus :=
  match lb.spec.endpoints with
  | [] => some lb.status
  | endpoint :: _ => do
      let ports ← updatedPorts service.ports endpoint
      let hostnameStatus := updatedHostname checkDNSResolution checkTLSHealth lb hostname
      if lb.status.servicePorts ≠ ports ∨
          (lb.spec.type = .loadBalancer ∧ lb.status.ingress ≠ service.ingress) ∨
          lb.status.hostname ≠ hostnameStatus then
        return { ingress := service.ingress, servicePorts := ports, hostname := hostnameStatus }
      else return lb.status

theorem createServicePorts_cons {lb : LoadBalancer} {endpoint : LoadBalancerEndpoints}
    {others : List LoadBalancerEndpoints} (endpoints : lb.spec.endpoints = endpoint :: others)
    (enough : lb.spec.ports.length ≤ endpoint.ports.length) (existing : List ServicePort)
    (pa : PortAllocator) :
    createServicePorts lb existing pa = some
      (((lb.spec.ports.zip endpoint.ports).map fun pair =>
        desiredPort lb existing pa pair.1
          (targetEndpointPort endpoint.ports pair.1 pair.2).port).insertionSort
        fun p q => p.name ≤ q.name) := by
  simp only [createServicePorts, endpoints, pairByIndex, if_pos enough]
  rfl

/-- Whether or not a write was needed, the recorded ports are those of the Service. -/
theorem servicePorts_updateLoadBalancerStatus {lb : LoadBalancer}
    {endpoint : LoadBalancerEndpoints} {others : List LoadBalancerEndpoints}
    (endpoints : lb.spec.endpoints = endpoint :: others) (service : Service)
    (enough : service.ports.length ≤ endpoint.ports.length)
    (checkDNSResolution checkTLSHealth : String → Bool) (hostname : String) :
    ∃ status,
      updateLoadBalancerStatus checkDNSResolution checkTLSHealth lb service hostname =
        some status ∧
      status.servicePorts = (service.ports.zip endpoint.ports).map fun pair =>
        { toServicePort := pair.1, upstreamTargetPort := pair.2.port } := by
  simp only [updateLoadBalancerStatus, endpoints, updatedPorts, pairByIndex, if_pos enough,
    Option.pure_def, Option.bind_eq_bind, Option.bind_some]
  split
  · exact ⟨_, rfl, rfl⟩
  · rename_i unchanged
    simp only [ne_eq, not_or, not_not] at unchanged
    exact ⟨_, rfl, unchanged.1⟩

end KubeLB
