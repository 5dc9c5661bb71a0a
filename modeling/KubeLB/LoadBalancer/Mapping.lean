import KubeLB.Annotations
import KubeLB.Route.Source

/-!
The LoadBalancer of a user Service (MapLoadBalancer and
LoadBalancerIsDesiredState in internal/kubelb/loadbalancer.go).

Port names are ASCII, so lower case is that of the ASCII letters.
-/

namespace KubeLB
open FiniteMap

def labelTenantName : String := "kubelb.k8c.io/tenant"

def toLower (s : String) : String := String.ofList (s.toList.map Char.toLower)

/-- The name of a port in the LoadBalancer: its own in lower case, else one made
from its number and protocol. -/
def mappedPortName (port : ServicePort) : String :=
  if port.name ≠ "" then toLower port.name
  else port.port.repr ++ "-" ++ toLower (toString port.protocol)

/-- The annotations of the LoadBalancer, `none` for a nil map. -/
def mappedAnnotations (userService : Service) : Option (FiniteMap String String) :=
  (readBack userService.annotations).map (·.erase lastAppliedConfigAnnotation)

def mapLoadBalancer (userService : Service) (clusterEndpoints : List String)
    (useAddressesReference : Bool) (clusterName : String) : LoadBalancer where
  name := userService.uid
  ns := clusterName
  labels := insertAll ∅
    [(labelOriginNamespace, userService.ns), (labelOriginName, userService.name),
      (labelTenantName, clusterName)]
  annotations := (mappedAnnotations userService).getD ∅
  spec :=
    { ports := userService.ports.map fun port =>
        { name := mappedPortName port, port := port.port, protocol := port.protocol }
      endpoints :=
        [{ ports := userService.ports.map fun port =>
             { name := mappedPortName port, port := port.nodePort, protocol := port.protocol }
           addressesReference := if useAddressesReference then some defaultAddressName else none
           addresses := if useAddressesReference then []
             else clusterEndpoints.map fun endpoint => { ip := endpoint } }]
      type := userService.type }

/-- What LoadBalancerIsDesiredState compares of an endpoint group. -/
def comparedEndpoints (endpoint : LoadBalancerEndpoints) :
    List (String × String) × List (Int × Protocol) :=
  (endpoint.addresses.map fun address => (address.hostname, address.ip),
    endpoint.ports.map fun port => (port.port, port.protocol))

/-- The lists are compared by length and index, which is equality of what is
compared of their elements. The annotations of the desired one are given apart,
since they may be nil. -/
def loadBalancerIsDesiredState (actual desired : LoadBalancer)
    (annotations : Option (FiniteMap String String)) : Bool :=
  actual.spec.type = desired.spec.type ∧
    actual.spec.ports.map (fun port => (port.protocol, port.port)) =
      desired.spec.ports.map (fun port => (port.protocol, port.port)) ∧
    actual.spec.endpoints.map comparedEndpoints = desired.spec.endpoints.map comparedEndpoints ∧
    compareAnnotations (readBack actual.annotations) annotations

end KubeLB
