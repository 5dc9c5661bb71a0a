import KubeLB.Manager.Ports
import KubeLB.PortLookup.LoadState

/-!
Several replicas of the manager (cmd/kubelb/main.go).

Every replica has an allocator of its own, filled by LoadState when it starts.
The LoadBalancer and the Route controller run where the lease of the leader
election is; the Envoy control plane runs on a manager without leader election
and so in every replica. The Service of a LoadBalancer has the ports of the
leader, a snapshot those of the replica that serves it, and nothing tells one
replica what another has drawn.
-/

namespace KubeLB
open FiniteMap PortAllocator

structure ReplicasState where
  api : Api
  processes : FiniteMap Nat Process
  leader : Option Nat

def ReplicasState.initial : ReplicasState := ⟨.empty, ∅, none⟩

inductive ReplicasAction
  | user (action : UserAction)
  /-- A replica starts; LoadState lists all LoadBalancers and Routes. -/
  | start (i : Nat) (lbs routes : List ObjectKey)
  | stop (i : Nat)
  | elect (i : Nat)
  | act (i : Nat) (action : ProcessAction)

/-- The controllers of `envoyMgr`, which has no leader election. -/
def everyReplica : ProcessAction → Bool
  | .cpList _ _ _ | .cpAllocate _ | .cpBuild _ | .cpPublish | .cpFail => true
  | _ => false

def startProcess (api : Api) (lbs routes : List ObjectKey) : Process :=
  { allocator := loadState (lbs.filterMap api.lbs.lookup) (routes.filterMap api.routes.lookup) }

/-- One step of the replicas. A replica that loses the lease stops. -/
def replicasStep (o : ManagerOptions) (state : ReplicasState) :
    ReplicasAction → Option ReplicasState
  | .user action => some { state with api := userStep state.api action }
  | .start i lbs routes =>
      if i ∈ state.processes then none
      else some { state with
        processes := state.processes.insert i (startProcess state.api lbs routes) }
  | .stop i => some { state with
      processes := state.processes.erase i
      leader := if state.leader = some i then none else state.leader }
  | .elect i =>
      if state.leader = none ∧ i ∈ state.processes then some { state with leader := some i }
      else none
  | .act i action =>
      if everyReplica action ∨ state.leader = some i then do
        let p ← state.processes.lookup i
        let (api, p) ← processStep o state.api p action
        return { state with api := api, processes := state.processes.insert i p }
      else none

/-- The Service of the LoadBalancer, as last written, leads a port to `number`. Ports
of a Service are told apart by their names. -/
def Targets (o : ManagerOptions) (api : Api) (lb : LoadBalancer) (endpoint : LoadBalancerEndpoints)
    (pair : LoadBalancerPort × EndpointPort) (number : Int) : Prop :=
  endpoint ∈ lb.spec.endpoints.head? ∧ pair ∈ lb.spec.ports.zip endpoint.ports ∧
    api.origins.lookup (loadBalancerServiceKey o.topology o.ns lb) = some lb ∧
    ∃ svc, api.services.lookup (loadBalancerServiceKey o.topology o.ns lb) = some svc ∧
      ∃ q ∈ svc.ports, q.name = pair.1.name ∧ q.targetPort = .int number

/-- Every snapshot that is served has the listener of a LoadBalancer port, if it has
it, where the Service of the LoadBalancer leads. -/
def ReplicasAgree (o : ManagerOptions) (state : ReplicasState) : Prop :=
  ∀ lb endpoint pair number, Targets o state.api lb endpoint pair number →
    ∀ i p name snapshot port listener, state.processes.lookup i = some p →
      p.published.lookup name = some snapshot → endpointPortKey port = targetPortKey endpoint pair →
      snapshot.listener (loadBalancerIdentifier lb 0 port) = some listener →
        listener.port = number

/-- A process has a port for an entry of a LoadBalancer, in its table or in a
listener. -/
def Process.Has (p : Process) (entry : String × String) (number : Int) : Prop :=
  (IsLoadBalancerKey entry.1 ∧ p.allocator.lookup entry.1 entry.2 = some number) ∨
    ∃ listener lb i port, p.Carries listener ∧ listener.name = loadBalancerIdentifier lb i port ∧
      listener.port = number ∧ entry = (loadBalancerKey lb i, endpointPortKey port)

def InUse (o : ManagerOptions) (state : ReplicasState) (entry : String × String) (number : Int) :
    Prop :=
  (∃ lb endpoint pair, Targets o state.api lb endpoint pair number ∧
    entry = (loadBalancerKey lb 0, targetPortKey endpoint pair)) ∨
  ∃ i p, state.processes.lookup i = some p ∧ p.Has entry number

/-- The condition on a step of a replica: it draws a port only for an entry that has
none anywhere, nothing falls back to a port of the spec, and the ports of a
Service have different names, without which the API server refuses it. -/
structure DrawsAlone (o : ManagerOptions) (state : ReplicasState) (p : Process)
    (action : ProcessAction) : Prop where
  draws : ∀ e portKeys draws, p.call action = some ((e, portKeys), draws) →
    ∀ k ∈ portKeys, p.allocator.lookup e k = none → ∀ number, ¬ InUse o state (e, k) number
  looked : NoFallback p action
  names : ∀ faults admission, action = .lbWrite faults admission → ∀ lb className annotations,
    p.lbTask = .allocating lb className annotations [] →
      (lb.spec.ports.map LoadBalancerPort.name).Nodup

/-- The condition on a start: the recorded ports are port numbers, and those of a
LoadBalancer are the ports in use. -/
structure LoadsInUse (o : ManagerOptions) (state : ReplicasState) (lbs : List LoadBalancer)
    (routes : List Route) : Prop where
  lbs : ∀ lb ∈ lbs, ∀ pair ∈ lb.spec.endpoints.zipIdx, ∀ port ∈ pair.1.ports,
    ∀ recorded ∈ recordedPort lb.status port,
      (0 < recorded.targetPort.intValue ∧ recorded.targetPort.intValue < 2 ^ 16) ∧
      ∀ number, InUse o state (loadBalancerKey lb pair.2, endpointPortKey port) number →
        recorded.targetPort.intValue = number
  routes : ∀ route ∈ routes, ∀ load ∈ routeLoads route, ¬ IsLoadBalancerKey load.1 ∧
    ∀ entry ∈ load.2, 0 < entry.2 ∧ entry.2 < 2 ^ 16

def Agreeing (o : ManagerOptions) (state : ReplicasState) : ReplicasAction → Prop
  | .start _ lbs routes => LoadsInUse o state (lbs.filterMap state.api.lbs.lookup)
      (routes.filterMap state.api.routes.lookup)
  | .act i action => ∀ p, state.processes.lookup i = some p → DrawsAlone o state p action
  | _ => True

end KubeLB
