import KubeLB.Envoy.ControlPlane
import KubeLB.Foundation.Program
import KubeLB.LoadBalancer.Service

/-!
The workload that runs Envoy, and a whole reconcile of the control plane
(internal/controllers/kubelb/envoy_cp_controller.go).

The kind of the workload is that of the Config at hand, when it is created and when it
is deleted. The API server is taken to store a workload as it is written. The text
of the bootstrap is given by the environment; an affinity is only copied and compared
and stands for its serialised form.
-/

namespace KubeLB
open FiniteMap Program

inductive WorkloadKind
  | deployment | daemonSet
  deriving DecidableEq

structure WorkloadId where
  kind : WorkloadKind
  key : ObjectKey
  deriving DecidableEq

/-- corev1.Toleration. -/
structure Toleration where
  key : String := ""
  operator : String := ""
  value : String := ""
  effect : String := ""
  tolerationSeconds : Option Int := none
  deriving DecidableEq

/-- corev1.ResourceRequirements. -/
structure ResourceRequirements where
  limits : FiniteMap String String := ∅
  requests : FiniteMap String String := ∅
  deriving DecidableEq

/-- corev1.Affinity. -/
structure Affinity where
  serialised : String
  deriving DecidableEq

/-- v1alpha1.EnvoyProxyGracefulShutdown, with the drain timeout in whole seconds. -/
structure GracefulShutdown where
  disabled : Bool := false
  drainTimeout : Option Int := none
  terminationGracePeriodSeconds : Option Int := none
  shutdownManagerImage : String := ""
  deriving DecidableEq

/-- v1alpha1.EnvoyProxy, but for what the bootstrap is made from. -/
structure EnvoyProxy where
  useDaemonset : Bool := false
  replicas : Int := 3
  singlePodPerNode : Bool := false
  nodeSelector : Option (FiniteMap String String) := none
  tolerations : List Toleration := []
  resources : Option ResourceRequirements := none
  affinity : Option Affinity := none
  image : String := ""
  gracefulShutdown : Option GracefulShutdown := none
  deriving DecidableEq

/-- corev1.HTTPGetAction; the scheme is HTTP throughout. -/
structure HTTPGetAction where
  path : String
  port : Int
  deriving DecidableEq

/-- corev1.Probe, each with a timeout of one second and a success threshold of one. -/
structure Probe extends HTTPGetAction where
  periodSeconds : Int
  failureThreshold : Int
  timeoutSeconds : Int := 1
  successThreshold : Int := 1
  deriving DecidableEq

structure ContainerPort where
  name : String
  containerPort : Int
  protocol : Protocol := .tcp
  deriving DecidableEq

structure Container where
  name : String
  image : String
  command : List String := []
  args : List String := []
  ports : List ContainerPort := []
  resources : ResourceRequirements := {}
  startupProbe : Option Probe := none
  readinessProbe : Option Probe := none
  livenessProbe : Option Probe := none
  preStop : Option HTTPGetAction := none
  deriving DecidableEq

structure TopologySpreadConstraint where
  maxSkew : Int
  topologyKey : String
  whenUnsatisfiable : String
  matchLabels : FiniteMap String String
  deriving DecidableEq

/-- corev1.PodTemplateSpec, by the fields that are set. -/
structure PodTemplate where
  name : String
  ns : String
  labels : FiniteMap String String
  annotations : FiniteMap String String
  terminationGracePeriodSeconds : Option Int
  containers : List Container
  affinity : Option Affinity := none
  tolerations : List Toleration := []
  nodeSelector : Option (FiniteMap String String) := none
  topologySpreadConstraints : List TopologySpreadConstraint := []
  deriving DecidableEq

/-- A Deployment, or a DaemonSet, which has no replicas. -/
structure Workload where
  labels : FiniteMap String String
  replicas : Option Int
  selector : FiniteMap String String
  template : PodTemplate
  deriving DecidableEq

def envoyResourcePattern (appName : String) : String := "envoy-" ++ appName

def envoyImage : String := "envoyproxy/envoy:distroless-v1.36.4"
def envoyProxyContainerName : String := "envoy-proxy"
def shutdownManagerContainerName : String := "shutdown-manager"
def envoyStatsPort : Int := 19001
def envoyReadinessPort : Int := 19003
def envoyReadinessPath : String := "/ready"
def shutdownManagerPort : Int := 19002
def shutdownManagerHealthCheckPath : String := "/healthz"
def shutdownManagerReadyPath : String := "/shutdown/ready"
def defaultEnvoyDrainTimeout : Int := 60
def defaultEnvoyTerminationGracePeriod : Int := 300
def defaultShutdownManagerImage : String := "docker.io/envoyproxy/gateway:v1.3.0"
def labelAppKubernetesInstance : String := "app.kubernetes.io/instance"
def labelAppKubernetesManagedBy : String := "app.kubernetes.io/managed-by"

def EnvoyProxy.workloadKind (envoyProxy : EnvoyProxy) : WorkloadKind :=
  if envoyProxy.useDaemonset then .daemonSet else .deployment

/-- Graceful shutdown is on unless it is switched off. -/
def EnvoyProxy.gracefulShutdownEnabled (envoyProxy : EnvoyProxy) : Bool :=
  envoyProxy.gracefulShutdown.all fun shutdown => !shutdown.disabled

def EnvoyProxy.drainTimeout (envoyProxy : EnvoyProxy) : Int :=
  (envoyProxy.gracefulShutdown.bind GracefulShutdown.drainTimeout).getD defaultEnvoyDrainTimeout

def EnvoyProxy.terminationGracePeriod (envoyProxy : EnvoyProxy) : Int :=
  (envoyProxy.gracefulShutdown.bind GracefulShutdown.terminationGracePeriodSeconds).getD
    defaultEnvoyTerminationGracePeriod

def imageOr (configured default : String) : String :=
  if configured = "" then default else configured

def EnvoyProxy.shutdownManagerImage (envoyProxy : EnvoyProxy) : String :=
  imageOr ((envoyProxy.gracefulShutdown.map GracefulShutdown.shutdownManagerImage).getD "")
    defaultShutdownManagerImage

def envoyContainer (envoyProxy : EnvoyProxy) (bootstrap ns snapshotName : String) : Container :=
  let ready : HTTPGetAction := { path := envoyReadinessPath, port := envoyReadinessPort }
  { name := envoyProxyContainerName
    image := imageOr envoyProxy.image envoyImage
    args := ["--config-yaml", bootstrap, "--service-node", snapshotName, "--service-cluster", ns]
    ports :=
      [{ name := "readiness", containerPort := envoyReadinessPort },
        { name := "metrics", containerPort := envoyStatsPort }]
    resources := envoyProxy.resources.getD {}
    startupProbe := some ⟨ready, 10, 30, 1, 1⟩
    readinessProbe := some ⟨ready, 5, 1, 1, 1⟩
    livenessProbe := some ⟨ready, 10, 3, 1, 1⟩
    preStop :=
      if envoyProxy.gracefulShutdownEnabled then
        some { path := shutdownManagerReadyPath, port := shutdownManagerPort }
      else none }

def shutdownManagerContainer (envoyProxy : EnvoyProxy) : Container :=
  let health : HTTPGetAction :=
    { path := shutdownManagerHealthCheckPath, port := shutdownManagerPort }
  { name := shutdownManagerContainerName
    image := envoyProxy.shutdownManagerImage
    command := ["envoy-gateway"]
    args := ["envoy", "shutdown-manager",
      "--ready-timeout=" ++ toString (envoyProxy.drainTimeout + 10) ++ "s"]
    ports := [{ name := "shutdown", containerPort := shutdownManagerPort }]
    resources := { requests := insertAll ∅ [("cpu", "10m"), ("memory", "32Mi")] }
    startupProbe := some ⟨health, 10, 30, 1, 1⟩
    readinessProbe := some ⟨health, 10, 3, 1, 1⟩
    livenessProbe := some ⟨health, 10, 3, 1, 1⟩ }

def appLabels (appName : String) : FiniteMap String String :=
  (∅ : FiniteMap String String).insert labelAppKubernetesName appName

def spreadConstraint (appName : String) : TopologySpreadConstraint where
  maxSkew := 1
  topologyKey := "kubernetes.io/hostname"
  whenUnsatisfiable := "ScheduleAnyway"
  matchLabels := appLabels appName

def getEnvoyProxyPodSpec (envoyProxy : EnvoyProxy) (bootstrap ns appName snapshotName : String) :
    PodTemplate where
  name := appName
  ns := ns
  labels := (appLabels appName).insert labelAppKubernetesManagedBy "kubelb"
  annotations := insertAll ∅
    [("prometheus.io/scrape", "true"), ("prometheus.io/port", toString envoyStatsPort),
      ("prometheus.io/path", "/stats/prometheus")]
  terminationGracePeriodSeconds := some envoyProxy.terminationGracePeriod
  containers := envoyContainer envoyProxy bootstrap ns snapshotName ::
    if envoyProxy.gracefulShutdownEnabled then [shutdownManagerContainer envoyProxy] else []
  affinity := envoyProxy.affinity
  tolerations := envoyProxy.tolerations
  nodeSelector := envoyProxy.nodeSelector
  topologySpreadConstraints :=
    if envoyProxy.singlePodPerNode then [spreadConstraint appName] else []

def podTemplateSpecNeedsUpdate (original desired : PodTemplate) : Bool :=
  original.annotations ≠ desired.annotations ∨ original.labels ≠ desired.labels ∨
    original.terminationGracePeriodSeconds ≠ desired.terminationGracePeriodSeconds ∨
    original.containers ≠ desired.containers ∨ original.affinity ≠ desired.affinity ∨
    original.tolerations ≠ desired.tolerations ∨ original.nodeSelector ≠ desired.nodeSelector ∨
    original.topologySpreadConstraints ≠ desired.topologySpreadConstraints

structure EnvoyWorld where
  config : EnvoyProxy
  lbs : List LoadBalancer
  routes : List Route
  workloads : FiniteMap WorkloadId Workload
  allocator : PortAllocator
  cache : FiniteMap String Snapshot

/-- What one reconcile meets; `none` is a request that succeeds. -/
structure EnvoyEnv where
  getConfig : Option String := none
  list : Option String := none
  workloads : ApiFaults := {}
  bootstrap : String := ""
  draws : List Draw := []
  addresses : ObjectKey → Except String (List EndpointAddress) := fun _ => .ok []

abbrev EnvoyProgram := Program EnvoyWorld String

def desiredWorkload (envoyProxy : EnvoyProxy) (appName : String) (template : PodTemplate)
    (labels : FiniteMap String String) : Workload where
  labels := labels
  replicas := if envoyProxy.useDaemonset then none else some envoyProxy.replicas
  selector := appLabels appName
  template := template

def workloadLabels (appName : String) : FiniteMap String String :=
  insertAll ∅
    [(labelAppKubernetesName, "kubelb-envoy-proxy"), (labelAppKubernetesInstance, appName),
      (labelAppKubernetesManagedBy, "kubelb")]

def ensureEnvoyProxy (env : EnvoyEnv) (envoyProxy : EnvoyProxy)
    (ns appName snapshotName : String) : EnvoyProgram Unit := do
  let workload : WorkloadId := ⟨envoyProxy.workloadKind, ⟨ns, envoyResourcePattern appName⟩⟩
  let template := getEnvoyProxyPodSpec envoyProxy env.bootstrap ns appName snapshotName
  let failed (err : String) := "failed to update Envoy proxy: " ++ err
  attempt ((env.workloads.get workload.key).map failed)
  let stored ← read fun world => world.workloads.lookup workload
  match stored with
  | none => do
      attempt ((env.workloads.create workload.key).map failed)
      write fun world => { world with
        workloads := world.workloads.insert workload
          (desiredWorkload envoyProxy appName template (workloadLabels appName)) }
  | some existing =>
      if podTemplateSpecNeedsUpdate existing.template template then do
        attempt ((env.workloads.update workload.key).map fun err =>
          failed ("failed to update envoy proxy: " ++ err))
        write fun world => { world with
          workloads := world.workloads.insert workload
            (desiredWorkload envoyProxy appName template existing.labels) }
      else pure ()

def cleanupEnvoyProxy (env : EnvoyEnv) (envoyProxy : EnvoyProxy) (appName ns : String) :
    EnvoyProgram Unit := do
  let workload : WorkloadId := ⟨envoyProxy.workloadKind, ⟨ns, envoyResourcePattern appName⟩⟩
  attempt ((env.workloads.delete workload.key).map fun err =>
    "failed to delete envoy proxy " ++ workload.key.name ++ ": " ++ err)
  write fun world => { world with workloads := world.workloads.erase workload }

def publishSnapshot (env : EnvoyEnv) (snapshotName : String) (lbs : List LoadBalancer)
    (routes : List Route) : EnvoyProgram Unit := do
  let allocated ← (read fun world =>
    envoyAllocate world.allocator lbs routes env.draws) >>= ofOption
  write fun world => { world with allocator := allocated.1 }
  let desired ← ofExcept (mapSnapshot env.addresses lbs routes allocated.1)
  write fun world => { world with
    cache := ((updateCache (world.cache.lookup snapshotName) (.ok desired)).elim world.cache
      (world.cache.insert snapshotName)) }

def envoyNamespace (topology : EnvoyProxyTopology) (managerNs requestNs : String) : String :=
  if topology.isGlobalTopology then managerNs else requestNs

/-- Reconcile for a request in the namespace. Snapshot and application have one name. -/
def reconcileEnvoy (topology : EnvoyProxyTopology) (managerNs : String) (env : EnvoyEnv)
    (requestNs : String) : EnvoyProgram Unit := do
  attempt (env.getConfig.map ("failed to retrieve config: " ++ ·))
  let envoyProxy ← read EnvoyWorld.config
  let appName := envoyApplicationName topology requestNs
  attempt (env.list.map ("failed to list LoadBalancers and Routes: " ++ ·))
  let listed ← read fun world =>
    listLoadBalancersAndRoutes topology requestNs world.lbs world.routes
  let ns := envoyNamespace topology managerNs requestNs
  if listed.1 = [] ∧ listed.2 = [] then
    write fun world => { world with cache := world.cache.erase appName }
    cleanupEnvoyProxy env envoyProxy appName ns
  else
    ensureEnvoyProxy env envoyProxy ns appName appName
    publishSnapshot env appName listed.1 listed.2

end KubeLB
