import KubeLB.Foundation.Program
import KubeLB.LoadBalancer.AnnotationMap
import KubeLB.Manager.Process
import KubeLB.Resources

/-!
Reconcile of the LoadBalancer controller for one LoadBalancer, from the finalizer to
the hostname and the status, and its cleanup
(internal/controllers/kubelb/loadbalancer_controller.go).

Here a reconcile is one program on the objects it writes. What it meets is in
`LoadBalancerEnv`; an index out of range is a panic. The LoadBalancer in memory has
the annotations that PropagateAnnotations wrote into its map, and an Update stores
them. An Ingress or an HTTPRoute is stored as it is written.
-/

namespace KubeLB
open FiniteMap Program

/-- A LoadBalancer and the objects of the LB cluster that its reconcile may touch. -/
structure LoadBalancerWorld where
  lb : LoadBalancer
  services : ServiceStore
  ingresses : FiniteMap ObjectKey Ingress
  httpRoutes : FiniteMap ObjectKey HTTPRoute
  allocator : PortAllocator

/-- What one reconcile meets; `none` is a request that succeeds. -/
structure LoadBalancerEnv where
  get : Option String := none
  list : Option String := none
  lbs : List LoadBalancer := []
  tenantAndConfig : Except String (TenantSpec × ConfigSpec) := .ok ({}, {})
  /-- The Update of the LoadBalancer for the cleanup finalizer. -/
  update : Option String := none
  draws : List Draw := []
  services : ApiFaults := {}
  admission : Admission := .verbatim
  getService : Option String := none
  updateStatus : Option String := none
  /-- The Update of the LoadBalancer for the hostname finalizer. -/
  updateHostname : Option String := none
  hostnameDraw : HostnameDraw := { randomBytes := none }
  ingresses : ApiFaults := {}
  httpRoutes : ApiFaults := {}
  /-- The manager was started with --enable-gateway-api. -/
  enableGatewayAPI : Bool := false
  checkDNSResolution : String → Bool := fun _ => false
  checkTLSHealth : String → Bool := fun _ => false
  patchStatus : Option String := none

/-- Without the Gateway API the client does not know the type, and no request for an
HTTPRoute gets as far as the API server. -/
def LoadBalancerEnv.httpRouteFaults (env : LoadBalancerEnv) : ApiFaults :=
  if env.enableGatewayAPI then env.httpRoutes
  else
    let unknown (_ : ObjectKey) : Option String :=
      some "no kind is registered for the type v1.HTTPRoute in scheme"
    { get := unknown, create := unknown, update := unknown, delete := unknown }

inductive LoadBalancerResult
  | skipped
  | cleanedUp
  | reconciled (hostname : String)

abbrev LoadBalancerProgram := Program LoadBalancerWorld String

def resourceNamespace (o : ManagerOptions) (lb : LoadBalancer) : String :=
  match o.topology with
  | .shared => lb.ns
  | .global => o.ns
  | .dedicated => ""

def hostnameIngressKey (ns : String) (lb : LoadBalancer) : ObjectKey := ⟨ns, lb.name ++ "-ingress"⟩

def hostnameHTTPRouteKey (ns : String) (lb : LoadBalancer) : ObjectKey :=
  ⟨ns, lb.name ++ "-httproute"⟩

/-- The errors of the requests for objects of one kind, as they are wrapped. -/
def wrapped (verb kind : String) (fault : Option String) : Option String :=
  fault.map fun err => "failed to " ++ verb ++ " " ++ kind ++ ": " ++ err

/-- The end of CreateIngressForHostname and of CreateHTTPRouteForHostname: the object
as it is stored after the call. -/
def createForHostname {α : Type} [DecidableEq α] (kind : String) (faults : ApiFaults)
    (key : ObjectKey) (existing : Option (ObjectMeta × α)) (desired : ObjectMeta × α) :
    Except String (ObjectMeta × α) :=
  match wrapped "get" kind (faults.get key), existing with
  | some err, _ => .error err
  | none, none =>
      match wrapped "create" kind (faults.create key) with
      | some err => .error err
      | none => .ok desired
  | none, some (object, spec) =>
      let merged := mergeAnnotations (readBack object.annotations) (some desired.1.annotations)
      if spec ≠ desired.2 ∨ object.labels ≠ desired.1.labels ∨
          compareAnnotations (readBack object.annotations) merged = false then
        match wrapped "update" kind (faults.update key) with
        | some err => .error err
        | none =>
            .ok ({ object with labels := desired.1.labels, annotations := merged.getD ∅ },
              desired.2)
      else .ok (object, spec)

def hostnameLabels (lb : LoadBalancer) : FiniteMap String String :=
  insertAll ∅ [(labelLoadBalancerName, lb.name), (labelLoadBalancerNamespace, lb.ns)]

def hostnameIngressSpec (svcName hostname : String) (port : Int) (name : String)
    (ingressClass : Option String) : IngressSpec where
  ingressClassName := ingressClass
  rules := [
    { host := hostname
      http := some [
        { path := "/", backend := { service := some { name := svcName, port := port } } }] }]
  tls := [{ hosts := [hostname], secretName := name ++ "-tls" }]

def createIngressForHostname (env : LoadBalancerEnv) (lb : LoadBalancer) (svcName hostname : String)
    (tenant : TenantSpec) (config : ConfigSpec) (settings : AnnotationSettings) :
    LoadBalancerProgram Unit := do
  let key := hostnameIngressKey lb.ns lb
  let port ← ofOption lb.spec.ports.head?
  let annotations := addDNSAndCertificateAnnotations
    (propagateAnnotations lb.annotations settings .ingress) tenant config hostname false
  let object : ObjectMeta :=
    { name := key.name, ns := key.ns, labels := hostnameLabels lb, annotations := annotations }
  let spec := hostnameIngressSpec svcName hostname port.port key.name
    (tenant.ingressClass <|> config.ingressClass)
  let existing ← read fun world =>
    (world.ingresses.lookup key).map fun ingress => (ingress.toObjectMeta, ingress.spec)
  let (object, spec) ← ofExcept
    (createForHostname "ingress" env.ingresses key existing (object, spec))
  write fun world => { world with ingresses := world.ingresses.insert key ⟨object, spec⟩ }

def hostnameParent (gateway : ObjectKey) : ParentReference where
  name := gateway.name
  ns := if gateway.ns ≠ "" then some gateway.ns else none

def hostnameHTTPRouteSpec (svcName hostname : String) (port : Int) (gateway : ObjectKey) :
    GatewayRouteSpec where
  parentRefs := [hostnameParent gateway]
  hostnames := [hostname]
  rules := [{ backendRefs := [{ name := svcName, port := some port, kind := some serviceKind }] }]

def createHTTPRouteForHostname (env : LoadBalancerEnv) (lb : LoadBalancer)
    (svcName hostname : String) (tenant : TenantSpec) (config : ConfigSpec)
    (settings : AnnotationSettings) : LoadBalancerProgram Unit :=
  match tenant.gatewayAPI.defaultGateway <|> config.gatewayAPI.defaultGateway with
  | none => fail "no default gateway specified for tenant or config"
  | some gateway => do
      let key := hostnameHTTPRouteKey lb.ns lb
      let port ← ofOption lb.spec.ports.head?
      let annotations := addDNSAndCertificateAnnotations
        (propagateAnnotations lb.annotations settings .httpRoute) tenant config hostname true
      let object : ObjectMeta :=
        { name := key.name, ns := key.ns, labels := hostnameLabels lb, annotations := annotations }
      let spec := hostnameHTTPRouteSpec svcName hostname port.port gateway
      let existing ← read fun world =>
        (world.httpRoutes.lookup key).map fun route => (route.toObjectMeta, route.spec)
      let (object, spec) ← ofExcept
        (createForHostname "httproute" env.httpRouteFaults key existing (object, spec))
      write fun world => { world with httpRoutes := world.httpRoutes.insert key ⟨object, spec⟩ }

def useGatewayAPI (tenant : TenantSpec) (config : ConfigSpec) : Bool :=
  tenant.gatewayAPI.disable = false ∧ config.gatewayAPI.disable = false ∧
    (tenant.gatewayAPI.className.isSome ∨ config.gatewayAPI.className.isSome)

def recordedHostname (lb : LoadBalancer) : String :=
  (lb.status.hostname.map HostnameStatus.hostname).getD ""

def newHostname (env : LoadBalancerEnv) (lb : LoadBalancer) (tenant : TenantSpec)
    (config : ConfigSpec) : String :=
  if lb.spec.hostname ≠ "" then lb.spec.hostname
  else generateHostname tenant.dns config.dns env.hostnameDraw

/-- The first half of configureHostname: the hostname, with the LoadBalancer in memory
after it was recorded. -/
def recordHostname (env : LoadBalancerEnv) (lb : LoadBalancer) (tenant : TenantSpec)
    (config : ConfigSpec) : LoadBalancerProgram (String × LoadBalancer) :=
  if recordedHostname lb ≠ "" then pure (recordedHostname lb, lb)
  else
    let hostname := newHostname env lb tenant config
    if hostname = "" then pure ("", lb)
    else do
      let status := { lb.status with hostname := some { hostname := hostname } }
      attempt (env.updateStatus.map ("failed to update LoadBalancer status: " ++ ·))
      write fun world => { world with lb := { world.lb with status := status } }
      return (hostname, { lb with status := status })

/-- The hostname finalizer. The Update stores the LoadBalancer as it is in memory. -/
def addHostnameFinalizer (env : LoadBalancerEnv) (lb : LoadBalancer) :
    LoadBalancerProgram LoadBalancer :=
  if hostnameCleanupFinalizer ∈ lb.finalizers then pure lb
  else do
    let marked := { lb with finalizers := addFinalizer lb.finalizers hostnameCleanupFinalizer }
    attempt (env.updateHostname.map ("failed to add hostname finalizer: " ++ ·))
    write fun world => { world with lb := marked }
    return marked

/-- configureHostname: the hostname, and the LoadBalancer in memory after the call. -/
def configureHostname (env : LoadBalancerEnv) (lb : LoadBalancer) (svcName : String)
    (tenant : TenantSpec) (config : ConfigSpec) (settings : AnnotationSettings) :
    LoadBalancerProgram (String × LoadBalancer) := do
  let (hostname, lb) ← recordHostname env lb tenant config
  if hostname = "" then return ("", lb)
  else
    let lb ← addHostnameFinalizer env lb
    if useGatewayAPI tenant config then
      createHTTPRouteForHostname env lb svcName hostname tenant config settings
      return (hostname, lb)
    else
      createIngressForHostname env lb svcName hostname tenant config settings
      return (hostname, lb)

def storeStatus (env : LoadBalancerEnv) (lb : LoadBalancer) (service : Service)
    (hostname : String) : LoadBalancerProgram Unit := do
  let status ← ofOption
    (updateLoadBalancerStatus env.checkDNSResolution env.checkTLSHealth lb service hostname)
  if status = lb.status then return ()
  else
    attempt env.patchStatus
    write fun world => { world with lb := { world.lb with status := status } }

def addCleanupFinalizer (env : LoadBalancerEnv) (lb : LoadBalancer) :
    LoadBalancerProgram LoadBalancer :=
  if cleanupFinalizer ∈ lb.finalizers then pure lb
  else do
    attempt (env.update.map ("failed to add finalizer: " ++ ·))
    write fun world => { world with lb := withFinalizer lb }
    return withFinalizer lb

/-- The Service of the LoadBalancer as it is after reconcileService. -/
def applyService (o : ManagerOptions) (env : LoadBalancerEnv) (lb : LoadBalancer)
    (className : Option String) (settings : AnnotationSettings) : LoadBalancerProgram Service := do
  let key := loadBalancerServiceKey o.topology o.ns lb
  let (allocator, _) ← (read fun world =>
      world.allocator.allocatePortsForLoadBalancers env.lbs env.draws) >>= ofOption
  write fun world => { world with allocator := allocator }
  let store ← read LoadBalancerWorld.services
  let written ← ofOption (reconcileService env.services env.admission store lb key
    (envoyApplicationName o.topology lb.ns) allocator className settings)
  let store ← ofExcept written
  write fun world => { world with services := store }
  attempt env.getService
  ofExcept ((store.lookup key).elim (.error "not found") .ok)

/-- The LoadBalancer in memory after its Service was built: the defaults for Services
may have been written into its annotations. -/
def annotatedInMemory (lb : LoadBalancer) (settings : AnnotationSettings) : LoadBalancer :=
  { lb with annotations :=
      (extendedAnnotations (readBack lb.annotations) settings .service).getD ∅ }

def manageLoadBalancer (o : ManagerOptions) (env : LoadBalancerEnv) (lb : LoadBalancer)
    (tenant : TenantSpec) (config : ConfigSpec) : LoadBalancerProgram LoadBalancerResult := do
  let settings := getAnnotations tenant.toAnnotationSettings config.toAnnotationSettings
  let lb ← addCleanupFinalizer env lb
  let service ← applyService o env lb (tenant.loadBalancerClass <|> config.loadBalancerClass)
    settings
  let lb := annotatedInMemory lb settings
  if shouldConfigureHostname lb.annotations lb.spec.hostname tenant config then
    let (hostname, lb) ← configureHostname env lb
      (loadBalancerServiceKey o.topology o.ns lb).name tenant config settings
    storeStatus env lb service hostname
    return .reconciled hostname
  else
    storeStatus env lb service ""
    return .reconciled ""

/-- cleanupHostnameResources. A Delete of an object that is not there is no error. -/
def cleanupHostnameResources (env : LoadBalancerEnv) (lb : LoadBalancer) (ns : String) :
    LoadBalancerProgram Unit := do
  let ingressKey := hostnameIngressKey ns lb
  attempt ((env.ingresses.delete ingressKey).map fun err =>
    "failed to delete ingress " ++ ingressKey.name ++ ": " ++ err)
  write fun world => { world with ingresses := world.ingresses.erase ingressKey }
  let httpRouteKey := hostnameHTTPRouteKey ns lb
  attempt ((env.httpRouteFaults.delete httpRouteKey).map fun err =>
    "failed to delete httproute " ++ httpRouteKey.name ++ ": " ++ err)
  write fun world => { world with httpRoutes := world.httpRoutes.erase httpRouteKey }

/-- The resources of the hostname are looked for only behind their finalizer. -/
def cleanupMarkedHostname (env : LoadBalancerEnv) (lb : LoadBalancer) (ns : String) :
    LoadBalancerProgram Unit :=
  if hostnameCleanupFinalizer ∈ lb.finalizers then cleanupHostnameResources env lb ns
  else pure ()

def cleanupLoadBalancer (o : ManagerOptions) (env : LoadBalancerEnv) (lb : LoadBalancer) :
    LoadBalancerProgram LoadBalancerResult := do
  write fun world =>
    { world with allocator := world.allocator.deallocatePortsForLoadBalancer lb }
  cleanupMarkedHostname env lb (resourceNamespace o lb)
  let key := loadBalancerServiceKey o.topology o.ns lb
  attempt ((env.services.delete key).map fun err =>
    "failed to delete service " ++ key.name ++ ": " ++ lb.name ++ "/" ++ lb.ns ++
      " against LoadBalancer " ++ err)
  write fun world => { world with services := world.services.erase key }
  attempt (env.update.map ("failed to remove finalizer: " ++ ·))
  write fun world => { world with lb := withoutFinalizers lb }
  return .cleanedUp

def reconcileLoadBalancer (o : ManagerOptions) (env : LoadBalancerEnv) :
    LoadBalancerProgram LoadBalancerResult := do
  let lb ← read LoadBalancerWorld.lb
  if env.get.isSome ∨ lb.spec.endpoints = [] then return .skipped
  else
    attempt env.list
    if lb.deletionTimestamp then
      if ∃ finalizer ∈ cleanupFinalizers, finalizer ∈ lb.finalizers then
        cleanupLoadBalancer o env lb
      else return .skipped
    else
      let (tenant, config) ← ofExcept env.tenantAndConfig
      if config.loadBalancerDisable || tenant.loadBalancerDisable then
        if cleanupFinalizer ∈ lb.finalizers then cleanupLoadBalancer o env lb
        else return .skipped
      else manageLoadBalancer o env lb tenant config

end KubeLB
