import KubeLB.AnnotationLoops
import KubeLB.AnnotationPrecedence
import KubeLB.Annotations
import KubeLB.Ccm.Copies
import KubeLB.Ccm.CopyRequests
import KubeLB.Ccm.Eligibility
import KubeLB.Ccm.Enqueue
import KubeLB.Ccm.Finalizers
import KubeLB.Ccm.Layer7
import KubeLB.Ccm.Nodes
import KubeLB.Ccm.Replication
import KubeLB.Ccm.RouteCopies
import KubeLB.Ccm.Service
import KubeLB.Ccm.ServiceCopies
import KubeLB.Ccm.SharedReplicas
import KubeLB.Ccm.SkippedUpdates
import KubeLB.Ccm.SyncSecretCopies
import KubeLB.Ccm.UserServices
import KubeLB.Envoy.AddressCache
import KubeLB.Envoy.Addresses
import KubeLB.Envoy.ControlPlane
import KubeLB.Envoy.FirstReader
import KubeLB.Envoy.ListingOrder
import KubeLB.Envoy.LoadBalancerResources
import KubeLB.Envoy.Proxy
import KubeLB.Envoy.Resolution
import KubeLB.Envoy.ResourceNames
import KubeLB.Envoy.Snapshot
import KubeLB.Envoy.StaticPorts
import KubeLB.Envoy.WorkloadUpdates
import KubeLB.Envoy.Workloads
import KubeLB.Foundation.Base64
import KubeLB.Foundation.Custody
import KubeLB.Foundation.Dns
import KubeLB.Foundation.Fallible
import KubeLB.Foundation.FiniteMap
import KubeLB.Foundation.Heap
import KubeLB.Foundation.Informer
import KubeLB.Foundation.Joined
import KubeLB.Foundation.LastMatch
import KubeLB.Foundation.Ledger
import KubeLB.Foundation.MapLoop
import KubeLB.Foundation.Program
import KubeLB.Foundation.Recording
import KubeLB.Foundation.Recurrence
import KubeLB.Foundation.Reordering
import KubeLB.Foundation.Runs
import KubeLB.Foundation.Utf8
import KubeLB.Foundation.Watch
import KubeLB.Gateway
import KubeLB.GeneratedNames
import KubeLB.LoadBalancer.AnnotationMap
import KubeLB.LoadBalancer.Controller
import KubeLB.LoadBalancer.ControllerSpec
import KubeLB.LoadBalancer.Disabling
import KubeLB.LoadBalancer.Effects
import KubeLB.LoadBalancer.GeneratedHostnames
import KubeLB.LoadBalancer.Hostname
import KubeLB.LoadBalancer.HostnameGrammar
import KubeLB.LoadBalancer.HostnameRuns
import KubeLB.LoadBalancer.IndexBounds
import KubeLB.LoadBalancer.Mapping
import KubeLB.LoadBalancer.NodePorts
import KubeLB.LoadBalancer.Restart
import KubeLB.LoadBalancer.Service
import KubeLB.Manager.Agreement
import KubeLB.Manager.Cleanup
import KubeLB.Manager.EndToEnd
import KubeLB.Manager.Ports
import KubeLB.Manager.Process
import KubeLB.Manager.ProcessSpec
import KubeLB.Manager.Provenance
import KubeLB.Manager.Replicas
import KubeLB.Manager.Reuse
import KubeLB.Manager.SnapshotWatches
import KubeLB.Manager.StatusWatches
import KubeLB.Manager.Transitions
import KubeLB.Names
import KubeLB.Objects
import KubeLB.PortLookup.Allocator
import KubeLB.PortLookup.AllocatorRuns
import KubeLB.PortLookup.AllocatorSpec
import KubeLB.PortLookup.Isolation
import KubeLB.PortLookup.LoadState
import KubeLB.PortLookup.Loading
import KubeLB.PortLookup.Mapper
import KubeLB.PortLookup.Reassignment
import KubeLB.PortLookup.Release
import KubeLB.PortLookup.Termination
import KubeLB.Resources
import KubeLB.Resources.AnnotationConvergence
import KubeLB.Resources.BackendRefs
import KubeLB.Resources.CreateOrUpdate
import KubeLB.Resources.IngressBackends
import KubeLB.Resources.IngressNames
import KubeLB.Resources.IngressParts
import KubeLB.Resources.Mirrors
import KubeLB.Resources.RewriteSpec
import KubeLB.Resources.RuleSpec
import KubeLB.Route.BackendRuns
import KubeLB.Route.Backends
import KubeLB.Route.Bridge
import KubeLB.Route.BridgeRuns
import KubeLB.Route.Controller
import KubeLB.Route.Disabling
import KubeLB.Route.EndToEnd
import KubeLB.Route.Evolution
import KubeLB.Route.IterationOrder
import KubeLB.Route.NameCollisions
import KubeLB.Route.OrphanCleanup
import KubeLB.Route.Orphans
import KubeLB.Route.Reconcile
import KubeLB.Route.Release
import KubeLB.Route.Remembered
import KubeLB.Route.Rerun
import KubeLB.Route.Restart
import KubeLB.Route.Rewriting
import KubeLB.Route.Services
import KubeLB.Route.ServicesSpec
import KubeLB.Route.Sharing
import KubeLB.Route.Source
import KubeLB.Route.SourceSpec
import KubeLB.Route.Status
import KubeLB.Route.StatusPipeline
import KubeLB.Secrets
import KubeLB.Secrets.Delivery
import KubeLB.Tenant.Controller
import KubeLB.Tenant.Kubeconfig
import KubeLB.Tenant.Lifecycle
