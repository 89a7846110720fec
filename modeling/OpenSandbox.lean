import OpenSandbox.ClientPool.Filling
import OpenSandbox.Egress.Fleet.Activation
import OpenSandbox.Egress.Fleet.Gateway
import OpenSandbox.Egress.Fleet.Pending
import OpenSandbox.Egress.Fleet.Rebind
import OpenSandbox.Egress.Fleetnft.Isolation
import OpenSandbox.Egress.Fleetnft.Rebuild
import OpenSandbox.Egress.Mitm.HostPolicy
import OpenSandbox.Egress.Mitm.Literals
import OpenSandbox.Egress.Mitm.Substitute
import OpenSandbox.Egress.Nftables.Agreement
import OpenSandbox.Egress.PolicyServer.Convergence
import OpenSandbox.Egress.RegistryDispatch
import OpenSandbox.Egress.SlotStream
import OpenSandbox.Egress.SubjectMirror
import OpenSandbox.Egress.Vault.Revision
import OpenSandbox.Ingress.Endpoint
import OpenSandbox.Ingress.Route
import OpenSandbox.Ingress.Throttle
import OpenSandbox.Kubernetes.BatchSandbox.PausedData
import OpenSandbox.Kubernetes.BatchSandbox.SourcePod
import OpenSandbox.Kubernetes.Pool.Finalizer
import OpenSandbox.Kubernetes.Pool.Recovery
import OpenSandbox.Kubernetes.Pool.Recycling
import OpenSandbox.Kubernetes.Pool.Scaling
import OpenSandbox.Kubernetes.Pool.StaleReads
import OpenSandbox.Kubernetes.Restart
import OpenSandbox.Kubernetes.TaskExecutor.Tracking
import OpenSandbox.NodeAgent.Checkpoints
import OpenSandbox.NodeAgent.Pipeline.Order
import OpenSandbox.NodeAgent.State.Reopen
import OpenSandbox.Server.AccessRenewal
import OpenSandbox.Server.Docker.Metadata
import OpenSandbox.Supervisor
