import ClusterOperator.Controller.Acceptance
import ClusterOperator.Controller.Annotations
import ClusterOperator.Controller.Availability
import ClusterOperator.Controller.Carried
import ClusterOperator.Controller.Children
import ClusterOperator.Controller.ClaimSharing
import ClusterOperator.Controller.ClaimTemplates
import ClusterOperator.Controller.Commands
import ClusterOperator.Controller.ConfigHistory
import ClusterOperator.Controller.Credentials
import ClusterOperator.Controller.DefaultUser
import ClusterOperator.Controller.Dependencies
import ClusterOperator.Controller.Exposure
import ClusterOperator.Controller.FailureReports
import ClusterOperator.Controller.Finalizer
import ClusterOperator.Controller.Installation
import ClusterOperator.Controller.Mounts
import ClusterOperator.Controller.ObservedGeneration
import ClusterOperator.Controller.Ownership
import ClusterOperator.Controller.PluginNames
import ClusterOperator.Controller.Pointers
import ClusterOperator.Controller.QuorumStatus
import ClusterOperator.Controller.Recreation
import ClusterOperator.Controller.ReplicaCount
import ClusterOperator.Controller.ReplicaHistory
import ClusterOperator.Controller.RestartOrder
import ClusterOperator.Controller.SharedStatus
import ClusterOperator.Controller.SingleRestart
import ClusterOperator.Controller.StatusPatches
import ClusterOperator.Interaction.Rounds
import ClusterOperator.Kubectl.EnvConfig
import ClusterOperator.RabbitmqClient.Reachability
import ClusterOperator.Resource.ConnectionString
import ClusterOperator.Resource.EnvOrder
import ClusterOperator.Resource.MountOrder
import ClusterOperator.Resource.NodePorts
import ClusterOperator.Resource.RestartFlag
import ClusterOperator.Resource.ScaleOut
import ClusterOperator.Resource.UserConfiguration
import ClusterOperator.Resource.VaultHistory
import ClusterOperator.Scaling.Resumption
import ClusterOperator.Status.MemoryWarning
import ClusterOperator.Status.Transitions
import ClusterOperator.Webhook.Admission
import ClusterOperator.Webhook.Hardening
