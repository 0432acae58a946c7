import ClusterOperator.Keyed.Merge
import ClusterOperator.Kubernetes.Objects

/-! What the operator relies on in `strategicpatch.StrategicMergePatch` for pod specs:
lists are merged by key, everything else field by field, and the patch wins. -/

namespace ClusterOperator.Resource

open Kubernetes Keyed

section Fields

variable {α : Type}

def mergeField (original patch : Option α) : Option α := patch.or original

def mergeOption (merge : α → α → α) : Option α → Option α → Option α
  | some original, some patch => some (merge original patch)
  | original, patch => patch.or original

def mergeString (original patch : String) : String := if patch = "" then original else patch

def mergeList (original patch : List α) : List α := if patch.isEmpty then original else patch

def mergeNat (original patch : ℕ) : ℕ := if patch = 0 then original else patch

end Fields

def mergeCapabilities (original patch : Capabilities) : Capabilities where
  add := mergeField original.add patch.add
  drop := mergeField original.drop patch.drop

def mergeSecurityContext (original patch : SecurityContext) : SecurityContext where
  privileged := mergeField original.privileged patch.privileged
  allowPrivilegeEscalation := mergeField original.allowPrivilegeEscalation patch.allowPrivilegeEscalation
  runAsUser := mergeField original.runAsUser patch.runAsUser
  runAsGroup := mergeField original.runAsGroup patch.runAsGroup
  runAsNonRoot := mergeField original.runAsNonRoot patch.runAsNonRoot
  readOnlyRootFilesystem := mergeField original.readOnlyRootFilesystem patch.readOnlyRootFilesystem
  capabilities := mergeOption mergeCapabilities original.capabilities patch.capabilities
  seccompProfile := mergeField original.seccompProfile patch.seccompProfile
  others := original.others.merge patch.others

def mergePodSecurityContext (original patch : PodSecurityContext) : PodSecurityContext where
  runAsUser := mergeField original.runAsUser patch.runAsUser
  runAsGroup := mergeField original.runAsGroup patch.runAsGroup
  runAsNonRoot := mergeField original.runAsNonRoot patch.runAsNonRoot
  fsGroup := mergeField original.fsGroup patch.fsGroup
  seccompProfile := mergeField original.seccompProfile patch.seccompProfile
  others := original.others.merge patch.others

-- the ports of the actions are always sent
def mergeHTTPGetAction (original patch : HTTPGetAction) : HTTPGetAction where
  path := mergeString original.path patch.path
  port := patch.port
  host := mergeString original.host patch.host
  scheme := mergeString original.scheme patch.scheme
  httpHeaders := mergeList original.httpHeaders patch.httpHeaders

def mergeTCPSocketAction (original patch : TCPSocketAction) : TCPSocketAction where
  port := patch.port
  host := mergeString original.host patch.host

/-- An action of the patch stands beside one of another kind. -/
def mergeProbe (original patch : Probe) : Probe where
  exec := mergeOption mergeList original.exec patch.exec
  httpGet := mergeOption mergeHTTPGetAction original.httpGet patch.httpGet
  tcpSocket := mergeOption mergeTCPSocketAction original.tcpSocket patch.tcpSocket
  grpc := mergeField original.grpc patch.grpc
  initialDelaySeconds := mergeNat original.initialDelaySeconds patch.initialDelaySeconds
  timeoutSeconds := mergeNat original.timeoutSeconds patch.timeoutSeconds
  periodSeconds := mergeNat original.periodSeconds patch.periodSeconds
  successThreshold := mergeNat original.successThreshold patch.successThreshold
  failureThreshold := mergeNat original.failureThreshold patch.failureThreshold
  terminationGracePeriodSeconds :=
    mergeField original.terminationGracePeriodSeconds patch.terminationGracePeriodSeconds

def mergeEnvVar (original patch : EnvVar) : EnvVar where
  name := original.name
  value := mergeString original.value patch.value
  fieldPath := mergeField original.fieldPath patch.fieldPath

def mergeVolumeMount (original patch : VolumeMount) : VolumeMount where
  name := mergeString original.name patch.name
  mountPath := original.mountPath
  subPath := mergeString original.subPath patch.subPath
  readOnly := original.readOnly || patch.readOnly

def mergeContainerPort (original patch : ContainerPort) : ContainerPort where
  name := mergeString original.name patch.name
  containerPort := original.containerPort

def mergeContainer (original patch : Container) : Container where
  name := original.name
  image := mergeString original.image patch.image
  command := mergeList original.command patch.command
  args := mergeList original.args patch.args
  ports := mergeInOrder ContainerPort.containerPort mergeContainerPort original.ports patch.ports
  memory := ⟨mergeField original.memory.limit patch.memory.limit,
    mergeField original.memory.request patch.memory.request⟩
  env := mergeOption (mergeInOrder EnvVar.name mergeEnvVar) original.env patch.env
  volumeMounts := mergeOption (mergeInOrder VolumeMount.mountPath mergeVolumeMount) original.volumeMounts
    patch.volumeMounts
  livenessProbe := mergeOption mergeProbe original.livenessProbe patch.livenessProbe
  readinessProbe := mergeOption mergeProbe original.readinessProbe patch.readinessProbe
  startupProbe := mergeOption mergeProbe original.startupProbe patch.startupProbe
  securityContext := mergeOption mergeSecurityContext original.securityContext patch.securityContext

lemma mergeContainer_name (original patch : Container) : (mergeContainer original patch).name = original.name := rfl

/-- A patch of pod specs. In which order merged lists come out is left open. -/
structure StrategicMergePatch where
  podSpec : PodSpec → PodSpec → PodSpec
  containers : ∀ original patch, (podSpec original patch).containers.Perm
    (mergeBy Container.name mergeContainer original.containers patch.containers)
  initContainers : ∀ original patch, (podSpec original patch).initContainers.Perm
    (mergeBy Container.name mergeContainer original.initContainers patch.initContainers)
  volumes : ∀ original patch, (podSpec original patch).volumes.Perm
    (mergeBy Volume.name (fun _ v => v) original.volumes patch.volumes)
  securityContext : ∀ original patch, (podSpec original patch).securityContext =
    mergeOption mergePodSecurityContext original.securityContext patch.securityContext
  hostPID : ∀ original patch, (podSpec original patch).hostPID = (original.hostPID || patch.hostPID)
  hostNetwork : ∀ original patch,
    (podSpec original patch).hostNetwork = (original.hostNetwork || patch.hostNetwork)
  hostIPC : ∀ original patch, (podSpec original patch).hostIPC = (original.hostIPC || patch.hostIPC)
  serviceAccountName : ∀ original patch, (podSpec original patch).serviceAccountName =
    mergeString original.serviceAccountName patch.serviceAccountName
  automountServiceAccountToken : ∀ original patch, (podSpec original patch).automountServiceAccountToken =
    mergeField original.automountServiceAccountToken patch.automountServiceAccountToken

def strategicMergePatch : StrategicMergePatch where
  podSpec original patch :=
    { containers := mergeInOrder Container.name mergeContainer original.containers patch.containers
      initContainers := mergeInOrder Container.name mergeContainer original.initContainers patch.initContainers
      volumes := mergeInOrder Volume.name (fun _ v => v) original.volumes patch.volumes
      hostPID := original.hostPID || patch.hostPID
      hostNetwork := original.hostNetwork || patch.hostNetwork
      hostIPC := original.hostIPC || patch.hostIPC
      serviceAccountName := mergeString original.serviceAccountName patch.serviceAccountName
      automountServiceAccountToken :=
        mergeField original.automountServiceAccountToken patch.automountServiceAccountToken
      securityContext :=
        mergeOption mergePodSecurityContext original.securityContext patch.securityContext }
  containers _ _ := mergeInOrder_perm _ _ _ _
  initContainers _ _ := mergeInOrder_perm _ _ _ _
  volumes _ _ := mergeInOrder_perm _ _ _ _
  securityContext _ _ := rfl
  hostPID _ _ := rfl
  hostNetwork _ _ := rfl
  hostIPC _ _ := rfl
  serviceAccountName _ _ := rfl
  automountServiceAccountToken _ _ := rfl

end ClusterOperator.Resource
