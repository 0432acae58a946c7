import ClusterOperator.Kubernetes.StringMap

namespace ClusterOperator.Kubernetes

/-- A resource quantity, counted in its smallest unit. `Cmp` is the order of the integers. -/
abbrev Quantity := ℤ

/-- The metadata shared by all kinds. `controller` is the owner reference that
`SetControllerReference` maintains. -/
structure ObjectMeta where
  resourceVersion : ℕ := 0
  labels : StringMap := {}
  annotations : StringMap := {}
  controller : Option String := none
  deletionTimestamp : Bool := false
deriving DecidableEq

structure Capabilities where
  add : Option (List String) := none
  drop : Option (List String) := none
deriving DecidableEq

/-- `others` holds the fields that the operator neither reads nor sets (SELinux and
Windows options, proc mount, AppArmor profile). -/
structure SecurityContext where
  privileged : Option Bool := none
  allowPrivilegeEscalation : Option Bool := none
  runAsUser : Option ℤ := none
  runAsGroup : Option ℤ := none
  runAsNonRoot : Option Bool := none
  readOnlyRootFilesystem : Option Bool := none
  capabilities : Option Capabilities := none
  seccompProfile : Option String := none
  others : StringMap := {}
deriving DecidableEq

structure PodSecurityContext where
  runAsUser : Option ℤ := none
  runAsGroup : Option ℤ := none
  runAsNonRoot : Option Bool := none
  fsGroup : Option ℤ := none
  seccompProfile : Option String := none
  others : StringMap := {}
deriving DecidableEq

structure EnvVar where
  name : String
  value : String := ""
  fieldPath : Option String := none
deriving DecidableEq

structure VolumeMount where
  name : String
  mountPath : String
  subPath : String := ""
  readOnly : Bool := false
deriving DecidableEq

structure HTTPGetAction where
  path : String := ""
  port : String
  host : String := ""
  scheme : String := ""
  httpHeaders : List (String × String) := []
deriving DecidableEq

structure TCPSocketAction where
  port : String
  host : String := ""
deriving DecidableEq

structure GRPCAction where
  port : ℕ
  service : Option String := none
deriving DecidableEq

structure Probe where
  exec : Option (List String) := none
  httpGet : Option HTTPGetAction := none
  tcpSocket : Option TCPSocketAction := none
  grpc : Option GRPCAction := none
  initialDelaySeconds : ℕ := 0
  timeoutSeconds : ℕ := 0
  periodSeconds : ℕ := 0
  successThreshold : ℕ := 0
  failureThreshold : ℕ := 0
  terminationGracePeriodSeconds : Option ℤ := none
deriving DecidableEq

structure MemoryResources where
  limit : Option Quantity := none
  request : Option Quantity := none
deriving DecidableEq

structure ContainerPort where
  name : String
  containerPort : ℕ
deriving DecidableEq

/-- The environment and the mounts are absent, or lists that may be empty. -/
structure Container where
  name : String := ""
  image : String := ""
  command : List String := []
  args : List String := []
  ports : List ContainerPort := []
  memory : MemoryResources := {}
  env : Option (List EnvVar) := none
  volumeMounts : Option (List VolumeMount) := none
  livenessProbe : Option Probe := none
  readinessProbe : Option Probe := none
  startupProbe : Option Probe := none
  securityContext : Option SecurityContext := none
deriving DecidableEq

def Container.mounts (c : Container) : List VolumeMount := c.volumeMounts.getD []

structure VolumeProjection where
  configMap : Option String := none
  secret : Option String := none
  items : List (String × String) := []
deriving DecidableEq

inductive VolumeSource
  | configMap (name : String)
  | secret (name : String)
  | projected (sources : List VolumeProjection)
  | emptyDir
  | downwardAPI (files : List (String × String))
  | hostPath (path : String)
  | other (description : String)
deriving DecidableEq

structure Volume where
  name : String
  source : VolumeSource
deriving DecidableEq

structure PodSpec where
  initContainers : List Container := []
  containers : List Container := []
  volumes : List Volume := []
  hostPID : Bool := false
  hostNetwork : Bool := false
  hostIPC : Bool := false
  serviceAccountName : String := ""
  automountServiceAccountToken : Option Bool := none
  securityContext : Option PodSecurityContext := none
deriving DecidableEq

structure PodTemplateSpec where
  labels : StringMap := {}
  annotations : StringMap := {}
  spec : PodSpec := {}
deriving DecidableEq

structure ClaimTemplate where
  name : String
  labels : StringMap := {}
  annotations : StringMap := {}
  controller : Option String := none
  storage : Option Quantity := none
  storageClassName : Option String := none
deriving DecidableEq

structure StatefulSetStatus where
  readyReplicas : ℤ := 0
  currentRevision : String := ""
  updateRevision : String := ""
deriving DecidableEq

structure StatefulSet where
  metadata : ObjectMeta := {}
  replicas : ℤ := 0
  serviceName : String := ""
  selector : StringMap := {}
  volumeClaimTemplates : List ClaimTemplate := []
  podManagementPolicy : String := ""
  updateStrategy : String := ""
  minReadySeconds : ℤ := 0
  persistentVolumeClaimRetentionPolicy : String := ""
  template : PodTemplateSpec := {}
  status : StatefulSetStatus := {}
deriving DecidableEq

/-- A stored volume claim; the API server accepts none without a storage request. -/
structure PersistentVolumeClaim where
  name : String
  resourceVersion : ℕ := 0
  storage : Quantity
deriving DecidableEq

/-- A ConfigMap or a Secret with its `Data`. The other child objects, whose contents no
function below reads back, are kept in the same form. -/
structure DataObject where
  metadata : ObjectMeta := {}
  data : StringMap := {}
deriving DecidableEq

structure ServicePort where
  name : String
  port : ℕ
  targetPort : ℕ
  appProtocol : String
  protocol : String := "TCP"
  nodePort : ℕ := 0
deriving DecidableEq

structure ServiceSpec where
  type : String := ""
  clusterIP : String := ""
  sessionAffinity : String := ""
  selector : StringMap := {}
  ports : List ServicePort := []
  publishNotReadyAddresses : Bool := false
  ipFamilyPolicy : Option String := none
  others : StringMap := {}
deriving DecidableEq

structure Service where
  metadata : ObjectMeta := {}
  spec : ServiceSpec := {}
deriving DecidableEq

structure Pod where
  name : String
  labels : StringMap := {}
deriving DecidableEq

structure Endpoint where
  podName : String
  addresses : List String := []
deriving DecidableEq

end ClusterOperator.Kubernetes
