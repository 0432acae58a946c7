import ClusterOperator.Kubernetes.Objects
import ClusterOperator.Text.Decimal

namespace ClusterOperator.Api

open Kubernetes

/-- The values that `spec.replicas` can have: an int32 that is at least 0. -/
abbrev Replicas := Fin (2 ^ 31)

instance Replicas.neZero : NeZero (2 ^ 31) :=
  ⟨by decide⟩

structure TLSSpec where
  secretName : String := ""
  caSecretName : String := ""
  disableNonTLSListeners : Bool := false
deriving DecidableEq

structure VaultTLSSpec where
  pkiIssuerPath : String := ""
  commonName : String := ""
  altNames : String := ""
  ipSans : String := ""
  pkiRootPath : String := ""
deriving DecidableEq

structure VaultSpec where
  role : String := ""
  annotations : StringMap := {}
  defaultUserPath : String := ""
  defaultUserUpdaterImage : Option String := none
  tls : VaultTLSSpec := {}
deriving DecidableEq

structure SecretBackend where
  vault : Option VaultSpec := none
  externalSecret : String := ""
deriving DecidableEq

structure RabbitmqSpec where
  additionalPlugins : List String := []
  additionalConfig : String := ""
  advancedConfig : String := ""
  envConfig : String := ""
  erlangInetConfig : String := ""
deriving DecidableEq

structure EmbeddedMeta where
  name : String := ""
  labels : StringMap := {}
  annotations : StringMap := {}
deriving DecidableEq

structure PodTemplateOverride where
  metadata : Option EmbeddedMeta := none
  spec : Option PodSpec := none
deriving DecidableEq

structure StatefulSetSpecOverride where
  replicas : Option ℤ := none
  selector : Option StringMap := none
  template : Option PodTemplateOverride := none
  volumeClaimTemplates : List ClaimTemplate := []
  serviceName : String := ""
  podManagementPolicy : String := ""
  updateStrategy : Option String := none
  minReadySeconds : ℤ := 0
  persistentVolumeClaimRetentionPolicy : Option String := none
deriving DecidableEq

structure StatefulSetOverride where
  metadata : Option EmbeddedMeta := none
  spec : Option StatefulSetSpecOverride := none
deriving DecidableEq

structure RabbitmqClusterServiceSpec where
  type : String := "ClusterIP"
  annotations : StringMap := {}
  labels : StringMap := {}
  ipFamilyPolicy : Option String := none
deriving DecidableEq

structure ServiceOverride where
  metadata : Option EmbeddedMeta := none
  spec : Option ServiceSpec := none
deriving DecidableEq

/-- `others` holds the fields that no function below reads. -/
structure RabbitmqClusterSpec where
  replicas : Replicas := 1
  image : String := ""
  storage : Quantity := 0
  storageClassName : Option String := none
  memory : MemoryResources := {}
  rabbitmq : RabbitmqSpec := {}
  tls : TLSSpec := {}
  secretBackend : SecretBackend := {}
  service : RabbitmqClusterServiceSpec := {}
  statefulSetOverride : Option StatefulSetOverride := none
  serviceOverride : Option ServiceOverride := none
  skipPostDeploySteps : Bool := false
  autoEnableAllFeatureFlags : Bool := false
  delayStartSeconds : ℤ := 30
  others : StringMap := {}
deriving DecidableEq

inductive ConditionType
  | allReplicasReady
  | clusterAvailable
  | noWarnings
  | reconcileSuccess
  | other (name : String)
deriving DecidableEq

inductive ConditionStatus
  | true
  | false
  | unknown
  | other (name : String)
deriving DecidableEq

structure Condition where
  type : ConditionType
  status : ConditionStatus := .unknown
  reason : String := ""
  message : String := ""
deriving DecidableEq

structure DefaultUserStatus where
  secretName : Option String
  serviceName : String
deriving DecidableEq

structure RabbitmqClusterStatus where
  conditions : List Condition := []
  defaultUser : Option DefaultUserStatus := none
  binding : Option String := none
  observedGeneration : ℕ := 0
  quorumStatus : String := ""
  deprecatedFeaturesUsed : List String := []
deriving DecidableEq

structure RabbitmqCluster where
  name : String := ""
  ns : String := ""
  resourceVersion : ℕ := 0
  generation : ℕ := 0
  labels : StringMap := {}
  annotations : StringMap := {}
  finalizers : List String := []
  deletionTimestamp : Bool := false
  spec : RabbitmqClusterSpec := {}
  status : RabbitmqClusterStatus := {}
deriving DecidableEq

def rabbitmqVersionAnnotation : String := "rabbitmq.com/version"
def erlangVersionAnnotation : String := "rabbitmq.com/erlang-version"
def versionNotAnnotated : String := "VersionNotAnnotated"
def legacyStartupProbeAnnotation : String := "rabbitmq.com/legacy-startup-probe"

namespace RabbitmqCluster

variable (cluster : RabbitmqCluster)

/-- What is stored when `cluster` is written over `stored`: the status is left alone, and a
change of the spec is a new generation. -/
def onto (stored : RabbitmqCluster) : RabbitmqCluster :=
  { cluster with
    generation := if cluster.spec = stored.spec then stored.generation else stored.generation + 1
    deletionTimestamp := stored.deletionTimestamp
    status := stored.status }

def childResourceName (suffix : String) : String :=
  if suffix = "" then cluster.name else cluster.name ++ "-" ++ suffix

def pvcName (i : ℕ) : String := "persistence" ++ "-" ++ cluster.name ++ "-" ++ "server" ++ "-" ++ toString i

def secretTLSEnabled : Bool := cluster.spec.tls.secretName ≠ ""

def vaultEnabled : Bool := cluster.spec.secretBackend.vault.isSome

def vaultTLSEnabled : Bool :=
  cluster.spec.secretBackend.vault.any (fun v => v.tls.pkiIssuerPath ≠ "")

def vaultDefaultUserSecretEnabled : Bool :=
  cluster.spec.secretBackend.vault.any (fun v => v.defaultUserPath ≠ "")

def externalSecretEnabled : Bool := cluster.spec.secretBackend.externalSecret ≠ ""

def tlsEnabled : Bool := cluster.secretTLSEnabled || cluster.vaultTLSEnabled

def mutualTLSEnabled : Bool :=
  (cluster.secretTLSEnabled && cluster.spec.tls.caSecretName ≠ "") || cluster.vaultTLSEnabled

def singleTLSSecret : Bool :=
  cluster.mutualTLSEnabled && cluster.spec.tls.caSecretName = cluster.spec.tls.secretName

def additionalPluginEnabled (plugin : String) : Bool := plugin ∈ cluster.spec.rabbitmq.additionalPlugins

def streamNeeded : Bool :=
  cluster.additionalPluginEnabled "rabbitmq_stream" ||
    cluster.additionalPluginEnabled "rabbitmq_stream_management" ||
    cluster.additionalPluginEnabled "rabbitmq_multi_dc_replication"

def serviceSubDomain : String := cluster.name ++ "." ++ cluster.ns ++ ".svc"

def getRabbitMQVersion : String :=
  (cluster.annotations.get? rabbitmqVersionAnnotation).getD versionNotAnnotated

def disableNonTLSListeners : Bool := cluster.spec.tls.disableNonTLSListeners

lemma pvcName_injective : Function.Injective cluster.pvcName := fun _ _ h =>
  Text.toString_nat_injective ((String.append_right_inj _).mp h)

end RabbitmqCluster

namespace RabbitmqClusterStatus

def setCondition (s : RabbitmqClusterStatus) (type : ConditionType) (status : ConditionStatus)
    (reason message : String) : RabbitmqClusterStatus :=
  { s with conditions := update s.conditions }
where
  -- Only the first condition of the type is changed, and none is added.
  update : List Condition → List Condition
    | [] => []
    | c :: cs => if c.type = type then ⟨type, status, reason, message⟩ :: cs else c :: update cs

def patchDefaultUser (base modified stored : Option DefaultUserStatus) : Option DefaultUserStatus :=
  if base = modified then stored
  else modified.map fun modified =>
    { secretName :=
        if base.bind DefaultUserStatus.secretName = modified.secretName then
          stored.bind DefaultUserStatus.secretName
        else modified.secretName
      serviceName :=
        if base.map DefaultUserStatus.serviceName = some modified.serviceName then
          (stored.map DefaultUserStatus.serviceName).getD ""
        else modified.serviceName }

/-- The JSON merge patch between two copies of a status, applied to a third: a field is
sent only if the two copies differ in it. -/
def patch (base modified stored : RabbitmqClusterStatus) : RabbitmqClusterStatus where
  conditions := if base.conditions = modified.conditions then stored.conditions else modified.conditions
  defaultUser := patchDefaultUser base.defaultUser modified.defaultUser stored.defaultUser
  binding := if base.binding = modified.binding then stored.binding else modified.binding
  observedGeneration :=
    if base.observedGeneration = modified.observedGeneration then stored.observedGeneration
    else modified.observedGeneration
  quorumStatus :=
    if base.quorumStatus = modified.quorumStatus then stored.quorumStatus else modified.quorumStatus
  deprecatedFeaturesUsed :=
    if base.deprecatedFeaturesUsed = modified.deprecatedFeaturesUsed then stored.deprecatedFeaturesUsed
    else modified.deprecatedFeaturesUsed

end RabbitmqClusterStatus

end ClusterOperator.Api
