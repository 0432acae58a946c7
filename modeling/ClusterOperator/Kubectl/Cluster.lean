import ClusterOperator.Api.RabbitmqCluster
import ClusterOperator.Keyed.Arrangement
import ClusterOperator.Kubernetes.ControllerRuntime
import ClusterOperator.Text.Fields

namespace ClusterOperator.Kubectl

open Api Kubernetes Keyed Text

structure ClusterOptions where
  replicas : ℤ := 0
  image : String := ""
  imagePullSecrets : List String := []
  serviceType : String := ""
  serviceAnnotations : StringMap := {}
  storageClassName : String := ""
  storageSize : String := ""
  unlimitedResources : Bool := false
  memoryLimit : String := ""
  memoryRequest : String := ""
  cpuLimit : String := ""
  cpuRequest : String := ""
  tlsSecretName : String := ""
  tlsCASecretName : String := ""
  disableNonTLSListeners : Bool := false
  additionalPlugins : List String := []
  envConfig : StringMap := {}
  additionalConfigFile : String := ""
  advancedConfigFile : String := ""
  terminationGracePeriodSeconds : ℤ := 0
  delayStartSeconds : ℤ := 0
  skipPostDeploySteps : Bool := false
  autoEnableAllFeatureFlags : Bool := false
  rabbitmqVersion : String := ""

structure ResourceList where
  memory : Option Quantity := none
  cpu : Option Quantity := none
deriving DecidableEq

structure ResourceRequirements where
  requests : ResourceList := {}
  limits : ResourceList := {}
deriving DecidableEq

structure Manifest where
  name : String
  annotations : StringMap := {}
  replicas : Option ℤ := none
  image : String := ""
  imagePullSecrets : List String := []
  serviceType : String := ""
  serviceAnnotations : StringMap := {}
  storageClassName : Option String := none
  storage : Option Quantity := none
  resources : Option ResourceRequirements := none
  tls : TLSSpec := {}
  rabbitmq : RabbitmqSpec := {}
  terminationGracePeriodSeconds : Option ℤ := none
  delayStartSeconds : Option ℤ := none
  skipPostDeploySteps : Bool := false
  autoEnableAllFeatureFlags : Bool := false
deriving DecidableEq

structure Tools where
  parseQuantity : String → Except Err Quantity
  readFile : String → Except Err String
  quote : String → String

section Flags

variable (tools : Tools)

def quantityFlag (what flag : String) : Except Err (Option Quantity) :=
  if flag = "" then .ok none
  else ((tools.parseQuantity flag).map some).mapError (.wrap ("invalid " ++ what ++ " " ++ tools.quote flag))

def fileFlag (what flag : String) : Except Err String :=
  if flag = "" then .ok ""
  else (tools.readFile flag).mapError
    (.wrap ("failed to read " ++ what ++ " config file " ++ tools.quote flag))

def resourcesFlags (opts : ClusterOptions) : Except Err (Option ResourceRequirements) :=
  if opts.unlimitedResources then .ok (some {})
  else do
    let memoryRequest ← quantityFlag tools "memory request" opts.memoryRequest
    let cpuRequest ← quantityFlag tools "cpu request" opts.cpuRequest
    let memoryLimit ← quantityFlag tools "memory limit" opts.memoryLimit
    let cpuLimit ← quantityFlag tools "cpu limit" opts.cpuLimit
    let hasResources := memoryRequest.isSome || cpuRequest.isSome || memoryLimit.isSome || cpuLimit.isSome
    return if hasResources then some
      { requests := { memory := memoryRequest, cpu := cpuRequest }
        limits := { memory := memoryLimit, cpu := cpuLimit } }
    else none

end Flags

def joinSorted (lines : List String) : String :=
  -- Despite the name, nothing is sorted.
  join 0 "" lines
where
  join (i : ℕ) (result : String) : List String → String
    | [] => result
    | line :: lines => join (i + 1) ((if i > 0 then result ++ "\n" else result) ++ line) lines

def envLine (entry : String × String) : String := entry.1 ++ "=" ++ entry.2

def positive (n : ℤ) : Option ℤ := if n > 0 then some n else none

/-- `enumerate` is the order in which Go goes through the map of `--env-conf`. -/
def buildRabbitmqCluster (tools : Tools) (enumerate : Arrangement (String × String)) (name : String)
    (opts : ClusterOptions) : Except Err Manifest := do
  let storage ← quantityFlag tools "storage size" opts.storageSize
  let resources ← resourcesFlags tools opts
  let additionalConfig ← fileFlag tools "additional" opts.additionalConfigFile
  let advancedConfig ← fileFlag tools "advanced" opts.advancedConfigFile
  return {
    name
    annotations :=
      if opts.rabbitmqVersion = "" then {} else StringMap.set {} rabbitmqVersionAnnotation opts.rabbitmqVersion
    replicas := positive opts.replicas
    image :=
      if opts.image = "" ∧ opts.rabbitmqVersion ≠ "" then "rabbitmq:" ++ opts.rabbitmqVersion ++ "-management"
      else opts.image
    imagePullSecrets := opts.imagePullSecrets
    serviceType := opts.serviceType
    serviceAnnotations := opts.serviceAnnotations
    storageClassName := if opts.storageClassName = "" then none else some opts.storageClassName
    storage
    resources
    tls :=
      { secretName := opts.tlsSecretName
        caSecretName := opts.tlsCASecretName
        disableNonTLSListeners := opts.disableNonTLSListeners }
    rabbitmq :=
      { additionalPlugins := opts.additionalPlugins
        envConfig :=
          if opts.envConfig.entries = [] then ""
          else joinSorted ((enumerate.order opts.envConfig.entries).map envLine)
        additionalConfig
        advancedConfig }
    terminationGracePeriodSeconds := positive opts.terminationGracePeriodSeconds
    delayStartSeconds := positive opts.delayStartSeconds
    skipPostDeploySteps := opts.skipPostDeploySteps
    autoEnableAllFeatureFlags := opts.autoEnableAllFeatureFlags }

lemma joinSorted_join (i : ℕ) (result : String) (lines : List String) :
    joinSorted.join (i + 1) result lines = "\n".intercalate (result :: lines) := by
  induction lines generalizing i result with
  | nil => simp [joinSorted.join]
  | cons line lines ih =>
    rw [joinSorted.join, if_pos (Nat.succ_pos i), ih]
    cases lines with
    | nil => simp [String.intercalate_cons_cons]
    | cons next lines => simp [String.intercalate_cons_cons, String.append_assoc]

lemma joinSorted_eq (lines : List String) : joinSorted lines = "\n".intercalate lines := by
  cases lines with
  | nil => rfl
  | cons line lines =>
    rw [joinSorted, joinSorted.join, joinSorted_join]
    simp

end ClusterOperator.Kubectl
