import ClusterOperator.Controller.Scaling
import ClusterOperator.Resource.ConfigMaps

namespace ClusterOperator.Controller

open Api Kubernetes Interaction Resource

/-- How the operator is set up. The builders of the children other than the ConfigMaps and the
StatefulSet are left open, and so are the libraries that the operator calls. -/
structure Reconciler where
  controlRabbitmqImage : Bool := false
  defaultRabbitmqImage : String := ""
  defaultUserUpdaterImage : String := ""
  merge : StrategicMergePatch
  ini : Ini
  /-- The version is a semantic one and at least 4.1.0. -/
  peerDiscoveryWithoutRBAC : String → Bool
  build : Kind → RabbitmqCluster → String → Except Err DataObject
  update : Kind → RabbitmqCluster → DataObject → Except Err DataObject

inductive Builder
  | child (k : Kind)
  | statefulSet
deriving DecidableEq

variable (r : Reconciler)

def shouldCreatePeerDiscoveryRBAC (rmq : RabbitmqCluster) : Bool :=
  rmq.getRabbitMQVersion = versionNotAnnotated || !r.peerDiscoveryWithoutRBAC rmq.getRabbitMQVersion

def resourceBuilders (rmq : RabbitmqCluster) : List Builder :=
  [.child .headlessService, .child .service, .child .erlangCookie] ++
  (if rmq.vaultDefaultUserSecretEnabled || rmq.externalSecretEnabled then []
    else [.child .defaultUserSecret]) ++
  [.child .pluginsConf, .child .serverConf, .child .serviceAccount] ++
  (if shouldCreatePeerDiscoveryRBAC r rmq then [.child .role, .child .roleBinding] else []) ++
  [.statefulSet]

def pluginsUpdateAnnotation : String := "rabbitmq.com/pluginsUpdatedAt"
def serverConfAnnotation : String := "rabbitmq.com/serverConfUpdatedAt"
def stsRestartAnnotation : String := "rabbitmq.com/lastRestartAt"
def stsCreateAnnotation : String := "rabbitmq.com/createdAt"

def stamp {α : Type} (client : Kubernetes.Resource α) (key : String) (obj : α) : Operation (Option Err) := do
  let now ← Client.now
  let (err, _) ← updateAnnotation client key now obj
  return err

def annotateIfNeeded (builder : Builder) (updateRequiresStsRestart : Bool) (result : OperationResult) :
    Operation (Option Err) :=
  match builder with
  | .child .pluginsConf =>
    if result = .updated then stamp (Client.children .pluginsConf) pluginsUpdateAnnotation {} else return none
  | .child .serverConf =>
    if result = .updated ∧ updateRequiresStsRestart = true then
      stamp (Client.children .serverConf) serverConfAnnotation {}
    else return none
  | .statefulSet =>
    if result = .created then stamp Client.statefulSets stsCreateAnnotation {} else return none
  | _ => return none

def createOrUpdateOnConflict {α σ : Type} [DecidableEq α] (client : Kubernetes.Resource α)
    (mutate : Bool → σ → α → σ × Except Err α) (m : σ) (obj : α) :
    Operation (Except Err OperationResult × σ) := do
  let attempt : OperationResult × α × σ → Operation (Option Err × OperationResult × α × σ) :=
    fun x => do
      match ← createOrUpdate client mutate x.2.2 x.2.1 with
      | (.ok result, obj, m) => return (none, result, obj, m)
      | (.error err, obj, m) => return (some err, .none, obj, m)
  match ← retryOnConflict attempt (.none, obj, m) with
  | (none, result, _, m) => return (.ok result, m)
  | (some err, _, _, m) => return (.error err, m)

def finishTurn (builder : Builder) (updateRequiresStsRestart : Bool) (m : Memory) :
    Except Err OperationResult → Operation (Except (Result × Memory) Memory)
  | .error err => do
    if err = errInvalidEnvConfig then
      let m ← setReconcileSuccess m .false "InvalidConfiguration" err.message
      return .error ({}, m)
    else
      let m ← setReconcileSuccess m .false "Error" err.message
      return .error ({ err := some err }, m)
  | .ok result => do
    match ← annotateIfNeeded builder updateRequiresStsRestart result with
    | some err => return .error ({ err := some err }, m)
    | none => return .ok m

section Children

def buildChild (k : Kind) (m : Memory) : Operation (Except Err DataObject) :=
  match k with
  | .pluginsConf => return .ok (RabbitmqPluginsConfigMapBuilder.build m.cluster)
  | .serverConf => return .ok (ServerConfigMapBuilder.build m.cluster)
  | .erlangCookie => do return r.build .erlangCookie m.cluster (← Client.random)
  | .defaultUserSecret => do return r.build .defaultUserSecret m.cluster (← Client.random)
  | k => return r.build k m.cluster ""

def updateChild (k : Kind) (_ : Bool) (x : Memory × Bool) (obj : DataObject) :
    (Memory × Bool) × Except Err DataObject :=
  match k with
  | .pluginsConf => ((x.1.compute, x.2), RabbitmqPluginsConfigMapBuilder.update x.1.cluster obj)
  | .serverConf =>
    let y := ServerConfigMapBuilder.update x.1.cluster r.ini x.2 obj
    ((x.1.compute, y.1), y.2)
  | k => ((x.1.compute, x.2), r.update k x.1.cluster obj)

def childTurn (k : Kind) (m : Memory) : Operation (Except (Result × Memory) Memory) := do
  match ← buildChild r k m with
  | .error err => return .error ({ err := some err }, m)
  | .ok obj =>
    let (result, m, restart) ← createOrUpdateOnConflict (Client.children k) (updateChild r k) (m, true) obj
    finishTurn (.child k) restart m result

end Children

section StatefulSet

/-- `Update` of the StatefulSet builder. An object that was read from the server shares
nothing with the override. -/
def updateStatefulSet (fetched : Bool) (m : Memory) (sts : StatefulSet) : Memory × Except Err StatefulSet :=
  let x := StatefulSetBuilder.updateInMemory m.cluster r.merge (m.sharesClaims && !fetched) sts
  ({ m.compute with cluster := x.1.1, sharesClaims := x.1.2 }, x.2)

def guardFromZero (m : Memory) (current sts : StatefulSet) : Operation (Except (Result × Memory) Memory) :=
  if scaleFromZero current sts then do
    match ← scaleFromZeroToBeforeReplicasConfigured m sts with
    | (true, m) => return .error ({}, m)
    | (false, m) => return .ok (← removeReplicasBeforeZeroAnnotationIfExists m)
  else return .ok m

def guardReplicas (m : Memory) (current sts : StatefulSet) : Operation (Except (Result × Memory) Memory) :=
  if scaleToZero current sts then do
    match ← saveReplicasBeforeZero m current with
    | (some err, m) => return .error ({ err := some err }, m)
    | (none, m) => guardFromZero m current sts
  else do
    match ← scaleDown m current sts with
    | (true, m) => return .error ({}, m)
    | (false, m) => guardFromZero m current sts

def writeStatefulSet (m : Memory) (sts : StatefulSet) : Operation (Except (Result × Memory) Memory) := do
  match ← reconcilePVC m sts with
  | .error err =>
    let m ← setReconcileSuccess m .false "FailedReconcilePVC" err.message
    return .error ({ err := some err }, m)
  | .ok _ =>
    let (result, m) ← createOrUpdateOnConflict Client.statefulSets (updateStatefulSet r) m sts
    finishTurn .statefulSet false m result

def statefulSetTurn (m : Memory) : Operation (Except (Result × Memory) Memory) := do
  let m := { m with sharesClaims := false }
  let obj := StatefulSetBuilder.build m.cluster
  match ← Client.getStatefulSet with
  | .error .notFound => writeStatefulSet r m obj
  | .error e => return .error ({ err := some (.api e) }, m)
  | .ok current =>
    match updateStatefulSet r false m obj with
    | (m, .error err) => return .error ({ err := some err }, m)
    | (m, .ok sts) => orReturn (guardReplicas m current sts) fun m => writeStatefulSet r m sts

end StatefulSet

def builderTurn (m : Memory) : Builder → Operation (Except (Result × Memory) Memory)
  | .child k => childTurn r k m
  | .statefulSet => statefulSetTurn r m

def builderLoop (m : Memory) : List Builder → Operation (Except (Result × Memory) Memory)
  | [] => return .ok m
  | builder :: builders => orReturn (builderTurn r m builder) fun m => builderLoop m builders

end ClusterOperator.Controller
