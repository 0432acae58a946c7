import ClusterOperator.Controller.PostDeploy

namespace ClusterOperator.Controller

open Api Kubernetes Interaction Resource

variable (r : Reconciler)

def pauseReconciliationLabel : String := "rabbitmq.com/pauseReconciliation"

def orFail (x : Option Err × Memory) : Except (Result × Memory) Memory :=
  match x with
  | (none, m) => .ok m
  | (some err, m) => .error ({ err := some err }, m)

def prepare (m : Memory) : Operation (Except (Result × Memory) Memory) :=
  orReturn (do return requeueOrContinue (← reconcileOperatorDefaults r m)) fun m =>
  orReturn (do return orFail (← addFinalizerIfNeeded m)) fun m =>
  orReturn (do return requeueOrContinue (← updateStatusConditions m)) fun m => do
    match ← reconcileTLS m with
    | (some err, m) => return .error ({ err := if err = errDisableNonTLSConfig then none else some err }, m)
    | (none, m) => return .ok m

def startReconciling (m : Memory) : Operation (Except (Result × Memory) Memory) := do
  labelDefaultUserSecret m
  orReturn (do return orFail (← rebalanceIfNeeded m)) fun m => do
    if shouldCreatePeerDiscoveryRBAC r m.cluster then return .ok m
    else return orFail (← deleteChildren [.role, .roleBinding], m)

def reportFailure (reason : String) : ℕ × Option Err × Memory → Operation (Except (Result × Memory) Memory)
  | (requeueAfter, some err, m) => do
    let m ← setReconcileSuccess m .false reason err.message
    return .error ({ requeueAfter, err := some err }, m)
  | (requeueAfter, none, m) =>
    if requeueAfter > 0 then return .error ({ requeueAfter }, m) else return .ok m

def postDeploy (m : Memory) : Operation (Except (Result × Memory) Memory) :=
  orReturn (do
    let (requeueAfter, err) ← restartStatefulSetIfNeeded
    return requeueOrContinue (requeueAfter, err, m)) fun m =>
  orReturn (do return orFail (← reconcileStatus m)) fun m => do
  let m ← updateQuorumStatus m
  orReturn (do reportFailure "FailedVersionAnnotation" (← reconcileRabbitmqVersionAnnotation m)) fun m => do
    match ← runRabbitmqCLICommandsIfAnnotated m with
    | .error panic => return .error ({ err := some panic }, m)
    | .ok x => reportFailure "FailedCLICommand" x

def reconcileCluster (m : Memory) : Operation (Except (Result × Memory) Memory) :=
  orReturn (prepare r m) fun m =>
  orReturn (startReconciling r m) fun m =>
  orReturn (builderLoop r m (resourceBuilders r m.cluster)) fun m =>
  orReturn (postDeploy m) fun m => do
    return .ok (← setReconcileSuccess m .true "Success" "Finish reconciling")

def reconcile : Operation (Result × Option Memory) := do
  match ← Client.getCluster with
  | .error .notFound => return ({}, none)
  | .error e => return ({ err := some (.api e) }, none)
  | .ok rabbitmqCluster =>
    let m : Memory := { cluster := rabbitmqCluster }
    if rabbitmqCluster.deletionTimestamp then
      return ({ err := ← prepareForDeletion rabbitmqCluster }, some m)
    else if rabbitmqCluster.labels.get? pauseReconciliationLabel = some "true" then
      let (_, m) ← patchStatus m fun s => s.setCondition .noWarnings .false "reconciliation paused" ""
      return ({}, some m)
    else
      match ← reconcileCluster r m with
      | .error (result, m) => return (result, some m)
      | .ok m => return ({}, some m)

end ClusterOperator.Controller
