import ClusterOperator.Controller.Builders

namespace ClusterOperator.Controller

open Api Kubernetes Interaction Resource

def requeueOrContinue : ℕ × Option Err × Memory → Except (Result × Memory) Memory
  | (0, none, m) => .ok m
  | (requeueAfter, err, m) => .error ({ requeueAfter, err }, m)

section Finalizer

def deletionFinalizer : String := "deletion.finalizers.rabbitmqclusters.rabbitmq.com"

def deletionMarker : String := "skipPreStopChecks"

def addFinalizerIfNeeded (m : Memory) : Operation (Option Err × Memory) :=
  if m.cluster.deletionTimestamp = false ∧ deletionFinalizer ∉ m.cluster.finalizers then
    retryOnConflict (fun m => updateCluster (m.modify fun c =>
      if deletionFinalizer ∈ c.finalizers then c
      else { c with finalizers := c.finalizers ++ [deletionFinalizer] })) m
  else return (none, m)

def removeFinalizer (rabbitmqCluster : RabbitmqCluster) : Operation (Option Err) := do
  let (result, _, _) ← createOrUpdate Client.clusters
    (fun _ (_ : Unit) c => ((), .ok { c with finalizers := c.finalizers.filter (· ≠ deletionFinalizer) }))
    () { name := rabbitmqCluster.name, ns := rabbitmqCluster.ns }
  match result with
  | .ok _ => return none
  | .error err => return ignoreNotFound (some err)

def labelPods : List Pod → Operation (Option Err)
  | [] => return none
  | pod :: pods => do
    match ← Client.updatePod { pod with labels := pod.labels.set deletionMarker "true" } with
    | .ok _ => labelPods pods
    | .error .notFound => labelPods pods
    | .error e => return some (.wrap ("cannot Update Pod " ++ pod.name) (.api e))

def addRabbitmqDeletionLabel : Operation (Option Err) := do
  match ← Client.listPods with
  | .error e => return some (.api e)
  | .ok pods => labelPods pods

def checkIfLabelPropagated (rabbitmqCluster : RabbitmqCluster) : Operation Bool := do
  match ← Client.exec (rabbitmqCluster.childResourceName "server" ++ "-0")
      "cat /etc/pod-info/skipPreStopChecks" with
  | .error _ => return true
  | .ok stdout => return hasPrefix "true" stdout

def waitForLabel (rabbitmqCluster : RabbitmqCluster) (start : String) : ℕ → Operation Unit
  | 0 => return ()
  | n + 1 => do
    let elapsed ← Client.secondsSince start
    if elapsed.any (· < 3) then
      if ← checkIfLabelPropagated rabbitmqCluster then return ()
      else waitForLabel rabbitmqCluster start n
    else return ()

def prepareForDeletion (rabbitmqCluster : RabbitmqCluster) : Operation (Option Err) := do
  if deletionFinalizer ∈ rabbitmqCluster.finalizers then
    let _ ← retryOnConflict (fun (_ : Unit) => do return (← addRabbitmqDeletionLabel, ())) ()
    let start ← Client.now
    waitForLabel rabbitmqCluster start 15
    removeFinalizer rabbitmqCluster
  else return none

end Finalizer

section OperatorDefaults

def updateRabbitmqCluster (m : Memory) : Operation (ℕ × Option Err × Memory) := do
  match ← updateCluster m with
  | (none, m) => return (0, none, m)
  -- A conflict is no error, only a time to requeue after.
  | (some err, m) => if err.isConflict then return (2, none, m) else return (0, some err, m)

variable (r : Reconciler)

def setImage (spec : RabbitmqClusterSpec) : RabbitmqClusterSpec :=
  { spec with image := r.defaultRabbitmqImage }

def setUpdaterImage (spec : RabbitmqClusterSpec) : RabbitmqClusterSpec :=
  { spec with
    secretBackend := { spec.secretBackend with
      vault := spec.secretBackend.vault.map fun v =>
        { v with defaultUserUpdaterImage := some r.defaultUserUpdaterImage } } }

def reconcileOperatorDefaults (m : Memory) : Operation (ℕ × Option Err × Memory) := do
  if r.controlRabbitmqImage then
    match ← updateRabbitmqCluster (m.modify fun c => { c with spec := setImage r c.spec }) with
    | (requeue, some err, m) => return (requeue, some err, m)
    -- The time to requeue after is dropped.
    | (_, none, m) =>
      if m.cluster.vaultEnabled then
        match ← updateRabbitmqCluster (m.modify fun c => { c with spec := setUpdaterImage r c.spec }) with
        | (requeue, some err, m) => return (requeue, some err, m)
        | (_, none, m) => return (0, none, m)
      else return (0, none, m)
  else return (0, none, m)

end OperatorDefaults

section Conditions

def getChildResources : Operation (Except ApiError (Option StatefulSet × Option (List Endpoint))) := do
  match ← Client.getStatefulSet with
  | .ok sts => endpoints (some sts)
  | .error .notFound => endpoints none
  | .error e => return .error e
where
  endpoints (sts : Option StatefulSet) :
      Operation (Except ApiError (Option StatefulSet × Option (List Endpoint))) := do
    match ← Client.listEndpointSlices with
    | .error e => return .error e
    | .ok slices => return .ok (sts, slices.head?)

def updateStatusConditions (m : Memory) : Operation (ℕ × Option Err × Memory) := do
  match ← getChildResources with
  | .error e => return (0, some (.api e), m)
  | .ok (sts, endpoints) =>
    if (Status.setConditions sts endpoints m.cluster.status).conditions = m.cluster.status.conditions then
      return (0, none, m)
    else
      match ← patchStatus m (Status.setConditions sts endpoints) with
      | (none, m) => return (0, none, m)
      | (some err, m) => if err.isConflict then return (2, none, m) else return (0, some err, m)

end Conditions

section Tls

def errDisableNonTLSConfig : Err :=
  .text "TLS must be enabled if disableNonTLSListeners is set to true"

def missingFields (secretName ns fields : String) : Err :=
  .text ("TLS secret " ++ secretName ++ " in namespace " ++ ns ++ " does not have the " ++ fields)

def checkCaSecret (rmq : RabbitmqCluster) (secret : DataObject) : Operation (Option Err) := do
  if rmq.mutualTLSEnabled then
    if rmq.singleTLSSecret then return check secret
    else
      match ← Client.getSecret rmq.spec.tls.caSecretName with
      | .error e => return some (.api e)
      | .ok secret => return check secret
  else return none
where
  check (secret : DataObject) : Option Err :=
    if (secret.data.get? "ca.crt").isSome then none
    else some (missingFields rmq.spec.tls.caSecretName rmq.ns "field ca.crt")

def checkTLSSecrets (rmq : RabbitmqCluster) : Operation (Option Err) := do
  match ← Client.getSecret rmq.spec.tls.secretName with
  | .error e => return some (.api e)
  | .ok secret =>
    if (secret.data.get? "tls.crt").isSome ∧ (secret.data.get? "tls.key").isSome then checkCaSecret rmq secret
    else return some (missingFields rmq.spec.tls.secretName rmq.ns "fields tls.crt and tls.key")

def reconcileTLS (m : Memory) : Operation (Option Err × Memory) := do
  if m.cluster.disableNonTLSListeners ∧ m.cluster.tlsEnabled = false then
    let m ← setReconcileSuccess m .false "TLSError" errDisableNonTLSConfig.message
    return (some errDisableNonTLSConfig, m)
  else if m.cluster.secretTLSEnabled then
    match ← checkTLSSecrets m.cluster with
    | none => return (none, m)
    | some err =>
      let m ← setReconcileSuccess m .false "TLSError" err.message
      return (some err, m)
  else return (none, m)

end Tls

section Start

def queueRebalanceAnnotation : String := "rabbitmq.com/queueRebalanceNeededAt"

def statefulSetBeingUpdated (sts : StatefulSet) : Bool := sts.status.currentRevision ≠ sts.status.updateRevision

def allReplicasReadyAndUpdated (sts : StatefulSet) : Bool :=
  sts.status.readyReplicas = sts.replicas && !statefulSetBeingUpdated sts

def statefulSetNeedsQueueRebalance (sts : StatefulSet) (rmq : RabbitmqCluster) : Bool :=
  statefulSetBeingUpdated sts && !rmq.spec.skipPostDeploySteps && decide (rmq.spec.replicas.val > 1)

def markForQueueRebalance (m : Memory) : Operation (Option Err × Memory) := do
  if (m.cluster.annotations.get? queueRebalanceAnnotation).getD "" ≠ "" then return (none, m)
  else
    let now ← Client.now
    updateCluster (m.modify fun c => { c with annotations := c.annotations.set queueRebalanceAnnotation now })

def labelDefaultUserSecret (m : Memory) : Operation Unit := do
  match ← Client.getChild .defaultUserSecret with
  | .error _ => return ()
  | .ok secret =>
    if secret.metadata.labels.get? "app.kubernetes.io/part-of" = some "rabbitmq" then return ()
    else
      let _ ← Client.updateChild .defaultUserSecret
        { secret with metadata.labels := getLabels m.cluster.name m.cluster.labels }
      return ()

def rebalanceIfNeeded (m : Memory) : Operation (Option Err × Memory) := do
  match ← Client.getStatefulSet with
  | .error .notFound => return (none, m)
  | .error e => return (some (.api e), m)
  | .ok sts =>
    if statefulSetNeedsQueueRebalance sts m.cluster then markForQueueRebalance m else return (none, m)

def deleteChildren : List Kind → Operation (Option Err)
  | [] => return none
  | k :: ks => do
    match ← Client.deleteChild k with
    | .ok _ => deleteChildren ks
    | .error .notFound => deleteChildren ks
    | .error e => return some (.api e)

end Start

end ClusterOperator.Controller
