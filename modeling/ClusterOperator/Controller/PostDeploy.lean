import ClusterOperator.Controller.Preparation

namespace ClusterOperator.Controller

open Api Kubernetes Interaction Resource

section Restart

def restart (_ : Unit) : Operation (Option Err × Unit) := do
  match ← Client.getStatefulSet with
  | .error e => return (some (.api e), ())
  | .ok sts =>
    let now ← Client.now
    match ← Client.updateStatefulSet
        { sts with template.annotations := sts.template.annotations.set stsRestartAnnotation now } with
    | .error e => return (some (.api e), ())
    | .ok _ => return (none, ())

def restartStatefulSetIfNeeded : Operation (ℕ × Option Err) := do
  match ← Client.getChild .serverConf with
  | .error e => return (10, ignoreNotFound (some (.api e)))
  | .ok serverConf =>
    match serverConf.metadata.annotations.get? serverConfAnnotation with
    | none => return (0, none)
    | some serverConfigUpdatedAt =>
      match ← Client.getStatefulSet with
      | .error e => return (10, ignoreNotFound (some (.api e)))
      | .ok sts =>
        -- The two times are compared as texts.
        if (sts.template.annotations.get? stsRestartAnnotation).any (fun t => serverConfigUpdatedAt < t) then
          return (0, none)
        else
          let (err, _) ← retryOnConflict restart ()
          return (0, err)

end Restart

section Status

def defaultUserStatus (rmq : RabbitmqCluster) : DefaultUserStatus where
  serviceName := rmq.childResourceName ""
  secretName :=
    if rmq.vaultDefaultUserSecretEnabled then none else some (rmq.childResourceName "default-user")

def binding (rmq : RabbitmqCluster) : Option String :=
  if rmq.vaultDefaultUserSecretEnabled then none
  else if rmq.externalSecretEnabled then some rmq.spec.secretBackend.externalSecret
  else some (rmq.childResourceName "default-user")

def reconcileStatus (m : Memory) : Operation (Option Err × Memory) := do
  let defaultUser := some (defaultUserStatus m.cluster)
  let binding := binding m.cluster
  if m.cluster.status.defaultUser = defaultUser ∧ m.cluster.status.binding = binding then return (none, m)
  else patchStatus m fun s => { s with defaultUser, binding }

inductive NodeQuorumStatus
  | ok
  | quorumCritical
  | unavailable
deriving DecidableEq

def checkNodeQuorumStatus (podName : String) : Operation (String × NodeQuorumStatus) := do
  match ← Client.isQuorumCritical podName with
  | .error _ => return (podName, .unavailable)
  | .ok true => return (podName, .quorumCritical)
  | .ok false => return (podName, .ok)

def checkNodes : List Endpoint → Operation (List (String × NodeQuorumStatus))
  | [] => return []
  | e :: es => do
    -- The checks run at the same time; here they finish in the order of the endpoints.
    let result ← checkNodeQuorumStatus e.podName
    return result :: (← checkNodes es)

def formatQuorumStatus (results : List (String × NodeQuorumStatus)) : String :=
  let criticalPods := (results.filter (fun x => x.2 = .quorumCritical)).map Prod.fst
  let unavailableCount := results.countP (fun x => x.2 = .unavailable)
  let okCount := results.countP (fun x => x.2 = .ok)
  let suffix := if unavailableCount > 0 then " (" ++ toString unavailableCount ++ " unavailable)" else ""
  if criticalPods ≠ [] then "quorum-critical: " ++ ", ".intercalate criticalPods ++ suffix
  else if okCount > 0 then "ok" ++ suffix
  else "unavailable"

def checkQuorumStatus : Operation String := do
  match ← Client.listEndpointSlices with
  | .error _ => return "unavailable"
  | .ok [] => return "unavailable"
  | .ok ([] :: _) => return "unavailable"
  | .ok (endpoints :: _) => return formatQuorumStatus (← checkNodes endpoints)

def updateQuorumStatus (m : Memory) : Operation Memory := do
  let newStatus ← checkQuorumStatus
  if m.cluster.status.quorumStatus = newStatus then return m
  else
    -- An error is only logged.
    let (_, m) ← patchStatus m fun s => { s with quorumStatus := newStatus }
    return m

end Status

section Version

def setVersions (versions : String × String) (c : RabbitmqCluster) : RabbitmqCluster :=
  { c with annotations :=
      (c.annotations.set rabbitmqVersionAnnotation versions.1).set erlangVersionAnnotation versions.2 }

def versionsAnnotated (c : RabbitmqCluster) (versions : String × String) : Bool :=
  c.annotations.entries ≠ [] &&
    (c.annotations.get? rabbitmqVersionAnnotation).getD "" = versions.1 &&
    (c.annotations.get? erlangVersionAnnotation).getD "" = versions.2

def reconcileRabbitmqVersionAnnotation (m : Memory) : Operation (ℕ × Option Err × Memory) := do
  match ← Client.getStatefulSet with
  | .error e => return (0, some (.api e), m)
  | .ok sts =>
    if allReplicasReadyAndUpdated sts then
      match ← Client.overview (m.cluster.childResourceName "server" ++ "-0") with
      | .error _ => return (0, none, m)
      | .ok versions =>
        if versionsAnnotated m.cluster versions then return (0, none, m)
        else
          match ← updateCluster (m.modify (setVersions versions)) with
          | (none, m) => return (0, none, m)
          | (some err, m) =>
            return (0, some (.wrap "failed to update RabbitmqCluster with version annotations" err), m)
    else return (15, none, m)

end Version

section Cli

def nilPointer : Err := .text "runtime error: invalid memory address or nil pointer dereference"

def pluginsConfigUpdatedRecently (cfg : DataObject) : Operation (Except Err Bool) := do
  match cfg.metadata.annotations.get? pluginsUpdateAnnotation with
  | none => return .ok false
  | some pluginsUpdatedAt =>
    match ← Client.secondsSince pluginsUpdatedAt with
    | none => return .error (.text ("parsing time " ++ pluginsUpdatedAt))
    | some seconds => return .ok (seconds < 2)

def setPlugins (pods : List String) (command : String) : Operation (Option Err) :=
  match pods with
  | [] => return none
  | podName :: pods => do
    match ← Client.exec podName command with
    | .error e => return some (.wrap ("failed to set plugins on pod " ++ podName) (.api e))
    | .ok _ => setPlugins pods command

def setPluginsCommand (rmq : RabbitmqCluster) : String :=
  "rabbitmq-plugins set " ++ pluginsAsString rmq.spec.rabbitmq.additionalPlugins " "

def serverPods (rmq : RabbitmqCluster) : List String :=
  (List.range rmq.spec.replicas).map fun i => rmq.childResourceName "server" ++ "-" ++ toString i

def runSetPluginsCommand (rmq : RabbitmqCluster) (configMap : DataObject) : Operation (Option Err) := do
  match ← setPlugins (serverPods rmq) (setPluginsCommand rmq) with
  | some err => return some err
  | none =>
    let (err, _) ← deleteAnnotation (Client.children .pluginsConf) pluginsUpdateAnnotation configMap
    return err

def runEnableFeatureFlagsCommand (rmq : RabbitmqCluster) (sts : StatefulSet) : Operation (Option Err) := do
  let podName := rmq.childResourceName "server" ++ "-0"
  match ← Client.exec podName "rabbitmqctl enable_feature_flag all" with
  | .error e => return some (.wrap ("failed to enable all feature flags on pod " ++ podName) (.api e))
  | .ok _ =>
    let (err, _) ← deleteAnnotation Client.statefulSets stsCreateAnnotation sts
    return err

def runQueueRebalanceCommand (m : Memory) : Operation (Option Err × Memory) := do
  let podName := m.cluster.childResourceName "server" ++ "-0"
  match ← Client.exec podName "rabbitmq-queues rebalance all" with
  | .error e => return (some (.wrap ("failed to run queue rebalance on pod " ++ podName) (.api e)), m)
  | .ok _ =>
    let x ← deleteAnnotation Client.clusters queueRebalanceAnnotation m.cluster
    return m.annotated x

def setPluginsIfAnnotated (m : Memory) (pluginsConfig : DataObject) : Operation (Option Err) :=
  if (pluginsConfig.metadata.annotations.get? pluginsUpdateAnnotation).getD "" ≠ "" then
    runSetPluginsCommand m.cluster pluginsConfig
  else return none

def enableFeatureFlagsIfNeeded (m : Memory) (sts : StatefulSet) : Operation (Option Err) :=
  if (sts.metadata.annotations.get? stsCreateAnnotation).getD "" ≠ "" ||
      m.cluster.spec.autoEnableAllFeatureFlags then
    runEnableFeatureFlagsCommand m.cluster sts
  else return none

def rebalanceQueuesIfAnnotated (m : Memory) : Operation (Option Err × Memory) :=
  if (m.cluster.annotations.get? queueRebalanceAnnotation).getD "" ≠ "" then runQueueRebalanceCommand m
  else return (none, m)

def runCommands (m : Memory) (sts : StatefulSet) (pluginsConfig : DataObject) :
    Operation (Option Err × Memory) := do
  match ← setPluginsIfAnnotated m pluginsConfig with
  | some err => return (some err, m)
  | none =>
    match ← enableFeatureFlagsIfNeeded m sts with
    | some err => return (some err, m)
    | none => rebalanceQueuesIfAnnotated m

def runRabbitmqCLICommandsIfAnnotated (m : Memory) : Operation (Except Err (ℕ × Option Err × Memory)) := do
  match ← Client.getStatefulSet with
  | .error e => return .ok (0, some (.api e), m)
  | .ok sts =>
    if allReplicasReadyAndUpdated sts then
      match ← Client.getChild .pluginsConf with
      -- A panic: the annotations of the missing ConfigMap are read all the same.
      | .error .notFound => return .error nilPointer
      | .error e => return .ok (0, some (.api e), m)
      | .ok pluginsConfig =>
        match ← pluginsConfigUpdatedRecently pluginsConfig with
        | .error err => return .ok (0, some err, m)
        | .ok true => return .ok (2, none, m)
        | .ok false =>
          let (err, m) ← runCommands m sts pluginsConfig
          return .ok (0, err, m)
    else return .ok (15, none, m)

end Cli

end ClusterOperator.Controller
