import ClusterOperator.Api.RabbitmqCluster

namespace ClusterOperator.Status

open Api Kubernetes

def allReplicasReadyCondition : Option StatefulSet → Condition
  | none => ⟨.allReplicasReady, .unknown, "MissingStatefulSet", "Could not find StatefulSet"⟩
  | some sts =>
    if sts.replicas = 0 then ⟨.allReplicasReady, .false, "ScaledToZero", ""⟩
    else if sts.replicas = sts.status.readyReplicas then ⟨.allReplicasReady, .true, "AllPodsAreReady", ""⟩
    else ⟨.allReplicasReady, .false, "NotAllPodsReady",
      toString sts.status.readyReplicas ++ "/" ++ toString sts.replicas ++ " Pods ready"⟩

def clusterAvailableCondition : Option (List Endpoint) → Condition
  | none => ⟨.clusterAvailable, .unknown, "CouldNotRetrieveEndpoints",
      "Could not verify available service endpoints"⟩
  | some endpoints =>
    if endpoints.any (fun e => !e.addresses.isEmpty) then
      ⟨.clusterAvailable, .true, "AtLeastOneEndpointAvailable", ""⟩
    else ⟨.clusterAvailable, .false, "NoEndpointsAvailable", "The service has no endpoints available"⟩

def noWarningsCondition : Option StatefulSet → Condition
  | none => ⟨.noWarnings, .unknown, "MissingStatefulSet", "Could not find StatefulSet"⟩
  | some sts =>
    let memory := (sts.template.spec.containers.head?.map Container.memory).getD {}
    let limitMemory := memory.limit.getD 0
    let requestMemory := memory.request.getD 0
    if limitMemory ≠ 0 ∧ requestMemory ≠ 0 ∧ limitMemory ≠ requestMemory then
      ⟨.noWarnings, .false, "MemoryRequestAndLimitDifferent",
        "RabbitMQ container memory resource request and limit must be equal"⟩
    else ⟨.noWarnings, .true, "NoWarnings", ""⟩

def setConditions (sts : Option StatefulSet) (endpoints : Option (List Endpoint))
    (s : RabbitmqClusterStatus) : RabbitmqClusterStatus :=
  -- The last of several is kept.
  let old := s.conditions.reverse.find? (fun c => c.type = .reconcileSuccess)
  { s with conditions :=
      [allReplicasReadyCondition sts, clusterAvailableCondition endpoints, noWarningsCondition sts,
        old.getD ⟨.reconcileSuccess, .unknown, "Initialising", ""⟩] }

end ClusterOperator.Status
