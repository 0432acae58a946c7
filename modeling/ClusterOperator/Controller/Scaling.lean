import ClusterOperator.Controller.Memory

namespace ClusterOperator.Controller

open Api Kubernetes Interaction

def beforeZeroReplicasConfigured : String := "rabbitmq.com/before-zero-replicas-configured"

def scaleToZero (current sts : StatefulSet) : Bool := sts.replicas = 0 ∧ current.replicas > 0

def scaleFromZero (current sts : StatefulSet) : Bool := current.replicas = 0 ∧ sts.replicas > 0

def parseDigits (ds : List Char) : Option ℕ :=
  if ds ≠ [] ∧ ds.all Char.isDigit then some (Nat.ofDigitChars 10 ds 0) else none

def parseInt32 (s : String) : Option ℤ :=
  let value : Option ℤ :=
    match s.toList with
    | '-' :: ds => (parseDigits ds).map (fun n => -(n : ℤ))
    | '+' :: ds => (parseDigits ds).map (fun n => (n : ℤ))
    | ds => (parseDigits ds).map (fun n => (n : ℤ))
  value.filter (fun v => -2 ^ 31 ≤ v ∧ v < 2 ^ 31)

def restoreError (annotations : StringMap) (desiredReplicas : ℤ) : Option (String × String) :=
  match annotations.get? beforeZeroReplicasConfigured with
  | none => none
  | some annotationValue =>
    match parseInt32 annotationValue with
    | none => some ("TransformErrorOperation",
        "Failed to convert string to integer for before-zero-replicas-configuration annotation")
    | some beforeZeroReplicas =>
      if desiredReplicas ≠ beforeZeroReplicas then
        some ("UnsupportedOperation",
          "Unsupported operation; when scaling from zero, you can only restore the previous number of replicas (" ++
            toString beforeZeroReplicas ++ ")")
      else none

def recordEventsAndSetCondition (m : Memory) (condStatus : ConditionStatus) (reason msg : String) :
    Operation Memory := do
  -- An error is only logged.
  let (_, m) ← patchStatus m fun s => s.setCondition .reconcileSuccess condStatus reason msg
  return m

def scaleFromZeroToBeforeReplicasConfigured (m : Memory) (sts : StatefulSet) : Operation (Bool × Memory) :=
  match restoreError m.cluster.annotations sts.replicas with
  | none => return (false, m)
  | some (reason, msg) => do
    let m ← recordEventsAndSetCondition m .false reason msg
    return (true, m)

def saveReplicasBeforeZero (m : Memory) (current : StatefulSet) : Operation (Option Err × Memory) := do
  let r ← updateAnnotation Client.clusters beforeZeroReplicasConfigured (toString current.replicas) m.cluster
  return m.annotated r

def removeReplicasBeforeZeroAnnotationIfExists (m : Memory) : Operation Memory :=
  match m.cluster.annotations.get? beforeZeroReplicasConfigured with
  | none => return m
  | some _ => do
    let r ← deleteAnnotation Client.clusters beforeZeroReplicasConfigured m.cluster
    return (m.annotated r).2

def scaleDown (m : Memory) (current sts : StatefulSet) : Operation (Bool × Memory) :=
  if current.replicas > sts.replicas then do
    let m ← recordEventsAndSetCondition m .false "UnsupportedOperation"
      ("Cluster Scale down not supported; tried to scale cluster from " ++ toString current.replicas ++
        " nodes to " ++ toString sts.replicas ++ " nodes")
    return (true, m)
  else return (false, m)

def reconcilePVC (m : Memory) (desiredSts : StatefulSet) : Operation (Except Err Unit) :=
  Scaling.scale m.cluster (Scaling.persistenceStorageCapacity desiredSts.volumeClaimTemplates)

end ClusterOperator.Controller
