import ClusterOperator.Kubernetes.ControllerRuntime

/-! Expansion of the persistent volume claims of a cluster: the StatefulSet is deleted
without its pods, the claims are resized, and the caller creates the StatefulSet again. -/

namespace ClusterOperator.Scaling

open Api Kubernetes Interaction

def persistenceStorageCapacity (templates : List ClaimTemplate) : Quantity :=
  match templates.find? (fun t => t.name = "persistence") with
  | some t => t.storage.getD 0
  | none => 0

lemma persistenceStorageCapacity_controller (templates : List ClaimTemplate) (owner : Option String) :
    persistenceStorageCapacity (templates.map fun t => { t with controller := owner }) =
      persistenceStorageCapacity templates := by
  simp only [persistenceStorageCapacity, List.find?_map, Function.comp_def]
  cases templates.find? (fun t => t.name = "persistence") <;> rfl

def existingCapacity : Operation (Except ApiError Quantity) := do
  return (← Client.getStatefulSet).map (fun sts => persistenceStorageCapacity sts.volumeClaimTemplates)

def getPVCs (rmq : RabbitmqCluster) :
    List ℕ → List PersistentVolumeClaim → Operation (Except Err (List PersistentVolumeClaim))
  | [], pvcs => return .ok pvcs
  | i :: is, pvcs => do
    match ← Client.getPvc (rmq.pvcName i) with
    | .ok pvc => getPVCs rmq is (pvcs ++ [pvc])
    | .error .notFound => getPVCs rmq is pvcs
    | .error e => return .error (.wrap "failed to get PVC from Kubernetes API" (.api e))

def getClusterPVCs (rmq : RabbitmqCluster) : Operation (Except Err (List PersistentVolumeClaim)) :=
  getPVCs rmq (List.range rmq.spec.replicas) []

def pvcsNeedingScaling (existingPVCs : List PersistentVolumeClaim) (desiredCapacity : Quantity) :
    List PersistentVolumeClaim :=
  existingPVCs.filter (fun pvc => pvc.storage < desiredCapacity)

def retryUntilDeleted : ℕ → Operation Bool
  | 0 => return false
  | retry + 1 => do
    match ← Client.getStatefulSet with
    | .error .notFound => return true
    | _ => retryUntilDeleted retry

def deleteSts (rmq : RabbitmqCluster) : Operation (Except Err Unit) := do
  match ← Client.getStatefulSet with
  | .error .notFound => return .ok ()
  | .error e => return .error (.wrap "failed to get statefulset from Kubernetes API" (.api e))
  | .ok _ =>
    match ← Client.deleteStatefulSet with
    | .error e =>
      return .error (.wrap ("failed to delete statefulSet " ++ rmq.childResourceName "server") (.api e))
    | .ok _ =>
      if ← retryUntilDeleted 10 then return .ok ()
      else return .error (.wrap ("statefulSet not deleting after 30 seconds " ++ rmq.childResourceName "server")
        (.text "failed to delete statefulSet after 10 retries"))

def scaleUpPVCs (desiredCapacity : Quantity) :
    List PersistentVolumeClaim → Operation (Except Err Unit)
  | [] => return .ok ()
  | pvc :: pvcs => do
    match ← Client.getPvc pvc.name with
    | .error e => return .error (.wrap "failed to get PVC from Kubernetes API" (.api e))
    | .ok latest =>
      match ← Client.updatePvc { latest with storage := desiredCapacity } with
      | .error e =>
        return .error (.wrap ("failed to update PersistentVolumeClaim " ++ latest.name) (.api e))
      | .ok _ => scaleUpPVCs desiredCapacity pvcs

def ephemeralToPersistent : Err :=
  .text "changing from ephemeral to persistent storage is not supported"

def shrinking : Err := .text "shrinking persistent volumes is not supported"

/-- The two guards of `Scale`. They are passed by if there is no StatefulSet to read. -/
def unsupported (existingCapacity desiredCapacity : Quantity) : Option Err :=
  if existingCapacity = 0 ∧ desiredCapacity ≠ 0 then some ephemeralToPersistent
  else if desiredCapacity < existingCapacity then some shrinking
  else none

def expand (rmq : RabbitmqCluster) (desiredCapacity : Quantity) : Operation (Except Err Unit) := do
  match ← getClusterPVCs rmq with
  | .error err => return .error err
  | .ok existingPVCs =>
    let pvcsToBeScaled := pvcsNeedingScaling existingPVCs desiredCapacity
    if pvcsToBeScaled = [] then return .ok ()
    else
      match ← deleteSts rmq with
      | .error err => return .error (.wrap "failed to delete Statefulset from Kubernetes API" err)
      | .ok _ => scaleUpPVCs desiredCapacity pvcsToBeScaled

def scaleFrom (rmq : RabbitmqCluster) (desiredCapacity : Quantity) :
    Except ApiError Quantity → Operation (Except Err Unit)
  | .error .notFound => expand rmq desiredCapacity
  | .error e => return .error (.wrap "failed to determine existing STS capactiy" (.api e))
  | .ok existingCapacity =>
    match unsupported existingCapacity desiredCapacity with
    | some err => return .error err
    | none => expand rmq desiredCapacity

def scale (rmq : RabbitmqCluster) (desiredCapacity : Quantity) : Operation (Except Err Unit) := do
  scaleFrom rmq desiredCapacity (← existingCapacity)

end ClusterOperator.Scaling
