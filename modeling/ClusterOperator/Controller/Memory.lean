import ClusterOperator.Resource.StatefulSetBuilder
import ClusterOperator.Scaling.PersistenceScaler
import ClusterOperator.Status.Conditions

/-! The RabbitmqCluster that a Reconcile holds in memory. The builders read it, and every
successful call for it overwrites it with what the server returned. -/

namespace ClusterOperator.Controller

open Api Kubernetes Interaction

/-- `sharesClaims` tells whether the StatefulSet in memory shares its claim requests with the
override in `cluster`. `computed` records the generation behind each `Update` of a builder, and
`observed` the one that is reported with success. -/
structure Memory where
  cluster : RabbitmqCluster
  sharesClaims : Bool := false
  computed : List ℕ := []
  observed : Option ℕ := none
deriving DecidableEq

namespace Memory

def modify (m : Memory) (f : RabbitmqCluster → RabbitmqCluster) : Memory :=
  { m with cluster := f m.cluster }

def refresh (m : Memory) (c : RabbitmqCluster) : Memory :=
  { m with cluster := c, sharesClaims := false }

def compute (m : Memory) : Memory := { m with computed := m.computed ++ [m.cluster.generation] }

end Memory

/-- What Reconcile returns; the time to requeue after is in seconds. -/
structure Result where
  requeueAfter : ℕ := 0
  err : Option Err := none
deriving DecidableEq

def orReturn {α β : Type} (p : Operation (Except (Result × Memory) α))
    (f : α → Operation (Except (Result × Memory) β)) : Operation (Except (Result × Memory) β) := do
  match ← p with
  | .error r => return .error r
  | .ok a => f a

def updateCluster (m : Memory) : Operation (Option Err × Memory) := do
  match ← Client.updateCluster m.cluster with
  | .error e => return (some (.api e), m)
  | .ok c => return (none, m.refresh c)

def patchStatus (m : Memory) (f : RabbitmqClusterStatus → RabbitmqClusterStatus) :
    Operation (Option Err × Memory) := do
  let modified := m.modify (fun c => { c with status := f c.status })
  match ← Client.patchStatus m.cluster modified.cluster with
  | .error e => return (some (.api e), modified)
  | .ok c => return (none, modified.refresh c)

def setReconcileSuccess (m : Memory) (condition : ConditionStatus) (reason msg : String) :
    Operation Memory := do
  let m := if condition = .true then { m with observed := some m.cluster.generation } else m
  let (_, m) ← patchStatus m fun s =>
    let s := s.setCondition .reconcileSuccess condition reason msg
    if condition = .true then { s with observedGeneration := m.cluster.generation } else s
  return m

def errorIsConflictOrNotFound (err : Err) : Bool := err.isConflict || err.isNotFound

section Annotations

variable {α : Type} (client : Resource α)

def deleteAnnotation (key : String) (obj : α) : Operation (Option Err × α) := do
  if (client.annotations obj).entries = [] then return (none, obj)
  else
    let obj := client.setAnnotations obj ((client.annotations obj).erase key)
    match ← client.update obj with
    | .error e => return (some (.api e), obj)
    | .ok obj => return (none, obj)

def annotate (key value : String) (obj : α) : Operation (Option Err × α) := do
  match ← client.get with
  | .error e => return (some (.api e), obj)
  | .ok obj =>
    let obj := client.setAnnotations obj ((client.annotations obj).set key value)
    match ← client.update obj with
    | .error e => return (some (.api e), obj)
    | .ok obj => return (none, obj)

def updateAnnotation (key value : String) (obj : α) : Operation (Option Err × α) :=
  onError errorIsConflictOrNotFound (annotate client key value) defaultRetry obj

end Annotations

def Memory.annotated (m : Memory) : Option Err × RabbitmqCluster → Option Err × Memory
  | (none, c) => (none, m.refresh c)
  | (some err, c) => (some err, m.modify fun _ => c)

end ClusterOperator.Controller
