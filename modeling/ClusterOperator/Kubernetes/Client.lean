import ClusterOperator.Interaction.Contract
import ClusterOperator.Kubernetes.ApiServer

/-! The requests of the operator and the server that answers them. Besides the API these
are commands run in pods, the management API of the nodes, the clock and random bytes. -/

namespace ClusterOperator.Kubernetes

open Api Interaction

inductive Request
  | getCluster
  | createCluster (c : RabbitmqCluster)
  | updateCluster (c : RabbitmqCluster)
  | patchStatus (base modified : RabbitmqCluster)
  | getStatefulSet
  | createStatefulSet (o : StatefulSet)
  | updateStatefulSet (o : StatefulSet)
  | deleteStatefulSet
  | getChild (k : Kind)
  | createChild (k : Kind) (o : DataObject)
  | updateChild (k : Kind) (o : DataObject)
  | deleteChild (k : Kind)
  | getPvc (name : String)
  | updatePvc (p : PersistentVolumeClaim)
  | listPods
  | updatePod (p : Pod)
  | getSecret (name : String)
  | listEndpointSlices
  | exec (pod : String) (command : String)
  | overview (pod : String)
  | isQuorumCritical (pod : String)
  | now
  | secondsSince (time : String)
  | random

def Reply : Request → Type
  | .getCluster | .createCluster _ | .updateCluster _ | .patchStatus _ _ => Except ApiError RabbitmqCluster
  | .getStatefulSet | .createStatefulSet _ | .updateStatefulSet _ => Except ApiError StatefulSet
  | .deleteStatefulSet | .deleteChild _ | .updatePod _ => Except ApiError Unit
  | .getChild _ | .createChild _ _ | .updateChild _ _ | .getSecret _ => Except ApiError DataObject
  | .getPvc _ | .updatePvc _ => Except ApiError PersistentVolumeClaim
  | .listPods => Except ApiError (List Pod)
  | .listEndpointSlices => Except ApiError (List (List Endpoint))
  | .exec _ _ => Except ApiError String
  | .overview _ => Except ApiError (String × String)
  | .isQuorumCritical _ => Except ApiError Bool
  | .now | .random => String
  | .secondsSince _ => Option ℤ

abbrev api : Interface := ⟨Request, Reply⟩

/-- A call that goes wrong. A `lost` call takes effect and only its reply is an error. -/
inductive Fault
  | conflict
  | failure (message : String)
  | lost (message : String)

def Fault.error : Fault → ApiError
  | conflict => .conflict
  | failure message | lost message => .failure message

/-- The environment's turn at a request: what others write before it is served, whether
it goes wrong, and what is outside of the store. -/
structure Turn where
  edits : List Edit := []
  fault : Option Fault := none
  endpoints : List (List Endpoint) := []
  exec : Except ApiError String := .ok ""
  overview : Except ApiError (String × String) := .ok ("", "")
  quorumCritical : Except ApiError Bool := .ok false
  now : String := ""
  secondsSince : Option ℤ := some 60
  random : String := ""

def answer (t : Turn) : (r : Request) → Store → Reply r × Store
  | .getCluster, s => (found s.cluster, s)
  | .createCluster c, s => s.createCluster c
  | .updateCluster c, s => s.updateCluster c
  | .patchStatus base modified, s => s.patchStatus base modified
  | .getStatefulSet, s => (found s.statefulSet, s)
  | .createStatefulSet o, s => s.createStatefulSet o
  | .updateStatefulSet o, s => s.updateStatefulSet o
  | .deleteStatefulSet, s => s.deleteStatefulSet
  | .getChild k, s => (found (s.child k), s)
  | .createChild k o, s => s.createChild k o
  | .updateChild k o, s => s.updateChild k o
  | .deleteChild k, s => s.deleteChild k
  | .getPvc name, s => (found (s.pvc name), s)
  | .updatePvc p, s => s.updatePvc p
  | .listPods, s => (.ok s.pods, s)
  | .updatePod p, s => s.updatePod p
  | .getSecret name, s => (found (s.secrets name), s)
  | .listEndpointSlices, s => (.ok t.endpoints, s)
  | .exec _ _, s => (t.exec, s)
  | .overview _, s => (t.overview, s)
  | .isQuorumCritical _, s => (t.quorumCritical, s)
  | .now, s => (t.now, s)
  | .secondsSince _, s => (t.secondsSince, s)
  | .random, s => (t.random, s)

def refuse (e : ApiError) : (r : Request) → Option (Reply r)
  | .getCluster | .createCluster _ | .updateCluster _ | .patchStatus _ _ => some (.error e)
  | .getStatefulSet | .createStatefulSet _ | .updateStatefulSet _ => some (.error e)
  | .deleteStatefulSet | .deleteChild _ | .updatePod _ => some (.error e)
  | .getChild _ | .createChild _ _ | .updateChild _ _ | .getSecret _ => some (.error e)
  | .getPvc _ | .updatePvc _ => some (.error e)
  | .listPods => some (.error e)
  | .listEndpointSlices => some (.error e)
  | .exec _ _ => some (.error e)
  | .overview _ => some (.error e)
  | .isQuorumCritical _ => some (.error e)
  | .now | .random | .secondsSince _ => none

def serve (t : Turn) (r : Request) (s : Store) : Reply r × Store :=
  match t.fault with
  | none => answer t r s
  | some f =>
    match refuse f.error r with
    | none => answer t r s
    | some reply =>
      match f with
      | .lost _ => (reply, (answer t r s).2)
      | _ => (reply, s)

def server : Server api Store Turn where
  disturb t s := t.edits.foldl Edit.apply s
  serve := serve

abbrev Operation (α : Type) := Program api α

namespace Client

abbrev getCluster : Operation (Except ApiError RabbitmqCluster) := Program.send .getCluster .done
abbrev createCluster (c : RabbitmqCluster) : Operation (Except ApiError RabbitmqCluster) :=
  Program.send (.createCluster c) .done
abbrev updateCluster (c : RabbitmqCluster) : Operation (Except ApiError RabbitmqCluster) :=
  Program.send (.updateCluster c) .done
abbrev patchStatus (base modified : RabbitmqCluster) : Operation (Except ApiError RabbitmqCluster) :=
  Program.send (.patchStatus base modified) .done
abbrev getStatefulSet : Operation (Except ApiError StatefulSet) := Program.send .getStatefulSet .done
abbrev createStatefulSet (o : StatefulSet) : Operation (Except ApiError StatefulSet) :=
  Program.send (.createStatefulSet o) .done
abbrev updateStatefulSet (o : StatefulSet) : Operation (Except ApiError StatefulSet) :=
  Program.send (.updateStatefulSet o) .done
abbrev deleteStatefulSet : Operation (Except ApiError Unit) := Program.send .deleteStatefulSet .done
abbrev getChild (k : Kind) : Operation (Except ApiError DataObject) := Program.send (.getChild k) .done
abbrev createChild (k : Kind) (o : DataObject) : Operation (Except ApiError DataObject) :=
  Program.send (.createChild k o) .done
abbrev updateChild (k : Kind) (o : DataObject) : Operation (Except ApiError DataObject) :=
  Program.send (.updateChild k o) .done
abbrev deleteChild (k : Kind) : Operation (Except ApiError Unit) := Program.send (.deleteChild k) .done
abbrev getPvc (name : String) : Operation (Except ApiError PersistentVolumeClaim) :=
  Program.send (.getPvc name) .done
abbrev updatePvc (p : PersistentVolumeClaim) : Operation (Except ApiError PersistentVolumeClaim) :=
  Program.send (.updatePvc p) .done
abbrev listPods : Operation (Except ApiError (List Pod)) := Program.send .listPods .done
abbrev updatePod (p : Pod) : Operation (Except ApiError Unit) := Program.send (.updatePod p) .done
abbrev getSecret (name : String) : Operation (Except ApiError DataObject) :=
  Program.send (.getSecret name) .done
abbrev listEndpointSlices : Operation (Except ApiError (List (List Endpoint))) :=
  Program.send .listEndpointSlices .done
abbrev exec (pod command : String) : Operation (Except ApiError String) :=
  Program.send (.exec pod command) .done
abbrev overview (pod : String) : Operation (Except ApiError (String × String)) :=
  Program.send (.overview pod) .done
abbrev isQuorumCritical (pod : String) : Operation (Except ApiError Bool) :=
  Program.send (.isQuorumCritical pod) .done
abbrev now : Operation String := Program.send .now .done
abbrev secondsSince (time : String) : Operation (Option ℤ) := Program.send (.secondsSince time) .done
abbrev random : Operation String := Program.send .random .done

end Client

end ClusterOperator.Kubernetes
