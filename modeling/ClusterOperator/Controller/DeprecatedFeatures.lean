import ClusterOperator.Controller.Memory
import ClusterOperator.RabbitmqClient.ClientInfo

/-! The controller that reports the deprecated features a cluster uses. It works on its own,
beside the one of the clusters. -/

namespace ClusterOperator.Controller

open Api Kubernetes Interaction RabbitmqClient

inductive FeatureRequest
  | getCluster
  | getSecret (name : String)
  | getService (name : String)
  | listDeprecatedFeaturesUsed (rabbitClient : ClientInfo)
  | patchStatus (base modified : RabbitmqCluster)

def FeatureReply : FeatureRequest → Type
  | .getCluster | .patchStatus _ _ => Except ApiError RabbitmqCluster
  | .getSecret _ => Except ApiError DataObject
  | .getService _ => Except ApiError Service
  | .listDeprecatedFeaturesUsed _ => Except ApiError (List String)

abbrev featureApi : Interface := ⟨FeatureRequest, FeatureReply⟩

abbrev FeatureOperation (α : Type) := Program featureApi α

namespace FeatureClient

abbrev getCluster : FeatureOperation (Except ApiError RabbitmqCluster) := Program.send .getCluster .done
abbrev getSecret (name : String) : FeatureOperation (Except ApiError DataObject) :=
  Program.send (.getSecret name) .done
abbrev getService (name : String) : FeatureOperation (Except ApiError Service) :=
  Program.send (.getService name) .done
abbrev listDeprecatedFeaturesUsed (rabbitClient : ClientInfo) : FeatureOperation (Except ApiError (List String)) :=
  Program.send (.listDeprecatedFeaturesUsed rabbitClient) .done
abbrev patchStatus (base modified : RabbitmqCluster) : FeatureOperation (Except ApiError RabbitmqCluster) :=
  Program.send (.patchStatus base modified) .done

end FeatureClient

structure DeprecatedFeatureReconciler where
  pools : CertPools
  interval : ℕ

namespace DeprecatedFeatureReconciler

def apiReader : Reader featureApi := ⟨FeatureClient.getSecret, FeatureClient.getService⟩

def reconcile (r : DeprecatedFeatureReconciler) : FeatureOperation Result := do
  match ← FeatureClient.getCluster with
  | .error .notFound => return {}
  | .error e => return { err := some (.wrap "failed to get RabbitmqCluster" (.api e)) }
  | .ok rmq =>
    match ← getClientForService apiReader r.pools rmq with
    | .error _ => return { requeueAfter := r.interval }
    | .ok rabbitClient =>
      match ← FeatureClient.listDeprecatedFeaturesUsed rabbitClient with
      | .error _ => return { requeueAfter := r.interval }
      | .ok deprecatedFeatures =>
        if rmq.status.deprecatedFeaturesUsed = deprecatedFeatures then return { requeueAfter := r.interval }
        else
          match ← FeatureClient.patchStatus rmq { rmq with status.deprecatedFeaturesUsed := deprecatedFeatures } with
          | .ok _ => return { requeueAfter := r.interval }
          -- Another error would have the request made again at once.
          | .error .conflict => return { requeueAfter := r.interval }
          | .error e => return { err := some (.wrap "failed to update deprecated features status" (.api e)) }

end DeprecatedFeatureReconciler

/-- The environment's turn at a request of this controller. A `cached` cluster is an old one
that is still in the cache of the client. -/
structure FeatureTurn where
  edits : List Edit := []
  fault : Option Fault := none
  cached : Option RabbitmqCluster := none
  secret : Except ApiError DataObject := .error .notFound
  service : Except ApiError Service := .error .notFound
  features : Except ApiError (List String) := .ok []

namespace FeatureTurn

def answer (u : FeatureTurn) : (q : FeatureRequest) → Store → FeatureReply q × Store
  | .getCluster, s => (found (u.cached.or s.cluster), s)
  | .getSecret _, s => (u.secret, s)
  | .getService _, s => (u.service, s)
  | .listDeprecatedFeaturesUsed _, s => (u.features, s)
  | .patchStatus base modified, s => s.patchStatus base modified

def refuse (e : ApiError) : (q : FeatureRequest) → FeatureReply q
  | .getCluster | .patchStatus _ _ | .getSecret _ | .getService _ | .listDeprecatedFeaturesUsed _ => .error e

def serve (u : FeatureTurn) (q : FeatureRequest) (s : Store) : FeatureReply q × Store :=
  match u.fault with
  | none => u.answer q s
  | some (.lost message) => (refuse (.failure message) q, (u.answer q s).2)
  | some f => (refuse f.error q, s)

end FeatureTurn

def featureServer : Server featureApi Store FeatureTurn where
  disturb u s := u.edits.foldl Edit.apply s
  serve := FeatureTurn.serve

end ClusterOperator.Controller
