import ClusterOperator.Kubernetes.ControllerRuntime

namespace ClusterOperator.Resource

open Api Kubernetes

def hasPrefix (p s : String) : Bool := p.toList.isPrefixOf s.toList

def contains (s sub : String) : Bool := s.toList.tails.any sub.toList.isPrefixOf

def label (instanceName : String) : StringMap :=
  ⟨[("app.kubernetes.io/name", instanceName), ("app.kubernetes.io/component", "rabbitmq"),
    ("app.kubernetes.io/part-of", "rabbitmq")]⟩

def getLabels (instanceName : String) (instanceLabels : StringMap) : StringMap :=
  (label instanceName).merge (instanceLabels.filterKeys (fun k => !hasPrefix "app.kubernetes.io" k))

def labelSelector (instanceName : String) : StringMap := ⟨[("app.kubernetes.io/name", instanceName)]⟩

def isKubernetesAnnotation (k : String) : Bool := contains k "kubernetes.io" || contains k "k8s.io"

def reconcileAnnotations (existing defaults : StringMap) : StringMap := existing.merge defaults

def reconcileAndFilterAnnotations (existing defaults : StringMap) : StringMap :=
  existing.merge (defaults.filterKeys (fun k => ! isKubernetesAnnotation k))

def setControllerReference (owner : RabbitmqCluster) (m : ObjectMeta) : Except Err ObjectMeta :=
  match m.controller with
  | none => .ok { m with controller := some owner.name }
  | some other =>
    if other = owner.name then .ok m
    else .error (.wrap "failed setting controller reference" (.text ("already owned by " ++ other)))

lemma setControllerReference_eq {owner : RabbitmqCluster} {m out : ObjectMeta}
    (h : setControllerReference owner m = .ok out) : out = { m with controller := some owner.name } := by
  unfold setControllerReference at h
  split at h
  · cases h
    rfl
  · split at h
    · rename_i hc hname
      cases h
      rw [← hname, ← hc]
    · cases h

def copyLabelsAnnotations (base : ObjectMeta) (override : EmbeddedMeta) : ObjectMeta :=
  { base with
    labels := base.labels.merge override.labels
    annotations := base.annotations.merge override.annotations }

end ClusterOperator.Resource
