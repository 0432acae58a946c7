import ClusterOperator.Resource.ServiceBuilder

namespace ClusterOperator.Resource

open Api Kubernetes

structure ServiceAccount where
  metadata : ObjectMeta := {}
deriving DecidableEq

structure PolicyRule where
  apiGroups : List String
  resources : List String
  verbs : List String
deriving DecidableEq

structure Role where
  metadata : ObjectMeta := {}
  rules : List PolicyRule := []
deriving DecidableEq

structure RoleRef where
  apiGroup : String := ""
  kind : String := ""
  name : String := ""
deriving DecidableEq

structure Subject where
  kind : String
  name : String
  ns : String
deriving DecidableEq

structure RoleBinding where
  metadata : ObjectMeta := {}
  roleRef : RoleRef := {}
  subjects : List Subject := []
deriving DecidableEq

variable (cluster : RabbitmqCluster)

namespace ServiceAccountBuilder

def build : ServiceAccount := {}

def update (serviceAccount : ServiceAccount) : Except Err ServiceAccount := do
  let metadata ← setControllerReference cluster (reconcileMetadata cluster serviceAccount.metadata)
  return { metadata }

end ServiceAccountBuilder

namespace RoleBuilder

def build : Role := {}

def update (role : Role) : Except Err Role := do
  let metadata ← setControllerReference cluster (reconcileMetadata cluster role.metadata)
  return { metadata, rules := [⟨[""], ["endpoints"], ["get"]⟩, ⟨[""], ["events"], ["create"]⟩] }

end RoleBuilder

namespace RoleBindingBuilder

def build : RoleBinding := {}

def update (roleBinding : RoleBinding) : Except Err RoleBinding := do
  let metadata ← setControllerReference cluster (reconcileMetadata cluster roleBinding.metadata)
  return {
    metadata
    roleRef := ⟨"rbac.authorization.k8s.io", "Role", cluster.childResourceName "peer-discovery"⟩
    subjects := [⟨"ServiceAccount", cluster.childResourceName "server", cluster.ns⟩] }

end RoleBindingBuilder

end ClusterOperator.Resource
