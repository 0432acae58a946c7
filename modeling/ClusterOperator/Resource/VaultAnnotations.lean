import ClusterOperator.Resource.PodTemplate

namespace ClusterOperator.Resource

open Api Kubernetes

variable {cluster : RabbitmqCluster} {vault : VaultSpec}

def commonVaultAnnotations (vault : VaultSpec) : StringMap :=
  let vaultAnnotations : StringMap :=
    ⟨[("vault.hashicorp.com/agent-inject", "true"), ("vault.hashicorp.com/agent-init-first", "true"),
      ("vault.hashicorp.com/role", vault.role)]⟩
  if vault.defaultUserPath ≠ "" then vaultAnnotations.merge (vaultDefaultUserAnnotations vault)
  else vaultAnnotations

lemma appendVaultAnnotations_eq (current : StringMap) :
    appendVaultAnnotations cluster current vault =
      (current.merge (if vault.tls.pkiIssuerPath ≠ "" then
        (commonVaultAnnotations vault).merge (vaultTLSAnnotations cluster vault)
        else commonVaultAnnotations vault)).merge vault.annotations := rfl

lemma keysNodup_commonVaultAnnotations : (commonVaultAnnotations vault).KeysNodup := by
  have hbase : (StringMap.mk [("vault.hashicorp.com/agent-inject", "true"),
      ("vault.hashicorp.com/agent-init-first", "true"), ("vault.hashicorp.com/role", vault.role)]).KeysNodup := by
    simp [StringMap.KeysNodup]
  unfold commonVaultAnnotations
  dsimp only
  split
  · exact hbase.merge _
  · exact hbase

lemma keysNodup_defaultPodAnnotations : (defaultPodAnnotations cluster).KeysNodup := by
  have hnil : (StringMap.mk []).KeysNodup := List.nodup_nil
  unfold defaultPodAnnotations
  split
  · exact hnil
  · exact (hnil.merge _).merge _

lemma lastEntry_defaultPodAnnotations (hv : cluster.spec.secretBackend.vault = some vault)
    (ht : vault.tls.pkiIssuerPath ≠ "") (k : String) :
    StringMap.lastEntry k (defaultPodAnnotations cluster).entries =
      (StringMap.lastEntry k vault.annotations.entries).or
        ((StringMap.lastEntry k (vaultTLSAnnotations cluster vault).entries).or
          ((commonVaultAnnotations vault).get? k)) := by
  have hempty : (StringMap.mk []).get? k = none := rfl
  rw [keysNodup_defaultPodAnnotations.lastEntry_eq, defaultPodAnnotations, hv]
  dsimp only
  rw [appendVaultAnnotations_eq, if_pos ht, StringMap.get?_merge, StringMap.get?_merge,
    (keysNodup_commonVaultAnnotations.merge _).lastEntry_eq, StringMap.get?_merge, hempty, Option.or_none]

end ClusterOperator.Resource
