import ClusterOperator.Resource.ConfigMaps
import ClusterOperator.Resource.PodUpdate
import ClusterOperator.Resource.VaultAnnotations

namespace ClusterOperator.Resource

open Api Kubernetes

def withReplicas (cluster : RabbitmqCluster) (n : Replicas) : RabbitmqCluster :=
  { cluster with spec := { cluster.spec with replicas := n } }

variable {cluster : RabbitmqCluster} {n : Replicas}

section Configuration

variable {ini : Ini}

lemma updateProperty_eq_self {data : StringMap} {key value : String}
    (h : data.get? key = if value = "" then none else some value) : updateProperty data key value = data := by
  unfold updateProperty
  split
  · exact StringMap.erase_eq_self (by simp [*])
  · exact StringMap.set_eq_self (by simp [*])

lemma operatorConfiguration_filterKeys (auth : Bool) :
    (operatorConfiguration (withReplicas cluster n) auth).filterKeys
        (fun key => !hasPrefix targetClusterSizeHint key) =
      (operatorConfiguration cluster auth).filterKeys fun key => !hasPrefix targetClusterSizeHint key := by
  have hhint : (!hasPrefix targetClusterSizeHint targetClusterSizeHint) = false := by decide
  cases auth <;> simp only [operatorConfiguration, Bool.false_eq_true, if_false, if_true,
    StringMap.filterKeys_set, hhint] <;> rfl

lemma operatorConfiguration_ne_empty (auth : Bool) : operatorConfiguration cluster auth ≠ {} := by
  cases auth <;> exact fun h => nomatch congrArg StringMap.entries h

lemma removeConfigNotRequiringNodeRestart_eq {configMap : DataObject} {conf : StringMap}
    (hempty : ini.load "" = .ok {}) (hload : ini.load (ini.write conf) = .ok conf) (hne : conf ≠ {})
    (hget : configMap.data.get? "operatorDefaults.conf" = some (ini.write conf)) :
    removeConfigNotRequiringNodeRestart ini configMap = .ok { configMap with
      data := configMap.data.set "operatorDefaults.conf"
        (ini.write (conf.filterKeys fun key => !hasPrefix targetClusterSizeHint key)) } := by
  have hwrite : ini.write conf ≠ "" := by
    intro h
    rw [h, hempty, Except.ok.injEq] at hload
    exact hne hload.symm
  unfold removeConfigNotRequiringNodeRestart
  simp only [hget, Option.getD_some, hwrite, if_false, hload]
  rfl

lemma controlled_eq_self {o : DataObject} (h : o.metadata.controller = some cluster.name) :
    controlled cluster o = .ok o := by
  rw [controlled, setControllerReference_eq_self h]
  rfl

lemma controller_of_controlled {o out : DataObject} (h : controlled cluster o = .ok out) :
    out.metadata.controller = some cluster.name := by
  rw [controlled_eq h]

variable {restart : Bool} {configMap stored serverConf : DataObject}

lemma updated_withReplicas (h : ServerConfigMapBuilder.updated cluster ini configMap = .ok serverConf)
    (hdata : stored.data = serverConf.data)
    (hcontroller : stored.metadata.controller = serverConf.metadata.controller) :
    ∃ auth, stored.data.get? "operatorDefaults.conf" = some (ini.write (operatorConfiguration cluster auth)) ∧
      ServerConfigMapBuilder.updated (withReplicas cluster n) ini stored = .ok { stored with
        data := stored.data.set "operatorDefaults.conf"
          (ini.write (operatorConfiguration (withReplicas cluster n) auth)) } := by
  obtain ⟨additionalConfig, hload, hvalid, hout⟩ := ServerConfigMapBuilder.updated_eq_ok.mp h
  have hget (k : String) : stored.data.get? k =
      (ServerConfigMapBuilder.updatedData cluster ini additionalConfig configMap.data).get? k := by
    rw [hdata, ServerConfigMapBuilder.controlled_data hout]
  unfold ServerConfigMapBuilder.updatedData at hget
  have hdefaults : ∃ auth, auth = additionalConfig.entries.any (fun e => hasPrefix "auth_mechanisms" e.1) :=
    ⟨_, rfl⟩
  obtain ⟨auth, hauth⟩ := hdefaults
  rw [← hauth] at hget
  refine ⟨auth, by simp [hget, get?_updateProperty],
    ServerConfigMapBuilder.updated_eq_ok.mpr ⟨additionalConfig, hload, hvalid, ?_⟩⟩
  have hdata' : ServerConfigMapBuilder.updatedData (withReplicas cluster n) ini additionalConfig stored.data =
      stored.data.set "operatorDefaults.conf"
        (ini.write (operatorConfiguration (withReplicas cluster n) auth)) := by
    unfold ServerConfigMapBuilder.updatedData
    rw [← hauth, StringMap.set_eq_self, updateProperty_eq_self, updateProperty_eq_self, updateProperty_eq_self]
    all_goals simp [hget, get?_updateProperty, withReplicas]
    all_goals rfl
  rw [hdata']
  exact controlled_eq_self (hcontroller.trans (controller_of_controlled hout))

lemma update_restart_of_eq {previous : DataObject}
    (hu : ServerConfigMapBuilder.updated cluster ini configMap = .ok serverConf)
    (hp : removeConfigNotRequiringNodeRestart ini configMap = .ok previous)
    (hn : removeConfigNotRequiringNodeRestart ini serverConf = .ok previous) :
    (ServerConfigMapBuilder.update cluster ini restart configMap).1 = false := by
  simp [ServerConfigMapBuilder.update, hu, hp, hn, Bind.bind, Except.bind, Pure.pure, Except.pure]

lemma serverConf_withReplicas (hempty : ini.load "" = .ok {})
    (hload : ∀ auth, ini.load (ini.write (operatorConfiguration cluster auth)) =
      .ok (operatorConfiguration cluster auth))
    (hload' : ∀ auth, ini.load (ini.write (operatorConfiguration (withReplicas cluster n) auth)) =
      .ok (operatorConfiguration (withReplicas cluster n) auth))
    (h : (ServerConfigMapBuilder.update cluster ini restart configMap).2 = .ok serverConf)
    (hdata : stored.data = serverConf.data)
    (hcontroller : stored.metadata.controller = serverConf.metadata.controller) :
    (ServerConfigMapBuilder.update (withReplicas cluster n) ini true stored).1 = false := by
  obtain ⟨auth, hget, hupdated⟩ :=
    updated_withReplicas (n := n) (ServerConfigMapBuilder.updated_of_update h) hdata hcontroller
  have hprevious := removeConfigNotRequiringNodeRestart_eq hempty (hload auth)
    (operatorConfiguration_ne_empty auth) hget
  have hget' : (stored.data.set "operatorDefaults.conf"
      (ini.write (operatorConfiguration (withReplicas cluster n) auth))).get? "operatorDefaults.conf" =
      some (ini.write (operatorConfiguration (withReplicas cluster n) auth)) := by simp
  have hnext : removeConfigNotRequiringNodeRestart ini { stored with
      data := stored.data.set "operatorDefaults.conf"
        (ini.write (operatorConfiguration (withReplicas cluster n) auth)) } =
      removeConfigNotRequiringNodeRestart ini stored := by
    refine (removeConfigNotRequiringNodeRestart_eq hempty (hload' auth)
      (operatorConfiguration_ne_empty auth) hget').trans ?_
    rw [hprevious, operatorConfiguration_filterKeys]
    dsimp only
    rw [StringMap.set_set]
  exact update_restart_of_eq hupdated hprevious (hnext.trans hprevious)

end Configuration

section Template

variable {merge : StrategicMergePatch} {sts : StatefulSet}

lemma update_withReplicas {stored sts' : StatefulSet}
    (h : StatefulSetBuilder.update cluster merge sts = .ok sts') (ht : stored.template = sts'.template)
    (hc : stored.metadata.controller = sts'.metadata.controller) :
    (∃ out, StatefulSetBuilder.update (withReplicas cluster n) merge stored = .ok out ∧
        out.template = stored.template) ↔
      (stored.template.annotations.merge (defaultPodAnnotations (withReplicas cluster n))).merge
          (metadataOverride cluster).annotations = stored.template.annotations := by
  obtain ⟨_, _, hupdate⟩ := StatefulSetBuilder.update_eq_ok cluster merge sts
  obtain ⟨spec, metadata, hspec, hmeta, rfl⟩ := (hupdate sts').mp h
  obtain ⟨rest, hrest, hupdate'⟩ := StatefulSetBuilder.update_eq_ok (withReplicas cluster n) merge stored
  have hname : rest.metadata.controller = some cluster.name :=
    hrest.trans (hc.trans (congrArg ObjectMeta.controller (setControllerReference_eq hmeta)))
  have htemplate (out : StatefulSet) : StatefulSetBuilder.update (withReplicas cluster n) merge stored = .ok out ↔
      out = { rest with
        template := updatedTemplate (withReplicas cluster n) stored.template.annotations spec } := by
    have hreference : setControllerReference (withReplicas cluster n) rest.metadata = .ok rest.metadata :=
      setControllerReference_eq_self hname
    have hspec' : updatedPodSpec (withReplicas cluster n) merge = .ok spec := hspec
    simp [hupdate', hreference, hspec']
  simp only [htemplate, exists_eq_left]
  rw [ht]
  constructor
  · exact fun hout => congrArg PodTemplateSpec.annotations hout
  · exact fun hout => congrArg (PodTemplateSpec.mk _ · spec) hout

end Template

section Annotations

variable {vault : VaultSpec}

lemma merge_merge_eq_self_iff {p d d' o : StringMap} :
    ((((p.merge d).merge o).merge d').merge o) = (p.merge d).merge o ↔
      ∀ k v, StringMap.lastEntry k o.entries = none → StringMap.lastEntry k d'.entries = some v →
        (StringMap.lastEntry k d.entries).or (p.get? k) = some v := by
  rcases d' with ⟨es⟩
  rcases o with ⟨os⟩
  rw [StringMap.merge_append, StringMap.merge_eq_self_iff]
  simp only [StringMap.lastEntry_append, StringMap.get?_merge]
  refine forall_congr' fun k => forall_congr' fun v => ?_
  cases StringMap.lastEntry k os <;> simp

def hostTemplates (vault : VaultSpec) : List String :=
  ["vault.hashicorp.com/agent-inject-template-tls.crt", "vault.hashicorp.com/agent-inject-template-tls.key"] ++
    if vault.tls.pkiRootPath = "" then ["vault.hashicorp.com/agent-inject-template-ca.crt"] else []

lemma generateVaultTLSTemplate_injective (commonName vaultPath ipSans tlsAttribute : String) :
    Function.Injective fun altNames => generateVaultTLSTemplate commonName altNames vaultPath ipSans tlsAttribute := by
  intro a b h
  dsimp only at h
  unfold generateVaultTLSTemplate at h
  repeat rw [String.append_left_inj] at h
  exact (String.append_right_inj _).mp h

lemma generateVaultTLSCertificateTemplate_injective (commonName : String) (vault : VaultSpec) :
    Function.Injective fun altNames => generateVaultTLSCertificateTemplate commonName altNames vault := by
  intro a b h
  dsimp only at h
  unfold generateVaultTLSCertificateTemplate at h
  repeat rw [String.append_left_inj] at h
  exact (String.append_right_inj _).mp h

lemma podHostNames_injective : Function.Injective fun n => podHostNames (withReplicas cluster n) := by
  intro a b h
  have hf (i : ℕ) : cluster.childResourceName "server" ++ "-" ++ toString i ++ "." ++
      cluster.childResourceName "nodes" ++ "." ++ cluster.ns ≠ "" := by
    intro h
    simp at h
  exact Fin.val_injective (Text.intercalate_range_injective hf h)

def altNames (vault : VaultSpec) (hosts : String) : String :=
  if vault.tls.altNames ≠ "" then hosts ++ "," ++ vault.tls.altNames else hosts

lemma altNames_injective (vault : VaultSpec) : Function.Injective (altNames vault) := by
  intro a b h
  unfold altNames at h
  split at h
  · exact (String.append_left_inj _).mp ((String.append_left_inj _).mp h)
  · exact h

lemma lastEntry_hostTemplate {k : String} (hk : k ∈ hostTemplates vault) (cluster : RabbitmqCluster) :
    ∃ f : String → String, Function.Injective f ∧ ∀ n,
      StringMap.lastEntry k (vaultTLSAnnotations (withReplicas cluster n) vault).entries =
        some (f (podHostNames (withReplicas cluster n))) := by
  obtain ⟨commonName, hname⟩ : ∃ commonName, commonName =
      if vault.tls.commonName ≠ "" then vault.tls.commonName else cluster.serviceSubDomain := ⟨_, rfl⟩
  have hcrt := (generateVaultTLSCertificateTemplate_injective commonName vault).comp (altNames_injective vault)
  have hkey (tlsAttribute : String) := (generateVaultTLSTemplate_injective commonName vault.tls.pkiIssuerPath
    vault.tls.ipSans tlsAttribute).comp (altNames_injective vault)
  simp only [hostTemplates, List.mem_append, List.mem_cons, List.not_mem_nil, or_false,
    List.mem_ite_nil_right, or_assoc] at hk
  rcases hk with rfl | rfl | ⟨hroot, rfl⟩
  · refine ⟨_, hcrt, fun n => ?_⟩
    subst hname
    simp [vaultTLSAnnotations, StringMap.lastEntry, altNames]
    rfl
  · refine ⟨_, hkey "private_key", fun n => ?_⟩
    subst hname
    simp [vaultTLSAnnotations, StringMap.lastEntry, altNames]
    rfl
  · refine ⟨_, hkey "issuing_ca", fun n => ?_⟩
    subst hname
    simp [vaultTLSAnnotations, StringMap.lastEntry, altNames, generateVaultCATemplate, hroot]
    rfl

lemma lastEntry_vaultTLSAnnotations {k : String} (hk : k ∉ hostTemplates vault) :
    StringMap.lastEntry k (vaultTLSAnnotations (withReplicas cluster n) vault).entries =
      StringMap.lastEntry k (vaultTLSAnnotations cluster vault).entries := by
  simp only [hostTemplates, List.mem_append, List.mem_cons, List.not_mem_nil, or_false, not_or,
    List.mem_ite_nil_right, not_and] at hk
  obtain ⟨⟨hcrt, hkey⟩, hca⟩ := hk
  unfold vaultTLSAnnotations
  by_cases hroot : vault.tls.pkiRootPath = ""
  · simp only [StringMap.lastEntry, if_neg (Ne.symm hcrt), if_neg (Ne.symm hkey), if_neg (Ne.symm (hca hroot))]
  · simp only [StringMap.lastEntry, if_neg (Ne.symm hcrt), if_neg (Ne.symm hkey), generateVaultCATemplate,
      if_neg hroot]

def Overridden (cluster : RabbitmqCluster) (vault : VaultSpec) (k : String) : Prop :=
  (vault.annotations.get? k).isSome = true ∨ ((metadataOverride cluster).annotations.get? k).isSome = true

lemma defaultPodAnnotations_withReplicas (h : cluster.vaultTLSEnabled = false) :
    defaultPodAnnotations (withReplicas cluster n) = defaultPodAnnotations cluster := by
  have hbackend : (withReplicas cluster n).spec.secretBackend = cluster.spec.secretBackend := rfl
  unfold defaultPodAnnotations
  rw [hbackend]
  cases hv : cluster.spec.secretBackend.vault with
  | none => rfl
  | some vault =>
    have ht : ¬ vault.tls.pkiIssuerPath ≠ "" := by simpa [RabbitmqCluster.vaultTLSEnabled, hv] using h
    dsimp only
    rw [appendVaultAnnotations_eq, appendVaultAnnotations_eq, if_neg ht, if_neg ht]

lemma annotations_withReplicas (annotations : StringMap)
    (hv : cluster.spec.secretBackend.vault = some vault) (ht : vault.tls.pkiIssuerPath ≠ "") :
    (∀ k v, StringMap.lastEntry k (metadataOverride cluster).annotations.entries = none →
        StringMap.lastEntry k (defaultPodAnnotations (withReplicas cluster n)).entries = some v →
        (StringMap.lastEntry k (defaultPodAnnotations cluster).entries).or (annotations.get? k) = some v) ↔
      n = cluster.spec.replicas ∨ ∀ k ∈ hostTemplates vault, Overridden cluster vault k := by
  have hreplicas : withReplicas cluster cluster.spec.replicas = cluster := rfl
  have hdefault := lastEntry_defaultPodAnnotations hv ht
  have hdefault' : ∀ k, StringMap.lastEntry k (defaultPodAnnotations (withReplicas cluster n)).entries =
      (StringMap.lastEntry k vault.annotations.entries).or
        ((StringMap.lastEntry k (vaultTLSAnnotations (withReplicas cluster n) vault).entries).or
          ((commonVaultAnnotations vault).get? k)) := lastEntry_defaultPodAnnotations hv ht
  constructor
  · intro h
    by_contra hcond
    simp only [not_or, not_forall] at hcond
    obtain ⟨hn, k, hk, hover⟩ := hcond
    simp only [Overridden, not_or, Option.not_isSome_iff_eq_none] at hover
    obtain ⟨f, hf, htemplate⟩ := lastEntry_hostTemplate hk cluster
    have hvault := StringMap.lastEntry_eq_none_iff.mpr hover.1
    have hnew : StringMap.lastEntry k (defaultPodAnnotations (withReplicas cluster n)).entries =
        some (f (podHostNames (withReplicas cluster n))) := by
      rw [hdefault', hvault, htemplate]
      rfl
    have hold := h k _ (StringMap.lastEntry_eq_none_iff.mpr hover.2) hnew
    rw [hdefault, hvault, ← hreplicas, htemplate] at hold
    exact hn (podHostNames_injective (hf (Option.some.inj hold))).symm
  · rintro (rfl | hover) k v ho hd
    · rw [hreplicas] at hd
      rw [hd, Option.some_or]
    · have hold : StringMap.lastEntry k (defaultPodAnnotations cluster).entries = some v := by
        by_cases hk : k ∈ hostTemplates vault
        · cases hvault : StringMap.lastEntry k vault.annotations.entries with
          | some w =>
            rw [hdefault', hvault, Option.some_or] at hd
            rw [hdefault, hvault, Option.some_or, hd]
          | none =>
            rw [StringMap.lastEntry_eq_none_iff] at hvault ho
            simpa [Overridden, hvault, ho] using hover k hk
        · rw [hdefault, ← lastEntry_vaultTLSAnnotations hk, ← hdefault', hd]
      rw [hold, Option.some_or]

theorem scaleOut_keeps_nodes_iff {merge : StrategicMergePatch} {ini : Ini} {restart : Bool}
    {configMap serverConf storedConf : DataObject} {sts sts' stored : StatefulSet}
    (hempty : ini.load "" = .ok {})
    (hload : ∀ auth, ini.load (ini.write (operatorConfiguration cluster auth)) =
      .ok (operatorConfiguration cluster auth))
    (hload' : ∀ auth, ini.load (ini.write (operatorConfiguration (withReplicas cluster n) auth)) =
      .ok (operatorConfiguration (withReplicas cluster n) auth))
    (hconf : (ServerConfigMapBuilder.update cluster ini restart configMap).2 = .ok serverConf)
    (hdata : storedConf.data = serverConf.data)
    (hcontroller : storedConf.metadata.controller = serverConf.metadata.controller)
    (hsts : StatefulSetBuilder.update cluster merge sts = .ok sts')
    (htemplate : stored.template = sts'.template)
    (hcontroller' : stored.metadata.controller = sts'.metadata.controller) :
    ((ServerConfigMapBuilder.update (withReplicas cluster n) ini true storedConf).1 = false ∧
      ∃ out, StatefulSetBuilder.update (withReplicas cluster n) merge stored = .ok out ∧
        out.template = stored.template) ↔
    (n = cluster.spec.replicas ∨ ∀ vault ∈ cluster.spec.secretBackend.vault,
      vault.tls.pkiIssuerPath ≠ "" → ∀ k ∈ hostTemplates vault, Overridden cluster vault k) := by
  have hrestart := serverConf_withReplicas hempty hload hload' hconf hdata hcontroller
  obtain ⟨_, _, hupdate⟩ := StatefulSetBuilder.update_eq_ok cluster merge sts
  obtain ⟨spec, metadata, -, -, rfl⟩ := (hupdate sts').mp hsts
  rw [and_iff_right hrestart, update_withReplicas hsts htemplate hcontroller', htemplate]
  refine merge_merge_eq_self_iff.trans ?_
  cases hv : cluster.spec.secretBackend.vault with
  | none =>
    have htls : cluster.vaultTLSEnabled = false := by simp [RabbitmqCluster.vaultTLSEnabled, hv]
    rw [defaultPodAnnotations_withReplicas htls]
    simp +contextual
  | some vault =>
    by_cases ht : vault.tls.pkiIssuerPath = ""
    · have htls : cluster.vaultTLSEnabled = false := by simp [RabbitmqCluster.vaultTLSEnabled, hv, ht]
      rw [defaultPodAnnotations_withReplicas htls]
      simp +contextual [ht]
    · rw [annotations_withReplicas _ hv ht]
      simp [ht]

end Annotations

def vaultCluster : RabbitmqCluster where
  name := "rabbit"
  ns := "default"
  spec :=
    { secretBackend := { vault := some { role := "rabbitmq", tls := { pkiIssuerPath := "pki/issue/rabbitmq" } } } }

def storedStatefulSet (cluster : RabbitmqCluster) : StatefulSet :=
  (StatefulSetBuilder.update cluster strategicMergePatch (StatefulSetBuilder.build cluster)).toOption.getD {}

theorem scaleOut_restarts_nodes :
    (StatefulSetBuilder.update (withReplicas vaultCluster 3) strategicMergePatch
      (storedStatefulSet vaultCluster)).toOption.any (fun out =>
        out.template.annotations.get? "vault.hashicorp.com/agent-inject-template-tls.key" ≠
          (storedStatefulSet vaultCluster).template.annotations.get?
            "vault.hashicorp.com/agent-inject-template-tls.key") = true := by
  decide +kernel

def singleNode : RabbitmqCluster where
  name := "rabbit"
  ns := "default"

def storedServerConf (cluster : RabbitmqCluster) : DataObject :=
  (ServerConfigMapBuilder.update cluster .ascii true (ServerConfigMapBuilder.build cluster)).2.toOption.getD {}

theorem scaleOut_keeps_single_node :
    (ServerConfigMapBuilder.update (withReplicas singleNode 3) .ascii true (storedServerConf singleNode)).1 = false ∧
      ∃ out, StatefulSetBuilder.update (withReplicas singleNode 3) strategicMergePatch
        (storedStatefulSet singleNode) = .ok out ∧ out.template = (storedStatefulSet singleNode).template := by
  have hload (n : Replicas) (hn : n = 1 ∨ n = 3) (auth : Bool) :
      Ini.ascii.load (Ini.ascii.write (operatorConfiguration (withReplicas singleNode n) auth)) =
        .ok (operatorConfiguration (withReplicas singleNode n) auth) := by
    rcases hn with rfl | rfl <;> cases auth <;> rfl
  have hconf : (ServerConfigMapBuilder.update singleNode .ascii true
      (ServerConfigMapBuilder.build singleNode)).2 = .ok (storedServerConf singleNode) := by rfl
  have hsts : StatefulSetBuilder.update singleNode strategicMergePatch (StatefulSetBuilder.build singleNode) =
      .ok (storedStatefulSet singleNode) := by rfl
  exact (scaleOut_keeps_nodes_iff rfl (hload 1 (Or.inl rfl)) (hload 3 (Or.inr rfl)) hconf rfl rfl hsts rfl rfl).mpr
    (Or.inr nofun)

end ClusterOperator.Resource
