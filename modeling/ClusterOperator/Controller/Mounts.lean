import ClusterOperator.Controller.Deletion
import ClusterOperator.Resource.Secrets

namespace ClusterOperator.Controller

open Api Kubernetes Resource

variable {cluster : RabbitmqCluster}

section Names

def commonVolumes : List String :=
  ["plugins-conf", "rabbitmq-confd", "rabbitmq-erlang-cookie", "erlang-cookie-secret", "rabbitmq-plugins",
    "pod-info"]

lemma volumes_name :
    (volumes cluster).map Volume.name = commonVolumes ++
      (if rabbitmqConfigurationIsSet cluster then ["server-conf"] else []) ++
      (if cluster.spec.storage = 0 then ["persistence"] else []) ++
      (if cluster.secretTLSEnabled then ["rabbitmq-tls"] else []) := by
  unfold volumes
  split <;> split <;> split <;> simp [commonVolumes]

lemma persistentVolumeClaim_name :
    (updatePersistenceStorageCapacity (persistentVolumeClaim cluster) cluster.spec.storage).map ClaimTemplate.name =
      if cluster.spec.storage = 0 then [] else ["persistence"] := by
  unfold updatePersistenceStorageCapacity persistentVolumeClaim
  split <;> simp

def mountable (sts : StatefulSet) : List String :=
  sts.template.spec.volumes.map Volume.name ++ sts.volumeClaimTemplates.map ClaimTemplate.name

lemma mountable_perm {annotations : StringMap} {sts : StatefulSet}
    (ht : sts.template = podTemplateSpec cluster annotations)
    (hv : sts.volumeClaimTemplates =
      updatePersistenceStorageCapacity (persistentVolumeClaim cluster) cluster.spec.storage) :
    (mountable sts).Perm ("persistence" :: commonVolumes ++
      (if rabbitmqConfigurationIsSet cluster then ["server-conf"] else []) ++
      (if cluster.secretTLSEnabled then ["rabbitmq-tls"] else [])) := by
  rw [mountable, ht, hv, persistentVolumeClaim_name, podTemplateSpec, volumes_name]
  split <;> split <;> split <;> decide

end Names

section Mounts

def properties (cluster : RabbitmqCluster) : List (String × String) :=
  [("rabbitmq-env.conf", cluster.spec.rabbitmq.envConfig),
    ("advanced.config", cluster.spec.rabbitmq.advancedConfig),
    ("erl_inetrc", cluster.spec.rabbitmq.erlangInetConfig)]

inductive Mounted (cluster : RabbitmqCluster) : VolumeMount → Prop
  | whole {name path : String} {readOnly : Bool} (h : name ∈ "persistence" :: commonVolumes) :
      Mounted cluster ⟨name, path, "", readOnly⟩
  | tls {path : String} {readOnly : Bool} (h : cluster.secretTLSEnabled = true) :
      Mounted cluster ⟨"rabbitmq-tls", path, "", readOnly⟩
  | configuration {path file : String} {readOnly : Bool}
      (h : file ∈ ["operatorDefaults.conf", "userDefinedConfiguration.conf"]) :
      Mounted cluster ⟨"rabbitmq-confd", path, file, readOnly⟩
  | defaultUser {path : String} {readOnly : Bool} (h : cluster.vaultDefaultUserSecretEnabled = false) :
      Mounted cluster ⟨"rabbitmq-confd", path, "default_user.conf", readOnly⟩
  | property {path file value : String} {readOnly : Bool} (h : (file, value) ∈ properties cluster)
      (hne : value ≠ "") : Mounted cluster ⟨"server-conf", path, file, readOnly⟩

lemma setupContainer_mounted : ∀ mount ∈ (setupContainer cluster).mounts, Mounted cluster mount := by
  intro mount h
  simp only [Container.mounts, setupContainer, Option.getD_some, List.mem_append, List.mem_cons, List.not_mem_nil,
    or_false] at h
  rcases h with (rfl | rfl | rfl | rfl | rfl) | h
  iterate 5 exact .whole (by decide)
  split at h
  · cases h
  · rename_i hv
    rw [List.mem_singleton] at h
    subst h
    exact .defaultUser (by simpa using hv)

lemma updater_mounted :
    ∀ mount ∈ (defaultUserCredentialUpdater cluster).mounts, Mounted cluster mount := by
  intro mount h
  rcases List.mem_cons.mp h with rfl | h
  · exact .whole (by decide)
  · split at h
    · rw [List.mem_singleton] at h
      subst h
      exact .tls ‹_›
    · cases h

lemma rabbitmqContainer_mounted : ∀ mount ∈ (rabbitmqContainer cluster).mounts, Mounted cluster mount := by
  intro mount h
  change mount ∈ rabbitmqContainerVolumeMounts cluster at h
  simp only [rabbitmqContainerVolumeMounts, List.mem_append, List.mem_cons, List.not_mem_nil, or_false,
    List.mem_ite_nil_right, or_assoc] at h
  rcases h with rfl | rfl | rfl | rfl | rfl | rfl | h | ⟨hne, rfl⟩ | ⟨hne, rfl⟩ | ⟨hne, rfl⟩ | ⟨ht, rfl⟩
  · exact .whole (by decide)
  · exact .whole (by decide)
  · exact .whole (by decide)
  · exact .configuration (by decide)
  · exact .configuration (by decide)
  · exact .whole (by decide)
  · split at h
    · cases h
    · rename_i hv
      rw [List.mem_singleton] at h
      subst h
      exact .defaultUser (by simpa using hv)
  · exact .property List.mem_cons_self hne
  · exact .property (List.mem_cons_of_mem _ List.mem_cons_self) hne
  · exact .property (List.mem_cons_of_mem _ (List.mem_cons_of_mem _ List.mem_cons_self)) hne
  · exact .tls ht

lemma podTemplateSpec_mounted {annotations : StringMap} {c : Container}
    (hc : c ∈ (podTemplateSpec cluster annotations).spec.initContainers ++
      (podTemplateSpec cluster annotations).spec.containers) :
    ∀ mount ∈ c.mounts, Mounted cluster mount := by
  rcases List.mem_append.mp hc with hc | hc
  · rw [List.mem_singleton.mp hc]
    exact setupContainer_mounted
  · rcases List.mem_cons.mp hc with rfl | hc
    · exact rabbitmqContainer_mounted
    · split at hc
      · rw [List.mem_singleton.mp hc]
        exact updater_mounted
      · cases hc

lemma property_configured {file value : String} (h : (file, value) ∈ properties cluster) (hne : value ≠ "") :
    rabbitmqConfigurationIsSet cluster = true := by
  simp only [properties, List.mem_cons, List.not_mem_nil, or_false, Prod.mk.injEq] at h
  rcases h with ⟨-, rfl⟩ | ⟨-, rfl⟩ | ⟨-, rfl⟩ <;> simp [rabbitmqConfigurationIsSet, hne]

lemma Mounted.count_eq_one {mount : VolumeMount} (h : Mounted cluster mount) :
    ("persistence" :: commonVolumes ++
      (if rabbitmqConfigurationIsSet cluster then ["server-conf"] else []) ++
      (if cluster.secretTLSEnabled then ["rabbitmq-tls"] else [])).count mount.name = 1 := by
  have hnodup : ("persistence" :: commonVolumes ++
      (if rabbitmqConfigurationIsSet cluster then ["server-conf"] else []) ++
      (if cluster.secretTLSEnabled then ["rabbitmq-tls"] else [])).Nodup := by
    split <;> split <;> decide
  refine List.count_eq_one_of_mem hnodup ?_
  cases h with
  | whole h => exact List.mem_append_left _ (List.mem_append_left _ h)
  | tls h => simp [h]
  | configuration h => exact List.mem_append_left _ (List.mem_append_left _ (by simp [commonVolumes]))
  | defaultUser h => exact List.mem_append_left _ (List.mem_append_left _ (by simp [commonVolumes]))
  | property h hne => simp [property_configured h hne]

end Mounts

section Files

def Supplied (r : Reconciler) (cluster : RabbitmqCluster) (serverConf defaultUser : DataObject)
    (p : VolumeProjection) (key : String) : Prop :=
  (p.configMap = some (cluster.childResourceName "server-conf") ∧
      .child .serverConf ∈ resourceBuilders r cluster ∧ (serverConf.data.get? key).isSome = true) ∨
    (p.secret = some (cluster.childResourceName "default-user") ∧
      .child .defaultUserSecret ∈ resourceBuilders r cluster ∧ (defaultUser.data.get? key).isSome = true) ∨
    (cluster.externalSecretEnabled = true ∧ p.secret = some cluster.spec.secretBackend.externalSecret ∧
      key = "default_user.conf")

def Provides (r : Reconciler) (cluster : RabbitmqCluster) (serverConf defaultUser : DataObject) :
    VolumeSource → String → Prop
  | .configMap name, file => Supplied r cluster serverConf defaultUser { configMap := some name } file
  | .projected sources, file =>
    ∃ p ∈ sources, ∃ key, (key, file) ∈ p.items ∧ Supplied r cluster serverConf defaultUser p key
  | _, _ => False

variable {r : Reconciler} {ini : Ini} {restart : Bool} {configMap serverConf secret defaultUser : DataObject}

lemma serverConf_builder : .child .serverConf ∈ resourceBuilders r cluster := by
  simp [resourceBuilders]

lemma serverConf_configuration {file : String}
    (hconf : (ServerConfigMapBuilder.update cluster ini restart configMap).2 = .ok serverConf)
    (hf : file ∈ ["operatorDefaults.conf", "userDefinedConfiguration.conf"]) :
    (serverConf.data.get? file).isSome = true := by
  obtain ⟨_, _, hdata⟩ := ServerConfigMapBuilder.updated_data (ServerConfigMapBuilder.updated_of_update hconf)
  simp only [List.mem_cons, List.not_mem_nil, or_false] at hf
  rcases hf with rfl | rfl <;> simp [hdata, ServerConfigMapBuilder.updatedData, get?_updateProperty]

lemma serverConf_property {file value : String}
    (hconf : (ServerConfigMapBuilder.update cluster ini restart configMap).2 = .ok serverConf)
    (hf : (file, value) ∈ properties cluster) (hne : value ≠ "") :
    serverConf.data.get? file = some value := by
  obtain ⟨_, _, hdata⟩ := ServerConfigMapBuilder.updated_data (ServerConfigMapBuilder.updated_of_update hconf)
  simp only [properties, List.mem_cons, List.not_mem_nil, or_false, Prod.mk.injEq] at hf
  rcases hf with ⟨rfl, rfl⟩ | ⟨rfl, rfl⟩ | ⟨rfl, rfl⟩ <;>
    simp [hdata, ServerConfigMapBuilder.updatedData, get?_updateProperty, hne]

lemma defaultUser_conf {random : String} (hb : DefaultUserSecretBuilder.build cluster ini random = .ok secret)
    (hu : DefaultUserSecretBuilder.update cluster secret = .ok defaultUser) :
    (defaultUser.data.get? "default_user.conf").isSome = true := by
  have hk : "default_user.conf" ∉ DefaultUserSecretBuilder.derivedKeys := by decide
  obtain ⟨user, -, hdata⟩ := DefaultUserSecretBuilder.build_eq_ok hb
  rw [updatedSecret_data hu, DefaultUserSecretBuilder.get?_derived _ hk, hdata,
    DefaultUserSecretBuilder.get?_derived _ hk]
  rfl

lemma Mounted.provided {mount : VolumeMount} (h : Mounted cluster mount) (hsub : mount.subPath ≠ "")
    (hconf : (ServerConfigMapBuilder.update cluster ini restart configMap).2 = .ok serverConf)
    (hsecret : .child .defaultUserSecret ∈ resourceBuilders r cluster →
      (defaultUser.data.get? "default_user.conf").isSome = true) :
    ∃ v ∈ volumes cluster, v.name = mount.name ∧
      Provides r cluster serverConf defaultUser v.source mount.subPath := by
  have hconfd : ⟨"rabbitmq-confd", .projected
      ({ configMap := some (cluster.childResourceName "server-conf")
         items := [("operatorDefaults.conf", "operatorDefaults.conf"),
           ("userDefinedConfiguration.conf", "userDefinedConfiguration.conf")] } ::
        defaultUserSecretProjection cluster)⟩ ∈ volumes cluster := by
    simp [volumes]
  cases h with
  | whole h => exact absurd rfl hsub
  | tls h => exact absurd rfl hsub
  | @configuration path file _ h =>
    refine ⟨_, hconfd, rfl, _, List.mem_cons_self, file, ?_,
      Or.inl ⟨rfl, serverConf_builder, serverConf_configuration hconf h⟩⟩
    simpa using h
  | defaultUser h =>
    refine ⟨_, hconfd, rfl, ?_⟩
    cases he : cluster.externalSecretEnabled with
    | true =>
      refine ⟨{ secret := some cluster.spec.secretBackend.externalSecret
                items := [("default_user.conf", "default_user.conf")] }, List.mem_cons_of_mem _ ?_,
        "default_user.conf", List.mem_singleton_self _, Or.inr (Or.inr ⟨he, rfl, rfl⟩)⟩
      simp [defaultUserSecretProjection, he]
    | false =>
      have hbuilder : .child .defaultUserSecret ∈ resourceBuilders r cluster := by
        simp [resourceBuilders, h, he]
      refine ⟨{ secret := some (cluster.childResourceName "default-user")
                items := [("default_user.conf", "default_user.conf")] }, List.mem_cons_of_mem _ ?_,
        "default_user.conf", List.mem_singleton_self _, Or.inr (Or.inl ⟨rfl, hbuilder, hsecret hbuilder⟩)⟩
      simp [defaultUserSecretProjection, h, he]
  | property h hne =>
    refine ⟨⟨"server-conf", .configMap (cluster.childResourceName "server-conf")⟩, ?_, rfl,
      Or.inl ⟨rfl, serverConf_builder, ?_⟩⟩
    · simp [volumes, property_configured h hne]
    · rw [serverConf_property hconf h hne]
      rfl

theorem mounts_resolve {merge : StrategicMergePatch} {sts : StatefulSet}
    (hno : cluster.spec.statefulSetOverride = none)
    (hsts : StatefulSetBuilder.update cluster merge (StatefulSetBuilder.build cluster) = .ok sts)
    (hconf : (ServerConfigMapBuilder.update cluster ini restart configMap).2 = .ok serverConf)
    (hsecret : .child .defaultUserSecret ∈ resourceBuilders r cluster → ∃ random secret,
      DefaultUserSecretBuilder.build cluster ini random = .ok secret ∧
        DefaultUserSecretBuilder.update cluster secret = .ok defaultUser) :
    ∀ c ∈ sts.template.spec.initContainers ++ sts.template.spec.containers, ∀ mount ∈ c.mounts,
      (mountable sts).count mount.name = 1 ∧
        (mount.subPath ≠ "" → ∃ v ∈ sts.template.spec.volumes, v.name = mount.name ∧
          Provides r cluster serverConf defaultUser v.source mount.subPath) := by
  intro c hc mount hmount
  obtain ⟨metadata, rfl⟩ := StatefulSetBuilder.update_eq_defaults hno hsts
  have hmounted : Mounted cluster mount := podTemplateSpec_mounted hc mount hmount
  refine ⟨?_, fun hsub => hmounted.provided hsub hconf fun hbuilder => ?_⟩
  · rw [(mountable_perm rfl rfl).count_eq]
    exact hmounted.count_eq_one
  · obtain ⟨random, secret, hb, hu⟩ := hsecret hbuilder
    exact defaultUser_conf hb hu

end Files

def configuredCluster : RabbitmqCluster where
  name := "rabbit"
  ns := "default"
  spec :=
    { storage := 10
      tls := { secretName := "tls" }
      rabbitmq :=
        { envConfig := "CTL_DIST_PORT_MIN=4370", advancedConfig := "[].", erlangInetConfig := "\x7blookup, [dns]\x7d." } }

def configuredStatefulSet : StatefulSet :=
  (StatefulSetBuilder.update configuredCluster strategicMergePatch
    (StatefulSetBuilder.build configuredCluster)).toOption.getD {}

def configuredServerConf : DataObject :=
  (ServerConfigMapBuilder.update configuredCluster .ascii true
    (ServerConfigMapBuilder.build configuredCluster)).2.toOption.getD {}

def configuredDefaultUser : DataObject :=
  ((DefaultUserSecretBuilder.build configuredCluster .ascii "").bind
    (DefaultUserSecretBuilder.update configuredCluster)).toOption.getD {}

theorem configured_mounts_resolve :
    configuredCluster.spec.statefulSetOverride = none ∧ ∀ c ∈
      configuredStatefulSet.template.spec.initContainers ++ configuredStatefulSet.template.spec.containers,
      ∀ mount ∈ c.mounts, (mountable configuredStatefulSet).count mount.name = 1 ∧
        (mount.subPath ≠ "" → ∃ v ∈ configuredStatefulSet.template.spec.volumes, v.name = mount.name ∧
          Provides plainReconciler configuredCluster configuredServerConf configuredDefaultUser v.source
            mount.subPath) := by
  have hsts : StatefulSetBuilder.update configuredCluster strategicMergePatch
      (StatefulSetBuilder.build configuredCluster) = .ok configuredStatefulSet := by rfl
  have hconf : (ServerConfigMapBuilder.update configuredCluster .ascii true
      (ServerConfigMapBuilder.build configuredCluster)).2 = .ok configuredServerConf := by rfl
  exact ⟨rfl, mounts_resolve rfl hsts hconf fun _ => ⟨"", _, rfl, rfl⟩⟩

end ClusterOperator.Controller
