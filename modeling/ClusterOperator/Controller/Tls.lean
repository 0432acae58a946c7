import ClusterOperator.Controller.Preparation
import ClusterOperator.Interaction.Exchange
import ClusterOperator.Resource.Listeners
import ClusterOperator.Resource.VaultAnnotations
import ClusterOperator.Text.Decimal

namespace ClusterOperator.Controller

open Api Kubernetes Interaction Resource

variable {m m' : Memory} {ts : List Turn} {s : Store} {rmq : RabbitmqCluster}

def Found (xs : List (Exchange api)) (name key : String) : Prop :=
  ∃ secret : DataObject, ⟨.getSecret name, .ok secret⟩ ∈ xs ∧ (secret.data.get? key).isSome = true

lemma checkCaSecret_ensures (secret : DataObject) :
    Ensures (checkCaSecret rmq secret) fun xs err => err = none → rmq.mutualTLSEnabled = true →
      (rmq.singleTLSSecret = true ∧ (secret.data.get? "ca.crt").isSome = true) ∨
        Found xs rmq.spec.tls.caSecretName "ca.crt" := by
  have hcheck {secret : DataObject} (h : checkCaSecret.check rmq secret = none) :
      (secret.data.get? "ca.crt").isSome = true := by
    unfold checkCaSecret.check at h
    split at h
    · assumption
    · cases h
  unfold checkCaSecret
  split
  · split
    · rename_i hs
      exact fun h _ => Or.inl ⟨hs, hcheck h⟩
    · rintro (e | ca)
      · exact fun h => nomatch h
      · exact fun h _ => Or.inr ⟨ca, List.mem_singleton_self _, hcheck h⟩
  · rename_i hm
    exact fun _ h => absurd h hm

lemma checkTLSSecrets_ensures :
    Ensures (checkTLSSecrets rmq) fun xs err => err = none →
      Found xs rmq.spec.tls.secretName "tls.crt" ∧ Found xs rmq.spec.tls.secretName "tls.key" ∧
        (rmq.mutualTLSEnabled = true → Found xs rmq.spec.tls.caSecretName "ca.crt") := by
  unfold checkTLSSecrets
  rintro (e | secret)
  · exact fun h => nomatch h
  · change Ensures (if (secret.data.get? "tls.crt").isSome ∧ (secret.data.get? "tls.key").isSome then _ else _) _
    split
    · rename_i hkeys
      refine (checkCaSecret_ensures secret).mono fun xs err h herr => ?_
      refine ⟨⟨secret, List.mem_cons_self, hkeys.1⟩, ⟨secret, List.mem_cons_self, hkeys.2⟩, fun hm => ?_⟩
      rcases h herr hm with ⟨hs, hca⟩ | ⟨ca, hmem, hca⟩
      · simp only [RabbitmqCluster.singleTLSSecret, Bool.and_eq_true, decide_eq_true_eq] at hs
        rw [hs.2]
        exact ⟨secret, List.mem_cons_self, hca⟩
      · exact ⟨ca, List.mem_cons_of_mem _ hmem, hca⟩
    · exact fun h => nomatch h

structure Accepted (xs : List (Exchange api)) (rmq : RabbitmqCluster) : Prop where
  tlsEnabled : rmq.disableNonTLSListeners = true → rmq.tlsEnabled = true
  certificate : rmq.secretTLSEnabled = true → Found xs rmq.spec.tls.secretName "tls.crt"
  key : rmq.secretTLSEnabled = true → Found xs rmq.spec.tls.secretName "tls.key"
  ca : rmq.secretTLSEnabled = true → rmq.mutualTLSEnabled = true → Found xs rmq.spec.tls.caSecretName "ca.crt"

lemma reconcileTLS_ensures :
    Ensures (reconcileTLS m) fun xs x => x.1 = none → Accepted xs m.cluster := by
  have hreject (err : Err) (m₁ : Memory) (reason msg : String) (xs : List (Exchange api)) :
      Ensures (do return (some err, ← setReconcileSuccess m₁ .false reason msg))
        fun ys x => x.1 = none → Accepted (xs ++ ys) m.cluster := by
    rintro (e | c) <;> exact fun h => nomatch h
  unfold reconcileTLS
  split
  · exact hreject _ _ _ _ []
  · rename_i hd
    have htls : m.cluster.disableNonTLSListeners = true → m.cluster.tlsEnabled = true := by
      intro h
      simpa [h] using hd
    split
    · refine (checkTLSSecrets_ensures).bind fun xs err h => ?_
      cases err with
      | none =>
        obtain ⟨hcrt, hkey, hca⟩ := h rfl
        rw [← List.append_nil xs] at hcrt hkey hca
        exact fun _ => ⟨htls, fun _ => hcrt, fun _ => hkey, fun _ => hca⟩
      | some err => exact hreject _ _ _ _ xs
    · rename_i hs
      exact fun _ => ⟨htls, fun h => absurd h hs, fun h => absurd h hs, fun h => absurd h hs⟩

section Files

variable {cluster : RabbitmqCluster}

def tlsFile (file : String) : String := "/etc/rabbitmq-tls/" ++ file

def projections : VolumeSource → List VolumeProjection
  | .projected sources => sources
  | _ => []

def tlsProjections (template : PodTemplateSpec) : List VolumeProjection :=
  template.spec.volumes.flatMap fun v => if v.name = "rabbitmq-tls" then projections v.source else []

def Projected (template : PodTemplateSpec) (file : String) : Prop :=
  (∃ c ∈ template.spec.containers, c.name = "rabbitmq" ∧
    ⟨"rabbitmq-tls", "/etc/rabbitmq-tls/", "", true⟩ ∈ c.mounts) ∧
  ∃ p ∈ tlsProjections template, ∃ item ∈ p.items, item.2 = file

def Injected (template : PodTemplateSpec) (file : String) : Prop :=
  (template.annotations.get? ("vault.hashicorp.com/agent-inject-secret-" ++ file)).isSome = true ∧
    template.annotations.get? ("vault.hashicorp.com/secret-volume-path-" ++ file) = some "/etc/rabbitmq-tls"

lemma head_tlsFile (file : String) : (tlsFile file).toList.head? = some '/' := by
  have hl : "/etc/rabbitmq-tls/".toList.head? = some '/' := by decide
  have ha : (tlsFile file).toList = "/etc/rabbitmq-tls/".toList ++ file.toList := String.toList_append
  rw [ha, List.head?_append, hl, Option.some_or]

lemma tlsFile_injective : Function.Injective tlsFile := fun _ _ h => (String.append_right_inj _).mp h

def FileOrNoPath (files : List String) (v : String) : Prop :=
  v ∈ files.map tlsFile ∨ v.toList.head? ≠ some '/'

instance (files : List String) (v : String) : Decidable (FileOrNoPath files v) := by
  unfold FileOrNoPath
  infer_instance

lemma FileOrNoPath.mem {files : List String} {file : String} (h : FileOrNoPath files (tlsFile file)) :
    file ∈ files := by
  rcases h with h | h
  · obtain ⟨f, hf, he⟩ := List.mem_map.mp h
    exact tlsFile_injective he ▸ hf
  · exact absurd (head_tlsFile file) h

abbrev Values (P : String → Prop) (es : List (String × String)) : Prop := ∀ e ∈ es, P e.2

variable {P : String → Prop}

lemma Values.merge {m o : StringMap} (hm : Values P m.entries) (ho : Values P o.entries) :
    Values P (m.merge o).entries := by
  intro e he
  rcases StringMap.mem_merge he with h | h
  · exact hm e h
  · exact ho e h

lemma values_ite {c : Bool} {es es' : List (String × String)} (h : Values P es) (h' : Values P es') :
    Values P (if c then es else es') := by
  cases c
  · exact h'
  · exact h

lemma values_pluginConf {plugin : String} {es : List (String × String)} (h : Values P es) :
    Values P (pluginConf cluster plugin es).entries := by
  unfold pluginConf
  split
  · exact h
  · exact fun e he => nomatch he

lemma values_onlyTLSConf {es : List (String × String)} (h : Values P es) : Values P (onlyTLSConf cluster es) :=
  values_ite h fun _ he => nomatch he

lemma values_append {es es' : List (String × String)} (h : Values P es) (h' : Values P es') :
    Values P (es ++ es') := by
  intro e he
  rcases List.mem_append.mp he with he | he
  · exact h e he
  · exact h' e he

lemma values_cons {e : String × String} {es : List (String × String)} (h : P e.2) (h' : Values P es) :
    Values P (e :: es) :=
  List.forall_mem_cons.mpr ⟨h, h'⟩

lemma tlsConfiguration_values :
    Values (FileOrNoPath ["tls.crt", "tls.key"]) (tlsConfiguration cluster).entries := by
  unfold tlsConfiguration
  refine .merge (.merge (.merge (.merge (.merge (.merge (.merge ?_ ?_) ?_) ?_) ?_) ?_) ?_) ?_
  · decide
  · split <;> decide
  · exact values_pluginConf (values_cons (by decide) (values_onlyTLSConf (by decide)))
  · exact values_pluginConf (values_cons (by decide) (values_onlyTLSConf (by decide)))
  · exact values_pluginConf (values_append (by decide) (values_onlyTLSConf (by decide)))
  · exact values_pluginConf (values_append (by decide) (values_onlyTLSConf (by decide)))
  · exact values_pluginConf (values_append (values_ite (by decide) (by decide)) (by decide))
  · exact values_pluginConf (values_cons (by decide) (values_onlyTLSConf (by decide)))

lemma mutualTLSConfiguration_values :
    Values (FileOrNoPath ["ca.crt"]) (mutualTLSConfiguration cluster).entries := by
  unfold mutualTLSConfiguration
  refine .merge (.merge (.merge ?_ ?_) ?_) ?_
  · decide
  · exact values_pluginConf (by decide)
  · exact values_pluginConf (by decide)
  · exact values_pluginConf (by decide)

lemma memoryConfiguration_values : Values (FileOrNoPath []) (memoryConfiguration cluster).entries := by
  unfold memoryConfiguration
  dsimp only
  split
  · refine values_cons (Or.inr fun h => ?_) fun _ h => nomatch h
    rcases Text.head_toString_int h with h | h <;> exact absurd h (by decide)
  · exact fun _ h => nomatch h

lemma userConfiguration_files {e : String × String} {file : String}
    (he : e ∈ (userConfiguration cluster).entries) (hf : e.2 = tlsFile file) :
    cluster.tlsEnabled = true ∧ file ∈ ["tls.crt", "tls.key"] ∨
      cluster.mutualTLSEnabled = true ∧ file = "ca.crt" := by
  unfold userConfiguration at he
  rcases StringMap.mem_merge he with he | he
  · rcases StringMap.mem_merge he with he | he
    · rcases StringMap.mem_merge he with he | he
      · cases he
      · split at he
        · rename_i ht
          exact Or.inl ⟨ht, FileOrNoPath.mem (hf ▸ tlsConfiguration_values e he)⟩
        · cases he
    · split at he
      · rename_i hm
        exact Or.inr ⟨hm, List.mem_singleton.mp (FileOrNoPath.mem (hf ▸ mutualTLSConfiguration_values e he))⟩
      · cases he
  · exact absurd (FileOrNoPath.mem (hf ▸ memoryConfiguration_values e he)) List.not_mem_nil

lemma mutual_tlsEnabled (h : cluster.mutualTLSEnabled = true) : cluster.tlsEnabled = true := by
  simp only [RabbitmqCluster.mutualTLSEnabled, Bool.or_eq_true, Bool.and_eq_true] at h
  simp only [RabbitmqCluster.tlsEnabled, Bool.or_eq_true]
  exact h.imp_left And.left

lemma tlsProjections_podTemplateSpec (annotations : StringMap) :
    tlsProjections (podTemplateSpec cluster annotations) =
      if cluster.secretTLSEnabled then
        { secret := some cluster.spec.tls.secretName, items := [("tls.crt", "tls.crt"), ("tls.key", "tls.key")] } ::
          if cluster.mutualTLSEnabled then
            [{ secret := some cluster.spec.tls.caSecretName, items := [("ca.crt", "ca.crt")] }] else []
      else [] := by
  change (volumes cluster).flatMap _ = _
  unfold volumes
  cases hs : cluster.secretTLSEnabled <;> cases hm : cluster.mutualTLSEnabled <;> split <;> split <;>
    simp [projections]

lemma projected {file : String} {annotations : StringMap} (hs : cluster.secretTLSEnabled = true)
    (hf : file ∈ ["tls.crt", "tls.key"] ∨ cluster.mutualTLSEnabled = true ∧ file = "ca.crt") :
    Projected (podTemplateSpec cluster annotations) file := by
  refine ⟨⟨rabbitmqContainer cluster, List.mem_cons_self, rfl, ?_⟩, ?_⟩
  · simp [Container.mounts, rabbitmqContainer, rabbitmqContainerVolumeMounts, hs]
  · rw [tlsProjections_podTemplateSpec, if_pos hs]
    rcases hf with hf | ⟨hm, rfl⟩
    · refine ⟨_, List.mem_cons_self, (file, file), ?_, rfl⟩
      simpa using hf
    · rw [if_pos hm]
      exact ⟨_, List.mem_cons_of_mem _ (List.mem_singleton_self _), _, List.mem_singleton_self _, rfl⟩

lemma injected {vault : VaultSpec} {file : String} (hv : cluster.spec.secretBackend.vault = some vault)
    (ht : vault.tls.pkiIssuerPath ≠ "") (ha : vault.annotations = {}) (annotations : StringMap)
    (hf : file ∈ ["tls.crt", "tls.key", "ca.crt"]) :
    Injected (podTemplateSpec cluster annotations) file := by
  have hget {k v : String} (hk : StringMap.lastEntry k (vaultTLSAnnotations cluster vault).entries = some v) :
      (podTemplateSpec cluster annotations).annotations.get? k = some v := by
    change (annotations.merge (defaultPodAnnotations cluster)).get? k = some v
    rw [StringMap.get?_merge, lastEntry_defaultPodAnnotations hv ht, ha, hk]
    rfl
  simp only [List.mem_cons, List.not_mem_nil, or_false] at hf
  rcases hf with rfl | rfl | rfl <;>
    refine ⟨?_, hget ?_⟩ <;>
    simp [hget (v := vault.tls.pkiIssuerPath), vaultTLSAnnotations, StringMap.lastEntry]

end Files

theorem tls_material_complete {ini : Ini} {merge : StrategicMergePatch} {restart : Bool}
    {configMap configMap' : DataObject} {sts sts' : StatefulSet}
    (hno : m.cluster.spec.statefulSetOverride = none)
    (hann : ∀ vault ∈ m.cluster.spec.secretBackend.vault, vault.annotations = {})
    (hini : ini.load "" = .ok {}) (hconf : m.cluster.spec.rabbitmq.additionalConfig = "")
    (hmap : (ServerConfigMapBuilder.update m.cluster ini restart configMap).2 = .ok configMap')
    (hsts : StatefulSetBuilder.update m.cluster merge sts = .ok sts')
    (hacc : (run server (reconcileTLS m) ts s).result = some (none, m')) :
    configMap'.data.get? "userDefinedConfiguration.conf" = some (ini.write (userConfiguration m.cluster)) ∧
      (∀ e ∈ (userConfiguration m.cluster).entries, ∀ file, e.2 = "/etc/rabbitmq-tls/" ++ file →
        Projected sts'.template file ∨ Injected sts'.template file) ∧
      ∀ p ∈ tlsProjections sts'.template, ∀ item ∈ p.items, ∃ name, p.secret = some name ∧
        Found ((run server (reconcileTLS m) ts s).trace.map Event.exchange) name item.1 := by
  obtain ⟨metadata, rfl⟩ := StatefulSetBuilder.update_eq_defaults hno hsts
  refine ⟨update_userConfiguration hini hconf hmap, ?_, ?_⟩
  · intro e he file hf
    have hfile := userConfiguration_files he hf
    by_cases hs : m.cluster.secretTLSEnabled = true
    · exact Or.inl (projected hs (hfile.imp_left And.right))
    · have ht : m.cluster.tlsEnabled = true := hfile.elim And.left fun h => mutual_tlsEnabled h.1
      have hv : m.cluster.vaultTLSEnabled = true := by
        simpa [RabbitmqCluster.tlsEnabled, hs] using ht
      obtain ⟨vault, hvault, hpath⟩ := (Option.any_eq_true _ _).mp hv
      refine Or.inr (injected hvault (by simpa using hpath) (hann vault hvault) _ ?_)
      rcases hfile with ⟨-, hfile⟩ | ⟨-, rfl⟩
      · exact List.mem_append_left ["ca.crt"] hfile
      · simp
  · intro p hp item hitem
    have haccepted := reconcileTLS_ensures.sound hacc rfl
    change p ∈ tlsProjections (podTemplateSpec m.cluster sts.template.annotations) at hp
    rw [tlsProjections_podTemplateSpec] at hp
    split at hp
    · rename_i hs
      rcases List.mem_cons.mp hp with rfl | hp
      · refine ⟨_, rfl, ?_⟩
        simp only [List.mem_cons, List.not_mem_nil, or_false] at hitem
        rcases hitem with rfl | rfl
        · exact haccepted.certificate hs
        · exact haccepted.key hs
      · split at hp
        · rename_i hm
          obtain rfl := List.mem_singleton.mp hp
          obtain rfl := List.mem_singleton.mp hitem
          exact ⟨_, rfl, haccepted.ca hs hm⟩
        · cases hp
    · cases hp

def mutualTLSCluster : RabbitmqCluster where
  name := "rabbit"
  ns := "default"
  spec := { tls := { secretName := "tls", caSecretName := "ca" } }

def certificates : String → Option DataObject
  | "tls" => some { data := ⟨[("tls.crt", "certificate"), ("tls.key", "key")]⟩ }
  | "ca" => some { data := ⟨[("ca.crt", "authority")]⟩ }
  | _ => none

def certificateStore : Store := { Store.empty with secrets := certificates }

def mutualTLSStatefulSet : StatefulSet :=
  (StatefulSetBuilder.update mutualTLSCluster strategicMergePatch
    (StatefulSetBuilder.build mutualTLSCluster)).toOption.getD {}

def mutualTLSConfigMap : DataObject :=
  (ServerConfigMapBuilder.update mutualTLSCluster .ascii true
    (ServerConfigMapBuilder.build mutualTLSCluster)).2.toOption.getD {}

theorem mutual_tls_complete :
    ("ssl_options.cacertfile", "/etc/rabbitmq-tls/" ++ "ca.crt") ∈ (userConfiguration mutualTLSCluster).entries ∧
      (Projected mutualTLSStatefulSet.template "ca.crt" ∨ Injected mutualTLSStatefulSet.template "ca.crt") ∧
      Found ((run server (reconcileTLS { cluster := mutualTLSCluster }) [{}, {}] certificateStore).trace.map
        Event.exchange) "ca" "ca.crt" := by
  have hmem : ("ssl_options.cacertfile", "/etc/rabbitmq-tls/" ++ "ca.crt") ∈
      (userConfiguration mutualTLSCluster).entries := by decide +kernel
  have hmap : (ServerConfigMapBuilder.update mutualTLSCluster .ascii true
      (ServerConfigMapBuilder.build mutualTLSCluster)).2 = .ok mutualTLSConfigMap := by rfl
  have hsts : StatefulSetBuilder.update mutualTLSCluster strategicMergePatch
      (StatefulSetBuilder.build mutualTLSCluster) = .ok mutualTLSStatefulSet := by rfl
  have hacc : (run server (reconcileTLS { cluster := mutualTLSCluster }) [{}, {}] certificateStore).result =
      some (none, { cluster := mutualTLSCluster }) := by rfl
  obtain ⟨-, hfiles, hsecrets⟩ := tls_material_complete rfl (by decide) rfl rfl hmap hsts hacc
  refine ⟨hmem, hfiles _ hmem _ rfl, ?_⟩
  obtain ⟨name, hname, hfound⟩ := hsecrets { secret := some "ca", items := [("ca.crt", "ca.crt")] }
    (by decide +kernel) ("ca.crt", "ca.crt") (List.mem_singleton_self _)
  cases hname
  exact hfound

end ClusterOperator.Controller
