import ClusterOperator.Resource.RestartFlag

namespace ClusterOperator.Resource

open Api Kubernetes

/-- An open file of the INI library: what was appended to it so far, and its keys. -/
structure IniFile where
  sources : List (List (String × String)) := []
  keys : StringMap := {}

namespace IniFile

def newKey (file : IniFile) (key value : String) : IniFile := { file with keys := file.keys.set key value }

def newKeys (file : IniFile) (entries : List (String × String)) : IniFile :=
  entries.foldl (fun file e => file.newKey e.1 e.2) file

def append (file : IniFile) (source : List (String × String)) : IniFile where
  sources := file.sources ++ [source]
  -- All sources are read again.
  keys := (file.sources ++ [source]).foldl (fun keys source => keys.merge ⟨source⟩) file.keys

lemma newKeys_eq (file : IniFile) (entries : List (String × String)) :
    file.newKeys entries = { file with keys := file.keys.merge ⟨entries⟩ } := by
  unfold newKeys
  induction entries generalizing file with
  | nil => rfl
  | cons e entries ih => exact ih (file.newKey e.1 e.2)

lemma append_empty (source : List (String × String)) :
    append {} source = ⟨[source], StringMap.merge {} ⟨source⟩⟩ := rfl

end IniFile

variable (cluster : RabbitmqCluster)

def tlsKeys (file : IniFile) : IniFile :=
  file
  |>.newKeys (if cluster.disableNonTLSListeners then [("listeners.tcp", "none")]
      else [("management.tcp.port", "15672"), ("prometheus.tcp.port", "15692")])
  |>.newKeys (pluginConf cluster "rabbitmq_mqtt"
      (("mqtt.listeners.ssl.default", "8883") :: onlyTLSConf cluster [("mqtt.listeners.tcp", "none")])).entries
  |>.newKeys (pluginConf cluster "rabbitmq_stomp"
      (("stomp.listeners.ssl.1", "61614") :: onlyTLSConf cluster [("stomp.listeners.tcp", "none")])).entries
  |>.newKeys (pluginConf cluster "rabbitmq_web_mqtt"
      ([("web_mqtt.ssl.port", "15676"), ("web_mqtt.ssl.certfile", tlsCertPath),
        ("web_mqtt.ssl.keyfile", tlsKeyPath)] ++ onlyTLSConf cluster [("web_mqtt.tcp.listener", "none")])).entries
  |>.newKeys (pluginConf cluster "rabbitmq_web_stomp"
      ([("web_stomp.ssl.port", "15673"), ("web_stomp.ssl.certfile", tlsCertPath),
        ("web_stomp.ssl.keyfile", tlsKeyPath)] ++ onlyTLSConf cluster [("web_stomp.tcp.listener", "none")])).entries
  |>.newKeys (pluginConf cluster "rabbitmq_web_amqp"
      ((if cluster.disableNonTLSListeners then [] else [("web_amqp.tcp.port", "15678")]) ++
        [("web_amqp.tls.port", "15677"), ("web_amqp.tls.certfile", tlsCertPath),
          ("web_amqp.tls.keyfile", tlsKeyPath)])).entries
  |>.newKeys (pluginConf cluster "rabbitmq_stream"
      (("stream.listeners.ssl.default", "5551") :: onlyTLSConf cluster [("stream.listeners.tcp", "none")])).entries

def mutualTLSKeys (file : IniFile) : IniFile :=
  file
  |>.newKeys [("ssl_options.cacertfile", caCertPath), ("ssl_options.verify", "verify_peer"),
      ("management.ssl.cacertfile", caCertPath), ("prometheus.ssl.cacertfile", caCertPath)]
  |>.newKeys (pluginConf cluster "rabbitmq_web_mqtt" [("web_mqtt.ssl.cacertfile", caCertPath)]).entries
  |>.newKeys (pluginConf cluster "rabbitmq_web_stomp" [("web_stomp.ssl.cacertfile", caCertPath)]).entries
  |>.newKeys (pluginConf cluster "rabbitmq_web_amqp" [("web_amqp.tls.cacertfile", caCertPath)]).entries

def operatorFile : IniFile :=
  let file : IniFile := {}
  let file := if cluster.tlsEnabled then tlsKeys cluster (file.append defaultTLSConf.entries) else file
  let file := if cluster.mutualTLSEnabled then mutualTLSKeys cluster file else file
  file.newKeys (memoryConfiguration cluster).entries

def userFile (additionalConfig : List (String × String)) : IniFile := (operatorFile cluster).append additionalConfig

section Keys

variable {cluster}

lemma tlsKeys_eq :
    tlsKeys cluster (IniFile.append {} defaultTLSConf.entries) =
      ⟨[defaultTLSConf.entries], tlsConfiguration cluster⟩ := by
  have hnodup : defaultTLSConf.KeysNodup := by
    unfold StringMap.KeysNodup
    decide
  simp only [tlsKeys, tlsConfiguration, IniFile.newKeys_eq, IniFile.append_empty, StringMap.empty_merge hnodup]
  split <;> rfl

lemma mutualTLSKeys_eq (file : IniFile) :
    mutualTLSKeys cluster file = { file with keys := file.keys.merge (mutualTLSConfiguration cluster) } := by
  have hnodup : (StringMap.mk [("ssl_options.cacertfile", caCertPath), ("ssl_options.verify", "verify_peer"),
      ("management.ssl.cacertfile", caCertPath), ("prometheus.ssl.cacertfile", caCertPath)]).KeysNodup := by
    unfold StringMap.KeysNodup
    decide
  simp only [mutualTLSKeys, mutualTLSConfiguration, IniFile.newKeys_eq]
  rw [StringMap.merge_assoc _ ((hnodup.merge _).merge _), StringMap.merge_assoc _ (hnodup.merge _),
    StringMap.merge_assoc _ hnodup]

lemma operatorFile_eq :
    operatorFile cluster =
      ⟨if cluster.tlsEnabled then [defaultTLSConf.entries] else [], userConfiguration cluster⟩ := by
  unfold operatorFile userConfiguration
  simp only [tlsKeys_eq, mutualTLSKeys_eq, IniFile.newKeys_eq]
  cases cluster.tlsEnabled <;> cases cluster.mutualTLSEnabled <;>
    simp [StringMap.empty_merge (keysNodup_tlsConfiguration cluster)] <;> rfl

def AvoidsTLS (m : StringMap) : Prop := ∀ e ∈ m.entries, e.1 ∉ defaultTLSConf.entries.map Prod.fst

lemma AvoidsTLS.merge {m o : StringMap} (hm : AvoidsTLS m) (ho : AvoidsTLS o) : AvoidsTLS (m.merge o) :=
  fun e he => (StringMap.mem_merge he).elim (hm e) (ho e)

lemma AvoidsTLS.get?_merge {o : StringMap} (ho : AvoidsTLS o) (m : StringMap) {key : String}
    (hkey : key ∈ defaultTLSConf.entries.map Prod.fst) : (m.merge o).get? key = m.get? key :=
  StringMap.get?_merge_of_absent m fun e he h => ho e he (h ▸ hkey)

lemma avoidsTLS_pluginConf (plugin : String) {entries : List (String × String)} (h : AvoidsTLS ⟨entries⟩) :
    AvoidsTLS (pluginConf cluster plugin entries) := by
  unfold pluginConf
  split
  · exact h
  · exact fun e he => absurd he List.not_mem_nil

lemma tlsConfiguration_get? {key : String} (hkey : key ∈ defaultTLSConf.entries.map Prod.fst) :
    (tlsConfiguration cluster).get? key = defaultTLSConf.get? key := by
  have hplugin (m : StringMap) (plugin : String) {entries : List (String × String)} (h : AvoidsTLS ⟨entries⟩) :
      (m.merge (pluginConf cluster plugin entries)).get? key = m.get? key :=
    (avoidsTLS_pluginConf plugin h).get?_merge m hkey
  unfold tlsConfiguration
  rw [hplugin, hplugin, hplugin, hplugin, hplugin, hplugin]
  · refine AvoidsTLS.get?_merge ?_ _ hkey
    unfold AvoidsTLS
    split <;> decide
  all_goals
    dsimp only [AvoidsTLS, onlyTLSConf]
    split <;> decide

lemma mutualTLSConfiguration_avoidsTLS : AvoidsTLS (mutualTLSConfiguration cluster) := by
  unfold mutualTLSConfiguration
  refine AvoidsTLS.merge (AvoidsTLS.merge (AvoidsTLS.merge ?_ (avoidsTLS_pluginConf _ ?_))
    (avoidsTLS_pluginConf _ ?_)) (avoidsTLS_pluginConf _ ?_)
  all_goals
    unfold AvoidsTLS
    decide

lemma memoryConfiguration_avoidsTLS : AvoidsTLS (memoryConfiguration cluster) := by
  unfold memoryConfiguration AvoidsTLS
  dsimp only
  split
  · rintro e (_ | ⟨_, ⟨⟩⟩)
    change "total_memory_available_override_value" ∉ _
    decide
  · exact fun e he => absurd he List.not_mem_nil

lemma userConfiguration_merge_tls (h : cluster.tlsEnabled = true) :
    (userConfiguration cluster).merge defaultTLSConf = userConfiguration cluster := by
  have hnodup : defaultTLSConf.KeysNodup := by
    unfold StringMap.KeysNodup
    decide
  refine StringMap.merge_eq_self_iff.mpr fun key value hlast => ?_
  have hkey : key ∈ defaultTLSConf.entries.map Prod.fst := by
    by_contra hkey
    rw [StringMap.lastEntry_eq_none fun e he hne => hkey (List.mem_map.mpr ⟨e, he, hne⟩)] at hlast
    cases hlast
  have hmutual : AvoidsTLS (if cluster.mutualTLSEnabled then mutualTLSConfiguration cluster else {}) := by
    split
    · exact mutualTLSConfiguration_avoidsTLS
    · exact fun e he => absurd he List.not_mem_nil
  unfold userConfiguration
  rw [memoryConfiguration_avoidsTLS.get?_merge _ hkey, hmutual.get?_merge _ hkey, if_pos h]
  rw [hnodup.lastEntry_eq] at hlast
  exact (congrArg (fun m => m.get? key) (StringMap.empty_merge (keysNodup_tlsConfiguration cluster))).trans
    ((tlsConfiguration_get? hkey).trans hlast)

lemma userFile_keys (lines : List (String × String)) :
    (userFile cluster lines).keys = (userConfiguration cluster).merge ⟨lines⟩ := by
  rw [userFile, operatorFile_eq]
  by_cases h : cluster.tlsEnabled = true
  · rw [if_pos h]
    exact congrArg (fun m => StringMap.merge m ⟨lines⟩) (userConfiguration_merge_tls h)
  · rw [if_neg h]
    rfl

end Keys

namespace ServerConfigMapBuilder

variable {cluster} {ini : Ini} {configMap out : DataObject}

lemma updatedData_updatedData (additionalConfig data : StringMap) :
    updatedData cluster ini additionalConfig (updatedData cluster ini additionalConfig data) =
      updatedData cluster ini additionalConfig data := by
  rw [updatedData_eq_set]
  · exact StringMap.set_eq_self (updatedData_operator _ _)
  · intro key hkey
    simp only [updatedData, get?_updateProperty, StringMap.get?_set, hkey, if_false]
    split_ifs <;> rfl

lemma update_update {restart : Bool} (h : (update cluster ini restart configMap).2 = .ok out) (restart' : Bool) :
    (update cluster ini restart' out).2 = .ok out := by
  rcases update_cases cluster ini configMap with ⟨err, herr⟩ | ⟨out', previous, next, hu, hp, hn, hok⟩
  · rw [herr] at h
    cases h
  · have hout : out' = out := by
      rw [hok] at h
      exact Except.ok.inj h
    subst hout
    have hagain : updated cluster ini out' = .ok out' := by
      obtain ⟨additionalConfig, hload, hvalid, hcontrolled⟩ := updated_eq_ok.mp hu
      refine updated_eq_ok.mpr ⟨additionalConfig, hload, hvalid, ?_⟩
      have hdata : out'.data = updatedData cluster ini additionalConfig configMap.data :=
        controlled_data hcontrolled
      rw [hdata, updatedData_updatedData, ← hdata]
      exact controlled_eq_self (controller_of_controlled hcontrolled)
    simp [update, hagain, hn, Bind.bind, Except.bind, Pure.pure, Except.pure]

theorem user_configuration_wins (cluster : RabbitmqCluster) (ini : Ini) (restart : Bool)
    (configMap out : DataObject) (additionalConfig : List (String × String))
    (hload : ini.load cluster.spec.rabbitmq.additionalConfig = .ok (IniFile.append {} additionalConfig).keys)
    (h : (update cluster ini restart configMap).2 = .ok out) :
    out.data.get? "userDefinedConfiguration.conf" = some (ini.write (userFile cluster additionalConfig).keys) ∧
      (userFile cluster additionalConfig).keys.KeysNodup ∧
      (∀ key value, StringMap.lastEntry key additionalConfig = some value →
        (userFile cluster additionalConfig).keys.get? key = some value) ∧
      (∀ key, StringMap.lastEntry key additionalConfig = none →
        (userFile cluster additionalConfig).keys.get? key = (operatorFile cluster).keys.get? key) ∧
      ∀ restart', (update cluster ini restart' out).2 = .ok out := by
  have hkeys : (userFile cluster additionalConfig).keys =
      (userConfiguration cluster).merge (IniFile.append {} additionalConfig).keys := by
    rw [userFile_keys, IniFile.append_empty, StringMap.merge_assoc _ StringMap.keysNodup_empty]
    rfl
  have hget (key : String) : (userFile cluster additionalConfig).keys.get? key =
      (StringMap.lastEntry key additionalConfig).or ((operatorFile cluster).keys.get? key) := by
    rw [userFile_keys, operatorFile_eq, StringMap.get?_merge]
  refine ⟨?_, ?_, fun key value hvalue => ?_, fun key hnone => ?_, update_update h⟩
  · obtain ⟨loaded, hloaded, hdata⟩ := updated_data (updated_of_update h)
    cases hload.symm.trans hloaded
    rw [hdata, hkeys]
    simp [updatedData, get?_updateProperty]
  · rw [userFile_keys]
    exact (((StringMap.keysNodup_empty.merge _).merge _).merge _).merge _
  · rw [hget, hvalue, Option.some_or]
  · rw [hget, hnone, Option.none_or]

theorem consumer_timeout_wins :
    (userFile hintedCluster [("consumer_timeout", "10000")]).keys.get? "consumer_timeout" = some "10000" ∧
      (update hintedCluster Ini.ascii true upToDate).2 = .ok upToDate := by
  have h : (update hintedCluster Ini.ascii true (build hintedCluster)).2 = .ok upToDate := by decide +kernel
  obtain ⟨-, -, huser, -, hagain⟩ := user_configuration_wins hintedCluster Ini.ascii true (build hintedCluster)
    upToDate [("consumer_timeout", "10000")] (by decide +kernel) h
  exact ⟨huser _ _ rfl, hagain true⟩

end ServerConfigMapBuilder

end ClusterOperator.Resource
