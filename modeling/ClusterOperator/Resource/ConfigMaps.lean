import ClusterOperator.Resource.Metadata

namespace ClusterOperator.Resource

open Api Kubernetes

section Plugins

def requiredPlugins : List String :=
  ["rabbitmq_peer_discovery_k8s", "rabbitmq_prometheus", "rabbitmq_management"]

def addPlugins : List String → List String → List String
  | enabledPlugins, [] => enabledPlugins
  | enabledPlugins, p :: ps =>
    if p ∈ enabledPlugins then addPlugins enabledPlugins ps else addPlugins (enabledPlugins ++ [p]) ps

def desiredPlugins (additionalPlugins : List String) : List String :=
  addPlugins [] (requiredPlugins ++ additionalPlugins)

def pluginsAsString (additionalPlugins : List String) (sep : String) : String :=
  sep.intercalate (desiredPlugins additionalPlugins)

def desiredPluginsAsString (additionalPlugins : List String) : String :=
  "[" ++ pluginsAsString additionalPlugins "," ++ "]."

end Plugins

variable (cluster : RabbitmqCluster)

def builtConfigMap (data : StringMap) : DataObject where
  metadata :=
    { labels := getLabels cluster.name cluster.labels
      annotations := reconcileAndFilterAnnotations {} cluster.annotations }
  data := data

def controlled (o : DataObject) : Except Err DataObject := do
  let metadata ← setControllerReference cluster o.metadata
  return { o with metadata }

lemma controlled_eq {cluster : RabbitmqCluster} {o out : DataObject} (h : controlled cluster o = .ok out) :
    out = { o with metadata.controller := some cluster.name } := by
  obtain ⟨metadata, hm, ho⟩ := bind_eq_ok.mp h
  cases ho
  rw [setControllerReference_eq hm]

namespace RabbitmqPluginsConfigMapBuilder

def build : DataObject := builtConfigMap cluster ⟨[("enabled_plugins", desiredPluginsAsString [])]⟩

def update (configMap : DataObject) : Except Err DataObject :=
  controlled cluster { configMap with
    data := configMap.data.set "enabled_plugins"
      (desiredPluginsAsString cluster.spec.rabbitmq.additionalPlugins) }

end RabbitmqPluginsConfigMapBuilder

/-- `ini.v1`, for files that have a default section only. -/
structure Ini where
  load : String → Except Err StringMap
  write : StringMap → String

def asciiChars (text : String) : List Char := text.toByteArray.data.toList.map fun b => Char.ofNat b.toNat

def trimSpace (cs : List Char) : List Char :=
  ((cs.dropWhile Char.isWhitespace).reverse.dropWhile Char.isWhitespace).reverse

def iniEntry (line : List Char) : Option (String × String) :=
  match line.splitOn '=' with
  | [key, value] => some (String.ofList (trimSpace key), String.ofList (trimSpace value))
  | _ => none

def Ini.ascii : Ini where
  load text := .ok (((asciiChars text).splitOn '\n' |>.filterMap iniEntry).foldl (fun m e => m.set e.1 e.2) {})
  write m := m.entries.foldl (fun text e => text ++ e.1 ++ " = " ++ e.2 ++ "\n") ""

def defaultRabbitmqConf : StringMap :=
  ⟨[("log.console", "true"), ("queue_master_locator", "min-masters"),
    ("disk_free_limit.absolute", "2GB"), ("cluster_partition_handling", "pause_minority"),
    ("cluster_formation.peer_discovery_backend", "rabbit_peer_discovery_k8s"),
    ("cluster_formation.k8s.host", "kubernetes.default"),
    ("cluster_formation.k8s.address_type", "hostname")]⟩

def tlsCertPath : String := "/etc/rabbitmq-tls/tls.crt"
def tlsKeyPath : String := "/etc/rabbitmq-tls/tls.key"
def caCertPath : String := "/etc/rabbitmq-tls/ca.crt"

def defaultTLSConf : StringMap :=
  ⟨[("ssl_options.certfile", tlsCertPath), ("ssl_options.keyfile", tlsKeyPath),
    ("listeners.ssl.default", "5671"), ("management.ssl.certfile", tlsCertPath),
    ("management.ssl.keyfile", tlsKeyPath), ("management.ssl.port", "15671"),
    ("prometheus.ssl.certfile", tlsCertPath), ("prometheus.ssl.keyfile", tlsKeyPath),
    ("prometheus.ssl.port", "15691")]⟩

def targetClusterSizeHint : String := "cluster_formation.target_cluster_size_hint"

def operatorConfiguration (authMechsConfigured : Bool) : StringMap :=
  let conf := (defaultRabbitmqConf.set targetClusterSizeHint (toString cluster.spec.replicas.val)).set
    "cluster_name" cluster.name
  if authMechsConfigured then conf
  else (conf.set "auth_mechanisms.1" "PLAIN").set "auth_mechanisms.2" "AMQPLAIN"

def pluginConf (plugin : String) (entries : List (String × String)) : StringMap :=
  if cluster.additionalPluginEnabled plugin then ⟨entries⟩ else {}

def onlyTLSConf (entries : List (String × String)) : List (String × String) :=
  if cluster.disableNonTLSListeners then entries else []

def tlsConfiguration : StringMap :=
  defaultTLSConf
  |>.merge (if cluster.disableNonTLSListeners then ⟨[("listeners.tcp", "none")]⟩
      else ⟨[("management.tcp.port", "15672"), ("prometheus.tcp.port", "15692")]⟩)
  |>.merge (pluginConf cluster "rabbitmq_mqtt"
      (("mqtt.listeners.ssl.default", "8883") :: onlyTLSConf cluster [("mqtt.listeners.tcp", "none")]))
  |>.merge (pluginConf cluster "rabbitmq_stomp"
      (("stomp.listeners.ssl.1", "61614") :: onlyTLSConf cluster [("stomp.listeners.tcp", "none")]))
  |>.merge (pluginConf cluster "rabbitmq_web_mqtt"
      ([("web_mqtt.ssl.port", "15676"), ("web_mqtt.ssl.certfile", tlsCertPath),
        ("web_mqtt.ssl.keyfile", tlsKeyPath)] ++ onlyTLSConf cluster [("web_mqtt.tcp.listener", "none")]))
  |>.merge (pluginConf cluster "rabbitmq_web_stomp"
      ([("web_stomp.ssl.port", "15673"), ("web_stomp.ssl.certfile", tlsCertPath),
        ("web_stomp.ssl.keyfile", tlsKeyPath)] ++ onlyTLSConf cluster [("web_stomp.tcp.listener", "none")]))
  |>.merge (pluginConf cluster "rabbitmq_web_amqp"
      ((if cluster.disableNonTLSListeners then [] else [("web_amqp.tcp.port", "15678")]) ++
        [("web_amqp.tls.port", "15677"), ("web_amqp.tls.certfile", tlsCertPath),
          ("web_amqp.tls.keyfile", tlsKeyPath)]))
  |>.merge (pluginConf cluster "rabbitmq_stream"
      (("stream.listeners.ssl.default", "5551") :: onlyTLSConf cluster [("stream.listeners.tcp", "none")]))

lemma keysNodup_tlsConfiguration : (tlsConfiguration cluster).KeysNodup := by
  unfold tlsConfiguration
  iterate 7 apply StringMap.KeysNodup.merge
  unfold StringMap.KeysNodup defaultTLSConf
  decide

def mutualTLSConfiguration : StringMap :=
  (StringMap.mk [("ssl_options.cacertfile", caCertPath), ("ssl_options.verify", "verify_peer"),
    ("management.ssl.cacertfile", caCertPath), ("prometheus.ssl.cacertfile", caCertPath)])
  |>.merge (pluginConf cluster "rabbitmq_web_mqtt" [("web_mqtt.ssl.cacertfile", caCertPath)])
  |>.merge (pluginConf cluster "rabbitmq_web_stomp" [("web_stomp.ssl.cacertfile", caCertPath)])
  |>.merge (pluginConf cluster "rabbitmq_web_amqp" [("web_amqp.tls.cacertfile", caCertPath)])

lemma keysNodup_mutualTLSConfiguration : (mutualTLSConfiguration cluster).KeysNodup := by
  unfold mutualTLSConfiguration
  iterate 3 apply StringMap.KeysNodup.merge
  unfold StringMap.KeysNodup
  decide

def removeHeadroom (memLimit : ℤ) : ℤ :=
  if memLimit.tdiv 5 > 2 * 1073741824 then memLimit - 2 * 1073741824 else memLimit - memLimit.tdiv 5

def memoryConfiguration : StringMap :=
  let limit := cluster.spec.memory.limit.getD 0
  if limit ≠ 0 then ⟨[("total_memory_available_override_value", toString (removeHeadroom limit))]⟩ else {}

def userConfiguration : StringMap :=
  (StringMap.mk [])
  |>.merge (if cluster.tlsEnabled then tlsConfiguration cluster else {})
  |>.merge (if cluster.mutualTLSEnabled then mutualTLSConfiguration cluster else {})
  |>.merge (memoryConfiguration cluster)

def updateProperty (data : StringMap) (key value : String) : StringMap :=
  if value = "" then data.erase key else data.set key value

lemma get?_updateProperty (data : StringMap) (key value k : String) :
    (updateProperty data key value).get? k =
      if k = key then (if value = "" then none else some value) else data.get? k := by
  unfold updateProperty
  split <;> simp [StringMap.get?_set, StringMap.get?_erase]

def errInvalidEnvConfig : Err :=
  .text "spec.rabbitmq.envConfig must not contain shell command substitution ('$(...)' or backticks)"

def validateEnvConfig (envConfig : String) : Except Err Unit :=
  if contains envConfig "$(" || contains envConfig "`" then .error errInvalidEnvConfig else .ok ()

def removeConfigNotRequiringNodeRestart (ini : Ini) (configMap : DataObject) : Except Err DataObject :=
  let operatorConf := (configMap.data.get? "operatorDefaults.conf").getD ""
  if operatorConf = "" then .ok configMap
  else do
    let conf ← (ini.load operatorConf).mapError
      (.wrap "failed to load operatorDefaults.conf when deciding whether to restart STS")
    let conf := conf.filterKeys (fun key => !hasPrefix targetClusterSizeHint key)
    return { configMap with data := configMap.data.set "operatorDefaults.conf" (ini.write conf) }

namespace ServerConfigMapBuilder

def build : DataObject := builtConfigMap cluster {}

def updated (ini : Ini) (configMap : DataObject) : Except Err DataObject := do
  let rabbitmq := cluster.spec.rabbitmq
  let additionalConfig ← (ini.load rabbitmq.additionalConfig).mapError
    (.wrap "failed to load spec.rabbitmq.additionalConfig")
  let authMechsConfigured := additionalConfig.entries.any (fun e => hasPrefix "auth_mechanisms" e.1)
  let data := configMap.data.set "operatorDefaults.conf"
    (ini.write (operatorConfiguration cluster authMechsConfigured))
  let data := data.set "userDefinedConfiguration.conf"
    (ini.write ((userConfiguration cluster).merge additionalConfig))
  let _ ← validateEnvConfig rabbitmq.envConfig
  let data := updateProperty data "advanced.config" rabbitmq.advancedConfig
  let data := updateProperty data "rabbitmq-env.conf" rabbitmq.envConfig
  let data := updateProperty data "erl_inetrc" rabbitmq.erlangInetConfig
  controlled cluster { configMap with data }

/-- `Update`. It clears `UpdateRequiresStsRestart` if nothing changes that concerns running
nodes, and never sets it again. -/
def update (ini : Ini) (updateRequiresStsRestart : Bool) (configMap : DataObject) :
    Bool × Except Err DataObject :=
  let result := do
    let updatedConfigMap ← updated cluster ini configMap
    let previous ← removeConfigNotRequiringNodeRestart ini configMap
    let next ← removeConfigNotRequiringNodeRestart ini updatedConfigMap
    return (updatedConfigMap, decide (previous = next))
  match result with
  | .error err => (updateRequiresStsRestart, .error err)
  | .ok (updatedConfigMap, same) => (updateRequiresStsRestart && !same, .ok updatedConfigMap)

variable {cluster} {ini : Ini} {configMap out : DataObject}

lemma updated_of_update {restart : Bool} (h : (update cluster ini restart configMap).2 = .ok out) :
    updated cluster ini configMap = .ok out := by
  unfold update at h
  cases hu : updated cluster ini configMap with
  | error e => simp [hu, Bind.bind, Except.bind] at h
  | ok o =>
    cases hp : removeConfigNotRequiringNodeRestart ini configMap with
    | error e => simp [hu, hp, Bind.bind, Except.bind] at h
    | ok previous =>
      cases hn : removeConfigNotRequiringNodeRestart ini o with
      | error e => simp [hu, hp, hn, Bind.bind, Except.bind] at h
      | ok next =>
        simp only [hu, hp, hn, Bind.bind, Except.bind, Pure.pure, Except.pure] at h
        exact h

def updatedData (cluster : RabbitmqCluster) (ini : Ini) (additionalConfig data : StringMap) : StringMap :=
  updateProperty (updateProperty (updateProperty
    ((data.set "operatorDefaults.conf" (ini.write (operatorConfiguration cluster
        (additionalConfig.entries.any fun e => hasPrefix "auth_mechanisms" e.1)))).set
      "userDefinedConfiguration.conf" (ini.write ((userConfiguration cluster).merge additionalConfig)))
    "advanced.config" cluster.spec.rabbitmq.advancedConfig)
    "rabbitmq-env.conf" cluster.spec.rabbitmq.envConfig)
    "erl_inetrc" cluster.spec.rabbitmq.erlangInetConfig

lemma updated_eq_ok :
    updated cluster ini configMap = .ok out ↔
      ∃ additionalConfig, ini.load cluster.spec.rabbitmq.additionalConfig = .ok additionalConfig ∧
        validateEnvConfig cluster.spec.rabbitmq.envConfig = .ok () ∧
        controlled cluster { configMap with data := updatedData cluster ini additionalConfig configMap.data } =
          .ok out := by
  unfold updated
  simp only [bind_eq_ok, mapError_eq_ok]
  exact exists_congr fun _ => and_congr_right fun _ => ⟨fun ⟨_, h⟩ => h, fun h => ⟨(), h⟩⟩

lemma controlled_data {o : DataObject} (h : controlled cluster o = .ok out) : out.data = o.data := by
  obtain ⟨metadata, _, ho⟩ := bind_eq_ok.mp h
  cases ho
  rfl

lemma updated_data (h : updated cluster ini configMap = .ok out) :
    ∃ additionalConfig, ini.load cluster.spec.rabbitmq.additionalConfig = .ok additionalConfig ∧
      out.data = updatedData cluster ini additionalConfig configMap.data := by
  obtain ⟨additionalConfig, hload, -, hout⟩ := updated_eq_ok.mp h
  exact ⟨additionalConfig, hload, controlled_data hout⟩

end ServerConfigMapBuilder

end ClusterOperator.Resource
