import ClusterOperator.Resource.ConfigMaps
import ClusterOperator.Resource.Service

namespace ClusterOperator.Resource

open Api Kubernetes

namespace ClientProtocol

def tlsSetting : ClientProtocol → String
  | amqp => "listeners.ssl.default"
  | management => "management.ssl.port"
  | prometheus => "prometheus.ssl.port"
  | mqtt => "mqtt.listeners.ssl.default"
  | stomp => "stomp.listeners.ssl.1"
  | stream => "stream.listeners.ssl.default"
  | webMqtt => "web_mqtt.ssl.port"
  | webStomp => "web_stomp.ssl.port"
  | webAmqp => "web_amqp.tls.port"

def tcpSetting : ClientProtocol → String
  | amqp => "listeners.tcp"
  | management => "management.tcp.port"
  | prometheus => "prometheus.tcp.port"
  | mqtt => "mqtt.listeners.tcp"
  | stomp => "stomp.listeners.tcp"
  | stream => "stream.listeners.tcp"
  | webMqtt => "web_mqtt.tcp.listener"
  | webStomp => "web_stomp.tcp.listener"
  | webAmqp => "web_amqp.tcp.port"

/-- Without a port in the setting there is no listener once a port with TLS is set. -/
def closedBySilence : ClientProtocol → Bool
  | management | prometheus | webAmqp => true
  | _ => false

def Opens (conf : StringMap) (p : ClientProtocol) : Prop :=
  conf.get? p.tlsSetting = some (toString (p.port true).targetPort)

def Closes (conf : StringMap) (p : ClientProtocol) : Prop :=
  if p.closedBySilence then p.Opens conf ∧ conf.get? p.tcpSetting = none
  else conf.get? p.tcpSetting = some "none"

instance (conf : StringMap) (p : ClientProtocol) : Decidable (p.Opens conf) := by
  unfold Opens
  infer_instance

instance (conf : StringMap) (p : ClientProtocol) : Decidable (p.Closes conf) := by
  unfold Closes
  infer_instance

def configured (cluster : RabbitmqCluster) : ClientProtocol → Bool
  | stream => cluster.additionalPluginEnabled "rabbitmq_stream"
  | p => p.needed cluster

end ClientProtocol

variable {cluster : RabbitmqCluster}

lemma lastEntry_pluginConf (plugin k : String) (es : List (String × String)) :
    StringMap.lastEntry k (pluginConf cluster plugin es).entries =
      if cluster.additionalPluginEnabled plugin then StringMap.lastEntry k es else none := by
  unfold pluginConf
  split <;> rfl

lemma lastEntry_onlyTLSConf (k : String) (es : List (String × String)) :
    StringMap.lastEntry k (onlyTLSConf cluster es) =
      if cluster.disableNonTLSListeners then StringMap.lastEntry k es else none := by
  unfold onlyTLSConf
  split <;> rfl

lemma get?_mk (k : String) (es : List (String × String)) :
    (StringMap.mk es).get? k = StringMap.getEntry k es := rfl

lemma get?_tlsSetting (p : ClientProtocol) :
    (tlsConfiguration cluster).get? p.tlsSetting =
      if p.configured cluster then some (toString (p.port true).targetPort) else none := by
  unfold tlsConfiguration defaultTLSConf
  cases p <;>
    simp [StringMap.get?_merge, lastEntry_pluginConf, lastEntry_onlyTLSConf, StringMap.lastEntry,
      StringMap.lastEntry_append, apply_ite StringMap.entries, apply_ite (StringMap.lastEntry _),
      ClientProtocol.tlsSetting, ClientProtocol.configured, ClientProtocol.needed, get?_mk, StringMap.getEntry,
      ClientProtocol.port, servicePort] <;> rfl

lemma get?_tcpSetting (hd : cluster.disableNonTLSListeners = true) (p : ClientProtocol) :
    (tlsConfiguration cluster).get? p.tcpSetting =
      if p.configured cluster && !p.closedBySilence then some "none" else none := by
  unfold tlsConfiguration defaultTLSConf
  cases p <;>
    simp [StringMap.get?_merge, lastEntry_pluginConf, lastEntry_onlyTLSConf, StringMap.lastEntry, get?_mk,
      StringMap.getEntry, ClientProtocol.tcpSetting, ClientProtocol.configured, ClientProtocol.needed,
      ClientProtocol.closedBySilence, hd]

lemma userConfiguration_get? (ht : cluster.tlsEnabled = true) {k : String}
    (hm : (mutualTLSConfiguration cluster).get? k = none) (hk : k ≠ "total_memory_available_override_value") :
    (userConfiguration cluster).get? k = (tlsConfiguration cluster).get? k := by
  unfold userConfiguration memoryConfiguration
  rw [if_pos ht]
  simp [StringMap.get?_merge, (keysNodup_tlsConfiguration cluster).lastEntry_eq,
    (keysNodup_mutualTLSConfiguration cluster).lastEntry_eq, apply_ite StringMap.entries,
    apply_ite (StringMap.lastEntry _), hm, StringMap.lastEntry, Ne.symm hk, get?_mk, StringMap.getEntry]

lemma get?_mutual_tlsSetting (p : ClientProtocol) : (mutualTLSConfiguration cluster).get? p.tlsSetting = none := by
  unfold mutualTLSConfiguration
  cases p <;>
    simp [StringMap.get?_merge, lastEntry_pluginConf, StringMap.lastEntry, get?_mk, StringMap.getEntry,
      ClientProtocol.tlsSetting]

lemma get?_mutual_tcpSetting (p : ClientProtocol) : (mutualTLSConfiguration cluster).get? p.tcpSetting = none := by
  unfold mutualTLSConfiguration
  cases p <;>
    simp [StringMap.get?_merge, lastEntry_pluginConf, StringMap.lastEntry, get?_mk, StringMap.getEntry,
      ClientProtocol.tcpSetting]

lemma opens_iff (ht : cluster.tlsEnabled = true) (p : ClientProtocol) :
    p.Opens (userConfiguration cluster) ↔ p.configured cluster = true := by
  have hk : p.tlsSetting ≠ "total_memory_available_override_value" := by cases p <;> decide
  unfold ClientProtocol.Opens
  rw [userConfiguration_get? ht (get?_mutual_tlsSetting p) hk, get?_tlsSetting]
  simp

lemma closes_iff (ht : cluster.tlsEnabled = true) (hd : cluster.disableNonTLSListeners = true) (p : ClientProtocol) :
    p.Closes (userConfiguration cluster) ↔ p.configured cluster = true := by
  have hk : p.tcpSetting ≠ "total_memory_available_override_value" := by cases p <;> decide
  unfold ClientProtocol.Closes
  rw [opens_iff ht, userConfiguration_get? ht (get?_mutual_tcpSetting p) hk, get?_tcpSetting hd]
  cases p.closedBySilence <;> simp

lemma needed_configured_iff :
    (∀ p : ClientProtocol, p.needed cluster = true → p.configured cluster = true) ↔
      (cluster.streamNeeded = true → cluster.additionalPluginEnabled "rabbitmq_stream" = true) := by
  constructor
  · intro h hs
    exact h .stream hs
  · intro h p hp
    cases p with
    | stream => exact h hp
    | _ => exact hp

section Written

variable {ini : Ini} {restart : Bool} {configMap out : DataObject}

lemma update_userConfiguration (hini : ini.load "" = .ok {}) (hc : cluster.spec.rabbitmq.additionalConfig = "")
    (hok : (ServerConfigMapBuilder.update cluster ini restart configMap).2 = .ok out) :
    out.data.get? "userDefinedConfiguration.conf" = some (ini.write (userConfiguration cluster)) := by
  obtain ⟨additionalConfig, hl, hdata⟩ :=
    ServerConfigMapBuilder.updated_data (ServerConfigMapBuilder.updated_of_update hok)
  rw [hc, hini, Except.ok.injEq] at hl
  subst hl
  simp [hdata, ServerConfigMapBuilder.updatedData, get?_updateProperty, StringMap.merge]

theorem listeners_agree_iff (hini : ini.load "" = .ok {}) (hc : cluster.spec.rabbitmq.additionalConfig = "")
    (ht : cluster.tlsEnabled = true)
    (hok : (ServerConfigMapBuilder.update cluster ini restart configMap).2 = .ok out) :
    out.data.get? "userDefinedConfiguration.conf" = some (ini.write (userConfiguration cluster)) ∧
      (((∀ p : ClientProtocol, p.port true ∈ generateServicePortsMap cluster → p.Opens (userConfiguration cluster)) ∧
          (cluster.disableNonTLSListeners = true → ∀ p : ClientProtocol,
            p.port true ∈ generateServicePortsMap cluster → p.Closes (userConfiguration cluster))) ↔
        (cluster.streamNeeded = true → cluster.additionalPluginEnabled "rabbitmq_stream" = true)) := by
  refine ⟨update_userConfiguration hini hc hok, ?_⟩
  have hport (p : ClientProtocol) : p.port true ∈ generateServicePortsMap cluster ↔ p.needed cluster = true := by
    rw [port_mem_iff]
    simp [ClientProtocol.offered, ht]
  simp only [hport, opens_iff ht]
  rw [← needed_configured_iff]
  refine ⟨fun h => h.1, fun h => ⟨h, fun hd p hp => ?_⟩⟩
  exact (closes_iff ht hd p).mpr (h p hp)

end Written

def tlsOnlyCluster (plugins : List String) : RabbitmqCluster where
  name := "rabbit"
  ns := "default"
  spec := { tls := { secretName := "tls", disableNonTLSListeners := true }
            rabbitmq := { additionalPlugins := plugins } }

def streamManagementCluster : RabbitmqCluster := tlsOnlyCluster ["rabbitmq_stream_management"]

theorem stream_listener_missing :
    streamManagementCluster.tlsEnabled = true ∧
      ClientProtocol.stream.port true ∈ generateServicePortsMap streamManagementCluster ∧
      ((ServerConfigMapBuilder.update streamManagementCluster .ascii true
          (ServerConfigMapBuilder.build streamManagementCluster)).2.toOption.bind
        fun out => out.data.get? "userDefinedConfiguration.conf") =
          some (Ini.ascii.write (userConfiguration streamManagementCluster)) ∧
      (userConfiguration streamManagementCluster).get? "stream.listeners.ssl.default" = none ∧
      (userConfiguration streamManagementCluster).get? "stream.listeners.tcp" = none ∧
      ¬ ClientProtocol.stream.Opens (userConfiguration streamManagementCluster) ∧
      ¬ ClientProtocol.stream.Closes (userConfiguration streamManagementCluster) := by
  decide +kernel

def streamCluster : RabbitmqCluster := tlsOnlyCluster ["rabbitmq_stream", "rabbitmq_stream_management"]

def streamConfigMap : DataObject :=
  ((ServerConfigMapBuilder.update streamCluster .ascii true
    (ServerConfigMapBuilder.build streamCluster)).2.toOption).getD {}

theorem stream_listener_open :
    ClientProtocol.stream.Opens (userConfiguration streamCluster) ∧
      ClientProtocol.stream.Closes (userConfiguration streamCluster) := by
  have hok : (ServerConfigMapBuilder.update streamCluster .ascii true
      (ServerConfigMapBuilder.build streamCluster)).2 = .ok streamConfigMap := by rfl
  have hport : ClientProtocol.stream.port true ∈ generateServicePortsMap streamCluster := by decide
  obtain ⟨hopens, hcloses⟩ := (listeners_agree_iff rfl rfl rfl hok).2.mpr fun _ => rfl
  exact ⟨hopens _ hport, hcloses rfl _ hport⟩

end ClusterOperator.Resource
