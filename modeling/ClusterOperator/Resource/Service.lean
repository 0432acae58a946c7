import ClusterOperator.Resource.PodTemplate

namespace ClusterOperator.Resource

open Api Kubernetes

section Ports

variable (cluster : RabbitmqCluster)

def servicePort (name : String) (port : ℕ) (appProtocol : String) : ServicePort where
  name := name
  port := port
  targetPort := port
  appProtocol := appProtocol

def pluginServicePort (plugin : String) (port : ServicePort) : List ServicePort :=
  if cluster.additionalPluginEnabled plugin then [port] else []

def streamServicePort (port : ServicePort) : List ServicePort := if cluster.streamNeeded then [port] else []

/-- The map from names to ports, as the list of the ports. -/
def generateServicePortsMap : List ServicePort :=
  (if cluster.disableNonTLSListeners then [] else
    [servicePort "amqp" 5672 "amqp", servicePort "management" 15672 "http"] ++
    pluginServicePort cluster "rabbitmq_mqtt" (servicePort "mqtt" 1883 "mqtt") ++
    pluginServicePort cluster "rabbitmq_web_mqtt" (servicePort "web-mqtt" 15675 "http") ++
    pluginServicePort cluster "rabbitmq_stomp" (servicePort "stomp" 61613 "stomp.github.io/stomp") ++
    pluginServicePort cluster "rabbitmq_web_stomp" (servicePort "web-stomp" 15674 "http") ++
    pluginServicePort cluster "rabbitmq_web_amqp" (servicePort "web-amqp" 15678 "http") ++
    streamServicePort cluster (servicePort "stream" 5552 "rabbitmq.com/stream")) ++
  if cluster.tlsEnabled then
    [servicePort "amqps" 5671 "amqps", servicePort "management-tls" 15671 "https"] ++
    pluginServicePort cluster "rabbitmq_stomp" (servicePort "stomps" 61614 "stomp.github.io/stomp-tls") ++
    pluginServicePort cluster "rabbitmq_mqtt" (servicePort "mqtts" 8883 "mqtts") ++
    pluginServicePort cluster "rabbitmq_web_stomp" (servicePort "web-stomp-tls" 15673 "https") ++
    pluginServicePort cluster "rabbitmq_web_mqtt" (servicePort "web-mqtt-tls" 15676 "https") ++
    pluginServicePort cluster "rabbitmq_web_amqp" (servicePort "web-amqp-tls" 15677 "https") ++
    streamServicePort cluster (servicePort "streams" 5551 "rabbitmq.com/stream-tls") ++
    -- either 15692 or 15691, so that no node is scraped twice
    [servicePort "prometheus-tls" 15691 "prometheus.io/metric-tls"]
  else [servicePort "prometheus" 15692 "prometheus.io/metrics"]

end Ports

inductive ClientProtocol
  | amqp
  | management
  | prometheus
  | mqtt
  | stomp
  | stream
  | webMqtt
  | webStomp
  | webAmqp
deriving DecidableEq

namespace ClientProtocol

def needed (cluster : RabbitmqCluster) : ClientProtocol → Bool
  | amqp | management | prometheus => true
  | mqtt => cluster.additionalPluginEnabled "rabbitmq_mqtt"
  | stomp => cluster.additionalPluginEnabled "rabbitmq_stomp"
  | stream => cluster.streamNeeded
  | webMqtt => cluster.additionalPluginEnabled "rabbitmq_web_mqtt"
  | webStomp => cluster.additionalPluginEnabled "rabbitmq_web_stomp"
  | webAmqp => cluster.additionalPluginEnabled "rabbitmq_web_amqp"

def web : ClientProtocol → Bool
  | webMqtt | webStomp | webAmqp => true
  | _ => false

def port : ClientProtocol → Bool → ServicePort
  | amqp, false => servicePort "amqp" 5672 "amqp"
  | amqp, true => servicePort "amqps" 5671 "amqps"
  | management, false => servicePort "management" 15672 "http"
  | management, true => servicePort "management-tls" 15671 "https"
  | prometheus, false => servicePort "prometheus" 15692 "prometheus.io/metrics"
  | prometheus, true => servicePort "prometheus-tls" 15691 "prometheus.io/metric-tls"
  | mqtt, false => servicePort "mqtt" 1883 "mqtt"
  | mqtt, true => servicePort "mqtts" 8883 "mqtts"
  | stomp, false => servicePort "stomp" 61613 "stomp.github.io/stomp"
  | stomp, true => servicePort "stomps" 61614 "stomp.github.io/stomp-tls"
  | stream, false => servicePort "stream" 5552 "rabbitmq.com/stream"
  | stream, true => servicePort "streams" 5551 "rabbitmq.com/stream-tls"
  | webMqtt, false => servicePort "web-mqtt" 15675 "http"
  | webMqtt, true => servicePort "web-mqtt-tls" 15676 "https"
  | webStomp, false => servicePort "web-stomp" 15674 "http"
  | webStomp, true => servicePort "web-stomp-tls" 15673 "https"
  | webAmqp, false => servicePort "web-amqp" 15678 "http"
  | webAmqp, true => servicePort "web-amqp-tls" 15677 "https"

def offered (cluster : RabbitmqCluster) (p : ClientProtocol) : Bool → Bool
  | true => p.needed cluster && cluster.tlsEnabled
  | false =>
    if p = prometheus then !cluster.tlsEnabled else p.needed cluster && !cluster.disableNonTLSListeners

def opened (cluster : RabbitmqCluster) (p : ClientProtocol) : Bool → Bool
  | true => p.needed cluster && if cluster.disableNonTLSListeners then !p.web else cluster.tlsEnabled
  | false => p.needed cluster && !cluster.disableNonTLSListeners

def containerPort (p : ClientProtocol) (tls : Bool) : ContainerPort := ⟨(p.port tls).name, (p.port tls).targetPort⟩

end ClientProtocol

variable {cluster : RabbitmqCluster}

lemma mem_pluginServicePort {plugin : String} {port sp : ServicePort} :
    sp ∈ pluginServicePort cluster plugin port ↔ cluster.additionalPluginEnabled plugin = true ∧ sp = port := by
  unfold pluginServicePort
  split <;> simp [*]

lemma mem_streamServicePort {port sp : ServicePort} :
    sp ∈ streamServicePort cluster port ↔ cluster.streamNeeded = true ∧ sp = port := by
  unfold streamServicePort
  split <;> simp [*]

lemma mem_pluginPort {plugin : String} {port cp : ContainerPort} :
    cp ∈ pluginPort cluster plugin port ↔ cluster.additionalPluginEnabled plugin = true ∧ cp = port := by
  unfold pluginPort
  split <;> simp [*]

lemma mem_streamPort {port cp : ContainerPort} :
    cp ∈ streamPort cluster port ↔ cluster.streamNeeded = true ∧ cp = port := by
  unfold streamPort
  split <;> simp [*]

section

open ClientProtocol

variable {p : ClientProtocol}

lemma offered_plain (hp : p.needed cluster = true) (hne : p ≠ prometheus)
    (hd : ¬ cluster.disableNonTLSListeners = true) : p.offered cluster false = true := by
  simp [offered, hne, hp, hd]

lemma offered_tls (hp : p.needed cluster = true) (ht : cluster.tlsEnabled = true) :
    p.offered cluster true = true := by
  simp [offered, hp, ht]

lemma opened_plain (hp : p.needed cluster = true) (hd : ¬ cluster.disableNonTLSListeners = true) :
    p.opened cluster false = true := by
  simp [opened, hp, hd]

lemma opened_tls (hp : p.needed cluster = true) (hd : ¬ cluster.disableNonTLSListeners = true)
    (ht : cluster.tlsEnabled = true) : p.opened cluster true = true := by
  simp [opened, hp, hd, ht]

lemma opened_only_tls (hp : p.needed cluster = true) (hd : cluster.disableNonTLSListeners = true)
    (hw : p.web = false) : p.opened cluster true = true := by
  simp [opened, hp, hd, hw]

end

lemma mem_generateServicePortsMap {sp : ServicePort} :
    sp ∈ generateServicePortsMap cluster ↔ ∃ (p : ClientProtocol) (tls : Bool),
      p.offered cluster tls = true ∧ sp = p.port tls := by
  unfold generateServicePortsMap
  constructor
  · intro h
    rcases List.mem_append.mp h with h | h
    · split at h
      · cases h
      · rename_i hd
        simp only [List.mem_append, List.mem_cons, List.not_mem_nil, or_false, mem_pluginServicePort,
          mem_streamServicePort, or_assoc] at h
        rcases h with h | h | ⟨hp, h⟩ | ⟨hp, h⟩ | ⟨hp, h⟩ | ⟨hp, h⟩ | ⟨hp, h⟩ | ⟨hp, h⟩
        · exact ⟨.amqp, false, offered_plain rfl nofun hd, h⟩
        · exact ⟨.management, false, offered_plain rfl nofun hd, h⟩
        · exact ⟨.mqtt, false, offered_plain hp nofun hd, h⟩
        · exact ⟨.webMqtt, false, offered_plain hp nofun hd, h⟩
        · exact ⟨.stomp, false, offered_plain hp nofun hd, h⟩
        · exact ⟨.webStomp, false, offered_plain hp nofun hd, h⟩
        · exact ⟨.webAmqp, false, offered_plain hp nofun hd, h⟩
        · exact ⟨.stream, false, offered_plain hp nofun hd, h⟩
    · split at h
      · rename_i ht
        simp only [List.mem_append, List.mem_cons, List.not_mem_nil, or_false, mem_pluginServicePort,
          mem_streamServicePort, or_assoc] at h
        rcases h with h | h | ⟨hp, h⟩ | ⟨hp, h⟩ | ⟨hp, h⟩ | ⟨hp, h⟩ | ⟨hp, h⟩ | ⟨hp, h⟩ | h
        · exact ⟨.amqp, true, offered_tls rfl ht, h⟩
        · exact ⟨.management, true, offered_tls rfl ht, h⟩
        · exact ⟨.stomp, true, offered_tls hp ht, h⟩
        · exact ⟨.mqtt, true, offered_tls hp ht, h⟩
        · exact ⟨.webStomp, true, offered_tls hp ht, h⟩
        · exact ⟨.webMqtt, true, offered_tls hp ht, h⟩
        · exact ⟨.webAmqp, true, offered_tls hp ht, h⟩
        · exact ⟨.stream, true, offered_tls hp ht, h⟩
        · exact ⟨.prometheus, true, offered_tls rfl ht, h⟩
      · rename_i ht
        exact ⟨.prometheus, false, by simp [ClientProtocol.offered, ht], List.mem_singleton.mp h⟩
  · rintro ⟨p, tls, hp, rfl⟩
    cases p <;> cases tls <;>
      simp_all [ClientProtocol.offered, ClientProtocol.needed, ClientProtocol.port, mem_pluginServicePort,
        mem_streamServicePort]

lemma targetPort_injective (p q : ClientProtocol) (tls tls' : Bool) :
    (p.port tls).targetPort = (q.port tls').targetPort → p = q ∧ tls = tls' := by
  cases p <;> cases q <;> cases tls <;> cases tls' <;> decide

lemma port_mem_iff {p : ClientProtocol} {tls : Bool} :
    p.port tls ∈ generateServicePortsMap cluster ↔ p.offered cluster tls = true := by
  rw [mem_generateServicePortsMap]
  refine ⟨fun ⟨q, tls', hq, h⟩ => ?_, fun h => ⟨p, tls, h, rfl⟩⟩
  obtain ⟨rfl, rfl⟩ := targetPort_injective p q tls tls' (congrArg ServicePort.targetPort h)
  exact hq

lemma mem_updateContainerPorts {cp : ContainerPort} :
    cp ∈ updateContainerPorts cluster ↔ cp = ⟨"epmd", 4369⟩ ∨ ∃ (p : ClientProtocol) (tls : Bool),
      p.opened cluster tls = true ∧ cp = p.containerPort tls := by
  unfold updateContainerPorts updateContainerPortsOnlyTLSListeners
  constructor
  · intro h
    split at h
    · rename_i hd
      simp only [List.mem_append, List.mem_cons, List.not_mem_nil, or_false, mem_pluginPort, mem_streamPort,
        or_assoc] at h
      rcases h with h | h | h | h | ⟨hp, h⟩ | ⟨hp, h⟩ | ⟨hp, h⟩
      · exact Or.inl h
      · exact Or.inr ⟨.amqp, true, opened_only_tls rfl hd rfl, h⟩
      · exact Or.inr ⟨.management, true, opened_only_tls rfl hd rfl, h⟩
      · exact Or.inr ⟨.prometheus, true, opened_only_tls rfl hd rfl, h⟩
      · exact Or.inr ⟨.mqtt, true, opened_only_tls hp hd rfl, h⟩
      · exact Or.inr ⟨.stomp, true, opened_only_tls hp hd rfl, h⟩
      · exact Or.inr ⟨.stream, true, opened_only_tls hp hd rfl, h⟩
    · rename_i hd
      simp only [List.mem_append, List.mem_cons, List.not_mem_nil, or_false, mem_pluginPort, mem_streamPort,
        or_assoc] at h
      rcases h with h | h | h | h | ⟨hp, h⟩ | ⟨hp, h⟩ | ⟨hp, h⟩ | ⟨hp, h⟩ | ⟨hp, h⟩ | ⟨hp, h⟩ | h
      · exact Or.inl h
      · exact Or.inr ⟨.amqp, false, opened_plain rfl hd, h⟩
      · exact Or.inr ⟨.management, false, opened_plain rfl hd, h⟩
      · exact Or.inr ⟨.prometheus, false, opened_plain rfl hd, h⟩
      · exact Or.inr ⟨.mqtt, false, opened_plain hp hd, h⟩
      · exact Or.inr ⟨.webMqtt, false, opened_plain hp hd, h⟩
      · exact Or.inr ⟨.stomp, false, opened_plain hp hd, h⟩
      · exact Or.inr ⟨.webStomp, false, opened_plain hp hd, h⟩
      · exact Or.inr ⟨.webAmqp, false, opened_plain hp hd, h⟩
      · exact Or.inr ⟨.stream, false, opened_plain hp hd, h⟩
      · split at h
        · rename_i ht
          simp only [List.mem_append, List.mem_cons, List.not_mem_nil, or_false, mem_pluginPort,
            mem_streamPort, or_assoc] at h
          rcases h with h | h | h | ⟨hp, h⟩ | ⟨hp, h⟩ | ⟨hp, h⟩ | ⟨hp, h⟩ | ⟨hp, h⟩ | ⟨hp, h⟩
          · exact Or.inr ⟨.amqp, true, opened_tls rfl hd ht, h⟩
          · exact Or.inr ⟨.management, true, opened_tls rfl hd ht, h⟩
          · exact Or.inr ⟨.prometheus, true, opened_tls rfl hd ht, h⟩
          · exact Or.inr ⟨.mqtt, true, opened_tls hp hd ht, h⟩
          · exact Or.inr ⟨.stomp, true, opened_tls hp hd ht, h⟩
          · exact Or.inr ⟨.stream, true, opened_tls hp hd ht, h⟩
          · exact Or.inr ⟨.webMqtt, true, opened_tls hp hd ht, h⟩
          · exact Or.inr ⟨.webStomp, true, opened_tls hp hd ht, h⟩
          · exact Or.inr ⟨.webAmqp, true, opened_tls hp hd ht, h⟩
        · cases h
  · rintro (rfl | ⟨p, tls, hp, rfl⟩)
    · split <;> simp
    · cases hd : cluster.disableNonTLSListeners <;> cases p <;> cases tls <;>
        simp_all [ClientProtocol.opened, ClientProtocol.needed, ClientProtocol.web, ClientProtocol.containerPort,
          ClientProtocol.port, servicePort, mem_pluginPort, mem_streamPort]

end ClusterOperator.Resource
