import ClusterOperator.Controller.Tls
import ClusterOperator.Resource.Secrets

/-! The ports of the Service against those of the container and those in the Secret of the
default user, for the clusters that `reconcileTLS` accepts. -/

namespace ClusterOperator.Controller

open Api Kubernetes Interaction Resource

variable {cluster : RabbitmqCluster} {m m' : Memory} {ts : List Turn} {s : Store}

section ContainerPorts

def allContainerPorts : List ContainerPort :=
  [⟨"epmd", 4369⟩, ⟨"amqp", 5672⟩, ⟨"management", 15672⟩, ⟨"prometheus", 15692⟩, ⟨"mqtt", 1883⟩,
    ⟨"web-mqtt", 15675⟩, ⟨"stomp", 61613⟩, ⟨"web-stomp", 15674⟩, ⟨"web-amqp", 15678⟩, ⟨"stream", 5552⟩,
    ⟨"amqps", 5671⟩, ⟨"management-tls", 15671⟩, ⟨"prometheus-tls", 15691⟩, ⟨"mqtts", 8883⟩,
    ⟨"stomps", 61614⟩, ⟨"streams", 5551⟩, ⟨"web-mqtt-tls", 15676⟩, ⟨"web-stomp-tls", 15673⟩,
    ⟨"web-amqp-tls", 15677⟩]

lemma pluginPort_sublist (plugin : String) (port : ContainerPort) :
    (pluginPort cluster plugin port).Sublist [port] := by
  unfold pluginPort
  split <;> simp

lemma streamPort_sublist (port : ContainerPort) : (streamPort cluster port).Sublist [port] := by
  unfold streamPort
  split <;> simp

lemma updateContainerPorts_sublist : (updateContainerPorts cluster).Sublist allContainerPorts := by
  have hp := @pluginPort_sublist cluster
  have hs := @streamPort_sublist cluster
  have htls := ((((((List.Sublist.refl [ContainerPort.mk "amqps" 5671, ⟨"management-tls", 15671⟩,
    ⟨"prometheus-tls", 15691⟩]).append (hp "rabbitmq_mqtt" ⟨"mqtts", 8883⟩)).append
    (hp "rabbitmq_stomp" ⟨"stomps", 61614⟩)).append (hs ⟨"streams", 5551⟩)).append
    (hp "rabbitmq_web_mqtt" ⟨"web-mqtt-tls", 15676⟩)).append
    (hp "rabbitmq_web_stomp" ⟨"web-stomp-tls", 15673⟩)).append
    (hp "rabbitmq_web_amqp" ⟨"web-amqp-tls", 15677⟩)
  have hplain := ((((((List.Sublist.refl [ContainerPort.mk "epmd" 4369, ⟨"amqp", 5672⟩,
    ⟨"management", 15672⟩, ⟨"prometheus", 15692⟩]).append (hp "rabbitmq_mqtt" ⟨"mqtt", 1883⟩)).append
    (hp "rabbitmq_web_mqtt" ⟨"web-mqtt", 15675⟩)).append (hp "rabbitmq_stomp" ⟨"stomp", 61613⟩)).append
    (hp "rabbitmq_web_stomp" ⟨"web-stomp", 15674⟩)).append
    (hp "rabbitmq_web_amqp" ⟨"web-amqp", 15678⟩)).append (hs ⟨"stream", 5552⟩)
  unfold updateContainerPorts updateContainerPortsOnlyTLSListeners
  split
  · have honly := (((List.Sublist.refl [ContainerPort.mk "epmd" 4369, ⟨"amqps", 5671⟩,
      ⟨"management-tls", 15671⟩, ⟨"prometheus-tls", 15691⟩]).append (hp "rabbitmq_mqtt" ⟨"mqtts", 8883⟩)).append
      (hp "rabbitmq_stomp" ⟨"stomps", 61614⟩)).append (hs ⟨"streams", 5551⟩)
    exact honly.trans (by decide)
  · refine hplain.append ?_
    split
    · exact htls
    · exact List.nil_sublist _

lemma updateContainerPorts_nodup :
    ((updateContainerPorts cluster).map ContainerPort.name).Nodup ∧
      ((updateContainerPorts cluster).map ContainerPort.containerPort).Nodup :=
  ⟨(updateContainerPorts_sublist.map _).nodup (by decide),
    (updateContainerPorts_sublist.map _).nodup (by decide)⟩

lemma mem_updateContainerPorts_iff {p : ClientProtocol} {tls : Bool} :
    (∃ cp ∈ updateContainerPorts cluster,
      cp.name = (p.port tls).name ∧ cp.containerPort = (p.port tls).targetPort) ↔
      p.opened cluster tls = true := by
  constructor
  · rintro ⟨cp, hcp, -, hnumber⟩
    rcases mem_updateContainerPorts.mp hcp with rfl | ⟨q, tls', hq, rfl⟩
    · cases p <;> cases tls <;> cases hnumber
    · obtain ⟨rfl, rfl⟩ := targetPort_injective q p tls' tls hnumber
      exact hq
  · intro h
    exact ⟨p.containerPort tls, mem_updateContainerPorts.mpr (Or.inr ⟨p, tls, h, rfl⟩), rfl, rfl⟩

lemma needed_of_offered {p : ClientProtocol} {tls : Bool} (h : p.offered cluster tls = true) :
    p.needed cluster = true := by
  cases tls with
  | true => exact (Bool.and_eq_true_iff.mp h).1
  | false =>
    by_cases hp : p = .prometheus
    · rw [hp]
      rfl
    · simp only [ClientProtocol.offered, hp, if_false, Bool.and_eq_true] at h
      exact h.1

lemma opened_of_offered (hacc : cluster.disableNonTLSListeners = true → cluster.tlsEnabled = true)
    (hweb : ∀ p : ClientProtocol, p.web = true → p.needed cluster = true → ¬ cluster.disableNonTLSListeners = true)
    {p : ClientProtocol} {tls : Bool} (h : p.offered cluster tls = true) : p.opened cluster tls = true := by
  by_cases hd : cluster.disableNonTLSListeners = true
  · have ht := hacc hd
    cases tls with
    | true =>
      obtain ⟨hn, -⟩ := Bool.and_eq_true_iff.mp h
      have hw : p.web = false := Bool.eq_false_iff.mpr fun hw => hweb p hw hn hd
      exact opened_only_tls hn hd hw
    | false => simp [ClientProtocol.offered, hd, ht] at h
  · cases tls with
    | true =>
      obtain ⟨hn, ht⟩ := Bool.and_eq_true_iff.mp h
      exact opened_tls hn hd ht
    | false => exact opened_plain (needed_of_offered h) hd

theorem servicePorts_opened_iff (hacc : (run server (reconcileTLS m) ts s).result = some (none, m')) :
    ((∀ sp ∈ generateServicePortsMap m.cluster, ∃ cp ∈ updateContainerPorts m.cluster,
        cp.name = sp.name ∧ cp.containerPort = sp.targetPort) ∧
      ((updateContainerPorts m.cluster).map ContainerPort.name).Nodup ∧
      ((updateContainerPorts m.cluster).map ContainerPort.containerPort).Nodup) ↔
    ¬ (m.cluster.disableNonTLSListeners = true ∧
      ∃ plugin ∈ ["rabbitmq_web_mqtt", "rabbitmq_web_stomp", "rabbitmq_web_amqp"],
        m.cluster.additionalPluginEnabled plugin = true) := by
  have htls := (reconcileTLS_ensures.sound hacc rfl).tlsEnabled
  have hports : (∀ sp ∈ generateServicePortsMap m.cluster, ∃ cp ∈ updateContainerPorts m.cluster,
      cp.name = sp.name ∧ cp.containerPort = sp.targetPort) ↔
      ∀ (p : ClientProtocol) (tls : Bool), p.offered m.cluster tls = true → p.opened m.cluster tls = true := by
    constructor
    · intro h p tls hp
      exact mem_updateContainerPorts_iff.mp (h _ (port_mem_iff.mpr hp))
    · intro h sp hsp
      obtain ⟨p, tls, hp, rfl⟩ := mem_generateServicePortsMap.mp hsp
      exact mem_updateContainerPorts_iff.mpr (h p tls hp)
  have hweb : (∃ plugin ∈ ["rabbitmq_web_mqtt", "rabbitmq_web_stomp", "rabbitmq_web_amqp"],
      m.cluster.additionalPluginEnabled plugin = true) ↔
      ∃ p : ClientProtocol, p.web = true ∧ p.needed m.cluster = true := by
    simp only [List.mem_cons, List.not_mem_nil, or_false, exists_eq_or_imp, exists_eq_left]
    constructor
    · rintro (h | h | h)
      · exact ⟨.webMqtt, rfl, h⟩
      · exact ⟨.webStomp, rfl, h⟩
      · exact ⟨.webAmqp, rfl, h⟩
    · rintro ⟨p, hw, hn⟩
      cases p with
      | webMqtt => exact Or.inl hn
      | webStomp => exact Or.inr (Or.inl hn)
      | webAmqp => exact Or.inr (Or.inr hn)
      | _ => cases hw
  rw [hports, hweb, and_iff_left updateContainerPorts_nodup]
  constructor
  · rintro h ⟨hd, p, hw, hn⟩
    have hopen := h p true (offered_tls hn (htls hd))
    simp [ClientProtocol.opened, hd, hw] at hopen
  · intro h p tls hp
    exact opened_of_offered htls (fun q hw hn hd => h ⟨hd, q, hw, hn⟩) hp

theorem web_port_closed :
    (run server (reconcileTLS { cluster := tlsOnlyCluster ["rabbitmq_web_mqtt"] }) [{}] certificateStore).result =
        some (none, { cluster := tlsOnlyCluster ["rabbitmq_web_mqtt"] }) ∧
      servicePort "web-mqtt-tls" 15676 "https" ∈ generateServicePortsMap (tlsOnlyCluster ["rabbitmq_web_mqtt"]) ∧
      ∀ cp ∈ updateContainerPorts (tlsOnlyCluster ["rabbitmq_web_mqtt"]), cp.containerPort ≠ 15676 := by
  decide +kernel

theorem mqtt_port_opened :
    ∃ cp ∈ updateContainerPorts (tlsOnlyCluster ["rabbitmq_mqtt"]),
      cp.name = "mqtts" ∧ cp.containerPort = 8883 := by
  have hacc : (run server (reconcileTLS { cluster := tlsOnlyCluster ["rabbitmq_mqtt"] }) [{}]
      certificateStore).result = some (none, { cluster := tlsOnlyCluster ["rabbitmq_mqtt"] }) := by rfl
  have hweb : ¬ ((tlsOnlyCluster ["rabbitmq_mqtt"]).disableNonTLSListeners = true ∧
      ∃ plugin ∈ ["rabbitmq_web_mqtt", "rabbitmq_web_stomp", "rabbitmq_web_amqp"],
        (tlsOnlyCluster ["rabbitmq_mqtt"]).additionalPluginEnabled plugin = true) := by decide
  exact ((servicePorts_opened_iff hacc).mpr hweb).1 (servicePort "mqtts" 8883 "mqtts") (by decide)

end ContainerPorts

section Binding

open DefaultUserSecretBuilder

structure Reachable (cluster : RabbitmqCluster) (data : StringMap) : Prop where
  amqp : ∃ tls, ClientProtocol.amqp.port tls ∈ generateServicePortsMap cluster ∧
    data.get? "port" = some (toString (ClientProtocol.amqp.port tls).port) ∧
    data.get? "connection_string" = some (connectionString (if tls then "amqps" else "amqp") data)
  present : ∀ p plugin key, ClientProtocol.secretPort p = some (plugin, key) → ∀ v, data.get? key = some v →
    ∃ tls, p.port tls ∈ generateServicePortsMap cluster ∧ v = toString (p.port tls).port
  complete : ∀ p plugin key, ClientProtocol.secretPort p = some (plugin, key) → ∀ tls,
    p.port tls ∈ generateServicePortsMap cluster → (data.get? key).isSome = true

lemma secretPort_ne {p : ClientProtocol} {plugin key : String} (hp : p.secretPort = some (plugin, key)) :
    p ≠ .prometheus ∧ key ≠ "connection_string" := by
  cases p <;> cases hp <;> decide

lemma needed_of_plugin {p : ClientProtocol} {plugin key : String} (hp : p.secretPort = some (plugin, key))
    (h : cluster.additionalPluginEnabled plugin = true) : p.needed cluster = true := by
  cases p <;> cases hp <;> simp [ClientProtocol.needed, RabbitmqCluster.streamNeeded, h]

lemma plugin_of_needed {p : ClientProtocol} {plugin key : String} (hp : p.secretPort = some (plugin, key))
    (hs : cluster.streamNeeded = true → cluster.additionalPluginEnabled "rabbitmq_stream" = true)
    (h : p.needed cluster = true) : cluster.additionalPluginEnabled plugin = true := by
  cases p with
  | stream =>
    cases hp
    exact hs h
  | _ =>
    cases hp
    try exact h

lemma get?_update_port {secret out : DataObject} (h : DefaultUserSecretBuilder.update cluster secret = .ok out) :
    out.data.get? "port" = some (toString (ClientProtocol.amqp.port cluster.secretTLSEnabled).port) := by
  rw [updatedSecret_data h, get?_updateConnectionString _ (by decide), get?_updatePorts_port]
  cases cluster.secretTLSEnabled <;> rfl

lemma get?_update_pluginPort {secret out : DataObject} {p : ClientProtocol} {plugin key : String}
    (h : DefaultUserSecretBuilder.update cluster secret = .ok out) (hp : p.secretPort = some (plugin, key)) :
    out.data.get? key = if cluster.additionalPluginEnabled plugin then
      some (toString (p.port cluster.secretTLSEnabled).port) else none := by
  rw [updatedSecret_data h, get?_updateConnectionString _ (secretPort_ne hp).2,
    get?_updatePorts_plugin _ hp]

lemma get?_update_connection_string {secret out : DataObject}
    (h : DefaultUserSecretBuilder.update cluster secret = .ok out) :
    out.data.get? "connection_string" =
      some (connectionString (if cluster.secretTLSEnabled then "amqps" else "amqp") out.data) := by
  have hsame (k : String) (hk : k ≠ "connection_string") :
      out.data.get? k = (updatePorts cluster secret.data).get? k := by
    rw [updatedSecret_data h, get?_updateConnectionString _ hk]
  rw [connectionString, hsame "username" (by decide), hsame "password" (by decide), hsame "host" (by decide),
    hsame "port" (by decide), updatedSecret_data h, get?_connection_string]
  rfl

lemma offered_iff {p : ClientProtocol} (hn : p.needed cluster = true) (hp : p ≠ .prometheus)
    (hd : ¬ cluster.secretTLSEnabled = true → ¬ cluster.disableNonTLSListeners = true) :
    p.offered cluster cluster.secretTLSEnabled = true := by
  cases hs : cluster.secretTLSEnabled with
  | true => exact offered_tls hn (by simp [RabbitmqCluster.tlsEnabled, hs])
  | false => exact offered_plain hn hp (hd (by simp [hs]))

lemma exposed_of_needed {p : ClientProtocol} (hp : p ≠ .prometheus) (hn : p.needed cluster = true)
    (hacc : cluster.disableNonTLSListeners = true → cluster.tlsEnabled = true) :
    ∃ tls, p.offered cluster tls = true := by
  by_cases hd : cluster.disableNonTLSListeners = true
  · exact ⟨true, offered_tls hn (hacc hd)⟩
  · exact ⟨false, offered_plain hn hp hd⟩

theorem binding_reachable_iff {secret out : DataObject}
    (hacc : (run server (reconcileTLS m) ts s).result = some (none, m'))
    (hup : DefaultUserSecretBuilder.update m.cluster secret = .ok out) :
    Reachable m.cluster out.data ↔
      (m.cluster.secretTLSEnabled = false → m.cluster.disableNonTLSListeners = false) ∧
      (m.cluster.streamNeeded = true → m.cluster.additionalPluginEnabled "rabbitmq_stream" = true) := by
  have htls := (reconcileTLS_ensures.sound hacc rfl).tlsEnabled
  constructor
  · intro h
    refine ⟨fun hs => ?_, fun hn => ?_⟩
    · obtain ⟨tls, hoffered, hport, -⟩ := h.amqp
      rw [get?_update_port hup, hs] at hport
      cases tls with
      | true => exact absurd hport (by decide)
      | false => simpa [ClientProtocol.offered, ClientProtocol.needed] using port_mem_iff.mp hoffered
    · obtain ⟨tls, hoffered⟩ := exposed_of_needed (p := .stream) (by decide) hn htls
      have hkey := h.complete .stream _ _ rfl tls (port_mem_iff.mpr hoffered)
      rw [get?_update_pluginPort hup (p := .stream) rfl] at hkey
      by_contra hp
      simp [hp] at hkey
  · rintro ⟨hplain, hstream⟩
    have hd : ¬ m.cluster.secretTLSEnabled = true → ¬ m.cluster.disableNonTLSListeners = true := by
      simpa using hplain
    refine ⟨⟨m.cluster.secretTLSEnabled, port_mem_iff.mpr (offered_iff rfl (by decide) hd), get?_update_port hup,
      get?_update_connection_string hup⟩, ?_, ?_⟩
    · intro p plugin key hp v hv
      rw [get?_update_pluginPort hup hp] at hv
      split at hv
      · rename_i hplugin
        cases hv
        exact ⟨_, port_mem_iff.mpr (offered_iff (needed_of_plugin hp hplugin) (secretPort_ne hp).1 hd), rfl⟩
      · cases hv
    · intro p plugin key hp tls hoffered
      have hplugin := plugin_of_needed hp hstream (needed_of_offered (port_mem_iff.mp hoffered))
      rw [get?_update_pluginPort hup hp, if_pos hplugin]
      rfl

def defaultUserSecret (cluster : RabbitmqCluster) : DataObject :=
  ((DefaultUserSecretBuilder.build cluster .ascii "").bind
    (DefaultUserSecretBuilder.update cluster)).toOption.getD {}

def vaultTLSCluster : RabbitmqCluster where
  name := "rabbit"
  ns := "default"
  spec :=
    { tls := { disableNonTLSListeners := true }
      secretBackend := { vault := some { role := "rabbitmq", tls := { pkiIssuerPath := "pki/issue/rabbitmq" } } } }

theorem plain_port_bound :
    (run server (reconcileTLS { cluster := vaultTLSCluster }) [] {}).result =
        some (none, { cluster := vaultTLSCluster }) ∧
      (∀ r, .child .defaultUserSecret ∈ resourceBuilders r vaultTLSCluster) ∧
      (defaultUserSecret vaultTLSCluster).data.get? "port" = some "5672" ∧
      (∀ sp ∈ generateServicePortsMap vaultTLSCluster, sp.port ≠ 5672) ∧
      ¬ Reachable vaultTLSCluster (defaultUserSecret vaultTLSCluster).data := by
  have hport : (defaultUserSecret vaultTLSCluster).data.get? "port" = some "5672" := by decide +kernel
  have hservice : ∀ sp ∈ generateServicePortsMap vaultTLSCluster, sp.port ≠ 5672 := by decide
  refine ⟨rfl, fun r => by simp [resourceBuilders, vaultTLSCluster, RabbitmqCluster.externalSecretEnabled,
    RabbitmqCluster.vaultDefaultUserSecretEnabled], hport, hservice, fun h => ?_⟩
  obtain ⟨tls, hmem, hget, -⟩ := h.amqp
  rw [hport] at hget
  cases tls with
  | false => exact hservice _ hmem rfl
  | true => exact absurd hget (by decide)

theorem tls_port_bound :
    Reachable (tlsOnlyCluster ["rabbitmq_stream"]) (defaultUserSecret (tlsOnlyCluster ["rabbitmq_stream"])).data := by
  have hacc : (run server (reconcileTLS { cluster := tlsOnlyCluster ["rabbitmq_stream"] }) [{}]
      certificateStore).result = some (none, { cluster := tlsOnlyCluster ["rabbitmq_stream"] }) := by rfl
  have hup : DefaultUserSecretBuilder.update (tlsOnlyCluster ["rabbitmq_stream"])
      ((DefaultUserSecretBuilder.build (tlsOnlyCluster ["rabbitmq_stream"]) .ascii "").toOption.getD {}) =
      .ok (defaultUserSecret (tlsOnlyCluster ["rabbitmq_stream"])) := by rfl
  exact (binding_reachable_iff hacc hup).mpr ⟨fun h => absurd h (by decide), fun _ => rfl⟩

end Binding

end ClusterOperator.Controller
