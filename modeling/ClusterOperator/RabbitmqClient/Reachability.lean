import ClusterOperator.RabbitmqClient.ClientInfo
import ClusterOperator.Resource.PortReconciliation

namespace ClusterOperator.RabbitmqClient

open Api Kubernetes Interaction Keyed Resource

variable {rmq : RabbitmqCluster} {svc : Service}

section Ports

lemma management_opened (rmq : RabbitmqCluster) :
    ClientProtocol.management.containerPort rmq.disableNonTLSListeners ∈ updateContainerPorts rmq := by
  refine mem_updateContainerPorts.mpr (Or.inr ⟨.management, _, ?_, rfl⟩)
  cases hd : rmq.disableNonTLSListeners with
  | true => exact opened_only_tls rfl hd rfl
  | false => exact opened_plain rfl (by simp [hd])

lemma management_offered (hacc : rmq.disableNonTLSListeners = true → rmq.tlsEnabled = true) :
    ClientProtocol.management.port rmq.disableNonTLSListeners ∈ generateServicePortsMap rmq := by
  refine port_mem_iff.mpr ?_
  cases hd : rmq.disableNonTLSListeners with
  | true => exact offered_tls rfl (hacc hd)
  | false => exact offered_plain rfl nofun (by simp [hd])

def Provided (rmq : RabbitmqCluster) (svc : Service) : Prop :=
  ∃ (merge : ServiceMergePatch) (enumerate : Arrangement ServicePort) (stored : Service),
    ServiceBuilder.update rmq merge enumerate.order stored = .ok svc

lemma Provided.ports (h : Provided rmq svc) (hover : rmq.spec.serviceOverride = none) :
    (svc.spec.ports.map clearNodePort).Perm (generateServicePortsMap rmq) := by
  obtain ⟨merge, enumerate, stored, h⟩ := h
  obtain ⟨service, hservice, h⟩ := bind_eq_ok.mp h
  obtain ⟨metadata, -, h⟩ := bind_eq_ok.mp h
  rw [hover] at hservice
  cases hservice
  cases h
  have hcleared : (ServiceBuilder.clearNodePorts rmq (ServiceBuilder.updatePorts rmq enumerate.order
      stored.spec.ports)).map clearNodePort =
      (ServiceBuilder.updatePorts rmq enumerate.order stored.spec.ports).map clearNodePort := by
    unfold ServiceBuilder.clearNodePorts
    split
    · simp [clearNodePort]
    · rfl
  exact hcleared ▸ updatePorts_perm rmq enumerate stored.spec.ports

lemma Provided.managementPortFromService (h : Provided rmq svc) (hover : rmq.spec.serviceOverride = none)
    (hacc : rmq.disableNonTLSListeners = true → rmq.tlsEnabled = true) (svcName : String) :
    managementPortFromService svcName svc rmq.disableNonTLSListeners =
      .ok (if rmq.disableNonTLSListeners then 15671 else 15672) := by
  have hperm := h.ports hover
  have hnodup : (portNames svc.spec.ports).Nodup := by
    have hnames : portNames (svc.spec.ports.map clearNodePort) = portNames svc.spec.ports := by
      simp [portNames, clearNodePort]
    rw [← hnames]
    exact (hperm.map _).nodup_iff.mpr portNames_generated_nodup
  obtain ⟨p, hp, hport⟩ := List.mem_map.mp (hperm.mem_iff.mpr (management_offered hacc))
  have hname : p.name = if rmq.disableNonTLSListeners = true then servicePortNameManagementTLS
      else servicePortNameManagement := by
    refine (congrArg ServicePort.name hport :).trans ?_
    cases rmq.disableNonTLSListeners <;> rfl
  have hnumber : p.port = if rmq.disableNonTLSListeners = true then 15671 else 15672 := by
    refine (congrArg ServicePort.port hport :).trans ?_
    cases rmq.disableNonTLSListeners <;> rfl
  rw [RabbitmqClient.managementPortFromService, ← hname, find?_of_mem hnodup hp]
  exact congrArg Except.ok hnumber

end Ports

section Clients

variable {I : Interface} {α : Type} {k8sClient : Reader I} {pools : CertPools}

/-- The client of a host speaks to a port that the container of RabbitMQ opens for the management
API, with TLS, and expects the certificate of that host, if there are no other listeners. -/
structure Addresses (rmq : RabbitmqCluster) (host : String) (info : ClientInfo) : Prop where
  port : ∃ cp ∈ updateContainerPorts rmq,
    cp = ClientProtocol.management.containerPort rmq.disableNonTLSListeners ∧
    info.baseURL = baseURL (if rmq.disableNonTLSListeners then "https" else "http") host cp.containerPort
  secure : rmq.disableNonTLSListeners = true → ∃ t ∈ info.transport, t.serverName = host

abbrev Makes (p : Program I (Except Err ClientInfo)) (rmq : RabbitmqCluster) (host : String) : Prop :=
  p.Yields (fun _ => True) fun x => ∀ info, x = .ok info → Addresses rmq host info

lemma yields_any (p : Program I α) : p.Yields (fun _ => True) fun _ => True := by
  induction p with
  | done a => exact trivial
  | send r next ih => exact ⟨trivial, ih⟩

lemma yields_transport (hd : rmq.disableNonTLSListeners = true) (serverName : String) :
    (managementHTTPSTransport k8sClient pools rmq serverName).Yields (fun _ => True)
      fun x => ∀ transport, x = .ok transport → ∃ t ∈ transport, t.serverName = serverName := by
  unfold managementHTTPSTransport
  rw [if_pos hd]
  split
  · exact nofun
  · split
    · rintro _ ⟨⟩
      exact ⟨_, rfl, rfl⟩
    · refine (yields_any (k8sClient.getSecret _)).bind fun reply _ => ?_
      cases reply with
      | error e => exact nofun
      | ok caSecret =>
        dsimp only
        split
        · exact nofun
        · split
          · rintro _ ⟨⟩
            exact ⟨_, rfl, rfl⟩
          · exact nofun

lemma addresses_plain (hd : rmq.disableNonTLSListeners = false) (host username password : String) :
    Addresses rmq host ⟨baseURL "http" host 15672, username, password, none⟩ := by
  refine ⟨⟨_, management_opened rmq, rfl, ?_⟩, fun h => absurd h (by simp [hd])⟩
  rw [hd]
  rfl

lemma addresses_tls (hd : rmq.disableNonTLSListeners = true) {host username password : String}
    {transport : Option Transport} (h : ∃ t ∈ transport, t.serverName = host) :
    Addresses rmq host ⟨baseURL "https" host 15671, username, password, transport⟩ := by
  refine ⟨⟨_, management_opened rmq, rfl, ?_⟩, fun _ => h⟩
  rw [hd]
  rfl

lemma makes_tls (hd : rmq.disableNonTLSListeners = true) {host username password : String}
    {f : Except Err (Option Transport) → Program I (Except Err ClientInfo)}
    (herror : ∀ err, f (.error err) = .done (.error err))
    (hok : ∀ transport, f (.ok transport) =
      .done (.ok ⟨baseURL "https" host 15671, username, password, transport⟩)) :
    Makes (managementHTTPSTransport k8sClient pools rmq host >>= f) rmq host := by
  refine (yields_transport hd host).bind fun x hx => ?_
  cases x with
  | error err =>
    rw [herror]
    exact nofun
  | ok transport =>
    rw [hok]
    rintro _ ⟨⟩
    exact addresses_tls hd (hx transport rfl)

lemma makes_getClientInfoForPod (podName : String) :
    Makes (getClientInfoForPod k8sClient pools rmq podName) rmq (podFQDN rmq podName) := by
  refine (yields_any (readDefaultUserCredentials k8sClient rmq)).bind fun credentials _ => ?_
  rcases credentials with err | ⟨username, password⟩
  · exact nofun
  dsimp only
  cases hd : rmq.disableNonTLSListeners with
  | true => exact makes_tls hd (fun _ => rfl) fun _ => rfl
  | false =>
    rintro _ ⟨⟩
    exact addresses_plain hd _ _ _

variable (hover : rmq.spec.serviceOverride = none)
  (hacc : rmq.disableNonTLSListeners = true → rmq.tlsEnabled = true)
  (hservice : ∀ name, (k8sClient.getService name).Yields (fun _ => True) fun reply =>
    ∀ svc, reply = .ok svc → Provided rmq svc)
include hover hacc hservice

lemma makes_getClientInfoForService :
    Makes (getClientInfoForService k8sClient pools rmq) rmq (serviceHost rmq) := by
  refine (yields_any (readDefaultUserCredentials k8sClient rmq)).bind fun credentials _ => ?_
  rcases credentials with err | ⟨username, password⟩
  · exact nofun
  refine (hservice _).bind fun reply hreply => ?_
  cases reply with
  | error e => exact nofun
  | ok svc =>
    dsimp only
    rw [(hreply svc rfl).managementPortFromService hover hacc]
    dsimp only
    cases hd : rmq.disableNonTLSListeners with
    | true => exact makes_tls hd (fun _ => rfl) fun _ => rfl
    | false =>
      rintro _ ⟨⟩
      exact addresses_plain hd _ _ _

omit hover hacc hservice in
lemma Makes.mapError {p : Program I (Except Err ClientInfo)} {host : String} (hp : Makes p rmq host)
    (f : Err → Err) : Makes (do return (← p).mapError f) rmq host :=
  Program.Yields.bind hp fun _ hx info hinfo => hx info (mapError_eq_ok.mp hinfo)

theorem clients_reach_management :
    Makes (getClientForService k8sClient pools rmq) rmq (serviceHost rmq) ∧
      ∀ podName, Makes (getClientForPod k8sClient pools rmq podName) rmq (podFQDN rmq podName) :=
  ⟨(makes_getClientInfoForService hover hacc hservice).mapError _,
    fun podName => (makes_getClientInfoForPod podName).mapError _⟩

end Clients

def securedCluster : RabbitmqCluster where
  name := "rabbit"
  ns := "default"
  spec.tls := { secretName := "tls", caSecretName := "ca", disableNonTLSListeners := true }

def securedService : Service where
  metadata.labels := getLabels "rabbit" {}
  metadata.controller := some "rabbit"
  spec :=
    { type := "ClusterIP"
      selector := labelSelector "rabbit"
      ports := generateServicePortsMap securedCluster }

lemma securedService_provided : Provided securedCluster securedService :=
  ⟨fun spec _ => .ok spec, .unchanged, {}, by decide +kernel⟩

def securedReader : Reader ⟨Unit, fun _ => Unit⟩ where
  getSecret _ := .done (.ok { data := ⟨[("username", "user"), ("password", "pass"), ("ca.crt", "cert")]⟩ })
  getService _ := .done (.ok securedService)

lemma securedReader_provided (name : String) : (securedReader.getService name).Yields (fun _ => True) fun reply =>
    ∀ svc, reply = .ok svc → Provided securedCluster svc := by
  rintro svc ⟨⟩
  exact securedService_provided

def securedPools : CertPools := { appendCertsFromPEM := fun _ => true }

theorem secured_clients_reach_management :
    ∃ info, getClientForService securedReader securedPools securedCluster = .done (.ok info) ∧
      info.baseURL = "https://rabbit.default.svc:15671" ∧
      Addresses securedCluster (serviceHost securedCluster) info := by
  have hmakes : Makes (getClientForService securedReader securedPools securedCluster) securedCluster
      (serviceHost securedCluster) :=
    (clients_reach_management rfl (fun _ => rfl) securedReader_provided).1
  refine ⟨_, rfl, by decide +kernel, ?_⟩
  exact (show ∀ info, _ → _ from hmakes) _ rfl

end ClusterOperator.RabbitmqClient
