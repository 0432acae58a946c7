import ClusterOperator.Kubernetes.ControllerRuntime

namespace ClusterOperator.RabbitmqClient

open Api Kubernetes Interaction

structure Reader (I : Interface) where
  getSecret : String → Program I (Except ApiError DataObject)
  getService : String → Program I (Except ApiError Service)

/-- What Go's certificate pools do: the error of the system's pool, and whether a text is a
certificate that can be added. -/
structure CertPools where
  systemCertPool : Option Err := none
  appendCertsFromPEM : String → Bool

structure Transport where
  rootCAs : Option String := none
  serverName : String
deriving DecidableEq

structure ClientInfo where
  baseURL : String
  username : String
  password : String
  transport : Option Transport := none
deriving DecidableEq

def servicePortNameManagement : String := "management"

def servicePortNameManagementTLS : String := "management-tls"

def managementPortFromService (svcName : String) (svc : Service) (tlsOnly : Bool) : Except Err ℕ :=
  let portName := if tlsOnly then servicePortNameManagementTLS else servicePortNameManagement
  match svc.spec.ports.find? (fun p => p.name = portName) with
  | some p => .ok p.port
  | none => .error (.text ("port \"" ++ portName ++ "\" not found on service " ++ svcName))

def baseURL (scheme host : String) (port : ℕ) : String := scheme ++ "://" ++ host ++ ":" ++ toString port

def podFQDN (rmq : RabbitmqCluster) (podName : String) : String :=
  podName ++ "." ++ rmq.childResourceName "nodes" ++ "." ++ rmq.ns ++ ".svc"

def serviceHost (rmq : RabbitmqCluster) : String := rmq.childResourceName "" ++ "." ++ rmq.ns ++ ".svc"

section Reads

variable {I : Interface} (k8sClient : Reader I) (pools : CertPools) (rmq : RabbitmqCluster)

def readDefaultUserCredentials : Program I (Except Err (String × String)) := do
  let secretName := rmq.childResourceName "default-user"
  match ← k8sClient.getSecret secretName with
  | .error e => return .error (.wrap "failed to get default user secret" (.api e))
  | .ok secret =>
    match secret.data.get? "username" with
    | none => return .error (.text ("username not found in secret " ++ secretName))
    | some username =>
      match secret.data.get? "password" with
      | none => return .error (.text ("password not found in secret " ++ secretName))
      | some password => return .ok (username, password)

def managementHTTPSTransport (serverName : String) : Program I (Except Err (Option Transport)) := do
  if rmq.disableNonTLSListeners then
    match pools.systemCertPool with
    | some err => return .error (.wrap "failed to get system cert pool" err)
    | none =>
      if rmq.spec.tls.caSecretName = "" then return .ok (some { serverName })
      else
        match ← k8sClient.getSecret rmq.spec.tls.caSecretName with
        | .error e => return .error (.wrap "failed to get CA secret" (.api e))
        | .ok caSecret =>
          match caSecret.data.get? "ca.crt" with
          | none => return .error (.text ("CA certificate not found in secret " ++ rmq.spec.tls.caSecretName))
          | some caCert =>
            if pools.appendCertsFromPEM caCert then return .ok (some { rootCAs := some caCert, serverName })
            else return .error (.text "failed to append CA certificate to cert pool")
  else return .ok none

def getClientInfoForPod (podName : String) : Program I (Except Err ClientInfo) := do
  match ← readDefaultUserCredentials k8sClient rmq with
  | .error err => return .error err
  | .ok (username, password) =>
    if rmq.disableNonTLSListeners then
      match ← managementHTTPSTransport k8sClient pools rmq (podFQDN rmq podName) with
      | .error err => return .error err
      | .ok transport => return .ok ⟨baseURL "https" (podFQDN rmq podName) 15671, username, password, transport⟩
    else return .ok ⟨baseURL "http" (podFQDN rmq podName) 15672, username, password, none⟩

def getClientInfoForService : Program I (Except Err ClientInfo) := do
  match ← readDefaultUserCredentials k8sClient rmq with
  | .error err => return .error err
  | .ok (username, password) =>
    match ← k8sClient.getService (rmq.childResourceName "") with
    | .error e => return .error (.wrap "failed to get rabbitmq service" (.api e))
    | .ok svc =>
      match managementPortFromService (rmq.childResourceName "") svc rmq.disableNonTLSListeners with
      | .error err => return .error err
      | .ok svcPort =>
        if rmq.disableNonTLSListeners then
          match ← managementHTTPSTransport k8sClient pools rmq (serviceHost rmq) with
          | .error err => return .error err
          | .ok transport => return .ok ⟨baseURL "https" (serviceHost rmq) svcPort, username, password, transport⟩
        else return .ok ⟨baseURL "http" (serviceHost rmq) svcPort, username, password, none⟩

def getClientForPod (podName : String) : Program I (Except Err ClientInfo) := do
  return (← getClientInfoForPod k8sClient pools rmq podName).mapError (.wrap "failed to get client info for pod")

def getClientForService : Program I (Except Err ClientInfo) := do
  return (← getClientInfoForService k8sClient pools rmq).mapError (.wrap "failed to get client info for service")

end Reads

section Requests

variable {I : Interface} {R : I.Request → Prop} {k8sClient : Reader I}
  (hsecret : ∀ name, (k8sClient.getSecret name).Sends R) (hservice : ∀ name, (k8sClient.getService name).Sends R)
  (pools : CertPools) (rmq : RabbitmqCluster)
include hsecret

lemma sends_readDefaultUserCredentials : (readDefaultUserCredentials k8sClient rmq).Sends R := by
  refine (hsecret _).bind fun reply => ?_
  cases reply with
  | error e => exact trivial
  | ok secret =>
    dsimp only
    split
    · exact trivial
    · split <;> exact trivial

lemma sends_managementHTTPSTransport (serverName : String) :
    (managementHTTPSTransport k8sClient pools rmq serverName).Sends R := by
  unfold managementHTTPSTransport
  split
  · split
    · exact trivial
    · split
      · exact trivial
      · refine (hsecret _).bind fun reply => ?_
        cases reply with
        | error e => exact trivial
        | ok caSecret =>
          dsimp only
          split
          · exact trivial
          · split <;> exact trivial
  · exact trivial

include hservice

lemma sends_getClientInfoForService : (getClientInfoForService k8sClient pools rmq).Sends R := by
  refine (sends_readDefaultUserCredentials hsecret rmq).bind fun credentials => ?_
  rcases credentials with err | ⟨username, password⟩
  · exact trivial
  refine (hservice _).bind fun reply => ?_
  cases reply with
  | error e => exact trivial
  | ok svc =>
    dsimp only
    split
    · exact trivial
    · split
      · refine (sends_managementHTTPSTransport hsecret pools rmq _).bind fun transport => ?_
        cases transport <;> exact trivial
      · exact trivial

lemma sends_getClientForService : (getClientForService k8sClient pools rmq).Sends R :=
  (sends_getClientInfoForService hsecret hservice pools rmq).bind fun _ => trivial

end Requests

end ClusterOperator.RabbitmqClient
