import ClusterOperator.Resource.ConfigMaps
import ClusterOperator.Resource.Service

namespace ClusterOperator.Resource

open Api Kubernetes

variable (cluster : RabbitmqCluster)

/-- The next 24 random bytes, encoded in 32 characters, and the rest of what is drawn. -/
def randomEncodedString (random : List Char) : String × List Char :=
  (String.ofList (random.take 32), random.drop 32)

def updatedSecret (secret : DataObject) (data : StringMap) : Except Err DataObject :=
  controlled cluster
    { metadata := { secret.metadata with
        labels := getLabels cluster.name cluster.labels
        annotations := reconcileAndFilterAnnotations secret.metadata.annotations cluster.annotations }
      data }

namespace ErlangCookieBuilder

def build (random : String) : DataObject :=
  { data := ⟨[(".erlang.cookie", (randomEncodedString random.toList).1)]⟩ }

def update (secret : DataObject) : Except Err DataObject := updatedSecret cluster secret secret.data

end ErlangCookieBuilder

namespace DefaultUserSecretBuilder

def usernamePrefix : String := "default_user_"

def generateUsername (random : List Char) : String × List Char :=
  let (encoded, rest) := randomEncodedString random
  (usernamePrefix ++ String.ofList (encoded.toList.take (encoded.length - usernamePrefix.length)), rest)

def generateDefaultUserConf (ini : Ini) (username password : String) : String :=
  ini.write ⟨[("default_user", username), ("default_pass", password)]⟩

def portNames : List (String × String) :=
  [("rabbitmq_mqtt", "mqtt-port"), ("rabbitmq_stomp", "stomp-port"), ("rabbitmq_stream", "stream-port"),
    ("rabbitmq_web_mqtt", "web-mqtt-port"), ("rabbitmq_web_stomp", "web-stomp-port"),
    ("rabbitmq_web_amqp", "web-amqp-port")]

def tlsPort : StringMap :=
  ⟨[("mqtt-port", "8883"), ("stomp-port", "61614"), ("stream-port", "5551"), ("web-mqtt-port", "15676"),
    ("web-stomp-port", "15673"), ("web-amqp-port", "15677")]⟩

def port : StringMap :=
  ⟨[("mqtt-port", "1883"), ("stomp-port", "61613"), ("stream-port", "5552"), ("web-mqtt-port", "15675"),
    ("web-stomp-port", "15674"), ("web-amqp-port", "15678")]⟩

def updatePluginPort (ports data : StringMap) (e : String × String) : StringMap :=
  if cluster.additionalPluginEnabled e.1 then data.set e.2 ((ports.get? e.2).getD "") else data.erase e.2

def updatePorts (data : StringMap) : StringMap :=
  if cluster.spec.tls.secretName ≠ "" then
    portNames.foldl (updatePluginPort cluster tlsPort) (data.set "port" "5671")
  else portNames.foldl (updatePluginPort cluster port) (data.set "port" "5672")

def connectionString (scheme : String) (data : StringMap) : String :=
  scheme ++ "://" ++ (data.get? "username").getD "" ++ ":" ++ (data.get? "password").getD "" ++ "@" ++
    (data.get? "host").getD "" ++ ":" ++ (data.get? "port").getD "" ++ "/"

def updateConnectionString (data : StringMap) : StringMap :=
  if cluster.spec.tls.secretName ≠ "" then data.set "connection_string" (connectionString "amqps" data)
  else data.set "connection_string" (connectionString "amqp" data)

def configuredUser (ini : Ini) : Except Err (String × String) :=
  if cluster.spec.rabbitmq.additionalConfig ≠ "" then do
    let cfg ← (ini.load cluster.spec.rabbitmq.additionalConfig).mapError
      (.wrap "failed to parse additionalConfig")
    return ((cfg.get? "default_user").getD "", (cfg.get? "default_pass").getD "")
  else .ok ("", "")

-- What is left of the random characters is returned too: the password is drawn after the name.
def chosenUsername (user : String × String) (random : List Char) : String × List Char :=
  if user.1 = "" then generateUsername random else (user.1, random)

def chosenPassword (user : String × String) (random : List Char) : String :=
  if user.2 = "" then (randomEncodedString random).1 else user.2

def chosenData (ini : Ini) (username password : String) : StringMap :=
  ⟨[("username", username), ("password", password),
    ("default_user.conf", generateDefaultUserConf ini username password), ("provider", "rabbitmq"),
    ("type", "rabbitmq"), ("host", cluster.serviceSubDomain)]⟩

def build (ini : Ini) (random : String) : Except Err DataObject := do
  let user ← configuredUser cluster ini
  let (username, rest) := chosenUsername user random.toList
  let data := chosenData cluster ini username (chosenPassword user rest)
  return { data := updateConnectionString cluster (updatePorts cluster data) }

def update (secret : DataObject) : Except Err DataObject :=
  updatedSecret cluster secret (updateConnectionString cluster (updatePorts cluster secret.data))

end DefaultUserSecretBuilder

variable {cluster} {secret out : DataObject}

lemma updatedSecret_data {data : StringMap} (h : updatedSecret cluster secret data = .ok out) :
    out.data = data := by
  rw [updatedSecret] at h
  rw [controlled_eq h]

namespace DefaultUserSecretBuilder

lemma get?_updatePluginPort (ports data : StringMap) (e : String × String) (k : String) :
    (updatePluginPort cluster ports data e).get? k =
      if k = e.2 then
        if cluster.additionalPluginEnabled e.1 then some ((ports.get? e.2).getD "") else none
      else data.get? k := by
  unfold updatePluginPort
  split <;> simp

lemma get?_updatePluginPorts {ports : StringMap} {k : String} (es : List (String × String)) (data : StringMap)
    (hk : ∀ e ∈ es, k ≠ e.2) :
    (es.foldl (updatePluginPort cluster ports) data).get? k = data.get? k := by
  induction es generalizing data with
  | nil => rfl
  | cons e es ih =>
    rw [List.foldl_cons, ih _ fun f hf => hk f (List.mem_cons_of_mem _ hf), get?_updatePluginPort,
      if_neg (hk e List.mem_cons_self)]

lemma get?_updatePorts {k : String} (data : StringMap) (hk : k ∉ "port" :: portNames.map Prod.snd) :
    (updatePorts cluster data).get? k = data.get? k := by
  rw [List.mem_cons, not_or] at hk
  have hne : ∀ e ∈ portNames, k ≠ e.2 := fun e he h => hk.2 (h ▸ List.mem_map_of_mem he)
  unfold updatePorts
  split <;> rw [get?_updatePluginPorts _ _ hne] <;> simp [hk.1]

lemma get?_updatePorts_port (data : StringMap) :
    (updatePorts cluster data).get? "port" = some (if cluster.secretTLSEnabled then "5671" else "5672") := by
  unfold updatePorts
  by_cases h : cluster.spec.tls.secretName = "" <;>
    simp [h, RabbitmqCluster.secretTLSEnabled, get?_updatePluginPort, portNames]

lemma get?_updateConnectionString (data : StringMap) {k : String} (hk : k ≠ "connection_string") :
    (updateConnectionString cluster data).get? k = data.get? k := by
  unfold updateConnectionString
  split <;> simp [hk]

def derivedKeys : List String := "connection_string" :: "port" :: portNames.map Prod.snd

lemma get?_derived (data : StringMap) {k : String} (hk : k ∉ derivedKeys) :
    (updateConnectionString cluster (updatePorts cluster data)).get? k = data.get? k := by
  rw [derivedKeys, List.mem_cons, not_or] at hk
  rw [get?_updateConnectionString _ hk.1, get?_updatePorts _ hk.2]

lemma build_eq_ok {ini : Ini} {random : String} (h : build cluster ini random = .ok secret) : ∃ user,
    configuredUser cluster ini = .ok user ∧ secret.data = updateConnectionString cluster (updatePorts cluster
      (chosenData cluster ini (chosenUsername user random.toList).1
        (chosenPassword user (chosenUsername user random.toList).2))) := by
  obtain ⟨user, huser, h⟩ := bind_eq_ok.mp h
  exact ⟨user, huser, congrArg DataObject.data (Except.ok.inj h).symm⟩

lemma get?_connection_string (data : StringMap) :
    (updateConnectionString cluster data).get? "connection_string" =
      some (connectionString (if cluster.secretTLSEnabled then "amqps" else "amqp") data) := by
  unfold updateConnectionString
  by_cases h : cluster.spec.tls.secretName = "" <;> simp [h, RabbitmqCluster.secretTLSEnabled]

end DefaultUserSecretBuilder

namespace ClientProtocol

def secretPort : ClientProtocol → Option (String × String)
  | mqtt => some ("rabbitmq_mqtt", "mqtt-port")
  | stomp => some ("rabbitmq_stomp", "stomp-port")
  | stream => some ("rabbitmq_stream", "stream-port")
  | webMqtt => some ("rabbitmq_web_mqtt", "web-mqtt-port")
  | webStomp => some ("rabbitmq_web_stomp", "web-stomp-port")
  | webAmqp => some ("rabbitmq_web_amqp", "web-amqp-port")
  | _ => none

end ClientProtocol

lemma get?_updatePorts_plugin {p : ClientProtocol} {plugin key : String} (data : StringMap)
    (hp : p.secretPort = some (plugin, key)) :
    (DefaultUserSecretBuilder.updatePorts cluster data).get? key =
      if cluster.additionalPluginEnabled plugin then
        some (toString (p.port cluster.secretTLSEnabled).port) else none := by
  unfold DefaultUserSecretBuilder.updatePorts
  by_cases h : cluster.spec.tls.secretName = "" <;> cases p <;> cases hp <;>
    simp [h, RabbitmqCluster.secretTLSEnabled, DefaultUserSecretBuilder.portNames,
      DefaultUserSecretBuilder.get?_updatePluginPort] <;> rfl

end ClusterOperator.Resource
