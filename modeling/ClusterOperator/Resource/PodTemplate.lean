import ClusterOperator.Resource.Metadata

namespace ClusterOperator.Resource

open Api Kubernetes

variable (cluster : RabbitmqCluster)

def podHostNames : String :=
  ",".intercalate ((List.range cluster.spec.replicas).map fun i =>
    cluster.childResourceName "server" ++ "-" ++ toString i ++ "." ++
      cluster.childResourceName "nodes" ++ "." ++ cluster.ns)

def generateVaultTLSTemplate (commonName altNames vaultPath ipSans tlsAttribute : String) : String :=
  "\n\x7b\x7b- with secret \"" ++ vaultPath ++ "\" \"common_name=" ++ commonName ++ "\" \"alt_names=" ++
    altNames ++ "\" \"ip_sans=" ++ ipSans ++ "\" -\x7d\x7d\n\x7b\x7b .Data." ++ tlsAttribute ++
    " \x7d\x7d\n\x7b\x7b- end \x7d\x7d"

def generateVaultCATemplate (commonName altNames : String) (vault : VaultSpec) : String :=
  if vault.tls.pkiRootPath = "" then
    generateVaultTLSTemplate commonName altNames vault.tls.pkiIssuerPath vault.tls.ipSans "issuing_ca"
  else "\n\x7b\x7b- with secret \"" ++ vault.tls.pkiRootPath ++
    "\" -\x7d\x7d\n\x7b\x7b .Data.certificate \x7d\x7d\n\x7b\x7b- end \x7d\x7d"

def generateVaultTLSCertificateTemplate (commonName altNames : String) (vault : VaultSpec) : String :=
  "\n\x7b\x7b- with secret \"" ++ vault.tls.pkiIssuerPath ++ "\" \"common_name=" ++ commonName ++
    "\" \"alt_names=" ++ altNames ++ "\" \"ip_sans=" ++ vault.tls.ipSans ++
    "\" -\x7d\x7d\n\x7b\x7b .Data.certificate \x7d\x7d\n\x7b\x7b- if .Data.ca_chain -\x7d\x7d\n" ++
    "\x7b\x7b- $lastintermediatecertindex := len .Data.ca_chain | subtract 1 -\x7d\x7d\n" ++
    "\x7b\x7b range $index, $cacert := .Data.ca_chain \x7d\x7d\n" ++
    "\x7b\x7b if (lt $index $lastintermediatecertindex) \x7d\x7d\n\x7b\x7b $cacert \x7d\x7d\n" ++
    "\x7b\x7b end \x7d\x7d\n\x7b\x7b end \x7d\x7d\n\x7b\x7b- end -\x7d\x7d\n\x7b\x7b- end -\x7d\x7d"

def vaultDefaultUserAnnotations (vault : VaultSpec) : StringMap :=
  ⟨[("vault.hashicorp.com/secret-volume-path-11-default_user.conf", "/etc/rabbitmq/conf.d"),
    ("vault.hashicorp.com/agent-inject-perms-11-default_user.conf", "0640"),
    ("vault.hashicorp.com/agent-inject-secret-11-default_user.conf", vault.defaultUserPath),
    ("vault.hashicorp.com/agent-inject-template-11-default_user.conf",
      "\n\x7b\x7b- with secret \"" ++ vault.defaultUserPath ++
        "\" -\x7d\x7d\ndefault_user = \x7b\x7b .Data.data.username \x7d\x7d\n" ++
        "default_pass = \x7b\x7b .Data.data.password \x7d\x7d\n\x7b\x7b- end \x7d\x7d")]⟩

def vaultTLSAnnotations (vault : VaultSpec) : StringMap :=
  let pathCert := vault.tls.pkiIssuerPath
  let commonName := if vault.tls.commonName ≠ "" then vault.tls.commonName else cluster.serviceSubDomain
  let altNames := if vault.tls.altNames ≠ "" then podHostNames cluster ++ "," ++ vault.tls.altNames
    else podHostNames cluster
  ⟨[("vault.hashicorp.com/secret-volume-path-tls.crt", "/etc/rabbitmq-tls"),
    ("vault.hashicorp.com/agent-inject-secret-tls.crt", pathCert),
    ("vault.hashicorp.com/agent-inject-template-tls.crt",
      generateVaultTLSCertificateTemplate commonName altNames vault),
    ("vault.hashicorp.com/secret-volume-path-tls.key", "/etc/rabbitmq-tls"),
    ("vault.hashicorp.com/agent-inject-secret-tls.key", pathCert),
    ("vault.hashicorp.com/agent-inject-template-tls.key",
      generateVaultTLSTemplate commonName altNames vault.tls.pkiIssuerPath vault.tls.ipSans "private_key"),
    ("vault.hashicorp.com/secret-volume-path-ca.crt", "/etc/rabbitmq-tls"),
    ("vault.hashicorp.com/agent-inject-secret-ca.crt", pathCert),
    ("vault.hashicorp.com/agent-inject-template-ca.crt",
      generateVaultCATemplate commonName altNames vault)]⟩

def appendVaultAnnotations (currentAnnotations : StringMap) (vault : VaultSpec) : StringMap :=
  let vaultAnnotations : StringMap :=
    ⟨[("vault.hashicorp.com/agent-inject", "true"), ("vault.hashicorp.com/agent-init-first", "true"),
      ("vault.hashicorp.com/role", vault.role)]⟩
  let vaultAnnotations := if vault.defaultUserPath ≠ "" then
    vaultAnnotations.merge (vaultDefaultUserAnnotations vault) else vaultAnnotations
  let vaultAnnotations := if vault.tls.pkiIssuerPath ≠ "" then
    vaultAnnotations.merge (vaultTLSAnnotations cluster vault) else vaultAnnotations
  reconcileAnnotations (reconcileAnnotations currentAnnotations vaultAnnotations) vault.annotations

def defaultPodAnnotations : StringMap :=
  match cluster.spec.secretBackend.vault with
  | none => {}
  | some vault => appendVaultAnnotations cluster {} vault

def restricted : SecurityContext where
  allowPrivilegeEscalation := some false
  capabilities := some { drop := some ["ALL"] }
  readOnlyRootFilesystem := some true
  runAsNonRoot := some true
  privileged := some false
  seccompProfile := some "RuntimeDefault"

def envVarsK8sObjects : List EnvVar :=
  [{ name := "MY_POD_NAME", fieldPath := some "metadata.name" },
    { name := "MY_POD_NAMESPACE", fieldPath := some "metadata.namespace" },
    { name := "K8S_SERVICE_NAME", value := cluster.childResourceName "nodes" }]

def setupContainer : Container where
  name := "setup-container"
  image := cluster.spec.image
  command := ["sh", "-c",
    "cp /tmp/erlang-cookie-secret/.erlang.cookie /var/lib/rabbitmq/.erlang.cookie " ++
      "&& chmod 600 /var/lib/rabbitmq/.erlang.cookie ; " ++
      "cp /tmp/rabbitmq-plugins/enabled_plugins /operator/enabled_plugins ; " ++
      "echo '[default]' > /var/lib/rabbitmq/.rabbitmqadmin.conf " ++
      "&& sed -e 's/default_user/username/' -e 's/default_pass/password/' " ++
      (if cluster.vaultDefaultUserSecretEnabled then "/etc/rabbitmq/conf.d/11-default_user.conf"
        else "/tmp/default_user.conf") ++
      " >> /var/lib/rabbitmq/.rabbitmqadmin.conf " ++
      "&& chmod 600 /var/lib/rabbitmq/.rabbitmqadmin.conf ; " ++
      "sleep " ++ toString cluster.spec.delayStartSeconds]
  memory := { limit := some 67108864, request := some 67108864 }
  volumeMounts := some (
    [⟨"plugins-conf", "/tmp/rabbitmq-plugins/", "", false⟩,
      ⟨"rabbitmq-erlang-cookie", "/var/lib/rabbitmq/", "", false⟩,
      ⟨"erlang-cookie-secret", "/tmp/erlang-cookie-secret/", "", false⟩,
      ⟨"rabbitmq-plugins", "/operator", "", false⟩,
      ⟨"persistence", "/var/lib/rabbitmq/mnesia/", "", false⟩] ++
    if cluster.vaultDefaultUserSecretEnabled then []
    else [⟨"rabbitmq-confd", "/tmp/default_user.conf", "default_user.conf", false⟩])
  securityContext := some restricted

def updaterImage : String :=
  (cluster.spec.secretBackend.vault.bind VaultSpec.defaultUserUpdaterImage).getD ""

def defaultUserCredentialUpdater : Container where
  name := "default-user-credential-updater"
  image := updaterImage cluster
  args := ["--management-uri",
    if cluster.tlsEnabled then "https://$(HOSTNAME_DOMAIN):15671" else "http://127.0.0.1:15672", "-v", "4"]
  memory := { limit := some 134217728, request := some 524288 }
  volumeMounts := some (⟨"rabbitmq-erlang-cookie", "/var/lib/rabbitmq/", "", false⟩ ::
    if cluster.secretTLSEnabled then [⟨"rabbitmq-tls", "/etc/rabbitmq-tls/", "", true⟩] else [])
  env := some (envVarsK8sObjects cluster ++
    [{ name := "HOSTNAME_DOMAIN", value := "$(MY_POD_NAME).$(K8S_SERVICE_NAME).$(MY_POD_NAMESPACE)" }])

def rabbitmqConfigurationIsSet : Bool :=
  cluster.spec.rabbitmq.advancedConfig ≠ "" || cluster.spec.rabbitmq.envConfig ≠ "" ||
    cluster.spec.rabbitmq.erlangInetConfig ≠ ""

def defaultUserSecretProjection : List VolumeProjection :=
  let projection (secretName : String) : VolumeProjection :=
    { secret := some secretName, items := [("default_user.conf", "default_user.conf")] }
  if !cluster.vaultDefaultUserSecretEnabled && !cluster.externalSecretEnabled then
    [projection (cluster.childResourceName "default-user")]
  else if cluster.externalSecretEnabled then [projection cluster.spec.secretBackend.externalSecret]
  else []

def volumes : List Volume :=
  [⟨"plugins-conf", .configMap (cluster.childResourceName "plugins-conf")⟩,
    ⟨"rabbitmq-confd", .projected
      ({ configMap := some (cluster.childResourceName "server-conf")
         items := [("operatorDefaults.conf", "operatorDefaults.conf"),
           ("userDefinedConfiguration.conf", "userDefinedConfiguration.conf")] } ::
        defaultUserSecretProjection cluster)⟩,
    ⟨"rabbitmq-erlang-cookie", .emptyDir⟩,
    ⟨"erlang-cookie-secret", .secret (cluster.childResourceName "erlang-cookie")⟩,
    ⟨"rabbitmq-plugins", .emptyDir⟩,
    ⟨"pod-info", .downwardAPI [("skipPreStopChecks", "metadata.labels['skipPreStopChecks']")]⟩] ++
  (if rabbitmqConfigurationIsSet cluster then
    [⟨"server-conf", .configMap (cluster.childResourceName "server-conf")⟩] else []) ++
  (if cluster.spec.storage = 0 then [⟨"persistence", .emptyDir⟩] else []) ++
  (if cluster.secretTLSEnabled then
    [⟨"rabbitmq-tls", .projected
      ({ secret := some cluster.spec.tls.secretName
         items := [("tls.crt", "tls.crt"), ("tls.key", "tls.key")] } ::
        if cluster.mutualTLSEnabled then
          [{ secret := some cluster.spec.tls.caSecretName, items := [("ca.crt", "ca.crt")] }]
        else [])⟩] else [])

def rabbitmqContainerVolumeMounts : List VolumeMount :=
  [⟨"rabbitmq-erlang-cookie", "/var/lib/rabbitmq/", "", false⟩,
    ⟨"persistence", "/var/lib/rabbitmq/mnesia/", "", false⟩,
    ⟨"rabbitmq-plugins", "/operator", "", false⟩,
    ⟨"rabbitmq-confd", "/etc/rabbitmq/conf.d/10-operatorDefaults.conf", "operatorDefaults.conf", false⟩,
    ⟨"rabbitmq-confd", "/etc/rabbitmq/conf.d/90-userDefinedConfiguration.conf",
      "userDefinedConfiguration.conf", false⟩,
    ⟨"pod-info", "/etc/pod-info/", "", false⟩] ++
  (if cluster.vaultDefaultUserSecretEnabled then [] else
    [⟨"rabbitmq-confd", "/etc/rabbitmq/conf.d/11-default_user.conf", "default_user.conf", false⟩]) ++
  (if cluster.spec.rabbitmq.envConfig ≠ "" then
    [⟨"server-conf", "/etc/rabbitmq/rabbitmq-env.conf", "rabbitmq-env.conf", false⟩] else []) ++
  (if cluster.spec.rabbitmq.advancedConfig ≠ "" then
    [⟨"server-conf", "/etc/rabbitmq/advanced.config", "advanced.config", false⟩] else []) ++
  (if cluster.spec.rabbitmq.erlangInetConfig ≠ "" then
    [⟨"server-conf", "/etc/rabbitmq/erl_inetrc", "erl_inetrc", false⟩] else []) ++
  (if cluster.secretTLSEnabled then [⟨"rabbitmq-tls", "/etc/rabbitmq-tls/", "", true⟩] else [])

def pluginPort (plugin : String) (port : ContainerPort) : List ContainerPort :=
  if cluster.additionalPluginEnabled plugin then [port] else []

def streamPort (port : ContainerPort) : List ContainerPort := if cluster.streamNeeded then [port] else []

def updateContainerPortsOnlyTLSListeners : List ContainerPort :=
  [⟨"epmd", 4369⟩, ⟨"amqps", 5671⟩, ⟨"management-tls", 15671⟩, ⟨"prometheus-tls", 15691⟩] ++
    pluginPort cluster "rabbitmq_mqtt" ⟨"mqtts", 8883⟩ ++
    pluginPort cluster "rabbitmq_stomp" ⟨"stomps", 61614⟩ ++ streamPort cluster ⟨"streams", 5551⟩

def updateContainerPorts : List ContainerPort :=
  if cluster.disableNonTLSListeners then updateContainerPortsOnlyTLSListeners cluster
  else
    [⟨"epmd", 4369⟩, ⟨"amqp", 5672⟩, ⟨"management", 15672⟩, ⟨"prometheus", 15692⟩] ++
    pluginPort cluster "rabbitmq_mqtt" ⟨"mqtt", 1883⟩ ++
    pluginPort cluster "rabbitmq_web_mqtt" ⟨"web-mqtt", 15675⟩ ++
    pluginPort cluster "rabbitmq_stomp" ⟨"stomp", 61613⟩ ++
    pluginPort cluster "rabbitmq_web_stomp" ⟨"web-stomp", 15674⟩ ++
    pluginPort cluster "rabbitmq_web_amqp" ⟨"web-amqp", 15678⟩ ++ streamPort cluster ⟨"stream", 5552⟩ ++
    if cluster.tlsEnabled then
      [⟨"amqps", 5671⟩, ⟨"management-tls", 15671⟩, ⟨"prometheus-tls", 15691⟩] ++
      pluginPort cluster "rabbitmq_mqtt" ⟨"mqtts", 8883⟩ ++
      pluginPort cluster "rabbitmq_stomp" ⟨"stomps", 61614⟩ ++ streamPort cluster ⟨"streams", 5551⟩ ++
      pluginPort cluster "rabbitmq_web_mqtt" ⟨"web-mqtt-tls", 15676⟩ ++
      pluginPort cluster "rabbitmq_web_stomp" ⟨"web-stomp-tls", 15673⟩ ++
      pluginPort cluster "rabbitmq_web_amqp" ⟨"web-amqp-tls", 15677⟩
    else []

def startupProbe : Probe :=
  if (cluster.annotations.get? legacyStartupProbeAnnotation).isSome then
    { exec := some ["/bin/bash", "-c",
        "[[ \"true\" == \"$(rabbitmqctl eval 'rabbit_nodes:reached_target_cluster_size().')\" ]]"]
      initialDelaySeconds := 10, timeoutSeconds := 5, periodSeconds := 10, failureThreshold := 30 }
  else
    { httpGet := some
        { path := "/api/health/checks/reached-target-cluster-size"
          port := if cluster.disableNonTLSListeners then "management-tls" else "management"
          scheme := if cluster.disableNonTLSListeners then "HTTPS" else "HTTP" }
      initialDelaySeconds := 10, timeoutSeconds := 5, periodSeconds := 10, failureThreshold := 30 }

def rabbitmqContainer : Container where
  name := "rabbitmq"
  image := cluster.spec.image
  memory := cluster.spec.memory
  env := some (envVarsK8sObjects cluster ++
    [{ name := "RABBITMQ_ENABLED_PLUGINS_FILE", value := "/operator/enabled_plugins" },
      { name := "RABBITMQ_USE_LONGNAME", value := "true" },
      { name := "RABBITMQ_NODENAME", value := "rabbit@$(MY_POD_NAME).$(K8S_SERVICE_NAME).$(MY_POD_NAMESPACE)" },
      { name := "K8S_HOSTNAME_SUFFIX", value := ".$(K8S_SERVICE_NAME).$(MY_POD_NAMESPACE)" }])
  ports := updateContainerPorts cluster
  volumeMounts := some (rabbitmqContainerVolumeMounts cluster)
  readinessProbe := some
    { tcpSocket := some { port := if cluster.disableNonTLSListeners then "amqps" else "amqp" }
      initialDelaySeconds := 10, timeoutSeconds := 5, periodSeconds := 10
      successThreshold := 1, failureThreshold := 3 }
  startupProbe := some (startupProbe cluster)
  securityContext := some restricted

def credentialUpdaterNeeded : Bool :=
  cluster.vaultDefaultUserSecretEnabled && updaterImage cluster ≠ ""

def operatorContainers : List Container :=
  rabbitmqContainer cluster ::
    if credentialUpdaterNeeded cluster then [defaultUserCredentialUpdater cluster] else []

def podTemplateSpec (previousPodAnnotations : StringMap) : PodTemplateSpec where
  labels := label cluster.name
  annotations := reconcileAnnotations previousPodAnnotations (defaultPodAnnotations cluster)
  spec :=
    { initContainers := [setupContainer cluster]
      containers := operatorContainers cluster
      volumes := volumes cluster
      serviceAccountName := cluster.childResourceName "server"
      automountServiceAccountToken := some true
      securityContext := some
        { fsGroup := some 0, runAsUser := some 999, runAsNonRoot := some true
          seccompProfile := some "RuntimeDefault" } }

end ClusterOperator.Resource
