import ClusterOperator.Resource.Secrets
import ClusterOperator.Text.Uri

/-! The connection string of the default user. The user name and the password stand in it as they
are, so it is a URI for them only if they need no percent-encoding. -/

namespace ClusterOperator.Resource

open Api Kubernetes Text DefaultUserSecretBuilder

def entry (data : StringMap) (key : String) : String := (data.get? key).getD ""

def RoundTrips (data : StringMap) : Prop :=
  ParsesTo (entry data "connection_string") (entry data "username") (entry data "password") (entry data "host")
    (entry data "port")

def isDnsChar (c : Char) : Bool := c.isLower || c.isDigit || c = '-' || c = '.'

def isBase64UrlChar (c : Char) : Bool := c.isAlphanum || c = '-' || c = '_'

section Characters

variable {c : Char}

lemma isNameChar_of_isAlphanum (h : c.isAlphanum = true) : isNameChar c = true := by
  simp [isNameChar, isUnreserved, h]

lemma isNameChar_of_isDnsChar (h : isDnsChar c = true) : isNameChar c = true := by
  simp only [isDnsChar, Bool.or_eq_true, decide_eq_true_eq] at h
  rcases h with ((h | h) | rfl) | rfl
  · exact isNameChar_of_isAlphanum (isAlphanum_iff.mpr (Or.inl (Or.inr h)))
  · exact isNameChar_of_isAlphanum (isAlphanum_iff.mpr (Or.inr h))
  · decide
  · decide

lemma isNameChar_of_isBase64UrlChar (h : isBase64UrlChar c = true) : isNameChar c = true := by
  simp only [isBase64UrlChar, Bool.or_eq_true, decide_eq_true_eq] at h
  rcases h with (h | rfl) | rfl
  · exact isNameChar_of_isAlphanum h
  · decide
  · decide

lemma isPasswordChar_of_isNameChar (h : isNameChar c = true) : isPasswordChar c = true := by
  simp [isPasswordChar, h]

end Characters

section Generated

variable {random : List Char}

lemma randomEncodedString_isBase64Url (h : ∀ c ∈ random, isBase64UrlChar c = true) :
    ∀ c ∈ (randomEncodedString random).1.toList, isNameChar c = true := by
  intro c hc
  rw [randomEncodedString, String.toList_ofList] at hc
  exact isNameChar_of_isBase64UrlChar (h c (List.mem_of_mem_take hc))

lemma generateUsername_isBase64Url (h : ∀ c ∈ random, isBase64UrlChar c = true) :
    ∀ c ∈ (generateUsername random).1.toList, isNameChar c = true := by
  intro c hc
  have hlist : (generateUsername random).1.toList = usernamePrefix.toList ++
      ((randomEncodedString random).1.toList.take
        ((randomEncodedString random).1.length - usernamePrefix.length)) := by
    simp [generateUsername]
  rw [hlist, List.mem_append] at hc
  rcases hc with hc | hc
  · have hprefix : ∀ c ∈ usernamePrefix.toList, isNameChar c = true := List.all_eq_true.mp (by decide)
    exact hprefix c hc
  · exact randomEncodedString_isBase64Url h c (List.mem_of_mem_take hc)

end Generated

section Build

variable {cluster : RabbitmqCluster} {ini : Ini} {random : String} {secret : DataObject}

lemma entry_username (username password : String) :
    entry (chosenData cluster ini username password) "username" = username := rfl

lemma entry_password (username password : String) :
    entry (chosenData cluster ini username password) "password" = password := rfl

lemma entry_host (username password : String) :
    entry (chosenData cluster ini username password) "host" = cluster.serviceSubDomain := rfl

lemma chosenUsername_subset (user : String × String) (random : List Char) :
    (chosenUsername user random).2 ⊆ random := by
  unfold chosenUsername
  split
  · exact List.drop_subset _ _
  · exact List.Subset.refl _

lemma isNameChar_chosenUsername_iff {user : String × String} {random : List Char}
    (hrandom : ∀ c ∈ random, isBase64UrlChar c = true) :
    (∀ c ∈ (chosenUsername user random).1.toList, isNameChar c = true) ↔
      ∀ c ∈ user.1.toList, isNameChar c = true := by
  unfold chosenUsername
  split
  · rename_i hempty
    rw [hempty]
    exact iff_of_true (generateUsername_isBase64Url hrandom) nofun
  · exact Iff.rfl

lemma isPasswordChar_chosenPassword_iff {user : String × String} {random : List Char}
    (hrandom : ∀ c ∈ random, isBase64UrlChar c = true) :
    (∀ c ∈ (chosenPassword user random).toList, isPasswordChar c = true) ↔
      ∀ c ∈ user.2.toList, isPasswordChar c = true := by
  unfold chosenPassword
  split
  · rename_i hempty
    rw [hempty]
    exact iff_of_true
      (fun c hc => isPasswordChar_of_isNameChar (randomEncodedString_isBase64Url hrandom c hc)) nofun
  · exact Iff.rfl

lemma isNameChar_serviceSubDomain (hname : ∀ c ∈ cluster.name.toList, isDnsChar c = true)
    (hns : ∀ c ∈ cluster.ns.toList, isDnsChar c = true) :
    ∀ c ∈ cluster.serviceSubDomain.toList, isNameChar c = true := by
  have hdot : ∀ c ∈ ".".toList, isNameChar c = true := List.all_eq_true.mp (by decide)
  have hsvc : ∀ c ∈ ".svc".toList, isNameChar c = true := List.all_eq_true.mp (by decide)
  intro c hc
  simp only [RabbitmqCluster.serviceSubDomain, String.toList_append, List.mem_append] at hc
  rcases hc with ((hc | hc) | hc) | hc
  · exact isNameChar_of_isDnsChar (hname c hc)
  · exact hdot c hc
  · exact isNameChar_of_isDnsChar (hns c hc)
  · exact hsvc c hc

lemma roundTrips_updateConnectionString_iff (data : StringMap) :
    RoundTrips (updateConnectionString cluster (updatePorts cluster data)) ↔
      ParsesTo (compose (if cluster.secretTLSEnabled then "amqps" else "amqp") (entry data "username")
          (entry data "password") (entry data "host") (if cluster.secretTLSEnabled then "5671" else "5672"))
        (entry data "username") (entry data "password") (entry data "host")
        (if cluster.secretTLSEnabled then "5671" else "5672") := by
  have hentry (k : String) (hk : k ∉ derivedKeys) :
      entry (updateConnectionString cluster (updatePorts cluster data)) k = entry data k :=
    congrArg (·.getD "") (get?_derived data hk)
  have hports (k : String) (hk : k ∉ derivedKeys) : ((updatePorts cluster data).get? k).getD "" = entry data k :=
    congrArg (·.getD "") (get?_updatePorts data fun h => hk (List.mem_cons_of_mem _ h))
  have hport : entry (updateConnectionString cluster (updatePorts cluster data)) "port" =
      if cluster.secretTLSEnabled then "5671" else "5672" := by
    rw [entry, get?_updateConnectionString _ (by decide), get?_updatePorts_port, Option.getD_some]
  have hstring : entry (updateConnectionString cluster (updatePorts cluster data)) "connection_string" =
      compose (if cluster.secretTLSEnabled then "amqps" else "amqp") (entry data "username")
        (entry data "password") (entry data "host") (if cluster.secretTLSEnabled then "5671" else "5672") := by
    rw [entry, get?_connection_string, Option.getD_some, connectionString, hports "username" (by decide),
      hports "password" (by decide), hports "host" (by decide), get?_updatePorts_port, Option.getD_some, compose]
  rw [RoundTrips, hstring, hport, hentry "username" (by decide), hentry "password" (by decide),
    hentry "host" (by decide)]

theorem connection_string_round_trips_iff (hname : ∀ c ∈ cluster.name.toList, isDnsChar c = true)
    (hns : ∀ c ∈ cluster.ns.toList, isDnsChar c = true) (hrandom : ∀ c ∈ random.toList, isBase64UrlChar c = true)
    (h : build cluster ini random = .ok secret) :
    ∃ user, configuredUser cluster ini = .ok user ∧
      (RoundTrips secret.data ↔
        (∀ c ∈ user.1.toList, isNameChar c = true) ∧ ∀ c ∈ user.2.toList, isPasswordChar c = true) := by
  obtain ⟨user, huser, hdata⟩ := build_eq_ok h
  refine ⟨user, huser, ?_⟩
  have hrest : ∀ c ∈ (chosenUsername user random.toList).2, isBase64UrlChar c = true :=
    fun c hc => hrandom c (chosenUsername_subset _ _ hc)
  have hscheme : isScheme (if cluster.secretTLSEnabled then "amqps" else "amqp").toList = true := by
    split <;> decide
  have hport : ∀ c ∈ (if cluster.secretTLSEnabled then "5671" else "5672").toList, c.isDigit = true := by
    split <;> exact List.all_eq_true.mp (by decide)
  rw [hdata, roundTrips_updateConnectionString_iff, entry_username, entry_password, entry_host,
    parsesTo_compose_iff hscheme (isNameChar_serviceSubDomain hname hns) hport,
    isNameChar_chosenUsername_iff hrandom, isPasswordChar_chosenPassword_iff hrest]

end Build

def withCredentials (username password : String) : RabbitmqCluster where
  name := "rabbit"
  ns := "default"
  spec.rabbitmq.additionalConfig := "default_user = " ++ username ++ "\ndefault_pass = " ++ password

def base64Random : String := String.ofList (List.replicate 64 'A')

def parsed (cluster : RabbitmqCluster) : Except Err (String × Option Authority) :=
  (build cluster Ini.ascii base64Random).map fun secret =>
    (entry secret.data "password", (Uri.parse (entry secret.data "connection_string")).map Uri.authority)

theorem password_not_given_back :
    parsed (withCredentials "my-user" "p/w") = .ok ("p/w", none) ∧
    parsed (withCredentials "my-user" "100%25") = .ok ("100%25",
      some ⟨some ⟨bytes "my-user", some (bytes "100%")⟩, "rabbit.default.svc", some "5672"⟩) := by
  decide +kernel

theorem plain_credentials_given_back : ∃ secret,
    build (withCredentials "my-user" "my:password") Ini.ascii base64Random = .ok secret ∧
      RoundTrips secret.data := by
  have hok : (build (withCredentials "my-user" "my:password") Ini.ascii base64Random).map (fun _ => ()) = .ok () := by
    decide +kernel
  have huser : configuredUser (withCredentials "my-user" "my:password") Ini.ascii =
      .ok ("my-user", "my:password") := by
    decide +kernel
  obtain ⟨secret, hsecret, -⟩ := map_eq_ok.mp hok
  obtain ⟨user, huser', hiff⟩ :=
    connection_string_round_trips_iff (List.all_eq_true.mp (by decide)) (List.all_eq_true.mp (by decide))
      (List.all_eq_true.mp (by decide +kernel)) hsecret
  obtain rfl := Except.ok.inj (huser.symm.trans huser')
  exact ⟨secret, hsecret, hiff.mpr ⟨List.all_eq_true.mp (by decide), List.all_eq_true.mp (by decide)⟩⟩

end ClusterOperator.Resource
