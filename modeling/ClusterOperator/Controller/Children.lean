import ClusterOperator.Controller.Deletion
import ClusterOperator.Resource.Rbac
import ClusterOperator.Resource.Secrets

namespace ClusterOperator.Controller

open Api Kubernetes Resource

inductive ObjectKind
  | service
  | secret
  | configMap
  | serviceAccount
  | role
  | roleBinding
  | statefulSet
deriving DecidableEq

namespace Builder

variable (cluster : RabbitmqCluster)

def objectKey : Builder → ObjectKind × String
  | .child .headlessService => (.service, cluster.childResourceName "nodes")
  | .child .service => (.service, cluster.childResourceName "")
  | .child .erlangCookie => (.secret, cluster.childResourceName "erlang-cookie")
  | .child .defaultUserSecret => (.secret, cluster.childResourceName "default-user")
  | .child .pluginsConf => (.configMap, cluster.childResourceName "plugins-conf")
  | .child .serverConf => (.configMap, cluster.childResourceName "server-conf")
  | .child .serviceAccount => (.serviceAccount, cluster.childResourceName "server")
  | .child .role => (.role, cluster.childResourceName "peer-discovery")
  | .child .roleBinding => (.roleBinding, cluster.childResourceName "server")
  | .statefulSet => (.statefulSet, cluster.childResourceName "server")

end Builder

section Names

variable {a b : RabbitmqCluster}

lemma childResourceName_ne (hne : a.name ≠ b.name) (suffix : String) :
    a.childResourceName suffix ≠ b.childResourceName suffix := by
  unfold RabbitmqCluster.childResourceName
  split
  · exact hne
  · simpa using hne

lemma childResourceName_ne_of_suffix {x y : String} (a b : RabbitmqCluster) (hx : ¬ x.toList <:+ y.toList)
    (hy : ¬ y.toList <:+ x.toList) : a.childResourceName x ≠ b.childResourceName y := by
  unfold RabbitmqCluster.childResourceName
  have hx' : x ≠ "" := by
    rintro rfl
    exact hx List.nil_suffix
  have hy' : y ≠ "" := by
    rintro rfl
    exact hy List.nil_suffix
  rw [if_neg hx', if_neg hy']
  exact Text.append_ne_append hx hy _ _

lemma childResourceName_nodes_eq_iff (a b : RabbitmqCluster) :
    a.childResourceName "nodes" = b.childResourceName "" ↔ b.name = a.name ++ "-nodes" := by
  have hnodes : a.childResourceName "nodes" = a.name ++ "-nodes" := String.append_assoc
  rw [hnodes]
  exact eq_comm

lemma objectKey_eq_iff (hne : a.name ≠ b.name) {x y : Builder} :
    x.objectKey a = y.objectKey b ↔
      (x = .child .service ∧ y = .child .headlessService ∧ a.name = b.name ++ "-nodes") ∨
      (x = .child .headlessService ∧ y = .child .service ∧ b.name = a.name ++ "-nodes") := by
  have hsame := childResourceName_ne hne
  have hsecret (a b : RabbitmqCluster) :
      a.childResourceName "erlang-cookie" ≠ b.childResourceName "default-user" :=
    childResourceName_ne_of_suffix a b (by decide) (by decide)
  have hconf (a b : RabbitmqCluster) :
      a.childResourceName "plugins-conf" ≠ b.childResourceName "server-conf" :=
    childResourceName_ne_of_suffix a b (by decide) (by decide)
  rcases x with x | _ <;> rcases y with y | _
  · cases x <;> cases y <;>
      simp [Builder.objectKey, hsame, hsecret, hconf, (hsecret _ _).symm, (hconf _ _).symm,
        childResourceName_nodes_eq_iff, eq_comm (a := a.childResourceName "")]
  · cases x <;> simp [Builder.objectKey]
  · cases y <;> simp [Builder.objectKey]
  · simp [Builder.objectKey, hsame]

theorem children_disjoint_iff (r : Reconciler) (hne : a.name ≠ b.name) :
    ((∀ x ∈ resourceBuilders r a, ∀ y ∈ resourceBuilders r b, x.objectKey a ≠ y.objectKey b) ↔
      a.name ≠ b.name ++ "-nodes" ∧ b.name ≠ a.name ++ "-nodes") ∧
    ∀ i j, a.pvcName i ≠ b.pvcName j := by
  have hservice (c : RabbitmqCluster) : .child .service ∈ resourceBuilders r c := by simp [resourceBuilders]
  have hheadless (c : RabbitmqCluster) : .child .headlessService ∈ resourceBuilders r c := by
    simp [resourceBuilders]
  refine ⟨⟨fun h => ⟨fun hab => ?_, fun hba => ?_⟩, fun ⟨hab, hba⟩ x _ y _ hxy => ?_⟩, fun i j hij => hne ?_⟩
  · exact h _ (hservice a) _ (hheadless b) ((objectKey_eq_iff hne).mpr (Or.inl ⟨rfl, rfl, hab⟩))
  · exact h _ (hheadless a) _ (hservice b) ((objectKey_eq_iff hne).mpr (Or.inr ⟨rfl, rfl, hba⟩))
  · rcases (objectKey_eq_iff hne).mp hxy with ⟨_, _, h⟩ | ⟨_, _, h⟩
    · exact hab h
    · exact hba h
  · simpa using Text.append_toString_nat_inj hij

def dnsLabel (name : String) : Bool :=
  let ok : Char → Bool := fun c => c.isLower || c.isDigit
  name.length ≤ 63 && name.toList.all (fun c => ok c || c = '-') && name.toList.head?.any ok &&
    name.toList.getLast?.any ok

theorem nodes_cluster_shares_service :
    ∃ a b : RabbitmqCluster, a.name ≠ b.name ∧ a.ns = b.ns ∧ dnsLabel a.name = true ∧ dnsLabel b.name = true ∧
      ∃ x ∈ resourceBuilders plainReconciler a, ∃ y ∈ resourceBuilders plainReconciler b,
        x.objectKey a = y.objectKey b :=
  ⟨{ name := "rabbit", ns := "default" }, { name := "rabbit-nodes", ns := "default" }, by decide, rfl,
    by decide +kernel, by decide +kernel, .child .headlessService, by decide +kernel, .child .service,
    by decide +kernel, by decide +kernel⟩

theorem rabbit_and_hare_disjoint :
    ((∀ x ∈ resourceBuilders plainReconciler { name := "rabbit" },
        ∀ y ∈ resourceBuilders plainReconciler { name := "hare" },
          x.objectKey { name := "rabbit" } ≠ y.objectKey { name := "hare" }) ↔
      "rabbit" ≠ "hare" ++ "-nodes" ∧ "hare" ≠ "rabbit" ++ "-nodes") ∧
    ∀ i j, RabbitmqCluster.pvcName { name := "rabbit" } i ≠ RabbitmqCluster.pvcName { name := "hare" } j :=
  children_disjoint_iff plainReconciler (by decide)

end Names

section Visibility

inductive ChildObject
  | service (o : Service)
  | secret (o : DataObject)
  | configMap (o : DataObject)
  | serviceAccount (o : ServiceAccount)
  | role (o : Role)
  | roleBinding (o : RoleBinding)
  | statefulSet (o : StatefulSet)

def ChildObject.metadata : ChildObject → ObjectMeta
  | service o => o.metadata
  | secret o => o.metadata
  | configMap o => o.metadata
  | serviceAccount o => o.metadata
  | role o => o.metadata
  | roleBinding o => o.metadata
  | statefulSet o => o.metadata

/-- The selector of the manager's cache, for all kinds of children. -/
def rmqSelector (labels : StringMap) : Bool := labels.get? "app.kubernetes.io/part-of" = some "rabbitmq"

variable (r : Reconciler) (mergeService : ServiceMergePatch) (enumerate : ServiceBuilder.Enumeration)
  (cluster : RabbitmqCluster) (random : String)

def buildAndUpdate : Builder → Except Err ChildObject
  | .child .headlessService => (HeadlessServiceBuilder.update cluster HeadlessServiceBuilder.build).map .service
  | .child .service =>
    (ServiceBuilder.update cluster mergeService enumerate ServiceBuilder.build).map .service
  | .child .erlangCookie => (ErlangCookieBuilder.update cluster (ErlangCookieBuilder.build random)).map .secret
  | .child .defaultUserSecret => do
    let secret ← DefaultUserSecretBuilder.build cluster r.ini random
    (DefaultUserSecretBuilder.update cluster secret).map .secret
  | .child .pluginsConf =>
    (RabbitmqPluginsConfigMapBuilder.update cluster (RabbitmqPluginsConfigMapBuilder.build cluster)).map .configMap
  | .child .serverConf =>
    (ServerConfigMapBuilder.update cluster r.ini true (ServerConfigMapBuilder.build cluster)).2.map .configMap
  | .child .serviceAccount =>
    (ServiceAccountBuilder.update cluster ServiceAccountBuilder.build).map .serviceAccount
  | .child .role => (RoleBuilder.update cluster RoleBuilder.build).map .role
  | .child .roleBinding => (RoleBindingBuilder.update cluster RoleBindingBuilder.build).map .roleBinding
  | .statefulSet => (StatefulSetBuilder.update cluster r.merge (StatefulSetBuilder.build cluster)).map .statefulSet

def Builder.overrideLabels : Builder → StringMap
  | .child .service => ((cluster.spec.serviceOverride.bind ServiceOverride.metadata).map EmbeddedMeta.labels).getD {}
  | .statefulSet =>
    ((cluster.spec.statefulSetOverride.bind StatefulSetOverride.metadata).map EmbeddedMeta.labels).getD {}
  | _ => {}

end Visibility

section Labels

variable {r : Reconciler} {mergeService : ServiceMergePatch} {enumerate : ServiceBuilder.Enumeration}
  {cluster : RabbitmqCluster} {random : String}

lemma rmqSelector_getLabels (name : String) (labels : StringMap) : rmqSelector (getLabels name labels) = true := by
  have hfiltered : StringMap.lastEntry "app.kubernetes.io/part-of"
      (labels.filterKeys fun k => !hasPrefix "app.kubernetes.io" k).entries = none := by
    refine StringMap.lastEntry_eq_none fun e he hk => ?_
    have hp := (List.mem_filter.mp he).2
    rw [hk] at hp
    exact absurd hp (by decide)
  rw [rmqSelector, getLabels, StringMap.get?_merge, hfiltered]
  rfl

lemma rmqSelector_addAbsent {m : StringMap} (h : rmqSelector m = true) (o : StringMap) :
    rmqSelector (ServiceBuilder.addAbsent m o) = true := by
  rcases o with ⟨es⟩
  unfold ServiceBuilder.addAbsent
  induction es generalizing m with
  | nil => exact h
  | cons e es ih =>
    refine ih ?_
    dsimp only
    split
    · exact h
    · rename_i he
      have hne : "app.kubernetes.io/part-of" ≠ e.1 := by
        intro hk
        rw [← hk, of_decide_eq_true h] at he
        exact he rfl
      rw [rmqSelector, StringMap.get?_set, if_neg hne]
      exact h

lemma controlled_labels {o out : DataObject} (h : controlled cluster o = .ok out) :
    out.metadata.labels = o.metadata.labels := by
  rw [controlled_eq h]

lemma applySvcOverride_labels {svc out : Service} {override : ServiceOverride}
    (h : applySvcOverride mergeService svc override = .ok out) :
    out.metadata.labels = svc.metadata.labels.merge ((override.metadata.map EmbeddedMeta.labels).getD {}) := by
  rcases override with ⟨_ | m, _ | spec⟩
  · cases h
    rfl
  · obtain ⟨patched, -, ho⟩ := bind_eq_ok.mp h
    cases ho
    rfl
  · cases h
    rfl
  · obtain ⟨patched, -, ho⟩ := bind_eq_ok.mp h
    cases ho
    rfl

lemma service_labels {service out : Service}
    (h : ServiceBuilder.update cluster mergeService enumerate service = .ok out) :
    out.metadata.labels = (ServiceBuilder.defaults cluster enumerate service).metadata.labels.merge
      (Builder.overrideLabels cluster (.child .service)) := by
  obtain ⟨svc, hsvc, h⟩ := bind_eq_ok.mp h
  obtain ⟨metadata, hm, h⟩ := bind_eq_ok.mp h
  cases h
  refine (congrArg ObjectMeta.labels (setControllerReference_eq hm)).trans ?_
  unfold Builder.overrideLabels
  split at hsvc
  · rename_i ho
    cases hsvc
    rw [ho]
    rfl
  · rename_i override ho
    rw [ho]
    exact applySvcOverride_labels (mapError_eq_ok.mp hsvc)

lemma applyStsOverride_labels {merge : StrategicMergePatch} {sts out : StatefulSet} {override : StatefulSetOverride}
    (h : applyStsOverride cluster merge sts override = .ok out) :
    out.metadata.labels = sts.metadata.labels.merge ((override.metadata.map EmbeddedMeta.labels).getD {}) := by
  rcases override with ⟨_ | m, _ | spec⟩
  · cases h
    rfl
  · rw [(applyStsSpecOverride_updated h).2.1]
    rfl
  · cases h
    rfl
  · rw [(applyStsSpecOverride_updated h).2.1]
    rfl

lemma statefulSet_labels {merge : StrategicMergePatch} {sts out : StatefulSet}
    (h : StatefulSetBuilder.update cluster merge sts = .ok out) :
    out.metadata.labels = (getLabels cluster.name cluster.labels).merge
      (Builder.overrideLabels cluster .statefulSet) := by
  obtain ⟨updated, hupdated, h⟩ := bind_eq_ok.mp h
  obtain ⟨metadata, hm, h⟩ := bind_eq_ok.mp h
  cases h
  refine (congrArg ObjectMeta.labels (setControllerReference_eq hm)).trans ?_
  unfold Builder.overrideLabels
  split at hupdated
  · rename_i ho
    cases hupdated
    rw [ho]
    rfl
  · rename_i override ho
    rw [ho]
    exact applyStsOverride_labels (mapError_eq_ok.mp hupdated)

lemma buildAndUpdate_labels {b : Builder} {o : ChildObject}
    (h : buildAndUpdate r mergeService enumerate cluster random b = .ok o) :
    ∃ labels, rmqSelector labels = true ∧ o.metadata.labels = labels.merge (b.overrideLabels cluster) := by
  have hlabels := rmqSelector_getLabels cluster.name cluster.labels
  unfold buildAndUpdate at h
  rcases b with k | _
  · cases k with
    | headlessService | serviceAccount | role | roleBinding =>
      obtain ⟨out, hout, rfl⟩ := map_eq_ok.mp h
      obtain ⟨metadata, hm, h⟩ := bind_eq_ok.mp hout
      cases h
      exact ⟨_, hlabels, congrArg ObjectMeta.labels (setControllerReference_eq hm)⟩
    | service =>
      obtain ⟨out, hout, rfl⟩ := map_eq_ok.mp h
      exact ⟨_, rmqSelector_addAbsent hlabels _, service_labels hout⟩
    | erlangCookie =>
      obtain ⟨out, hout, rfl⟩ := map_eq_ok.mp h
      exact ⟨_, hlabels, controlled_labels hout⟩
    | defaultUserSecret =>
      obtain ⟨secret, -, h⟩ := bind_eq_ok.mp h
      obtain ⟨out, hout, rfl⟩ := map_eq_ok.mp h
      exact ⟨_, hlabels, controlled_labels hout⟩
    | pluginsConf =>
      obtain ⟨out, hout, rfl⟩ := map_eq_ok.mp h
      exact ⟨_, hlabels, controlled_labels hout⟩
    | serverConf =>
      obtain ⟨out, hout, rfl⟩ := map_eq_ok.mp h
      obtain ⟨_, -, -, hcontrolled⟩ :=
        ServerConfigMapBuilder.updated_eq_ok.mp (ServerConfigMapBuilder.updated_of_update hout)
      exact ⟨_, hlabels, controlled_labels hcontrolled⟩
  · obtain ⟨out, hout, rfl⟩ := map_eq_ok.mp h
    exact ⟨_, hlabels, statefulSet_labels hout⟩

theorem child_visible_iff {b : Builder} {o : ChildObject}
    (h : buildAndUpdate r mergeService enumerate cluster random b = .ok o) :
    rmqSelector o.metadata.labels = true ↔
      ∀ v ∈ StringMap.lastEntry "app.kubernetes.io/part-of" (b.overrideLabels cluster).entries, v = "rabbitmq" := by
  obtain ⟨labels, hlabels, ho⟩ := buildAndUpdate_labels h
  rw [rmqSelector, decide_eq_true_iff, ho, StringMap.get?_merge, of_decide_eq_true hlabels]
  cases StringMap.lastEntry "app.kubernetes.io/part-of" (b.overrideLabels cluster).entries <;> simp

def relabelled (application : String) : RabbitmqCluster where
  name := "rabbit"
  spec.statefulSetOverride := some { metadata := some { labels := ⟨[("app.kubernetes.io/part-of", application)]⟩ } }

theorem relabelled_not_visible :
    .statefulSet ∈ resourceBuilders plainReconciler (relabelled "shop") ∧
      (buildAndUpdate plainReconciler (fun _ override => .ok override) id (relabelled "shop") "" .statefulSet).map
        (fun o => rmqSelector o.metadata.labels) = .ok false :=
  ⟨by decide +kernel, rfl⟩

theorem relabelled_visible :
    ∃ o, buildAndUpdate plainReconciler (fun _ override => .ok override) id (relabelled "rabbitmq") "" .statefulSet =
        .ok o ∧
      (rmqSelector o.metadata.labels = true ↔
        ∀ v ∈ StringMap.lastEntry "app.kubernetes.io/part-of"
          (Builder.overrideLabels (relabelled "rabbitmq") .statefulSet).entries, v = "rabbitmq") := by
  obtain ⟨o, ho⟩ : ∃ o, buildAndUpdate plainReconciler (fun _ override => .ok override) id
    (relabelled "rabbitmq") "" .statefulSet = .ok o := ⟨_, rfl⟩
  exact ⟨o, ho, child_visible_iff ho⟩

end Labels

end ClusterOperator.Controller
