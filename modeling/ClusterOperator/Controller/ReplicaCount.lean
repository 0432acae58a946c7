import ClusterOperator.Controller.PostDeploy
import ClusterOperator.Interaction.Exchange

namespace ClusterOperator.Controller

open Api Kubernetes Interaction Resource Scaling

variable {cluster : RabbitmqCluster}

def podName (cluster : RabbitmqCluster) (i : ℕ) : String :=
  cluster.childResourceName "server" ++ "-" ++ toString i

def hostName (cluster : RabbitmqCluster) (i : ℕ) : String :=
  podName cluster i ++ "." ++ cluster.childResourceName "nodes" ++ "." ++ cluster.ns

def pluginRequests (cluster : RabbitmqCluster) (n : ℕ) : List Request :=
  (List.range n).map fun i => .exec (podName cluster i) (setPluginsCommand cluster)

def claimRequests (cluster : RabbitmqCluster) (n : ℕ) : List Request :=
  (List.range n).map fun i => .getPvc (cluster.pvcName i)

structure OneReplicaCount (cluster : RabbitmqCluster) (ini : Ini) (serverConf : DataObject) (n : ℤ) : Prop where
  sizeHint : ∃ authMechsConfigured,
    serverConf.data.get? "operatorDefaults.conf" =
        some (ini.write (operatorConfiguration cluster authMechsConfigured)) ∧
      (operatorConfiguration cluster authMechsConfigured).get? targetClusterSizeHint = some (toString n)
  hostNames : podHostNames cluster = ",".intercalate ((List.range n.toNat).map (hostName cluster))
  claims : Ensures (getClusterPVCs cluster) fun xs x =>
    xs.map Sigma.fst <+: claimRequests cluster n.toNat ∧
      (∀ pvcs, x = .ok pvcs → xs.map Sigma.fst = claimRequests cluster n.toNat)
  plugins : ∀ configMap, Ensures (runSetPluginsCommand cluster configMap) fun xs err =>
    (xs.map Sigma.fst <+: pluginRequests cluster n.toNat ∧
        (err = none → xs.map Sigma.fst = pluginRequests cluster n.toNat)) ∨
      ∃ o, xs.map Sigma.fst = pluginRequests cluster n.toNat ++ [.updateChild .pluginsConf o]

lemma getPVCs_ensures (is : List ℕ) (pvcs : List PersistentVolumeClaim) :
    Ensures (getPVCs cluster is pvcs) fun xs x =>
      xs.map Sigma.fst <+: is.map (fun i => .getPvc (cluster.pvcName i)) ∧
        (∀ found, x = .ok found → xs.map Sigma.fst = is.map fun i => .getPvc (cluster.pvcName i)) := by
  induction is generalizing pvcs with
  | nil => exact ⟨List.prefix_rfl, fun _ _ => rfl⟩
  | cons i is ih =>
    have hnext (pvcs : List PersistentVolumeClaim) (reply : Except ApiError PersistentVolumeClaim) :
        Ensures (getPVCs cluster is pvcs) fun xs x =>
          (⟨Request.getPvc (cluster.pvcName i), reply⟩ :: xs : List (Exchange api)).map Sigma.fst <+:
              (i :: is).map (fun i => .getPvc (cluster.pvcName i)) ∧
            (∀ found, x = .ok found → (⟨Request.getPvc (cluster.pvcName i), reply⟩ :: xs :
              List (Exchange api)).map Sigma.fst = (i :: is).map fun i => .getPvc (cluster.pvcName i)) := by
      refine (ih pvcs).mono fun xs x h => ⟨?_, fun found hx => ?_⟩
      · simpa using h.1
      · simpa using h.2 found hx
    rintro (e | pvc)
    · cases e with
      | notFound => exact hnext _ _
      | _ => exact ⟨by simp, fun _ h => nomatch h⟩
    · exact hnext _ _

lemma setPlugins_ensures (pods : List String) (command : String) :
    Ensures (setPlugins pods command) fun xs err =>
      xs.map Sigma.fst <+: pods.map (fun pod => .exec pod command) ∧
        (err = none → xs.map Sigma.fst = pods.map fun pod => .exec pod command) := by
  induction pods with
  | nil => exact ⟨List.prefix_rfl, fun _ => rfl⟩
  | cons pod pods ih =>
    rintro (e | out)
    · exact ⟨by simp, fun h => nomatch h⟩
    · refine ih.mono fun xs err h => ⟨?_, fun herr => ?_⟩
      · simpa using h.1
      · simpa using h.2 herr

lemma deleteAnnotation_ensures (k : Kind) (key : String) (o : DataObject) :
    Ensures (p := deleteAnnotation (Client.children k) key o) fun xs _ =>
      xs.map Sigma.fst = [] ∨ ∃ o', xs.map Sigma.fst = [.updateChild k o'] := by
  unfold deleteAnnotation
  split
  · exact Or.inl rfl
  · rintro (e | o') <;> exact Or.inr ⟨_, rfl⟩

lemma runSetPluginsCommand_ensures (configMap : DataObject) :
    Ensures (runSetPluginsCommand cluster configMap) fun xs err =>
      (xs.map Sigma.fst <+: pluginRequests cluster cluster.spec.replicas ∧
          (err = none → xs.map Sigma.fst = pluginRequests cluster cluster.spec.replicas)) ∨
        ∃ o, xs.map Sigma.fst =
          pluginRequests cluster cluster.spec.replicas ++ [.updateChild .pluginsConf o] := by
  have hpods : (serverPods cluster).map (fun pod => Request.exec pod (setPluginsCommand cluster)) =
      pluginRequests cluster cluster.spec.replicas := List.map_map
  refine (setPlugins_ensures _ _).bind fun xs err h => ?_
  rw [hpods] at h
  cases err with
  | some err => exact Or.inl (by simpa using h.1)
  | none =>
    refine (deleteAnnotation_ensures _ _ _).bind fun ys x hy => ?_
    have hxs := h.2 rfl
    rcases hy with hy | ⟨o, hy⟩
    · exact Or.inl (by simp [hxs, List.map_eq_nil_iff.mp hy])
    · exact Or.inr ⟨o, by simp [hxs, hy]⟩

lemma operatorConfiguration_sizeHint (authMechsConfigured : Bool) :
    (operatorConfiguration cluster authMechsConfigured).get? targetClusterSizeHint =
      some (toString cluster.spec.replicas.val) := by
  cases authMechsConfigured <;> simp [operatorConfiguration, targetClusterSizeHint]

lemma oneReplicaCount_iff {ini : Ini} {restart : Bool} {configMap serverConf : DataObject} {n : ℤ}
    (hconf : (ServerConfigMapBuilder.update cluster ini restart configMap).2 = .ok serverConf) :
    OneReplicaCount cluster ini serverConf n ↔ n = cluster.spec.replicas := by
  constructor
  · intro h
    obtain ⟨_, -, hhint⟩ := h.sizeHint
    rw [operatorConfiguration_sizeHint, Option.some.injEq] at hhint
    exact Text.toString_int_eq_nat hhint.symm
  · rintro rfl
    obtain ⟨_, -, hdata⟩ := ServerConfigMapBuilder.updated_data (ServerConfigMapBuilder.updated_of_update hconf)
    have hdefaults : ∃ auth, serverConf.data.get? "operatorDefaults.conf" =
        some (ini.write (operatorConfiguration cluster auth)) :=
      ⟨_, by simp [hdata, ServerConfigMapBuilder.updatedData, get?_updateProperty]; rfl⟩
    obtain ⟨auth, hauth⟩ := hdefaults
    exact ⟨⟨auth, hauth, operatorConfiguration_sizeHint auth⟩, rfl, getPVCs_ensures _ _,
      runSetPluginsCommand_ensures⟩

theorem one_replicaCount_iff {merge : StrategicMergePatch} {ini : Ini} {restart : Bool}
    {sts sts' : StatefulSet} {configMap serverConf : DataObject}
    (hsts : StatefulSetBuilder.update cluster merge sts = .ok sts')
    (hconf : (ServerConfigMapBuilder.update cluster ini restart configMap).2 = .ok serverConf) :
    OneReplicaCount cluster ini serverConf sts'.replicas ↔
      ∀ override ∈ statefulSetSpecOverride cluster, ∀ n ∈ override.replicas, n = cluster.spec.replicas := by
  rw [oneReplicaCount_iff hconf, (StatefulSetBuilder.update_updated hsts).replicas, desiredReplicas]
  cases statefulSetSpecOverride cluster with
  | none => simp
  | some override => cases h : override.replicas <;> simp [h]

def replicasOverride (replicas : ℤ) : StatefulSetOverride := { spec := some { replicas := some replicas } }

def overriddenCluster (replicas : ℤ) : RabbitmqCluster where
  name := "rabbit"
  ns := "default"
  spec := { statefulSetOverride := some (replicasOverride replicas) }

def overriddenServerConf (replicas : ℤ) : DataObject :=
  (ServerConfigMapBuilder.update (overriddenCluster replicas) .ascii true
    (ServerConfigMapBuilder.build (overriddenCluster replicas))).2.toOption.getD {}

def overriddenStatefulSet (replicas : ℤ) : StatefulSet :=
  (StatefulSetBuilder.update (overriddenCluster replicas) strategicMergePatch
    (StatefulSetBuilder.build (overriddenCluster replicas))).toOption.getD {}

theorem replicas_overridden :
    (overriddenStatefulSet 3).replicas = 3 ∧
      (operatorConfiguration (overriddenCluster 3) false).get? targetClusterSizeHint = some "1" ∧
      podHostNames (overriddenCluster 3) = "rabbit-server-0.rabbit-nodes.default" ∧
      ((run server (getClusterPVCs (overriddenCluster 3)) [{}, {}, {}] {}).trace.map Event.request).length = 1 ∧
      serverPods (overriddenCluster 3) = ["rabbit-server-0"] := by
  refine ⟨by rfl, by decide +kernel, by decide +kernel, by rfl, by decide +kernel⟩

theorem replicas_agree :
    OneReplicaCount (overriddenCluster 1) .ascii (overriddenServerConf 1) (overriddenStatefulSet 1).replicas := by
  have hsts : StatefulSetBuilder.update (overriddenCluster 1) strategicMergePatch
      (StatefulSetBuilder.build (overriddenCluster 1)) = .ok (overriddenStatefulSet 1) := by rfl
  have hconf : (ServerConfigMapBuilder.update (overriddenCluster 1) .ascii true
      (ServerConfigMapBuilder.build (overriddenCluster 1))).2 = .ok (overriddenServerConf 1) := by rfl
  refine (one_replicaCount_iff hsts hconf).mpr ?_
  rintro override ho n hn
  cases ho
  cases hn
  rfl

end ClusterOperator.Controller
