import ClusterOperator.Controller.Reconcile

namespace ClusterOperator.Controller

open Api Kubernetes Interaction Resource

def Passive : Request → Prop
  | .getStatefulSet | .getChild _ | .getPvc _ | .listPods | .getSecret _ | .listEndpointSlices | .exec _ _
  | .overview _ | .isQuorumCritical _ | .now | .secondsSince _ | .random => True
  | _ => False

def OnCluster : Request → Prop
  | .getCluster | .createCluster _ | .updateCluster _ => True
  | .patchStatus base modified =>
    modified.status.deprecatedFeaturesUsed = base.status.deprecatedFeaturesUsed
  | _ => False

def OnStatefulSet : Request → Prop
  | .updateStatefulSet _ | .deleteStatefulSet | .updatePvc _ => True
  | _ => False

def OnChild (k : Kind) : Request → Prop
  | .createChild k' _ | .updateChild k' _ => k' = k
  | _ => False

variable {R : Request → Prop} {α β σ : Type}

section Rules

lemma sends_orReturn {p : Operation (Except (Result × Memory) α)}
    {f : α → Operation (Except (Result × Memory) β)} (hp : p.Sends R) (hf : ∀ a, (f a).Sends R) :
    (orReturn p f).Sends R := by
  refine hp.bind fun x => ?_
  cases x with
  | error y => exact trivial
  | ok a => exact hf a

lemma yields_onError {K : σ → Prop} {retriable : Err → Bool} {attempt : σ → Operation (Option Err × σ)}
    (h : ∀ x, K x → (attempt x).Yields R fun y => K y.2) (n : ℕ) {x : σ} (hx : K x) :
    (onError retriable attempt n x).Yields R fun y => K y.2 := by
  induction n generalizing x with
  | zero => exact h x hx
  | succ n ih =>
    refine (h x hx).bind fun y hy => ?_
    rcases y with ⟨_ | err, y⟩
    · exact hy
    · dsimp only
      split
      · exact ih hy
      · exact hy

lemma sends_onError {retriable : Err → Bool} {attempt : σ → Operation (Option Err × σ)}
    (h : ∀ x, (attempt x).Sends R) (n : ℕ) (x : σ) : (onError retriable attempt n x).Sends R :=
  (yields_onError (K := fun _ => True) (fun x _ => (h x).yields) n trivial).sends

end Rules

section Objects

variable {client : Kubernetes.Resource α}

lemma sends_annotate (hget : client.get.Sends R) (hupdate : ∀ o, (client.update o).Sends R)
    (key value : String) (obj : α) : (annotate client key value obj).Sends R := by
  refine hget.bind fun reply => ?_
  cases reply with
  | error e => exact trivial
  | ok o => exact (hupdate _).bind fun reply => by cases reply <;> exact trivial

lemma updateAnnotation_sends (hget : client.get.Sends R) (hupdate : ∀ o, (client.update o).Sends R)
    (key value : String) (obj : α) : Program.Sends R <| updateAnnotation client key value obj :=
  sends_onError (sends_annotate hget hupdate key value) _ _

lemma deleteAnnotation_sends (hupdate : ∀ o, (client.update o).Sends R) (key : String) (obj : α) :
    Program.Sends R <| deleteAnnotation client key obj := by
  unfold deleteAnnotation
  split
  · exact trivial
  · exact (hupdate _).bind fun reply => by cases reply <;> exact trivial

lemma sends_stamp (hnow : R .now) (hget : client.get.Sends R) (hupdate : ∀ o, (client.update o).Sends R)
    (key : String) (obj : α) : (stamp client key obj).Sends R :=
  ⟨hnow, fun _ => (updateAnnotation_sends hget hupdate key _ obj).bind fun _ => trivial⟩

lemma yields_createOrUpdate [DecidableEq α] {K : σ → Prop} {mutate : Bool → σ → α → σ × Except Err α}
    (hget : client.get.Sends R) (hmutate : ∀ fetched m obj, K m → K (mutate fetched m obj).1 ∧
      ∀ o, (mutate fetched m obj).2 = .ok o → (client.create o).Sends R ∧ (client.update o).Sends R)
    {m : σ} (hm : K m) (obj : α) : (createOrUpdate client mutate m obj).Yields R fun y => K y.2.2 := by
  refine hget.yields.bind fun reply _ => ?_
  rcases reply with (_ | _ | _ | message) | existing
  · change (createMutated client obj (mutate false m obj)).Yields R _
    have h := hmutate false m obj hm
    generalize mutate false m obj = y at h
    rcases y with ⟨m, err | o⟩
    · exact h.1
    · exact (h.2 o rfl).1.yields.bind fun reply _ => by cases reply <;> exact h.1
  · exact hm
  · exact hm
  · exact hm
  · change (updateMutated client existing (mutate true m existing)).Yields R _
    have h := hmutate true m existing hm
    generalize mutate true m existing = y at h
    rcases y with ⟨m, err | o⟩
    · exact h.1
    · change Program.Yields (I := api) R _ (if o = existing then _ else _)
      split
      · exact h.1
      · exact (h.2 o rfl).2.yields.bind fun reply _ => by cases reply <;> exact h.1

lemma yields_createOrUpdateOnConflict [DecidableEq α] {K : σ → Prop}
    {mutate : Bool → σ → α → σ × Except Err α} (hget : client.get.Sends R)
    (hmutate : ∀ fetched m obj, K m → K (mutate fetched m obj).1 ∧
      ∀ o, (mutate fetched m obj).2 = .ok o → (client.create o).Sends R ∧ (client.update o).Sends R)
    {m : σ} (hm : K m) (obj : α) :
    (createOrUpdateOnConflict client mutate m obj).Yields R fun y => K y.2 := by
  refine (yields_onError (K := fun x => K x.2.2) (fun x hx => ?_) _ (by exact hm)).bind fun x hx => ?_
  · refine (yields_createOrUpdate hget hmutate hx x.2.1).bind fun y hy => ?_
    rcases y with ⟨_ | _, _, _⟩ <;> exact hy
  · rcases x with ⟨_ | _, _, _, _⟩ <;> exact hx

section Sends

variable [DecidableEq α] (hget : client.get.Sends R) (hcreate : ∀ o, (client.create o).Sends R)
  (hupdate : ∀ o, (client.update o).Sends R) (mutate : Bool → σ → α → σ × Except Err α) (m : σ) (obj : α)
include hget hcreate hupdate

lemma sends_createOrUpdate : (createOrUpdate client mutate m obj).Sends R :=
  (yields_createOrUpdate (K := fun _ => True) hget
    (fun _ _ _ _ => ⟨trivial, fun o _ => ⟨hcreate o, hupdate o⟩⟩) trivial obj).sends

lemma sends_createOrUpdateOnConflict : (createOrUpdateOnConflict client mutate m obj).Sends R :=
  (yields_createOrUpdateOnConflict (K := fun _ => True) hget
    (fun _ _ _ _ => ⟨trivial, fun o _ => ⟨hcreate o, hupdate o⟩⟩) trivial obj).sends

end Sends

end Objects

section Expansion

open Scaling

lemma sends_getPVCs (hpassive : ∀ q, Passive q → R q) (rmq : RabbitmqCluster) (is : List ℕ)
    (pvcs : List PersistentVolumeClaim) : (getPVCs rmq is pvcs).Sends R := by
  induction is generalizing pvcs with
  | nil => exact trivial
  | cons i is ih =>
    refine ⟨hpassive _ trivial, fun reply => ?_⟩
    rcases reply with (_ | _ | _ | message) | pvc
    · exact ih pvcs
    · exact trivial
    · exact trivial
    · exact trivial
    · exact ih (pvcs ++ [pvc])

lemma sends_retryUntilDeleted (hpassive : ∀ q, Passive q → R q) (n : ℕ) : (retryUntilDeleted n).Sends R := by
  induction n with
  | zero => exact trivial
  | succ n ih =>
    refine ⟨hpassive _ trivial, fun reply => ?_⟩
    rcases reply with (_ | _ | _ | message) | sts
    · exact trivial
    all_goals exact ih

lemma sends_deleteSts (hpassive : ∀ q, Passive q → R q) (hdelete : R .deleteStatefulSet)
    (rmq : RabbitmqCluster) : (deleteSts rmq).Sends R := by
  refine ⟨hpassive _ trivial, fun reply => ?_⟩
  rcases reply with (_ | _ | _ | message) | sts
  · exact trivial
  · exact trivial
  · exact trivial
  · exact trivial
  · refine ⟨hdelete, fun reply => ?_⟩
    cases reply with
    | error e => exact trivial
    | ok _ =>
      refine (sends_retryUntilDeleted hpassive 10).bind fun deleted => ?_
      cases deleted <;> exact trivial

lemma sends_scaleUpPVCs (hpassive : ∀ q, Passive q → R q) (hupdate : ∀ p, R (.updatePvc p))
    (desiredCapacity : Quantity) (pvcs : List PersistentVolumeClaim) :
    (scaleUpPVCs desiredCapacity pvcs).Sends R := by
  induction pvcs with
  | nil => exact trivial
  | cons pvc pvcs ih =>
    refine ⟨hpassive _ trivial, fun reply => ?_⟩
    cases reply with
    | error e => exact trivial
    | ok latest =>
      refine ⟨hupdate _, fun reply => ?_⟩
      cases reply with
      | error e => exact trivial
      | ok _ => exact ih

lemma sends_expand (hpassive : ∀ q, Passive q → R q) (hdelete : R .deleteStatefulSet)
    (hupdate : ∀ p, R (.updatePvc p)) (rmq : RabbitmqCluster) (desiredCapacity : Quantity) :
    (expand rmq desiredCapacity).Sends R := by
  refine (sends_getPVCs hpassive rmq _ _).bind fun reply => ?_
  cases reply with
  | error err => exact trivial
  | ok pvcs =>
    dsimp only
    split
    · exact trivial
    · refine (sends_deleteSts hpassive hdelete rmq).bind fun reply => ?_
      cases reply with
      | error err => exact trivial
      | ok _ => exact sends_scaleUpPVCs hpassive hupdate _ _

lemma sends_scale (hpassive : ∀ q, Passive q → R q) (hdelete : R .deleteStatefulSet)
    (hupdate : ∀ p, R (.updatePvc p)) (rmq : RabbitmqCluster) (desiredCapacity : Quantity) :
    (scale rmq desiredCapacity).Sends R := by
  refine ⟨hpassive _ trivial, fun reply => ?_⟩
  rcases reply with (_ | _ | _ | message) | sts
  · exact sends_expand hpassive hdelete hupdate _ _
  · exact trivial
  · exact trivial
  · exact trivial
  · change (scaleFrom rmq desiredCapacity
      (.ok (persistenceStorageCapacity sts.volumeClaimTemplates))).Sends R
    unfold scaleFrom
    dsimp only
    split
    · exact trivial
    · exact sends_expand hpassive hdelete hupdate _ _

end Expansion

section Status

variable (hpatch : ∀ base modified : RabbitmqCluster,
  modified.status.deprecatedFeaturesUsed = base.status.deprecatedFeaturesUsed → R (.patchStatus base modified))
include hpatch

lemma sends_patchStatus (m : Memory) {f : RabbitmqClusterStatus → RabbitmqClusterStatus}
    (hf : (f m.cluster.status).deprecatedFeaturesUsed = m.cluster.status.deprecatedFeaturesUsed) :
    (patchStatus m f).Sends R :=
  ⟨hpatch _ _ hf, fun reply => by cases reply <;> exact trivial⟩

lemma sends_setReconcileSuccess (m : Memory) (condition : ConditionStatus) (reason msg : String) :
    (setReconcileSuccess m condition reason msg).Sends R := by
  refine (sends_patchStatus hpatch _ ?_).bind fun _ => trivial
  cases condition <;> rfl

lemma sends_recordEventsAndSetCondition (m : Memory) (status : ConditionStatus) (reason msg : String) :
    (recordEventsAndSetCondition m status reason msg).Sends R :=
  (sends_patchStatus hpatch _ rfl).bind fun _ => trivial

lemma sends_reportFailure (reason : String) (x : ℕ × Option Err × Memory) :
    (reportFailure reason x).Sends R := by
  rcases x with ⟨requeueAfter, _ | err, m⟩
  · change Program.Sends (I := api) R (if _ then _ else _)
    split <;> exact trivial
  · exact (sends_setReconcileSuccess hpatch _ _ _ _).bind fun _ => trivial

end Status

section Cluster

variable (hcluster : ∀ q, OnCluster q → R q)
include hcluster

lemma patch_of_onCluster (base modified : RabbitmqCluster)
    (h : modified.status.deprecatedFeaturesUsed = base.status.deprecatedFeaturesUsed) :
    R (.patchStatus base modified) :=
  hcluster (.patchStatus base modified) h

lemma sends_updateCluster (m : Memory) : (updateCluster m).Sends R :=
  ⟨hcluster _ trivial, fun reply => by cases reply <;> exact trivial⟩

lemma sends_getClusters : Client.clusters.get.Sends R := ⟨hcluster _ trivial, fun _ => trivial⟩

lemma sends_createClusters (c : RabbitmqCluster) : (Client.clusters.create c).Sends R :=
  ⟨hcluster _ trivial, fun _ => trivial⟩

lemma sends_updateClusters (c : RabbitmqCluster) : (Client.clusters.update c).Sends R :=
  ⟨hcluster _ trivial, fun _ => trivial⟩

end Cluster

section Children

variable (hpassive : ∀ q, Passive q → R q)
include hpassive

lemma sends_getChildren (k : Kind) : (Client.children k).get.Sends R := ⟨hpassive _ trivial, fun _ => trivial⟩

lemma sends_buildChild (r : Reconciler) (k : Kind) (m : Memory) : (buildChild r k m).Sends R := by
  cases k <;> first | exact trivial | exact ⟨hpassive _ trivial, fun _ => trivial⟩

variable {k : Kind} (hchild : ∀ q, OnChild k q → R q)
include hchild

omit hpassive in
lemma sends_createChildren (o : DataObject) : ((Client.children k).create o).Sends R :=
  ⟨hchild _ rfl, fun _ => trivial⟩

omit hpassive in
lemma sends_updateChildren (o : DataObject) : ((Client.children k).update o).Sends R :=
  ⟨hchild _ rfl, fun _ => trivial⟩

lemma sends_annotateChild (restart : Bool) (result : OperationResult) :
    (annotateIfNeeded (.child k) restart result).Sends R := by
  have hstamp (key : String) : (stamp (Client.children k) key {}).Sends R :=
    sends_stamp (hpassive _ trivial) (sends_getChildren hpassive k) (sends_updateChildren hchild) _ _
  unfold annotateIfNeeded
  split
  · rename_i h
    cases h
    split
    · exact hstamp _
    · exact trivial
  · rename_i h
    cases h
    split
    · exact hstamp _
    · exact trivial
  · rename_i h
    cases h
  · exact trivial

lemma sends_childTurn (hcluster : ∀ q, OnCluster q → R q) (r : Reconciler) (m : Memory) :
    (childTurn r k m).Sends R := by
  refine (sends_buildChild hpassive r k m).bind fun reply => ?_
  cases reply with
  | error err => exact trivial
  | ok obj =>
    refine (sends_createOrUpdateOnConflict (sends_getChildren hpassive k) (sends_createChildren hchild)
      (sends_updateChildren hchild) _ _ _).bind fun x => ?_
    rcases x with ⟨err | result, m, restart⟩
    · change Program.Sends (I := api) R (if _ then _ else _)
      split <;> exact (sends_setReconcileSuccess (patch_of_onCluster hcluster) _ _ _ _).bind fun _ => trivial
    · refine (sends_annotateChild hpassive hchild restart result).bind fun err => ?_
      cases err <;> exact trivial

end Children

section StatefulSet

variable (hpassive : ∀ q, Passive q → R q) (hsts : ∀ q, OnStatefulSet q → R q)
include hpassive hsts

omit hsts in
lemma sends_getStatefulSets : Client.statefulSets.get.Sends R := ⟨hpassive _ trivial, fun _ => trivial⟩

omit hpassive in
lemma sends_updateStatefulSets (o : StatefulSet) : (Client.statefulSets.update o).Sends R :=
  ⟨hsts _ trivial, fun _ => trivial⟩

lemma sends_annotateStatefulSet (restart : Bool) (result : OperationResult) :
    (annotateIfNeeded .statefulSet restart result).Sends R := by
  change Program.Sends (I := api) R (if _ then _ else _)
  split
  · exact sends_stamp (hpassive _ trivial) (sends_getStatefulSets hpassive) (sends_updateStatefulSets hsts) _ _
  · exact trivial

lemma sends_writeStatefulSet (hpatch : ∀ base modified : RabbitmqCluster,
      modified.status.deprecatedFeaturesUsed = base.status.deprecatedFeaturesUsed → R (.patchStatus base modified))
    (hcreate : ∀ o, R (.createStatefulSet o)) (r : Reconciler) (m : Memory) (sts : StatefulSet) :
    (writeStatefulSet r m sts).Sends R := by
  refine (sends_scale hpassive (hsts _ trivial) (fun _ => hsts _ trivial) _ _).bind fun x => ?_
  cases x with
  | error err => exact (sends_setReconcileSuccess hpatch _ _ _ _).bind fun _ => trivial
  | ok _ =>
    refine (sends_createOrUpdateOnConflict (sends_getStatefulSets hpassive)
      (fun o => ⟨hcreate o, fun _ => trivial⟩) (sends_updateStatefulSets hsts) _ _ _).bind fun x => ?_
    rcases x with ⟨err | result, m⟩
    · change Program.Sends (I := api) R (if _ then _ else _)
      split <;> exact (sends_setReconcileSuccess hpatch _ _ _ _).bind fun _ => trivial
    · refine (sends_annotateStatefulSet hpassive hsts false result).bind fun err => ?_
      cases err <;> exact trivial

variable (hcluster : ∀ q, OnCluster q → R q)
include hcluster

omit hpassive hsts in
lemma sends_guardFromZero (m : Memory) (current sts : StatefulSet) : (guardFromZero m current sts).Sends R := by
  unfold guardFromZero
  split
  · refine Program.Sends.bind ?_ fun x => ?_
    · unfold scaleFromZeroToBeforeReplicasConfigured
      split
      · exact trivial
      · exact (sends_recordEventsAndSetCondition (patch_of_onCluster hcluster) _ _ _ _).bind fun _ => trivial
    · rcases x with ⟨_ | _, m⟩
      · refine Program.Sends.bind ?_ fun _ => trivial
        unfold removeReplicasBeforeZeroAnnotationIfExists
        split
        · exact trivial
        · exact (deleteAnnotation_sends (sends_updateClusters hcluster) _ _).bind fun _ => trivial
      · exact trivial
  · exact trivial

omit hpassive hsts in
lemma sends_guardReplicas (m : Memory) (current sts : StatefulSet) : (guardReplicas m current sts).Sends R := by
  have hsave : (saveReplicasBeforeZero m current).Sends R :=
    (updateAnnotation_sends (sends_getClusters hcluster) (sends_updateClusters hcluster) _ _ _).bind
      fun _ => trivial
  unfold guardReplicas
  split
  · refine hsave.bind fun x => ?_
    rcases x with ⟨_ | err, m⟩
    · exact sends_guardFromZero hcluster _ _ _
    · exact trivial
  · refine Program.Sends.bind ?_ fun x => ?_
    · unfold scaleDown
      split
      · exact (sends_recordEventsAndSetCondition (patch_of_onCluster hcluster) _ _ _ _).bind fun _ => trivial
      · exact trivial
    · rcases x with ⟨_ | _, m⟩
      · exact sends_guardFromZero hcluster _ _ _
      · exact trivial

lemma sends_statefulSetTurn (hcreate : ∀ o, R (.createStatefulSet o)) (r : Reconciler) (m : Memory) :
    (statefulSetTurn r m).Sends R := by
  have hwrite := sends_writeStatefulSet hpassive hsts (patch_of_onCluster hcluster) hcreate r
  refine ⟨hpassive _ trivial, fun reply => ?_⟩
  rcases reply with (_ | _ | _ | message) | current
  · exact hwrite _ _
  · exact trivial
  · exact trivial
  · exact trivial
  · generalize updateStatefulSet r false { m with sharesClaims := false }
      (StatefulSetBuilder.build m.cluster) = y
    rcases y with ⟨m', err | sts⟩
    · exact trivial
    · exact sends_orReturn (sends_guardReplicas hcluster _ _ _) fun m => hwrite m _

end StatefulSet

section Prepare

variable (hpassive : ∀ q, Passive q → R q)
include hpassive

lemma sends_getChildResources : getChildResources.Sends R := by
  have hendpoints (sts : Option StatefulSet) : (getChildResources.endpoints sts).Sends R :=
    ⟨hpassive _ trivial, fun reply => by cases reply <;> exact trivial⟩
  refine ⟨hpassive _ trivial, fun reply => ?_⟩
  rcases reply with (_ | _ | _ | message) | sts
  · exact hendpoints none
  · exact trivial
  · exact trivial
  · exact trivial
  · exact hendpoints (some sts)

lemma sends_checkTLSSecrets (rmq : RabbitmqCluster) : (checkTLSSecrets rmq).Sends R := by
  have hca (secret : DataObject) : (checkCaSecret rmq secret).Sends R := by
    unfold checkCaSecret
    split
    · split
      · exact trivial
      · exact ⟨hpassive _ trivial, fun reply => by cases reply <;> exact trivial⟩
    · exact trivial
  refine ⟨hpassive _ trivial, fun reply => ?_⟩
  cases reply with
  | error e => exact trivial
  | ok secret =>
    change Program.Sends (I := api) R (if _ then _ else _)
    split
    · exact hca secret
    · exact trivial

omit hpassive in
lemma sends_deleteChildren (ks : List Kind) (hdelete : ∀ k ∈ ks, R (.deleteChild k)) :
    (deleteChildren ks).Sends R := by
  induction ks with
  | nil => exact trivial
  | cons k ks ih =>
    have hrest := ih fun k hk => hdelete k (List.mem_cons_of_mem _ hk)
    refine ⟨hdelete k List.mem_cons_self, fun reply => ?_⟩
    rcases reply with (_ | _ | _ | message) | _
    · exact hrest
    · exact trivial
    · exact trivial
    · exact trivial
    · exact hrest

lemma sends_labelDefaultUserSecret (hchild : ∀ q, OnChild .defaultUserSecret q → R q) (m : Memory) :
    (labelDefaultUserSecret m).Sends R := by
  refine ⟨hpassive _ trivial, fun reply => ?_⟩
  cases reply with
  | error e => exact trivial
  | ok secret =>
    change Program.Sends (I := api) R (if _ then _ else _)
    split
    · exact trivial
    · exact ⟨hchild _ rfl, fun _ => trivial⟩

variable (hcluster : ∀ q, OnCluster q → R q)
include hcluster

omit hpassive in
lemma sends_updateRabbitmqCluster (m : Memory) : (updateRabbitmqCluster m).Sends R := by
  refine (sends_updateCluster hcluster m).bind fun x => ?_
  rcases x with ⟨_ | err, m⟩
  · exact trivial
  · change Program.Sends (I := api) R (if _ then _ else _)
    split <;> exact trivial

omit hpassive in
lemma sends_reconcileOperatorDefaults (r : Reconciler) (m : Memory) :
    (reconcileOperatorDefaults r m).Sends R := by
  unfold reconcileOperatorDefaults
  split
  · refine (sends_updateRabbitmqCluster hcluster _).bind fun x => ?_
    rcases x with ⟨requeue, _ | err, m⟩
    · dsimp only
      split
      · refine (sends_updateRabbitmqCluster hcluster _).bind fun x => ?_
        rcases x with ⟨requeue, _ | err, m⟩ <;> exact trivial
      · exact trivial
    · exact trivial
  · exact trivial

omit hpassive in
lemma sends_addFinalizerIfNeeded (m : Memory) : (addFinalizerIfNeeded m).Sends R := by
  unfold addFinalizerIfNeeded
  split
  · exact sends_onError (fun m => sends_updateCluster hcluster _) _ _
  · exact trivial

lemma sends_updateStatusConditions (m : Memory) : (updateStatusConditions m).Sends R := by
  refine (sends_getChildResources hpassive).bind fun reply => ?_
  cases reply with
  | error e => exact trivial
  | ok children =>
    dsimp only
    split
    · exact trivial
    · refine (sends_patchStatus (patch_of_onCluster hcluster) _ rfl).bind fun x => ?_
      rcases x with ⟨_ | err, m⟩
      · exact trivial
      · dsimp only
        split <;> exact trivial

lemma sends_reconcileTLS (m : Memory) : (reconcileTLS m).Sends R := by
  unfold reconcileTLS
  split
  · exact (sends_setReconcileSuccess (patch_of_onCluster hcluster) _ _ _ _).bind fun _ => trivial
  · split
    · refine (sends_checkTLSSecrets hpassive _).bind fun err => ?_
      cases err with
      | none => exact trivial
      | some err => exact (sends_setReconcileSuccess (patch_of_onCluster hcluster) _ _ _ _).bind fun _ => trivial
    · exact trivial

lemma sends_prepare (r : Reconciler) (m : Memory) : (prepare r m).Sends R := by
  refine sends_orReturn ((sends_reconcileOperatorDefaults hcluster r m).bind fun _ => trivial) fun m => ?_
  refine sends_orReturn ((sends_addFinalizerIfNeeded hcluster m).bind fun _ => trivial) fun m => ?_
  refine sends_orReturn ((sends_updateStatusConditions hpassive hcluster m).bind fun _ => trivial) fun m => ?_
  refine (sends_reconcileTLS hpassive hcluster m).bind fun x => ?_
  rcases x with ⟨_ | err, m⟩ <;> exact trivial

lemma sends_rebalanceIfNeeded (m : Memory) : (rebalanceIfNeeded m).Sends R := by
  refine ⟨hpassive _ trivial, fun reply => ?_⟩
  rcases reply with (_ | _ | _ | message) | sts
  · exact trivial
  · exact trivial
  · exact trivial
  · exact trivial
  · change Program.Sends (I := api) R (if _ then _ else _)
    split
    · unfold markForQueueRebalance
      split
      · exact trivial
      · exact ⟨hpassive _ trivial, fun _ => sends_updateCluster hcluster _⟩
    · exact trivial

end Prepare

section PostDeploy

variable (hpassive : ∀ q, Passive q → R q)
include hpassive

lemma sends_restartStatefulSetIfNeeded (hsts : ∀ q, OnStatefulSet q → R q) :
    restartStatefulSetIfNeeded.Sends R := by
  have hrestart (u : Unit) : (restart u).Sends R := by
    refine ⟨hpassive _ trivial, fun reply => ?_⟩
    cases reply with
    | error e => exact trivial
    | ok sts =>
      exact ⟨hpassive _ trivial, fun now => ⟨hsts _ trivial, fun reply => by cases reply <;> exact trivial⟩⟩
  refine ⟨hpassive _ trivial, fun reply => ?_⟩
  cases reply with
  | error e => exact trivial
  | ok serverConf =>
    dsimp only [Program.bind]
    generalize serverConf.metadata.annotations.get? serverConfAnnotation = updatedAt
    rcases updatedAt with _ | updatedAt
    · exact trivial
    · refine ⟨hpassive _ trivial, fun reply => ?_⟩
      cases reply with
      | error e => exact trivial
      | ok sts =>
        change Program.Sends (I := api) R (if _ then _ else _)
        split
        · exact trivial
        · exact (sends_onError hrestart _ _).bind fun _ => trivial

lemma sends_checkNodes (es : List Endpoint) : (checkNodes es).Sends R := by
  induction es with
  | nil => exact trivial
  | cons e es ih =>
    have hnode : (checkNodeQuorumStatus e.podName).Sends R :=
      ⟨hpassive _ trivial, fun reply => by rcases reply with e | _ | _ <;> exact trivial⟩
    exact hnode.bind fun _ => ih.bind fun _ => trivial

lemma sends_checkQuorumStatus : checkQuorumStatus.Sends R := by
  refine ⟨hpassive _ trivial, fun reply => ?_⟩
  rcases reply with e | _ | ⟨_ | ⟨e, es⟩, slices⟩
  · exact trivial
  · exact trivial
  · exact trivial
  · exact (sends_checkNodes hpassive (e :: es)).bind fun _ => trivial

lemma sends_setPlugins (pods : List String) (command : String) : (setPlugins pods command).Sends R := by
  induction pods with
  | nil => exact trivial
  | cons pod pods ih =>
    refine ⟨hpassive _ trivial, fun reply => ?_⟩
    cases reply with
    | error e => exact trivial
    | ok _ => exact ih

lemma sends_setPluginsIfAnnotated (hchild : ∀ q, OnChild .pluginsConf q → R q) (m : Memory) (cfg : DataObject) :
    (setPluginsIfAnnotated m cfg).Sends R := by
  unfold setPluginsIfAnnotated
  split
  · refine (sends_setPlugins hpassive _ _).bind fun err => ?_
    cases err with
    | some err => exact trivial
    | none => exact (deleteAnnotation_sends (sends_updateChildren hchild) _ _).bind fun _ => trivial
  · exact trivial

lemma sends_enableFeatureFlagsIfNeeded (hsts : ∀ q, OnStatefulSet q → R q) (m : Memory) (sts : StatefulSet) :
    (enableFeatureFlagsIfNeeded m sts).Sends R := by
  unfold enableFeatureFlagsIfNeeded
  split
  · refine ⟨hpassive _ trivial, fun reply => ?_⟩
    cases reply with
    | error e => exact trivial
    | ok _ => exact (deleteAnnotation_sends (sends_updateStatefulSets hsts) _ _).bind fun _ => trivial
  · exact trivial

lemma sends_pluginsConfigUpdatedRecently (cfg : DataObject) : (pluginsConfigUpdatedRecently cfg).Sends R := by
  unfold pluginsConfigUpdatedRecently
  split
  · exact trivial
  · exact ⟨hpassive _ trivial, fun reply => by cases reply <;> exact trivial⟩

variable (hcluster : ∀ q, OnCluster q → R q)
include hcluster

omit hpassive in
lemma sends_reconcileStatus (m : Memory) : (reconcileStatus m).Sends R := by
  unfold reconcileStatus
  dsimp only
  split
  · exact trivial
  · exact sends_patchStatus (patch_of_onCluster hcluster) _ rfl

lemma sends_updateQuorumStatus (m : Memory) : (updateQuorumStatus m).Sends R := by
  refine (sends_checkQuorumStatus hpassive).bind fun newStatus => ?_
  split
  · exact trivial
  · exact (sends_patchStatus (patch_of_onCluster hcluster) _ rfl).bind fun _ => trivial

lemma reconcileRabbitmqVersionAnnotation_sends (m : Memory) :
    Program.Sends R <| reconcileRabbitmqVersionAnnotation m := by
  refine ⟨hpassive _ trivial, fun reply => ?_⟩
  cases reply with
  | error e => exact trivial
  | ok sts =>
    change Program.Sends (I := api) R (if _ then _ else _)
    split
    · refine ⟨hpassive _ trivial, fun reply => ?_⟩
      cases reply with
      | error e => exact trivial
      | ok versions =>
        change Program.Sends (I := api) R (if _ then _ else _)
        split
        · exact trivial
        · refine (sends_updateCluster hcluster _).bind fun x => ?_
          rcases x with ⟨_ | err, m⟩ <;> exact trivial
    · exact trivial

lemma sends_rebalanceQueuesIfAnnotated (m : Memory) : (rebalanceQueuesIfAnnotated m).Sends R := by
  unfold rebalanceQueuesIfAnnotated
  split
  · refine ⟨hpassive _ trivial, fun reply => ?_⟩
    cases reply with
    | error e => exact trivial
    | ok _ => exact (deleteAnnotation_sends (sends_updateClusters hcluster) _ _).bind fun _ => trivial
  · exact trivial

variable (hsts : ∀ q, OnStatefulSet q → R q) (hchild : ∀ q, OnChild .pluginsConf q → R q)
include hsts hchild

lemma sends_runRabbitmqCLICommandsIfAnnotated (m : Memory) : (runRabbitmqCLICommandsIfAnnotated m).Sends R := by
  refine ⟨hpassive _ trivial, fun reply => ?_⟩
  cases reply with
  | error e => exact trivial
  | ok sts =>
    change Program.Sends (I := api) R (if _ then _ else _)
    split
    · refine ⟨hpassive _ trivial, fun reply => ?_⟩
      rcases reply with (_ | _ | _ | message) | cfg
      · exact trivial
      · exact trivial
      · exact trivial
      · exact trivial
      · refine (sends_pluginsConfigUpdatedRecently hpassive cfg).bind fun recent => ?_
        rcases recent with err | _ | _
        · exact trivial
        · refine Program.Sends.bind ?_ fun _ => trivial
          refine (sends_setPluginsIfAnnotated hpassive hchild m cfg).bind fun err => ?_
          cases err with
          | some err => exact trivial
          | none =>
            refine (sends_enableFeatureFlagsIfNeeded hpassive hsts m sts).bind fun err => ?_
            cases err with
            | some err => exact trivial
            | none => exact sends_rebalanceQueuesIfAnnotated hpassive hcluster m
        · exact trivial
    · exact trivial

lemma sends_postDeploy (m : Memory) : (postDeploy m).Sends R := by
  refine sends_orReturn ((sends_restartStatefulSetIfNeeded hpassive hsts).bind fun _ => trivial) fun m => ?_
  refine sends_orReturn ((sends_reconcileStatus hcluster m).bind fun _ => trivial) fun m => ?_
  refine (sends_updateQuorumStatus hpassive hcluster m).bind fun m => ?_
  refine sends_orReturn ((reconcileRabbitmqVersionAnnotation_sends hpassive hcluster m).bind fun x =>
    sends_reportFailure (patch_of_onCluster hcluster) _ x) fun m => ?_
  refine (sends_runRabbitmqCLICommandsIfAnnotated hpassive hcluster hsts hchild m).bind fun x => ?_
  cases x with
  | error panic => exact trivial
  | ok x => exact sends_reportFailure (patch_of_onCluster hcluster) _ x

end PostDeploy

section Deletion

variable (hpassive : ∀ q, Passive q → R q) (hpods : ∀ p, R (.updatePod p))
include hpassive hpods

omit hpassive in
lemma sends_labelPods (pods : List Pod) : (labelPods pods).Sends R := by
  induction pods with
  | nil => exact trivial
  | cons pod pods ih =>
    refine ⟨hpods _, fun reply => ?_⟩
    rcases reply with (_ | _ | _ | message) | _
    · exact ih
    · exact trivial
    · exact trivial
    · exact trivial
    · exact ih

lemma sends_addRabbitmqDeletionLabel : addRabbitmqDeletionLabel.Sends R := by
  refine ⟨hpassive _ trivial, fun reply => ?_⟩
  cases reply with
  | error e => exact trivial
  | ok pods => exact sends_labelPods hpods pods

omit hpods in
lemma sends_waitForLabel (rmq : RabbitmqCluster) (start : String) (n : ℕ) :
    (waitForLabel rmq start n).Sends R := by
  have hcheck : (checkIfLabelPropagated rmq).Sends R :=
    ⟨hpassive _ trivial, fun reply => by cases reply <;> exact trivial⟩
  induction n with
  | zero => exact trivial
  | succ n ih =>
    refine ⟨hpassive _ trivial, fun elapsed => ?_⟩
    change Program.Sends (I := api) R (if _ then _ else _)
    split
    · refine hcheck.bind fun propagated => ?_
      cases propagated
      · exact ih
      · exact trivial
    · exact trivial

lemma sends_prepareForDeletion (hcluster : ∀ q, OnCluster q → R q) (c : RabbitmqCluster) :
    (prepareForDeletion c).Sends R := by
  have hattempt (u : Unit) : Program.Sends (I := api) R (do return (← addRabbitmqDeletionLabel, u)) :=
    (sends_addRabbitmqDeletionLabel hpassive hpods).bind fun _ => trivial
  unfold prepareForDeletion
  split
  · refine (sends_onError hattempt _ _).bind fun _ => ⟨hpassive _ trivial, fun start => ?_⟩
    refine (sends_waitForLabel hpassive c start 15).bind fun _ => ?_
    refine (sends_createOrUpdate (sends_getClusters hcluster) (sends_createClusters hcluster)
      (sends_updateClusters hcluster) _ _ _).bind fun x => ?_
    rcases x with ⟨_ | _, _⟩ <;> exact trivial
  · exact trivial

end Deletion

end ClusterOperator.Controller
