import ClusterOperator.Controller.BuilderConduct
import ClusterOperator.Kubernetes.Replies

namespace ClusterOperator.Controller

open Api Kubernetes Interaction Resource

/-- A property of the cluster that does not depend on what Reconcile changes in memory and goes on
with when it could not be stored. -/
structure Lasting (r : Reconciler) (P : RabbitmqCluster → Prop) : Prop where
  image : r.controlRabbitmqImage = true → ∀ {c}, P c → P { c with spec := setImage r c.spec }
  updaterImage : r.controlRabbitmqImage = true → ∀ {c}, P c → P { c with spec := setUpdaterImage r c.spec }
  finalizers : ∀ {c} finalizers, P c → P { c with finalizers }
  status : ∀ {c} status, P c → P { c with status }

def carries (P : RabbitmqCluster → Prop) : Protocol api Unit where
  allows _ _ := True
  expects _ q reply := ∀ c ∈ replyCluster q reply, P c
  next _ _ _ := ()

abbrev Carries (P : RabbitmqCluster → Prop) {α : Type} (p : Operation α) (Q : α → Prop) : Prop :=
  Follows (carries P) p (fun a _ => Q a) ()

def Goes (P : RabbitmqCluster → Prop) : Except (Result × Memory) Memory → Prop
  | .ok m => P m.cluster
  | .error _ => True

variable {P : RabbitmqCluster → Prop} {m : Memory} {r : Reconciler}

lemma carries_any {α : Type} (p : Operation α) : Carries P p fun _ => True := by
  induction p with
  | done a => exact trivial
  | send q next ih => exact ⟨trivial, fun reply _ => ih reply⟩

lemma carries_orReturn {p : Operation (Except (Result × Memory) Memory)}
    {f : Memory → Operation (Except (Result × Memory) Memory)} (hp : Carries P p (Goes P))
    (hf : ∀ m, P m.cluster → Carries P (f m) (Goes P)) : Carries P (orReturn p f) (Goes P) := by
  refine hp.bind fun y _ hy => ?_
  cases y with
  | error z => exact trivial
  | ok m => exact hf m hy

lemma carries_onError {σ : Type} {retriable : Err → Bool} {attempt : σ → Operation (Option Err × σ)} {K : σ → Prop}
    (h : ∀ x, K x → Carries P (attempt x) fun y => K y.2) (n : ℕ) {x : σ} (hx : K x) :
    Carries P (onError retriable attempt n x) fun y => K y.2 := by
  induction n generalizing x with
  | zero => exact h x hx
  | succ n ih =>
    refine (h x hx).bind fun y _ hy => ?_
    rcases y with ⟨_ | err, y⟩
    · exact hy
    · dsimp only
      split
      · exact ih hy
      · exact hy

lemma goes_requeueOrContinue {x : ℕ × Option Err × Memory} (hx : P x.2.2.cluster) :
    Goes P (requeueOrContinue x) := by
  rcases x with ⟨_ | n, _ | err, m⟩ <;> first | exact hx | exact trivial

lemma goes_orFail {x : Option Err × Memory} (hx : x.1 = none → P x.2.cluster) : Goes P (orFail x) := by
  rcases x with ⟨_ | err, m⟩
  · exact hx rfl
  · exact trivial

section Cluster

lemma carries_updateCluster (hm : P m.cluster) : Carries P (updateCluster m) fun x => P x.2.cluster := by
  refine ⟨trivial, fun reply hreply => ?_⟩
  cases reply with
  | error e => exact hm
  | ok c => exact hreply c rfl

lemma carries_stored : Carries P (updateCluster m) fun x => x.1 = none → P x.2.cluster := by
  refine ⟨trivial, fun reply hreply => ?_⟩
  cases reply with
  | error e => exact nofun
  | ok c => exact fun _ => hreply c rfl

lemma carries_rebalanceIfNeeded (hm : P m.cluster) :
    Carries P (rebalanceIfNeeded m) fun x => x.1 = none → P x.2.cluster := by
  refine ⟨trivial, fun reply _ => ?_⟩
  rcases reply with (_ | _ | _ | message) | sts
  · exact fun _ => hm
  · exact nofun
  · exact nofun
  · exact nofun
  · change Carries P (if _ then _ else _) _
    split
    · unfold markForQueueRebalance
      split
      · exact fun _ => hm
      · exact ⟨trivial, fun _ _ => carries_stored⟩
    · exact fun _ => hm

lemma carries_startReconciling (hm : P m.cluster) : Carries P (startReconciling r m) (Goes P) := by
  refine (carries_any (labelDefaultUserSecret m)).bind fun _ _ _ => ?_
  refine carries_orReturn ((carries_rebalanceIfNeeded hm).bind fun x _ hx => goes_orFail hx) fun m hm => ?_
  split
  · exact hm
  · exact (carries_any _).bind fun err _ _ => goes_orFail fun _ => hm

variable (hP : Lasting r P)
include hP

lemma carries_patchStatus (hm : P m.cluster) (f : RabbitmqClusterStatus → RabbitmqClusterStatus) :
    Carries P (patchStatus m f) fun x => P x.2.cluster := by
  refine ⟨trivial, fun reply hreply => ?_⟩
  cases reply with
  | error e => exact hP.status _ hm
  | ok c => exact hreply c rfl

lemma carries_setReconcileSuccess (hm : P m.cluster) (condition : ConditionStatus) (reason msg : String) :
    Carries P (setReconcileSuccess m condition reason msg) fun m => P m.cluster := by
  have hmemory : P (if condition = .true then { m with observed := some m.cluster.generation } else m).cluster := by
    split <;> exact hm
  exact (carries_patchStatus hP hmemory _).bind fun x _ hx => hx

lemma carries_reconcileOperatorDefaults (hm : P m.cluster) :
    Carries P (reconcileOperatorDefaults r m) fun x => P x.2.2.cluster := by
  have hupdate {m : Memory} (hm : P m.cluster) :
      Carries P (updateRabbitmqCluster m) fun x => P x.2.2.cluster := by
    refine (carries_updateCluster hm).bind fun x _ hx => ?_
    rcases x with ⟨_ | err, m⟩
    · exact hx
    · dsimp only
      split <;> exact hx
  unfold reconcileOperatorDefaults
  split
  · rename_i hcontrol
    refine (hupdate (m := m.modify fun c => { c with spec := setImage r c.spec }) (hP.image hcontrol hm)).bind
      fun x _ hx => ?_
    rcases x with ⟨requeue, _ | err, m⟩
    · dsimp only
      split
      · refine (hupdate (m := m.modify fun c => { c with spec := setUpdaterImage r c.spec })
          (hP.updaterImage hcontrol hx)).bind fun x _ hx => ?_
        rcases x with ⟨requeue, _ | err, m⟩ <;> exact hx
      · exact hx
    · exact hx
  · exact hm

lemma carries_addFinalizerIfNeeded (hm : P m.cluster) :
    Carries P (addFinalizerIfNeeded m) fun x => P x.2.cluster := by
  have hattempt (m : Memory) (hm : P m.cluster) : Carries P (updateCluster (m.modify fun c =>
      if deletionFinalizer ∈ c.finalizers then c
      else { c with finalizers := c.finalizers ++ [deletionFinalizer] })) fun x => P x.2.cluster := by
    refine carries_updateCluster ?_
    simp only [Memory.modify]
    split
    · exact hm
    · exact hP.finalizers _ hm
  unfold addFinalizerIfNeeded
  split
  · exact carries_onError hattempt _ hm
  · exact hm

lemma carries_updateStatusConditions (hm : P m.cluster) :
    Carries P (updateStatusConditions m) fun x => P x.2.2.cluster := by
  refine (carries_any getChildResources).bind fun reply _ _ => ?_
  cases reply with
  | error e => exact hm
  | ok children =>
    dsimp only
    split
    · exact hm
    · refine (carries_patchStatus hP hm _).bind fun x _ hx => ?_
      rcases x with ⟨_ | err, m⟩
      · exact hx
      · dsimp only
        split <;> exact hx

lemma carries_reconcileTLS (hm : P m.cluster) : Carries P (reconcileTLS m) fun x => P x.2.cluster := by
  unfold reconcileTLS
  split
  · exact (carries_setReconcileSuccess hP hm _ _ _).bind fun m _ hm => hm
  · split
    · refine (carries_any (checkTLSSecrets m.cluster)).bind fun err _ _ => ?_
      cases err with
      | none => exact hm
      | some err => exact (carries_setReconcileSuccess hP hm _ _ _).bind fun m _ hm => hm
    · exact hm

lemma carries_prepare (hm : P m.cluster) : Carries P (prepare r m) (Goes P) := by
  refine carries_orReturn ((carries_reconcileOperatorDefaults hP hm).bind fun x _ hx =>
    goes_requeueOrContinue hx) fun m hm => ?_
  refine carries_orReturn ((carries_addFinalizerIfNeeded hP hm).bind fun x _ hx => goes_orFail fun _ => hx) fun m hm => ?_
  refine carries_orReturn ((carries_updateStatusConditions hP hm).bind fun x _ hx =>
    goes_requeueOrContinue hx) fun m hm => ?_
  refine (carries_reconcileTLS hP hm).bind fun x _ hx => ?_
  rcases x with ⟨_ | err, m⟩
  · exact hx
  · exact trivial

end Cluster

section Children

lemma carries_finishTurn (hP : Lasting r P) (hm : P m.cluster) (builder : Builder) (restart : Bool)
    (result : Except Err OperationResult) : Carries P (finishTurn builder restart m result) (Goes P) := by
  cases result with
  | error err =>
    unfold finishTurn
    dsimp only
    split <;> exact (carries_setReconcileSuccess hP hm _ _ _).bind fun _ _ _ => trivial
  | ok result =>
    refine (carries_any (annotateIfNeeded builder restart result)).bind fun err _ _ => ?_
    cases err with
    | none => exact hm
    | some err => exact trivial

lemma carries_createOrUpdate {α σ : Type} [DecidableEq α] (client : Kubernetes.Resource α)
    {mutate : Bool → σ → α → σ × Except Err α} {K : σ → Prop} (hmutate : ∀ b x o, K x → K (mutate b x o).1)
    {x : σ} (hx : K x) (obj : α) : Carries P (createOrUpdate client mutate x obj) fun y => K y.2.2 := by
  refine (carries_any client.get).bind fun reply _ _ => ?_
  cases reply with
  | error e =>
    cases e with
    | notFound =>
      have hy := hmutate false x obj hx
      change Carries P (createMutated client obj (mutate false x obj)) _
      generalize mutate false x obj = y at hy
      rcases y with ⟨y, err | o⟩
      · exact hy
      · refine (carries_any (client.create o)).bind fun reply _ _ => ?_
        cases reply <;> exact hy
    | _ => exact hx
  | ok existing =>
    have hy := hmutate true x existing hx
    change Carries P (updateMutated client existing (mutate true x existing)) _
    generalize mutate true x existing = y at hy
    rcases y with ⟨y, err | o⟩
    · exact hy
    · unfold updateMutated
      dsimp only
      split
      · exact hy
      · refine (carries_any (client.update o)).bind fun reply _ _ => ?_
        cases reply <;> exact hy

lemma carries_createOrUpdateOnConflict {α σ : Type} [DecidableEq α] (client : Kubernetes.Resource α)
    {mutate : Bool → σ → α → σ × Except Err α} {K : σ → Prop} (hmutate : ∀ b x o, K x → K (mutate b x o).1)
    {x : σ} (hx : K x) (obj : α) : Carries P (createOrUpdateOnConflict client mutate x obj) fun y => K y.2 := by
  refine Follows.bind (carries_onError (K := fun z => K z.2.2) (fun z hz => ?_) defaultRetry hx) fun z _ hz => ?_
  · refine (carries_createOrUpdate client hmutate hz z.2.1).bind fun y _ hy => ?_
    rcases y with ⟨_ | result, obj, x⟩ <;> exact hy
  · rcases z with ⟨_ | err, result, obj, x⟩ <;> exact hz

lemma carries_childTurn (hP : Lasting r P) (hm : P m.cluster) (k : Kind) : Carries P (childTurn r k m) (Goes P) := by
  refine (carries_any (buildChild r k m)).bind fun reply _ _ => ?_
  cases reply with
  | error err => exact trivial
  | ok obj =>
    refine (carries_createOrUpdateOnConflict (K := fun x => P x.1.cluster) (Client.children k)
      (fun b x o hx => ?_) hm obj).bind fun y _ hy => carries_finishTurn hP hy _ _ _
    rw [updateChild_memory]
    exact hx

end Children

end ClusterOperator.Controller
