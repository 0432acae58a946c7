import ClusterOperator.Controller.Carried
import ClusterOperator.Controller.SpecFrame
import ClusterOperator.Interaction.Rounds

/-! The rule for invariants of Reconcile. Before the loop over the builders it is enough to look at
one request at a time. -/

namespace ClusterOperator.Controller

open Api Kubernetes Interaction Resource

def Aside : Request → Prop
  | .createStatefulSet _ | .updateStatefulSet _ | .deleteStatefulSet | .updatePvc _ | .createChild _ _
  | .updateChild _ _ | .deleteChild _ => False
  | _ => True

def Early : Request → Prop
  | .createStatefulSet _ | .updateStatefulSet _ | .deleteStatefulSet | .updatePvc _ => False
  | .createChild k _ | .updateChild k _ => k = .defaultUserSecret
  | .deleteChild k => k = .role ∨ k = .roleBinding
  | _ => True

section Requests

variable {q : Request}

lemma Passive.aside (h : Passive q) : Aside q := by
  cases q <;> first | exact trivial | exact h.elim

lemma OnCluster.aside (h : OnCluster q) : Aside q := by
  cases q <;> first | exact trivial | exact h.elim

lemma Aside.early (h : Aside q) : Early q := by
  cases q <;> first | exact trivial | exact h.elim

lemma aside_prepare (r : Reconciler) (m : Memory) : (prepare r m).Sends Aside :=
  sends_prepare (fun _ => Passive.aside) (fun _ => OnCluster.aside) r m

lemma aside_prepareForDeletion (c : RabbitmqCluster) : (prepareForDeletion c).Sends Aside :=
  sends_prepareForDeletion (fun _ => Passive.aside) (fun _ => trivial) (fun _ => OnCluster.aside) c

lemma early_startReconciling (r : Reconciler) (m : Memory) : (startReconciling r m).Sends Early := by
  have hpassive (q : Request) (h : Passive q) : Early q := h.aside.early
  have hchild (q : Request) (h : OnChild .defaultUserSecret q) : Early q := by
    cases q <;> first | exact h | exact h.elim
  refine (sends_labelDefaultUserSecret hpassive hchild m).bind fun _ => ?_
  refine sends_orReturn ((sends_rebalanceIfNeeded hpassive (fun _ h => h.aside.early) m).bind
    fun _ => trivial) fun m => ?_
  split
  · exact trivial
  · exact (sends_deleteChildren _ (by simp [Early])).bind fun _ => trivial

end Requests

def Concludes {S : Type} (J L : S → Prop) {ε α : Type} : Except ε α → S → Prop
  | .error _, s => J s
  | .ok _, s => L s

lemma concludes_of {S ε α : Type} {J Z : S → Prop} (hZ : ∀ s, J s → Z s) {y : Except ε α} {s : S} (h : J s) :
    Concludes Z J y s := by
  cases y with
  | error z => exact hZ s h
  | ok a => exact h

section Retry

variable {α σ S T : Type} {srv : Server api S T} {A E : Event api S → Prop} {K F : σ → S → Prop} {x : σ} {s : S}

def Tried {ε β : Type} (F : σ → S → Prop) (L : β → σ → S → Prop) : Except ε β → σ → S → Prop
  | .error _, x, s => F x s
  | .ok b, x, s => L b x s

lemma meets_retry {retriable : Err → Bool} {attempt : σ → Operation (Option Err × σ)} {L : σ → S → Prop}
    (hF : ∀ x s, F x s → K x s)
    (h : ∀ x s, K x s → Meets srv A E (attempt x) (fun y s => if y.1 = none then L y.2 s else F y.2 s) s) (n : ℕ)
    (hx : K x s) :
    Meets srv A E (onError retriable attempt n x) (fun y s => if y.1 = none then L y.2 s else F y.2 s) s := by
  induction n generalizing x s with
  | zero => exact h x s hx
  | succ n ih =>
    refine (h x s hx).bind fun y s hy => ?_
    rcases y with ⟨_ | err, y⟩
    · exact hy
    · dsimp only
      split
      · exact ih (hF _ _ hy)
      · exact hy

lemma meets_createOrUpdateOnConflict [DecidableEq α] {client : Kubernetes.Resource α}
    {mutate : Bool → σ → α → σ × Except Err α} {K F : α → σ → S → Prop} {L : OperationResult → σ → S → Prop}
    (hF : ∀ obj x s, F obj x s → K obj x s)
    (h : ∀ obj x s, K obj x s →
      Meets srv A E (createOrUpdate client mutate x obj) (fun y s => Tried (F y.2.1) L y.1 y.2.2 s) s)
    (obj : α) (hx : K obj x s) :
    Meets srv A E (createOrUpdateOnConflict client mutate x obj)
      (fun y s => Tried (fun x s => ∃ obj, F obj x s) L y.1 y.2 s) s := by
  refine Meets.bind (meets_retry (K := fun z => K z.2.1 z.2.2) (F := fun z => F z.2.1 z.2.2)
    (L := fun z => L z.1 z.2.2) (fun z s hz => hF _ _ _ hz) (fun z s hz => ?_) defaultRetry hx) fun z s hz => ?_
  · refine (h z.2.1 z.2.2 s hz).bind fun y s hy => ?_
    rcases y with ⟨err | result, obj, x⟩ <;> exact hy
  · rcases z with ⟨_ | err, result, obj, x⟩
    · exact hz
    · exact ⟨obj, hz⟩

end Retry

section Rule

variable {r : Reconciler} {P : RabbitmqCluster → Prop} {A E : Event api Store → Prop}
  {J L K Z : Store → Prop} {s : Store}

lemma meets_stage {β : Type} {p : Operation (Except (Result × Memory) Memory)}
    {f : Memory → Operation (Except (Result × Memory) β)} (hp : Meets server A E p (Concludes Z L) s)
    (hcarries : Carries P p (Goes P)) (hexpects : ∀ e, A e → ∀ c ∈ replyCluster e.request e.reply, P c)
    (hf : ∀ m s, L s → P m.cluster → Meets server A E (f m) (Concludes Z K) s) :
    Meets server A E (orReturn p f) (Concludes Z K) s := by
  have hcarried : Meets server A (fun _ => True) p (fun y _ => Goes P y) s :=
    hcarries.assuming (fun _ _ _ h => hexpects _ h) s
  refine ((hp.both hcarried).mono (fun _ h => h) (fun _ _ h => h.1) fun _ _ h => h).bind fun y s hy => ?_
  cases y with
  | error z => exact hy.1
  | ok m => exact hf m s hy.1 hy.2

variable (hP : Lasting r P) (hexpects : ∀ e, A e → ∀ c ∈ replyCluster e.request e.reply, P c)
  (haside : ∀ t q s, Aside q → J s → A (server.event t q s) → E (server.event t q s) ∧ J (server.event t q s).after)
  (hstart : ∀ m s, J s → P m.cluster → Meets server A E (startReconciling r m) (fun _ s => J s) s)
include hP hexpects haside hstart

lemma meets_reconcileCluster {m : Memory} (hZ : ∀ s, J s → Z s)
    (hloop : ∀ m s, J s → P m.cluster →
      Meets server A E (builderLoop r m (resourceBuilders r m.cluster)) (Concludes Z L) s)
    (hlate : ∀ m s, L s → Meets server A E (postDeploy m) (Concludes Z K) s)
    (hreport : ∀ t q s, OnCluster q → K s → A (server.event t q s) →
      E (server.event t q s) ∧ K (server.event t q s).after)
    (hs : J s) (hm : P m.cluster) : Meets server A E (reconcileCluster r m) (Concludes Z K) s := by
  refine meets_stage ((Meets.of_sends (aside_prepare r m) haside hs).post fun _ _ => concludes_of hZ)
    (carries_prepare hP hm) hexpects fun m s hs hm => ?_
  refine meets_stage ((hstart m s hs hm).post fun _ _ => concludes_of hZ) (carries_startReconciling hm) hexpects
    fun m s hs hm => ?_
  refine (hloop m s hs hm).bind fun y s hs => ?_
  cases y with
  | error z => exact hs
  | ok m =>
    refine (hlate m s hs).bind fun y s hs => ?_
    cases y with
    | error z => exact hs
    | ok m =>
      have hsuccess : (setReconcileSuccess m .true "Success" "Finish reconciling").Sends OnCluster :=
        sends_setReconcileSuccess (fun _ _ h => h) _ _ _ _
      exact (Meets.of_sends hsuccess hreport hs).bind fun _ _ h => h

theorem meets_reconcile
    (hloop : ∀ m s, J s → P m.cluster →
      Meets server A E (builderLoop r m (resourceBuilders r m.cluster)) (Concludes J L) s)
    (hlate : ∀ m s, L s → Meets server A E (postDeploy m) (fun _ s => J s) s) (hs : J s) :
    Meets server A E (reconcile r) (fun _ s => J s) s := by
  have hread : Meets server A E Client.getCluster (fun reply s => J s ∧ ∀ c, reply = .ok c → P c) s := by
    have hcarried : Carries P Client.getCluster fun reply => ∀ c, reply = .ok c → P c := by
      refine ⟨trivial, fun reply hreply c hc => ?_⟩
      subst hc
      exact hreply c rfl
    exact ((Meets.of_sends (p := Client.getCluster) ⟨trivial, fun _ => trivial⟩ haside hs).both
      (hcarried.assuming (fun t q s h => hexpects _ h) _)).mono (fun _ h => h) (fun _ _ h => h.1) fun _ _ h => h
  refine hread.bind fun reply s hreply => ?_
  obtain ⟨hs, hcluster⟩ := hreply
  rcases reply with (_ | _ | _ | message) | c
  · exact hs
  · exact hs
  · exact hs
  · exact hs
  · dsimp only
    split
    · exact (Meets.of_sends (aside_prepareForDeletion c) haside hs).bind fun _ _ h => h
    · split
      · exact (Meets.of_sends (sends_patchStatus (fun _ _ _ => trivial) _ rfl) haside hs).bind fun _ _ h => h
      · refine (meets_reconcileCluster hP hexpects haside hstart (fun _ h => h) hloop
          (fun m s hs => (hlate m s hs).post fun _ _ => concludes_of fun _ h => h) (fun t q s h => haside t q s h.aside) hs
          (hcluster c rfl)).bind fun z s hs => ?_
        cases z <;> exact hs

end Rule

end ClusterOperator.Controller
