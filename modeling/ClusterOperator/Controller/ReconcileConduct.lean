import ClusterOperator.Controller.BuilderConduct

namespace ClusterOperator.Controller

open Api Kubernetes Interaction Resource

variable {r : Reconciler} {g₀ g : History} {m : Memory}

lemma orFail_either {x : Option Err × Memory} (hx : Knows r g₀ x.2 g) :
    Either (Knows r g₀) (Knows r g₀) (orFail x) g := by
  rcases x with ⟨_ | err, m⟩ <;> exact hx

lemma requeueOrContinue_either {x : ℕ × Option Err × Memory} (hx : Knows r g₀ x.2.2 g) :
    Either (Knows r g₀) (Knows r g₀) (requeueOrContinue x) g := by
  rcases x with ⟨_ | n, _ | err, m⟩ <;> exact hx

lemma reportFailure_follows {x : ℕ × Option Err × Memory} (hx : Knows r g₀ x.2.2 g) (reason : String) :
    Follows (protocol r) (reportFailure reason x) (Either (Knows r g₀) (Knows r g₀)) g := by
  rcases x with ⟨n, _ | err, m⟩
  · unfold reportFailure
    dsimp only
    split <;> exact hx
  · exact (setReconcileSuccess_follows hx (by decide) _ _).bind fun m g hm => hm

section Prepare

lemma reconcileOperatorDefaults_follows (hm : Knows r g₀ m g) :
    Follows (protocol r) (reconcileOperatorDefaults r m) (fun x g => Knows r g₀ x.2.2 g) g := by
  have hupdate {m : Memory} {g : History} (hm : Knows r g₀ m g) :
      Follows (protocol r) (updateRabbitmqCluster m) (fun x g => Knows r g₀ x.2.2 g) g := by
    refine (updateCluster_follows hm).bind fun x g hx => ?_
    rcases x with ⟨_ | err, m⟩
    · exact hx
    · dsimp only
      split <;> exact hx
  unfold reconcileOperatorDefaults
  split
  · rename_i hcontrol
    refine (hupdate (hm.inPlace (.image _ hcontrol))).bind fun x g hx => ?_
    rcases x with ⟨requeue, _ | err, m⟩
    · dsimp only
      split
      · refine (hupdate (hx.inPlace (.updaterImage _ hcontrol))).bind fun x g hx => ?_
        rcases x with ⟨requeue, _ | err, m⟩ <;> exact hx
      · exact hx
    · exact hx
  · exact hm

lemma addFinalizerIfNeeded_follows (hm : Knows r g₀ m g) :
    Follows (protocol r) (addFinalizerIfNeeded m) (fun x g => Knows r g₀ x.2 g) g := by
  unfold addFinalizerIfNeeded
  split
  · refine follows_onError (K := Knows r g₀) (L := Knows r g₀) (fun _ _ h => h) (fun m g hm => ?_) _ hm
    refine updateCluster_follows (hm.congr ?_ ?_ ?_ rfl rfl) <;>
    · simp only [Memory.modify]
      split <;> rfl
  · exact hm

lemma updateStatusConditions_follows (hm : Knows r g₀ m g) :
    Follows (protocol r) (updateStatusConditions m) (fun x g => Knows r g₀ x.2.2 g) g := by
  refine (neutral_follows (sends_getChildResources (fun _ => Passive.neutral)) hm).bind fun reply g hm => ?_
  cases reply with
  | error e => exact hm
  | ok children =>
    dsimp only
    split
    · exact hm
    · refine (patchStatus_follows hm _).bind fun x g hx => ?_
      rcases x with ⟨_ | err, m⟩
      · exact hx
      · dsimp only
        split <;> exact hx

lemma reconcileTLS_follows (hm : Knows r g₀ m g) :
    Follows (protocol r) (reconcileTLS m) (fun x g => Knows r g₀ x.2 g) g := by
  unfold reconcileTLS
  split
  · exact (setReconcileSuccess_follows hm (by decide) _ _).bind fun m g hm => hm
  · split
    · refine (neutral_follows (sends_checkTLSSecrets (fun _ => Passive.neutral) _) hm).bind fun err g hm => ?_
      cases err with
      | none => exact hm
      | some err => exact (setReconcileSuccess_follows hm (by decide) _ _).bind fun m g hm => hm
    · exact hm

lemma prepare_follows (hm : Knows r g₀ m g) :
    Follows (protocol r) (prepare r m) (Either (Knows r g₀) (Knows r g₀)) g := by
  refine follows_orReturn ((reconcileOperatorDefaults_follows hm).bind fun x g hx =>
    requeueOrContinue_either hx) fun m g hm => ?_
  refine follows_orReturn ((addFinalizerIfNeeded_follows hm).bind fun x g hx =>
    orFail_either hx) fun m g hm => ?_
  refine follows_orReturn ((updateStatusConditions_follows hm).bind fun x g hx =>
    requeueOrContinue_either hx) fun m g hm => ?_
  refine (reconcileTLS_follows hm).bind fun x g hx => ?_
  rcases x with ⟨_ | err, m⟩ <;> exact hx

lemma rebalanceIfNeeded_follows (hm : Knows r g₀ m g) :
    Follows (protocol r) (rebalanceIfNeeded m) (fun x g => Knows r g₀ x.2 g) g := by
  have hmark {g : History} (hm : Knows r g₀ m g) :
      Follows (protocol r) (markForQueueRebalance m) (fun x g => Knows r g₀ x.2 g) g := by
    unfold markForQueueRebalance
    split
    · exact hm
    · exact ⟨trivial, fun _ _ => updateCluster_follows (hm.tick.congr rfl rfl rfl rfl rfl)⟩
  refine ⟨trivial, fun reply _ => ?_⟩
  rcases reply with (_ | _ | _ | message) | sts
  · exact hm.tick
  · exact hm.tick
  · exact hm.tick
  · exact hm.tick
  · change Follows _ (if _ then _ else _) _ _
    split
    · exact hmark hm.tick
    · exact hm.tick

lemma startReconciling_follows (hm : Knows r g₀ m g) :
    Follows (protocol r) (startReconciling r m) (Either (Knows r g₀) (Knows r g₀)) g := by
  refine (neutral_follows (sends_labelDefaultUserSecret (fun _ => Passive.neutral) (fun _ => OnChild.neutral) m)
    hm).bind fun _ g hm => ?_
  refine follows_orReturn ((rebalanceIfNeeded_follows hm).bind fun x g hx => orFail_either hx) fun m g hm => ?_
  split
  · exact hm
  · exact (neutral_follows (sends_deleteChildren _ fun _ _ => trivial) hm).bind fun err g hm => orFail_either hm

end Prepare

section PostDeploy

lemma reconcileStatus_follows (hm : Knows r g₀ m g) :
    Follows (protocol r) (reconcileStatus m) (fun x g => Knows r g₀ x.2 g) g := by
  unfold reconcileStatus
  dsimp only
  split
  · exact hm
  · exact patchStatus_follows hm _

lemma updateQuorumStatus_follows (hm : Knows r g₀ m g) :
    Follows (protocol r) (updateQuorumStatus m) (fun m g => Knows r g₀ m g) g := by
  refine (neutral_follows (sends_checkQuorumStatus (fun _ => Passive.neutral)) hm).bind fun newStatus g hm => ?_
  split
  · exact hm
  · exact (patchStatus_follows hm _).bind fun x g hx => hx

lemma reconcileRabbitmqVersionAnnotation_follows (hm : Knows r g₀ m g) :
    Follows (protocol r) (p := reconcileRabbitmqVersionAnnotation m) (fun x g => Knows r g₀ x.2.2 g) g := by
  refine ⟨trivial, fun reply _ => ?_⟩
  cases reply with
  | error e => exact hm.tick
  | ok sts =>
    change Follows _ (if _ then _ else _) _ _
    split
    · refine ⟨trivial, fun reply _ => ?_⟩
      cases reply with
      | error e => exact hm.tick.tick
      | ok versions =>
        change Follows _ (if _ then _ else _) _ _
        split
        · exact hm.tick.tick
        · have hversions : Knows r g₀ (m.modify (setVersions versions)) g.tick.tick :=
            hm.tick.tick.congr rfl rfl rfl rfl rfl
          refine (updateCluster_follows hversions).bind fun x g hx => ?_
          rcases x with ⟨_ | err, m⟩ <;> exact hx
    · exact hm.tick

lemma rebalanceQueuesIfAnnotated_follows (hm : Knows r g₀ m g) :
    Follows (protocol r) (rebalanceQueuesIfAnnotated m) (fun x g => Knows r g₀ x.2 g) g := by
  unfold rebalanceQueuesIfAnnotated
  split
  · refine ⟨trivial, fun reply _ => ?_⟩
    cases reply with
    | error e => exact hm.tick
    | ok _ => exact (deleteAnnotation_follows hm.tick _).bind fun x g hx => hx.annotated
  · exact hm

lemma runCommands_follows (hm : Knows r g₀ m g) (sts : StatefulSet) (cfg : DataObject) :
    Follows (protocol r) (runCommands m sts cfg) (fun x g => Knows r g₀ x.2 g) g := by
  refine (neutral_follows (sends_setPluginsIfAnnotated (fun _ => Passive.neutral) (fun _ => OnChild.neutral) m cfg)
    hm).bind fun err g hm => ?_
  cases err with
  | some err => exact hm
  | none =>
    refine (neutral_follows (sends_enableFeatureFlagsIfNeeded (fun _ => Passive.neutral)
      (fun _ => OnStatefulSet.neutral) m sts) hm).bind fun err g hm => ?_
    cases err with
    | some err => exact hm
    | none => exact rebalanceQueuesIfAnnotated_follows hm

lemma runRabbitmqCLICommandsIfAnnotated_follows (hm : Knows r g₀ m g) :
    Follows (protocol r) (runRabbitmqCLICommandsIfAnnotated m)
      (fun x g => match x with
        | .error _ => Knows r g₀ m g
        | .ok y => Knows r g₀ y.2.2 g) g := by
  refine ⟨trivial, fun reply _ => ?_⟩
  cases reply with
  | error e => exact hm.tick
  | ok sts =>
    change Follows _ (if _ then _ else _) _ _
    split
    · refine ⟨trivial, fun reply _ => ?_⟩
      rcases reply with (_ | _ | _ | message) | cfg
      · exact hm.tick.tick
      · exact hm.tick.tick
      · exact hm.tick.tick
      · exact hm.tick.tick
      · refine (neutral_follows (sends_pluginsConfigUpdatedRecently (fun _ => Passive.neutral) cfg)
          hm.tick.tick).bind fun recent g hm => ?_
        rcases recent with err | _ | _
        · exact hm
        · exact (runCommands_follows hm sts cfg).bind fun x g hx => hx
        · exact hm
    · exact hm.tick

lemma postDeploy_follows (hm : Knows r g₀ m g) :
    Follows (protocol r) (postDeploy m) (Either (Knows r g₀) (Knows r g₀)) g := by
  refine follows_orReturn ((neutral_follows
    (sends_restartStatefulSetIfNeeded (fun _ => Passive.neutral) (fun _ => OnStatefulSet.neutral)) hm).bind
      fun x g hx => requeueOrContinue_either hx) fun m g hm => ?_
  refine follows_orReturn ((reconcileStatus_follows hm).bind fun x g hx => orFail_either hx) fun m g hm => ?_
  refine (updateQuorumStatus_follows hm).bind fun m g hm => ?_
  refine follows_orReturn ((reconcileRabbitmqVersionAnnotation_follows hm).bind fun x g hx =>
    reportFailure_follows hx _) fun m g hm => ?_
  refine (runRabbitmqCLICommandsIfAnnotated_follows hm).bind fun x g hx => ?_
  cases x with
  | error panic => exact hx
  | ok y => exact reportFailure_follows hx _

end PostDeploy

section Reconcile

def Reported (m : Memory) (g : History) : Prop :=
  ∀ n, m.observed = some n → g.steady = true → ∀ k ∈ m.computed, k = n

lemma forall_unobserved {P : Prop} (hm : m.observed = none) : ∀ m' ∈ some m, m'.observed ≠ none → P := by
  intro m' hm' hobserved
  cases hm'
  exact absurd hm hobserved

lemma Knows.reported (hm : Knows r g₀ m g) : Reported m g := by
  intro n hn
  rw [hm.observed] at hn
  cases hn

lemma reportSuccess_follows (hm : Knows r g₀ m g) (reason msg : String) :
    Follows (protocol r) (setReconcileSuccess m .true reason msg) Reported g := by
  obtain ⟨v, hv, hs, hc⟩ := hm.stems
  have hsteady (hsteady : g.tick.steady = true) : ∀ k ∈ m.computed, k = m.cluster.generation := by
    obtain ⟨h₁, h₂⟩ := Bool.and_eq_true_iff.mp hsteady
    exact fun k hk => (hc h₁ h₂ k hk).trans hs.generation.symm
  refine ⟨trivial, fun reply _ => ?_⟩
  cases reply with
  | error e => exact fun n hn h => Option.some.inj hn ▸ hsteady h
  | ok c => exact fun n hn h => Option.some.inj hn ▸ hsteady h

lemma resourceBuilders_head (rmq : RabbitmqCluster) :
    (resourceBuilders r rmq).head? = some (.child .headlessService) := rfl

lemma reconcileCluster_follows (hm : Knows r g₀ m g) :
    Follows (protocol r) (reconcileCluster r m) (Either (Knows r g₀) Reported) g := by
  refine follows_orReturn (prepare_follows hm) fun m g hm => ?_
  refine follows_orReturn (startReconciling_follows hm) fun m g hm => ?_
  refine follows_orReturn (builderLoop_follows (Or.inl (resourceBuilders_head _)) hm) fun m g hm => ?_
  refine follows_orReturn (postDeploy_follows hm) fun m g hm => ?_
  exact (reportSuccess_follows hm _ _).bind fun m g hm => hm

lemma Neutral.record_received {q : Request} (h : Neutral q) (reply : Reply q) :
    (g.record q reply).received = g.received := by
  cases q with
  | getCluster => exact h.elim
  | createCluster c => exact h.elim
  | updateCluster c => exact h.elim
  | patchStatus base modified => exact h.elim
  | getChild k => cases k <;> rfl
  | _ => rfl

lemma removeFinalizer_follows {c : RabbitmqCluster} (hc : c.deletionTimestamp = true)
    (hg : g.received = [c]) :
    Follows (protocol r) (removeFinalizer c) (fun _ _ => True) g := by
  refine Follows.bind (Q := fun _ _ => True) ?_ fun x g _ => by rcases x with ⟨_ | _, _⟩ <;> exact trivial
  refine ⟨trivial, fun reply _ => ?_⟩
  rcases reply with (_ | _ | _ | message) | existing
  · have hgone : g.tick.miss.gone = true := by simp [History.miss, History.tick, hg, hc]
    exact ⟨⟨hgone, rfl⟩, fun reply _ => by cases reply <;> exact trivial⟩
  · exact trivial
  · exact trivial
  · exact trivial
  · change Follows _ (if _ then _ else _) _ _
    split
    · exact trivial
    · refine ⟨⟨existing, rfl, Stems.refl.of_eq rfl rfl rfl⟩, fun reply _ => ?_⟩
      cases reply <;> exact trivial

lemma prepareForDeletion_follows {c : RabbitmqCluster} (hc : c.deletionTimestamp = true)
    (hg : g.received = [c]) :
    Follows (protocol r) (prepareForDeletion c) (fun _ _ => True) g := by
  have hneutral {α : Type} {p : Operation α} (hp : p.Sends Neutral) {g : History} (hg : g.received = [c]) :
      Follows (protocol r) p (fun _ g => g.received = [c]) g :=
    Follows.of_sends hp (fun _ _ => Neutral.allowed)
      (fun _ _ reply hq hg => (hq.record_received reply).trans hg) hg
  have hattempt (u : Unit) : Program.Sends (I := api) Neutral
      (do return (← addRabbitmqDeletionLabel, u)) :=
    (sends_addRabbitmqDeletionLabel (fun _ => Passive.neutral) fun _ => trivial).bind fun _ => trivial
  unfold prepareForDeletion
  split
  · refine (hneutral (sends_onError hattempt _ _) hg).bind fun _ g hg => ?_
    refine ⟨trivial, fun start _ => ?_⟩
    refine (hneutral (sends_waitForLabel (fun _ => Passive.neutral) c start 15)
      (show g.tick.received = [c] from hg)).bind fun _ g hg => ?_
    exact removeFinalizer_follows hc hg
  · exact trivial

lemma getCluster_follows :
    Follows (protocol r) Client.getCluster
      (fun reply g => ∀ c, reply = .ok c → Knows r {} { cluster := c } g) {} := by
  refine ⟨trivial, fun reply _ c hc => ?_⟩
  subst hc
  exact ⟨⟨c, rfl, Stems.refl, fun _ _ => nofun⟩, fun h => absurd rfl h, rfl, ⟨List.nil_subset _, nofun⟩⟩

theorem reconcile_follows :
    Follows (protocol r) (reconcile r) (fun x g => ∀ m ∈ x.2, Reported m g) {} := by
  have hnone {g : History} : ∀ m ∈ (none : Option Memory), Reported m g := fun _ h => nomatch h
  refine ⟨trivial, fun reply hreply => ?_⟩
  rcases reply with (_ | _ | _ | message) | c
  · exact hnone
  · exact hnone
  · exact hnone
  · exact hnone
  · have hm : Knows r {} { cluster := c } (History.receive (History.tick {}) c) :=
      getCluster_follows.2 (.ok c) hreply c rfl
    have hreported {m : Memory} {g : History} (h : Reported m g) : ∀ m' ∈ some m, Reported m' g := by
      intro m' hm'
      cases hm'
      exact h
    change Follows _ (if _ then _ else _) _ _
    split
    · rename_i hdeleted
      refine (prepareForDeletion_follows hdeleted rfl).bind fun err g _ => ?_
      exact hreported fun n hn => nomatch hn
    · split
      · exact (patchStatus_follows hm _).bind fun x g hx => hreported hx.reported
      · refine (reconcileCluster_follows hm).bind fun x g hx => ?_
        cases x with
        | error y => exact hreported (Knows.reported hx)
        | ok m => exact hreported hx

end Reconcile

end ClusterOperator.Controller
