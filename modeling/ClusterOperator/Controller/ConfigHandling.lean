import ClusterOperator.Controller.ConfigLoop

namespace ClusterOperator.Controller

open Api Kubernetes Interaction Resource

variable {r : Reconciler} {x : Store × Ledger} {g₀ : History} {m : Memory}

lemma Onward.widen {C : Set Config} {x' : Store × Ledger} (h : Onward ∅ x x') : Onward C x x' :=
  ⟨h.sound, ⟨fun c _ => h.frame.child c (Set.notMem_empty c), h.frame.restart⟩,
    fun c _ => h.eased c (Set.notMem_empty c)⟩

section Restart

variable (h : Sound x)
include h

lemma Sound.restarted {t : Turn} {o : StatefulSet} {u : String}
    (hfair : Fair (server.event t (.updateStatefulSet o) x.1)) (hu : restartedAt o = some u)
    (hlater : ∀ o ∈ x.1.statefulSet, ∀ y ∈ restartedAt o, y < u) :
    Sound (advance r t (.updateStatefulSet o) x) ∧
      ∀ o', (server.event t (.updateStatefulSet o) x.1).reply = .ok o' →
        (advance r t (.updateStatefulSet o) x).2.2 .server ≠ .noted := by
  have hsettled {stored : StatefulSet} (hstored : (server.disturb t x.1).statefulSet = some stored)
      (hafter : (serve t (.updateStatefulSet o) (server.disturb t x.1)).2 = (server.disturb t x.1).putStatefulSet
        { o with metadata.deletionTimestamp := stored.metadata.deletionTimestamp, status := stored.status }) :
      debts r.ini x.2.2 (server.event t (.updateStatefulSet o) x.1) .server = .settled := by
    obtain ⟨o₀, ho₀, hr⟩ := (frame_disturb (C := ∅) t x.1).restart stored hstored
    refine debts_settled (congrArg (fun s => s.child .serverConf) hafter) ⟨stored, hstored, _,
      congrArg Store.statefulSet hafter, u, hu, fun y hy => hlater o₀ ho₀ y (hr ▸ hy)⟩
  constructor
  · rcases serve_written t (.updateStatefulSet o) (server.disturb t x.1) with hs | hw
    · refine (h.framed hfair (C := ∅) ?_ fun _ hc => hc.elim).sound
      rw [hs]
      exact .refl _
    · obtain ⟨stored, hstored, hafter⟩ : ∃ stored, (server.disturb t x.1).statefulSet = some stored ∧
          (serve t (.updateStatefulSet o) (server.disturb t x.1)).2 = (server.disturb t x.1).putStatefulSet
            { o with metadata.deletionTimestamp := stored.metadata.deletionTimestamp, status := stored.status } := by
        generalize (serve t (.updateStatefulSet o) (server.disturb t x.1)).2 = s' at hw
        cases hw with
        | statefulSetUpdated hstored _ => exact ⟨_, hstored, rfl⟩
      refine h.of_found hfair fun c hnoted => ?_
      cases c with
      | server => cases hnoted.symm.trans (hsettled hstored hafter)
      | plugins =>
        have hchild : (server.event t (.updateStatefulSet o) x.1).after.child .pluginsConf =
            (server.disturb t x.1).child .pluginsConf := congrArg (fun s => s.child .pluginsConf) hafter
        rcases debts_of_eq (c := .plugins) hchild with hd | hd
        · cases hnoted.symm.trans hd
        · refine (h.found .plugins (hd.symm.trans hnoted)).of_eq (hchild.trans ?_) fun _ hu => hu
          exact congrFun (disturb_child t x.1) _
  · intro o' ho' hnoted
    obtain ⟨stored, hstored, -, hafter⟩ := serve_updateStatefulSet_ok ho'
    cases hnoted.symm.trans (hsettled hstored hafter)

lemma careful_restart (u : Unit) :
    Careful r (restart u) (fun z x' => True ∧ (z.1 = none → x'.2.2 .server ≠ .noted)) x := by
  refine careful_getStatefulSet h (fun e x' _ => ⟨trivial, nofun⟩) fun sts x' honward _ => ?_
  refine careful_now honward.sound fun t x'' honward' _ hlater => ?_
  refine careful_send fun turn hfair => ?_
  obtain ⟨hsound, hok⟩ := honward'.sound.restarted (r := r) (u := t) hfair
    (by simp [restartedAt]) hlater
  refine ⟨hsound, ?_⟩
  revert hok
  generalize (server.event turn _ x''.1).reply = reply
  intro hok
  cases reply with
  | error e => exact ⟨trivial, nofun⟩
  | ok o => exact ⟨trivial, fun _ => hok o rfl⟩

lemma careful_restartStatefulSetIfNeeded :
    Careful r restartStatefulSetIfNeeded (fun z x' => z = (0, none) → x'.2.2 .server ≠ .noted) x := by
  refine careful_getChild h (fun e x' _ _ => nofun) fun conf x' honward hconf => ?_
  have hfound {x'' : Store × Ledger} (honward : Onward ∅ x' x'') (hnoted : x''.2.2 .server = .noted) :
      ∃ t ∈ conf.metadata.annotations.get? serverConfAnnotation, Config.server.Valid t x''.1 :=
    (honward.sound.found .server hnoted).of_stored
      ((honward.frame.child .server (Set.notMem_empty _)).trans hconf)
  dsimp only [Program.bind]
  split
  · rename_i hmarker
    intro _ hnoted
    obtain ⟨t, ht, -⟩ := hfound honward.sound.onward hnoted
    cases hmarker.symm.trans ht
  · rename_i updatedAt hmarker
    refine careful_getStatefulSet honward.sound (fun e x'' _ => nofun) fun sts x'' honward' hsts => ?_
    change Careful r (if _ then _ else _) _ _
    split
    · rename_i hrestarted
      intro _ hnoted
      obtain ⟨t, ht, hvalid⟩ := hfound honward' hnoted
      cases hmarker.symm.trans ht
      change (restartedAt sts).any (fun t => updatedAt < t) = true at hrestarted
      cases hr : restartedAt sts with
      | none =>
        rw [hr] at hrestarted
        cases hrestarted
      | some y =>
        rw [hr] at hrestarted
        exact hvalid sts hsts y hr (of_decide_eq_true hrestarted)
    · refine (careful_onError (K := fun _ _ => True) (L := fun x => x.2.2 .server ≠ .noted)
        (fun u x hx _ => careful_restart hx u) _ honward'.sound trivial).bind fun z x hz => ?_
      exact fun hresult => hz (congrArg Prod.snd hresult)

end Restart

section Commands

lemma hasPrefix_append (p s : String) : hasPrefix p (p ++ s) = true := by
  rw [hasPrefix, String.toList_append, List.isPrefixOf_iff_prefix]
  exact List.prefix_append ..

variable (h : Sound x)
include h

lemma careful_setPlugins {command : String} (hcommand : hasPrefix "rabbitmq-plugins set " command = true)
    (pods : List String) :
    Careful r (setPlugins pods command)
      (fun err x' => Onward ∅ x x' ∧ (err = none → pods ≠ [] → x'.2.2 .plugins = .settled)) x := by
  induction pods generalizing x with
  | nil => exact ⟨h.onward, fun _ hne => absurd rfl hne⟩
  | cons pod pods ih =>
    refine careful_send fun t hfair => ?_
    have hframe := Unrelated.frame (q := .exec pod command) (C := ∅) trivial t (server.disturb t x.1)
    have honward := h.framed (r := r) hfair hframe fun _ hc => hc.elim
    refine ⟨honward.sound, ?_⟩
    cases hreply : (server.event t (.exec pod command) x.1).reply with
    | error e => exact ⟨honward, nofun⟩
    | ok output =>
      have hsettled : (advance r t (.exec pod command) x).2.2 .plugins = .settled := by
        refine debts_settled (hframe.child .plugins (Set.notMem_empty _)) ?_
        change setsPlugins (.exec pod command) (server.event t (.exec pod command) x.1).reply = true
        rw [hreply]
        exact hcommand
      refine (ih honward.sound).post fun err x' hx' => ⟨honward.trans hx'.1, fun _ _ => ?_⟩
      exact hx'.1.eased.settled (Set.notMem_empty _) hsettled

lemma careful_setPluginsIfAnnotated {cfg : DataObject} (hcluster : Usable m.cluster)
    (hcfg : x.1.child .pluginsConf = some cfg) :
    Careful r (setPluginsIfAnnotated m cfg)
      (fun err x' => Onward {.plugins} x x' ∧ (err = none → x'.2.2 .plugins ≠ .noted)) x := by
  unfold setPluginsIfAnnotated
  split
  · refine (careful_setPlugins h (hasPrefix_append _ _) (serverPods m.cluster)).bind fun err x' hx' => ?_
    cases err with
    | some err => exact ⟨hx'.1.widen, nofun⟩
    | none =>
      have hpods : serverPods m.cluster ≠ [] := by
        intro hnil
        rw [serverPods, List.map_eq_nil_iff, List.range_eq_nil] at hnil
        exact hcluster.replicas (Fin.ext hnil)
      have hsettled := hx'.2 rfl hpods
      refine Meets.bind (Q := fun _ x'' => Onward {.plugins} x x'' ∧ x''.2.2 .plugins ≠ .noted) ?_
        fun z x'' hx'' => ?_
      · unfold deleteAnnotation
        split
        · refine ⟨hx'.1.widen, ?_⟩
          rw [hsettled]
          exact nofun
        · refine careful_writeChild hx'.1.sound (c := .plugins) (Or.inr rfl) (fun _ _ _ hdebt => ?_)
            fun reply x'' honward hne => ?_
          · rcases hdebt with hd | ⟨hd, -⟩ <;> cases hsettled.symm.trans hd
          · cases reply <;> exact ⟨hx'.1.widen.trans honward, hne hsettled⟩
      · exact ⟨hx''.1, fun _ => hx''.2⟩
  · rename_i hmarker
    refine ⟨h.onward, fun _ hnoted => hmarker ?_⟩
    obtain ⟨t, ht, hvalid⟩ := (h.found .plugins hnoted).of_stored hcfg
    change t ∈ cfg.metadata.annotations.get? pluginsUpdateAnnotation at ht
    rw [ht]
    exact hvalid

lemma careful_enableFeatureFlagsIfNeeded {sts : StatefulSet} (hsts : Holds sts x.1) :
    Careful r (enableFeatureFlagsIfNeeded m sts) (fun _ x' => Onward ∅ x x') x := by
  unfold enableFeatureFlagsIfNeeded
  split
  · refine careful_read h (P := fun _ _ => True) trivial (fun _ _ => trivial) fun reply x' honward _ => ?_
    cases reply with
    | error e => exact honward
    | ok output =>
      change Careful r (p := deleteAnnotation Client.statefulSets stsCreateAnnotation sts >>= fun z => pure z.1) _ _
      refine Meets.bind (Q := fun _ x'' => Onward ∅ x x'') ?_ fun _ _ hx'' => hx''
      unfold deleteAnnotation
      split
      · exact honward
      · refine careful_updateStatefulSet honward.sound (hsts.same honward.frame.restart) rfl
          fun reply x'' honward' => ?_
        cases reply <;> exact honward.trans honward'
  · exact h.onward

lemma careful_runCommands {sts : StatefulSet} {cfg : DataObject} (hcluster : Usable m.cluster)
    (hcfg : x.1.child .pluginsConf = some cfg) (hsts : Holds sts x.1) (hserver : x.2.2 .server ≠ .noted) :
    Careful r (runCommands m sts cfg) (fun z x' => z.1 = none → ∀ c, x'.2.2 c ≠ .noted) x := by
  refine (careful_setPluginsIfAnnotated h hcluster hcfg).bind fun err x' hx' => ?_
  cases err with
  | some err => exact nofun
  | none =>
    have hnone : ∀ c, x'.2.2 c ≠ .noted := by
      intro c
      cases c with
      | plugins => exact hx'.2 rfl
      | server => exact hx'.1.eased.ne_noted (by simp) hserver
    refine (careful_enableFeatureFlagsIfNeeded hx'.1.sound (hsts.same hx'.1.frame.restart)).bind
      fun err y hy => ?_
    cases err with
    | some err => exact nofun
    | none =>
      refine (careful_of_sends hy.sound (sends_rebalanceQueuesIfAnnotated (fun _ => Passive.unrelated)
        (fun _ => OnCluster.unrelated) m)).post fun z y' hy' _ c => ?_
      exact (hy.trans hy').eased.ne_noted (Set.notMem_empty _) (hnone c)

lemma careful_runRabbitmqCLICommandsIfAnnotated (hcluster : Usable m.cluster) (hserver : x.2.2 .server ≠ .noted) :
    Careful r (runRabbitmqCLICommandsIfAnnotated m)
      (fun z x' => ∀ m', z = .ok (0, none, m') → ∀ c, x'.2.2 c ≠ .noted) x := by
  have hreturn (z : Except Err (ℕ × Option Err × Memory)) {y : Store × Ledger} (hz : ∀ m', z ≠ .ok (0, none, m')) :
      Careful r (pure z) (fun z x' => ∀ m', z = .ok (0, none, m') → ∀ c, x'.2.2 c ≠ .noted) y :=
    fun m' hm' => absurd hm' (hz m')
  refine careful_getStatefulSet h (fun e x' _ => hreturn (.ok (0, some (.api e), m)) (by simp))
    fun sts x' honward hsts => ?_
  change Careful r (if _ then _ else _) _ _
  split
  · refine careful_getChild honward.sound (fun e x'' _ _ => ?_) fun cfg x'' honward' hcfg => ?_
    · cases e with
      | notFound => exact hreturn (.error nilPointer) (by simp)
      | _ => exact hreturn (.ok (0, some (.api _), m)) (by simp)
    · refine (careful_of_sends honward'.sound (sends_pluginsConfigUpdatedRecently (fun _ => Passive.unrelated)
        cfg)).bind fun recent y hy => ?_
      rcases recent with err | _ | _
      · exact hreturn (.ok (0, some err, m)) (by simp)
      · have hholds : Holds sts x'.1 := holds_of_stored hsts
        have hserver' := ((honward.trans honward').trans hy).eased.ne_noted (Set.notMem_empty _) hserver
        refine (careful_runCommands hy.sound hcluster ((hy.frame.child .plugins (Set.notMem_empty _)).trans hcfg)
          (hholds.same (honward'.trans hy).frame.restart) hserver').bind fun z y hz => ?_
        rcases z with ⟨err, m₁⟩
        intro m' hm'
        cases hm'
        exact hz rfl
      · exact hreturn (.ok (2, none, m)) (by simp)
  · exact hreturn (.ok (15, none, m)) (by simp)

end Commands

end ClusterOperator.Controller
