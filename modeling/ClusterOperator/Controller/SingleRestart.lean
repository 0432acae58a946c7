import ClusterOperator.Controller.ConfigHistory
import ClusterOperator.Controller.RestartDue

namespace ClusterOperator.Controller

open Api Kubernetes Interaction Resource

variable {r : Reconciler} {x : Store × Watch} {g₀ : History} {m : Memory} {α : Type}

section Restart

lemma prudent_now {next : String → Operation α} {Q : α → Store × Watch → Prop}
    (hnext : ∀ t x', Frame ∅ x.1 x'.1 → x'.2.2 = some t → Prudent r (next t) Q x') :
    Prudent r (.send .now next) Q x := by
  intro t _
  have hq : Unrelated ∅ .now := trivial
  have hframe := hq.frame t (server.disturb t x.1)
  exact ⟨fun h => absurd h (not_restarted hframe.restart),
    hnext _ _ ((frame_disturb t x.1).trans hframe) rfl⟩

lemma prudent_writeDue {o : StatefulSet} {now : String} {next : Reply (.updateStatefulSet o) → Operation α}
    {Q : α → Store × Watch → Prop} (hdue : Config.server.Found x.1) (hnow : x.2.2 = some now)
    (ho : restartedAt o = some now)
    (hnext : ∀ reply x', (reply = .error .conflict → Config.server.Found x'.1) → Prudent r (next reply) Q x') :
    Prudent r (.send (.updateStatefulSet o) next) Q x := by
  intro t _
  have hbefore : Config.server.Found (server.disturb t x.1) :=
    hdue.frame (frame_disturb (C := ∅) t x.1) (Set.notMem_empty _)
  refine ⟨fun hrestarted => ⟨hbefore, now, hnow, ?_⟩,
    hnext _ _ fun (hconflict : (serve t _ (server.disturb t x.1)).1 = _) => ?_⟩
  · rcases serve_written t (.updateStatefulSet o) (server.disturb t x.1) with hs | hw
    · have hsame : SameRestart (server.disturb t x.1) (serve t (.updateStatefulSet o) (server.disturb t x.1)).2 := by
        rw [hs]
        exact .refl _
      exact absurd hrestarted (not_restarted hsame)
    · change ∀ o' ∈ (serve t (.updateStatefulSet o) (server.disturb t x.1)).2.statefulSet, _
      generalize (serve t (.updateStatefulSet o) (server.disturb t x.1)).2 = s' at hw
      cases hw with
      | statefulSetUpdated _ _ =>
        rintro o' ho'
        cases ho'
        exact ho
  · change Config.server.Found (serve t (.updateStatefulSet o) (server.disturb t x.1)).2
    rwa [serve_conflict (q := .updateStatefulSet o) (congrArg some hconflict.symm)]

lemma prudent_restart (hdue : Config.server.Found x.1) (u : Unit) :
    Prudent r (restart u) (fun z x' => ∀ err, z.1 = some err → err.isConflict = true → Config.server.Found x'.1)
      x := by
  refine prudent_getStatefulSet (fun e x' hframe _ _ _ => hdue.frame hframe (Set.notMem_empty _))
    fun sts x' hframe _ => ?_
  refine prudent_now fun now x'' hframe' hnow => ?_
  refine prudent_writeDue (hdue.frame (hframe.trans hframe') (Set.notMem_empty _)) hnow
    (by simp [restartedAt]) fun reply x' hreply => ?_
  cases reply with
  | error e =>
    intro err herr hconflict
    cases herr
    exact hreply (congrArg Except.error (of_decide_eq_true hconflict))
  | ok o =>
    intro err herr
    cases herr

lemma prudent_restartStatefulSetIfNeeded : Prudent r restartStatefulSetIfNeeded (fun _ _ => True) x := by
  refine prudent_read (P := fun reply s => ∀ o, reply = .ok o → s.child .serverConf = some o) trivial
    (fun t o ho => event_getChild ho) fun reply x' _ hreply => ?_
  cases reply with
  | error e => exact trivial
  | ok conf =>
    have hconf := hreply conf rfl
    dsimp only [Program.bind]
    split
    · exact trivial
    · rename_i updatedAt hmarker
      refine prudent_getStatefulSet (fun e x'' _ => trivial) fun sts x'' hframe hsts => ?_
      change Prudent r (if _ then _ else _) _ _
      split
      · exact trivial
      · rename_i hrestarted
        have hdue : Config.server.Found x''.1 := by
          refine ⟨conf, (hframe.child .server (Set.notMem_empty _)).trans hconf, updatedAt, hmarker, ?_⟩
          intro o ho y hy hlt
          cases hsts.symm.trans ho
          refine hrestarted ?_
          change (restartedAt sts).any (fun t => updatedAt < t) = true
          rw [Option.mem_def.mp hy]
          exact decide_eq_true hlt
        refine (meets_onError (K := fun _ x => Config.server.Found x.1) (L := fun _ _ => True)
          (fun u x hx => (prudent_restart hx u).post fun z x hz => ?_) _ hdue).bind fun _ _ _ => trivial
        rcases z with ⟨_ | err, _⟩
        · exact trivial
        · exact hz err rfl

end Restart

section Commands

variable {sts : StatefulSet}

lemma prudent_enableFeatureFlagsIfNeeded (hsts : Holds sts x.1) :
    Prudent r (enableFeatureFlagsIfNeeded m sts) (fun _ _ => True) x := by
  unfold enableFeatureFlagsIfNeeded
  split
  · refine prudent_read (P := fun _ _ => True) trivial (fun _ => trivial) fun reply x' hframe _ => ?_
    cases reply with
    | error e => exact trivial
    | ok output =>
      change Prudent r (p := deleteAnnotation Client.statefulSets stsCreateAnnotation sts >>= fun z => pure z.1) _ _
      refine Meets.bind (Q := fun _ _ => True) ?_ fun _ _ _ => trivial
      unfold deleteAnnotation
      split
      · exact trivial
      · refine prudent_updateStatefulSet (hsts.same hframe.restart) rfl fun reply x'' => ?_
        cases reply <;> exact trivial
  · exact trivial

lemma prudent_runCommands (cfg : DataObject) (hsts : Holds sts x.1) :
    Prudent r (runCommands m sts cfg) (fun _ _ => True) x := by
  refine (prudent_frame (sends_setPluginsIfAnnotated (fun _ => Passive.unrelated) (fun _ => OnChild.unrelated
    fun c hc => absurd (Set.mem_univ c) hc) m cfg)).bind fun err x' hframe => ?_
  cases err with
  | some err => exact trivial
  | none =>
    refine (prudent_enableFeatureFlagsIfNeeded (hsts.same hframe.restart)).bind fun err x'' _ => ?_
    cases err with
    | some err => exact trivial
    | none => exact prudent_of_sends (sends_rebalanceQueuesIfAnnotated (fun _ => Passive.unrelated)
        (fun _ => OnCluster.unrelated) m)

lemma prudent_runRabbitmqCLICommandsIfAnnotated :
    Prudent r (runRabbitmqCLICommandsIfAnnotated m) (fun _ _ => True) x := by
  refine prudent_getStatefulSet (fun e x' _ => trivial) fun sts x' _ hsts => ?_
  change Prudent r (if _ then _ else _) _ _
  split
  · refine prudent_read (P := fun _ _ => True) trivial (fun _ => trivial) fun reply x'' hframe _ => ?_
    rcases reply with (_ | _ | _ | message) | cfg
    · exact trivial
    · exact trivial
    · exact trivial
    · exact trivial
    · refine (prudent_frame (sends_pluginsConfigUpdatedRecently (fun _ => Passive.unrelated) cfg)).bind
        fun recent y hframe' => ?_
      rcases recent with err | _ | _
      · exact trivial
      · have hholds := ((holds_of_stored hsts).same hframe.restart).same hframe'.restart
        exact (prudent_runCommands cfg hholds).bind fun _ _ _ => trivial
      · exact trivial
  · exact trivial

end Commands

section Reconcile

lemma prudent_postDeploy : Prudent r (postDeploy m) (fun _ _ => True) x := by
  have hcluster {q : Request} : OnCluster q → Unrelated Set.univ q := OnCluster.unrelated
  have hpassive {q : Request} : Passive q → Unrelated Set.univ q := Passive.unrelated
  refine prudent_orReturn (prudent_restartStatefulSetIfNeeded.bind fun _ _ _ => trivial) fun m x => ?_
  refine prudent_orReturn (prudent_of_sends ((sends_reconcileStatus (fun _ => hcluster) m).bind fun _ => trivial))
    fun m x => ?_
  refine (prudent_of_sends (sends_updateQuorumStatus (fun _ => hpassive) (fun _ => hcluster) m)).bind
    fun m x _ => ?_
  refine prudent_orReturn (prudent_of_sends ((reconcileRabbitmqVersionAnnotation_sends (fun _ => hpassive)
    (fun _ => hcluster) m).bind fun _ => sends_reportFailure (fun _ _ _ => trivial) _ _)) fun m x => ?_
  refine prudent_runRabbitmqCLICommandsIfAnnotated.bind fun z x _ => ?_
  cases z with
  | error panic => exact trivial
  | ok z => exact prudent_of_sends (sends_reportFailure (fun _ _ _ => trivial) _ _)

lemma prudent_reconcileCluster (hx : Received x.2.1) (hm : Knows r g₀ m x.2.1) :
    Prudent r (reconcileCluster r m) (fun _ _ => True) x := by
  refine prudent_stage hx (prudent_of_sends (sends_prepare (fun _ => Passive.unrelated)
    (fun _ => OnCluster.unrelated) r m)) (prepare_follows hm) fun m x hx hm => ?_
  refine prudent_stage hx (prudent_of_sends (unrelated_startReconciling m)) (startReconciling_follows hm)
    fun m x hx hm => ?_
  refine prudent_stage hx (prudent_builderLoop hx (Or.inl (resourceBuilders_head _)) hm)
    (builderLoop_follows (Or.inl (resourceBuilders_head _)) hm) fun m x hx hm => ?_
  refine prudent_orReturn prudent_postDeploy fun m x => ?_
  exact (prudent_of_sends (sends_setReconcileSuccess (fun _ _ _ => trivial) _ _ _ _)).bind fun _ _ _ => trivial

theorem prudent_reconcile (s : Store) (last : Option String) :
    Prudent r (reconcile r) (fun _ _ => True) (s, {}, last) := by
  refine prudent_bind (Q := fun reply x => ∀ c, reply = .ok c → Knows r {} { cluster := c } x.2.1)
    (fun v hv => absurd hv List.not_mem_nil) ?_ fun reply x hx hreply => ?_
  · exact (prudent_follows (prudent_of_sends (p := Client.getCluster) ⟨trivial, fun _ => trivial⟩)
      getCluster_follows).post fun _ _ h => h.2
  rcases reply with (_ | _ | _ | message) | c
  · exact trivial
  · exact trivial
  · exact trivial
  · exact trivial
  · have hm := hreply c rfl
    dsimp only
    split
    · exact (prudent_of_sends (sends_prepareForDeletion (fun _ => Passive.unrelated) (fun _ => trivial)
        (fun _ => OnCluster.unrelated) c)).bind fun _ _ _ => trivial
    · split
      · exact (prudent_of_sends (sends_patchStatus (fun _ _ _ => trivial) _ rfl)).bind fun _ _ _ => trivial
      · refine (prudent_reconcileCluster hx hm).bind fun z x' _ => ?_
        cases z <;> exact trivial

end Reconcile

section Rounds

instance : DecidablePred Restarted := fun e =>
  inferInstanceAs (Decidable
    (∃ o ∈ e.before.statefulSet, ∃ o' ∈ e.after.statefulSet, restartedAt o' ≠ restartedAt o))

instance : DecidablePred LeftAlone := fun e =>
  inferInstanceAs (Decidable (∀ rmq ∈ replyCluster e.request e.reply, Untouched rmq))

def stampedAt (s : Store) : Option String :=
  (s.child .serverConf).bind fun o => o.metadata.annotations.get? serverConfAnnotation

def RestartedAfter (stamp : String) (s : Store) : Prop := ∀ o ∈ s.statefulSet, ∃ t ∈ restartedAt o, stamp < t

instance (stamp : String) (s : Store) : Decidable (RestartedAfter stamp s) :=
  inferInstanceAs (Decidable (∀ o ∈ s.statefulSet, ∃ t ∈ restartedAt o, stamp < t))

variable {stamp : String} {s s' : Store}

lemma RestartedAfter.same (h : RestartedAfter stamp s) (hs : SameRestart s s') : RestartedAfter stamp s' := by
  intro o' ho'
  obtain ⟨o, ho, hr⟩ := hs o' ho'
  rw [hr]
  exact h o ho

lemma not_restartedAfter (hdue : Config.server.Found s) (hstamp : stampedAt s = some stamp)
    (hpresent : s.statefulSet ≠ none) : ¬ RestartedAfter stamp s := by
  intro hafter
  obtain ⟨o, ho, t, ht, hvalid⟩ := hdue
  have hmarker : stampedAt s = some t := Option.bind_eq_some_iff.mpr ⟨o, ho, ht⟩
  cases hstamp.symm.trans hmarker
  obtain ⟨sts, hsts⟩ := Option.ne_none_iff_exists'.mp hpresent
  obtain ⟨u, hu, hlt⟩ := hafter sts hsts
  exact hvalid sts hsts u hu hlt

lemma RestartedAfter.next {e : Event api Store} (h : RestartedAfter stamp e.before) (hnot : ¬ Restarted e)
    (hpresent : e.before.statefulSet ≠ none) : RestartedAfter stamp e.after := by
  refine h.same fun o' ho' => ?_
  obtain ⟨o, ho⟩ := Option.ne_none_iff_exists'.mp hpresent
  exact ⟨o, ho, by_contra fun hne => hnot ⟨o, ho, o', ho', hne⟩⟩

lemma reconciles_onlyIfDue {tss : List (List Turn)}
    (hleft : ∀ e ∈ (rounds server (reconcile r) tss s).flatMap Outcome.trace, LeftAlone e) (last : Option String) :
    clock.Along OnlyIfDue last ((rounds server (reconcile r) tss s).flatMap Outcome.trace) :=
  along_rounds (fun ts s last hleft =>
    (prudent_reconcile s last).along_track (f := Prod.snd) (fun _ _ => rfl) ts hleft) tss s last hleft

/-- As long as the stamp stays and the StatefulSet is there, it is restarted at most once, if the
time that was read last before a restart is later than the stamp. -/
theorem stamp_restarts_once (r : Reconciler) (tss : List (List Turn)) (s : Store) (stamp : String)
    {earlier later : List (Event api Store)}
    (htrace : (rounds server (reconcile r) tss s).flatMap Outcome.trace = earlier ++ later)
    (hstamp : ∀ e ∈ later, stampedAt e.before = some stamp)
    (hpresent : ∀ e ∈ later, e.before.statefulSet ≠ none)
    (hleft : ∀ e ∈ earlier ++ later, LeftAlone e)
    (hlater : clock.Along (fun last e => Restarted e → ∀ t ∈ last, stamp < t)
      (earlier.foldl clock.observe none) later) :
    later.countP Restarted ≤ 1 := by
  have hdue := reconciles_onlyIfDue (htrace.symm ▸ hleft) none
  rw [htrace, Protocol.along_append] at hdue
  have hrestart : ∀ e ∈ later, Restarted e → Config.server.Found e.before ∧ RestartedAfter stamp e.after := by
    refine Protocol.along_const.mp (hdue.2.combine (fun last e hdue hlater hrestarted => ?_) hlater)
    obtain ⟨hfound, t, ht, hwritten⟩ := hdue hrestarted
    exact ⟨hfound, fun o ho => ⟨t, hwritten o ho, hlater hrestarted t ht⟩⟩
  have hnot : ∀ e ∈ later, Restarted e → ¬ RestartedAfter stamp e.before := fun e he hrestarted =>
    not_restartedAfter (hrestart e he hrestarted).1 (hstamp e he) (hpresent e he)
  obtain ⟨s', hcontinues⟩ := (htrace ▸ continues_rounds server (reconcile r) tss s).of_append
  refine hcontinues.countP_le_one
    (fun t s (h : RestartedAfter stamp s) => h.same (frame_disturb (C := ∅) t s).restart) hnot
    (fun e he hrestarted => (hrestart e he hrestarted).2) fun e he h => ?_
  exact h.next (fun hrestarted => hnot e he hrestarted h) (hpresent e he)

def fiveSecondsLater : Turn := { noon with now := "2024-05-01T12:00:05Z" }

/-- The operator stops after the stamp and the Reconciles that follow are later. -/
def laterSecond : List (List Turn) := [List.replicate 28 fiveSecondsLater, List.replicate 24 fiveSecondsLater]

theorem later_second_restarts_once :
    let stamped := run server (reconcile asciiReconciler) (List.replicate 40 noon) reconfiguredStore
    let later := (rounds server (reconcile asciiReconciler) laterSecond stamped.final).flatMap Outcome.trace
    (∃ e ∈ later, Restarted e) ∧ later.countP Restarted ≤ 1 := by
  intro stamped later
  obtain ⟨hrestarted, hstamp, hpresent, hleft, hlater⟩ : (∃ e ∈ later, Restarted e) ∧
      (∀ e ∈ later, stampedAt e.before = some noon.now) ∧ (∀ e ∈ later, e.before.statefulSet ≠ none) ∧
      (∀ e ∈ stamped.trace ++ later, LeftAlone e) ∧
      clock.Along (fun last e => Restarted e → ∀ t ∈ last, noon.now < t)
        (stamped.trace.foldl clock.observe none) later := by
    decide +kernel
  exact ⟨hrestarted, stamp_restarts_once asciiReconciler (List.replicate 40 noon :: laterSecond) reconfiguredStore
    noon.now rfl hstamp hpresent hleft hlater⟩

/-- The first of them is still in the second of the stamp. -/
def sameSecond : List (List Turn) := [List.replicate 28 noon, List.replicate 27 fiveSecondsLater]

theorem same_second_restarts_twice :
    let stamped := run server (reconcile asciiReconciler) (List.replicate 40 noon) reconfiguredStore
    let later := (rounds server (reconcile asciiReconciler) sameSecond stamped.final).flatMap Outcome.trace
    (rounds server (reconcile asciiReconciler) (List.replicate 40 noon :: sameSecond) reconfiguredStore).flatMap
        Outcome.trace = stamped.trace ++ later ∧
      ((stamped.trace ++ later).filterMap fun e => reading e.request e.reply).Pairwise (· ≤ ·) ∧
      stamped.trace.countP (fun e => stampedAt e.after ≠ stampedAt e.before) = 1 ∧
      (∀ e ∈ later, stampedAt e.before = some noon.now) ∧ (∀ e ∈ later, e.before.statefulSet ≠ none) ∧
      (∀ e ∈ stamped.trace ++ later, LeftAlone e) ∧ later.countP Restarted = 2 := by
  intro stamped later
  refine ⟨rfl, ?_⟩
  decide +kernel

end Rounds

end ClusterOperator.Controller
