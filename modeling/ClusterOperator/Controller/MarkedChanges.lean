import ClusterOperator.Controller.ConfigMarks

namespace ClusterOperator.Controller

open Api Kubernetes Interaction Resource

variable {r : Reconciler} {c : Config} {α β : Type} {x : Store × ℕ}

section Loop

lemma marking_builderTurn (m : Memory) (builder : Builder) (hx : x.2 = 0) :
    Marking r c (builderTurn r m builder) (fun _ x' => x'.2 = 0) x := by
  cases builder with
  | child k =>
    by_cases hk : c.kind = k
    · subst hk
      exact marking_configTurn m hx
    · exact marking_elsewhere (sends_childTurn (fun _ => Passive.elsewhere) (fun _ => OnChild.elsewhere hk)
        (fun _ => OnCluster.elsewhere) r m) hx
  | statefulSet =>
    exact marking_elsewhere (sends_statefulSetTurn (fun _ => Passive.elsewhere) (fun _ => OnStatefulSet.elsewhere)
      (fun _ => OnCluster.elsewhere) (fun _ => trivial) r m) hx

lemma marking_orReturn {p : Operation (Except (Result × Memory) α)}
    {f : α → Operation (Except (Result × Memory) β)} (hp : Marking r c p (fun _ x' => x'.2 = 0) x)
    (hf : ∀ a x, x.2 = 0 → Marking r c (f a) (fun _ x' => x'.2 = 0) x) :
    Marking r c (orReturn p f) (fun _ x' => x'.2 = 0) x := by
  refine hp.bind fun y x hy => ?_
  cases y with
  | error z => exact hy
  | ok a => exact hf a x hy

lemma marking_builderLoop (m : Memory) (builders : List Builder) (hx : x.2 = 0) :
    Marking r c (builderLoop r m builders) (fun _ x' => x'.2 = 0) x := by
  induction builders generalizing m x with
  | nil => exact hx
  | cons builder builders ih => exact marking_orReturn (marking_builderTurn m builder hx) fun m x hx => ih m hx

end Loop

section Commands

lemma marking_fetch {k : Kind} (hx : x.2 = 0) :
    Marking r c (Client.getChild k)
      (fun reply x' => Rested c.kind x x' ∧ ∀ o, reply = .ok o → x'.1.child k = some o) x := by
  have hq : Elsewhere c.kind (.getChild k) := trivial
  refine marking_send fun t _ => ⟨fun hone => by omega, ?_⟩
  have hcount := countdown_of_eq (r := r) (hq.child t (server.disturb t x.1))
  exact ⟨⟨hcount.trans (by rw [hx]), hq.rests t x.1⟩, fun o ho => event_getChild ho⟩

lemma marking_setPluginsIfAnnotated {cfg : DataObject} (m : Memory) (hx : x.2 = 0)
    (hcfg : x.1.child .pluginsConf = some cfg) :
    Marking r .plugins (setPluginsIfAnnotated m cfg) (fun _ x' => x'.2 = 0) x := by
  unfold setPluginsIfAnnotated
  split
  · refine (marking_of_sends (sends_setPlugins (fun _ => Passive.elsewhere) _ _) hx).bind fun err x' hx' => ?_
    cases err with
    | some err => exact hx'.none
    | none =>
      refine Meets.bind (Q := fun _ (x'' : Store × ℕ) => x''.2 = 0) ?_ fun ⟨_, _⟩ _ h => h
      unfold deleteAnnotation
      split
      · exact hx'.none
      · refine marking_writeBack (c := .plugins) (hx'.child.trans hcfg) rfl (Or.inl hx'.none)
          fun reply x'' hzero => ?_
        cases reply <;> exact hzero
  · exact hx

lemma marking_runCommands {cfg : DataObject} (m : Memory) (sts : StatefulSet) (hx : x.2 = 0)
    (hcfg : x.1.child .pluginsConf = some cfg) :
    Marking r .plugins (runCommands m sts cfg) (fun _ x' => x'.2 = 0) x := by
  refine (marking_setPluginsIfAnnotated m hx hcfg).bind fun err x hx => ?_
  cases err with
  | some err => exact hx
  | none =>
    refine (marking_elsewhere (sends_enableFeatureFlagsIfNeeded (fun _ => Passive.elsewhere)
      (fun _ => OnStatefulSet.elsewhere) m sts) hx).bind fun err x hx => ?_
    cases err with
    | some err => exact hx
    | none =>
      exact marking_elsewhere (sends_rebalanceQueuesIfAnnotated (fun _ => Passive.elsewhere)
        (fun _ => OnCluster.elsewhere) m) hx

lemma marking_runRabbitmqCLICommandsIfAnnotated (m : Memory) (hx : x.2 = 0) :
    Marking r .plugins (runRabbitmqCLICommandsIfAnnotated m) (fun _ x' => x'.2 = 0) x := by
  refine Meets.bind (marking_elsewhere (p := Client.getStatefulSet) ⟨trivial, fun _ => trivial⟩ hx)
    fun reply x hx => ?_
  cases reply with
  | error e => exact hx
  | ok sts =>
    change Marking r _ (if _ then _ else _) _ _
    split
    · refine (marking_fetch hx).bind fun reply x hx => ?_
      rcases reply with (_ | _ | _ | message) | cfg
      · exact hx.1.none
      · exact hx.1.none
      · exact hx.1.none
      · exact hx.1.none
      · refine (marking_of_sends (sends_pluginsConfigUpdatedRecently (fun _ => Passive.elsewhere) cfg)
          hx.1.none).bind fun recent x' hx' => ?_
        rcases recent with err | _ | _
        · exact hx'.none
        · exact (marking_runCommands m sts hx'.none (hx'.child.trans (hx.2 cfg rfl))).bind fun ⟨_, _⟩ _ h => h
        · exact hx'.none
    · exact hx

lemma marking_postDeploy (m : Memory) (hx : x.2 = 0) :
    Marking r c (postDeploy m) (fun _ x' => x'.2 = 0) x := by
  cases c with
  | server =>
    exact marking_elsewhere (sends_postDeploy (fun _ => Passive.elsewhere) (fun _ => OnCluster.elsewhere)
      (fun _ => OnStatefulSet.elsewhere) (fun _ => OnChild.elsewhere (by decide)) m) hx
  | plugins =>
    have hsends {α : Type} {p : Operation α} {x : Store × ℕ} (hp : p.Sends (Elsewhere .pluginsConf)) (hx : x.2 = 0) :
        Marking r .plugins p (fun _ x' => x'.2 = 0) x := marking_elsewhere (c := .plugins) hp hx
    have hcluster {q : Request} : OnCluster q → Elsewhere .pluginsConf q := OnCluster.elsewhere
    have hpassive {q : Request} : Passive q → Elsewhere .pluginsConf q := Passive.elsewhere
    refine marking_orReturn (hsends ((sends_restartStatefulSetIfNeeded (fun _ => hpassive)
      (fun _ => OnStatefulSet.elsewhere)).bind fun _ => trivial) hx) fun m x hx => ?_
    refine marking_orReturn (hsends ((sends_reconcileStatus (fun _ => hcluster) m).bind fun _ => trivial) hx)
      fun m x hx => ?_
    refine (hsends (sends_updateQuorumStatus (fun _ => hpassive) (fun _ => hcluster) m) hx).bind fun m x hx => ?_
    have hversion := reconcileRabbitmqVersionAnnotation_sends (fun _ => hpassive) (fun _ => hcluster) m
    refine marking_orReturn (hsends (hversion.bind fun x => sends_reportFailure (fun _ _ _ => trivial) _ x) hx)
      fun m x hx => ?_
    refine (marking_runRabbitmqCLICommandsIfAnnotated m hx).bind fun y x hx => ?_
    cases y with
    | error panic => exact hx
    | ok y => exact hsends (sends_reportFailure (fun _ _ _ => trivial) _ y) hx

end Commands

section Reconcile

lemma marking_reconcileCluster (m : Memory) (hx : x.2 = 0) :
    Marking r c (reconcileCluster r m) (fun _ x' => x'.2 = 0) x := by
  refine marking_orReturn (marking_elsewhere (sends_prepare (fun _ => Passive.elsewhere)
    (fun _ => OnCluster.elsewhere) r m) hx) fun m x hx => ?_
  refine marking_orReturn (marking_elsewhere (Program.Sends.mono (unrelated_startReconciling m)
    fun _ => Unrelated.elsewhere) hx) fun m x hx => ?_
  refine marking_orReturn (marking_builderLoop m _ hx) fun m x hx => ?_
  refine marking_orReturn (marking_postDeploy m hx) fun m x hx => ?_
  exact (marking_elsewhere (sends_setReconcileSuccess (fun _ _ _ => trivial) _ _ _ _) hx).bind fun _ _ h => h

theorem marking_reconcile (hx : x.2 = 0) : Marking r c (reconcile r) (fun _ x' => x'.2 = 0) x := by
  refine Meets.bind (marking_elsewhere (p := Client.getCluster) ⟨trivial, fun _ => trivial⟩ hx) fun reply x hx => ?_
  rcases reply with (_ | _ | _ | message) | rmq
  · exact hx
  · exact hx
  · exact hx
  · exact hx
  · dsimp only
    split
    · exact (marking_elsewhere (sends_prepareForDeletion (fun _ => Passive.elsewhere) (fun _ => trivial)
        (fun _ => OnCluster.elsewhere) rmq) hx).bind fun _ _ h => h
    · split
      · exact (marking_elsewhere (sends_patchStatus (fun _ _ _ => trivial) _ rfl) hx).bind fun ⟨_, _⟩ _ h => h
      · refine (marking_reconcileCluster _ hx).bind fun z x hz => ?_
        rcases z with ⟨_, _⟩ | m <;> exact hz

theorem answered_marked (r : Reconciler) (c : Config) (ts : List Turn) (s : Store)
    (h : Undisturbed (c.Changed r.ini) Failed 3 (run server (reconcile r) ts s).result.isSome
      (run server (reconcile r) ts s).trace) :
    Answered (c.Changed r.ini) c.Marked (run server (reconcile r) ts s).trace :=
  answered_of_undisturbed (by decide) (fun _ _ h => h) (marking_reconcile rfl) ts h

end Reconcile

end ClusterOperator.Controller
