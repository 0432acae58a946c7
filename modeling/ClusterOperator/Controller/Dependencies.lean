import ClusterOperator.Controller.Stages

namespace ClusterOperator.Controller

open Api Kubernetes Interaction Resource

variable {r : Reconciler} {k : Kind}

def Backed (k : Kind) (s : Store) : Prop := s.statefulSet.isSome = true → (s.child k).isSome = true

def Wanted (r : Reconciler) (k : Kind) (e : Event api Store) : Prop :=
  ∀ c ∈ replyCluster e.request e.reply, .child k ∈ resourceBuilders r c

section Builders

lemma lasting_wanted (hrole : k ≠ .role) (hbinding : k ≠ .roleBinding) :
    Lasting r fun c => .child k ∈ resourceBuilders r c := by
  have hrbac (c : RabbitmqCluster) : .child k ∉ if shouldCreatePeerDiscoveryRBAC r c
      then [Builder.child .role, .child .roleBinding] else [] := by
    split <;> simp [hrole, hbinding]
  have hwanted {c c' : RabbitmqCluster} (hexternal : c'.externalSecretEnabled = c.externalSecretEnabled)
      (hvault : c'.vaultDefaultUserSecretEnabled = c.vaultDefaultUserSecretEnabled)
      (hc : .child k ∈ resourceBuilders r c) : .child k ∈ resourceBuilders r c' := by
    simp only [resourceBuilders, hexternal, hvault, List.mem_append] at hc ⊢
    simpa [hrbac] using hc
  refine ⟨fun _ _ => hwanted rfl rfl, fun _ {c} => hwanted rfl ?_, fun _ => hwanted rfl rfl, fun _ => hwanted rfl rfl⟩
  simp only [RabbitmqCluster.vaultDefaultUserSecretEnabled, setUpdaterImage, Option.any_map]

lemma exists_children (r : Reconciler) (c : RabbitmqCluster) :
    ∃ children, resourceBuilders r c = children ++ [.statefulSet] ∧ Builder.statefulSet ∉ children :=
  ⟨_, rfl, by split <;> split <;> simp⟩

lemma exists_split (c : RabbitmqCluster) (hk : .child k ∈ resourceBuilders r c) :
    ∃ before after, resourceBuilders r c = before ++ .child k :: after ∧ .statefulSet ∉ before ∧
      .child k ∉ before := by
  obtain ⟨children, hchildren, hnot⟩ := exists_children r c
  rw [hchildren] at hk ⊢
  obtain ⟨before, after, rfl, hfirst⟩ :=
    List.eq_append_cons_of_mem ((List.mem_append.mp hk).resolve_right (by simp))
  exact ⟨before, after ++ [.statefulSet], by simp, fun h => hnot (List.mem_append_left _ h), hfirst⟩

lemma child_mem_resourceBuilders (huser : k ≠ .defaultUserSecret) (hrole : k ≠ .role) (hbinding : k ≠ .roleBinding)
    (c : RabbitmqCluster) : .child k ∈ resourceBuilders r c := by
  cases k with
  | defaultUserSecret => exact absurd rfl huser
  | role => exact absurd rfl hrole
  | roleBinding => exact absurd rfl hbinding
  | _ => simp [resourceBuilders]

lemma builderLoop_append (m : Memory) (before after : List Builder) :
    builderLoop r m (before ++ after) = orReturn (builderLoop r m before) fun m => builderLoop r m after := by
  induction before generalizing m with
  | nil => rfl
  | cons builder before ih =>
    simp only [List.cons_append, builderLoop, orReturn, Program.bind_assoc]
    congr 1
    funext x
    cases x with
    | error y => rfl
    | ok m => exact ih m

end Builders

def KeepsChild (k : Kind) : Request → Prop
  | .deleteChild j => j ≠ k
  | _ => True

def Prepares (k : Kind) : Request → Prop
  | .createStatefulSet _ => False
  | .deleteChild j => j ≠ k
  | _ => True

section Steps

variable {t : Turn} {q : Request} {s : Store}

lemma child_kept (hq : KeepsChild k q) (hs : (s.child k).isSome = true) :
    ((server.event t q s).after.child k).isSome = true := by
  rw [← disturb_child t s] at hs
  rcases serve_written t q (server.disturb t s) with h | h
  · exact (congrArg (fun s => (s.child k).isSome) h).trans hs
  · rcases h.child_cases k with h | ⟨h, -⟩ | ⟨o, -, h⟩
    · exact (congrArg Option.isSome h).trans hs
    · rw [h] at hq
      exact absurd rfl hq
    · exact congrArg Option.isSome h

lemma statefulSet_not_new (hq : Prepares k q)
    (h : (server.event t q s).after.statefulSet.isSome = true) : s.statefulSet.isSome = true := by
  have hdisturb (h : (server.disturb t s).statefulSet.isSome = true) : s.statefulSet.isSome = true := by
    obtain ⟨o', ho'⟩ := Option.isSome_iff_exists.mp h
    obtain ⟨o, ho, -⟩ := disturb_statefulSet ho'
    exact Option.isSome_of_mem ho
  change (serve t q (server.disturb t s)).2.statefulSet.isSome = true at h
  rcases serve_written t q (server.disturb t s) with hs | hw
  · exact hdisturb (hs ▸ h)
  · generalize (serve t q (server.disturb t s)).2 = s' at h hw
    cases hw with
    | statefulSetCreated => exact hq.elim
    | statefulSetUpdated hs => exact hdisturb (Option.isSome_of_mem hs)
    | statefulSetDeleted hs => exact hdisturb (Option.isSome_of_mem hs)
    | _ => exact hdisturb h

lemma Prepares.keepsChild (h : Prepares k q) : KeepsChild k q := by
  cases q <;> first | exact trivial | exact h

lemma Backed.event (hq : Prepares k q) (hs : Backed k s) : Backed k (server.event t q s).after :=
  fun h => child_kept hq.keepsChild (hs (statefulSet_not_new hq h))

lemma Passive.prepares (h : Passive q) : Prepares k q := by
  cases q <;> first | exact trivial | exact h.elim

lemma OnCluster.prepares (h : OnCluster q) : Prepares k q := by
  cases q <;> first | exact trivial | exact h.elim

lemma OnChild.prepares {j : Kind} (h : OnChild j q) : Prepares k q := by
  cases q <;> first | exact trivial | exact h.elim

lemma OnStatefulSet.prepares (h : OnStatefulSet q) : Prepares k q := by
  cases q <;> first | exact trivial | exact h.elim

lemma Early.prepares (hrole : k ≠ .role) (hbinding : k ≠ .roleBinding) (h : Early q) : Prepares k q := by
  cases q with
  | deleteChild j =>
    rcases h with rfl | rfl
    · exact hrole.symm
    · exact hbinding.symm
  | createStatefulSet o => exact h
  | _ => exact trivial

end Steps

section Loop

variable {α : Type} {p : Operation α} {s : Store}

abbrev Supplies (r : Reconciler) (k : Kind) (p : Operation α) (Q : α → Store → Prop) (s : Store) : Prop :=
  Meets server (Wanted r k) (fun e => Backed k e.after) p Q s

def Stocked (k : Kind) (s : Store) : Prop := (s.child k).isSome = true

lemma Stocked.backed (h : Stocked k s) : Backed k s := fun _ => h

lemma supplies_of_sends (hp : p.Sends (Prepares k)) (hs : Backed k s) : Supplies r k p (fun _ s => Backed k s) s :=
  Meets.of_sends hp (fun _ _ _ hq hs _ => ⟨hs.event hq, hs.event hq⟩) hs

lemma supplies_of_stocked (hp : p.Sends (KeepsChild k)) (hs : Stocked k s) :
    Supplies r k p (fun _ s => Stocked k s) s :=
  Meets.of_sends hp (fun _ _ _ hq hs _ => ⟨fun _ => child_kept hq hs, child_kept hq hs⟩) hs

lemma supplies_child {q : Request} {next : Reply q → Operation α} {Q : α → Store → Prop}
    (hq : OnChild k q ∨ q = .getChild k) (hs : Backed k s)
    (hnext : ∀ reply s, Backed k s → (∀ o, replyChild q reply = some (k, o) → Stocked k s) →
      Supplies r k (next reply) Q s) : Supplies r k (.send q next) Q s := by
  have hprepares : Prepares k q := by
    rcases hq with hq | rfl
    · exact hq.prepares
    · exact Passive.prepares trivial
  intro t _
  have h : Backed k (server.event t q s).after := hs.event hprepares
  exact ⟨h, hnext _ _ h fun o ho => Option.isSome_of_mem (serve_replyChild ho).1⟩

lemma supplies_createOrUpdate {σ : Type} (mutate : Bool → σ → DataObject → σ × Except Err DataObject) (m : σ)
    (obj : DataObject) (hs : Backed k s) :
    Supplies r k (createOrUpdate (Client.children k) mutate m obj)
      (fun y s => Tried (fun _ => Backed k) (fun _ _ => Stocked k) y.1 y.2.2 s) s := by
  refine supplies_child (Or.inr rfl) hs fun reply s hs hstored => ?_
  cases reply with
  | error e =>
    cases e with
    | notFound =>
      change Supplies r k (createMutated (Client.children k) obj (mutate false m obj)) _ s
      rcases mutate false m obj with ⟨m, err | o⟩
      · exact hs
      · refine supplies_child (Or.inl rfl) hs fun reply s hs hstored => ?_
        cases reply with
        | error e => exact hs
        | ok o => exact hstored o rfl
    | _ => exact hs
  | ok existing =>
    have hs := hstored existing rfl
    change Supplies r k (updateMutated (Client.children k) existing (mutate true m existing)) _ s
    rcases mutate true m existing with ⟨m, err | o⟩
    · exact hs.backed
    · unfold updateMutated
      dsimp only
      split
      · exact hs
      · refine supplies_child (Or.inl rfl) hs.backed fun reply s hs hstored => ?_
        cases reply with
        | error e => exact hs
        | ok o => exact hstored o rfl

lemma supplies_finishTurn (m : Memory) (restart : Bool) {result : Except Err OperationResult}
    (hs : Concludes (Backed k) (Stocked k) result s) :
    Supplies r k (finishTurn (.child k) restart m result) (Concludes (Backed k) (Stocked k)) s := by
  cases result with
  | error err =>
    have hpatch := patch_of_onCluster (R := Prepares k) fun _ => OnCluster.prepares
    unfold finishTurn
    dsimp only
    split
    · exact (supplies_of_sends (sends_setReconcileSuccess hpatch _ _ _ _) hs).bind fun _ _ hs => hs
    · exact (supplies_of_sends (sends_setReconcileSuccess hpatch _ _ _ _) hs).bind fun _ _ hs => hs
  | ok result =>
    refine (supplies_of_stocked (sends_annotateChild (fun _ h => (Passive.prepares h).keepsChild)
      (fun _ h => (OnChild.prepares h).keepsChild) restart result) hs).bind fun err s hs => ?_
    cases err with
    | none => exact hs
    | some err => exact hs.backed

lemma supplies_childTurn (m : Memory) (hs : Backed k s) :
    Supplies r k (childTurn r k m) (Concludes (Backed k) (Stocked k)) s := by
  refine (supplies_of_sends (sends_buildChild (fun _ => Passive.prepares) r k m) hs).bind fun reply s hs => ?_
  cases reply with
  | error err => exact hs
  | ok obj =>
    refine (meets_createOrUpdateOnConflict (K := fun _ _ => Backed k) (fun _ _ _ h => h)
      (fun obj y s hs => supplies_createOrUpdate (updateChild r k) y obj hs) (x := (m, true)) obj hs).bind
        fun y s hy => supplies_finishTurn y.2.1 y.2.2 ?_
    rcases y with ⟨err | result, y⟩
    · obtain ⟨-, hy⟩ := hy
      exact hy
    · exact hy

lemma prepares_builderLoop (m : Memory) {builders : List Builder} (hnot : .statefulSet ∉ builders) :
    (builderLoop r m builders).Sends (Prepares k) := by
  induction builders generalizing m with
  | nil => exact trivial
  | cons builder builders ih =>
    cases builder with
    | statefulSet => exact absurd List.mem_cons_self hnot
    | child j =>
      exact sends_orReturn (sends_childTurn (fun _ => Passive.prepares) (fun _ => OnChild.prepares)
        (fun _ => OnCluster.prepares) r m) fun m => ih m fun h => hnot (List.mem_cons_of_mem _ h)

lemma keepsChild_builderLoop (m : Memory) (builders : List Builder) : (builderLoop r m builders).Sends (KeepsChild k) := by
  induction builders generalizing m with
  | nil => exact trivial
  | cons builder builders ih =>
    refine sends_orReturn ?_ ih
    cases builder with
    | statefulSet =>
      exact sends_statefulSetTurn (fun _ h => (Passive.prepares h).keepsChild) (fun _ h => (OnStatefulSet.prepares h).keepsChild)
        (fun _ h => (OnCluster.prepares h).keepsChild) (fun _ => trivial) r m
    | child j =>
      exact sends_childTurn (fun _ h => (Passive.prepares h).keepsChild) (fun _ h => (OnChild.prepares h).keepsChild)
        (fun _ h => (OnCluster.prepares h).keepsChild) r m

lemma supplies_builderLoop {m : Memory} (hm : .child k ∈ resourceBuilders r m.cluster) (hs : Backed k s) :
    Supplies r k (builderLoop r m (resourceBuilders r m.cluster)) (fun _ s => Backed k s) s := by
  obtain ⟨before, after, hsplit, hnot, -⟩ := exists_split m.cluster hm
  rw [hsplit, builderLoop_append]
  refine (supplies_of_sends (prepares_builderLoop m hnot) hs).bind fun y s hs => ?_
  cases y with
  | error z => exact hs
  | ok m =>
    refine (supplies_childTurn m hs).bind fun y s hs => ?_
    cases y with
    | error z => exact hs
    | ok m => exact (supplies_of_stocked (keepsChild_builderLoop m after) hs).post fun _ _ => Stocked.backed

end Loop

/-- Whatever goes wrong and wherever an execution is cut short, while others leave the children alone,
there is never a StatefulSet without the Services, the cookie, the configuration and the account of its pods. -/
theorem statefulSet_backed (r : Reconciler) (hrole : k ≠ .role) (hbinding : k ≠ .roleBinding)
    (tss : List (List Turn)) (s : Store) (hs : Backed k s)
    (h : ∀ e ∈ (rounds server (reconcile r) tss s).flatMap Outcome.trace, Wanted r k e) :
    ∀ e ∈ (rounds server (reconcile r) tss s).flatMap Outcome.trace, Backed k e.after := by
  have hearly (t : Turn) (q : Request) (s : Store) (hq : Early q) (hs : Backed k s)
      (_ : Wanted r k (server.event t q s)) :
      Backed k (server.event t q s).after ∧ Backed k (server.event t q s).after :=
    ⟨hs.event (hq.prepares hrole hbinding), hs.event (hq.prepares hrole hbinding)⟩
  have hpass (s : Store) (hs : Backed k s) : Meets server (Wanted r k) (fun e => Backed k e.after ∧ True)
      (reconcile r) (fun _ s => Backed k s) s := by
    refine (meets_reconcile (E := fun e => Backed k e.after) (L := Backed k) (lasting_wanted hrole hbinding)
      (fun _ h => h) (fun t q s hq => hearly t q s hq.early)
      (fun m s hs _ => Meets.of_sends (early_startReconciling r m) hearly hs)
      (fun m s hs hm => (supplies_builderLoop hm hs).post fun _ _ => concludes_of fun _ h => h) (fun m s hs => ?_) hs).mono
      (fun _ h => h) (fun _ _ h => ⟨h, trivial⟩) fun _ _ h => h
    exact supplies_of_sends (sends_postDeploy (fun _ => Passive.prepares) (fun _ => OnCluster.prepares)
      (fun _ => OnStatefulSet.prepares) (fun _ => OnChild.prepares) m) hs
  exact fun e he => (Meets.rounds (E := fun _ => True) hpass hs tss h e he).1

def interrupted : List (List Turn) :=
  [List.replicate 12 versionTurn,
    List.replicate 14 versionTurn ++ [{ versionTurn with fault := some (.lost "timeout") }],
    List.replicate 40 versionTurn]

theorem interrupted_backed :
    (∃ e ∈ (rounds server (reconcile plainReconciler) interrupted (settledStore { storage := 10 })).flatMap
      Outcome.trace, e.before.statefulSet.isNone = true ∧ e.after.statefulSet.isSome = true) ∧
    ∀ e ∈ (rounds server (reconcile plainReconciler) interrupted (settledStore { storage := 10 })).flatMap
      Outcome.trace, Backed .defaultUserSecret e.after := by
  refine ⟨by decide +kernel, statefulSet_backed plainReconciler (by decide) (by decide) interrupted _ nofun ?_⟩
  unfold Wanted
  decide +kernel

end ClusterOperator.Controller
