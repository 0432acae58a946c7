import ClusterOperator.Controller.DeprecatedFeatures
import ClusterOperator.Controller.Footprint
import ClusterOperator.Interaction.Interleaving
import ClusterOperator.Kubernetes.Serving

/-! The controller of the clusters and the one of the deprecated features beside each other, their
requests in any order. -/

namespace ClusterOperator.Controller

open Api Kubernetes Interaction RabbitmqClient

section Reconcile

def SparesFeatures : Request → Prop
  | .patchStatus base modified =>
    modified.status.deprecatedFeaturesUsed = base.status.deprecatedFeaturesUsed
  | _ => True

variable {q : Request}

lemma Passive.spares (h : Passive q) : SparesFeatures q := by
  cases q <;> first | exact trivial | exact h.elim

lemma OnCluster.spares (h : OnCluster q) : SparesFeatures q := by
  cases q <;> first | exact trivial | exact h

lemma OnStatefulSet.spares (h : OnStatefulSet q) : SparesFeatures q := by
  cases q <;> first | exact trivial | exact h.elim

lemma OnChild.spares {k : Kind} (h : OnChild k q) : SparesFeatures q := by
  cases q <;> first | exact trivial | exact h.elim

lemma spares_startReconciling (r : Reconciler) (m : Memory) : (startReconciling r m).Sends SparesFeatures := by
  refine (sends_labelDefaultUserSecret (fun _ => Passive.spares) (fun _ => OnChild.spares) m).bind fun _ => ?_
  refine sends_orReturn ((sends_rebalanceIfNeeded (fun _ => Passive.spares) (fun _ => OnCluster.spares) m).bind
    fun _ => trivial) fun m => ?_
  split
  · exact trivial
  · exact (sends_deleteChildren _ fun _ _ => trivial).bind fun _ => trivial

lemma spares_builderLoop (r : Reconciler) (builders : List Builder) (m : Memory) :
    (builderLoop r m builders).Sends SparesFeatures := by
  induction builders generalizing m with
  | nil => exact trivial
  | cons builder builders ih =>
    refine sends_orReturn ?_ fun m => ih m
    cases builder with
    | child k =>
      exact sends_childTurn (fun _ => Passive.spares) (fun _ => OnChild.spares) (fun _ => OnCluster.spares) r m
    | statefulSet =>
      exact sends_statefulSetTurn (fun _ => Passive.spares) (fun _ => OnStatefulSet.spares)
        (fun _ => OnCluster.spares) (fun _ => trivial) r m

lemma spares_reconcileCluster (r : Reconciler) (m : Memory) : (reconcileCluster r m).Sends SparesFeatures := by
  refine sends_orReturn (sends_prepare (fun _ => Passive.spares) (fun _ => OnCluster.spares) r m) fun m => ?_
  refine sends_orReturn (spares_startReconciling r m) fun m => ?_
  refine sends_orReturn (spares_builderLoop r _ m) fun m => ?_
  refine sends_orReturn (sends_postDeploy (fun _ => Passive.spares) (fun _ => OnCluster.spares)
    (fun _ => OnStatefulSet.spares) (fun _ => OnChild.spares) m) fun m => ?_
  exact (sends_setReconcileSuccess (patch_of_onCluster fun _ => OnCluster.spares) _ _ _ _).bind fun _ => trivial

theorem spares_reconcile (r : Reconciler) : (reconcile r).Sends SparesFeatures := by
  refine ⟨trivial, fun reply => ?_⟩
  rcases reply with (_ | _ | _ | message) | c
  · exact trivial
  · exact trivial
  · exact trivial
  · exact trivial
  · change Program.Sends (I := api) SparesFeatures (if _ then _ else _)
    split
    · exact (sends_prepareForDeletion (fun _ => Passive.spares) (fun _ => trivial) (fun _ => OnCluster.spares)
        c).bind fun _ => trivial
    · split
      · exact (sends_patchStatus (patch_of_onCluster fun _ => OnCluster.spares) _ rfl).bind fun _ => trivial
      · refine (spares_reconcileCluster r _).bind fun x => ?_
        cases x <;> exact trivial

end Reconcile

section Events

lemma SparesFeatures.features_eq {q : Request} (hq : SparesFeatures q) (t : Turn) {s : Store} {c c' : RabbitmqCluster}
    (hc : s.cluster = some c) (hc' : (serve t q s).2.cluster = some c') :
    c'.status.deprecatedFeaturesUsed = c.status.deprecatedFeaturesUsed := by
  have hwritten := serve_written t q s
  generalize (serve t q s).2 = s' at hc' hwritten
  rcases hwritten with rfl | hwritten
  · rw [Option.some.inj (hc.symm.trans hc')]
  · cases hwritten with
    | clusterCreated h => exact absurd (hc.symm.trans h) nofun
    | clusterUpdated h =>
      cases hc.symm.trans h
      cases hc'
      rfl
    | clusterReleased => cases hc'
    | statusPatched h =>
      cases hc.symm.trans h
      cases hc'
      exact if_pos hq.symm
    | _ =>
      cases hc.symm.trans hc'
      rfl

lemma patch_features {base : RabbitmqClusterStatus} {l : List String} (h : base.deprecatedFeaturesUsed ≠ l)
    (stored : RabbitmqClusterStatus) :
    .patch base { base with deprecatedFeaturesUsed := l } stored = { stored with deprecatedFeaturesUsed := l } := by
  simp [RabbitmqClusterStatus.patch, RabbitmqClusterStatus.patchDefaultUser, h]

end Events

section Reports

def lastReported (g : Option (List String)) : (q : FeatureRequest) → FeatureReply q → Option (List String)
  | .listDeprecatedFeaturesUsed _, .ok deprecatedFeatures => some deprecatedFeatures
  | _, _ => g

/-- Only the list that was reported last is stored, and only in place of another one. -/
def reports : Protocol featureApi (Option (List String)) where
  allows g
    | .patchStatus base modified => ∃ l ∈ g, base.status.deprecatedFeaturesUsed ≠ l ∧
        modified = { base with status.deprecatedFeaturesUsed := l }
    | _ => True
  expects _ _ _ := True
  next := lastReported

def Fetches : FeatureRequest → Prop
  | .getSecret _ | .getService _ => True
  | _ => False

lemma Fetches.allows {q : FeatureRequest} (h : Fetches q) (g : Option (List String)) : reports.allows g q := by
  cases q <;> first | exact trivial | exact h.elim

lemma reconcile_reports (d : DeprecatedFeatureReconciler) (g : Option (List String)) :
    Follows reports d.reconcile (fun _ _ => True) g := by
  refine ⟨trivial, fun reply _ => ?_⟩
  rcases reply with (_ | _ | _ | message) | rmq
  · exact trivial
  · exact trivial
  · exact trivial
  · exact trivial
  have hclient : (getClientForService DeprecatedFeatureReconciler.apiReader d.pools rmq).Sends Fetches := by
    refine sends_getClientForService (fun name => ?_) (fun name => ?_) _ _
    · exact ⟨trivial, fun _ => trivial⟩
    · exact ⟨trivial, fun _ => trivial⟩
  refine (Follows.of_sends (K := fun _ => True) hclient (fun g _ h => h.allows g) (fun _ _ _ _ _ => trivial)
    trivial).bind fun x g _ => ?_
  cases x with
  | error err => exact trivial
  | ok rabbitClient =>
    refine ⟨trivial, fun reply _ => ?_⟩
    cases reply with
    | error e => exact trivial
    | ok deprecatedFeatures =>
      change Follows (I := featureApi) _ (if _ then _ else _) _ _
      split
      · exact trivial
      · refine ⟨⟨deprecatedFeatures, rfl, ‹_›, rfl⟩, fun reply _ => ?_⟩
        rcases reply with (_ | _ | _ | message) | _ <;> exact trivial

lemma FeatureTurn.serve_store (u : FeatureTurn) (q : FeatureRequest) (s : Store) :
    (u.serve q s).2 = s ∨ (u.serve q s).2 = (u.answer q s).2 := by
  unfold FeatureTurn.serve
  split
  · exact Or.inr rfl
  · exact Or.inr rfl
  · exact Or.inl rfl

lemma FeatureTurn.serve_patched (u : FeatureTurn) (q : FeatureRequest) (s : Store) :
    (u.serve q s).2 = s ∨ ∃ base modified c, q = .patchStatus base modified ∧ s.cluster = some c ∧
      (u.serve q s).2 = s.putCluster { c with status := .patch base.status modified.status c.status } := by
  rcases u.serve_store q s with h | h
  · exact Or.inl h
  rw [h]
  cases q with
  | patchStatus base modified =>
    simp only [FeatureTurn.answer, Store.patchStatus]
    split
    · exact Or.inl rfl
    · exact Or.inr ⟨base, modified, _, rfl, ‹_›, rfl⟩
  | _ => exact Or.inl rfl

def Listed (features : Option (List String)) (s s' : Store) : Prop :=
  s' = s ∨ ∃ c ∈ s.cluster, ∃ l ∈ features, s' = s.putCluster { c with status.deprecatedFeaturesUsed := l }

lemma listed_of_allows {g : Option (List String)} {q : FeatureRequest} (hq : reports.allows g q) (u : FeatureTurn)
    (s : Store) : Listed g s (u.serve q s).2 := by
  rcases u.serve_patched q s with h | ⟨base, modified, c, rfl, hc, h⟩
  · exact Or.inl h
  · obtain ⟨l, hl, hne, rfl⟩ := hq
    refine Or.inr ⟨c, hc, l, hl, ?_⟩
    rw [h, patch_features hne]

end Reports

section Interleavings

variable (r : Reconciler) (d : DeprecatedFeatureReconciler)

abbrev beside (moves : List (Move Turn FeatureTurn)) (s : Store) :
    List (Event api Store ⊕ Event featureApi Store) :=
  interleave server featureServer (reconcile r) d.reconcile (reconcile r) d.reconcile moves s

theorem controllers_write_apart (moves : List (Move Turn FeatureTurn)) (s : Store) :
    (∀ e ∈ firsts (beside r d moves s), ∀ c ∈ e.before.cluster, ∀ c' ∈ e.after.cluster,
      c'.status.deprecatedFeaturesUsed = c.status.deprecatedFeaturesUsed) ∧
    reports.Along (fun reported e => Listed reported e.before e.after) none (seconds (beside r d moves s)) := by
  constructor
  · obtain ⟨tss, htss⟩ := firsts_exposed server featureServer (reconcile r) d.reconcile moves s
    rw [htss]
    refine rounds_of_sends (spares_reconcile r) (fun t q s hq c hc c' hc' => ?_) tss s
    exact hq.features_eq t.1 hc hc'
  · obtain ⟨tss, htss⟩ := seconds_exposed server featureServer (reconcile r) d.reconcile moves s
    rw [htss]
    exact Follows.sound_rounds (J := fun _ _ => True) (A := fun _ _ => True) (reconcile_reports d)
      (fun u _ _ _ hq _ _ => ⟨listed_of_allows hq u.1 _, trivial, trivial⟩) trivial tss
      (Protocol.along_const.mpr fun _ _ => trivial)

lemma edits_of_event (u : FeatureTurn) (q : FeatureRequest) (s : Store) :
    ∃ edits : List Edit, (featureServer.event u q s).after = edits.foldl Edit.apply s := by
  rcases u.serve_patched q (u.edits.foldl Edit.apply s) with h | ⟨base, modified, c, -, hc, h⟩
  · exact ⟨u.edits, h⟩
  · refine ⟨u.edits ++ [.setStatus (.patch base.status modified.status c.status)], h.trans ?_⟩
    rw [List.foldl_append, List.foldl_cons, List.foldl_nil, Edit.apply, Edit.onCluster, hc]

lemma serve_edits (t : Turn) (edits : List Edit) : serve { t with edits } = serve t := by
  funext q s
  cases q <;> rfl

lemma absorbs_event (u : FeatureTurn) (q : FeatureRequest) (s : Store) :
    Absorbs server s (featureServer.event u q s).after := by
  obtain ⟨edits, hedits⟩ := edits_of_event u q s
  refine fun t => ⟨{ t with edits := edits ++ t.edits }, ?_, serve_edits t _⟩
  rw [hedits]
  exact List.foldl_append

theorem beside_refines_alone (moves : List (Move Turn FeatureTurn)) (s : Store) :
    ∃ tss, firsts (beside r d moves s) = (rounds server (reconcile r) tss s).flatMap Outcome.trace :=
  Alone.rounds (firsts_alone server.within_self absorbs_event moves s)

end Interleavings

end ClusterOperator.Controller
