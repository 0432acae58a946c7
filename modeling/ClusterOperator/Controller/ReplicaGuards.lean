import ClusterOperator.Controller.Deletion
import ClusterOperator.Controller.ReplicaWrites

/-! The number of replicas that is written and the one that was checked. `Update` runs once for
the guards and once more in `CreateOrUpdate`; in between, the RabbitmqCluster in memory may be
replaced by another version. -/

namespace ClusterOperator.Controller

open Api Kubernetes Interaction Resource

def Fits (annotations : StringMap) (current written : ℤ) : Prop :=
  (written = 0 ∨ current ≤ written) ∧
    (current = 0 → written = 0 ∨ restoreError annotations written = none)

lemma fits_refl (annotations : StringMap) (n : ℤ) : Fits annotations n n := ⟨Or.inr le_rfl, Or.inl⟩

def readCluster : (q : Request) → Reply q → Option RabbitmqCluster
  | .getCluster, .ok c => some c
  | _, _ => none

/-- A version of the RabbitmqCluster that is read asks for no replicas, or for no less than there are. -/
def Asked (e : Event api Store) : Prop :=
  ∀ c ∈ readCluster e.request e.reply, ∀ sts ∈ e.before.statefulSet,
    desiredReplicas c = 0 ∨ sts.replicas ≤ desiredReplicas c

def Respects (annotations : StringMap) (e : Event api Store) : Prop :=
  ∀ o, e.request = .updateStatefulSet o → ∀ sts ∈ e.before.statefulSet, Fits annotations sts.replicas o.replicas

abbrev Guarded (annotations : StringMap) {α : Type} (p : Operation α) (Q : α → Store → Prop) (s : Store) : Prop :=
  Meets server Asked (Respects annotations) p Q s

section Frame

variable {annotations : StringMap} {s s' : Store} {α : Type}

lemma Rewrites.respects {e : Event api Store} (h : Rewrites e) : Respects annotations e :=
  fun o ho sts hsts => h.2 o ho sts hsts ▸ fits_refl _ _

lemma KeepsReplicas.respects {q : Request} (hq : KeepsReplicas q) (t : Turn) (s : Store) :
    Respects annotations (server.event t q s) :=
  (hq.rewrites t s).respects

lemma guarded_of_sends {p : Operation α} (h : p.Sends KeepsReplicas) (s : Store) :
    Guarded annotations p (fun _ s' => SameReplicas s s') s :=
  Meets.of_sends h (fun t _ _ hq hs _ => ⟨hq.respects t _, hs.trans (sameReplicas_event hq t _)⟩)
    (sameReplicas_of_eq rfl)

def Checked (annotations : StringMap) (replicas : ℤ) (s : Store) : Prop :=
  ∀ o ∈ s.statefulSet, Fits annotations o.replicas replicas

lemma Checked.same {n : ℤ} (h : Checked annotations n s) (hs : SameReplicas s s') : Checked annotations n s' := by
  intro o' ho'
  obtain ⟨o, ho, hr⟩ := hs o' ho'
  exact hr ▸ h o ho

lemma checked_of_none {n : ℤ} (h : s.statefulSet = none) : Checked annotations n s := by simp [Checked, h]

lemma Checked.write {n : ℤ} {q : Request} (h : Checked annotations n s) (hq : WritesReplicas n q) (t : Turn) :
    Respects annotations (server.event t q s) ∧ Checked annotations n (server.event t q s).after := by
  have hbefore := h.same (sameReplicas_disturb t s)
  refine ⟨fun o ho sts hsts => ?_, ?_⟩
  · change q = _ at ho
    subst ho
    exact (show o.replicas = n from hq) ▸ hbefore sts hsts
  · rcases serve_writesReplicas hq t (server.disturb t s) with hs | hs
    · exact hbefore.same hs
    · exact fun o ho => hs o ho ▸ fits_refl _ _

end Frame

section Guards

variable {m : Memory} {current sts : StatefulSet} {annotations : StringMap} {s : Store}

lemma guarded_updateCluster {α : Type} {c : RabbitmqCluster}
    {f : Except ApiError RabbitmqCluster → Operation α} {Q : α → Store → Prop}
    (hf : ∀ reply s', SameReplicas s s' → (∀ d, reply = .ok d → d.spec = c.spec) →
      Guarded annotations (f reply) Q s') : Guarded annotations (Client.clusters.update c >>= f) Q s :=
  fun t _ => ⟨KeepsReplicas.respects (q := .updateCluster c) trivial t s,
    hf _ _ (sameReplicas_event (q := .updateCluster c) trivial t s) fun _ => serve_updateCluster_spec⟩

def Positive (s : Store) : Prop := ∀ o ∈ s.statefulSet, 0 < o.replicas

lemma Positive.same {s' : Store} (h : Positive s) (hs : SameReplicas s s') : Positive s' := by
  intro o' ho'
  obtain ⟨o, ho, hr⟩ := hs o' ho'
  exact hr ▸ h o ho

lemma annotate_guarded {key value : String} {c : RabbitmqCluster} (hpos : Positive s) :
    Guarded annotations (annotate Client.clusters key value c) (fun x s' => match x with
      | (none, c) => Checked annotations (desiredReplicas c) s'
      | (some _, _) => Positive s') s := by
  refine fun t hasked => ⟨KeepsReplicas.respects (q := .getCluster) trivial t s, ?_⟩
  have hbefore := hpos.same (sameReplicas_disturb t s)
  have hafter : SameReplicas (server.event t .getCluster s).before (server.event t .getCluster s).after :=
    sameReplicas_serve (q := .getCluster) trivial t _
  generalize hreply : (server.event t .getCluster s).reply = reply
  cases reply with
  | error e => exact hbefore.same hafter
  | ok d =>
    have hchecked : Checked annotations (desiredReplicas d) (server.event t .getCluster s).before :=
      fun o ho => ⟨hasked d (by rw [hreply]; rfl) o ho, fun hz => absurd hz (hbefore o ho).ne'⟩
    refine guarded_updateCluster fun reply s' hs' hspec => ?_
    cases reply with
    | error e => exact (hbefore.same hafter).same hs'
    | ok d' =>
      have hsame := (hchecked.same hafter).same hs'
      rw [← desiredReplicas_congr (show d'.spec = d.spec from hspec d' rfl)] at hsame
      exact hsame

lemma saveReplicasBeforeZero_guarded (hpos : Positive s) :
    Guarded annotations (saveReplicasBeforeZero m current)
      (fun x s' => x.1 = none → Checked annotations (desiredReplicas x.2.cluster) s') s := by
  have hloop : Guarded annotations (p := updateAnnotation Client.clusters beforeZeroReplicasConfigured
      (toString current.replicas) m.cluster)
      (fun x s' => x.1 = none → Checked annotations (desiredReplicas x.2) s') s := by
    refine meets_onError (K := fun _ => Positive)
      (L := fun c s => Checked annotations (desiredReplicas c) s)
      (fun c s hs => (annotate_guarded hs).post fun x s hx => ?_) _ hpos
    rcases x with ⟨_ | err, c⟩
    · exact hx
    · exact fun _ => hx
  refine hloop.bind fun x s hx => ?_
  rcases x with ⟨_ | err, c⟩
  · exact fun _ => hx rfl
  · exact nofun

lemma removeAnnotation_guarded (n : ℤ) (hn : desiredReplicas m.cluster = n) (hs : Checked annotations n s) :
    Guarded annotations (removeReplicasBeforeZeroAnnotationIfExists m)
      (fun m' s' => Checked annotations (desiredReplicas m'.cluster) s') s := by
  subst hn
  unfold removeReplicasBeforeZeroAnnotationIfExists
  split
  · exact hs
  · unfold deleteAnnotation
    split
    · exact hs
    · refine guarded_updateCluster fun reply s' hs' hspec => ?_
      have hsame := hs.same hs'
      cases reply with
      | error e => exact hsame
      | ok d =>
        rw [← desiredReplicas_congr (show d.spec = m.cluster.spec from hspec d rfl)] at hsame
        exact hsame

lemma scaleFromZero_guarded :
    Guarded annotations (scaleFromZeroToBeforeReplicasConfigured m sts) (fun x s' => x.1 = false →
      x.2 = m ∧ s' = s ∧ restoreError m.cluster.annotations sts.replicas = none) s := by
  unfold scaleFromZeroToBeforeReplicasConfigured
  split
  · exact fun _ => ⟨rfl, rfl, ‹_›⟩
  · have hsends := sends_recordEventsAndSetCondition (patch_of_onCluster onCluster_keepsReplicas) m .false
    exact (guarded_of_sends (hsends _ _) s).bind fun _ _ _ => nofun

def Passed (annotations : StringMap) (x : Except (Result × Memory) Memory) (s : Store) : Prop :=
  ∀ m, x = .ok m → Checked annotations (desiredReplicas m.cluster) s

lemma passed_error {x : Result × Memory} : Passed annotations (.error x) s := fun _ h => nomatch h

lemma passed_ok (h : Checked annotations (desiredReplicas m.cluster) s) : Passed annotations (.ok m) s := by
  intro m' hm'
  cases hm'
  exact h

lemma guardFromZero_guarded (hsts : sts.replicas = desiredReplicas m.cluster)
    (hcurrent : ∀ o ∈ s.statefulSet, o.replicas = current.replicas) (hle : current.replicas ≤ sts.replicas) :
    Guarded m.cluster.annotations (guardFromZero m current sts) (Passed m.cluster.annotations) s := by
  unfold guardFromZero
  split
  · refine scaleFromZero_guarded.bind fun x s' hx => ?_
    rcases x with ⟨_ | _, m'⟩
    · obtain ⟨rfl, rfl, hrestore⟩ := hx rfl
      have hchecked : Checked m'.cluster.annotations (desiredReplicas m'.cluster) s' := by
        intro o ho
        rw [hcurrent o ho, ← hsts]
        exact ⟨Or.inr hle, fun _ => Or.inr hrestore⟩
      exact (removeAnnotation_guarded _ rfl hchecked).bind fun m' s' hm' => passed_ok hm'
    · exact passed_error
  · rename_i hzero
    refine passed_ok fun o ho => ?_
    rw [hcurrent o ho, ← hsts]
    refine ⟨Or.inr hle, fun hz => Or.inl ?_⟩
    have hnot : ¬ 0 < sts.replicas := fun hp => hzero (by simp [scaleFromZero, hz, hp])
    omega

lemma guardReplicas_guarded (hsts : sts.replicas = desiredReplicas m.cluster)
    (hcurrent : ∀ o ∈ s.statefulSet, o.replicas = current.replicas) :
    Guarded m.cluster.annotations (guardReplicas m current sts) (Passed m.cluster.annotations) s := by
  unfold guardReplicas
  split
  · rename_i hzero
    obtain ⟨hz, hpos⟩ : sts.replicas = 0 ∧ current.replicas > 0 := by simpa [scaleToZero] using hzero
    refine (saveReplicasBeforeZero_guarded fun o ho => hcurrent o ho ▸ hpos).bind fun x s' hx => ?_
    rcases x with ⟨_ | err, m'⟩
    · have hnot : ¬ scaleFromZero current sts = true := by simp [scaleFromZero, hz]
      simp only [guardFromZero, if_neg hnot]
      exact passed_ok (hx rfl)
    · exact passed_error
  · unfold scaleDown
    split
    · have hsends := sends_recordEventsAndSetCondition (patch_of_onCluster onCluster_keepsReplicas) m .false
      refine Meets.bind (Q := fun x _ => x.1 = true) ?_ fun x s' hx => ?_
      · exact (guarded_of_sends (hsends _ _) s).bind fun _ _ _ => rfl
      · rcases x with ⟨_ | _, m'⟩
        · cases hx
        · exact passed_error
    · exact guardFromZero_guarded hsts hcurrent (not_lt.mp ‹_›)

end Guards

section Write

variable {r : Reconciler} {m : Memory} {annotations : StringMap} {s : Store}

lemma writeStatefulSet_guarded (sts : StatefulSet) (h : Checked annotations (desiredReplicas m.cluster) s) :
    Guarded annotations (writeStatefulSet r m sts) (fun _ _ => True) s :=
  writeStatefulSet_meets rfl (fun t _ _ hq hs _ => hs.write hq t) (fun _ => Rewrites.respects) sts h

lemma guarded_getStatefulSet {α : Type} {f : Except ApiError StatefulSet → Operation α} {Q : α → Store → Prop}
    (hf : ∀ reply s', (reply = .error .notFound → s'.statefulSet = none) →
      (∀ o, reply = .ok o → s'.statefulSet = some o) → Guarded annotations (f reply) Q s') :
    Guarded annotations (Client.statefulSets.get >>= f) Q s :=
  fun t _ => ⟨KeepsReplicas.respects (q := .getStatefulSet) trivial t s,
    hf _ _ getStatefulSet_notFound fun _ => getStatefulSet_ok⟩

lemma statefulSetTurn_guarded : Guarded m.cluster.annotations (statefulSetTurn r m) (fun _ _ => True) s := by
  refine guarded_getStatefulSet fun reply s' hnone hok => ?_
  rcases reply with (_ | _ | _ | message) | current
  · exact writeStatefulSet_guarded _ (checked_of_none (hnone rfl))
  · trivial
  · trivial
  · trivial
  · have hupdate := updateStatefulSet_replicas r false { m with sharesClaims := false }
      (StatefulSetBuilder.build m.cluster)
    have hannotations : (updateStatefulSet r false { m with sharesClaims := false }
      (StatefulSetBuilder.build m.cluster)).1.cluster.annotations = m.cluster.annotations := rfl
    generalize updateStatefulSet r false { m with sharesClaims := false } (StatefulSetBuilder.build m.cluster) = y
      at hupdate hannotations ⊢
    rcases y with ⟨m', err | sts⟩
    · trivial
    · have hcurrent : ∀ o ∈ s'.statefulSet, o.replicas = current.replicas := by simp [hok current rfl]
      have hguard : Guarded m'.cluster.annotations (guardReplicas m' current sts) _ s' :=
        guardReplicas_guarded ((hupdate.2 sts rfl).trans hupdate.1.symm) hcurrent
      rw [hannotations] at hguard
      refine hguard.bind fun x s'' hx => ?_
      cases x with
      | error y => trivial
      | ok m'' => exact writeStatefulSet_guarded sts (hx m'' rfl)

end Write

theorem written_replicas_checked (r : Reconciler) (m : Memory) (ts : List Turn) (s : Store)
    (h : ∀ e ∈ (run server (statefulSetTurn r m) ts s).trace, ∀ c, readCluster e.request e.reply = some c →
      ∀ sts ∈ e.before.statefulSet, desiredReplicas c = 0 ∨ sts.replicas ≤ desiredReplicas c) :
    ∀ e ∈ (run server (statefulSetTurn r m) ts s).trace, ∀ o, e.request = .updateStatefulSet o →
      ∀ sts ∈ e.before.statefulSet, (o.replicas = 0 ∨ sts.replicas ≤ o.replicas) ∧
        (sts.replicas = 0 → o.replicas = 0 ∨ restoreError m.cluster.annotations o.replicas = none) :=
  (statefulSetTurn_guarded.sound ts h).1

def threeStore : Store :=
  (Store.empty.putCluster
    { name := "rabbit", ns := "default", generation := 1, spec := { replicas := 0 } }).putStatefulSet
    { replicas := 3 }

def scalingToZero (spec : RabbitmqClusterSpec) : Outcome api Store (Except (Result × Memory) Memory) :=
  run server (statefulSetTurn plainReconciler { cluster := threeStore.cluster.getD { name := "" } })
    ({} :: { edits := [.setSpec spec] } :: List.replicate 12 {}) threeStore

def writesReplicas (stored written : ℤ) (e : Event api Store) : Bool :=
  match e.request with
  | .updateStatefulSet o => e.before.statefulSet.any fun sts => sts.replicas = stored ∧ o.replicas = written
  | _ => false

theorem unchecked_replicas_written :
    ∃ e ∈ (scalingToZero { replicas := 1 }).trace, writesReplicas 3 1 e = true := by
  decide +kernel

theorem checked_replicas_written :
    (∃ e ∈ (scalingToZero { replicas := 5 }).trace, writesReplicas 3 5 e = true) ∧
      ∀ e ∈ (scalingToZero { replicas := 5 }).trace, ∀ o, e.request = .updateStatefulSet o →
        ∀ sts ∈ e.before.statefulSet, o.replicas = 0 ∨ sts.replicas ≤ o.replicas := by
  have hasked : ∀ e ∈ (scalingToZero { replicas := 5 }).trace,
      (readCluster e.request e.reply).all (fun c => e.before.statefulSet.all fun sts =>
        desiredReplicas c = 0 ∨ sts.replicas ≤ desiredReplicas c) = true := by
    decide +kernel
  refine ⟨by decide +kernel, fun e he o ho sts hsts => ?_⟩
  refine (written_replicas_checked plainReconciler _ _ threeStore (fun e he c hc sts hsts => ?_) e he o ho sts hsts).1
  have h := hasked e he
  rw [hc, hsts] at h
  exact of_decide_eq_true h

end ClusterOperator.Controller
