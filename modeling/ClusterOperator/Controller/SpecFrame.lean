import ClusterOperator.Controller.Deletion

namespace ClusterOperator.Controller

open Api Kubernetes Interaction Resource

variable {r : Reconciler} {v : RabbitmqCluster} {s s' : Store}

/-- The builder of the StatefulSet has nothing to change in the override. -/
structure Stable (spec : RabbitmqClusterSpec) : Prop where
  sanitize : sanitizeOverride spec = spec
  raise : raiseClaims spec = spec

lemma stable_of_none {spec : RabbitmqClusterSpec} (h : spec.statefulSetOverride = none) : Stable spec := by
  cases spec
  cases h
  exact ⟨rfl, rfl⟩

lemma Stable.inPlace {spec spec' : RabbitmqClusterSpec} (h : Stable spec)
    (hr : r.controlRabbitmqImage = false) (hs : InPlace r spec spec') : spec' = spec := by
  cases hs with
  | sanitize => exact h.sanitize
  | raise => exact h.raise
  | image hc => simp [hr] at hc
  | updaterImage hc => simp [hr] at hc

lemma Stable.eq {spec spec' : RabbitmqClusterSpec} (h : Stable spec) (hr : r.controlRabbitmqImage = false)
    (hs : Relation.ReflTransGen (InPlace r) spec spec') : spec' = spec := by
  induction hs with
  | refl => rfl
  | tail _ hs ih =>
    rw [ih] at hs
    exact h.inPlace hr hs

structure Matches (v : RabbitmqCluster) (s : Store) : Prop where
  le : v.resourceVersion ≤ s.revision
  spec : ∀ c ∈ s.cluster, c.resourceVersion = v.resourceVersion → c.spec = v.spec

lemma Matches.advance (h : Matches v s) (ha : Advances s s') : Matches v s' := by
  refine ⟨h.le.trans ha.revision, fun c hc hv => ?_⟩
  rcases ha.cluster c hc with hc | hc
  · exact h.spec c hc hv
  · exact absurd (hv ▸ h.le) hc.not_ge

lemma matches_of_current (h : Current v s) : Matches v s :=
  ⟨h.issued.le, fun c hc _ => by rw [h.stored c hc]⟩

structure Framed (s : Store) (g : History) : Prop where
  stable : ∀ v ∈ g.received, Stable v.spec
  head : ∀ v, g.received.head? = some v → Matches v s

lemma framed_start : Framed s {} := ⟨by simp, by simp⟩

def KeepsSpec (e : Event api Store) : Prop :=
  ∀ a ∈ e.before.cluster, ∀ b ∈ e.after.cluster, b.spec = a.spec

lemma record_received (g : History) (q : Request) (reply : Reply q) :
    (g.record q reply).received = (replyCluster q reply).toList ++ g.received := by
  cases q with
  | getCluster => rcases reply with (_ | _ | _ | message) | c <;> rfl
  | createCluster c => cases reply <;> rfl
  | updateCluster c => cases reply <;> rfl
  | patchStatus base modified => cases reply <;> rfl
  | getChild k => cases k <;> rfl
  | _ => rfl

lemma serve_keepsSpec {t : Turn} {q : Request}
    (hq : ∀ c a, q = .updateCluster c → s.cluster = some a → c.resourceVersion = a.resourceVersion →
      c.spec = a.spec) :
    ∀ a ∈ s.cluster, ∀ b ∈ (serve t q s).2.cluster, b.spec = a.spec := by
  intro a ha b hb
  rcases serve_written t q s with h | h
  · rw [h, ha] at hb
    cases hb
    rfl
  · generalize (serve t q s).2 = s' at h hb
    cases h with
    | clusterCreated h => cases h.symm.trans ha
    | @clusterUpdated _ c _ h hv =>
      cases h.symm.trans ha
      cases hb
      exact hq c a rfl ha hv
    | clusterReleased => cases hb
    | statusPatched h =>
      cases h.symm.trans ha
      cases hb
      rfl
    | _ =>
      cases ha.symm.trans hb
      rfl

lemma framed_event {t : Turn} {q : Request} {g : History} (hr : r.controlRabbitmqImage = false)
    (hallows : (protocol r).allows g q) (hg : Framed s g)
    (hstored : ∀ c ∈ (server.event t q s).before.cluster, Stable c.spec) :
    KeepsSpec (server.event t q s) ∧
      Framed (server.event t q s).after ((protocol r).observe g (server.event t q s)) := by
  have hsent (c : RabbitmqCluster) (hq : q = .updateCluster c) :
      ∃ v, g.received.head? = some v ∧ c.resourceVersion = v.resourceVersion ∧ c.spec = v.spec := by
    subst hq
    obtain ⟨v, hv, hc⟩ := hallows
    exact ⟨v, hv, hc.resourceVersion, (hg.stable v (List.mem_of_head? hv)).eq hr hc.spec⟩
  have hkeeps : KeepsSpec (server.event t q s) := by
    refine serve_keepsSpec fun c a hq ha hv => ?_
    obtain ⟨v, hhead, hvc, hspec⟩ := hsent c hq
    rw [hspec]
    exact (((hg.head v hhead).advance (disturb_advances t s)).spec a ha (hv.symm.trans hvc)).symm
  refine ⟨hkeeps, ?_⟩
  have hreceived : ((protocol r).observe g (server.event t q s)).received =
      (replyCluster q (server.event t q s).reply).toList ++ g.received := record_received g q _
  cases hreply : replyCluster q (server.event t q s).reply with
  | none =>
    rw [hreply, Option.toList_none, List.nil_append] at hreceived
    refine ⟨fun v hv => ?_, fun v hv => ?_⟩ <;> rw [hreceived] at hv
    · exact hg.stable v hv
    · exact (hg.head v hv).advance (event_advances t q s)
  | some c =>
    rw [hreply] at hreceived
    have hstable : Stable c.spec := by
      rcases serve_spec hreply with ⟨d, hq | hq, hd⟩ | ⟨a, ha, hc⟩
      · subst hq
        rw [hd, hallows.2]
        exact stable_of_none rfl
      · obtain ⟨v, hhead, -, hspec⟩ := hsent d hq
        rw [hd, hspec]
        exact hg.stable v (List.mem_of_head? hhead)
      · rw [hc]
        exact hstored a ha
    refine ⟨fun v hv => ?_, fun v hv => ?_⟩
    · rw [hreceived] at hv
      rcases List.mem_cons.mp hv with rfl | hv
      · exact hstable
      · exact hg.stable v hv
    · rw [hreceived] at hv
      cases hv
      exact matches_of_current (serve_current hreply)

theorem reconcile_keeps_spec (r : Reconciler) (hr : r.controlRabbitmqImage = false) (ts : List Turn) (s : Store)
    (h : ∀ e ∈ (run server (reconcile r) ts s).trace, ∀ c ∈ e.before.cluster, Stable c.spec) :
    ∀ e ∈ (run server (reconcile r) ts s).trace, KeepsSpec e := by
  refine Protocol.along_const.mp (reconcile_follows.sound (J := Framed) (fun t q s g hallows hg hA => ?_)
    framed_start ts (Protocol.along_const.mpr h)).1
  obtain ⟨hkeeps, hframed⟩ := framed_event hr hallows hg hA
  exact ⟨hkeeps, expects_event t q s g, hframed⟩

def settledCluster (spec : RabbitmqClusterSpec) : RabbitmqCluster where
  name := "rabbit"
  ns := "default"
  resourceVersion := 1
  generation := 1
  finalizers := [deletionFinalizer]
  spec := spec
  status.defaultUser := some ⟨some "rabbit-default-user", "rabbit"⟩
  status.binding := some "rabbit-default-user"
  status.quorumStatus := "unavailable"

def settledStore (spec : RabbitmqClusterSpec) : Store := Store.empty.putCluster (settledCluster spec)

def versionTurn : Turn where
  overview := .ok ("4.2.0", "27.3")

def annotating (spec : RabbitmqClusterSpec) : Outcome api Store (Result × Option Memory) :=
  run server (reconcile plainReconciler)
    (List.replicate 36 versionTurn ++
      { versionTurn with edits := [.setStatefulSetStatus { readyReplicas := 1 }] } ::
      List.replicate 5 versionTurn) (settledStore spec)

def hostNetworkSpec : RabbitmqClusterSpec where
  storage := 10
  statefulSetOverride := some { spec := some { template := some { spec := some { hostNetwork := true } } } }

def asksForHostNetwork (c : RabbitmqCluster) : Bool :=
  c.spec.statefulSetOverride.any fun o => o.spec.any fun o => o.template.any fun t => t.spec.any PodSpec.hostNetwork

theorem override_rewritten : ∃ e ∈ (annotating hostNetworkSpec).trace, ¬ KeepsSpec e := by
  have hevent : ∃ e ∈ (annotating hostNetworkSpec).trace,
      e.before.cluster.map asksForHostNetwork = some true ∧
        e.after.cluster.map asksForHostNetwork = some false := by
    decide +kernel
  obtain ⟨e, he, hbefore, hafter⟩ := hevent
  obtain ⟨a, ha, hasks⟩ := Option.map_eq_some_iff.mp hbefore
  obtain ⟨b, hb, hsilent⟩ := Option.map_eq_some_iff.mp hafter
  refine ⟨e, he, fun h => ?_⟩
  rw [asksForHostNetwork, h a ha b hb, ← asksForHostNetwork, hasks] at hsilent
  cases hsilent

theorem versions_annotated :
    (annotating { storage := 10 }).trace.length = 42 ∧ ∀ e ∈ (annotating { storage := 10 }).trace, KeepsSpec e := by
  have hnone : ∀ e ∈ (annotating { storage := 10 }).trace, ∀ c ∈ e.before.cluster,
      c.spec.statefulSetOverride.isNone = true := by
    decide +kernel
  refine ⟨by decide +kernel, reconcile_keeps_spec _ rfl _ _ fun e he c hc => ?_⟩
  exact stable_of_none (Option.isNone_iff_eq_none.mp (hnone e he c hc))

end ClusterOperator.Controller
