import ClusterOperator.Controller.ConfigTurns

namespace ClusterOperator.Controller

open Api Kubernetes Interaction Resource

variable {r : Reconciler} {x : Store × Ledger} {g₀ g : History} {m : Memory} {obj : StatefulSet}

section Drafts

lemma Draft.restartedAt {received : List RabbitmqCluster} (h : Draft r received obj)
    (husable : ∀ v ∈ received, Usable v) : Controller.restartedAt obj = none := by
  induction h with
  | build hv hc => rfl
  | update _ hv hc hout ih => exact (restartedAt_update ((husable _ hv).stems hc).toUntouched hout).trans ih

lemma Knows.usable (hm : Knows r g₀ m x.2.1) (h : Sound x) : Usable m.cluster := by
  obtain ⟨v, hv, hs, -⟩ := hm.stems
  exact (h.usable v (List.mem_of_mem_head? hv)).stems hs

lemma updateStatefulSet_keeps (hm : Knows r g₀ m x.2.1) (hb : x.2.1.building = true) (h : Sound x)
    {fetched : Bool} {o : StatefulSet} (ho : (updateStatefulSet r fetched m obj).2 = .ok o) :
    restartedAt o = restartedAt obj ∧ o.metadata.resourceVersion = obj.metadata.resourceVersion := by
  obtain ⟨-, v, c, hv, hc, hu⟩ := updateStatefulSet_spec hm hb fetched obj
  rw [ho] at hu
  exact ⟨restartedAt_update ((h.usable v (List.mem_of_mem_head? hv)).stems hc).toUntouched hu.symm,
    (StatefulSetBuilder.update_updated hu.symm).resourceVersion⟩

end Drafts

section Requests

variable {α : Type} {Q : α → Store × Ledger → Prop} {o : StatefulSet} (h : Sound x)
include h

lemma careful_createStatefulSet {next : Reply (.createStatefulSet o) → Operation α}
    (ho : o.metadata.resourceVersion = 0 → restartedAt o = none)
    (hnext : ∀ reply x', Sound x' → Careful r (next reply) Q x') :
    Careful r (.send (.createStatefulSet o) next) Q x := by
  refine careful_send fun t hfair => ?_
  suffices hsound : Sound (advance r t (.createStatefulSet o) x) from ⟨hsound, hnext _ _ hsound⟩
  rcases serve_written t (.createStatefulSet o) (server.disturb t x.1) with hs | hw
  · refine (h.framed hfair (C := ∅) ?_ fun _ hc => hc.elim).sound
    rw [hs]
    exact .refl _
  · have hafter : (serve t (.createStatefulSet o) (server.disturb t x.1)).2.child = (server.disturb t x.1).child ∧
        ∀ o' ∈ (serve t (.createStatefulSet o) (server.disturb t x.1)).2.statefulSet, restartedAt o' = none := by
      generalize (serve t (.createStatefulSet o) (server.disturb t x.1)).2 = s' at hw
      cases hw with
      | statefulSetCreated _ hv =>
        refine ⟨rfl, fun o' ho' => ?_⟩
        cases ho'
        exact ho hv
    refine h.of_found hfair fun c hnoted => ?_
    rcases debts_of_eq (e := server.event t (.createStatefulSet o) x.1) (congrFun hafter.1 c.kind) with hd | hd
    · cases hnoted.symm.trans hd
    · have hchild := congrFun (hafter.1.trans (disturb_child t x.1)) c.kind
      refine (h.found c (hd.symm.trans hnoted)).of_eq hchild fun u hu => ?_
      cases c with
      | plugins => exact hu
      | server =>
        intro o' ho' y hy
        rw [hafter.2 o' ho'] at hy
        cases hy

lemma careful_updateStatefulSet {sts : StatefulSet} {next : Reply (.updateStatefulSet o) → Operation α}
    (hsts : Holds sts x.1) (ho : restartedAt o = restartedAt sts)
    (hnext : ∀ reply x', Onward ∅ x x' → Careful r (next reply) Q x') :
    Careful r (.send (.updateStatefulSet o) next) Q x :=
  careful_send fun t hfair =>
    have hholds := hsts.same (frame_disturb (C := ∅) t x.1).restart
    have honward := h.framed (r := r) hfair (hholds.frame ho t) fun _ hc => hc.elim
    ⟨honward.sound, hnext _ _ honward⟩

lemma careful_stamp_statefulSet (key : String) (obj : StatefulSet) :
    Careful r (stamp Client.statefulSets key obj) (fun _ _ => True) x := by
  refine careful_now h fun t x' honward _ _ => ?_
  refine (careful_onError (K := fun _ _ => True) (L := fun _ => True) (fun o x hx _ => ?_) _
    honward.sound trivial).bind fun _ _ _ => trivial
  refine careful_getStatefulSet hx (fun e x' _ => ⟨trivial, fun _ => trivial⟩) fun sts x' honward hsts => ?_
  have hholds : Holds sts x'.1 := holds_of_stored hsts
  refine careful_updateStatefulSet honward.sound hholds rfl fun reply x'' _ => ?_
  cases reply <;> exact ⟨trivial, fun _ => trivial⟩

end Requests

section Turn

variable (h : Sound x)
include h

lemma careful_createOrUpdate_statefulSet (hb : g₀.building = true) (hm : Knows r g₀ m x.2.1)
    (hobj : Own r x.2.1 obj) :
    Careful r (createOrUpdate Client.statefulSets (updateStatefulSet r) m obj)
      (fun y x => Knows r g₀ y.2.2 x.2.1 ∧ Own r x.2.1 y.2.1) x := by
  refine Meets.post (careful_follows (Q := fun _ _ => True) ?_ (createOrUpdate_statefulSet_follows hb hm hobj))
    fun _ _ hy => hy.2
  have hbuilding := hm.later.building hb
  refine careful_getStatefulSet h (fun e x' honward => ?_) fun existing x' honward hexisting => ?_
  · cases e with
    | notFound =>
      change Careful r (createMutated _ obj (updateStatefulSet r false m obj)) _ _
      have hkeeps : ∀ o, (updateStatefulSet r false m obj).2 = .ok o → restartedAt o = restartedAt obj ∧
          o.metadata.resourceVersion = obj.metadata.resourceVersion :=
        fun o ho => updateStatefulSet_keeps hm hbuilding h ho
      generalize updateStatefulSet r false m obj = y at hkeeps
      rcases y with ⟨m', err | o⟩
      · exact trivial
      · obtain ⟨hrestarted, hversion⟩ := hkeeps o rfl
        refine careful_createStatefulSet honward.sound (fun hzero => hrestarted.trans ?_) fun reply x'' _ => ?_
        · rcases hobj with hpos | hdraft
          · omega
          · exact hdraft.restartedAt h.usable
        · cases reply <;> exact trivial
    | _ => exact trivial
  · change Careful r (updateMutated _ existing (updateStatefulSet r true m existing)) _ _
    have hkeeps : ∀ o, (updateStatefulSet r true m existing).2 = .ok o → restartedAt o = restartedAt existing :=
      fun o ho => (updateStatefulSet_keeps hm hbuilding h ho).1
    generalize updateStatefulSet r true m existing = y at hkeeps
    rcases y with ⟨m', err | o⟩
    · exact trivial
    · have hholds : Holds existing x'.1 := holds_of_stored hexisting
      unfold updateMutated
      dsimp only
      split
      · exact trivial
      · refine careful_updateStatefulSet honward.sound hholds (hkeeps o rfl) fun reply x'' _ => ?_
        cases reply <;> exact trivial

lemma careful_writeStatefulSet (hb : g₀.building = true) (hm : Knows r g₀ m x.2.1) (hobj : Own r x.2.1 obj) :
    Careful r (writeStatefulSet r m obj) (fun _ _ => True) x := by
  have hscale : Careful r (reconcilePVC m obj) (fun _ x' => Onward ∅ x x') x :=
    careful_of_sends h (sends_scale (fun _ => Passive.unrelated) trivial (fun _ => trivial) _ _)
  refine careful_bind h (careful_follows hscale (neutral_follows (sends_scale (fun _ => Passive.neutral) trivial
    (fun _ => trivial) _ _) hm.restart)) fun reply x hx hreply => ?_
  have hknows := hreply.2.since hm.later
  cases reply with
  | error err =>
    refine Meets.post (careful_of_sends hx ?_) fun _ _ _ => trivial
    exact (sends_setReconcileSuccess (fun _ _ _ => trivial) _ _ _ _).bind fun _ => trivial
  | ok _ =>
    refine careful_bind hx (careful_createOrUpdateOnConflict
      (K := fun m obj x => Knows r g₀ m x.2.1 ∧ Own r x.2.1 obj)
      (fun m obj x hx hK => careful_createOrUpdate_statefulSet hx hb hK.1 hK.2) hx
      ⟨hknows, hobj.mono hreply.2.later⟩) fun y x hx _ => ?_
    refine careful_finishTurn hx _ _ fun result => ?_
    change Careful r (if _ then _ else _) _ _
    split
    · exact careful_stamp_statefulSet hx _ _
    · exact trivial

lemma careful_statefulSetTurn (hb : g₀.building = true) (hm : Knows r g₀ m x.2.1) :
    Careful r (statefulSetTurn r m) (fun _ _ => True) x := by
  have hfresh : Knows r g₀ { m with sharesClaims := false } x.2.1 := hm.congr rfl rfl rfl rfl rfl
  have hget : Client.getStatefulSet.Sends (Unrelated ∅) := ⟨trivial, fun _ => trivial⟩
  refine careful_bind h (careful_follows (careful_of_sends h hget) (neutral_follows
    (p := Client.getStatefulSet) ⟨trivial, fun _ => trivial⟩ hfresh)) fun reply x hx hreply => ?_
  replace hfresh := hreply.2
  obtain ⟨v, hv, hs, -⟩ := hfresh.stems
  have hbuild : Own r x.2.1 (StatefulSetBuilder.build m.cluster) := Or.inr (.build (List.mem_of_mem_head? hv) hs)
  rcases reply with (_ | _ | _ | message) | current
  · exact careful_writeStatefulSet hx hb hfresh hbuild
  · exact trivial
  · exact trivial
  · exact trivial
  · obtain ⟨hk, w, c, hw, hc, hu⟩ := updateStatefulSet_spec hfresh (hfresh.later.building hb) false
      (StatefulSetBuilder.build m.cluster)
    dsimp only
    generalize updateStatefulSet r false _ (StatefulSetBuilder.build m.cluster) = y at hk hu ⊢
    rcases y with ⟨m', err | sts⟩
    · exact trivial
    · have hsts : Own r x.2.1 sts := hbuild.update hw hc hu.symm
      refine careful_bind hx (careful_follows (careful_of_sends hx
        (sends_guardReplicas (fun _ => OnCluster.unrelated) _ _ _)) (guardReplicas_follows hk.restart))
        fun z x hx hz => ?_
      cases z with
      | error y => exact trivial
      | ok m => exact careful_writeStatefulSet hx hb (hz.2.since hk.later) (hsts.mono hz.2.later)

end Turn

section Loop

lemma careful_builderLoop {builders : List Builder} (h : Sound x)
    (hb : builders.head? = some (.child .headlessService) ∨ builders = [] ∨ x.2.1.building = true)
    (hm : Knows r g₀ m x.2.1) : Careful r (builderLoop r m builders) (fun _ _ => True) x := by
  induction builders generalizing m x with
  | nil => exact trivial
  | cons builder builders ih =>
    have hk : builder = .child .headlessService ∨ x.2.1.building = true := first_or_building hb
    have hturn : Careful r (builderTurn r m builder) (fun _ _ => True) x := by
      cases builder with
      | child k => exact careful_childTurn h k m
      | statefulSet => exact careful_statefulSetTurn h (hk.resolve_left nofun) hm.restart
    refine careful_bind h (careful_follows hturn (builderTurn_follows hk hm)) fun y x hx hy => ?_
    cases y with
    | error z => exact trivial
    | ok m => exact ih hx (Or.inr (Or.inr hy.2.2)) hy.2.1

end Loop

end ClusterOperator.Controller
