import ClusterOperator.Controller.ConfigNotes
import ClusterOperator.Interaction.Rounds

namespace ClusterOperator.Controller

open Api Kubernetes Interaction Resource

def Restarted (e : Event api Store) : Prop :=
  ∃ o ∈ e.before.statefulSet, ∃ o' ∈ e.after.statefulSet, restartedAt o' ≠ restartedAt o

def LeftAlone (e : Event api Store) : Prop := ∀ rmq ∈ replyCluster e.request e.reply, Untouched rmq

def clock : Protocol api (Option String) where
  allows _ _ := True
  expects _ _ _ := True
  next last q reply := (reading q reply).or last

/-- The time of the last restart is not after that in the ConfigMap, and it becomes the time that was
read last. -/
def OnlyIfDue (last : Option String) (e : Event api Store) : Prop :=
  Restarted e → Config.server.Found e.before ∧ ∃ t ∈ last, ∀ o ∈ e.after.statefulSet, restartedAt o = some t

def Received (g : History) : Prop := ∀ v ∈ g.received, Untouched v

abbrev Watch := History × Option String

def watch (r : Reconciler) (g : Watch) (e : Event api Store) : Watch :=
  ((protocol r).observe g.1 e, clock.observe g.2 e)

variable {r : Reconciler} {x : Store × Watch} {g₀ : History} {m : Memory} {α β σ : Type}

abbrev Prudent (r : Reconciler) (p : Operation α) (Q : α → Store × Watch → Prop) (x : Store × Watch) : Prop :=
  Meets (server.track (watch r)) (fun e => LeftAlone e.untrack) (fun e => OnlyIfDue e.before.2.2 e.untrack) p Q x

lemma not_restarted {e : Event api Store} (h : SameRestart e.before e.after) : ¬ Restarted e := by
  rintro ⟨o, ho, o', ho', hne⟩
  obtain ⟨o₁, ho₁, heq⟩ := h o' ho'
  cases ho.symm.trans ho₁
  exact hne heq

section Rules

variable {p : Operation α} {Q : α → Store × Watch → Prop}

lemma Received.observe {g : History} {e : Event api Store} (h : Received g) (hleft : LeftAlone e) :
    Received ((protocol r).observe g e) := by
  intro v hv
  rw [Protocol.observe, protocol, record_received, List.mem_append, Option.mem_toList] at hv
  rcases hv with hv | hv
  · exact hleft v hv
  · exact h v hv

lemma prudent_bind {f : α → Operation β} {R : β → Store × Watch → Prop} (hx : Received x.2.1)
    (hp : Prudent r p Q x) (hf : ∀ a x, Received x.2.1 → Q a x → Prudent r (f a) R x) : Prudent r (p >>= f) R x :=
  (hp.keeps (J := fun x => Received x.2.1) (fun _ _ _ hs hleft _ => hs.observe (r := r) hleft) hx).bind
    fun a x h => hf a x h.2 h.1

lemma prudent_frame (hp : p.Sends (Unrelated Set.univ)) :
    Prudent r p (fun _ x' => Frame Set.univ x.1 x'.1) x := by
  refine Meets.of_sends (J := fun x' => Frame Set.univ x.1 x'.1) hp
    (fun t q (x' : Store × Watch) hq hx' _ => ?_) (.refl _)
  have hframe := hq.frame t (server.disturb t x'.1)
  exact ⟨fun h => absurd h (not_restarted hframe.restart), (hx'.trans (frame_disturb t x'.1)).trans hframe⟩

lemma prudent_of_sends (hp : p.Sends (Unrelated Set.univ)) : Prudent r p (fun _ _ => True) x :=
  (prudent_frame hp).post fun _ _ _ => trivial

lemma prudent_follows {K : α → History → Prop} (hp : Prudent r p Q x)
    (hfollows : Follows (protocol r) p K x.2.1) : Prudent r p (fun a x' => Q a x' ∧ K a x'.2.1) x :=
  hfollows.meets_both (f := Prod.fst) hp (fun _ _ => rfl) fun t q s g => expects_event t q s g

lemma prudent_stage {p : Operation (Except (Result × Memory) Memory)}
    {f : Memory → Operation (Except (Result × Memory) β)} (hx : Received x.2.1)
    (hp : Prudent r p (fun _ _ => True) x)
    (hfollows : Follows (protocol r) p (Either (Knows r g₀) (Knows r g₀)) x.2.1)
    (hf : ∀ m x, Received x.2.1 → Knows r g₀ m x.2.1 → Prudent r (f m) (fun _ _ => True) x) :
    Prudent r (orReturn p f) (fun _ _ => True) x := by
  refine prudent_bind hx (prudent_follows hp hfollows) fun y x hx hy => ?_
  cases y with
  | error z => exact trivial
  | ok m => exact hf m x hx hy.2

lemma prudent_orReturn {p : Operation (Except (Result × Memory) α)}
    {f : α → Operation (Except (Result × Memory) β)} (hp : Prudent r p (fun _ _ => True) x)
    (hf : ∀ a x, Prudent r (f a) (fun _ _ => True) x) : Prudent r (orReturn p f) (fun _ _ => True) x := by
  refine hp.bind fun y x _ => ?_
  cases y with
  | error z => exact trivial
  | ok a => exact hf a x

lemma prudent_read {q : Request} {next : Reply q → Operation α} {P : Reply q → Store → Prop} (hq : Unrelated ∅ q)
    (hP : ∀ t, P (server.event t q x.1).reply (server.event t q x.1).after)
    (hnext : ∀ reply x', Frame ∅ x.1 x'.1 → P reply x'.1 → Prudent r (next reply) Q x') :
    Prudent r (.send q next) Q x := by
  intro t hleft
  have hframe := hq.frame t (server.disturb t x.1)
  exact ⟨fun h => absurd h (not_restarted hframe.restart),
    hnext _ _ ((frame_disturb t x.1).trans hframe) (hP t)⟩

lemma prudent_getStatefulSet {next : Except ApiError StatefulSet → Operation α}
    (herror : ∀ e x', Frame ∅ x.1 x'.1 → Prudent r (next (.error e)) Q x')
    (hok : ∀ sts x', Frame ∅ x.1 x'.1 → x'.1.statefulSet = some sts → Prudent r (next (.ok sts)) Q x') :
    Prudent r (.send .getStatefulSet next) Q x := by
  refine prudent_read (P := fun reply s => ∀ sts, reply = .ok sts → s.statefulSet = some sts) trivial
    (fun t sts hsts => event_getStatefulSet hsts) fun reply x' hframe hreply => ?_
  cases reply with
  | error e => exact herror e x' hframe
  | ok sts => exact hok sts x' hframe (hreply sts rfl)

end Rules

section StatefulSet

variable {Q : α → Store × Watch → Prop} {o sts obj : StatefulSet}

lemma prudent_createStatefulSet {next : Reply (.createStatefulSet o) → Operation α}
    (hnext : ∀ reply x', Prudent r (next reply) Q x') : Prudent r (.send (.createStatefulSet o) next) Q x := by
  intro t hleft
  refine ⟨fun h => ?_, hnext _ _⟩
  exfalso
  obtain ⟨o₁, ho₁, o₂, ho₂, hne⟩ := h
  change (server.disturb t x.1).statefulSet = some o₁ at ho₁
  change (serve t (.createStatefulSet o) (server.disturb t x.1)).2.statefulSet = some o₂ at ho₂
  rcases serve_written t (.createStatefulSet o) (server.disturb t x.1) with hs | hw
  · rw [hs] at ho₂
    cases ho₁.symm.trans ho₂
    exact hne rfl
  · generalize (serve t (.createStatefulSet o) (server.disturb t x.1)).2 = s' at hw
    cases hw with
    | statefulSetCreated hnone _ => cases hnone.symm.trans ho₁

lemma prudent_updateStatefulSet {next : Reply (.updateStatefulSet o) → Operation α} (hsts : Holds sts x.1)
    (ho : restartedAt o = restartedAt sts) (hnext : ∀ reply x', Prudent r (next reply) Q x') :
    Prudent r (.send (.updateStatefulSet o) next) Q x := by
  intro t hleft
  have hholds := hsts.same (frame_disturb (C := ∅) t x.1).restart
  exact ⟨fun h => absurd h (not_restarted (hholds.frame (C := ∅) ho t).restart), hnext _ _⟩

lemma updateStatefulSet_untouched (hm : Untouched m.cluster) (fetched : Bool) (sts : StatefulSet) :
    Untouched (updateStatefulSet r fetched m sts).1.cluster ∧
      ∀ o, (updateStatefulSet r fetched m sts).2 = .ok o → restartedAt o = restartedAt sts := by
  have hstems := (Stems.refl (r := r) (v := m.cluster)).updateInMemory r.merge (m.sharesClaims && !fetched) sts
  refine ⟨hm.stems hstems, fun o ho => ?_⟩
  change StatefulSetBuilder.update (if _ then _ else _) r.merge sts = .ok o at ho
  split at ho
  · exact restartedAt_update (hm.inPlace (.raise (r := r) m.cluster.spec)) ho
  · exact restartedAt_update hm ho

lemma prudent_createOrUpdate_statefulSet (hm : Untouched m.cluster) (obj : StatefulSet) :
    Prudent r (createOrUpdate Client.statefulSets (updateStatefulSet r) m obj)
      (fun y _ => Untouched y.2.2.cluster) x := by
  refine prudent_getStatefulSet (fun e x' _ => ?_) fun existing x' _ hexisting => ?_
  · cases e with
    | notFound =>
      change Prudent r (createMutated _ obj (updateStatefulSet r false m obj)) _ _
      have hleft := (updateStatefulSet_untouched (r := r) hm false obj).1
      generalize updateStatefulSet r false m obj = y at hleft
      rcases y with ⟨m', err | o⟩
      · exact hleft
      · refine prudent_createStatefulSet fun reply x'' => ?_
        cases reply <;> exact hleft
    | _ => exact hm
  · change Prudent r (updateMutated _ existing (updateStatefulSet r true m existing)) _ _
    obtain ⟨hleft, hkeeps⟩ := updateStatefulSet_untouched (r := r) hm true existing
    generalize updateStatefulSet r true m existing = y at hleft hkeeps
    rcases y with ⟨m', err | o⟩
    · exact hleft
    · unfold updateMutated
      dsimp only
      split
      · exact hleft
      · refine prudent_updateStatefulSet (holds_of_stored hexisting) (hkeeps o rfl) fun reply x'' => ?_
        cases reply <;> exact hleft

lemma prudent_createOrUpdateOnConflict_statefulSet (hm : Untouched m.cluster) (obj : StatefulSet) :
    Prudent r (createOrUpdateOnConflict Client.statefulSets (updateStatefulSet r) m obj) (fun _ _ => True) x := by
  refine (meets_onError (K := fun z _ => Untouched z.2.2.cluster) (L := fun _ _ => True) (fun z x hz => ?_) _ hm).bind
    fun z x _ => ?_
  · refine (prudent_createOrUpdate_statefulSet hz z.2.1).bind fun y x hy => ?_
    rcases y with ⟨_ | _, obj, m⟩
    · exact fun _ => hy
    · exact trivial
  · rcases z with ⟨_ | err, result, obj, m⟩ <;> exact trivial

lemma prudent_stamp_statefulSet (key : String) (obj : StatefulSet) :
    Prudent r (stamp Client.statefulSets key obj) (fun _ _ => True) x := by
  refine prudent_read (P := fun _ _ => True) trivial (fun _ => trivial) fun t x' _ _ => ?_
  refine (meets_onError (K := fun _ _ => True) (L := fun _ _ => True) (fun o x _ => ?_) _ trivial).bind
    fun _ _ _ => trivial
  refine prudent_getStatefulSet (fun e x' _ _ => trivial) fun sts x' _ hsts => ?_
  refine prudent_updateStatefulSet (holds_of_stored hsts) rfl fun reply x'' => ?_
  cases reply
  · exact fun _ => trivial
  · exact trivial

lemma prudent_writeStatefulSet (hm : Untouched m.cluster) (obj : StatefulSet) :
    Prudent r (writeStatefulSet r m obj) (fun _ _ => True) x := by
  refine (prudent_of_sends (sends_scale (fun _ => Passive.unrelated) trivial (fun _ => trivial) _ _)).bind
    fun reply x _ => ?_
  cases reply with
  | error err =>
    exact prudent_of_sends ((sends_setReconcileSuccess (fun _ _ _ => trivial) _ _ _ _).bind fun _ => trivial)
  | ok _ =>
    refine (prudent_createOrUpdateOnConflict_statefulSet hm obj).bind fun y x _ => ?_
    rcases y with ⟨err | result, m⟩
    · refine prudent_of_sends ?_
      change Program.Sends (I := api) _ (if _ then _ else _)
      split <;> exact (sends_setReconcileSuccess (fun _ _ _ => trivial) _ _ _ _).bind fun _ => trivial
    · have hannotate : Prudent r (annotateIfNeeded .statefulSet false result) (fun _ _ => True) x := by
        change Prudent r (if _ then _ else _) _ _
        split
        · exact prudent_stamp_statefulSet _ _
        · exact trivial
      refine hannotate.bind fun err x _ => ?_
      cases err <;> exact trivial

lemma Knows.untouched {g : History} (h : Knows r g₀ m g) (hg : Received g) : Untouched m.cluster := by
  obtain ⟨v, hv, hs, -⟩ := h.stems
  exact (hg v (List.mem_of_mem_head? hv)).stems hs

lemma prudent_statefulSetTurn (hx : Received x.2.1) (hb : g₀.building = true) (hm : Knows r g₀ m x.2.1) :
    Prudent r (statefulSetTurn r m) (fun _ _ => True) x := by
  have hfresh : Knows r g₀ { m with sharesClaims := false } x.2.1 := hm.congr rfl rfl rfl rfl rfl
  have hget : Follows (protocol r) Client.getStatefulSet
      (fun _ g => Knows r g₀ { m with sharesClaims := false } g) x.2.1 :=
    neutral_follows (p := Client.getStatefulSet) ⟨trivial, fun _ => trivial⟩ hfresh
  refine prudent_bind hx (prudent_follows (prudent_of_sends (p := Client.getStatefulSet)
    ⟨trivial, fun _ => trivial⟩) hget) fun reply x hx hfresh => ?_
  replace hfresh := hfresh.2
  rcases reply with (_ | _ | _ | message) | current
  · exact prudent_writeStatefulSet (hfresh.untouched hx) _
  · exact trivial
  · exact trivial
  · exact trivial
  · obtain ⟨hk, -⟩ := updateStatefulSet_spec hfresh (hfresh.later.building hb) false
      (StatefulSetBuilder.build m.cluster)
    dsimp only
    generalize updateStatefulSet r false _ (StatefulSetBuilder.build m.cluster) = y at hk ⊢
    rcases y with ⟨m', err | sts⟩
    · exact trivial
    · exact prudent_stage hx (prudent_of_sends (sends_guardReplicas (fun _ => OnCluster.unrelated) _ _ _))
        (guardReplicas_follows hk.restart) fun m x hx hm => prudent_writeStatefulSet (hm.untouched hx) sts

end StatefulSet

section Loop

lemma prudent_childTurn (k : Kind) (m : Memory) : Prudent r (childTurn r k m) (fun _ _ => True) x :=
  prudent_of_sends (sends_childTurn (fun _ => Passive.unrelated)
    (fun _ => OnChild.unrelated fun c hc => absurd (Set.mem_univ c) hc) (fun _ => OnCluster.unrelated) r m)

lemma prudent_builderLoop {builders : List Builder} (hx : Received x.2.1)
    (hb : builders.head? = some (.child .headlessService) ∨ builders = [] ∨ x.2.1.building = true)
    (hm : Knows r g₀ m x.2.1) : Prudent r (builderLoop r m builders) (fun _ _ => True) x := by
  induction builders generalizing m x with
  | nil => exact trivial
  | cons builder builders ih =>
    have hk : builder = .child .headlessService ∨ x.2.1.building = true := first_or_building hb
    have hturn : Prudent r (builderTurn r m builder) (fun _ _ => True) x := by
      cases builder with
      | child k => exact prudent_childTurn k m
      | statefulSet => exact prudent_statefulSetTurn hx (hk.resolve_left nofun) hm.restart
    refine prudent_bind hx (prudent_follows hturn (builderTurn_follows hk hm)) fun y x hx hy => ?_
    cases y with
    | error z => exact trivial
    | ok m => exact ih hx (Or.inr (Or.inr hy.2.2)) hy.2.1

end Loop

end ClusterOperator.Controller
