import ClusterOperator.Controller.ConfigNotes

namespace ClusterOperator.Controller

open Api Kubernetes Interaction Resource

variable {r : Reconciler} {C : Set Config} {c : Config} {x : Store × Ledger} {α β σ : Type}
  {Q : α → Store × Ledger → Prop}

section Requests

lemma careful_send {q : Request} {next : Reply q → Operation α}
    (h : ∀ t, Fair (server.event t q x.1) → Sound (advance r t q x) ∧
      Careful r (next (server.event t q x.1).reply) Q (advance r t q x)) : Careful r (.send q next) Q x := h

variable (h : Sound x)
include h

lemma careful_read {q : Request} {next : Reply q → Operation α} {P : Reply q → Store → Prop}
    (hq : Unrelated ∅ q)
    (hP : ∀ t, Fair (server.event t q x.1) → P (server.event t q x.1).reply (server.event t q x.1).after)
    (hnext : ∀ reply x', Onward ∅ x x' → P reply x'.1 → Careful r (next reply) Q x') :
    Careful r (.send q next) Q x :=
  careful_send fun t hfair =>
    have honward := h.framed (r := r) hfair (hq.frame t _) fun _ hc => hc.elim
    ⟨honward.sound, hnext _ _ honward (hP t hfair)⟩

lemma careful_of_sends {p : Operation α} (hp : p.Sends (Unrelated ∅)) :
    Careful r p (fun _ x' => Onward ∅ x x') x :=
  Meets.of_sends hp (fun t _ _ hq hx hfair =>
    have honward := hx.sound.framed (r := r) hfair (Unrelated.frame hq t _) fun _ hc => hc.elim
    ⟨honward.sound, hx.trans honward⟩) h.onward

lemma careful_getChild {k : Kind} {next : Except ApiError DataObject → Operation α}
    (herror : ∀ e x', Onward ∅ x x' → (e = .notFound → x'.1.child k = none) →
      Careful r (next (.error e)) Q x')
    (hok : ∀ o x', Onward ∅ x x' → x'.1.child k = some o → Careful r (next (.ok o)) Q x') :
    Careful r (.send (.getChild k) next) Q x := by
  refine careful_read h (P := fun reply s => (∃ o, reply = .ok o ∧ s.child k = some o) ∨
      ∃ e, reply = .error e ∧ (e = .notFound → s.child k = none)) trivial
    (fun t _ => event_getChild_cases t k x.1) fun reply x' honward hreply => ?_
  rcases hreply with ⟨o, rfl, ho⟩ | ⟨e, rfl, he⟩
  · exact hok o x' honward ho
  · exact herror e x' honward he

lemma careful_getStatefulSet {next : Except ApiError StatefulSet → Operation α}
    (herror : ∀ e x', Onward ∅ x x' → Careful r (next (.error e)) Q x')
    (hok : ∀ sts x', Onward ∅ x x' → x'.1.statefulSet = some sts → Careful r (next (.ok sts)) Q x') :
    Careful r (.send .getStatefulSet next) Q x := by
  refine careful_read h (P := fun reply s => ∀ sts, reply = .ok sts → s.statefulSet = some sts)
    trivial (fun t _ sts hsts => event_getStatefulSet hsts) fun reply x' honward hreply => ?_
  cases reply with
  | error e => exact herror e x' honward
  | ok sts => exact hok sts x' honward (hreply sts rfl)

lemma careful_now {next : String → Operation α}
    (hnext : ∀ t x', Onward ∅ x x' → t ≠ "" → (∀ o ∈ x'.1.statefulSet, ∀ y ∈ restartedAt o, y < t) →
      Careful r (next t) Q x') : Careful r (.send .now next) Q x := by
  refine careful_read h (P := fun t s => t ≠ "" ∧ ∀ o ∈ s.statefulSet, ∀ y ∈ restartedAt o, y < t)
    trivial (fun t hfair => ?_) fun t x' honward ht => hnext t x' honward ht.1 ht.2
  have hafter : (server.event t .now x.1).after = (server.event t .now x.1).before := by
    change (serve t .now (server.disturb t x.1)).2 = server.disturb t x.1
    unfold serve
    split <;> rfl
  rw [hafter]
  exact hfair.clock _ rfl

end Requests

section Rules

variable {p : Operation α}

lemma careful_sound (h : Sound x) (hp : Careful r p Q x) : Careful r p (fun a x => Q a x ∧ Sound x) x :=
  hp.keeps (fun _ _ _ _ _ hsound => hsound) h

lemma careful_bind {f : α → Operation β} {R : β → Store × Ledger → Prop} (h : Sound x) (hp : Careful r p Q x)
    (hf : ∀ a x, Sound x → Q a x → Careful r (f a) R x) : Careful r (p >>= f) R x :=
  (careful_sound h hp).bind fun a x hx => hf a x hx.2 hx.1

lemma careful_onError {retriable : Err → Bool} {attempt : σ → Operation (Option Err × σ)}
    {K : σ → Store × Ledger → Prop} {L : Store × Ledger → Prop}
    (hattempt : ∀ y x, Sound x → K y x →
      Careful r (attempt y) (fun z x => K z.2 x ∧ (z.1 = none → L x)) x)
    (n : ℕ) (h : Sound x) {y : σ} (hy : K y x) :
    Careful r (onError retriable attempt n y) (fun z x => z.1 = none → L x) x := by
  refine meets_onError (K := fun y x => Sound x ∧ K y x) (L := fun _ x => L x) (fun y x hy => ?_) n ⟨h, hy⟩
  refine (careful_sound hy.1 (hattempt y x hy.1 hy.2)).post fun z x hz => ?_
  rcases z with ⟨_ | err, z⟩
  · exact hz.1.2 rfl
  · exact fun _ => ⟨hz.2, hz.1.1⟩

lemma careful_createOrUpdateOnConflict [DecidableEq α] {client : Kubernetes.Resource α}
    {mutate : Bool → σ → α → σ × Except Err α} {K : σ → α → Store × Ledger → Prop}
    (hattempt : ∀ m obj x, Sound x → K m obj x →
      Careful r (createOrUpdate client mutate m obj) (fun y x => K y.2.2 y.2.1 x) x)
    (h : Sound x) {m : σ} {obj : α} (hm : K m obj x) :
    Careful r (createOrUpdateOnConflict client mutate m obj) (fun _ _ => True) x := by
  refine (careful_onError (K := fun z x => K z.2.2 z.2.1 x) (L := fun _ => True) (fun z x hx hz => ?_) _ h hm).bind
    fun z x _ => ?_
  · refine (hattempt z.2.2 z.2.1 x hx hz).bind fun y x hy => ?_
    rcases y with ⟨_ | _, obj, m⟩ <;> exact ⟨hy, fun _ => trivial⟩
  · rcases z with ⟨_ | err, result, obj, m⟩ <;> exact trivial

lemma careful_follows {K : α → History → Prop} (hp : Careful r p Q x)
    (hfollows : Follows (protocol r) p K x.2.1) : Careful r p (fun a x' => Q a x' ∧ K a x'.2.1) x :=
  hfollows.meets_both (f := Prod.fst) hp (fun _ _ => rfl) fun t q s g => expects_event t q s g

end Rules

section Children

variable (h : Sound x)
include h

lemma careful_writeChild {q : Request} {o : DataObject} {next : Reply q → Operation α}
    (hq : q = .createChild c.kind o ∨ q = .updateChild c.kind o)
    (hsent : ∀ t version, (server.event t q x.1).after.child c.kind =
        some { o with metadata.resourceVersion := version } →
      x.2.2 c = .noted ∨ x.2.2 c = .raised ∧ c.Marked (server.event t q x.1) →
      ∃ u ∈ o.metadata.annotations.get? c.key, c.Valid u x.1)
    (hnext : ∀ reply x', Onward {c} x x' → (x.2.2 c = .settled → x'.2.2 c ≠ .noted) →
      Careful r (next reply) Q x') : Careful r (.send q next) Q x := by
  refine careful_send fun t hfair => ?_
  have honward := h.written (r := r) hfair hq (hsent t)
  refine ⟨honward.sound, hnext _ _ honward fun hsettled hnoted => ?_⟩
  rcases Debt.eq_of_after_noted hnoted with hd | ⟨hd, -⟩ <;> cases hsettled.symm.trans hd

lemma careful_createChild {o : DataObject} {next : Reply (.createChild c.kind o) → Operation α}
    (hnone : x.1.child c.kind = none) (hnext : ∀ reply x', Sound x' → Careful r (next reply) Q x') :
    Careful r (.send (.createChild c.kind o) next) Q x := by
  refine careful_writeChild h (c := c) (Or.inl rfl) (fun t version _ hdebt => ?_) fun reply x' honward _ =>
    hnext reply x' honward.sound
  rcases hdebt with hnoted | ⟨-, o', ho', -⟩
  · obtain ⟨o', ho', -⟩ := h.found c hnoted
    cases hnone.symm.trans ho'
  · cases hnone.symm.trans ((congrFun (disturb_child t x.1) c.kind).symm.trans ho')

lemma careful_updateChild {existing o : DataObject} {next : Reply (.updateChild c.kind o) → Operation α}
    (hstored : x.1.child c.kind = some existing) (hne : o ≠ existing)
    (hannotations : o.metadata.annotations = existing.metadata.annotations)
    (hversion : o.metadata.resourceVersion = existing.metadata.resourceVersion)
    (hnext : ∀ reply x', Sound x' → Careful r (next reply) Q x') :
    Careful r (.send (.updateChild c.kind o) next) Q x := by
  refine careful_writeChild h (c := c) (Or.inr rfl) (fun t version hafter hdebt => ?_) fun reply x' honward _ =>
    hnext reply x' honward.sound
  rcases hdebt with hnoted | ⟨-, o₁, ho₁, o₂, ho₂, -, hcontents, -⟩
  · rw [hannotations]
    exact (h.found c hnoted).of_stored hstored
  · cases hstored.symm.trans ((congrFun (disturb_child t x.1) c.kind).symm.trans ho₁)
    cases hafter.symm.trans ho₂
    have hsame : contents o = contents existing := hcontents.symm
    exact absurd (eq_of_contents hsame hversion hannotations) hne

lemma careful_annotate (obj : DataObject) {t : String} (ht : c.Valid t x.1) :
    Careful r (annotate (Client.children c.kind) c.key t obj) (fun _ x' => c.Valid t x'.1) x := by
  refine careful_getChild h (fun e x' honward _ => ht.same honward.frame.restart) fun o x' honward _ => ?_
  have ht' := ht.same honward.frame.restart
  refine careful_writeChild honward.sound (c := c) (Or.inr rfl) (fun _ _ _ _ => ⟨t, ?_, ht'⟩)
    fun reply x'' honward' _ => ?_
  · change t ∈ (o.metadata.annotations.set c.key t).get? c.key
    rw [StringMap.get?_set, if_pos rfl]
    rfl
  · have ht'' := ht'.same honward'.frame.restart
    cases reply <;> exact ht''

lemma careful_stamp (obj : DataObject) :
    Careful r (stamp (Client.children c.kind) c.key obj) (fun _ _ => True) x := by
  refine careful_now h fun t x' honward hne hlater => ?_
  have ht : c.Valid t x'.1 := by
    cases c with
    | plugins => exact hne
    | server => exact fun o ho y hy => String.lt_asymm (hlater o ho y hy)
  refine (careful_onError (K := fun _ x => c.Valid t x.1) (L := fun _ => True) (fun o x hx ht => ?_) _
    honward.sound ht).bind fun z x _ => ?_
  · exact (careful_annotate hx o ht).post fun z x hz => ⟨hz, fun _ => trivial⟩
  · exact trivial

end Children

section ChildTurn

lemma updateChild_metadata {fetched : Bool} {y : Memory × Bool} {obj o : DataObject}
    (ho : (updateChild r c.kind fetched y obj).2 = .ok o) :
    o.metadata.annotations = obj.metadata.annotations ∧
      o.metadata.resourceVersion = obj.metadata.resourceVersion := by
  cases c with
  | plugins =>
    rw [controlled_eq ho]
    exact ⟨rfl, rfl⟩
  | server =>
    obtain ⟨_, -, -, hcontrolled⟩ := ServerConfigMapBuilder.updated_eq_ok.mp
      (ServerConfigMapBuilder.updated_of_update ho)
    rw [controlled_eq hcontrolled]
    exact ⟨rfl, rfl⟩

variable (h : Sound x)
include h

lemma careful_createOrUpdate_child (y : Memory × Bool) (obj : DataObject) :
    Careful r (createOrUpdate (Client.children c.kind) (updateChild r c.kind) y obj) (fun _ _ => True) x := by
  refine careful_getChild h (fun e x' honward hnone => ?_) fun existing x' honward hstored => ?_
  · cases e with
    | notFound =>
      change Careful r (createMutated _ obj (updateChild r c.kind false y obj)) _ _
      generalize updateChild r c.kind false y obj = z
      rcases z with ⟨y, err | o⟩
      · exact trivial
      · refine careful_createChild honward.sound (hnone rfl) fun reply x'' _ => ?_
        cases reply <;> exact trivial
    | _ => exact trivial
  · change Careful r (updateMutated _ existing (updateChild r c.kind true y existing)) _ _
    have hmetadata : ∀ o, (updateChild r c.kind true y existing).2 = .ok o →
        o.metadata.annotations = existing.metadata.annotations ∧
          o.metadata.resourceVersion = existing.metadata.resourceVersion := fun o ho => updateChild_metadata ho
    generalize updateChild r c.kind true y existing = z at hmetadata
    rcases z with ⟨y, err | o⟩
    · exact trivial
    · obtain ⟨hannotations, hversion⟩ := hmetadata o rfl
      unfold updateMutated
      dsimp only
      split
      · exact trivial
      · refine careful_updateChild honward.sound hstored ‹_› hannotations hversion fun reply x'' _ => ?_
        cases reply <;> exact trivial

lemma careful_finishTurn {builder : Builder} {restart : Bool} (m : Memory) (result : Except Err OperationResult)
    (hannotate : ∀ result, Careful r (annotateIfNeeded builder restart result) (fun _ _ => True) x) :
    Careful r (finishTurn builder restart m result) (fun _ _ => True) x := by
  cases result with
  | error err =>
    refine Meets.post (careful_of_sends h ?_) fun _ _ _ => trivial
    change Program.Sends (I := api) _ (if _ then _ else _)
    split <;> exact (sends_setReconcileSuccess (fun _ _ _ => trivial) _ _ _ _).bind fun _ => trivial
  | ok result =>
    refine (hannotate result).bind fun err x' _ => ?_
    cases err <;> exact trivial

lemma careful_annotateIfNeeded_child (restart : Bool) (result : OperationResult) :
    Careful r (annotateIfNeeded (.child c.kind) restart result) (fun _ _ => True) x := by
  cases c with
  | plugins =>
    change Careful r (if _ then _ else _) _ _
    split
    · exact careful_stamp (c := .plugins) h {}
    · exact trivial
  | server =>
    change Careful r (if _ then _ else _) _ _
    split
    · exact careful_stamp (c := .server) h {}
    · exact trivial

lemma careful_configTurn (m : Memory) : Careful r (childTurn r c.kind m) (fun _ _ => True) x := by
  have hwrite (obj : DataObject) : Careful r
      (createOrUpdateOnConflict (Client.children c.kind) (updateChild r c.kind) (m, true) obj >>= fun y =>
        finishTurn (.child c.kind) y.2.2 y.2.1 y.1) (fun _ _ => True) x := by
    refine careful_bind h (careful_createOrUpdateOnConflict (K := fun _ _ _ => True)
      (fun y obj x hx _ => careful_createOrUpdate_child hx y obj) h trivial) fun y x hx _ => ?_
    exact careful_finishTurn hx _ _ fun result => careful_annotateIfNeeded_child hx _ result
  cases c with
  | plugins => exact hwrite _
  | server => exact hwrite _

lemma careful_childTurn (k : Kind) (m : Memory) : Careful r (childTurn r k m) (fun _ _ => True) x := by
  by_cases hk : ∃ c : Config, c.kind = k
  · obtain ⟨c, rfl⟩ := hk
    exact careful_configTurn h m
  · refine (careful_of_sends h (sends_childTurn (fun _ => Passive.unrelated) (fun _ => OnChild.unrelated ?_)
      (fun _ => OnCluster.unrelated) r m)).post fun _ _ _ => trivial
    exact fun c _ hc => hk ⟨c, hc⟩

end ChildTurn

end ClusterOperator.Controller
