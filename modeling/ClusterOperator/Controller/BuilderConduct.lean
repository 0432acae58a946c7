import ClusterOperator.Controller.Conduct

namespace ClusterOperator.Controller

open Api Kubernetes Interaction Resource

variable {r : Reconciler} {g₀ g : History} {m : Memory}

lemma finishTurn_follows (hm : Knows r g₀ m g) (builder : Builder) (restart : Bool)
    (result : Except Err OperationResult) :
    Follows (protocol r) (finishTurn builder restart m result) (Either (Knows r g₀) (Knows r g₀)) g := by
  cases result with
  | error err =>
    unfold finishTurn
    dsimp only
    split
    · exact (setReconcileSuccess_follows hm (by decide) _ _).bind fun m g hm => hm
    · exact (setReconcileSuccess_follows hm (by decide) _ _).bind fun m g hm => hm
  | ok result =>
    refine (neutral_follows (annotateIfNeeded_neutral builder restart result) hm).bind fun err g hm => ?_
    cases err <;> exact hm

lemma createOrUpdateOnConflict_follows {α σ : Type} [DecidableEq α] {P : Protocol api History}
    {client : Kubernetes.Resource α} {mutate : Bool → σ → α → σ × Except Err α}
    {K L : α → σ → History → Prop} (hL : ∀ obj x g, L obj x g → K obj x g)
    (h : ∀ obj x g, K obj x g →
      Follows P (createOrUpdate client mutate x obj) (fun y g => L y.2.1 y.2.2 g) g)
    {obj : α} {x : σ} (hx : K obj x g) :
    Follows P (createOrUpdateOnConflict client mutate x obj) (fun y g => ∃ obj, L obj y.2 g) g := by
  unfold createOrUpdateOnConflict
  refine (follows_onError (K := fun z g => K z.2.1 z.2.2 g) (L := fun z g => L z.2.1 z.2.2 g)
    (fun _ _ => hL _ _ _) (fun z g hz => ?_) _ hx).bind fun z g hz => ?_
  · refine (h _ _ g hz).bind fun y g hy => ?_
    rcases y with ⟨_ | result, obj, x⟩ <;> exact hy
  · rcases z with ⟨_ | err, result, obj, x⟩ <;> exact ⟨obj, hz⟩

section Children

lemma updateChild_memory (k : Kind) (fetched : Bool) (x : Memory × Bool) (obj : DataObject) :
    (updateChild r k fetched x obj).1.1 = x.1.compute := by
  cases k <;> rfl

lemma record_getChild_building {k : Kind} (hk : k = .headlessService ∨ g.building = true)
    (reply : Reply (.getChild k)) : (g.record (.getChild k) reply).building = true := by
  cases k with
  | headlessService => rfl
  | _ => exact hk.resolve_left nofun

lemma createMutated_child_follows {k : Kind} (obj : DataObject) {y : (Memory × Bool) × Except Err DataObject}
    (hy : Knows r g₀ y.1.1 g) :
    Follows (protocol r) (createMutated (Client.children k) obj y) (fun y g => Knows r g₀ y.2.2.1 g) g := by
  rcases y with ⟨y, err | o⟩
  · exact hy
  · refine (neutral_follows (sends_createChildren (fun _ => OnChild.neutral) o) hy).bind fun reply g hy => ?_
    cases reply <;> exact hy

lemma updateMutated_child_follows {k : Kind} (existing : DataObject)
    {y : (Memory × Bool) × Except Err DataObject} (hy : Knows r g₀ y.1.1 g) :
    Follows (protocol r) (updateMutated (Client.children k) existing y)
      (fun y g => Knows r g₀ y.2.2.1 g) g := by
  rcases y with ⟨y, err | o⟩
  · exact hy
  · unfold updateMutated
    dsimp only
    split
    · exact hy
    · refine (neutral_follows (sends_updateChildren (fun _ => OnChild.neutral) o) hy).bind fun reply g hy => ?_
      cases reply <;> exact hy

lemma createOrUpdate_child_follows {k : Kind} (hk : k = .headlessService ∨ g₀.building = true)
    (obj : DataObject) (x : Memory × Bool) (hm : Knows r g₀ x.1 g) :
    Follows (protocol r) (createOrUpdate (Client.children k) (updateChild r k) x obj)
      (fun y g => Knows r g₀ y.2.2.1 g ∧ g.building = true) g := by
  refine ⟨trivial, fun reply _ => ?_⟩
  have hread : Knows r g₀ x.1 (g.record (.getChild k) reply) :=
    Neutral.record (q := .getChild k) trivial reply hm
  have hbuilding := record_getChild_building (hk.imp_right hm.later.building) reply
  have hcomputed (fetched : Bool) (obj : DataObject) :
      Knows r _ (updateChild r k fetched x obj).1.1 (g.record (.getChild k) reply) :=
    (updateChild_memory k fetched x obj).symm ▸ hread.restart.compute hbuilding
  have hsince {m : Memory} {g' : History} (h : Knows r (g.record (.getChild k) reply) m g') :
      Knows r g₀ m g' ∧ g'.building = true := ⟨h.since hread.later, h.later.building hbuilding⟩
  cases reply with
  | error e =>
    cases e with
    | notFound => exact (createMutated_child_follows obj (hcomputed false obj)).post fun _ _ => hsince
    | _ => exact ⟨hread, hbuilding⟩
  | ok existing => exact (updateMutated_child_follows existing (hcomputed true existing)).post fun _ _ => hsince

lemma childTurn_follows {k : Kind} (hk : k = .headlessService ∨ g₀.building = true) (hm : Knows r g₀ m g) :
    Follows (protocol r) (childTurn r k m)
      (Either (Knows r g₀) fun m g => Knows r g₀ m g ∧ g.building = true) g := by
  refine (neutral_follows (sends_buildChild (fun _ => Passive.neutral) r k m) hm).bind fun reply g hm => ?_
  cases reply with
  | error err => exact hm
  | ok obj =>
    refine (createOrUpdateOnConflict_follows (K := fun _ x g => Knows r g₀ x.1 g)
      (L := fun _ x g => Knows r g₀ x.1 g ∧ g.building = true) (fun _ _ _ h => h.1)
      (fun obj x g hx => createOrUpdate_child_follows hk obj x hx) hm).bind fun y g hy => ?_
    obtain ⟨-, hy, hbuilding⟩ := hy
    refine (finishTurn_follows hy.restart (.child k) y.2.2 y.1).post fun z g' hz => ?_
    cases z with
    | error z => exact hz.since hy.later
    | ok m => exact ⟨hz.since hy.later, hz.later.building hbuilding⟩

end Children

section StatefulSet

def Own (r : Reconciler) (g : History) (obj : StatefulSet) : Prop :=
  0 < obj.metadata.resourceVersion ∨ Draft r g.received obj

variable {obj sts current : StatefulSet}

lemma Own.mono (h : Own r g obj) {g' : History} (hl : Later g g') : Own r g' obj :=
  h.imp_right fun hd => hd.mono hl.received

lemma updateStatefulSet_spec (hm : Knows r g₀ m g) (hb : g.building = true) (fetched : Bool)
    (sts : StatefulSet) :
    Knows r g₀ (updateStatefulSet r fetched m sts).1 g ∧
      ∃ v c, g.received.head? = some v ∧ Stems r v c ∧
        (updateStatefulSet r fetched m sts).2 = StatefulSetBuilder.update c r.merge sts := by
  obtain ⟨⟨v, hv, hs, hc⟩, hbuild, hobs, hl⟩ := hm.compute hb
  refine ⟨⟨⟨v, hv, hs.updateInMemory r.merge (m.sharesClaims && !fetched) sts, hc⟩, hbuild, hobs, hl⟩, ?_⟩
  refine ⟨v, _, hv, ?_, rfl⟩
  split
  · exact hs.inPlace (.raise _)
  · exact hs

lemma Own.update (h : Own r g obj) {v c : RabbitmqCluster} (hv : g.received.head? = some v)
    (hc : Stems r v c) (hu : StatefulSetBuilder.update c r.merge obj = .ok sts) : Own r g sts := by
  refine h.imp (fun hpos => ?_) (fun hd => hd.update (List.mem_of_mem_head? hv) hc hu)
  rwa [(StatefulSetBuilder.update_updated hu).resourceVersion]

lemma createMutated_statefulSet_follows (hm : Knows r g₀ m g) (hb : g.building = true) (hobj : Own r g obj) :
    Follows (protocol r) (createMutated Client.statefulSets obj (updateStatefulSet r false m obj))
      (fun y g => Knows r g₀ y.2.2 g ∧ Own r g y.2.1) g := by
  obtain ⟨hk, v, c, hv, hc, hu⟩ := updateStatefulSet_spec hm hb false obj
  generalize updateStatefulSet r false m obj = y at hk hu
  rcases y with ⟨m', err | o⟩
  · exact ⟨hk, hobj⟩
  · have ho : Own r g o := hobj.update hv hc hu.symm
    refine ⟨fun hzero => ⟨v, c, obj, hv, hc, hobj.resolve_left fun hpos => ?_, hu.symm⟩, fun reply hreply => ?_⟩
    · rw [(StatefulSetBuilder.update_updated hu.symm).resourceVersion] at hzero
      omega
    · cases reply with
      | error e => exact ⟨hk.tick, ho⟩
      | ok o' => exact ⟨hk.tick, Or.inl hreply⟩

lemma updateMutated_statefulSet_follows {existing : StatefulSet} (hm : Knows r g₀ m g) (hb : g.building = true)
    (hobj : Own r g existing) :
    Follows (protocol r) (updateMutated Client.statefulSets existing (updateStatefulSet r true m existing))
      (fun y g => Knows r g₀ y.2.2 g ∧ Own r g y.2.1) g := by
  obtain ⟨hk, v, c, hv, hc, hu⟩ := updateStatefulSet_spec hm hb true existing
  generalize updateStatefulSet r true m existing = y at hk hu
  rcases y with ⟨m', err | o⟩
  · exact ⟨hk, hobj⟩
  · have ho : Own r g o := hobj.update hv hc hu.symm
    unfold updateMutated
    dsimp only
    split
    · exact ⟨hk, ho⟩
    · refine ⟨trivial, fun reply hreply => ?_⟩
      cases reply with
      | error e => exact ⟨hk.tick, ho⟩
      | ok o' => exact ⟨hk.tick, Or.inl hreply⟩

lemma createOrUpdate_statefulSet_follows (hb : g₀.building = true) (hm : Knows r g₀ m g) (hobj : Own r g obj) :
    Follows (protocol r) (createOrUpdate Client.statefulSets (updateStatefulSet r) m obj)
      (fun y g => Knows r g₀ y.2.2 g ∧ Own r g y.2.1) g := by
  have hbuilding := hm.tick.later.building hb
  refine ⟨trivial, fun reply hreply => ?_⟩
  rcases reply with (_ | _ | _ | message) | existing
  · exact createMutated_statefulSet_follows hm.tick hbuilding hobj
  · exact ⟨hm.tick, hobj⟩
  · exact ⟨hm.tick, hobj⟩
  · exact ⟨hm.tick, hobj⟩
  · exact updateMutated_statefulSet_follows hm.tick hbuilding (Or.inl hreply)

lemma writeStatefulSet_follows (hb : g₀.building = true) (hm : Knows r g₀ m g) (hobj : Own r g sts) :
    Follows (protocol r) (writeStatefulSet r m sts) (Either (Knows r g₀) (Knows r g₀)) g := by
  refine (neutral_follows (sends_scale (fun _ => Passive.neutral) trivial (fun _ => trivial) _ _)
    hm.restart).bind fun reply g' hm' => ?_
  have hknows := hm'.since hm.later
  cases reply with
  | error err => exact (setReconcileSuccess_follows hknows (by decide) _ _).bind fun m g hm => hm
  | ok _ =>
    refine (createOrUpdateOnConflict_follows (K := fun obj m g => Knows r g₀ m g ∧ Own r g obj)
      (fun _ _ _ h => h) (fun obj m g h => createOrUpdate_statefulSet_follows hb h.1 h.2)
      ⟨hknows, hobj.mono hm'.later⟩).bind fun y g hy => ?_
    exact finishTurn_follows hy.choose_spec.1 .statefulSet false y.1

lemma recordEventsAndSetCondition_follows (hm : Knows r g₀ m g) (status : ConditionStatus)
    (reason msg : String) :
    Follows (protocol r) (recordEventsAndSetCondition m status reason msg) (fun m g => Knows r g₀ m g) g :=
  (patchStatus_follows hm _).bind fun _ _ hx => hx

lemma guardFromZero_follows (hm : Knows r g₀ m g) :
    Follows (protocol r) (guardFromZero m current sts) (Either (Knows r g₀) (Knows r g₀)) g := by
  unfold guardFromZero
  split
  · have hrestore : Follows (protocol r) (scaleFromZeroToBeforeReplicasConfigured m sts)
        (fun x g => Knows r g₀ x.2 g) g := by
      unfold scaleFromZeroToBeforeReplicasConfigured
      split
      · exact hm
      · exact (recordEventsAndSetCondition_follows hm _ _ _).bind fun m g hm => hm
    refine hrestore.bind fun x g hx => ?_
    rcases x with ⟨_ | _, m⟩
    · have hremove : Follows (protocol r) (removeReplicasBeforeZeroAnnotationIfExists m)
          (fun m g => Knows r g₀ m g) g := by
        unfold removeReplicasBeforeZeroAnnotationIfExists
        split
        · exact hx
        · exact (deleteAnnotation_follows hx _).bind fun y g hy => hy.annotated
      exact hremove.bind fun m g hm => hm
    · exact hx
  · exact hm

lemma guardReplicas_follows (hm : Knows r g₀ m g) :
    Follows (protocol r) (guardReplicas m current sts) (Either (Knows r g₀) (Knows r g₀)) g := by
  unfold guardReplicas
  split
  · have hsave : Follows (protocol r) (saveReplicasBeforeZero m current) (fun x g => Knows r g₀ x.2 g) g :=
      (updateAnnotation_follows hm _ _).bind fun y g hy => hy.annotated
    refine hsave.bind fun x g hx => ?_
    rcases x with ⟨_ | err, m⟩
    · exact guardFromZero_follows hx
    · exact hx
  · have hdown : Follows (protocol r) (scaleDown m current sts) (fun x g => Knows r g₀ x.2 g) g := by
      unfold scaleDown
      split
      · exact (recordEventsAndSetCondition_follows hm _ _ _).bind fun m g hm => hm
      · exact hm
    refine hdown.bind fun x g hx => ?_
    rcases x with ⟨_ | _, m⟩
    · exact guardFromZero_follows hx
    · exact hx

lemma statefulSetTurn_follows (hb : g₀.building = true) (hm : Knows r g₀ m g) :
    Follows (protocol r) (statefulSetTurn r m) (Either (Knows r g₀) (Knows r g₀)) g := by
  have hfresh : Knows r g₀ { m with sharesClaims := false } g.tick := hm.tick.congr rfl rfl rfl rfl rfl
  obtain ⟨v, hv, hs, -⟩ := hfresh.stems
  have hbuild : Draft r g.tick.received (StatefulSetBuilder.build m.cluster) :=
    .build (List.mem_of_mem_head? hv) hs
  refine ⟨trivial, fun reply _ => ?_⟩
  rcases reply with (_ | _ | _ | message) | current
  · exact writeStatefulSet_follows hb hfresh (Or.inr hbuild)
  · exact hfresh
  · exact hfresh
  · exact hfresh
  · obtain ⟨hk, w, c, hw, hc, hu⟩ := updateStatefulSet_spec hfresh (hfresh.later.building hb) false
      (StatefulSetBuilder.build m.cluster)
    generalize updateStatefulSet r false _ (StatefulSetBuilder.build m.cluster) = y at hk hu ⊢
    rcases y with ⟨m', err | sts⟩
    · exact hk
    · have hsts : Own r g.tick sts := Own.update (Or.inr hbuild) hw hc hu.symm
      refine follows_orReturn (Q := fun m g' => Knows r g₀ m g' ∧ Later g.tick g') ?_
        fun m g' h => writeStatefulSet_follows hb h.1 (hsts.mono h.2)
      refine (guardReplicas_follows hk.restart).post fun x g' hx => ?_
      cases x with
      | error y => exact hx.since hk.later
      | ok m => exact ⟨hx.since hk.later, hx.later⟩

end StatefulSet

lemma builderTurn_follows {builder : Builder} (hk : builder = .child .headlessService ∨ g.building = true)
    (hm : Knows r g₀ m g) :
    Follows (protocol r) (builderTurn r m builder)
      (Either (Knows r g₀) fun m g => Knows r g₀ m g ∧ g.building = true) g := by
  have hsince {m : Memory} {g' : History} (h : Knows r g m g') : Knows r g₀ m g' := h.since hm.later
  cases builder with
  | child k =>
    refine (childTurn_follows (hk.imp_left fun h => by cases h; rfl) hm.restart).post fun x g' hx => ?_
    cases x with
    | error y => exact hsince hx
    | ok m => exact ⟨hsince hx.1, hx.2⟩
  | statefulSet =>
    have hbuilding := hk.resolve_left nofun
    refine (statefulSetTurn_follows hbuilding hm.restart).post fun x g' hx => ?_
    cases x with
    | error y => exact hsince hx
    | ok m => exact ⟨hsince hx, hx.later.building hbuilding⟩

lemma first_or_building {builder : Builder} {builders : List Builder} {b : Prop}
    (hb : (builder :: builders).head? = some (.child .headlessService) ∨ builder :: builders = [] ∨ b) :
    builder = .child .headlessService ∨ b := by
  rcases hb with hb | hb | hb
  · exact Or.inl (Option.some.inj hb)
  · cases hb
  · exact Or.inr hb

lemma builderLoop_follows {builders : List Builder}
    (hb : builders.head? = some (.child .headlessService) ∨ builders = [] ∨ g.building = true)
    (hm : Knows r g₀ m g) :
    Follows (protocol r) (builderLoop r m builders) (Either (Knows r g₀) (Knows r g₀)) g := by
  induction builders generalizing m g with
  | nil => exact hm
  | cons builder builders ih =>
    refine follows_orReturn (builderTurn_follows (first_or_building hb) hm) fun m g h => ?_
    exact ih (Or.inr (Or.inr h.2)) h.1

end ClusterOperator.Controller
