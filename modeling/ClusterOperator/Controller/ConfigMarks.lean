import ClusterOperator.Controller.Annotations
import ClusterOperator.Controller.ConfigTurns
import ClusterOperator.Resource.RestartFlag

/-! After a change of a ConfigMap the next three calls write the mark: the time is read, the
ConfigMap is fetched again, and it is written with the annotation. -/

namespace ClusterOperator.Controller

open Api Kubernetes Interaction Resource

section Contents

variable {ini : Ini} {c : Config} {o o' : DataObject}

lemma removeConfigNotRequiringNodeRestart_contents (ini : Ini) (o : DataObject) :
    removeConfigNotRequiringNodeRestart ini (contents o) =
      (removeConfigNotRequiringNodeRestart ini o).map contents := by
  unfold removeConfigNotRequiringNodeRestart
  change (if (o.data.get? "operatorDefaults.conf").getD "" = "" then _ else _) = _
  dsimp only
  split
  · rfl
  · change ((ini.load ((o.data.get? "operatorDefaults.conf").getD "")).mapError _ >>= _) = _
    cases ini.load ((o.data.get? "operatorDefaults.conf").getD "") <;> rfl

lemma not_differs_of_contents (h : contents o = contents o') : ¬ c.Differs ini o o' := by
  cases c with
  | plugins => exact fun hd => hd h
  | server => exact fun hd => hd (congrArg _ h)

lemma not_differs_of_removed (h : removeConfigNotRequiringNodeRestart ini o =
    removeConfigNotRequiringNodeRestart ini o') : ¬ Config.server.Differs ini o o' := by
  intro hd
  refine hd ?_
  rw [removeConfigNotRequiringNodeRestart_contents, removeConfigNotRequiringNodeRestart_contents, h]

lemma differs_version (version : ℕ) :
    c.Differs ini o { o' with metadata.resourceVersion := version } ↔ c.Differs ini o o' := by
  cases c <;> exact Iff.rfl

end Contents

def Elsewhere (k : Kind) : Request → Prop
  | .createChild j _ | .updateChild j _ | .deleteChild j => k ≠ j
  | _ => True

section Requests

variable {k : Kind} {q : Request} {c : Config}

lemma Elsewhere.child (hq : Elsewhere k q) (t : Turn) (s : Store) : (serve t q s).2.child k = s.child k := by
  rcases serve_written t q s with h | hw
  · rw [h]
  · rcases hw.child_cases k with h | ⟨rfl, -⟩ | ⟨o, ⟨rfl, -⟩ | ⟨rfl, -⟩, -⟩
    · exact h
    · exact absurd rfl hq
    · exact absurd rfl hq
    · exact absurd rfl hq

lemma Unrelated.elsewhere (h : Unrelated ∅ q) : Elsewhere c.kind q := by
  cases q <;> first | exact trivial | exact h c (Set.notMem_empty c)

lemma Passive.elsewhere (h : Passive q) : Elsewhere k q := by
  cases q <;> first | exact trivial | exact h.elim

lemma OnCluster.elsewhere (h : OnCluster q) : Elsewhere k q := by
  cases q <;> first | exact trivial | exact h.elim

lemma OnStatefulSet.elsewhere (h : OnStatefulSet q) : Elsewhere k q := by
  cases q <;> first | exact trivial | exact h.elim

lemma OnChild.elsewhere {j : Kind} (hk : k ≠ j) (h : OnChild j q) : Elsewhere k q := by
  cases q with
  | createChild i o =>
    cases h
    exact hk
  | updateChild i o =>
    cases h
    exact hk
  | _ => exact h.elim

end Requests

variable (r : Reconciler) (c : Config)

/-- A change of the ConfigMap is marked by the third call after it. -/
abbrev Marking {α : Type} (p : Operation α) (Q : α → Store × ℕ → Prop) (x : Store × ℕ) : Prop :=
  Timely server (c.Changed r.ini) Failed c.Marked 3 p Q x

variable {r c} {α β σ : Type} {Q : α → Store × ℕ → Prop} {x : Store × ℕ}

structure Rested (k : Kind) (x x' : Store × ℕ) : Prop where
  none : x'.2 = 0
  child : x'.1.child k = x.1.child k

section Calls

lemma marking_send {q : Request} {next : Reply q → Operation α}
    (h : ∀ t, (0 < x.2 ∨ c.Changed r.ini (server.event t q x.1) → ¬ Failed (server.event t q x.1)) →
      (x.2 = 1 → c.Marked (server.event t q x.1)) ∧ Marking r c (next (server.event t q x.1).reply) Q
        ((server.event t q x.1).after, countdown (c.Changed r.ini) 3 x.2 (server.event t q x.1))) :
    Marking r c (.send q next) Q x :=
  timely_send.mpr h

lemma countdown_of_eq {q : Request} {t : Turn}
    (h : (server.event t q x.1).after.child c.kind = (server.event t q x.1).before.child c.kind) :
    countdown (c.Changed r.ini) 3 x.2 (server.event t q x.1) = x.2 - 1 :=
  if_neg (not_changed_of_eq h)

lemma Elsewhere.rests {q : Request} (hq : Elsewhere c.kind q) (t : Turn) (s : Store) :
    (server.event t q s).after.child c.kind = s.child c.kind :=
  (hq.child t _).trans (congrFun (disturb_child t s) _)

lemma marking_of_sends {p : Operation α} (hp : p.Sends (Elsewhere c.kind)) (hx : x.2 = 0) :
    Marking r c p (fun _ x' => Rested c.kind x x') x := by
  refine Meets.of_sends hp (fun t q x' hq hx' _ => ?_) ⟨hx, rfl⟩
  have hcount := countdown_of_eq (r := r) (x := x') (hq.child t (server.disturb t x'.1))
  refine ⟨fun hone => ?_, hcount.trans (by rw [hx'.none]), (hq.rests t x'.1).trans hx'.child⟩
  exact absurd (hx'.none.symm.trans hone) (by decide)

lemma marking_elsewhere {p : Operation α} (hp : p.Sends (Elsewhere c.kind)) (hx : x.2 = 0) :
    Marking r c p (fun _ x' => x'.2 = 0) x :=
  (marking_of_sends hp hx).post fun _ _ h => h.none

lemma differs_of_changed {existing o : DataObject} {t : Turn} {s : Store}
    (hstored : s.child c.kind = some existing) (h : c.Changed r.ini (server.event t (.updateChild c.kind o) s)) :
    c.Differs r.ini existing o := by
  have hbefore : (server.disturb t s).child c.kind = some existing := (congrFun (disturb_child t s) _).trans hstored
  rcases serve_child_written (Or.inr rfl) t (server.disturb t s) with hsame | ⟨version, hafter⟩
  · exact absurd h (not_changed_of_eq hsame)
  · obtain ⟨o₁, ho₁, o₂, ho₂, hdiffers⟩ := h
    cases hbefore.symm.trans ho₁
    cases hafter.symm.trans ho₂
    exact (differs_version version).mp hdiffers

lemma ok_of_not_failed {k : Kind} {o : DataObject} {t : Turn} {s : Store}
    (h : ¬ Failed (server.event t (.updateChild k o) s)) :
    ∃ o', (server.event t (.updateChild k o) s).reply = .ok o' := by
  cases hreply : (server.event t (.updateChild k o) s).reply with
  | error e => exact absurd ⟨e, congrArg some hreply.symm⟩ h
  | ok o' => exact ⟨o', rfl⟩

lemma marking_getChild {next : Except ApiError DataObject → Operation α} (hone : x.2 ≠ 1)
    (herror : ∀ e x', Rested c.kind x x' → (e = .notFound → x'.1.child c.kind = none) →
      Marking r c (next (.error e)) Q x')
    (hok : ∀ o x', x'.2 = x.2 - 1 → x'.1.child c.kind = x.1.child c.kind → x'.1.child c.kind = some o →
      Marking r c (next (.ok o)) Q x') :
    Marking r c (.send (.getChild c.kind) next) Q x := by
  have hq : Elsewhere c.kind (.getChild c.kind) := trivial
  refine marking_send fun t hfails => ⟨fun h => absurd h hone, ?_⟩
  have hcount := countdown_of_eq (r := r) (hq.child t (server.disturb t x.1))
  have hchild := hq.rests t x.1
  rcases event_getChild_cases t c.kind x.1 with ⟨o, hreply, ho⟩ | ⟨e, hreply, he⟩
  · rw [hreply]
    exact hok o _ hcount hchild ho
  · have hzero : x.2 = 0 := by
      by_contra hpos
      exact hfails (Or.inl (Nat.pos_of_ne_zero hpos)) ⟨e, congrArg some hreply.symm⟩
    rw [hreply]
    exact herror e _ ⟨hcount.trans (by rw [hzero]), hchild⟩ he

lemma marking_writeBack {existing o : DataObject} {next : Reply (.updateChild c.kind o) → Operation α}
    (hstored : x.1.child c.kind = some existing) (hcontents : contents existing = contents o)
    (hx : x.2 = 0 ∨ x.2 = 1 ∧ (o.metadata.annotations.get? c.key).isSome = true)
    (hnext : ∀ reply x', x'.2 = 0 → Marking r c (next reply) Q x') :
    Marking r c (.send (.updateChild c.kind o) next) Q x := by
  refine marking_send fun t hfails => ?_
  have hbefore : (server.event t (.updateChild c.kind o) x.1).before.child c.kind = some existing :=
    (congrFun (disturb_child t x.1) _).trans hstored
  have hsame : ¬ c.Changed r.ini (server.event t (.updateChild c.kind o) x.1) :=
    fun h => not_differs_of_contents hcontents (differs_of_changed hstored h)
  refine ⟨fun hone => ?_, hnext _ _ ((if_neg hsame).trans (by omega))⟩
  obtain ⟨-, hkey⟩ := hx.resolve_left (by omega)
  obtain ⟨o', hreply⟩ := ok_of_not_failed (hfails (Or.inl (by omega)))
  have hafter : (server.event t (.updateChild c.kind o) x.1).after = (server.disturb t x.1).putChild c.kind o :=
    (serve_updateChild_ok hreply).2
  refine ⟨existing, hbefore, { o with metadata.resourceVersion := (server.disturb t x.1).revision + 1 }, ?_, ?_,
    hcontents, hkey⟩
  · rw [hafter]
    exact Function.update_self ..
  · exact (Nat.lt_succ_of_le ((server.disturb t x.1).child_issued c.kind existing hbefore).le).ne

lemma marking_update {existing o : DataObject} {next : Reply (.updateChild c.kind o) → Operation α}
    (hstored : x.1.child c.kind = some existing) (hx : x.2 = 0)
    (herror : ∀ e x', x'.2 = 0 → (e = .conflict → x'.1.child c.kind = some existing) →
      Marking r c (next (.error e)) Q x')
    (hok : ∀ o' x', (x'.2 = 0 ∨ x'.2 = 3 ∧ c.Differs r.ini existing o) → Marking r c (next (.ok o')) Q x') :
    Marking r c (.send (.updateChild c.kind o) next) Q x := by
  refine marking_send fun t hfails => ⟨fun hone => by omega, ?_⟩
  have hbefore : (server.disturb t x.1).child c.kind = some existing :=
    (congrFun (disturb_child t x.1) _).trans hstored
  by_cases hchanged : c.Changed r.ini (server.event t (.updateChild c.kind o) x.1)
  · obtain ⟨o', hreply⟩ := ok_of_not_failed (hfails (Or.inr hchanged))
    rw [hreply]
    exact hok o' _ (Or.inr ⟨if_pos hchanged, differs_of_changed hstored hchanged⟩)
  · have hzero : countdown (c.Changed r.ini) 3 x.2 (server.event t (.updateChild c.kind o) x.1) = 0 :=
      (if_neg hchanged).trans (by omega)
    cases hreply : (server.event t (.updateChild c.kind o) x.1).reply with
    | error e =>
      refine herror e _ hzero fun he => ?_
      subst he
      have hafter : (serve t (.updateChild c.kind o) (server.disturb t x.1)).2 = server.disturb t x.1 :=
        serve_conflict (congrArg some hreply.symm)
      exact (congrArg (fun s => s.child c.kind) hafter).trans hbefore
    | ok o' => exact hok o' _ (Or.inl hzero)

lemma marking_create {o : DataObject} {next : Reply (.createChild c.kind o) → Operation α}
    (hnone : x.1.child c.kind = none) (hx : x.2 = 0)
    (hnext : ∀ reply x', x'.2 = 0 → (reply = .error .conflict → x'.1.child c.kind = none) →
      Marking r c (next reply) Q x') : Marking r c (.send (.createChild c.kind o) next) Q x := by
  refine marking_send fun t _ => ⟨fun hone => by omega, ?_⟩
  have hbefore : (server.disturb t x.1).child c.kind = none := (congrFun (disturb_child t x.1) _).trans hnone
  have hsame : ¬ c.Changed r.ini (server.event t (.createChild c.kind o) x.1) := by
    rintro ⟨o', ho', -⟩
    cases hbefore.symm.trans ho'
  refine hnext _ _ ((if_neg hsame).trans (by omega)) fun hconflict => ?_
  have hafter : (serve t (.createChild c.kind o) (server.disturb t x.1)).2 = server.disturb t x.1 :=
    serve_conflict (congrArg some hconflict.symm)
  exact (congrArg (fun s => s.child c.kind) hafter).trans hbefore

end Calls

section Mark

lemma marking_annotate {t : String} (obj : DataObject) (hx : x.2 = 0 ∨ x.2 = 2) :
    Marking r c (annotate (Client.children c.kind) c.key t obj) (fun _ x' => x'.2 = 0) x := by
  refine marking_getChild (by omega) (fun e x' hrested _ => hrested.none) fun o x' hcount _ hstored => ?_
  have hkey : ((o.metadata.annotations.set c.key t).get? c.key).isSome = true := by
    rw [StringMap.get?_set, if_pos rfl]
    rfl
  have hx' : x'.2 = 0 ∨ x'.2 = 1 ∧ ((o.metadata.annotations.set c.key t).get? c.key).isSome = true :=
    hx.imp (fun h => by omega) fun h => ⟨by omega, hkey⟩
  refine marking_writeBack hstored rfl hx' fun reply x'' hzero => ?_
  cases reply <;> exact hzero

lemma marking_stamp (obj : DataObject) (hx : x.2 = 0 ∨ x.2 = 3) :
    Marking r c (stamp (Client.children c.kind) c.key obj) (fun _ x' => x'.2 = 0) x := by
  refine marking_send fun t _ => ⟨fun hone => by omega, ?_⟩
  have hq : Elsewhere c.kind .now := trivial
  have hcount := countdown_of_eq (r := r) (hq.child t (server.disturb t x.1))
  have hretry (now : String) {x : Store × ℕ} (hx : x.2 = 0 ∨ x.2 = 2) :
      Marking r c (onError errorIsConflictOrNotFound (annotate (Client.children c.kind) c.key now) defaultRetry obj)
        (fun _ x' => x'.2 = 0) x := by
    refine meets_onError_last (K := fun _ x => x.2 = 0 ∨ x.2 = 2) (fun o x hx => ?_) _ hx
    exact (marking_annotate o hx).post fun _ _ h => ⟨h, fun _ _ _ => Or.inl h⟩
  exact (hretry _ (by dsimp only; omega)).bind fun _ _ h => h

variable (r c) in
def Cleared (y : Memory × Bool) (s : Store) : Prop :=
  c = .server → y.2 = false → ∀ o ∈ s.child c.kind, ServerConfigMapBuilder.Same y.1.cluster r.ini o

variable (c) in
def Owed (result : OperationResult) (flag : Bool) (w : ℕ) : Prop :=
  w = 0 ∨ w = 3 ∧ result = .updated ∧ (c = .server → flag = true)

lemma Cleared.update {y : Memory × Bool} {s : Store} {existing : DataObject} (h : Cleared r c y s)
    (hstored : s.child c.kind = some existing) (fetched : Bool) :
    Cleared r c (updateChild r c.kind fetched y existing).1 s := by
  rintro rfl hflag o ho
  cases hstored.symm.trans ho
  rcases (ServerConfigMapBuilder.update_fst y.2).mp hflag with hy | hsame
  · exact h rfl hy existing ho
  · exact hsame

lemma Cleared.flag {y : Memory × Bool} {s : Store} {existing o : DataObject} (h : Cleared r c y s)
    (hstored : s.child c.kind = some existing) {fetched : Bool}
    (ho : (updateChild r c.kind fetched y existing).2 = .ok o) (hdiffers : c.Differs r.ini existing o)
    (hc : c = .server) : (updateChild r c.kind fetched y existing).1.2 = true := by
  by_contra hflag
  rw [Bool.not_eq_true] at hflag
  obtain ⟨out, hout, hremoved⟩ := h.update hstored fetched hc hflag existing hstored
  subst hc
  have ho' : out = o := by
    rcases ServerConfigMapBuilder.update_cases y.1.cluster r.ini existing with ⟨err, hu⟩ | ⟨out', _, _, -, -, -, hu⟩
    · cases (hu true ▸ hout : (true, Except.error err).2 = Except.ok out)
    · have h₁ := (congrArg Prod.snd (hu true)).symm.trans hout
      have h₂ := (congrArg Prod.snd (hu y.2)).symm.trans ho
      exact Except.ok.inj (h₁.symm.trans h₂)
  exact not_differs_of_removed (ho' ▸ hremoved) hdiffers

variable (r c) in
def Attempted : Except Err OperationResult × DataObject × Memory × Bool → Store × ℕ → Prop
  | (.ok result, _, y), x => Owed c result y.2 x.2
  | (.error err, _, y), x => x.2 = 0 ∧ (err.isConflict = true → Cleared r c y x.1)

lemma marking_createOrUpdate {y : Memory × Bool} (obj : DataObject) (hx : x.2 = 0) (hy : Cleared r c y x.1) :
    Marking r c (createOrUpdate (Client.children c.kind) (updateChild r c.kind) y obj) (Attempted r c) x := by
  have hnothing {y' : Memory × Bool} {s : Store} (hnone : s.child c.kind = none) : Cleared r c y' s :=
    fun _ _ o ho => by cases hnone.symm.trans ho
  refine marking_getChild (by omega) (fun e x' hrested hnone => ?_) fun existing x' hcount hchild hstored => ?_
  · have hkept : Cleared r c y x'.1 := fun hc hflag o ho => hy hc hflag o (hrested.child ▸ ho)
    cases e with
    | notFound =>
      change Marking r c (createMutated _ obj (updateChild r c.kind false y obj)) _ _
      generalize updateChild r c.kind false y obj = z
      rcases z with ⟨y', err | o⟩
      · exact ⟨hrested.none, fun _ => hnothing (hnone rfl)⟩
      · refine marking_create (hnone rfl) hrested.none fun reply x'' hzero hconflict => ?_
        cases reply with
        | error e => exact ⟨hzero, fun he => hnothing (hconflict (congrArg _ (of_decide_eq_true he)))⟩
        | ok o' => exact Or.inl hzero
    | _ => exact ⟨hrested.none, fun _ => hkept⟩
  · have hkept : Cleared r c y x'.1 := fun hc hflag o ho => hy hc hflag o (hchild ▸ ho)
    have hcleared := hkept.update hstored true
    have hflag : ∀ o, (updateChild r c.kind true y existing).2 = .ok o → c.Differs r.ini existing o → c = .server →
        (updateChild r c.kind true y existing).1.2 = true := fun o => hkept.flag hstored
    change Marking r c (updateMutated _ existing (updateChild r c.kind true y existing)) _ _
    generalize updateChild r c.kind true y existing = z at hcleared hflag
    have hzero : x'.2 = 0 := by omega
    rcases z with ⟨y', err | o⟩
    · exact ⟨hzero, fun _ => hcleared⟩
    · unfold updateMutated
      dsimp only
      split
      · exact Or.inl hzero
      · refine marking_update hstored hzero (fun e x'' hzero' hconflict => ?_) fun o' x'' hx'' => ?_
        · refine ⟨hzero', fun he hc hf o₁ ho₁ => ?_⟩
          cases ho₁.symm.trans (hconflict (of_decide_eq_true he))
          exact hcleared hc hf existing hstored
        · exact hx''.imp_right fun h => ⟨h.1, rfl, hflag o rfl h.2⟩

lemma marking_createOrUpdateOnConflict {m : Memory} {obj : DataObject} (hx : x.2 = 0) :
    Marking r c (createOrUpdateOnConflict (Client.children c.kind) (updateChild r c.kind) (m, true) obj)
      (fun z x' => match z with
        | (.ok result, y) => Owed c result y.2 x'.2
        | (.error _, _) => x'.2 = 0) x := by
  refine Meets.bind (meets_onError_last (K := fun z x => x.2 = 0 ∧ Cleared r c z.2.2 x.1)
    (P := fun z x => match z with
      | (none, result, _, y) => Owed c result y.2 x.2
      | (some _, _) => x.2 = 0) (fun z x hz => ?_) _ ⟨hx, fun _ h => nomatch h⟩) fun z x hz => ?_
  · refine (marking_createOrUpdate z.2.1 hz.1 hz.2).bind fun y x hy => ?_
    rcases y with ⟨err | result, o, y⟩
    · exact ⟨hy.1, fun _ he hconflict => ⟨hy.1, hy.2 (Option.some.inj he ▸ hconflict)⟩⟩
    · exact ⟨hy, nofun⟩
  · rcases z with ⟨_ | err, result, o, y⟩ <;> exact hz

lemma marking_annotateIfNeeded {restart : Bool} {result : OperationResult} (h : Owed c result restart x.2) :
    Marking r c (annotateIfNeeded (.child c.kind) restart result) (fun _ x' => x'.2 = 0) x := by
  have hx : x.2 = 0 ∨ x.2 = 3 := h.imp_right And.left
  cases c with
  | plugins =>
    change Marking r _ (if _ then _ else _) _ _
    split
    · exact marking_stamp {} hx
    · rename_i hresult
      exact h.resolve_right fun h => hresult h.2.1
  | server =>
    change Marking r _ (if _ then _ else _) _ _
    split
    · exact marking_stamp {} hx
    · rename_i hresult
      exact h.resolve_right fun h => hresult ⟨h.2.1, h.2.2 rfl⟩

lemma marking_configTurn (m : Memory) (hx : x.2 = 0) :
    Marking r c (childTurn r c.kind m) (fun _ x' => x'.2 = 0) x := by
  have hwrite (obj : DataObject) : Marking r c
      (createOrUpdateOnConflict (Client.children c.kind) (updateChild r c.kind) (m, true) obj >>= fun y =>
        finishTurn (.child c.kind) y.2.2 y.2.1 y.1) (fun _ x' => x'.2 = 0) x := by
    refine (marking_createOrUpdateOnConflict hx).bind fun y x hy => ?_
    rcases y with ⟨err | result, m, restart⟩
    · refine marking_elsewhere ?_ hy
      change Program.Sends (I := api) _ (if _ then _ else _)
      split <;> exact (sends_setReconcileSuccess (fun _ _ _ => trivial) _ _ _ _).bind fun _ => trivial
    · refine (marking_annotateIfNeeded hy).bind fun err x' hx' => ?_
      cases err <;> exact hx'
  cases c with
  | plugins => exact hwrite _
  | server => exact hwrite _

end Mark

end ClusterOperator.Controller
