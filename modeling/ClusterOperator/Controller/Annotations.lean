import ClusterOperator.Controller.Memory
import ClusterOperator.Interaction.Trace
import ClusterOperator.Interaction.Versioned
import ClusterOperator.Kubernetes.Replies

namespace ClusterOperator.Controller

open Kubernetes Interaction

def childView (k : Kind) : Versioned Store DataObject where
  revision := Store.revision
  object s := s.child k
  version o := o.metadata.resourceVersion
  withVersion o n := { o with metadata.resourceVersion := n }
  issued s o h := (s.child_issued k o h).le
  withVersion_version _ := rfl

def statefulSetView : Versioned Store StatefulSet where
  revision := Store.revision
  object := Store.statefulSet
  version o := o.metadata.resourceVersion
  withVersion o n := { o with metadata.resourceVersion := n }
  issued s o h := (s.statefulSet_issued o h).le
  withVersion_version _ := rfl

/-- What other clients may do: whatever they write gets a version of its own. -/
structure Interferes (s s' : Store) : Prop where
  child : ∀ k, (childView k).Fresh s s'
  statefulSet : statefulSetView.Fresh s s'

lemma Interferes.refl (s : Store) : Interferes s s := ⟨fun _ => .refl, .refl⟩

structure Contention where
  turn : Turn := {}
  interfere : Store → Store := id
  interferes : ∀ s, Interferes s (interfere s) := by exact Interferes.refl

def contested : Server api Store Contention where
  disturb c s := c.interfere s
  serve c := serve c.turn

section Freshness

lemma serve_revision (t : Turn) (r : Request) (s : Store) : s.revision ≤ (serve t r s).2.revision :=
  (serve_advances t r s).revision

lemma serve_child_fresh (t : Turn) (r : Request) (s : Store) (k : Kind) :
    (childView k).Fresh s (serve t r s).2 := by
  have hr := serve_revision t r s
  rcases serve_written t r s with h | h
  · rw [h]
    exact .refl
  · rcases h.child_cases k with hs | ⟨-, hs⟩ | ⟨o, -, hs⟩
    · exact .of_eq hr hs
    · exact .of_eq_none hr hs
    · exact .of_eq_some hr hs (Nat.lt_succ_self _)

lemma serve_statefulSet_fresh (t : Turn) (r : Request) (s : Store) :
    statefulSetView.Fresh s (serve t r s).2 := by
  have hr := serve_revision t r s
  rcases serve_written t r s with h | h
  · rw [h]
    exact .refl
  · rcases h.statefulSet_cases with hs | ⟨o, -, hs⟩ | ⟨o, -, status, deletionTimestamp, hs⟩
    · exact .of_eq hr hs
    · exact .of_eq_some hr hs (Nat.lt_succ_self _)
    · exact .of_eq_some hr hs (Nat.lt_succ_self _)

end Freshness

def Failed (e : Event api Store) : Prop := ∃ err, refuse err e.request = some e.reply

def replyError : (q : Request) → Reply q → Option ApiError
  | .getCluster, reply | .createCluster _, reply | .updateCluster _, reply | .patchStatus _ _, reply
  | .getStatefulSet, reply | .createStatefulSet _, reply | .updateStatefulSet _, reply
  | .deleteStatefulSet, reply | .deleteChild _, reply | .updatePod _, reply
  | .getChild _, reply | .createChild _ _, reply | .updateChild _ _, reply | .getSecret _, reply
  | .getPvc _, reply | .updatePvc _, reply | .listPods, reply | .listEndpointSlices, reply
  | .exec _ _, reply | .overview _, reply | .isQuorumCritical _, reply =>
    match reply with
    | .error e => some e
    | .ok _ => none
  | .now, _ | .random, _ | .secondsSince _, _ => none

lemma failed_iff (e : Event api Store) : Failed e ↔ (replyError e.request e.reply).isSome = true := by
  obtain ⟨before, q, reply, after⟩ := e
  cases q with
  | now => exact ⟨fun ⟨_, h⟩ => (nomatch h), nofun⟩
  | random => exact ⟨fun ⟨_, h⟩ => (nomatch h), nofun⟩
  | secondsSince => exact ⟨fun ⟨_, h⟩ => (nomatch h), nofun⟩
  | _ =>
    cases reply with
    | error err => exact ⟨fun _ => rfl, fun _ => ⟨err, rfl⟩⟩
    | ok a => exact ⟨fun ⟨_, h⟩ => (nomatch h), nofun⟩

instance : DecidablePred Failed := fun e => decidable_of_iff _ (failed_iff e).symm

section Locking

variable {α : Type}

def Changes (V : Versioned Store α) (e : Event api Store) (v o : α) : Prop :=
  V.object e.before = some v ∧ ∃ n, V.object e.after = some (V.withVersion o n)

def Spares (V : Versioned Store α) (e : Event api Store) : Prop :=
  Failed e ∨ V.object e.after = V.object e.before

structure Locks (client : Kubernetes.Resource α) (V : Versioned Store α) : Prop where
  disturb : ∀ c s, V.Fresh s (contested.disturb c s)
  serve : ∀ c r s, V.Fresh s (contested.serve c r s).2
  version : ∀ o a, V.version (client.setAnnotations o a) = V.version o
  setAnnotations : ∀ o, client.setAnnotations o (client.annotations o) = o
  get : ∀ s, Leads contested client.get (fun reply s' es => ∃ e, es = [e] ∧ s' = e.after ∧
    V.object e.after = V.object e.before ∧ ∀ o, reply = .ok o → V.object e.before = some o) s
  update : ∀ o s, Leads contested (client.update o) (fun reply _ es => ∃ e, es = [e] ∧
    V.Fresh s e.before ∧ (∀ err, reply = .error err → Failed e) ∧
    ∀ o', reply = .ok o' → ∃ stored, V.object e.before = some stored ∧ V.version o = V.version stored ∧
      ∀ a, o = client.setAnnotations stored a → ∃ n, V.object e.after = some (V.withVersion o n)) s

lemma childLocks (k : Kind) : Locks (Client.children k) (childView k) where
  disturb c s := (c.interferes s).child k
  serve c r s := serve_child_fresh c.turn r s k
  version _ _ := rfl
  setAnnotations _ := rfl
  get s c := by
    refine ⟨_, rfl, rfl, ?_, fun o ho => ?_⟩
    · rcases serve_getChild c.turn k (c.interfere s) with h | ⟨_, -, h⟩ <;>
        exact congrArg (fun x => x.2.child k) h
    · change (serve c.turn (.getChild k) (c.interfere s)).1 = .ok o at ho
      rcases serve_getChild c.turn k (c.interfere s) with h | ⟨_, -, h⟩ <;> rw [h] at ho
      · exact found_eq_ok.mp ho
      · cases ho
  update o s c := by
    refine ⟨_, rfl, (c.interferes s).child k, fun err h => ⟨err, congrArg some h.symm⟩, fun o' ho' => ?_⟩
    obtain ⟨⟨stored, hs, hv⟩, ha⟩ := serve_updateChild_ok ho'
    refine ⟨stored, hs, hv, fun a _ => ⟨(c.interfere s).revision + 1, ?_⟩⟩
    exact (congrArg (fun s : Store => s.child k) ha).trans (Function.update_self ..)

lemma statefulSetLocks : Locks Client.statefulSets statefulSetView where
  disturb c s := (c.interferes s).statefulSet
  serve c r s := serve_statefulSet_fresh c.turn r s
  version _ _ := rfl
  setAnnotations _ := rfl
  get s c := by
    refine ⟨_, rfl, rfl, ?_, fun o ho => ?_⟩
    · rcases serve_getStatefulSet c.turn (c.interfere s) with h | ⟨_, -, h⟩ <;>
        exact congrArg (fun x => x.2.statefulSet) h
    · change (serve c.turn .getStatefulSet (c.interfere s)).1 = .ok o at ho
      rcases serve_getStatefulSet c.turn (c.interfere s) with h | ⟨_, -, h⟩ <;> rw [h] at ho
      · exact found_eq_ok.mp ho
      · cases ho
  update o s c := by
    refine ⟨_, rfl, (c.interferes s).statefulSet, fun err h => ⟨err, congrArg some h.symm⟩, fun o' ho' => ?_⟩
    obtain ⟨stored, hs, hv, ha⟩ := serve_updateStatefulSet_ok ho'
    refine ⟨stored, hs, hv, fun a hstored => ⟨(c.interfere s).revision + 1, ?_⟩⟩
    refine (congrArg Store.statefulSet ha).trans ?_
    subst hstored
    rfl

variable {client : Kubernetes.Resource α} {V : Versioned Store α} (hlocks : Locks client V)

include hlocks

lemma Locks.event_fresh (c : Contention) (r : Request) (s : Store) : V.Fresh s (contested.event c r s).after :=
  (hlocks.disturb c s).trans (hlocks.serve c r _)

lemma Locks.update_read {v : α} {s : Store} (hv : V.Read v s) (a : StringMap) :
    Leads contested (client.update (client.setAnnotations v a)) (fun reply _ es => ∃ e, es = [e] ∧
      (∀ err, reply = .error err → Failed e) ∧
      ∀ o, reply = .ok o → Changes V e v (client.setAnnotations v a)) s := by
  refine (hlocks.update _ s).mono fun reply _ es => ?_
  rintro ⟨e, rfl, hfresh, herror, hok⟩
  refine ⟨e, rfl, herror, fun o ho => ?_⟩
  obtain ⟨stored, hstored, hversion, hafter⟩ := hok o ho
  rw [hlocks.version] at hversion
  obtain rfl : stored = v := (hv.fresh hfresh).object stored hstored hversion.symm
  exact ⟨hstored, hafter a rfl⟩

lemma annotate_leads (key value : String) (obj : α) (s : Store) :
    Leads contested (annotate client key value obj) (fun x _ es =>
      (x.1 = none → ∃ e ∈ es, ∃ v,
        Changes V e v (client.setAnnotations v ((client.annotations v).set key value))) ∧
      (x.1 ≠ none → ∀ e ∈ es, Spares V e)) s := by
  unfold annotate
  refine (hlocks.get s).bind fun reply s' es => ?_
  rintro ⟨e, rfl, rfl, hread, hok⟩
  have hspares : Spares V e := Or.inr hread
  cases reply with
  | error err => simpa [Leads] using hspares
  | ok v =>
    have hv : V.Read v e.after := Versioned.read_of_stored (hread ▸ hok v rfl)
    refine (hlocks.update_read hv _).bind fun reply _ es => ?_
    rintro ⟨e', rfl, herror, hok'⟩
    cases reply with
    | error err =>
      have hfailed : Spares V e' := Or.inl (herror err rfl)
      simpa [Leads] using And.intro hspares hfailed
    | ok o => exact ⟨fun _ => ⟨e', by simp, v, hok' o rfl⟩, fun h => absurd rfl h⟩

lemma updateAnnotation_leads (key value : String) (obj : α) (s : Store) :
    Leads contested (p := updateAnnotation client key value obj) (fun x _ es =>
      (x.1 = none → ∃ e ∈ es, ∃ v,
        Changes V e v (client.setAnnotations v ((client.annotations v).set key value))) ∧
      (x.1 ≠ none → ∀ e ∈ es, Spares V e)) s := by
  refine leads_onError (L := fun es => ∃ e ∈ es, ∃ v,
      Changes V e v (client.setAnnotations v ((client.annotations v).set key value)))
    (M := fun es => ∀ e ∈ es, Spares V e) ?_ ?_ (annotate_leads hlocks key value) defaultRetry obj s
  · rintro es es' - ⟨e, he, h⟩
    exact ⟨e, List.mem_append_right _ he, h⟩
  · intro es es' h h' e he
    exact (List.mem_append.mp he).elim (h e) (h' e)

lemma deleteAnnotation_failed (key : String) (obj : α) (s : Store) :
    Leads contested (p := deleteAnnotation client key obj)
      (fun x _ es => x.1 ≠ none → ∀ e ∈ es, Spares V e) s := by
  unfold deleteAnnotation
  split
  · exact fun h => absurd rfl h
  · refine (hlocks.update _ s).bind fun reply _ es => ?_
    rintro ⟨e, rfl, -, herror, -⟩
    cases reply with
    | error err =>
      have hfailed : Spares V e := Or.inl (herror err rfl)
      simpa [Leads] using hfailed
    | ok o => exact fun h => absurd rfl h

lemma deleteAnnotation_read {v : α} {s : Store} (hv : V.Read v s) (key : String) :
    Leads contested (p := deleteAnnotation client key v) (fun x _ es => x.1 = none →
      (client.annotations v).entries = [] ∨
        ∃ e ∈ es, Changes V e v (client.setAnnotations v ((client.annotations v).erase key))) s := by
  unfold deleteAnnotation
  split
  · rename_i hempty
    exact fun _ => Or.inl hempty
  · refine (hlocks.update_read hv _).bind fun reply _ es => ?_
    rintro ⟨e, rfl, -, hok⟩
    cases reply with
    | error err => exact nofun
    | ok o => exact fun _ => Or.inr ⟨e, by simp, hok o rfl⟩

end Locking

/-- `deleteAnnotation` on a copy that is as it was read; what is done `between` is left open. -/
def readAndDeleteAnnotation {α β : Type} (client : Kubernetes.Resource α) (between : α → Operation β)
    (key : String) : Operation (Except ApiError (α × Option Err × α)) := do
  match ← client.get with
  | .error e => return .error e
  | .ok obj =>
    let _ ← between obj
    let result ← deleteAnnotation client key obj
    return .ok (obj, result)

section Helpers

variable {α : Type}

lemma Locks.readAndDelete_leads {β : Type} {client : Kubernetes.Resource α} {V : Versioned Store α}
    (hlocks : Locks client V) (between : α → Operation β) (key : String) (s : Store) :
    Leads contested (p := readAndDeleteAnnotation client between key) (fun x _ es =>
      ∀ v obj, x = .ok (v, none, obj) →
        ∃ e ∈ es, Changes V e v (client.setAnnotations v ((client.annotations v).erase key))) s := by
  refine (hlocks.get s).bind fun reply s' es => ?_
  rintro ⟨e, rfl, rfl, hread, hok⟩
  cases reply with
  | error err => exact nofun
  | ok v =>
    have hv : V.Read v e.after := Versioned.read_of_stored (hread ▸ hok v rfl)
    refine (Leads.of_events (fun c r s h => h.fresh (hlocks.event_fresh c r s)) hv).bind fun _ s es hv => ?_
    refine (deleteAnnotation_read hlocks hv key).bind fun x s es' hx => ?_
    rintro _ obj ⟨⟩
    rcases hx rfl with hempty | ⟨e', he', h⟩
    · have herase : (client.annotations v).erase key = client.annotations v := by
        generalize client.annotations v = annotations at hempty
        cases annotations
        cases hempty
        rfl
      refine ⟨e, by simp, hok v rfl, V.version v, ?_⟩
      rw [herase, hlocks.setAnnotations, V.withVersion_version, hread]
      exact hok v rfl
    · exact ⟨e', by simp [he'], h⟩

structure LosesNoUpdate (client : Kubernetes.Resource α) (V : Versioned Store α) : Prop where
  updated : ∀ key value obj cs s obj',
    (run contested (p := updateAnnotation client key value obj) cs s).result = some (none, obj') →
      ∃ e ∈ (run contested (p := updateAnnotation client key value obj) cs s).trace, ∃ v,
        Changes V e v (client.setAnnotations v ((client.annotations v).set key value))
  deleted : ∀ (β : Type) (between : α → Operation β) key cs s v obj',
    (run contested (p := readAndDeleteAnnotation client between key) cs s).result = some (.ok (v, none, obj')) →
      ∃ e ∈ (run contested (p := readAndDeleteAnnotation client between key) cs s).trace,
        Changes V e v (client.setAnnotations v ((client.annotations v).erase key))
  update_failed : ∀ key value obj cs s err obj',
    (run contested (p := updateAnnotation client key value obj) cs s).result = some (some err, obj') →
      (∀ e ∈ (run contested (p := updateAnnotation client key value obj) cs s).trace, Failed e → e.after = e.before) →
      ∀ e ∈ (run contested (p := updateAnnotation client key value obj) cs s).trace,
        V.object e.after = V.object e.before
  delete_failed : ∀ key obj cs s err obj',
    (run contested (p := deleteAnnotation client key obj) cs s).result = some (some err, obj') →
      (∀ e ∈ (run contested (p := deleteAnnotation client key obj) cs s).trace, Failed e → e.after = e.before) →
      ∀ e ∈ (run contested (p := deleteAnnotation client key obj) cs s).trace,
        V.object e.after = V.object e.before

lemma Spares.object_eq {V : Versioned Store α} {e : Event api Store} (h : Spares V e)
    (he : Failed e → e.after = e.before) : V.object e.after = V.object e.before := by
  rcases h with h | h
  · rw [he h]
  · exact h

lemma Locks.losesNoUpdate {client : Kubernetes.Resource α} {V : Versioned Store α} (hlocks : Locks client V) :
    LosesNoUpdate client V where
  updated key value obj _ s _ h := ((updateAnnotation_leads hlocks key value obj s).sound h).1 rfl
  deleted _ between key _ s v obj' h := (hlocks.readAndDelete_leads between key s).sound h v obj' rfl
  update_failed key value obj _ s _ _ h hclean e he :=
    (((updateAnnotation_leads hlocks key value obj s).sound h).2 nofun e he).object_eq (hclean e he)
  delete_failed key obj _ s _ _ h hclean e he :=
    ((deleteAnnotation_failed hlocks key obj s).sound h nofun e he).object_eq (hclean e he)

theorem annotation_helpers_lose_no_update :
    (∀ k, LosesNoUpdate (Client.children k) (childView k)) ∧ LosesNoUpdate Client.statefulSets statefulSetView :=
  ⟨fun k => (childLocks k).losesNoUpdate, statefulSetLocks.losesNoUpdate⟩

def annotatedStore : Store := Store.empty.putChild .pluginsConf {}

example :
    (run contested (p := updateAnnotation (Client.children .pluginsConf) "key" "value" {})
      [{}, { turn.fault := some .conflict }, {}, {}] annotatedStore).result.map Prod.fst = some none := by
  rfl

end Helpers

end ClusterOperator.Controller
