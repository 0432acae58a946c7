import ClusterOperator.Controller.Credentials
import ClusterOperator.Controller.Dependencies
import ClusterOperator.Resource.Rbac

namespace ClusterOperator.Controller

open Api Kubernetes Interaction Resource

/-- `Update` of the builders that are left open ends with `SetControllerReference`. -/
def Respectful (r : Reconciler) : Prop :=
  ∀ k c o out, r.update k c o = .ok out → ∀ owner ∈ o.metadata.controller, owner = c.name

variable {r : Reconciler} {k : Kind} {o : DataObject} {owner : String}

section Update

variable {c : RabbitmqCluster} {out : DataObject}

lemma controller_of_setControllerReference {m out : ObjectMeta} (h : setControllerReference c m = .ok out) :
    ∀ owner ∈ m.controller, owner = c.name := by
  intro owner howner
  unfold setControllerReference at h
  split at h
  · rename_i hnone
    cases hnone.symm.trans howner
  · rename_i other hother
    cases hother.symm.trans howner
    split at h
    · assumption
    · cases h

lemma owner_of_controlled (h : controlled c o = .ok out) : ∀ owner ∈ o.metadata.controller, owner = c.name := by
  obtain ⟨metadata, hm, -⟩ := bind_eq_ok.mp h
  exact controller_of_setControllerReference hm

lemma controller_of_updateChild (hr : Respectful r) {x : Memory × Bool} {fetched : Bool}
    (h : (updateChild r k fetched x o).2 = .ok out) : ∀ owner ∈ o.metadata.controller, owner = x.1.cluster.name := by
  cases k with
  | pluginsConf =>
    have hcontroller := owner_of_controlled h
    exact hcontroller
  | serverConf =>
    obtain ⟨_, -, -, hcontrolled⟩ :=
      ServerConfigMapBuilder.updated_eq_ok.mp (ServerConfigMapBuilder.updated_of_update h)
    have hcontroller := owner_of_controlled hcontrolled
    exact hcontroller
  | _ => exact hr _ _ _ _ h

end Update

def Bypasses (k : Kind) : Request → Prop
  | .createStatefulSet _ | .updateStatefulSet _ | .deleteStatefulSet | .updatePvc _ => False
  | .createChild j _ | .updateChild j _ | .deleteChild j => j ≠ k
  | _ => True

section Steps

variable {q : Request} {t : Turn} {s : Store}

lemma Passive.bypasses (h : Passive q) : Bypasses k q := by
  cases q <;> first | exact trivial | exact h.elim

lemma OnCluster.bypasses (h : OnCluster q) : Bypasses k q := by
  cases q <;> first | exact trivial | exact h.elim

lemma OnChild.bypasses {j : Kind} (hj : j ≠ k) (h : OnChild j q) : Bypasses k q := by
  cases q with
  | createChild i o => exact (show i = j from h) ▸ hj
  | updateChild i o => exact (show i = j from h) ▸ hj
  | _ => exact h.elim

lemma Early.bypasses (huser : k ≠ .defaultUserSecret) (hrole : k ≠ .role) (hbinding : k ≠ .roleBinding)
    (h : Early q) : Bypasses k q := by
  cases q with
  | createChild j o => exact (show j = _ from h) ▸ huser.symm
  | updateChild j o => exact (show j = _ from h) ▸ huser.symm
  | deleteChild j =>
    rcases h with rfl | rfl
    · exact hrole.symm
    · exact hbinding.symm
  | createStatefulSet o => exact h
  | updateStatefulSet o => exact h
  | deleteStatefulSet => exact h
  | updatePvc p => exact h
  | _ => exact trivial

lemma Bypasses.child_eq (h : Bypasses k q) : (server.event t q s).after.child k = s.child k := by
  rw [← disturb_child t s]
  rcases serve_written t q (server.disturb t s) with hs | hw
  · exact congrArg (fun s : Store => s.child k) hs
  · rcases hw.child_cases k with hs | ⟨rfl, -⟩ | ⟨o, ⟨rfl, -⟩ | ⟨rfl, -⟩, -⟩
    · exact hs
    · exact absurd rfl h
    · exact absurd rfl h
    · exact absurd rfl h

end Steps

lemma lasting_name : Lasting r fun c => c.name ≠ owner :=
  ⟨fun _ _ h => h, fun _ _ h => h, fun _ h => h, fun _ h => h⟩

section Loop

variable {α : Type} {p : Operation α} {s : Store} {Q : α → Store → Prop}

def OthersOnly (owner : String) (e : Event api Store) : Prop := ∀ c ∈ replyCluster e.request e.reply, c.name ≠ owner

abbrev StandsOff (k : Kind) (o : DataObject) (owner : String) (p : Operation α) (Q : α → Store → Prop) (s : Store) :
    Prop :=
  Meets server (OthersOnly owner) (fun e => e.after.child k = some o ∧ Bypasses k e.request) p Q s

def Present (k : Kind) (o : DataObject) (s : Store) : Prop := s.child k = some o

lemma standsOff_of_sends (hp : p.Sends (Bypasses k)) (hs : Present k o s) :
    StandsOff k o owner p (fun _ s => Present k o s) s :=
  Meets.of_sends hp (fun _ _ _ hq hs _ => ⟨⟨hq.child_eq.trans hs, hq⟩, hq.child_eq.trans hs⟩) hs

lemma standsOff_carries {K : α → Prop} (hcarries : Carries (fun c => c.name ≠ owner) p K)
    (hp : StandsOff k o owner p Q s) : StandsOff k o owner p (fun a s => Q a s ∧ K a) s :=
  (hp.both (hcarries.assuming (fun _ _ _ h => h) s)).mono (fun _ h => h) (fun _ _ h => h.1) fun _ _ h => h

lemma standsOff_createOrUpdate (hr : Respectful r) (ho : o.metadata.controller = some owner) {y : Memory × Bool}
    (hy : y.1.cluster.name ≠ owner) (obj : DataObject) (hs : Present k o s) :
    StandsOff k o owner (createOrUpdate (Client.children k) (updateChild r k) y obj)
      (fun z s => Tried (fun y s => Present k o s ∧ y.1.cluster.name ≠ owner) (fun _ _ _ => False) z.1 z.2.2 s) s := by
  intro t _
  have hread : Present k o (server.event t (.getChild k) s).after :=
    (Bypasses.child_eq (q := .getChild k) (t := t) (s := s) trivial).trans hs
  refine ⟨⟨hread, trivial⟩, ?_⟩
  have hreply : (server.event t (.getChild k) s).reply = .ok o ∨
      ∃ e, e ≠ .notFound ∧ (server.event t (.getChild k) s).reply = .error e := by
    have hstored : (server.disturb t s).child k = some o := (congrFun (disturb_child t s) k).trans hs
    rcases serve_getChild t k (server.disturb t s) with h | ⟨e, he, h⟩
    · exact Or.inl ((congrArg Prod.fst h).trans (by rw [hstored]; rfl))
    · exact Or.inr ⟨e, he, congrArg Prod.fst h⟩
  rcases hreply with h | ⟨e, he, h⟩ <;> rw [h]
  · change StandsOff k o owner (updateMutated (Client.children k) o (updateChild r k true y o)) _ _
    have hmemory := updateChild_memory (r := r) k true y o
    cases hu : updateChild r k true y o with
    | mk z result =>
      rw [hu] at hmemory
      cases result with
      | error err => exact ⟨hread, by rw [hmemory]; exact hy⟩
      | ok out =>
        exact absurd (controller_of_updateChild hr (congrArg Prod.snd hu) owner ho).symm hy
  · cases e with
    | notFound => exact absurd rfl he
    | _ => exact ⟨hread, hy⟩

lemma standsOff_childTurn (hr : Respectful r) (ho : o.metadata.controller = some owner) {m : Memory}
    (hm : m.cluster.name ≠ owner) (hs : Present k o s) :
    StandsOff k o owner (childTurn r k m) (Concludes (Present k o) fun _ => False) s := by
  refine (standsOff_of_sends (sends_buildChild (fun _ => Passive.bypasses) r k m) hs).bind fun reply s hs => ?_
  cases reply with
  | error err => exact hs
  | ok obj =>
    refine (meets_createOrUpdateOnConflict (K := fun _ y s => Present k o s ∧ y.1.cluster.name ≠ owner)
      (fun _ _ _ h => h) (fun obj y s hy => standsOff_createOrUpdate hr ho hy.2 obj hy.1) (x := (m, true)) obj
      ⟨hs, hm⟩).bind fun y s hy => ?_
    rcases y with ⟨err | result, m, restart⟩
    · have hpatch (m : Memory) (reason msg : String) :
          (setReconcileSuccess m .false reason msg).Sends (Bypasses k) :=
        sends_setReconcileSuccess (fun _ _ _ => trivial) _ _ _ _
      unfold finishTurn
      dsimp only
      obtain ⟨-, hy, -⟩ := hy
      split
      · exact (standsOff_of_sends (hpatch _ _ _) hy).bind fun _ _ hs => hs
      · exact (standsOff_of_sends (hpatch _ _ _) hy).bind fun _ _ hs => hs
    · exact hy.elim

lemma standsOff_turnsBefore {builders : List Builder} (hsts : .statefulSet ∉ builders) (hk : .child k ∉ builders)
    {m : Memory} (hm : m.cluster.name ≠ owner) (hs : Present k o s) :
    StandsOff k o owner (builderLoop r m builders)
      (fun y s => Present k o s ∧ Goes (fun c => c.name ≠ owner) y) s := by
  induction builders generalizing m s with
  | nil => exact ⟨hs, hm⟩
  | cons builder builders ih =>
    rw [List.mem_cons, not_or] at hsts hk
    cases builder with
    | statefulSet => exact absurd rfl hsts.1
    | child j =>
      have hj : j ≠ k := fun h => hk.1 (by rw [h])
      refine (standsOff_carries (carries_childTurn lasting_name hm j) (standsOff_of_sends (sends_childTurn
        (fun _ => Passive.bypasses) (fun _ => OnChild.bypasses hj) (fun _ => OnCluster.bypasses) r m) hs)).bind
        fun y s hy => ?_
      cases y with
      | error z => exact hy
      | ok m => exact ih hsts.2 hk.2 hy.2 hy.1

lemma standsOff_builderLoop (hr : Respectful r) (ho : o.metadata.controller = some owner) {m : Memory}
    (hk : .child k ∈ resourceBuilders r m.cluster) (hm : m.cluster.name ≠ owner) (hs : Present k o s) :
    StandsOff k o owner (builderLoop r m (resourceBuilders r m.cluster))
      (Concludes (Present k o) fun _ => False) s := by
  obtain ⟨before, after, hsplit, hsts, hnot⟩ := exists_split m.cluster hk
  rw [hsplit, builderLoop_append]
  refine (standsOff_turnsBefore hsts hnot hm hs).bind fun y s hy => ?_
  cases y with
  | error z => exact hy.1
  | ok m =>
    refine (standsOff_childTurn hr ho hy.2 hy.1).bind fun y s hs => ?_
    cases y with
    | error z => exact hs
    | ok m => exact hs.elim

end Loop

/-- An object that is controlled by someone else is never changed, and as long as it stands there
is no StatefulSet, or it stays as it is. -/
theorem foreign_child_stops_reconcile (hr : Respectful r) (huser : k ≠ .defaultUserSecret) (hrole : k ≠ .role)
    (hbinding : k ≠ .roleBinding) (ho : o.metadata.controller = some owner) (tss : List (List Turn)) (s : Store)
    (hs : s.child k = some o)
    (h : ∀ e ∈ (rounds server (reconcile r) tss s).flatMap Outcome.trace, OthersOnly owner e) :
    ∀ e ∈ (rounds server (reconcile r) tss s).flatMap Outcome.trace,
      e.after.child k = some o ∧ Bypasses k e.request := by
  have hearly (t : Turn) (q : Request) (s : Store) (hq : Early q) (hs : Present k o s)
      (_ : OthersOnly owner (server.event t q s)) :
      (Present k o (server.event t q s).after ∧ Bypasses k q) ∧ Present k o (server.event t q s).after := by
    have hq := hq.bypasses huser hrole hbinding
    exact ⟨⟨hq.child_eq.trans hs, hq⟩, hq.child_eq.trans hs⟩
  have hpass (s : Store) (hs : s.child k = some o) : StandsOff k o owner (reconcile r)
      (fun _ s => Present k o s) s := by
    refine meets_reconcile (P := fun c => c.name ≠ owner) (L := fun _ => False) lasting_name (fun _ h => h)
      (fun t q s hq => hearly t q s hq.early)
      (fun m s hs _ => Meets.of_sends (early_startReconciling r m) hearly hs) (fun m s hs hm => ?_)
      (fun _ _ h => h.elim) hs
    exact standsOff_builderLoop hr ho (child_mem_resourceBuilders huser hrole hbinding m.cluster) hm hs
  exact Meets.rounds (J := fun s => s.child k = some o) (E := fun e => Bypasses k e.request) hpass hs tss h

section Builders

def onMetadata {α : Type} (view : ObjectMeta → α) (metadata : α → ObjectMeta) (update : α → Except Err α)
    (o : DataObject) : Except Err DataObject :=
  (update (view o.metadata)).map fun a => { o with metadata := metadata a }

def Reconciler.withBuilders (r : Reconciler) (mergeService : ServiceMergePatch)
    (enumerate : ServiceBuilder.Enumeration) : Reconciler :=
  { r with
    build := fun k rmq random =>
      match k with
      | .erlangCookie | .defaultUserSecret => r.withSecrets.build k rmq random
      | _ => .ok {}
    update := fun k rmq =>
      match k with
      | .headlessService => onMetadata ({ metadata := · }) Service.metadata (HeadlessServiceBuilder.update rmq)
      | .service =>
        onMetadata ({ metadata := · }) Service.metadata (ServiceBuilder.update rmq mergeService enumerate)
      | .erlangCookie => ErlangCookieBuilder.update rmq
      | .defaultUserSecret => DefaultUserSecretBuilder.update rmq
      | .pluginsConf => RabbitmqPluginsConfigMapBuilder.update rmq
      | .serverConf => ServerConfigMapBuilder.updated rmq r.ini
      | .serviceAccount => onMetadata ServiceAccount.mk ServiceAccount.metadata (ServiceAccountBuilder.update rmq)
      | .role => onMetadata ({ metadata := · }) Role.metadata (RoleBuilder.update rmq)
      | .roleBinding => onMetadata ({ metadata := · }) RoleBinding.metadata (RoleBindingBuilder.update rmq) }

variable {rmq : RabbitmqCluster} {out : DataObject} {α : Type}

lemma owner_of_onMetadata {view : ObjectMeta → α} {metadata : α → ObjectMeta} {update : α → Except Err α}
    (h : onMetadata view metadata update o = .ok out) (hview : ∀ m, metadata (view m) = m)
    (hupdate : ∀ a a', update a = .ok a' → ∀ owner ∈ (metadata a).controller, owner = rmq.name) :
    ∀ owner ∈ o.metadata.controller, owner = rmq.name := by
  obtain ⟨a', ha', -⟩ := map_eq_ok.mp h
  exact fun owner howner => hupdate _ a' ha' owner ((hview o.metadata).symm ▸ howner)

lemma owner_of_reconcileMetadata {m : ObjectMeta} {f : ObjectMeta → α} {a : α}
    (h : (do return f (← setControllerReference rmq (reconcileMetadata rmq m))) = Except.ok a) :
    ∀ owner ∈ m.controller, owner = rmq.name := by
  obtain ⟨m', hm', -⟩ := bind_eq_ok.mp h
  have hcontroller := controller_of_setControllerReference hm'
  exact hcontroller

lemma owner_of_updateService {mergeService : ServiceMergePatch} {enumerate : ServiceBuilder.Enumeration}
    {service service' : Service} (h : ServiceBuilder.update rmq mergeService enumerate service = .ok service') :
    ∀ owner ∈ service.metadata.controller, owner = rmq.name := by
  obtain ⟨overridden, hoverridden, h⟩ := bind_eq_ok.mp h
  obtain ⟨m, hm, -⟩ := bind_eq_ok.mp h
  have hsame : overridden.metadata.controller = service.metadata.controller := by
    split at hoverridden
    · cases hoverridden
      rfl
    · have happlied := mapError_eq_ok.mp hoverridden
      unfold applySvcOverride at happlied
      dsimp only at happlied
      split at happlied
      · cases happlied
        split <;> rfl
      · obtain ⟨spec, -, hspec⟩ := bind_eq_ok.mp happlied
        cases hspec
        dsimp only
        split <;> rfl
  exact hsame ▸ controller_of_setControllerReference hm

lemma withBuilders_respectful (r : Reconciler) (mergeService : ServiceMergePatch)
    (enumerate : ServiceBuilder.Enumeration) : Respectful (r.withBuilders mergeService enumerate) := by
  intro k rmq o out h
  cases k with
  | service =>
    dsimp only [Reconciler.withBuilders] at h
    refine owner_of_onMetadata h (fun _ => ?_) fun _ _ hupdate => ?_
    · rfl
    · exact owner_of_updateService hupdate
  | serverConf =>
    obtain ⟨_, -, -, hcontrolled⟩ := ServerConfigMapBuilder.updated_eq_ok.mp h
    have hcontroller := owner_of_controlled hcontrolled
    exact hcontroller
  | headlessService | serviceAccount | role | roleBinding =>
    dsimp only [Reconciler.withBuilders] at h
    refine owner_of_onMetadata h (fun _ => ?_) fun _ _ hupdate => ?_
    · rfl
    · exact owner_of_reconcileMetadata hupdate
  | _ =>
    have hcontroller := owner_of_controlled h
    exact hcontroller

end Builders

def collidingStore : Store :=
  (settledStore { storage := 10 }).putChild .headlessService { metadata.controller := some "rabbit-nodes" }

def fullReconciler : Reconciler := plainReconciler.withBuilders (fun _ override => .ok override) id

theorem collision_stops_reconcile :
    (rounds server (reconcile fullReconciler) [List.replicate 20 {}, List.replicate 20 {}] collidingStore).map
        (fun x => x.result.bind fun y => y.1.err.map Err.message) =
      List.replicate 2 (some "failed setting controller reference: already owned by rabbit-nodes") ∧
    ∀ e ∈ (rounds server (reconcile fullReconciler) [List.replicate 20 {}, List.replicate 20 {}]
      collidingStore).flatMap Outcome.trace,
      e.after.child .headlessService = collidingStore.child .headlessService ∧
        Bypasses .headlessService e.request := by
  have howner : ({ metadata.controller := some "rabbit-nodes", metadata.resourceVersion := 2 } :
      DataObject).metadata.controller = some "rabbit-nodes" := rfl
  refine ⟨by decide +kernel, foreign_child_stops_reconcile (k := .headlessService) (withBuilders_respectful _ _ _)
    nofun nofun nofun howner _ _ rfl ?_⟩
  unfold OthersOnly
  decide +kernel

end ClusterOperator.Controller
