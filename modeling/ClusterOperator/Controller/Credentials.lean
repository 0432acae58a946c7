import ClusterOperator.Controller.Deletion
import ClusterOperator.Resource.Secrets

/-! The Secrets with the Erlang cookie and the default user over whole runs. Every Reconcile
builds them with fresh random bytes; what it writes still has the credentials it has read. -/

namespace ClusterOperator.Controller

open Api Kubernetes Interaction Resource

def Reconciler.withSecrets (r : Reconciler) : Reconciler :=
  { r with
    build := fun k rmq random =>
      match k with
      | .erlangCookie => .ok (ErlangCookieBuilder.build random)
      | .defaultUserSecret => DefaultUserSecretBuilder.build rmq r.ini random
      | k => r.build k rmq random
    update := fun k rmq obj =>
      match k with
      | .erlangCookie => ErlangCookieBuilder.update rmq obj
      | .defaultUserSecret => DefaultUserSecretBuilder.update rmq obj
      | k => r.update k rmq obj }

def credentialKeys : Kind → List String
  | .erlangCookie => [".erlang.cookie"]
  | .defaultUserSecret => ["username", "password", "default_user.conf"]
  | _ => []

def Connects (data : StringMap) : Prop :=
  ∃ scheme ∈ ["amqp", "amqps"], data.get? "connection_string" =
    some (DefaultUserSecretBuilder.connectionString scheme data)

structure Keeps (k : Kind) (data data' : StringMap) : Prop where
  credentials : ∀ key ∈ credentialKeys k, data'.get? key = data.get? key
  connects : Connects data → Connects data'

lemma Keeps.refl (k : Kind) (data : StringMap) : Keeps k data data := ⟨fun _ _ => rfl, id⟩

lemma Keeps.trans {k : Kind} {a b c : StringMap} (h : Keeps k a b) (h' : Keeps k b c) : Keeps k a c :=
  ⟨fun key hkey => (h'.credentials key hkey).trans (h.credentials key hkey), h'.connects ∘ h.connects⟩

section Builders

variable {rmq : RabbitmqCluster} {secret out : DataObject}

lemma updatedSecret_resourceVersion {data : StringMap} (h : updatedSecret rmq secret data = .ok out) :
    out.metadata.resourceVersion = secret.metadata.resourceVersion := by
  obtain ⟨metadata, hmeta, ho⟩ := bind_eq_ok.mp h
  cases ho
  have hv := congrArg ObjectMeta.resourceVersion (setControllerReference_eq hmeta)
  exact hv

lemma updateDefaultUser_connects (h : DefaultUserSecretBuilder.update rmq secret = .ok out) :
    Connects out.data := by
  rw [updatedSecret_data h]
  refine ⟨if rmq.secretTLSEnabled then "amqps" else "amqp", ?_, ?_⟩
  · split <;> simp
  · rw [DefaultUserSecretBuilder.get?_connection_string]
    simp [DefaultUserSecretBuilder.connectionString, DefaultUserSecretBuilder.get?_updateConnectionString]

lemma withSecrets_update {r : Reconciler} {k : Kind} (hk : credentialKeys k ≠ [])
    (h : r.withSecrets.update k rmq secret = .ok out) :
    out.metadata.resourceVersion = secret.metadata.resourceVersion ∧ Keeps k secret.data out.data := by
  cases k with
  | erlangCookie =>
    refine ⟨updatedSecret_resourceVersion h, ?_⟩
    rw [updatedSecret_data (show updatedSecret rmq secret secret.data = .ok out from h)]
    exact Keeps.refl _ _
  | defaultUserSecret =>
    refine ⟨updatedSecret_resourceVersion h, fun key hkey => ?_, fun _ => updateDefaultUser_connects h⟩
    rw [updatedSecret_data h]
    have hderived : ∀ key ∈ credentialKeys .defaultUserSecret, key ∉ DefaultUserSecretBuilder.derivedKeys := by
      decide
    exact DefaultUserSecretBuilder.get?_derived _ (hderived key hkey)
  | _ => exact absurd rfl hk

end Builders

/-- The state is the list of the child objects received. A Secret is written only with the
version and the credentials of one of them. -/
def custody : Protocol api (List (Kind × DataObject)) where
  allows g
    | .updateChild k o => credentialKeys k ≠ [] → ∃ o', (k, o') ∈ g ∧
        o.metadata.resourceVersion = o'.metadata.resourceVersion ∧ Keeps k o'.data o.data
    | .deleteChild k => credentialKeys k = []
    | _ => True
  expects _ _ _ := True
  next g q reply := (replyChild q reply).toList ++ g

abbrev Custodial {α : Type} (p : Operation α) : Prop := ∀ g, Follows custody p (fun _ _ => True) g

def Harmless : Request → Prop
  | .updateChild k _ | .deleteChild k => credentialKeys k = []
  | _ => True

section Rules

variable {α β σ : Type}

lemma Custodial.bind {p : Operation α} {f : α → Operation β} (hp : Custodial p) (hf : ∀ a, Custodial (f a)) :
    Custodial (p >>= f) :=
  fun g => (hp g).bind fun a g _ => hf a g

lemma custodial_of_sends {p : Operation α} (h : p.Sends Harmless) : Custodial p := by
  intro g
  refine Follows.of_sends (K := fun _ => True) h (fun g q hq => ?_) (fun _ _ _ _ _ => trivial) trivial
  cases q <;> first | exact trivial | exact fun hk => absurd hq hk | exact hq

lemma custodial_orReturn {p : Operation (Except (Result × Memory) α)}
    {f : α → Operation (Except (Result × Memory) β)} (hp : Custodial p) (hf : ∀ a, Custodial (f a)) :
    Custodial (orReturn p f) := by
  refine hp.bind fun x => ?_
  cases x with
  | error y => exact fun _ => trivial
  | ok a => exact hf a

lemma custodial_onError {retriable : Err → Bool} {attempt : σ → Operation (Option Err × σ)}
    (h : ∀ x, Custodial (attempt x)) (n : ℕ) (x : σ) : Custodial (onError retriable attempt n x) := by
  induction n generalizing x with
  | zero => exact h x
  | succ n ih =>
    refine (h x).bind fun y => ?_
    rcases y with ⟨_ | err, y⟩
    · exact fun _ => trivial
    · dsimp only
      split
      · exact ih y
      · exact fun _ => trivial

lemma passive_harmless : ∀ q, Passive q → Harmless q := by
  intro q h
  cases q <;> first | exact trivial | exact h.elim

lemma onCluster_harmless : ∀ q, OnCluster q → Harmless q := by
  intro q h
  cases q <;> first | exact trivial | exact h.elim

lemma onStatefulSet_harmless : ∀ q, OnStatefulSet q → Harmless q := by
  intro q h
  cases q <;> first | exact trivial | exact h.elim

lemma onChild_harmless {k : Kind} (hk : credentialKeys k = []) : ∀ q, OnChild k q → Harmless q := by
  intro q h
  cases q with
  | updateChild k' o => exact (congrArg credentialKeys h).trans hk
  | createChild k' o => exact trivial
  | _ => exact h.elim

end Rules

section Reconcile

variable (r : Reconciler)

lemma createOrUpdate_custodial {k : Kind} (hk : credentialKeys k ≠ []) (x : Memory × Bool) (obj : DataObject) :
    Custodial (createOrUpdate (Client.children k) (updateChild r.withSecrets k) x obj) := by
  have hupdate (fetched : Bool) (x : Memory × Bool) (obj : DataObject) :
      (updateChild r.withSecrets k fetched x obj).2 = r.withSecrets.update k x.1.cluster obj := by
    cases k <;> first | rfl | exact absurd rfl hk
  refine fun g => ⟨trivial, fun reply _ => ?_⟩
  rcases reply with (_ | _ | _ | message) | existing
  · change Follows _ (createMutated (Client.children k) obj (updateChild r.withSecrets k false x obj)) _ _
    rcases updateChild r.withSecrets k false x obj with ⟨m, err | o⟩
    · trivial
    · exact ⟨trivial, fun reply _ => by cases reply <;> trivial⟩
  · trivial
  · trivial
  · trivial
  · have hout := hupdate true x existing
    change Follows _ (updateMutated (Client.children k) existing (updateChild r.withSecrets k true x existing)) _ _
    generalize updateChild r.withSecrets k true x existing = y at hout
    rcases y with ⟨m, err | o⟩
    · trivial
    · obtain ⟨hv, hkeeps⟩ := withSecrets_update hk hout.symm
      change Follows _ (if o = existing then _ else _) _ _
      split
      · trivial
      · refine ⟨fun _ => ⟨existing, List.mem_cons_self, hv, hkeeps⟩, fun reply _ => ?_⟩
        cases reply <;> trivial

lemma secretTurn_custodial {k : Kind} (hk : credentialKeys k ≠ []) (m : Memory) :
    Custodial (childTurn r.withSecrets k m) := by
  have hreport (m : Memory) (condition : ConditionStatus) (reason msg : String) :
      Custodial (setReconcileSuccess m condition reason msg) :=
    custodial_of_sends (sends_setReconcileSuccess (patch_of_onCluster onCluster_harmless) _ _ _ _)
  refine (custodial_of_sends (sends_buildChild passive_harmless _ k m)).bind fun reply => ?_
  cases reply with
  | error err => exact fun _ => trivial
  | ok obj =>
    refine Custodial.bind (Custodial.bind (custodial_onError (fun x => ?_) _ _) fun x => ?_) fun x => ?_
    · refine (createOrUpdate_custodial r hk _ _).bind fun y => ?_
      rcases y with ⟨_ | _, _, _⟩ <;> exact fun _ => trivial
    · rcases x with ⟨_ | _, _, _, _⟩ <;> exact fun _ => trivial
    · rcases x with ⟨err | result, m, restart⟩
      · change Custodial (if _ then _ else _)
        split <;> exact (hreport _ _ _ _).bind fun _ _ => trivial
      · have hnone : annotateIfNeeded (.child k) restart result = return none := by
          cases k <;> first | rfl | exact absurd rfl hk
        change Custodial (annotateIfNeeded (.child k) restart result >>= _)
        rw [hnone]
        exact fun _ => trivial

lemma childTurn_custodial (k : Kind) (m : Memory) : Custodial (childTurn r.withSecrets k m) := by
  by_cases hk : credentialKeys k = []
  · exact custodial_of_sends (sends_childTurn passive_harmless (onChild_harmless hk) onCluster_harmless _ m)
  · exact secretTurn_custodial r hk m

lemma builderLoop_custodial (builders : List Builder) (m : Memory) :
    Custodial (builderLoop r.withSecrets m builders) := by
  induction builders generalizing m with
  | nil => exact fun _ => trivial
  | cons builder builders ih =>
    refine custodial_orReturn ?_ fun m => ih m
    cases builder with
    | child k => exact childTurn_custodial r k m
    | statefulSet =>
      exact custodial_of_sends (sends_statefulSetTurn passive_harmless onStatefulSet_harmless onCluster_harmless
        (fun _ => trivial) _ m)

lemma labelDefaultUserSecret_custodial (m : Memory) : Custodial (labelDefaultUserSecret m) := by
  refine fun g => ⟨trivial, fun reply _ => ?_⟩
  cases reply with
  | error e => trivial
  | ok secret =>
    change Follows _ (if _ then _ else _) _ _
    split
    · trivial
    · exact ⟨fun _ => ⟨secret, List.mem_cons_self, rfl, Keeps.refl _ _⟩, fun _ _ => trivial⟩

lemma startReconciling_custodial (m : Memory) : Custodial (startReconciling r m) := by
  refine (labelDefaultUserSecret_custodial m).bind fun _ => custodial_of_sends ?_
  refine sends_orReturn ((sends_rebalanceIfNeeded passive_harmless onCluster_harmless m).bind
    fun _ => trivial) fun m => ?_
  split
  · exact trivial
  · exact (sends_deleteChildren _ (by simp [Harmless, credentialKeys])).bind fun _ => trivial

theorem reconcile_custodial : Custodial (reconcile r.withSecrets) := by
  refine fun g => ⟨trivial, fun reply _ => ?_⟩
  rcases reply with (_ | _ | _ | message) | c
  · trivial
  · trivial
  · trivial
  · trivial
  · change Follows _ (if _ then _ else _) _ _
    split
    · have h : Custodial (prepareForDeletion c) :=
        custodial_of_sends (sends_prepareForDeletion passive_harmless (fun _ => trivial) onCluster_harmless c)
      exact (h _).bind fun _ _ _ => trivial
    · split
      · exact (custodial_of_sends (sends_patchStatus (patch_of_onCluster onCluster_harmless) _ rfl) _).bind
          fun _ _ _ => trivial
      · have hcluster (m : Memory) : Custodial (reconcileCluster r.withSecrets m) := by
          refine custodial_orReturn (custodial_of_sends
            (sends_prepare passive_harmless onCluster_harmless _ m)) fun m => ?_
          refine custodial_orReturn (startReconciling_custodial r.withSecrets m) fun m => ?_
          refine custodial_orReturn (builderLoop_custodial r _ m) fun m => ?_
          refine custodial_orReturn (custodial_of_sends (sends_postDeploy passive_harmless onCluster_harmless
            onStatefulSet_harmless (onChild_harmless rfl) m)) fun m => ?_
          exact (custodial_of_sends (sends_setReconcileSuccess (patch_of_onCluster onCluster_harmless) _ _ _ _)).bind
            fun _ _ => trivial
        refine (hcluster _ _).bind fun x _ _ => ?_
        cases x <;> trivial

end Reconcile

section Runs

variable {s : Store} {g : List (Kind × DataObject)}

structure Held (x : Kind × DataObject) (s : Store) : Prop where
  le : x.2.metadata.resourceVersion ≤ s.revision
  data : ∀ o ∈ s.child x.1, o.metadata.resourceVersion = x.2.metadata.resourceVersion → o.data = x.2.data

lemma Held.event {x : Kind × DataObject} (h : Held x s) (t : Turn) (q : Request) :
    Held x (server.event t q s).after := by
  refine ⟨h.le.trans (event_advances t q s).revision, fun o ho hv => ?_⟩
  rcases event_child ho with ho | hlt
  · exact h.data o ho hv
  · exact absurd (hv ▸ h.le) hlt.not_ge

lemma held_of_stored {k : Kind} {o : DataObject} (h : s.child k = some o) : Held (k, o) s := by
  refine ⟨(s.child_issued k o h).le, fun o' ho' _ => ?_⟩
  rw [h] at ho'
  cases ho'
  rfl

def Retained (s s' : Store) : Prop :=
  ∀ k, credentialKeys k ≠ [] → ∀ o ∈ s.child k, ∃ o' ∈ s'.child k, Keeps k o.data o'.data

lemma Retained.trans {s s' s'' : Store} (h : Retained s s') (h' : Retained s' s'') : Retained s s'' := by
  intro k hk o ho
  obtain ⟨o', ho', hkeeps⟩ := h k hk o ho
  obtain ⟨o'', ho'', hkeeps'⟩ := h' k hk o' ho'
  exact ⟨o'', ho'', hkeeps.trans hkeeps'⟩

lemma retained_of_eq {s s' : Store} (h : s'.child = s.child) : Retained s s' :=
  fun _ _ o ho => ⟨o, h ▸ ho, Keeps.refl _ _⟩

lemma custody_event (t : Turn) (q : Request) (hallows : custody.allows g q) (hg : ∀ x ∈ g, Held x s) :
    Retained (server.event t q s).before (server.event t q s).after ∧
      ∀ x ∈ custody.observe g (server.event t q s), Held x (server.event t q s).after := by
  constructor
  · rcases serve_written t q (server.disturb t s) with hs | hw
    · exact retained_of_eq (congrArg Store.child hs)
    · intro k hk o ho
      rcases hw.child_cases k with hs | ⟨rfl, -⟩ | ⟨sent, ⟨rfl, hs⟩ | ⟨rfl, stored, hs, hv⟩, hafter⟩
      · exact ⟨o, hs ▸ ho, Keeps.refl _ _⟩
      · exact absurd hallows hk
      · cases hs.symm.trans ho
      · cases ho.symm.trans hs
        obtain ⟨received, hreceived, hv', hkeeps⟩ := hallows hk
        have hdata := (hg _ hreceived).data o (by simpa using hs) (hv.symm.trans hv')
        exact ⟨_, hafter, hdata ▸ hkeeps⟩
  · intro x hx
    rcases List.mem_append.mp hx with hx | hx
    · obtain ⟨k, o⟩ := x
      exact held_of_stored (serve_replyChild (Option.mem_toList.mp hx)).1
    · exact (hg x hx).event t q

lemma rounds_retained (r : Reconciler) (tss : List (List Turn)) (s : Store) :
    ∀ e ∈ (rounds server (reconcile r.withSecrets) tss s).flatMap Outcome.trace, Retained e.before e.after := by
  refine Protocol.along_const.mp (Follows.sound_rounds (P := custody) (J := fun s g => ∀ x ∈ g, Held x s)
    (A := fun _ _ => True) (g := []) (reconcile_custodial r) (fun t q s g hallows hg _ => ?_) (by simp) tss
    (Protocol.along_const.mpr fun _ _ => trivial))
  obtain ⟨hretained, hheld⟩ := custody_event t q hallows hg
  exact ⟨hretained, trivial, hheld⟩

end Runs

section Connection

def Connected (s : Store) : Prop := ∃ o ∈ s.child .defaultUserSecret, Connects o.data

variable (r : Reconciler)

lemma createOrUpdate_connects (x : Memory × Bool) (obj : DataObject) (s : Store) :
    Meets server (fun _ => True) (fun _ => True)
      (createOrUpdate (Client.children .defaultUserSecret) (updateChild r.withSecrets .defaultUserSecret) x obj)
      (fun y s => ∀ result, y.1 = .ok result → Connected s) s := by
  have hwritten {t : Turn} {q : Request} {s : Store} {sent stored : DataObject}
      (hq : q = .createChild .defaultUserSecret sent ∨ q = .updateChild .defaultUserSecret sent)
      (h : replyChild q (server.event t q s).reply = some (.defaultUserSecret, stored))
      (hsent : Connects sent.data) : Connected (server.event t q s).after := by
    obtain ⟨hstored, hdata⟩ := serve_replyChild h
    exact ⟨stored, hstored, hdata sent hq ▸ hsent⟩
  refine fun t _ => ⟨trivial, ?_⟩
  generalize hreply : (server.event t (.getChild .defaultUserSecret) s).reply = reply
  rcases reply with (_ | _ | _ | message) | existing
  · change Meets _ _ _ (createMutated _ obj ((x.1.compute, x.2), DefaultUserSecretBuilder.update _ obj)) _ _
    cases hout : DefaultUserSecretBuilder.update x.1.cluster obj with
    | error err => exact nofun
    | ok o =>
      refine fun t _ => ⟨trivial, ?_⟩
      generalize hcreated : (server.event t (.createChild .defaultUserSecret o) _).reply = reply
      cases reply with
      | error e => exact nofun
      | ok stored =>
        exact fun _ _ => hwritten (Or.inl rfl) (by rw [hcreated]; rfl) (updateDefaultUser_connects hout)
  · exact nofun
  · exact nofun
  · exact nofun
  · have hread : (serve t (.getChild .defaultUserSecret) (server.disturb t s)).1 = .ok existing := hreply
    have hstored := (serve_replyChild (t := t) (q := .getChild .defaultUserSecret) (s := server.disturb t s)
      (k := .defaultUserSecret) (o := existing) (by rw [hread]; rfl)).1
    change Meets _ _ _ (updateMutated _ existing ((x.1.compute, x.2), DefaultUserSecretBuilder.update _ existing)) _ _
    cases hout : DefaultUserSecretBuilder.update x.1.cluster existing with
    | error err => exact nofun
    | ok o =>
      change Meets _ _ _ (if o = existing then _ else _) _ _
      split
      · subst_vars
        exact fun _ _ => ⟨_, hstored, updateDefaultUser_connects hout⟩
      · refine fun t _ => ⟨trivial, ?_⟩
        generalize hupdated : (server.event t (.updateChild .defaultUserSecret o) _).reply = reply
        cases reply with
        | error e => exact nofun
        | ok stored =>
          exact fun _ _ => hwritten (Or.inr rfl) (by rw [hupdated]; rfl) (updateDefaultUser_connects hout)

lemma createOrUpdateOnConflict_connects (x : Memory × Bool) (obj : DataObject) (s : Store) :
    Meets server (fun _ => True) (fun _ => True)
      (createOrUpdateOnConflict (Client.children .defaultUserSecret)
        (updateChild r.withSecrets .defaultUserSecret) x obj)
      (fun y s => ∀ result, y.1 = .ok result → Connected s) s := by
  refine (meets_onError (K := fun _ _ => True) (L := fun _ => Connected) (fun x s _ => ?_) _ trivial).bind
    fun y s hy => ?_
  · refine (createOrUpdate_connects r x.2.2 x.2.1 s).bind fun y s hy => ?_
    rcases y with ⟨err | result, _, _⟩
    · exact fun _ => trivial
    · exact hy result rfl
  · rcases y with ⟨_ | err, result, _, _⟩
    · exact fun _ _ => hy rfl
    · exact nofun

end Connection

theorem credentials_never_rotate (r : Reconciler) (tss : List (List Turn)) (s : Store) :
    (∀ es e rest, (rounds server (reconcile r.withSecrets) tss s).flatMap Outcome.trace = es ++ e :: rest →
      ∀ e' ∈ e :: rest,
        (∀ o ∈ e.before.child .erlangCookie, ∃ o' ∈ e'.after.child .erlangCookie,
          o'.data.get? ".erlang.cookie" = o.data.get? ".erlang.cookie") ∧
        ∀ o ∈ e.before.child .defaultUserSecret, ∃ o' ∈ e'.after.child .defaultUserSecret,
          o'.data.get? "username" = o.data.get? "username" ∧ o'.data.get? "password" = o.data.get? "password" ∧
            o'.data.get? "default_user.conf" = o.data.get? "default_user.conf" ∧
              (Connects o.data → Connects o'.data)) ∧
    ∀ x obj ts s' y, (run server (createOrUpdateOnConflict (Client.children .defaultUserSecret)
        (updateChild r.withSecrets .defaultUserSecret) x obj) ts s').result = some y →
      ∀ result, y.1 = .ok result → ∃ o ∈ (run server (createOrUpdateOnConflict
        (Client.children .defaultUserSecret) (updateChild r.withSecrets .defaultUserSecret) x obj)
        ts s').final.child .defaultUserSecret, Connects o.data := by
  refine ⟨fun es e rest htrace e' he' => ?_, fun x obj ts s' y hy => ?_⟩
  · have hcontinues := continues_rounds server (reconcile r.withSecrets) tss s
    have hretained := rounds_retained r tss s
    rw [htrace] at hcontinues hretained
    have h := hcontinues.lasting (K := Retained) Retained.trans
      (fun t s => retained_of_eq (disturb_child t s)) hretained e' he'
    refine ⟨fun o ho => ?_, fun o ho => ?_⟩
    · obtain ⟨o', ho', hkeeps⟩ := h .erlangCookie (by decide) o ho
      exact ⟨o', ho', hkeeps.credentials _ (by decide)⟩
    · obtain ⟨o', ho', hkeeps⟩ := h .defaultUserSecret (by decide) o ho
      exact ⟨o', ho', hkeeps.credentials _ (by decide), hkeeps.credentials _ (by decide),
        hkeeps.credentials _ (by decide), hkeeps.connects⟩
  · exact ((createOrUpdateOnConflict_connects r x obj s').sound ts fun _ _ => trivial).2 y hy

def newStore : Store := Store.empty.putCluster { name := "rabbit", ns := "default", generation := 1 }

def credentialReconciler : Reconciler := { plainReconciler with ini := Ini.ascii }

def drawing (c : Char) (s : Store) : Outcome api Store (Result × Option Memory) :=
  run server (reconcile credentialReconciler.withSecrets)
    (List.replicate 40 { random := String.ofList (List.replicate 64 c) }) s

lemma drawing_trace (c : Char) (s : Store) :
    ∃ t rest, (drawing c s).trace = server.event t .getCluster s :: rest := ⟨_, _, rfl⟩

theorem credentials_survive :
    ((drawing 'a' newStore).final.child .defaultUserSecret).map (fun o => o.data.get? "username") =
        some (some "default_user_aaaaaaaaaaaaaaaaaaa") ∧
      ∀ e ∈ (drawing 'b' (drawing 'a' newStore).final).trace, ∃ o ∈ e.after.child .defaultUserSecret,
        o.data.get? "username" = some "default_user_aaaaaaaaaaaaaaaaaaa" := by
  have hname : ((drawing 'a' newStore).final.child .defaultUserSecret).map (fun o => o.data.get? "username") =
      some (some "default_user_aaaaaaaaaaaaaaaaaaa") := by
    decide +kernel
  obtain ⟨o, ho, husername⟩ := Option.map_eq_some_iff.mp hname
  have hrotate := (credentials_never_rotate credentialReconciler
    [List.replicate 40 { random := String.ofList (List.replicate 64 'b') }] (drawing 'a' newStore).final).1
  obtain ⟨t, rest, htrace⟩ := drawing_trace 'b' (drawing 'a' newStore).final
  have hbefore := (congrFun (disturb_child t (drawing 'a' newStore).final) .defaultUserSecret).trans ho
  refine ⟨hname, fun e' he' => ?_⟩
  rw [htrace] at he'
  obtain ⟨o', ho', hkept, -⟩ := (hrotate [] _ rest ((List.append_nil _).trans htrace) e' he').2 o hbefore
  exact ⟨o', ho', hkept.trans husername⟩

end ClusterOperator.Controller
