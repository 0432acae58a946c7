import ClusterOperator.Controller.Acceptance
import ClusterOperator.Controller.Ownership

namespace ClusterOperator.Controller

open Api Kubernetes Interaction Resource

/-- `c` is the version `v`, apart from what Reconcile may change in memory before it comes to the builders. -/
structure Resembles (r : Reconciler) (v c : RabbitmqCluster) : Prop extends Stems r v c where
  others : c = { v with spec := c.spec, finalizers := c.finalizers, status := c.status }

lemma lasting_resembles (r : Reconciler) (received : List RabbitmqCluster) :
    Lasting r fun c => ∃ v ∈ received, Resembles r v c where
  image := by
    rintro hr c ⟨v, hv, h⟩
    exact ⟨v, hv, h.inPlace (.image _ hr), congrArg (fun d => { d with spec := setImage r c.spec }) h.others⟩
  updaterImage := by
    rintro hr c ⟨v, hv, h⟩
    exact ⟨v, hv, h.inPlace (.updaterImage _ hr),
      congrArg (fun d => { d with spec := setUpdaterImage r c.spec }) h.others⟩
  finalizers := by
    rintro c finalizers ⟨v, hv, h⟩
    exact ⟨v, hv, h.of_eq rfl rfl rfl, congrArg (fun d => { d with finalizers }) h.others⟩
  status := by
    rintro c status ⟨v, hv, h⟩
    exact ⟨v, hv, h.of_eq rfl rfl rfl, congrArg (fun d => { d with status }) h.others⟩

lemma Resembles.refl {r : Reconciler} {v : RabbitmqCluster} : Resembles r v v := ⟨Stems.refl, rfl⟩

def ChildrenInstalled (r : Reconciler) (received : List RabbitmqCluster) (xs : List (Exchange api)) : Prop :=
  ∃ v ∈ received, ∃ c, Resembles r v c ∧ ∀ k, .child k ∈ resourceBuilders r c →
    (childCalls k).Settle (fun o o' => childUpdate r k c o = .ok o') xs

def StatefulSetInstalled (r : Reconciler) (received : List RabbitmqCluster) (xs : List (Exchange api)) : Prop :=
  ∃ v ∈ received, statefulSetCalls.Settle
    (fun o o' => ∃ c, Stems r v c ∧ StatefulSetBuilder.update c r.merge o = .ok o') xs

/-- The child objects that a cluster needs have been found or taken as `Update` makes them. `received`
are the versions of the RabbitmqCluster that Reconcile was given. -/
structure Installed (r : Reconciler) (received : List RabbitmqCluster) (xs : List (Exchange api)) : Prop where
  children : ChildrenInstalled r received xs
  statefulSet : StatefulSetInstalled r received xs

lemma Installed.mono {r : Reconciler} {received received' : List RabbitmqCluster} {xs ys : List (Exchange api)}
    (h : Installed r received xs) (hreceived : received ⊆ received') (hxs : xs ⊆ ys) :
    Installed r received' ys := by
  obtain ⟨⟨v, hv, c, hs, hchildren⟩, w, hw, hsettle⟩ := h
  exact ⟨⟨v, hreceived hv, c, hs, fun k hk => (hchildren k hk).mono hxs⟩, w, hreceived hw, hsettle.mono hxs⟩

section Loop

variable {r : Reconciler} {m : Memory} {g₀ : History} {g : History × List (Exchange api)}

lemma logging_either {α : Type} {p : Operation (Except (Result × Memory) α)} {K : Memory → History → Prop}
    {Q : α → History → Prop} (h : Follows (protocol r) p (Either K Q) g.1) :
    Follows (protocol r).logging p
      (Either (fun m g' => K m g'.1) fun a g' => Q a g'.1 ∧ g.2 ⊆ g'.2) g := by
  refine (h.logging (ensures_trivial p)).post fun y g' hy => ?_
  obtain ⟨hy, xs, hxs, -⟩ := hy
  cases y with
  | error z => exact hy
  | ok a => exact ⟨hy, hxs ▸ List.subset_append_left _ _⟩

lemma logging_children {builders : List Builder} (hnot : .statefulSet ∉ builders)
    (hb : builders.head? = some (.child .headlessService) ∨ g.1.building = true) (hm : Knows r g₀ m g.1) :
    Follows (protocol r).logging (builderLoop r m builders)
      (Either (fun m g' => Knows r g₀ m g'.1) fun m' g' => Knows r g₀ m' g'.1 ∧ g'.1.building = true ∧
        m'.cluster = m.cluster ∧ g.2 ⊆ g'.2 ∧ ∀ k, .child k ∈ builders →
          (childCalls k).Settle (fun o o' => childUpdate r k m.cluster o = .ok o') g'.2) g := by
  induction builders generalizing m g with
  | nil => exact ⟨hm, hb.resolve_left nofun, rfl, List.Subset.refl _, nofun⟩
  | cons builder builders ih =>
    cases builder with
    | statefulSet => exact absurd List.mem_cons_self hnot
    | child k =>
      have hk : Builder.child k = .child .headlessService ∨ g.1.building = true := hb.imp_left Option.some.inj
      refine follows_orReturn (Q := fun m' g' => Knows r g₀ m' g'.1 ∧ g'.1.building = true ∧
        m'.cluster = m.cluster ∧ g.2 ⊆ g'.2 ∧
          (childCalls k).Settle (fun o o' => childUpdate r k m.cluster o = .ok o') g'.2) ?_ fun m' g' h => ?_
      · refine ((builderTurn_follows hk hm).logging (ensures_childTurn r k m)).post fun y g' hy => ?_
        obtain ⟨hy, xs, hxs, hturn⟩ := hy
        cases y with
        | error z => exact hy
        | ok m' =>
          obtain ⟨hc, hsettle⟩ := hturn m' rfl
          exact ⟨hy.1, hy.2, hc, hxs ▸ List.subset_append_left _ _,
            hsettle.mono (hxs ▸ List.subset_append_right _ _)⟩
      · obtain ⟨hm', hb', hc, hlog, hsettle⟩ := h
        refine (ih (fun h => hnot (List.mem_cons_of_mem _ h)) (Or.inr hb') hm').post fun y g'' hy => ?_
        cases y with
        | error z => exact hy
        | ok m'' =>
          obtain ⟨hm'', hb'', hc', hlog', hrest⟩ := hy
          refine ⟨hm'', hb'', hc'.trans hc, List.Subset.trans hlog hlog', fun j hj => ?_⟩
          rcases List.mem_cons.mp hj with hj | hj
          · cases hj
            exact hsettle.mono hlog'
          · exact hc ▸ hrest j hj

lemma logging_writeStatefulSet {sts : StatefulSet} (hb : g₀.building = true) (hm : Knows r g₀ m g.1)
    (hobj : Own r g.1 sts) :
    Follows (protocol r).logging (writeStatefulSet r m sts) (Either (fun m g' => Knows r g₀ m g'.1)
      fun m' g' => Knows r g₀ m' g'.1 ∧ g.2 ⊆ g'.2 ∧ StatefulSetInstalled r g'.1.received g'.2) g := by
  obtain ⟨v, hv, hs, -⟩ := hm.stems
  refine ((writeStatefulSet_follows (hm.later.building hb) hm.restart hobj).logging
    (ensures_writeStatefulSet hs sts)).post fun y g' hy => ?_
  obtain ⟨hy, xs, hxs, hwritten⟩ := hy
  cases y with
  | error z => exact Knows.since hy hm.later
  | ok m' =>
    refine ⟨Knows.since hy hm.later, hxs ▸ List.subset_append_left _ _, v,
      hy.later.received (List.mem_of_mem_head? hv), ?_⟩
    exact (hwritten m' rfl).mono (hxs ▸ List.subset_append_right _ _)

lemma logging_statefulSetTurn (hb : g₀.building = true) (hm : Knows r g₀ m g.1) :
    Follows (protocol r).logging (statefulSetTurn r m) (Either (fun m g' => Knows r g₀ m g'.1)
      fun m' g' => Knows r g₀ m' g'.1 ∧ g.2 ⊆ g'.2 ∧ StatefulSetInstalled r g'.1.received g'.2) g := by
  have hfresh : Knows r g₀ { m with sharesClaims := false } g.1.tick := hm.tick.congr rfl rfl rfl rfl rfl
  obtain ⟨v, hv, hs, -⟩ := hfresh.stems
  have hbuild : Draft r g.1.tick.received (StatefulSetBuilder.build m.cluster) :=
    .build (List.mem_of_mem_head? hv) hs
  have hlonger {x : Exchange api} {xs : List (Exchange api)} (h : g.2 ++ [x] ⊆ xs) : g.2 ⊆ xs :=
    fun _ hy => h (List.mem_append_left _ hy)
  refine ⟨trivial, fun reply _ => ?_⟩
  rcases reply with (_ | _ | _ | message) | current
  · refine (logging_writeStatefulSet (g := (protocol r).logging.next g .getStatefulSet (.error .notFound)) hb hfresh
      (Or.inr hbuild)).post fun y g' hy => ?_
    cases y with
    | error z => exact hy
    | ok m' => exact ⟨hy.1, hlonger hy.2.1, hy.2.2⟩
  · exact hfresh
  · exact hfresh
  · exact hfresh
  · obtain ⟨hk, w, c, hw, hc, hu⟩ := updateStatefulSet_spec hfresh (hfresh.later.building hb) false
      (StatefulSetBuilder.build m.cluster)
    dsimp only
    generalize updateStatefulSet r false _ (StatefulSetBuilder.build m.cluster) = y at hk hu ⊢
    rcases y with ⟨m', err | sts⟩
    · exact hk
    · have hsts : Own r g.1.tick sts := Own.update (Or.inr hbuild) hw hc hu.symm
      refine follows_orReturn (Q := fun m g' => Knows r g.1.tick m g'.1 ∧ g.2 ⊆ g'.2) ?_ fun m g' h => ?_
      · refine (logging_either (guardReplicas_follows hk.restart)).post fun y g' hy => ?_
        cases y with
        | error z => exact Knows.since hy hk.later
        | ok m => exact ⟨hy.1, hlonger hy.2⟩
      · refine (logging_writeStatefulSet hb (h.1.since hk.later) (hsts.mono h.1.later)).post fun y g'' hy => ?_
        cases y with
        | error z => exact hy
        | ok m' => exact ⟨hy.1, List.Subset.trans h.2 hy.2.1, hy.2.2⟩

lemma logging_builderLoop (hm : Knows r g₀ m g.1) (hc : ∃ v ∈ g.1.received, Resembles r v m.cluster) :
    Follows (protocol r).logging (builderLoop r m (resourceBuilders r m.cluster))
      (Either (fun m g' => Knows r g₀ m g'.1) fun m' g' => Knows r g₀ m' g'.1 ∧
        Installed r g'.1.received g'.2) g := by
  obtain ⟨children, hsplit, hnot⟩ := exists_children r m.cluster
  obtain ⟨v, hv, hs⟩ := hc
  have hhead : children.head? = some (.child .headlessService) := by
    have h := resourceBuilders_head (r := r) m.cluster
    rw [hsplit] at h
    cases children with
    | nil => cases h
    | cons builder builders => exact h
  rw [hsplit, builderLoop_append]
  refine Follows.bind (logging_children hnot (Or.inl hhead) hm.restart) fun y g' hy => ?_
  cases y with
  | error z => exact Knows.since hy hm.later
  | ok m' =>
    obtain ⟨hm', hb, -, -, hchildren⟩ := hy
    refine Follows.bind (logging_statefulSetTurn hb hm'.restart) fun y g'' hy => ?_
    cases y with
    | error z => exact (Knows.since hy hm'.later).since hm.later
    | ok m'' =>
      have hm'' := hy.1.since hm'.later
      refine ⟨hm''.since hm.later, ⟨v, hm''.later.received hv, m.cluster, hs, fun k hk => ?_⟩,
        hy.2.2⟩
      rw [hsplit] at hk
      exact (hchildren k ((List.mem_append.mp hk).resolve_right (by simp))).mono hy.2.1

end Loop

section Reconcile

variable {r : Reconciler} {m : Memory} {g₀ : History} {g : History × List (Exchange api)}

lemma ensures_of_carries {α : Type} {p : Operation α} {A : (RabbitmqCluster → Prop) → Prop}
    {Q : (RabbitmqCluster → Prop) → α → Prop} (h : ∀ P, A P → Carries P p (Q P)) :
    Ensures p fun xs a => ∀ P, A P → (∀ x ∈ xs, ∀ c ∈ replyCluster x.1 x.2, P c) → Q P a := by
  induction p generalizing A with
  | done a => exact fun P hP _ => h P hP
  | send q next ih =>
    intro reply
    refine (ih reply (A := fun P => A P ∧ ∀ c ∈ replyCluster q reply, P c)
      fun P hP => (h P hP.1).2 reply hP.2).mono fun xs a ha P hP hxs => ?_
    exact ha P ⟨hP, hxs _ List.mem_cons_self⟩ fun x hx => hxs x (List.mem_cons_of_mem _ hx)

def Logged (g : History × List (Exchange api)) : Prop :=
  ∀ x ∈ g.2, ∀ c ∈ replyCluster x.1 x.2, c ∈ g.1.received

lemma Logged.next (h : Logged g) (q : Request) (reply : Reply q) : Logged ((protocol r).logging.next g q reply) := by
  have hreceived : ((protocol r).logging.next g q reply).1.received =
      (replyCluster q reply).toList ++ g.1.received := record_received ..
  intro x hx c hc
  rw [hreceived]
  rcases List.mem_append.mp hx with hx | hx
  · exact List.mem_append_right _ (h x hx c hc)
  · cases List.mem_singleton.mp hx
    exact List.mem_append_left _ (Option.mem_toList.mpr hc)

lemma follows_logged {α : Type} {p : Operation α} {K : α → History × List (Exchange api) → Prop}
    (h : Follows (protocol r).logging p K g) (hg : Logged g) :
    Follows (protocol r).logging p (fun a g' => K a g' ∧ Logged g') g := by
  induction p generalizing g with
  | done a => exact ⟨h, hg⟩
  | send q next ih => exact ⟨h.1, fun reply hreply => ih reply (h.2 reply hreply) (hg.next q reply)⟩

structure Carried (r : Reconciler) (m : Memory) (g : History × List (Exchange api)) : Prop where
  logged : Logged g
  resembles : ∃ v ∈ g.1.received, Resembles r v m.cluster

lemma logging_carried {p : Operation (Except (Result × Memory) Memory)} (hm : Knows r g₀ m g.1)
    (hfollows : Follows (protocol r) p (Either (Knows r g.1) (Knows r g.1)) g.1)
    (hcarries : ∀ P, Lasting r P ∧ P m.cluster → Carries P p (Goes P)) (hg : Carried r m g) :
    Follows (protocol r).logging p
      (Either (fun m g' => Knows r g₀ m g'.1) fun m' g' => Knows r g₀ m' g'.1 ∧ Carried r m' g') g := by
  refine (follows_logged (hfollows.logging (ensures_of_carries hcarries)) hg.logged).post fun y g' hy => ?_
  obtain ⟨⟨hy, xs, hxs, hgoes⟩, hlogged⟩ := hy
  cases y with
  | error z => exact Knows.since hy hm.later
  | ok m' =>
    refine ⟨Knows.since hy hm.later, hlogged, ?_⟩
    obtain ⟨v, hv, h⟩ := hg.resembles
    refine hgoes _ ⟨lasting_resembles r g'.1.received, v, hy.later.received hv, h⟩ fun x hx c hc => ?_
    exact ⟨c, hlogged x (hxs ▸ List.mem_append_right _ hx) c hc, Resembles.refl⟩

lemma logging_reconcileCluster (hm : Knows r g₀ m g.1) (hg : Carried r m g) :
    Follows (protocol r).logging (reconcileCluster r m)
      (Either (fun m g' => Knows r g₀ m g'.1) fun _ g' => Installed r g'.1.received g'.2) g := by
  refine follows_orReturn (logging_carried hm (prepare_follows hm.restart)
    (fun P hP => carries_prepare hP.1 hP.2) hg) fun m g hm => ?_
  refine follows_orReturn (logging_carried hm.1 (startReconciling_follows hm.1.restart)
    (fun P hP => carries_startReconciling hP.2) hm.2) fun m g hm => ?_
  refine follows_orReturn (logging_builderLoop hm.1 hm.2.resembles) fun m g hm => ?_
  refine follows_orReturn (Q := fun m g' => Installed r g'.1.received g'.2) ?_ fun m g h => ?_
  · refine (logging_either (postDeploy_follows hm.1.restart)).post fun y g' hy => ?_
    cases y with
    | error z => exact Knows.since hy hm.1.later
    | ok m' => exact hm.2.mono hy.1.later.received hy.2
  · refine Follows.bind (Q := fun (_ : Memory) (g' : History × List (Exchange api)) =>
      Installed r g'.1.received g'.2) ?_ fun _ _ h => h
    refine ⟨trivial, fun reply _ => ?_⟩
    have hlog : g.2 ⊆ g.2 ++ [⟨_, reply⟩] := List.subset_append_left _ _
    cases reply with
    | error e => exact h.mono (List.Subset.refl _) hlog
    | ok c => exact h.mono (List.subset_cons_self _ _) hlog

theorem logging_reconcile :
    Follows (protocol r).logging (reconcile r)
      (fun y g => ∀ m ∈ y.2, m.observed ≠ none → Installed r g.1.received g.2) ({}, []) := by
  refine ⟨trivial, fun reply hreply => ?_⟩
  rcases reply with (_ | _ | _ | message) | c
  · exact fun m hm => by cases hm
  · exact fun m hm => by cases hm
  · exact fun m hm => by cases hm
  · exact fun m hm => by cases hm
  · have hm : Knows r {} { cluster := c } (History.receive (History.tick {}) c) :=
      getCluster_follows.2 (.ok c) hreply c rfl
    change Follows _ (if _ then _ else _) _ _
    split
    · rename_i hdeleted
      refine ((prepareForDeletion_follows hdeleted rfl).logging (ensures_trivial _)).bind fun err g _ => ?_
      exact forall_unobserved rfl
    · split
      · refine ((patchStatus_follows hm _).logging (ensures_trivial _)).bind fun x g hx => ?_
        exact forall_unobserved hx.1.observed
      · have hc : Carried r { cluster := c } ((protocol r).logging.next ({}, []) .getCluster (.ok c)) :=
          ⟨Logged.next (g := ({}, [])) (fun x hx => absurd hx List.not_mem_nil) _ _, c, List.mem_cons_self,
            Resembles.refl⟩
        refine (logging_reconcileCluster hm hc).bind fun x g hx => ?_
        cases x with
        | error y => exact forall_unobserved (Knows.observed hx)
        | ok m => exact fun _ _ _ => hx

def versionsIn (xs : List (Exchange api)) : List RabbitmqCluster := xs.filterMap fun x => replyCluster x.1 x.2

lemma mem_received {S : Type} {es : List (Event api S)} {g : History} {v : RabbitmqCluster}
    (hv : v ∈ (es.foldl (protocol r).observe g).received) :
    v ∈ g.received ∨ v ∈ versionsIn (es.map Event.exchange) := by
  induction es generalizing g with
  | nil => exact Or.inl hv
  | cons e es ih =>
    have hfirst : ((protocol r).observe g e).received =
        (replyCluster e.request e.reply).toList ++ g.received := record_received ..
    rcases ih hv with h | h
    · rw [hfirst] at h
      rcases List.mem_append.mp h with h | h
      · exact Or.inr (List.mem_filterMap.mpr ⟨e.exchange, List.mem_cons_self, Option.mem_toList.mp h⟩)
      · exact Or.inl h
    · obtain ⟨x, hx, h⟩ := List.mem_filterMap.mp h
      exact Or.inr (List.mem_filterMap.mpr ⟨x, List.mem_cons_of_mem _ hx, h⟩)

end Reconcile

def exchanges {S α : Type} (o : Outcome api S α) : List (Exchange api) := o.trace.map Event.exchange

/-- Whatever the server makes of what it is sent, and whatever other clients do. -/
theorem success_after_installation {S T : Type} (srv : Server api S T) (r : Reconciler) (ts : List T) (s : S)
    {result : Result} {m : Memory}
    (hpos : ∀ e ∈ (run srv (reconcile r) ts s).trace, ∀ o, replyStatefulSet e.request e.reply = some o →
      0 < o.metadata.resourceVersion)
    (hresult : (run srv (reconcile r) ts s).result = some (result, some m)) (hm : m.observed ≠ none) :
    Installed r (versionsIn (exchanges (run srv (reconcile r) ts s))) (exchanges (run srv (reconcile r) ts s)) := by
  obtain ⟨-, -, h⟩ := (logging_reconcile (r := r)).sound (J := fun _ _ => True)
    (A := fun _ (e : Event api S) => ∀ o, replyStatefulSet e.request e.reply = some o → 0 < o.metadata.resourceVersion)
    (E := fun _ (_ : Event api S) => True)
    (fun t q s g _ _ he => ⟨trivial, expects_of_pos (r := r) (g := g.1) he, trivial⟩) trivial ts
    (Protocol.along_const.mpr hpos)
  have hinstalled := h _ hresult m rfl hm
  rw [Protocol.foldl_logging] at hinstalled
  exact hinstalled.mono (fun v hv => (mem_received hv).resolve_left List.not_mem_nil) (List.Subset.refl _)

def installing : Outcome api Store (Result × Option Memory) :=
  run server (reconcile fullReconciler)
    (List.replicate 35 versionTurn ++
      { versionTurn with endpoints := [[{ podName := "rabbit-server-0" }]] } :: versionTurn :: versionTurn ::
      { versionTurn with edits := [.setStatefulSetStatus { readyReplicas := 1 }] } ::
      List.replicate 5 versionTurn) (settledStore { storage := 10 })

theorem installation_reported : ∃ result m, installing.result = some (result, some m) ∧ m.observed = some 1 ∧
    Installed fullReconciler (versionsIn (exchanges installing)) (exchanges installing) := by
  have h : (installing.result.bind Prod.snd).map Memory.observed = some (some 1) := by decide +kernel
  obtain ⟨m, hm, hobserved⟩ := Option.map_eq_some_iff.mp h
  obtain ⟨⟨result, _⟩, hresult, rfl⟩ := Option.bind_eq_some_iff.mp hm
  refine ⟨result, m, hresult, hobserved, success_after_installation server fullReconciler _ _
    (run_events (fun t q s o => ?_) _ _ _) hresult (by simp [hobserved])⟩
  exact serve_statefulSet_pos

end ClusterOperator.Controller
