import ClusterOperator.Controller.BuilderConduct
import ClusterOperator.Interaction.Exchange

namespace ClusterOperator.Controller

open Api Kubernetes Interaction Resource

section Calls

variable {α σ : Type}

lemma ensures_onError {retriable : Err → Bool} {attempt : σ → Operation (Option Err × σ)} {K : σ → Prop}
    {L : List (Exchange api) → Prop} (hL : ∀ xs ys, L ys → L (xs ++ ys))
    (h : ∀ x, K x → Ensures (attempt x) fun xs y => K y.2 ∧ (y.1 = none → L xs)) (n : ℕ) {x : σ} (hx : K x) :
    Ensures (onError retriable attempt n x) fun xs y => K y.2 ∧ (y.1 = none → L xs) := by
  induction n generalizing x with
  | zero => exact h x hx
  | succ n ih =>
    refine (h x hx).bind fun xs y hy => ?_
    rcases y with ⟨_ | err, y⟩
    · exact ⟨hy.1, fun hnone => (List.append_nil xs).symm ▸ hy.2 hnone⟩
    · dsimp only
      split
      · exact (ih hy.1).mono fun ys z hz => ⟨hz.1, fun hnone => hL xs ys (hz.2 hnone)⟩
      · exact ⟨hy.1, fun hnone => nomatch hnone⟩

/-- The exchanges in which the calls of a client go through. -/
structure Calls (client : Kubernetes.Resource α) where
  absent : Exchange api
  read : α → Exchange api
  created : α → α → Exchange api
  updated : α → α → Exchange api
  get : Ensures client.get fun xs reply =>
    (reply = .error .notFound → absent ∈ xs) ∧ ∀ o, reply = .ok o → read o ∈ xs
  create : ∀ o, Ensures (client.create o) fun xs reply => ∀ o', reply = .ok o' → created o o' ∈ xs
  update : ∀ o, Ensures (client.update o) fun xs reply => ∀ o', reply = .ok o' → updated o o' ∈ xs

def childCalls (k : Kind) : Calls (Client.children k) where
  absent := ⟨.getChild k, .error .notFound⟩
  read o := ⟨.getChild k, .ok o⟩
  created o o' := ⟨.createChild k o, .ok o'⟩
  updated o o' := ⟨.updateChild k o, .ok o'⟩
  get _ := ⟨fun h => h ▸ List.mem_singleton_self _, fun _ h => h ▸ List.mem_singleton_self _⟩
  create _ _ _ h := h ▸ List.mem_singleton_self _
  update _ _ _ h := h ▸ List.mem_singleton_self _

def statefulSetCalls : Calls Client.statefulSets where
  absent := ⟨.getStatefulSet, .error .notFound⟩
  read o := ⟨.getStatefulSet, .ok o⟩
  created o o' := ⟨.createStatefulSet o, .ok o'⟩
  updated o o' := ⟨.updateStatefulSet o, .ok o'⟩
  get _ := ⟨fun h => h ▸ List.mem_singleton_self _, fun _ h => h ▸ List.mem_singleton_self _⟩
  create _ _ _ h := h ▸ List.mem_singleton_self _
  update _ _ _ h := h ▸ List.mem_singleton_self _

namespace Calls

variable {client : Kubernetes.Resource α} (calls : Calls client)

/-- An object is found to be as it should be, or it is written as it should be and the server takes
it. `U o o'` says that `Update` makes `o'` of `o`. -/
inductive Settle (U : α → α → Prop) (xs : List (Exchange api)) : Prop
  | found (o : α) (hread : calls.read o ∈ xs) (h : U o o)
  | updated (o o' stored : α) (hread : calls.read o ∈ xs) (h : U o o') (htaken : calls.updated o' stored ∈ xs)
  | created (o o' stored : α) (habsent : calls.absent ∈ xs) (h : U o o') (htaken : calls.created o' stored ∈ xs)

variable {calls} {U : α → α → Prop} {xs ys : List (Exchange api)}

lemma Settle.mono (h : calls.Settle U xs) (hxs : xs ⊆ ys) : calls.Settle U ys := by
  cases h with
  | found o hread h => exact .found o (hxs hread) h
  | updated o o' stored hread h htaken => exact .updated o o' stored (hxs hread) h (hxs htaken)
  | created o o' stored habsent h htaken => exact .created o o' stored (hxs habsent) h (hxs htaken)

variable [DecidableEq α] {mutate : Bool → σ → α → σ × Except Err α} {K : σ → Prop} {m : σ}

lemma ensures_createOrUpdate (calls : Calls client) (hmutate : ∀ fetched m o, K m →
      K (mutate fetched m o).1 ∧ ∀ o', (mutate fetched m o).2 = .ok o' → U o o') (hm : K m) (obj : α) :
    Ensures (createOrUpdate client mutate m obj) fun xs y =>
      K y.2.2 ∧ ∀ result, y.1 = .ok result → calls.Settle U xs := by
  refine calls.get.bind fun xs reply h => ?_
  rcases reply with (_ | _ | _ | message) | existing
  · obtain ⟨hK, hmakes⟩ := hmutate false m obj hm
    dsimp only
    generalize mutate false m obj = y at hK hmakes
    rcases y with ⟨m', err | o⟩
    · exact ⟨hK, nofun⟩
    · refine (calls.create o).bind fun ys reply hreply => ?_
      cases reply with
      | error e => exact ⟨hK, nofun⟩
      | ok o' =>
        exact ⟨hK, fun _ _ => .created obj o o' (List.mem_append_left _ (h.1 rfl)) (hmakes o rfl)
          (List.mem_append_right _ (List.mem_append_left _ (hreply o' rfl)))⟩
  · exact ⟨hm, nofun⟩
  · exact ⟨hm, nofun⟩
  · exact ⟨hm, nofun⟩
  · obtain ⟨hK, hmakes⟩ := hmutate true m existing hm
    have hread := h.2 existing rfl
    dsimp only
    generalize mutate true m existing = y at hK hmakes
    rcases y with ⟨m', err | o⟩
    · exact ⟨hK, nofun⟩
    · unfold updateMutated
      dsimp only
      split
      · rename_i heq
        exact ⟨hK, fun _ _ => .found existing (List.mem_append_left _ hread) (hmakes existing (congrArg _ heq))⟩
      · refine (calls.update o).bind fun ys reply hreply => ?_
        cases reply with
        | error e => exact ⟨hK, nofun⟩
        | ok o' =>
          exact ⟨hK, fun _ _ => .updated existing o o' (List.mem_append_left _ hread) (hmakes o rfl)
            (List.mem_append_right _ (List.mem_append_left _ (hreply o' rfl)))⟩

lemma ensures_createOrUpdateOnConflict (calls : Calls client) (hmutate : ∀ fetched m o, K m →
      K (mutate fetched m o).1 ∧ ∀ o', (mutate fetched m o).2 = .ok o' → U o o') (hm : K m) (obj : α) :
    Ensures (createOrUpdateOnConflict client mutate m obj) fun xs y =>
      K y.2 ∧ ∀ result, y.1 = .ok result → calls.Settle U xs := by
  refine Ensures.bind (ensures_onError (K := fun z => K z.2.2) (L := calls.Settle U)
    (fun xs ys h => h.mono (List.subset_append_right _ _)) (fun z hz => ?_) _ hm) fun xs z hz => ?_
  · refine (calls.ensures_createOrUpdate hmutate hz z.2.1).bind fun xs y hy => ?_
    rcases y with ⟨err | result, o, m⟩
    · exact ⟨hy.1, nofun⟩
    · exact ⟨hy.1, fun _ => (hy.2 result rfl).mono (List.subset_append_left _ _)⟩
  · rcases z with ⟨_ | err, result, o, m⟩
    · exact ⟨hz.1, fun _ _ => (hz.2 rfl).mono (List.subset_append_left _ _)⟩
    · exact ⟨hz.1, nofun⟩

end Calls

end Calls

section Turns

variable {r : Reconciler} {m : Memory}

lemma ensures_finishTurn (builder : Builder) (restart : Bool) (m : Memory) (result : Except Err OperationResult) :
    Ensures (finishTurn builder restart m result) fun _ y => ∀ m', y = .ok m' → m' = m ∧ ∃ x, result = .ok x := by
  cases result with
  | error err =>
    unfold finishTurn
    dsimp only
    split
    · refine (ensures_trivial _).bind fun _ _ _ m' hm' => ?_
      cases hm'
    · refine (ensures_trivial _).bind fun _ _ _ m' hm' => ?_
      cases hm'
  | ok x =>
    refine (ensures_trivial _).bind fun _ err _ => ?_
    cases err with
    | some err =>
      intro m' hm'
      cases hm'
    | none =>
      intro m' hm'
      cases hm'
      exact ⟨rfl, x, rfl⟩

def childUpdate (r : Reconciler) (k : Kind) (c : RabbitmqCluster) : DataObject → Except Err DataObject :=
  match k with
  | .pluginsConf => RabbitmqPluginsConfigMapBuilder.update c
  | .serverConf => ServerConfigMapBuilder.updated c r.ini
  | k => r.update k c

lemma childUpdate_of_updateChild {k : Kind} {fetched : Bool} {x : Memory × Bool} {o o' : DataObject}
    (h : (updateChild r k fetched x o).2 = .ok o') : childUpdate r k x.1.cluster o = .ok o' := by
  cases k with
  | serverConf => exact ServerConfigMapBuilder.updated_of_update h
  | _ => exact h

lemma ensures_childTurn (r : Reconciler) (k : Kind) (m : Memory) :
    Ensures (childTurn r k m) fun xs y => ∀ m', y = .ok m' → m'.cluster = m.cluster ∧
      (childCalls k).Settle (fun o o' => childUpdate r k m.cluster o = .ok o') xs := by
  refine (ensures_trivial _).bind fun xs built _ => ?_
  cases built with
  | error err =>
    intro m' hm'
    cases hm'
  | ok obj =>
    refine ((childCalls k).ensures_createOrUpdateOnConflict (K := fun x => x.1.cluster = m.cluster)
      (U := fun o o' => childUpdate r k m.cluster o = .ok o') (fun fetched x o hx => ⟨?_, fun o' ho' => ?_⟩)
      rfl obj).bind fun ys y hy => ?_
    · rw [updateChild_memory]
      exact hx
    · exact hx ▸ childUpdate_of_updateChild ho'
    · refine (ensures_finishTurn (.child k) y.2.2 y.2.1 y.1).mono fun zs z hz m' hm' => ?_
      obtain ⟨rfl, result, hresult⟩ := hz m' hm'
      exact ⟨hy.1, (hy.2 result hresult).mono fun _ hx => List.mem_append_right _ (List.mem_append_left _ hx)⟩

lemma ensures_writeStatefulSet {v : RabbitmqCluster} (hs : Stems r v m.cluster) (sts : StatefulSet) :
    Ensures (writeStatefulSet r m sts) fun xs y => ∀ m', y = .ok m' → statefulSetCalls.Settle
      (fun o o' => ∃ c, Stems r v c ∧ StatefulSetBuilder.update c r.merge o = .ok o') xs := by
  refine (ensures_trivial _).bind fun xs scaled _ => ?_
  cases scaled with
  | error err =>
    refine (ensures_trivial _).bind fun _ _ _ m' hm' => ?_
    cases hm'
  | ok _ =>
    refine (statefulSetCalls.ensures_createOrUpdateOnConflict (K := fun m => Stems r v m.cluster)
      (U := fun o o' => ∃ c, Stems r v c ∧ StatefulSetBuilder.update c r.merge o = .ok o')
      (fun fetched m o hm =>
        ⟨hm.updateInMemory r.merge (m.sharesClaims && !fetched) o, fun o' ho' => ⟨_, ?_, ho'⟩⟩)
      hs sts).bind fun ys y hy => ?_
    · split
      · exact hm.inPlace (.raise _)
      · exact hm
    · refine (ensures_finishTurn .statefulSet false y.2 y.1).mono fun zs z hz m' hm' => ?_
      obtain ⟨-, result, hresult⟩ := hz m' hm'
      exact (hy.2 result hresult).mono fun _ hx => List.mem_append_right _ (List.mem_append_left _ hx)

end Turns

end ClusterOperator.Controller
