import ClusterOperator.Controller.Preparation
import ClusterOperator.Kubernetes.Serving

namespace ClusterOperator.Controller

open Api Kubernetes Interaction

def HasAddress (slice : List Endpoint) : Prop := ∃ e ∈ slice, e.addresses ≠ []

instance (slice : List Endpoint) : Decidable (HasAddress slice) :=
  inferInstanceAs (Decidable (∃ e ∈ slice, _))

def availability (slices : List (List Endpoint)) : ConditionStatus :=
  if ∃ slice ∈ slices, HasAddress slice then .true else if slices = [] then .unknown else .false

lemma availability_perm {slices slices' : List (List Endpoint)} (h : slices.Perm slices') :
    availability slices = availability slices' := by
  have hempty : slices = [] ↔ slices' = [] := by
    rw [← List.length_eq_zero_iff, ← List.length_eq_zero_iff, h.length_eq]
  simp only [availability, h.mem_iff, hempty]

section Condition

lemma clusterAvailable_status_some (slice : List Endpoint) :
    (Status.clusterAvailableCondition (some slice)).status = if HasAddress slice then .true else .false := by
  have hany : (slice.any fun e => !e.addresses.isEmpty) = true ↔ HasAddress slice := by
    simp [HasAddress]
  unfold Status.clusterAvailableCondition
  dsimp only
  split
  · rename_i h
    rw [if_pos (hany.mp h)]
  · rename_i h
    rw [if_neg fun hr => h (hany.mpr hr)]

def FirstDecides (slices : List (List Endpoint)) : Prop :=
  (∀ slice ∈ slices.head?, HasAddress slice) ∨ ∀ slice ∈ slices, ¬ HasAddress slice

instance (slices : List (List Endpoint)) : Decidable (FirstDecides slices) :=
  inferInstanceAs (Decidable (_ ∨ _))

lemma clusterAvailable_head_iff (slices : List (List Endpoint)) :
    (Status.clusterAvailableCondition slices.head?).status = availability slices ↔ FirstDecides slices := by
  rcases slices with _ | ⟨slice, slices⟩
  · simp [FirstDecides, availability, Status.clusterAvailableCondition]
  · rw [List.head?_cons, clusterAvailable_status_some]
    by_cases hfirst : HasAddress slice
    · simp [FirstDecides, availability, hfirst]
    · by_cases hrest : ∃ slice ∈ slices, HasAddress slice
      · simp [FirstDecides, availability, hfirst, hrest]
      · have hnone : ∀ slice ∈ slices, ¬ HasAddress slice := fun s hs h => hrest ⟨s, hs, h⟩
        simpa [FirstDecides, availability, hfirst, hrest] using hnone

end Condition

def replySlices : (q : Request) → Reply q → Option (List (List Endpoint))
  | .listEndpointSlices, .ok slices => some slices
  | _, _ => none

def Lists (slices : List (List Endpoint)) (e : Event api Store) : Prop :=
  ∀ l ∈ replySlices e.request e.reply, l = slices

instance (slices : List (List Endpoint)) (e : Event api Store) : Decidable (Lists slices e) :=
  inferInstanceAs (Decidable (∀ l ∈ replySlices _ _, _))

def reported (m : Memory) : List ConditionStatus :=
  (m.cluster.status.conditions.filter (·.type = .clusterAvailable)).map (·.status)

lemma reported_of_setConditions {m m' : Memory} {sts : Option StatefulSet} {endpoints : Option (List Endpoint)}
    (h : m'.cluster.status.conditions = (Status.setConditions sts endpoints m.cluster.status).conditions) :
    reported m' = [(Status.clusterAvailableCondition endpoints).status] := by
  have hall : (Status.allReplicasReadyCondition sts).type = .allReplicasReady := by
    unfold Status.allReplicasReadyCondition
    split
    · rfl
    · split_ifs <;> rfl
  have havailable : (Status.clusterAvailableCondition endpoints).type = .clusterAvailable := by
    unfold Status.clusterAvailableCondition
    split
    · rfl
    · split_ifs <;> rfl
  have hwarnings : (Status.noWarningsCondition sts).type = .noWarnings := by
    unfold Status.noWarningsCondition
    split
    · rfl
    · dsimp only
      split_ifs <;> rfl
  have hold : ((m.cluster.status.conditions.reverse.find? (·.type = .reconcileSuccess)).getD
      ⟨.reconcileSuccess, .unknown, "Initialising", ""⟩).type = .reconcileSuccess := by
    cases hfind : m.cluster.status.conditions.reverse.find? (·.type = .reconcileSuccess) with
    | none => rfl
    | some c => simpa using List.find?_some hfind
  rw [reported, h]
  simp [Status.setConditions, hall, havailable, hwarnings, hold]

section Run

variable {m : Memory} {slices : List (List Endpoint)} {s : Store} {A : Event api Store → Prop}

lemma serve_patchStatus_conditions {t : Turn} {base modified c : RabbitmqCluster}
    (h : (serve t (.patchStatus base modified) s).1 = .ok c)
    (hne : base.status.conditions ≠ modified.status.conditions) :
    c.status.conditions = modified.status.conditions := by
  have ha : serve t (.patchStatus base modified) s = answer t (.patchStatus base modified) s :=
    serve_eq_answer fun e he => by
      rw [h] at he
      cases he
  rw [ha] at h
  simp only [answer, Store.patchStatus] at h
  split at h
  · cases h
  · cases h
    exact if_neg hne

lemma meets_call {α : Type} {q : Request} {f : Reply q → Operation α} {Q : α → Store → Prop}
    (h : ∀ t s' reply, A (server.event t q s) → (server.event t q s).reply = reply →
      Meets server A (fun _ => True) (f reply) Q s') :
    Meets server A (fun _ => True) (.send q .done >>= f) Q s :=
  fun t ht => ⟨trivial, h t _ _ ht rfl⟩

lemma patchStatus_conditions {f : RabbitmqClusterStatus → RabbitmqClusterStatus}
    (hf : (f m.cluster.status).conditions ≠ m.cluster.status.conditions) :
    Meets server A (fun _ => True) (patchStatus m f)
      (fun x _ => x.2.cluster.status.conditions = (f m.cluster.status).conditions) s := by
  refine meets_call fun t s' reply _ hreply => ?_
  cases reply with
  | error e => rfl
  | ok c => exact serve_patchStatus_conditions hreply hf.symm

lemma endpoints_listed (sts : Option StatefulSet) :
    Meets server (Lists slices) (fun _ => True) (getChildResources.endpoints sts)
      (fun x _ => ∀ y, x = .ok y → y.2 = slices.head?) s := by
  refine meets_call fun t s' reply hlists hreply => ?_
  cases reply with
  | error e => exact fun y hy => by cases hy
  | ok l =>
    intro y hy
    cases hy
    refine congrArg List.head? (hlists l ?_)
    change l ∈ replySlices .listEndpointSlices (server.event t .listEndpointSlices s).reply
    rw [hreply]
    rfl

lemma getChildResources_listed :
    Meets server (Lists slices) (fun _ => True) getChildResources
      (fun x _ => ∀ y, x = .ok y → y.2 = slices.head?) s := by
  refine meets_call fun t s' reply _ _ => ?_
  cases reply with
  | ok sts => exact endpoints_listed _
  | error e =>
    cases e with
    | notFound => exact endpoints_listed _
    | _ => exact fun y hy => by cases hy

lemma updateStatusConditions_reported :
    Meets server (Lists slices) (fun _ => True) (updateStatusConditions m)
      (fun x _ => x.2.1 = none → reported x.2.2 = [(Status.clusterAvailableCondition slices.head?).status]) s := by
  refine getChildResources_listed.bind fun children s hchildren => ?_
  cases children with
  | error e => exact fun h => by cases h
  | ok children =>
    rw [← hchildren _ rfl]
    dsimp only
    split
    · rename_i hsame
      exact fun _ => reported_of_setConditions hsame.symm
    · rename_i hne
      refine (patchStatus_conditions hne).bind fun x s hx => ?_
      rcases x with ⟨_ | err, m'⟩
      · exact fun _ => reported_of_setConditions hx
      · dsimp only
        split
        · exact fun _ => reported_of_setConditions hx
        · exact fun h => by cases h

end Run

theorem availability_reported_iff {m₁ m₂ m₁' m₂' : Memory} {ts₁ ts₂ : List Turn} {s₁ s₂ : Store}
    {requeue₁ requeue₂ : ℕ} {slices₁ slices₂ : List (List Endpoint)}
    (hrun₁ : (run server (updateStatusConditions m₁) ts₁ s₁).result = some (requeue₁, none, m₁'))
    (hlist₁ : ∀ e ∈ (run server (updateStatusConditions m₁) ts₁ s₁).trace, Lists slices₁ e)
    (hrun₂ : (run server (updateStatusConditions m₂) ts₂ s₂).result = some (requeue₂, none, m₂'))
    (hlist₂ : ∀ e ∈ (run server (updateStatusConditions m₂) ts₂ s₂).trace, Lists slices₂ e)
    (hperm : slices₁.Perm slices₂) :
    reported m₁' = [availability slices₁] ∧ reported m₂' = reported m₁' ↔
      FirstDecides slices₁ ∧ FirstDecides slices₂ := by
  have h₁ := (updateStatusConditions_reported.sound ts₁ hlist₁).2 _ hrun₁ rfl
  have h₂ := (updateStatusConditions_reported.sound ts₂ hlist₂).2 _ hrun₂ rfl
  dsimp only at h₁ h₂
  rw [h₁, h₂, ← clusterAvailable_head_iff, ← clusterAvailable_head_iff, ← availability_perm hperm,
    List.cons.injEq, List.cons.injEq]
  constructor
  · rintro ⟨⟨h, -⟩, h', -⟩
    exact ⟨h, h'.trans h⟩
  · rintro ⟨h, h'⟩
    exact ⟨⟨h, rfl⟩, h'.trans h.symm, rfl⟩

section Families

def observe (slices : List (List Endpoint)) : Outcome api Store (ℕ × Option Err × Memory) :=
  run server (updateStatusConditions { cluster := { name := "hello" } }) [{}, { endpoints := slices }, {}]
    (Store.empty.putCluster { name := "hello" })

def bothFamilies : List (List Endpoint) :=
  [[{ podName := "hello-server-0", addresses := ["10.0.0.1"] }],
    [{ podName := "hello-server-0", addresses := ["fd00::1"] }]]

theorem both_families_available : ∃ m m', (observe bothFamilies).result = some (0, none, m) ∧
    (observe bothFamilies.reverse).result = some (0, none, m') ∧
    reported m = [availability bothFamilies] ∧ reported m' = reported m := by
  obtain ⟨m, hm⟩ : ∃ m, (observe bothFamilies).result = some (0, none, m) := ⟨_, rfl⟩
  obtain ⟨m', hm'⟩ : ∃ m, (observe bothFamilies.reverse).result = some (0, none, m) := ⟨_, rfl⟩
  have hlists : ∀ e ∈ (observe bothFamilies).trace, Lists bothFamilies e := by decide +kernel
  have hlists' : ∀ e ∈ (observe bothFamilies.reverse).trace, Lists bothFamilies.reverse e := by
    decide +kernel
  exact ⟨m, m', hm, hm', (availability_reported_iff hm hlists hm' hlists'
    (List.reverse_perm _).symm).mpr (by decide)⟩

def oneFamily : List (List Endpoint) :=
  [[], [{ podName := "hello-server-0", addresses := ["10.0.0.1"] }]]

theorem second_family_ignored : availability oneFamily = .true ∧
    (observe oneFamily).result.map (fun x => (x.2.1, reported x.2.2)) = some (none, [.false]) ∧
    (observe oneFamily.reverse).result.map (fun x => (x.2.1, reported x.2.2)) = some (none, [.true]) := by
  decide +kernel

end Families

end ClusterOperator.Controller
