import ClusterOperator.Status.Conditions

namespace ClusterOperator.Status

open Api Kubernetes

structure TimedCondition (Time : Type) extends Condition where
  lastTransitionTime : Time

/-- What `SetConditions` is called with. `NoWarningsCondition` reads the first container. -/
structure Resources where
  statefulSet : Option StatefulSet
  endpoints : Option (List Endpoint)
  containers_ne_nil : ∀ sts ∈ statefulSet, sts.template.spec.containers ≠ []

namespace Timed

variable {Time : Type}

def assignLastTransitionTime (now : Time) (oldCondition : Option (TimedCondition Time)) (condition : Condition) :
    TimedCondition Time where
  toCondition := condition
  lastTransitionTime :=
    match oldCondition with
    | none => now
    | some old => if old.status ≠ condition.status then now else old.lastTransitionTime

def oldCondition (type : ConditionType) (conditions : List (TimedCondition Time)) : Option (TimedCondition Time) :=
  conditions.reverse.find? (fun c => c.type = type)

/-- A condition next to the old ones, where `clock` is what the clock shows when a condition of
a type is computed. -/
def renew (clock : ConditionType → Time) (conditions : List (TimedCondition Time)) (condition : Condition) :
    TimedCondition Time :=
  assignLastTransitionTime (clock condition.type) (oldCondition condition.type conditions) condition

def setConditions (resources : Resources) (clock : ConditionType → Time)
    (conditions : List (TimedCondition Time)) : List (TimedCondition Time) :=
  [renew clock conditions (allReplicasReadyCondition resources.statefulSet),
    renew clock conditions (clusterAvailableCondition resources.endpoints),
    renew clock conditions (noWarningsCondition resources.statefulSet),
    (oldCondition .reconcileSuccess conditions).getD
      ⟨⟨.reconcileSuccess, .unknown, "Initialising", ""⟩, clock .reconcileSuccess⟩]

def updateState (now : Time) (status : ConditionStatus) (condition : TimedCondition Time) : TimedCondition Time :=
  { condition with
    status
    lastTransitionTime := if condition.status ≠ status then now else condition.lastTransitionTime }

def updateReason (reason : String) (messages : List String) (condition : TimedCondition Time) :
    TimedCondition Time :=
  { condition with reason, message := ". ".intercalate messages }

def setCondition (now : Time) (type : ConditionType) (status : ConditionStatus) (reason : String)
    (messages : List String) : List (TimedCondition Time) → List (TimedCondition Time)
  | [] => []
  | c :: cs =>
    if c.type = type then updateReason reason messages (updateState now status c) :: cs
    else c :: setCondition now type status reason messages cs

end Timed

inductive Call (Time : Type)
  | setConditions (resources : Resources) (clock : ConditionType → Time)
  | setCondition (type : ConditionType) (status : ConditionStatus) (reason : String) (messages : List String)
      (now : Time)

namespace Call

variable {Time : Type}

def apply (conditions : List (TimedCondition Time)) : Call Time → List (TimedCondition Time)
  | setConditions resources clock => Timed.setConditions resources clock conditions
  | setCondition type status reason messages now => Timed.setCondition now type status reason messages conditions

def currentTime : Call Time → ConditionType → Time
  | setConditions _ clock => clock
  | setCondition _ _ _ _ now => fun _ => now

def run (conditions : List (TimedCondition Time)) (calls : List (Call Time)) : List (TimedCondition Time) :=
  calls.foldl apply conditions

end Call

section Erasure

variable {Time : Type}

lemma map_toCondition_oldCondition (type : ConditionType) (conditions : List (TimedCondition Time)) :
    (Timed.oldCondition type conditions).map TimedCondition.toCondition =
      (conditions.map TimedCondition.toCondition).reverse.find? (fun c => c.type = type) := by
  rw [Timed.oldCondition, ← List.map_reverse, List.find?_map]
  rfl

lemma setConditions_toCondition (resources : Resources) (clock : ConditionType → Time)
    (conditions : List (TimedCondition Time)) (s : RabbitmqClusterStatus) :
    { s with conditions := (Timed.setConditions resources clock conditions).map TimedCondition.toCondition } =
      setConditions resources.statefulSet resources.endpoints
        { s with conditions := conditions.map TimedCondition.toCondition } := by
  simp only [Timed.setConditions, setConditions, Timed.renew, Timed.assignLastTransitionTime, List.map_cons,
    List.map_nil]
  rw [← map_toCondition_oldCondition]
  cases Timed.oldCondition .reconcileSuccess conditions <;> rfl

lemma setCondition_toCondition (now : Time) (type : ConditionType) (status : ConditionStatus) (reason : String)
    (messages : List String) (conditions : List (TimedCondition Time)) (s : RabbitmqClusterStatus) :
    { s with conditions :=
        (Timed.setCondition now type status reason messages conditions).map TimedCondition.toCondition } =
      RabbitmqClusterStatus.setCondition { s with conditions := conditions.map TimedCondition.toCondition }
        type status reason (". ".intercalate messages) := by
  rw [RabbitmqClusterStatus.setCondition]
  congr 1
  induction conditions with
  | nil => rfl
  | cons c cs ih =>
    rw [Timed.setCondition, List.map_cons, RabbitmqClusterStatus.setCondition.update]
    split
    · rename_i hc
      rw [List.map_cons, Timed.updateReason, Timed.updateState, hc]
    · rw [List.map_cons, ih]

end Erasure

section Runs

variable {Time : Type}

def conditionTypes : List ConditionType := [.allReplicasReady, .clusterAvailable, .noWarnings, .reconcileSuccess]

def Transition (now : ConditionType → Time) (old new : TimedCondition Time) : Prop :=
  new.type = old.type ∧
    new.lastTransitionTime = if new.status = old.status then old.lastTransitionTime else now new.type

lemma allReplicasReadyCondition_type (sts : Option StatefulSet) :
    (allReplicasReadyCondition sts).type = .allReplicasReady := by
  unfold allReplicasReadyCondition
  split
  · rfl
  · split
    · rfl
    · split <;> rfl

lemma clusterAvailableCondition_type (endpoints : Option (List Endpoint)) :
    (clusterAvailableCondition endpoints).type = .clusterAvailable := by
  unfold clusterAvailableCondition
  split
  · rfl
  · split <;> rfl

lemma noWarningsCondition_type (sts : Option StatefulSet) : (noWarningsCondition sts).type = .noWarnings := by
  unfold noWarningsCondition
  split
  · rfl
  · dsimp only
    split <;> rfl

lemma oldCondition_type {type : ConditionType} {conditions : List (TimedCondition Time)} {c : TimedCondition Time}
    (h : Timed.oldCondition type conditions = some c) : c.type = type := by
  simpa using List.find?_some h

lemma oldCondition_getD_type (clock : ConditionType → Time) (conditions : List (TimedCondition Time)) :
    ((Timed.oldCondition .reconcileSuccess conditions).getD
      ⟨⟨.reconcileSuccess, .unknown, "Initialising", ""⟩, clock .reconcileSuccess⟩).type = .reconcileSuccess := by
  cases h : Timed.oldCondition .reconcileSuccess conditions with
  | none => rfl
  | some c => exact oldCondition_type h

lemma setConditions_types (resources : Resources) (clock : ConditionType → Time)
    (conditions : List (TimedCondition Time)) :
    (Timed.setConditions resources clock conditions).map (·.type) = conditionTypes := by
  simp only [Timed.setConditions, Timed.renew, Timed.assignLastTransitionTime, List.map_cons, List.map_nil,
    oldCondition_getD_type, allReplicasReadyCondition_type, clusterAvailableCondition_type,
    noWarningsCondition_type, conditionTypes]

lemma updateReason_updateState_transition (now : Time) (status : ConditionStatus) (reason : String)
    (messages : List String) (c : TimedCondition Time) :
    Transition (fun _ => now) c (Timed.updateReason reason messages (Timed.updateState now status c)) := by
  refine ⟨rfl, ?_⟩
  simp only [Timed.updateReason, Timed.updateState, eq_comm (a := status)]
  split <;> simp_all

lemma Transition.refl (now : ConditionType → Time) (c : TimedCondition Time) : Transition now c c :=
  ⟨rfl, (if_pos rfl).symm⟩

lemma setCondition_transitions (now : Time) (type : ConditionType) (status : ConditionStatus) (reason : String)
    (messages : List String) (conditions : List (TimedCondition Time)) :
    List.Forall₂ (Transition fun _ => now) conditions
      (Timed.setCondition now type status reason messages conditions) := by
  induction conditions with
  | nil => exact .nil
  | cons c cs ih =>
    rw [Timed.setCondition]
    split
    · exact .cons (updateReason_updateState_transition now status reason messages c)
        (List.forall₂_same.mpr fun c _ => .refl _ c)
    · exact .cons (.refl _ c) ih

lemma exists_of_types {conditions : List (TimedCondition Time)}
    (h : conditions.map (·.type) = conditionTypes) :
    ∃ ready available warnings success, conditions = [ready, available, warnings, success] ∧
      ready.type = .allReplicasReady ∧ available.type = .clusterAvailable ∧ warnings.type = .noWarnings ∧
      success.type = .reconcileSuccess := by
  rcases conditions with _ | ⟨ready, _ | ⟨available, _ | ⟨warnings, _ | ⟨success, _ | _⟩⟩⟩⟩ <;>
    simp_all [conditionTypes]

lemma oldCondition_of_types {conditions : List (TimedCondition Time)}
    (h : conditions.map (·.type) = conditionTypes) {c : TimedCondition Time} (hc : c ∈ conditions) :
    Timed.oldCondition c.type conditions = some c := by
  obtain ⟨ready, available, warnings, success, rfl, hready, havailable, hwarnings, hsuccess⟩ := exists_of_types h
  simp only [List.mem_cons, List.not_mem_nil, or_false] at hc
  rcases hc with rfl | rfl | rfl | rfl <;>
    simp [Timed.oldCondition, hready, havailable, hwarnings, hsuccess]

section Renewal

variable {conditions : List (TimedCondition Time)} (h : conditions.map (·.type) = conditionTypes)
  (clock : ConditionType → Time) {old : TimedCondition Time} (hold : old ∈ conditions) {condition : Condition}
  (htype : condition.type = old.type)

include h hold htype

lemma renew_eq :
    Timed.renew clock conditions condition =
      Timed.assignLastTransitionTime (clock condition.type) (some old) condition := by
  rw [Timed.renew, htype, oldCondition_of_types h hold]

lemma renew_transition : Transition clock old (Timed.renew clock conditions condition) := by
  rw [renew_eq h clock hold htype]
  refine ⟨htype, ?_⟩
  by_cases hs : old.status = condition.status
  · simp [Timed.assignLastTransitionTime, hs]
  · simp [Timed.assignLastTransitionTime, hs, Ne.symm hs]

end Renewal

lemma renew_renew {clock : ConditionType → Time} {conditions new : List (TimedCondition Time)}
    {condition : Condition} (h : new.map (·.type) = conditionTypes) (clock' : ConditionType → Time)
    (hmem : Timed.renew clock conditions condition ∈ new) :
    Timed.renew clock' new condition = Timed.renew clock conditions condition := by
  have htype : condition.type = (Timed.renew clock conditions condition).type := rfl
  rw [renew_eq h clock' hmem htype]
  simp [Timed.renew, Timed.assignLastTransitionTime]

lemma setConditions_transitions (resources : Resources) (clock : ConditionType → Time)
    {conditions : List (TimedCondition Time)} (h : conditions.map (·.type) = conditionTypes) :
    List.Forall₂ (Transition clock) conditions (Timed.setConditions resources clock conditions) := by
  obtain ⟨ready, available, warnings, success, rfl, hready, havailable, hwarnings, hsuccess⟩ := exists_of_types h
  refine .cons (renew_transition h clock (by simp) ?_) (.cons (renew_transition h clock (by simp) ?_)
    (.cons (renew_transition h clock (by simp) ?_) (.cons ?_ .nil)))
  · exact (allReplicasReadyCondition_type resources.statefulSet).trans hready.symm
  · exact (clusterAvailableCondition_type resources.endpoints).trans havailable.symm
  · exact (noWarningsCondition_type resources.statefulSet).trans hwarnings.symm
  · rw [← hsuccess, oldCondition_of_types h (by simp)]
    exact .refl clock success

lemma Transition.types {now : ConditionType → Time} {old new : List (TimedCondition Time)}
    (h : List.Forall₂ (Transition now) old new) : new.map (·.type) = old.map (·.type) := by
  induction h with
  | nil => rfl
  | cons h _ ih => rw [List.map_cons, List.map_cons, h.1, ih]

lemma Call.apply_transitions (call : Call Time) {conditions : List (TimedCondition Time)}
    (h : conditions.map (·.type) = conditionTypes) :
    List.Forall₂ (Transition call.currentTime) conditions (call.apply conditions) := by
  cases call with
  | setConditions resources clock => exact setConditions_transitions resources clock h
  | setCondition type status reason messages now =>
    exact setCondition_transitions now type status reason messages conditions

lemma Call.run_types (calls : List (Call Time)) {conditions : List (TimedCondition Time)}
    (h : conditions.map (·.type) = conditionTypes) : (run conditions calls).map (·.type) = conditionTypes := by
  induction calls generalizing conditions with
  | nil => exact h
  | cons call calls ih => exact ih ((Transition.types (call.apply_transitions h)).trans h)

lemma setConditions_setConditions (resources : Resources) (clock clock' : ConditionType → Time)
    (conditions : List (TimedCondition Time)) :
    Timed.setConditions resources clock' (Timed.setConditions resources clock conditions) =
      Timed.setConditions resources clock conditions := by
  have h := setConditions_types resources clock conditions
  have hsuccess := oldCondition_of_types h (List.mem_of_getElem? (i := 3) rfl)
  rw [Timed.setConditions, renew_renew h clock' (List.mem_of_getElem? (i := 0) rfl),
    renew_renew h clock' (List.mem_of_getElem? (i := 1) rfl),
    renew_renew h clock' (List.mem_of_getElem? (i := 2) rfl), ← oldCondition_getD_type clock conditions, hsuccess]
  rfl

lemma Call.run_append (conditions : List (TimedCondition Time)) (calls calls' : List (Call Time)) :
    Call.run conditions (calls ++ calls') = Call.run (Call.run conditions calls) calls' :=
  List.foldl_append

theorem conditions_well_formed (conditions : List (TimedCondition Time)) (early : List (Call Time))
    (resources : Resources) (clock : ConditionType → Time) (late : List (Call Time)) :
    (Call.run conditions (early ++ .setConditions resources clock :: late)).map (·.type) = conditionTypes ∧
    (∀ call : Call Time, List.Forall₂ (Transition call.currentTime)
      (Call.run conditions (early ++ .setConditions resources clock :: late))
      (Call.run conditions (early ++ .setConditions resources clock :: late ++ [call]))) ∧
    (∀ success, Timed.oldCondition .reconcileSuccess (Call.run conditions early) = some success →
      success ∈ Call.run conditions (early ++ [.setConditions resources clock])) ∧
    ∀ clock', Call.run conditions (early ++ [.setConditions resources clock, .setConditions resources clock']) =
      Call.run conditions (early ++ [.setConditions resources clock]) := by
  have htypes : (Call.run conditions (early ++ .setConditions resources clock :: late)).map (·.type) =
      conditionTypes := by
    rw [Call.run_append]
    exact Call.run_types late (setConditions_types resources clock _)
  refine ⟨htypes, fun call => ?_, fun success h => ?_, fun clock' => ?_⟩
  · rw [Call.run_append _ _ [call]]
    exact call.apply_transitions htypes
  · rw [Call.run_append]
    change success ∈ Timed.setConditions resources clock (Call.run conditions early)
    simp [Timed.setConditions, h]
  · rw [Call.run_append, Call.run_append]
    exact setConditions_setConditions resources clock clock' _

end Runs

end ClusterOperator.Status
