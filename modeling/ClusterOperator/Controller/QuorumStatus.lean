import ClusterOperator.Controller.PostDeploy
import ClusterOperator.Text.Fields

/-! The quorum status. The nodes are checked at the same time, and the results are read in the
order in which they were put into a channel. -/

namespace ClusterOperator.Controller

open Api Kubernetes Interaction Text

structure NodeCheck where
  hostname : Option String := none
  targetRef : Option String := none
  outcome : Except ApiError Bool
deriving DecidableEq

namespace NodeCheck

def podName (p : NodeCheck) : String :=
  match p.hostname, p.targetRef with
  | some hostname, targetRef =>
    if hostname ≠ "" then hostname else (targetRef.filter (· ≠ "")).getD "unknown"
  | none, targetRef => (targetRef.filter (· ≠ "")).getD "unknown"

def status (p : NodeCheck) : NodeQuorumStatus :=
  match p.outcome with
  | .error _ => .unavailable
  | .ok true => .quorumCritical
  | .ok false => .ok

def result (p : NodeCheck) : String × NodeQuorumStatus := (p.podName, p.status)

end NodeCheck

structure Checks where
  running : List NodeCheck
  channel : List (String × NodeQuorumStatus) := []

namespace Checks

inductive Step : Checks → Checks → Prop
  | finish (before after : List NodeCheck) (p : NodeCheck) (channel : List (String × NodeQuorumStatus)) :
    Step ⟨before ++ p :: after, channel⟩ ⟨before ++ after, channel ++ [p.result]⟩

def Complete (nodes : List NodeCheck) (results : List (String × NodeQuorumStatus)) : Prop :=
  Relation.ReflTransGen Step ⟨nodes, []⟩ ⟨[], results⟩

lemma order_of_steps {c : Checks} {results : List (String × NodeQuorumStatus)}
    (h : Relation.ReflTransGen Step c ⟨[], results⟩) :
    ∃ order : List NodeCheck, order.Perm c.running ∧ results = c.channel ++ order.map NodeCheck.result := by
  induction h using Relation.ReflTransGen.head_induction_on with
  | refl => exact ⟨[], .refl _, by simp⟩
  | head hstep _ ih =>
    obtain ⟨before, after, p, channel⟩ := hstep
    obtain ⟨order, horder, hresults⟩ := ih
    refine ⟨p :: order, (horder.cons p).trans List.perm_middle.symm, ?_⟩
    rw [hresults, List.append_assoc, List.map_cons, List.singleton_append]

lemma steps_of_order {nodes order : List NodeCheck} (h : order.Perm nodes)
    (channel : List (String × NodeQuorumStatus)) :
    Relation.ReflTransGen Step ⟨nodes, channel⟩ ⟨[], channel ++ order.map NodeCheck.result⟩ := by
  induction order generalizing nodes channel with
  | nil => rw [List.nil_perm.mp h, List.map_nil, List.append_nil]
  | cons p order ih =>
    obtain ⟨before, after, rfl⟩ := List.append_of_mem (h.mem_iff.mp List.mem_cons_self)
    have hrest : order.Perm (before ++ after) := (h.trans List.perm_middle).cons_inv
    have hsteps := ih hrest (channel ++ [p.result])
    rw [List.append_assoc] at hsteps
    exact .head (.finish before after p channel) hsteps

lemma complete_iff {nodes : List NodeCheck} {results : List (String × NodeQuorumStatus)} :
    Complete nodes results ↔ ∃ order : List NodeCheck, order.Perm nodes ∧ results = order.map NodeCheck.result := by
  constructor
  · intro h
    obtain ⟨order, horder, hresults⟩ := order_of_steps h
    exact ⟨order, horder, by simpa using hresults⟩
  · rintro ⟨order, horder, rfl⟩
    exact steps_of_order horder []

end Checks

/-- What `checkQuorumStatus` may return when the nodes answer as given. -/
def MayReturn (nodes : List NodeCheck) (status : String) : Prop :=
  ∃ results, Checks.Complete nodes results ∧ formatQuorumStatus results = status

lemma checkNodeQuorumStatus_yields {podName : String} (hname : podName ≠ "") :
    (checkNodeQuorumStatus podName).Yields (fun _ => True) fun result =>
      ∃ p : NodeCheck, p.podName = podName ∧ result = p.result := by
  refine ⟨trivial, fun reply => ?_⟩
  have hpod : NodeCheck.podName { hostname := some podName, outcome := reply } = podName := if_pos hname
  have hresult (status : NodeQuorumStatus)
      (h : NodeCheck.status { hostname := some podName, outcome := reply } = status) :
      ∃ p : NodeCheck, p.podName = podName ∧ (podName, status) = p.result :=
    ⟨_, hpod, by rw [NodeCheck.result, hpod, h]⟩
  rcases reply with e | _ | _
  · exact hresult .unavailable rfl
  · exact hresult .ok rfl
  · exact hresult .quorumCritical rfl

lemma checkNodes_yields {es : List Endpoint} (hnames : ∀ e ∈ es, e.podName ≠ "") :
    (checkNodes es).Yields (fun _ => True) fun results => ∃ nodes : List NodeCheck,
      nodes.map NodeCheck.podName = es.map Endpoint.podName ∧ results = nodes.map NodeCheck.result := by
  induction es with
  | nil => exact ⟨[], rfl, rfl⟩
  | cons e es ih =>
    refine (checkNodeQuorumStatus_yields (hnames e List.mem_cons_self)).bind fun result hresult => ?_
    refine (ih fun e he => hnames e (List.mem_cons_of_mem _ he)).bind ?_
    rintro results ⟨nodes, hnodes, rfl⟩
    obtain ⟨p, hp, rfl⟩ := hresult
    exact ⟨p :: nodes, by rw [List.map_cons, hp, hnodes, List.map_cons], rfl⟩

lemma mayReturn_sequential (nodes : List NodeCheck) :
    MayReturn nodes (formatQuorumStatus (nodes.map NodeCheck.result)) :=
  ⟨_, Checks.complete_iff.mpr ⟨nodes, .refl _, rfl⟩, rfl⟩

section Describes

variable {nodes order : List NodeCheck}

def criticalPods (nodes : List NodeCheck) : List String :=
  (nodes.filter (·.status = .quorumCritical)).map NodeCheck.podName

def unavailableNodes (nodes : List NodeCheck) : String :=
  if nodes.countP (·.status = .unavailable) > 0 then
    " (" ++ toString (nodes.countP (·.status = .unavailable)) ++ " unavailable)"
  else ""

def Describes (nodes : List NodeCheck) (status : String) : Prop :=
  if criticalPods nodes ≠ [] then
    ∃ names : List String, names.Perm (criticalPods nodes) ∧
      status = "quorum-critical: " ++ ", ".intercalate names ++ unavailableNodes nodes
  else if ∃ p ∈ nodes, p.status = .ok then status = "ok" ++ unavailableNodes nodes
  else status = "unavailable"

lemma formatQuorumStatus_map (order : List NodeCheck) : formatQuorumStatus (order.map NodeCheck.result) =
    if criticalPods order ≠ [] then
      "quorum-critical: " ++ ", ".intercalate (criticalPods order) ++ unavailableNodes order
    else if ∃ p ∈ order, p.status = .ok then "ok" ++ unavailableNodes order
    else "unavailable" := by
  have hcritical : ((order.map NodeCheck.result).filter fun x => x.2 = .quorumCritical).map Prod.fst =
      criticalPods order := by
    rw [List.filter_map, List.map_map]
    rfl
  have hcount (status : NodeQuorumStatus) : (order.map NodeCheck.result).countP (fun x => x.2 = status) =
      order.countP (·.status = status) := by
    rw [List.countP_map]
    rfl
  have hok : order.countP (·.status = .ok) > 0 ↔ ∃ p ∈ order, p.status = .ok := by
    simp [List.countP_pos_iff]
  unfold formatQuorumStatus unavailableNodes
  simp only [hcritical, hcount, hok]

lemma criticalPods_perm (h : order.Perm nodes) : (criticalPods order).Perm (criticalPods nodes) :=
  (h.filter _).map _

lemma unavailableNodes_perm (h : order.Perm nodes) : unavailableNodes order = unavailableNodes nodes := by
  simp only [unavailableNodes, h.countP_eq]

lemma formatQuorumStatus_perm (h : order.Perm nodes) : formatQuorumStatus (order.map NodeCheck.result) =
    if criticalPods nodes ≠ [] then
      "quorum-critical: " ++ ", ".intercalate (criticalPods order) ++ unavailableNodes nodes
    else if ∃ p ∈ nodes, p.status = .ok then "ok" ++ unavailableNodes nodes
    else "unavailable" := by
  have hcritical : criticalPods order = [] ↔ criticalPods nodes = [] := by
    rw [← List.length_eq_zero_iff, (criticalPods_perm h).length_eq, List.length_eq_zero_iff]
  rw [formatQuorumStatus_map, unavailableNodes_perm h]
  simp only [Ne, hcritical, h.mem_iff]

lemma describes_of_perm (h : order.Perm nodes) :
    Describes nodes (formatQuorumStatus (order.map NodeCheck.result)) := by
  rw [formatQuorumStatus_perm h, Describes]
  split
  · exact ⟨_, criticalPods_perm h, rfl⟩
  · split
    · rfl
    · rfl

lemma perm_of_critical (h : order.Perm (nodes.filter (·.status = .quorumCritical))) :
    ∃ all : List NodeCheck, all.Perm nodes ∧ criticalPods all = order.map NodeCheck.podName := by
  refine ⟨order ++ nodes.filter fun p => !decide (p.status = .quorumCritical), ?_, ?_⟩
  · exact (h.append_right _).trans (List.filter_append_perm _ _)
  · have hcritical : order.filter (·.status = .quorumCritical) = order :=
      List.filter_eq_self.mpr fun p hp => (List.mem_filter.mp (h.mem_iff.mp hp)).2
    rw [criticalPods, List.filter_append, hcritical, List.filter_filter]
    simp

end Describes

theorem quorum_status_stable_iff (nodes : List NodeCheck) :
    (∀ status status', MayReturn nodes status → MayReturn nodes status' →
      status = status' ∧ Describes nodes status) ↔
    ∀ x ∈ criticalPods nodes, ∀ y ∈ criticalPods nodes, x ++ ", " ++ y = y ++ ", " ++ x := by
  constructor
  · intro h
    by_cases hcritical : criticalPods nodes = []
    · simp [hcritical]
    · have hjoin (order : List NodeCheck) (horder : order.Perm (nodes.filter (·.status = .quorumCritical))) :
          ", ".intercalate (order.map NodeCheck.podName) =
            ", ".intercalate ((nodes.filter (·.status = .quorumCritical)).map NodeCheck.podName) := by
        obtain ⟨all, hall, hnames⟩ := perm_of_critical horder
        have hsame := (h _ _ ⟨_, Checks.complete_iff.mpr ⟨all, hall, rfl⟩, rfl⟩
          (mayReturn_sequential nodes)).1
        rw [formatQuorumStatus_perm hall, formatQuorumStatus_perm (.refl _), if_pos hcritical,
          if_pos hcritical, String.append_left_inj, String.append_right_inj, hnames] at hsame
        exact hsame
      exact List.forall_mem_map.mpr fun p hp => List.forall_mem_map.mpr fun q hq =>
        intercalate_perm_iff.mp hjoin p hp q hq
  · rintro hcomm status status' ⟨results, hresults, rfl⟩ ⟨results', hresults', rfl⟩
    obtain ⟨order, horder, rfl⟩ := Checks.complete_iff.mp hresults
    obtain ⟨order', horder', rfl⟩ := Checks.complete_iff.mp hresults'
    have hjoin (order : List NodeCheck) (h : order.Perm nodes) :
        ", ".intercalate (criticalPods order) = ", ".intercalate (criticalPods nodes) :=
      intercalate_perm (criticalPods_perm h) fun x hx y hy =>
        hcomm x ((criticalPods_perm h).mem_iff.mp hx) y ((criticalPods_perm h).mem_iff.mp hy)
    refine ⟨?_, describes_of_perm horder⟩
    rw [formatQuorumStatus_perm horder, formatQuorumStatus_perm horder', hjoin order horder, hjoin order' horder']

def twoCritical : List NodeCheck :=
  [{ hostname := some "hello-server-0", outcome := .ok true },
    { hostname := some "hello-server-1", outcome := .ok true }]

theorem critical_names_flap : MayReturn twoCritical "quorum-critical: hello-server-0, hello-server-1" ∧
    MayReturn twoCritical "quorum-critical: hello-server-1, hello-server-0" :=
  ⟨⟨_, Checks.complete_iff.mpr ⟨twoCritical, .refl _, rfl⟩, by decide +kernel⟩,
    ⟨_, Checks.complete_iff.mpr ⟨twoCritical.reverse, List.reverse_perm _, rfl⟩, by decide +kernel⟩⟩

end ClusterOperator.Controller
