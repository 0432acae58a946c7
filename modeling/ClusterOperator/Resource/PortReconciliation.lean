import ClusterOperator.Keyed.Arrangement
import ClusterOperator.Keyed.Merge
import ClusterOperator.Resource.ServiceBuilder

namespace ClusterOperator.Resource

open Api Kubernetes Keyed ServiceBuilder

section Names

def portNames (ports : List ServicePort) : List String := ports.map (·.name)

lemma mem_portNames {ports : List ServicePort} {p : ServicePort} (h : p ∈ ports) : p.name ∈ portNames ports :=
  List.mem_map_of_mem h

variable {cluster : RabbitmqCluster}

lemma pluginServicePort_names (plugin : String) (port : ServicePort) :
    (portNames (pluginServicePort cluster plugin port)).Sublist [port.name] := by
  unfold pluginServicePort
  split
  · exact .refl _
  · exact List.nil_sublist _

lemma streamServicePort_names (port : ServicePort) :
    (portNames (streamServicePort cluster port)).Sublist [port.name] := by
  unfold streamServicePort
  split
  · exact .refl _
  · exact List.nil_sublist _

lemma portNames_generated_nodup : (portNames (generateServicePortsMap cluster)).Nodup := by
  have hall : (["amqp", "management"] ++ ["mqtt"] ++ ["web-mqtt"] ++ ["stomp"] ++ ["web-stomp"] ++ ["web-amqp"] ++
      ["stream"] ++ (["amqps", "management-tls"] ++ ["stomps"] ++ ["mqtts"] ++ ["web-stomp-tls"] ++
        ["web-mqtt-tls"] ++ ["web-amqp-tls"] ++ ["streams"] ++ ["prometheus-tls"]) ++ ["prometheus"]).Nodup := by
    decide
  refine hall.sublist ?_
  unfold generateServicePortsMap
  rw [List.append_assoc _ _ ["prometheus"]]
  simp only [portNames, List.map_append]
  refine .append ?_ ?_
  · split
    · exact List.nil_sublist _
    · simp only [List.map_append]
      exact (((((((List.Sublist.refl _).append (pluginServicePort_names _ _)).append
        (pluginServicePort_names _ _)).append (pluginServicePort_names _ _)).append
        (pluginServicePort_names _ _)).append (pluginServicePort_names _ _)).append
        (streamServicePort_names _))
  · split
    · simp only [List.map_append]
      refine .trans ?_ (List.sublist_append_left _ _)
      exact ((((((((List.Sublist.refl _).append (pluginServicePort_names _ _)).append
        (pluginServicePort_names _ _)).append (pluginServicePort_names _ _)).append
        (pluginServicePort_names _ _)).append (pluginServicePort_names _ _)).append
        (streamServicePort_names _)).append (.refl _))
    · exact List.sublist_append_right _ _

end Names

section Stored

variable {stored m : List ServicePort}

def clearNodePort (p : ServicePort) : ServicePort := { p with nodePort := 0 }

lemma find?_eq_none_of_notMem {name : String} (h : name ∉ portNames m) : m.find? (·.name = name) = none := by
  rw [List.find?_eq_none]
  intro p hp
  have : p.name ≠ name := fun hname => h (hname ▸ mem_portNames hp)
  simpa using this

lemma filter_eq_self_of_notMem {name : String} (h : name ∉ portNames m) : m.filter (·.name ≠ name) = m := by
  rw [List.filter_eq_self]
  intro p hp
  have : p.name ≠ name := fun hname => h (hname ▸ mem_portNames hp)
  simpa using this

lemma perm_cons_of_find? {name : String} {v : ServicePort} (hm : (portNames m).Nodup)
    (hv : m.find? (·.name = name) = some v) : m.Perm (v :: m.filter (·.name ≠ name)) := by
  induction m with
  | nil => cases hv
  | cons p m ih =>
    obtain ⟨hp, hm⟩ := List.nodup_cons.mp hm
    by_cases hname : p.name = name
    · subst hname
      rw [List.find?_cons_of_pos (by simp), Option.some.injEq] at hv
      subst hv
      rw [List.filter_cons_of_neg (by simp), filter_eq_self_of_notMem hp]
    · rw [List.find?_cons_of_neg (by simpa using hname)] at hv
      rw [List.filter_cons_of_pos (by simpa using hname)]
      exact ((ih hm hv).cons p).trans (.swap ..)

lemma find?_of_mem (hm : (portNames m).Nodup) {v : ServicePort} (hv : v ∈ m) :
    m.find? (·.name = v.name) = some v := find?_key_of_mem hm hv

lemma portNames_filter_nodup (hm : (portNames m).Nodup) (name : String) :
    (portNames (m.filter (·.name ≠ name))).Nodup :=
  hm.sublist (List.filter_sublist.map _)

lemma updateStoredPorts_cons (s : ServicePort) (stored m : List ServicePort) :
    s.name ∉ portNames m ∧ updateStoredPorts (s :: stored) m = updateStoredPorts stored m ∨
    ∃ v, m.find? (·.name = s.name) = some v ∧ updateStoredPorts (s :: stored) m =
      ({ v with nodePort := s.nodePort } :: (updateStoredPorts stored (m.filter (·.name ≠ s.name))).1,
        (updateStoredPorts stored (m.filter (·.name ≠ s.name))).2) := by
  rw [updateStoredPorts]
  cases hv : m.find? (·.name = s.name) with
  | none =>
    refine .inl ⟨fun hmem => ?_, rfl⟩
    obtain ⟨p, hp, hname⟩ := List.mem_map.mp hmem
    exact List.find?_eq_none.mp hv p hp (by simpa using hname)
  | some v => exact .inr ⟨v, rfl, rfl⟩

structure Reconciled (stored m : List ServicePort) (out : List ServicePort × List ServicePort) : Prop where
  ports : ((out.1 ++ out.2).map clearNodePort).Perm (m.map clearNodePort)
  nodePort : ∀ p ∈ out.1, (stored.find? (·.name = p.name)).map (·.nodePort) = some p.nodePort
  rest : out.2 = m.filter (·.name ∉ portNames stored)
  ordered : out.1.Pairwise fun p q => (portNames stored).idxOf p.name < (portNames stored).idxOf q.name
  names : ∀ p ∈ out.1, p.name ∈ portNames m

lemma idxOf_portNames_cons {s p : ServicePort} (h : p.name ≠ s.name) (stored : List ServicePort) :
    (portNames (s :: stored)).idxOf p.name = (portNames stored).idxOf p.name + 1 :=
  List.idxOf_cons_ne _ h.symm

lemma updateStoredPorts_reconciled (hm : (portNames m).Nodup) :
    Reconciled stored m (updateStoredPorts stored m) := by
  induction stored generalizing m with
  | nil =>
    have hrest : m.filter (·.name ∉ portNames []) = m := by simp [portNames]
    exact ⟨.refl _, by simp [updateStoredPorts], hrest.symm, .nil, by simp [updateStoredPorts]⟩
  | cons s stored ih =>
    rcases updateStoredPorts_cons s stored m with ⟨hs, heq⟩ | ⟨v, hv, heq⟩
    · have h := ih hm
      have hne (p : ServicePort) (hp : p.name ∈ portNames m) : p.name ≠ s.name := fun hname => hs (hname ▸ hp)
      rw [heq]
      refine ⟨h.ports, fun p hp => ?_, ?_, ?_, h.names⟩
      · rw [List.find?_cons_of_neg (by simpa using (hne p (h.names p hp)).symm)]
        exact h.nodePort p hp
      · rw [h.rest]
        refine List.filter_congr fun p hp => ?_
        simp [portNames, hne p (mem_portNames hp)]
      · refine h.ordered.imp_of_mem fun {p q} hp hq hlt => ?_
        rw [idxOf_portNames_cons (hne p (h.names p hp)), idxOf_portNames_cons (hne q (h.names q hq))]
        exact Nat.succ_lt_succ hlt
    · have h := ih (portNames_filter_nodup hm s.name)
      have hname : v.name = s.name := by simpa using List.find?_some hv
      have hmem (p : ServicePort) (hp : p.name ∈ portNames (m.filter (·.name ≠ s.name))) :
          p.name ∈ portNames m ∧ p.name ≠ s.name := by
        obtain ⟨q, hq, hpq⟩ := List.mem_map.mp hp
        obtain ⟨hq, hne⟩ := List.mem_filter.mp hq
        rw [← hpq]
        exact ⟨mem_portNames hq, by simpa using hne⟩
      rw [heq]
      refine ⟨?_, ?_, ?_, ?_, ?_⟩
      · exact (h.ports.cons (clearNodePort v)).trans ((perm_cons_of_find? hm hv).map clearNodePort).symm
      · refine List.forall_mem_cons.mpr ⟨?_, fun p hp => ?_⟩
        · rw [List.find?_cons_of_pos (by simp [hname])]
          rfl
        · rw [List.find?_cons_of_neg (by simpa using (hmem p (h.names p hp)).2.symm)]
          exact h.nodePort p hp
      · rw [h.rest, List.filter_filter]
        refine List.filter_congr fun p _ => ?_
        have hnot : p.name ∉ portNames (s :: stored) ↔ p.name ∉ portNames stored ∧ p.name ≠ s.name := by
          simp [portNames, and_comm]
        simp only [hnot, Bool.decide_and]
      · refine List.pairwise_cons.mpr ⟨fun p hp => ?_, h.ordered.imp_of_mem fun {p q} hp hq hlt => ?_⟩
        · rw [idxOf_portNames_cons (hmem p (h.names p hp)).2]
          simp [portNames, hname]
        · rw [idxOf_portNames_cons (hmem p (h.names p hp)).2, idxOf_portNames_cons (hmem q (h.names q hq)).2]
          exact Nat.succ_lt_succ hlt
      · have hfound : v.name ∈ portNames m := mem_portNames (List.mem_of_find?_eq_some hv)
        exact List.forall_mem_cons.mpr ⟨hfound, fun p hp => (hmem p (h.names p hp)).1⟩

lemma updateStoredPorts_of_reconciled (hstored : (portNames stored).Nodup)
    (h : ∀ p ∈ stored, ∃ v, m.find? (·.name = p.name) = some v ∧ { v with nodePort := p.nodePort } = p) :
    (updateStoredPorts stored m).1 = stored := by
  induction stored generalizing m with
  | nil => rfl
  | cons s stored ih =>
    obtain ⟨hs, hstored⟩ := List.nodup_cons.mp hstored
    obtain ⟨v, hv, hsame⟩ := h s List.mem_cons_self
    rcases updateStoredPorts_cons s stored m with ⟨hnot, -⟩ | ⟨w, hw, heq⟩
    · rw [find?_eq_none_of_notMem hnot] at hv
      cases hv
    · cases hv.symm.trans hw
      rw [heq, hsame, ih hstored fun p hp => ?_]
      obtain ⟨w, hw, hsame⟩ := h p (List.mem_cons_of_mem _ hp)
      have hne : p.name ≠ s.name := fun hname => hs (List.mem_map.mpr ⟨p, hp, hname⟩)
      refine ⟨w, ?_, hsame⟩
      rw [List.find?_filter, ← hw]
      refine congrArg (List.find? · m) (funext fun q => ?_)
      rw [Bool.eq_iff_iff]
      simp only [decide_eq_true_eq]
      exact ⟨And.right, fun hq => ⟨hq ▸ hne, hq⟩⟩

end Stored

section UpdatePorts

variable (cluster : RabbitmqCluster) (enumerate : Arrangement ServicePort) (stored : List ServicePort)

lemma updatePorts_eq : updatePorts cluster enumerate.order stored =
    (updateStoredPorts stored (generateServicePortsMap cluster)).1 ++
      enumerate.order (updateStoredPorts stored (generateServicePortsMap cluster)).2 := rfl

variable {cluster}

lemma clearNodePort_of_generated {p : ServicePort} (h : p ∈ generateServicePortsMap cluster) :
    clearNodePort p = p := by
  obtain ⟨q, tls, -, rfl⟩ := mem_generateServicePortsMap.mp h
  cases q <;> cases tls <;> rfl

variable (cluster)

lemma reconciled_generated :
    Reconciled stored (generateServicePortsMap cluster)
      (updateStoredPorts stored (generateServicePortsMap cluster)) :=
  updateStoredPorts_reconciled portNames_generated_nodup

lemma updatePorts_perm : ((updatePorts cluster enumerate.order stored).map clearNodePort).Perm
    (generateServicePortsMap cluster) := by
  have hgenerated : (generateServicePortsMap cluster).map clearNodePort = generateServicePortsMap cluster :=
    (List.map_congr_left fun p hp => clearNodePort_of_generated hp).trans (List.map_id _)
  rw [updatePorts_eq]
  exact (((enumerate.perm _).append_left _).map _).trans
    ((reconciled_generated cluster stored).ports.trans (.of_eq hgenerated))

lemma updatePorts_nodePort {p : ServicePort} (hp : p ∈ updatePorts cluster enumerate.order stored) :
    p.nodePort = ((stored.find? (·.name = p.name)).map (·.nodePort)).getD 0 := by
  have h := reconciled_generated cluster stored
  rcases List.mem_append.mp hp with hp | hp
  · rw [h.nodePort p hp]
    rfl
  · rw [enumerate.mem_order, h.rest, List.mem_filter] at hp
    have hname : p.name ∉ portNames stored := by simpa using hp.2
    rw [find?_eq_none_of_notMem hname, ← clearNodePort_of_generated hp.1]
    rfl

lemma updatePorts_ordered :
    ((updatePorts cluster enumerate.order stored).filter (·.name ∈ portNames stored)).Pairwise
      (fun p q => (portNames stored).idxOf p.name < (portNames stored).idxOf q.name) := by
  have h := reconciled_generated cluster stored
  have hrest : (enumerate.order (updateStoredPorts stored (generateServicePortsMap cluster)).2).filter
      (·.name ∈ portNames stored) = [] := by
    rw [List.filter_eq_nil_iff]
    intro p hp
    rw [enumerate.mem_order, h.rest, List.mem_filter] at hp
    simpa using hp.2
  rw [updatePorts_eq, List.filter_append, hrest, List.append_nil]
  exact h.ordered.sublist List.filter_sublist

lemma updatePorts_idempotent (other : Arrangement ServicePort) :
    updatePorts cluster other.order (updatePorts cluster enumerate.order stored) =
      updatePorts cluster enumerate.order stored := by
  have hperm := updatePorts_perm cluster enumerate stored
  generalize updatePorts cluster enumerate.order stored = out at hperm
  have hnames : (portNames out).Perm (portNames (generateServicePortsMap cluster)) := by
    have := hperm.map (·.name)
    rwa [List.map_map] at this
  have hupdated : (updateStoredPorts out (generateServicePortsMap cluster)).1 = out := by
    refine updateStoredPorts_of_reconciled (hnames.nodup_iff.mpr portNames_generated_nodup) fun p hp => ?_
    exact ⟨clearNodePort p, find?_of_mem portNames_generated_nodup
      (hperm.mem_iff.mp (List.mem_map_of_mem hp)), rfl⟩
  have hrest : (updateStoredPorts out (generateServicePortsMap cluster)).2 = [] := by
    rw [(reconciled_generated cluster out).rest, List.filter_eq_nil_iff]
    intro p hp
    simpa using hnames.mem_iff.mpr (mem_portNames hp)
  rw [updatePorts_eq, hupdated, hrest, List.perm_nil.mp (other.perm []), List.append_nil]

end UpdatePorts

theorem update_ports_exact_and_stable (cluster : RabbitmqCluster) (stored : List ServicePort)
    (enumerate other : Arrangement ServicePort) :
    ((updatePorts cluster enumerate.order stored).map clearNodePort).Perm (generateServicePortsMap cluster) ∧
    (∀ p ∈ updatePorts cluster enumerate.order stored,
      p.nodePort = ((stored.find? (·.name = p.name)).map (·.nodePort)).getD 0) ∧
    ((updatePorts cluster enumerate.order stored).filter (·.name ∈ portNames stored)).Pairwise
      (fun p q => (portNames stored).idxOf p.name < (portNames stored).idxOf q.name) ∧
    updatePorts cluster other.order (updatePorts cluster enumerate.order stored) =
      updatePorts cluster enumerate.order stored :=
  ⟨updatePorts_perm cluster enumerate stored, fun _ => updatePorts_nodePort cluster enumerate stored,
    updatePorts_ordered cluster enumerate stored, updatePorts_idempotent cluster enumerate stored other⟩

end ClusterOperator.Resource
