import ClusterOperator.Resource.PortReconciliation
import ClusterOperator.Resource.StrategicMerge

namespace ClusterOperator.Resource

open Api Kubernetes Keyed ServiceBuilder

section Merge

def mergeServicePort (original patch : ServicePort) : ServicePort where
  name := mergeString original.name patch.name
  port := original.port
  targetPort := mergeNat original.targetPort patch.targetPort
  appProtocol := mergeString original.appProtocol patch.appProtocol
  protocol := mergeString original.protocol patch.protocol
  nodePort := mergeNat original.nodePort patch.nodePort

/-- What is used of `StrategicMergePatch` for the specs of Services: the ports are merged by
their number, and what the patch sets wins. -/
structure MergesByPort (merge : ServiceMergePatch) : Prop where
  type : ∀ {original patch merged}, merge original patch = .ok merged →
    merged.type = mergeString original.type patch.type
  ports : ∀ {original patch merged}, merge original patch = .ok merged →
    merged.ports.Perm (mergeBy ServicePort.port mergeServicePort original.ports patch.ports)

def mergeServiceSpec : ServiceMergePatch := fun original patch =>
  .ok
    { type := mergeString original.type patch.type
      clusterIP := mergeString original.clusterIP patch.clusterIP
      sessionAffinity := mergeString original.sessionAffinity patch.sessionAffinity
      selector := original.selector.merge patch.selector
      ports := mergeInOrder ServicePort.port mergeServicePort original.ports patch.ports
      publishNotReadyAddresses := original.publishNotReadyAddresses || patch.publishNotReadyAddresses
      ipFamilyPolicy := mergeField original.ipFamilyPolicy patch.ipFamilyPolicy
      others := original.others.merge patch.others }

lemma mergeServiceSpec_mergesByPort : MergesByPort mergeServiceSpec where
  type h := by
    cases h
    rfl
  ports h := by
    cases h
    exact mergeInOrder_perm ..

end Merge

section Override

variable (cluster : RabbitmqCluster)

def overrideSpec : ServiceSpec :=
  (cluster.spec.serviceOverride.bind ServiceOverride.spec).getD {}

variable {cluster}

lemma update_type_and_ports {merge : ServiceMergePatch} {enumerate : Enumeration} {stored out : Service}
    (hmerge : MergesByPort merge) (h : ServiceBuilder.update cluster merge enumerate stored = .ok out) :
    out.spec.type = mergeString cluster.spec.service.type (overrideSpec cluster).type ∧
      out.spec.ports.Perm (mergeBy ServicePort.port mergeServicePort
        (clearNodePorts cluster (updatePorts cluster enumerate stored.spec.ports))
        (overrideSpec cluster).ports) := by
  obtain ⟨svc, hsvc, h⟩ := bind_eq_ok.mp h
  obtain ⟨metadata, -, h⟩ := bind_eq_ok.mp h
  cases h
  unfold overrideSpec
  split at hsvc
  · rename_i hnone
    cases hsvc
    rw [hnone]
    exact ⟨rfl, .refl _⟩
  · rename_i override hoverride
    rw [hoverride]
    rcases override with ⟨_ | m, _ | spec⟩
    · cases mapError_eq_ok.mp hsvc
      exact ⟨rfl, .refl _⟩
    · obtain ⟨patched, hpatched, ho⟩ := bind_eq_ok.mp (mapError_eq_ok.mp hsvc)
      cases ho
      exact ⟨hmerge.type (mapError_eq_ok.mp hpatched), hmerge.ports (mapError_eq_ok.mp hpatched)⟩
    · cases mapError_eq_ok.mp hsvc
      exact ⟨rfl, .refl _⟩
    · obtain ⟨patched, hpatched, ho⟩ := bind_eq_ok.mp (mapError_eq_ok.mp hsvc)
      cases ho
      exact ⟨hmerge.type (mapError_eq_ok.mp hpatched), hmerge.ports (mapError_eq_ok.mp hpatched)⟩

end Override

section Allocated

variable (cluster : RabbitmqCluster) (stored : List ServicePort)

abbrev ClearsNodePorts : Prop := cluster.spec.service.type = "ClusterIP" ∨ cluster.spec.service.type = ""

def storedNodePort (name : String) : ℕ := ((stored.find? (·.name = name)).map (·.nodePort)).getD 0

/-- The node port that is left to a port number before the override: none if the type in the
spec has no node ports or the number is not one of the operator's, and else that of the stored
port with the operator's name for it. -/
def allocated (port : ℕ) : ℕ :=
  if ClearsNodePorts cluster then 0
  else ((generateServicePortsMap cluster).find? (·.port = port)).elim 0 fun g => storedNodePort stored g.name

def assign (nodePorts : ℕ → ℕ) (p : ServicePort) : ServicePort := { p with nodePort := nodePorts p.port }

variable {cluster stored}

lemma port_injective {p q : ServicePort} (hp : p ∈ generateServicePortsMap cluster)
    (hq : q ∈ generateServicePortsMap cluster) (h : p.port = q.port) : p = q := by
  obtain ⟨p, tls, -, rfl⟩ := mem_generateServicePortsMap.mp hp
  obtain ⟨q, tls', -, rfl⟩ := mem_generateServicePortsMap.mp hq
  have hport (p : ClientProtocol) (tls : Bool) : (p.port tls).port = (p.port tls).targetPort := by
    cases p <;> cases tls <;> rfl
  obtain ⟨rfl, rfl⟩ := targetPort_injective p q tls tls' (by rw [← hport, ← hport, h])
  rfl

lemma ports_generated_nodup (cluster : RabbitmqCluster) :
    ((generateServicePortsMap cluster).map ServicePort.port).Nodup :=
  (List.Nodup.of_map _ portNames_generated_nodup).map_on fun _ hp _ hq h => port_injective hp hq h

lemma find?_port_of_mem {p : ServicePort} (hp : p ∈ generateServicePortsMap cluster) :
    (generateServicePortsMap cluster).find? (·.port = p.port) = some p :=
  find?_key_of_mem (ports_generated_nodup cluster) hp

lemma find?_port_of_added {port : ℕ} (h : ∀ g ∈ generateServicePortsMap cluster, g.port ≠ port) :
    (generateServicePortsMap cluster).find? (·.port = port) = none :=
  List.find?_eq_none.mpr fun g hg => by simpa using h g hg

lemma allocated_of_mem {g : ServicePort} (hg : g ∈ generateServicePortsMap cluster)
    (h : ¬ ClearsNodePorts cluster) : allocated cluster stored g.port = storedNodePort stored g.name := by
  rw [allocated, if_neg h, find?_port_of_mem hg, Option.elim_some]

lemma allocated_of_added {port : ℕ} (h : ∀ g ∈ generateServicePortsMap cluster, g.port ≠ port) :
    allocated cluster stored port = 0 := by
  simp [allocated, find?_port_of_added h]

lemma clearNodePorts_updatePorts (enumerate : Arrangement ServicePort) :
    clearNodePorts cluster (updatePorts cluster enumerate.order stored) =
      ((updatePorts cluster enumerate.order stored).map clearNodePort).map (assign (allocated cluster stored)) := by
  rw [List.map_map]
  unfold clearNodePorts
  split
  · rename_i htype
    refine List.map_congr_left fun p _ => ?_
    simp [assign, clearNodePort, allocated, htype]
  · rename_i htype
    refine (List.map_id _).symm.trans (List.map_congr_left fun p hp => ?_)
    have hgenerated : clearNodePort p ∈ generateServicePortsMap cluster :=
      (updatePorts_perm cluster enumerate stored).mem_iff.mp (List.mem_map_of_mem hp)
    have hallocated : allocated cluster stored p.port = p.nodePort :=
      (allocated_of_mem hgenerated htype).trans (updatePorts_nodePort cluster enumerate stored hp).symm
    simp [assign, clearNodePort, hallocated]

end Allocated

section Kept

variable (cluster : RabbitmqCluster)

def requestedType : String := mergeString cluster.spec.service.type (overrideSpec cluster).type

def requestedPorts : List ServicePort :=
  mergeBy ServicePort.port mergeServicePort (generateServicePortsMap cluster) (overrideSpec cluster).ports

variable {cluster}

lemma update_ports_perm {merge : ServiceMergePatch} {enumerate : Arrangement ServicePort} {stored out : Service}
    (hmerge : MergesByPort merge) (hoverride : ∀ o ∈ (overrideSpec cluster).ports, o.nodePort = 0)
    (h : ServiceBuilder.update cluster merge enumerate.order stored = .ok out) :
    out.spec.ports.Perm
      ((requestedPorts cluster).map (assign (allocated cluster stored.spec.ports))) := by
  have hperm := updatePorts_perm cluster enumerate stored.spec.ports
  have hset (o) (ho : o ∈ (overrideSpec cluster).ports) (b : ServicePort) :
      mergeServicePort (assign (allocated cluster stored.spec.ports) b) o =
        assign (allocated cluster stored.spec.ports) (mergeServicePort b o) := by
    simp [mergeServicePort, assign, mergeNat, hoverride o ho]
  have hadded (o) (ho : o ∈ (overrideSpec cluster).ports) (hnew : ∀ b ∈
      (updatePorts cluster enumerate.order stored.spec.ports).map clearNodePort, b.port ≠ o.port) :
      assign (allocated cluster stored.spec.ports) o = o := by
    have hallocated : allocated cluster stored.spec.ports o.port = o.nodePort := by
      rw [allocated_of_added fun g hg => hnew g (hperm.mem_iff.mpr hg), hoverride o ho]
    simp [assign, hallocated]
  have hport (b : ServicePort) : (assign (allocated cluster stored.spec.ports) b).port = b.port := rfl
  refine (update_type_and_ports hmerge h).2.trans ?_
  rw [clearNodePorts_updatePorts, mergeBy_map hport hset hadded fun _ _ => rfl]
  exact (mergeBy_perm hperm _).map _

def NodePortsKept (stored out : Service) : Prop :=
  out.spec.type = "NodePort" ∨ out.spec.type = "LoadBalancer" →
    ∀ p ∈ out.spec.ports, ∀ s ∈ stored.spec.ports.find? (·.name = p.name), p.nodePort = s.nodePort

end Kept

section Names

variable (cluster : RabbitmqCluster)

def overrideName (port : ℕ) : Option String :=
  (((overrideSpec cluster).ports.filter (·.port = port)).filter (·.name ≠ "")).getLast?.map ServicePort.name

variable {cluster}

lemma foldl_mergeString (ports : List ServicePort) (name : String) :
    ports.foldl (fun name o => mergeString name o.name) name =
      ((ports.filter (·.name ≠ "")).getLast?.map ServicePort.name).getD name := by
  induction ports generalizing name with
  | nil => rfl
  | cons o ports ih =>
    rw [List.foldl_cons, ih]
    by_cases h : o.name = ""
    · simp [h, mergeString]
    · rw [List.filter_cons_of_pos (by simpa using h), List.getLast?_cons, mergeString, if_neg h]
      cases (ports.filter (·.name ≠ "")).getLast? <;> rfl

lemma name_of_mem_requestedPorts {p : ServicePort} (hp : p ∈ requestedPorts cluster) :
    p.name = (overrideName cluster p.port).getD
      (((generateServicePortsMap cluster).find? (·.port = p.port)).elim "" ServicePort.name) := by
  have hport (b o : ServicePort) : (mergeServicePort b o).port = b.port := rfl
  have hname (o : ServicePort) : mergeString "" o.name = o.name := by
    by_cases h : o.name = "" <;> simp [mergeString, h]
  have hnodup : ((requestedPorts cluster).map ServicePort.port).Nodup :=
    mergeBy_keys_nodup hport (ports_generated_nodup cluster)
  have hfield : ((requestedPorts cluster).find? (·.port = p.port)).elim "" ServicePort.name = _ :=
    mergeBy_field hport (f := ServicePort.name) (g := mergeString) (e := "") (fun _ _ => rfl) hname
      (generateServicePortsMap cluster) (overrideSpec cluster).ports p.port
  rw [find?_key_of_mem hnodup hp, foldl_mergeString] at hfield
  exact hfield

lemma forall_requestedPorts {P : ℕ → String → Prop} : (∀ p ∈ requestedPorts cluster, P p.port p.name) ↔
    (∀ g ∈ generateServicePortsMap cluster, P g.port ((overrideName cluster g.port).getD g.name)) ∧
      ∀ o ∈ (overrideSpec cluster).ports, (∀ g ∈ generateServicePortsMap cluster, g.port ≠ o.port) →
        P o.port ((overrideName cluster o.port).getD "") := by
  have hport (b o : ServicePort) : (mergeServicePort b o).port = b.port := rfl
  have hkey {k : ℕ} : (∃ p ∈ requestedPorts cluster, p.port = k) ↔
      (∃ g ∈ generateServicePortsMap cluster, g.port = k) ∨ ∃ o ∈ (overrideSpec cluster).ports, o.port = k :=
    mergeBy_key hport
  constructor
  · intro h
    refine ⟨fun g hg => ?_, fun o ho hadded => ?_⟩
    · obtain ⟨p, hp, hpg⟩ := hkey.mpr (Or.inl ⟨g, hg, rfl⟩)
      have hP := h p hp
      rwa [name_of_mem_requestedPorts hp, hpg, find?_port_of_mem hg] at hP
    · obtain ⟨p, hp, hpo⟩ := hkey.mpr (Or.inr ⟨o, ho, rfl⟩)
      have hP := h p hp
      rwa [name_of_mem_requestedPorts hp, hpo, find?_port_of_added hadded] at hP
  · rintro ⟨hoperator, hadded⟩ p hp
    rw [name_of_mem_requestedPorts hp]
    by_cases hg : ∃ g ∈ generateServicePortsMap cluster, g.port = p.port
    · obtain ⟨g, hg, hgp⟩ := hg
      rw [← hgp, find?_port_of_mem hg]
      exact hoperator g hg
    · obtain ⟨o, ho, hop⟩ := (hkey.mp ⟨p, hp, rfl⟩).resolve_left hg
      have hnew : ∀ g ∈ generateServicePortsMap cluster, g.port ≠ o.port := fun g hmem heq =>
        hg ⟨g, hmem, heq.trans hop⟩
      rw [← hop, find?_port_of_added hnew]
      exact hadded o ho hnew

end Names

section Condition

variable (cluster : RabbitmqCluster) (stored : List ServicePort)

/-- No node port gets lost: if `Update` clears them, none is stored under a name that a port of
the operator ends up with; if not, a port that the override renames to a stored name has the same
node port under both names. No node port is stored under the name of a port that the override adds. -/
structure KeepsNodePorts : Prop where
  cleared : ClearsNodePorts cluster → ∀ g ∈ generateServicePortsMap cluster,
    storedNodePort stored ((overrideName cluster g.port).getD g.name) = 0
  renamed : ¬ ClearsNodePorts cluster → ∀ g ∈ generateServicePortsMap cluster, ∀ name ∈ overrideName cluster g.port,
    name ∈ portNames stored → storedNodePort stored name = storedNodePort stored g.name
  added : ∀ o ∈ (overrideSpec cluster).ports, (∀ g ∈ generateServicePortsMap cluster, g.port ≠ o.port) →
    storedNodePort stored ((overrideName cluster o.port).getD "") = 0

variable {cluster stored}

lemma forall_find?_nodePort {name : String} {n : ℕ} :
    (∀ s ∈ stored.find? (·.name = name), n = s.nodePort) ↔
      (name ∈ portNames stored → storedNodePort stored name = n) := by
  unfold storedNodePort
  cases hfind : stored.find? (·.name = name) with
  | none =>
    have hnot : name ∉ portNames stored := by
      rintro hmem
      obtain ⟨s, hs, hname⟩ := List.mem_map.mp hmem
      exact List.find?_eq_none.mp hfind s hs (by simpa using hname)
    simp [hnot]
  | some s =>
    have hname : s.name = name := by simpa using List.find?_some hfind
    have hmem : name ∈ portNames stored := hname ▸ mem_portNames (List.mem_of_find?_eq_some hfind)
    simp [hmem, eq_comm]

lemma storedNodePort_eq_zero_iff {name : String} :
    (name ∈ portNames stored → storedNodePort stored name = 0) ↔ storedNodePort stored name = 0 := by
  refine ⟨fun h => ?_, fun h _ => h⟩
  by_cases hmem : name ∈ portNames stored
  · exact h hmem
  · rw [storedNodePort, find?_eq_none_of_notMem hmem]
    rfl

lemma keepsNodePorts_iff : KeepsNodePorts cluster stored ↔
    ∀ p ∈ requestedPorts cluster, ∀ s ∈ stored.find? (·.name = p.name),
      allocated cluster stored p.port = s.nodePort := by
  rw [forall_requestedPorts (P := fun port name => ∀ s ∈ stored.find? (·.name = name),
    allocated cluster stored port = s.nodePort)]
  simp only [forall_find?_nodePort]
  by_cases hclears : ClearsNodePorts cluster
  · have hzero (port : ℕ) : allocated cluster stored port = 0 := if_pos hclears
    simp only [hzero, storedNodePort_eq_zero_iff]
    exact ⟨fun h => ⟨h.cleared hclears, h.added⟩, fun h => ⟨fun _ => h.1, fun hnot => absurd hclears hnot, h.2⟩⟩
  · constructor
    · intro h
      refine ⟨fun g hg hmem => ?_, fun o ho hadded => ?_⟩
      · rw [allocated_of_mem hg hclears]
        cases hname : overrideName cluster g.port with
        | none => rfl
        | some name =>
          rw [hname] at hmem
          exact h.renamed hclears g hg name hname hmem
      · rw [allocated_of_added hadded]
        exact fun _ => h.added o ho hadded
    · rintro ⟨hoperator, hadded⟩
      refine ⟨fun h => absurd h hclears, fun _ g hg name hname hmem => ?_, fun o ho hnew => ?_⟩
      · have h := hoperator g hg
        rw [hname, allocated_of_mem hg hclears] at h
        exact h hmem
      · have h := hadded o ho hnew
        rw [allocated_of_added hnew] at h
        exact storedNodePort_eq_zero_iff.mp h

/-- `Update` keeps the node ports if and only if the type that spec and override ask for has none,
or no node port gets lost by the type in the spec or by the names in the override. -/
theorem node_ports_kept_iff (cluster : RabbitmqCluster) (merge : ServiceMergePatch)
    (enumerate : Arrangement ServicePort) (stored out : Service) (hmerge : MergesByPort merge)
    (hoverride : ∀ o ∈ (overrideSpec cluster).ports, o.nodePort = 0)
    (hout : ServiceBuilder.update cluster merge enumerate.order stored = .ok out) :
    NodePortsKept stored out ↔
      (requestedType cluster = "NodePort" ∨ requestedType cluster = "LoadBalancer" →
        KeepsNodePorts cluster stored.spec.ports) := by
  rw [NodePortsKept, (update_type_and_ports hmerge hout).1]
  refine imp_congr_right fun _ => ?_
  rw [keepsNodePorts_iff]
  simp only [(update_ports_perm hmerge hoverride hout).mem_iff]
  exact List.forall_mem_map

section Example

def balanced : Service where
  spec :=
    { type := "LoadBalancer"
      ports := [{ servicePort "amqp" 5672 "amqp" with nodePort := 30672 },
        { servicePort "management" 15672 "http" with nodePort := 31672 }] }

def balancedCluster : RabbitmqCluster where
  name := "hello"
  spec :=
    { service := { type := "LoadBalancer" }
      serviceOverride := some { spec := some { ports := [servicePort "extra" 1234 ""] } } }

theorem balanced_ports_kept : ∃ out,
    ServiceBuilder.update balancedCluster mergeServiceSpec Arrangement.reversed.order balanced = .ok out ∧
      NodePortsKept balanced out := by
  obtain ⟨out, hout⟩ : ∃ out, ServiceBuilder.update balancedCluster mergeServiceSpec
      Arrangement.reversed.order balanced = .ok out := ⟨_, rfl⟩
  have hclears : ¬ ClearsNodePorts balancedCluster := by decide
  refine ⟨out, hout, (node_ports_kept_iff balancedCluster mergeServiceSpec .reversed balanced out
    mergeServiceSpec_mergesByPort (by decide) hout).mpr fun _ => ⟨fun h => absurd h hclears, fun _ => ?_, ?_⟩⟩ <;>
  decide +kernel

def overriddenCluster : RabbitmqCluster where
  name := "hello"
  spec.serviceOverride := some { spec := some { type := "LoadBalancer" } }

theorem node_ports_lost :
    (ServiceBuilder.update overriddenCluster mergeServiceSpec Arrangement.unchanged.order balanced).map
      (fun out => (out.spec.type, out.spec.ports.map fun p => (p.name, p.nodePort))) =
    .ok ("LoadBalancer", [("amqp", 0), ("management", 0), ("prometheus", 0)]) := by
  decide +kernel

end Example

end Condition

end ClusterOperator.Resource
