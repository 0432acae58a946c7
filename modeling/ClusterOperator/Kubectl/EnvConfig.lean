import ClusterOperator.Kubectl.Cluster

namespace ClusterOperator.Kubectl

open Kubernetes Keyed Text

variable {tools : Tools} {enumerate other : Arrangement (String × String)} {name : String}
  {opts : ClusterOptions} {manifest : Manifest}

lemma build_envConfig (h : buildRabbitmqCluster tools enumerate name opts = .ok manifest) :
    manifest.rabbitmq.envConfig = "\n".intercalate ((enumerate.order opts.envConfig.entries).map envLine) := by
  obtain ⟨storage, -, h⟩ := bind_eq_ok.mp h
  obtain ⟨resources, -, h⟩ := bind_eq_ok.mp h
  obtain ⟨additionalConfig, -, h⟩ := bind_eq_ok.mp h
  obtain ⟨advancedConfig, -, h⟩ := bind_eq_ok.mp h
  cases h
  dsimp only
  split
  · rename_i hempty
    rw [hempty, List.perm_nil.mp (enumerate.perm [])]
    rfl
  · exact joinSorted_eq _

lemma build_ok_of_ok (h : buildRabbitmqCluster tools enumerate name opts = .ok manifest)
    (other : Arrangement (String × String)) : ∃ m, buildRabbitmqCluster tools other name opts = .ok m := by
  obtain ⟨storage, hstorage, h⟩ := bind_eq_ok.mp h
  obtain ⟨resources, hresources, h⟩ := bind_eq_ok.mp h
  obtain ⟨additionalConfig, hadditional, h⟩ := bind_eq_ok.mp h
  obtain ⟨advancedConfig, hadvanced, -⟩ := bind_eq_ok.mp h
  exact ⟨_, bind_eq_ok.mpr ⟨storage, hstorage, bind_eq_ok.mpr ⟨resources, hresources,
    bind_eq_ok.mpr ⟨additionalConfig, hadditional, bind_eq_ok.mpr ⟨advancedConfig, hadvanced, rfl⟩⟩⟩⟩⟩

def linesOf (content : String) : List String :=
  if content = "" then [] else fields '\n' content

lemma linesOf_join {entries : List (String × String)} (h : ∀ e ∈ entries, '\n' ∉ (envLine e).toList) :
    linesOf ("\n".intercalate (entries.map envLine)) = entries.map envLine := by
  by_cases hempty : entries = []
  · subst hempty
    rfl
  · have hfields : fields '\n' ("\n".intercalate (entries.map envLine)) = entries.map envLine :=
      fields_intercalate (List.forall_mem_map.mpr h) (by simpa using hempty)
    have hcontent : "\n".intercalate (entries.map envLine) ≠ "" := by
      intro hnone
      have hblank : entries.map envLine = [""] := by
        rw [← hfields, hnone]
        decide
      obtain ⟨e, -, he⟩ := List.mem_map.mp (hblank ▸ List.mem_singleton_self "")
      simp [envLine] at he
    rw [linesOf, if_neg hcontent, hfields]

lemma notMem_of_mem_linesOf {content line : String} (h : line ∈ linesOf content) : '\n' ∉ line.toList := by
  unfold linesOf at h
  split at h
  · cases h
  · exact notMem_of_mem_fields h

def Reproducible (tools : Tools) (name : String) (opts : ClusterOptions) : Prop :=
  ∀ (enumerate other : Arrangement (String × String)) (m n : Manifest),
    buildRabbitmqCluster tools enumerate name opts = .ok m →
    buildRabbitmqCluster tools other name opts = .ok n →
    m.rabbitmq.envConfig = n.rabbitmq.envConfig ∧
      (linesOf m.rabbitmq.envConfig).Perm (opts.envConfig.entries.map envLine)

lemma Reproducible.join_eq (h : Reproducible tools name opts)
    (hbuilt : buildRabbitmqCluster tools enumerate name opts = .ok manifest) :
    ∀ p : List (String × String), p.Perm opts.envConfig.entries →
      "\n".intercalate (p.map envLine) = "\n".intercalate (opts.envConfig.entries.map envLine) := by
  refine Arrangement.forall_order.mp fun other => ?_
  obtain ⟨m, hm⟩ := build_ok_of_ok hbuilt other
  obtain ⟨n, hn⟩ := build_ok_of_ok hbuilt .unchanged
  rw [← build_envConfig hm, (h other .unchanged m n hm hn).1, build_envConfig hn]
  rfl

theorem env_config_reproducible_iff (tools : Tools) (name : String) (opts : ClusterOptions)
    (hbuilt : ∃ enumerate m, buildRabbitmqCluster tools enumerate name opts = .ok m) :
    Reproducible tools name opts ↔ (∀ e ∈ opts.envConfig.entries, '\n' ∉ (envLine e).toList) ∧
      ∀ e ∈ opts.envConfig.entries, ∀ f ∈ opts.envConfig.entries, envLine e = envLine f := by
  constructor
  · intro h
    obtain ⟨enumerate, m, hm⟩ := hbuilt
    have hlines (e) (he : e ∈ opts.envConfig.entries) : '\n' ∉ (envLine e).toList := by
      have hperm := (h enumerate enumerate m m hm hm).2
      exact notMem_of_mem_linesOf (hperm.mem_iff.mpr (List.mem_map_of_mem he))
    refine ⟨hlines, fun e he f hf => ?_⟩
    have hcomm := congrArg (fields '\n') (intercalate_perm_iff.mp (h.join_eq hm) e he f hf)
    have hfields := ((fields_append (hlines e he)).symm.trans hcomm).trans (fields_append (hlines f hf))
    exact (List.cons.inj hfields).1
  · rintro ⟨hlines, hsame⟩ a b m n hm hn
    have hcomm (e) (he : e ∈ opts.envConfig.entries) (f) (hf : f ∈ opts.envConfig.entries) :
        envLine e ++ "\n" ++ envLine f = envLine f ++ "\n" ++ envLine e := by
      rw [hsame e he f hf]
    have hjoin := intercalate_perm_iff.mpr hcomm
    rw [build_envConfig hm, build_envConfig hn, hjoin _ (a.perm _), hjoin _ (b.perm _), linesOf_join hlines]
    exact ⟨rfl, .refl _⟩

def fixedTools : Tools where
  parseQuantity _ := .ok 0
  readFile _ := .ok ""
  quote s := "\"" ++ s ++ "\""

theorem single_pair_reproducible :
    Reproducible fixedTools "hello" { envConfig := ⟨[("ERL_MAX_PORTS", "4096")]⟩ } :=
  (env_config_reproducible_iff fixedTools "hello" { envConfig := ⟨[("ERL_MAX_PORTS", "4096")]⟩ }
    ⟨.unchanged, _, rfl⟩).mpr ⟨by decide, by decide⟩

theorem pairs_in_either_order :
    (buildRabbitmqCluster fixedTools .unchanged "hello"
      { envConfig := ⟨[("ERL_MAX_PORTS", "4096"), ("RABBITMQ_LOGS", "-")]⟩ }).map (·.rabbitmq.envConfig) =
        .ok "ERL_MAX_PORTS=4096\nRABBITMQ_LOGS=-" ∧
    (buildRabbitmqCluster fixedTools .reversed "hello"
      { envConfig := ⟨[("ERL_MAX_PORTS", "4096"), ("RABBITMQ_LOGS", "-")]⟩ }).map (·.rabbitmq.envConfig) =
        .ok "RABBITMQ_LOGS=-\nERL_MAX_PORTS=4096" := by
  decide +kernel

end ClusterOperator.Kubectl
