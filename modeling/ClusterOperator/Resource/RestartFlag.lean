import ClusterOperator.Resource.ScaleOut

/-! Whether a new configuration needs a restart of the nodes. The builder keeps the answer from
one call of `Update` to the next. -/

namespace ClusterOperator.Resource

open Api Kubernetes

def withoutSizeHint (conf : StringMap) : StringMap :=
  conf.filterKeys fun key => !hasPrefix targetClusterSizeHint key

def operatorKeys (ini : Ini) (configMap : DataObject) : Option (Except Err StringMap) :=
  (configMap.data.get? "operatorDefaults.conf").map fun text => (ini.load text).map withoutSizeHint

structure EqualWithoutSizeHint (ini : Ini) (previous next : DataObject) : Prop where
  metadata : previous.metadata = next.metadata
  others : ∀ key ≠ "operatorDefaults.conf", previous.data.get? key = next.data.get? key
  operator : operatorKeys ini previous = operatorKeys ini next

def OperatorList (cluster : RabbitmqCluster) (ini : Ini) (configMaps : List DataObject) (conf : StringMap) : Prop :=
  (∃ auth, conf = operatorConfiguration cluster auth) ∨
    ∃ configMap ∈ configMaps, ∃ text, configMap.data.get? "operatorDefaults.conf" = some text ∧
      ini.load text = .ok conf

def Ini.Inverse (ini : Ini) (conf : StringMap) : Prop :=
  ini.load (ini.write conf) = .ok conf ∧ ini.load (ini.write (withoutSizeHint conf)) = .ok (withoutSizeHint conf)

namespace ServerConfigMapBuilder

def restartFlag (cluster : RabbitmqCluster) (ini : Ini) (configMaps : List DataObject) : Bool :=
  configMaps.foldl (fun flag configMap => (update cluster ini flag configMap).1) true

variable {cluster : RabbitmqCluster} {ini : Ini} {configMap out : DataObject}

lemma update_cases (cluster : RabbitmqCluster) (ini : Ini) (configMap : DataObject) :
    (∃ err, ∀ flag, update cluster ini flag configMap = (flag, .error err)) ∨
      ∃ out previous next, updated cluster ini configMap = .ok out ∧
        removeConfigNotRequiringNodeRestart ini configMap = .ok previous ∧
        removeConfigNotRequiringNodeRestart ini out = .ok next ∧
        ∀ flag, update cluster ini flag configMap = (flag && !decide (previous = next), .ok out) := by
  unfold update
  cases hu : updated cluster ini configMap with
  | error err => exact .inl ⟨err, fun flag => by simp [Bind.bind, Except.bind]⟩
  | ok out =>
    cases hp : removeConfigNotRequiringNodeRestart ini configMap with
    | error err => exact .inl ⟨err, fun flag => by simp [Bind.bind, Except.bind]⟩
    | ok previous =>
      cases hn : removeConfigNotRequiringNodeRestart ini out with
      | error err => exact .inl ⟨err, fun flag => by simp [hn, Bind.bind, Except.bind]⟩
      | ok next =>
        refine .inr ⟨out, previous, next, rfl, rfl, hn, fun flag => ?_⟩
        simp [hn, Bind.bind, Except.bind, Pure.pure, Except.pure]

def Same (cluster : RabbitmqCluster) (ini : Ini) (configMap : DataObject) : Prop :=
  ∃ out, (update cluster ini true configMap).2 = .ok out ∧
    removeConfigNotRequiringNodeRestart ini configMap = removeConfigNotRequiringNodeRestart ini out

lemma update_fst (flag : Bool) :
    (update cluster ini flag configMap).1 = false ↔ flag = false ∨ Same cluster ini configMap := by
  rcases update_cases cluster ini configMap with ⟨err, h⟩ | ⟨out, previous, next, -, hp, hn, h⟩
  · simp [h, Same]
  · cases flag <;> simp [h, Same, hp, hn]

lemma foldl_update (flag : Bool) (configMaps : List DataObject) :
    configMaps.foldl (fun flag configMap => (update cluster ini flag configMap).1) flag = false ↔
      flag = false ∨ ∃ configMap ∈ configMaps, Same cluster ini configMap := by
  induction configMaps generalizing flag with
  | nil => simp
  | cons configMap configMaps ih =>
    rw [List.foldl_cons, ih, update_fst, or_assoc]
    simp

lemma restartFlag_eq_false_iff (configMaps : List DataObject) :
    restartFlag cluster ini configMaps = false ↔ ∃ configMap ∈ configMaps, Same cluster ini configMap :=
  (foldl_update true configMaps).trans (by simp)

lemma updatedData_operator (additionalConfig data : StringMap) :
    (updatedData cluster ini additionalConfig data).get? "operatorDefaults.conf" =
      some (ini.write (operatorConfiguration cluster
        (additionalConfig.entries.any fun e => hasPrefix "auth_mechanisms" e.1))) := by
  simp [updatedData, get?_updateProperty]

lemma updatedData_eq_set {additionalConfig data : StringMap}
    (h : ∀ key ≠ "operatorDefaults.conf",
      data.get? key = (updatedData cluster ini additionalConfig data).get? key) :
    updatedData cluster ini additionalConfig data =
      data.set "operatorDefaults.conf" (ini.write (operatorConfiguration cluster
        (additionalConfig.entries.any fun e => hasPrefix "auth_mechanisms" e.1))) := by
  have huser := h "userDefinedConfiguration.conf" (by decide)
  have hadvanced := h "advanced.config" (by decide)
  have henv := h "rabbitmq-env.conf" (by decide)
  have hinet := h "erl_inetrc" (by decide)
  simp [updatedData, get?_updateProperty] at huser hadvanced henv hinet
  unfold updatedData
  rw [StringMap.set_eq_self, updateProperty_eq_self, updateProperty_eq_self, updateProperty_eq_self]
  all_goals simp [get?_updateProperty, huser, hadvanced, henv, hinet]

lemma withoutSizeHint_operatorConfiguration_ne (cluster : RabbitmqCluster) (auth : Bool) :
    withoutSizeHint (operatorConfiguration cluster auth) ≠ {} := by
  intro h
  have hget : (withoutSizeHint (operatorConfiguration cluster auth)).get? "log.console" = none := by
    rw [h]
    rfl
  rw [withoutSizeHint, StringMap.get?_filterKeys, if_pos (by decide)] at hget
  cases auth <;> simp [operatorConfiguration] at hget <;> cases hget

lemma updated_operator (hu : updated cluster ini configMap = .ok out) :
    ∃ auth, out.data.get? "operatorDefaults.conf" = some (ini.write (operatorConfiguration cluster auth)) ∧
      ((∀ key ≠ "operatorDefaults.conf", configMap.data.get? key = out.data.get? key) →
        out.data = configMap.data.set "operatorDefaults.conf" (ini.write (operatorConfiguration cluster auth))) := by
  obtain ⟨additionalConfig, -, hdata⟩ := updated_data hu
  rw [hdata]
  exact ⟨_, updatedData_operator _ _, updatedData_eq_set⟩

section Comparison

variable {conf : StringMap} (hempty : ini.load "" = .ok {}) (hconf : ini.Inverse conf)
  (hne : withoutSizeHint conf ≠ {}) (hget : out.data.get? "operatorDefaults.conf" = some (ini.write conf))
include hempty hconf hne hget

lemma removed_written :
    removeConfigNotRequiringNodeRestart ini out = .ok { out with
      data := out.data.set "operatorDefaults.conf" (ini.write (withoutSizeHint conf)) } :=
  removeConfigNotRequiringNodeRestart_eq hempty hconf.1 (by rintro rfl; exact hne rfl) hget

lemma not_equal_of_empty (htext : (configMap.data.get? "operatorDefaults.conf").getD "" = "") :
    ¬ EqualWithoutSizeHint ini configMap out ∧
      removeConfigNotRequiringNodeRestart ini configMap ≠ removeConfigNotRequiringNodeRestart ini out := by
  have hkeys : operatorKeys ini out = some (.ok (withoutSizeHint conf)) := by
    rw [operatorKeys, hget, Option.map_some, hconf.1]
    rfl
  constructor
  · rintro ⟨-, -, hop⟩
    rw [hkeys, operatorKeys] at hop
    cases hc : configMap.data.get? "operatorDefaults.conf" with
    | none => simp [hc] at hop
    | some text =>
      rw [hc, Option.getD_some] at htext
      rw [hc, htext, Option.map_some, hempty, Option.some.injEq] at hop
      exact hne (Except.ok.inj hop).symm
  · rw [removed_written hempty hconf hne hget, removeConfigNotRequiringNodeRestart, if_pos htext]
    intro heq
    have hop : (configMap.data.get? "operatorDefaults.conf").getD "" = ini.write (withoutSizeHint conf) := by
      rw [Except.ok.inj heq]
      simp
    rw [htext] at hop
    have hload := hconf.2
    rw [← hop, hempty] at hload
    exact hne (Except.ok.inj hload).symm

lemma removed_eq_iff {text : String} {conf' : StringMap}
    (hdata : (∀ key ≠ "operatorDefaults.conf", configMap.data.get? key = out.data.get? key) →
      out.data = configMap.data.set "operatorDefaults.conf" (ini.write conf))
    (htext : configMap.data.get? "operatorDefaults.conf" = some text) (hload : ini.load text = .ok conf')
    (htext' : text ≠ "") (hconf' : ini.Inverse conf') :
    removeConfigNotRequiringNodeRestart ini configMap = removeConfigNotRequiringNodeRestart ini out ↔
      EqualWithoutSizeHint ini configMap out := by
  have hkeys : operatorKeys ini out = some (.ok (withoutSizeHint conf)) := by
    rw [operatorKeys, hget, Option.map_some, hconf.1]
    rfl
  have hkeys' : operatorKeys ini configMap = some (.ok (withoutSizeHint conf')) := by
    rw [operatorKeys, htext, Option.map_some, hload]
    rfl
  have hremoved : removeConfigNotRequiringNodeRestart ini configMap = .ok { configMap with
      data := configMap.data.set "operatorDefaults.conf" (ini.write (withoutSizeHint conf')) } := by
    simp only [removeConfigNotRequiringNodeRestart, htext, Option.getD_some, if_neg htext', hload]
    rfl
  rw [hremoved, removed_written hempty hconf hne hget, Except.ok.injEq, DataObject.mk.injEq]
  constructor
  · rintro ⟨hmetadata, hset⟩
    have hsame (key : String) := congrArg (fun data => data.get? key) hset
    simp only [StringMap.get?_set] at hsame
    refine ⟨hmetadata, fun key hkey => by simpa [hkey] using hsame key, ?_⟩
    have hwrite : ini.write (withoutSizeHint conf') = ini.write (withoutSizeHint conf) := by
      simpa using hsame "operatorDefaults.conf"
    have hload' := hconf'.2
    rw [hwrite, hconf.2] at hload'
    rw [hkeys, hkeys', hload']
  · rintro ⟨hmetadata, hothers, hop⟩
    rw [hkeys, hkeys', Option.some.injEq, Except.ok.injEq] at hop
    rw [hdata hothers, StringMap.set_set, hop]
    exact ⟨hmetadata, rfl⟩

end Comparison

lemma same_iff (hempty : ini.load "" = .ok {}) (hu : (update cluster ini true configMap).2 = .ok out)
    (hinverse : ∀ conf, OperatorList cluster ini [configMap] conf → ini.Inverse conf) :
    Same cluster ini configMap ↔ EqualWithoutSizeHint ini configMap out := by
  rcases update_cases cluster ini configMap with ⟨err, h⟩ | ⟨out', previous, next, hupdated, hp, -, h⟩
  · rw [h true] at hu
    cases hu
  · have hout : out' = out := by
      rw [h true] at hu
      exact Except.ok.inj hu
    subst hout
    obtain ⟨auth, hget, hdata⟩ := updated_operator hupdated
    have hconf := hinverse _ (.inl ⟨auth, rfl⟩)
    have hne := withoutSizeHint_operatorConfiguration_ne cluster auth
    have hsame : Same cluster ini configMap ↔
        removeConfigNotRequiringNodeRestart ini configMap = removeConfigNotRequiringNodeRestart ini out' := by
      simp [Same, h]
    rw [hsame]
    by_cases htext : (configMap.data.get? "operatorDefaults.conf").getD "" = ""
    · obtain ⟨hequal, hremoved⟩ := not_equal_of_empty hempty hconf hne hget htext
      exact iff_of_false hremoved hequal
    · obtain ⟨text, hsome⟩ : ∃ text, configMap.data.get? "operatorDefaults.conf" = some text := by
        cases hc : configMap.data.get? "operatorDefaults.conf" with
        | none => simp [hc] at htext
        | some text => exact ⟨text, rfl⟩
      rw [hsome, Option.getD_some] at htext
      rw [removeConfigNotRequiringNodeRestart, hsome, Option.getD_some, if_neg htext, bind_eq_ok] at hp
      obtain ⟨conf', hload, -⟩ := hp
      rw [mapError_eq_ok] at hload
      exact removed_eq_iff hempty hconf hne hget hdata hsome hload htext
        (hinverse _ (.inr ⟨configMap, List.mem_singleton_self _, text, hsome, hload⟩))

theorem restartFlag_reflects_update_iff (cluster : RabbitmqCluster) (ini : Ini) (hempty : ini.load "" = .ok {})
    (earlier later : List DataObject) (last out : DataObject)
    (hinverse : ∀ conf, OperatorList cluster ini (earlier ++ [last]) conf → ini.Inverse conf)
    (hlast : (update cluster ini true last).2 = .ok out)
    (hlater : ∀ configMap ∈ later, ∃ err, (update cluster ini true configMap).2 = .error err) :
    (restartFlag cluster ini (earlier ++ last :: later) = false ↔ EqualWithoutSizeHint ini last out) ↔
      (EqualWithoutSizeHint ini last out ∨ ∀ configMap ∈ earlier, ∀ out',
        (update cluster ini true configMap).2 = .ok out' → ¬ EqualWithoutSizeHint ini configMap out') := by
  have hmono {configMap : DataObject} (hmem : configMap ∈ earlier ++ [last]) (conf : StringMap)
      (h : OperatorList cluster ini [configMap] conf) : ini.Inverse conf := by
    refine hinverse conf (h.imp_right ?_)
    rintro ⟨o, ho, h⟩
    exact ⟨configMap, hmem, List.mem_singleton.mp ho ▸ h⟩
  have hsame := same_iff hempty hlast (hmono (by simp))
  have hflag : restartFlag cluster ini (earlier ++ last :: later) = false ↔
      EqualWithoutSizeHint ini last out ∨ ∃ configMap ∈ earlier, Same cluster ini configMap := by
    rw [restartFlag_eq_false_iff]
    constructor
    · rintro ⟨configMap, hmem, h⟩
      rcases List.mem_append.mp hmem with hmem | hmem
      · exact .inr ⟨configMap, hmem, h⟩
      · rcases List.mem_cons.mp hmem with rfl | hmem
        · exact .inl (hsame.mp h)
        · obtain ⟨err, herr⟩ := hlater configMap hmem
          obtain ⟨out', hout', -⟩ := h
          exact absurd (hout'.symm.trans herr) (by simp)
    · rintro (h | ⟨configMap, hmem, h⟩)
      · exact ⟨last, by simp, hsame.mpr h⟩
      · exact ⟨configMap, by simp [hmem], h⟩
  have hearlier : (¬ ∃ configMap ∈ earlier, Same cluster ini configMap) ↔ ∀ configMap ∈ earlier, ∀ out',
      (update cluster ini true configMap).2 = .ok out' → ¬ EqualWithoutSizeHint ini configMap out' := by
    constructor
    · intro h configMap hmem out' hout' hequal
      exact h ⟨configMap, hmem, (same_iff hempty hout' (hmono (by simp [hmem]))).mpr hequal⟩
    · rintro h ⟨configMap, hmem, hs⟩
      obtain ⟨out', hout', -⟩ := id hs
      exact h configMap hmem out' hout' ((same_iff hempty hout' (hmono (by simp [hmem]))).mp hs)
  rw [hflag, ← hearlier, or_iff_left_iff_imp, imp_iff_or_not]

def hintedCluster : RabbitmqCluster where
  name := "rabbit"
  ns := "default"
  spec.rabbitmq.additionalConfig := "consumer_timeout = 10000"

def upToDate : DataObject :=
  match (update hintedCluster Ini.ascii true (build hintedCluster)).2 with
  | .ok out => out
  | .error _ => {}

def changedByOthers : DataObject :=
  { upToDate with data := upToDate.data.set "userDefinedConfiguration.conf" "consumer_timeout = 5\n" }

theorem restart_forgotten :
    (update hintedCluster Ini.ascii true changedByOthers).2 = .ok upToDate ∧
      ¬ EqualWithoutSizeHint Ini.ascii changedByOthers upToDate ∧
      restartFlag hintedCluster Ini.ascii [upToDate, changedByOthers] = false := by
  refine ⟨by decide +kernel, fun h => ?_, by decide +kernel⟩
  exact absurd (h.others "userDefinedConfiguration.conf" (by decide)) (by decide +kernel)

theorem restart_remembered :
    restartFlag hintedCluster Ini.ascii ([changedByOthers] ++ upToDate :: []) = false ↔
      EqualWithoutSizeHint Ini.ascii upToDate upToDate := by
  have hwritten (auth : Bool) : Ini.ascii.Inverse (operatorConfiguration hintedCluster auth) := by
    cases auth <;> exact ⟨by decide +kernel, by decide +kernel⟩
  have hstored (configMap : DataObject) (hmem : configMap ∈ [changedByOthers, upToDate]) :
      (configMap.data.get? "operatorDefaults.conf").map Ini.ascii.load =
        some (.ok (operatorConfiguration hintedCluster false)) := by
    revert configMap
    decide +kernel
  have hlast : (update hintedCluster Ini.ascii true upToDate).2 = .ok upToDate := by decide +kernel
  refine (restartFlag_reflects_update_iff hintedCluster Ini.ascii (by decide +kernel) [changedByOthers] []
    upToDate upToDate ?_ hlast (by simp)).mpr (.inl ⟨rfl, fun _ _ => rfl, rfl⟩)
  rintro conf (⟨auth, rfl⟩ | ⟨configMap, hmem, text, htext, hload⟩)
  · exact hwritten auth
  · have hconf := hstored configMap hmem
    rw [htext, Option.map_some, hload, Option.some.injEq, Except.ok.injEq] at hconf
    exact hconf ▸ hwritten false

end ServerConfigMapBuilder

end ClusterOperator.Resource
