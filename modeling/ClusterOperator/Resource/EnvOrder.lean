import Mathlib.Data.List.ReduceOption
import ClusterOperator.Resource.MoveToFront

namespace ClusterOperator.Resource

open Kubernetes

def identityNames : List String := ["MY_POD_NAME", "MY_POD_NAMESPACE", "K8S_SERVICE_NAME"]

def identityPlace (name : String) : Option (Fin 3) :=
  if name = "MY_POD_NAME" then some 0
  else if name = "MY_POD_NAMESPACE" then some 1
  else if name = "K8S_SERVICE_NAME" then some 2
  else none

lemma identityPlace_eq_some {name : String} {j : Fin 3} :
    identityPlace name = some j ↔ name = identityNames.get j := by
  unfold identityPlace
  fin_cases j <;> split_ifs <;> simp_all [identityNames]

lemma sortEnvVar_eq (env : List EnvVar) : sortEnvVar env =
    moveToFront (fun e => (identityPlace e.name).map Fin.val) (List.range env.length) env := by
  unfold sortEnvVar identityPlace
  congr 1
  funext e
  split_ifs <;> rfl

section Places

variable {a b c : Option (Fin 3)} {rest out : List (Option (Fin 3))}

/-- Two of the three exchange their places, and the loop leaves one of them at the place of the
third, which it meets later. -/
def Displaced (a b c : Option (Fin 3)) : Prop :=
  a = some 2 ∧ b ≠ some 0 ∧ c = some 1 ∨
  a = some 1 ∧ b = some 2 ∧ c ≠ some 0 ∨
  a ≠ some 1 ∧ b = some 2 ∧ c = some 0

instance (a b c : Option (Fin 3)) : Decidable (Displaced a b c) :=
  inferInstanceAs (Decidable (_ ∨ _))

lemma moveToFront_three : ∀ a b c : Option (Fin 3), [a, b, c].reduceOption.Nodup → ∃ x y z,
    moveToFront (Option.map Fin.val) (List.range 3) [a, b, c] = .ok [x, y, z] ∧
      ((∀ j : Fin 3, some j ∈ [a, b, c] → [x, y, z][j.val]? = some (some j)) ↔ ¬ Displaced a b c) := by
  decide +kernel

lemma bind_val_eq_some {t : Option (Option (Fin 3))} {j : Fin 3} :
    t.bind (Option.map Fin.val) = some j.val ↔ t = some (some j) := by
  rcases t with _ | _ | i <;> simp [Fin.val_inj]

lemma eq_places_iff {l : List (Option (Fin 3))} (h : l.length = 3) :
    l = [some 0, some 1, some 2] ↔ ∀ j : Fin 3, l[j.val]? = some (some j) := by
  obtain ⟨x, y, z, rfl⟩ := List.length_eq_three.mp h
  simp [Fin.forall_fin_succ]

lemma some_mem_rest_iff (hnodup : (a :: b :: c :: rest).reduceOption.Nodup) {j : Fin 3}
    (hj : some j ∈ a :: b :: c :: rest) : some j ∈ rest ↔ some j ∉ [a, b, c] := by
  change some j ∈ [a, b, c] ++ rest at hj
  change ([a, b, c] ++ rest).reduceOption.Nodup at hnodup
  rw [List.reduceOption_append, List.nodup_append'] at hnodup
  constructor
  · intro hrest hfront
    exact hnodup.2.2 (List.reduceOption_mem_iff.mpr hfront) (List.reduceOption_mem_iff.mpr hrest)
  · exact (List.mem_append.mp hj).resolve_left

lemma moveToFront_places (hnodup : (a :: b :: c :: rest).reduceOption.Nodup)
    (hall : ∀ j : Fin 3, some j ∈ a :: b :: c :: rest)
    (h : moveToFront (Option.map Fin.val) (List.range (rest.length + 3)) (a :: b :: c :: rest) = .ok out) :
    out.take 3 = [some 0, some 1, some 2] ↔ ¬ Displaced a b c := by
  have hfront : [a, b, c].reduceOption.Nodup := by
    have := List.reduceOption_append [a, b, c] rest ▸ hnodup
    exact (List.nodup_append.mp this).1
  have hplace (t : Option (Fin 3)) (j : ℕ) (ht : t.map Fin.val = some j) : j < 3 := by
    obtain ⟨i, -, rfl⟩ := Option.map_eq_some_iff.mp ht
    exact i.isLt
  obtain ⟨x, y, z, hfirst, hiff⟩ := moveToFront_three a b c hfront
  obtain ⟨left, hleft⟩ := exchange_eq_settle (Option.map Fin.val) [x, y, z] [] rest
  have hout : out = settle (Option.map Fin.val) [x, y, z] rest ++ left :=
    (Except.ok.inj (h.symm.trans (moveToFront_range [a, b, c] rest hplace hfirst))).trans hleft
  have hlength : (settle (Option.map Fin.val) [x, y, z] rest).length = 3 := settle_length
  rw [hout, List.take_left' hlength, eq_places_iff hlength, ← hiff]
  refine forall_congr' fun j => ?_
  have hrest : (∃ t ∈ rest, t.map Fin.val = some j.val) ↔ some j ∉ [a, b, c] := by
    rw [← some_mem_rest_iff hnodup (hall j)]
    simp [Fin.val_inj]
  rw [← bind_val_eq_some, settle_place j.isLt, bind_val_eq_some, hrest, imp_iff_not_or]

end Places

section EnvVars

variable {env : List EnvVar}

/-- Where the three stand in a list in which the loop does not bring them all to their places:
two of them are among the first three variables, and the third one is not. -/
def Overtaken : List String → Prop
  | a :: b :: c :: _ =>
    a = "K8S_SERVICE_NAME" ∧ b ≠ "MY_POD_NAME" ∧ c = "MY_POD_NAMESPACE" ∨
    a = "MY_POD_NAMESPACE" ∧ b = "K8S_SERVICE_NAME" ∧ c ≠ "MY_POD_NAME" ∨
    a ≠ "MY_POD_NAMESPACE" ∧ b = "K8S_SERVICE_NAME" ∧ c = "MY_POD_NAME"
  | _ => False

lemma displaced_identityPlace {a b c : String} {names : List String} :
    Displaced (identityPlace a) (identityPlace b) (identityPlace c) ↔ Overtaken (a :: b :: c :: names) := by
  simp only [Displaced, Overtaken, Ne, identityPlace_eq_some]
  rfl

lemma take_identityNames {names : List String} : names.take 3 = identityNames ↔
    (names.map identityPlace).take 3 = [some 0, some 1, some 2] := by
  rcases names with _ | ⟨a, _ | ⟨b, _ | ⟨c, names⟩⟩⟩ <;> simp [identityNames, identityPlace_eq_some]

lemma sortEnvVar_places {out : List EnvVar} (h : sortEnvVar env = .ok out) :
    moveToFront (Option.map Fin.val) (List.range env.length) (env.map fun e => identityPlace e.name) =
      .ok (out.map fun e => identityPlace e.name) := by
  rw [sortEnvVar_eq] at h
  rw [moveToFront_map, h]
  rfl

lemma reduceOption_places_nodup (hnodup : (env.map (·.name)).Nodup) :
    (env.map fun e => identityPlace e.name).reduceOption.Nodup := by
  have hplaces : (env.map fun e => identityPlace e.name).reduceOption =
      (env.map (·.name)).filterMap identityPlace := by
    rw [List.reduceOption, List.filterMap_map, List.filterMap_map]
    rfl
  rw [hplaces]
  refine List.Nodup.filterMap (fun a b j ha hb => ?_) hnodup
  exact (identityPlace_eq_some.mp ha).trans (identityPlace_eq_some.mp hb).symm

theorem identity_variables_first (env : List EnvVar) (hnodup : (env.map (·.name)).Nodup)
    (hall : ∀ name ∈ identityNames, name ∈ env.map (·.name)) :
    ∃ out, sortEnvVar env = .ok out ∧ out.Perm env ∧
      ((out.map (·.name)).take 3 = identityNames ↔ ¬ Overtaken (env.map (·.name))) := by
  have hlength : 3 ≤ env.length := by
    have hsub : identityNames.Subperm (env.map (·.name)) := List.subperm_of_subset (by decide) hall
    simpa [identityNames] using hsub.length_le
  obtain ⟨out, hout⟩ := sortEnvVar_ok hlength
  refine ⟨out, hout, moveToFront_perm hout, ?_⟩
  have hplaces := sortEnvVar_places hout
  have hreduce := reduceOption_places_nodup hnodup
  have hmem (j : Fin 3) : some j ∈ env.map fun e => identityPlace e.name := by
    obtain ⟨e, he, hname⟩ := List.mem_map.mp (hall _ (List.get_mem identityNames j))
    exact List.mem_map.mpr ⟨e, he, identityPlace_eq_some.mpr hname⟩
  obtain ⟨a, b, c, rest, rfl⟩ : ∃ a b c rest, env = a :: b :: c :: rest := by
    rcases env with _ | ⟨a, _ | ⟨b, _ | ⟨c, rest⟩⟩⟩
    · simp at hlength
    · simp at hlength
    · simp at hlength
    · exact ⟨a, b, c, rest, rfl⟩
  have hiff := moveToFront_places hreduce hmem (by rwa [List.length_map])
  rw [take_identityNames, List.map_map]
  exact hiff.trans (not_congr displaced_identityPlace)

def scatteredEnv : List EnvVar :=
  [{ name := "K8S_SERVICE_NAME" }, { name := "LOG_LEVEL" }, { name := "MY_POD_NAME" },
    { name := "MY_POD_NAMESPACE" }]

theorem scattered_variables_first : ∃ out, sortEnvVar scatteredEnv = .ok out ∧ out.Perm scatteredEnv ∧
    ((out.map (·.name)).take 3 = identityNames ↔ ¬ Overtaken (scatteredEnv.map (·.name))) :=
  identity_variables_first scatteredEnv (by decide) (by decide)

def overtakenEnv : List EnvVar :=
  [{ name := "K8S_SERVICE_NAME" }, { name := "LOG_LEVEL" }, { name := "MY_POD_NAMESPACE" },
    { name := "MY_POD_NAME" }]

theorem namespace_left_last : (overtakenEnv.map (·.name)).Nodup ∧
    (∀ name ∈ identityNames, name ∈ overtakenEnv.map (·.name)) ∧
    (sortEnvVar overtakenEnv).map (List.map (·.name)) =
      .ok ["MY_POD_NAME", "LOG_LEVEL", "K8S_SERVICE_NAME", "MY_POD_NAMESPACE"] := by
  decide +kernel

end EnvVars

end ClusterOperator.Resource
