import ClusterOperator.Controller.PostDeploy
import ClusterOperator.Text.Fields

namespace ClusterOperator.Controller

open Api Kubernetes Resource Text

section AddPlugins

variable {enabled seen ps qs : List String}

lemma mem_addPlugins {p : String} : p ∈ addPlugins enabled ps ↔ p ∈ enabled ∨ p ∈ ps := by
  induction ps generalizing enabled with
  | nil => simp [addPlugins]
  | cons q ps ih =>
    unfold addPlugins
    split
    · rename_i hq
      rw [ih, List.mem_cons]
      constructor
      · rintro (h | h)
        · exact .inl h
        · exact .inr (.inr h)
      · rintro (h | rfl | h)
        · exact .inl h
        · exact .inl hq
        · exact .inr h
    · rw [ih, List.mem_append, List.mem_singleton, List.mem_cons, or_assoc]

lemma addPlugins_append : addPlugins enabled (ps ++ qs) = addPlugins (addPlugins enabled ps) qs := by
  induction ps generalizing enabled with
  | nil => rfl
  | cons p ps ih =>
    rw [List.cons_append, addPlugins, addPlugins]
    split
    · exact ih
    · exact ih

lemma addPlugins_nodup (h : (enabled ++ ps).Nodup) : addPlugins enabled ps = enabled ++ ps := by
  induction ps generalizing enabled with
  | nil => simp [addPlugins]
  | cons p ps ih =>
    have hp : p ∉ enabled := fun hp => (List.nodup_append.mp h).2.2 p hp p List.mem_cons_self rfl
    have happend : enabled ++ p :: ps = enabled ++ [p] ++ ps := List.append_cons enabled p ps
    rw [addPlugins, if_neg hp, happend]
    exact ih (happend ▸ h)

lemma addPlugins_of_subset (h : ∀ p ∈ ps, p ∈ enabled) : addPlugins enabled ps = enabled := by
  induction ps with
  | nil => rfl
  | cons p ps ih =>
    rw [addPlugins, if_pos (h p List.mem_cons_self)]
    exact ih fun q hq => h q (List.mem_cons_of_mem _ hq)

lemma addPlugins_extends (enabled ps : List String) : ∃ added, addPlugins enabled ps = enabled ++ added := by
  induction ps generalizing enabled with
  | nil => exact ⟨[], by simp [addPlugins]⟩
  | cons p ps ih =>
    unfold addPlugins
    split
    · exact ih enabled
    · obtain ⟨added, h⟩ := ih (enabled ++ [p])
      exact ⟨p :: added, by rw [h, List.append_assoc, List.singleton_append]⟩

def Ordered (l enabled : List String) : Prop :=
  enabled.Pairwise fun p q => l.idxOf p < l.idxOf q

lemma Ordered.nodup {l : List String} (h : Ordered l enabled) : enabled.Nodup := by
  refine List.Pairwise.imp (fun {p q} hlt heq => ?_) h
  subst heq
  exact lt_irrefl _ hlt

lemma Ordered.append (h : Ordered seen enabled) (hmem : ∀ p ∈ enabled, p ∈ seen) :
    Ordered (seen ++ ps) enabled := by
  refine List.Pairwise.imp_of_mem (fun hp hq hlt => ?_) h
  rwa [List.idxOf_append_of_mem (hmem _ hp), List.idxOf_append_of_mem (hmem _ hq)]

-- `seen` is the part of the list that the loop has read
lemma addPlugins_ordered (hmem : ∀ p, p ∈ enabled ↔ p ∈ seen) (h : Ordered seen enabled) :
    Ordered (seen ++ ps) (addPlugins enabled ps) := by
  induction ps generalizing enabled seen with
  | nil => simpa [addPlugins] using h
  | cons p ps ih =>
    rw [List.append_cons]
    have hext : Ordered (seen ++ [p]) enabled := h.append fun q hq => (hmem q).mp hq
    unfold addPlugins
    split
    · rename_i hp
      refine ih (fun q => ?_) hext
      rw [List.mem_append, List.mem_singleton, ← hmem q]
      exact ⟨.inl, fun hq => hq.elim id fun hq => hq ▸ hp⟩
    · rename_i hp
      refine ih (fun q => by rw [List.mem_append, List.mem_append, hmem q]) ?_
      refine List.pairwise_append.mpr ⟨hext, List.pairwise_singleton _ _, fun q hq r hr => ?_⟩
      rw [List.mem_singleton.mp hr, List.idxOf_append_of_mem ((hmem q).mp hq),
        List.idxOf_append_of_notMem (fun h => hp ((hmem p).mpr h)), List.idxOf_cons_self]
      exact List.idxOf_lt_length_of_mem ((hmem q).mp hq)

end AddPlugins

section DesiredPlugins

variable {additional : List String}

lemma mem_desiredPlugins {p : String} :
    p ∈ desiredPlugins additional ↔ p ∈ requiredPlugins ∨ p ∈ additional := by
  rw [desiredPlugins, mem_addPlugins, List.mem_append]
  simp

lemma desiredPlugins_ordered : Ordered (requiredPlugins ++ additional) (desiredPlugins additional) :=
  @addPlugins_ordered [] [] (requiredPlugins ++ additional) (fun _ => Iff.rfl) List.Pairwise.nil

lemma desiredPlugins_eq : desiredPlugins additional = addPlugins requiredPlugins additional := by
  rw [desiredPlugins, addPlugins_append]
  rfl

lemma desiredPlugins_idempotent : desiredPlugins (desiredPlugins additional) = desiredPlugins additional := by
  obtain ⟨added, h⟩ := addPlugins_extends requiredPlugins additional
  have hnodup : (requiredPlugins ++ added).Nodup := by
    rw [← h, ← desiredPlugins_eq]
    exact desiredPlugins_ordered.nodup
  rw [desiredPlugins_eq, desiredPlugins_eq, h, addPlugins_append,
    addPlugins_of_subset fun _ hp => hp, addPlugins_nodup hnodup]

/-- Letters, digits and underscores, as the validation of `Plugin` asks. -/
def IsWord (p : String) : Prop :=
  p ≠ "" ∧ ∀ c ∈ p.toList, c.isAlphanum ∨ c = '_'

instance (p : String) : Decidable (IsWord p) :=
  @instDecidableAnd _ _ inferInstance (List.decidableBAll _ p.toList)

lemma IsWord.notMem {p : String} {c : Char} (h : IsWord p) (hc : ¬ (c.isAlphanum ∨ c = '_')) :
    c ∉ p.toList :=
  fun hmem => hc (h.2 c hmem)

lemma isWord_desiredPlugins (h : ∀ p ∈ additional, IsWord p) :
    ∀ p ∈ desiredPlugins additional, IsWord p := by
  intro p hp
  rcases mem_desiredPlugins.mp hp with hp | hp
  · have hrequired : ∀ p ∈ requiredPlugins, IsWord p := by decide
    exact hrequired p hp
  · exact h p hp

lemma fields_pluginsAsString {sep : Char} (h : ∀ p ∈ additional, IsWord p)
    (hsep : ¬ (sep.isAlphanum ∨ sep = '_')) :
    fields sep (pluginsAsString additional (String.singleton sep)) = desiredPlugins additional := by
  refine fields_intercalate (fun p hp => (isWord_desiredPlugins h p hp).notMem hsep) fun hnil => ?_
  have : "rabbitmq_management" ∈ desiredPlugins additional := mem_desiredPlugins.mpr (.inl (by decide))
  rw [hnil] at this
  cases this

end DesiredPlugins

theorem plugin_encodings_agree (rmq : RabbitmqCluster)
    (hwords : ∀ p ∈ rmq.spec.rabbitmq.additionalPlugins, IsWord p) :
    (desiredPlugins rmq.spec.rabbitmq.additionalPlugins).Nodup ∧
    (∀ p, p ∈ desiredPlugins rmq.spec.rabbitmq.additionalPlugins ↔
      p ∈ requiredPlugins ∨ p ∈ rmq.spec.rabbitmq.additionalPlugins) ∧
    Ordered (requiredPlugins ++ rmq.spec.rabbitmq.additionalPlugins)
      (desiredPlugins rmq.spec.rabbitmq.additionalPlugins) ∧
    fields ' ' (setPluginsCommand rmq) =
      "rabbitmq-plugins" :: "set" :: desiredPlugins rmq.spec.rabbitmq.additionalPlugins ∧
    (enclosed "[" "]." (desiredPluginsAsString rmq.spec.rabbitmq.additionalPlugins)).map (fields ',') =
      some (desiredPlugins rmq.spec.rabbitmq.additionalPlugins) ∧
    desiredPlugins (desiredPlugins rmq.spec.rabbitmq.additionalPlugins) =
      desiredPlugins rmq.spec.rabbitmq.additionalPlugins := by
  refine ⟨desiredPlugins_ordered.nodup, fun p => mem_desiredPlugins, desiredPlugins_ordered, ?_, ?_,
    desiredPlugins_idempotent⟩
  · have hcommand : setPluginsCommand rmq = "rabbitmq-plugins" ++ String.singleton ' ' ++
        ("set" ++ String.singleton ' ' ++
          pluginsAsString rmq.spec.rabbitmq.additionalPlugins (String.singleton ' ')) := by
      rw [← String.append_assoc]
      rfl
    rw [hcommand, fields_append (by decide), fields_append (by decide),
      fields_pluginsAsString hwords (by decide)]
  · rw [desiredPluginsAsString, enclosed_append, Option.map_some]
    exact congrArg some (fields_pluginsAsString hwords (by decide))

theorem repeated_plugin_set_once :
    fields ' ' (setPluginsCommand
      { name := "hello", spec.rabbitmq.additionalPlugins := ["rabbitmq_mqtt", "rabbitmq_management"] }) =
      ["rabbitmq-plugins", "set", "rabbitmq_peer_discovery_k8s", "rabbitmq_prometheus", "rabbitmq_management",
        "rabbitmq_mqtt"] :=
  (plugin_encodings_agree
    { name := "hello", spec.rabbitmq.additionalPlugins := ["rabbitmq_mqtt", "rabbitmq_management"] }
    (by decide)).2.2.2.1

end ClusterOperator.Controller
