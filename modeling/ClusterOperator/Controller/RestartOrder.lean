import ClusterOperator.Controller.PostDeploy
import ClusterOperator.Interaction.Exchange
import ClusterOperator.Text.Timestamp

namespace ClusterOperator.Controller

open Api Kubernetes Interaction Resource Text

section Skip

def isStatefulSetUpdate : Request → Bool
  | .updateStatefulSet _ => true
  | _ => false

def updatesStatefulSet (xs : List (Exchange api)) : Prop := ∃ x ∈ xs, isStatefulSetUpdate x.1 = true

lemma updatesStatefulSet_append {xs ys : List (Exchange api)} (h : updatesStatefulSet ys) :
    updatesStatefulSet (xs ++ ys) := by
  obtain ⟨x, hx, ho⟩ := h
  exact ⟨x, List.mem_append_right xs hx, ho⟩

lemma restart_ensures :
    Ensures (restart ()) fun xs x => x.1 = none → updatesStatefulSet xs := by
  rintro (e | sts)
  · rintro ⟨⟩
  · rintro now (e | o)
    · rintro ⟨⟩
    · exact fun _ => ⟨_, List.mem_cons_of_mem _ (List.mem_cons_of_mem _ List.mem_cons_self), rfl⟩

lemma retry_restart_ensures (n : ℕ) :
    Ensures (onError Err.isConflict restart n ()) fun xs x => x.1 = none → updatesStatefulSet xs := by
  induction n with
  | zero => exact restart_ensures
  | succ n ih =>
    refine restart_ensures.bind fun xs x hxs => ?_
    rcases x with ⟨_ | err, ⟨⟩⟩
    · simpa [Ensures] using hxs
    · dsimp only
      split
      · exact ih.mono fun ys _ hys hnone => updatesStatefulSet_append (hys hnone)
      · rintro ⟨⟩

lemma restartStatefulSetIfNeeded_ensures :
    Ensures restartStatefulSetIfNeeded fun xs result =>
      result = (0, none) → ¬ updatesStatefulSet xs → ∀ cfg sts updatedAt restartedAt,
        ⟨.getChild .serverConf, .ok cfg⟩ ∈ xs → ⟨.getStatefulSet, .ok sts⟩ ∈ xs →
        cfg.metadata.annotations.get? serverConfAnnotation = some updatedAt →
        sts.template.annotations.get? stsRestartAnnotation = some restartedAt → updatedAt < restartedAt := by
  have hget {q : Request} : Ensures (Program.request (I := api) q) fun xs reply => xs = [⟨q, reply⟩] :=
    fun _ => rfl
  refine (hget (q := .getChild .serverConf)).bind fun xs reply hxs => ?_
  subst hxs
  rcases reply with e | serverConf
  · rintro ⟨⟩
  dsimp only
  split
  next hnone =>
    rintro - - cfg sts updatedAt restartedAt - hsts
    rcases List.mem_singleton.mp hsts with ⟨⟩
  next serverConfigUpdatedAt hsome =>
    refine (hget (q := .getStatefulSet)).bind fun xs reply hxs => ?_
    subst hxs
    rcases reply with e | sts
    · rintro ⟨⟩
    dsimp only
    split
    next hany =>
      rintro - - cfg sts' updatedAt restartedAt hcfg hsts hupdated hrestarted
      have hpair {x y z : Exchange api} : x ∈ [y] ++ ([z] ++ []) ↔ x = y ∨ x = z := by simp
      obtain rfl : cfg = serverConf := by rcases hpair.mp hcfg with ⟨⟨⟩⟩ | ⟨⟨⟩⟩; rfl
      obtain rfl : sts' = sts := by rcases hpair.mp hsts with ⟨⟨⟩⟩ | ⟨⟨⟩⟩; rfl
      rw [hsome, Option.some.injEq] at hupdated
      rw [hrestarted, Option.any_some, decide_eq_true_eq, hupdated] at hany
      exact hany
    next =>
      refine (retry_restart_ensures _).bind fun xs x hxs hresult hupdates => ?_
      have hnone : x.1 = none := congrArg Prod.snd hresult
      rw [List.append_nil] at hupdates
      exact absurd (updatesStatefulSet_append (updatesStatefulSet_append (hxs hnone))) hupdates

lemma restartStatefulSetIfNeeded_admits (cfg : DataObject) (sts : StatefulSet) {updatedAt restartedAt : String}
    (hupdated : cfg.metadata.annotations.get? serverConfAnnotation = some updatedAt)
    (hrestarted : sts.template.annotations.get? stsRestartAnnotation = some restartedAt)
    (hlt : updatedAt < restartedAt) :
    Admits restartStatefulSetIfNeeded fun xs result =>
      result = (0, none) ∧ xs = [⟨.getChild .serverConf, .ok cfg⟩, ⟨.getStatefulSet, .ok sts⟩] := by
  have hget {q : Request} (reply : Reply q) :
      Admits (Program.request (I := api) q) fun xs reply' => xs = [⟨q, reply'⟩] ∧ reply' = reply :=
    ⟨reply, rfl, rfl⟩
  refine (hget (q := .getChild .serverConf) (.ok cfg)).bind fun xs reply h => ?_
  obtain ⟨rfl, rfl⟩ := h
  dsimp only
  rw [hupdated]
  refine (hget (q := .getStatefulSet) (.ok sts)).bind fun xs reply h => ?_
  obtain ⟨rfl, rfl⟩ := h
  dsimp only
  rw [hrestarted, Option.any_some, decide_eq_true hlt, if_pos rfl]
  exact ⟨rfl, rfl⟩

end Skip

section Zone

variable (zone : ℤ → ℤ)

/-- The local time at an instant, in seconds. Instants are in nanoseconds. -/
def localSeconds (t : ℤ) : ℤ := t / 10 ^ 9 + zone t

def stampAt (t : ℤ) : String := rfc3339 (t / 10 ^ 9) (zone t)

def StampedBefore (t₁ t₂ : ℤ) : Prop :=
  localSeconds zone t₁ < localSeconds zone t₂ ∨
    localSeconds zone t₁ = localSeconds zone t₂ ∧ zoneText (zone t₁) < zoneText (zone t₂)

/-- A restart is skipped after stamps at `t₁` and `t₂` only if the second is the later one. -/
def SkipsInOrder (t₁ t₂ : ℤ) : Prop :=
  Ensures restartStatefulSetIfNeeded fun xs result => ∀ cfg sts,
    ⟨.getChild .serverConf, .ok cfg⟩ ∈ xs → ⟨.getStatefulSet, .ok sts⟩ ∈ xs →
    cfg.metadata.annotations.get? serverConfAnnotation = some (stampAt zone t₁) →
    sts.template.annotations.get? stsRestartAnnotation = some (stampAt zone t₂) →
    result = (0, none) → ¬ updatesStatefulSet xs → t₁ < t₂

def markedConfig (updatedAt : String) : DataObject where
  metadata.annotations := StringMap.set {} serverConfAnnotation updatedAt

def restartedStatefulSet (restartedAt : String) : StatefulSet where
  template.annotations := StringMap.set {} stsRestartAnnotation restartedAt

theorem restart_skipped_in_order_iff (t₁ t₂ : ℤ) (h₁ : FourDigits (t₁ / 10 ^ 9) (zone t₁))
    (h₂ : FourDigits (t₂ / 10 ^ 9) (zone t₂)) :
    SkipsInOrder zone t₁ t₂ ↔ (t₂ ≤ t₁ → ¬ StampedBefore zone t₁ t₂) := by
  have hlt : stampAt zone t₁ < stampAt zone t₂ ↔ StampedBefore zone t₁ t₂ := rfc3339_lt_iff h₁ h₂
  rw [← hlt]
  constructor
  · intro h hle htext
    have hget (k v : String) : (StringMap.set {} k v).get? k = some v := by simp
    obtain ⟨xs, result, ⟨hresult, rfl⟩, hskip⟩ := (restartStatefulSetIfNeeded_admits
      (markedConfig (stampAt zone t₁)) (restartedStatefulSet (stampAt zone t₂)) (hget _ _) (hget _ _) htext).meet h
    refine hle.not_gt (hskip _ _ List.mem_cons_self (List.mem_cons_of_mem _ List.mem_cons_self)
      (hget _ _) (hget _ _) hresult ?_)
    rintro ⟨x, hx, hupdate⟩
    rcases hx with _ | ⟨_, _ | ⟨_, ⟨⟩⟩⟩ <;> cases hupdate
  · intro h
    refine restartStatefulSetIfNeeded_ensures.mono fun xs result hskip cfg sts hcfg hsts h₁ h₂ hresult hnot => ?_
    exact lt_of_not_ge fun hle => h hle (hskip hresult hnot _ _ _ _ hcfg hsts h₁ h₂)

def october (minutes : ℤ) : ℤ := 10 ^ 9 * (86400 * (daysBefore 2025 + 298) + 60 * minutes)

def summerTime (t : ℤ) : ℤ := if t < october 60 then 7200 else 3600

theorem restart_skipped_in_autumn :
    october 59 < october 65 ∧ stampAt summerTime (october 59) = "2025-10-26T02:59:00+02:00" ∧
      stampAt summerTime (october 65) = "2025-10-26T02:05:00+01:00" ∧
      (run server restartStatefulSetIfNeeded (List.replicate 9 {})
        ((Store.empty.putChild .serverConf (markedConfig (stampAt summerTime (october 65)))).putStatefulSet
          (restartedStatefulSet (stampAt summerTime (october 59))))).result = some (0, none) ∧
      ¬ updatesStatefulSet ((run server restartStatefulSetIfNeeded (List.replicate 9 {})
        ((Store.empty.putChild .serverConf (markedConfig (stampAt summerTime (october 65)))).putStatefulSet
          (restartedStatefulSet (stampAt summerTime (october 59))))).trace.map Event.exchange) := by
  unfold updatesStatefulSet
  decide +kernel

theorem restart_not_skipped_in_utc : SkipsInOrder (fun _ => 0) (october 65) (october 59) := by
  refine (restart_skipped_in_order_iff (fun _ => 0) (october 65) (october 59) ?_ ?_).mpr fun _ => ?_
  · unfold FourDigits
    decide +kernel
  · unfold FourDigits
    decide +kernel
  · unfold StampedBefore
    decide +kernel

end Zone

end ClusterOperator.Controller
