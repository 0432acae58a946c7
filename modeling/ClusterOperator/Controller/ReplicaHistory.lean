import ClusterOperator.Controller.ReplicaTurn

namespace ClusterOperator.Controller

open Api Kubernetes Interaction Resource Scaling

section Numbers

lemma parseDigits_toString (n : ℕ) : parseDigits (toString n).toList = some n := by
  have hdigits : ∀ c ∈ (toString n).toList, c.isDigit = true := by
    intro c hc
    rw [Nat.toString_eq_repr, Nat.toList_repr] at hc
    exact Nat.isDigit_of_mem_toDigits (by decide) le_rfl hc
  have hne : (toString n).toList ≠ [] := by
    rw [Nat.toString_eq_repr, Nat.toList_repr]
    exact Nat.toDigits_ne_nil
  rw [parseDigits, if_pos ⟨hne, by simpa using hdigits⟩, Nat.toString_eq_repr, Nat.toList_repr,
    Nat.ofDigitChars_ten_toDigits]

lemma parseInt32_toString {k v : ℤ} (h : parseInt32 (toString k) = some v) : v = k := by
  have hfilter {x : ℤ} {P : ℤ → Bool} (h : (some x).filter P = some v) : v = x :=
    (Option.some.inj (Option.filter_eq_some_iff.mp h).1).symm
  unfold parseInt32 at h
  cases k with
  | ofNat n =>
    have hn : toString (Int.ofNat n) = toString n := rfl
    rw [hn] at h
    have hdigits := parseDigits_toString n
    have hhead := fun c => Text.head_toString_nat (n := n) (c := c)
    generalize (toString n).toList = ds at h hdigits hhead
    dsimp only at h
    split at h
    · exact absurd (hhead _ rfl) (by decide)
    · exact absurd (hhead _ rfl) (by decide)
    · rw [hdigits] at h
      exact hfilter h
  | negSucc n =>
    have hn : (toString (Int.negSucc n)).toList = '-' :: (toString (n + 1)).toList := by
      have hn : toString (Int.negSucc n) = "-" ++ toString (n + 1) := rfl
      rw [hn, String.toList_append]
      rfl
    rw [hn] at h
    dsimp only at h
    split at h
    · rename_i ds hds
      cases hds
      rw [parseDigits_toString] at h
      exact hfilter h
    · rename_i hds
      cases hds
    · rename_i hne _
      exact absurd rfl (hne _)

end Numbers

section Passes

def iteration (r : Reconciler) : Operation (Option (Except (Result × Memory) Memory)) := do
  match ← Client.getCluster with
  | .error _ => return none
  | .ok c => return some (← statefulSetTurn r { cluster := c })

def Permitted : Edit → Prop
  | .createCluster _ | .setMetadata _ _ | .deleteCluster | .removeFinalizer _ => False
  | _ => True

/-- Edits of others, and then a turn in which no call fails. -/
structure Pass where
  edits : List {e // Permitted e}
  turns : List {t // Calm t}

namespace Pass

def start (p : Pass) (s : Store) : Store := p.edits.foldl (fun s e => e.1.apply s) s

def outcome (p : Pass) (r : Reconciler) (s : Store) :
    Outcome api Store (Option (Except (Result × Memory) Memory)) :=
  run faultless (iteration r) p.turns (p.start s)

def outcomes (r : Reconciler) :
    List Pass → Store → List (Outcome api Store (Option (Except (Result × Memory) Memory)))
  | [], _ => []
  | p :: ps, s => p.outcome r s :: outcomes r ps (p.outcome r s).final

def history (r : Reconciler) (ps : List Pass) (s : Store) : List ℤ :=
  (outcomes r ps s).flatMap fun o => values storedReplicas o.trace

end Pass

/-- What a turn needs to find, after the numbers that have been stored so far: a StatefulSet that
is not being deleted, unless there was none yet, and if it goes on to restore the replicas, one that
`Scale` does not reject and that `Update` can write. -/
structure Ready (seen : List ℤ) (s : Store) : Prop where
  settled : Settled s
  present : s.statefulSet = none → seen = []
  nonneg : ∀ c ∈ s.cluster, 0 ≤ desiredReplicas c
  restorable : ∀ c ∈ s.cluster, ∀ o ∈ s.statefulSet, o.replicas = 0 → 0 < desiredReplicas c →
    restoreError c.annotations (desiredReplicas c) = none → Restorable c o

def Smooth (r : Reconciler) : List ℤ → List Pass → Store → Prop
  | _, [], _ => True
  | seen, p :: ps, s => (p.outcome r s).result.isSome = true ∧ Ready seen (p.start s) ∧
      Smooth r (seen ++ values storedReplicas (p.outcome r s).trace) ps (p.outcome r s).final

instance (seen : List ℤ) (s : Store) : Decidable (Ready seen s) :=
  decidable_of_iff (Settled s ∧ (s.statefulSet = none → seen = []) ∧ (∀ c ∈ s.cluster, 0 ≤ desiredReplicas c) ∧
      ∀ c ∈ s.cluster, ∀ o ∈ s.statefulSet, o.replicas = 0 → 0 < desiredReplicas c →
        restoreError c.annotations (desiredReplicas c) = none → Restorable c o)
    ⟨fun h => ⟨h.1, h.2.1, h.2.2.1, h.2.2.2⟩, fun h => ⟨h.settled, h.present, h.nonneg, h.restorable⟩⟩

instance decidableSmooth (r : Reconciler) : ∀ seen ps s, Decidable (Smooth r seen ps s)
  | _, [], _ => isTrue trivial
  | seen, p :: ps, s =>
    have := decidableSmooth r (seen ++ values storedReplicas (p.outcome r s).trace) ps (p.outcome r s).final
    inferInstanceAs (Decidable (_ ∧ _ ∧ _))

end Passes

section Step

variable {r : Reconciler} {seen : List ℤ} {s : Store}

structure Linked (seen : List ℤ) (s : Store) : Prop where
  noted : ∀ n ∈ storedReplicas s, (Seen.after seen).note n = Seen.after seen
  nonneg : ∀ n ∈ storedReplicas s, 0 ≤ n
  saved : ∀ o ∈ s.statefulSet, o.metadata.deletionTimestamp = false → o.replicas = 0 →
    ∀ k ∈ (Seen.after seen).last, ∀ c ∈ s.cluster,
      c.annotations.get? beforeZeroReplicasConfigured = some (toString k)

lemma permitted_annotations {e : Edit} (he : Permitted e) {c' : RabbitmqCluster} (h : c' ∈ (e.apply s).cluster) :
    ∃ c ∈ s.cluster, c'.annotations = c.annotations := by
  have hon {f : RabbitmqCluster → RabbitmqCluster} (h : c' ∈ (Edit.onCluster s f).cluster)
      (hf : ∀ c, (f c).annotations = c.annotations) : ∃ c ∈ s.cluster, c'.annotations = c.annotations := by
    unfold Edit.onCluster at h
    split at h
    · exact ⟨c', h, rfl⟩
    · rename_i c hc
      cases h
      exact ⟨c, hc, hf c⟩
  cases e with
  | createCluster c => exact he.elim
  | setSpec spec => exact hon h fun _ => rfl
  | setMetadata labels annotations => exact he.elim
  | setStatus status => exact hon h fun _ => rfl
  | deleteCluster => exact he.elim
  | removeFinalizer f => exact he.elim
  | setStatefulSetStatus status =>
    simp only [Edit.apply] at h
    split at h <;> exact ⟨c', h, rfl⟩
  | collect =>
    simp only [Edit.apply] at h
    split at h
    · exact ⟨c', h, rfl⟩
    · split at h <;> exact ⟨c', h, rfl⟩
  | setPvc name storage => cases storage <;> exact ⟨c', h, rfl⟩
  | setPods pods => exact ⟨c', h, rfl⟩
  | setSecret name secret => exact ⟨c', h, rfl⟩

lemma Linked.edit {e : Edit} (he : Permitted e) (h : Linked seen s) : Linked seen (e.apply s) := by
  have hreplicas : ∀ n ∈ storedReplicas (e.apply s), n ∈ storedReplicas s := by
    intro n hn
    obtain ⟨o', ho', rfl⟩ := mem_storedReplicas.mp hn
    obtain ⟨o, ho, _, _, rfl⟩ := Edit.apply_statefulSet ho'
    exact mem_storedReplicas.mpr ⟨o, ho, rfl⟩
  refine ⟨fun n hn => h.noted n (hreplicas n hn), fun n hn => h.nonneg n (hreplicas n hn),
    fun o' ho' hlive hz k hk c' hc' => ?_⟩
  obtain ⟨o, ho, _, _, rfl⟩ := Edit.apply_statefulSet ho'
  obtain ⟨c, hc, hann⟩ := permitted_annotations he hc'
  rw [hann]
  exact h.saved o ho hlive hz k hk c hc

lemma Linked.start (h : Linked seen s) (p : Pass) : Linked seen (p.start s) := by
  unfold Pass.start
  generalize p.edits = es
  induction es generalizing s with
  | nil => exact h
  | cons e es ih => exact ih (h.edit e.2)

lemma Linked.allows {c : RabbitmqCluster} {o : StatefulSet} (h : Linked seen s) (hs : Settled s)
    (hc : s.cluster = some c) (ho : s.statefulSet = some o) {n : ℤ} (hfits : Fits c.annotations o.replicas n) :
    (Seen.after seen).Allows n := by
  by_cases hn : n = 0
  · exact Or.inl hn
  have hlast := h.noted o.replicas (mem_storedReplicas.mpr ⟨o, ho, rfl⟩)
  by_cases hz : o.replicas = 0
  · have hzero : (Seen.after seen).zero = true := by
      rw [hz, Seen.note_zero] at hlast
      rw [← hlast]
    refine Or.inr fun k hk => ?_
    rw [if_pos hzero]
    have hsaved := h.saved o ho (hs o ho) hz k hk c hc
    have hrestore := (hfits.2 hz).resolve_left hn
    unfold restoreError at hrestore
    rw [hsaved] at hrestore
    dsimp only at hrestore
    split at hrestore
    · cases hrestore
    · rename_i v hv
      split at hrestore
      · cases hrestore
      · rename_i hnv
        rw [not_not.mp hnv, parseInt32_toString hv]
  · rw [Seen.note_of_ne hz] at hlast
    refine Or.inr fun k hk => ?_
    rw [← hlast] at hk ⊢
    cases hk
    exact hfits.1.resolve_left hn

lemma iteration_rule {n : ℤ} {may : Prop} {Q : Store → Prop} (hs : Settled s) (hnone : s.cluster = none → Q s)
    (hsome : ∀ c, s.cluster = some c → Meets faultless (fun _ => True) (Moves storedReplicas n may)
      (statefulSetTurn r { cluster := c }) (fun _ => Q) s) :
    Meets faultless (fun _ => True) (Moves storedReplicas n may) (iteration r) (fun _ => Q) s := by
  refine meets_send_settled hs (fun t => (sameReplicas_serve (q := .getCluster) trivial t _).moves) fun t => ?_
  generalize hreply : (answer t .getCluster s).1 = reply
  change found s.cluster = reply at hreply
  cases hc : s.cluster with
  | none =>
    rw [hc] at hreply
    subst hreply
    exact hnone hc
  | some c =>
    rw [hc] at hreply
    subst hreply
    exact (hsome c hc).bind fun _ _ h => h

lemma statefulSetTurn_creates {c : RabbitmqCluster} (ho : s.statefulSet = none) :
    Meets faultless (fun _ => True) (Moves storedReplicas (desiredReplicas c) True)
      (statefulSetTurn r { cluster := c })
      (fun _ s' => ∀ o ∈ s'.statefulSet, o.replicas = 0 → desiredReplicas c = 0) s := by
  have hs : Settled s := by simp [Settled, ho]
  refine meets_send_settled hs (fun t => (sameReplicas_serve (q := .getStatefulSet) trivial t _).moves) fun t => ?_
  generalize hreply : (answer t .getStatefulSet s).1 = reply
  change found s.statefulSet = reply at hreply
  rw [ho] at hreply
  subst hreply
  have hmoves : Meets faultless (fun _ => True) (Moves storedReplicas (desiredReplicas c) True)
      (writeStatefulSet r { cluster := c } (StatefulSetBuilder.build c)) _ s :=
    writeStatefulSet_moves rfl trivial
  by_cases hd : desiredReplicas c = 0
  · exact hmoves.post fun _ _ _ _ _ _ => hd
  · have hnonzero : Ends (writeStatefulSet r { cluster := c } (StatefulSetBuilder.build c)) _ s :=
      writeStatefulSet_nonzero rfl hd (by simp [ho])
    exact (hmoves.both hnonzero).mono (fun _ h => h) (fun _ _ h => h.1) fun _ _ h o ho hz =>
      absurd hz (h.2 o ho)

lemma iteration_meets (h : Linked seen s) (hready : Ready seen s) :
    ∃ (n : ℤ) (may : Prop), (may → (Seen.after seen).Allows n ∧ 0 ≤ n) ∧
      Meets faultless (fun _ => True) (Moves storedReplicas n may) (iteration r)
        (fun _ s' => ∀ o ∈ s'.statefulSet, o.metadata.deletionTimestamp = false → o.replicas = 0 →
          (may → n = 0) ∧ ∀ k ∈ (Seen.after seen).last, ∀ c ∈ s'.cluster,
            c.annotations.get? beforeZeroReplicasConfigured = some (toString k)) s := by
  have hs := hready.settled
  cases hc : s.cluster with
  | none =>
    refine ⟨0, False, False.elim, iteration_rule hs (fun _ o ho hlive hz => ?_) fun c hc' => ?_⟩
    · exact ⟨False.elim, h.saved o ho hlive hz⟩
    · cases hc.symm.trans hc'
  | some c =>
    have hd := hready.nonneg c hc
    have hrule {n : ℤ} {may : Prop} {Q : Store → Prop} (hmeets : Meets faultless (fun _ => True)
        (Moves storedReplicas n may) (statefulSetTurn r { cluster := c }) (fun _ => Q) s) :
        Meets faultless (fun _ => True) (Moves storedReplicas n may) (iteration r) (fun _ => Q) s := by
      refine iteration_rule hs (fun hnone => ?_) fun c' hc' => ?_
      · cases hc.symm.trans hnone
      · cases hc.symm.trans hc'
        exact hmeets
    cases ho : s.statefulSet with
    | none =>
      obtain rfl := hready.present ho
      refine ⟨desiredReplicas c, True, fun _ => ⟨Seen.allows_of_none rfl, hd⟩, hrule ?_⟩
      exact (statefulSetTurn_creates ho).post fun _ s' h o ho _ hz => ⟨fun _ => h o ho hz, fun k hk => by cases hk⟩
    | some o =>
      refine ⟨desiredReplicas c, _, fun hmay => ⟨h.allows hs hc ho hmay.1, hd⟩,
        hrule ((statefulSetTurn_remembered (r := r) hs hc ho
          (h.nonneg _ (mem_storedReplicas.mpr ⟨o, ho, rfl⟩)) fun hz hfits hne => ?_).post
          fun _ s' hs' o' ho' hlive hz => ?_)⟩
      · exact hready.restorable c hc o ho hz (lt_of_le_of_ne hd (Ne.symm hne)) ((hfits.2 hz).resolve_left hne)
      · obtain ⟨hmay, hann⟩ := hs' o' ho' hlive hz
        refine ⟨hmay, fun k hk c' hc' => ?_⟩
        rw [hann c' hc']
        split
        · exact h.saved o ho (hs o ho) ‹_› k hk c hc
        · rename_i hne
          have hlast := h.noted o.replicas (mem_storedReplicas.mpr ⟨o, ho, rfl⟩)
          rw [Seen.note_of_ne hne] at hlast
          rw [← hlast] at hk
          cases hk
          rfl

lemma Linked.pass (h : Linked seen s) (hready : Ready seen s) {ts : List {t // Calm t}}
    (hresult : (run faultless (iteration r) ts s).result.isSome = true) :
    Restored (Seen.after seen) (values storedReplicas (run faultless (iteration r) ts s).trace) ∧
      Linked (seen ++ values storedReplicas (run faultless (iteration r) ts s).trace)
        (run faultless (iteration r) ts s).final := by
  obtain ⟨n, may, hmay, hmeets⟩ := iteration_meets (r := r) h hready
  have hdisturb : ∀ t s, ∀ k ∈ storedReplicas (faultless.disturb t s), k ∈ storedReplicas s := by
    intro t s k hk
    obtain ⟨o', ho', rfl⟩ := mem_storedReplicas.mp hk
    obtain ⟨o, ho, hr⟩ := sameReplicas_disturb t.1 s o' ho'
    exact mem_storedReplicas.mpr ⟨o, ho, hr.symm⟩
  obtain ⟨hrestored, hnoted, hlast⟩ := hmeets.traced hdisturb h.noted (fun hm => (hmay hm).1) ts
  rw [← Seen.after_append] at hnoted hlast
  refine ⟨hrestored, hnoted, ?_, fun o ho hlive hz k hk c hc => ?_⟩
  · refine hmeets.invariant (J := fun s => ∀ n ∈ storedReplicas s, 0 ≤ n) (fun t q s hs he k hk => ?_) h.nonneg ts
    rcases he k hk with hk | ⟨hm, rfl⟩
    · exact hs k (hdisturb t s k hk)
    · exact (hmay hm).2
  · obtain ⟨x, hx⟩ := Option.isSome_iff_exists.mp hresult
    obtain ⟨hzero, hsaved⟩ := (hmeets.sound ts fun _ _ => trivial).2 x hx o ho hlive hz
    exact hsaved k (hlast hzero ▸ hk) c hc

lemma Linked.history {ps : List Pass} (h : Linked seen s) (hsmooth : Smooth r seen ps s) :
    Restored (Seen.after seen) (Pass.history r ps s) := by
  induction ps generalizing seen s with
  | nil => trivial
  | cons p ps ih =>
    obtain ⟨hresult, hready, hsmooth⟩ := hsmooth
    obtain ⟨hrestored, hlinked⟩ := (h.start p).pass hready hresult
    rw [Pass.history, Pass.outcomes, List.flatMap_cons]
    refine restored_append.mpr ⟨hrestored, ?_⟩
    rw [← Seen.after_append]
    exact ih hlinked hsmooth

end Step

section Safety

/-- In every run of passes that are all complete and find what they need: the numbers of replicas
other than zero never go down, and the first one after zeros is the last one before them. -/
theorem replicas_never_decrease (r : Reconciler) (ps : List Pass) (s : Store)
    (hs : ∀ n ∈ storedReplicas s, 0 ≤ n) (h : Smooth r (storedReplicas s).toList ps s) :
    (((storedReplicas s).toList ++ Pass.history r ps s).filter (· ≠ 0)).Pairwise (· ≤ ·) ∧
      ∀ before a zeros b after,
        (storedReplicas s).toList ++ Pass.history r ps s = before ++ a :: (zeros ++ b :: after) →
        a ≠ 0 → b ≠ 0 → zeros ≠ [] → (∀ z ∈ zeros, z = 0) → b = a := by
  have hseen : ∀ n ∈ storedReplicas s,
      Seen.after (storedReplicas s).toList = ({} : Seen ℤ).note n := by
    intro n hn
    rw [hn]
    rfl
  have hlinked : Linked (storedReplicas s).toList s := by
    refine ⟨fun n hn => ?_, hs, fun o ho _ hz k hk => ?_⟩
    · rw [hseen n hn, Seen.note_note]
    · rw [hseen 0 (mem_storedReplicas.mpr ⟨o, ho, hz⟩), Seen.last_note_zero] at hk
      cases hk
  have hfirst : Restored ({} : Seen ℤ) (storedReplicas s).toList := by
    cases storedReplicas s with
    | none => trivial
    | some n => exact ⟨Seen.allows_of_none rfl, trivial⟩
  have hrestored : Restored {} ((storedReplicas s).toList ++ Pass.history r ps s) :=
    restored_append.mpr ⟨hfirst, hlinked.history h⟩
  refine ⟨hrestored.pairwise, fun before a zeros b after hsplit ha hb hne hz => ?_⟩
  rw [hsplit] at hrestored
  exact hrestored.restores ha hb hne hz

def setting (spec : RabbitmqClusterSpec) : Pass where
  edits := [⟨.setSpec spec, trivial⟩]
  turns := List.replicate 20 ⟨{}, rfl, by simp [Quiet]⟩

def threeNodes : Store :=
  Store.empty.putCluster { name := "rabbit", ns := "default", generation := 1, spec := { replicas := 3, storage := 10 } }

def shrinkingPasses : List Pass :=
  [setting { replicas := 3, storage := 10 }, setting { replicas := 0, storage := 10 },
    setting { replicas := 3, storage := 5 }, setting { replicas := 1, storage := 10 }]

theorem replicas_decreased :
    (∀ o ∈ Pass.outcomes plainReconciler shrinkingPasses threeNodes, o.result.isSome = true) ∧
      (Pass.history plainReconciler shrinkingPasses threeNodes).destutter (· ≠ ·) = [3, 0, 1] := by
  decide +kernel

theorem replicas_restored :
    let ps := [setting { replicas := 3, storage := 10 }, setting { replicas := 0, storage := 10 },
      setting { replicas := 3, storage := 10 }]
    Smooth plainReconciler [] ps threeNodes ∧ 0 ∈ Pass.history plainReconciler ps threeNodes ∧
      ((Pass.history plainReconciler ps threeNodes).filter (· ≠ 0)).Pairwise (· ≤ ·) := by
  intro ps
  have h : Smooth plainReconciler [] ps threeNodes := by decide +kernel
  exact ⟨h, by decide +kernel, (replicas_never_decrease plainReconciler ps threeNodes (by decide) h).1⟩

end Safety

end ClusterOperator.Controller
