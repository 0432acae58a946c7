import ClusterOperator.Resource.MoveToFront

namespace ClusterOperator.Resource

open Kubernetes

def erlangCookieVolume : String := "rabbitmq-erlang-cookie"

def defaultPVCName : String := "persistence"

def frontVolume : Fin 2 → String := ![erlangCookieVolume, defaultPVCName]

def volumePlace (m : VolumeMount) : Option ℕ :=
  if m.name = erlangCookieVolume then some 0 else if m.name = defaultPVCName then some 1 else none

lemma volumePlace_lt (m : VolumeMount) (j : ℕ) (h : volumePlace m = some j) : j < 2 := by
  unfold volumePlace at h
  split_ifs at h <;> cases h <;> decide

lemma volumePlace_eq_some {m : VolumeMount} {j : Fin 2} : volumePlace m = some j.val ↔ m.name = frontVolume j := by
  have hne : erlangCookieVolume ≠ defaultPVCName := by decide
  unfold volumePlace
  fin_cases j <;> split_ifs <;> simp_all [frontVolume]

def firstMounts (a b : VolumeMount) : List VolumeMount :=
  if a.name = defaultPVCName ∨ b.name = erlangCookieVolume then [b, a] else [a, b]

lemma sortVolumeMounts_eq (a b : VolumeMount) (rest : List VolumeMount) :
    sortVolumeMounts (a :: b :: rest) = .ok (exchange volumePlace (firstMounts a b) [] rest) := by
  have hpair := moveToFront_pair volumePlace_lt a b
  have hdata : volumePlace a = some 1 ↔ a.name = defaultPVCName := volumePlace_eq_some (j := 1)
  have hcookie : volumePlace b = some 0 ↔ b.name = erlangCookieVolume := volumePlace_eq_some (j := 0)
  simp only [hdata, hcookie] at hpair
  exact moveToFront_range [a, b] rest volumePlace_lt hpair

section Next

def nextMount (mounts : List VolumeMount) (volume : String) (i : ℕ) : Option ℕ :=
  ((mounts.drop (max 2 (i + 1))).findIdx? (·.name = volume)).map (max 2 (i + 1) + ·)

variable {mounts : List VolumeMount} {volume : String} {i j : ℕ}

lemma nextMount_gt (h : nextMount mounts volume i = some j) : 2 ≤ j ∧ i < j := by
  obtain ⟨k, -, rfl⟩ := Option.map_eq_some_iff.mp h
  omega

lemma nextMount_le {m : VolumeMount} (hm : mounts[j]? = some m) (hname : m.name = volume) (h2 : 2 ≤ j)
    (hi : i < j) : ∃ k ≤ j, nextMount mounts volume i = some k := by
  obtain ⟨n, rfl⟩ : ∃ n, j = max 2 (i + 1) + n := ⟨j - max 2 (i + 1), by omega⟩
  rw [← List.getElem?_drop] at hm
  have hsome : ((mounts.drop (max 2 (i + 1))).findIdx? (·.name = volume)).isSome := by
    rw [List.findIdx?_isSome, List.any_eq_true]
    exact ⟨m, List.mem_of_getElem? hm, decide_eq_true hname⟩
  obtain ⟨k, hk⟩ := Option.isSome_iff_exists.mp hsome
  refine ⟨max 2 (i + 1) + k, ?_, congrArg (Option.map _) hk⟩
  obtain ⟨hlt, rfl⟩ := List.getElem?_eq_some_iff.mp hm
  obtain ⟨_, _, hfirst⟩ := List.findIdx?_eq_some_iff_getElem.mp hk
  by_contra hgt
  exact hfirst n (by omega) (decide_eq_true hname)

end Next

section Landing

variable {a b m : VolumeMount} {rest : List VolumeMount} {k : ℕ} {j : Fin 2}

lemma firstMounts_length (a b : VolumeMount) : (firstMounts a b).length = 2 := by
  unfold firstMounts
  split <;> rfl

lemma first_lands (hk : k < 2) (hm : (firstMounts a b)[j.val]? = some m) :
    (exchange volumePlace (firstMounts a b) [] rest)[(nextMount (a :: b :: rest) (frontVolume j) k).getD j]? =
      some m := by
  have hlands := exchange_front volumePlace (firstMounts a b) [] rest hm
  have hstart : max 2 (k + 1) = 2 := by omega
  simp only [volumePlace_eq_some, firstMounts_length] at hlands
  rw [nextMount, hstart]
  exact hlands

lemma rest_lands (hm : rest[k]? = some m) (hname : m.name = frontVolume j) :
    (exchange volumePlace (firstMounts a b) [] rest)[(nextMount (a :: b :: rest) (frontVolume j) (k + 2)).getD
      j]? = some m := by
  have hlands := exchange_rest volumePlace (firstMounts a b) [] rest hm (volumePlace_eq_some.mpr hname)
    (lt_of_lt_of_eq j.isLt (firstMounts_length a b).symm)
  have hstart : 2 + ([] : List VolumeMount).length + (k + 1) = max 2 (k + 2 + 1) := by
    rw [List.length_nil]
    omega
  have hdrop : (a :: b :: rest).drop (max 2 (k + 2 + 1)) = rest.drop (k + 1) := by
    rw [max_eq_right (by omega)]
    rfl
  simp only [volumePlace_eq_some, firstMounts_length, hstart] at hlands
  rw [nextMount, hdrop]
  exact hlands

/-- The place that the mount at `k` of volume `j` has when the loop has read it and the first two:
two mounts of one volume at the first places are exchanged. -/
def placeRead (mounts : List VolumeMount) (j : Fin 2) (k : ℕ) : Fin 2 :=
  if k = j ∧ mounts[j.rev.val]?.map (·.name) = some (frontVolume j) then j.rev else j

def landing (mounts : List VolumeMount) (j : Fin 2) (k : ℕ) : ℕ :=
  (nextMount mounts (frontVolume (placeRead mounts j k)) k).getD (placeRead mounts j k)

lemma firstMounts_placeRead (hk : (a :: b :: rest)[k]? = some m) (hlt : k < 2) (hname : m.name = frontVolume j) :
    (firstMounts a b)[(placeRead (a :: b :: rest) j k).val]? = some m := by
  have hne : erlangCookieVolume ≠ defaultPVCName := by decide
  unfold firstMounts placeRead
  interval_cases k <;> cases hk <;> fin_cases j <;> simp_all [frontVolume, Fin.rev] <;> split_ifs <;> simp_all

lemma mount_lands (hk : (a :: b :: rest)[k]? = some m) (hname : m.name = frontVolume j) :
    (exchange volumePlace (firstMounts a b) [] rest)[landing (a :: b :: rest) j k]? = some m := by
  by_cases hlt : k < 2
  · exact first_lands hlt (firstMounts_placeRead hk hlt hname)
  · obtain ⟨i, rfl⟩ : ∃ i, k = i + 2 := ⟨k - 2, by omega⟩
    have hm : rest[i]? = some m := hk
    have hplace : placeRead (a :: b :: rest) j (i + 2) = j := if_neg fun h => by omega
    rw [landing, hplace]
    exact rest_lands hm hname

end Landing

section Order

/-- The mount at `c` of the cookie's volume stays before the one at `d` of the data's volume.
In general, the loop must not meet the cookie's volume again, or meet it before it meets the
data's volume again. If the first two mounts are both of one of the volumes they change places,
and each waits for the other volume then. -/
def KeptInOrder (mounts : List VolumeMount) (c d : ℕ) : Prop :=
  if c = 0 ∧ mounts[1]?.map (·.name) = some erlangCookieVolume then nextMount mounts defaultPVCName d ≠ none
  else if d = 1 ∧ mounts[0]?.map (·.name) = some defaultPVCName then nextMount mounts erlangCookieVolume c = none
  else ∀ i ∈ nextMount mounts erlangCookieVolume c, ∃ j ∈ nextMount mounts defaultPVCName d, i < j

variable {mounts : List VolumeMount} {c d : ℕ} {cookie data : VolumeMount}

lemma lt_nextMount_iff {volume : String} {k : ℕ} (h2 : 2 ≤ k) (hk : k ≤ d) :
    k < (nextMount mounts volume d).getD 1 ↔ nextMount mounts volume d ≠ none := by
  cases hnext : nextMount mounts volume d with
  | none => simpa using by omega
  | some j =>
    have := (nextMount_gt hnext).2
    simpa using by omega

lemma nextMount_lt_iff {volume : String} {k : ℕ} (h2 : 2 ≤ k) (hk : k ≤ c) :
    (nextMount mounts volume c).getD 0 < k ↔ nextMount mounts volume c = none := by
  cases hnext : nextMount mounts volume c with
  | none => simpa using by omega
  | some j =>
    have := (nextMount_gt hnext).2
    simpa using by omega

lemma nextMount_lt_nextMount_iff {volume volume' : String} :
    (nextMount mounts volume c).getD 0 < (nextMount mounts volume' d).getD 1 ↔
      ∀ i ∈ nextMount mounts volume c, ∃ j ∈ nextMount mounts volume' d, i < j := by
  cases hc : nextMount mounts volume c with
  | none =>
    cases hd : nextMount mounts volume' d with
    | none => simp
    | some j =>
      have := (nextMount_gt hd).1
      simpa using by omega
  | some i =>
    have := (nextMount_gt hc).1
    cases hd : nextMount mounts volume' d with
    | none => simpa using by omega
    | some j => simp

lemma landing_lt_iff (hc : mounts[c]? = some cookie) (hcookie : cookie.name = erlangCookieVolume)
    (hd : mounts[d]? = some data) (hdata : data.name = defaultPVCName) :
    landing mounts 0 c < landing mounts 1 d ↔ KeptInOrder mounts c d := by
  have hc' : mounts[c]?.map (·.name) = some erlangCookieVolume := by rw [hc, Option.map_some, hcookie]
  have hd' : mounts[d]?.map (·.name) = some defaultPVCName := by rw [hd, Option.map_some, hdata]
  have hne : some erlangCookieVolume ≠ some defaultPVCName := by decide
  by_cases hfirst : c = 0 ∧ mounts[1]?.map (·.name) = some erlangCookieVolume
  · have hd0 : d ≠ 0 := fun h => hne ((hfirst.1 ▸ hc').symm.trans (h ▸ hd'))
    have hd1 : d ≠ 1 := fun h => hne (hfirst.2.symm.trans (h ▸ hd'))
    obtain ⟨k, hk, hnext⟩ := nextMount_le hd hdata (by omega) (by omega : c < d)
    have hplace : placeRead mounts 0 c = 1 := if_pos hfirst
    have hplace' : placeRead mounts 1 d = 1 := if_neg fun h => hd1 h.1
    rw [KeptInOrder, if_pos hfirst, landing, landing, hplace, hplace']
    exact (iff_of_eq (congrArg (fun n : Option ℕ => n.getD 1 < _) hnext)).trans
      (lt_nextMount_iff (nextMount_gt hnext).1 hk)
  · have hplace : placeRead mounts 0 c = 0 := if_neg hfirst
    rw [KeptInOrder, if_neg hfirst, landing, landing, hplace]
    by_cases hlast : d = 1 ∧ mounts[0]?.map (·.name) = some defaultPVCName
    · have hc0 : c ≠ 0 := fun h => hne ((h ▸ hc').symm.trans hlast.2)
      have hc1 : c ≠ 1 := fun h => hne ((h ▸ hc').symm.trans (hlast.1 ▸ hd'))
      obtain ⟨k, hk, hnext⟩ := nextMount_le hc hcookie (by omega) (by omega : d < c)
      have hplace' : placeRead mounts 1 d = 0 := if_pos hlast
      rw [if_pos hlast, hplace']
      exact (iff_of_eq (congrArg (fun n : Option ℕ => _ < n.getD 0) hnext)).trans
        (nextMount_lt_iff (nextMount_gt hnext).1 hk)
    · have hplace' : placeRead mounts 1 d = 1 := if_neg hlast
      rw [if_neg hlast, hplace']
      exact nextMount_lt_nextMount_iff

def mountedAt (mounts : List VolumeMount) (path : String) : ℕ := (mounts.map (·.mountPath)).idxOf path

lemma mountedAt_eq (hnodup : (mounts.map (·.mountPath)).Nodup) {i : ℕ} {m : VolumeMount}
    (hm : mounts[i]? = some m) : mountedAt mounts m.mountPath = i := by
  obtain ⟨hi, rfl⟩ := List.getElem?_eq_some_iff.mp hm
  have := hnodup.idxOf_getElem i (by simpa using hi)
  rwa [List.getElem_map] at this

end Order

/-- `sortVolumeMounts` never reads past the end of the list and only reorders it. It mounts the
data directory over the directory around it unless the two mounts are kept in order. -/
theorem data_directory_unshadowed_iff (mounts : List VolumeMount) (hnodup : (mounts.map (·.mountPath)).Nodup)
    (hcookie : ∃ m ∈ mounts, m.name = "rabbitmq-erlang-cookie" ∧ m.mountPath = "/var/lib/rabbitmq/")
    (hdata : ∃ m ∈ mounts, m.name = "persistence" ∧ m.mountPath = "/var/lib/rabbitmq/mnesia/") :
    ∃ out, sortVolumeMounts mounts = .ok out ∧ out.Perm mounts ∧
      (mountedAt out "/var/lib/rabbitmq/" < mountedAt out "/var/lib/rabbitmq/mnesia/" ↔
        KeptInOrder mounts (mountedAt mounts "/var/lib/rabbitmq/")
          (mountedAt mounts "/var/lib/rabbitmq/mnesia/")) := by
  obtain ⟨cookie, hmem, hname, hpath⟩ := hcookie
  obtain ⟨data, hmem', hname', hpath'⟩ := hdata
  obtain ⟨c, hc⟩ := List.mem_iff_getElem?.mp hmem
  obtain ⟨d, hd⟩ := List.mem_iff_getElem?.mp hmem'
  obtain ⟨a, b, rest, rfl⟩ : ∃ a b rest, mounts = a :: b :: rest := by
    rcases mounts with _ | ⟨a, _ | ⟨b, rest⟩⟩
    · cases hmem
    · cases List.mem_singleton.mp hmem
      cases List.mem_singleton.mp hmem'
      exact absurd (hname.symm.trans hname') (by decide)
    · exact ⟨a, b, rest, rfl⟩
  have hout := sortVolumeMounts_eq a b rest
  have hperm := moveToFront_perm hout
  have hnodup' := (hperm.map (·.mountPath)).nodup_iff.mpr hnodup
  refine ⟨_, hout, hperm, ?_⟩
  rw [← hpath, ← hpath', mountedAt_eq hnodup hc, mountedAt_eq hnodup hd,
    mountedAt_eq hnodup' (mount_lands (j := 0) hc hname), mountedAt_eq hnodup' (mount_lands (j := 1) hd hname')]
  exact landing_lt_iff hc hname hd hname'

def operatorMounts : List VolumeMount :=
  [{ name := "rabbitmq-erlang-cookie", mountPath := "/var/lib/rabbitmq/" },
    { name := "persistence", mountPath := "/var/lib/rabbitmq/mnesia/" }]

theorem mounts_before_kept_in_order :
    let mounts := { name := "rabbitmq-erlang-cookie", mountPath := "/shared/" } ::
      { name := "persistence", mountPath := "/backup/" } :: operatorMounts
    ∃ out, sortVolumeMounts mounts = .ok out ∧ out.Perm mounts ∧
      mountedAt out "/var/lib/rabbitmq/" < mountedAt out "/var/lib/rabbitmq/mnesia/" := by
  intro mounts
  obtain ⟨out, hout, hperm, hiff⟩ := data_directory_unshadowed_iff mounts (by decide) (by decide) (by decide)
  refine ⟨out, hout, hperm, hiff.mpr ?_⟩
  unfold KeptInOrder
  decide +kernel

theorem data_directory_shadowed :
    let mounts := operatorMounts ++ [{ name := "rabbitmq-erlang-cookie", mountPath := "/shared/" }]
    (mounts.map (·.mountPath)).Nodup ∧
      (∃ m ∈ mounts, m.name = "rabbitmq-erlang-cookie" ∧ m.mountPath = "/var/lib/rabbitmq/") ∧
      (∃ m ∈ mounts, m.name = "persistence" ∧ m.mountPath = "/var/lib/rabbitmq/mnesia/") ∧
      (sortVolumeMounts mounts).map (List.map (·.mountPath)) =
        .ok ["/shared/", "/var/lib/rabbitmq/mnesia/", "/var/lib/rabbitmq/"] := by
  decide +kernel

end ClusterOperator.Resource
