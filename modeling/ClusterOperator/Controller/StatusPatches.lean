import ClusterOperator.Controller.DefaultUser
import ClusterOperator.Json.SharedDocument

/-! The status of a RabbitmqCluster as a JSON document that the controller of the clusters and
the one of the deprecated features patch. -/

namespace ClusterOperator.Controller

open Api Kubernetes Json

inductive StatusField
  | conditions
  | defaultUser
  | binding
  | observedGeneration
  | quorumStatus
  | deprecatedFeaturesUsed
deriving DecidableEq

inductive CredentialKey
  | username
  | password
deriving DecidableEq

inductive SecretReferenceKey
  | name
  | ns
  | keys
deriving DecidableEq

inductive ServiceReferenceKey
  | name
  | ns
deriving DecidableEq

inductive DefaultUserKey
  | secretReference
  | serviceReference
deriving DecidableEq

section Values

instance : Fintype CredentialKey := ⟨{.username, .password}, fun k => by cases k <;> decide⟩

instance : Fintype SecretReferenceKey := ⟨{.name, .ns, .keys}, fun k => by cases k <;> decide⟩

instance : Fintype ServiceReferenceKey := ⟨{.name, .ns}, fun k => by cases k <;> decide⟩

instance : Fintype DefaultUserKey := ⟨{.secretReference, .serviceReference}, fun k => by cases k <;> decide⟩

def SecretReferenceValue : SecretReferenceKey → Type
  | .name | .ns => String
  | .keys => CredentialKey → Option String

instance : ∀ k, DecidableEq (SecretReferenceValue k)
  | .name | .ns => inferInstanceAs (DecidableEq String)
  | .keys => inferInstanceAs (DecidableEq (CredentialKey → Option String))

def DefaultUserValue : DefaultUserKey → Type
  | .secretReference => Document SecretReferenceValue
  | .serviceReference => ServiceReferenceKey → Option String

instance : ∀ k, DecidableEq (DefaultUserValue k)
  | .secretReference => inferInstanceAs (DecidableEq (Document SecretReferenceValue))
  | .serviceReference => inferInstanceAs (DecidableEq (ServiceReferenceKey → Option String))

def StatusValue : StatusField → Type
  | .conditions => List Condition
  | .defaultUser => Document DefaultUserValue
  | .binding => String
  | .observedGeneration => ℕ
  | .quorumStatus => String
  | .deprecatedFeaturesUsed => List String

instance : ∀ f, DecidableEq (StatusValue f)
  | .conditions => inferInstanceAs (DecidableEq (List Condition))
  | .defaultUser => inferInstanceAs (DecidableEq (Document DefaultUserValue))
  | .binding => inferInstanceAs (DecidableEq String)
  | .observedGeneration => inferInstanceAs (DecidableEq ℕ)
  | .quorumStatus => inferInstanceAs (DecidableEq String)
  | .deprecatedFeaturesUsed => inferInstanceAs (DecidableEq (List String))

def secretReferencePatch : ∀ k, MergePatch (SecretReferenceValue k)
  | .name | .ns => .atom String
  | .keys => .object fun _ : CredentialKey => .atom String

def defaultUserPatch : ∀ k, MergePatch (DefaultUserValue k)
  | .secretReference => .object secretReferencePatch
  | .serviceReference => .object fun _ : ServiceReferenceKey => .atom String

def statusPatch : ∀ f, MergePatch (StatusValue f)
  | .conditions => .atom (List Condition)
  | .defaultUser => .object defaultUserPatch
  -- a reference with its name as the only key
  | .binding => .single (.atom String)
  | .observedGeneration => .atom ℕ
  | .quorumStatus => .atom String
  | .deprecatedFeaturesUsed => .atom (List String)

end Values

section Document

variable (ns : String)

def secretReference (name : String) : Document SecretReferenceValue
  | .name => some name
  | .ns => some ns
  | .keys => some fun
    | .username => some "username"
    | .password => some "password"

def serviceReference (name : String) : ServiceReferenceKey → Option String
  | .name => some name
  | .ns => some ns

def defaultUserDocument (u : DefaultUserStatus) : Document DefaultUserValue
  | .secretReference => u.secretName.map (secretReference ns)
  | .serviceReference => some (serviceReference ns u.serviceName)

/-- The status as it is sent: fields that are empty are left out, the conditions excepted. -/
def statusDocument (s : RabbitmqClusterStatus) : Document StatusValue
  | .conditions => some s.conditions
  | .defaultUser => s.defaultUser.map (defaultUserDocument ns)
  | .binding => s.binding
  | .observedGeneration => omitEmpty (0 : ℕ) s.observedGeneration
  | .quorumStatus => omitEmpty "" s.quorumStatus
  | .deprecatedFeaturesUsed => omitEmpty ([] : List String) s.deprecatedFeaturesUsed

end Document

inductive StatusWriter
  | rabbitmqCluster
  | deprecatedFeature
deriving DecidableEq

def owner : StatusField → StatusWriter
  | .deprecatedFeaturesUsed => .deprecatedFeature
  | _ => .rabbitmqCluster

/-- Every key of a default user, at any depth, on which the copy and the changed copy agree is
stored with the value that they have. -/
def DefaultUserKept : Option (Document DefaultUserValue) → Option (Document DefaultUserValue) →
    Option (Document DefaultUserValue) → Prop :=
  MergePatch.KeptBelow fun
    | .secretReference => MergePatch.KeptBelow fun
      | .name | .ns => MergePatch.Kept
      | .keys => MergePatch.KeptBelow fun _ => MergePatch.Kept
    | .serviceReference => MergePatch.KeptBelow fun _ => MergePatch.Kept

lemma merge_of_ne_defaultUser {f : StatusField} (hf : f ≠ .defaultUser) {x y : Option (StatusValue f)}
    (hne : x ≠ y) (z : Option (StatusValue f)) : (statusPatch f).merge ((statusPatch f).diff x y) z = y := by
  cases f with
  | defaultUser => exact absurd rfl hf
  | binding => exact MergePatch.merge_single_atom hne z
  | conditions | observedGeneration | quorumStatus | deprecatedFeaturesUsed => exact MergePatch.merge_atom hne z

lemma merge_defaultUser_eq_iff {x y z : Option (Document DefaultUserValue)} :
    (MergePatch.object defaultUserPatch).merge ((MergePatch.object defaultUserPatch).diff x y) z = y ↔
      DefaultUserKept x y z := by
  refine MergePatch.merge_object_eq_iff fun k x y z => ?_
  cases k with
  | secretReference =>
    refine MergePatch.merge_object_eq_iff fun k x y z => ?_
    cases k with
    | name | ns => exact MergePatch.merge_atom_eq_iff
    | keys => exact MergePatch.merge_object_eq_iff fun _ _ _ _ => MergePatch.merge_atom_eq_iff
  | serviceReference => exact MergePatch.merge_object_eq_iff fun _ _ _ _ => MergePatch.merge_atom_eq_iff

lemma defaultUserKept_of_current (x y : Option (Document DefaultUserValue)) : DefaultUserKept x y x :=
  merge_defaultUser_eq_iff.mp (MergePatch.merge_diff _ _ _)

abbrev StatusWrite := Write StatusValue owner

theorem status_last_patch_wins (h : Versions StatusValue) :
    (∀ (w : StatusWrite) f, owner f ≠ w.writer → (w.store h statusPatch).current f = h.current f) ∧
    (∀ (ws : List StatusWrite) f, Silent statusPatch f ws h →
      (runWrites statusPatch ws h).current f = h.current f) ∧
    ∀ (before : List StatusWrite) (w : StatusWrite) (after : List StatusWrite) f,
      let stored := runWrites statusPatch before h
      let final := runWrites statusPatch (before ++ w :: after) h
      w.copy stored f ≠ w.modified stored f → Silent statusPatch f after (w.store stored statusPatch) →
      (f ≠ .defaultUser → final.current f = w.modified stored f) ∧
      (f = .defaultUser → (final.current .defaultUser = w.modified stored .defaultUser ↔
        DefaultUserKept (w.copy stored .defaultUser) (w.modified stored .defaultUser)
          (stored.current .defaultUser))) := by
  refine ⟨fun w f hf => Write.store_of_ne_owner hf, fun ws f hs => runWrites_silent hs, ?_⟩
  intro before w after f stored final hne hsilent
  have hfinal : final.current f = (w.store stored statusPatch).current f := by
    change (runWrites statusPatch (before ++ w :: after) h).current f = _
    rw [runWrites_append]
    exact runWrites_silent hsilent
  constructor
  · intro hf
    rw [hfinal]
    exact merge_of_ne_defaultUser hf hne _
  · rintro rfl
    rw [hfinal]
    exact merge_defaultUser_eq_iff

def reconcileStatusWrite (rmq : RabbitmqCluster) (read : ℕ) : StatusWrite where
  writer := .rabbitmqCluster
  read := read
  modify copy
    | .defaultUser => some (defaultUserDocument rmq.ns (defaultUserStatus rmq))
    | .binding => binding rmq
    | f => copy f
  own copy f hf := by
    cases f with
    | deprecatedFeaturesUsed => rfl
    | _ => exact absurd rfl hf

def vaultCluster : RabbitmqCluster where
  name := "rabbit"
  ns := "default"
  spec.secretBackend.vault := some { defaultUserPath := "secret/rabbit" }

theorem stale_copy_mixes_defaultUser :
    let h : Versions StatusValue := { current := statusDocument "default" {} }
    let first := reconcileStatusWrite { name := "rabbit", ns := "default" } 0
    let second := reconcileStatusWrite vaultCluster 1
    second.copy (first.store h statusPatch) .defaultUser ≠
        second.modified (first.store h statusPatch) .defaultUser ∧
      (runWrites statusPatch [first, second] h).current .defaultUser ≠
        second.modified (first.store h statusPatch) .defaultUser := by
  decide +kernel

section Refinement

variable {ns : String}

lemma secretReference_injective : Function.Injective (secretReference ns) := fun _ _ h =>
  Option.some.inj (congrFun h .name)

lemma defaultUserDocument_injective : Function.Injective (defaultUserDocument ns) := by
  rintro ⟨secret, service⟩ ⟨secret', service'⟩ h
  have hsecret : secret = secret' :=
    Option.map_injective secretReference_injective (congrFun h .secretReference)
  have hservice : service = service' :=
    Option.some.inj (congrFun (Option.some.inj (congrFun h .serviceReference)) .name)
  rw [hsecret, hservice]

lemma overwrites_secretReference (name : String) :
    (MergePatch.object secretReferencePatch).Overwrites (some (secretReference ns name)) := by
  refine MergePatch.overwrites_object fun k => ?_
  cases k with
  | name | ns => exact MergePatch.overwrites_atom _
  | keys =>
    refine MergePatch.overwrites_object fun k => ?_
    cases k <;> exact MergePatch.overwrites_atom _

lemma overwrites_serviceReference (name : String) :
    (MergePatch.object fun _ : ServiceReferenceKey => .atom String).Overwrites
      (some (serviceReference ns name)) := by
  refine MergePatch.overwrites_object fun k => ?_
  cases k <;> exact MergePatch.overwrites_atom _

lemma merge_secretReference (base modified stored : Option String)
    (hs : base.isSome = true → stored.isSome = true) :
    (MergePatch.object secretReferencePatch).merge
        ((MergePatch.object secretReferencePatch).diff (base.map (secretReference ns))
          (modified.map (secretReference ns)))
        (stored.map (secretReference ns)) =
      (if base = modified then stored else modified).map (secretReference ns) := by
  by_cases h : base = modified
  · rw [h, if_pos rfl, MergePatch.merge_diff_self]
  rw [if_neg h]
  have hne : base.map (secretReference ns) ≠ modified.map (secretReference ns) :=
    fun he => h (Option.map_injective secretReference_injective he)
  rcases modified with _ | m
  · exact MergePatch.merge_object_none hne _
  rcases base with _ | b
  · exact overwrites_secretReference m _
  obtain ⟨v, rfl⟩ := Option.isSome_iff_exists.mp (hs rfl)
  refine (MergePatch.merge_object_some hne _).trans (congrArg some (funext fun k => ?_))
  cases k with
  | name => exact MergePatch.merge_atom (fun he => h he) _
  | ns | keys => exact MergePatch.merge_diff_self _ _ _

lemma merge_serviceReference (base modified stored : String) :
    (MergePatch.object fun _ : ServiceReferenceKey => .atom String).merge
        ((MergePatch.object fun _ : ServiceReferenceKey => .atom String).diff
          (some (serviceReference ns base)) (some (serviceReference ns modified)))
        (some (serviceReference ns stored)) =
      some (serviceReference ns (if base = modified then stored else modified)) := by
  by_cases h : base = modified
  · rw [h, if_pos rfl, MergePatch.merge_diff_self]
  rw [if_neg h]
  have hne : some (serviceReference ns base) ≠ some (serviceReference ns modified) :=
    fun he => h (Option.some.inj (congrFun (Option.some.inj he) .name))
  refine (MergePatch.merge_object_some hne _).trans (congrArg some (funext fun k => ?_))
  cases k with
  | name => exact MergePatch.merge_atom (fun he => h (Option.some.inj he)) _
  | ns => exact MergePatch.merge_diff_self _ _ _

lemma merge_defaultUser (base modified stored : Option DefaultUserStatus)
    (hs : ∀ u ∈ base, ∃ v ∈ stored, u.secretName.isSome = true → v.secretName.isSome = true) :
    (MergePatch.object defaultUserPatch).merge
        ((MergePatch.object defaultUserPatch).diff (base.map (defaultUserDocument ns))
          (modified.map (defaultUserDocument ns)))
        (stored.map (defaultUserDocument ns)) =
      (RabbitmqClusterStatus.patchDefaultUser base modified stored).map (defaultUserDocument ns) := by
  unfold RabbitmqClusterStatus.patchDefaultUser
  by_cases h : base = modified
  · rw [h, if_pos rfl, MergePatch.merge_diff_self]
  rw [if_neg h]
  have hne : base.map (defaultUserDocument ns) ≠ modified.map (defaultUserDocument ns) :=
    fun he => h (Option.map_injective defaultUserDocument_injective he)
  rcases modified with _ | m
  · exact MergePatch.merge_object_none hne _
  refine (MergePatch.merge_object_some hne _).trans (congrArg some (funext fun k => ?_))
  rcases base with _ | b
  · cases k with
    | secretReference =>
      rcases stored with _ | v
      · exact merge_secretReference none m.secretName none nofun
      · exact merge_secretReference none m.secretName v.secretName nofun
    | serviceReference => exact overwrites_serviceReference m.serviceName _
  · obtain ⟨v, hv, hsome⟩ := hs b rfl
    cases hv
    cases k with
    | secretReference => exact merge_secretReference b.secretName m.secretName v.secretName hsome
    | serviceReference =>
      have hname : (if b.serviceName = m.serviceName then v.serviceName else m.serviceName) =
          if some b.serviceName = some m.serviceName then (some v.serviceName).getD "" else m.serviceName := by
        simp
      exact (merge_serviceReference b.serviceName m.serviceName v.serviceName).trans
        (congrArg (fun name => some (serviceReference ns name)) hname)

lemma merge_binding (base modified stored : Option String) :
    (MergePatch.single (.atom String)).merge ((MergePatch.single (.atom String)).diff base modified) stored =
      if base = modified then stored else modified := by
  by_cases h : base = modified
  · rw [h, if_pos rfl, MergePatch.merge_diff_self]
  · rw [if_neg h, MergePatch.merge_single_atom h]

/-- The patch of the API server is the JSON merge patch of the documents, if the references that
the copy has are stored. -/
theorem statusDocument_patch (base modified stored : RabbitmqClusterStatus)
    (hs : ∀ u ∈ base.defaultUser, ∃ v ∈ stored.defaultUser,
      u.secretName.isSome = true → v.secretName.isSome = true)
    (f : StatusField) :
    statusDocument ns (.patch base modified stored) f =
      (statusPatch f).merge ((statusPatch f).diff (statusDocument ns base f) (statusDocument ns modified f))
        (statusDocument ns stored f) := by
  cases f with
  | conditions =>
    exact (MergePatch.merge_atom_encode (Option.some_injective _) base.conditions _ _).symm
  | defaultUser => exact (merge_defaultUser _ _ _ hs).symm
  | binding => exact (merge_binding _ _ _).symm
  | observedGeneration =>
    exact (MergePatch.merge_atom_encode (omitEmpty_injective 0) base.observedGeneration _ _).symm
  | quorumStatus => exact (MergePatch.merge_atom_encode (omitEmpty_injective "") base.quorumStatus _ _).symm
  | deprecatedFeaturesUsed =>
    exact (MergePatch.merge_atom_encode (omitEmpty_injective []) base.deprecatedFeaturesUsed _ _).symm

end Refinement

end ClusterOperator.Controller
