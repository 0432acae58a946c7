import ClusterOperator.Controller.Deletion
import ClusterOperator.Interaction.Exchange

namespace ClusterOperator.Controller

open Api Kubernetes Interaction Resource

def readDefaultUserCredentials (rmq : RabbitmqCluster) : Operation (Except Err (String × String)) := do
  let secretName := rmq.childResourceName "default-user"
  match ← Client.getSecret secretName with
  | .error e => return .error (.wrap "failed to get default user secret" (.api e))
  | .ok secret =>
    match secret.data.get? "username", secret.data.get? "password" with
    | none, _ => return .error (.text ("username not found in secret " ++ secretName))
    | some _, none => return .error (.text ("password not found in secret " ++ secretName))
    | some u, some p => return .ok (u, p)

def projectedSecrets (v : Volume) : List String :=
  match v.source with
  | .projected sources =>
    (sources.filter fun p => p.items.any fun item => item.1 = "default_user.conf").filterMap VolumeProjection.secret
  | _ => []

structure OneDefaultUser (r : Reconciler) (rmq : RabbitmqCluster) (name : String) : Prop where
  projected : ∀ annotations, (podTemplateSpec rmq annotations).spec.volumes.flatMap projectedSecrets = [name]
  binding : binding rmq = some name
  secretReference : (defaultUserStatus rmq).secretName = some name
  credentials : Ensures (readDefaultUserCredentials rmq) fun xs _ => xs.map Sigma.fst = [.getSecret name]
  origin : (.child .defaultUserSecret ∈ resourceBuilders r rmq ∧ name = rmq.childResourceName "default-user") ∨
    (rmq.externalSecretEnabled = true ∧ name = rmq.spec.secretBackend.externalSecret)

variable {r : Reconciler} {rmq : RabbitmqCluster}

lemma volumes_projectedSecrets (hv : rmq.vaultDefaultUserSecretEnabled = false) (annotations : StringMap) :
    (podTemplateSpec rmq annotations).spec.volumes.flatMap projectedSecrets =
      [if rmq.externalSecretEnabled then rmq.spec.secretBackend.externalSecret
        else rmq.childResourceName "default-user"] := by
  have hconfd : (defaultUserSecretProjection rmq) =
      [{ secret := some (if rmq.externalSecretEnabled then rmq.spec.secretBackend.externalSecret
          else rmq.childResourceName "default-user"), items := [("default_user.conf", "default_user.conf")] }] := by
    cases he : rmq.externalSecretEnabled <;> simp [defaultUserSecretProjection, hv, he]
  unfold podTemplateSpec volumes
  dsimp only
  rw [hconfd]
  split <;> split <;> split <;> split <;> simp [projectedSecrets]

lemma readDefaultUserCredentials_ensures :
    Ensures (readDefaultUserCredentials rmq) fun xs _ =>
      xs.map Sigma.fst = [.getSecret (rmq.childResourceName "default-user")] := by
  rintro (e | secret)
  · rfl
  · change Ensures (match secret.data.get? "username", secret.data.get? "password" with
      | none, _ => _ | some _, none => _ | some u, some p => _) _
    split <;> rfl

lemma reconcileStatus_ensures (m : Memory) :
    Ensures (reconcileStatus m) fun xs x => x.1 = none →
      (m.cluster.status.defaultUser = some (defaultUserStatus m.cluster) ∧
        m.cluster.status.binding = binding m.cluster) ∨
      ∃ modified reply, ⟨.patchStatus m.cluster modified, reply⟩ ∈ xs ∧
        modified.status.defaultUser = some (defaultUserStatus m.cluster) ∧
        modified.status.binding = binding m.cluster := by
  unfold reconcileStatus
  dsimp only
  split
  · exact fun _ => Or.inl ‹_›
  · rintro (e | c)
    · exact fun h => nomatch h
    · exact fun _ => Or.inr ⟨_, _, List.mem_singleton_self _, rfl, rfl⟩

theorem one_defaultUser_iff (hv : rmq.vaultDefaultUserSecretEnabled = false) :
    (∃ name, OneDefaultUser r rmq name) ↔
      (rmq.externalSecretEnabled = true →
        rmq.spec.secretBackend.externalSecret = rmq.childResourceName "default-user") := by
  have hreference : (defaultUserStatus rmq).secretName = some (rmq.childResourceName "default-user") := by
    simp [defaultUserStatus, hv]
  constructor
  · rintro ⟨name, h⟩ he
    have hb := h.binding
    have hr := h.secretReference
    rw [hreference, Option.some.injEq] at hr
    simp only [binding, hv, he, Bool.false_eq_true, if_false, if_true, Option.some.injEq] at hb
    rw [hb, hr]
  · intro h
    refine ⟨rmq.childResourceName "default-user", fun annotations => ?_, ?_, hreference,
      readDefaultUserCredentials_ensures, ?_⟩
    · rw [volumes_projectedSecrets hv]
      split
      · rw [h ‹_›]
      · rfl
    · cases he : rmq.externalSecretEnabled with
      | true => simp [binding, hv, he, h he]
      | false => simp [binding, hv, he]
    · cases he : rmq.externalSecretEnabled with
      | true => exact Or.inr ⟨rfl, (h he).symm⟩
      | false => exact Or.inl ⟨by simp [resourceBuilders, hv, he], rfl⟩

def externalSecretCluster (name : String) : RabbitmqCluster where
  name := "rabbit"
  ns := "default"
  spec := { secretBackend := { externalSecret := name } }

theorem external_secret_ignored :
    binding (externalSecretCluster "credentials") = some "credentials" ∧
      (defaultUserStatus (externalSecretCluster "credentials")).secretName = some "rabbit-default-user" ∧
      (run server (readDefaultUserCredentials (externalSecretCluster "credentials")) [{}]
        { secrets := fun name => if name = "credentials" then
            some { data := ⟨[("username", "user"), ("password", "pass")]⟩ } else none }).result =
        some (.error (.wrap "failed to get default user secret" (.api .notFound))) ∧
      ∀ r, .child .defaultUserSecret ∉ resourceBuilders r (externalSecretCluster "credentials") := by
  refine ⟨rfl, rfl, rfl, fun r => ?_⟩
  have he : (externalSecretCluster "credentials").externalSecretEnabled = true := rfl
  rw [resourceBuilders, he, Bool.or_true, if_pos rfl]
  split <;> simp

theorem external_secret_shared :
    ∃ name, OneDefaultUser plainReconciler (externalSecretCluster "rabbit-default-user") name :=
  (one_defaultUser_iff rfl).mpr fun _ => rfl

end ClusterOperator.Controller
