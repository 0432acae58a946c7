import ClusterOperator.Controller.SpecFrame
import ClusterOperator.Interaction.Obligation
import ClusterOperator.Resource.PodUpdate
import ClusterOperator.Resource.VaultAnnotations
import Mathlib.Data.Fintype.Defs

/-! Changes of the two ConfigMaps that running nodes are told about: for the configuration they
are restarted, and for the plugins a command is run. The change is marked in the ConfigMap. -/

namespace ClusterOperator.Controller

open Api Kubernetes Interaction Resource

inductive Config
  | plugins
  | server
deriving DecidableEq

instance : Fintype Config := ⟨{.plugins, .server}, fun c => by cases c <;> simp⟩

namespace Config

def kind : Config → Kind
  | plugins => .pluginsConf
  | server => .serverConf

def key : Config → String
  | plugins => pluginsUpdateAnnotation
  | server => serverConfAnnotation

end Config

def contents (o : DataObject) : DataObject :=
  { o with metadata.resourceVersion := 0, metadata.annotations := {} }

lemma eq_of_contents {o o' : DataObject} (h : contents o = contents o')
    (hversion : o.metadata.resourceVersion = o'.metadata.resourceVersion)
    (hannotations : o.metadata.annotations = o'.metadata.annotations) : o = o' := by
  have hrestore (o : DataObject) : o = { contents o with
      metadata.resourceVersion := o.metadata.resourceVersion
      metadata.annotations := o.metadata.annotations } := rfl
  rw [hrestore o, h, hversion, hannotations, ← hrestore o']

def restartedAt (sts : StatefulSet) : Option String := sts.template.annotations.get? stsRestartAnnotation

def setsPlugins : (q : Request) → Reply q → Bool
  | .exec _ command, .ok _ => hasPrefix "rabbitmq-plugins set " command
  | _, _ => false

namespace Config

variable (ini : Ini) (c : Config) (e : Event api Store)

/-- For the server, the difference is one that requires a restart. -/
def Differs (o o' : DataObject) : Prop :=
  match c with
  | plugins => contents o ≠ contents o'
  | server => removeConfigNotRequiringNodeRestart ini (contents o) ≠
      removeConfigNotRequiringNodeRestart ini (contents o')

instance (o o' : DataObject) : Decidable (c.Differs ini o o') := by
  cases c <;> unfold Differs <;> infer_instance

def Changed : Prop := ∃ o ∈ e.before.child c.kind, ∃ o' ∈ e.after.child c.kind, c.Differs ini o o'

def Marked : Prop :=
  ∃ o ∈ e.before.child c.kind, ∃ o' ∈ e.after.child c.kind,
    o.metadata.resourceVersion ≠ o'.metadata.resourceVersion ∧ contents o = contents o' ∧
      (o'.metadata.annotations.get? c.key).isSome = true

/-- The nodes are told: the time of the last restart in the pod template moves on, or the
command is run. -/
def Applied : Prop :=
  match c with
  | plugins => setsPlugins e.request e.reply = true
  | server => ∃ o ∈ e.before.statefulSet, ∃ o' ∈ e.after.statefulSet,
      ∃ t ∈ restartedAt o', ∀ x ∈ restartedAt o, x < t

instance : Decidable (c.Changed ini e) := by unfold Changed; infer_instance
instance : Decidable (c.Marked e) := by unfold Marked; infer_instance
instance : Decidable (c.Applied e) := by cases c <;> unfold Applied <;> infer_instance

end Config

/-- The time of the last restart is left to the operator. -/
structure Untouched (rmq : RabbitmqCluster) : Prop where
  vault : ∀ vault ∈ rmq.spec.secretBackend.vault, vault.annotations.get? stsRestartAnnotation = none
  override : (metadataOverride rmq).annotations.get? stsRestartAnnotation = none

structure Usable (rmq : RabbitmqCluster) : Prop extends Untouched rmq where
  replicas : rmq.spec.replicas ≠ 0

instance (rmq : RabbitmqCluster) : Decidable (Untouched rmq) :=
  decidable_of_iff ((∀ vault ∈ rmq.spec.secretBackend.vault, vault.annotations.get? stsRestartAnnotation = none) ∧
      (metadataOverride rmq).annotations.get? stsRestartAnnotation = none)
    ⟨fun h => ⟨h.1, h.2⟩, fun h => ⟨h.vault, h.override⟩⟩

instance (rmq : RabbitmqCluster) : Decidable (Usable rmq) :=
  decidable_of_iff (Untouched rmq ∧ rmq.spec.replicas ≠ 0) ⟨fun h => ⟨h.1, h.2⟩, fun h => ⟨h.toUntouched, h.replicas⟩⟩

def reading : (q : Request) → Reply q → Option String
  | .now, t => some t
  | _, _ => none

structure Fair (e : Event api Store) : Prop where
  clock : ∀ t ∈ reading e.request e.reply, t ≠ "" ∧ ∀ o ∈ e.before.statefulSet, ∀ x ∈ restartedAt o, x < t
  cluster : ∀ rmq ∈ replyCluster e.request e.reply, Usable rmq

section Builder

variable {r : Reconciler} {rmq rmq' : RabbitmqCluster}

lemma Untouched.inPlace {spec : RabbitmqClusterSpec} (h : Untouched rmq) (hs : InPlace r rmq.spec spec) :
    Untouched { rmq with spec } := by
  have hmodify (f : StatefulSetSpecOverride → StatefulSetSpecOverride)
      (hf : ∀ o, (f o).template.bind PodTemplateOverride.metadata = o.template.bind PodTemplateOverride.metadata) :
      metadataOverride { rmq with spec := modifyOverride f rmq.spec } = metadataOverride rmq := by
    rcases ho : rmq.spec.statefulSetOverride with _ | ⟨metadata, _ | o⟩ <;>
      simp [metadataOverride, templateOverride, statefulSetSpecOverride, modifyOverride, ho, hf]
  cases hs with
  | sanitize =>
    refine ⟨h.vault, ?_⟩
    rw [sanitizeOverride, hmodify]
    · exact h.override
    · intro o
      cases ho : o.template <;> simp [sanitizeTemplate, ho]
  | raise =>
    refine ⟨h.vault, ?_⟩
    rw [raiseClaims, hmodify]
    · exact h.override
    · exact fun _ => rfl
  | image => exact ⟨h.vault, h.override⟩
  | updaterImage =>
    refine ⟨fun vault hvault => ?_, h.override⟩
    obtain ⟨v, hv, rfl⟩ := Option.map_eq_some_iff.mp hvault
    exact h.vault v hv

lemma Untouched.stems (h : Untouched rmq) (hs : Stems r rmq rmq') : Untouched rmq' := by
  have hspec : ∀ spec, Relation.ReflTransGen (InPlace r) rmq.spec spec → Untouched { rmq with spec } := by
    intro spec hspec
    induction hspec with
    | refl => exact h
    | tail _ hs ih => exact ih.inPlace hs
  have h' := hspec _ hs.spec
  exact ⟨h'.vault, h'.override⟩

lemma InPlace.replicas {spec spec' : RabbitmqClusterSpec} (h : InPlace r spec spec') :
    spec'.replicas = spec.replicas := by
  cases h <;> rfl

lemma Usable.stems (h : Usable rmq) (hs : Stems r rmq rmq') : Usable rmq' := by
  have hreplicas : ∀ spec, Relation.ReflTransGen (InPlace r) rmq.spec spec → spec.replicas = rmq.spec.replicas := by
    intro spec hspec
    induction hspec with
    | refl => rfl
    | tail _ hs ih => exact hs.replicas.trans ih
  exact ⟨h.toUntouched.stems hs, hreplicas _ hs.spec ▸ h.replicas⟩

lemma commonVaultAnnotations_restart (vault : VaultSpec) :
    ∀ e ∈ (commonVaultAnnotations vault).entries, e.1 ≠ stsRestartAnnotation := by
  have hdefault : ∀ e ∈ (vaultDefaultUserAnnotations vault).entries, e.1 ≠ stsRestartAnnotation := by
    simp [vaultDefaultUserAnnotations, stsRestartAnnotation]
  have hbase : ∀ e ∈ (StringMap.mk [("vault.hashicorp.com/agent-inject", "true"),
      ("vault.hashicorp.com/agent-init-first", "true"), ("vault.hashicorp.com/role", vault.role)]).entries,
      e.1 ≠ stsRestartAnnotation := by
    unfold stsRestartAnnotation
    simp
  unfold commonVaultAnnotations
  dsimp only
  split
  · exact fun e he => (StringMap.mem_merge he).elim (hbase e) (hdefault e)
  · exact hbase

lemma defaultPodAnnotations_restart (h : Untouched rmq) :
    (defaultPodAnnotations rmq).get? stsRestartAnnotation = none := by
  unfold defaultPodAnnotations
  split
  · rfl
  · rename_i vault hvault
    have htls : ∀ e ∈ (vaultTLSAnnotations rmq vault).entries, e.1 ≠ stsRestartAnnotation := by
      simp [vaultTLSAnnotations, stsRestartAnnotation]
    rw [appendVaultAnnotations_eq, StringMap.get?_merge, StringMap.lastEntry_eq_none_iff.mpr (h.vault vault hvault),
      Option.none_or, StringMap.get?_merge_of_absent]
    · rfl
    · split
      · exact fun e he => (StringMap.mem_merge he).elim (commonVaultAnnotations_restart vault e) (htls e)
      · exact commonVaultAnnotations_restart vault

lemma restartedAt_update {merge : StrategicMergePatch} {sts out : StatefulSet} (h : Untouched rmq)
    (hout : StatefulSetBuilder.update rmq merge sts = .ok out) : restartedAt out = restartedAt sts := by
  obtain ⟨rest, -, hrest⟩ := StatefulSetBuilder.update_eq_ok rmq merge sts
  obtain ⟨spec, metadata, -, -, rfl⟩ := (hrest out).mp hout
  have hdefault := StringMap.lastEntry_eq_none_iff.mpr (defaultPodAnnotations_restart h)
  have hoverride := StringMap.lastEntry_eq_none_iff.mpr h.override
  change ((sts.template.annotations.merge (defaultPodAnnotations rmq)).merge
    (metadataOverride rmq).annotations).get? stsRestartAnnotation = _
  rw [StringMap.get?_merge, StringMap.get?_merge, hoverride, hdefault]
  rfl

end Builder

end ClusterOperator.Controller
