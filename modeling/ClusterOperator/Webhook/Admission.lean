import ClusterOperator.Controller.Stages
import ClusterOperator.Webhook.PodSpecOverride

/-! Admission of a RabbitmqCluster: the defaults are set and the result is validated. Reconcile
writes nothing that admission would refuse or change. -/

namespace ClusterOperator.Webhook

open Api Kubernetes Interaction Resource Controller

/-- The object under admission. Its pull secrets are not read by anything else here. -/
@[ext] structure Admission where
  cluster : RabbitmqCluster
  imagePullSecrets : Option (List String)
deriving DecidableEq

structure Defaulter where
  defaultRabbitmqImage : String := ""
  defaultImagePullSecrets : String := ""
  defaultUserUpdaterImage : String := ""

namespace Defaulter

variable (d : Defaulter)

def defaultSpec (spec : RabbitmqClusterSpec) : RabbitmqClusterSpec :=
  { spec with
    image := if spec.image = "" then d.defaultRabbitmqImage else spec.image
    secretBackend := { spec.secretBackend with
      vault := spec.secretBackend.vault.map fun v =>
        if v.defaultUserUpdaterImage = none then
          { v with defaultUserUpdaterImage := some d.defaultUserUpdaterImage }
        else v } }

def pullSecrets : Option (List String) :=
  match ((d.defaultImagePullSecrets.toList.splitOn ',').map String.ofList).filter (· ≠ "") with
  -- References are appended one by one; without any the list stays nil.
  | [] => none
  | refs => some refs

def default (a : Admission) : Admission where
  cluster := { a.cluster with spec := d.defaultSpec a.cluster.spec }
  imagePullSecrets :=
    if a.imagePullSecrets = none ∧ d.defaultImagePullSecrets ≠ "" then d.pullSecrets else a.imagePullSecrets

/-- `Default`, then `ValidateCreate` or `ValidateUpdate`. -/
def review (a : Admission) : Except Invalid Admission :=
  match validatePodSpecOverride (d.default a).cluster with
  | none => .ok (d.default a)
  | some invalid => .error invalid

end Defaulter

variable {d : Defaulter}

structure Defaulted (d : Defaulter) (spec : RabbitmqClusterSpec) : Prop where
  image : spec.image = "" → d.defaultRabbitmqImage = ""
  updaterImage : ∀ v ∈ spec.secretBackend.vault, v.defaultUserUpdaterImage ≠ none

lemma defaulted_defaultSpec (d : Defaulter) (spec : RabbitmqClusterSpec) : Defaulted d (d.defaultSpec spec) := by
  constructor
  · intro himage
    simp only [Defaulter.defaultSpec] at himage
    split at himage
    · exact himage
    · contradiction
  · intro v hv
    obtain ⟨w, -, rfl⟩ := Option.map_eq_some_iff.mp hv
    split
    · simp
    · assumption

lemma defaultSpec_eq_self {spec : RabbitmqClusterSpec} : d.defaultSpec spec = spec ↔ Defaulted d spec := by
  refine ⟨fun h => h ▸ defaulted_defaultSpec d spec, fun h => ?_⟩
  have himage : (if spec.image = "" then d.defaultRabbitmqImage else spec.image) = spec.image := by
    split
    · rename_i hempty
      rw [h.image hempty, hempty]
    · rfl
  have hvault : spec.secretBackend.vault.map (fun v => if v.defaultUserUpdaterImage = none then
      { v with defaultUserUpdaterImage := some d.defaultUserUpdaterImage } else v) = spec.secretBackend.vault := by
    cases hv : spec.secretBackend.vault with
    | none => rfl
    | some v => exact congrArg some (if_neg (h.updaterImage v hv))
  rw [Defaulter.defaultSpec, himage, hvault]

section Reconcile

variable {r : Reconciler} {pull : Option (List String)} {spec spec' : RabbitmqClusterSpec}

structure Passes (d : Defaulter) (spec : RabbitmqClusterSpec) : Prop where
  defaulted : Defaulted d spec
  accepted : ∀ podSpec ∈ podSpecOverride { spec }, Accepted podSpec

lemma review_eq_self {c : RabbitmqCluster} :
    d.review ⟨c, pull⟩ = .ok ⟨c, pull⟩ ↔ Passes d c.spec ∧ (d.default ⟨c, pull⟩).imagePullSecrets = pull := by
  constructor
  · intro h
    unfold Defaulter.review at h
    split at h
    · rename_i hvalid
      obtain ⟨hcluster, hpull⟩ := Admission.mk.inj (Except.ok.inj h)
      have hspec : d.defaultSpec c.spec = c.spec := congrArg RabbitmqCluster.spec hcluster
      rw [validatePodSpecOverride_eq_none] at hvalid
      refine ⟨⟨defaultSpec_eq_self.mp hspec, fun podSpec hpodSpec => hvalid podSpec ?_⟩, hpull⟩
      exact (congrArg (fun spec => podSpecOverride { spec }) hspec).trans hpodSpec
    · cases h
  · rintro ⟨⟨hdefaulted, haccepted⟩, hpull⟩
    have hdefault : d.default ⟨c, pull⟩ = ⟨c, pull⟩ := by
      have hspec := defaultSpec_eq_self.mpr hdefaulted
      exact Admission.ext (congrArg (fun spec => { c with spec }) hspec) hpull
    have hvalid : validatePodSpecOverride c = none := validatePodSpecOverride_eq_none.mpr haccepted
    simp only [Defaulter.review, hdefault, hvalid]

lemma podSpecOverride_raiseClaims (spec : RabbitmqClusterSpec) :
    podSpecOverride { spec := raiseClaims spec } = podSpecOverride { spec } := by
  rcases ho : spec.statefulSetOverride with _ | ⟨_, _ | _⟩ <;>
    simp [podSpecOverride, templateOverride, statefulSetSpecOverride, raiseClaims, modifyOverride, ho]

def defaulterOf (r : Reconciler) (defaultImagePullSecrets : String) : Defaulter where
  defaultRabbitmqImage := r.defaultRabbitmqImage
  defaultImagePullSecrets := defaultImagePullSecrets
  defaultUserUpdaterImage := r.defaultUserUpdaterImage

lemma Passes.inPlace {secrets : String} (h : Passes (defaulterOf r secrets) spec) (hs : InPlace r spec spec') :
    Passes (defaulterOf r secrets) spec' := by
  obtain ⟨hdefaulted, haccepted⟩ := h
  cases hs with
  | sanitize =>
    refine ⟨⟨hdefaulted.image, hdefaulted.updaterImage⟩, fun podSpec hpodSpec => ?_⟩
    have hsanitized := podSpecOverride_sanitizeOverride { spec }
    rw [show podSpecOverride { spec := sanitizeOverride spec } = _ from hsanitized] at hpodSpec
    obtain ⟨p, -, rfl⟩ := Option.map_eq_some_iff.mp hpodSpec
    exact sanitizePodSpecOverride_accepted p
  | raise =>
    refine ⟨⟨hdefaulted.image, hdefaulted.updaterImage⟩, fun podSpec hpodSpec => haccepted podSpec ?_⟩
    rwa [podSpecOverride_raiseClaims] at hpodSpec
  | image => exact ⟨⟨fun h => h, hdefaulted.updaterImage⟩, haccepted⟩
  | updaterImage =>
    refine ⟨⟨hdefaulted.image, fun v hv => ?_⟩, haccepted⟩
    obtain ⟨w, -, rfl⟩ := Option.map_eq_some_iff.mp hv
    simp

def Admits (r : Reconciler) (secrets : String) (pull : Option (List String)) (c : RabbitmqCluster) : Prop :=
  (defaulterOf r secrets).review ⟨c, pull⟩ = .ok ⟨c, pull⟩

lemma Admits.of_passes {secrets : String} {v c : RabbitmqCluster} (h : Admits r secrets pull v)
    (hc : Passes (defaulterOf r secrets) v.spec → Passes (defaulterOf r secrets) c.spec) :
    Admits r secrets pull c := by
  obtain ⟨hpasses, hpull⟩ := review_eq_self.mp h
  exact review_eq_self.mpr ⟨hc hpasses, hpull⟩

lemma Admits.stems {secrets : String} {v c : RabbitmqCluster} (h : Admits r secrets pull v) (hc : Stems r v c) :
    Admits r secrets pull c := by
  refine h.of_passes fun hpasses => ?_
  obtain ⟨-, -, hspec⟩ := hc
  generalize c.spec = spec at hspec
  induction hspec with
  | refl => exact hpasses
  | tail _ hstep ih => exact ih.inPlace hstep

end Reconcile

end ClusterOperator.Webhook
