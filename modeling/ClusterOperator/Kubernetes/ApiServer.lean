import ClusterOperator.Api.RabbitmqCluster

/-! The API server as a store of one RabbitmqCluster and the objects that belong to it.
Every write takes the next revision, and an object's resource version is the revision
that wrote it. -/

namespace ClusterOperator.Kubernetes

open Api

inductive Kind
  | headlessService
  | service
  | erlangCookie
  | defaultUserSecret
  | pluginsConf
  | serverConf
  | serviceAccount
  | role
  | roleBinding
deriving DecidableEq

inductive ApiError
  | notFound
  | alreadyExists
  | conflict
  | failure (message : String)
deriving DecidableEq

structure Issued (revision version : ℕ) : Prop where
  pos : 0 < version
  le : version ≤ revision

lemma Issued.succ {revision version : ℕ} (h : Issued revision version) : Issued (revision + 1) version :=
  ⟨h.pos, Nat.le_succ_of_le h.le⟩

lemma issued_succ (revision : ℕ) : Issued (revision + 1) (revision + 1) := ⟨Nat.succ_pos _, le_rfl⟩

structure Store where
  revision : ℕ := 0
  cluster : Option RabbitmqCluster := none
  statefulSet : Option StatefulSet := none
  child : Kind → Option DataObject := fun _ => none
  pvc : String → Option PersistentVolumeClaim := fun _ => none
  pods : List Pod := []
  secrets : String → Option DataObject := fun _ => none
  cluster_issued : ∀ c ∈ cluster, Issued revision c.resourceVersion := by simp
  statefulSet_issued : ∀ o ∈ statefulSet, Issued revision o.metadata.resourceVersion := by simp
  child_issued : ∀ k, ∀ o ∈ child k, Issued revision o.metadata.resourceVersion := by simp
  pvc_name : ∀ n, ∀ p ∈ pvc n, p.name = n := by simp

def found {α : Type} : Option α → Except ApiError α
  | none => .error .notFound
  | some a => .ok a

namespace Store

def empty : Store := {}

variable (s : Store)

def putCluster (c : RabbitmqCluster) : Store where
  revision := s.revision + 1
  cluster := some { c with resourceVersion := s.revision + 1 }
  statefulSet := s.statefulSet
  child := s.child
  pvc := s.pvc
  pods := s.pods
  secrets := s.secrets
  cluster_issued := by simp [issued_succ]
  statefulSet_issued o h := (s.statefulSet_issued o h).succ
  child_issued k o h := (s.child_issued k o h).succ
  pvc_name := s.pvc_name

def dropCluster : Store := { s with cluster := none, cluster_issued := by simp }

def putStatefulSet (o : StatefulSet) : Store where
  revision := s.revision + 1
  cluster := s.cluster
  statefulSet := some { o with metadata.resourceVersion := s.revision + 1 }
  child := s.child
  pvc := s.pvc
  pods := s.pods
  secrets := s.secrets
  cluster_issued c h := (s.cluster_issued c h).succ
  statefulSet_issued := by simp [issued_succ]
  child_issued k o h := (s.child_issued k o h).succ
  pvc_name := s.pvc_name

def dropStatefulSet : Store := { s with statefulSet := none, statefulSet_issued := by simp }

def putChild (k : Kind) (o : DataObject) : Store where
  revision := s.revision + 1
  cluster := s.cluster
  statefulSet := s.statefulSet
  child := Function.update s.child k (some { o with metadata.resourceVersion := s.revision + 1 })
  pvc := s.pvc
  pods := s.pods
  secrets := s.secrets
  cluster_issued c h := (s.cluster_issued c h).succ
  statefulSet_issued o h := (s.statefulSet_issued o h).succ
  child_issued j o h := by
    by_cases hj : j = k
    · subst hj
      simp only [Function.update_self, Option.mem_some_iff] at h
      simp [← h, issued_succ]
    · rw [Function.update_of_ne hj] at h
      exact (s.child_issued j o h).succ
  pvc_name := s.pvc_name

def dropChild (k : Kind) : Store :=
  { s with
    child := Function.update s.child k none
    child_issued := by
      intro j o h
      by_cases hj : j = k
      · subst hj
        simp at h
      · rw [Function.update_of_ne hj] at h
        exact s.child_issued j o h }

def setPvc (name : String) (p : Option PersistentVolumeClaim) (hp : ∀ c ∈ p, c.name = name) : Store :=
  { s with
    pvc := Function.update s.pvc name p
    pvc_name := by
      intro n c h
      by_cases hn : n = name
      · subst hn
        rw [Function.update_self] at h
        exact hp c h
      · rw [Function.update_of_ne hn] at h
        exact s.pvc_name n c h }

def putPvc (p : PersistentVolumeClaim) : Store where
  revision := s.revision + 1
  cluster := s.cluster
  statefulSet := s.statefulSet
  child := s.child
  pvc := Function.update s.pvc p.name (some { p with resourceVersion := s.revision + 1 })
  pods := s.pods
  secrets := s.secrets
  cluster_issued c h := (s.cluster_issued c h).succ
  statefulSet_issued o h := (s.statefulSet_issued o h).succ
  child_issued k o h := (s.child_issued k o h).succ
  pvc_name := (s.setPvc p.name (some { p with resourceVersion := s.revision + 1 }) (by simp)).pvc_name

lemma putPvc_pvc_self (p : PersistentVolumeClaim) :
    (s.putPvc p).pvc p.name = some { p with resourceVersion := s.revision + 1 } := by
  simp [putPvc]

lemma putPvc_pvc_of_ne {p : PersistentVolumeClaim} {n : String} (h : n ≠ p.name) :
    (s.putPvc p).pvc n = s.pvc n := by
  simp [putPvc, h]

def versionedCreation : ApiError :=
  .failure "resourceVersion should not be set on objects to be created"

def createCluster (c : RabbitmqCluster) : Except ApiError RabbitmqCluster × Store :=
  match s.cluster with
  | some _ => (.error .alreadyExists, s)
  | none =>
    if c.resourceVersion = 0 then
      let s' := s.putCluster { c with generation := 1, deletionTimestamp := false, status := {} }
      (found s'.cluster, s')
    else (.error versionedCreation, s)

def updateCluster (c : RabbitmqCluster) : Except ApiError RabbitmqCluster × Store :=
  match s.cluster with
  | none => (.error .notFound, s)
  | some stored =>
    if c.resourceVersion = stored.resourceVersion then
      let s' := s.putCluster (c.onto stored)
      -- the last finalizer of an object that is being deleted
      if stored.deletionTimestamp = true ∧ c.finalizers = [] then (found s'.cluster, s'.dropCluster)
      else (found s'.cluster, s')
    else (.error .conflict, s)

def patchStatus (base modified : RabbitmqCluster) : Except ApiError RabbitmqCluster × Store :=
  match s.cluster with
  | none => (.error .notFound, s)
  | some stored =>
    -- A merge patch carries no resource version.
    let s' := s.putCluster { stored with status := .patch base.status modified.status stored.status }
    (found s'.cluster, s')

def createStatefulSet (o : StatefulSet) : Except ApiError StatefulSet × Store :=
  match s.statefulSet with
  | some _ => (.error .alreadyExists, s)
  | none =>
    if o.metadata.resourceVersion = 0 then
      let s' := s.putStatefulSet { o with metadata.deletionTimestamp := false, status := {} }
      (found s'.statefulSet, s')
    else (.error versionedCreation, s)

def updateStatefulSet (o : StatefulSet) : Except ApiError StatefulSet × Store :=
  match s.statefulSet with
  | none => (.error .notFound, s)
  | some stored =>
    if o.metadata.resourceVersion = stored.metadata.resourceVersion then
      let s' := s.putStatefulSet
        { o with metadata.deletionTimestamp := stored.metadata.deletionTimestamp, status := stored.status }
      (found s'.statefulSet, s')
    else (.error .conflict, s)

def deleteStatefulSet : Except ApiError Unit × Store :=
  match s.statefulSet with
  | none => (.error .notFound, s)
  -- The orphan policy: the object stays until the garbage collector is done.
  | some stored => (.ok (), s.putStatefulSet { stored with metadata.deletionTimestamp := true })

def createChild (k : Kind) (o : DataObject) : Except ApiError DataObject × Store :=
  match s.child k with
  | some _ => (.error .alreadyExists, s)
  | none =>
    if o.metadata.resourceVersion = 0 then (found ((s.putChild k o).child k), s.putChild k o)
    else (.error versionedCreation, s)

def updateChild (k : Kind) (o : DataObject) : Except ApiError DataObject × Store :=
  match s.child k with
  | none => (.error .notFound, s)
  | some stored =>
    if o.metadata.resourceVersion = stored.metadata.resourceVersion then
      (found ((s.putChild k o).child k), s.putChild k o)
    else (.error .conflict, s)

def deleteChild (k : Kind) : Except ApiError Unit × Store :=
  match s.child k with
  | none => (.error .notFound, s)
  | some _ => (.ok (), s.dropChild k)

def updatePvc (p : PersistentVolumeClaim) : Except ApiError PersistentVolumeClaim × Store :=
  match s.pvc p.name with
  | none => (.error .notFound, s)
  | some stored =>
    if p.resourceVersion = stored.resourceVersion then
      (found ((s.putPvc p).pvc p.name), s.putPvc p)
    else (.error .conflict, s)

def updatePod (p : Pod) : Except ApiError Unit × Store :=
  if p.name ∈ s.pods.map Pod.name then
    (.ok (), { s with pods := s.pods.map (fun q => if q.name = p.name then p else q) })
  else (.error .notFound, s)

end Store

/-- What other clients and the controllers of Kubernetes do. They leave the children alone, and of a
StatefulSet they write the status only. -/
inductive Edit
  | createCluster (c : RabbitmqCluster)
  | setSpec (spec : RabbitmqClusterSpec)
  | setMetadata (labels annotations : StringMap)
  | setStatus (status : RabbitmqClusterStatus)
  | deleteCluster
  | removeFinalizer (finalizer : String)
  | setStatefulSetStatus (status : StatefulSetStatus)
  | collect
  | setPvc (name : String) (storage : Option Quantity)
  | setPods (pods : List Pod)
  | setSecret (name : String) (secret : Option DataObject)

namespace Edit

def onCluster (s : Store) (f : RabbitmqCluster → RabbitmqCluster) : Store :=
  match s.cluster with
  | none => s
  | some c => s.putCluster (f c)

/-- An object that is being deleted is gone once it has no finalizers. -/
def settleDeletion (s : Store) : Store :=
  match s.cluster with
  | none => s
  | some c => if c.deletionTimestamp = true ∧ c.finalizers = [] then s.dropCluster else s

def apply (s : Store) : Edit → Store
  | createCluster c => (s.createCluster { c with resourceVersion := 0 }).2
  | setSpec spec => onCluster s fun c =>
      { c with spec, generation := if spec = c.spec then c.generation else c.generation + 1 }
  | setMetadata labels annotations => onCluster s fun c => { c with labels, annotations }
  | setStatus status => onCluster s fun c => { c with status }
  | deleteCluster => settleDeletion (onCluster s fun c => { c with deletionTimestamp := true })
  | removeFinalizer f =>
      settleDeletion (onCluster s fun c => { c with finalizers := c.finalizers.filter (· ≠ f) })
  | setStatefulSetStatus status =>
      match s.statefulSet with
      | none => s
      | some o => s.putStatefulSet { o with status }
  | collect =>
      match s.statefulSet with
      | none => s
      | some o => if o.metadata.deletionTimestamp = true then s.dropStatefulSet else s
  | setPvc name none => s.setPvc name none (by simp)
  | setPvc name (some storage) => s.putPvc { name, storage }
  | setPods pods => { s with pods }
  | setSecret name secret => { s with secrets := Function.update s.secrets name secret }

end Edit

end ClusterOperator.Kubernetes
