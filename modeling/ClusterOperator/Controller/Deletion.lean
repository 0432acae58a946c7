import ClusterOperator.Controller.ReconcileConduct
import ClusterOperator.Kubernetes.Replies

namespace ClusterOperator.Controller

open Api Kubernetes Interaction Resource

variable {r : Reconciler}

lemma expects_of_pos {g : History} {q : Request} {reply : Reply q}
    (h : ∀ o, replyStatefulSet q reply = some o → 0 < o.metadata.resourceVersion) :
    (protocol r).expects g q reply := by
  cases q with
  | getStatefulSet => cases reply with
    | error e => trivial
    | ok o => exact h o rfl
  | createStatefulSet d => cases reply with
    | error e => trivial
    | ok o => exact h o rfl
  | updateStatefulSet d => cases reply with
    | error e => trivial
    | ok o => exact h o rfl
  | _ => trivial

lemma expects_event (t : Turn) (q : Request) (s : Store) (g : History) :
    (protocol r).expects g q (server.event t q s).reply :=
  expects_of_pos fun _ => serve_statefulSet_pos

/-- Whenever Reconcile reads a cluster again that it saw being deleted, the cluster is there. -/
def Outlasts (r : Reconciler) (es : List (Event api Store)) : Prop :=
  (protocol r).Along (fun g e => e.request = .getCluster →
    g.received.getLast?.any (fun c => c.deletionTimestamp) = true → e.before.cluster ≠ none) {} es

structure Uncreated (e : Event api Store) : Prop where
  request : ∀ c, e.request ≠ .createCluster c
  gone : e.before.cluster = none → e.after.cluster = none

lemma uncreated_event {t : Turn} {q : Request} {s : Store} (hq : ∀ c, q ≠ .createCluster c) :
    Uncreated (server.event t q s) := by
  refine ⟨hq, fun hnone => ?_⟩
  rcases serve_written t q (server.disturb t s) with h | h
  · exact (congrArg Store.cluster h).trans hnone
  · exact h.cluster_eq_none hq hnone

lemma record_gone {g : History} {q : Request} (reply : Reply q) (hq : q ≠ .getCluster) :
    (g.record q reply).gone = g.gone := by
  cases q with
  | getCluster => exact absurd rfl hq
  | createCluster c => cases reply <;> rfl
  | updateCluster c => cases reply <;> rfl
  | patchStatus base modified => cases reply <;> rfl
  | getChild k => cases k <;> rfl
  | _ => rfl

lemma getCluster_gone {t : Turn} {s : Store} {g : History} (hg : g.gone = false)
    (h : g.received.getLast?.any (fun c => c.deletionTimestamp) = true → (server.disturb t s).cluster ≠ none) :
    ((protocol r).observe g (server.event t .getCluster s)).gone = false := by
  change (g.record .getCluster (serve t .getCluster (server.disturb t s)).1).gone = false
  rcases serve_getCluster t (server.disturb t s) with hs | ⟨e, he, hs⟩
  · rw [hs]
    cases hc : (server.disturb t s).cluster with
    | none =>
      have hlast : g.received.getLast?.any (fun c => c.deletionTimestamp) = false :=
        Bool.eq_false_iff.mpr fun hlast => h hlast hc
      simp [found, History.record, History.miss, History.tick, hg, hlast]
    | some c => exact hg
  · rw [hs]
    cases e with
    | notFound => exact absurd rfl he
    | _ => exact hg

theorem reconcile_creates_no_cluster (r : Reconciler) (ts : List Turn) (s : Store)
    (h : Outlasts r (run server (reconcile r) ts s).trace) :
    ∀ e ∈ (run server (reconcile r) ts s).trace, Uncreated e := by
  refine Protocol.along_const.mp (reconcile_follows.sound (J := fun _ g => g.gone = false)
    (fun t q s g hallows hg hA => ?_) rfl ts h).1
  have hcreate (c : RabbitmqCluster) : q ≠ .createCluster c := by
    rintro rfl
    exact absurd hallows.1 (by simp [hg])
  refine ⟨uncreated_event hcreate, expects_event t q s g, ?_⟩
  by_cases hq : q = .getCluster
  · subst hq
    exact getCluster_gone hg (hA rfl)
  · exact (record_gone _ hq).trans hg

def plainIni : Ini where
  load text := .ok ((text.toList.splitOn '\n').foldl (fun m line =>
    match line.splitOn '=' with
    | [key, value] => m.set (String.ofList (trim key)) (String.ofList (trim value))
    | _ => m) {})
  write m := m.entries.foldl (fun text e => text ++ e.1 ++ " = " ++ e.2 ++ "\n") ""
where
  trim (cs : List Char) : List Char :=
    ((cs.dropWhile Char.isWhitespace).reverse.dropWhile Char.isWhitespace).reverse

def plainReconciler : Reconciler where
  merge := strategicMergePatch
  ini := plainIni
  peerDiscoveryWithoutRBAC _ := false
  build _ _ _ := .ok {}
  update _ rmq o := controlled rmq
    { o with
      metadata.labels := getLabels rmq.name rmq.labels
      metadata.annotations := reconcileAndFilterAnnotations o.metadata.annotations rmq.annotations }

def deletedStore : Store :=
  Store.empty.putCluster
    { name := "rabbit", ns := "default", generation := 1
      deletionTimestamp := true, finalizers := [deletionFinalizer] }

def finalizing (edits : List Edit) : Outcome api Store (Result × Option Memory) :=
  run server (reconcile plainReconciler)
    [{}, {}, {}, { secondsSince := some 3 }, { edits }, {}] deletedStore

theorem deletion_undone :
    ∃ e ∈ (finalizing [.removeFinalizer deletionFinalizer]).trace,
      e.before.cluster = none ∧ e.after.cluster ≠ none := by
  decide

theorem deletion_finished :
    Outlasts plainReconciler (finalizing []).trace ∧ ∀ e ∈ (finalizing []).trace, Uncreated e := by
  have h : Outlasts plainReconciler (finalizing []).trace :=
    ⟨fun _ h => absurd h (by decide), by rintro ⟨⟩, by rintro ⟨⟩, by rintro ⟨⟩, fun _ _ => by decide,
      by rintro ⟨⟩, trivial⟩
  exact ⟨h, reconcile_creates_no_cluster _ _ _ h⟩

end ClusterOperator.Controller
