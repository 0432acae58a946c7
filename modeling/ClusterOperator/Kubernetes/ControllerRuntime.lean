import ClusterOperator.Interaction.Trace
import ClusterOperator.Kubernetes.Client

namespace ClusterOperator.Kubernetes

open Interaction

inductive Err
  | api (e : ApiError)
  | text (message : String)
  | wrap (message : String) (cause : Err)
deriving DecidableEq

def ApiError.message : ApiError → String
  | notFound => "not found"
  | alreadyExists => "already exists"
  | conflict => "the object has been modified; please apply your changes to the latest version and try again"
  | failure message => message

namespace Err

def message : Err → String
  | api e => e.message
  | text m => m
  | wrap m cause => m ++ ": " ++ cause.message

/-- The reason of an API error is seen through the texts that wrap it. -/
def is (e : ApiError) : Err → Bool
  | api e' => e' = e
  | text _ => false
  | wrap _ cause => cause.is e

def isNotFound : Err → Bool := is .notFound

def isConflict : Err → Bool := is .conflict

end Err

lemma bind_eq_ok {ε α β : Type} {x : Except ε α} {f : α → Except ε β} {b : β} :
    (x >>= f) = .ok b ↔ ∃ a, x = .ok a ∧ f a = .ok b := by
  cases x with
  | error e => exact ⟨nofun, fun ⟨a, h, _⟩ => nomatch h⟩
  | ok a => exact ⟨fun h => ⟨a, rfl, h⟩, by rintro ⟨_, ⟨⟩, h⟩; exact h⟩

lemma mapError_eq_ok {ε ε' α : Type} {x : Except ε α} {f : ε → ε'} {a : α} :
    x.mapError f = .ok a ↔ x = .ok a := by
  cases x <;> simp [Except.mapError]

lemma map_eq_ok {ε α β : Type} {x : Except ε α} {f : α → β} {b : β} :
    x.map f = .ok b ↔ ∃ a, x = .ok a ∧ f a = b := by
  cases x <;> simp [Except.map]

def ignoreNotFound (err : Option Err) : Option Err := err.filter (fun e => !e.isNotFound)

/-- `retry.OnError`: at most `n + 1` attempts, another one only after a retriable error.
What an attempt does to the objects in memory is kept for the next one. -/
def onError {I : Interface} {σ : Type} (retriable : Err → Bool)
    (attempt : σ → Program I (Option Err × σ)) : ℕ → σ → Program I (Option Err × σ)
  | 0, x => attempt x
  | n + 1, x => do
    match ← attempt x with
    | (none, x) => return (none, x)
    | (some err, x) => if retriable err then onError retriable attempt n x else return (some err, x)

section Attempts

variable {I : Interface} {S T σ : Type} {srv : Server I S T} {A E : Event I S → Prop} {retriable : Err → Bool}
  {attempt : σ → Program I (Option Err × σ)} {K : σ → S → Prop}

lemma meets_onError_last {P : Option Err × σ → S → Prop}
    (h : ∀ x s, K x s → Meets srv A E (attempt x)
      (fun y s => P y s ∧ ∀ err, y.1 = some err → retriable err = true → K y.2 s) s)
    (n : ℕ) {x : σ} {s : S} (hx : K x s) : Meets srv A E (onError retriable attempt n x) P s := by
  induction n generalizing x s with
  | zero => exact (h x s hx).post fun _ _ hy => hy.1
  | succ n ih =>
    refine (h x s hx).bind fun y s hy => ?_
    rcases y with ⟨_ | err, y⟩
    · exact hy.1
    · dsimp only
      split
      · exact ih (hy.2 err rfl ‹_›)
      · exact hy.1

lemma meets_onError {L : σ → S → Prop}
    (h : ∀ x s, K x s → Meets srv A E (attempt x) (fun y s => match y with
      | (none, y) => L y s
      | (some err, y) => retriable err = true → K y s) s) (n : ℕ) {x : σ} {s : S} (hx : K x s) :
    Meets srv A E (onError retriable attempt n x) (fun y s => y.1 = none → L y.2 s) s := by
  refine meets_onError_last (fun x s hx => (h x s hx).post fun y s hy => ?_) n hx
  rcases y with ⟨_ | err, y⟩
  · exact ⟨fun _ => hy, nofun⟩
  · exact ⟨nofun, fun _ he => Option.some.inj he ▸ hy⟩

end Attempts

lemma leads_onError {I : Interface} {S T σ : Type} {srv : Server I S T} {retriable : Err → Bool}
    {attempt : σ → Program I (Option Err × σ)} {L M : List (Event I S) → Prop}
    (hL : ∀ es es', M es → L es' → L (es ++ es')) (hM : ∀ es es', M es → M es' → M (es ++ es'))
    (h : ∀ x s, Leads srv (attempt x) (fun y _ es => (y.1 = none → L es) ∧ (y.1 ≠ none → M es)) s)
    (n : ℕ) (x : σ) (s : S) :
    Leads srv (onError retriable attempt n x)
      (fun y _ es => (y.1 = none → L es) ∧ (y.1 ≠ none → M es)) s := by
  induction n generalizing x s with
  | zero => exact h x s
  | succ n ih =>
    refine (h x s).bind fun y s es hy => ?_
    rcases y with ⟨_ | err, y⟩
    · simpa [Leads] using hy
    · have hes : M es := hy.2 nofun
      dsimp only
      split
      · exact (ih y s).mono fun z _ es' hz => ⟨fun hn => hL _ _ hes (hz.1 hn), fun hn => hM _ _ hes (hz.2 hn)⟩
      · simpa [Leads] using hes

/-- `retry.DefaultRetry` has 5 steps. -/
def defaultRetry : ℕ := 4

def retryOnConflict {I : Interface} {σ : Type} (attempt : σ → Program I (Option Err × σ)) (x : σ) :
    Program I (Option Err × σ) :=
  onError Err.isConflict attempt defaultRetry x

inductive OperationResult
  | none
  | created
  | updated
deriving DecidableEq

structure Resource (α : Type) where
  get : Operation (Except ApiError α)
  create : α → Operation (Except ApiError α)
  update : α → Operation (Except ApiError α)
  annotations : α → StringMap
  setAnnotations : α → StringMap → α

namespace Client

def clusters : Resource Api.RabbitmqCluster where
  get := getCluster
  create := createCluster
  update := updateCluster
  annotations c := c.annotations
  setAnnotations c a := { c with annotations := a }

def statefulSets : Resource StatefulSet where
  get := getStatefulSet
  create := createStatefulSet
  update := updateStatefulSet
  annotations o := o.metadata.annotations
  setAnnotations o a := { o with metadata.annotations := a }

def children (k : Kind) : Resource DataObject where
  get := getChild k
  create := createChild k
  update := updateChild k
  annotations o := o.metadata.annotations
  setAnnotations o a := { o with metadata.annotations := a }

end Client

section CreateOrUpdate

variable {α σ : Type} (client : Resource α)

def createMutated (obj : α) : σ × Except Err α → Operation (Except Err OperationResult × α × σ)
  | (m, .error err) => return (.error err, obj, m)
  | (m, .ok obj) => do
    match ← client.create obj with
    | .error e => return (.error (.api e), obj, m)
    | .ok obj => return (.ok .created, obj, m)

def updateMutated [DecidableEq α] (existing : α) :
    σ × Except Err α → Operation (Except Err OperationResult × α × σ)
  | (m, .error err) => return (.error err, existing, m)
  | (m, .ok obj) => do
    if obj = existing then return (.ok .none, obj, m)
    else
      match ← client.update obj with
      | .error e => return (.error (.api e), obj, m)
      | .ok obj => return (.ok .updated, obj, m)

/-- `controllerutil.CreateOrUpdate`. The mutating function also works on the memory of the
caller; its first argument says whether the object has been overwritten by the one stored. -/
def createOrUpdate [DecidableEq α] (mutate : Bool → σ → α → σ × Except Err α) (m : σ) (obj : α) :
    Operation (Except Err OperationResult × α × σ) := do
  match ← client.get with
  | .error .notFound => createMutated client obj (mutate false m obj)
  | .error e => return (.error (.api e), obj, m)
  | .ok existing => updateMutated client existing (mutate true m existing)

end CreateOrUpdate

end ClusterOperator.Kubernetes
