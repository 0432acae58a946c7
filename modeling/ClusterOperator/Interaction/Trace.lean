import ClusterOperator.Interaction.Execution

/-! What an execution that comes to an end has done: a condition on the result, on the state
it ends in and on the events along the way. -/

namespace ClusterOperator.Interaction

variable {I : Interface} {S T α β : Type}

/-- Whenever `p` returns, `Q` holds of the result, the final state and the trace. -/
def Leads (srv : Server I S T) (p : Program I α) (Q : α → S → List (Event I S) → Prop) (s : S) : Prop :=
  match p with
  | .done a => Q a s []
  | .send r next => ∀ t, Leads srv (next (srv.event t r s).reply)
      (fun a s' es => Q a s' (srv.event t r s :: es)) (srv.event t r s).after

variable {srv : Server I S T} {p : Program I α} {Q R : α → S → List (Event I S) → Prop} {s : S}

namespace Leads

lemma mono (hp : Leads srv p Q s) (h : ∀ a s es, Q a s es → R a s es) : Leads srv p R s := by
  induction p generalizing Q R s with
  | done a => exact h a s [] hp
  | send r next ih => exact fun t => ih _ (hp t) fun a s es => h a s _

lemma bind {f : α → Program I β} {R : β → S → List (Event I S) → Prop} (hp : Leads srv p Q s)
    (hf : ∀ a s es, Q a s es → Leads srv (f a) (fun b s' es' => R b s' (es ++ es')) s) :
    Leads srv (p >>= f) R s := by
  induction p generalizing Q R s with
  | done a => exact hf a s [] hp
  | send r next ih => exact fun t => ih _ (hp t) fun a s es => hf a s _

lemma of_events {J : S → Prop} (hJ : ∀ t r s, J s → J (srv.event t r s).after) (hs : J s) :
    Leads srv p (fun _ s' _ => J s') s := by
  induction p generalizing s with
  | done a => exact hs
  | send r next ih => exact fun t => ih _ (hJ t r s hs)

theorem sound (hp : Leads srv p Q s) {ts : List T} {a : α} (h : (run srv p ts s).result = some a) :
    Q a (run srv p ts s).final (run srv p ts s).trace := by
  induction p generalizing Q ts s with
  | done b =>
    rw [run_done, Option.some.injEq] at h
    subst h
    rw [run_done]
    exact hp
  | send r next ih =>
    cases ts with
    | nil => cases h
    | cons t ts => exact ih _ (hp t) h

end Leads

end ClusterOperator.Interaction
