import Mathlib.Tactic

/-! Programs of a client that talks to a server. A program is the tree of the
requests it sends; what it does next depends on the reply. -/

namespace ClusterOperator.Interaction

structure Interface where
  Request : Type
  Reply : Request → Type

inductive Program (I : Interface) (α : Type) : Type
  | done (a : α) : Program I α
  | send (r : I.Request) (next : I.Reply r → Program I α) : Program I α

namespace Program

variable {I : Interface} {α β : Type}

def bind (p : Program I α) (f : α → Program I β) : Program I β :=
  match p with
  | .done a => f a
  | .send r next => .send r (fun a => (next a).bind f)

instance : Monad (Program I) where
  pure := .done
  bind := bind

def request (r : I.Request) : Program I (I.Reply r) := .send r .done

@[simp] lemma pure_eq (a : α) : (pure a : Program I α) = .done a := rfl

@[simp] lemma done_bind (a : α) (f : α → Program I β) : (Program.done a >>= f) = f a := rfl

@[simp] lemma send_bind (r : I.Request) (next : I.Reply r → Program I α) (f : α → Program I β) :
    (Program.send r next >>= f) = .send r (fun a => next a >>= f) := rfl

@[simp] lemma request_bind (r : I.Request) (f : I.Reply r → Program I β) :
    (request r >>= f) = .send r f := rfl

lemma bind_done (p : Program I α) : p >>= Program.done = p := by
  induction p with
  | done a => rfl
  | send r next ih => exact congrArg (send r) (funext ih)

lemma bind_assoc {γ : Type} (p : Program I α) (f : α → Program I β) (g : β → Program I γ) :
    (p >>= f >>= g) = p >>= fun a => f a >>= g := by
  induction p with
  | done a => rfl
  | send r next ih => exact congrArg (Program.send r) (funext ih)

/-- Every request the program can send, whatever the replies, satisfies `P`. -/
def Sends (P : I.Request → Prop) : Program I α → Prop
  | .done _ => True
  | .send r next => P r ∧ ∀ a, (next a).Sends P

lemma Sends.mono {P P' : I.Request → Prop} {p : Program I α} (hp : p.Sends P) (h : ∀ r, P r → P' r) :
    p.Sends P' := by
  induction p with
  | done a => trivial
  | send r next ih => exact ⟨h r hp.1, fun a => ih a (hp.2 a)⟩

lemma Sends.bind {P : I.Request → Prop} {p : Program I α} {f : α → Program I β}
    (hp : p.Sends P) (hf : ∀ a, (f a).Sends P) : (p >>= f).Sends P := by
  induction p with
  | done a => exact hf a
  | send r next ih => exact ⟨hp.1, fun a => ih a (hp.2 a)⟩

def Yields (P : I.Request → Prop) (Q : α → Prop) : Program I α → Prop
  | .done a => Q a
  | .send r next => P r ∧ ∀ a, (next a).Yields P Q

namespace Yields

variable {P : I.Request → Prop} {Q : α → Prop} {p : Program I α}

lemma bind {f : α → Program I β} {R : β → Prop} (hp : p.Yields P Q)
    (hf : ∀ a, Q a → (f a).Yields P R) : (p >>= f).Yields P R := by
  induction p with
  | done a => exact hf a hp
  | send r next ih => exact ⟨hp.1, fun a => ih a (hp.2 a)⟩

lemma sends (hp : p.Yields P Q) : p.Sends P := by
  induction p with
  | done a => trivial
  | send r next ih => exact ⟨hp.1, fun a => ih a (hp.2 a)⟩

end Yields

lemma Sends.yields {P : I.Request → Prop} {p : Program I α} (hp : p.Sends P) :
    p.Yields P fun _ => True := by
  induction p with
  | done a => trivial
  | send r next ih => exact ⟨hp.1, fun a => ih a (hp.2 a)⟩

end Program

end ClusterOperator.Interaction
