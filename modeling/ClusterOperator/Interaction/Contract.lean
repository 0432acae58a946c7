import ClusterOperator.Interaction.Execution

/-! Assume-guarantee contracts of programs. `Meets srv A E p Q s`: in every execution
of `p` from `s`, as long as every event satisfies the assumption `A`, every event
satisfies the guarantee `E`, and a result that is returned satisfies `Q`. -/

namespace ClusterOperator.Interaction

variable {I : Interface} {S T G α β : Type}

def Meets (srv : Server I S T) (A E : Event I S → Prop) (p : Program I α)
    (Q : α → S → Prop) (s : S) : Prop :=
  match p with
  | .done a => Q a s
  | .send r next => ∀ t, A (srv.event t r s) →
      E (srv.event t r s) ∧ Meets srv A E (next (srv.event t r s).reply) Q (srv.event t r s).after

variable {srv : Server I S T} {A A' E E' : Event I S → Prop} {p : Program I α}
  {Q Q' : α → S → Prop} {s : S}

@[simp] lemma meets_done (a : α) : Meets srv A E (.done a) Q s ↔ Q a s := Iff.rfl

namespace Meets

lemma bind {f : α → Program I β} {R : β → S → Prop} (hp : Meets srv A E p Q s)
    (hf : ∀ a s, Q a s → Meets srv A E (f a) R s) : Meets srv A E (p >>= f) R s := by
  induction p generalizing s with
  | done a => exact hf a s hp
  | send r next ih => exact fun t ht => ⟨(hp t ht).1, ih _ (hp t ht).2⟩

lemma mono (hp : Meets srv A E p Q s) (hA : ∀ e, A' e → A e) (hE : ∀ e, A' e → E e → E' e)
    (hQ : ∀ a s, Q a s → Q' a s) : Meets srv A' E' p Q' s := by
  induction p generalizing s with
  | done a => exact hQ a s hp
  | send r next ih =>
    intro t ht
    have h := hp t (hA _ ht)
    exact ⟨hE _ ht h.1, ih _ h.2⟩

lemma post (hp : Meets srv A E p Q s) (hQ : ∀ a s, Q a s → Q' a s) : Meets srv A E p Q' s :=
  hp.mono (fun _ h => h) (fun _ _ h => h) hQ

lemma both (hp : Meets srv A E p Q s) (hp' : Meets srv A E' p Q' s) :
    Meets srv A (fun e => E e ∧ E' e) p (fun a s => Q a s ∧ Q' a s) s := by
  induction p generalizing s with
  | done a => exact ⟨hp, hp'⟩
  | send r next ih =>
    exact fun t ht => ⟨⟨(hp t ht).1, (hp' t ht).1⟩, ih _ (hp t ht).2 (hp' t ht).2⟩

/-- The invariant rule: it is enough to look at one request at a time. -/
lemma of_sends {P : I.Request → Prop} {J : S → Prop} (hp : p.Sends P)
    (hstep : ∀ t r s, P r → J s → A (srv.event t r s) →
      E (srv.event t r s) ∧ J (srv.event t r s).after) (hs : J s) :
    Meets srv A E p (fun _ s => J s) s := by
  induction p generalizing s with
  | done a => exact hs
  | send r next ih =>
    intro t ht
    have h := hstep t r s hp.1 hs ht
    exact ⟨h.1, ih _ (hp.2 _) h.2⟩

lemma keeps {J : S → Prop} (hp : Meets srv A E p Q s)
    (hJ : ∀ t r s, J s → A (srv.event t r s) → E (srv.event t r s) → J (srv.event t r s).after) (hs : J s) :
    Meets srv A E p (fun a s => Q a s ∧ J s) s := by
  induction p generalizing s with
  | done a => exact ⟨hp, hs⟩
  | send r next ih =>
    intro t ht
    have h := hp t ht
    exact ⟨h.1, ih _ h.2 (hJ t r s hs ht h.1)⟩

lemma restrict {P : T → Prop} (hp : Meets srv A E p Q s) : Meets (srv.restrict P) A E p Q s := by
  induction p generalizing s with
  | done a => exact hp
  | send r next ih => exact fun t ht => ⟨(hp t.1 ht).1, ih _ (hp t.1 ht).2⟩

lemma restrict_mono {P P' : T → Prop} (h : ∀ t, P' t → P t) (hp : Meets (srv.restrict P) A E p Q s) :
    Meets (srv.restrict P') A E p Q s := by
  induction p generalizing s with
  | done a => exact hp
  | send r next ih =>
    exact fun t ht => ⟨(hp ⟨t.1, h _ t.2⟩ ht).1, ih _ (hp ⟨t.1, h _ t.2⟩ ht).2⟩

theorem sound (hp : Meets srv A E p Q s) (ts : List T)
    (hA : ∀ e ∈ (run srv p ts s).trace, A e) :
    (∀ e ∈ (run srv p ts s).trace, E e) ∧
      ∀ a, (run srv p ts s).result = some a → Q a (run srv p ts s).final := by
  induction p generalizing ts s with
  | done a => simpa using hp
  | send r next ih =>
    cases ts with
    | nil => simp
    | cons t ts =>
      rw [run_send_cons] at hA ⊢
      have h := hp t (hA _ List.mem_cons_self)
      have hh := ih _ h.2 ts (fun e he => hA e (List.mem_cons_of_mem _ he))
      refine ⟨?_, hh.2⟩
      intro e he
      rcases List.mem_cons.mp he with rfl | he
      · exact h.1
      · exact hh.1 e he

lemma preserved {J : S → Prop} (hp : Meets srv A E p Q s)
    (hJ : ∀ t r s, J s → E (srv.event t r s) → J (srv.event t r s).after) (hs : J s) (ts : List T)
    (hA : ∀ e ∈ (run srv p ts s).trace, A e) : J (run srv p ts s).final := by
  induction p generalizing ts s with
  | done a => simpa using hs
  | send r next ih =>
    cases ts with
    | nil => exact hs
    | cons t ts =>
      have h := hp t (hA _ List.mem_cons_self)
      exact ih _ h.2 (hJ t r s hs h.1) ts fun e he => hA e (List.mem_cons_of_mem _ he)

lemma invariant {J : S → Prop} (hp : Meets srv (fun _ => True) E p Q s)
    (hJ : ∀ t r s, J s → E (srv.event t r s) → J (srv.event t r s).after) (hs : J s) (ts : List T) :
    J (run srv p ts s).final :=
  hp.preserved hJ hs ts fun _ _ => trivial

lemma final {J : S → Prop} (hp : Meets srv A E p Q s) (hJ : ∀ e, E e → J e.after) (hs : J s) (ts : List T)
    (hA : ∀ e ∈ (run srv p ts s).trace, A e) : J (run srv p ts s).final :=
  hp.preserved (fun _ _ _ _ he => hJ _ he) hs ts hA

lemma complete (hp : Meets srv (fun _ => True) E p Q s) (t : T) :
    Q (Interaction.complete srv t p s).1 (Interaction.complete srv t p s).2 := by
  obtain ⟨n, hresult, hfinal⟩ := complete_eq_run srv t p s
  exact hfinal ▸ (hp.sound (List.replicate n t) fun _ _ => trivial).2 _ hresult

end Meets

end ClusterOperator.Interaction
