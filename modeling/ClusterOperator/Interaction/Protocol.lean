import ClusterOperator.Interaction.Contract

/-! Protocols that a client follows. The state of a protocol is a history variable: every
request moves it on together with its reply. What the client does is checked against all
replies that the protocol expects, so one proof serves for every server that gives no others. -/

namespace ClusterOperator.Interaction

structure Protocol (I : Interface) (G : Type) where
  allows : G → I.Request → Prop
  expects : G → (r : I.Request) → I.Reply r → Prop
  next : G → (r : I.Request) → I.Reply r → G

variable {I : Interface} {S T G α β : Type}

namespace Protocol

variable (P : Protocol I G)

def observe (g : G) (e : Event I S) : G := P.next g e.request e.reply

/-- `E` holds of every event of the trace, in the state that the protocol is in before it. -/
def Along (E : G → Event I S → Prop) : G → List (Event I S) → Prop
  | _, [] => True
  | g, e :: es => E g e ∧ Along E (P.observe g e) es

variable {P}

lemma along_append {E : G → Event I S → Prop} {g : G} {es es' : List (Event I S)} :
    P.Along E g (es ++ es') ↔ P.Along E g es ∧ P.Along E (es.foldl P.observe g) es' := by
  induction es generalizing g with
  | nil => simp [Along]
  | cons e es ih => simp only [List.cons_append, Along, ih, List.foldl_cons, and_assoc]

lemma along_const {E : Event I S → Prop} {g : G} {es : List (Event I S)} :
    P.Along (fun _ => E) g es ↔ ∀ e ∈ es, E e := by
  induction es generalizing g with
  | nil => simp [Along]
  | cons e es ih => simp only [Along, ih, List.forall_mem_cons]

end Protocol

def Follows (P : Protocol I G) (p : Program I α) (Q : α → G → Prop) (g : G) : Prop :=
  match p with
  | .done a => Q a g
  | .send r next => P.allows g r ∧
      ∀ reply, P.expects g r reply → Follows P (next reply) Q (P.next g r reply)

variable {P : Protocol I G} {p : Program I α} {Q Q' : α → G → Prop} {g : G}

@[simp] lemma follows_done {a : α} : Follows P (.done a) Q g ↔ Q a g := Iff.rfl

namespace Follows

lemma bind {f : α → Program I β} {R : β → G → Prop} (hp : Follows P p Q g)
    (hf : ∀ a g, Q a g → Follows P (f a) R g) : Follows P (p >>= f) R g := by
  induction p generalizing g with
  | done a => exact hf a g hp
  | send r next ih => exact ⟨hp.1, fun reply h => ih reply (hp.2 reply h)⟩

lemma post (hp : Follows P p Q g) (hQ : ∀ a g, Q a g → Q' a g) : Follows P p Q' g := by
  induction p generalizing g with
  | done a => exact hQ a g hp
  | send r next ih => exact ⟨hp.1, fun reply h => ih reply (hp.2 reply h)⟩

lemma of_sends {R : I.Request → Prop} {K : G → Prop} (hp : p.Sends R) (hallows : ∀ g r, R r → P.allows g r)
    (hnext : ∀ g r reply, R r → K g → K (P.next g r reply)) (hg : K g) :
    Follows P p (fun _ g => K g) g := by
  induction p generalizing g with
  | done a => exact hg
  | send r next ih =>
    exact ⟨hallows g r hp.1, fun reply _ => ih reply (hp.2 reply) (hnext g r reply hp.1 hg)⟩

variable {srv : Server I S T} {J : S → G → Prop} {A E : G → Event I S → Prop}

/-- The rule for executions: allowed requests, served one at a time, keep the relation `J`
between the state of the server and the state of the protocol. -/
theorem sound (hp : Follows P p Q g)
    (hstep : ∀ t r s g, P.allows g r → J s g → A g (srv.event t r s) →
      E g (srv.event t r s) ∧ P.expects g r (srv.event t r s).reply ∧
        J (srv.event t r s).after (P.observe g (srv.event t r s)))
    {s : S} (hs : J s g) (ts : List T) (hA : P.Along A g (run srv p ts s).trace) :
    P.Along E g (run srv p ts s).trace ∧
      J (run srv p ts s).final ((run srv p ts s).trace.foldl P.observe g) ∧
      ∀ a, (run srv p ts s).result = some a → Q a ((run srv p ts s).trace.foldl P.observe g) := by
  induction p generalizing ts s g with
  | done a =>
    rw [run_done] at *
    exact ⟨trivial, hs, fun b hb => Option.some.inj hb ▸ hp⟩
  | send r next ih =>
    cases ts with
    | nil => exact ⟨trivial, hs, fun a ha => nomatch ha⟩
    | cons t ts =>
      rw [run_send_cons] at hA ⊢
      obtain ⟨hE, hexpects, hJ⟩ := hstep t r s g hp.1 hs hA.1
      obtain ⟨htrace, hfinal, hresult⟩ := ih _ (hp.2 _ hexpects) hJ ts hA.2
      exact ⟨⟨hE, htrace⟩, hfinal, hresult⟩

lemma meets {H : Type} {note : H → Event I S → H} {f : H → G} {A : Event I (S × H) → Prop} {s : S} {g : H}
    (hp : Follows P p Q (f g)) (hnote : ∀ g e, f (note g e) = P.observe (f g) e)
    (hexpects : ∀ t r s g, P.expects g r (srv.event t r s).reply) :
    Meets (srv.track note) A (fun _ => True) p (fun a x => Q a (f x.2)) (s, g) := by
  induction p generalizing s g with
  | done a => exact hp
  | send r next ih =>
    refine fun t _ => ⟨trivial, ih _ ?_⟩
    rw [hnote]
    exact hp.2 _ (hexpects t r s _)

lemma meets_both {H : Type} {note : H → Event I S → H} {f : H → G} {A E : Event I (S × H) → Prop}
    {R : α → S × H → Prop} {x : S × H} (hp : Follows P p Q (f x.2)) (hmeets : Meets (srv.track note) A E p R x)
    (hnote : ∀ g e, f (note g e) = P.observe (f g) e)
    (hexpects : ∀ t r s g, P.expects g r (srv.event t r s).reply) :
    Meets (srv.track note) A E p (fun a x' => R a x' ∧ Q a (f x'.2)) x :=
  (hmeets.both (hp.meets hnote hexpects)).mono (fun _ h => h) (fun _ _ h => h.1) fun _ _ h => h

theorem sound_rounds (hp : ∀ g, Follows P p Q g)
    (hstep : ∀ t r s g, P.allows g r → J s g → A g (srv.event t r s) →
      E g (srv.event t r s) ∧ P.expects g r (srv.event t r s).reply ∧
        J (srv.event t r s).after (P.observe g (srv.event t r s)))
    {s : S} (hs : J s g) (tss : List (List T))
    (hA : P.Along A g ((rounds srv p tss s).flatMap Outcome.trace)) :
    P.Along E g ((rounds srv p tss s).flatMap Outcome.trace) := by
  induction tss generalizing s g with
  | nil => trivial
  | cons ts tss ih =>
    simp only [rounds, List.flatMap_cons, Protocol.along_append] at hA ⊢
    obtain ⟨htrace, hJ, -⟩ := (hp g).sound hstep hs ts hA.1
    exact ⟨htrace, ih hJ hA.2⟩

end Follows

end ClusterOperator.Interaction
