import ClusterOperator.Interaction.Protocol

/-! What a program ensures whatever the server is: a condition on its result and on the
requests it has sent, with the replies it was given. -/

namespace ClusterOperator.Interaction

variable {I : Interface} {S T α β : Type}

abbrev Exchange (I : Interface) := (r : I.Request) × I.Reply r

def Event.exchange (e : Event I S) : Exchange I := ⟨e.request, e.reply⟩

def Ensures (p : Program I α) (Q : List (Exchange I) → α → Prop) : Prop :=
  match p with
  | .done a => Q [] a
  | .send r next => ∀ reply, Ensures (next reply) fun xs a => Q (⟨r, reply⟩ :: xs) a

variable {p : Program I α} {Q R : List (Exchange I) → α → Prop}

@[simp] lemma ensures_done {a : α} : Ensures (.done a) Q ↔ Q [] a := Iff.rfl

lemma ensures_trivial (p : Program I α) : Ensures p fun _ _ => True := by
  induction p with
  | done a => trivial
  | send r next ih => exact ih

lemma Ensures.mono (hp : Ensures p Q) (h : ∀ xs a, Q xs a → R xs a) : Ensures p R := by
  induction p generalizing Q R with
  | done a => exact h [] a hp
  | send r next ih => exact fun reply => ih reply (hp reply) fun xs a => h _ a

lemma Ensures.bind {f : α → Program I β} {R : List (Exchange I) → β → Prop} (hp : Ensures p Q)
    (hf : ∀ xs a, Q xs a → Ensures (f a) fun ys b => R (xs ++ ys) b) : Ensures (p >>= f) R := by
  induction p generalizing Q R with
  | done a => exact hf [] a hp
  | send r next ih => exact fun reply => ih reply (hp reply) fun xs a ha => hf _ a ha

lemma Ensures.of_sends {P : I.Request → Prop} (hp : p.Sends P) : Ensures p fun xs _ => ∀ x ∈ xs, P x.1 := by
  induction p with
  | done a => exact fun x hx => absurd hx List.not_mem_nil
  | send r next ih =>
    exact fun reply => (ih reply (hp.2 reply)).mono fun xs a h => List.forall_mem_cons.mpr ⟨hp.1, h⟩

theorem Ensures.sound {srv : Server I S T} {ts : List T} {s : S} {a : α} (hp : Ensures p Q)
    (h : (run srv p ts s).result = some a) : Q ((run srv p ts s).trace.map Event.exchange) a := by
  induction p generalizing Q ts s with
  | done b =>
    rw [run_done, Option.some.injEq] at h
    subst h
    rw [run_done]
    exact hp
  | send r next ih =>
    cases ts with
    | nil => cases h
    | cons t ts => exact ih _ (hp _) h

section Logging

variable {G : Type}

/-- The same protocol with a record of the exchanges. -/
def Protocol.logging (P : Protocol I G) : Protocol I (G × List (Exchange I)) where
  allows g := P.allows g.1
  expects g := P.expects g.1
  next g r reply := (P.next g.1 r reply, g.2 ++ [⟨r, reply⟩])

variable {P : Protocol I G}

lemma Protocol.foldl_logging (es : List (Event I S)) (g : G) (xs : List (Exchange I)) :
    es.foldl P.logging.observe (g, xs) = (es.foldl P.observe g, xs ++ es.map Event.exchange) := by
  induction es generalizing g xs with
  | nil => simp
  | cons e es ih =>
    rw [List.foldl_cons, List.foldl_cons, List.map_cons, List.append_cons]
    exact ih (P.observe g e) (xs ++ [e.exchange])

lemma Follows.logging {K : α → G → Prop} {g : G × List (Exchange I)} (hp : Follows P p K g.1) (h : Ensures p Q) :
    Follows P.logging p (fun a g' => K a g'.1 ∧ ∃ xs, g'.2 = g.2 ++ xs ∧ Q xs a) g := by
  induction p generalizing g Q with
  | done a => exact ⟨hp, [], (List.append_nil _).symm, h⟩
  | send r next ih =>
    refine ⟨hp.1, fun reply hreply => ?_⟩
    refine (ih reply (g := P.logging.next g r reply) (hp.2 reply hreply) (h reply)).post ?_
    rintro a g' ⟨hK, xs, hxs, hQ⟩
    exact ⟨hK, ⟨r, reply⟩ :: xs, hxs.trans (List.append_cons ..).symm, hQ⟩

end Logging

def Admits (p : Program I α) (Q : List (Exchange I) → α → Prop) : Prop :=
  match p with
  | .done a => Q [] a
  | .send r next => ∃ reply, Admits (next reply) fun xs a => Q (⟨r, reply⟩ :: xs) a

@[simp] lemma admits_done {a : α} : Admits (.done a) Q ↔ Q [] a := Iff.rfl

lemma Admits.mono (hp : Admits p Q) (h : ∀ xs a, Q xs a → R xs a) : Admits p R := by
  induction p generalizing Q R with
  | done a => exact h [] a hp
  | send r next ih =>
    obtain ⟨reply, hp⟩ := hp
    exact ⟨reply, ih reply hp fun xs a => h _ a⟩

lemma Admits.bind {f : α → Program I β} {R : List (Exchange I) → β → Prop} (hp : Admits p Q)
    (hf : ∀ xs a, Q xs a → Admits (f a) fun ys b => R (xs ++ ys) b) : Admits (p >>= f) R := by
  induction p generalizing Q R with
  | done a => exact hf [] a hp
  | send r next ih =>
    obtain ⟨reply, h⟩ := hp
    exact ⟨reply, ih reply h fun xs a ha => hf _ a ha⟩

lemma Admits.meet (hp : Admits p Q) (h : Ensures p R) : ∃ xs a, Q xs a ∧ R xs a := by
  induction p generalizing Q R with
  | done a => exact ⟨[], a, hp, h⟩
  | send r next ih =>
    obtain ⟨reply, hp⟩ := hp
    obtain ⟨xs, a, hxs⟩ := ih reply hp (h reply)
    exact ⟨_, a, hxs⟩

end ClusterOperator.Interaction
