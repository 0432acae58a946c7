import ClusterOperator.Interaction.Rounds

/-! Two clients of one store, their requests in any order. Each has a program that it executes
again and again. -/

namespace ClusterOperator.Interaction

/-- A client sends its next request, or it gives up and begins anew. -/
inductive Move (T U : Type)
  | first (t : T)
  | second (u : U)
  | restartFirst
  | restartSecond

variable {I J : Interface} {S T U α β : Type}

def Program.resume (p : Program I α) : Program I α → Program I α
  | .done _ => p
  | .send r next => .send r next

/-- The events, when `x` and `y` are left of the executions of `p` and `q`. -/
def interleave (srv : Server I S T) (other : Server J S U) (p : Program I α) (q : Program J β)
    (x : Program I α) (y : Program J β) : List (Move T U) → S → List (Event I S ⊕ Event J S)
  | [], _ => []
  | .restartFirst :: moves, s => interleave srv other p q p y moves s
  | .restartSecond :: moves, s => interleave srv other p q x q moves s
  | .first t :: moves, s =>
    match p.resume x with
    | .done _ => interleave srv other p q x y moves s
    | .send r next =>
      .inl (srv.event t r s) ::
        interleave srv other p q (next (srv.event t r s).reply) y moves (srv.event t r s).after
  | .second u :: moves, s =>
    match q.resume y with
    | .done _ => interleave srv other p q x y moves s
    | .send r next =>
      .inr (other.event u r s) ::
        interleave srv other p q x (next (other.event u r s).reply) moves (other.event u r s).after

def firsts (es : List (Event I S ⊕ Event J S)) : List (Event I S) := es.filterMap Sum.getLeft?

def seconds (es : List (Event I S ⊕ Event J S)) : List (Event J S) := es.filterMap Sum.getRight?

section Alone

variable {srv : Server I S T} {p x : Program I α} {s s' : S} {es : List (Event I S)}

def Alone (srv : Server I S T) (p x : Program I α) (s : S) (es : List (Event I S)) : Prop :=
  ∃ ts tss, es = (run srv x ts s).trace ++ (rounds srv p tss (run srv x ts s).final).flatMap Outcome.trace

lemma run_nil (srv : Server I S T) (x : Program I α) (s : S) :
    (run srv x [] s).trace = [] ∧ (run srv x [] s).final = s := by
  cases x with
  | done a => exact ⟨rfl, rfl⟩
  | send r next => exact ⟨rfl, rfl⟩

lemma alone_nil : Alone srv p x s [] := by
  refine ⟨[], [], ?_⟩
  rw [(run_nil srv x s).1]
  rfl

lemma Alone.restart (h : Alone srv p p s es) : Alone srv p x s es := by
  obtain ⟨ts, tss, rfl⟩ := h
  refine ⟨[], ts :: tss, ?_⟩
  rw [(run_nil srv x s).1, (run_nil srv x s).2, rounds, List.flatMap_cons, List.nil_append]

lemma Alone.send {r : I.Request} {next : I.Reply r → Program I α} {t : T}
    (h : Alone srv p (next (srv.event t r s).reply) (srv.event t r s).after es) :
    Alone srv p (.send r next) s (srv.event t r s :: es) := by
  obtain ⟨ts, tss, rfl⟩ := h
  exact ⟨t :: ts, tss, rfl⟩

lemma Alone.resume (h : Alone srv p (p.resume x) s es) : Alone srv p x s es := by
  cases x with
  | done a => exact h.restart
  | send r next => exact h

def Absorbs (srv : Server I S T) (s s' : S) : Prop :=
  ∀ t, ∃ t₀, srv.disturb t₀ s = srv.disturb t s' ∧ srv.serve t₀ = srv.serve t

lemma run_absorb (h : Absorbs srv s s') (x : Program I α) (ts : List T) :
    ∃ ts', (run srv x ts' s).trace = (run srv x ts s').trace ∧
      ((run srv x ts' s).final = (run srv x ts s').final ∨
        (run srv x ts' s).final = s ∧ (run srv x ts s').final = s') := by
  cases x with
  | done a => exact ⟨[], by simp, Or.inr (by simp)⟩
  | send r next =>
    cases ts with
    | nil => exact ⟨[], rfl, Or.inr ⟨rfl, rfl⟩⟩
    | cons t ts =>
      obtain ⟨t₀, hdisturb, hserve⟩ := h t
      have hrun : run srv (.send r next) (t₀ :: ts) s = run srv (.send r next) (t :: ts) s' := by
        simp only [run, Server.event, hdisturb, hserve]
      exact ⟨t₀ :: ts, by rw [hrun], Or.inl (by rw [hrun])⟩

lemma rounds_absorb (h : Absorbs srv s s') (p : Program I α) (tss : List (List T)) :
    ∃ tss', (rounds srv p tss' s).flatMap Outcome.trace = (rounds srv p tss s').flatMap Outcome.trace := by
  induction tss with
  | nil => exact ⟨[], rfl⟩
  | cons ts tss ih =>
    obtain ⟨ts', htrace, hfinal | ⟨hs, hs'⟩⟩ := run_absorb h p ts
    · refine ⟨ts' :: tss, ?_⟩
      rw [rounds, rounds, List.flatMap_cons, List.flatMap_cons, htrace, hfinal]
    · obtain ⟨tss', htss'⟩ := ih
      refine ⟨ts' :: tss', ?_⟩
      rw [rounds, rounds, List.flatMap_cons, List.flatMap_cons, htrace, hs, hs', htss']

lemma Alone.absorb (hs : Absorbs srv s s') (h : Alone srv p x s' es) : Alone srv p x s es := by
  obtain ⟨ts, tss, rfl⟩ := h
  obtain ⟨ts', htrace, hfinal | ⟨hs₁, hs₂⟩⟩ := run_absorb hs x ts
  · exact ⟨ts', tss, by rw [htrace, hfinal]⟩
  · obtain ⟨tss', htss'⟩ := rounds_absorb hs p tss
    exact ⟨ts', tss', by rw [htrace, hs₁, hs₂, htss']⟩

lemma Alone.rounds (h : Alone srv p p s es) :
    ∃ tss, es = (Interaction.rounds srv p tss s).flatMap Outcome.trace := by
  obtain ⟨ts, tss, rfl⟩ := h
  exact ⟨ts :: tss, by rw [Interaction.rounds, List.flatMap_cons]⟩

end Alone

def Server.Within (srv : Server I S T) {T' : Type} (wide : Server I S T') : Prop :=
  ∀ t s, ∃ t', wide.disturb t' s = srv.disturb t s ∧ wide.serve t' = srv.serve t

def Server.exposed (srv : Server I S T) : Server I S (T × (S → S)) where
  disturb t s := srv.disturb t.1 (t.2 s)
  serve t := srv.serve t.1

lemma Server.within_self (srv : Server I S T) : srv.Within srv := fun t _ => ⟨t, rfl, rfl⟩

lemma Server.within_exposed (srv : Server I S T) : srv.Within srv.exposed := fun t _ => ⟨(t, id), rfl, rfl⟩

lemma Server.exposed_absorbs (srv : Server I S T) (s s' : S) : Absorbs srv.exposed s s' :=
  fun t => ⟨(t.1, fun _ => t.2 s'), rfl, rfl⟩

section Projections

variable {T' U' : Type} {srv : Server I S T} {other : Server J S U} {wide : Server I S T'} {wide' : Server J S U'}
  {p x : Program I α} {q y : Program J β}

lemma Alone.within {s : S} {r : I.Request} {next : I.Reply r → Program I α} {t : T} {es : List (Event I S)}
    (hwide : srv.Within wide) (h : Alone wide p (next (srv.event t r s).reply) (srv.event t r s).after es) :
    Alone wide p (.send r next) s (srv.event t r s :: es) := by
  obtain ⟨t', hdisturb, hserve⟩ := hwide t s
  simp only [Server.event, ← hdisturb, ← hserve] at h ⊢
  exact Alone.send h

lemma firsts_alone (hwide : srv.Within wide) (habsorb : ∀ u r s, Absorbs wide s (other.event u r s).after)
    (moves : List (Move T U)) (s : S) : Alone wide p x s (firsts (interleave srv other p q x y moves s)) := by
  induction moves generalizing x y s with
  | nil => exact alone_nil
  | cons move moves ih =>
    cases move with
    | restartFirst => exact (ih _).restart
    | restartSecond => exact ih _
    | first t =>
      rw [interleave]
      cases hx : p.resume x with
      | done a => exact ih _
      | send r next =>
        refine Alone.resume ?_
        rw [hx]
        exact Alone.within hwide (ih _)
    | second u =>
      rw [interleave]
      cases q.resume y with
      | done b => exact ih _
      | send r next => exact (ih _).absorb (habsorb u r s)

lemma seconds_alone (hwide : other.Within wide') (habsorb : ∀ t r s, Absorbs wide' s (srv.event t r s).after)
    (moves : List (Move T U)) (s : S) : Alone wide' q y s (seconds (interleave srv other p q x y moves s)) := by
  induction moves generalizing x y s with
  | nil => exact alone_nil
  | cons move moves ih =>
    cases move with
    | restartFirst => exact ih _
    | restartSecond => exact (ih _).restart
    | first t =>
      rw [interleave]
      cases p.resume x with
      | done a => exact ih _
      | send r next => exact (ih _).absorb (habsorb t r s)
    | second u =>
      rw [interleave]
      cases hy : q.resume y with
      | done b => exact ih _
      | send r next =>
        refine Alone.resume ?_
        rw [hy]
        exact Alone.within hwide (ih _)

section Exposed

variable (srv : Server I S T) (other : Server J S U) (p : Program I α) (q : Program J β)

lemma firsts_exposed (moves : List (Move T U)) (s : S) :
    ∃ tss, firsts (interleave srv other p q p q moves s) = (rounds srv.exposed p tss s).flatMap Outcome.trace :=
  Alone.rounds (firsts_alone srv.within_exposed (fun _ _ _ => srv.exposed_absorbs _ _) moves s)

lemma seconds_exposed (moves : List (Move T U)) (s : S) :
    ∃ tss, seconds (interleave srv other p q p q moves s) = (rounds other.exposed q tss s).flatMap Outcome.trace :=
  Alone.rounds (seconds_alone other.within_exposed (fun _ _ _ => other.exposed_absorbs _ _) moves s)

end Exposed

end Projections

end ClusterOperator.Interaction
