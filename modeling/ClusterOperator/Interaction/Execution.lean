import ClusterOperator.Interaction.Program

/-! Executions of a client's program against a server. The environment takes a
turn at every request: it may change the server's state behind the client's back
and it decides how the request is served. A schedule is the list of its turns; a
client whose schedule is used up has stopped between two requests. -/

namespace ClusterOperator.Interaction

structure Server (I : Interface) (S T : Type) where
  disturb : T → S → S
  serve : T → (r : I.Request) → S → I.Reply r × S

/-- One served request, with the states right before and right after it. -/
structure Event (I : Interface) (S : Type) where
  before : S
  request : I.Request
  reply : I.Reply request
  after : S

structure Outcome (I : Interface) (S α : Type) where
  trace : List (Event I S)
  final : S
  result : Option α

variable {I : Interface} {S T G α β : Type}

def Server.event (srv : Server I S T) (t : T) (r : I.Request) (s : S) : Event I S where
  before := srv.disturb t s
  request := r
  reply := (srv.serve t r (srv.disturb t s)).1
  after := (srv.serve t r (srv.disturb t s)).2

def run (srv : Server I S T) (p : Program I α) (ts : List T) (s : S) : Outcome I S α :=
  match p, ts with
  | .done a, _ => ⟨[], s, some a⟩
  | .send _ _, [] => ⟨[], s, none⟩
  | .send r next, t :: ts =>
    let e := srv.event t r s
    let o := run srv (next e.reply) ts e.after
    ⟨e :: o.trace, o.final, o.result⟩

@[simp] lemma run_done (srv : Server I S T) (a : α) (ts : List T) (s : S) :
    run srv (.done a) ts s = ⟨[], s, some a⟩ := by
  cases ts <;> rfl

@[simp] lemma run_send_nil (srv : Server I S T) (r : I.Request)
    (next : I.Reply r → Program I α) (s : S) :
    run srv (.send r next) [] s = ⟨[], s, none⟩ := rfl

lemma run_send_cons (srv : Server I S T) (r : I.Request)
    (next : I.Reply r → Program I α) (t : T) (ts : List T) (s : S) :
    run srv (.send r next) (t :: ts) s =
      ⟨srv.event t r s :: (run srv (next (srv.event t r s).reply) ts (srv.event t r s).after).trace,
        (run srv (next (srv.event t r s).reply) ts (srv.event t r s).after).final,
        (run srv (next (srv.event t r s).reply) ts (srv.event t r s).after).result⟩ := rfl

lemma run_events {srv : Server I S T} {P : Event I S → Prop} (h : ∀ t r s, P (srv.event t r s))
    (p : Program I α) (ts : List T) (s : S) : ∀ e ∈ (run srv p ts s).trace, P e := by
  induction p generalizing ts s with
  | done a => simp
  | send r next ih =>
    cases ts with
    | nil => simp
    | cons t ts =>
      rw [run_send_cons]
      intro e he
      rcases List.mem_cons.mp he with rfl | he
      · exact h t r s
      · exact ih _ ts _ e he

lemma run_bind {srv : Server I S T} {p : Program I α} {f : α → Program I β} {ts : List T} {s : S} {a : α}
    (h : (run srv p ts s).result = some a) :
    run srv (p >>= f) ts s =
      ⟨(run srv p ts s).trace ++
          (run srv (f a) (ts.drop (run srv p ts s).trace.length) (run srv p ts s).final).trace,
        (run srv (f a) (ts.drop (run srv p ts s).trace.length) (run srv p ts s).final).final,
        (run srv (f a) (ts.drop (run srv p ts s).trace.length) (run srv p ts s).final).result⟩ := by
  induction p generalizing ts s with
  | done a' =>
    rw [run_done, Option.some.injEq] at h
    subst h
    rw [Program.done_bind, run_done]
    rfl
  | send r next ih =>
    cases ts with
    | nil => cases h
    | cons t ts =>
      rw [Program.send_bind, run_send_cons, run_send_cons, ih _ h]
      rfl

lemma run_bind_done {srv : Server I S T} {p : Program I α} {f : α → Program I β} {ts : List T} {s : S} {a : α}
    {b : β} (h : (run srv p ts s).result = some a) (hf : f a = .done b) :
    run srv (p >>= f) ts s = ⟨(run srv p ts s).trace, (run srv p ts s).final, some b⟩ := by
  rw [run_bind h, hf, run_done, List.append_nil]

/-- One execution of the same program after another, each with its own schedule. -/
def rounds (srv : Server I S T) (p : Program I α) : List (List T) → S → List (Outcome I S α)
  | [], _ => []
  | ts :: rest, s => run srv p ts s :: rounds srv p rest (run srv p ts s).final

lemma rounds_start {srv : Server I S T} {p : Program I α} {J : S → Prop}
    (hJ : ∀ ts s, J s → J (run srv p ts s).final) {tss : List (List T)} {s : S} (hs : J s) :
    ∀ o ∈ rounds srv p tss s, ∃ ts s', J s' ∧ o = run srv p ts s' := by
  induction tss generalizing s with
  | nil => simp [rounds]
  | cons ts tss ih =>
    intro o ho
    rcases List.mem_cons.mp ho with rfl | ho
    · exact ⟨ts, s, hs, rfl⟩
    · exact ih (hJ ts s hs) o ho

def Server.Continues (srv : Server I S T) : S → List (Event I S) → Prop
  | _, [] => True
  | s, e :: es => (∃ t, e.before = srv.disturb t s) ∧ srv.Continues e.after es

lemma continues_run_append (srv : Server I S T) (p : Program I α) (ts : List T) (s : S)
    {es : List (Event I S)} (h : srv.Continues (run srv p ts s).final es) :
    srv.Continues s ((run srv p ts s).trace ++ es) := by
  induction p generalizing ts s with
  | done a => simpa using h
  | send r next ih =>
    cases ts with
    | nil => exact h
    | cons t ts => exact ⟨⟨t, rfl⟩, ih _ ts _ h⟩

lemma continues_rounds (srv : Server I S T) (p : Program I α) (tss : List (List T)) (s : S) :
    srv.Continues s ((rounds srv p tss s).flatMap Outcome.trace) := by
  induction tss generalizing s with
  | nil => trivial
  | cons ts tss ih => exact continues_run_append srv p ts s (ih _)

lemma Server.Continues.lasting {srv : Server I S T} {K : S → S → Prop}
    (htrans : ∀ {s₁ s₂ s₃}, K s₁ s₂ → K s₂ s₃ → K s₁ s₃) (hdisturb : ∀ t s, K s (srv.disturb t s))
    {s : S} {es rest : List (Event I S)} {e : Event I S} (h : srv.Continues s (es ++ e :: rest))
    (hK : ∀ d ∈ es ++ e :: rest, K d.before d.after) : ∀ d ∈ e :: rest, K e.before d.after := by
  induction es generalizing s with
  | cons d es ih => exact ih h.2 fun d hd => hK d (List.mem_cons_of_mem _ hd)
  | nil =>
    have hlater (rest : List (Event I S)) (s : S) (hs : K e.before s) (h : srv.Continues s rest)
        (hK : ∀ d ∈ rest, K d.before d.after) : ∀ d ∈ rest, K e.before d.after := by
      induction rest generalizing s with
      | nil => simp
      | cons d rest ih =>
        obtain ⟨⟨t, ht⟩, h⟩ := h
        have hd : K e.before d.after :=
          htrans (htrans hs (ht ▸ hdisturb t s)) (hK d List.mem_cons_self)
        intro d' hd'
        rcases List.mem_cons.mp hd' with rfl | hd'
        · exact hd
        · exact ih d.after hd h (fun d hd => hK d (List.mem_cons_of_mem _ hd)) d' hd'
    have he := hK e List.mem_cons_self
    intro d hd
    rcases List.mem_cons.mp hd with rfl | hd
    · exact he
    · exact hlater rest e.after he h.2 (fun d hd => hK d (List.mem_cons_of_mem _ hd)) d hd

lemma Server.Continues.of_append {srv : Server I S T} {s : S} {es es' : List (Event I S)}
    (h : srv.Continues s (es ++ es')) : ∃ s', srv.Continues s' es' := by
  induction es generalizing s with
  | nil => exact ⟨s, h⟩
  | cons e es ih => exact ih h.2

section Latch

variable {srv : Server I S T} {latched : S → Prop} {fires : Event I S → Prop} [DecidablePred fires]
  (hdisturb : ∀ t s, latched s → latched (srv.disturb t s)) {s : S} {es : List (Event I S)}

include hdisturb

lemma Server.Continues.countP_eq_zero (h : srv.Continues s es) (hs : latched s)
    (hnot : ∀ e ∈ es, fires e → ¬ latched e.before) (hkeep : ∀ e ∈ es, latched e.before → latched e.after) :
    es.countP fires = 0 := by
  induction es generalizing s with
  | nil => rfl
  | cons e es ih =>
    obtain ⟨⟨t, ht⟩, h⟩ := h
    have hbefore : latched e.before := ht ▸ hdisturb t s hs
    rw [List.countP_cons_of_neg (by simpa using fun hf => hnot e List.mem_cons_self hf hbefore)]
    exact ih h (hkeep e List.mem_cons_self hbefore) (fun e he => hnot e (List.mem_cons_of_mem _ he))
      fun e he => hkeep e (List.mem_cons_of_mem _ he)

lemma Server.Continues.countP_le_one (h : srv.Continues s es) (hnot : ∀ e ∈ es, fires e → ¬ latched e.before)
    (hset : ∀ e ∈ es, fires e → latched e.after) (hkeep : ∀ e ∈ es, latched e.before → latched e.after) :
    es.countP fires ≤ 1 := by
  induction es generalizing s with
  | nil => exact Nat.zero_le 1
  | cons e es ih =>
    have hnot' (e : Event I S) (he : e ∈ es) := hnot e (List.mem_cons_of_mem _ he)
    have hkeep' (e : Event I S) (he : e ∈ es) := hkeep e (List.mem_cons_of_mem _ he)
    by_cases hf : fires e
    · rw [List.countP_cons_of_pos (by simpa using hf),
        h.2.countP_eq_zero hdisturb (hset e List.mem_cons_self hf) hnot' hkeep']
    · rw [List.countP_cons_of_neg (by simpa using hf)]
      exact ih h.2 hnot' (fun e he => hset e (List.mem_cons_of_mem _ he)) hkeep'

end Latch

def complete (srv : Server I S T) (t : T) : Program I α → S → α × S
  | .done a, s => (a, s)
  | .send r next, s => complete srv t (next (srv.event t r s).reply) (srv.event t r s).after

lemma complete_bind (srv : Server I S T) (t : T) (p : Program I α) (f : α → Program I β) (s : S) :
    complete srv t (p >>= f) s =
      complete srv t (f (complete srv t p s).1) (complete srv t p s).2 := by
  induction p generalizing s with
  | done a => rfl
  | send r next ih => exact ih _ _

lemma complete_eq_run (srv : Server I S T) (t : T) (p : Program I α) (s : S) :
    ∃ n, (run srv p (List.replicate n t) s).result = some (complete srv t p s).1 ∧
      (run srv p (List.replicate n t) s).final = (complete srv t p s).2 := by
  induction p generalizing s with
  | done a => exact ⟨0, rfl, rfl⟩
  | send r next ih =>
    obtain ⟨n, hresult, hfinal⟩ := ih (srv.event t r s).reply (srv.event t r s).after
    exact ⟨n + 1, hresult, hfinal⟩

def Server.restrict (srv : Server I S T) (P : T → Prop) : Server I S {t // P t} where
  disturb t := srv.disturb t.1
  serve t := srv.serve t.1

/-- The same server with a history variable that `f` updates at every event. -/
def Server.track (srv : Server I S T) (f : G → Event I S → G) : Server I (S × G) T where
  disturb t s := (srv.disturb t s.1, s.2)
  serve t r s :=
    let a := srv.serve t r s.1
    (a.1, a.2, f s.2 ⟨s.1, r, a.1, a.2⟩)

def Event.untrack (e : Event I (S × G)) : Event I S :=
  ⟨e.before.1, e.request, e.reply, e.after.1⟩

lemma run_track (srv : Server I S T) (f : G → Event I S → G) (p : Program I α)
    (ts : List T) (s : S) (g : G) :
    (run (srv.track f) p ts (s, g)).trace.map Event.untrack = (run srv p ts s).trace ∧
      (run (srv.track f) p ts (s, g)).final =
        ((run srv p ts s).final, (run srv p ts s).trace.foldl f g) ∧
      (run (srv.track f) p ts (s, g)).result = (run srv p ts s).result := by
  induction p generalizing ts s g with
  | done a => simp
  | send r next ih =>
    cases ts with
    | nil => simp
    | cons t ts =>
      obtain ⟨htrace, hfinal, hresult⟩ := ih (srv.event t r s).reply ts (srv.event t r s).after
        (f g (srv.event t r s))
      rw [run_send_cons, run_send_cons]
      exact ⟨congrArg (srv.event t r s :: ·) htrace, hfinal, hresult⟩

end ClusterOperator.Interaction
