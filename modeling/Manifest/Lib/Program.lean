import Mathlib.Data.List.Basic
import Mathlib.Order.Basic

/-!
# Programs with effects, handlers and crash points

A program is a tree of effects whose branches are chosen by the replies of its
environment.  A handler supplies those replies from an environment state, so one
program text has many readings: the sequential run, the log of what the
environment saw, and the environments left behind after each effect, which are
the places where a crash can strike.

`Proc` adds what imperative code needs on top of effects: one mutable object
that survives exceptions, and exceptions themselves.

Main results:

- Theorems `Prog.run_bind` and `Prog.log_bind`: running and logging are
  compositional.
- Theorems `Proc.exec_bind` and `Proc.log_bind`: the same for procedures, with
  the exceptional exit skipping the rest.
- Theorems `Proc.ensures_bind` and `Proc.Ensures.exec`: postconditions that hold
  whatever the environment replies.
- Theorems `Proc.meets_bind` and `Proc.meets_tryCatch`: the rules of a program
  logic whose judgements also bound everything an observer records, so that they
  speak about crash points.
-/

set_option autoImplicit false

namespace Interaction

/-! ## Effect trees -/

/-- A program over the effect signature `Op`: finished, or waiting for the reply
to one effect. -/
inductive Prog (Op : Type → Type) (α : Type) : Type 1 where
  | pure (a : α) : Prog Op α
  | op {β : Type} (o : Op β) (k : β → Prog Op α) : Prog Op α

/-- A handler answers each effect and moves the environment. -/
abbrev Handler (Op : Type → Type) (E : Type) :=
  (β : Type) → Op β → E → β × E

/-- An observer records what it sees of one effect: the effect, the reply and the
environment the reply left. -/
abbrev Observer (Op : Type → Type) (E O : Type) :=
  (β : Type) → Op β → β × E → List O

namespace Prog

variable {Op : Type → Type} {E O α β γ : Type}

/-- Graft a continuation onto every leaf. -/
def bind : Prog Op α → (α → Prog Op γ) → Prog Op γ
  | .pure a, f => f a
  | .op o k, f => .op o fun b => (k b).bind f

/-- Run a program against a handler. -/
def run (h : Handler Op E) : Prog Op α → E → α × E
  | .pure a, e => (a, e)
  | .op o k, e =>
      let reply := h _ o e
      (k reply.1).run h reply.2

/-- Everything the observer records along the run, in order. -/
def log (h : Handler Op E) (obs : Observer Op E O) : Prog Op α → E → List O
  | .pure _, _ => []
  | .op o k, e =>
      let reply := h _ o e
      obs _ o reply ++ (k reply.1).log h obs reply.2

@[simp]
theorem run_pure (h : Handler Op E) (a : α) (e : E) :
    (Prog.pure a : Prog Op α).run h e = (a, e) :=
  rfl

@[simp]
theorem log_pure (h : Handler Op E) (obs : Observer Op E O) (a : α) (e : E) :
    (Prog.pure a : Prog Op α).log h obs e = [] :=
  rfl

/-- Running a sequence runs the first part and then the rest from where it stopped. -/
theorem run_bind (h : Handler Op E) (p : Prog Op α) (f : α → Prog Op γ) (e : E) :
    (p.bind f).run h e = (f (p.run h e).1).run h (p.run h e).2 := by
  induction p generalizing e with
  | pure a => rfl
  | op o k ih => exact ih _ _

/-- The log of a sequence is the first log followed by the log of the rest. -/
theorem log_bind (h : Handler Op E) (obs : Observer Op E O) (p : Prog Op α)
    (f : α → Prog Op γ) (e : E) :
    (p.bind f).log h obs e =
      p.log h obs e ++ (f (p.run h e).1).log h obs (p.run h e).2 := by
  induction p generalizing e with
  | pure a => simp [bind]
  | op o k ih =>
      simp only [bind, log, run, List.append_assoc]
      rw [ih]

/-! ### Adversarial environments -/

/-- Whatever the environment replies, only effects in `P` are performed and the
result is in `Q`. -/
def All (P : (β : Type) → Op β → Prop) (Q : α → Prop) : Prog Op α → Prop
  | .pure a => Q a
  | .op o k => P _ o ∧ ∀ b, (k b).All P Q

variable {P P' : (β : Type) → Op β → Prop}

theorem All.mono {Q Q' : α → Prop} {p : Prog Op α} (h : p.All P Q)
    (hP : ∀ β (o : Op β), P β o → P' β o) (hQ : ∀ a, Q a → Q' a) : p.All P' Q' := by
  induction p with
  | pure a => exact hQ a h
  | op o k ih => exact ⟨hP _ o h.1, fun b => ih b (h.2 b)⟩

theorem All.and {Q Q' : α → Prop} {p : Prog Op α} (h : p.All P Q) (h' : p.All P Q') :
    p.All P fun a => Q a ∧ Q' a := by
  induction p with
  | pure a => exact ⟨h, h'⟩
  | op o k ih => exact ⟨h.1, fun b => ih b (h.2 b) (h'.2 b)⟩

/-- Sequencing: the postcondition of the first part is what the rest needs. -/
theorem all_bind {R : γ → Prop} {p : Prog Op α} {f : α → Prog Op γ} :
    (p.bind f).All P R ↔ p.All P fun a => (f a).All P R := by
  induction p with
  | pure a => rfl
  | op o k ih => exact and_congr Iff.rfl (forall_congr' ih)

/-- A result that holds against every environment holds against a handler. -/
theorem All.run {Q : α → Prop} {p : Prog Op α} (h : p.All P Q) (hd : Handler Op E) (e : E) :
    Q (p.run hd e).1 := by
  induction p generalizing e with
  | pure a => exact h
  | op o k ih => exact ih _ (h.2 _) _

/-- A reflexive and transitive relation kept by the permitted effects is kept by a run. -/
theorem All.run_rel {Q : α → Prop} {R : E → E → Prop} {p : Prog Op α} (h : p.All P Q)
    {hd : Handler Op E} (hrefl : ∀ e, R e e) (htrans : ∀ {e₁ e₂ e₃}, R e₁ e₂ → R e₂ e₃ → R e₁ e₃)
    (hstep : ∀ β (o : Op β) e, P β o → R e (hd β o e).2) (e : E) : R e (p.run hd e).2 := by
  induction p generalizing e with
  | pure a => exact hrefl e
  | op o k ih => exact htrans (hstep _ o e h.1) (ih _ (h.2 _) _)

/-- A relation kept by every effect whose observations are all in `K` is kept by a run that
records nothing else. -/
theorem run_rel_of_log {R : E → E → Prop} {K : O → Prop} {hd : Handler Op E}
    {obs : Observer Op E O} (hrefl : ∀ e, R e e)
    (htrans : ∀ {e₁ e₂ e₃}, R e₁ e₂ → R e₂ e₃ → R e₁ e₃)
    (hstep : ∀ β (o : Op β) e, (∀ seen ∈ obs β o (hd β o e), K seen) → R e (hd β o e).2)
    (p : Prog Op α) (e : E) (hlog : ∀ seen ∈ p.log hd obs e, K seen) : R e (p.run hd e).2 := by
  induction p generalizing e with
  | pure a => exact hrefl e
  | op o k ih =>
      have hfirst := hstep _ o e fun seen hseen => hlog seen (List.mem_append_left _ hseen)
      exact htrans hfirst (ih _ _ fun seen hseen => hlog seen (List.mem_append_right _ hseen))

/-- What an observer records of the permitted effects holds of the whole log. -/
theorem All.forall_log {Q : α → Prop} {K : O → Prop} {p : Prog Op α} (h : p.All P Q)
    (hd : Handler Op E) {obs : Observer Op E O}
    (hobs : ∀ β (o : Op β) r, P β o → ∀ seen ∈ obs β o r, K seen) (e : E) :
    ∀ seen ∈ p.log hd obs e, K seen := by
  induction p generalizing e with
  | pure a => simp
  | op o k ih =>
      intro seen hseen
      rcases List.mem_append.mp hseen with hseen | hseen
      · exact hobs _ o _ h.1 seen hseen
      · exact ih _ (h.2 _) _ seen hseen

end Prog

/-! ## Procedures: one mutable object and exceptions -/

/-- A procedure over a mutable object `σ`.  The object is returned on both exits,
as an object mutated before an exception stays mutated. -/
def Proc (Op : Type → Type) (ε σ α : Type) : Type 1 :=
  σ → Prog Op (Except ε α × σ)

/-- How a procedure ended: its result, the object and the environment. -/
structure Exit (ε σ E α : Type) where
  result : Except ε α
  state : σ
  env : E

namespace Proc

variable {Op : Type → Type} {ε σ τ E O α β γ : Type}

/-- Return a value. -/
protected def pure (a : α) : Proc Op ε σ α :=
  fun s => .pure (.ok a, s)

/-- Run the rest on a normal exit only. -/
protected def bind (m : Proc Op ε σ α) (f : α → Proc Op ε σ γ) : Proc Op ε σ γ :=
  fun s => (m s).bind fun
    | (.ok a, s') => f a s'
    | (.error x, s') => .pure (.error x, s')

instance : Monad (Proc Op ε σ) where
  pure := Proc.pure
  bind := Proc.bind

/-- Raise an exception. -/
def raise (x : ε) : Proc Op ε σ α :=
  fun s => .pure (.error x, s)

/-- Read the mutable object. -/
def read : Proc Op ε σ σ :=
  fun s => .pure (.ok s, s)

/-- Mutate the object. -/
def mutate (f : σ → σ) : Proc Op ε σ Unit :=
  fun s => .pure (.ok (), f s)

/-- A step on the object that performs no effect. -/
def lift (f : σ → Except ε α × σ) : Proc Op ε σ α :=
  fun s => .pure (f s)

/-- Continue with a value that may already be an exception. -/
def ofExcept (r : Except ε α) : Proc Op ε σ α :=
  fun s => .pure (r, s)

/-- Perform an effect that neither sees the object nor raises. -/
def perform (o : Op α) : Proc Op ε σ α :=
  fun s => .op o fun a => .pure (.ok a, s)

/-- Perform an effect that may raise. -/
def request (o : Op (Except ε α)) : Proc Op ε σ α :=
  fun s => .op o fun r => .pure (r, s)

/-- Hand the object to an effect that may raise and may mutate part of it. -/
def send (merge : σ → τ → σ) (o : σ → Op (Except ε α × τ)) : Proc Op ε σ α :=
  fun s => .op (o s) fun r => .pure (r.1, merge s r.2)

/-- Run a handler on the exceptional exit. -/
def tryCatch (m : Proc Op ε σ α) (handler : ε → Proc Op ε σ α) : Proc Op ε σ α :=
  fun s => (m s).bind fun
    | (.ok a, s') => .pure (.ok a, s')
    | (.error x, s') => handler x s'

/-- Run a procedure from an object and an environment. -/
def exec (h : Handler Op E) (m : Proc Op ε σ α) (s : σ) (e : E) : Exit ε σ E α :=
  let r := (m s).run h e
  ⟨r.1.1, r.1.2, r.2⟩

/-- The observer's record of one execution. -/
def log (h : Handler Op E) (obs : Observer Op E O) (m : Proc Op ε σ α) (s : σ)
    (e : E) : List O :=
  (m s).log h obs e

/-! ### Executing the constructs -/

variable (h : Handler Op E) (obs : Observer Op E O) (s : σ) (e : E)

@[simp]
theorem exec_pure (a : α) :
    (pure a : Proc Op ε σ α).exec h s e = ⟨.ok a, s, e⟩ :=
  rfl

@[simp]
theorem exec_raise (x : ε) :
    (raise x : Proc Op ε σ α).exec h s e = ⟨.error x, s, e⟩ :=
  rfl

@[simp]
theorem exec_read : (read : Proc Op ε σ σ).exec h s e = ⟨.ok s, s, e⟩ :=
  rfl

@[simp]
theorem exec_mutate (f : σ → σ) :
    (mutate f : Proc Op ε σ Unit).exec h s e = ⟨.ok (), f s, e⟩ :=
  rfl

@[simp]
theorem exec_lift (f : σ → Except ε α × σ) :
    (lift f : Proc Op ε σ α).exec h s e = ⟨(f s).1, (f s).2, e⟩ :=
  rfl

@[simp]
theorem exec_ofExcept (r : Except ε α) :
    (ofExcept r : Proc Op ε σ α).exec h s e = ⟨r, s, e⟩ :=
  rfl

@[simp]
theorem exec_perform (o : Op α) :
    (perform o : Proc Op ε σ α).exec h s e = ⟨.ok (h _ o e).1, s, (h _ o e).2⟩ :=
  rfl

@[simp]
theorem exec_request (o : Op (Except ε α)) :
    (request o : Proc Op ε σ α).exec h s e = ⟨(h _ o e).1, s, (h _ o e).2⟩ :=
  rfl

@[simp]
theorem exec_send (merge : σ → τ → σ) (o : σ → Op (Except ε α × τ)) :
    (send merge o : Proc Op ε σ α).exec h s e =
      ⟨(h _ (o s) e).1.1, merge s (h _ (o s) e).1.2, (h _ (o s) e).2⟩ :=
  rfl

/-- Sequencing: the exceptional exit skips the rest. -/
theorem exec_bind (m : Proc Op ε σ α) (f : α → Proc Op ε σ γ) :
    (m >>= f).exec h s e =
      match m.exec h s e with
      | ⟨.ok a, s', e'⟩ => (f a).exec h s' e'
      | ⟨.error x, s', e'⟩ => ⟨.error x, s', e'⟩ := by
  show Proc.exec h (Proc.bind m f) s e = _
  simp only [exec, Proc.bind, Prog.run_bind]
  rcases (m s).run h e with ⟨⟨r, s'⟩, e'⟩
  cases r <;> rfl

theorem exec_bind_ok {m : Proc Op ε σ α} {f : α → Proc Op ε σ γ} {s s' : σ}
    {e e' : E} {a : α} (hm : m.exec h s e = ⟨.ok a, s', e'⟩) :
    (m >>= f).exec h s e = (f a).exec h s' e' := by
  rw [exec_bind, hm]

theorem exec_bind_error {m : Proc Op ε σ α} {f : α → Proc Op ε σ γ} {s s' : σ}
    {e e' : E} {x : ε} (hm : m.exec h s e = ⟨.error x, s', e'⟩) :
    (m >>= f).exec h s e = ⟨.error x, s', e'⟩ := by
  rw [exec_bind, hm]

/-- A sequence that returned went through its first part. -/
theorem exec_bind_returned {m : Proc Op ε σ α} {f : α → Proc Op ε σ γ} {c : γ}
    (hresult : ((m >>= f).exec h s e).result = .ok c) :
    ∃ a s' e', m.exec h s e = ⟨.ok a, s', e'⟩ ∧
      (m >>= f).exec h s e = (f a).exec h s' e' := by
  rw [exec_bind] at hresult ⊢
  cases hm : m.exec h s e with
  | mk result s' e' =>
      rw [hm] at hresult
      cases result with
      | error x => cases hresult
      | ok a => exact ⟨a, s', e', rfl, rfl⟩

/-- A caught exception continues with the object and environment it left. -/
theorem exec_tryCatch (m : Proc Op ε σ α) (handler : ε → Proc Op ε σ α) :
    (tryCatch m handler).exec h s e =
      match m.exec h s e with
      | ⟨.ok a, s', e'⟩ => ⟨.ok a, s', e'⟩
      | ⟨.error x, s', e'⟩ => (handler x).exec h s' e' := by
  simp only [exec, tryCatch, Prog.run_bind]
  rcases (m s).run h e with ⟨⟨r, s'⟩, e'⟩
  cases r <;> rfl

@[simp]
theorem log_pure (a : α) : (pure a : Proc Op ε σ α).log h obs s e = [] :=
  rfl

@[simp]
theorem log_raise (x : ε) : (raise x : Proc Op ε σ α).log h obs s e = [] :=
  rfl

@[simp]
theorem log_read : (read : Proc Op ε σ σ).log h obs s e = [] :=
  rfl

@[simp]
theorem log_mutate (f : σ → σ) :
    (mutate f : Proc Op ε σ Unit).log h obs s e = [] :=
  rfl

@[simp]
theorem log_lift (f : σ → Except ε α × σ) :
    (lift f : Proc Op ε σ α).log h obs s e = [] :=
  rfl

@[simp]
theorem log_ofExcept (r : Except ε α) :
    (ofExcept r : Proc Op ε σ α).log h obs s e = [] :=
  rfl

@[simp]
theorem log_perform (o : Op α) :
    (perform o : Proc Op ε σ α).log h obs s e = obs _ o (h _ o e) := by
  simp [log, perform, Prog.log]

@[simp]
theorem log_request (o : Op (Except ε α)) :
    (request o : Proc Op ε σ α).log h obs s e = obs _ o (h _ o e) := by
  simp [log, request, Prog.log]

@[simp]
theorem log_send (merge : σ → τ → σ) (o : σ → Op (Except ε α × τ)) :
    (send merge o : Proc Op ε σ α).log h obs s e = obs _ (o s) (h _ (o s) e) := by
  simp [log, send, Prog.log]

/-- The log of a sequence stops where an exception leaves it. -/
theorem log_bind (m : Proc Op ε σ α) (f : α → Proc Op ε σ γ) :
    (m >>= f).log h obs s e =
      m.log h obs s e ++
        match m.exec h s e with
        | ⟨.ok a, s', e'⟩ => (f a).log h obs s' e'
        | ⟨.error _, _, _⟩ => [] := by
  show Proc.log h obs (Proc.bind m f) s e = _
  simp only [log, exec, Proc.bind, Prog.log_bind]
  rcases (m s).run h e with ⟨⟨r, s'⟩, e'⟩
  cases r <;> simp

/-- When nothing in `K` is recorded by the first part of a sequence, a record in `K`
comes from the rest, after everything the first part recorded. -/
theorem log_bind_split {K : O → Prop} {m : Proc Op ε σ α} {f : α → Proc Op ε σ γ}
    {before after : List O} {seen : O} (hquiet : ∀ o ∈ m.log h obs s e, ¬ K o) (hK : K seen)
    (hlog : (m >>= f).log h obs s e = before ++ seen :: after) :
    ∃ a s' e' middle, m.exec h s e = ⟨.ok a, s', e'⟩ ∧
      before = m.log h obs s e ++ middle ∧
      (f a).log h obs s' e' = middle ++ seen :: after := by
  rw [log_bind] at hlog
  rcases List.append_eq_append_iff.mp hlog with ⟨middle, hbefore, hrest⟩ | ⟨middle, hm, hrest⟩
  · rcases hx : m.exec h s e with ⟨r, s', e'⟩
    rw [hx] at hrest
    cases r with
    | ok a => exact ⟨a, s', e', middle, rfl, hbefore, hrest⟩
    | error x => simp at hrest
  · cases middle with
    | nil =>
        rcases hx : m.exec h s e with ⟨r, s', e'⟩
        rw [hx] at hrest
        cases r with
        | ok a => exact ⟨a, s', e', [], rfl, by simpa using hm.symm, by simpa using hrest.symm⟩
        | error x => simp at hrest
    | cons o tail =>
        have ho : seen = o := by
          simpa using congrArg List.head? hrest
        refine absurd (ho ▸ hK) (hquiet o ?_)
        rw [hm]
        simp

theorem log_tryCatch (m : Proc Op ε σ α) (handler : ε → Proc Op ε σ α) :
    (tryCatch m handler).log h obs s e =
      m.log h obs s e ++
        match m.exec h s e with
        | ⟨.ok _, _, _⟩ => []
        | ⟨.error x, s', e'⟩ => (handler x).log h obs s' e' := by
  simp only [log, exec, tryCatch, Prog.log_bind]
  rcases (m s).run h e with ⟨⟨r, s'⟩, e'⟩
  cases r <;> simp

/-! ## Postconditions against every environment -/

/-- Against every environment, from `s` the procedure performs only effects in `P`
and exits in `Q`. -/
def Ensures (P : (β : Type) → Op β → Prop) (m : Proc Op ε σ α) (s : σ)
    (Q : Except ε α → σ → Prop) : Prop :=
  (m s).All P fun r => Q r.1 r.2

section Ensures

variable {P P' : (β : Type) → Op β → Prop} {s : σ}

theorem Ensures.mono {m : Proc Op ε σ α} {Q Q' : Except ε α → σ → Prop}
    (hm : Ensures P m s Q) (hQ : ∀ r s', Q r s' → Q' r s') : Ensures P m s Q' :=
  Prog.All.mono hm (fun _ _ h => h) fun r h => hQ r.1 r.2 h

/-- More effects may be permitted. -/
theorem Ensures.weaken {m : Proc Op ε σ α} {Q : Except ε α → σ → Prop}
    (hm : Ensures P m s Q) (hP : ∀ β (o : Op β), P β o → P' β o) : Ensures P' m s Q :=
  Prog.All.mono hm hP fun _ h => h

@[simp]
theorem ensures_pure {a : α} {Q : Except ε α → σ → Prop} :
    Ensures P (Pure.pure a : Proc Op ε σ α) s Q ↔ Q (.ok a) s :=
  Iff.rfl

@[simp]
theorem ensures_raise {x : ε} {Q : Except ε α → σ → Prop} :
    Ensures P (Proc.raise x : Proc Op ε σ α) s Q ↔ Q (.error x) s :=
  Iff.rfl

@[simp]
theorem ensures_read {Q : Except ε σ → σ → Prop} :
    Ensures P (Proc.read : Proc Op ε σ σ) s Q ↔ Q (.ok s) s :=
  Iff.rfl

@[simp]
theorem ensures_mutate {f : σ → σ} {Q : Except ε Unit → σ → Prop} :
    Ensures P (Proc.mutate f : Proc Op ε σ Unit) s Q ↔ Q (.ok ()) (f s) :=
  Iff.rfl

@[simp]
theorem ensures_lift {f : σ → Except ε α × σ} {Q : Except ε α → σ → Prop} :
    Ensures P (Proc.lift f : Proc Op ε σ α) s Q ↔ Q (f s).1 (f s).2 :=
  Iff.rfl

@[simp]
theorem ensures_ofExcept {r : Except ε α} {Q : Except ε α → σ → Prop} :
    Ensures P (Proc.ofExcept r : Proc Op ε σ α) s Q ↔ Q r s :=
  Iff.rfl

@[simp]
theorem ensures_perform {o : Op α} {Q : Except ε α → σ → Prop} :
    Ensures P (Proc.perform o : Proc Op ε σ α) s Q ↔ P _ o ∧ ∀ a, Q (.ok a) s :=
  Iff.rfl

@[simp]
theorem ensures_request {o : Op (Except ε α)} {Q : Except ε α → σ → Prop} :
    Ensures P (Proc.request o : Proc Op ε σ α) s Q ↔ P _ o ∧ ∀ r, Q r s :=
  Iff.rfl

@[simp]
theorem ensures_send {merge : σ → τ → σ} {o : σ → Op (Except ε α × τ)}
    {Q : Except ε α → σ → Prop} :
    Ensures P (Proc.send merge o : Proc Op ε σ α) s Q ↔
      P _ (o s) ∧ ∀ r l, Q r (merge s l) :=
  and_congr Iff.rfl Prod.forall

/-- Sequencing: the exceptional exits of the first part are exits of the whole. -/
@[simp]
theorem ensures_bind {m : Proc Op ε σ α} {f : α → Proc Op ε σ γ}
    {Q : Except ε γ → σ → Prop} :
    Ensures P (m >>= f) s Q ↔
      Ensures P m s fun r s' =>
        match r with
        | .ok a => Ensures P (f a) s' Q
        | .error x => Q (.error x) s' := by
  refine Prog.all_bind.trans ?_
  unfold Ensures
  constructor <;> refine fun h => h.mono (fun _ _ hP => hP) ?_
  all_goals
    rintro ⟨r, s'⟩ hr
    cases r <;> exact hr

@[simp]
theorem ensures_tryCatch {m : Proc Op ε σ α} {handler : ε → Proc Op ε σ α}
    {Q : Except ε α → σ → Prop} :
    Ensures P (Proc.tryCatch m handler) s Q ↔
      Ensures P m s fun r s' =>
        match r with
        | .ok a => Q (.ok a) s'
        | .error x => Ensures P (handler x) s' Q := by
  refine Prog.all_bind.trans ?_
  unfold Ensures
  constructor <;> refine fun h => h.mono (fun _ _ hP => hP) ?_
  all_goals
    rintro ⟨r, s'⟩ hr
    cases r <;> exact hr

/-- Postconditions combine. -/
theorem Ensures.and {m : Proc Op ε σ α} {Q Q' : Except ε α → σ → Prop}
    (hm : Ensures P m s Q) (hm' : Ensures P m s Q') :
    Ensures P m s fun r s' => Q r s' ∧ Q' r s' :=
  Prog.All.and hm hm'

theorem Ensures.exec {m : Proc Op ε σ α} {Q : Except ε α → σ → Prop} (hm : Ensures P m s Q)
    (h : Handler Op E) (e : E) : Q (m.exec h s e).result (m.exec h s e).state :=
  Prog.All.run hm h e

/-- A relation between environments kept by the permitted effects. -/
theorem Ensures.env_rel {m : Proc Op ε σ α} {Q : Except ε α → σ → Prop} {R : E → E → Prop}
    (hm : Ensures P m s Q) {h : Handler Op E} (hrefl : ∀ e, R e e)
    (htrans : ∀ {e₁ e₂ e₃}, R e₁ e₂ → R e₂ e₃ → R e₁ e₃)
    (hstep : ∀ β (o : Op β) e, P β o → R e (h β o e).2) (e : E) :
    R e (m.exec h s e).env :=
  Prog.All.run_rel hm hrefl htrans hstep e

theorem Ensures.forall_log {m : Proc Op ε σ α} {Q : Except ε α → σ → Prop} {K : O → Prop}
    (hm : Ensures P m s Q) (h : Handler Op E) {obs : Observer Op E O}
    (hobs : ∀ β (o : Op β) r, P β o → ∀ seen ∈ obs β o r, K seen) (e : E) :
    ∀ seen ∈ m.log h obs s e, K seen :=
  Prog.All.forall_log hm h hobs e

end Ensures

/-! ## A program logic for exits and observations -/

/-- From `s` and `e` the procedure records only observations in `J` and ends in
`Q`.  With an observer that records the environment after each durable effect,
`J` is what holds at every crash point. -/
def Meets (m : Proc Op ε σ α) (J : O → Prop) (Q : Exit ε σ E α → Prop) : Prop :=
  (∀ o ∈ m.log h obs s e, J o) ∧ Q (m.exec h s e)

variable {h obs s e}
variable {J J' : O → Prop}

theorem Meets.mono {m : Proc Op ε σ α} {Q Q' : Exit ε σ E α → Prop}
    (hm : Meets h obs s e m J Q) (hJ : ∀ o, J o → J' o) (hQ : ∀ x, Q x → Q' x) :
    Meets h obs s e m J' Q' :=
  ⟨fun o ho => hJ o (hm.1 o ho), hQ _ hm.2⟩

@[simp]
theorem meets_pure {a : α} {Q : Exit ε σ E α → Prop} :
    Meets h obs s e (Pure.pure a : Proc Op ε σ α) J Q ↔ Q ⟨.ok a, s, e⟩ := by
  simp [Meets]

@[simp]
theorem meets_raise {x : ε} {Q : Exit ε σ E α → Prop} :
    Meets h obs s e (Proc.raise x : Proc Op ε σ α) J Q ↔ Q ⟨.error x, s, e⟩ := by
  simp [Meets]

@[simp]
theorem meets_read {Q : Exit ε σ E σ → Prop} :
    Meets h obs s e (Proc.read : Proc Op ε σ σ) J Q ↔ Q ⟨.ok s, s, e⟩ := by
  simp [Meets]

@[simp]
theorem meets_mutate {f : σ → σ} {Q : Exit ε σ E Unit → Prop} :
    Meets h obs s e (Proc.mutate f : Proc Op ε σ Unit) J Q ↔ Q ⟨.ok (), f s, e⟩ := by
  simp [Meets]

@[simp]
theorem meets_lift {f : σ → Except ε α × σ} {Q : Exit ε σ E α → Prop} :
    Meets h obs s e (Proc.lift f : Proc Op ε σ α) J Q ↔ Q ⟨(f s).1, (f s).2, e⟩ := by
  simp [Meets]

@[simp]
theorem meets_ofExcept {r : Except ε α} {Q : Exit ε σ E α → Prop} :
    Meets h obs s e (Proc.ofExcept r : Proc Op ε σ α) J Q ↔ Q ⟨r, s, e⟩ := by
  simp [Meets]

@[simp]
theorem meets_perform {o : Op α} {Q : Exit ε σ E α → Prop} :
    Meets h obs s e (Proc.perform o : Proc Op ε σ α) J Q ↔
      (∀ seen ∈ obs _ o (h _ o e), J seen) ∧ Q ⟨.ok (h _ o e).1, s, (h _ o e).2⟩ := by
  simp [Meets]

@[simp]
theorem meets_request {o : Op (Except ε α)} {Q : Exit ε σ E α → Prop} :
    Meets h obs s e (Proc.request o : Proc Op ε σ α) J Q ↔
      (∀ seen ∈ obs _ o (h _ o e), J seen) ∧ Q ⟨(h _ o e).1, s, (h _ o e).2⟩ := by
  simp [Meets]

@[simp]
theorem meets_send {merge : σ → τ → σ} {o : σ → Op (Except ε α × τ)}
    {Q : Exit ε σ E α → Prop} :
    Meets h obs s e (Proc.send merge o : Proc Op ε σ α) J Q ↔
      (∀ seen ∈ obs _ (o s) (h _ (o s) e), J seen) ∧
        Q ⟨(h _ (o s) e).1.1, merge s (h _ (o s) e).1.2, (h _ (o s) e).2⟩ := by
  simp [Meets]

/-- Sequencing: the rest starts in every normal exit of the first part. -/
@[simp]
theorem meets_bind {m : Proc Op ε σ α} {f : α → Proc Op ε σ γ} {Q : Exit ε σ E γ → Prop} :
    Meets h obs s e (m >>= f) J Q ↔
      Meets h obs s e m J fun x =>
        match x with
        | ⟨.ok a, s', e'⟩ => Meets h obs s' e' (f a) J Q
        | ⟨.error x, s', e'⟩ => Q ⟨.error x, s', e'⟩ := by
  unfold Meets
  rw [log_bind, exec_bind]
  rcases m.exec h s e with ⟨r, s', e'⟩
  cases r with
  | ok a => simp [or_imp, forall_and, and_assoc]
  | error x => simp

/-- A handled exception continues in every exceptional exit of the body. -/
@[simp]
theorem meets_tryCatch {m : Proc Op ε σ α} {handler : ε → Proc Op ε σ α}
    {Q : Exit ε σ E α → Prop} :
    Meets h obs s e (Proc.tryCatch m handler) J Q ↔
      Meets h obs s e m J fun x =>
        match x with
        | ⟨.ok a, s', e'⟩ => Q ⟨.ok a, s', e'⟩
        | ⟨.error x, s', e'⟩ => Meets h obs s' e' (handler x) J Q := by
  unfold Meets
  rw [log_tryCatch, exec_tryCatch]
  rcases m.exec h s e with ⟨r, s', e'⟩
  cases r with
  | ok a => simp
  | error x => simp [or_imp, forall_and, and_assoc]

/-! ### Rules for a verification written forwards -/

/-- Sequencing with the postcondition of the first part in between. -/
theorem Meets.bind {m : Proc Op ε σ α} {f : α → Proc Op ε σ γ} {P : Exit ε σ E α → Prop}
    {Q : Exit ε σ E γ → Prop} (hm : Meets h obs s e m J P)
    (hok : ∀ a s' e', P ⟨.ok a, s', e'⟩ → Meets h obs s' e' (f a) J Q)
    (herror : ∀ x s' e', P ⟨.error x, s', e'⟩ → Q ⟨.error x, s', e'⟩) :
    Meets h obs s e (m >>= f) J Q := by
  refine meets_bind.mpr (hm.mono (fun _ hJ => hJ) ?_)
  rintro ⟨r, s', e'⟩ hP
  cases r with
  | ok a => exact hok a s' e' hP
  | error x => exact herror x s' e' hP

/-- A handled body with its postcondition in between. -/
theorem Meets.tryCatch {m : Proc Op ε σ α} {handler : ε → Proc Op ε σ α}
    {P Q : Exit ε σ E α → Prop} (hm : Meets h obs s e m J P)
    (hok : ∀ a s' e', P ⟨.ok a, s', e'⟩ → Q ⟨.ok a, s', e'⟩)
    (herror : ∀ x s' e', P ⟨.error x, s', e'⟩ → Meets h obs s' e' (handler x) J Q) :
    Meets h obs s e (Proc.tryCatch m handler) J Q := by
  refine meets_tryCatch.mpr (hm.mono (fun _ hJ => hJ) ?_)
  rintro ⟨r, s', e'⟩ hP
  cases r with
  | ok a => exact hok a s' e' hP
  | error x => exact herror x s' e' hP

theorem Meets.pure {a : α} {Q : Exit ε σ E α → Prop} (hQ : Q ⟨.ok a, s, e⟩) :
    Meets h obs s e (Pure.pure a : Proc Op ε σ α) J Q :=
  meets_pure.mpr hQ

theorem Meets.raise {x : ε} {Q : Exit ε σ E α → Prop} (hQ : Q ⟨.error x, s, e⟩) :
    Meets h obs s e (Proc.raise x : Proc Op ε σ α) J Q :=
  meets_raise.mpr hQ

/-- Reading hands the object at hand to the rest. -/
theorem Meets.read {f : σ → Proc Op ε σ γ} {Q : Exit ε σ E γ → Prop}
    (hf : Meets h obs s e (f s) J Q) : Meets h obs s e (Proc.read >>= f) J Q :=
  meets_bind.mpr (meets_read.mpr hf)

/-- A mutation hands the mutated object to the rest. -/
theorem Meets.mutate {update : σ → σ} {f : Unit → Proc Op ε σ γ} {Q : Exit ε σ E γ → Prop}
    (hf : Meets h obs (update s) e (f ()) J Q) :
    Meets h obs s e (Proc.mutate update >>= f) J Q :=
  meets_bind.mpr (meets_mutate.mpr hf)

/-- A computed value or exception. -/
theorem Meets.ofExcept {r : Except ε α} {f : α → Proc Op ε σ γ} {Q : Exit ε σ E γ → Prop}
    (hok : ∀ a, r = .ok a → Meets h obs s e (f a) J Q)
    (herror : ∀ x, r = .error x → Q ⟨.error x, s, e⟩) :
    Meets h obs s e (Proc.ofExcept r >>= f) J Q := by
  refine meets_bind.mpr (meets_ofExcept.mpr ?_)
  cases hr : r with
  | ok a => exact hok a hr
  | error x => exact herror x hr

/-- What holds of a procedure against every environment. -/
theorem Ensures.meets {P : (β : Type) → Op β → Prop} {m : Proc Op ε σ α}
    {Q : Except ε α → σ → Prop} {R : E → E → Prop} (hm : Ensures P m s Q)
    (hobs : ∀ β (o : Op β) r, P β o → ∀ seen ∈ obs β o r, J seen) (hrefl : ∀ e, R e e)
    (htrans : ∀ {e₁ e₂ e₃}, R e₁ e₂ → R e₂ e₃ → R e₁ e₃)
    (hstep : ∀ β (o : Op β) e, P β o → R e (h β o e).2) :
    Meets h obs s e m J fun x => Q x.result x.state ∧ R e x.env :=
  ⟨hm.forall_log h hobs e, hm.exec h e, hm.env_rel hrefl htrans hstep e⟩

/-- A relation kept by every effect whose observations are all in `K`. -/
theorem env_rel_of_log {R : E → E → Prop} {K : O → Prop} {m : Proc Op ε σ α}
    (hrefl : ∀ e, R e e) (htrans : ∀ {e₁ e₂ e₃}, R e₁ e₂ → R e₂ e₃ → R e₁ e₃)
    (hstep : ∀ β (o : Op β) e, (∀ seen ∈ obs β o (h β o e), K seen) → R e (h β o e).2)
    (hlog : ∀ seen ∈ m.log h obs s e, K seen) : R e (m.exec h s e).env :=
  Prog.run_rel_of_log hrefl htrans hstep (m s) e hlog

end Proc

end Interaction
