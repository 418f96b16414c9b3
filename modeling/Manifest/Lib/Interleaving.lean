import Manifest.Lib.Program
import Mathlib.Logic.Function.Basic

/-!
# Programs that share an environment

A pool is a family of programs over one environment.  In one step some program performs
its next effect; nothing else is atomic.  A schedule may forbid steps.

Programs are verified one at a time, by rely and guarantee: whatever the others do to the
environment, as long as it stays in the rely relation, each effect of the program stays in
the guarantee relation and the result satisfies a postcondition that the others cannot
break.

Main results:

- Theorems `Proc.Guarantees.bind`, `Proc.Guarantees.tryCatch` and
  `Proc.Guarantees.request_bind`: the rules for the constructs.
- Theorem `Pool.play_guarantees`: programs that guarantee what the others rely on can be
  run in any interleaving.
- Theorem `Pool.reaches_exec`: one of the interleavings runs part of a program undisturbed.
-/

set_option autoImplicit false

namespace Interaction

variable {Op : Type → Type} {E ι α γ : Type}

/-! ## Pools -/

/-- Programs and the environment they share. -/
structure Pool (Op : Type → Type) (E ι α : Type) where
  threads : ι → Prog Op α
  env : E

/-- Which effect a thread may perform in which environment. -/
abbrev Schedule (Op : Type → Type) (E ι : Type) :=
  ι → (β : Type) → Op β → E → Prop

/-- The schedule that forbids nothing. -/
def Schedule.any : Schedule Op E ι :=
  fun _ _ _ _ => True

namespace Pool

variable [DecidableEq ι]

/-- Thread `i` performs `o` and continues with `k`. -/
def advance {β : Type} (pool : Pool Op E ι α) (h : Handler Op E) (i : ι) (o : Op β)
    (k : β → Prog Op α) : Pool Op E ι α where
  threads := Function.update pool.threads i (k (h _ o pool.env).1)
  env := (h _ o pool.env).2

variable (h : ι → Handler Op E) (C : Schedule Op E ι)

/-- Thread `i` takes its turn; a finished one stays as it is. -/
def turn (pool : Pool Op E ι α) (i : ι) : Pool Op E ι α :=
  match pool.threads i with
  | .pure _ => pool
  | .op o k => pool.advance (h i) i o k

/-- The threads take turns. -/
def play : List ι → Pool Op E ι α → Pool Op E ι α
  | [], pool => pool
  | i :: rest, pool => play rest (pool.turn h i)

/-- A finished thread stays finished. -/
theorem play_finished {pool : Pool Op E ι α} {i : ι} {a : α} (hdone : pool.threads i = .pure a)
    (turns : List ι) : (pool.play h turns).threads i = .pure a := by
  induction turns generalizing pool with
  | nil => exact hdone
  | cons j rest ih =>
      refine ih ?_
      unfold turn
      by_cases hij : i = j
      · rw [← hij, hdone]
        exact hdone
      · cases pool.threads j with
        | pure _ => exact hdone
        | op o k => exact (Function.update_of_ne hij _ _).trans hdone

/-- Every turn performs an effect the schedule permits. -/
def Permitted : List ι → Pool Op E ι α → Prop
  | [], _ => True
  | i :: rest, pool =>
      (match pool.threads i with
        | .pure _ => True
        | .op o _ => C i _ o pool.env) ∧ Permitted rest (pool.turn h i)

theorem permitted_any (turns : List ι) (pool : Pool Op E ι α) :
    pool.Permitted h Schedule.any turns := by
  induction turns generalizing pool with
  | nil => trivial
  | cons i rest ih =>
      refine ⟨?_, ih _⟩
      cases pool.threads i <;> trivial

end Pool

/-! ## Rely and guarantee -/

/-- While the environment moves along `R` between its effects, the program moves it along
`G` with each effect it is scheduled for, and its result is in `Q` however late it is
looked at. -/
def Prog.Guarantees (h : Handler Op E) (C : (β : Type) → Op β → E → Prop) (R G : E → E → Prop)
    (Q : α → E → Prop) : Prog Op α → E → Prop
  | .pure a, e => ∀ e', R e e' → Q a e'
  | .op o k, e => ∀ e', R e e' → C _ o e' →
      G e' (h _ o e').2 ∧ (k (h _ o e').1).Guarantees h C R G Q (h _ o e').2

namespace Prog

variable {h : Handler Op E} {C : (β : Type) → Op β → E → Prop} {R G : E → E → Prop}

/-- What the others do leaves a verified program verified. -/
theorem Guarantees.interfere {Q : α → E → Prop} {p : Prog Op α} {e e' : E}
    (htrans : ∀ {e₁ e₂ e₃}, R e₁ e₂ → R e₂ e₃ → R e₁ e₃) (hp : p.Guarantees h C R G Q e)
    (hR : R e e') : p.Guarantees h C R G Q e' := by
  cases p with
  | pure a => exact fun e'' h'' => hp e'' (htrans hR h'')
  | op o k => exact fun e'' h'' => hp e'' (htrans hR h'')

theorem Guarantees.mono {Q Q' : α → E → Prop} {p : Prog Op α} {e : E}
    (hp : p.Guarantees h C R G Q e) (hQ : ∀ a e', Q a e' → Q' a e') :
    p.Guarantees h C R G Q' e := by
  induction p generalizing e with
  | pure a => exact fun e' hR => hQ a e' (hp e' hR)
  | op o k ih => exact fun e' hR hC => ⟨(hp e' hR hC).1, ih _ (hp e' hR hC).2⟩

/-- Sequencing: the rest starts in whatever the others made of the first part's end. -/
theorem Guarantees.bind {Q : α → E → Prop} {Q' : γ → E → Prop} {p : Prog Op α}
    {f : α → Prog Op γ} {e : E} (hrefl : ∀ e, R e e) (hp : p.Guarantees h C R G Q e)
    (hf : ∀ a e', Q a e' → (f a).Guarantees h C R G Q' e') :
    (p.bind f).Guarantees h C R G Q' e := by
  induction p generalizing e with
  | pure a => exact hf a e (hp e (hrefl e))
  | op o k ih => exact fun e' hR hC => ⟨(hp e' hR hC).1, ih _ (hp e' hR hC).2⟩

/-- What neither the program nor the others break is still true at the end. -/
theorem Guarantees.frame {Q : α → E → Prop} {F : E → Prop} {p : Prog Op α} {e : E}
    (hp : p.Guarantees h C R G Q e) (hR : ∀ {e e'}, F e → R e e' → F e')
    (hG : ∀ {e e'}, F e → G e e' → F e') (he : F e) :
    p.Guarantees h C R G (fun a e' => Q a e' ∧ F e') e := by
  induction p generalizing e with
  | pure a => exact fun e' h' => ⟨hp e' h', hR he h'⟩
  | op o k ih =>
      intro e' h' hC
      obtain ⟨hstep, hrest⟩ := hp e' h' hC
      exact ⟨hstep, ih _ hrest (hG (hR he h') hstep)⟩

/-- A program that only performs effects an invariant survives. -/
theorem All.guarantees {P : (β : Type) → Op β → Prop} {Q : α → Prop} {I : E → Prop}
    {p : Prog Op α} {e : E} (hp : p.All P Q) (hstable : ∀ {e e'}, I e → R e e' → I e')
    (hop : ∀ β (o : Op β) e, P β o → I e → G e (h β o e).2 ∧ I (h β o e).2) (he : I e) :
    p.Guarantees h C R G (fun a e' => Q a ∧ I e') e := by
  induction p generalizing e with
  | pure a => exact fun e' hR => ⟨hp, hstable he hR⟩
  | op o k ih =>
      intro e' hR _
      obtain ⟨hG, hnext⟩ := hop _ o e' hp.1 (hstable he hR)
      exact ⟨hG, ih _ (hp.2 _) hnext⟩

end Prog

namespace Pool

variable [DecidableEq ι] {h : ι → Handler Op E} {C : Schedule Op E ι} {R G : ι → E → E → Prop}
variable {Q : ι → α → E → Prop}

/-- One turn keeps every thread verified. -/
theorem turn_guarantees {pool : Pool Op E ι α} {T : E → E → Prop} (i : ι)
    (htrans : ∀ i {e₁ e₂ e₃}, R i e₁ e₂ → R i e₂ e₃ → R i e₁ e₃) (hrefl : ∀ i e, R i e e)
    (hGR : ∀ i j e e', i ≠ j → G i e e' → R j e e')
    (hT : ∀ e, T e e) (hGT : ∀ i e e', G i e e' → T e e')
    (hscheduled : match pool.threads i with
      | .pure _ => True
      | .op o _ => C i _ o pool.env)
    (hpool : ∀ i, (pool.threads i).Guarantees (h i) (C i) (R i) (G i) (Q i) pool.env) :
    T pool.env (pool.turn h i).env ∧
      ∀ j, ((pool.turn h i).threads j).Guarantees (h j) (C j) (R j) (G j) (Q j)
        (pool.turn h i).env := by
  have hi := hpool i
  unfold turn
  cases hnext : pool.threads i with
  | pure a => exact ⟨hT _, hpool⟩
  | op o k =>
      rw [hnext] at hi hscheduled
      obtain ⟨hG, hk⟩ := hi pool.env (hrefl i pool.env) hscheduled
      refine ⟨hGT i _ _ hG, fun j => ?_⟩
      by_cases hij : j = i
      · subst hij
        simpa only [advance, Function.update_self] using hk
      · simp only [advance, Function.update_of_ne hij]
        exact (hpool j).interfere (htrans j) (hGR i j _ _ (Ne.symm hij) hG)

/-- Programs that guarantee what the others rely on, run in any interleaving: each of them
stays verified, and the environment moves along whatever the guarantees have in common. -/
theorem play_guarantees {pool : Pool Op E ι α} {T : E → E → Prop} (turns : List ι)
    (htrans : ∀ i {e₁ e₂ e₃}, R i e₁ e₂ → R i e₂ e₃ → R i e₁ e₃) (hrefl : ∀ i e, R i e e)
    (hGR : ∀ i j e e', i ≠ j → G i e e' → R j e e')
    (hT : ∀ e, T e e) (hTtrans : ∀ {e₁ e₂ e₃}, T e₁ e₂ → T e₂ e₃ → T e₁ e₃)
    (hGT : ∀ i e e', G i e e' → T e e') (hpermitted : pool.Permitted h C turns)
    (hpool : ∀ i, (pool.threads i).Guarantees (h i) (C i) (R i) (G i) (Q i) pool.env) :
    T pool.env (pool.play h turns).env ∧
      ∀ i, ((pool.play h turns).threads i).Guarantees (h i) (C i) (R i) (G i) (Q i)
        (pool.play h turns).env := by
  induction turns generalizing pool with
  | nil => exact ⟨hT _, hpool⟩
  | cons i rest ih =>
      obtain ⟨hfirst, hthreads⟩ :=
        turn_guarantees i htrans hrefl hGR hT hGT hpermitted.1 hpool
      obtain ⟨hlast, hfinal⟩ := ih hpermitted.2 hthreads
      exact ⟨hTtrans hfirst hlast, hfinal⟩

end Pool

/-! ## Procedures -/

theorem Prog.bind_pure (p : Prog Op α) : p.bind .pure = p := by
  induction p with
  | pure a => rfl
  | op o k ih => exact congrArg (Prog.op o) (funext ih)

theorem Prog.bind_bind {δ : Type} (p : Prog Op α) (f : α → Prog Op γ) (g : γ → Prog Op δ) :
    (p.bind f).bind g = p.bind fun a => (f a).bind g := by
  induction p with
  | pure a => rfl
  | op o k ih => exact congrArg (Prog.op o) (funext ih)

namespace Proc

variable {ε σ τ β : Type}

/-- Nested sequences can be read from the front. -/
theorem bind_assoc (m : Proc Op ε σ α) (f : α → Proc Op ε σ γ) (g : γ → Proc Op ε σ β) :
    m >>= f >>= g = m >>= fun a => f a >>= g := by
  funext s
  show ((m s).bind _).bind _ = (m s).bind _
  rw [Prog.bind_bind]
  congr 1
  funext ⟨r, s'⟩
  cases r <;> rfl

theorem bind_pure (m : Proc Op ε σ α) : m >>= Pure.pure = m := by
  funext s
  show (m s).bind _ = m s
  conv_rhs => rw [← Prog.bind_pure (m s)]
  congr 1
  funext ⟨r, s'⟩
  cases r <;> rfl

/-- `Guarantees` of a procedure run from `s`, with a postcondition on both exits. -/
def Guarantees (h : Handler Op E) (C : (β : Type) → Op β → E → Prop) (R G : E → E → Prop)
    (m : Proc Op ε σ α) (s : σ) (e : E) (Q : Except ε α → σ → E → Prop) : Prop :=
  (m s).Guarantees h C R G (fun r e' => Q r.1 r.2 e') e

variable {h : Handler Op E} {C : (β : Type) → Op β → E → Prop} {R G : E → E → Prop}
variable {s : σ} {e : E}

theorem Guarantees.mono {m : Proc Op ε σ α} {Q Q' : Except ε α → σ → E → Prop}
    (hm : Guarantees h C R G m s e Q) (hQ : ∀ r s' e', Q r s' e' → Q' r s' e') :
    Guarantees h C R G m s e Q' :=
  Prog.Guarantees.mono hm fun r e' => hQ r.1 r.2 e'

@[simp]
theorem guarantees_pure {a : α} {Q : Except ε α → σ → E → Prop} :
    Guarantees h C R G (Pure.pure a : Proc Op ε σ α) s e Q ↔ ∀ e', R e e' → Q (.ok a) s e' :=
  Iff.rfl

@[simp]
theorem guarantees_raise {x : ε} {Q : Except ε α → σ → E → Prop} :
    Guarantees h C R G (raise x : Proc Op ε σ α) s e Q ↔ ∀ e', R e e' → Q (.error x) s e' :=
  Iff.rfl

/-- Reading hands the object at hand to the rest. -/
@[simp]
theorem guarantees_read_bind {f : σ → Proc Op ε σ γ} {Q : Except ε γ → σ → E → Prop} :
    Guarantees h C R G (read >>= f) s e Q ↔ Guarantees h C R G (f s) s e Q :=
  Iff.rfl

/-- A mutation hands the mutated object to the rest. -/
@[simp]
theorem guarantees_mutate_bind {update : σ → σ} {f : Unit → Proc Op ε σ γ}
    {Q : Except ε γ → σ → E → Prop} :
    Guarantees h C R G (mutate update >>= f) s e Q ↔
      Guarantees h C R G (f ()) (update s) e Q :=
  Iff.rfl

@[simp]
theorem guarantees_mutate {update : σ → σ} {Q : Except ε Unit → σ → E → Prop} :
    Guarantees h C R G (mutate update : Proc Op ε σ Unit) s e Q ↔
      ∀ e', R e e' → Q (.ok ()) (update s) e' :=
  Iff.rfl

/-- A computed value or exception. -/
theorem guarantees_ofExcept_bind {r : Except ε α} {f : α → Proc Op ε σ γ}
    {Q : Except ε γ → σ → E → Prop} :
    Guarantees h C R G (ofExcept r >>= f) s e Q ↔
      (∀ a, r = .ok a → Guarantees h C R G (f a) s e Q) ∧
        ∀ x, r = .error x → ∀ e', R e e' → Q (.error x) s e' := by
  cases r with
  | ok a => exact ⟨fun hf => ⟨fun _ heq => Except.ok.inj heq ▸ hf, nofun⟩, fun hf => hf.1 a rfl⟩
  | error x =>
      exact ⟨fun hQ => ⟨nofun, fun _ heq => Except.error.inj heq ▸ hQ⟩, fun hQ => hQ.2 x rfl⟩

/-- An effect whose reply may be an exception. -/
theorem Guarantees.request_bind {o : Op (Except ε α)} {f : α → Proc Op ε σ γ}
    {Q : Except ε γ → σ → E → Prop}
    (ho : ∀ e', R e e' → C _ o e' → G e' (h _ o e').2 ∧
      (∀ a, (h _ o e').1 = .ok a → Guarantees h C R G (f a) s (h _ o e').2 Q) ∧
      ∀ x, (h _ o e').1 = .error x → ∀ e'', R (h _ o e').2 e'' → Q (.error x) s e'') :
    Guarantees h C R G (request o >>= f) s e Q := by
  intro e' hR hC
  obtain ⟨hG, hok, herror⟩ := ho e' hR hC
  refine ⟨hG, ?_⟩
  cases hreply : (h _ o e').1 with
  | ok a => exact hok a hreply
  | error x => exact herror x hreply

/-- What neither the procedure nor the others break is still true at its exits. -/
theorem Guarantees.frame {m : Proc Op ε σ α} {Q : Except ε α → σ → E → Prop} {F : E → Prop}
    (hm : Guarantees h C R G m s e Q) (hR : ∀ {e e'}, F e → R e e' → F e')
    (hG : ∀ {e e'}, F e → G e e' → F e') (he : F e) :
    Guarantees h C R G m s e fun r s' e' => Q r s' e' ∧ F e' :=
  Prog.Guarantees.frame hm hR hG he

/-- A procedure that only performs effects an invariant survives. -/
theorem Ensures.guarantees {P : (β : Type) → Op β → Prop} {m : Proc Op ε σ α}
    {Q : Except ε α → σ → Prop} {I : E → Prop} (hm : Ensures P m s Q)
    (hstable : ∀ {e e'}, I e → R e e' → I e')
    (hop : ∀ β (o : Op β) e, P β o → I e → G e (h β o e).2 ∧ I (h β o e).2) (he : I e) :
    Guarantees h C R G m s e fun r s' e' => Q r s' ∧ I e' :=
  Prog.All.guarantees hm hstable hop he

/-- An effect that cannot raise. -/
theorem Guarantees.perform_bind {o : Op α} {f : α → Proc Op ε σ γ}
    {Q : Except ε γ → σ → E → Prop}
    (ho : ∀ e', R e e' → C _ o e' → G e' (h _ o e').2 ∧
      Guarantees h C R G (f (h _ o e').1) s (h _ o e').2 Q) :
    Guarantees h C R G (perform o >>= f) s e Q :=
  ho

/-- Sequencing with the postcondition of the first part in between. -/
theorem Guarantees.bind {m : Proc Op ε σ α} {f : α → Proc Op ε σ γ}
    {P : Except ε α → σ → E → Prop} {Q : Except ε γ → σ → E → Prop} (hrefl : ∀ e, R e e)
    (hm : Guarantees h C R G m s e P)
    (hok : ∀ a s' e', P (.ok a) s' e' → Guarantees h C R G (f a) s' e' Q)
    (herror : ∀ x s' e', P (.error x) s' e' → ∀ e'', R e' e'' → Q (.error x) s' e'') :
    Guarantees h C R G (m >>= f) s e Q := by
  refine Prog.Guarantees.bind hrefl hm ?_
  rintro ⟨r, s'⟩ e' hP
  cases r with
  | ok a => exact hok a s' e' hP
  | error x => exact herror x s' e' hP

/-- A handled body with its postcondition in between. -/
theorem Guarantees.tryCatch {m : Proc Op ε σ α} {handler : ε → Proc Op ε σ α}
    {P Q : Except ε α → σ → E → Prop} (hrefl : ∀ e, R e e)
    (hm : Guarantees h C R G m s e P)
    (hok : ∀ a s' e', P (.ok a) s' e' → ∀ e'', R e' e'' → Q (.ok a) s' e'')
    (herror : ∀ x s' e', P (.error x) s' e' → Guarantees h C R G (handler x) s' e' Q) :
    Guarantees h C R G (Proc.tryCatch m handler) s e Q := by
  refine Prog.Guarantees.bind hrefl hm ?_
  rintro ⟨r, s'⟩ e' hP
  cases r with
  | ok a => exact hok a s' e' hP
  | error x => exact herror x s' e' hP

end Proc

/-! ## Environments with notes -/

section Notes

variable {E' ε σ : Type} {h : Handler Op E} {h' : Handler Op E'} {f : E → E'}

/-- A program runs alike where it is answered alike. -/
theorem Prog.run_map (hf : ∀ β (o : Op β) e, ((h β o e).1, f (h β o e).2) = h' β o (f e))
    (p : Prog Op α) (e : E) : ((p.run h e).1, f (p.run h e).2) = p.run h' (f e) := by
  induction p generalizing e with
  | pure a => rfl
  | op o k ih =>
      show (((k (h _ o e).1).run h (h _ o e).2).1, f ((k (h _ o e).1).run h (h _ o e).2).2) =
        (k (h' _ o (f e)).1).run h' (h' _ o (f e)).2
      rw [ih, ← hf _ o e]

/-- Notes can be forgotten. -/
theorem Proc.exec_map (hf : ∀ β (o : Op β) e, ((h β o e).1, f (h β o e).2) = h' β o (f e))
    {m : Proc Op ε σ α} {s s' : σ} {e e' : E} {r : Except ε α}
    (hm : m.exec h s e = ⟨r, s', e'⟩) : m.exec h' s (f e) = ⟨r, s', f e'⟩ := by
  have hrun := Prog.run_map hf (m s) e
  unfold Proc.exec at hm ⊢
  rw [← hrun]
  obtain ⟨rfl, rfl, rfl⟩ := Exit.mk.inj hm
  rfl

/-- Notes can be taken. -/
theorem Proc.exec_noted (hf : ∀ β (o : Op β) e, ((h β o e).1, f (h β o e).2) = h' β o (f e))
    {m : Proc Op ε σ α} {s s' : σ} {e : E} {d : E'} {r : Except ε α}
    (hm : m.exec h' s (f e) = ⟨r, s', d⟩) : ∃ e', m.exec h s e = ⟨r, s', e'⟩ ∧ f e' = d := by
  generalize hexit : m.exec h s e = exit
  obtain ⟨r', s'', e'⟩ := exit
  obtain ⟨rfl, rfl, rfl⟩ := Exit.mk.inj (hm.symm.trans (exec_map hf hexit))
  exact ⟨e', rfl, rfl⟩

end Notes

/-! ## Undisturbed runs -/

/-- Every effect of a run is one the schedule permits. -/
def Prog.Scheduled (h : Handler Op E) (C : (β : Type) → Op β → E → Prop) : Prog Op α → E → Prop
  | .pure _, _ => True
  | .op o k, e => C _ o e ∧ (k (h _ o e).1).Scheduled h C (h _ o e).2

theorem Prog.All.scheduled {P : (β : Type) → Op β → Prop} {Q : α → Prop} {p : Prog Op α}
    {h : Handler Op E} {C : (β : Type) → Op β → E → Prop} (hp : p.All P Q)
    (hop : ∀ β (o : Op β) e, P β o → C β o e) (e : E) : p.Scheduled h C e := by
  induction p generalizing e with
  | pure a => trivial
  | op o k ih => exact ⟨hop _ o e hp.1, ih _ (hp.2 _) _⟩

/-- An invariant that permits every effect. -/
theorem Prog.scheduled_of_invariant {h : Handler Op E} {C : (β : Type) → Op β → E → Prop}
    {I : E → Prop} (hC : ∀ β (o : Op β) e, I e → C β o e)
    (hI : ∀ β (o : Op β) e, I e → I (h β o e).2) (p : Prog Op α) {e : E} (he : I e) :
    p.Scheduled h C e := by
  induction p generalizing e with
  | pure a => trivial
  | op o k ih => exact ⟨hC _ o e he, ih _ (hI _ o e he)⟩

theorem Prog.scheduled_any {h : Handler Op E} {i : ι} (p : Prog Op α) (e : E) :
    p.Scheduled h (Schedule.any i) e :=
  p.scheduled_of_invariant (I := fun _ => True) (fun _ _ _ _ => trivial) (fun _ _ _ _ => trivial)
    trivial

theorem Prog.scheduled_bind {h : Handler Op E} {C : (β : Type) → Op β → E → Prop} {p : Prog Op α}
    {f : α → Prog Op γ} {e : E} :
    (p.bind f).Scheduled h C e ↔
      p.Scheduled h C e ∧ (f (p.run h e).1).Scheduled h C (p.run h e).2 := by
  induction p generalizing e with
  | pure a => exact (iff_of_eq (true_and _)).symm
  | op o k ih => exact (and_congr_right fun _ => ih _).trans and_assoc.symm

/-- The rest of a sequence is only run from a normal exit. -/
theorem Proc.scheduled_bind {ε σ : Type} {h : Handler Op E} {C : (β : Type) → Op β → E → Prop}
    {m : Proc Op ε σ α} {f : α → Proc Op ε σ γ} {s s' : σ} {e e' : E} {a : α}
    (hm : (m s).Scheduled h C e) (hexec : m.exec h s e = ⟨.ok a, s', e'⟩)
    (hf : (f a s').Scheduled h C e') : ((m >>= f) s).Scheduled h C e := by
  have hrun : (m s).run h e = ((.ok a, s'), e') :=
    Prod.ext (Prod.ext (congrArg Exit.result hexec) (congrArg Exit.state hexec))
      (congrArg Exit.env hexec)
  refine Prog.scheduled_bind.mpr ⟨hm, ?_⟩
  rw [hrun]
  exact hf

/-- A handler is only run from an exceptional exit. -/
theorem Proc.scheduled_tryCatch {ε σ : Type} {h : Handler Op E}
    {C : (β : Type) → Op β → E → Prop} {m : Proc Op ε σ α} {handler : ε → Proc Op ε σ α}
    {s s' : σ} {e e' : E} {a : α} (hm : (m s).Scheduled h C e)
    (hexec : m.exec h s e = ⟨.ok a, s', e'⟩) :
    ((Proc.tryCatch m handler) s).Scheduled h C e := by
  have hrun : (m s).run h e = ((.ok a, s'), e') :=
    Prod.ext (Prod.ext (congrArg Exit.result hexec) (congrArg Exit.state hexec))
      (congrArg Exit.env hexec)
  refine Prog.scheduled_bind.mpr ⟨hm, ?_⟩
  rw [hrun]
  trivial

namespace Pool

variable {ε σ : Type} [DecidableEq ι] {h : ι → Handler Op E} {C : Schedule Op E ι}

/-- Some permitted turns lead from one pool to another. -/
def Reaches (h : ι → Handler Op E) (C : Schedule Op E ι) (pool pool' : Pool Op E ι α) : Prop :=
  ∃ turns, pool.Permitted h C turns ∧ pool.play h turns = pool'

theorem Reaches.any {pool pool' : Pool Op E ι α} (hr : pool.Reaches h C pool') :
    pool.Reaches h Schedule.any pool' :=
  let ⟨turns, _, hturns⟩ := hr
  ⟨turns, permitted_any h turns pool, hturns⟩

theorem play_append (pool : Pool Op E ι α) (turns turns' : List ι) :
    pool.play h (turns ++ turns') = (pool.play h turns).play h turns' := by
  induction turns generalizing pool with
  | nil => rfl
  | cons i rest ih => exact ih _

theorem permitted_append {pool : Pool Op E ι α} {turns turns' : List ι}
    (hp : pool.Permitted h C turns) (hp' : (pool.play h turns).Permitted h C turns') :
    pool.Permitted h C (turns ++ turns') := by
  induction turns generalizing pool with
  | nil => exact hp'
  | cons i rest ih => exact ⟨hp.1, ih hp.2 hp'⟩

theorem Reaches.trans {pool pool' pool'' : Pool Op E ι α} (hr : pool.Reaches h C pool')
    (hr' : pool'.Reaches h C pool'') : pool.Reaches h C pool'' := by
  obtain ⟨turns, hpermitted, rfl⟩ := hr
  obtain ⟨turns', hpermitted', rfl⟩ := hr'
  exact ⟨turns ++ turns', permitted_append hpermitted hpermitted', play_append pool turns turns'⟩

/-- A thread may run the first part of its program undisturbed. -/
theorem reaches_run {pool : Pool Op E ι α} {i : ι} {p : Prog Op γ} {f : γ → Prog Op α}
    (hthread : pool.threads i = p.bind f) (hp : p.Scheduled (h i) (C i) pool.env) :
    pool.Reaches h C
      ⟨Function.update pool.threads i (f (p.run (h i) pool.env).1), (p.run (h i) pool.env).2⟩ := by
  induction p generalizing pool with
  | pure a =>
      refine ⟨[], trivial, ?_⟩
      show pool = ⟨Function.update pool.threads i (f a), pool.env⟩
      rw [show f a = pool.threads i from hthread.symm, Function.update_eq_self]
  | op o k ih =>
      have hturn : pool.turn h i = pool.advance (h i) i o fun b => (k b).bind f := by
        unfold turn
        rw [hthread]
        rfl
      have hnext : (pool.turn h i).threads i = (k (h i _ o pool.env).1).bind f := by
        rw [hturn]
        exact Function.update_self ..
      have henv : (pool.turn h i).env = (h i _ o pool.env).2 := by
        rw [hturn]
        rfl
      obtain ⟨turns, hpermitted, hturns⟩ := ih _ hnext (henv ▸ hp.2)
      refine ⟨i :: turns, ⟨?_, hpermitted⟩, hturns.trans ?_⟩
      · rw [hthread]
        exact hp.1
      · rw [hturn]
        simp only [advance, Function.update_idem]
        rfl

/-- A thread may run the first part of its procedure undisturbed. -/
theorem reaches_exec {pool : Pool Op E ι (Except ε α × σ)} {i : ι} {m : Proc Op ε σ γ}
    {f : γ → Proc Op ε σ α} {s s' : σ} {e e' : E} {c : γ}
    (hthread : pool.threads i = (m >>= f) s) (henv : pool.env = e)
    (hscheduled : (m s).Scheduled (h i) (C i) e) (hm : m.exec (h i) s e = ⟨.ok c, s', e'⟩) :
    ∃ pool', pool.Reaches h C pool' ∧ pool'.threads i = f c s' ∧ pool'.env = e' ∧
      ∀ j, j ≠ i → pool'.threads j = pool.threads j := by
  subst henv
  have hrun : (m s).run (h i) pool.env = ((.ok c, s'), e') := by
    have hresult := congrArg Exit.result hm
    have hstate := congrArg Exit.state hm
    have henv := congrArg Exit.env hm
    exact Prod.ext (Prod.ext hresult hstate) henv
  have hreach := reaches_run (show pool.threads i = (m s).bind _ from hthread) hscheduled
  rw [hrun] at hreach
  exact ⟨_, hreach, Function.update_self .., rfl, fun j hj => Function.update_of_ne hj ..⟩

end Pool

end Interaction
