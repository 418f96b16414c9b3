import Manifest.Lib.Program

/-!
# Whole logs

`Proc.Meets` bounds each observation of a run.  `Proc.Yields` speaks about the log as one
list, together with the exit, so that the order and the number of observations can be
stated.

Main results:

- Theorems `Proc.yields_bind` and `Proc.yields_tryCatch`: logs of compound procedures are
  concatenated.
- Theorem `Proc.Yields.bind`: the same with a postcondition in between.
-/

set_option autoImplicit false

namespace Interaction

namespace Proc

variable {Op : Type → Type} {ε σ τ E O α β γ : Type}
variable (h : Handler Op E) (obs : Observer Op E O) (s : σ) (e : E)

/-- From `s` and `e` the log and the exit of a procedure are in `Q`. -/
def Yields (m : Proc Op ε σ α) (Q : List O → Exit ε σ E α → Prop) : Prop :=
  Q (m.log h obs s e) (m.exec h s e)

variable {h obs s e}

theorem Yields.mono {m : Proc Op ε σ α} {Q Q' : List O → Exit ε σ E α → Prop}
    (hm : Yields h obs s e m Q) (hQ : ∀ l x, Q l x → Q' l x) : Yields h obs s e m Q' :=
  hQ _ _ hm

@[simp]
theorem yields_pure {a : α} {Q : List O → Exit ε σ E α → Prop} :
    Yields h obs s e (Pure.pure a : Proc Op ε σ α) Q ↔ Q [] ⟨.ok a, s, e⟩ :=
  Iff.rfl

@[simp]
theorem yields_raise {x : ε} {Q : List O → Exit ε σ E α → Prop} :
    Yields h obs s e (Proc.raise x : Proc Op ε σ α) Q ↔ Q [] ⟨.error x, s, e⟩ :=
  Iff.rfl

@[simp]
theorem yields_read {Q : List O → Exit ε σ E σ → Prop} :
    Yields h obs s e (Proc.read : Proc Op ε σ σ) Q ↔ Q [] ⟨.ok s, s, e⟩ :=
  Iff.rfl

@[simp]
theorem yields_mutate {f : σ → σ} {Q : List O → Exit ε σ E Unit → Prop} :
    Yields h obs s e (Proc.mutate f : Proc Op ε σ Unit) Q ↔ Q [] ⟨.ok (), f s, e⟩ :=
  Iff.rfl

@[simp]
theorem yields_lift {f : σ → Except ε α × σ} {Q : List O → Exit ε σ E α → Prop} :
    Yields h obs s e (Proc.lift f : Proc Op ε σ α) Q ↔ Q [] ⟨(f s).1, (f s).2, e⟩ :=
  Iff.rfl

@[simp]
theorem yields_ofExcept {r : Except ε α} {Q : List O → Exit ε σ E α → Prop} :
    Yields h obs s e (Proc.ofExcept r : Proc Op ε σ α) Q ↔ Q [] ⟨r, s, e⟩ :=
  Iff.rfl

@[simp]
theorem yields_perform {o : Op α} {Q : List O → Exit ε σ E α → Prop} :
    Yields h obs s e (Proc.perform o : Proc Op ε σ α) Q ↔
      Q (obs _ o (h _ o e)) ⟨.ok (h _ o e).1, s, (h _ o e).2⟩ := by
  simp [Yields]

@[simp]
theorem yields_request {o : Op (Except ε α)} {Q : List O → Exit ε σ E α → Prop} :
    Yields h obs s e (Proc.request o : Proc Op ε σ α) Q ↔
      Q (obs _ o (h _ o e)) ⟨(h _ o e).1, s, (h _ o e).2⟩ := by
  simp [Yields]

@[simp]
theorem yields_send {merge : σ → τ → σ} {o : σ → Op (Except ε α × τ)}
    {Q : List O → Exit ε σ E α → Prop} :
    Yields h obs s e (Proc.send merge o : Proc Op ε σ α) Q ↔
      Q (obs _ (o s) (h _ (o s) e))
        ⟨(h _ (o s) e).1.1, merge s (h _ (o s) e).1.2, (h _ (o s) e).2⟩ := by
  simp [Yields]

/-- The log of a sequence is the first log, then the log of the rest. -/
@[simp]
theorem yields_bind {m : Proc Op ε σ α} {f : α → Proc Op ε σ γ}
    {Q : List O → Exit ε σ E γ → Prop} :
    Yields h obs s e (m >>= f) Q ↔
      Yields h obs s e m fun l x =>
        match x with
        | ⟨.ok a, s', e'⟩ => Yields h obs s' e' (f a) fun l' => Q (l ++ l')
        | ⟨.error x, s', e'⟩ => Q l ⟨.error x, s', e'⟩ := by
  unfold Yields
  rw [log_bind, exec_bind]
  rcases m.exec h s e with ⟨r, s', e'⟩
  cases r with
  | ok a => rfl
  | error x => simp

/-- A handled exception adds the log of its handler. -/
@[simp]
theorem yields_tryCatch {m : Proc Op ε σ α} {handler : ε → Proc Op ε σ α}
    {Q : List O → Exit ε σ E α → Prop} :
    Yields h obs s e (Proc.tryCatch m handler) Q ↔
      Yields h obs s e m fun l x =>
        match x with
        | ⟨.ok a, s', e'⟩ => Q l ⟨.ok a, s', e'⟩
        | ⟨.error x, s', e'⟩ => Yields h obs s' e' (handler x) fun l' => Q (l ++ l') := by
  unfold Yields
  rw [log_tryCatch, exec_tryCatch]
  rcases m.exec h s e with ⟨r, s', e'⟩
  cases r with
  | ok a => simp
  | error x => rfl

/-- Sequencing with the postcondition of the first part in between. -/
theorem Yields.bind {m : Proc Op ε σ α} {f : α → Proc Op ε σ γ}
    {P : List O → Exit ε σ E α → Prop} {Q : List O → Exit ε σ E γ → Prop}
    (hm : Yields h obs s e m P)
    (hok : ∀ l a s' e', P l ⟨.ok a, s', e'⟩ →
      Yields h obs s' e' (f a) fun l' => Q (l ++ l'))
    (herror : ∀ l x s' e', P l ⟨.error x, s', e'⟩ → Q l ⟨.error x, s', e'⟩) :
    Yields h obs s e (m >>= f) Q := by
  refine yields_bind.mpr (hm.mono ?_)
  rintro l ⟨r, s', e'⟩ hP
  cases r with
  | ok a => exact hok l a s' e' hP
  | error x => exact herror l x s' e' hP

/-- A handled body with its postcondition in between. -/
theorem Yields.tryCatch {m : Proc Op ε σ α} {handler : ε → Proc Op ε σ α}
    {P Q : List O → Exit ε σ E α → Prop} (hm : Yields h obs s e m P)
    (hok : ∀ l a s' e', P l ⟨.ok a, s', e'⟩ → Q l ⟨.ok a, s', e'⟩)
    (herror : ∀ l x s' e', P l ⟨.error x, s', e'⟩ →
      Yields h obs s' e' (handler x) fun l' => Q (l ++ l')) :
    Yields h obs s e (Proc.tryCatch m handler) Q := by
  refine yields_tryCatch.mpr (hm.mono ?_)
  rintro l ⟨r, s', e'⟩ hP
  cases r with
  | ok a => exact hok l a s' e' hP
  | error x => exact herror l x s' e' hP

/-- What holds of a procedure against every environment, where nothing is observed of its
effects. -/
theorem Ensures.yields {P : (β : Type) → Op β → Prop} {m : Proc Op ε σ α}
    {Q : Except ε α → σ → Prop} (hm : Ensures P m s Q)
    (hobs : ∀ β (o : Op β) r, P β o → obs β o r = []) :
    Yields h obs s e m fun l x => l = [] ∧ Q x.result x.state := by
  refine ⟨List.eq_nil_iff_forall_not_mem.mpr ?_, hm.exec h e⟩
  exact hm.forall_log h (K := fun _ => False)
    (fun β o r ho seen hseen => by simp [hobs β o r ho] at hseen) e

end Proc

end Interaction
