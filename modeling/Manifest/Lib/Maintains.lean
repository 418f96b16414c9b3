import Manifest.Lib.Program

/-!
# Invariants of procedures

An invariant relates the mutable object to the environment.  A procedure maintains it when
every run that starts in it ends in it, on both exits.  The rules need no postconditions,
so that long procedures are checked piece by piece.

Main results:

- Theorems `Proc.Maintains.bind` and `Proc.Maintains.tryCatch`: compound procedures.
- Theorem `Proc.Maintains.meets`: an invariant as a postcondition.
- Theorems `Proc.Performs.bind` and `Proc.Performs.tryCatch`: the effects of a compound
  procedure are those of its parts.
- Theorems `Proc.Raises.bind` and `Proc.Raises.tryCatch`: so are its exceptions.
-/

set_option autoImplicit false

namespace Interaction

/-- The observer that records nothing. -/
def unobserved {Op : Type → Type} {E : Type} : Observer Op E Empty :=
  fun _ _ _ => []

namespace Proc

variable {Op : Type → Type} {ε σ τ E α γ : Type}

/-- However it ends, the procedure leaves the invariant it started in. -/
def Maintains (h : Handler Op E) (I : σ → E → Prop) (m : Proc Op ε σ α) : Prop :=
  ∀ s e, I s e → I (m.exec h s e).state (m.exec h s e).env

namespace Maintains

variable {h : Handler Op E} {I : σ → E → Prop}

theorem pure (a : α) : Maintains h I (Pure.pure a : Proc Op ε σ α) :=
  fun _ _ hI => hI

theorem raise (x : ε) : Maintains h I (Proc.raise x : Proc Op ε σ α) :=
  fun _ _ hI => hI

theorem read : Maintains h I (Proc.read : Proc Op ε σ σ) :=
  fun _ _ hI => hI

theorem ofExcept (r : Except ε α) : Maintains h I (Proc.ofExcept r : Proc Op ε σ α) :=
  fun _ _ hI => hI

theorem mutate {f : σ → σ} (hf : ∀ s e, I s e → I (f s) e) :
    Maintains h I (Proc.mutate f : Proc Op ε σ Unit) :=
  hf

theorem lift {f : σ → Except ε α × σ} (hf : ∀ s e, I s e → I (f s).2 e) :
    Maintains h I (Proc.lift f : Proc Op ε σ α) :=
  hf

theorem perform {o : Op α} (ho : ∀ s e, I s e → I s (h _ o e).2) :
    Maintains h I (Proc.perform o : Proc Op ε σ α) :=
  ho

theorem request {o : Op (Except ε α)} (ho : ∀ s e, I s e → I s (h _ o e).2) :
    Maintains h I (Proc.request o : Proc Op ε σ α) :=
  ho

/-- The rest starts where the first part ends. -/
theorem bind {m : Proc Op ε σ α} {f : α → Proc Op ε σ γ} (hm : Maintains h I m)
    (hf : ∀ a, Maintains h I (f a)) : Maintains h I (m >>= f) := by
  intro s e hI
  have hfirst := hm s e hI
  rw [exec_bind]
  rcases hx : m.exec h s e with ⟨r, s', e'⟩
  rw [hx] at hfirst
  cases r with
  | ok a => exact hf a s' e' hfirst
  | error x => exact hfirst

/-- What follows a computed value may use how it was computed. -/
theorem ofExcept_bind {r : Except ε α} {f : α → Proc Op ε σ γ}
    (hf : ∀ a, r = .ok a → Maintains h I (f a)) : Maintains h I (Proc.ofExcept r >>= f) := by
  cases r with
  | ok a => exact hf a rfl
  | error x => exact fun _ _ hI => hI

/-- So does the handler of an exception. -/
theorem tryCatch {m : Proc Op ε σ α} {handler : ε → Proc Op ε σ α} (hm : Maintains h I m)
    (hhandler : ∀ x, Maintains h I (handler x)) : Maintains h I (Proc.tryCatch m handler) := by
  intro s e hI
  have hbody := hm s e hI
  rw [exec_tryCatch]
  rcases hx : m.exec h s e with ⟨r, s', e'⟩
  rw [hx] at hbody
  cases r with
  | ok a => exact hbody
  | error x => exact hhandler x s' e' hbody

/-- A procedure whose effects and whose change of the object keep an invariant. -/
theorem of_ensures {P : (β : Type) → Op β → Prop} {R : σ → σ → Prop} {m : Proc Op ε σ α}
    (hm : ∀ s, Ensures P m s fun _ s' => R s s')
    (hop : ∀ β (o : Op β) s e, P β o → I s e → I s (h _ o e).2)
    (hR : ∀ s s' e, R s s' → I s e → I s' e) : Maintains h I m := by
  intro s e hI
  have henv : I s (m.exec h s e).env := (hm s).env_rel (R := fun e e' => I s e → I s e')
    (fun _ hI => hI) (fun hfirst hrest hI => hrest (hfirst hI)) (fun β o e => hop β o s e) e hI
  exact hR s _ _ ((hm s).exec h e) henv

/-- An invariant holds at every exit. -/
theorem meets {O : Type} {obs : Observer Op E O} {J : O → Prop} {m : Proc Op ε σ α} {s : σ} {e : E}
    (hm : Maintains h I m) (hI : I s e) (hJ : ∀ o ∈ m.log h obs s e, J o) :
    Meets h obs s e m J fun x => I x.state x.env :=
  ⟨hJ, hm s e hI⟩

end Maintains

/-! ## The effects a procedure performs -/

/-- Every effect the procedure can perform is in the class, whatever the replies. -/
def Performs (P : (β : Type) → Op β → Prop) (m : Proc Op ε σ α) : Prop :=
  ∀ s, Ensures P m s fun _ _ => True

namespace Performs

variable {P : (β : Type) → Op β → Prop}

theorem pure (a : α) : Performs P (Pure.pure a : Proc Op ε σ α) :=
  fun _ => trivial

theorem raise (x : ε) : Performs P (Proc.raise x : Proc Op ε σ α) :=
  fun _ => trivial

theorem read : Performs P (Proc.read : Proc Op ε σ σ) :=
  fun _ => trivial

theorem ofExcept (r : Except ε α) : Performs P (Proc.ofExcept r : Proc Op ε σ α) :=
  fun _ => trivial

theorem mutate (f : σ → σ) : Performs P (Proc.mutate f : Proc Op ε σ Unit) :=
  fun _ => trivial

theorem lift (f : σ → Except ε α × σ) : Performs P (Proc.lift f : Proc Op ε σ α) :=
  fun _ => trivial

theorem perform {o : Op α} (ho : P _ o) : Performs P (Proc.perform o : Proc Op ε σ α) :=
  fun _ => ensures_perform.mpr ⟨ho, fun _ => trivial⟩

theorem request {o : Op (Except ε α)} (ho : P _ o) :
    Performs P (Proc.request o : Proc Op ε σ α) :=
  fun _ => ensures_request.mpr ⟨ho, fun _ => trivial⟩

theorem send {merge : σ → τ → σ} {o : σ → Op (Except ε α × τ)} (ho : ∀ s, P _ (o s)) :
    Performs P (Proc.send merge o : Proc Op ε σ α) :=
  fun s => ensures_send.mpr ⟨ho s, fun _ _ => trivial⟩

/-- A sequence performs what its parts perform. -/
theorem bind {m : Proc Op ε σ α} {f : α → Proc Op ε σ γ} (hm : Performs P m)
    (hf : ∀ a, Performs P (f a)) : Performs P (m >>= f) := by
  refine fun s => ensures_bind.mpr ((hm s).mono fun r s' _ => ?_)
  cases r with
  | ok a => exact hf a s'
  | error x => trivial

/-- So does a body with its handler. -/
theorem tryCatch {m : Proc Op ε σ α} {handler : ε → Proc Op ε σ α} (hm : Performs P m)
    (hhandler : ∀ x, Performs P (handler x)) : Performs P (Proc.tryCatch m handler) := by
  refine fun s => ensures_tryCatch.mpr ((hm s).mono fun r s' _ => ?_)
  cases r with
  | ok a => trivial
  | error x => exact hhandler x s'

/-- What an observer sees of them. -/
theorem forall_log {O : Type} {obs : Observer Op E O} {K : O → Prop} {m : Proc Op ε σ α}
    (hm : Performs P m) (h : Handler Op E)
    (hobs : ∀ β (o : Op β) r, P β o → ∀ seen ∈ obs β o r, K seen) (s : σ) (e : E) :
    ∀ seen ∈ m.log h obs s e, K seen :=
  (hm s).forall_log h hobs e

end Performs

/-! ## The exceptions a procedure raises -/

/-- Every exception the procedure can raise under the handler is in the class. -/
def Raises (h : Handler Op E) (K : ε → Prop) (m : Proc Op ε σ α) : Prop :=
  ∀ s e x, (m.exec h s e).result = .error x → K x

namespace Raises

variable {h : Handler Op E} {K : ε → Prop}

theorem pure (a : α) : Raises h K (Pure.pure a : Proc Op ε σ α) := by
  intro s e x hx
  cases hx

theorem raise {x : ε} (hx : K x) : Raises h K (Proc.raise x : Proc Op ε σ α) := by
  rintro s e y ⟨⟩
  exact hx

theorem read : Raises h K (Proc.read : Proc Op ε σ σ) := by
  intro s e x hx
  cases hx

theorem mutate (f : σ → σ) : Raises h K (Proc.mutate f : Proc Op ε σ Unit) := by
  intro s e x hx
  cases hx

theorem ofExcept {r : Except ε α} (hr : ∀ x, r = .error x → K x) :
    Raises h K (Proc.ofExcept r : Proc Op ε σ α) :=
  fun _ _ x hx => hr x hx

theorem lift {f : σ → Except ε α × σ} (hf : ∀ s x, (f s).1 = .error x → K x) :
    Raises h K (Proc.lift f : Proc Op ε σ α) :=
  fun s _ x hx => hf s x hx

theorem perform (o : Op α) : Raises h K (Proc.perform o : Proc Op ε σ α) := by
  intro s e x hx
  cases hx

theorem request {o : Op (Except ε α)} (ho : ∀ e x, (h _ o e).1 = .error x → K x) :
    Raises h K (Proc.request o : Proc Op ε σ α) :=
  fun _ e x hx => ho e x hx

theorem send {merge : σ → τ → σ} {o : σ → Op (Except ε α × τ)}
    (ho : ∀ s e x, (h _ (o s) e).1.1 = .error x → K x) :
    Raises h K (Proc.send merge o : Proc Op ε σ α) :=
  fun s e x hx => ho s e x hx

/-- A sequence raises what its parts raise. -/
theorem bind {m : Proc Op ε σ α} {f : α → Proc Op ε σ γ} (hm : Raises h K m)
    (hf : ∀ a, Raises h K (f a)) : Raises h K (m >>= f) := by
  intro s e x hx
  rw [exec_bind] at hx
  rcases hfirst : m.exec h s e with ⟨r, s', e'⟩
  rw [hfirst] at hx
  cases r with
  | ok a => exact hf a s' e' x hx
  | error y =>
      obtain rfl : y = x := Except.error.inj hx
      exact hm s e y (by rw [hfirst])

/-- A sequence whose rest knows something of the result of the first part. -/
theorem bind_of {m : Proc Op ε σ α} {f : α → Proc Op ε σ γ} {P : α → Prop}
    (hm : Raises h K m) (hP : ∀ s e a, (m.exec h s e).result = .ok a → P a)
    (hf : ∀ a, P a → Raises h K (f a)) : Raises h K (m >>= f) := by
  intro s e x hx
  rw [exec_bind] at hx
  rcases hfirst : m.exec h s e with ⟨r, s', e'⟩
  rw [hfirst] at hx
  cases r with
  | ok a => exact hf a (hP s e a (by rw [hfirst])) s' e' x hx
  | error y =>
      obtain rfl : y = x := Except.error.inj hx
      exact hm s e y (by rw [hfirst])

/-- A handled body raises what its handler raises. -/
theorem tryCatch {m : Proc Op ε σ α} {handler : ε → Proc Op ε σ α}
    (hhandler : ∀ x, Raises h K (handler x)) : Raises h K (Proc.tryCatch m handler) := by
  intro s e x hx
  rw [exec_tryCatch] at hx
  rcases hbody : m.exec h s e with ⟨r, s', e'⟩
  rw [hbody] at hx
  cases r with
  | ok a => cases hx
  | error y => exact hhandler y s' e' x hx

/-- A handler that raises the exception it caught, or something in the class. -/
theorem tryCatch_of {m : Proc Op ε σ α} {handler : ε → Proc Op ε σ α} (hm : Raises h K m)
    (hhandler : ∀ x, K x → Raises h K (handler x)) : Raises h K (Proc.tryCatch m handler) := by
  intro s e x hx
  rw [exec_tryCatch] at hx
  rcases hbody : m.exec h s e with ⟨r, s', e'⟩
  rw [hbody] at hx
  cases r with
  | ok a => cases hx
  | error y => exact hhandler y (hm s e y (by rw [hbody])) s' e' x hx

end Raises

/-- A relation between environments kept by every effect. -/
theorem exec_rel {R : E → E → Prop} {h : Handler Op E} (hrefl : ∀ e, R e e)
    (htrans : ∀ {e₁ e₂ e₃}, R e₁ e₂ → R e₂ e₃ → R e₁ e₃)
    (hstep : ∀ β (o : Op β) e, R e (h β o e).2) (m : Proc Op ε σ α) (s : σ) (e : E) :
    R e (m.exec h s e).env :=
  Prog.run_rel_of_log (K := fun _ : Empty => True) hrefl htrans (fun β o e _ => hstep β o e) (m s) e
    fun seen (_ : seen ∈ (m s).log h unobserved e) => trivial

end Proc

end Interaction
