import Manifest.Lib.Program

/-!
# Two runs of procedures

Two procedures that stay in lockstep, effect by effect: they record the same observations
and end with related values, or with the same exception, in related objects and
environments.

Main results:

- Theorems `Proc.Agree.bind` and `Proc.Agree.tryCatch`: sequencing and handling.
- Theorems `Proc.Agree.perform`, `Proc.Agree.request` and `Proc.Agree.send`: effects whose
  replies the handler relates.
- Theorem `Proc.Agree.log_bind_iff`: behind an agreeing prefix the rests decide.
-/

set_option autoImplicit false

namespace Interaction

variable {Op : Type → Type} {ε σ τ E O α β γ δ : Type}

/-- Related values in a related end, or the same exception in a related end. -/
inductive Lockstep (R Rₑ : σ → E → σ → E → Prop) (V : α → β → Prop) :
    Exit ε σ E α → Exit ε σ E β → Prop where
  | ok {a : α} {b : β} {s s' : σ} {e e' : E} (hV : V a b) (hR : R s e s' e') :
      Lockstep R Rₑ V ⟨.ok a, s, e⟩ ⟨.ok b, s', e'⟩
  | error (x : ε) {s s' : σ} {e e' : E} (hR : Rₑ s e s' e') :
      Lockstep R Rₑ V ⟨.error x, s, e⟩ ⟨.error x, s', e'⟩

theorem Lockstep.mono {R R' Rₑ Rₑ' : σ → E → σ → E → Prop} {V W : α → β → Prop}
    {x : Exit ε σ E α} {y : Exit ε σ E β} (h : Lockstep R Rₑ V x y)
    (hR : ∀ s e s' e', R s e s' e' → R' s e s' e')
    (hE : ∀ s e s' e', Rₑ s e s' e' → Rₑ' s e s' e') (hV : ∀ a b, V a b → W a b) :
    Lockstep R' Rₑ' W x y := by
  cases h with
  | ok hab hend => exact .ok (hV _ _ hab) (hR _ _ _ _ hend)
  | error x hend => exact .error x (hE _ _ _ _ hend)

/-- What else holds of the ends. -/
theorem Lockstep.and {R Rₑ P : σ → E → σ → E → Prop} {V : α → β → Prop} {x : Exit ε σ E α}
    {y : Exit ε σ E β} (h : Lockstep R Rₑ V x y) (hP : P x.state x.env y.state y.env) :
    Lockstep (fun s e s' e' => R s e s' e' ∧ P s e s' e') Rₑ V x y := by
  cases h with
  | ok hab hend => exact .ok hab ⟨hend, hP⟩
  | error x hend => exact .error x hend

/-- In lockstep under one relation the ends are related. -/
theorem Lockstep.ends {R : σ → E → σ → E → Prop} {V : α → β → Prop} {x : Exit ε σ E α}
    {y : Exit ε σ E β} (h : Lockstep R R V x y) : R x.state x.env y.state y.env := by
  cases h with
  | ok hab hend => exact hend
  | error x hend => exact hend

namespace Proc

variable (h : Handler Op E) (obs : Observer Op E O)

/-- From objects and environments related by `R` two procedures record the same and end in
lockstep. -/
def Agree (R R' Rₑ : σ → E → σ → E → Prop) (V : α → β → Prop) (m : Proc Op ε σ α)
    (m' : Proc Op ε σ β) : Prop :=
  ∀ s e s' e', R s e s' e' →
    m.log h obs s e = m'.log h obs s' e' ∧
      Lockstep R' Rₑ V (m.exec h s e) (m'.exec h s' e')

variable {h obs} {R R' R₁ Rₑ R₂ : σ → E → σ → E → Prop} {V : α → β → Prop}

theorem Agree.mono {W : α → β → Prop} {m : Proc Op ε σ α} {m' : Proc Op ε σ β}
    (hm : Agree h obs R R₁ R₂ V m m') (hR : ∀ s e s' e', R₁ s e s' e' → R' s e s' e')
    (hE : ∀ s e s' e', R₂ s e s' e' → Rₑ s e s' e') (hVW : ∀ a b, V a b → W a b) :
    Agree h obs R R' Rₑ W m m' := by
  intro s e s' e' hrel
  obtain ⟨hlog, hend⟩ := hm s e s' e' hrel
  exact ⟨hlog, hend.mono hR hE hVW⟩

/-- A stronger relation to start from. -/
theorem Agree.weaken {m : Proc Op ε σ α} {m' : Proc Op ε σ β}
    (hm : Agree h obs R₁ R' Rₑ V m m') (hR : ∀ s e s' e', R s e s' e' → R₁ s e s' e') :
    Agree h obs R R' Rₑ V m m' :=
  fun s e s' e' hrel => hm s e s' e' (hR s e s' e' hrel)

theorem Agree.pure {a : α} {b : β} (hV : V a b) :
    Agree h obs R R Rₑ V (Pure.pure a : Proc Op ε σ α) (Pure.pure b) :=
  fun _ _ _ _ hR => ⟨rfl, .ok hV hR⟩

theorem Agree.raise (x : ε) :
    Agree h obs R R' R V (Proc.raise x : Proc Op ε σ α) (Proc.raise x) :=
  fun _ _ _ _ hR => ⟨rfl, .error x hR⟩

/-- The same value or exception on both sides. -/
theorem Agree.ofExcept {r : Except ε α} (hE : ∀ s e s' e', R s e s' e' → Rₑ s e s' e') :
    Agree h obs R R Rₑ (fun a b => a = b) (Proc.ofExcept r : Proc Op ε σ α)
      (Proc.ofExcept r) := by
  intro s e s' e' hR
  cases r with
  | ok a => exact ⟨rfl, .ok rfl hR⟩
  | error x => exact ⟨rfl, .error x (hE _ _ _ _ hR)⟩

/-- Reading yields what the relation says of the objects. -/
theorem Agree.read {S : σ → σ → Prop} (hS : ∀ s e s' e', R s e s' e' → S s s') :
    Agree h obs R R Rₑ S (Proc.read : Proc Op ε σ σ) Proc.read :=
  fun s e s' e' hR => ⟨rfl, .ok (hS s e s' e' hR) hR⟩

theorem Agree.mutate {f f' : σ → σ} (hf : ∀ s e s' e', R s e s' e' → R' (f s) e (f' s') e') :
    Agree h obs R R' Rₑ (fun _ _ => True) (Proc.mutate f : Proc Op ε σ Unit)
      (Proc.mutate f') :=
  fun s e s' e' hR => ⟨rfl, .ok trivial (hf s e s' e' hR)⟩

theorem Agree.lift {f : σ → Except ε α × σ} {f' : σ → Except ε β × σ}
    (hf : ∀ s e s' e', R s e s' e' →
      Lockstep R' Rₑ V (⟨(f s).1, (f s).2, e⟩ : Exit ε σ E α) ⟨(f' s').1, (f' s').2, e'⟩) :
    Agree h obs R R' Rₑ V (Proc.lift f) (Proc.lift f') :=
  fun s e s' e' hR => ⟨rfl, hf s e s' e' hR⟩

/-- Effects on environments that the handler keeps related. -/
theorem Agree.perform {o : Op α} {o' : Op β}
    (ho : ∀ s e s' e', R s e s' e' →
      obs _ o (h _ o e) = obs _ o' (h _ o' e') ∧ R' s (h _ o e).2 s' (h _ o' e').2 ∧
        V (h _ o e).1 (h _ o' e').1) :
    Agree h obs R R' Rₑ V (Proc.perform o : Proc Op ε σ α) (Proc.perform o') := by
  intro s e s' e' hR
  obtain ⟨hobs, hstate, hV⟩ := ho s e s' e' hR
  rw [log_perform, log_perform]
  exact ⟨hobs, .ok hV hstate⟩

theorem Agree.request {o : Op (Except ε α)} {o' : Op (Except ε β)}
    (ho : ∀ s e s' e', R s e s' e' →
      obs _ o (h _ o e) = obs _ o' (h _ o' e') ∧
        Lockstep R' Rₑ V (⟨(h _ o e).1, s, (h _ o e).2⟩ : Exit ε σ E α)
          ⟨(h _ o' e').1, s', (h _ o' e').2⟩) :
    Agree h obs R R' Rₑ V (Proc.request o : Proc Op ε σ α) (Proc.request o') := by
  intro s e s' e' hR
  rw [log_request, log_request]
  exact ho s e s' e' hR

theorem Agree.send {merge : σ → τ → σ} {o : σ → Op (Except ε α × τ)}
    {o' : σ → Op (Except ε β × τ)}
    (ho : ∀ s e s' e', R s e s' e' →
      obs _ (o s) (h _ (o s) e) = obs _ (o' s') (h _ (o' s') e') ∧
        Lockstep R' Rₑ V
          (⟨(h _ (o s) e).1.1, merge s (h _ (o s) e).1.2, (h _ (o s) e).2⟩ : Exit ε σ E α)
          ⟨(h _ (o' s') e').1.1, merge s' (h _ (o' s') e').1.2, (h _ (o' s') e').2⟩) :
    Agree h obs R R' Rₑ V (Proc.send merge o) (Proc.send merge o') := by
  intro s e s' e' hR
  rw [log_send, log_send]
  exact ho s e s' e' hR

/-- Sequencing: the rests agree on related values. -/
theorem Agree.bind {W : γ → δ → Prop} {m : Proc Op ε σ α} {m' : Proc Op ε σ β}
    {f : α → Proc Op ε σ γ} {f' : β → Proc Op ε σ δ} (hm : Agree h obs R R₁ Rₑ V m m')
    (hf : ∀ a b, V a b → Agree h obs R₁ R' Rₑ W (f a) (f' b)) :
    Agree h obs R R' Rₑ W (m >>= f) (m' >>= f') := by
  intro s e s' e' hrel
  obtain ⟨hlog, hend⟩ := hm s e s' e' hrel
  rw [log_bind, log_bind, exec_bind, exec_bind]
  rcases hx : m.exec h s e with ⟨r, t, u⟩
  rcases hx' : m'.exec h s' e' with ⟨r', t', u'⟩
  rw [hx, hx'] at hend
  cases hend with
  | ok hV hR =>
      obtain ⟨hlog₂, hrest⟩ := hf _ _ hV t u t' u' hR
      exact ⟨congrArg₂ (· ++ ·) hlog hlog₂, hrest⟩
  | error x hR => exact ⟨congrArg₂ (· ++ ·) hlog rfl, .error x hR⟩

/-- Handling: the handlers agree on the same exception. -/
theorem Agree.tryCatch {m : Proc Op ε σ α} {m' : Proc Op ε σ β}
    {handler : ε → Proc Op ε σ α} {handler' : ε → Proc Op ε σ β}
    (hm : Agree h obs R R' R₁ V m m')
    (hhandler : ∀ x, Agree h obs R₁ R' Rₑ V (handler x) (handler' x)) :
    Agree h obs R R' Rₑ V (Proc.tryCatch m handler) (Proc.tryCatch m' handler') := by
  intro s e s' e' hrel
  obtain ⟨hlog, hend⟩ := hm s e s' e' hrel
  rw [log_tryCatch, log_tryCatch, exec_tryCatch, exec_tryCatch]
  rcases hx : m.exec h s e with ⟨r, t, u⟩
  rcases hx' : m'.exec h s' e' with ⟨r', t', u'⟩
  rw [hx, hx'] at hend
  cases hend with
  | ok hV hR => exact ⟨congrArg₂ (· ++ ·) hlog rfl, .ok hV hR⟩
  | error x hR =>
      obtain ⟨hlog₂, hrest⟩ := hhandler x t u t' u' hR
      exact ⟨congrArg₂ (· ++ ·) hlog hlog₂, hrest⟩

/-! ### Runs from one object and environment -/

/-- One object and one environment. -/
def Same (s : σ) (e : E) (s' : σ) (e' : E) : Prop :=
  s' = s ∧ e' = e

/-- A procedure agrees with itself. -/
theorem Agree.same (m : Proc Op ε σ α) :
    Agree h obs Same Same Same (fun a b => b = a) m m := by
  rintro s e s' e' ⟨rfl, rfl⟩
  refine ⟨rfl, ?_⟩
  rcases m.exec h s' e' with ⟨r, t, u⟩
  cases r with
  | ok a => exact .ok rfl ⟨rfl, rfl⟩
  | error x => exact .error x ⟨rfl, rfl⟩

/-- Where the first returns, so does the second. -/
theorem Agree.exec_ok {m : Proc Op ε σ α} {m' : Proc Op ε σ β}
    (hm : Agree h obs Same Same Same V m m') {s t : σ} {e u : E} {a : α}
    (hx : m.exec h s e = ⟨.ok a, t, u⟩) : ∃ b, m'.exec h s e = ⟨.ok b, t, u⟩ ∧ V a b := by
  obtain ⟨-, hend⟩ := hm s e s e ⟨rfl, rfl⟩
  rcases hx' : m'.exec h s e with ⟨r, t', u'⟩
  rw [hx, hx'] at hend
  cases hend with
  | ok hV hR =>
      obtain ⟨rfl, rfl⟩ := hR
      exact ⟨_, rfl, hV⟩

/-- Behind procedures that agree the logs of the rests decide. -/
theorem Agree.log_bind_iff {m : Proc Op ε σ α} {m' : Proc Op ε σ β} {f : α → Proc Op ε σ γ}
    {f' : β → Proc Op ε σ δ} (hm : Agree h obs Same Same Same V m m') (s : σ) (e : E) :
    (m >>= f).log h obs s e = (m' >>= f').log h obs s e ↔
      ∀ a b t u, m.exec h s e = ⟨.ok a, t, u⟩ → m'.exec h s e = ⟨.ok b, t, u⟩ → V a b →
        (f a).log h obs t u = (f' b).log h obs t u := by
  obtain ⟨hlog, hend⟩ := hm s e s e ⟨rfl, rfl⟩
  rw [log_bind, log_bind, hlog]
  rcases hx : m.exec h s e with ⟨r, t, u⟩
  rcases hx' : m'.exec h s e with ⟨r', t', u'⟩
  rw [hx, hx'] at hend
  cases hend with
  | error x hR => simp
  | ok hV hR =>
      obtain ⟨rfl, rfl⟩ := hR
      constructor
      · rintro heq a b t u ⟨⟩ ⟨⟩ -
        exact List.append_cancel_left heq
      · intro hrest
        exact congrArg _ (hrest _ _ _ _ rfl rfl hV)

end Proc

end Interaction
