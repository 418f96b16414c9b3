import Mathlib.Order.Lattice
import Mathlib.Order.BoundedOrder.Basic
import Manifest.Governor.Governor

/-!
# Outcomes as a bounded order

Precedence makes outcomes a linear order with `allow` at the bottom and `block` at
the top, and an engine that raises counts as `block`.  Signals of several
evaluators then combine by taking the maximum.

Main results:

- Theorem `strongest_append`: concatenated signals are as strong as the stronger part.
- Theorem `outcome_append`: so are evaluators that run one after the other.
- Theorem `strongest_failClosed`: failing closed is the outcome of the engine's answer.
-/

set_option autoImplicit false

namespace Manifest

instance : LinearOrder DecisionOutcome :=
  LinearOrder.lift' DecisionOutcome.rank fun _ _ => DecisionOutcome.rank_injective

theorem DecisionOutcome.le_def {a b : DecisionOutcome} : a ≤ b ↔ a.rank ≤ b.rank :=
  Iff.rfl

instance : BoundedOrder DecisionOutcome where
  bot := .allow
  bot_le a := Nat.zero_le a.rank
  top := .block
  le_top a := by cases a <;> decide

@[simp]
theorem DecisionOutcome.bot_eq : (⊥ : DecisionOutcome) = .allow :=
  rfl

@[simp]
theorem DecisionOutcome.top_eq : (⊤ : DecisionOutcome) = .block :=
  rfl

@[simp]
theorem max_block (a : DecisionOutcome) : max a .block = .block :=
  max_top_right a

@[simp]
theorem block_max (a : DecisionOutcome) : max .block a = .block :=
  max_top_left a

@[simp]
theorem max_allow (a : DecisionOutcome) : max a .allow = a :=
  max_bot_right a

@[simp]
theorem allow_max (a : DecisionOutcome) : max .allow a = a :=
  max_bot_left a

/-! ## Signals -/

@[simp]
theorem strongest_nil : strongest [] = .allow :=
  rfl

/-- The strongest outcome is a bound, and it is attained. -/
theorem strongest_le_iff {signals : List PolicySignal} {bound : DecisionOutcome} :
    strongest signals ≤ bound ↔ ∀ item ∈ signals, item.outcome ≤ bound := by
  constructor
  · intro h item hmem
    exact le_trans (rank_le_strongest hmem) h
  · intro h
    rcases eq_or_ne (strongest signals) .allow with hallow | hne
    · rw [hallow]
      exact bot_le
    · obtain ⟨item, hmem, heq⟩ := exists_of_strongest rfl hne
      exact heq ▸ h item hmem

theorem strongest_append (xs ys : List PolicySignal) :
    strongest (xs ++ ys) = max (strongest xs) (strongest ys) := by
  refine eq_of_forall_ge_iff fun bound => ?_
  simp only [max_le_iff, strongest_le_iff, List.mem_append, or_imp, forall_and]

@[simp]
theorem strongest_singleton (item : PolicySignal) : strongest [item] = item.outcome :=
  rfl

/-- Only the set of signals matters. -/
theorem strongest_congr {xs ys : List PolicySignal} (h : ∀ item, item ∈ xs ↔ item ∈ ys) :
    strongest xs = strongest ys := by
  refine eq_of_forall_ge_iff fun bound => ?_
  simp only [strongest_le_iff, h]

/-! ## Answers of an engine -/

/-- The outcome of an engine's answer; raising counts as a block. -/
def outcomeOf : Except PyError (List PolicySignal) → DecisionOutcome
  | .ok signals => strongest signals
  | .error _ => .block

@[simp]
theorem outcomeOf_ok (signals : List PolicySignal) : outcomeOf (.ok signals) = strongest signals :=
  rfl

@[simp]
theorem outcomeOf_error (x : PyError) : outcomeOf (.error x) = .block :=
  rfl

/-- Running two evaluators and concatenating takes the stronger outcome. -/
theorem outcome_append (first second : Except PyError (List PolicySignal)) :
    outcomeOf (do let xs ← first; let ys ← second; .ok (xs ++ ys)) =
      max (outcomeOf first) (outcomeOf second) := by
  cases first with
  | error x => simp [bind, Except.bind]
  | ok xs =>
      cases second with
      | error x => simp [bind, Except.bind]
      | ok ys => simp [bind, Except.bind, strongest_append]

/-- Every signal of an answer has a catalogued reason. -/
def AnswerCatalogued (answer : Except PyError (List PolicySignal)) : Prop :=
  ∀ signals, answer = .ok signals → ∀ item ∈ signals, item.reasonCode ∈ reasonCodes

/-- A reason an engine may give: catalogued, and not the one the governor gives itself when
it blocks a guided retry. -/
def EngineReason (reasonCode : String) : Prop :=
  reasonCode ∈ reasonCodes ∧ reasonCode ≠ "GUIDE_RETRY_EXHAUSTED"

instance (reasonCode : String) : Decidable (EngineReason reasonCode) :=
  inferInstanceAs (Decidable (_ ∧ _))

/-- Every signal of an answer has a reason an engine may give. -/
def AnswerGiven (answer : Except PyError (List PolicySignal)) : Prop :=
  ∀ signals, answer = .ok signals → ∀ item ∈ signals, EngineReason item.reasonCode

theorem AnswerGiven.catalogued {answer : Except PyError (List PolicySignal)}
    (h : AnswerGiven answer) : AnswerCatalogued answer :=
  fun signals hsignals item hmem => (h signals hsignals item hmem).1

theorem AnswerGiven.error (x : PyError) : AnswerGiven (.error x) := by
  intro signals h
  cases h

theorem AnswerGiven.nil : AnswerGiven (.ok []) := by
  rintro signals ⟨⟩ item hmem
  cases hmem

theorem AnswerGiven.singleton {item : PolicySignal} (h : EngineReason item.reasonCode) :
    AnswerGiven (.ok [item]) := by
  rintro signals ⟨⟩ other hmem
  rw [List.mem_singleton.mp hmem]
  exact h

theorem AnswerGiven.append {xs ys : List PolicySignal} (hx : AnswerGiven (.ok xs))
    (hy : AnswerGiven (.ok ys)) : AnswerGiven (.ok (xs ++ ys)) := by
  rintro signals ⟨⟩ item hmem
  rcases List.mem_append.mp hmem with h | h
  · exact hx xs rfl item h
  · exact hy ys rfl item h

/-- An answer computed from a value that may raise. -/
theorem AnswerGiven.bind {α : Type} {m : Except PyError α}
    {f : α → Except PyError (List PolicySignal)} (h : ∀ a, m = .ok a → AnswerGiven (f a)) :
    AnswerGiven (m >>= f) := by
  cases m with
  | error x => exact .error x
  | ok a => exact h a rfl

/-- Failing closed is the outcome of a catalogued answer. -/
theorem strongest_failClosed {answer : Except PyError (List PolicySignal)}
    (h : AnswerCatalogued answer) : strongest (failClosed answer) = outcomeOf answer := by
  unfold failClosed
  cases answer with
  | error x => rfl
  | ok signals =>
      have hall : catalogued signals = true := by
        refine List.all_eq_true.mpr fun item hmem => ?_
        simpa using h signals rfl item hmem
      simp [hall]

end Manifest
