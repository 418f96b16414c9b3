import Manifest.Domain.Models
import Mathlib.Tactic.Set

/-!
# The policy engine port

A policy engine is a function of the request and the state that returns signals
or raises.  The governor applies the strongest signal.

Main results:

- Theorems `primaryOf_mem` and `rank_le_primaryOf`: the primary signal is one of
  the strongest signals.
- Theorem `strongest_eq_allow_iff`: an allow needs every signal to allow.
-/

set_option autoImplicit false

namespace Manifest

/-- The engine port, with the identity the governor records. -/
structure PolicyEngine where
  name : String
  policyVersion : String
  bundleHash : Option String
  evaluate : PolicyRequest → TrajectoryState → Except PyError (List PolicySignal)

/-- `_PRECEDENCE`. -/
def DecisionOutcome.rank : DecisionOutcome → Nat
  | .allow => 0
  | .guide => 1
  | .escalate => 2
  | .block => 3

theorem DecisionOutcome.rank_injective {a b : DecisionOutcome} (h : a.rank = b.rank) :
    a = b := by
  cases a <;> cases b <;> simp [rank] at h <;> rfl

/-- `max(signals, key=...)` over a nonempty list: the first of the strongest. -/
def primaryOf (first : PolicySignal) (rest : List PolicySignal) : PolicySignal :=
  rest.foldl (fun best item => if best.outcome.rank < item.outcome.rank then item else best)
    first

@[simp]
theorem primaryOf_nil (first : PolicySignal) : primaryOf first [] = first :=
  rfl

theorem primaryOf_cons (first item : PolicySignal) (rest : List PolicySignal) :
    primaryOf first (item :: rest) =
      primaryOf (if first.outcome.rank < item.outcome.rank then item else first) rest :=
  rfl

/-- The primary signal is one of the signals. -/
theorem primaryOf_mem (first : PolicySignal) (rest : List PolicySignal) :
    primaryOf first rest ∈ first :: rest := by
  induction rest generalizing first with
  | nil => simp
  | cons item rest ih =>
      rw [primaryOf_cons]
      split
      · exact List.mem_cons_of_mem _ (ih item)
      · rcases List.mem_cons.mp (ih first) with h | h
        · rw [h]
          exact List.mem_cons_self
        · exact List.mem_cons_of_mem _ (List.mem_cons_of_mem _ h)

theorem rank_first_le_primaryOf (first : PolicySignal) (rest : List PolicySignal) :
    first.outcome.rank ≤ (primaryOf first rest).outcome.rank := by
  induction rest generalizing first with
  | nil => simp
  | cons item rest ih =>
      rw [primaryOf_cons]
      refine le_trans ?_ (ih _)
      split <;> omega

/-- No signal is stronger than the primary one. -/
theorem rank_le_primaryOf {first : PolicySignal} {rest : List PolicySignal}
    {item : PolicySignal} (hmem : item ∈ first :: rest) :
    item.outcome.rank ≤ (primaryOf first rest).outcome.rank := by
  induction rest generalizing first with
  | nil =>
      rw [List.mem_singleton.mp hmem]
      simp
  | cons next rest ih =>
      rw [primaryOf_cons]
      set best := if first.outcome.rank < next.outcome.rank then next else first with hbest
      have hle : best.outcome.rank ≤ (primaryOf best rest).outcome.rank :=
        rank_first_le_primaryOf best rest
      rcases List.mem_cons.mp hmem with rfl | hmem
      · refine le_trans ?_ hle
        rw [hbest]
        split <;> omega
      · rcases List.mem_cons.mp hmem with rfl | hmem
        · refine le_trans ?_ hle
          rw [hbest]
          split <;> omega
        · exact ih (List.mem_cons_of_mem _ hmem)

/-- The strongest outcome of a list of signals; none at all is an allow. -/
def strongest (signals : List PolicySignal) : DecisionOutcome :=
  match signals with
  | [] => .allow
  | first :: rest => (primaryOf first rest).outcome

/-- Every signal is at most as strong as the strongest outcome. -/
theorem rank_le_strongest {signals : List PolicySignal} {item : PolicySignal}
    (hmem : item ∈ signals) : item.outcome.rank ≤ (strongest signals).rank := by
  cases signals with
  | nil => cases hmem
  | cons first rest => exact rank_le_primaryOf hmem

/-- An allow is reached only when every signal allows. -/
theorem strongest_eq_allow_iff (signals : List PolicySignal) :
    strongest signals = .allow ↔ ∀ item ∈ signals, item.outcome = .allow := by
  constructor
  · intro h item hmem
    have hle := rank_le_strongest hmem
    rw [h] at hle
    exact DecisionOutcome.rank_injective (Nat.le_zero.mp hle)
  · intro h
    cases signals with
    | nil => rfl
    | cons first rest => exact h _ (primaryOf_mem first rest)

/-- A strongest outcome other than an allow is the outcome of some signal. -/
theorem exists_of_strongest {signals : List PolicySignal} {outcome : DecisionOutcome}
    (h : strongest signals = outcome) (hne : outcome ≠ .allow) :
    ∃ item ∈ signals, item.outcome = outcome := by
  cases signals with
  | nil => exact absurd h.symm hne
  | cons first rest => exact ⟨_, primaryOf_mem first rest, h⟩

end Manifest
