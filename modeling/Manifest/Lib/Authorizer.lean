import Mathlib.Data.List.Basic

/-!
# Forbid-overrides authorization

Permit and forbid policies over one request.  A request is allowed when some
permit holds and no forbid does; a policy whose condition cannot be evaluated is
skipped and reported.

Main results:

- Theorem `decision_eq_allow_iff`: when a request is allowed.
- Theorem `determining_of_deny`: a denial names exactly the forbids that hold.
- Theorem `errors_eq_nil_iff`: nothing is reported exactly when every condition
  evaluates.
-/

set_option autoImplicit false

namespace Authorization

inductive Effect where
  | permit
  | forbid
deriving DecidableEq

inductive Verdict where
  | allow
  | deny
deriving DecidableEq

/-- A policy: its condition may fail to evaluate. -/
structure Policy (Id Request Err : Type) where
  id : Id
  effect : Effect
  condition : Request → Except Err Bool

/-- The verdict, the policies that determined it and those that were skipped. -/
structure Response (Id : Type) where
  decision : Verdict
  determining : List Id
  errors : List Id

variable {Id Request Err : Type}

/-- Whether a condition evaluates to true. -/
def Policy.holds (policy : Policy Id Request Err) (request : Request) : Bool :=
  match policy.condition request with
  | .ok holds => holds
  | .error _ => false

/-- Whether a condition fails to evaluate. -/
def Policy.fails (policy : Policy Id Request Err) (request : Request) : Bool :=
  match policy.condition request with
  | .ok _ => false
  | .error _ => true

/-- The policies of one effect that hold. -/
def satisfied (policies : List (Policy Id Request Err)) (request : Request)
    (effect : Effect) : List Id :=
  (policies.filter fun policy => policy.effect = effect && policy.holds request).map (·.id)

/-- The policies that were skipped. -/
def skipped (policies : List (Policy Id Request Err)) (request : Request) : List Id :=
  (policies.filter fun policy => policy.fails request).map (·.id)

/-- Authorize a request. -/
def isAuthorized (policies : List (Policy Id Request Err)) (request : Request) :
    Response Id :=
  let forbids := satisfied policies request .forbid
  let permits := satisfied policies request .permit
  if forbids.isEmpty && !permits.isEmpty then
    ⟨.allow, permits, skipped policies request⟩
  else ⟨.deny, forbids, skipped policies request⟩

variable {policies : List (Policy Id Request Err)} {request : Request}

theorem mem_satisfied {effect : Effect} {id : Id} :
    id ∈ satisfied policies request effect ↔
      ∃ policy ∈ policies, policy.effect = effect ∧ policy.holds request = true ∧
        policy.id = id := by
  simp [satisfied, and_assoc]

theorem satisfied_eq_nil_iff {effect : Effect} :
    satisfied policies request effect = [] ↔
      ∀ policy ∈ policies, policy.effect = effect → policy.holds request = false := by
  simp [satisfied]

/-- Allowed: no forbid holds and some permit does. -/
theorem decision_eq_allow_iff :
    (isAuthorized policies request).decision = .allow ↔
      satisfied policies request .forbid = [] ∧ satisfied policies request .permit ≠ [] := by
  unfold isAuthorized
  simp only [List.isEmpty_iff, Bool.and_eq_true, Bool.not_eq_true']
  split
  · rename_i h
    simpa using h
  · rename_i h
    simpa using h

/-- A denial names exactly the forbids that hold. -/
theorem determining_of_deny (h : (isAuthorized policies request).decision = .deny) :
    (isAuthorized policies request).determining = satisfied policies request .forbid := by
  unfold isAuthorized at h ⊢
  simp only at h ⊢
  split at h
  · cases h
  · rename_i hcond
    rw [if_neg hcond]

theorem determining_of_allow (h : (isAuthorized policies request).decision = .allow) :
    (isAuthorized policies request).determining = satisfied policies request .permit := by
  unfold isAuthorized at h ⊢
  simp only at h ⊢
  split at h
  · rename_i hcond
    rw [if_pos hcond]
  · cases h

/-- The report of skipped policies does not depend on the verdict. -/
theorem errors_eq (policies : List (Policy Id Request Err)) (request : Request) :
    (isAuthorized policies request).errors = skipped policies request := by
  unfold isAuthorized
  simp only
  split <;> rfl

theorem errors_eq_nil_iff :
    (isAuthorized policies request).errors = [] ↔
      ∀ policy ∈ policies, policy.fails request = false := by
  rw [errors_eq]
  simp [skipped]

end Authorization
