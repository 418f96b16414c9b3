import Manifest.Commitments

/-!
# The approval lifecycle

Validation and transitions of approval records.

Main results:

- Theorem `validateBound_ok`: what a validated approval is bound to.
- Theorem `resolve_claims`: the command that resolved a record claims it again.
-/

set_option autoImplicit false

namespace Manifest

open Interaction

/-- A procedure of the service: it holds no trajectory state of its own. -/
abbrev Svc := Proc Op PyError Unit

/-! ## Commands -/

structure ApprovalCommand where
  decision : ApprovalDecision
  approverLabel : String
  comment : Option String
  expectedVersion : Int
  idempotencyKey : String

/-- `ApprovalCommand.fingerprint`. -/
def ApprovalCommand.fingerprint [Sha256] (command : ApprovalCommand) : String :=
  Sha256.hexdigest <| Value.dumps true <| .dict
    [ ("decision", .str command.decision.value),
      ("approver_label", .str command.approverLabel), ("comment", optStr command.comment),
      ("expected_version", .int command.expectedVersion),
      ("idempotency_key", .str command.idempotencyKey) ]

/-- The status a decision leads to. -/
def ApprovalDecision.resolved : ApprovalDecision → ApprovalStatus
  | .approve => .approved
  | .reject => .rejected

/-- `str.casefold` of one character, as far as an ASCII text can tell: every other
character folds to a text with a character outside ASCII, and stands for itself. -/
def foldChar (c : Char) : List Char :=
  match c.toNat with
  | 0x00DF | 0x1E9E => ['s', 's']
  | 0x017F => ['s']
  | 0x212A => ['k']
  | 0xFB00 => ['f', 'f']
  | 0xFB01 => ['f', 'i']
  | 0xFB02 => ['f', 'l']
  | 0xFB03 => ['f', 'f', 'i']
  | 0xFB04 => ['f', 'f', 'l']
  | 0xFB05 | 0xFB06 => ['s', 't']
  | _ => [c.toLower]

/-- `str.casefold`, compared with ASCII texts only. -/
def casefold (text : String) : String :=
  String.ofList (text.toList.flatMap foldChar)

namespace ApprovalLifecycle

/-! ## Transitions -/

/-- `resolve`. -/
def resolve (approval : ApprovalRecord) (command : ApprovalCommand) (now : Timestamp) :
    ApprovalRecord :=
  { approval with
    status := command.decision.resolved
    version := approval.version + 1
    decidedAt := some now
    decision := some command.decision
    approverLabel := some command.approverLabel
    comment := command.comment
    decisionIdempotencyKey := some command.idempotencyKey }

def notPending {α : Type} (approval : ApprovalRecord) : Except PyError α :=
  .error ⟨.approvalNotPending,
    s!"Approval {approval.approvalId} is already {approval.status.value}."⟩

def expiredError {α : Type} (approval : ApprovalRecord) : Except PyError α :=
  .error ⟨.approvalExpired, s!"Approval {approval.approvalId} has expired."⟩

/-- The record `expire` leaves. -/
def expireRecord (approval : ApprovalRecord) (now : Timestamp) : ApprovalRecord :=
  { approval with
    status := .expired
    version := approval.version + 1
    decidedAt := some now }

/-- `now_fn()`, read for the trace of an approval. -/
def nowFn (approval : ApprovalRecord) : Svc Timestamp :=
  Proc.perform (.nowFn approval.traceId)

/-- `expire`. -/
def expire (approval : ApprovalRecord) : Svc ApprovalRecord :=
  if approval.status ≠ .pendingApproval then Proc.ofExcept (notPending approval)
  else do
    let now ← nowFn approval
    pure (expireRecord approval now)

/-! ## Validation -/

def stateMismatch {α : Type} (message : String) : Except PyError α :=
  .error ⟨.approvalStateMismatch, message⟩

def actionMismatch {α : Type} (message : String) : Except PyError α :=
  .error ⟨.approvalActionMismatch, message⟩

/-- `if condition: raise error`. -/
def refuseIf (condition : Bool) (refusal : Except PyError Unit) : Except PyError Unit :=
  if condition then refusal else .ok ()

/-- The checks that compare a prepared action with its approval and its trace. -/
def validatePrepared [Sha256] (approval : ApprovalRecord) (state : TrajectoryState)
    (command : ApprovalCommand) (prepared : PreparedAction) : Except PyError Unit := do
  refuseIf (prepared.status ≠ .pendingApproval)
    (stateMismatch "The prepared action is not pending approval.")
  refuseIf (preparedActionHash prepared ≠ prepared.actionHash ||
      approval.actionHash ≠ prepared.actionHash)
    (actionMismatch "The prepared action no longer matches the approval.")
  refuseIf (preparedStateHash state.traceId state.orderId prepared ≠ prepared.stateHash ||
      approval.stateHash ≠ prepared.stateHash)
    (stateMismatch "The prepared state no longer matches the approval.")
  refuseIf (match state.mandate with
      | none => true
      | some mandate => approval.policyVersion ≠ state.policyVersion ||
          prepared.policyVersion ≠ state.policyVersion ||
          prepared.mandateId ≠ mandate.mandateId)
    (.error ⟨.approvalPolicyMismatch,
      "The active mandate or policy version changed after preparation."⟩)
  refuseIf (state.spendCommittedMinor ≠ prepared.spendCommittedAtPrepareMinor ||
      state.spendReservedMinor ≠ prepared.spendReservedAfterMinor)
    (stateMismatch "Spend state changed after the action was prepared.")
  refuseIf (match state.selectedQuote with
      | none => true
      | some quote => quote.quoteId ≠ prepared.resourceId ||
          quote.amountMinor ≠ prepared.amountMinor || quote.currency ≠ prepared.currency)
    (actionMismatch "The selected quote changed after preparation.")
  refuseIf (casefold command.approverLabel = casefold prepared.preparedBy.value)
    (.error ⟨.approverConflict, "The action preparer cannot approve the same commitment."⟩)

/-- The checks after the clock. -/
def validateBound [Sha256] (approval : ApprovalRecord) (state : TrajectoryState)
    (command : ApprovalCommand) : Except PyError Unit :=
  if state.status ≠ .pendingApproval || state.workflowStage ≠ .awaitingApproval then
    stateMismatch "The run is not waiting at the expected approval stage."
  else if state.pendingApprovalId ≠ some approval.approvalId ||
      state.traceId ≠ approval.traceId then
    stateMismatch "The approval is not bound to this pending trace."
  else
    match state.preparedActions.get? approval.preparedActionId with
    | none => actionMismatch "The approval's prepared action was not found in this trace."
    | some prepared =>
        if prepared.traceId ≠ state.traceId then
          actionMismatch "The approval's prepared action was not found in this trace."
        else validatePrepared approval state command prepared

/-- `validate_pending`. -/
def validatePending [Sha256] (approval : ApprovalRecord) (state : TrajectoryState)
    (command : ApprovalCommand) : Svc Unit :=
  if approval.status ≠ .pendingApproval then Proc.ofExcept (notPending approval)
  else if command.expectedVersion ≠ approval.version then
    Proc.raise ⟨.approvalVersionConflict,
      s!"Approval {approval.approvalId} is no longer at version {command.expectedVersion}."⟩
  else do
    let now ← nowFn approval
    if approval.expiresAt ≤ now then Proc.ofExcept (expiredError approval)
    else Proc.ofExcept (validateBound approval state command)

/-! ## What a validated approval is bound to -/

/-- A refusal that was not made. -/
theorem refuseIf_ok {condition : Bool} {x : PyError}
    (h : refuseIf condition (.error x) = .ok ()) : condition = false := by
  unfold refuseIf at h
  cases condition with
  | true => simp at h
  | false => rfl

theorem validatePrepared_ok [Sha256] {approval : ApprovalRecord} {state : TrajectoryState}
    {command : ApprovalCommand} {prepared : PreparedAction}
    (h : validatePrepared approval state command prepared = .ok ()) :
    prepared.status = .pendingApproval := by
  by_contra hstatus
  simp [validatePrepared, refuseIf, hstatus, stateMismatch, bind, Except.bind] at h

/-- A validated approval waits for the run that waits for it. -/
theorem validateBound_ok [Sha256] {approval : ApprovalRecord} {state : TrajectoryState}
    {command : ApprovalCommand} (h : validateBound approval state command = .ok ()) :
    state.status = .pendingApproval ∧ state.workflowStage = .awaitingApproval ∧
      state.pendingApprovalId = some approval.approvalId ∧
      state.traceId = approval.traceId ∧
      ∃ prepared, state.preparedActions.get? approval.preparedActionId = some prepared ∧
        prepared.status = .pendingApproval := by
  unfold validateBound at h
  split at h
  · cases h
  · rename_i hwaiting
    split at h
    · cases h
    · rename_i hbound
      split at h
      · cases h
      · rename_i prepared hprepared
        split at h
        · cases h
        · simp only [ne_eq, decide_not, Bool.or_eq_true, Bool.not_eq_true',
            decide_eq_false_iff_not, not_or, not_not] at hwaiting hbound
          exact ⟨hwaiting.1, hwaiting.2, hbound.1, hbound.2, prepared, hprepared,
            validatePrepared_ok h⟩

/-- `_matches_claimed_command`. -/
def matchesClaimedCommand (approval : ApprovalRecord) (command : ApprovalCommand) : Bool :=
  approval.status = command.decision.resolved &&
    approval.version = command.expectedVersion + 1 &&
    approval.decision = some command.decision &&
    approval.approverLabel = some command.approverLabel &&
    approval.comment = command.comment &&
    approval.decisionIdempotencyKey = some command.idempotencyKey

/-- The command that resolved a record claims it again. -/
theorem resolve_claims {approval : ApprovalRecord} {command : ApprovalCommand}
    (hversion : command.expectedVersion = approval.version) (now : Timestamp) :
    matchesClaimedCommand (resolve approval command now) command = true := by
  simp [matchesClaimedCommand, resolve, hversion]

end ApprovalLifecycle

end Manifest
