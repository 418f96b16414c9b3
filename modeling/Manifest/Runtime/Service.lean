import Manifest.Approvals
import Manifest.Runtime.Orchestrator

/-!
# The run service

Starting runs, resolving approvals and sweeping those that are due.  A resolution writes
the approval, then its event, then carries the run on.

Main results:

- Definitions `RunService.startRun`, `resolveApproval` and `expireDueApprovals`.
-/

set_option autoImplicit false

namespace Manifest

open Interaction

/-- Run a procedure on a state of its own; an exception loses the state. -/
def Svc.within {α : Type} (state : TrajectoryState) (m : Py α) : Svc (α × TrajectoryState) :=
  fun u => (m state).bind fun
    | (.ok a, state') => .pure (.ok (a, state'), u)
    | (.error x, _) => .pure (.error x, u)

structure RunService where
  loader : FixtureLoader
  orchestrator : ShipmentOrchestrator
  engineName : String

namespace RunService

variable [Sha256] (service : RunService)

/-! ## Starting a run -/

/-- `GovernanceMode(mode)`. -/
def parseMode (mode : String) : Except PyError GovernanceMode :=
  match mode with
  | "shadow" => .ok .shadow
  | "enforce" => .ok .enforce
  | _ => .error ⟨.unsupportedMode, s!"Mode {mode} is not supported."⟩

/-- `ScenarioName(scenario)`. -/
def parseScenario (scenario : String) : Except PyError ScenarioName :=
  match scenario with
  | "benign" => .ok .benign
  | "adversarial" => .ok .adversarial
  | _ => .error ⟨.unsupportedScenario, s!"Scenario {scenario} is not supported."⟩

/-- The trajectory `run` makes. -/
def initialState (traceId orderId : String) (mode : GovernanceMode) (scenario : ScenarioName)
    (mandate : ShipmentMandate) (config : ScenarioConfig) : TrajectoryState where
  traceId := traceId
  orderId := orderId
  status := .running
  mode := mode
  scenario := scenario
  scenarioConfig := some config
  mandate := some mandate
  policyVersion := mandate.policyVersion
  spendCommittedMinor := config.priorCommittedMinor

/-- What a run is made from, read off the fixtures. -/
def runInputs (orderId mode scenario : String) :
    Except PyError (GovernanceMode × ScenarioName × ShipmentMandate × ScenarioConfig) := do
  let governanceMode ← parseMode mode
  let scenarioName ← parseScenario scenario
  let order ← service.loader.getOrder orderId
  let mandate ← service.loader.getMandate order governanceMode
  let config ← service.loader.getScenario orderId scenarioName
  .ok (governanceMode, scenarioName, mandate, config)

/-- `start_run`.  `ticket` names the call; its trace identifier is drawn for it. -/
def startRun (ticket orderId mode scenario : String) : Svc RunSummary := do
  let (governanceMode, scenarioName, mandate, config) ←
    Proc.ofExcept (service.runInputs orderId mode scenario)
  let uuid ← Proc.perform (.uuid4 ticket)
  let state := initialState ("TR-" ++ uuid) orderId governanceMode scenarioName mandate config
  let (_, state) ← Svc.within state service.orchestrator.run
  pure (RunSummary.fromState state service.engineName)

/-! ## Event descriptions -/

/-- The event of a decided approval. -/
def decidedApprovalSpec (eventType : EventType) (word : String) (approval : ApprovalRecord) :
    EventSpec where
  eventType := eventType
  summary := s!"The prepared commitment was {word}."
  details :=
    [ ("approval_id", .str approval.approvalId),
      ("approver_label", optStr approval.approverLabel), ("version", .int approval.version) ]
  idempotencyKey := some s!"approval:{approval.approvalId}:{word}:v{approval.version}"

def approvedSpec (approval : ApprovalRecord) : EventSpec :=
  decidedApprovalSpec .approvalApproved "approved" approval

def rejectedSpec (approval : ApprovalRecord) : EventSpec :=
  decidedApprovalSpec .approvalRejected "rejected" approval

def expiredSpec (approval : ApprovalRecord) : EventSpec where
  eventType := .approvalExpired
  summary := "The prepared commitment approval expired."
  details := [("approval_id", .str approval.approvalId), ("version", .int approval.version)]
  idempotencyKey := some s!"approval:{approval.approvalId}:expired:v{approval.version}"

/-! ## Resolving an approval -/

/-- `state.approved_by = approver_label`. -/
def setApprovedBy (state : TrajectoryState) (label : Option String) : TrajectoryState :=
  { state with approvedBy := label }

/-- The approved branch of `_continue_resolved_approval`. -/
def continueApproved (approval : ApprovalRecord) : Py Unit := do
  let _ ← Governor.preparedAt approval.preparedActionId
  Proc.mutate (·.setPreparedStatus approval.preparedActionId .approved)
  Proc.mutate (setApprovedBy · approval.approverLabel)
  let _ ← Py.appendEvent (approvedSpec approval)
  service.orchestrator.resumeApproved approval

/-- The other branch of `_continue_resolved_approval`. -/
def continueRejected (approval : ApprovalRecord) : Py Unit := do
  let _ ← Py.appendEvent (rejectedSpec approval)
  service.orchestrator.cancelPending approval "APPROVAL_REJECTED"

/-- `_continue_resolved_approval`. -/
def continueResolvedApproval (approval : ApprovalRecord) : Py Unit :=
  if approval.status = .approved then service.continueApproved approval
  else service.continueRejected approval

/-- What `_expire_locked` does to the run. -/
def continueExpired (approval : ApprovalRecord) : Py Unit := do
  let _ ← Py.appendEvent (expiredSpec approval)
  service.orchestrator.cancelPending approval "APPROVAL_EXPIRED"

/-- `_expire_locked`. -/
def expireLocked (approval : ApprovalRecord) (state : TrajectoryState) : Svc ApprovalRecord := do
  let expired ← ApprovalLifecycle.expire approval
  Proc.request (.replaceApproval expired)
  let _ ← Svc.within state (service.continueExpired expired)
  pure expired

/-- Record a resolution under its idempotency key and report it. -/
def finishResolution (approvalId : String) (command : ApprovalCommand)
    (state : TrajectoryState) (idempotentReplay : Bool) : Svc ApprovalResolution := do
  Proc.perform (.recordApprovalReplay approvalId command.idempotencyKey command.fingerprint)
  let approval ← Proc.request (.getApproval approvalId)
  pure {
    approval := approval
    run := RunSummary.fromState state service.engineName
    idempotentReplay := idempotentReplay }

/-- A command whose idempotency key was recorded before. -/
def replayResolution (approvalId : String) (command : ApprovalCommand) (previous : String) :
    Svc ApprovalResolution :=
  if previous ≠ command.fingerprint then
    Proc.raise ⟨.approvalIdempotencyConflict,
      s!"Idempotency key {command.idempotencyKey} was reused with different approval fields."⟩
  else do
    let approval ← Proc.request (.getApproval approvalId)
    let state ← Proc.request (.loadTrace approval.traceId)
    pure {
      approval := approval
      run := RunSummary.fromState state service.engineName
      idempotentReplay := true }

/-- The identical command claims a resolved approval again. -/
def recoverResolution (approval : ApprovalRecord) (command : ApprovalCommand) :
    Svc ApprovalResolution := do
  let state ← Proc.request (.loadTrace approval.traceId)
  if state.status = .pendingApproval then do
    let (_, state) ← Svc.within state (service.continueResolvedApproval approval)
    service.finishResolution approval.approvalId command state true
  else service.finishResolution approval.approvalId command state true

/-- `validate_pending`, where an expired approval is swept before the error is raised. -/
def validateOrExpire (approval : ApprovalRecord) (state : TrajectoryState)
    (command : ApprovalCommand) : Svc Unit :=
  Proc.tryCatch (ApprovalLifecycle.validatePending approval state command) fun x =>
    if x.cls = .approvalExpired then do
      let _ ← service.expireLocked approval state
      Proc.raise x
    else Proc.raise x

/-- Decide a pending approval. -/
def decidePending (approval : ApprovalRecord) (command : ApprovalCommand) :
    Svc ApprovalResolution := do
  let state ← Proc.request (.loadTrace approval.traceId)
  service.validateOrExpire approval state command
  let now ← ApprovalLifecycle.nowFn approval
  let resolved := ApprovalLifecycle.resolve approval command now
  Proc.request (.replaceApproval resolved)
  let (_, state) ← Svc.within state (service.continueResolvedApproval resolved)
  service.finishResolution approval.approvalId command state false

/-- `resolve_approval`, once its decision is parsed. -/
def resolveApproval (approvalId : String) (command : ApprovalCommand) :
    Svc ApprovalResolution := do
  match ← Proc.perform (.getApprovalReplayFingerprint approvalId command.idempotencyKey) with
  | some previous => service.replayResolution approvalId command previous
  | none => do
      let approval ← Proc.request (.getApproval approvalId)
      if approval.status = .expired then
        Proc.ofExcept (ApprovalLifecycle.expiredError approval)
      else if approval.status ≠ .pendingApproval then
        if ApprovalLifecycle.matchesClaimedCommand approval command then
          service.recoverResolution approval command
        else Proc.ofExcept (ApprovalLifecycle.notPending approval)
      else service.decidePending approval command

/-! ## Sweeping due approvals -/

/-- The loop of `expire_due_approvals`. -/
def expireEach (now : Timestamp) : List ApprovalRecord → Svc (List ApprovalRecord)
  | [] => pure []
  | approval :: rest =>
      if approval.expiresAt ≤ now then do
        let state ← Proc.request (.loadTrace approval.traceId)
        let expired ← service.expireLocked approval state
        let swept ← expireEach now rest
        pure (expired :: swept)
      else expireEach now rest

/-- `expire_due_approvals`. -/
def expireDueApprovals : Svc (List ApprovalRecord) := do
  let now ← Proc.perform (.nowFn "")
  let due ← Proc.perform (.listApprovals none (some .pendingApproval))
  service.expireEach now due

end RunService

end Manifest
