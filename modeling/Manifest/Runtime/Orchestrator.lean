import Manifest.Runtime.Strands

/-!
# Sequential orchestration of the roles

Main results:

- Definitions `ShipmentOrchestrator.run`, `resumeApproved` and `cancelPending`: the three
  journeys of a trajectory.
-/

set_option autoImplicit false

namespace Manifest

open Interaction

/-! ## Workflow fields -/

namespace TrajectoryState

/-- The truth value of `state.pending_approval_id`. -/
def awaitsApproval (state : TrajectoryState) : Bool :=
  match state.pendingApprovalId with
  | some approvalId => approvalId ≠ ""
  | none => false

/-- Whether a continuation may start. -/
def waitsForApproval (state : TrajectoryState) : Bool :=
  state.status = .pendingApproval && state.workflowStage = .awaitingApproval

def setCurrentAgent (state : TrajectoryState) (agent : Option AgentName) : TrajectoryState :=
  { state with currentAgent := agent }

def setStage (state : TrajectoryState) (stage : WorkflowStage) : TrajectoryState :=
  { state with workflowStage := stage }

/-- Leave the running agent for another status. -/
def pause (state : TrajectoryState) (status : RunStatus) : TrajectoryState :=
  { state with currentAgent := none, status := status }

/-- A continuation takes the run up again. -/
def resume (state : TrajectoryState) (status : RunStatus) : TrajectoryState :=
  { state with status := status, currentAgent := some .carrier }

/-- End a run normally. -/
def complete (state : TrajectoryState) : TrajectoryState :=
  { state with currentAgent := none, status := .completed, workflowStage := .complete }

/-- End a run whose booking was released. -/
def cancelRun (state : TrajectoryState) (reasonCode : String) : TrajectoryState :=
  { state with
    currentAgent := none
    status := .cancelled
    workflowStage := .cancelled
    terminalReason := some reasonCode }

/-- End a run with an error. -/
def fail (state : TrajectoryState) (status : RunStatus) (stage : WorkflowStage)
    (message : String) : TrajectoryState :=
  { state with
    status := status
    workflowStage := stage
    currentAgent := none
    error := some message }

/-- `_mark_agent_stage`. -/
def markAgentStage (state : TrajectoryState) (name : AgentName) : TrajectoryState :=
  match name with
  | .inventory => state.setStage .inventoryComplete
  | .dispatch => state.setStage .dispatchComplete
  | .carrier =>
      if state.confirmedBookingId.any (· ≠ "") then state.setStage .bookingConfirmed else state
  | .customerCommunications => state.setStage .notificationSent

end TrajectoryState

structure ShipmentOrchestrator where
  agents : List Agent
  settings : RuntimeSettings

namespace ShipmentOrchestrator

/-! ## Event descriptions -/

/-- An event of one role. -/
def agentSpec (eventType : EventType) (summary : String) (name : AgentName) : EventSpec where
  eventType := eventType
  summary := summary
  agent := name

def runStartedSpec (settings : RuntimeSettings) (state : TrajectoryState) (mandateId : String) :
    EventSpec where
  eventType := .runStarted
  summary :=
    s!"Started {state.scenario.value} journey for {state.orderId} in {state.mode.value} mode."
  details := settings.describe.update
    [ ("governor_mode", .str "policy_enforced"), ("mode", .str state.mode.value),
      ("scenario", .str state.scenario.value), ("mandate_id", .str mandateId),
      ("policy_version", .str state.policyVersion) ]
  idempotencyKey := some s!"run:{state.traceId}:started"

def runPausedSpec (state : TrajectoryState) : EventSpec where
  eventType := .runPaused
  summary :=
    let approvalId := state.pendingApprovalId.getD "None"
    s!"Run paused for approval {approvalId}."
  details := [("approval_id", optStr state.pendingApprovalId)]
  idempotencyKey :=
    let approvalId := state.pendingApprovalId.getD "None"
    some s!"run:{state.traceId}:paused:{approvalId}"

def runCompletedSpec (traceId summary : String) : EventSpec where
  eventType := .runCompleted
  summary := summary
  idempotencyKey := some s!"run:{traceId}:completed"

def runResumedSpec (traceId approvalId : String) : EventSpec where
  eventType := .runResumed
  summary := s!"Run resumed after approval {approvalId}."
  details := [("approval_id", .str approvalId)]
  idempotencyKey := some s!"run:{traceId}:resumed:{approvalId}"

def runCancelledSpec (traceId approvalId reasonCode : String) : EventSpec where
  eventType := .runCancelled
  summary := "Run cancelled after the prepared booking was released."
  details := [("reason_code", .str reasonCode), ("approval_id", .str approvalId)]
  idempotencyKey := some s!"run:{traceId}:cancelled:{reasonCode}"

def runFailedSpec (message : String) (details : Kwargs) : EventSpec where
  eventType := .runFailed
  summary := message
  details := details

/-! ## Failure -/

variable (o : ShipmentOrchestrator)

/-- `_failure_details`. -/
def failureDetails (x : PyError) (failedAgent : Option AgentName) : Kwargs :=
  let details : Kwargs := [("error_code", .str x.cls.code)]
  if x.cls.isProvider then
    details.update
      [ ("provider_failure_category", .str x.cls.code),
        ("model_provider", .str o.settings.modelProvider),
        ("requested_model_id", .str o.settings.modelId),
        ("stage", .str ((failedAgent.map (·.value)).getD "unknown")) ]
  else details

/-- The handlers of a journey: a policy block ends the run as blocked, any other exception
as failed. -/
def failRun (x : PyError) : Py Unit :=
  if x.cls = .policyBlocked then do
    Proc.mutate (·.fail .blocked .blocked x.message)
    let _ ← Py.appendEvent (runFailedSpec x.message
      [("error_code", .str x.cls.code), ("terminal_status", .str "blocked")])
    pure ()
  else do
    let state ← Proc.read
    let message := if x.isManifest then x.message else "Run failed unexpectedly."
    Proc.mutate (·.fail .failed .failed message)
    let _ ← Py.appendEvent (runFailedSpec message (o.failureDetails x state.currentAgent))
    pure ()

/-! ## The first journey -/

/-- One role of the journey. -/
def runAgent (agent : Agent) : Py Unit := do
  Proc.mutate (·.setCurrentAgent (some agent.name))
  let _ ← Py.appendEvent
    (agentSpec .agentStarted s!"{agent.name.value} agent started." agent.name)
  let summary ← agent.run
  let state ← Proc.read
  if state.awaitsApproval then do
    Proc.mutate (·.setStage .awaitingApproval)
    let _ ← Py.appendEvent (agentSpec .agentPaused summary agent.name)
    pure ()
  else do
    Proc.mutate (·.markAgentStage agent.name)
    let _ ← Py.appendEvent (agentSpec .agentCompleted summary agent.name)
    pure ()

/-- The roles in order, until one waits for an approval. -/
def runAgents : List Agent → Py Unit
  | [] => pure ()
  | agent :: rest => do
      let state ← Proc.read
      if state.awaitsApproval then pure ()
      else do
        runAgent agent
        runAgents rest

/-- The end of a journey none of whose roles raised. -/
def finishRun : Py Unit := do
  Proc.mutate (·.setCurrentAgent none)
  let state ← Proc.read
  if state.awaitsApproval then do
    Proc.mutate (·.pause .pendingApproval)
    let _ ← Py.appendEvent (runPausedSpec state)
    pure ()
  else do
    Proc.mutate (·.complete)
    let _ ← Py.appendEvent (runCompletedSpec state.traceId
      s!"Completed {o.settings.runtimeMode} journey for {state.orderId}.")
    pure ()

/-- `run`, once its trajectory is made. -/
def run : Py Unit := do
  let state ← Proc.read
  Py.createRun
  let mandateId := (state.mandate.map (·.mandateId)).getD ""
  let _ ← Py.appendEvent (runStartedSpec o.settings state mandateId)
  Proc.tryCatch (do
    runAgents o.agents
    o.finishRun) o.failRun

/-! ## Continuations -/

/-- `_agent`, handing the role to the rest of the continuation. -/
def withAgent (name : AgentName) (rest : Agent → Py Unit) : Py Unit :=
  match o.agents.find? fun agent => agent.name = name with
  | some agent => rest agent
  | none => stateMismatch s!"Required agent {name.value} is unavailable."

/-- Refuse a continuation of a run that does not wait for one. -/
def requireWaiting : Py Unit := do
  let state ← Proc.read
  if state.waitsForApproval then pure ()
  else stateMismatch "The run is not waiting for approval."

/-- The part of an approved continuation whose exceptions end the run. -/
def resumeRoles (carrier communications : Agent) (approval : ApprovalRecord) : Py Unit := do
  let summary ← carrier.resumeBooking approval
  let _ ← Py.appendEvent (agentSpec .agentCompleted summary .carrier)
  Proc.mutate (·.setCurrentAgent (some .customerCommunications))
  let _ ← Py.appendEvent (agentSpec .agentStarted "customer_communications agent started."
    .customerCommunications)
  let summary ← communications.run
  Proc.mutate (·.setStage .notificationSent)
  let _ ← Py.appendEvent (agentSpec .agentCompleted summary .customerCommunications)
  Proc.mutate (·.complete)
  let state ← Proc.read
  let _ ← Py.appendEvent (runCompletedSpec state.traceId
    s!"Completed approved journey for {state.orderId}.")
  pure ()

/-- Take an approved run up again. -/
def resumeWith (approval : ApprovalRecord) (carrier communications : Agent) : Py Unit := do
  Proc.mutate (·.resume .running)
  let state ← Proc.read
  let _ ← Py.appendEvent (runResumedSpec state.traceId approval.approvalId)
  let _ ← Py.appendEvent
    (agentSpec .agentResumed "carrier agent resumed the prepared booking." .carrier)
  Proc.tryCatch (resumeRoles carrier communications approval) o.failRun

/-- `resume_approved`. -/
def resumeApproved (approval : ApprovalRecord) : Py Unit := do
  requireWaiting
  o.withAgent .carrier fun carrier =>
    o.withAgent .customerCommunications fun communications =>
      o.resumeWith approval carrier communications

/-- Cancel the booking of a waiting run, then end the run. -/
def cancelWith (approval : ApprovalRecord) (reasonCode : String) (carrier : Agent) :
    Py Unit := do
  Proc.mutate (·.setCurrentAgent (some .carrier))
  let _ ← Py.appendEvent
    (agentSpec .agentResumed "carrier agent resumed to cancel the prepared booking." .carrier)
  let summary ← carrier.cancelBooking approval reasonCode
  let _ ← Py.appendEvent (agentSpec .agentCompleted summary .carrier)
  Proc.mutate (·.cancelRun reasonCode)
  let state ← Proc.read
  let _ ← Py.appendEvent (runCancelledSpec state.traceId approval.approvalId reasonCode)
  pure ()

/-- `cancel_pending`. -/
def cancelPending (approval : ApprovalRecord) (reasonCode : String) : Py Unit := do
  requireWaiting
  o.withAgent .carrier (cancelWith approval reasonCode)

end ShipmentOrchestrator

end Manifest
