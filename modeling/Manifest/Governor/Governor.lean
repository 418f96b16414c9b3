import Manifest.Effects
import Manifest.Governor.Reasons
import Manifest.Policy.Engine

/-!
# The governor

`execute_tool` is cut at its natural seams: propose, build the request, decide,
record the decision, and one procedure for each applied outcome.

Main results:

- Definition `Governor.executeTool`: the governed tool boundary.
- Theorems `business_withLedger` and `business_countAttempt`: bookkeeping never
  touches the business fields of a state.
-/

set_option autoImplicit false

namespace Manifest

open Interaction

/-! ## Updates of the state -/

/-- `prepared.status = status` for the action under a key. -/
def TrajectoryState.setPreparedStatus (state : TrajectoryState) (preparedId : String)
    (status : CommitmentStatus) : TrajectoryState :=
  match state.preparedActions.get? preparedId with
  | none => state
  | some prepared =>
      { state with
        preparedActions := state.preparedActions.set preparedId { prepared with status := status } }

/-- A status update moves no money and no booking. -/
theorem setPreparedStatus_keeps (state : TrajectoryState) (preparedId : String)
    (status : CommitmentStatus) :
    let state' := state.setPreparedStatus preparedId status
    state'.spendCommittedMinor = state.spendCommittedMinor ∧
      state'.spendReservedMinor = state.spendReservedMinor ∧
      state'.confirmedBookingId = state.confirmedBookingId := by
  unfold TrajectoryState.setPreparedStatus
  cases state.preparedActions.get? preparedId <;> exact ⟨rfl, rfl, rfl⟩

/-- `state.pending_approval_id = approval_id`. -/
def TrajectoryState.setPendingApproval (state : TrajectoryState) (approvalId : String) :
    TrajectoryState :=
  { state with pendingApprovalId := some approvalId }

/-- `state.effect_history.append(record)`. -/
def TrajectoryState.pushEffect (state : TrajectoryState) (record : EffectRecord) :
    TrajectoryState :=
  { state with effectHistory := state.effectHistory ++ [record] }

/-- The counters a tool call bumps before anything else. -/
def TrajectoryState.countAttempt (state : TrajectoryState) (toolName : String) :
    TrajectoryState :=
  { state with
    toolCallCount := state.toolCallCount + 1
    guideAttempts := state.guideAttempts.set toolName
      ((state.guideAttempts.get? toolName).getD 0 + 1) }

/-- The fields of a state that are neither ledger, call counters nor the history of
executed effects. -/
def TrajectoryState.business (state : TrajectoryState) : TrajectoryState :=
  { state with
    events := []
    nextSequence := 1
    decisions := []
    storageRevision := 0
    toolCallCount := 0
    guideAttempts := ∅
    effectHistory := [] }

@[simp]
theorem business_withLedger (state : TrajectoryState) (ledger : LedgerFields) :
    (state.withLedger ledger).business = state.business :=
  rfl

@[simp]
theorem business_pushEffect (state : TrajectoryState) (record : EffectRecord) :
    (state.pushEffect record).business = state.business :=
  rfl

@[simp]
theorem business_countAttempt (state : TrajectoryState) (toolName : String) :
    (state.countAttempt toolName).business = state.business :=
  rfl

/-! ## Signals and decisions -/

def unknownToolSignal (toolName : String) : PolicySignal :=
  ⟨"ownership", "OWN-UNKNOWN", .block, "UNKNOWN_TOOL", s!"Tool {toolName} is not registered.",
    none⟩

def engineFailureSignal : PolicySignal :=
  ⟨"engine", "ENGINE-FAIL", .block, "POLICY_ENGINE_FAILURE",
    "The policy engine failed closed.", none⟩

def defaultAllowSignal : PolicySignal :=
  ⟨"default", "DEFAULT-ALLOW", .allow, "ALLOW_POLICY_CHECKS_PASSED",
    "All applicable policy checks passed.", none⟩

/-- Whether every signal's reason is in the catalogue. -/
def catalogued (signals : List PolicySignal) : Bool :=
  signals.all fun item => reasonCodes.contains item.reasonCode

/-- The engine's signals, or the one signal of an engine that fails closed. -/
def failClosed (result : Except PyError (List PolicySignal)) : List PolicySignal :=
  match result with
  | .ok signals => if catalogued signals then signals else [engineFailureSignal]
  | .error _ => [engineFailureSignal]

/-- The guidance of all signals, later entries replacing earlier ones. -/
def mergedGuidance (signals : List PolicySignal) : Kwargs :=
  signals.foldl (fun acc item => acc.update (item.guidance.getD [])) []

/-- `guidance or None`. -/
def nonEmpty (guidance : Kwargs) : Option Kwargs :=
  if guidance.isEmpty then none else some guidance

/-- `_retry_block`. -/
def retryBlock (old : Decision) : Decision :=
  { old with
    policyOutcome := .block
    appliedOutcome := .block
    enforced := true
    reasonCode := "GUIDE_RETRY_EXHAUSTED"
    because := s!"{old.toolName} remained invalid after the permitted guided retry." }

/-! ## Redaction -/

/-- `_safe_arguments`. -/
def safeArguments (toolName : String) (args : Kwargs) : Kwargs :=
  if toolName = "write_tracking_outbox" then
    ["message", "phone", "email", "address", "name", "payment"].foldl Kwargs.pop args
  else args

/-- `_safe_result`. -/
def safeResult (toolName : String) (value : ToolValue) : Value :=
  match toolName, value.toPrimitive with
  | "write_tracking_outbox", .dict entries =>
      .dict (Kwargs.pop (Kwargs.pop entries "rendered_message") "message")
  | _, safe => safe

/-! ## Event descriptions -/

section Specs

variable (proposal : ToolProposal) (decision : Decision)

def attemptedSpec : EventSpec where
  eventType := .toolAttempted
  summary := s!"{proposal.agent.value} attempted {proposal.toolName}."
  agent := proposal.agent
  toolName := proposal.toolName
  effectClass := proposal.effectClass
  details := [("proposal_id", .str proposal.proposalId), ("attempt", .int proposal.attempt),
    ("arguments", .dict proposal.arguments)]
  idempotencyKey := some s!"proposal:{proposal.proposalId}:attempted"

/-- One signal as a decision event lists it. -/
def signalSummary (item : PolicySignal) : Value :=
  .dict [("family", .str item.family), ("policy_id", .str item.policyId),
    ("outcome", .str item.outcome.value), ("reason_code", .str item.reasonCode)]

def decidedSpec : EventSpec where
  eventType := .policyDecided
  summary :=
    let wouldBe := if !decision.enforced && decision.policyOutcome ≠ .allow then "Would " else ""
    s!"{wouldBe}{decision.policyOutcome.value}: {decision.because}"
  agent := decision.agent
  toolName := decision.toolName
  effectClass := decision.effectClass
  details :=
    [ ("decision_id", .str decision.decisionId), ("request_id", .str decision.requestId),
      ("proposal_id", .str decision.proposalId),
      ("policy_outcome", .str decision.policyOutcome.value),
      ("applied_outcome", .str decision.appliedOutcome.value),
      ("enforced", .bool decision.enforced), ("reason_code", .str decision.reasonCode),
      ("because", .str decision.because), ("guidance", .dict (decision.guidance.getD [])),
      ("signals", .list (decision.reasons.map signalSummary)),
      ("policy_version", .str decision.policyVersion),
      ("engine_name", .str decision.engineName),
      ("policy_bundle_hash", optStr decision.policyBundleHash),
      ("evaluation_ms", .float decision.evaluationMs) ]
  idempotencyKey := some s!"proposal:{decision.proposalId}:decision"

def guidedSpec : EventSpec where
  eventType := .toolGuided
  summary := decision.because
  agent := proposal.agent
  toolName := proposal.toolName
  effectClass := proposal.effectClass
  details := [("decision_id", .str decision.decisionId),
    ("guidance", .dict (decision.guidance.getD []))]
  idempotencyKey := some s!"proposal:{proposal.proposalId}:guided"

def blockedSpec : EventSpec where
  eventType := .toolBlocked
  summary := decision.because
  agent := proposal.agent
  toolName := proposal.toolName
  effectClass := proposal.effectClass
  details := [("decision_id", .str decision.decisionId),
    ("reason_code", .str decision.reasonCode)]
  idempotencyKey := some s!"proposal:{proposal.proposalId}:blocked"

def approvalRequiredSpec (approval : ApprovalRecord) : EventSpec where
  eventType := .approvalRequired
  summary := decision.because
  agent := proposal.agent
  toolName := proposal.toolName
  effectClass := proposal.effectClass
  details := [("decision_id", .str decision.decisionId),
    ("approval_id", .str approval.approvalId),
    ("prepared_action_id", .str approval.preparedActionId),
    ("action_hash", .str approval.actionHash), ("state_hash", .str approval.stateHash),
    ("policy_version", .str approval.policyVersion),
    ("reason_code", .str approval.reasonCode)]
  idempotencyKey := some s!"approval:{approval.approvalId}:required"

def succeededSpec (value : ToolValue) : EventSpec where
  eventType := .toolSucceeded
  summary := s!"{proposal.toolName} completed successfully."
  agent := proposal.agent
  toolName := proposal.toolName
  effectClass := proposal.effectClass
  details := [("result", safeResult proposal.toolName value)]
  idempotencyKey := some s!"proposal:{proposal.proposalId}:succeeded"

def failedSpec (message : String) : EventSpec where
  eventType := .toolFailed
  summary := message
  agent := proposal.agent
  toolName := proposal.toolName
  effectClass := proposal.effectClass
  details := [("error", .str message)]
  idempotencyKey := some s!"proposal:{proposal.proposalId}:failed"

end Specs

/-! ## The governor's configuration -/

structure Governor where
  engine : PolicyEngine
  loader : FixtureLoader
  maxToolCalls : Nat := 30
  maxGuidedAttempts : Nat := 2

namespace Governor

variable (g : Governor)

/-! ## Proposing -/

/-- Count the call and record the attempt. -/
def propose (agent : AgentName) (toolName : String) (args : Kwargs) :
    Py (Option ToolDefinition × ToolProposal) := do
  let state ← Proc.read
  if g.maxToolCalls ≤ state.toolCallCount then
    Proc.raise ⟨.toolExecution, s!"Trace {state.traceId} exceeded the tool-call limit."⟩
  else do
    Proc.mutate (·.countAttempt toolName)
    let definition := getDefinition toolName
    let uuid ← Py.uuid4
    let proposal : ToolProposal :=
      { proposalId := "PROP-" ++ uuid
        traceId := state.traceId
        agent := agent
        toolName := toolName
        effectClass := definition.map (·.effectClass)
        arguments := safeArguments toolName args
        attempt := (state.guideAttempts.get? toolName).getD 0 + 1 }
    let _ ← Py.appendEvent (attemptedSpec proposal)
    pure (definition, proposal)

/-! ## The policy request -/

/-- `_resource_context`. -/
def resourceContext (state : TrajectoryState) (toolName : String) (args : Kwargs) :
    Except PyError Resource :=
  if toolName = "create_dispatch_plan" then do
    let vehicles ← g.loader.listVehicles
    match vehicles.find? fun v => (args.get "vehicle_id").pyEq (.str v.vehicleId) with
    | some vehicle => .ok (.vehicle vehicle)
    | none => .ok .empty
  else if toolName = "select_carrier_quote" || toolName = "prepare_freight_booking" then do
    let order ← match state.order with
      | some order => .ok order
      | none => g.loader.getOrder state.orderId
    let quotes ← g.loader.listCarrierQuotes order.destinationZone
    match quotes.find? fun q => (args.get "quote_id").pyEq (.str q.quoteId) with
    | some quote => .ok (.quote quote)
    | none => .ok .empty
  else if toolName = "confirm_freight_booking" || toolName = "cancel_freight_booking" then
    match state.preparedActions.get? (args.getD "prepared_action_id" (.str "")).pyStr with
    | some prepared => .ok (.prepared prepared)
    | none => .ok .empty
  else .ok .empty

/-- `_approval_context`. -/
def approvalContext : Py (Option ApprovalContext) := do
  let state ← Proc.read
  match state.pendingApprovalId with
  | none => pure none
  | some approvalId =>
      if approvalId = "" then pure none
      else do
        match ← Proc.perform (.getApproval approvalId) with
        | .ok approval => do
            let now ← Py.utcNow
            pure (some (approval.toContext now))
        | .error x => if x.isManifest then pure none else Proc.raise x

/-- The resource identifier of a request. -/
def resourceIdOf (state : TrajectoryState) (toolName : String) (args : Kwargs) : String :=
  if toolName = "create_dispatch_plan" then
    (args.getD "vehicle_id" (.str state.orderId)).pyStr
  else if toolName = "select_carrier_quote" || toolName = "prepare_freight_booking" then
    (args.getD "quote_id" (.str state.orderId)).pyStr
  else if toolName = "confirm_freight_booking" || toolName = "cancel_freight_booking" then
    (args.getD "prepared_action_id" (.str state.orderId)).pyStr
  else state.orderId

/-- Only the two tools on prepared actions see an approval. -/
def approvalFor (toolName : String) : Py (Option ApprovalContext) :=
  if toolName = "confirm_freight_booking" || toolName = "cancel_freight_booking" then
    approvalContext
  else pure none

/-- `_build_request`. -/
def buildRequest (definition : Option ToolDefinition) (proposal : ToolProposal)
    (args : Kwargs) : Py PolicyRequest := do
  let state ← Proc.read
  let resource ← Proc.ofExcept (g.resourceContext state proposal.toolName args)
  let approval ← approvalFor proposal.toolName
  let uuid ← Py.uuid4
  pure {
    requestId := "REQ-" ++ uuid
    principal := proposal.agent
    action := proposal.toolName
    resourceType := "shipment_action"
    resourceId := resourceIdOf state proposal.toolName args
    context := {
      toolOwner := definition.map (·.owner.value)
      effectClass := definition.map (·.effectClass.value)
      arguments := args
      resource := resource
      approval := approval } }

/-! ## Deciding -/

/-- The signals a request is decided on. -/
def signalsFor (definition : Option ToolDefinition) (request : PolicyRequest)
    (state : TrajectoryState) : List PolicySignal :=
  match definition with
  | none => [unknownToolSignal request.action]
  | some _ => failClosed (g.engine.evaluate request state)

/-- The signals `_make_decision` works with: none at all is a default allow. -/
def orDefaultAllow (signals : List PolicySignal) : PolicySignal × List PolicySignal :=
  match signals with
  | [] => (defaultAllowSignal, [])
  | first :: rest => (first, rest)

/-- `_make_decision`. -/
def makeDecision (proposal : ToolProposal) (request : PolicyRequest)
    (signals : List PolicySignal) : Py Decision := do
  let state ← Proc.read
  let elapsed ← Proc.perform (.elapsedMs state.traceId)
  let (first, rest) := orDefaultAllow signals
  let primary := primaryOf first rest
  let enforced := state.mode = .enforce
  let uuid ← Py.uuid4
  let now ← Py.utcNow
  pure {
    decisionId := "DEC-" ++ uuid
    requestId := request.requestId
    traceId := state.traceId
    proposalId := proposal.proposalId
    agent := proposal.agent
    toolName := proposal.toolName
    effectClass := proposal.effectClass
    policyOutcome := primary.outcome
    appliedOutcome := if enforced then primary.outcome else .allow
    enforced := enforced
    reasonCode := primary.reasonCode
    because := primary.because
    reasons := first :: rest
    guidance := nonEmpty (mergedGuidance (first :: rest))
    policyVersion := state.policyVersion
    engineName := g.engine.name
    evaluationMs := elapsed
    policyBundleHash := g.engine.bundleHash
    createdAt := now }

/-- A guided attempt past the permitted number is blocked. -/
def limitRetries (proposal : ToolProposal) (decision : Decision) : Decision :=
  if decision.appliedOutcome = .guide && g.maxGuidedAttempts ≤ proposal.attempt then
    retryBlock decision
  else decision

/-- Build the request, ask the engine and decide. -/
def judge (definition : Option ToolDefinition) (proposal : ToolProposal) (args : Kwargs) :
    Py (PolicyRequest × Decision) := do
  let request ← g.buildRequest definition proposal args
  let state ← Proc.read
  let decision ← g.makeDecision proposal request (g.signalsFor definition request state)
  pure (request, g.limitRetries proposal decision)

/-- Persist the decision, then the event that reports it. -/
def record (decision : Decision) : Py Unit := do
  Py.appendDecision decision
  let _ ← Py.appendEvent (decidedSpec decision)
  pure ()

/-! ## Applied outcomes -/

def guide (proposal : ToolProposal) (decision : Decision) : Py GovernedToolResult := do
  let _ ← Py.appendEvent (guidedSpec proposal decision)
  pure { decision := decision, guidance := decision.guidance }

def block (proposal : ToolProposal) (decision : Decision) : Py GovernedToolResult := do
  let _ ← Py.appendEvent (blockedSpec proposal decision)
  pure { decision := decision }

/-- `mapping[key]` on the prepared actions. -/
def preparedAt (preparedId : String) : Py PreparedAction := do
  let state ← Proc.read
  match state.preparedActions.get? preparedId with
  | some prepared => pure prepared
  | none => Proc.raise (.ofPython "KeyError")

/-- `_create_approval`. -/
def createApproval (args : Kwargs) (decision : Decision) : Py ApprovalRecord := do
  let preparedId := (args.get "prepared_action_id").pyStr
  let prepared ← preparedAt preparedId
  Proc.mutate (·.setPreparedStatus preparedId .pendingApproval)
  let uuid ← Py.uuid4
  let now ← Py.utcNow
  let state ← Proc.read
  let approval : ApprovalRecord :=
    { approvalId := "APR-" ++ uuid
      traceId := state.traceId
      preparedActionId := preparedId
      actionHash := prepared.actionHash
      stateHash := prepared.stateHash
      policyVersion := state.policyVersion
      reasonCode := decision.reasonCode
      status := .pendingApproval
      createdAt := now
      expiresAt := prepared.expiresAt }
  Proc.mutate (·.setPendingApproval approval.approvalId)
  Py.addApproval approval
  pure approval

def escalate (proposal : ToolProposal) (args : Kwargs) (decision : Decision) :
    Py GovernedToolResult := do
  let approval ← createApproval args decision
  let _ ← Py.appendEvent (approvalRequiredSpec proposal decision approval)
  pure { decision := decision, pendingApproval := some approval }

/-! ## The effect -/

/-- The fingerprint of a governed write. -/
def effectFingerprint [Sha256] (toolName : String) (args : Kwargs) : String :=
  Sha256.hexdigest (canonicalJson
    (.dict [("tool_name", .str toolName), ("arguments", .dict args)]))

/-- Run a write under its key: replay a stored receipt or execute and store one. -/
def executeOnce [Sha256] (toolName : String) (args : Kwargs) (key : String) :
    Py ToolValue := do
  let keyHash ← Proc.ofExcept (opaqueKeyHash key)
  let fingerprint := effectFingerprint toolName args
  let state ← Proc.read
  match ← Proc.perform (.getEffectReceipt state.traceId keyHash) with
  | some existing =>
      if existing.fingerprint ≠ fingerprint then
        Proc.raise ⟨.effectReceiptConflict,
          "An effect idempotency key was reused with different arguments."⟩
      else pure (.dict existing.result)
  | none =>
      match ← Proc.request (.callTool toolName args) with
      | .dict payload => do
          let now ← Py.utcNow
          let stored ← Proc.request (.putEffectReceipt
            { traceId := state.traceId, toolName := toolName, keyHash := keyHash
              fingerprint := fingerprint, result := payload, createdAt := now })
          pure (.dict stored.result)
      | _ => Proc.raise ⟨.toolExecution, s!"Write tool {toolName} returned a non-object result."⟩

/-- `_execute_with_durable_receipt`. -/
def executeWithDurableReceipt [Sha256] (toolName : String) (effectClass : EffectClass)
    (args : Kwargs) : Py ToolValue :=
  match effectClass, args.get "idempotency_key" with
  | .read, _ => Proc.request (.callTool toolName args)
  | _, .str key => executeOnce toolName args key
  | _, _ => Proc.request (.callTool toolName args)

/-- `value[key]`. -/
def item (value : ToolValue) (key : String) : Except PyError Value :=
  match value with
  | .dict payload =>
      match payload.get? key with
      | some entry => .ok entry
      | none => .error (.ofPython "KeyError")
  | _ => .error (.ofPython "TypeError")

/-- `state.prepared_actions[str(arguments["prepared_action_id"])]`, with its key. -/
def namedPrepared (args : Kwargs) (state : TrajectoryState) :
    Except PyError (String × PreparedAction) :=
  match args.get? "prepared_action_id" with
  | none => .error (.ofPython "KeyError")
  | some value =>
      match state.preparedActions.get? value.pyStr with
      | some prepared => .ok (value.pyStr, prepared)
      | none => .error (.ofPython "KeyError")

def confirmationShort : PyError :=
  ⟨.toolExecution, "Reserved spend cannot become negative during confirmation."⟩

def cancellationShort : PyError :=
  ⟨.toolExecution, "Reserved spend cannot become negative during cancellation."⟩

/-- Move a confirmed amount from reserved to committed. -/
def commitSpend (amountMinor : Int) (confirmationId : String) (state : TrajectoryState) :
    TrajectoryState :=
  { state with
    confirmedBookingId := some confirmationId
    spendReservedMinor := state.spendReservedMinor - amountMinor
    spendCommittedMinor := state.spendCommittedMinor + amountMinor
    pendingApprovalId := none
    workflowStage := .bookingConfirmed }

/-- `_apply_confirmation`. -/
def applyConfirmation (args : Kwargs) (value : ToolValue) (state : TrajectoryState) :
    Except PyError Unit × TrajectoryState :=
  match namedPrepared args state with
  | .error x => (.error x, state)
  | .ok (preparedId, prepared) =>
      if prepared.status = .confirmed then (.ok (), state)
      else if state.spendReservedMinor < prepared.amountMinor then
        (.error confirmationShort, state)
      else
        -- The status is set before the confirmation identifier is read.
        let state := state.setPreparedStatus preparedId .confirmed
        match item value "confirmation_id" with
        | .error x => (.error x, state)
        | .ok confirmationId =>
            (.ok (), commitSpend prepared.amountMinor confirmationId.pyStr state)

/-- Release a cancelled amount. -/
def releaseSpend (preparedId : String) (amountMinor : Int) (state : TrajectoryState) :
    TrajectoryState :=
  { state.setPreparedStatus preparedId .cancelled with
    spendReservedMinor := state.spendReservedMinor - amountMinor
    pendingApprovalId := none }

/-- `_apply_cancellation`. -/
def applyCancellation (args : Kwargs) (state : TrajectoryState) :
    Except PyError Unit × TrajectoryState :=
  match namedPrepared args state with
  | .error x => (.error x, state)
  | .ok (preparedId, prepared) =>
      if prepared.status = .cancelled then (.ok (), state)
      else if prepared.status = .confirmed then
        (.error ⟨.toolExecution, "A confirmed booking cannot be cancelled."⟩, state)
      else if state.spendReservedMinor < prepared.amountMinor then
        (.error cancellationShort, state)
      else (.ok (), releaseSpend preparedId prepared.amountMinor state)

/-- What a successful tool does to the state. -/
def applyEffect (toolName : String) (args : Kwargs) (value : ToolValue)
    (state : TrajectoryState) : Except PyError Unit × TrajectoryState :=
  if toolName = "confirm_freight_booking" then applyConfirmation args value state
  else if toolName = "cancel_freight_booking" then applyCancellation args state
  else (.ok (), state)

/-- Record a failed tool and raise; an unexpected exception is wrapped. -/
def reportFailure {α : Type} (proposal : ToolProposal) (x : PyError) : Py α :=
  if x.isManifest then do
    let _ ← Py.appendEvent (failedSpec proposal x.message)
    Proc.raise x
  else do
    let message := s!"Tool {proposal.toolName} failed unexpectedly."
    let _ ← Py.appendEvent (failedSpec proposal message)
    Proc.raise ⟨.toolExecution, message⟩

def effect [Sha256] (effectClass : EffectClass) (proposal : ToolProposal)
    (request : PolicyRequest) (args : Kwargs) (decision : Decision) :
    Py GovernedToolResult := do
  let value ← Proc.tryCatch
    (executeWithDurableReceipt proposal.toolName effectClass args) (reportFailure proposal)
  let _ ← Py.appendEvent (succeededSpec proposal value)
  Proc.lift (applyEffect proposal.toolName args value)
  Proc.mutate (·.pushEffect
    ⟨proposal.toolName, proposal.effectClass, request.resourceId, proposal.agent.value⟩)
  pure { decision := decision, value := some value }

/-- Carry out the applied outcome of a recorded decision. -/
def apply [Sha256] (definition : Option ToolDefinition) (proposal : ToolProposal)
    (request : PolicyRequest) (args : Kwargs) (decision : Decision) :
    Py GovernedToolResult :=
  match decision.appliedOutcome, definition with
  | .guide, _ => guide proposal decision
  | .block, _ => block proposal decision
  | .escalate, _ => escalate proposal args decision
  | .allow, none => pure { decision := decision }
  | .allow, some definition => effect definition.effectClass proposal request args decision

/-- `execute_tool`. -/
def executeTool [Sha256] (agent : AgentName) (toolName : String) (args : Kwargs) :
    Py GovernedToolResult := do
  let (definition, proposal) ← g.propose agent toolName args
  let (request, decision) ← g.judge definition proposal args
  record decision
  apply definition proposal request args decision

end Governor

end Manifest
