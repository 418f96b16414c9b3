import Manifest.Runtime.Agents

/-!
# Roles backed by a hosted model

A hosted model asks for governed tools one at a time.  Every call crosses the governor
inside an invocation context, and an exception of a tool is handed to the model as the
call's error result.

Main results:

- Definition `StrandsRuntime.invoke`: one bounded role invocation.
- Definition `strandsAgents`: the roles of the Strands runtime, in order.
-/

set_option autoImplicit false

namespace Manifest

open Interaction

/-! ## Settings -/

/-- Validated agent-runtime configuration. -/
structure RuntimeSettings where
  runtimeMode : String := "legacy"
  modelProvider : String := "deterministic"
  modelId : String := "manifest-deterministic-v1"
  maxTurns : Int := 8
  timeoutSeconds : PyFloat
  maxOutputTokens : Int := 1024

namespace RuntimeSettings

/-- `provider_route_kind`. -/
def providerRouteKind (settings : RuntimeSettings) : String :=
  if settings.modelProvider = "openrouter" && settings.modelId = "openrouter/free" then "router"
  else "fixed"

/-- `resolved_model_id`. -/
def resolvedModelId (settings : RuntimeSettings) : Option String :=
  if settings.providerRouteKind = "router" then none else some settings.modelId

/-- `describe`. -/
def describe (settings : RuntimeSettings) : Kwargs :=
  [ ("runtime_mode", .str settings.runtimeMode),
    ("model_provider", .str settings.modelProvider), ("model_id", .str settings.modelId),
    ("requested_model_id", .str settings.modelId),
    ("resolved_model_id", optStr settings.resolvedModelId),
    ("provider_route_kind", .str settings.providerRouteKind),
    ("agent_max_turns", .int settings.maxTurns),
    ("agent_timeout_seconds", .float settings.timeoutSeconds),
    ("model_max_output_tokens", .int settings.maxOutputTokens),
    ("provider_fallback_active", .bool false) ]

end RuntimeSettings

/-! ## The invocation context -/

def agentRuntime {α : Type} (message : String) : Except PyError α :=
  .error ⟨.agentRuntime, message⟩

/-- `ROLE_TOOLS`. -/
def roleTools : AgentName → List String
  | .inventory => ["get_order", "check_inventory"]
  | .dispatch => ["list_available_vehicles", "create_dispatch_plan"]
  | .carrier =>
      ["list_carrier_quotes", "select_carrier_quote", "prepare_freight_booking",
        "confirm_freight_booking", "cancel_freight_booking"]
  | .customerCommunications => ["write_tracking_outbox"]

/-- A parameter's type in `TOOL_SCHEMAS`. -/
inductive ParameterType where
  | text
  | integer
deriving DecidableEq

/-- The parameters `TOOL_SCHEMAS` declares; all of them are required. -/
def toolParameters (toolName : String) : List (String × ParameterType) :=
  if toolName = "create_dispatch_plan" then
    [("vehicle_id", .text), ("weight_value", .integer), ("weight_unit", .text),
      ("weight_fact_id", .text)]
  else if toolName = "select_carrier_quote" then [("quote_id", .text)]
  else if toolName = "prepare_freight_booking" then
    [("quote_id", .text), ("amount_minor", .integer), ("currency", .text)]
  else if toolName = "confirm_freight_booking" || toolName = "cancel_freight_booking" then
    [("prepared_action_id", .text)]
  else []

/-- Whether a value has a parameter's type. -/
def ParameterType.admits : ParameterType → Value → Bool
  | .text, .str _ => true
  | .integer, .int _ => true
  | _, _ => false

/-- The declared parameters of a call; a call that does not fit the schema never reaches
the tool. -/
def declaredArguments (toolName : String) (args : Kwargs) : Option Kwargs :=
  (toolParameters toolName).mapM fun (key, kind) =>
    match args.get? key with
    | some value => if kind.admits value then some (key, value) else none
    | none => none

/-- `GovernedInvocationContext`.  Of the history only the names of the completed calls are
read, and of the payloads nothing. -/
structure GovernedInvocationContext where
  role : AgentName
  phase : RolePhase
  approval : Option ApprovalRecord := none
  cancellationReasonCode : Option String := none
  history : List String := []
  terminal : Bool := false
  closed : Bool := false
  blockedReason : Option String := none

namespace GovernedInvocationContext

/-- `allowed_tools`. -/
def allowedTools (context : GovernedInvocationContext) : List String :=
  match context.role, context.phase with
  | .carrier, .resumeApproved => ["confirm_freight_booking"]
  | .carrier, .cancel => ["cancel_freight_booking"]
  | .carrier, .run => (roleTools .carrier).dropLast
  | role, _ => roleTools role

def block (context : GovernedInvocationContext) (reason : String) : GovernedInvocationContext :=
  { context with terminal := true, blockedReason := some reason }

def finish (context : GovernedInvocationContext) : GovernedInvocationContext :=
  { context with terminal := true }

def remember (context : GovernedInvocationContext) (toolName : String) :
    GovernedInvocationContext :=
  { context with history := context.history ++ [toolName] }

/-- `context.close()`. -/
def close (context : GovernedInvocationContext) : GovernedInvocationContext :=
  { context with closed := true }

/-- One more than the completed calls of a tool. -/
def attemptOf (context : GovernedInvocationContext) (toolName : String) : Nat :=
  1 + context.history.count toolName

/-- The order of a lookup that needs the governed order result. -/
def governedOrder (state : TrajectoryState) (purpose : String) : Except PyError Order :=
  match state.order with
  | some order => .ok order
  | none => agentRuntime s!"{purpose} lookup requires the governed order result."

/-- The bound arguments of a confirmation or a cancellation. -/
def bindPrepared (context : GovernedInvocationContext) (state : TrajectoryState)
    (toolName : String) (args : Kwargs) : Except PyError Kwargs := do
  let preparedId := (← entryOf args "prepared_action_id").pyStr
  match state.preparedActions.get? preparedId with
  | none => agentRuntime "The requested prepared action is not in governed state."
  | some prepared =>
      let verb := if toolName = "confirm_freight_booking" then "confirm" else "cancel"
      let bound : Kwargs :=
        [ ("prepared_action_id", .str preparedId), ("action_hash", .str prepared.actionHash),
          ("idempotency_key", .str s!"{state.traceId}:{verb}:{preparedId}") ]
      if toolName = "cancel_freight_booking" then
        let reason := context.cancellationReasonCode.getD ""
        if reason = "" then agentRuntime "Cancellation requires a bound reason code."
        else .ok (bound.set "cancellation_reason_code" (.str reason))
      else .ok bound

/-- `_bind_arguments`. -/
def bindArguments (context : GovernedInvocationContext) (state : TrajectoryState)
    (toolName : String) (args : Kwargs) : Except PyError Kwargs :=
  let attempt := context.attemptOf toolName
  match toolName with
  | "get_order" => .ok [("order_id", .str state.orderId)]
  | "check_inventory" =>
      match state.order with
      | none => agentRuntime "Inventory lookup requires the governed order result."
      | some order =>
          .ok [("order_id", .str state.orderId), ("sku_id", .str order.skuId),
            ("quantity", .int order.quantity)]
  | "list_available_vehicles" => do
      let order ← governedOrder state "Vehicle"
      .ok [("destination_zone", .str order.destinationZone)]
  | "create_dispatch_plan" =>
      .ok ((Kwargs.update [("order_id", .str state.orderId)] args).set "idempotency_key"
        (.str s!"{state.traceId}:dispatch-plan:{attempt}"))
  | "list_carrier_quotes" => do
      let order ← governedOrder state "Carrier"
      .ok [("order_id", .str state.orderId), ("destination_zone", .str order.destinationZone)]
  | "select_carrier_quote" => do
      let quoteId := (← entryOf args "quote_id").pyStr
      .ok [("order_id", .str state.orderId), ("quote_id", .str quoteId),
        ("idempotency_key", .str s!"{state.traceId}:carrier-selection:{attempt}")]
  | "prepare_freight_booking" => do
      let quoteId := (← entryOf args "quote_id").pyStr
      .ok ((Kwargs.update [("order_id", .str state.orderId)] args).set "idempotency_key"
        (.str s!"{state.traceId}:prepare:{quoteId}"))
  | "confirm_freight_booking" => context.bindPrepared state toolName args
  | "cancel_freight_booking" => context.bindPrepared state toolName args
  | "write_tracking_outbox" =>
      match state.selectedQuote, state.confirmedBookingId with
      | some quote, some _ => .ok (CustomerCommunicationsAgent.outboxArgs state quote)
      | _, _ => agentRuntime "Notification requires a confirmed governed booking."
  | _ => agentRuntime s!"Tool {toolName} has no argument binder."

/-- What `_safe_value` needs before it can describe a result to the model. -/
def safeValue (toolName : String) (state : TrajectoryState) : Except PyError Unit :=
  if toolName = "list_available_vehicles" then
    if state.order.isSome && state.inventoryFact.isSome then .ok ()
    else agentRuntime
      "Dispatch vehicle discovery requires governed order and inventory facts."
  else if toolName = "list_carrier_quotes" then
    if state.order.isSome then .ok ()
    else agentRuntime "Carrier quote discovery requires the governed order fact."
  else .ok ()

/-- The context after a described result. -/
def settle (context : GovernedInvocationContext) (toolName : String)
    (result : GovernedToolResult) : GovernedInvocationContext :=
  let context := context.remember toolName
  if result.decision.appliedOutcome = .block then context.block result.decision.because
  else if result.pendingApproval.isSome then context.finish
  else context

/-- The governed part of `execute`. -/
def governedCall [Sha256] (context : GovernedInvocationContext) (g : Governor)
    (toolName : String) (args : Kwargs) : Py GovernedInvocationContext := do
  let state ← Proc.read
  let bound ← Proc.ofExcept (context.bindArguments state toolName args)
  let result ← g.executeTool context.role toolName bound
  match result.value with
  | some value => Projector.project g.loader context.role toolName bound value
  | none => pure ()
  let state ← Proc.read
  Proc.ofExcept (safeValue toolName state)
  pure (context.settle toolName result)

/-- `execute`, with the context it leaves; an exception is the call's error result. -/
def execute [Sha256] (context : GovernedInvocationContext) (g : Governor) (toolName : String)
    (args : Kwargs) : Py GovernedInvocationContext :=
  if context.closed || context.terminal then pure context
  else if context.allowedTools.contains toolName = false then
    pure (context.block s!"Tool {toolName} is not available to {context.role.value}.")
  else Proc.tryCatch (context.governedCall g toolName args) fun _ => pure context

/-- One call of the model: an unknown tool or arguments outside the schema are refused
before they reach the context. -/
def step [Sha256] (context : GovernedInvocationContext) (g : Governor) (call : ModelCall) :
    Py GovernedInvocationContext :=
  match context.allowedTools.contains call.toolName,
      declaredArguments call.toolName call.arguments with
  | true, some args => context.execute g call.toolName args
  | _, _ => pure context

/-- The calls of an invocation, in order. -/
def steps [Sha256] (g : Governor) :
    List ModelCall → GovernedInvocationContext → Py GovernedInvocationContext
  | [], context => pure context
  | call :: rest, context => do
      let context ← context.step g call
      steps g rest context

/-- Whether the role's task is done, judged on governed state. -/
def complete (context : GovernedInvocationContext) (state : TrajectoryState) : Bool :=
  match context.role, context.phase with
  | .inventory, _ => state.order.isSome && state.inventoryFact.isSome
  | .dispatch, _ => state.dispatchPlanId.isSome
  | .carrier, .run =>
      state.selectedQuote.isSome &&
        (state.confirmedBookingId.isSome || state.pendingApprovalId.isSome)
  | .carrier, .resumeApproved => state.confirmedBookingId.isSome
  | .carrier, .cancel =>
      match state.preparedActions.get? ((context.approval.map (·.preparedActionId)).getD "") with
      | some prepared => prepared.status = .cancelled
      | none => false
  | .customerCommunications, _ => state.notificationId.isSome

/-- `assert_complete`. -/
def assertComplete (context : GovernedInvocationContext) (state : TrajectoryState) :
    Except PyError Unit :=
  if context.complete state then .ok ()
  else .error ⟨.agentIncomplete,
    s!"The {context.role.value} model response ended before its governed role task completed."⟩

end GovernedInvocationContext

/-! ## The bounded invocation -/

namespace StrandsRuntime

/-- `str.title` of the provider names. -/
def titleOf (provider : String) : String :=
  match provider with
  | "openrouter" => "Openrouter"
  | "bedrock_mantle" => "Bedrock_Mantle"
  | "bedrock" => "Bedrock"
  | other => other

/-- The exception of an invocation that ran out of time. -/
def timeoutError (settings : RuntimeSettings) (role : AgentName) : PyError :=
  if ["openrouter", "bedrock_mantle", "bedrock"].contains settings.modelProvider then
    let title := titleOf settings.modelProvider
    ⟨.providerTimeout, s!"{title} model request timed out."⟩
  else ⟨.agentRuntime, s!"The {role.value} Strands invocation timed out."⟩

/-- The weight of the inventory fact, or zero. -/
def weightOf (state : TrajectoryState) : Int :=
  (state.inventoryFact.map (·.shipmentWeightKg)).getD 0

/-- `_governed_summary` of the carrier. -/
def carrierSummary (context : GovernedInvocationContext) (state : TrajectoryState) :
    Except PyError String :=
  let task := s!"carrier completed its governed {context.phase.value} task."
  match context.phase, state.pendingApprovalId, state.selectedQuote, state.confirmedBookingId with
  | .cancel, _, _, _ =>
      let prepared := (context.approval.map (·.preparedActionId)).getD "unknown"
      .ok s!"Carrier Agent cancelled prepared booking {prepared}."
  | _, some _, some quote, _ =>
      .ok s!"Carrier Agent prepared {quote.carrierId}; approval is required."
  | .resumeApproved, _, _, bookingId =>
      let shown := bookingId.getD "None"
      .ok s!"Carrier Agent confirmed approved booking {shown}."
  | _, _, some quote, some _ => do
      let amount ← formatMinor quote.amountMinor
      .ok s!"Carrier Agent confirmed {quote.carrierId} for INR {amount}."
  | _, _, _, _ => .ok task

/-- `_governed_summary`. -/
def governedSummary (context : GovernedInvocationContext) (state : TrajectoryState) :
    Except PyError String :=
  let weight := weightOf state
  match context.role with
  | .inventory =>
      .ok s!"Inventory Agent verified the synthetic order and {weight} kg inventory fact."
  | .dispatch =>
      let vehicle := (state.selectedVehicle.map (·.vehicleId)).getD "unknown"
      .ok s!"Dispatch Agent selected vehicle {vehicle} for {weight} kg."
  | .carrier => carrierSummary context state
  | .customerCommunications =>
      .ok "Customer Communications Agent wrote a simulated tracking message."

/-- `to_primitive` of an optional integer. -/
def optInt : Option Int → Value
  | some n => .int n
  | none => .none

/-- The event of a completed invocation. -/
def modelCompletedSpec (settings : RuntimeSettings) (context : GovernedInvocationContext)
    (traceId : String) (result : ModelResult) : EventSpec where
  eventType := .agentModelCompleted
  summary := s!"Completed bounded {context.role.value} model invocation."
  agent := context.role
  details :=
    [ ("runtime_mode", .str settings.runtimeMode),
      ("model_provider", .str settings.modelProvider),
      ("requested_model_id", .str settings.modelId),
      ("resolved_model_id", optStr settings.resolvedModelId),
      ("provider_route_kind", .str settings.providerRouteKind),
      ("provider_fallback_active", .bool false), ("phase", .str context.phase.value),
      ("model_latency_ms", .float result.latencyMs), ("model_cycles", .int result.cycleCount),
      ("input_tokens", optInt result.inputTokens),
      ("output_tokens", optInt result.outputTokens),
      ("total_tokens", optInt result.totalTokens) ]
  idempotencyKey := some s!"model:{traceId}:{context.role.value}:{context.phase.value}:completed"

/-- What is checked of an invocation that stopped by itself. -/
def checkResult (context : GovernedInvocationContext) (state : TrajectoryState)
    (result : ModelResult) : Except PyError String := do
  if let some reason := context.blockedReason then
    if reason ≠ "" then .error ⟨.policyBlocked, reason⟩
  if result.stopReason ≠ "end_turn" then
    agentRuntime s!"The {context.role.value} Strands invocation stopped with {result.stopReason}."
  context.assertComplete state
  if isBlank result.summary then
    agentRuntime s!"The {context.role.value} Strands invocation returned no summary."
  governedSummary context state

variable [Sha256] (g : Governor) (settings : RuntimeSettings)

/-- `invoke`. -/
def invoke (context : GovernedInvocationContext) : Py String := do
  let state ← Proc.read
  let invocation ← Proc.perform (.invokeModel state.traceId context.role context.phase)
  let context ← GovernedInvocationContext.steps g invocation.calls context
  match invocation.ending with
  | .timedOut => Proc.raise (timeoutError settings context.role)
  | .raised x => Proc.raise x
  | .stopped result => do
      let state ← Proc.read
      let summary ← Proc.ofExcept (checkResult context state result)
      let _ ← Py.appendEvent (modelCompletedSpec settings context state.traceId result)
      pure summary

end StrandsRuntime

/-! ## The roles -/

namespace StrandsCarrierAgent

variable [Sha256] (g : Governor) (settings : RuntimeSettings)

def resumeBooking (approval : ApprovalRecord) : Py String :=
  if approval.status ≠ .approved then
    stateMismatch "Only an approved record can resume a booking."
  else do
    let state ← Proc.read
    match state.preparedActions.get? approval.preparedActionId with
    | none => stateMismatch "The prepared action is not approved for confirmation."
    | some prepared =>
        if prepared.status ≠ .approved then
          stateMismatch "The prepared action is not approved for confirmation."
        else
          StrandsRuntime.invoke g settings
            { role := .carrier, phase := .resumeApproved, approval := some approval }

def cancelBooking (approval : ApprovalRecord) (reasonCode : String) : Py String := do
  let _ ← CarrierAgent.markEnded approval
  StrandsRuntime.invoke g settings
    { role := .carrier, phase := .cancel, approval := some approval
      cancellationReasonCode := some reasonCode }

end StrandsCarrierAgent

/-- `StrandsRoleAgent`. -/
def strandsRole [Sha256] (g : Governor) (settings : RuntimeSettings) (name : AgentName) : Agent where
  name := name
  run := StrandsRuntime.invoke g settings { role := name, phase := .run }

/-- The roles of the Strands runtime. -/
def strandsAgents [Sha256] (g : Governor) (settings : RuntimeSettings) : List Agent :=
  [ strandsRole g settings .inventory, strandsRole g settings .dispatch,
    { strandsRole g settings .carrier with
      resumeBooking := StrandsCarrierAgent.resumeBooking g settings
      cancelBooking := StrandsCarrierAgent.cancelBooking g settings },
    strandsRole g settings .customerCommunications ]

end Manifest
