import Manifest.Fixtures
import Manifest.Lib.PyNumber
import Manifest.Policy.Engine

/-!
# The Python reference policy engine

Six evaluators run in order and their signals are concatenated.  A mapping lookup
under an unhashable key raises, and so does printing an amount beyond the range of
a double.
-/

set_option autoImplicit false

namespace Manifest

/-- `mapping.get(key)` on a string-keyed mapping, for a dynamically typed key. -/
def lookupKey {α : Type} (mapping : Dict String α) : Value → Except PyError (Option α)
  | .str key => .ok (mapping.get? key)
  | .list _ => .error (.ofPython "TypeError")
  | .dict _ => .error (.ofPython "TypeError")
  | _ => .ok none

/-- `f"{minor / 100:,.0f}"`. -/
def formatMinor (minor : Int) : Except PyError String :=
  match PyNumber.hundredths minor with
  | some text => .ok text
  | none => .error (.ofPython "OverflowError")

/-- `_valid_fact_hash`. -/
def validFactHash [Sha256] (orderId : String) (fact : NumericFact) : Bool :=
  Sha256.tagged (Value.dumps true (.dict
    [("name", .str fact.name), ("order_id", .str orderId), ("source_id", .str fact.sourceId),
      ("unit", .str fact.unit), ("value", .int fact.value)])) = fact.sourceHash

/-- The fields never disclosed. -/
def forbiddenPiiFields : List String :=
  ["phone", "email", "address", "name", "payment", "message"]

/-- `forbidden.intersection(args)`. -/
def containsForbiddenPii (args : Kwargs) : Bool :=
  args.keys.any forbiddenPiiFields.contains

/-- `isinstance(variables, dict) and set(variables).issubset(...)`. -/
def templateVariablesAllowed : Value → Bool
  | .dict entries => entries.all fun entry => entry.1 = "order_id" || entry.1 = "carrier_id"
  | _ => false

/-- The two tools that act on a prepared commitment. -/
def actsOnPrepared (action : String) : Bool :=
  action = "confirm_freight_booking" || action = "cancel_freight_booking"

/-- The two tools that choose a carrier quote. -/
def choosesQuote (action : String) : Bool :=
  action = "select_carrier_quote" || action = "prepare_freight_booking"

namespace PythonEngine

/-- The versions and name the engine states about itself. -/
def name : String := "python_reference"
def policyVersion : String := "demo-v1"

def signal (family policyId : String) (outcome : DecisionOutcome)
    (reasonCode because : String) (guidance : Option Kwargs := none) : PolicySignal :=
  ⟨family, policyId, outcome, reasonCode, because, guidance⟩

/-- What a provenance guide-back asks for. -/
def factGuidance (fact : NumericFact) : Kwargs :=
  [("required_fact_id", .str fact.factId), ("required_value", .int fact.value),
    ("required_unit", .str fact.unit)]

variable [Sha256] (request : PolicyRequest) (state : TrajectoryState)

def ownershipAndMandate : Except PyError (List PolicySignal) :=
  match state.mandate with
  | none => .ok [signal "ownership" "OWN-000" .block "MISSING_POLICY_CONTEXT"
      "The shipment mandate is missing."]
  | some mandate =>
      if state.policyVersion ≠ mandate.policyVersion || state.policyVersion ≠ policyVersion then
        .ok [signal "ownership" "OWN-001" .block "MISSING_POLICY_CONTEXT"
          "The policy version does not match the trace mandate."]
      else if request.context.toolOwner ≠ some request.principal.value then
        .ok [signal "ownership" "OWN-002" .block "TOOL_OWNER_MISMATCH"
          s!"Agent {request.principal.value} does not own {request.action}."]
      else if (mandate.allowedEffectClasses.map fun item => some item.value).contains
          request.context.effectClass = false then
        let shown := match request.context.effectClass with
          | some effect => if effect = "" then "missing" else effect
          | none => "missing"
        .ok [signal "ownership" "OWN-003" .block "EFFECT_NOT_ALLOWED_BY_MANDATE"
          s!"Effect class {shown} is not allowed by the shipment mandate."]
      else if actsOnPrepared request.action then do
        let preparedId := request.context.arguments.get "prepared_action_id"
        -- A falsy identifier is refused before it is ever hashed.
        let found ← if preparedId.truthy then lookupKey state.preparedActions preparedId
          else .ok none
        if found.isNone then
          .ok [signal "ownership" "OWN-004" .block "PREPARED_ACTION_REQUIRED"
            "A matching prepared action is required before confirmation."]
        else .ok []
      else .ok []

def provenance : Except PyError (List PolicySignal) :=
  if request.action ≠ "create_dispatch_plan" then .ok []
  else do
    let args := request.context.arguments
    let factId := args.get "weight_fact_id"
    let found ← if factId.truthy then lookupKey state.facts factId else .ok none
    match found with
    | none => .ok [signal "provenance" "PROV-001" .block "PROVENANCE_REFERENCE_MISSING"
        "The dispatch weight has no trace-scoped source fact."]
    | some fact =>
        let unitText := (args.get "weight_unit").pyStr
        let valueText := (args.get "weight_value").pyStr
        if fact.name ≠ "shipment_weight" || validFactHash state.orderId fact = false then
          .ok [signal "provenance" "PROV-002" .block "PROVENANCE_REFERENCE_MISSING"
            "The referenced weight fact is invalid or corrupted."]
        else if (args.get "weight_unit").pyEq (.str fact.unit) = false then
          .ok [signal "provenance" "PROV-003" .guide "PROVENANCE_UNIT_MISMATCH"
            s!"Attempted unit {unitText} differs from sourced unit {fact.unit}."
            (some (factGuidance fact))]
        else if (args.get "weight_value").pyEq (.int fact.value) = false then
          .ok [signal "provenance" "PROV-004" .guide "PROVENANCE_VALUE_MISMATCH"
            s!"Attempted weight {valueText} kg differs from sourced weight {fact.value} kg."
            (some (factGuidance fact))]
        else .ok []

/-- The vehicle a cold-chain guide-back asks for. -/
def vehicleGuidance (requiredWeight : Option Int) : Kwargs :=
  [("required_vehicle", .dict
    [("minimum_capacity_kg", (requiredWeight.map Value.int).getD .none),
      ("refrigerated", .bool true)])]

/-- The carrier a cold-chain guide-back asks for. -/
def carrierGuidance : Kwargs :=
  [("required_carrier", .dict
    [("cold_chain_certified", .bool true), ("lane_supported", .bool true)])]

/-- Whether the vehicle cannot carry the sourced weight cold. -/
def vehicleUnsafe (resource : Resource) (requiredWeight : Option Int) : Bool :=
  !resource.available || !resource.refrigerated ||
    match requiredWeight with
    | none => true
    | some weight => resource.capacityKg (-1) < weight

def coldChain : Except PyError (List PolicySignal) :=
  match state.mandate with
  | none => .ok []
  | some mandate =>
      let resource := request.context.resource
      if mandate.cargoClass ≠ "perishable" then .ok []
      else if request.action = "create_dispatch_plan" then
        if resource.present = false then
          .ok [signal "cold_chain" "COLD-001" .block "MISSING_POLICY_CONTEXT"
            "Vehicle safety metadata is missing."]
        else do
          let fact ← lookupKey state.facts (request.context.arguments.get "weight_fact_id")
          let requiredWeight := fact.map (·.value)
          if vehicleUnsafe resource requiredWeight then
            .ok [signal "cold_chain" "COLD-002" .guide "COLD_CHAIN_VEHICLE_REQUIRED"
              "Perishable cargo requires an available refrigerated vehicle with sufficient capacity."
              (some (vehicleGuidance requiredWeight))]
          else .ok []
      else if choosesQuote request.action then
        if resource.present = false then
          .ok [signal "cold_chain" "COLD-003" .block "MISSING_POLICY_CONTEXT"
            "Carrier certification metadata is missing."]
        else if resource.coldChainCertified = false || resource.laneSupported = false then
          .ok [signal "cold_chain" "COLD-004" .guide "COLD_CHAIN_CARRIER_REQUIRED"
            "Perishable cargo requires a lane-supported cold-chain carrier."
            (some carrierGuidance)]
        else .ok []
      else .ok []

/-- The signal that asks for an approval. -/
def approvalRequired (projected threshold : Int) : Except PyError (List PolicySignal) := do
  let shown ← formatMinor projected
  let ceiling ← formatMinor threshold
  .ok [signal "spend" "SPEND-003" .escalate "SPEND_APPROVAL_REQUIRED"
    s!"Projected spend INR {shown} exceeds the INR {ceiling} ceiling."]

/-- The spend rules once the projected spend is above the threshold. -/
def spendException (prepared : PreparedAction) (projected threshold : Int) :
    Except PyError (List PolicySignal) :=
  match request.context.approval with
  | none => approvalRequired projected threshold
  | some approval =>
      match approval.status with
      | .approved =>
          if approval.isExpired then
            .ok [signal "spend" "SPEND-005" .block "APPROVAL_EXPIRED"
              "The approval expired before confirmation."]
          else if approval.preparedActionId ≠ prepared.preparedActionId ||
              approval.actionHash ≠ prepared.actionHash then
            .ok [signal "spend" "SPEND-006" .block "APPROVAL_ACTION_MISMATCH"
              "The approval does not match the prepared action."]
          else if approval.stateHash ≠ prepared.stateHash then
            .ok [signal "spend" "SPEND-007" .block "APPROVAL_STATE_MISMATCH"
              "The approval does not match the prepared trajectory state."]
          else if approval.policyVersion ≠ state.policyVersion then
            .ok [signal "spend" "SPEND-008" .block "APPROVAL_POLICY_MISMATCH"
              "The approval uses a different policy version."]
          else do
            let shown ← formatMinor projected
            .ok [signal "spend" "SPEND-009" .allow "SPEND_EXCEPTION_APPROVED"
              s!"A bound approval permits projected spend INR {shown}."]
      | .expired =>
          .ok [signal "spend" "SPEND-010" .block "APPROVAL_EXPIRED"
            "The approval expired before confirmation."]
      | .rejected =>
          .ok [signal "spend" "SPEND-011" .block "APPROVAL_REJECTED"
            "The prepared commitment was rejected."]
      | .pendingApproval => approvalRequired projected threshold

def commitmentBudget : Except PyError (List PolicySignal) :=
  if request.action ≠ "confirm_freight_booking" then .ok []
  else do
    let found ← lookupKey state.preparedActions
      (request.context.arguments.get "prepared_action_id")
    match found, state.mandate with
    | some prepared, some mandate =>
        if state.spendCommittedMinor < 0 || state.spendReservedMinor < 0 ||
            prepared.amountMinor < 0 then
          .ok [signal "spend" "SPEND-001" .block "MISSING_POLICY_CONTEXT"
            "Spend values must be non-negative integer minor units."]
        else if prepared.currency ≠ mandate.currency then
          .ok [signal "spend" "SPEND-002" .block "MISSING_POLICY_CONTEXT"
            "Prepared-action currency does not match the mandate."]
        else
          -- The prepared amount is already part of the reserved spend.
          let projected := state.spendCommittedMinor + state.spendReservedMinor
          if mandate.approvalThresholdMinor < projected then
            spendException request state prepared projected mandate.approvalThresholdMinor
          else do
            let shown ← formatMinor projected
            .ok [signal "spend" "SPEND-004" .allow "SPEND_WITHIN_CEILING"
              s!"Projected spend INR {shown} is within the shipment ceiling."]
    | _, _ => .ok []

/-- The separation rules for a cancellation. -/
def separationCancel (args : Kwargs) (prepared : PreparedAction) : List PolicySignal :=
  if (args.get "action_hash").pyEq (.str prepared.actionHash) = false then
    [signal "separation" "SOD-004" .block "PREPARED_ACTION_MISMATCH"
      "The cancellation does not match the prepared action."]
  else if prepared.status = .confirmed then
    [signal "separation" "SOD-005" .block "PREPARED_ACTION_MISMATCH"
      "A confirmed action cannot be cancelled."]
  else if prepared.status = .cancelled then
    [signal "separation" "SOD-006" .allow "CANCELLATION_ALREADY_APPLIED"
      "The prepared action is already cancelled."]
  else
    [signal "separation" "SOD-007" .allow "CANCELLATION_ALLOWED"
      "The pending prepared action may be cancelled."]

/-- The separation rules for a confirmation. -/
def separationConfirm (args : Kwargs) (prepared : PreparedAction) : List PolicySignal :=
  if prepared.status = .pendingApproval || prepared.status = .confirmed then
    [signal "separation" "SOD-001" .block "PREPARED_ACTION_MISMATCH"
      "The prepared action is not confirmable in its current state."]
  else if (args.get "action_hash").pyEq (.str prepared.actionHash) = false then
    [signal "separation" "SOD-002" .block "PREPARED_ACTION_MISMATCH"
      "The confirmation does not match the prepared action."]
  -- No agent name is empty, so the source's guard on an empty label is implied.
  else if state.approvedBy = some prepared.preparedBy.value then
    [signal "separation" "SOD-003" .block "SEPARATION_OF_DUTIES_VIOLATION"
      "The preparer cannot approve the same commitment."]
  else if prepared.status = .approved &&
      request.context.approval.bind (·.approverLabel) = some prepared.preparedBy.value then
    [signal "separation" "SOD-008" .block "APPROVER_CONFLICT"
      "The action preparer cannot approve the same commitment."]
  else []

def separationOfDuties : Except PyError (List PolicySignal) := do
  let args := request.context.arguments
  if choosesQuote request.action then
    if request.context.resource.quoteIssuer = some request.principal.value then
      .ok [signal "separation" "SOD-000" .block "SEPARATION_OF_DUTIES_VIOLATION"
        "The actor selecting a quote cannot also be its issuer."]
    else .ok []
  else if actsOnPrepared request.action then
    match ← lookupKey state.preparedActions (args.get "prepared_action_id") with
    | none => .ok []
    | some prepared =>
        if request.action = "cancel_freight_booking" then .ok (separationCancel args prepared)
        else .ok (separationConfirm request state args prepared)
  else .ok []

def piiBoundary : List PolicySignal :=
  let args := request.context.arguments
  if request.action ≠ "write_tracking_outbox" then []
  else if containsForbiddenPii args then
    [signal "pii" "PII-001" .block "PII_FIELD_NOT_ALLOWED"
      "Raw contact or free-form message fields are not allowed at the disclosure boundary."]
  else if (args.get "template_id").pyEq (.str "TRACKING_UPDATE_V1") = false then
    [signal "pii" "PII-002" .block "DISCLOSURE_TEMPLATE_NOT_ALLOWED"
      "The notification template is not allowlisted."]
  else if startsWith "DEMO-RECIPIENT-" (args.getD "recipient_ref" (.str "")).pyStr = false then
    [signal "pii" "PII-003" .block "PII_FIELD_NOT_ALLOWED"
      "Only synthetic recipient references are allowed."]
  else if templateVariablesAllowed (args.get "template_variables") = false then
    [signal "pii" "PII-004" .block "PII_FIELD_NOT_ALLOWED"
      "Notification variables contain a field outside the allowlist."]
  else []

/-- `PythonReferencePolicyEngine.evaluate`. -/
def evaluate : Except PyError (List PolicySignal) := do
  let ownership ← ownershipAndMandate request state
  let source ← provenance request state
  let cold ← coldChain request state
  let spend ← commitmentBudget request state
  let separation ← separationOfDuties request state
  .ok (ownership ++ source ++ cold ++ spend ++ separation ++ piiBoundary request)

end PythonEngine

/-- `PythonReferencePolicyEngine`. -/
def pythonReferencePolicyEngine [Sha256] : PolicyEngine where
  name := PythonEngine.name
  policyVersion := PythonEngine.policyVersion
  bundleHash := none
  evaluate := PythonEngine.evaluate

end Manifest
