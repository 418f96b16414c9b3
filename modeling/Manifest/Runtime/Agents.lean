import Manifest.Governor.Governor
import Manifest.Projector
import Manifest.Policy.PythonEngine

/-!
# The deterministic roles

The four roles of the walking skeleton, and the interface the orchestrator sees.

Main results:

- Definition `legacyAgents`: the roles of the legacy runtime, in order.
-/

set_option autoImplicit false

namespace Manifest

open Interaction

/-- What the orchestrator asks of a role.  Only the carrier has the two continuations;
asking another role for one is an `AttributeError`. -/
structure Agent where
  name : AgentName
  run : Py String
  resumeBooking : ApprovalRecord → Py String :=
    fun _ => Proc.raise (.ofPython "AttributeError")
  cancelBooking : ApprovalRecord → String → Py String :=
    fun _ _ => Proc.raise (.ofPython "AttributeError")

def policyBlocked {α : Type} (because : String) : Py α :=
  Proc.raise ⟨.policyBlocked, because⟩

def stateMismatch {α : Type} (message : String) : Py α :=
  Proc.raise ⟨.approvalStateMismatch, message⟩

/-- `result.value`, or `PolicyBlockedError` where there is none. -/
def valueOrBlocked (result : GovernedToolResult) : Py ToolValue :=
  match result.value with
  | some value => pure value
  | none => policyBlocked result.decision.because

/-- The vehicles among the items of a result. -/
def vehiclesIn : ToolValue → Except PyError (List Vehicle)
  | .vehicles items => .ok items
  | .quotes _ => .ok []
  | .dict _ => .ok []
  | _ => .error (.ofPython "TypeError")

/-- The quotes among the items of a result. -/
def quotesIn : ToolValue → Except PyError (List CarrierQuote)
  | .quotes items => .ok items
  | .vehicles _ => .ok []
  | .dict _ => .ok []
  | _ => .error (.ofPython "TypeError")

/-! ## Inventory -/

namespace InventoryAgent

variable [Sha256] (g : Governor)

def run : Py String := do
  let state ← Proc.read
  let orderArgs : Kwargs := [("order_id", .str state.orderId)]
  let orderResult ← g.executeTool .inventory "get_order" orderArgs
  match orderResult.value with
  | some (.order order) => do
      Projector.project g.loader .inventory "get_order" orderArgs (.order order)
      let factArgs : Kwargs :=
        [("order_id", .str order.orderId), ("sku_id", .str order.skuId),
          ("quantity", .int order.quantity)]
      let factResult ← g.executeTool .inventory "check_inventory" factArgs
      match factResult.value with
      | some (.fact fact) => do
          Projector.project g.loader .inventory "check_inventory" factArgs (.fact fact)
          pure s!"Inventory Agent verified {fact.shipmentWeightKg} kg of available stock from {fact.sourceId}."
      | _ => Proc.raise (.ofPython "TypeError")
  | _ => Proc.raise (.ofPython "TypeError")

end InventoryAgent

/-! ## Dispatch -/

namespace DispatchAgent

variable [Sha256] (g : Governor)

/-- `_find_vehicle`. -/
def findVehicle (vehicles : List Vehicle) (vehicleId : String) : Except PyError Vehicle :=
  match vehicles.find? fun vehicle => vehicle.vehicleId = vehicleId with
  | some vehicle => .ok vehicle
  | none => .error ⟨.noSuitableVehicle, s!"Preferred vehicle {vehicleId} is unavailable."⟩

/-- `mapping.get` of a guidance value, which may be no mapping at all. -/
def lookup (value : Value) (key : String) : Except PyError Value :=
  match value with
  | .dict entries => .ok (Kwargs.get entries key)
  | _ => .error (.ofPython "AttributeError")

/-- Whether a vehicle meets the required features; the capacity is read per vehicle. -/
def meets (required : Value) (correctedWeight : Int) (vehicle : Vehicle) :
    Except PyError Bool :=
  if vehicle.available = false then .ok false
  else do
    let minimum ← lookup required "minimum_capacity_kg"
    let capacity ← intOf (if minimum.truthy then minimum else .int correctedWeight)
    if vehicle.capacityKg < capacity then .ok false
    else do
      let refrigerated ← lookup required "refrigerated"
      .ok (!refrigerated.truthy || vehicle.refrigerated)

/-- The suitable vehicles, in order. -/
def candidates (required : Value) (correctedWeight : Int) :
    List Vehicle → Except PyError (List Vehicle)
  | [] => .ok []
  | vehicle :: rest => do
      let keep ← meets required correctedWeight vehicle
      let kept ← candidates required correctedWeight rest
      .ok (if keep then vehicle :: kept else kept)

/-- `sorted(vehicles, key=vehicle_id)[0]`. -/
def firstById (vehicles : List Vehicle) : Option Vehicle :=
  (vehicles.insertionSort fun a b => a.vehicleId ≤ b.vehicleId).head?

/-- One attempt at a plan. -/
def plan (attempt : String) (vehicle : Vehicle) (weight : Int) (unit factId : String) :
    Py GovernedToolResult := do
  let state ← Proc.read
  g.executeTool .dispatch "create_dispatch_plan"
    [ ("order_id", .str state.orderId), ("vehicle_id", .str vehicle.vehicleId),
      ("weight_value", .int weight), ("weight_unit", .str unit),
      ("weight_fact_id", .str factId),
      ("idempotency_key", .str s!"{state.traceId}:dispatch-plan:{attempt}") ]

/-- The second attempt, with the values a guided first one asked for. -/
def replan (vehicles : List Vehicle) (fact : InventoryFact) (guidance : Kwargs) :
    Py (Vehicle × Int × GovernedToolResult) := do
  let required := guidance.getD "required_vehicle" (.dict [])
  let weight ← Proc.ofExcept (intOf (guidance.getD "required_value" (.int fact.shipmentWeightKg)))
  let suitable ← Proc.ofExcept (candidates required weight vehicles)
  match firstById suitable with
  | none => Proc.raise ⟨.noSuitableVehicle, s!"No suitable vehicle can carry {weight} kg."⟩
  | some vehicle => do
      let result ← plan g "2" vehicle weight
        (guidance.getD "required_unit" (.str "kg")).pyStr
        (guidance.getD "required_fact_id" (.str fact.factId)).pyStr
      pure (vehicle, weight, result)

/-- Plan once, and once more when guided. -/
def planGuided (vehicles : List Vehicle) (selected : Vehicle) (fact : InventoryFact)
    (weight : Int) : Py (Vehicle × Int × GovernedToolResult) := do
  let result ← plan g "1" selected weight "kg" fact.factId
  if result.decision.appliedOutcome = .guide then
    replan g vehicles fact (result.guidance.getD [])
  else pure (selected, weight, result)

def run : Py String := do
  let state ← Proc.read
  match state.order, state.inventoryFact, state.scenarioConfig with
  | some order, some fact, some scenario => do
      let listed ← g.executeTool .dispatch "list_available_vehicles"
        [("destination_zone", .str order.destinationZone)]
      let value ← valueOrBlocked listed
      let vehicles ← Proc.ofExcept (vehiclesIn value)
      let preferred ← Proc.ofExcept (findVehicle vehicles scenario.preferredVehicleId)
      let (selected, weight, result) ←
        planGuided g vehicles preferred fact scenario.attemptedWeightKg
      let planned ← valueOrBlocked result
      Projector.project g.loader .dispatch "create_dispatch_plan"
        [("vehicle_id", .str selected.vehicleId)] planned
      pure s!"Dispatch Agent selected vehicle {selected.vehicleId} for {weight} kg."
  | _, _, _ =>
      Proc.raise ⟨.noSuitableVehicle, "Dispatch requires a sourced inventory fact and scenario."⟩

end DispatchAgent

/-! ## Carrier -/

namespace CarrierAgent

variable [Sha256] (g : Governor)

/-- `_find_quote`. -/
def findQuote (quotes : List CarrierQuote) (quoteId : String) : Except PyError CarrierQuote :=
  match quotes.find? fun quote => quote.quoteId = quoteId with
  | some quote => .ok quote
  | none => .error ⟨.noSuitableCarrier, s!"Preferred quote {quoteId} is unavailable."⟩

/-- `min(quotes, key=(amount_minor, quote_id))`. -/
def cheapest (quotes : List CarrierQuote) : Option CarrierQuote :=
  (quotes.insertionSort fun a b =>
    a.amountMinor < b.amountMinor ∨ (a.amountMinor = b.amountMinor ∧ a.quoteId ≤ b.quoteId)).head?

/-- `_select`. -/
def select (quote : CarrierQuote) (attempt : String) : Py GovernedToolResult := do
  let state ← Proc.read
  g.executeTool .carrier "select_carrier_quote"
    [ ("order_id", .str state.orderId), ("quote_id", .str quote.quoteId),
      ("idempotency_key", .str s!"{state.traceId}:carrier-selection:{attempt}") ]

/-- Select the preferred quote, and the cheapest certified one when guided. -/
def selectGuided (quotes : List CarrierQuote) (preferred : CarrierQuote) :
    Py (CarrierQuote × GovernedToolResult) := do
  let result ← select g preferred "1"
  if result.decision.appliedOutcome = .guide then do
    let state ← Proc.read
    match cheapest (quotes.filter fun quote => quote.coldChainCertified && quote.laneSupported) with
    | none =>
        Proc.raise ⟨.noSuitableCarrier, s!"No suitable carrier quote exists for {state.orderId}."⟩
    | some quote => do
        let result ← select g quote "2"
        pure (quote, result)
  else pure (preferred, result)

/-- Prepare the selected quote and look up the action it became. -/
def prepare (selected : CarrierQuote) : Py PreparedAction := do
  let state ← Proc.read
  let result ← g.executeTool .carrier "prepare_freight_booking"
    [ ("order_id", .str state.orderId), ("quote_id", .str selected.quoteId),
      ("amount_minor", .int selected.amountMinor), ("currency", .str selected.currency),
      ("idempotency_key", .str s!"{state.traceId}:prepare:{selected.quoteId}") ]
  if result.decision.appliedOutcome = .guide then
    policyBlocked "Selected carrier remained invalid during preparation."
  else do
    let value ← valueOrBlocked result
    Projector.project g.loader .carrier "prepare_freight_booking"
      [ ("quote_id", .str selected.quoteId), ("amount_minor", .int selected.amountMinor),
        ("currency", .str selected.currency) ] value
    let preparedId ← Proc.ofExcept (Governor.item value "prepared_action_id")
    Governor.preparedAt preparedId.pyStr

/-- The arguments that confirm an action. -/
def confirmArgs (traceId : String) (prepared : PreparedAction) : Kwargs :=
  [ ("prepared_action_id", .str prepared.preparedActionId),
    ("action_hash", .str prepared.actionHash),
    ("idempotency_key", .str s!"{traceId}:confirm:{prepared.preparedActionId}") ]

/-- The arguments that cancel an action. -/
def cancelArgs (traceId : String) (prepared : PreparedAction) (reasonCode : String) : Kwargs :=
  [ ("prepared_action_id", .str prepared.preparedActionId),
    ("action_hash", .str prepared.actionHash),
    ("cancellation_reason_code", .str reasonCode),
    ("idempotency_key", .str s!"{traceId}:cancel:{prepared.preparedActionId}") ]

/-- Ask for the confirmation of an action. -/
def confirm (prepared : PreparedAction) : Py GovernedToolResult := do
  let state ← Proc.read
  g.executeTool .carrier "confirm_freight_booking" (confirmArgs state.traceId prepared)

/-- Confirm the selected quote's booking, or stop at its approval. -/
def book (selected : CarrierQuote) : Py String := do
  let prepared ← prepare g selected
  let confirmed ← confirm g prepared
  match confirmed.pendingApproval with
  | some _ => pure s!"Carrier Agent prepared {selected.carrierId}; approval is required."
  | none => do
      let _ ← valueOrBlocked confirmed
      let amount ← Proc.ofExcept (formatMinor selected.amountMinor)
      pure s!"Carrier Agent confirmed {selected.carrierId} for INR {amount}."

def run : Py String := do
  let state ← Proc.read
  match state.order, state.dispatchPlanId, state.scenarioConfig with
  | some order, some _, some scenario => do
      let listed ← g.executeTool .carrier "list_carrier_quotes"
        [("order_id", .str state.orderId), ("destination_zone", .str order.destinationZone)]
      let value ← valueOrBlocked listed
      let quotes ← Proc.ofExcept (quotesIn value)
      let preferred ← Proc.ofExcept (findQuote quotes scenario.preferredQuoteId)
      let (selected, result) ← selectGuided g quotes preferred
      let chosen ← valueOrBlocked result
      Projector.project g.loader .carrier "select_carrier_quote"
        [("quote_id", .str selected.quoteId)] chosen
      book g selected
  | _, _, _ =>
      Proc.raise ⟨.noSuitableCarrier, "Carrier selection requires a dispatch plan and scenario."⟩

def resumeBooking (approval : ApprovalRecord) : Py String :=
  if approval.status ≠ .approved then
    stateMismatch "Only an approved record can resume a booking."
  else do
    let state ← Proc.read
    match state.preparedActions.get? approval.preparedActionId with
    | none => stateMismatch "The prepared action is not approved for confirmation."
    | some prepared =>
        if prepared.status ≠ .approved then
          stateMismatch "The prepared action is not approved for confirmation."
        else do
          let result ← confirm g prepared
          let value ← valueOrBlocked result
          let confirmationId ← Proc.ofExcept (Governor.item value "confirmation_id")
          let shown := confirmationId.pyStr
          pure s!"Carrier Agent confirmed approved booking {shown}."

/-- The status a cancelled approval writes to its action. -/
def endedStatus : ApprovalStatus → Option CommitmentStatus
  | .rejected => some .rejected
  | .expired => some .expired
  | _ => none

/-- Find the action an ended approval is bound to and write its status; both roles that
can cancel start so. -/
def markEnded (approval : ApprovalRecord) : Py PreparedAction := do
  let state ← Proc.read
  match state.preparedActions.get? approval.preparedActionId with
  | none => stateMismatch "The prepared action to cancel was not found."
  | some prepared =>
      match endedStatus approval.status with
      | none => stateMismatch "Only rejected or expired actions can be cancelled."
      | some status => do
          Proc.mutate (·.setPreparedStatus approval.preparedActionId status)
          pure prepared

def cancelBooking (approval : ApprovalRecord) (reasonCode : String) : Py String := do
  let prepared ← markEnded approval
  let state ← Proc.read
  let result ← g.executeTool .carrier "cancel_freight_booking"
    (cancelArgs state.traceId prepared reasonCode)
  let _ ← valueOrBlocked result
  pure s!"Carrier Agent cancelled prepared booking {prepared.preparedActionId}."

end CarrierAgent

/-! ## Customer communications -/

namespace CustomerCommunicationsAgent

variable [Sha256] (g : Governor)

/-- The arguments of the tracking notification. -/
def outboxArgs (state : TrajectoryState) (quote : CarrierQuote) : Kwargs :=
  let recipient := removePrefix "ORD-" state.orderId
  [ ("order_id", .str state.orderId), ("recipient_ref", .str s!"DEMO-RECIPIENT-{recipient}"),
    ("template_id", .str "TRACKING_UPDATE_V1"),
    ("template_variables", .dict
      [("order_id", .str state.orderId), ("carrier_id", .str quote.carrierId)]),
    ("idempotency_key", .str s!"{state.traceId}:tracking-outbox") ]

def run : Py String := do
  let state ← Proc.read
  match state.selectedQuote, state.confirmedBookingId with
  | some quote, some _ => do
      let result ← g.executeTool .customerCommunications "write_tracking_outbox"
        (outboxArgs state quote)
      match result.value with
      | none => Proc.raise ⟨.manifest, result.decision.because⟩
      | some value => do
          Projector.project g.loader .customerCommunications "write_tracking_outbox"
            [("order_id", .str state.orderId)] value
          pure "Customer Communications Agent wrote a simulated tracking message."
  | _, _ =>
      Proc.raise ⟨.manifest, "A confirmed carrier booking is required before notification."⟩

end CustomerCommunicationsAgent

/-- The roles of the legacy runtime. -/
def legacyAgents [Sha256] (g : Governor) : List Agent :=
  [ { name := .inventory, run := InventoryAgent.run g },
    { name := .dispatch, run := DispatchAgent.run g },
    { name := .carrier
      run := CarrierAgent.run g
      resumeBooking := CarrierAgent.resumeBooking g
      cancelBooking := CarrierAgent.cancelBooking g },
    { name := .customerCommunications, run := CustomerCommunicationsAgent.run g } ]

end Manifest
