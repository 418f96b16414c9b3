import Manifest.Commitments
import Manifest.Governor.Spec

/-!
# Projection of governed tool results

The workflow fields follow a successful tool result.

Main results:

- Theorem `project_ensures`: a projection moves no committed money; it adds at most
  one prepared action, and reserves its amount.
-/

set_option autoImplicit false

namespace Manifest

open Interaction

/-! ## Reading arguments and results -/

/-- Decimal digits with single underscores between them. -/
def parseDigits : List Char → Option Nat → Option Nat
  | [], acc => acc
  | '_' :: c :: rest, some acc =>
      if c.isDigit then parseDigits rest (some (acc * 10 + (c.toNat - 48))) else none
  | c :: rest, acc =>
      if c.isDigit then parseDigits rest (some (acc.getD 0 * 10 + (c.toNat - 48))) else none

/-- `int(text)` for a decimal literal, blanks around it and one sign allowed. -/
def parseInt (text : String) : Option Int :=
  let chars := ((text.toList.dropWhile Char.isWhitespace).reverse.dropWhile
    Char.isWhitespace).reverse
  match chars with
  | '-' :: digits => (parseDigits digits none).map fun n => -(n : Int)
  | '+' :: digits => (parseDigits digits none).map Int.ofNat
  | digits => (parseDigits digits none).map Int.ofNat

/-- `int(value)`. -/
def intOf : Value → Except PyError Int
  | .int n => .ok n
  | .bool b => .ok (if b then 1 else 0)
  | .float x => .ok (Int.tdiv x.value.num x.value.den)
  | .str text =>
      match parseInt text with
      | some n => .ok n
      | none => .error (.ofPython "ValueError")
  | _ => .error (.ofPython "TypeError")

/-- `mapping[key]`. -/
def entryOf (args : Kwargs) (key : String) : Except PyError Value :=
  match args.get? key with
  | some value => .ok value
  | none => .error (.ofPython "KeyError")

namespace Projector

def invalidResult {α : Type} (toolName : String) : Except PyError α :=
  .error ⟨.toolExecution, s!"{toolName} returned an invalid result."⟩

/-- `_mapping`. -/
def mapping (toolName : String) : ToolValue → Except PyError Kwargs
  | .dict payload => .ok payload
  | _ => invalidResult toolName

variable (loader : FixtureLoader)

/-- `_vehicle`. -/
def vehicle (vehicleId : String) : Except PyError Vehicle := do
  match (← loader.listVehicles).find? fun item => item.vehicleId = vehicleId with
  | some found => .ok found
  | none =>
      .error ⟨.toolExecution, s!"Vehicle {vehicleId} was not found during projection."⟩

/-- `_quote`. -/
def quote (state : TrajectoryState) (quoteId : String) : Except PyError CarrierQuote :=
  match state.order with
  | none => .error ⟨.toolExecution, "Carrier projection requires an order."⟩
  | some order => do
      match (← loader.listCarrierQuotes order.destinationZone).find? fun item =>
          item.quoteId = quoteId with
      | some found => .ok found
      | none => .error ⟨.toolExecution, s!"Quote {quoteId} was not found during projection."⟩

/-! ## Field updates -/

def factOf (fact : InventoryFact) : NumericFact :=
  { factId := fact.factId, name := "shipment_weight", value := fact.shipmentWeightKg
    unit := "kg", sourceId := fact.sourceId, sourceHash := fact.sourceHash
    createdByTool := "check_inventory" }

def setOrder (state : TrajectoryState) (order : Order) : TrajectoryState :=
  { state with order := some order }

def setFact (state : TrajectoryState) (fact : InventoryFact) : TrajectoryState :=
  { state with
    inventoryFact := some fact
    facts := state.facts.set fact.factId (factOf fact) }

def setVehicle (state : TrajectoryState) (vehicle : Vehicle) : TrajectoryState :=
  { state with selectedVehicle := some vehicle }

def setDispatchPlan (state : TrajectoryState) (planId : String) : TrajectoryState :=
  { state with dispatchPlanId := some planId }

def setQuote (state : TrajectoryState) (quote : CarrierQuote) : TrajectoryState :=
  { state with selectedQuote := some quote }

def setCarrierSelection (state : TrajectoryState) (selectionId : String)
    (quote : CarrierQuote) : TrajectoryState :=
  { state with
    carrierSelectionId := some selectionId
    quotedBy := some quote.quoteIssuer }

/-- Add a prepared action and reserve its amount. -/
def addPrepared (state : TrajectoryState) (preparedId : String) (prepared : PreparedAction)
    (agent : AgentName) : TrajectoryState :=
  { state with
    preparedActions := state.preparedActions.set preparedId prepared
    preparedBy := some agent
    spendReservedMinor := state.spendReservedMinor + prepared.amountMinor
    workflowStage := .bookingPrepared }

def setNotification (state : TrajectoryState) (notificationId : String) : TrajectoryState :=
  { state with notificationId := some notificationId }

/-! ## Projections -/

def projectOrder (value : ToolValue) (state : TrajectoryState) :
    Except PyError Unit × TrajectoryState :=
  match value with
  | .order order => (.ok (), setOrder state order)
  | _ => (invalidResult "get_order", state)

def projectInventory (value : ToolValue) (state : TrajectoryState) :
    Except PyError Unit × TrajectoryState :=
  match value with
  | .fact fact => (.ok (), setFact state fact)
  | _ => (invalidResult "check_inventory", state)

/-- Read what an assignment needs, assign, then read what the next one needs. -/
def assignTwice {α β : Type} (first : Except PyError α)
    (assign : TrajectoryState → α → TrajectoryState) (second : Except PyError β)
    (finish : TrajectoryState → α → β → TrajectoryState) (state : TrajectoryState) :
    Except PyError Unit × TrajectoryState :=
  match first with
  | .error x => (.error x, state)
  | .ok a =>
      match second with
      | .error x => (.error x, assign state a)
      | .ok b => (.ok (), finish (assign state a) a b)

def projectDispatch (args : Kwargs) (value : ToolValue) (state : TrajectoryState) :
    Except PyError Unit × TrajectoryState :=
  let payload := mapping "create_dispatch_plan" value
  let found : Except PyError Vehicle := do
    let _ ← payload
    vehicle loader (← entryOf args "vehicle_id").pyStr
  assignTwice found setVehicle (payload.bind (entryOf · "plan_id"))
    (fun state _ planId => setDispatchPlan state planId.pyStr) state

def projectSelection (args : Kwargs) (value : ToolValue) (state : TrajectoryState) :
    Except PyError Unit × TrajectoryState :=
  let payload := mapping "select_carrier_quote" value
  let found : Except PyError CarrierQuote := do
    let _ ← payload
    quote loader state (← entryOf args "quote_id").pyStr
  assignTwice found setQuote (payload.bind (entryOf · "selection_id"))
    (fun state quote selectionId => setCarrierSelection state selectionId.pyStr quote) state

/-- The arguments of a preparation, converted in the source's order. -/
def preparation (args : Kwargs) : Except PyError (Int × String × String) := do
  let amount ← intOf (← entryOf args "amount_minor")
  let quoteId ← entryOf args "quote_id"
  let currency ← entryOf args "currency"
  .ok (amount, quoteId.pyStr, currency.pyStr)

/-- The prepared action's identifier in a result. -/
def preparedIdOf (value : ToolValue) : Except PyError String := do
  let payload ← mapping "prepare_freight_booking" value
  let preparedId ← entryOf payload "prepared_action_id"
  .ok preparedId.pyStr

def projectPreparation [Sha256] (agent : AgentName) (args : Kwargs) (value : ToolValue) :
    Py Unit := do
  let preparedId ← Proc.ofExcept (preparedIdOf value)
  let state ← Proc.read
  if state.preparedActions.contains preparedId then pure ()
  else do
    let (amountMinor, quoteId, currency) ← Proc.ofExcept (preparation args)
    match state.mandate with
    | none => Proc.raise (.ofPython "ValueError")
    | some mandate => do
        let now ← Py.utcNow
        Proc.mutate (addPrepared · preparedId
          (buildPreparedAction state mandate preparedId quoteId amountMinor currency agent now)
          agent)

def projectNotification (value : ToolValue) (state : TrajectoryState) :
    Except PyError Unit × TrajectoryState :=
  match (mapping "write_tracking_outbox" value).bind (entryOf · "notification_id") with
  | .ok notificationId => (.ok (), setNotification state notificationId.pyStr)
  | .error x => (.error x, state)

/-- `ToolResultProjector.project`. -/
def project [Sha256] (agent : AgentName) (toolName : String) (args : Kwargs)
    (value : ToolValue) : Py Unit :=
  match toolName with
  | "get_order" => Proc.lift (projectOrder value)
  | "check_inventory" => Proc.lift (projectInventory value)
  | "create_dispatch_plan" => Proc.lift (projectDispatch loader args value)
  | "select_carrier_quote" => Proc.lift (projectSelection loader args value)
  | "prepare_freight_booking" => projectPreparation agent args value
  | "write_tracking_outbox" => Proc.lift (projectNotification value)
  | _ => pure ()

/-! ## What a projection can do -/

/-- The fields of a state that only commitments and approvals move. -/
structure SameMoney (s s' : TrajectoryState) : Prop where
  traceId_eq : s'.traceId = s.traceId
  mode_eq : s'.mode = s.mode
  mandate_eq : s'.mandate = s.mandate
  status_eq : s'.status = s.status
  policyVersion_eq : s'.policyVersion = s.policyVersion
  committed_eq : s'.spendCommittedMinor = s.spendCommittedMinor
  confirmedBookingId_eq : s'.confirmedBookingId = s.confirmedBookingId
  pendingApprovalId_eq : s'.pendingApprovalId = s.pendingApprovalId
  approvedBy_eq : s'.approvedBy = s.approvedBy
  ledger_eq : s'.ledger = s.ledger

theorem SameMoney.refl (s : TrajectoryState) : SameMoney s s :=
  ⟨rfl, rfl, rfl, rfl, rfl, rfl, rfl, rfl, rfl, rfl⟩

/-- A projection reserves nothing, or reserves for one new prepared action. -/
inductive Projected (s s' : TrajectoryState) : Prop where
  | plain (same : SameMoney s s') (prepared_eq : s'.preparedActions = s.preparedActions)
      (reserved_eq : s'.spendReservedMinor = s.spendReservedMinor)
      (stage_eq : s'.workflowStage = s.workflowStage)
  | prepared {preparedId : String} {prepared : PreparedAction} (same : SameMoney s s')
      (fresh : s.preparedActions.get? preparedId = none)
      (id_eq : prepared.preparedActionId = preparedId)
      (status_eq : prepared.status = .prepared)
      (prepared_eq : s'.preparedActions = s.preparedActions.set preparedId prepared)
      (reserved_eq : s'.spendReservedMinor = s.spendReservedMinor + prepared.amountMinor)

theorem Projected.same {s s' : TrajectoryState} (h : Projected s s') : SameMoney s s' := by
  cases h with
  | plain same => exact same
  | prepared same => exact same

theorem Projected.refl (s : TrajectoryState) : Projected s s :=
  .plain (.refl s) rfl rfl rfl

/-- Two assignments leave the state alone, or stop after the first or the second. -/
theorem assignTwice_rel {α β : Type} {first : Except PyError α}
    {assign : TrajectoryState → α → TrajectoryState} {second : Except PyError β}
    {finish : TrajectoryState → α → β → TrajectoryState} {s : TrajectoryState}
    {R : TrajectoryState → Prop} (hsame : R s) (hassign : ∀ a, R (assign s a))
    (hfinish : ∀ a b, R (finish (assign s a) a b)) :
    R (assignTwice first assign second finish s).2 := by
  cases first with
  | error x => exact hsame
  | ok a =>
      cases second with
      | error x => exact hassign a
      | ok b => exact hfinish a b

/-- Only the clock is read, and a projection's result is one of two kinds. -/
theorem project_ensures [Sha256] (agent : AgentName) (toolName : String) (args : Kwargs)
    (value : ToolValue) (s : TrajectoryState) :
    Proc.Ensures readingOp (project loader agent toolName args value) s
      fun _ s' => Projected s s' := by
  unfold project
  split
  · simp only [Proc.ensures_lift, projectOrder]
    split
    · exact .plain ⟨rfl, rfl, rfl, rfl, rfl, rfl, rfl, rfl, rfl, rfl⟩ rfl rfl rfl
    · exact .refl s
  · simp only [Proc.ensures_lift, projectInventory]
    split
    · exact .plain ⟨rfl, rfl, rfl, rfl, rfl, rfl, rfl, rfl, rfl, rfl⟩ rfl rfl rfl
    · exact .refl s
  · exact assignTwice_rel (.refl s)
      (fun a => .plain ⟨rfl, rfl, rfl, rfl, rfl, rfl, rfl, rfl, rfl, rfl⟩ rfl rfl rfl)
      (fun a b => .plain ⟨rfl, rfl, rfl, rfl, rfl, rfl, rfl, rfl, rfl, rfl⟩ rfl rfl rfl)
  · exact assignTwice_rel (.refl s)
      (fun a => .plain ⟨rfl, rfl, rfl, rfl, rfl, rfl, rfl, rfl, rfl, rfl⟩ rfl rfl rfl)
      (fun a b => .plain ⟨rfl, rfl, rfl, rfl, rfl, rfl, rfl, rfl, rfl, rfl⟩ rfl rfl rfl)
  · simp only [projectPreparation, Proc.ensures_bind, Proc.ensures_ofExcept]
    cases preparedIdOf value with
    | error x => exact .refl s
    | ok preparedId =>
        simp only [Proc.ensures_read]
        split
        · exact .refl s
        · rename_i hcontains
          have hfresh : s.preparedActions.get? preparedId = none := by
            simpa [Dict.contains] using hcontains
          simp only [Proc.ensures_bind, Proc.ensures_ofExcept]
          cases preparation args with
          | error x => exact .refl s
          | ok prepared =>
              dsimp only
              cases s.mandate with
              | none => exact .refl s
              | some mandate =>
                  simp only [Proc.ensures_bind]
                  refine ⟨trivial, fun now => ?_⟩
                  exact .prepared ⟨rfl, rfl, rfl, rfl, rfl, rfl, rfl, rfl, rfl, rfl⟩ hfresh rfl
                    rfl rfl rfl
  · simp only [Proc.ensures_lift, projectNotification]
    split
    · exact .plain ⟨rfl, rfl, rfl, rfl, rfl, rfl, rfl, rfl, rfl, rfl⟩ rfl rfl rfl
    · exact .refl s
  · exact .refl s

end Projector

end Manifest
