import Manifest.Domain.Enums
import Manifest.Domain.Errors
import Manifest.Lib.PyValue

/-!
# Typed domain contracts

The records of the runtime.  Amounts are unbounded integers as in the source;
times are microseconds since the Unix epoch, as every datetime of the source is
timezone-aware.
-/

set_option autoImplicit false

namespace Manifest

/-- A timezone-aware instant, in microseconds since the epoch. -/
abbrev Timestamp := Int

/-! ## Reference data -/

structure Order where
  orderId : String
  skuId : String
  quantity : Int
  cargoClass : String
  destinationZone : String
  currency : String
  spendCeilingMinor : Int
deriving DecidableEq

structure InventoryFact where
  factId : String
  skuId : String
  availableQuantity : Int
  shipmentWeightKg : Int
  sourceId : String
  sourceHash : String
deriving DecidableEq

structure NumericFact where
  factId : String
  name : String
  value : Int
  unit : String
  sourceId : String
  sourceHash : String
  createdByTool : String
deriving DecidableEq

structure Vehicle where
  vehicleId : String
  capacityKg : Int
  refrigerated : Bool
  available : Bool
deriving DecidableEq

structure CarrierQuote where
  quoteId : String
  carrierId : String
  amountMinor : Int
  currency : String
  coldChainCertified : Bool
  laneSupported : Bool
  quoteIssuer : String := "synthetic_carrier_adapter"
deriving DecidableEq

structure ToolDefinition where
  name : String
  owner : AgentName
  effectClass : EffectClass
  description : String
  idempotent : Bool
deriving DecidableEq

structure ShipmentMandate where
  mandateId : String
  orderId : String
  mode : GovernanceMode
  currency : String
  spendCeilingMinor : Int
  approvalThresholdMinor : Int
  cargoClass : String
  allowedEffectClasses : List EffectClass
  policyVersion : String
deriving DecidableEq

structure ScenarioConfig where
  name : ScenarioName
  priorCommittedMinor : Int
  attemptedWeightKg : Int
  preferredVehicleId : String
  preferredQuoteId : String
deriving DecidableEq

/-! ## Commitments and approvals -/

structure PreparedAction where
  preparedActionId : String
  traceId : String
  toolName : String
  resourceId : String
  amountMinor : Int
  currency : String
  preparedBy : AgentName
  arguments : Kwargs
  actionHash : String
  stateHash : String
  mandateId : String
  policyVersion : String
  spendCommittedAtPrepareMinor : Int
  spendReservedBeforeMinor : Int
  spendReservedAfterMinor : Int
  status : CommitmentStatus
  expiresAt : Timestamp

structure ApprovalRecord where
  approvalId : String
  traceId : String
  preparedActionId : String
  actionHash : String
  stateHash : String
  policyVersion : String
  reasonCode : String
  status : ApprovalStatus
  createdAt : Timestamp
  expiresAt : Timestamp
  version : Int := 1
  decidedAt : Option Timestamp := none
  decision : Option ApprovalDecision := none
  approverLabel : Option String := none
  comment : Option String := none
  decisionIdempotencyKey : Option String := none
deriving DecidableEq

/-! ## Policy traffic -/

structure ToolProposal where
  proposalId : String
  traceId : String
  agent : AgentName
  toolName : String
  effectClass : Option EffectClass
  arguments : Kwargs
  attempt : Nat

/-- `context["resource"]`: the primitive form of the record it was built from. -/
inductive Resource where
  | empty
  | vehicle (v : Vehicle)
  | quote (q : CarrierQuote)
  | prepared (p : PreparedAction)

/-- `context["approval"]`: the approval's fields without its comment and decision
key, and whether it had expired when the request was built. -/
structure ApprovalContext where
  approvalId : String
  traceId : String
  preparedActionId : String
  actionHash : String
  stateHash : String
  policyVersion : String
  reasonCode : String
  status : ApprovalStatus
  createdAt : Timestamp
  expiresAt : Timestamp
  version : Int
  decidedAt : Option Timestamp
  decision : Option ApprovalDecision
  approverLabel : Option String
  isExpired : Bool

/-- The request context; `approval` is `none` for the empty mapping. -/
structure PolicyContext where
  toolOwner : Option String
  effectClass : Option String
  arguments : Kwargs
  resource : Resource
  approval : Option ApprovalContext

structure PolicyRequest where
  requestId : String
  principal : AgentName
  action : String
  resourceType : String
  resourceId : String
  context : PolicyContext

structure PolicySignal where
  family : String
  policyId : String
  outcome : DecisionOutcome
  reasonCode : String
  because : String
  guidance : Option Kwargs := none

structure Decision where
  decisionId : String
  requestId : String
  traceId : String
  proposalId : String
  agent : AgentName
  toolName : String
  effectClass : Option EffectClass
  policyOutcome : DecisionOutcome
  appliedOutcome : DecisionOutcome
  enforced : Bool
  reasonCode : String
  because : String
  reasons : List PolicySignal
  guidance : Option Kwargs
  policyVersion : String
  engineName : String
  evaluationMs : PyFloat
  policyBundleHash : Option String
  createdAt : Timestamp

/-- What a tool handler returns: a typed record, a list of them, or a mapping. -/
inductive ToolValue where
  | order (o : Order)
  | fact (f : InventoryFact)
  | vehicles (vs : List Vehicle)
  | quotes (qs : List CarrierQuote)
  | dict (payload : Kwargs)

structure GovernedToolResult where
  decision : Decision
  value : Option ToolValue := none
  guidance : Option Kwargs := none
  pendingApproval : Option ApprovalRecord := none

structure EffectRecord where
  toolName : String
  effectClass : Option EffectClass
  resourceId : String
  actor : String

/-! ## Ledger -/

structure TraceEvent where
  eventId : String
  traceId : String
  sequence : Nat
  eventType : EventType
  summary : String
  details : Kwargs := []
  agent : Option AgentName := none
  toolName : Option String := none
  effectClass : Option EffectClass := none
  occurredAt : Timestamp
  schemaVersion : String
  previousHash : String
  eventHash : String
  idempotencyKey : Option String := none

structure LedgerHead where
  traceId : String
  sequence : Nat
  eventCount : Nat
  eventHash : String
  schemaVersion : String
  updatedAt : Timestamp
deriving DecidableEq

structure EffectReceipt where
  traceId : String
  toolName : String
  keyHash : String
  fingerprint : String
  result : Kwargs
  createdAt : Timestamp

/-! ## Trajectory state -/

structure TrajectoryState where
  traceId : String
  orderId : String
  status : RunStatus := .pending
  currentAgent : Option AgentName := none
  mode : GovernanceMode := .shadow
  scenario : ScenarioName := .benign
  scenarioConfig : Option ScenarioConfig := none
  mandate : Option ShipmentMandate := none
  policyVersion : String := "demo-v1"
  workflowStage : WorkflowStage := .started
  order : Option Order := none
  inventoryFact : Option InventoryFact := none
  facts : Dict String NumericFact := ∅
  selectedVehicle : Option Vehicle := none
  selectedQuote : Option CarrierQuote := none
  dispatchPlanId : Option String := none
  carrierSelectionId : Option String := none
  preparedActions : Dict String PreparedAction := ∅
  confirmedBookingId : Option String := none
  pendingApprovalId : Option String := none
  spendCommittedMinor : Int := 0
  spendReservedMinor : Int := 0
  decisions : List Decision := []
  guideAttempts : Dict String Nat := ∅
  effectHistory : List EffectRecord := []
  quotedBy : Option String := none
  preparedBy : Option AgentName := none
  approvedBy : Option String := none
  notificationId : Option String := none
  events : List TraceEvent := []
  nextSequence : Nat := 1
  toolCallCount : Nat := 0
  error : Option String := none
  terminalReason : Option String := none
  storageRevision : Nat := 0

structure RunSummary where
  traceId : String
  orderId : String
  status : RunStatus
  currentAgent : Option AgentName
  mode : GovernanceMode
  scenario : ScenarioName
  policyVersion : String
  policyEngine : String
  workflowStage : WorkflowStage
  selectedVehicleId : Option String
  selectedCarrierId : Option String
  selectedAmountMinor : Option Int
  notificationId : Option String
  confirmedBookingId : Option String
  spendCommittedMinor : Int
  spendReservedMinor : Int
  projectedSpendMinor : Int
  spendCeilingMinor : Option Int
  pendingApprovalId : Option String
  decisionCount : Nat
  eventCount : Nat
  error : Option String
  terminalReason : Option String
deriving DecidableEq

/-- `RunSummary.from_state`. -/
def RunSummary.fromState (state : TrajectoryState) (policyEngine : String) : RunSummary where
  traceId := state.traceId
  orderId := state.orderId
  status := state.status
  currentAgent := state.currentAgent
  mode := state.mode
  scenario := state.scenario
  policyVersion := state.policyVersion
  policyEngine := policyEngine
  workflowStage := state.workflowStage
  selectedVehicleId := state.selectedVehicle.map (·.vehicleId)
  selectedCarrierId := state.selectedQuote.map (·.carrierId)
  selectedAmountMinor := state.selectedQuote.map (·.amountMinor)
  notificationId := state.notificationId
  confirmedBookingId := state.confirmedBookingId
  spendCommittedMinor := state.spendCommittedMinor
  spendReservedMinor := state.spendReservedMinor
  projectedSpendMinor := state.spendCommittedMinor + state.spendReservedMinor
  spendCeilingMinor := state.mandate.map (·.spendCeilingMinor)
  pendingApprovalId := state.pendingApprovalId
  decisionCount := state.decisions.length
  eventCount := state.events.length
  error := state.error
  terminalReason := state.terminalReason

structure ApprovalResolution where
  approval : ApprovalRecord
  run : RunSummary
  idempotentReplay : Bool := false
deriving DecidableEq

/-! ## Primitive forms -/

/-- `to_primitive` of an optional enumeration member or string. -/
def optStr : Option String → Value
  | some s => .str s
  | none => .none

/-- `to_primitive(vehicle)`. -/
def Vehicle.toPrimitive (v : Vehicle) : Value :=
  .dict [("vehicle_id", .str v.vehicleId), ("capacity_kg", .int v.capacityKg),
    ("refrigerated", .bool v.refrigerated), ("available", .bool v.available)]

/-- `to_primitive(quote)`. -/
def CarrierQuote.toPrimitive (q : CarrierQuote) : Value :=
  .dict [("quote_id", .str q.quoteId), ("carrier_id", .str q.carrierId),
    ("amount_minor", .int q.amountMinor), ("currency", .str q.currency),
    ("cold_chain_certified", .bool q.coldChainCertified),
    ("lane_supported", .bool q.laneSupported), ("quote_issuer", .str q.quoteIssuer)]

/-- `to_primitive(order)`. -/
def Order.toPrimitive (o : Order) : Value :=
  .dict [("order_id", .str o.orderId), ("sku_id", .str o.skuId),
    ("quantity", .int o.quantity), ("cargo_class", .str o.cargoClass),
    ("destination_zone", .str o.destinationZone), ("currency", .str o.currency),
    ("spend_ceiling_minor", .int o.spendCeilingMinor)]

/-- `to_primitive(fact)`. -/
def InventoryFact.toPrimitive (f : InventoryFact) : Value :=
  .dict [("fact_id", .str f.factId), ("sku_id", .str f.skuId),
    ("available_quantity", .int f.availableQuantity),
    ("shipment_weight_kg", .int f.shipmentWeightKg), ("source_id", .str f.sourceId),
    ("source_hash", .str f.sourceHash)]

/-- `to_primitive(value)` of a tool result. -/
def ToolValue.toPrimitive : ToolValue → Value
  | .order o => o.toPrimitive
  | .fact f => f.toPrimitive
  | .vehicles vs => .list (vs.map Vehicle.toPrimitive)
  | .quotes qs => .list (qs.map CarrierQuote.toPrimitive)
  | .dict payload => .dict payload

/-! ## Reading the request context -/

/-- `resource.get("available")`. -/
def Resource.available : Resource → Bool
  | .vehicle v => v.available
  | _ => false

/-- `resource.get("refrigerated")`. -/
def Resource.refrigerated : Resource → Bool
  | .vehicle v => v.refrigerated
  | _ => false

/-- `resource.get("capacity_kg", default)`. -/
def Resource.capacityKg (default : Int) : Resource → Int
  | .vehicle v => v.capacityKg
  | _ => default

/-- `resource.get("cold_chain_certified")`. -/
def Resource.coldChainCertified : Resource → Bool
  | .quote q => q.coldChainCertified
  | _ => false

/-- `resource.get("lane_supported")`. -/
def Resource.laneSupported : Resource → Bool
  | .quote q => q.laneSupported
  | _ => false

/-- `resource.get("quote_issuer")`. -/
def Resource.quoteIssuer : Resource → Option String
  | .quote q => some q.quoteIssuer
  | _ => none

/-- `bool(resource)`: every record has fields, so only the empty mapping is falsy. -/
def Resource.present : Resource → Bool
  | .empty => false
  | _ => true

/-- The approval as the policy context shows it. -/
def ApprovalRecord.toContext (a : ApprovalRecord) (now : Timestamp) : ApprovalContext where
  approvalId := a.approvalId
  traceId := a.traceId
  preparedActionId := a.preparedActionId
  actionHash := a.actionHash
  stateHash := a.stateHash
  policyVersion := a.policyVersion
  reasonCode := a.reasonCode
  status := a.status
  createdAt := a.createdAt
  expiresAt := a.expiresAt
  version := a.version
  decidedAt := a.decidedAt
  decision := a.decision
  approverLabel := a.approverLabel
  isExpired := a.expiresAt ≤ now

end Manifest
