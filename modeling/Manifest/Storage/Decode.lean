import Manifest.Ledger.Instants
import Manifest.Lib.PyAccess
import Manifest.Storage.Codec

/-!
# Decoders of durable records

Each decoder loads a JSON text, checks the envelope and builds a record from the payload.
`_construct` turns the exceptions a wrong payload raises into `TracePersistenceError`, as far
as it catches them.

Main results:

- Definitions `decodeStateJson` to `decodeEffectJson`: the seven decoders.
- Definition `decodeRecord`: the decoder of a kind of record.
-/

set_option autoImplicit false

namespace Manifest

namespace Codec

open PyObject

/-! ## The standard library -/

/-- What `json.loads` raises: `JSONDecodeError`, the `ValueError` of an integer with too many
digits, and `RecursionError`. -/
inductive LoadFault where
  | decodeError
  | valueError
  | recursionError
deriving DecidableEq

/-- The parsers the decoders call. -/
structure PyLibrary where
  /-- `json.loads(text)`. -/
  loads : String → Except LoadFault PyObject
  /-- `datetime.fromisoformat(text.replace("Z", "+00:00"))`: nothing for a `ValueError`, and the
  instant of an aware time. -/
  isoParse : String → Option (Option Int)
  isoParse_empty : isoParse "" = Option.none

/-- The parsers on the texts the encoders write, for a reader of float literals. -/
def PyLibrary.written (read : String → Option PyFloat) : PyLibrary where
  loads text :=
    match Value.loads read text with
    | some value => .ok (ofValue value)
    | Option.none => .error .decodeError
  isoParse text :=
    (readIso text.toList).map fun parsed => some (parsed.1.instant - parsed.2 * 60000000)
  isoParse_empty := rfl

/-! ## The envelope -/

/-- The records that have a decoder. -/
inductive RecordKind where
  | state
  | event
  | decision
  | approval
  | head
  | replay
  | effect
deriving DecidableEq

def RecordKind.schemaVersion : RecordKind → String
  | .state => "trace-state-v1"
  | .event => "trace-event-record-v1"
  | .decision => "decision-record-v1"
  | .approval => "approval-record-v1"
  | .head => "ledger-head-record-v1"
  | .replay => "replay-record-v1"
  | .effect => "effect-receipt-v1"

def RecordKind.label : RecordKind → String
  | .state => "trace state"
  | .event => "trace event"
  | .decision => "decision"
  | .approval => "approval"
  | .head => "ledger head"
  | .replay => "replay record"
  | .effect => "effect receipt"

/-- What `_decode` makes of a loaded text. -/
def openEnvelope (kind : RecordKind) : PyObject → Except PyError PyObject
  | .mapping _ envelope =>
      if ¬ ((lookup "storage_schema_version" envelope).getD .none).equals
          (.str Document.storageSchemaVersion) then
        .error ⟨.serializationVersion,
          s!"Stored {kind.label} uses an unsupported storage schema version."⟩
      else if ¬ ((lookup "record_schema_version" envelope).getD .none).equals
          (.str kind.schemaVersion) then
        .error ⟨.serializationVersion,
          s!"Stored {kind.label} uses an unsupported record schema version."⟩
      else
        match (lookup "payload" envelope).getD .none with
        | .mapping holder entries => .ok (.mapping holder entries)
        | _ => .error ⟨.tracePersistence, s!"Stored {kind.label} payload must be an object."⟩
  | _ => .error ⟨.tracePersistence, s!"Stored {kind.label} must be a JSON object."⟩

/-- `_decode`. -/
def decode (lib : PyLibrary) (document : String) (kind : RecordKind) : Except PyError PyObject :=
  match lib.loads document with
  | .error .decodeError =>
      .error ⟨.tracePersistence, s!"Stored {kind.label} is not valid JSON."⟩
  | .error .valueError => .error (.ofPython "ValueError")
  | .error .recursionError => .error (.ofPython "RecursionError")
  | .ok envelope => openEnvelope kind envelope

/-- The exceptions `_construct` turns into a `TracePersistenceError`. -/
def caught : Raised → Bool
  | .keyError | .typeError | .valueError => true
  | .attributeError | .overflowError => false

/-- `_construct`. -/
def construct (kind : RecordKind) (built : Except Raised PyObject) : Except PyError PyObject :=
  match built with
  | .ok record => .ok record
  | .error x =>
      if caught x then
        .error ⟨.tracePersistence, s!"Stored {kind.label} payload is invalid."⟩
      else .error (.ofPython x.name)

/-! ## Readers of fields -/

/-- `payload[key]`. -/
def item (key : String) : Field :=
  (key, subscript key)

/-- `payload.get(key)`. -/
def optional (key : String) : Field :=
  (key, get key .none)

/-- `Enumeration(payload[key])`. -/
def member (values : List String) (key : String) : Field :=
  (key, fun payload => subscript key payload >>= memberOf values)

/-- `build(payload[key]) if payload.get(key) else None`. -/
def truthyField (build : Reader) (key : String) : Field :=
  (key, fun payload => do
    let value ← get key .none payload
    if value.truthy then subscript key payload >>= build else .ok .none)

/-- `build(value) if value is not None else None`, for `value = payload.get(key)`. -/
def presentField (build : Reader) (key : String) : Field :=
  (key, fun payload => do
    match ← get key .none payload with
    | .none => .ok .none
    | value => build value)

/-- `build(payload[key])`. -/
def itemField (build : Reader) (key : String) : Field :=
  (key, fun payload => subscript key payload >>= build)

/-- `build(payload.get(key, default))`. -/
def defaultField (build : Reader) (default : PyObject) (key : String) : Field :=
  (key, fun payload => get key default payload >>= build)

/-- `_datetime`. -/
def datetime (lib : PyLibrary) : Reader
  | .str text =>
      match lib.isoParse text with
      | Option.none => .error .valueError
      | some Option.none => .error .valueError
      | some (some instant) =>
          if Timestamp.InRange instant then .ok (.datetime (some instant))
          else .error .overflowError
  | _ => .error .valueError

/-- `{}`. -/
def emptyDict : PyObject :=
  .mapping .dict []

end Codec

/-! ## The strings of the enumerations -/

def AgentName.values : List String :=
  [inventory, dispatch, carrier, customerCommunications].map value

def EffectClass.values : List String :=
  [read, reversibleWrite, financialCommit, physicalCommit, externalDisclosure].map value

def RunStatus.values : List String :=
  [pending, running, completed, blocked, pendingApproval, cancelled, failed].map value

def GovernanceMode.values : List String :=
  [shadow, enforce].map value

def ScenarioName.values : List String :=
  [benign, adversarial].map value

def DecisionOutcome.values : List String :=
  [allow, guide, block, escalate].map value

def CommitmentStatus.values : List String :=
  [prepared, pendingApproval, approved, rejected, confirmed, cancelled, expired].map value

def ApprovalDecision.values : List String :=
  [approve, reject].map value

def ApprovalStatus.values : List String :=
  [pendingApproval, approved, rejected, expired].map value

def WorkflowStage.values : List String :=
  [started, inventoryComplete, dispatchComplete, bookingPrepared, awaitingApproval,
    bookingConfirmed, notificationSent, complete, cancelled, blocked, failed].map value

def EventType.values : List String :=
  [runStarted, agentStarted, toolAttempted, governanceObserved, policyDecided, toolGuided,
    toolBlocked, approvalRequired, runPaused, toolSucceeded, toolFailed, agentCompleted,
    agentModelCompleted, agentPaused, agentResumed, approvalApproved, approvalRejected,
    approvalExpired, runResumed, runCancelled, runCompleted, runFailed].map value

def ReplayKind.values : List String :=
  [event, approval].map value

namespace Codec

open PyObject

/-! ## The parts of a state -/

/-- A parameter without a default. -/
def parameter (name : String) : Parameter :=
  (name, Option.none)

def orderParameters : List Parameter :=
  ["order_id", "sku_id", "quantity", "cargo_class", "destination_zone", "currency",
    "spend_ceiling_minor"].map parameter

def inventoryFactParameters : List Parameter :=
  ["fact_id", "sku_id", "available_quantity", "shipment_weight_kg", "source_id"].map parameter ++
    [("source_hash", some (.str ""))]

def numericFactParameters : List Parameter :=
  ["fact_id", "name", "value", "unit", "source_id", "source_hash", "created_by_tool"].map
    parameter

def vehicleParameters : List Parameter :=
  ["vehicle_id", "capacity_kg", "refrigerated", "available"].map parameter

def carrierQuoteParameters : List Parameter :=
  ["quote_id", "carrier_id", "amount_minor", "currency", "cold_chain_certified",
    "lane_supported"].map parameter ++
    [("quote_issuer", some (.str "synthetic_carrier_adapter"))]

/-- `frozenset(EffectClass(value) for value in values)`. -/
def effectClasses : Reader := fun values => do
  let elements ← values.elements
  let classes ← elements.mapM (memberOf EffectClass.values)
  .ok (.set classes)

def mandateFields : List Field :=
  [item "mandate_id", item "order_id", member GovernanceMode.values "mode", item "currency",
    item "spend_ceiling_minor", item "approval_threshold_minor", item "cargo_class",
    itemField effectClasses "allowed_effect_classes", item "policy_version"]

def scenarioFields : List Field :=
  [member ScenarioName.values "name", item "prior_committed_minor", item "attempted_weight_kg",
    item "preferred_vehicle_id", item "preferred_quote_id"]

def effectRecordFields : List Field :=
  [item "tool_name", member EffectClass.values "effect_class", item "resource_id", item "actor"]

/-- The arguments of a prepared action but its expiry, which is read last. -/
def preparedActionFields : List Field :=
  [item "prepared_action_id", item "trace_id", item "tool_name", item "resource_id",
    item "amount_minor", item "currency", member AgentName.values "prepared_by",
    itemField copyDict "arguments", item "action_hash", item "state_hash", item "mandate_id",
    item "policy_version", item "spend_committed_at_prepare_minor",
    item "spend_reserved_before_minor", item "spend_reserved_after_minor",
    member CommitmentStatus.values "status"]

/-- `_prepared_action`. -/
def preparedAction (lib : PyLibrary) : Reader :=
  record (preparedActionFields ++ [itemField (datetime lib) "expires_at"])

/-! ## The decoders -/

/-- `build` of `decode_state_json`, in the order it evaluates: the locals come first. -/
def stateFields (lib : PyLibrary) (events decisions : List PyObject) : List Field :=
  [presentField (record mandateFields) "mandate",
    presentField (record scenarioFields) "scenario_config",
    truthyField (kwargs orderParameters) "order",
    truthyField (kwargs inventoryFactParameters) "inventory_fact",
    defaultField (eachValue (kwargs numericFactParameters)) emptyDict "facts",
    truthyField (kwargs vehicleParameters) "selected_vehicle",
    truthyField (kwargs carrierQuoteParameters) "selected_quote",
    defaultField (eachValue (preparedAction lib)) emptyDict "prepared_actions",
    defaultField (each (record effectRecordFields)) (.sequence []) "effect_history",
    item "trace_id", item "order_id", member RunStatus.values "status",
    truthyField (memberOf AgentName.values) "current_agent", member GovernanceMode.values "mode",
    member ScenarioName.values "scenario", item "policy_version",
    member WorkflowStage.values "workflow_stage", optional "dispatch_plan_id",
    optional "carrier_selection_id", optional "confirmed_booking_id",
    optional "pending_approval_id", item "spend_committed_minor", item "spend_reserved_minor",
    ("decisions", fun _ => .ok (.sequence decisions)),
    defaultField copyDict emptyDict "guide_attempts", optional "quoted_by",
    truthyField (memberOf AgentName.values) "prepared_by", optional "approved_by",
    optional "notification_id", ("events", fun _ => .ok (.sequence events)),
    item "next_sequence", item "tool_call_count", optional "error", optional "terminal_reason",
    ("storage_revision", get "storage_revision" (.int 0))]

def eventFields (lib : PyLibrary) : List Field :=
  [item "event_id", item "trace_id", item "sequence", member EventType.values "event_type",
    item "summary", defaultField copyDict emptyDict "details",
    truthyField (memberOf AgentName.values) "agent", optional "tool_name",
    truthyField (memberOf EffectClass.values) "effect_class",
    itemField (datetime lib) "occurred_at", item "schema_version", item "previous_hash",
    item "event_hash", optional "idempotency_key"]

def signalFields : List Field :=
  [item "family", item "policy_id", member DecisionOutcome.values "outcome", item "reason_code",
    item "because", optional "guidance"]

def decisionFields (lib : PyLibrary) : List Field :=
  [itemField (each (record signalFields)) "reasons", item "decision_id", item "request_id",
    item "trace_id", item "proposal_id", member AgentName.values "agent", item "tool_name",
    truthyField (memberOf EffectClass.values) "effect_class",
    member DecisionOutcome.values "policy_outcome",
    member DecisionOutcome.values "applied_outcome", item "enforced", item "reason_code",
    item "because", optional "guidance", item "policy_version", item "engine_name",
    item "evaluation_ms", optional "policy_bundle_hash", itemField (datetime lib) "created_at"]

def approvalFields (lib : PyLibrary) : List Field :=
  [item "approval_id", item "trace_id", item "prepared_action_id", item "action_hash",
    item "state_hash", item "policy_version", item "reason_code",
    member ApprovalStatus.values "status", itemField (datetime lib) "created_at",
    itemField (datetime lib) "expires_at", item "version",
    truthyField (datetime lib) "decided_at",
    truthyField (memberOf ApprovalDecision.values) "decision", optional "approver_label",
    optional "comment", optional "decision_idempotency_key"]

def headFields (lib : PyLibrary) : List Field :=
  [item "trace_id", item "sequence", item "event_count", item "event_hash",
    item "schema_version", itemField (datetime lib) "updated_at"]

def replayFields (lib : PyLibrary) : List Field :=
  [item "trace_id", member ReplayKind.values "kind", item "key_hash", item "fingerprint",
    item "result_reference", itemField (datetime lib) "created_at"]

def effectFields (lib : PyLibrary) : List Field :=
  [item "trace_id", item "tool_name", item "key_hash", item "fingerprint",
    itemField copyDict "result", itemField (datetime lib) "created_at"]

/-- `__post_init__` of the storage records: some fields may not be empty. -/
def postInit (keys : List String) : Reader
  | .mapping holder entries =>
      if keys.all fun key => ((lookup key entries).getD .none).truthy then
        .ok (.mapping holder entries)
      else .error .valueError
  | record => .ok record

section Decoders

variable (lib : PyLibrary) (document : String)

def decodeStateJson (events decisions : List PyObject) : Except PyError PyObject := do
  let payload ← decode lib document .state
  construct .state (record (stateFields lib events decisions) payload)

def decodeEventJson : Except PyError PyObject := do
  let payload ← decode lib document .event
  construct .event (record (eventFields lib) payload)

def decodeDecisionJson : Except PyError PyObject := do
  let payload ← decode lib document .decision
  construct .decision (record (decisionFields lib) payload)

def decodeApprovalJson : Except PyError PyObject := do
  let payload ← decode lib document .approval
  construct .approval (record (approvalFields lib) payload)

def decodeHeadJson : Except PyError PyObject := do
  let payload ← decode lib document .head
  construct .head (record (headFields lib) payload)

def decodeReplayJson : Except PyError PyObject := do
  let payload ← decode lib document .replay
  construct .replay
    (record (replayFields lib) payload >>= postInit ["trace_id", "key_hash", "fingerprint"])

def decodeEffectJson : Except PyError PyObject := do
  let payload ← decode lib document .effect
  construct .effect
    (record (effectFields lib) payload >>= postInit ["trace_id", "tool_name", "key_hash"])

/-- The decoder of a kind of record; a state is supplied its events and decisions. -/
def decodeRecord (events decisions : List PyObject) : RecordKind → Except PyError PyObject
  | .state => decodeStateJson lib document events decisions
  | .event => decodeEventJson lib document
  | .decision => decodeDecisionJson lib document
  | .approval => decodeApprovalJson lib document
  | .head => decodeHeadJson lib document
  | .replay => decodeReplayJson lib document
  | .effect => decodeEffectJson lib document

end Decoders

end Codec

end Manifest
