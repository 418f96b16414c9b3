import Manifest.Ledger.Canonical
import Manifest.Lib.JsonSize

/-!
# Codecs of durable records

Every durable record is stored as one JSON document under a versioned envelope, which is
refused above a size limit.  The table keeps a document as the record it encodes; encoding
runs for its size check.

Main results:

- Theorem `Document.encode_ok_iff`: a document is refused for its size only.
- Theorem `Document.size_eq`: the size of a document, without printing it.
-/

set_option autoImplicit false

namespace Manifest

/-! ## Payloads -/

def optInt : Option Int → Value
  | some n => .int n
  | none => .none

def optTime (t : Option Timestamp) : Value :=
  optStr (t.map (·.isoMicroseconds))

/-- A record that may be absent. -/
def optRecord {α : Type} (payload : α → Value) : Option α → Value
  | some record => payload record
  | none => .none

/-- A mapping of records. -/
def dictPayload {α : Type} (payload : α → Value) (records : Dict String α) : Value :=
  .dict (records.entries.map fun entry => (entry.1, payload entry.2))

def NumericFact.payload (f : NumericFact) : Value :=
  .dict [("fact_id", .str f.factId), ("name", .str f.name), ("value", .int f.value),
    ("unit", .str f.unit), ("source_id", .str f.sourceId), ("source_hash", .str f.sourceHash),
    ("created_by_tool", .str f.createdByTool)]

def ScenarioConfig.payload (c : ScenarioConfig) : Value :=
  .dict [("name", .str c.name.value), ("prior_committed_minor", .int c.priorCommittedMinor),
    ("attempted_weight_kg", .int c.attemptedWeightKg),
    ("preferred_vehicle_id", .str c.preferredVehicleId),
    ("preferred_quote_id", .str c.preferredQuoteId)]

/-- Sets are stored as sorted lists. -/
def ShipmentMandate.payload (m : ShipmentMandate) : Value :=
  .dict [("mandate_id", .str m.mandateId), ("order_id", .str m.orderId),
    ("mode", .str m.mode.value), ("currency", .str m.currency),
    ("spend_ceiling_minor", .int m.spendCeilingMinor),
    ("approval_threshold_minor", .int m.approvalThresholdMinor),
    ("cargo_class", .str m.cargoClass),
    ("allowed_effect_classes",
      .list (((m.allowedEffectClasses.map (·.value)).insertionSort (· ≤ ·)).map .str)),
    ("policy_version", .str m.policyVersion)]

def PreparedAction.payload (p : PreparedAction) : Value :=
  .dict [("prepared_action_id", .str p.preparedActionId), ("trace_id", .str p.traceId),
    ("tool_name", .str p.toolName), ("resource_id", .str p.resourceId),
    ("amount_minor", .int p.amountMinor), ("currency", .str p.currency),
    ("prepared_by", .str p.preparedBy.value), ("arguments", .dict p.arguments),
    ("action_hash", .str p.actionHash), ("state_hash", .str p.stateHash),
    ("mandate_id", .str p.mandateId), ("policy_version", .str p.policyVersion),
    ("spend_committed_at_prepare_minor", .int p.spendCommittedAtPrepareMinor),
    ("spend_reserved_before_minor", .int p.spendReservedBeforeMinor),
    ("spend_reserved_after_minor", .int p.spendReservedAfterMinor),
    ("status", .str p.status.value), ("expires_at", .str p.expiresAt.isoMicroseconds)]

def EffectRecord.payload (r : EffectRecord) : Value :=
  .dict [("tool_name", .str r.toolName),
    ("effect_class", optStr (r.effectClass.map (·.value))),
    ("resource_id", .str r.resourceId), ("actor", .str r.actor)]

/-- The state without its events and decisions, which have items of their own. -/
def TrajectoryState.payload (s : TrajectoryState) : Value :=
  .dict [("trace_id", .str s.traceId), ("order_id", .str s.orderId),
    ("status", .str s.status.value),
    ("current_agent", optStr (s.currentAgent.map (·.value))),
    ("mode", .str s.mode.value), ("scenario", .str s.scenario.value),
    ("scenario_config", optRecord ScenarioConfig.payload s.scenarioConfig),
    ("mandate", optRecord ShipmentMandate.payload s.mandate),
    ("policy_version", .str s.policyVersion),
    ("workflow_stage", .str s.workflowStage.value),
    ("order", optRecord Order.toPrimitive s.order),
    ("inventory_fact", optRecord InventoryFact.toPrimitive s.inventoryFact),
    ("facts", dictPayload NumericFact.payload s.facts),
    ("selected_vehicle", optRecord Vehicle.toPrimitive s.selectedVehicle),
    ("selected_quote", optRecord CarrierQuote.toPrimitive s.selectedQuote),
    ("dispatch_plan_id", optStr s.dispatchPlanId),
    ("carrier_selection_id", optStr s.carrierSelectionId),
    ("prepared_actions", dictPayload PreparedAction.payload s.preparedActions),
    ("confirmed_booking_id", optStr s.confirmedBookingId),
    ("pending_approval_id", optStr s.pendingApprovalId),
    ("spend_committed_minor", .int s.spendCommittedMinor),
    ("spend_reserved_minor", .int s.spendReservedMinor),
    ("guide_attempts", dictPayload (fun n : Nat => .int n) s.guideAttempts),
    ("effect_history", .list (s.effectHistory.map EffectRecord.payload)),
    ("quoted_by", optStr s.quotedBy),
    ("prepared_by", optStr (s.preparedBy.map (·.value))),
    ("approved_by", optStr s.approvedBy), ("notification_id", optStr s.notificationId),
    ("next_sequence", .int s.nextSequence), ("tool_call_count", .int s.toolCallCount),
    ("error", optStr s.error), ("terminal_reason", optStr s.terminalReason),
    ("storage_revision", .int s.storageRevision)]

def TraceEvent.payload (e : TraceEvent) : Value :=
  .dict [("event_id", .str e.eventId), ("trace_id", .str e.traceId),
    ("sequence", .int e.sequence), ("event_type", .str e.eventType.value),
    ("summary", .str e.summary), ("details", .dict e.details),
    ("agent", optStr (e.agent.map (·.value))), ("tool_name", optStr e.toolName),
    ("effect_class", optStr (e.effectClass.map (·.value))),
    ("occurred_at", .str e.occurredAt.isoMicroseconds),
    ("schema_version", .str e.schemaVersion), ("previous_hash", .str e.previousHash),
    ("event_hash", .str e.eventHash), ("idempotency_key", optStr e.idempotencyKey)]

def PolicySignal.payload (s : PolicySignal) : Value :=
  .dict [("family", .str s.family), ("policy_id", .str s.policyId),
    ("outcome", .str s.outcome.value), ("reason_code", .str s.reasonCode),
    ("because", .str s.because), ("guidance", optRecord .dict s.guidance)]

def Decision.payload (d : Decision) : Value :=
  .dict [("decision_id", .str d.decisionId), ("request_id", .str d.requestId),
    ("trace_id", .str d.traceId), ("proposal_id", .str d.proposalId),
    ("agent", .str d.agent.value), ("tool_name", .str d.toolName),
    ("effect_class", optStr (d.effectClass.map (·.value))),
    ("policy_outcome", .str d.policyOutcome.value),
    ("applied_outcome", .str d.appliedOutcome.value), ("enforced", .bool d.enforced),
    ("reason_code", .str d.reasonCode), ("because", .str d.because),
    ("reasons", .list (d.reasons.map PolicySignal.payload)),
    ("guidance", optRecord .dict d.guidance), ("policy_version", .str d.policyVersion),
    ("engine_name", .str d.engineName), ("evaluation_ms", .float d.evaluationMs),
    ("policy_bundle_hash", optStr d.policyBundleHash),
    ("created_at", .str d.createdAt.isoMicroseconds)]

def ApprovalRecord.payload (a : ApprovalRecord) : Value :=
  .dict [("approval_id", .str a.approvalId), ("trace_id", .str a.traceId),
    ("prepared_action_id", .str a.preparedActionId), ("action_hash", .str a.actionHash),
    ("state_hash", .str a.stateHash), ("policy_version", .str a.policyVersion),
    ("reason_code", .str a.reasonCode), ("status", .str a.status.value),
    ("created_at", .str a.createdAt.isoMicroseconds),
    ("expires_at", .str a.expiresAt.isoMicroseconds), ("version", .int a.version),
    ("decided_at", optTime a.decidedAt), ("decision", optStr (a.decision.map (·.value))),
    ("approver_label", optStr a.approverLabel), ("comment", optStr a.comment),
    ("decision_idempotency_key", optStr a.decisionIdempotencyKey)]

def LedgerHead.payload (h : LedgerHead) : Value :=
  .dict [("trace_id", .str h.traceId), ("sequence", .int h.sequence),
    ("event_count", .int h.eventCount), ("event_hash", .str h.eventHash),
    ("schema_version", .str h.schemaVersion),
    ("updated_at", .str h.updatedAt.isoMicroseconds)]

inductive ReplayKind where
  | event
  | approval
deriving DecidableEq, Repr

def ReplayKind.value : ReplayKind → String
  | .event => "event"
  | .approval => "approval"

structure ReplayRecord where
  traceId : String
  kind : ReplayKind
  keyHash : String
  fingerprint : String
  resultReference : String
  createdAt : Timestamp
deriving DecidableEq

def ReplayRecord.payload (r : ReplayRecord) : Value :=
  .dict [("trace_id", .str r.traceId), ("kind", .str r.kind.value),
    ("key_hash", .str r.keyHash), ("fingerprint", .str r.fingerprint),
    ("result_reference", .str r.resultReference),
    ("created_at", .str r.createdAt.isoMicroseconds)]

def EffectReceipt.payload (r : EffectReceipt) : Value :=
  .dict [("trace_id", .str r.traceId), ("tool_name", .str r.toolName),
    ("key_hash", .str r.keyHash), ("fingerprint", .str r.fingerprint),
    ("result", .dict r.result), ("created_at", .str r.createdAt.isoMicroseconds)]

/-! ## Documents -/

/-- The records that have a document. -/
inductive Document where
  | state (s : TrajectoryState)
  | head (h : LedgerHead)
  | event (e : TraceEvent)
  | decision (d : Decision)
  | approval (a : ApprovalRecord)
  | replay (r : ReplayRecord)
  | effect (r : EffectReceipt)

namespace Document

def maxPersistedItemBytes : Nat := 350000

def storageSchemaVersion : String := "manifest-storage-v1"

def schemaVersion : Document → String
  | .state _ => "trace-state-v1"
  | .head _ => "ledger-head-record-v1"
  | .event _ => "trace-event-record-v1"
  | .decision _ => "decision-record-v1"
  | .approval _ => "approval-record-v1"
  | .replay _ => "replay-record-v1"
  | .effect _ => "effect-receipt-v1"

def label : Document → String
  | .state _ => "trace state"
  | .head _ => "ledger head"
  | .event _ => "trace event"
  | .decision _ => "decision"
  | .approval _ => "approval"
  | .replay _ => "replay record"
  | .effect _ => "effect receipt"

def payload : Document → Value
  | .state s => s.payload
  | .head h => h.payload
  | .event e => e.payload
  | .decision d => d.payload
  | .approval a => a.payload
  | .replay r => r.payload
  | .effect r => r.payload

/-- The envelope. -/
def envelope (d : Document) : Value :=
  .dict [("payload", d.payload), ("record_schema_version", .str d.schemaVersion),
    ("storage_schema_version", .str storageSchemaVersion)]

/-- The stored text, as characters. -/
def chars (d : Document) : List Char :=
  d.envelope.dumpChars false

/-- `len(document.encode("utf-8"))`. -/
def size (d : Document) : Nat :=
  textSize d.chars

theorem size_eq (d : Document) : d.size = d.envelope.byteSize :=
  Value.textSize_dumpChars d.envelope

/-- A document within the limit. -/
def Fits (d : Document) : Prop :=
  d.size ≤ maxPersistedItemBytes

instance (d : Document) : Decidable d.Fits :=
  inferInstanceAs (Decidable (_ ≤ _))

/-- What a decoder gives back: the events and decisions of a state are not part of its
document. -/
def stored : Document → Document
  | .state s => .state { s with events := [], decisions := [] }
  | d => d

/-- `_encode`: the document, unless it is too large. -/
def encode (d : Document) : Except PyError Document :=
  if maxPersistedItemBytes < d.size then
    .error ⟨.itemSizeLimit,
      s!"Serialized {d.label} is {d.size} bytes; maximum is {maxPersistedItemBytes}."⟩
  else .ok d.stored

/-- A document is refused for its size only. -/
theorem encode_ok_iff {d stored : Document} :
    d.encode = .ok stored ↔ d.Fits ∧ stored = d.stored := by
  unfold encode Fits
  split_ifs with h
  · simp [h]
  · simp only [Except.ok.injEq]
    exact ⟨fun heq => ⟨by omega, heq.symm⟩, fun heq => heq.2.symm⟩

/-! ### Decoding -/

/-- A decoder finds a document of another kind. -/
def mismatch {α : Type} (label : String) : Except PyError α :=
  .error ⟨.serializationVersion, s!"Stored {label} uses an unsupported record schema version."⟩

def decodeState : Document → Except PyError TrajectoryState
  | .state s => .ok s
  | _ => mismatch "trace state"

def decodeHead : Document → Except PyError LedgerHead
  | .head h => .ok h
  | _ => mismatch "ledger head"

def decodeEvent : Document → Except PyError TraceEvent
  | .event e => .ok e
  | _ => mismatch "trace event"

def decodeDecision : Document → Except PyError Decision
  | .decision d => .ok d
  | _ => mismatch "decision"

def decodeApproval : Document → Except PyError ApprovalRecord
  | .approval a => .ok a
  | _ => mismatch "approval"

def decodeReplay : Document → Except PyError ReplayRecord
  | .replay r => .ok r
  | _ => mismatch "replay record"

end Document

end Manifest
