import Manifest.Storage.Encode

/-!
# Durable records as Python objects

The instances of the dataclasses that have a document, with their fields in the order of the
source, and the JSON value each is persisted as.  A set of effect classes is listed in the
order of the classes' strings.

Main results:

- Theorems `Order.persists` to `TrajectoryState.persists`: what each record is persisted as.
- Theorem `TrajectoryState.pop_fullPayload`: the metadata of a state is the state without its
  events and decisions.
-/

set_option autoImplicit false

namespace Manifest

open Codec PyObject

/-! ## Fields -/

namespace Codec

/-- A member of an enumeration of strings. -/
def enumMember (value : String) : PyObject :=
  .member (some (.str value)) (.str value)

/-- A field that may be `None`. -/
def orNone {α : Type} (f : α → PyObject) : Option α → PyObject
  | some a => f a
  | Option.none => .none

/-- An aware datetime. -/
def instant (t : Timestamp) : PyObject :=
  .datetime (some t)

/-- A mapping of JSON values. -/
def freeForm (kwargs : Kwargs) : PyObject :=
  ofValue (.dict kwargs)

end Codec

/-! ## Records -/

def Order.object (o : Order) : PyObject :=
  instanceOf [("order_id", .str o.orderId), ("sku_id", .str o.skuId),
    ("quantity", .int o.quantity), ("cargo_class", .str o.cargoClass),
    ("destination_zone", .str o.destinationZone), ("currency", .str o.currency),
    ("spend_ceiling_minor", .int o.spendCeilingMinor)]

def InventoryFact.object (f : InventoryFact) : PyObject :=
  instanceOf [("fact_id", .str f.factId), ("sku_id", .str f.skuId),
    ("available_quantity", .int f.availableQuantity),
    ("shipment_weight_kg", .int f.shipmentWeightKg), ("source_id", .str f.sourceId),
    ("source_hash", .str f.sourceHash)]

def NumericFact.object (f : NumericFact) : PyObject :=
  instanceOf [("fact_id", .str f.factId), ("name", .str f.name), ("value", .int f.value),
    ("unit", .str f.unit), ("source_id", .str f.sourceId), ("source_hash", .str f.sourceHash),
    ("created_by_tool", .str f.createdByTool)]

def Vehicle.object (v : Vehicle) : PyObject :=
  instanceOf [("vehicle_id", .str v.vehicleId), ("capacity_kg", .int v.capacityKg),
    ("refrigerated", .bool v.refrigerated), ("available", .bool v.available)]

def CarrierQuote.object (q : CarrierQuote) : PyObject :=
  instanceOf [("quote_id", .str q.quoteId), ("carrier_id", .str q.carrierId),
    ("amount_minor", .int q.amountMinor), ("currency", .str q.currency),
    ("cold_chain_certified", .bool q.coldChainCertified),
    ("lane_supported", .bool q.laneSupported), ("quote_issuer", .str q.quoteIssuer)]

def ScenarioConfig.object (c : ScenarioConfig) : PyObject :=
  instanceOf [("name", enumMember c.name.value),
    ("prior_committed_minor", .int c.priorCommittedMinor),
    ("attempted_weight_kg", .int c.attemptedWeightKg),
    ("preferred_vehicle_id", .str c.preferredVehicleId),
    ("preferred_quote_id", .str c.preferredQuoteId)]

/-- The strings of the allowed classes, in order. -/
def ShipmentMandate.classNames (m : ShipmentMandate) : List String :=
  (m.allowedEffectClasses.map (·.value)).insertionSort (· ≤ ·)

def ShipmentMandate.object (m : ShipmentMandate) : PyObject :=
  instanceOf [("mandate_id", .str m.mandateId), ("order_id", .str m.orderId),
    ("mode", enumMember m.mode.value), ("currency", .str m.currency),
    ("spend_ceiling_minor", .int m.spendCeilingMinor),
    ("approval_threshold_minor", .int m.approvalThresholdMinor),
    ("cargo_class", .str m.cargoClass),
    ("allowed_effect_classes", .set (m.classNames.map enumMember)),
    ("policy_version", .str m.policyVersion)]

def PreparedAction.object (p : PreparedAction) : PyObject :=
  instanceOf [("prepared_action_id", .str p.preparedActionId), ("trace_id", .str p.traceId),
    ("tool_name", .str p.toolName), ("resource_id", .str p.resourceId),
    ("amount_minor", .int p.amountMinor), ("currency", .str p.currency),
    ("prepared_by", enumMember p.preparedBy.value), ("arguments", freeForm p.arguments),
    ("action_hash", .str p.actionHash), ("state_hash", .str p.stateHash),
    ("mandate_id", .str p.mandateId), ("policy_version", .str p.policyVersion),
    ("spend_committed_at_prepare_minor", .int p.spendCommittedAtPrepareMinor),
    ("spend_reserved_before_minor", .int p.spendReservedBeforeMinor),
    ("spend_reserved_after_minor", .int p.spendReservedAfterMinor),
    ("status", enumMember p.status.value), ("expires_at", instant p.expiresAt)]

def EffectRecord.object (r : EffectRecord) : PyObject :=
  instanceOf [("tool_name", .str r.toolName),
    ("effect_class", orNone enumMember (r.effectClass.map (·.value))),
    ("resource_id", .str r.resourceId), ("actor", .str r.actor)]

def TraceEvent.object (e : TraceEvent) : PyObject :=
  instanceOf [("event_id", .str e.eventId), ("trace_id", .str e.traceId),
    ("sequence", .int e.sequence), ("event_type", enumMember e.eventType.value),
    ("summary", .str e.summary), ("details", freeForm e.details),
    ("agent", orNone enumMember (e.agent.map (·.value))),
    ("tool_name", orNone .str e.toolName),
    ("effect_class", orNone enumMember (e.effectClass.map (·.value))),
    ("occurred_at", instant e.occurredAt), ("schema_version", .str e.schemaVersion),
    ("previous_hash", .str e.previousHash), ("event_hash", .str e.eventHash),
    ("idempotency_key", orNone .str e.idempotencyKey)]

def PolicySignal.object (s : PolicySignal) : PyObject :=
  instanceOf [("family", .str s.family), ("policy_id", .str s.policyId),
    ("outcome", enumMember s.outcome.value), ("reason_code", .str s.reasonCode),
    ("because", .str s.because), ("guidance", orNone freeForm s.guidance)]

def Decision.object (d : Decision) : PyObject :=
  instanceOf [("decision_id", .str d.decisionId), ("request_id", .str d.requestId),
    ("trace_id", .str d.traceId), ("proposal_id", .str d.proposalId),
    ("agent", enumMember d.agent.value), ("tool_name", .str d.toolName),
    ("effect_class", orNone enumMember (d.effectClass.map (·.value))),
    ("policy_outcome", enumMember d.policyOutcome.value),
    ("applied_outcome", enumMember d.appliedOutcome.value), ("enforced", .bool d.enforced),
    ("reason_code", .str d.reasonCode), ("because", .str d.because),
    ("reasons", .sequence (d.reasons.map PolicySignal.object)),
    ("guidance", orNone freeForm d.guidance), ("policy_version", .str d.policyVersion),
    ("engine_name", .str d.engineName), ("evaluation_ms", .float d.evaluationMs),
    ("policy_bundle_hash", orNone .str d.policyBundleHash), ("created_at", instant d.createdAt)]

def ApprovalRecord.object (a : ApprovalRecord) : PyObject :=
  instanceOf [("approval_id", .str a.approvalId), ("trace_id", .str a.traceId),
    ("prepared_action_id", .str a.preparedActionId), ("action_hash", .str a.actionHash),
    ("state_hash", .str a.stateHash), ("policy_version", .str a.policyVersion),
    ("reason_code", .str a.reasonCode), ("status", enumMember a.status.value),
    ("created_at", instant a.createdAt), ("expires_at", instant a.expiresAt),
    ("version", .int a.version), ("decided_at", orNone instant a.decidedAt),
    ("decision", orNone enumMember (a.decision.map (·.value))),
    ("approver_label", orNone .str a.approverLabel), ("comment", orNone .str a.comment),
    ("decision_idempotency_key", orNone .str a.decisionIdempotencyKey)]

def LedgerHead.object (h : LedgerHead) : PyObject :=
  instanceOf [("trace_id", .str h.traceId), ("sequence", .int h.sequence),
    ("event_count", .int h.eventCount), ("event_hash", .str h.eventHash),
    ("schema_version", .str h.schemaVersion), ("updated_at", instant h.updatedAt)]

def ReplayRecord.object (r : ReplayRecord) : PyObject :=
  instanceOf [("trace_id", .str r.traceId), ("kind", enumMember r.kind.value),
    ("key_hash", .str r.keyHash), ("fingerprint", .str r.fingerprint),
    ("result_reference", .str r.resultReference), ("created_at", instant r.createdAt)]

def EffectReceipt.object (r : EffectReceipt) : PyObject :=
  instanceOf [("trace_id", .str r.traceId), ("tool_name", .str r.toolName),
    ("key_hash", .str r.keyHash), ("fingerprint", .str r.fingerprint),
    ("result", freeForm r.result), ("created_at", instant r.createdAt)]

def TrajectoryState.object (s : TrajectoryState) : PyObject :=
  instanceOf [("trace_id", .str s.traceId), ("order_id", .str s.orderId),
    ("status", enumMember s.status.value),
    ("current_agent", orNone enumMember (s.currentAgent.map (·.value))),
    ("mode", enumMember s.mode.value), ("scenario", enumMember s.scenario.value),
    ("scenario_config", orNone ScenarioConfig.object s.scenarioConfig),
    ("mandate", orNone ShipmentMandate.object s.mandate),
    ("policy_version", .str s.policyVersion),
    ("workflow_stage", enumMember s.workflowStage.value),
    ("order", orNone Order.object s.order),
    ("inventory_fact", orNone InventoryFact.object s.inventoryFact),
    ("facts", dictOf NumericFact.object s.facts.entries),
    ("selected_vehicle", orNone Vehicle.object s.selectedVehicle),
    ("selected_quote", orNone CarrierQuote.object s.selectedQuote),
    ("dispatch_plan_id", orNone .str s.dispatchPlanId),
    ("carrier_selection_id", orNone .str s.carrierSelectionId),
    ("prepared_actions", dictOf PreparedAction.object s.preparedActions.entries),
    ("confirmed_booking_id", orNone .str s.confirmedBookingId),
    ("pending_approval_id", orNone .str s.pendingApprovalId),
    ("spend_committed_minor", .int s.spendCommittedMinor),
    ("spend_reserved_minor", .int s.spendReservedMinor),
    ("decisions", .sequence (s.decisions.map Decision.object)),
    ("guide_attempts", dictOf (fun n : Nat => .int n) s.guideAttempts.entries),
    ("effect_history", .sequence (s.effectHistory.map EffectRecord.object)),
    ("quoted_by", orNone .str s.quotedBy),
    ("prepared_by", orNone enumMember (s.preparedBy.map (·.value))),
    ("approved_by", orNone .str s.approvedBy), ("notification_id", orNone .str s.notificationId),
    ("events", .sequence (s.events.map TraceEvent.object)),
    ("next_sequence", .int s.nextSequence), ("tool_call_count", .int s.toolCallCount),
    ("error", orNone .str s.error), ("terminal_reason", orNone .str s.terminalReason),
    ("storage_revision", .int s.storageRevision)]

/-- The record of a document. -/
def Document.object : Document → PyObject
  | .state s => s.object
  | .head h => h.object
  | .event e => e.object
  | .decision d => d.object
  | .approval a => a.object
  | .replay r => r.object
  | .effect r => r.object

def Document.kind : Document → RecordKind
  | .state _ => .state
  | .head _ => .head
  | .event _ => .event
  | .decision _ => .decision
  | .approval _ => .approval
  | .replay _ => .replay
  | .effect _ => .effect

/-! ## What the types of the records promise -/

/-- Mappings have distinct keys. -/
def TraceEvent.WellTyped (e : TraceEvent) : Prop :=
  Canonical.KeysDistinct (.dict e.details)

def PreparedAction.WellTyped (p : PreparedAction) : Prop :=
  Canonical.KeysDistinct (.dict p.arguments)

def PolicySignal.WellTyped (s : PolicySignal) : Prop :=
  ∀ guidance, s.guidance = some guidance → Canonical.KeysDistinct (.dict guidance)

structure Decision.WellTyped (d : Decision) : Prop where
  guidance : ∀ guidance, d.guidance = some guidance → Canonical.KeysDistinct (.dict guidance)
  reasons : ∀ signal ∈ d.reasons, signal.WellTyped

/-- An effect that was recorded has a class. -/
structure TrajectoryState.WellTyped (s : TrajectoryState) : Prop where
  preparedActions : ∀ entry ∈ s.preparedActions.entries, entry.2.WellTyped
  effectHistory : ∀ effect ∈ s.effectHistory, effect.effectClass.isSome = true
  events : ∀ event ∈ s.events, event.WellTyped
  decisions : ∀ decision ∈ s.decisions, decision.WellTyped

/-- What `__post_init__` checks. -/
def ReplayRecord.WellTyped (r : ReplayRecord) : Prop :=
  r.traceId ≠ "" ∧ r.keyHash ≠ "" ∧ r.fingerprint ≠ ""

structure EffectReceipt.WellTyped (r : EffectReceipt) : Prop where
  result : Canonical.KeysDistinct (.dict r.result)
  traceId : r.traceId ≠ ""
  toolName : r.toolName ≠ ""
  keyHash : r.keyHash ≠ ""

def Document.WellTyped : Document → Prop
  | .state s => s.WellTyped
  | .head _ => True
  | .event e => e.WellTyped
  | .decision d => d.WellTyped
  | .approval _ => True
  | .replay r => r.WellTyped
  | .effect r => r.WellTyped

/-- The times of a record are times `datetime` can hold in UTC. -/
structure TrajectoryState.Dated (s : TrajectoryState) : Prop where
  preparedActions : ∀ entry ∈ s.preparedActions.entries, entry.2.expiresAt.InRange
  events : ∀ event ∈ s.events, event.occurredAt.InRange
  decisions : ∀ decision ∈ s.decisions, decision.createdAt.InRange

structure ApprovalRecord.Dated (a : ApprovalRecord) : Prop where
  createdAt : a.createdAt.InRange
  expiresAt : a.expiresAt.InRange
  decidedAt : ∀ t, a.decidedAt = some t → t.InRange

def Document.Dated : Document → Prop
  | .state s => s.Dated
  | .head h => h.updatedAt.InRange
  | .event e => e.occurredAt.InRange
  | .decision d => d.createdAt.InRange
  | .approval a => a.Dated
  | .replay r => r.createdAt.InRange
  | .effect r => r.createdAt.InRange

/-! ## What the records are persisted as -/

namespace Codec.Persists

variable {str : PyObject → String}

theorem text (s : String) : Persists str (.str s) (.str s) :=
  ⟨rfl, trivial⟩

theorem int (n : Int) : Persists str (.int n) (.int n) :=
  ⟨rfl, trivial⟩

theorem bool (b : Bool) : Persists str (.bool b) (.bool b) :=
  ⟨rfl, trivial⟩

theorem float (x : PyFloat) : Persists str (.float x) (.float x) :=
  ⟨rfl, trivial⟩

theorem member (value : String) : Persists str (enumMember value) (.str value) :=
  ⟨rfl, trivial⟩

theorem optText (s : Option String) : Persists str (orNone .str s) (optStr s) := by
  cases s <;> exact ⟨rfl, trivial⟩

theorem optMember (value : Option String) :
    Persists str (orNone enumMember value) (optStr value) := by
  cases value <;> exact ⟨rfl, trivial⟩

theorem optInstant {t : Option Timestamp} (h : ∀ t', t = some t' → t'.InRange) :
    Persists str (orNone instant t) (optTime t) := by
  cases t with
  | none => exact ⟨rfl, trivial⟩
  | some t => exact datetime (h t rfl)

theorem optRecord {α : Type} {object : α → PyObject} {payload : α → Value} {record : Option α}
    (h : ∀ a, record = some a → Persists str (object a) (payload a)) :
    Persists str (orNone object record) (Manifest.optRecord payload record) := by
  cases record with
  | none => exact ⟨rfl, trivial⟩
  | some a => exact h a rfl

/-- A list whose items are persisted. -/
theorem list {α : Type} {object : α → PyObject} {payload : α → Value} {records : List α}
    (h : ∀ a ∈ records, Persists str (object a) (payload a)) :
    Persists str (.sequence (records.map object)) (.list (records.map payload)) := by
  have hitems : persistedItems str (records.map object) =
        .ok (PyObject.ofValues (records.map payload)) ∧
      Canonical.KeysDistinctList (records.map payload) := by
    induction records with
    | nil => exact ⟨rfl, trivial⟩
    | cons a rest ih =>
        obtain ⟨hfirst, hothers⟩ := List.forall_mem_cons.mp h
        obtain ⟨hrest, hdistinct⟩ := ih hothers
        refine ⟨?_, hfirst.2, hdistinct⟩
        rw [List.map_cons, persistedItems, hfirst.1, hrest]
        rfl
  refine ⟨?_, hitems.2⟩
  rw [persisted, hitems.1]
  rfl

/-- A dictionary whose values are persisted. -/
theorem dict {α : Type} {object : α → PyObject} {payload : α → Value} (d : Dict String α)
    (h : ∀ entry ∈ d.entries, Persists str (object entry.2) (payload entry.2)) :
    Persists str (dictOf object d.entries) (dictPayload payload d) := by
  refine Persists.fields (by decide) ?_ ?_
  · exact List.forall₂_map_right_iff.mpr (List.forall₂_same.mpr fun entry hmem => ⟨rfl, h entry hmem⟩)
  · rw [List.map_map]
    exact d.nodup

theorem counts (d : Dict String Nat) :
    Persists str (dictOf (fun n : Nat => .int n) d.entries)
      (dictPayload (fun n : Nat => .int n) d) :=
  @dict str Nat (fun n : Nat => .int n) (fun n : Nat => .int n) d fun entry _ => int entry.2

end Codec.Persists

section Persists

variable {str : PyObject → String}

theorem Order.persists (o : Order) : Persists str o.object o.toPrimitive :=
  .fields (by decide)
    (.cons ⟨rfl, .text _⟩ <| .cons ⟨rfl, .text _⟩ <| .cons ⟨rfl, .int _⟩ <|
      .cons ⟨rfl, .text _⟩ <| .cons ⟨rfl, .text _⟩ <| .cons ⟨rfl, .text _⟩ <|
      .cons ⟨rfl, .int _⟩ .nil) (by simp)

theorem TraceEvent.persists {e : TraceEvent} (h : e.WellTyped) (hdate : e.occurredAt.InRange) :
    Persists str e.object e.payload :=
  .fields (by decide)
    (.cons ⟨rfl, .text _⟩ <| .cons ⟨rfl, .text _⟩ <| .cons ⟨rfl, .int _⟩ <|
      .cons ⟨rfl, .member _⟩ <| .cons ⟨rfl, .text _⟩ <| .cons ⟨rfl, .ofValue h⟩ <|
      .cons ⟨rfl, .optMember _⟩ <| .cons ⟨rfl, .optText _⟩ <| .cons ⟨rfl, .optMember _⟩ <|
      .cons ⟨rfl, .datetime hdate⟩ <| .cons ⟨rfl, .text _⟩ <| .cons ⟨rfl, .text _⟩ <|
      .cons ⟨rfl, .text _⟩ <| .cons ⟨rfl, .optText _⟩ .nil) (by simp)

theorem InventoryFact.persists (f : InventoryFact) : Persists str f.object f.toPrimitive :=
  .fields (by decide)
    (.cons ⟨rfl, .text _⟩ <| .cons ⟨rfl, .text _⟩ <| .cons ⟨rfl, .int _⟩ <|
      .cons ⟨rfl, .int _⟩ <| .cons ⟨rfl, .text _⟩ <| .cons ⟨rfl, .text _⟩ .nil) (by simp)

theorem NumericFact.persists (f : NumericFact) : Persists str f.object f.payload :=
  .fields (by decide)
    (.cons ⟨rfl, .text _⟩ <| .cons ⟨rfl, .text _⟩ <| .cons ⟨rfl, .int _⟩ <|
      .cons ⟨rfl, .text _⟩ <| .cons ⟨rfl, .text _⟩ <| .cons ⟨rfl, .text _⟩ <|
      .cons ⟨rfl, .text _⟩ .nil) (by simp)

theorem Vehicle.persists (v : Vehicle) : Persists str v.object v.toPrimitive :=
  .fields (by decide)
    (.cons ⟨rfl, .text _⟩ <| .cons ⟨rfl, .int _⟩ <| .cons ⟨rfl, .bool _⟩ <|
      .cons ⟨rfl, .bool _⟩ .nil) (by simp)

theorem CarrierQuote.persists (q : CarrierQuote) : Persists str q.object q.toPrimitive :=
  .fields (by decide)
    (.cons ⟨rfl, .text _⟩ <| .cons ⟨rfl, .text _⟩ <| .cons ⟨rfl, .int _⟩ <|
      .cons ⟨rfl, .text _⟩ <| .cons ⟨rfl, .bool _⟩ <| .cons ⟨rfl, .bool _⟩ <|
      .cons ⟨rfl, .text _⟩ .nil) (by simp)

theorem ScenarioConfig.persists (c : ScenarioConfig) : Persists str c.object c.payload :=
  .fields (by decide)
    (.cons ⟨rfl, .member _⟩ <| .cons ⟨rfl, .int _⟩ <| .cons ⟨rfl, .int _⟩ <|
      .cons ⟨rfl, .text _⟩ <| .cons ⟨rfl, .text _⟩ .nil) (by simp)

/-- The strings of a set are persisted in order. -/
theorem ShipmentMandate.persists_classes (hstr : ∀ s, str (.str s) = s) (m : ShipmentMandate) :
    Persists str (.set (m.classNames.map enumMember)) (.list (m.classNames.map .str)) := by
  have hitems : persistedItems str (m.classNames.map enumMember) =
      .ok (m.classNames.map PyObject.str) := by
    rw [persistedItems_eq, List.mapM_map, Fallible.mapM_ok_map]
    exact fun name _ => rfl
  have hsorted : (m.classNames.map PyObject.str).insertionSort (fun a b => str a ≤ str b) =
      m.classNames.map PyObject.str := by
    apply List.Pairwise.insertionSort_eq
    rw [List.pairwise_map]
    simp only [hstr]
    exact List.pairwise_insertionSort _ _
  have hvalues (names : List String) : ofValues (names.map Value.str) = names.map PyObject.str ∧
      Canonical.KeysDistinctList (names.map Value.str) := by
    induction names with
    | nil => exact ⟨rfl, trivial⟩
    | cons name rest ih => exact ⟨congrArg (PyObject.str name :: ·) ih.1, trivial, ih.2⟩
  refine ⟨?_, (hvalues _).2⟩
  rw [persisted, hitems, ofValue, (hvalues _).1]
  show Except.ok (PyObject.sequence (List.insertionSort _ _)) = _
  rw [hsorted]

theorem ShipmentMandate.persists (hstr : ∀ s, str (.str s) = s) (m : ShipmentMandate) :
    Persists str m.object m.payload :=
  .fields (by decide)
    (.cons ⟨rfl, .text _⟩ <| .cons ⟨rfl, .text _⟩ <| .cons ⟨rfl, .member _⟩ <|
      .cons ⟨rfl, .text _⟩ <| .cons ⟨rfl, .int _⟩ <| .cons ⟨rfl, .int _⟩ <|
      .cons ⟨rfl, .text _⟩ <| .cons ⟨rfl, m.persists_classes hstr⟩ <|
      .cons ⟨rfl, .text _⟩ .nil) (by simp)

theorem PreparedAction.persists {p : PreparedAction} (h : p.WellTyped)
    (hdate : p.expiresAt.InRange) : Persists str p.object p.payload :=
  .fields (by decide)
    (.cons ⟨rfl, .text _⟩ <| .cons ⟨rfl, .text _⟩ <| .cons ⟨rfl, .text _⟩ <|
      .cons ⟨rfl, .text _⟩ <| .cons ⟨rfl, .int _⟩ <| .cons ⟨rfl, .text _⟩ <|
      .cons ⟨rfl, .member _⟩ <| .cons ⟨rfl, .ofValue h⟩ <| .cons ⟨rfl, .text _⟩ <|
      .cons ⟨rfl, .text _⟩ <| .cons ⟨rfl, .text _⟩ <| .cons ⟨rfl, .text _⟩ <|
      .cons ⟨rfl, .int _⟩ <| .cons ⟨rfl, .int _⟩ <| .cons ⟨rfl, .int _⟩ <|
      .cons ⟨rfl, .member _⟩ <| .cons ⟨rfl, .datetime hdate⟩ .nil) (by simp)

theorem EffectRecord.persists (r : EffectRecord) : Persists str r.object r.payload :=
  .fields (by decide)
    (.cons ⟨rfl, .text _⟩ <| .cons ⟨rfl, .optMember _⟩ <| .cons ⟨rfl, .text _⟩ <|
      .cons ⟨rfl, .text _⟩ .nil) (by simp)

theorem PolicySignal.persists {s : PolicySignal} (h : s.WellTyped) :
    Persists str s.object s.payload :=
  .fields (by decide)
    (.cons ⟨rfl, .text _⟩ <| .cons ⟨rfl, .text _⟩ <| .cons ⟨rfl, .member _⟩ <|
      .cons ⟨rfl, .text _⟩ <| .cons ⟨rfl, .text _⟩ <|
      .cons ⟨rfl, .optRecord fun guidance hguidance => .ofValue (h guidance hguidance)⟩ .nil)
    (by simp)

theorem Decision.persists {d : Decision} (h : d.WellTyped) (hdate : d.createdAt.InRange) :
    Persists str d.object d.payload :=
  .fields (by decide)
    (.cons ⟨rfl, .text _⟩ <| .cons ⟨rfl, .text _⟩ <| .cons ⟨rfl, .text _⟩ <|
      .cons ⟨rfl, .text _⟩ <| .cons ⟨rfl, .member _⟩ <| .cons ⟨rfl, .text _⟩ <|
      .cons ⟨rfl, .optMember _⟩ <| .cons ⟨rfl, .member _⟩ <| .cons ⟨rfl, .member _⟩ <|
      .cons ⟨rfl, .bool _⟩ <| .cons ⟨rfl, .text _⟩ <| .cons ⟨rfl, .text _⟩ <|
      .cons ⟨rfl, .list fun signal hmem => PolicySignal.persists (h.reasons signal hmem)⟩ <|
      .cons ⟨rfl, .optRecord fun guidance hguidance => .ofValue (h.guidance guidance hguidance)⟩ <|
      .cons ⟨rfl, .text _⟩ <| .cons ⟨rfl, .text _⟩ <| .cons ⟨rfl, .float _⟩ <|
      .cons ⟨rfl, .optText _⟩ <| .cons ⟨rfl, .datetime hdate⟩ .nil) (by simp)

theorem ApprovalRecord.persists {a : ApprovalRecord} (h : a.Dated) :
    Persists str a.object a.payload :=
  .fields (by decide)
    (.cons ⟨rfl, .text _⟩ <| .cons ⟨rfl, .text _⟩ <| .cons ⟨rfl, .text _⟩ <|
      .cons ⟨rfl, .text _⟩ <| .cons ⟨rfl, .text _⟩ <| .cons ⟨rfl, .text _⟩ <|
      .cons ⟨rfl, .text _⟩ <| .cons ⟨rfl, .member _⟩ <| .cons ⟨rfl, .datetime h.createdAt⟩ <|
      .cons ⟨rfl, .datetime h.expiresAt⟩ <| .cons ⟨rfl, .int _⟩ <|
      .cons ⟨rfl, .optInstant h.decidedAt⟩ <| .cons ⟨rfl, .optMember _⟩ <|
      .cons ⟨rfl, .optText _⟩ <| .cons ⟨rfl, .optText _⟩ <| .cons ⟨rfl, .optText _⟩ .nil) (by simp)

theorem LedgerHead.persists {h : LedgerHead} (hdate : h.updatedAt.InRange) :
    Persists str h.object h.payload :=
  .fields (by decide)
    (.cons ⟨rfl, .text _⟩ <| .cons ⟨rfl, .int _⟩ <| .cons ⟨rfl, .int _⟩ <|
      .cons ⟨rfl, .text _⟩ <| .cons ⟨rfl, .text _⟩ <| .cons ⟨rfl, .datetime hdate⟩ .nil) (by simp)

theorem ReplayRecord.persists {r : ReplayRecord} (hdate : r.createdAt.InRange) :
    Persists str r.object r.payload :=
  .fields (by decide)
    (.cons ⟨rfl, .text _⟩ <| .cons ⟨rfl, .member _⟩ <| .cons ⟨rfl, .text _⟩ <|
      .cons ⟨rfl, .text _⟩ <| .cons ⟨rfl, .text _⟩ <| .cons ⟨rfl, .datetime hdate⟩ .nil) (by simp)

theorem EffectReceipt.persists {r : EffectReceipt} (h : r.WellTyped)
    (hdate : r.createdAt.InRange) : Persists str r.object r.payload :=
  .fields (by decide)
    (.cons ⟨rfl, .text _⟩ <| .cons ⟨rfl, .text _⟩ <| .cons ⟨rfl, .text _⟩ <|
      .cons ⟨rfl, .text _⟩ <| .cons ⟨rfl, .ofValue h.result⟩ <|
      .cons ⟨rfl, .datetime hdate⟩ .nil) (by simp)

/-- The state with its events and decisions. -/
def TrajectoryState.fullPayload (s : TrajectoryState) : List (String × Value) :=
  [("trace_id", .str s.traceId), ("order_id", .str s.orderId),
    ("status", .str s.status.value),
    ("current_agent", optStr (s.currentAgent.map (·.value))),
    ("mode", .str s.mode.value), ("scenario", .str s.scenario.value),
    ("scenario_config", optRecord ScenarioConfig.payload s.scenarioConfig),
    ("mandate", optRecord ShipmentMandate.payload s.mandate),
    ("policy_version", .str s.policyVersion),
    ("workflow_stage", .str s.workflowStage.value),
    ("order", optRecord Order.toPrimitive s.order),
    ("inventory_fact", optRecord InventoryFact.toPrimitive s.inventoryFact),
    ("facts", dictPayload NumericFact.payload s.facts),
    ("selected_vehicle", optRecord Vehicle.toPrimitive s.selectedVehicle),
    ("selected_quote", optRecord CarrierQuote.toPrimitive s.selectedQuote),
    ("dispatch_plan_id", optStr s.dispatchPlanId),
    ("carrier_selection_id", optStr s.carrierSelectionId),
    ("prepared_actions", dictPayload PreparedAction.payload s.preparedActions),
    ("confirmed_booking_id", optStr s.confirmedBookingId),
    ("pending_approval_id", optStr s.pendingApprovalId),
    ("spend_committed_minor", .int s.spendCommittedMinor),
    ("spend_reserved_minor", .int s.spendReservedMinor),
    ("decisions", .list (s.decisions.map Decision.payload)),
    ("guide_attempts", dictPayload (fun n : Nat => .int n) s.guideAttempts),
    ("effect_history", .list (s.effectHistory.map EffectRecord.payload)),
    ("quoted_by", optStr s.quotedBy),
    ("prepared_by", optStr (s.preparedBy.map (·.value))),
    ("approved_by", optStr s.approvedBy), ("notification_id", optStr s.notificationId),
    ("events", .list (s.events.map TraceEvent.payload)),
    ("next_sequence", .int s.nextSequence), ("tool_call_count", .int s.toolCallCount),
    ("error", optStr s.error), ("terminal_reason", optStr s.terminalReason),
    ("storage_revision", .int s.storageRevision)]

theorem TrajectoryState.persists (hstr : ∀ s, str (.str s) = s) {s : TrajectoryState}
    (h : s.WellTyped) (hdate : s.Dated) : Persists str s.object (.dict s.fullPayload) :=
  .fields (by decide)
    (.cons ⟨rfl, .text _⟩ <| .cons ⟨rfl, .text _⟩ <| .cons ⟨rfl, .member _⟩ <|
      .cons ⟨rfl, .optMember _⟩ <| .cons ⟨rfl, .member _⟩ <| .cons ⟨rfl, .member _⟩ <|
      .cons ⟨rfl, .optRecord fun c _ => c.persists⟩ <|
      .cons ⟨rfl, .optRecord fun m _ => m.persists hstr⟩ <|
      .cons ⟨rfl, .text _⟩ <| .cons ⟨rfl, .member _⟩ <|
      .cons ⟨rfl, .optRecord fun o _ => o.persists⟩ <|
      .cons ⟨rfl, .optRecord fun f _ => f.persists⟩ <|
      .cons ⟨rfl, .dict _ fun entry _ => entry.2.persists⟩ <|
      .cons ⟨rfl, .optRecord fun v _ => v.persists⟩ <|
      .cons ⟨rfl, .optRecord fun q _ => q.persists⟩ <|
      .cons ⟨rfl, .optText _⟩ <| .cons ⟨rfl, .optText _⟩ <|
      .cons ⟨rfl, .dict _ fun entry hmem => PreparedAction.persists
        (h.preparedActions entry hmem) (hdate.preparedActions entry hmem)⟩ <|
      .cons ⟨rfl, .optText _⟩ <| .cons ⟨rfl, .optText _⟩ <| .cons ⟨rfl, .int _⟩ <|
      .cons ⟨rfl, .int _⟩ <|
      .cons ⟨rfl, .list fun decision hmem => Decision.persists
        (h.decisions decision hmem) (hdate.decisions decision hmem)⟩ <|
      .cons ⟨rfl, .counts _⟩ <|
      .cons ⟨rfl, .list fun effect _ => effect.persists⟩ <|
      .cons ⟨rfl, .optText _⟩ <| .cons ⟨rfl, .optMember _⟩ <| .cons ⟨rfl, .optText _⟩ <|
      .cons ⟨rfl, .optText _⟩ <|
      .cons ⟨rfl, .list fun event hmem => TraceEvent.persists
        (h.events event hmem) (hdate.events event hmem)⟩ <|
      .cons ⟨rfl, .int _⟩ <| .cons ⟨rfl, .int _⟩ <| .cons ⟨rfl, .optText _⟩ <|
      .cons ⟨rfl, .optText _⟩ <| .cons ⟨rfl, .int _⟩ .nil) (by simp [fullPayload])

theorem pop_ofValue (key : String) (kvs : List (String × Value)) :
    pop key (ofValue (.dict kvs)) =
      ofValue (.dict (kvs.filter fun entry => decide (entry.1 ≠ key))) := by
  rw [ofValue, ofValue, ofEntries_eq, ofEntries_eq, pop, List.filter_map]
  refine congrArg (PyObject.mapping .dict) (congrArg (List.map _) (List.filter_congr ?_))
  rintro ⟨k, v⟩ -
  simp [PyKey.str, PyKey.string?]

/-- What is left of a state without its events and decisions. -/
theorem TrajectoryState.pop_fullPayload (s : TrajectoryState) :
    pop "decisions" (pop "events" (ofValue (.dict s.fullPayload))) = ofValue s.payload := by
  rw [pop_ofValue, pop_ofValue]
  rfl

end Persists

end Manifest
