import Manifest.Cedar.Context
import Manifest.Governor.Reasons

/-!
# From Cedar diagnostics to policy signals

The metadata table of the bundle, the mapping of a response and the Cedar-backed
engine.

Main results:

- Theorem `metadata_catalogued`: every metadata reason is in the catalogue.
- Theorem `metadata_covers_bundle`: every policy of the bundle has metadata.
-/

set_option autoImplicit false

namespace Manifest.Cedar

/-- `CedarMappingError`. -/
def mappingError {α : Type} (message : String) : Except PyError α :=
  .error (.ofPython message)

/-- `FAMILY_ORDER`. -/
def familyOrder : String → Nat
  | "ownership" => 0
  | "provenance" => 1
  | "cold_chain" => 2
  | "spend" => 3
  | "separation" => 4
  | "pii" => 5
  | _ => 6

/-- One entry of the metadata file. -/
structure PolicyMetadata where
  family : String
  outcome : DecisionOutcome
  reasonCode : String
  because : String
  order : Nat
  guidance : Option String

/-- `metadata.json`. -/
def metadata : List (String × PolicyMetadata) :=
  [ ("BASE-PERMIT-REGISTERED", ⟨"default", .allow, "ALLOW_POLICY_CHECKS_PASSED",
      "All applicable policy checks passed.", 0, none⟩),
    ("OWN-001", ⟨"ownership", .block, "MISSING_POLICY_CONTEXT",
      "The policy version does not match the trace mandate.", 1, none⟩),
    ("OWN-002", ⟨"ownership", .block, "TOOL_OWNER_MISMATCH",
      "The proposing agent does not own this registered tool.", 2, none⟩),
    ("OWN-003", ⟨"ownership", .block, "EFFECT_NOT_ALLOWED_BY_MANDATE",
      "The tool effect class is not allowed by the shipment mandate.", 3, none⟩),
    ("OWN-004", ⟨"ownership", .block, "PREPARED_ACTION_REQUIRED",
      "A matching prepared action is required before confirmation.", 4, none⟩),
    ("PROV-001", ⟨"provenance", .block, "PROVENANCE_REFERENCE_MISSING",
      "The dispatch weight has no trace-scoped source fact.", 1, none⟩),
    ("PROV-002", ⟨"provenance", .block, "PROVENANCE_REFERENCE_MISSING",
      "The referenced weight fact is invalid or corrupted.", 2, none⟩),
    ("PROV-003", ⟨"provenance", .guide, "PROVENANCE_UNIT_MISMATCH",
      "The attempted weight unit differs from the sourced unit.", 3, some "weight"⟩),
    ("PROV-004", ⟨"provenance", .guide, "PROVENANCE_VALUE_MISMATCH",
      "The attempted weight differs from the sourced weight.", 4, some "weight"⟩),
    ("COLD-001", ⟨"cold_chain", .block, "MISSING_POLICY_CONTEXT",
      "Vehicle safety metadata is missing.", 1, none⟩),
    ("COLD-002", ⟨"cold_chain", .guide, "COLD_CHAIN_VEHICLE_REQUIRED",
      "Perishable cargo requires an available refrigerated vehicle with sufficient capacity.",
      2, some "vehicle"⟩),
    ("COLD-003", ⟨"cold_chain", .block, "MISSING_POLICY_CONTEXT",
      "Carrier certification metadata is missing.", 3, none⟩),
    ("COLD-004", ⟨"cold_chain", .guide, "COLD_CHAIN_CARRIER_REQUIRED",
      "Perishable cargo requires a lane-supported cold-chain carrier.", 4, some "carrier"⟩),
    ("SPEND-001", ⟨"spend", .block, "MISSING_POLICY_CONTEXT",
      "Spend values must be non-negative integer minor units.", 1, none⟩),
    ("SPEND-002", ⟨"spend", .block, "MISSING_POLICY_CONTEXT",
      "Prepared-action currency does not match the mandate.", 2, none⟩),
    ("SPEND-003", ⟨"spend", .escalate, "SPEND_APPROVAL_REQUIRED",
      "Projected spend exceeds the shipment ceiling.", 3, none⟩),
    ("SPEND-004", ⟨"spend", .allow, "SPEND_WITHIN_CEILING",
      "Projected spend is within the shipment ceiling.", 4, none⟩),
    ("SPEND-005", ⟨"spend", .block, "APPROVAL_EXPIRED",
      "The approval expired before confirmation.", 5, none⟩),
    ("SPEND-006", ⟨"spend", .block, "APPROVAL_ACTION_MISMATCH",
      "The approval does not match the prepared action.", 6, none⟩),
    ("SPEND-007", ⟨"spend", .block, "APPROVAL_STATE_MISMATCH",
      "The approval does not match the prepared trajectory state.", 7, none⟩),
    ("SPEND-008", ⟨"spend", .block, "APPROVAL_POLICY_MISMATCH",
      "The approval uses a different policy version.", 8, none⟩),
    ("SPEND-009", ⟨"spend", .allow, "SPEND_EXCEPTION_APPROVED",
      "A bound approval permits the projected spend exception.", 9, none⟩),
    ("SPEND-010", ⟨"spend", .block, "APPROVAL_EXPIRED",
      "The approval expired before confirmation.", 10, none⟩),
    ("SPEND-011", ⟨"spend", .block, "APPROVAL_REJECTED",
      "The prepared commitment was rejected.", 11, none⟩),
    ("SOD-000", ⟨"separation", .block, "SEPARATION_OF_DUTIES_VIOLATION",
      "The actor selecting a quote cannot also be its issuer.", 0, none⟩),
    ("SOD-001", ⟨"separation", .block, "PREPARED_ACTION_MISMATCH",
      "The prepared action is not confirmable in its current state.", 1, none⟩),
    ("SOD-002", ⟨"separation", .block, "PREPARED_ACTION_MISMATCH",
      "The confirmation does not match the prepared action.", 2, none⟩),
    ("SOD-003", ⟨"separation", .block, "SEPARATION_OF_DUTIES_VIOLATION",
      "The preparer cannot approve the same commitment.", 3, none⟩),
    ("SOD-004", ⟨"separation", .block, "PREPARED_ACTION_MISMATCH",
      "The cancellation does not match the prepared action.", 4, none⟩),
    ("SOD-005", ⟨"separation", .block, "PREPARED_ACTION_MISMATCH",
      "A confirmed action cannot be cancelled.", 5, none⟩),
    ("SOD-006", ⟨"separation", .allow, "CANCELLATION_ALREADY_APPLIED",
      "The prepared action is already cancelled.", 6, none⟩),
    ("SOD-007", ⟨"separation", .allow, "CANCELLATION_ALLOWED",
      "The pending prepared action may be cancelled.", 7, none⟩),
    ("PII-001", ⟨"pii", .block, "PII_FIELD_NOT_ALLOWED",
      "Raw contact or free-form message fields are not allowed at the disclosure boundary.",
      1, none⟩),
    ("PII-002", ⟨"pii", .block, "DISCLOSURE_TEMPLATE_NOT_ALLOWED",
      "The notification template is not allowlisted.", 2, none⟩),
    ("PII-003", ⟨"pii", .block, "PII_FIELD_NOT_ALLOWED",
      "Only synthetic recipient references are allowed.", 3, none⟩),
    ("PII-004", ⟨"pii", .block, "PII_FIELD_NOT_ALLOWED",
      "Notification variables contain a field outside the allowlist.", 4, none⟩) ]

/-- Look a policy's metadata up. -/
def metadataOf (policyId : String) : Option PolicyMetadata :=
  Dict.lookupEntries policyId metadata

/-! ## Mapping a response -/

section Mapping

variable (request : PolicyRequest) (state : TrajectoryState)

/-- The fact a guide-back refers to: `state.facts.get(str(args.get(...)))`. -/
def guidanceFact : Option NumericFact :=
  state.facts.get? (request.context.arguments.get "weight_fact_id").pyStr

/-- The guidance a signal carries. -/
def guidanceFor (item : PolicyMetadata) : Option Kwargs :=
  match item.guidance with
  | some "weight" => (guidanceFact request state).map PythonEngine.factGuidance
  | some "vehicle" =>
      some (PythonEngine.vehicleGuidance ((guidanceFact request state).map (·.value)))
  | some "carrier" => some PythonEngine.carrierGuidance
  | _ => none

/-- The sentence a weight guide-back is given. -/
def weightBecause (item : PolicyMetadata) (fact : NumericFact) : String :=
  let valueText := (request.context.arguments.get "weight_value").pyStr
  let unitText := (request.context.arguments.get "weight_unit").pyStr
  if item.reasonCode = "PROVENANCE_VALUE_MISMATCH" then
    s!"Attempted weight {valueText} kg differs from sourced weight {fact.value} kg."
  else if item.reasonCode = "PROVENANCE_UNIT_MISMATCH" then
    s!"Attempted unit {unitText} differs from sourced unit {fact.unit}."
  else item.because

/-- The sentence a signal carries; printing an amount may raise. -/
def becauseFor (item : PolicyMetadata) : Except PyError String :=
  let because := match item.guidance, guidanceFact request state with
    | some "weight", some fact => weightBecause request item fact
    | _, _ => item.because
  let projected := state.spendCommittedMinor + state.spendReservedMinor
  match state.mandate with
  | none => .ok because
  | some mandate =>
      if item.reasonCode = "SPEND_APPROVAL_REQUIRED" then do
        let shown ← formatMinor projected
        let ceiling ← formatMinor mandate.approvalThresholdMinor
        .ok s!"Projected spend INR {shown} exceeds the INR {ceiling} ceiling."
      else if item.reasonCode = "SPEND_WITHIN_CEILING" then do
        let shown ← formatMinor projected
        .ok s!"Projected spend INR {shown} is within the shipment ceiling."
      else if item.reasonCode = "SPEND_EXCEPTION_APPROVED" then do
        let shown ← formatMinor projected
        .ok s!"A bound approval permits projected spend INR {shown}."
      else .ok because

/-- `_signal`, with the order the mapping sorts by. -/
def signalFor (policyId : String) : Except PyError (Nat × PolicySignal) :=
  match metadataOf policyId with
  | none => mappingError "KeyError"
  | some item => do
      let because ← becauseFor request state item
      .ok (item.order, ⟨item.family, policyId, item.outcome, item.reasonCode, because,
        guidanceFor request state item⟩)

/-- The sort key of a signal: family, then order, then policy ID. -/
def signalBefore (a b : Nat × PolicySignal) : Bool :=
  let fa := familyOrder a.2.family
  let fb := familyOrder b.2.family
  fa < fb || (fa = fb && (a.1 < b.1 || (a.1 = b.1 && a.2.policyId ≤ b.2.policyId)))

/-- Whether the projected spend rests on an approval. -/
def restsOnApproval (mandate : ShipmentMandate) : Bool :=
  mandate.approvalThresholdMinor < state.spendCommittedMinor + state.spendReservedMinor &&
    request.context.approval.any fun approval => approval.status = .approved

/-- The policy IDs an allow is reported under. -/
def allowPolicyIds (policyIds : List String) : Except PyError (List String) :=
  let specific := policyIds.filter fun id => id ≠ "BASE-PERMIT-REGISTERED"
  if request.action = "confirm_freight_booking" then
    match state.mandate with
    | none => mappingError "Shipment mandate is missing."
    | some mandate =>
        .ok [if restsOnApproval request state mandate then "SPEND-009" else "SPEND-004"]
  else if specific.isEmpty then .ok ["BASE-PERMIT-REGISTERED"]
  else .ok specific

/-- `map_response`. -/
def mapResponse (response : CedarAuthorizationResponse) : Except PyError (List PolicySignal) :=
  if response.errors.isEmpty = false then
    mappingError "Cedar returned authorization diagnostics."
  else if response.decision ≠ "allow" && response.decision ≠ "deny" then
    mappingError "Cedar returned an invalid decision."
  else if response.decision = "deny" && response.determiningPolicyIds.isEmpty then
    .ok [⟨"ownership", "CEDAR-IMPLICIT-DENY", .block, "MISSING_POLICY_CONTEXT",
      "No Cedar permit policy matched the authorization request.", none⟩]
  else if response.determiningPolicyIds.any (fun id => (metadataOf id).isNone) then
    mappingError "Cedar returned an unknown determining policy."
  else do
    let policyIds ←
      if response.decision = "allow" then
        allowPolicyIds request state response.determiningPolicyIds
      else .ok response.determiningPolicyIds
    let signals ← policyIds.mapM (signalFor request state)
    .ok ((signals.insertionSort fun a b => signalBefore a b = true).map Prod.snd)

end Mapping

/-! ## The engine -/

/-- `CedarPolicyEngine.evaluate`, after a successful startup. -/
def evaluate [Sha256] (bundleHash : String) (request : PolicyRequest)
    (state : TrajectoryState) : Except PyError (List PolicySignal) := do
  let cedarRequest ← buildCedarRequest request state bundleHash
  let response ← clientAuthorize bundleHash cedarRequest
  if response.requestId ≠ request.requestId then
    clientError "Cedar response request ID does not match."
  else if response.policyVersion ≠ sidecarPolicyVersion then
    clientError "Cedar response policy version does not match."
  else if response.bundleHash ≠ bundleHash then
    clientError "Cedar response bundle hash does not match."
  else mapResponse request state response

/-! ## The metadata as a whole -/

/-- No policy has two entries. -/
theorem metadataOf_eq_some_iff {id : String} {item : PolicyMetadata} :
    metadataOf id = some item ↔ (id, item) ∈ metadata :=
  Dict.lookupEntries_eq_some_iff (by decide +kernel)

/-- Every metadata reason is in the catalogue. -/
theorem metadata_catalogued :
    ∀ entry ∈ metadata, reasonCodes.contains entry.2.reasonCode = true := by
  decide +kernel

/-- Every policy of the bundle has metadata under its identifier. -/
theorem metadata_covers_bundle :
    ∀ policy ∈ bundle, (metadataOf policy.id).isSome = true := by
  intro policy hmem
  have hids : ∀ id ∈ bundle.map (·.id), (metadataOf id).isSome = true := by decide +kernel
  exact hids _ (List.mem_map_of_mem hmem)

end Manifest.Cedar

namespace Manifest

/-- `CedarPolicyEngine` over the demo-v1 bundle. -/
def cedarPolicyEngine [Sha256] (bundleHash : String) : PolicyEngine where
  name := "cedar"
  policyVersion := Cedar.sidecarPolicyVersion
  bundleHash := some bundleHash
  evaluate := Cedar.evaluate bundleHash

end Manifest
