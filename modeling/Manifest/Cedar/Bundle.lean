import Manifest.Lib.Authorizer
import Manifest.Policy.PythonEngine

/-!
# The demo-v1 Cedar bundle

The schema's context record, the request and the bundle's policies.  `Long` is a
64-bit integer: an addition that overflows is an evaluation error of its policy.
-/

set_option autoImplicit false

namespace Manifest.Cedar

open Authorization

def minLong : Int := -9223372036854775808
def maxLong : Int := 9223372036854775807

/-- Whether an integer is a Cedar `Long`. -/
def isLong (n : Int) : Bool :=
  minLong ≤ n && n ≤ maxLong

inductive EvaluationError where
  | overflow
deriving DecidableEq

theorem isLong_iff (n : Int) :
    isLong n = true ↔ -9223372036854775808 ≤ n ∧ n ≤ 9223372036854775807 := by
  rw [isLong, Bool.and_eq_true, decide_eq_true_eq, decide_eq_true_eq]
  rfl

/-- Checked addition of longs. -/
def addLong (a b : Int) : Except EvaluationError Int :=
  if isLong (a + b) then .ok (a + b) else .error .overflow

/-- `AuthContext`. -/
structure AuthContext where
  policyVersion : String
  mandatePolicyVersion : String
  allowedEffectClasses : List String
  cargoClass : String
  currency : String
  principalId : String
  provenanceFactPresent : Bool
  provenanceFactHashValid : Bool
  attemptedWeight : Int
  attemptedUnit : String
  authoritativeWeight : Int
  authoritativeUnit : String
  vehicleMetadataPresent : Bool
  vehicleAvailable : Bool
  vehicleRefrigerated : Bool
  vehicleCapacityKg : Int
  carrierMetadataPresent : Bool
  coldChainCertified : Bool
  laneSupported : Bool
  quoteIssuer : String
  preparedActionPresent : Bool
  preparedStatus : String
  preparedCurrency : String
  preparedBy : String
  actionHashMatches : Bool
  spendCommittedMinor : Int
  spendReservedMinor : Int
  approvalThresholdMinor : Int
  approvalStatus : String
  approvalExpired : Bool
  approvalActionMatches : Bool
  approvalStateMatches : Bool
  approvalPolicyMatches : Bool
  approverLabel : String
  approverConflictsWithPreparer : Bool
  containsForbiddenPiiField : Bool
  templateId : String
  syntheticRecipientValid : Bool
  templateVariablesAllowed : Bool

/-- The request: agents by name, the action by name and the resource's attributes. -/
structure AuthRequest where
  principal : String
  action : String
  owner : String
  effectClass : String
  context : AuthContext

abbrev BundlePolicy := Policy String AuthRequest EvaluationError

/-- A `forbid` whose condition always evaluates. -/
def forbid (id : String) (condition : AuthRequest → Bool) : BundlePolicy :=
  ⟨id, .forbid, fun request => .ok (condition request)⟩

/-- A `permit` whose condition always evaluates. -/
def permit (id : String) (condition : AuthRequest → Bool) : BundlePolicy :=
  ⟨id, .permit, fun request => .ok (condition request)⟩

/-- A `forbid` whose scope names one action. -/
def forbidOn (action id : String) (condition : AuthContext → Bool) : BundlePolicy :=
  forbid id fun request => request.action = action && condition request.context

/-- The condition shared by every permit. -/
def registered (request : AuthRequest) : Bool :=
  request.owner = request.principal &&
    request.context.policyVersion = request.context.mandatePolicyVersion &&
    request.context.allowedEffectClasses.contains request.effectClass

/-- The condition of SPEND-003, whose sum may overflow. -/
def approvalNeeded (c : AuthContext) : Except EvaluationError Bool :=
  if c.preparedActionPresent then do
    let projected ← addLong c.spendCommittedMinor c.spendReservedMinor
    .ok (c.approvalThresholdMinor < projected &&
      (c.approvalStatus = "none" || c.approvalStatus = "pending_approval"))
  else .ok false

/-- `manifest.cedar`, in order. -/
def bundle : List BundlePolicy :=
  [ permit "BASE-PERMIT-REGISTERED" registered,
    forbid "OWN-001" fun r => r.context.policyVersion ≠ r.context.mandatePolicyVersion,
    forbid "OWN-002" fun r => r.owner ≠ r.principal,
    forbid "OWN-003" fun r => !r.context.allowedEffectClasses.contains r.effectClass,
    forbid "OWN-004" fun r => actsOnPrepared r.action && !r.context.preparedActionPresent,
    forbidOn "create_dispatch_plan" "PROV-001" fun c => !c.provenanceFactPresent,
    forbidOn "create_dispatch_plan" "PROV-002" fun c =>
      c.provenanceFactPresent && !c.provenanceFactHashValid,
    forbidOn "create_dispatch_plan" "PROV-003" fun c =>
      c.provenanceFactPresent && c.provenanceFactHashValid &&
        c.attemptedUnit ≠ c.authoritativeUnit,
    forbidOn "create_dispatch_plan" "PROV-004" fun c =>
      c.provenanceFactPresent && c.provenanceFactHashValid &&
        c.attemptedWeight ≠ c.authoritativeWeight,
    forbidOn "create_dispatch_plan" "COLD-001" fun c =>
      c.cargoClass = "perishable" && !c.vehicleMetadataPresent,
    forbidOn "create_dispatch_plan" "COLD-002" fun c =>
      c.cargoClass = "perishable" && c.vehicleMetadataPresent &&
        (!c.vehicleAvailable || !c.vehicleRefrigerated ||
          c.vehicleCapacityKg < c.authoritativeWeight),
    forbid "COLD-003" fun r =>
      r.context.cargoClass = "perishable" && choosesQuote r.action &&
        !r.context.carrierMetadataPresent,
    forbid "COLD-004" fun r =>
      r.context.cargoClass = "perishable" && choosesQuote r.action &&
        r.context.carrierMetadataPresent &&
        (!r.context.coldChainCertified || !r.context.laneSupported),
    forbidOn "confirm_freight_booking" "SPEND-001" fun c =>
      c.spendCommittedMinor < 0 || c.spendReservedMinor < 0 || c.approvalThresholdMinor < 0,
    forbidOn "confirm_freight_booking" "SPEND-002" fun c =>
      c.preparedActionPresent && c.preparedCurrency ≠ c.currency,
    ⟨"SPEND-003", .forbid, fun r =>
      if r.action = "confirm_freight_booking" then approvalNeeded r.context else .ok false⟩,
    forbidOn "confirm_freight_booking" "SPEND-005" fun c =>
      c.approvalStatus = "approved" && c.approvalExpired,
    forbidOn "confirm_freight_booking" "SPEND-006" fun c =>
      c.approvalStatus = "approved" && !c.approvalActionMatches,
    forbidOn "confirm_freight_booking" "SPEND-007" fun c =>
      c.approvalStatus = "approved" && !c.approvalStateMatches,
    forbidOn "confirm_freight_booking" "SPEND-008" fun c =>
      c.approvalStatus = "approved" && !c.approvalPolicyMatches,
    forbidOn "confirm_freight_booking" "SPEND-010" fun c => c.approvalStatus = "expired",
    forbidOn "confirm_freight_booking" "SPEND-011" fun c => c.approvalStatus = "rejected",
    forbid "SOD-000" fun r =>
      choosesQuote r.action && r.context.quoteIssuer = r.context.principalId,
    forbidOn "confirm_freight_booking" "SOD-001" fun c =>
      c.preparedActionPresent &&
        (c.preparedStatus = "pending_approval" || c.preparedStatus = "confirmed" ||
          c.preparedStatus = "cancelled" || c.preparedStatus = "rejected" ||
          c.preparedStatus = "expired"),
    forbidOn "confirm_freight_booking" "SOD-002" fun c =>
      c.preparedActionPresent && !c.actionHashMatches,
    forbidOn "confirm_freight_booking" "SOD-003" fun c => c.approverConflictsWithPreparer,
    forbidOn "cancel_freight_booking" "SOD-004" fun c =>
      c.preparedActionPresent && !c.actionHashMatches,
    forbidOn "cancel_freight_booking" "SOD-005" fun c => c.preparedStatus = "confirmed",
    permit "SOD-006" fun r =>
      r.action = "cancel_freight_booking" && registered r &&
        r.context.preparedActionPresent && r.context.actionHashMatches &&
        r.context.preparedStatus = "cancelled",
    permit "SOD-007" fun r =>
      r.action = "cancel_freight_booking" && registered r &&
        r.context.preparedActionPresent && r.context.actionHashMatches &&
        r.context.preparedStatus ≠ "confirmed" && r.context.preparedStatus ≠ "cancelled",
    forbidOn "write_tracking_outbox" "PII-001" fun c => c.containsForbiddenPiiField,
    forbidOn "write_tracking_outbox" "PII-002" fun c => c.templateId ≠ "TRACKING_UPDATE_V1",
    forbidOn "write_tracking_outbox" "PII-003" fun c => !c.syntheticRecipientValid,
    forbidOn "write_tracking_outbox" "PII-004" fun c => !c.templateVariablesAllowed ]

/-- The actions the schema declares. -/
def schemaActions : List String :=
  ["get_order", "check_inventory", "list_available_vehicles", "create_dispatch_plan",
    "list_carrier_quotes", "select_carrier_quote", "prepare_freight_booking",
    "confirm_freight_booking", "cancel_freight_booking", "write_tracking_outbox"]

/-- The context's longs, which the schema check reads as 64-bit integers. -/
def AuthContext.longs (c : AuthContext) : List Int :=
  [c.attemptedWeight, c.authoritativeWeight, c.vehicleCapacityKg, c.spendCommittedMinor,
    c.spendReservedMinor, c.approvalThresholdMinor]

/-- Whether the request conforms to the schema. -/
def AuthRequest.conforms (request : AuthRequest) : Bool :=
  schemaActions.contains request.action && request.context.longs.all isLong

end Manifest.Cedar
