import Manifest.Effects

/-!
# Reversible commitments

Creation and hashing of prepared actions.

Main results:

- Theorem `buildPreparedAction_fields`: what a fresh prepared action records.
-/

set_option autoImplicit false

namespace Manifest

/-- `canonical_hash`. -/
def canonicalHash [Sha256] (value : Kwargs) : String :=
  Sha256.tagged (Value.dumps true (.dict value))

/-- `prepared_action_hash`. -/
def preparedActionHash [Sha256] (prepared : PreparedAction) : String :=
  canonicalHash prepared.arguments

/-- `prepared_state_hash`. -/
def preparedStateHash [Sha256] (traceId orderId : String) (prepared : PreparedAction) :
    String :=
  canonicalHash
    [ ("trace_id", .str traceId), ("order_id", .str orderId),
      ("mandate_id", .str prepared.mandateId),
      ("policy_version", .str prepared.policyVersion),
      ("prepared_action_id", .str prepared.preparedActionId),
      ("quote_id", .str prepared.resourceId), ("amount_minor", .int prepared.amountMinor),
      ("currency", .str prepared.currency),
      ("committed_minor", .int prepared.spendCommittedAtPrepareMinor),
      ("reserved_before_minor", .int prepared.spendReservedBeforeMinor),
      ("reserved_after_minor", .int prepared.spendReservedAfterMinor),
      ("selected_quote_id", .str prepared.resourceId) ]

/-- How long a prepared action may wait: fifteen minutes. -/
def preparedLifetime : Int := 900000000

/-- `build_prepared_action`, once the mandate is known. -/
def buildPreparedAction [Sha256] (state : TrajectoryState) (mandate : ShipmentMandate)
    (preparedActionId quoteId : String) (amountMinor : Int) (currency : String)
    (preparedBy : AgentName) (now : Timestamp) : PreparedAction :=
  let arguments : Kwargs :=
    [ ("prepared_action_id", .str preparedActionId), ("quote_id", .str quoteId),
      ("amount_minor", .int amountMinor), ("currency", .str currency) ]
  let prepared : PreparedAction :=
    { preparedActionId := preparedActionId
      traceId := state.traceId
      toolName := "confirm_freight_booking"
      resourceId := quoteId
      amountMinor := amountMinor
      currency := currency
      preparedBy := preparedBy
      arguments := arguments
      actionHash := canonicalHash arguments
      stateHash := ""
      mandateId := mandate.mandateId
      policyVersion := state.policyVersion
      spendCommittedAtPrepareMinor := state.spendCommittedMinor
      spendReservedBeforeMinor := state.spendReservedMinor
      spendReservedAfterMinor := state.spendReservedMinor + amountMinor
      status := .prepared
      expiresAt := now + preparedLifetime }
  { prepared with stateHash := preparedStateHash state.traceId state.orderId prepared }

/-- A fresh prepared action is waiting to be confirmed for the amount asked, and its
hashes are those of its own fields. -/
theorem buildPreparedAction_fields [Sha256] (state : TrajectoryState)
    (mandate : ShipmentMandate) (preparedActionId quoteId : String) (amountMinor : Int)
    (currency : String) (preparedBy : AgentName) (now : Timestamp) :
    let prepared := buildPreparedAction state mandate preparedActionId quoteId amountMinor
      currency preparedBy now
    prepared.preparedActionId = preparedActionId ∧ prepared.amountMinor = amountMinor ∧
      prepared.status = .prepared ∧ prepared.actionHash = preparedActionHash prepared ∧
      prepared.stateHash = preparedStateHash state.traceId state.orderId prepared :=
  ⟨rfl, rfl, rfl, rfl, rfl⟩

end Manifest
