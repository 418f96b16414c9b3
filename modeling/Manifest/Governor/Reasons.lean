import Mathlib.Data.List.Basic

/-!
# Reason-code catalogue
-/

set_option autoImplicit false

namespace Manifest

/-- `REASON_CODES`. -/
def reasonCodes : List String :=
  ["ALLOW_POLICY_CHECKS_PASSED", "UNKNOWN_TOOL", "TOOL_OWNER_MISMATCH",
    "EFFECT_NOT_ALLOWED_BY_MANDATE", "MISSING_POLICY_CONTEXT", "COLD_CHAIN_VEHICLE_REQUIRED",
    "COLD_CHAIN_CARRIER_REQUIRED", "PROVENANCE_REFERENCE_MISSING",
    "PROVENANCE_VALUE_MISMATCH", "PROVENANCE_UNIT_MISMATCH", "SPEND_WITHIN_CEILING",
    "SPEND_APPROVAL_REQUIRED", "SPEND_EXCEPTION_APPROVED", "PREPARED_ACTION_REQUIRED",
    "PREPARED_ACTION_MISMATCH", "SEPARATION_OF_DUTIES_VIOLATION", "PII_FIELD_NOT_ALLOWED",
    "DISCLOSURE_TEMPLATE_NOT_ALLOWED", "GUIDE_RETRY_EXHAUSTED", "POLICY_ENGINE_FAILURE",
    "APPROVAL_NOT_FOUND", "APPROVAL_NOT_PENDING", "APPROVAL_VERSION_CONFLICT",
    "APPROVAL_ACTION_MISMATCH", "APPROVAL_STATE_MISMATCH", "APPROVAL_POLICY_MISMATCH",
    "APPROVAL_EXPIRED", "APPROVAL_REJECTED", "APPROVER_CONFLICT",
    "APPROVAL_IDEMPOTENCY_CONFLICT", "CANCELLATION_ALLOWED", "CANCELLATION_ALREADY_APPLIED"]

end Manifest
