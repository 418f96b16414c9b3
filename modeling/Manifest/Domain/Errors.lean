import Mathlib.Data.List.Basic

/-!
# Typed errors

The exception classes the modelled code raises, with their public codes.  The
last class stands for every exception outside the `ManifestError` hierarchy.
-/

set_option autoImplicit false

namespace Manifest

/-- Exception classes; the names follow the source without their `Error` suffix. -/
inductive ErrorClass where
  | manifest
  | fixture
  | orderNotFound
  | unknownTool
  | traceNotFound
  | traceSequence
  | noSuitableVehicle
  | noSuitableCarrier
  | toolExecution
  | agentRuntime
  | agentIncomplete
  | providerAuthentication
  | providerBilling
  | providerModelUnavailable
  | providerRateLimit
  | providerTimeout
  | providerUnavailable
  | unsupportedMode
  | unsupportedScenario
  | idempotencyConflict
  | policyBlocked
  | approvalNotFound
  | approvalNotPending
  | approvalVersionConflict
  | approvalIdempotencyConflict
  | approvalExpired
  | approvalActionMismatch
  | approvalStateMismatch
  | approvalPolicyMismatch
  | approverConflict
  | ledgerAppend
  | ledgerIdempotencyConflict
  | ledgerTamperValidation
  | storageConfiguration
  | traceRevisionConflict
  | serializationVersion
  | tracePersistence
  | approvalPersistenceConflict
  | effectReceiptConflict
  | itemSizeLimit
  | python
deriving DecidableEq, Repr

/-- The public code of each class; plain exceptions have none. -/
def ErrorClass.code : ErrorClass → String
  | .manifest => "MANIFEST_ERROR"
  | .fixture => "FIXTURE_ERROR"
  | .orderNotFound => "ORDER_NOT_FOUND"
  | .unknownTool => "UNKNOWN_TOOL"
  | .traceNotFound => "TRACE_NOT_FOUND"
  | .traceSequence => "TRACE_SEQUENCE_ERROR"
  | .noSuitableVehicle => "NO_SUITABLE_VEHICLE"
  | .noSuitableCarrier => "NO_SUITABLE_CARRIER"
  | .toolExecution => "TOOL_EXECUTION_ERROR"
  | .agentRuntime => "AGENT_RUNTIME_ERROR"
  | .agentIncomplete => "AGENT_INCOMPLETE"
  | .providerAuthentication => "PROVIDER_AUTHENTICATION_ERROR"
  | .providerBilling => "PROVIDER_BILLING_ERROR"
  | .providerModelUnavailable => "PROVIDER_MODEL_UNAVAILABLE"
  | .providerRateLimit => "PROVIDER_RATE_LIMITED"
  | .providerTimeout => "PROVIDER_TIMEOUT"
  | .providerUnavailable => "PROVIDER_UNAVAILABLE"
  | .unsupportedMode => "UNSUPPORTED_MODE"
  | .unsupportedScenario => "UNSUPPORTED_SCENARIO"
  | .idempotencyConflict => "IDEMPOTENCY_CONFLICT"
  | .policyBlocked => "POLICY_BLOCKED"
  | .approvalNotFound => "APPROVAL_NOT_FOUND"
  | .approvalNotPending => "APPROVAL_NOT_PENDING"
  | .approvalVersionConflict => "APPROVAL_VERSION_CONFLICT"
  | .approvalIdempotencyConflict => "APPROVAL_IDEMPOTENCY_CONFLICT"
  | .approvalExpired => "APPROVAL_EXPIRED"
  | .approvalActionMismatch => "APPROVAL_ACTION_MISMATCH"
  | .approvalStateMismatch => "APPROVAL_STATE_MISMATCH"
  | .approvalPolicyMismatch => "APPROVAL_POLICY_MISMATCH"
  | .approverConflict => "APPROVER_CONFLICT"
  | .ledgerAppend => "LEDGER_APPEND_ERROR"
  | .ledgerIdempotencyConflict => "LEDGER_IDEMPOTENCY_CONFLICT"
  | .ledgerTamperValidation => "LEDGER_TAMPER_VALIDATION_ERROR"
  | .storageConfiguration => "STORAGE_CONFIGURATION_ERROR"
  | .traceRevisionConflict => "TRACE_REVISION_CONFLICT"
  | .serializationVersion => "SERIALIZATION_VERSION_ERROR"
  | .tracePersistence => "TRACE_PERSISTENCE_ERROR"
  | .approvalPersistenceConflict => "APPROVAL_PERSISTENCE_CONFLICT"
  | .effectReceiptConflict => "EFFECT_RECEIPT_CONFLICT"
  | .itemSizeLimit => "ITEM_SIZE_LIMIT_ERROR"
  | .python => "UNEXPECTED_ERROR"

/-- Subclasses of `ProviderError`. -/
def ErrorClass.isProvider : ErrorClass → Bool
  | .providerAuthentication | .providerBilling | .providerModelUnavailable
  | .providerRateLimit | .providerTimeout | .providerUnavailable => true
  | _ => false

/-- A raised exception. -/
structure PyError where
  cls : ErrorClass
  message : String
deriving DecidableEq, Repr

/-- `isinstance(exc, ManifestError)`. -/
def PyError.isManifest (x : PyError) : Bool :=
  x.cls ≠ .python

/-- An exception outside the `ManifestError` hierarchy. -/
def PyError.ofPython (message : String) : PyError :=
  ⟨.python, message⟩

end Manifest
