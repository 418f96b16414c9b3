import Manifest.Cedar.Bundle

/-!
# From a policy request to a Cedar request

The whitelist conversion of the request and the state, the transport form whose
size the client bounds, and the sidecar's answer.

Main results:

- Theorem `buildCedarRequest_ok`: what a built request consists of.
-/

set_option autoImplicit false

namespace Manifest.Cedar

open Authorization

def valueError {α : Type} (message : String) : Except PyError α :=
  .error (.ofPython message)

/-- `CedarClientError`. -/
def clientError {α : Type} (message : String) : Except PyError α :=
  .error (.ofPython message)

/-- `_strict_int`: booleans and floats are refused. -/
def strictInt (value : Value) (label : String) : Except PyError Int :=
  match value with
  | .int n => .ok n
  | _ => valueError s!"{label} must be an integer."

/-- `mapping.get(str(key)) if key is not None else None`. -/
def lookupText {α : Type} (mapping : Dict String α) : Value → Option α
  | .none => none
  | key => mapping.get? key.pyStr

/-- The typed request and its transport fields. -/
structure CedarAuthorizationRequest where
  requestId : String
  principal : String
  action : String
  resource : String
  orderId : String
  owner : String
  effectClass : String
  context : AuthContext
  policyVersion : String
  bundleHash : String

structure CedarAuthorizationResponse where
  requestId : String
  decision : String
  determiningPolicyIds : List String
  errors : List String
  policyVersion : String
  bundleHash : String

/-! ## The context record -/

/-- The fields of the context that depend on the weight fact. -/
def factOf (request : PolicyRequest) (state : TrajectoryState) : Option NumericFact :=
  lookupText state.facts (request.context.arguments.get "weight_fact_id")

/-- The prepared action the request names. -/
def preparedOf (request : PolicyRequest) (state : TrajectoryState) : Option PreparedAction :=
  lookupText state.preparedActions (request.context.arguments.get "prepared_action_id")

/-- `str(approval.get("status", "none"))`. -/
def approvalStatusText : Option ApprovalContext → String
  | some approval => approval.status.value
  | none => "none"

/-- `str(approval.get("approver_label") or "")`. -/
def approverLabelText (approval : Option ApprovalContext) : String :=
  (approval.bind (·.approverLabel)).getD ""

/-- The context dictionary, once the attempted weight is known to be an integer. -/
def authContext [Sha256] (request : PolicyRequest) (state : TrajectoryState)
    (mandate : ShipmentMandate) (attemptedWeight : Int) : AuthContext :=
  let args := request.context.arguments
  let resource := request.context.resource
  let approval := request.context.approval
  let fact := factOf request state
  let prepared := preparedOf request state
  let preparedBy := (prepared.map (·.preparedBy.value)).getD ""
  { policyVersion := state.policyVersion
    mandatePolicyVersion := mandate.policyVersion
    allowedEffectClasses :=
      (mandate.allowedEffectClasses.map (·.value)).insertionSort (· ≤ ·)
    cargoClass := mandate.cargoClass
    currency := mandate.currency
    principalId := request.principal.value
    provenanceFactPresent := fact.isSome
    provenanceFactHashValid := fact.any (validFactHash state.orderId)
    attemptedWeight := attemptedWeight
    attemptedUnit := (args.getD "weight_unit" (.str "")).pyStr
    authoritativeWeight := (fact.map (·.value)).getD 0
    authoritativeUnit := (fact.map (·.unit)).getD ""
    vehicleMetadataPresent := request.action = "create_dispatch_plan" && resource.present
    vehicleAvailable := resource.available
    vehicleRefrigerated := resource.refrigerated
    vehicleCapacityKg := resource.capacityKg 0
    carrierMetadataPresent := choosesQuote request.action && resource.present
    coldChainCertified := resource.coldChainCertified
    laneSupported := resource.laneSupported
    quoteIssuer := resource.quoteIssuer.getD ""
    preparedActionPresent := prepared.isSome
    preparedStatus := (prepared.map (·.status.value)).getD "none"
    preparedCurrency := (prepared.map (·.currency)).getD ""
    preparedBy := preparedBy
    actionHashMatches := prepared.any fun p => (args.get "action_hash").pyEq (.str p.actionHash)
    spendCommittedMinor := state.spendCommittedMinor
    spendReservedMinor := state.spendReservedMinor
    approvalThresholdMinor := mandate.approvalThresholdMinor
    approvalStatus := approvalStatusText approval
    approvalExpired := approval.any (·.isExpired)
    approvalActionMatches := prepared.any fun p => approval.any fun a =>
      a.preparedActionId = p.preparedActionId && a.actionHash = p.actionHash
    approvalStateMatches := prepared.any fun p => approval.any fun a => a.stateHash = p.stateHash
    approvalPolicyMatches := approval.any fun a => a.policyVersion = state.policyVersion
    approverLabel := approverLabelText approval
    approverConflictsWithPreparer := prepared.isSome && approverLabelText approval = preparedBy
    containsForbiddenPiiField := containsForbiddenPii args
    templateId := (args.getD "template_id" (.str "")).pyStr
    syntheticRecipientValid :=
      startsWith "DEMO-RECIPIENT-" (args.getD "recipient_ref" (.str "")).pyStr
    templateVariablesAllowed :=
      templateVariablesAllowed (args.getD "template_variables" (.dict [])) }

/-- `build_cedar_request`. -/
def buildCedarRequest [Sha256] (request : PolicyRequest) (state : TrajectoryState)
    (bundleHash : String) : Except PyError CedarAuthorizationRequest :=
  match state.mandate with
  | none => valueError "Shipment mandate is required for Cedar evaluation."
  | some mandate =>
      match request.context.toolOwner, request.context.effectClass with
      | some owner, some effectClass => do
          let attempted ←
            strictInt (request.context.arguments.getD "weight_value" (.int 0)) "attempted weight"
          .ok {
            requestId := request.requestId
            principal := request.principal.value
            action := request.action
            resource := request.requestId
            orderId := state.orderId
            owner := owner
            effectClass := effectClass
            context := authContext request state mandate attempted
            policyVersion := state.policyVersion
            bundleHash := bundleHash }
      | _, _ => valueError "Registered tool metadata is required for Cedar evaluation."

/-- The request built for an integer weight. -/
def cedarRequestFor [Sha256] (request : PolicyRequest) (state : TrajectoryState)
    (mandate : ShipmentMandate) (owner effectClass : String) (attempted : Int)
    (bundleHash : String) : CedarAuthorizationRequest where
  requestId := request.requestId
  principal := request.principal.value
  action := request.action
  resource := request.requestId
  orderId := state.orderId
  owner := owner
  effectClass := effectClass
  context := authContext request state mandate attempted
  policyVersion := state.policyVersion
  bundleHash := bundleHash

/-- A request is built from a mandate, registered metadata and an integer weight. -/
theorem buildCedarRequest_ok [Sha256] {request : PolicyRequest} {state : TrajectoryState}
    {mandate : ShipmentMandate} {owner effectClass : String} {attempted : Int}
    (bundleHash : String) (hmandate : state.mandate = some mandate)
    (howner : request.context.toolOwner = some owner)
    (hclass : request.context.effectClass = some effectClass)
    (hweight : request.context.arguments.getD "weight_value" (.int 0) = .int attempted) :
    buildCedarRequest request state bundleHash =
      .ok (cedarRequestFor request state mandate owner effectClass attempted bundleHash) := by
  simp only [buildCedarRequest, hmandate, howner, hclass, hweight, strictInt, bind, Except.bind]
  rfl

/-! ## The transport form -/

/-- The context as the JSON object on the wire. -/
def AuthContext.asDict (c : AuthContext) : Kwargs :=
  [ ("policyVersion", .str c.policyVersion),
    ("mandatePolicyVersion", .str c.mandatePolicyVersion),
    ("allowedEffectClasses", .list (c.allowedEffectClasses.map .str)),
    ("cargoClass", .str c.cargoClass), ("currency", .str c.currency),
    ("principalId", .str c.principalId),
    ("provenanceFactPresent", .bool c.provenanceFactPresent),
    ("provenanceFactHashValid", .bool c.provenanceFactHashValid),
    ("attemptedWeight", .int c.attemptedWeight), ("attemptedUnit", .str c.attemptedUnit),
    ("authoritativeWeight", .int c.authoritativeWeight),
    ("authoritativeUnit", .str c.authoritativeUnit),
    ("vehicleMetadataPresent", .bool c.vehicleMetadataPresent),
    ("vehicleAvailable", .bool c.vehicleAvailable),
    ("vehicleRefrigerated", .bool c.vehicleRefrigerated),
    ("vehicleCapacityKg", .int c.vehicleCapacityKg),
    ("carrierMetadataPresent", .bool c.carrierMetadataPresent),
    ("coldChainCertified", .bool c.coldChainCertified),
    ("laneSupported", .bool c.laneSupported), ("quoteIssuer", .str c.quoteIssuer),
    ("preparedActionPresent", .bool c.preparedActionPresent),
    ("preparedStatus", .str c.preparedStatus),
    ("preparedCurrency", .str c.preparedCurrency), ("preparedBy", .str c.preparedBy),
    ("actionHashMatches", .bool c.actionHashMatches),
    ("spendCommittedMinor", .int c.spendCommittedMinor),
    ("spendReservedMinor", .int c.spendReservedMinor),
    ("approvalThresholdMinor", .int c.approvalThresholdMinor),
    ("approvalStatus", .str c.approvalStatus), ("approvalExpired", .bool c.approvalExpired),
    ("approvalActionMatches", .bool c.approvalActionMatches),
    ("approvalStateMatches", .bool c.approvalStateMatches),
    ("approvalPolicyMatches", .bool c.approvalPolicyMatches),
    ("approverLabel", .str c.approverLabel),
    ("approverConflictsWithPreparer", .bool c.approverConflictsWithPreparer),
    ("containsForbiddenPiiField", .bool c.containsForbiddenPiiField),
    ("templateId", .str c.templateId),
    ("syntheticRecipientValid", .bool c.syntheticRecipientValid),
    ("templateVariablesAllowed", .bool c.templateVariablesAllowed) ]

/-- A Cedar entity identifier as text. -/
def entityUid (type id : String) : String :=
  type ++ "::\"" ++ id ++ "\""

/-- The entities sent along: the acting agent and the tool being requested. -/
def CedarAuthorizationRequest.entities (r : CedarAuthorizationRequest) : List Value :=
  [ .dict [("uid", .dict [("type", .str "Manifest::Agent"), ("id", .str r.principal)]),
      ("attrs", .dict []), ("parents", .list [])],
    .dict [("uid", .dict [("type", .str "Manifest::ShipmentAction"), ("id", .str r.resource)]),
      ("attrs", .dict
        [ ("orderId", .str r.orderId), ("toolName", .str r.action),
          ("owner", .dict [("__entity",
            .dict [("type", .str "Manifest::Agent"), ("id", .str r.owner)])]),
          ("effectClass", .str r.effectClass) ]),
      ("parents", .list [])] ]

/-- `CedarAuthorizationRequest.as_dict`. -/
def CedarAuthorizationRequest.asDict (r : CedarAuthorizationRequest) : Kwargs :=
  [ ("request_id", .str r.requestId),
    ("principal", .str (entityUid "Manifest::Agent" r.principal)),
    ("action", .str (entityUid "Manifest::Action" r.action)),
    ("resource", .str (entityUid "Manifest::ShipmentAction" r.resource)),
    ("context", .dict r.context.asDict), ("entities", .list r.entities),
    ("policy_version", .str r.policyVersion), ("bundle_hash", .str r.bundleHash) ]

/-- The encoded body's length in bytes; the encoding is pure ASCII. -/
def CedarAuthorizationRequest.encodedLength (r : CedarAuthorizationRequest) : Nat :=
  (Value.dumpChars true (.dict r.asDict)).length

/-- The request as the authorizer sees it. -/
def CedarAuthorizationRequest.toAuthRequest (r : CedarAuthorizationRequest) : AuthRequest :=
  ⟨r.principal, r.action, r.owner, r.effectClass, r.context⟩

/-! ## The sidecar and its client -/

/-- The policy version the sidecar serves. -/
def sidecarPolicyVersion : String := "demo-v1"

/-- The sidecar's `authorize`: identity and schema checks, then the authorizer. -/
def sidecarAuthorize (bundleHash : String) (r : CedarAuthorizationRequest) :
    Except PyError CedarAuthorizationResponse :=
  if r.policyVersion ≠ sidecarPolicyVersion || r.bundleHash ≠ bundleHash ||
      r.toAuthRequest.conforms = false then
    clientError "Cedar policy service request failed."
  else
    let response := isAuthorized bundle r.toAuthRequest
    .ok {
      requestId := r.requestId
      decision := if response.decision = .allow then "allow" else "deny"
      determiningPolicyIds := response.determining.insertionSort (· ≤ ·)
      errors := response.errors.map fun _ => "authorization_evaluation_error"
      policyVersion := sidecarPolicyVersion
      bundleHash := bundleHash }

/-- The client's bound on a request body. -/
def maxRequestBytes : Nat := 65536

/-- `CedarClient.authorize`. -/
def clientAuthorize (bundleHash : String) (r : CedarAuthorizationRequest) :
    Except PyError CedarAuthorizationResponse :=
  if maxRequestBytes < r.encodedLength then
    clientError "Cedar authorization request is too large."
  else sidecarAuthorize bundleHash r

end Manifest.Cedar
