import Manifest.Parity.Bundle

/-!
# The forbids of each action

Which forbids of the bundle hold for a request, first in terms of the context record
and then in terms of the request and the state.

Main results:

- Theorems `confirm_blocks`, `cancel_blocks`, `dispatch_blocks`, `quote_blocks` and
  `outbox_blocks`: when a blocking forbid holds.
- Theorems `confirm_escalates`, `dispatch_guides` and `quote_guides`: when one escalates
  or guides.
- Theorem `not_admitted_outcome`: a request that is not admitted is blocked.
-/

set_option autoImplicit false

namespace Manifest.Cedar

open Authorization

section Rules

variable {r : AuthRequest}

/-- The blocking forbids are those that neither escalate nor guide. -/
theorem forbids_block_iff :
    Forbids r .block ↔ ∃ policy ∈ bundle, policy.effect = .forbid ∧ policy.holds r = true ∧
      policy.id ≠ "SPEND-003" ∧ policy.id ∉ guidingIds := by
  refine exists_congr fun policy => and_congr_right fun hmem => and_congr_right fun heffect =>
    and_congr_right fun hholds => ?_
  rw [outcomeOfId_forbid hmem heffect]
  by_cases hspend : policy.id = "SPEND-003"
  · simp [hspend]
  · by_cases hguide : policy.id ∈ guidingIds <;> simp [hspend, hguide]

/-- One forbid escalates. -/
theorem forbids_escalate_iff :
    Forbids r .escalate ↔ ∃ policy ∈ bundle, policy.effect = .forbid ∧
      policy.holds r = true ∧ policy.id = "SPEND-003" := by
  refine exists_congr fun policy => and_congr_right fun hmem => and_congr_right fun heffect =>
    and_congr_right fun hholds => ?_
  rw [outcomeOfId_forbid hmem heffect]
  by_cases hspend : policy.id = "SPEND-003"
  · simp [hspend]
  · by_cases hguide : policy.id ∈ guidingIds <;> simp [hspend, hguide]

theorem forbids_guide_iff :
    Forbids r .guide ↔ ∃ policy ∈ bundle, policy.effect = .forbid ∧ policy.holds r = true ∧
      policy.id ∈ guidingIds := by
  refine exists_congr fun policy => and_congr_right fun hmem => and_congr_right fun heffect =>
    and_congr_right fun hholds => ?_
  rw [outcomeOfId_forbid hmem heffect]
  by_cases hspend : policy.id = "SPEND-003"
  · simp [hspend, guidingIds]
  · by_cases hguide : policy.id ∈ guidingIds <;> simp [hspend, hguide]

/-- A request that is not registered is blocked. -/
theorem forbids_unregistered (h : ¬ registered r = true) : Forbids r .block := by
  rw [forbids_block_iff]
  simp only [registered, Bool.and_eq_true, decide_eq_true_eq, not_and] at h
  simp only [bundle, forbid, permit, forbidOn, Policy.holds, guidingIds, List.mem_cons,
    List.not_mem_nil, or_false, exists_eq_or_imp, exists_eq_left, reduceCtorEq, false_and,
    true_and, String.reduceEq, not_false_eq_true, and_true, false_or, Bool.and_eq_true,
    decide_eq_true_eq, Bool.not_eq_true', Bool.or_eq_true, not_true_eq_false, and_false, not_or,
    ne_eq]
  by_cases hversion : r.context.policyVersion = r.context.mandatePolicyVersion
  · by_cases howner : r.owner = r.principal
    · exact .inr (.inr (.inl (Bool.not_eq_true _ ▸ h ⟨howner, hversion⟩)))
    · exact .inr (.inl howner)
  · exact .inl hversion

/-- The blocking forbids of a registered request, action by action. -/
theorem forbids_block_rules (hregistered : registered r = true) :
    Forbids r .block ↔
      actsOnPrepared r.action = true ∧ r.context.preparedActionPresent = false ∨
      r.action = "create_dispatch_plan" ∧ r.context.provenanceFactPresent = false ∨
      r.action = "create_dispatch_plan" ∧
        r.context.provenanceFactPresent = true ∧ r.context.provenanceFactHashValid = false ∨
      r.action = "create_dispatch_plan" ∧
        r.context.cargoClass = "perishable" ∧ r.context.vehicleMetadataPresent = false ∨
      (r.context.cargoClass = "perishable" ∧ choosesQuote r.action = true) ∧
        r.context.carrierMetadataPresent = false ∨
      r.action = "confirm_freight_booking" ∧
        ((r.context.spendCommittedMinor < 0 ∨ r.context.spendReservedMinor < 0) ∨
          r.context.approvalThresholdMinor < 0) ∨
      r.action = "confirm_freight_booking" ∧
        r.context.preparedActionPresent = true ∧
          ¬ r.context.preparedCurrency = r.context.currency ∨
      r.action = "confirm_freight_booking" ∧
        r.context.approvalStatus = "approved" ∧ r.context.approvalExpired = true ∨
      r.action = "confirm_freight_booking" ∧
        r.context.approvalStatus = "approved" ∧ r.context.approvalActionMatches = false ∨
      r.action = "confirm_freight_booking" ∧
        r.context.approvalStatus = "approved" ∧ r.context.approvalStateMatches = false ∨
      r.action = "confirm_freight_booking" ∧
        r.context.approvalStatus = "approved" ∧ r.context.approvalPolicyMatches = false ∨
      r.action = "confirm_freight_booking" ∧ r.context.approvalStatus = "expired" ∨
      r.action = "confirm_freight_booking" ∧ r.context.approvalStatus = "rejected" ∨
      choosesQuote r.action = true ∧ r.context.quoteIssuer = r.context.principalId ∨
      r.action = "confirm_freight_booking" ∧
        r.context.preparedActionPresent = true ∧
          ((((r.context.preparedStatus = "pending_approval" ∨
            r.context.preparedStatus = "confirmed") ∨ r.context.preparedStatus = "cancelled") ∨
            r.context.preparedStatus = "rejected") ∨ r.context.preparedStatus = "expired") ∨
      r.action = "confirm_freight_booking" ∧
        r.context.preparedActionPresent = true ∧ r.context.actionHashMatches = false ∨
      r.action = "confirm_freight_booking" ∧ r.context.approverConflictsWithPreparer = true ∨
      r.action = "cancel_freight_booking" ∧
        r.context.preparedActionPresent = true ∧ r.context.actionHashMatches = false ∨
      r.action = "cancel_freight_booking" ∧ r.context.preparedStatus = "confirmed" ∨
      r.action = "write_tracking_outbox" ∧ r.context.containsForbiddenPiiField = true ∨
      r.action = "write_tracking_outbox" ∧ ¬ r.context.templateId = "TRACKING_UPDATE_V1" ∨
      r.action = "write_tracking_outbox" ∧ r.context.syntheticRecipientValid = false ∨
      r.action = "write_tracking_outbox" ∧ r.context.templateVariablesAllowed = false := by
  obtain ⟨⟨howner, hversion⟩, hclass⟩ : (r.owner = r.principal ∧
      r.context.policyVersion = r.context.mandatePolicyVersion) ∧
      r.context.allowedEffectClasses.contains r.effectClass = true := by
    simpa [registered] using hregistered
  rw [forbids_block_iff]
  simp only [bundle, forbid, permit, forbidOn, Policy.holds, guidingIds, List.mem_cons,
    List.not_mem_nil, or_false, exists_eq_or_imp, exists_eq_left, reduceCtorEq, false_and,
    true_and, String.reduceEq, not_false_eq_true, and_true, false_or, Bool.and_eq_true,
    decide_eq_true_eq, Bool.not_eq_true', Bool.or_eq_true, not_true_eq_false, and_false, not_or,
    ne_eq, howner, hversion, hclass, Bool.true_eq_false]

/-- The guiding forbids, action by action. -/
theorem forbids_guide_rules :
    Forbids r .guide ↔
      r.action = "create_dispatch_plan" ∧
        (r.context.provenanceFactPresent = true ∧ r.context.provenanceFactHashValid = true) ∧
          ¬ r.context.attemptedUnit = r.context.authoritativeUnit ∨
      r.action = "create_dispatch_plan" ∧
        (r.context.provenanceFactPresent = true ∧ r.context.provenanceFactHashValid = true) ∧
          ¬ r.context.attemptedWeight = r.context.authoritativeWeight ∨
      r.action = "create_dispatch_plan" ∧
        (r.context.cargoClass = "perishable" ∧ r.context.vehicleMetadataPresent = true) ∧
          ((r.context.vehicleAvailable = false ∨ r.context.vehicleRefrigerated = false) ∨
            r.context.vehicleCapacityKg < r.context.authoritativeWeight) ∨
      ((r.context.cargoClass = "perishable" ∧ choosesQuote r.action = true) ∧
        r.context.carrierMetadataPresent = true) ∧
          (r.context.coldChainCertified = false ∨ r.context.laneSupported = false) := by
  rw [forbids_guide_iff]
  simp only [bundle, forbid, permit, forbidOn, Policy.holds, guidingIds, List.mem_cons,
    List.not_mem_nil, or_false, exists_eq_or_imp, exists_eq_left, reduceCtorEq, true_and,
    String.reduceEq, and_true, false_or, Bool.and_eq_true, decide_eq_true_eq,
    Bool.not_eq_true', Bool.or_eq_true, and_false, ne_eq, or_self]

/-- The escalating forbid, when its sum does not overflow. -/
theorem forbids_escalate_rules :
    Forbids r .escalate ↔ r.action = "confirm_freight_booking" ∧
      approvalNeeded r.context = .ok true := by
  rw [forbids_escalate_iff]
  simp only [bundle, forbid, permit, forbidOn, Policy.holds, List.mem_cons,
    List.not_mem_nil, or_false, exists_eq_or_imp, exists_eq_left, reduceCtorEq, true_and,
    String.reduceEq, and_true, false_or, and_false, or_self]
  by_cases haction : r.action = "confirm_freight_booking"
  · simp only [haction, if_true, true_and]
    cases approvalNeeded r.context <;> simp
  · simp [haction]

/-- The policies skipped: the escalating one, when its sum overflows. -/
theorem skipped_eq_nil_iff :
    skipped bundle r = [] ↔ ¬ (r.action = "confirm_freight_booking" ∧
      r.context.preparedActionPresent = true ∧
        isLong (r.context.spendCommittedMinor + r.context.spendReservedMinor) = false) := by
  have hnil : skipped bundle r = [] ↔ ∀ policy ∈ bundle, policy.fails r = false := by
    simp [skipped]
  rw [hnil]
  simp only [bundle, forbid, permit, forbidOn, Policy.fails, List.mem_cons, List.not_mem_nil,
    or_false, forall_eq_or_imp, forall_eq, true_and, and_true]
  by_cases haction : r.action = "confirm_freight_booking"
  · simp only [haction, if_true, true_and, approvalNeeded, addLong]
    cases hpresent : r.context.preparedActionPresent
    · simp
    · cases hlong : isLong (r.context.spendCommittedMinor + r.context.spendReservedMinor) <;>
        simp [bind, Except.bind]
  · simp [haction]

end Rules

/-! ## Conditions in terms of the request and the state -/

theorem agentValue_ne_empty (agent : AgentName) : agent.value ≠ "" := by
  cases agent <;> decide

/-- The statuses the bundle refuses to confirm. -/
def unconfirmable : List CommitmentStatus :=
  [.pendingApproval, .confirmed, .cancelled, .rejected, .expired]

/-- What blocks the confirmation of a known action under the bundle. -/
def ConfirmForbidden (request : PolicyRequest) (state : TrajectoryState)
    (prepared : PreparedAction) (mandate : ShipmentMandate) : Prop :=
  state.spendCommittedMinor < 0 ∨ state.spendReservedMinor < 0 ∨
    mandate.approvalThresholdMinor < 0 ∨ prepared.currency ≠ mandate.currency ∨
    ExceptionRefused request state prepared ∨ prepared.status ∈ unconfirmable ∨
    ¬ hashGiven request prepared ∨ shownLabel request = some prepared.preparedBy.value

theorem status_unconfirmable (status : CommitmentStatus) :
    ((((status.value = "pending_approval" ∨ status.value = "confirmed") ∨
      status.value = "cancelled") ∨ status.value = "rejected") ∨ status.value = "expired") ↔
      status ∈ unconfirmable := by
  cases status <;> decide

section Request

variable [Sha256] {request : PolicyRequest} {state : TrajectoryState} {mandate : ShipmentMandate}
  {bundleHash : String} {attempted : Int}

/-- A request that is not admitted is blocked. -/
theorem not_admitted_outcome (haction : schemaActions.contains request.action = true)
    (h : ∀ mandate, ¬ Admitted request state mandate) :
    outcomeOf (evaluate bundleHash request state) = .block := by
  cases hmandate : state.mandate with
  | none => simp [evaluate, buildCedarRequest, hmandate, valueError, bind, Except.bind]
  | some mandate =>
      by_cases hserved : state.policyVersion = sidecarPolicyVersion
      · by_cases hsendable : ∃ attempted, Transportable request state mandate bundleHash attempted
        · obtain ⟨attempted, hsendable⟩ := hsendable
          cases howner : request.context.toolOwner with
          | none =>
              simp [evaluate, buildCedarRequest, hmandate, howner, valueError, bind, Except.bind]
          | some owner =>
              cases hclass : request.context.effectClass with
              | none =>
                  simp [evaluate, buildCedarRequest, hmandate, howner, hclass, valueError, bind,
                    Except.bind]
              | some effectClass =>
                  rw [evaluate_sent hmandate hserved (by simp [howner]) (by simp [hclass]) haction
                    hsendable]
                  refine mapResponse_block (hsendable.printable hmandate) ?_
                  refine forbids_unregistered fun hregistered => h mandate ?_
                  simp only [registered, requestFor, cedarRequestFor, authContext,
                    CedarAuthorizationRequest.toAuthRequest, howner, hclass, Option.getD_some,
                    Bool.and_eq_true, decide_eq_true_eq, List.contains_iff_mem,
                    (List.perm_insertionSort _ _).mem_iff, List.mem_map] at hregistered
                  obtain ⟨⟨rfl, hversion⟩, c, hmem, rfl⟩ := hregistered
                  exact ⟨hmandate, hversion, hserved, howner, c, hmem, hclass⟩
        · exact evaluate_untransportable hmandate (not_exists.mp hsendable)
      · exact evaluate_unserved hmandate hserved


/-! ### The context record in terms of the request -/

omit [Sha256] in
/-- The approval rules refuse exactly what neither binds nor is awaited. -/
theorem exceptionRefused_iff {prepared : PreparedAction} :
    ExceptionRefused request state prepared ↔
      approvalStatusText request.context.approval = "approved" ∧
        (request.context.approval.any (·.isExpired)) = true ∨
      approvalStatusText request.context.approval = "approved" ∧
        (request.context.approval.any fun a =>
          a.preparedActionId = prepared.preparedActionId && a.actionHash = prepared.actionHash) =
            false ∨
      approvalStatusText request.context.approval = "approved" ∧
        (request.context.approval.any fun a => a.stateHash = prepared.stateHash) = false ∨
      approvalStatusText request.context.approval = "approved" ∧
        (request.context.approval.any fun a => a.policyVersion = state.policyVersion) = false ∨
      approvalStatusText request.context.approval = "expired" ∨
      approvalStatusText request.context.approval = "rejected" := by
  unfold ExceptionRefused
  cases request.context.approval with
  | none => simp [approvalStatusText]
  | some approval =>
      have hbinds : Binds approval prepared state.policyVersion ↔
          approval.status = .approved ∧ approval.isExpired = false ∧
          (approval.preparedActionId = prepared.preparedActionId ∧
            approval.actionHash = prepared.actionHash) ∧
          approval.stateHash = prepared.stateHash ∧
          approval.policyVersion = state.policyVersion :=
        ⟨fun h => ⟨h.1, h.2, ⟨h.3, h.4⟩, h.5, h.6⟩,
          fun ⟨h₁, h₂, ⟨h₃, h₄⟩, h₅, h₆⟩ => ⟨h₁, h₂, h₃, h₄, h₅, h₆⟩⟩
      simp only [Option.some.injEq, exists_eq_left', hbinds, awaiting, approvalStatusText,
        Option.any_some, Bool.and_eq_false_imp, decide_eq_true_eq, decide_eq_false_iff_not]
      cases approval.status with
      | approved =>
          by_cases hexpired : approval.isExpired = true <;>
            by_cases haction : approval.preparedActionId = prepared.preparedActionId <;>
            by_cases hhash : approval.actionHash = prepared.actionHash <;>
            by_cases hstate : approval.stateHash = prepared.stateHash <;>
            by_cases hpolicy : approval.policyVersion = state.policyVersion <;>
            simp [ApprovalStatus.value, hexpired, haction, hhash, hstate, hpolicy]
      | _ => simp [ApprovalStatus.value]

omit [Sha256] in
/-- An empty label never equals a preparer. -/
theorem approverLabelText_eq_iff {prepared : PreparedAction} :
    approverLabelText request.context.approval = prepared.preparedBy.value ↔
      shownLabel request = some prepared.preparedBy.value := by
  unfold approverLabelText shownLabel
  cases request.context.approval.bind (·.approverLabel) with
  | none => simpa using (agentValue_ne_empty prepared.preparedBy).symm
  | some label => simp

theorem confirm_blocks {prepared : PreparedAction} (h : Admitted request state mandate)
    (haction : request.action = "confirm_freight_booking")
    (hprepared : preparedOf request state = some prepared) :
    Forbids (authFor request state mandate attempted bundleHash) .block ↔
      ConfirmForbidden request state prepared mandate := by
  rw [forbids_block_rules (registered_of_admitted h)]
  simp only [authFor, requestFor, cedarRequestFor, CedarAuthorizationRequest.toAuthRequest,
    authContext, haction, hprepared, String.reduceEq, false_and, true_and, false_or, or_false,
    choosesQuote, actsOnPrepared, decide_false, decide_true, Bool.or_self, Bool.true_or,
    Bool.false_eq_true, Option.isSome_some, Bool.true_eq_false, and_false, Option.map_some,
    Option.getD_some, Option.any_some, pyEq_hash_false, status_unconfirmable, Bool.true_and,
    decide_eq_true_eq, approverLabelText_eq_iff]
  unfold ConfirmForbidden
  rw [exceptionRefused_iff]
  simp only [or_assoc, ne_eq]

/-- The fields of the bundle's reading of a request. -/
theorem authFor_fields :
    (authFor request state mandate attempted bundleHash).action = request.action ∧
      (authFor request state mandate attempted bundleHash).context =
        authContext request state mandate attempted :=
  ⟨rfl, rfl⟩

/-- Acting on a prepared action that does not exist is blocked. -/
theorem unprepared_blocks (h : Admitted request state mandate)
    (hacts : actsOnPrepared request.action = true) (hprepared : preparedOf request state = none) :
    Forbids (authFor request state mandate attempted bundleHash) .block := by
  rw [forbids_block_rules (registered_of_admitted h)]
  refine .inl ⟨hacts, ?_⟩
  simp [authFor_fields.2, authContext, hprepared]

theorem cancel_blocks {prepared : PreparedAction} (h : Admitted request state mandate)
    (haction : request.action = "cancel_freight_booking")
    (hprepared : preparedOf request state = some prepared) :
    Forbids (authFor request state mandate attempted bundleHash) .block ↔
      CancelSeparated request prepared := by
  have hstatus : prepared.status.value = "confirmed" ↔ prepared.status = .confirmed := by
    cases prepared.status <;> decide
  rw [forbids_block_rules (registered_of_admitted h)]
  simp only [authFor, requestFor, cedarRequestFor, CedarAuthorizationRequest.toAuthRequest,
    authContext, haction, hprepared, String.reduceEq, false_and, true_and, false_or, or_false,
    choosesQuote, actsOnPrepared, decide_false, decide_true, Bool.or_self, Bool.or_true,
    Bool.false_eq_true, Option.isSome_some, Bool.true_eq_false, and_false, Option.map_some,
    Option.getD_some, Option.any_some, pyEq_hash_false, hstatus]
  rfl

/-- What blocks a dispatch whose fact is known. -/
theorem dispatch_blocks {fact : NumericFact} (h : Admitted request state mandate)
    (haction : request.action = "create_dispatch_plan")
    (hfact : factOf request state = some fact) :
    Forbids (authFor request state mandate attempted bundleHash) .block ↔
      PythonEngine.FactInvalid state fact ∨ MetadataMissing request mandate := by
  rw [forbids_block_rules (registered_of_admitted h)]
  simp only [authFor, requestFor, cedarRequestFor, CedarAuthorizationRequest.toAuthRequest,
    authContext, haction, hfact, String.reduceEq, false_and, true_and, false_or, or_false,
    choosesQuote, actsOnPrepared, decide_false, decide_true, Bool.or_self,
    Bool.false_eq_true, Option.isSome_some, Bool.true_eq_false, and_false, Option.any_some,
    Bool.true_and]
  rfl

theorem dispatch_unfounded_blocks (h : Admitted request state mandate)
    (haction : request.action = "create_dispatch_plan") (hfact : factOf request state = none) :
    Forbids (authFor request state mandate attempted bundleHash) .block := by
  rw [forbids_block_rules (registered_of_admitted h)]
  refine .inr (.inl ⟨haction, ?_⟩)
  simp [authFor_fields.2, authContext, hfact]

/-- Whether the bundle sees the attempted weight differ from the sourced one: it compares
the printed unit, and zero for a missing weight. -/
def PrintedWeightDiffers (request : PolicyRequest) (fact : NumericFact) (attempted : Int) :
    Prop :=
  (request.context.arguments.getD "weight_unit" (.str "")).pyStr ≠ fact.unit ∨
    attempted ≠ fact.value

omit [Sha256] in
theorem vehicleUnsafe_iff {resource : Resource} {weight : Int} :
    PythonEngine.vehicleUnsafe resource (some weight) = true ↔
      (resource.available = false ∨ resource.refrigerated = false) ∨
        resource.capacityKg 0 < weight := by
  simp only [PythonEngine.vehicleUnsafe, Bool.or_eq_true, Bool.not_eq_true', decide_eq_true_eq]
  cases resource with
  | vehicle v => exact Iff.rfl
  | _ => simp [Resource.available]

theorem dispatch_guides {fact : NumericFact}
    (haction : request.action = "create_dispatch_plan")
    (hfact : factOf request state = some fact) (hvalid : ¬ PythonEngine.FactInvalid state fact)
    (hmetadata : ¬ MetadataMissing request mandate) :
    Forbids (authFor request state mandate attempted bundleHash) .guide ↔
      PrintedWeightDiffers request fact attempted ∨ VehicleUnsafe request mandate fact := by
  have hhash : validFactHash state.orderId fact = true := by
    simpa [PythonEngine.FactInvalid] using hvalid
  rw [forbids_guide_rules]
  simp only [authFor, requestFor, cedarRequestFor, CedarAuthorizationRequest.toAuthRequest,
    authContext, haction, hfact, String.reduceEq, false_and, true_and, or_false, and_false,
    choosesQuote, decide_false, decide_true, Bool.or_self, Bool.false_eq_true,
    Option.isSome_some, Option.any_some, Option.map_some, Option.getD_some, hhash, Bool.true_and]
  unfold PrintedWeightDiffers VehicleUnsafe
  rw [vehicleUnsafe_iff]
  unfold MetadataMissing at hmetadata
  by_cases hcargo : mandate.cargoClass = "perishable"
  · have hpresent : request.context.resource.present = true := by
      simpa [hcargo] using hmetadata
    simp only [hcargo, hpresent, true_and, or_assoc, ne_eq]
  · simp [hcargo]

theorem quote_blocks (h : Admitted request state mandate)
    (hquote : choosesQuote request.action = true) :
    Forbids (authFor request state mandate attempted bundleHash) .block ↔
      MetadataMissing request mandate ∨ SelfIssued request := by
  have hissuer : request.context.resource.quoteIssuer.getD "" = request.principal.value ↔
      SelfIssued request := by
    unfold SelfIssued
    cases request.context.resource.quoteIssuer with
    | none => simpa using (agentValue_ne_empty request.principal).symm
    | some issuer => simp
  obtain ⟨hdispatch, hconfirm, houtbox, hacts⟩ := PythonEngine.choosesQuote_ne hquote
  have hcancel : request.action ≠ "cancel_freight_booking" := by
    intro heq
    rw [heq] at hacts
    revert hacts
    decide
  rw [forbids_block_rules (registered_of_admitted h)]
  simp only [authFor, requestFor, cedarRequestFor, CedarAuthorizationRequest.toAuthRequest,
    authContext, hdispatch, hconfirm, houtbox, hcancel, hacts, hquote, hissuer,
    Bool.false_eq_true, false_and, true_and, false_or, or_false, and_true, Bool.true_and]
  rfl

theorem quote_guides (hquote : choosesQuote request.action = true)
    (hmetadata : ¬ MetadataMissing request mandate) :
    Forbids (authFor request state mandate attempted bundleHash) .guide ↔
      CarrierUnsafe request mandate := by
  obtain ⟨hdispatch, -⟩ := PythonEngine.choosesQuote_ne hquote
  rw [forbids_guide_rules]
  simp only [authFor, requestFor, cedarRequestFor, CedarAuthorizationRequest.toAuthRequest,
    authContext, hdispatch, hquote, false_and, false_or, and_true, Bool.true_and]
  unfold CarrierUnsafe
  unfold MetadataMissing at hmetadata
  by_cases hcargo : mandate.cargoClass = "perishable"
  · have hpresent : request.context.resource.present = true := by
      simpa [hcargo] using hmetadata
    simp [hcargo, hpresent]
  · simp [hcargo]

omit [Sha256] in
/-- Only the allowlisted string prints as the allowlisted template. -/
theorem templateText_iff :
    (request.context.arguments.getD "template_id" (.str "")).pyStr = "TRACKING_UPDATE_V1" ↔
      request.context.arguments.get "template_id" = .str "TRACKING_UPDATE_V1" := by
  unfold Kwargs.getD Kwargs.get
  cases request.context.arguments.get? "template_id" with
  | none => simp
  | some value =>
      exact Value.pyStr_eq_iff (c := 'K') (by decide) (by decide) (by decide) (by decide)
        (by decide) value

theorem outbox_blocks (h : Admitted request state mandate)
    (haction : request.action = "write_tracking_outbox") :
    Forbids (authFor request state mandate attempted bundleHash) .block ↔
      DisclosureBlocked request := by
  rw [forbids_block_rules (registered_of_admitted h)]
  simp only [authFor, requestFor, cedarRequestFor, CedarAuthorizationRequest.toAuthRequest,
    authContext, haction, String.reduceEq, false_and, true_and, false_or, choosesQuote,
    actsOnPrepared, decide_false, Bool.or_self, Bool.false_eq_true, and_false, templateText_iff]
  rfl

/-- Nothing but admission is asked of a read. -/
theorem read_blocks (h : Admitted request state mandate)
    (hdispatch : request.action ≠ "create_dispatch_plan")
    (houtbox : request.action ≠ "write_tracking_outbox")
    (hquote : choosesQuote request.action = false)
    (hacts : actsOnPrepared request.action = false) :
    ¬ Forbids (authFor request state mandate attempted bundleHash) .block := by
  have hconfirm : request.action ≠ "confirm_freight_booking" := by
    intro heq
    rw [heq] at hacts
    revert hacts
    decide
  have hcancel : request.action ≠ "cancel_freight_booking" := by
    intro heq
    rw [heq] at hacts
    revert hacts
    decide
  rw [forbids_block_rules (registered_of_admitted h)]
  simp only [authFor_fields.1, hdispatch, hconfirm, houtbox, hcancel, hacts, hquote,
    Bool.false_eq_true, false_and, and_false, or_self, not_false_eq_true]

theorem guides_other (hdispatch : request.action ≠ "create_dispatch_plan")
    (hquote : choosesQuote request.action = false) :
    ¬ Forbids (authFor request state mandate attempted bundleHash) .guide := by
  rw [forbids_guide_rules]
  simp only [authFor_fields.1, hdispatch, hquote, Bool.false_eq_true, false_and, and_false,
    or_self, not_false_eq_true]

theorem escalates_other (hconfirm : request.action ≠ "confirm_freight_booking") :
    ¬ Forbids (authFor request state mandate attempted bundleHash) .escalate := by
  rw [forbids_escalate_rules]
  exact fun h => hconfirm h.1

/-- The bundle escalates exactly the spends that wait for an approval. -/
theorem confirm_escalates {prepared : PreparedAction}
    (haction : request.action = "confirm_freight_booking")
    (hprepared : preparedOf request state = some prepared)
    (hlong : isLong (projected state) = true) :
    Forbids (authFor request state mandate attempted bundleHash) .escalate ↔
      SpendEscalated request state mandate := by
  have hawaiting : (approvalStatusText request.context.approval = "none" ∨
      approvalStatusText request.context.approval = "pending_approval") ↔
      awaiting request.context.approval := by
    cases request.context.approval with
    | none => simp [approvalStatusText, awaiting]
    | some approval =>
        simp only [approvalStatusText, awaiting]
        cases approval.status <;> decide
  rw [forbids_escalate_rules, authFor_fields.1, authFor_fields.2]
  unfold projected at hlong
  simp only [haction, true_and, approvalNeeded, authContext, hprepared, Option.isSome_some,
    if_true, addLong, hlong, bind, Except.bind]
  unfold SpendEscalated projected
  rw [← hawaiting]
  simp

/-- Nothing is skipped unless the spend overflows. -/
theorem skipped_authFor :
    skipped bundle (authFor request state mandate attempted bundleHash) = [] ↔
      ¬ (request.action = "confirm_freight_booking" ∧
        (preparedOf request state).isSome = true ∧ isLong (projected state) = false) :=
  skipped_eq_nil_iff

end Request

end Manifest.Cedar
