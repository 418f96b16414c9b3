import Manifest.Demo
import Manifest.Parity.Forbids

/-!
# Where the two engines agree

The reference engine and the Cedar bundle block for shared reasons and for reasons of
their own.  They agree on a request exactly when it is blocked for a shared reason, when
each blocks it for a reason of its own, or when neither does and they see the same
weight.

Main results:

- Theorem `reference_outcome` and `bundle_outcome`: both outcomes in one form.
- Theorem `engines_agree_iff`: the exact condition for agreement.
- Theorem `engines_disagree_cancelled`: a cancelled booking that one engine confirms.
-/

set_option autoImplicit false

namespace Manifest

open Cedar (factOf preparedOf Transportable PrintedWeightDiffers isLong authFor Forbids)

/-- The outcome the governor decides in enforce mode, before the retry limit. -/
def decidedOutcome (engine : PolicyEngine) (request : PolicyRequest)
    (state : TrajectoryState) : DecisionOutcome :=
  strongest (failClosed (engine.evaluate request state))

/-! ## Shared and separate reasons to block -/

section Reasons

variable [Sha256] (request : PolicyRequest) (state : TrajectoryState)
  (mandate : ShipmentMandate) (bundleHash : String)

/-- What both engines block of a confirmation. -/
def SharedConfirm (prepared : PreparedAction) : Prop :=
  state.spendCommittedMinor < 0 ∨ state.spendReservedMinor < 0 ∨
    prepared.currency ≠ mandate.currency ∨
    (mandate.approvalThresholdMinor < projected state ∧
      ExceptionRefused request state prepared) ∨
    prepared.status = .pendingApproval ∨ prepared.status = .confirmed ∨
    ¬ hashGiven request prepared ∨
    (prepared.status = .approved ∧ shownLabel request = some prepared.preparedBy.value)

/-- What only the reference engine blocks of a confirmation. -/
def ReferenceConfirm (prepared : PreparedAction) : Prop :=
  prepared.amountMinor < 0 ∨ state.approvedBy = some prepared.preparedBy.value ∨
    ¬ printable (projected state) ∨
    (SpendEscalated request state mandate ∧ ¬ printable mandate.approvalThresholdMinor)

/-- What only the bundle blocks of a confirmation: an overflowing spend, a negative
threshold, an approval that does not bind although none is needed, a final status other
than confirmed, and the preparer's own label. -/
def BundleConfirm (prepared : PreparedAction) : Prop :=
  isLong (projected state) = false ∨ mandate.approvalThresholdMinor < 0 ∨
    ExceptionRefused request state prepared ∨
    prepared.status ∈ [CommitmentStatus.cancelled, .rejected, .expired] ∨
    shownLabel request = some prepared.preparedBy.value

/-- The reasons shared by both engines, by action. -/
def SharedBlock : Prop :=
  if request.action = "create_dispatch_plan" then
    ∀ fact, factOf request state = some fact →
      PythonEngine.FactInvalid state fact ∨ MetadataMissing request mandate
  else if choosesQuote request.action then
    MetadataMissing request mandate ∨ SelfIssued request
  else if request.action = "confirm_freight_booking" then
    ∀ prepared, preparedOf request state = some prepared →
      SharedConfirm request state mandate prepared
  else if request.action = "cancel_freight_booking" then
    ∀ prepared, preparedOf request state = some prepared → CancelSeparated request prepared
  else if request.action = "write_tracking_outbox" then DisclosureBlocked request
  else False

/-- The reasons of the reference engine alone, by action: a reference that is not a
nonempty string, a fact of another name, and missing template variables. -/
def ReferenceBlock : Prop :=
  if request.action = "create_dispatch_plan" then
    namedFact request state = none ∨
      ∃ fact, factOf request state = some fact ∧ fact.name ≠ "shipment_weight"
  else if request.action = "confirm_freight_booking" then
    namedAction request state = none ∨
      ∃ prepared, preparedOf request state = some prepared ∧
        ReferenceConfirm request state mandate prepared
  else if request.action = "cancel_freight_booking" then namedAction request state = none
  else if request.action = "write_tracking_outbox" then VariablesMissing request
  else False

/-- The reasons of the bundle alone: a request that cannot be sent, a missing reference,
and the bundle's own confirmation rules. -/
def BundleBlock : Prop :=
  (∀ attempted, ¬ Transportable request state mandate bundleHash attempted) ∨
  if request.action = "create_dispatch_plan" then factOf request state = none
  else if request.action = "confirm_freight_booking" then
    preparedOf request state = none ∨
      ∃ prepared, preparedOf request state = some prepared ∧
        BundleConfirm request state mandate prepared
  else if request.action = "cancel_freight_booking" then preparedOf request state = none
  else False

/-- Both engines see a dispatch's weight and vehicle the same way. -/
def WeightsAgree : Prop :=
  request.action = "create_dispatch_plan" →
    ∀ fact attempted, factOf request state = some fact →
      request.context.arguments.getD "weight_value" (.int 0) = .int attempted →
      (WeightDiffers request fact ∨ VehicleUnsafe request mandate fact ↔
        PrintedWeightDiffers request fact attempted ∨ VehicleUnsafe request mandate fact)

/-- The exact condition under which the engines agree on an admitted request. -/
def EnginesAgree : Prop :=
  SharedBlock request state mandate ∨
    (ReferenceBlock request state mandate ∧ BundleBlock request state mandate bundleHash) ∨
    (¬ ReferenceBlock request state mandate ∧ ¬ BundleBlock request state mandate bundleHash ∧
      WeightsAgree request state mandate)

end Reasons

/-! ## Softer outcomes -/

section Soft

variable (request : PolicyRequest) (state : TrajectoryState) (mandate : ShipmentMandate)

open Classical in
/-- The outcome of the reference engine when nothing blocks. -/
noncomputable def referenceSoft : DecisionOutcome :=
  if request.action = "create_dispatch_plan" then
    if ∃ fact, factOf request state = some fact ∧
      (WeightDiffers request fact ∨ VehicleUnsafe request mandate fact) then .guide else .allow
  else if choosesQuote request.action then
    if CarrierUnsafe request mandate then .guide else .allow
  else if request.action = "confirm_freight_booking" then
    if SpendEscalated request state mandate then .escalate else .allow
  else .allow

open Classical in
/-- The outcome of the bundle when nothing blocks. -/
noncomputable def bundleSoft : DecisionOutcome :=
  if request.action = "create_dispatch_plan" then
    if ∃ fact attempted, factOf request state = some fact ∧
      request.context.arguments.getD "weight_value" (.int 0) = .int attempted ∧
      (PrintedWeightDiffers request fact attempted ∨ VehicleUnsafe request mandate fact)
    then .guide else .allow
  else if choosesQuote request.action then
    if CarrierUnsafe request mandate then .guide else .allow
  else if request.action = "confirm_freight_booking" then
    if SpendEscalated request state mandate then .escalate else .allow
  else .allow

variable {request state mandate}

theorem referenceSoft_ne_block : referenceSoft request state mandate ≠ .block := by
  unfold referenceSoft
  split_ifs <;> decide

theorem bundleSoft_ne_block : bundleSoft request state mandate ≠ .block := by
  unfold bundleSoft
  split_ifs <;> decide

end Soft

open Classical in
/-- Two outcomes that block for a shared reason or for one of their own. -/
theorem blocked_agree_iff {shared first second : Prop} {soft soft' : DecisionOutcome}
    (hsoft : soft ≠ .block) (hsoft' : soft' ≠ .block) :
    ((if shared ∨ first then DecisionOutcome.block else soft) =
      (if shared ∨ second then .block else soft')) ↔
      shared ∨ (first ∧ second) ∨ (¬ first ∧ ¬ second ∧ soft = soft') := by
  by_cases hs : shared
  · simp [hs]
  · by_cases h₁ : first <;> by_cases h₂ : second <;>
      simp [hs, h₁, h₂, hsoft, hsoft'.symm]

/-! ## References found exactly and by their text -/

theorem preparedOf_of_named {request : PolicyRequest} {state : TrajectoryState}
    {prepared : PreparedAction} (h : namedAction request state = some prepared) :
    preparedOf request state = some prepared := by
  obtain ⟨key, hkey, -, hget⟩ := exactLookup_eq_some h
  simp only [preparedOf, hkey, Cedar.lookupText, Value.pyStr_str, hget]

theorem factOf_of_named {request : PolicyRequest} {state : TrajectoryState}
    {fact : NumericFact} (h : namedFact request state = some fact) :
    factOf request state = some fact := by
  obtain ⟨key, hkey, -, hget⟩ := exactLookup_eq_some h
  simp only [factOf, hkey, Cedar.lookupText, Value.pyStr_str, hget]

/-- The registered actions that neither engine has a rule of its own for. -/
theorem registered_cases {action : String} (h : (getDefinition action).isSome = true) :
    action = "create_dispatch_plan" ∨ choosesQuote action = true ∨
      action = "confirm_freight_booking" ∨ action = "cancel_freight_booking" ∨
      action = "write_tracking_outbox" ∨
      (action ≠ "create_dispatch_plan" ∧ choosesQuote action = false ∧
        actsOnPrepared action = false ∧ action ≠ "write_tracking_outbox") := by
  obtain ⟨definition, hdefinition⟩ := Option.isSome_iff_exists.mp h
  have hname := getDefinition_name hdefinition
  have hall : ∀ d ∈ toolDefinitions, d.name = "create_dispatch_plan" ∨
      choosesQuote d.name = true ∨ d.name = "confirm_freight_booking" ∨
      d.name = "cancel_freight_booking" ∨ d.name = "write_tracking_outbox" ∨
      (d.name ≠ "create_dispatch_plan" ∧ choosesQuote d.name = false ∧
        actsOnPrepared d.name = false ∧ d.name ≠ "write_tracking_outbox") := by
    decide
  exact hname ▸ hall definition (getDefinition_mem hdefinition)

/-- The schema declares every registered tool. -/
theorem schemaActions_of_registered {action : String}
    (h : (getDefinition action).isSome = true) :
    Cedar.schemaActions.contains action = true := by
  obtain ⟨definition, hdefinition⟩ := Option.isSome_iff_exists.mp h
  have hall : ∀ d ∈ toolDefinitions, Cedar.schemaActions.contains d.name = true := by decide
  exact getDefinition_name hdefinition ▸ hall definition (getDefinition_mem hdefinition)

section Outcomes

variable [Sha256] {request : PolicyRequest} {state : TrajectoryState}
  {mandate : ShipmentMandate} {bundleHash : String} {attempted : Int}

open Classical in
/-- The outcome of the reference engine on an admitted request. -/
theorem reference_outcome (hregistered : (getDefinition request.action).isSome = true)
    (h : Admitted request state mandate) :
    outcomeOf (PythonEngine.evaluate request state) =
      if SharedBlock request state mandate ∨ ReferenceBlock request state mandate then .block
      else referenceSoft request state mandate := by
  rcases registered_cases hregistered with haction | hquote | haction | haction | haction |
    ⟨hdispatch, hquote, hacts, houtbox⟩
  · cases hnamed : namedFact request state with
    | none =>
        have hblocked : ReferenceBlock request state mandate := by
          simp [ReferenceBlock, haction, hnamed]
        rw [PythonEngine.dispatch_unnamed_outcome haction hnamed, if_pos (.inr hblocked)]
    | some fact =>
        rw [PythonEngine.dispatch_outcome h haction hnamed]
        simp only [SharedBlock, ReferenceBlock, referenceSoft, haction, if_true, hnamed,
          factOf_of_named hnamed, Option.some.injEq, forall_eq', exists_eq_left', reduceCtorEq,
          false_or]
        by_cases hname : fact.name = "shipment_weight" <;>
          by_cases hinvalid : PythonEngine.FactInvalid state fact <;>
          by_cases hmissing : MetadataMissing request mandate <;>
          simp [hname, hinvalid, hmissing]
  · obtain ⟨hdispatch, hconfirm, houtbox, hacts⟩ := PythonEngine.choosesQuote_ne hquote
    have hcancel : request.action ≠ "cancel_freight_booking" := by
      intro heq
      rw [heq] at hacts
      revert hacts
      decide
    rw [PythonEngine.quote_outcome h hquote]
    simp only [SharedBlock, ReferenceBlock, referenceSoft, hdispatch, hquote, hconfirm, hcancel,
      houtbox, if_false, if_true, or_false]
  · have hquote : choosesQuote "confirm_freight_booking" = false := by decide
    have hacts : actsOnPrepared request.action = true := by simp [actsOnPrepared, haction]
    cases hnamed : namedAction request state with
    | none =>
        have hblocked : ReferenceBlock request state mandate := by
          simp [ReferenceBlock, haction, hnamed]
        rw [PythonEngine.unnamed_outcome h hacts hnamed, if_pos (.inr hblocked)]
    | some prepared =>
        have hiff : (SpendBlocked request state prepared mandate ∨
            ConfirmSeparated request state prepared) ↔
            SharedBlock request state mandate ∨ ReferenceBlock request state mandate := by
          simp only [SharedBlock, ReferenceBlock, haction, hquote, String.reduceEq, if_true,
            if_false, Bool.false_eq_true, hnamed, preparedOf_of_named hnamed, Option.some.injEq,
            forall_eq', exists_eq_left', reduceCtorEq, false_or]
          unfold SpendBlocked ConfirmSeparated SharedConfirm ReferenceConfirm SpendEscalated
          tauto
        rw [PythonEngine.confirm_outcome h haction hnamed]
        simp only [hiff, referenceSoft, haction, hquote, String.reduceEq, if_true, if_false,
          Bool.false_eq_true]
  · have hquote : choosesQuote "cancel_freight_booking" = false := by decide
    have hacts : actsOnPrepared request.action = true := by simp [actsOnPrepared, haction]
    cases hnamed : namedAction request state with
    | none =>
        have hblocked : ReferenceBlock request state mandate := by
          simp [ReferenceBlock, haction, hnamed]
        rw [PythonEngine.unnamed_outcome h hacts hnamed, if_pos (.inr hblocked)]
    | some prepared =>
        rw [PythonEngine.cancel_outcome h haction hnamed]
        simp only [SharedBlock, ReferenceBlock, referenceSoft, haction, hquote, String.reduceEq,
          if_true, if_false, Bool.false_eq_true, hnamed, preparedOf_of_named hnamed,
          Option.some.injEq, forall_eq', reduceCtorEq, or_false]
  · have hquote : choosesQuote "write_tracking_outbox" = false := by decide
    rw [PythonEngine.outbox_outcome h haction]
    simp only [SharedBlock, ReferenceBlock, referenceSoft, haction, hquote, String.reduceEq,
      if_true, if_false, Bool.false_eq_true]
  · have hconfirm : request.action ≠ "confirm_freight_booking" := by
      intro heq
      rw [heq] at hacts
      revert hacts
      decide
    have hcancel : request.action ≠ "cancel_freight_booking" := by
      intro heq
      rw [heq] at hacts
      revert hacts
      decide
    rw [PythonEngine.read_outcome h hdispatch houtbox hquote hacts]
    simp only [SharedBlock, ReferenceBlock, referenceSoft, hdispatch, hquote, hconfirm, hcancel,
      houtbox, if_false, Bool.false_eq_true, or_self]

/-- Sendable requests are not unsendable. -/
theorem not_unsendable (hsend : Transportable request state mandate bundleHash attempted) :
    ¬ ∀ n, ¬ Transportable request state mandate bundleHash n :=
  fun hall => hall attempted hsend

open Classical in
/-- The response to an admitted request, when no policy is skipped. -/
theorem response_outcome (h : Admitted request state mandate)
    (hsend : Transportable request state mandate bundleHash attempted)
    (hskipped : Authorization.skipped Cedar.bundle
      (authFor request state mandate attempted bundleHash) = []) :
    outcomeOf (Cedar.mapResponse request state (Cedar.responseFor bundleHash request.requestId
        (authFor request state mandate attempted bundleHash))) =
      if Forbids (authFor request state mandate attempted bundleHash) .block then .block
      else if Forbids (authFor request state mandate attempted bundleHash) .escalate then
        .escalate
      else if Forbids (authFor request state mandate attempted bundleHash) .guide then .guide
      else .allow :=
  Cedar.mapResponse_outcome (hsend.printable h.mandate_eq) (by simp [h.mandate_eq])
    (Cedar.registered_of_admitted h) hskipped

omit [Sha256] in
/-- The bundle's confirmation rules are the shared ones and its own. -/
theorem confirmForbidden_iff {prepared : PreparedAction}
    (hlong : isLong (projected state) = true) :
    Cedar.ConfirmForbidden request state prepared mandate ↔
      SharedConfirm request state mandate prepared ∨
        BundleConfirm request state mandate prepared := by
  unfold Cedar.ConfirmForbidden SharedConfirm BundleConfirm Cedar.unconfirmable
  simp only [hlong, Bool.true_eq_false, false_or, List.mem_cons, List.not_mem_nil, or_false]
  constructor
  · rintro (h | h | h | h | h | (h | h | h) | h | h)
    · exact .inl (.inl h)
    · exact .inl (.inr (.inl h))
    · exact .inr (.inl h)
    · exact .inl (.inr (.inr (.inl h)))
    · exact .inr (.inr (.inl h))
    · exact .inl (.inr (.inr (.inr (.inr (.inl h)))))
    · exact .inl (.inr (.inr (.inr (.inr (.inr (.inl h))))))
    · exact .inr (.inr (.inr (.inl h)))
    · exact .inl (.inr (.inr (.inr (.inr (.inr (.inr (.inl h)))))))
    · exact .inr (.inr (.inr (.inr h)))
  · rintro ((h | h | h | ⟨-, h⟩ | h | h | h | ⟨-, h⟩) | h | h | h | h)
    · exact .inl h
    · exact .inr (.inl h)
    · exact .inr (.inr (.inr (.inl h)))
    · exact .inr (.inr (.inr (.inr (.inl h))))
    · exact .inr (.inr (.inr (.inr (.inr (.inl (.inl h))))))
    · exact .inr (.inr (.inr (.inr (.inr (.inl (.inr (.inl h)))))))
    · exact .inr (.inr (.inr (.inr (.inr (.inr (.inl h))))))
    · exact .inr (.inr (.inr (.inr (.inr (.inr (.inr h))))))
    · exact .inr (.inr (.inl h))
    · exact .inr (.inr (.inr (.inr (.inl h))))
    · exact .inr (.inr (.inr (.inr (.inr (.inl (.inr (.inr h)))))))
    · exact .inr (.inr (.inr (.inr (.inr (.inr (.inr h))))))

open Classical in
/-- A dispatch is blocked for its fact or metadata, and guided on weight and vehicle. -/
theorem bundle_dispatch (h : Admitted request state mandate)
    (hsend : Transportable request state mandate bundleHash attempted)
    (haction : request.action = "create_dispatch_plan") :
    outcomeOf (Cedar.mapResponse request state (Cedar.responseFor bundleHash request.requestId
        (authFor request state mandate attempted bundleHash))) =
      if SharedBlock request state mandate ∨ BundleBlock request state mandate bundleHash
      then .block else bundleSoft request state mandate := by
  have hsent := not_unsendable hsend
  have hprintable := hsend.printable h.mandate_eq
  have hconfirm : request.action ≠ "confirm_freight_booking" := by simp [haction]
  have hquote : choosesQuote "create_dispatch_plan" = false := by decide
  cases hfact : factOf request state with
  | none =>
      have hblocked : BundleBlock request state mandate bundleHash := by
        simp [BundleBlock, haction, hfact]
      rw [Cedar.mapResponse_block hprintable
        (Cedar.dispatch_unfounded_blocks h haction hfact), if_pos (.inr hblocked)]
  | some fact =>
      have hblock : Forbids (authFor request state mandate attempted bundleHash) .block ↔
          PythonEngine.FactInvalid state fact ∨ MetadataMissing request mandate :=
        Cedar.dispatch_blocks h haction hfact
      rw [response_outcome h hsend (Cedar.skipped_authFor.mpr fun hskip => hconfirm hskip.1), hblock,
        if_neg (Cedar.escalates_other hconfirm)]
      simp only [SharedBlock, BundleBlock, bundleSoft, haction, hsent, if_true, hfact,
        Option.some.injEq, forall_eq', reduceCtorEq, or_self, or_false]
      by_cases hinvalid : PythonEngine.FactInvalid state fact ∨ MetadataMissing request mandate
      · rw [if_pos hinvalid, if_pos hinvalid]
      · obtain ⟨hvalid, hmetadata⟩ := not_or.mp hinvalid
        rw [if_neg hinvalid, if_neg hinvalid,
          Cedar.dispatch_guides haction hfact hvalid hmetadata]
        simp only [exists_and_left, exists_eq_left', hsend.weight_eq, Value.int.injEq]
        congr

open Classical in
/-- A choice of quote is blocked for its metadata or issuer, and guided on the carrier. -/
theorem bundle_quote (h : Admitted request state mandate)
    (hsend : Transportable request state mandate bundleHash attempted)
    (hquote : choosesQuote request.action = true) :
    outcomeOf (Cedar.mapResponse request state (Cedar.responseFor bundleHash request.requestId
        (authFor request state mandate attempted bundleHash))) =
      if SharedBlock request state mandate ∨ BundleBlock request state mandate bundleHash
      then .block else bundleSoft request state mandate := by
  have hsent := not_unsendable hsend
  have hprintable := hsend.printable h.mandate_eq
  obtain ⟨hdispatch, hconfirm, houtbox, hacts⟩ := PythonEngine.choosesQuote_ne hquote
  have hcancel : request.action ≠ "cancel_freight_booking" := by
    intro heq
    rw [heq] at hacts
    revert hacts
    decide
  rw [response_outcome h hsend (Cedar.skipped_authFor.mpr fun hskip => hconfirm hskip.1),
    Cedar.quote_blocks h hquote, if_neg (Cedar.escalates_other hconfirm)]
  simp only [SharedBlock, BundleBlock, bundleSoft, hdispatch, hquote, hconfirm, hcancel, hsent,
    if_false, if_true, or_false]
  by_cases hblocked : MetadataMissing request mandate ∨ SelfIssued request
  · rw [if_pos hblocked, if_pos hblocked]
  · rw [if_neg hblocked, if_neg hblocked,
      Cedar.quote_guides hquote (not_or.mp hblocked).1]

open Classical in
/-- A confirmation is blocked by the spend and separation rules, or escalated. -/
theorem bundle_confirm (h : Admitted request state mandate)
    (hsend : Transportable request state mandate bundleHash attempted)
    (haction : request.action = "confirm_freight_booking") :
    outcomeOf (Cedar.mapResponse request state (Cedar.responseFor bundleHash request.requestId
        (authFor request state mandate attempted bundleHash))) =
      if SharedBlock request state mandate ∨ BundleBlock request state mandate bundleHash
      then .block else bundleSoft request state mandate := by
  have hsent := not_unsendable hsend
  have hprintable := hsend.printable h.mandate_eq
  have hquote : choosesQuote "confirm_freight_booking" = false := by decide
  have hacts : actsOnPrepared request.action = true := by simp [actsOnPrepared, haction]
  cases hprepared : preparedOf request state with
  | none =>
      have hblocked : BundleBlock request state mandate bundleHash := by
        simp [BundleBlock, haction, hprepared]
      rw [Cedar.mapResponse_block hprintable (Cedar.unprepared_blocks h hacts hprepared),
        if_pos (.inr hblocked)]
  | some prepared =>
      cases hlong : isLong (projected state) with
      | false =>
          have hblocked : BundleBlock request state mandate bundleHash := by
            simp [BundleBlock, haction, hprepared, BundleConfirm, hlong]
          have hskipped : Authorization.skipped Cedar.bundle
              (authFor request state mandate attempted bundleHash) ≠ [] := by
            rw [ne_eq, Cedar.skipped_authFor, not_not]
            exact ⟨haction, by simp [hprepared], hlong⟩
          rw [Cedar.mapResponse_errors hskipped, if_pos (.inr hblocked)]
      | true =>
          have hguide : ¬ Forbids (authFor request state mandate attempted bundleHash) .guide :=
            Cedar.guides_other (by simp [haction]) (by simp [haction, hquote])
          have hiff : Cedar.ConfirmForbidden request state prepared mandate ↔
              SharedBlock request state mandate ∨
                BundleBlock request state mandate bundleHash := by
            simp only [SharedBlock, BundleBlock, haction, hquote, hsent, String.reduceEq,
              if_true, if_false, Bool.false_eq_true, hprepared, Option.some.injEq, forall_eq',
              exists_eq_left', reduceCtorEq, false_or]
            exact confirmForbidden_iff hlong
          rw [response_outcome h hsend (Cedar.skipped_authFor.mpr fun hskip => by simp [hlong] at hskip),
            Cedar.confirm_blocks h haction hprepared,
            Cedar.confirm_escalates haction hprepared hlong, if_neg hguide]
          simp only [hiff, bundleSoft, haction, hquote, String.reduceEq, if_true, if_false,
            Bool.false_eq_true]

open Classical in
/-- A cancellation is blocked by the separation rules. -/
theorem bundle_cancel (h : Admitted request state mandate)
    (hsend : Transportable request state mandate bundleHash attempted)
    (haction : request.action = "cancel_freight_booking") :
    outcomeOf (Cedar.mapResponse request state (Cedar.responseFor bundleHash request.requestId
        (authFor request state mandate attempted bundleHash))) =
      if SharedBlock request state mandate ∨ BundleBlock request state mandate bundleHash
      then .block else bundleSoft request state mandate := by
  have hsent := not_unsendable hsend
  have hprintable := hsend.printable h.mandate_eq
  have hconfirm : request.action ≠ "confirm_freight_booking" := by simp [haction]
  have hquote : choosesQuote "cancel_freight_booking" = false := by decide
  have hacts : actsOnPrepared request.action = true := by simp [actsOnPrepared, haction]
  have hguide : ¬ Forbids (authFor request state mandate attempted bundleHash) .guide :=
    Cedar.guides_other (by simp [haction]) (by simp [haction, hquote])
  cases hprepared : preparedOf request state with
  | none =>
      have hblocked : BundleBlock request state mandate bundleHash := by
        simp [BundleBlock, haction, hprepared]
      rw [Cedar.mapResponse_block hprintable (Cedar.unprepared_blocks h hacts hprepared),
        if_pos (.inr hblocked)]
  | some prepared =>
      rw [response_outcome h hsend (Cedar.skipped_authFor.mpr fun hskip => hconfirm hskip.1),
        Cedar.cancel_blocks h haction hprepared, if_neg (Cedar.escalates_other hconfirm),
        if_neg hguide]
      simp only [SharedBlock, BundleBlock, bundleSoft, haction, hquote, hsent, String.reduceEq,
        if_true, if_false, Bool.false_eq_true, hprepared, Option.some.injEq, forall_eq',
        reduceCtorEq, or_self, or_false]

open Classical in
/-- A disclosure is blocked by the disclosure rules. -/
theorem bundle_outbox (h : Admitted request state mandate)
    (hsend : Transportable request state mandate bundleHash attempted)
    (haction : request.action = "write_tracking_outbox") :
    outcomeOf (Cedar.mapResponse request state (Cedar.responseFor bundleHash request.requestId
        (authFor request state mandate attempted bundleHash))) =
      if SharedBlock request state mandate ∨ BundleBlock request state mandate bundleHash
      then .block else bundleSoft request state mandate := by
  have hsent := not_unsendable hsend
  have hprintable := hsend.printable h.mandate_eq
  have hconfirm : request.action ≠ "confirm_freight_booking" := by simp [haction]
  have hquote : choosesQuote "write_tracking_outbox" = false := by decide
  have hguide : ¬ Forbids (authFor request state mandate attempted bundleHash) .guide :=
    Cedar.guides_other (by simp [haction]) (by simp [haction, hquote])
  rw [response_outcome h hsend (Cedar.skipped_authFor.mpr fun hskip => hconfirm hskip.1),
    Cedar.outbox_blocks h haction, if_neg (Cedar.escalates_other hconfirm), if_neg hguide]
  simp only [SharedBlock, BundleBlock, bundleSoft, haction, hquote, hsent, String.reduceEq,
    if_true, if_false, Bool.false_eq_true, or_self, or_false]

open Classical in
/-- A read is allowed. -/
theorem bundle_read (h : Admitted request state mandate)
    (hsend : Transportable request state mandate bundleHash attempted)
    (hdispatch : request.action ≠ "create_dispatch_plan")
    (hquote : choosesQuote request.action = false)
    (hacts : actsOnPrepared request.action = false)
    (houtbox : request.action ≠ "write_tracking_outbox") :
    outcomeOf (Cedar.mapResponse request state (Cedar.responseFor bundleHash request.requestId
        (authFor request state mandate attempted bundleHash))) =
      if SharedBlock request state mandate ∨ BundleBlock request state mandate bundleHash
      then .block else bundleSoft request state mandate := by
  have hsent := not_unsendable hsend
  have hprintable := hsend.printable h.mandate_eq
  have hconfirm : request.action ≠ "confirm_freight_booking" := by
    intro heq
    rw [heq] at hacts
    revert hacts
    decide
  have hcancel : request.action ≠ "cancel_freight_booking" := by
    intro heq
    rw [heq] at hacts
    revert hacts
    decide
  rw [response_outcome h hsend (Cedar.skipped_authFor.mpr fun hskip => hconfirm hskip.1),
    if_neg (Cedar.read_blocks h hdispatch houtbox hquote hacts),
    if_neg (Cedar.escalates_other hconfirm), if_neg (Cedar.guides_other hdispatch hquote)]
  simp only [SharedBlock, BundleBlock, bundleSoft, hdispatch, hquote, hconfirm, hcancel,
    houtbox, hsent, if_false, Bool.false_eq_true, or_self]

open Classical in
/-- The outcome of the bundle on an admitted request. -/
theorem bundle_outcome (hregistered : (getDefinition request.action).isSome = true)
    (h : Admitted request state mandate) :
    outcomeOf (Cedar.evaluate bundleHash request state) =
      if SharedBlock request state mandate ∨ BundleBlock request state mandate bundleHash
      then .block else bundleSoft request state mandate := by
  by_cases hsendable : ∃ attempted, Transportable request state mandate bundleHash attempted
  · obtain ⟨attempted, hsend⟩ := hsendable
    obtain ⟨c, -, hclass⟩ := h.class_mem
    rw [Cedar.evaluate_sent h.mandate_eq h.served_eq (by simp [h.owner_eq]) (by simp [hclass])
      (schemaActions_of_registered hregistered) hsend]
    rcases registered_cases hregistered with haction | hquote | haction | haction | haction |
      ⟨hdispatch, hquote, hacts, houtbox⟩
    · exact bundle_dispatch h hsend haction
    · exact bundle_quote h hsend hquote
    · exact bundle_confirm h hsend haction
    · exact bundle_cancel h hsend haction
    · exact bundle_outbox h hsend haction
    · exact bundle_read h hsend hdispatch hquote hacts houtbox
  · have hblocked : BundleBlock request state mandate bundleHash :=
      .inl (not_exists.mp hsendable)
    rw [Cedar.evaluate_untransportable h.mandate_eq (not_exists.mp hsendable),
      if_pos (.inr hblocked)]

omit [Sha256] in
/-- Without blocks only the reading of a dispatch's weight can differ. -/
theorem soft_agree_iff (hfact : request.action = "create_dispatch_plan" →
      factOf request state ≠ none)
    (hweight : request.context.arguments.getD "weight_value" (.int 0) = .int attempted) :
    referenceSoft request state mandate = bundleSoft request state mandate ↔
      WeightsAgree request state mandate := by
  by_cases haction : request.action = "create_dispatch_plan"
  · obtain ⟨fact, hfact⟩ := Option.ne_none_iff_exists'.mp (hfact haction)
    have hreference : (∃ other, factOf request state = some other ∧
        (WeightDiffers request other ∨ VehicleUnsafe request mandate other)) ↔
        WeightDiffers request fact ∨ VehicleUnsafe request mandate fact := by
      simp [hfact]
    have hbundle : (∃ other n, factOf request state = some other ∧
        request.context.arguments.getD "weight_value" (.int 0) = .int n ∧
        (PrintedWeightDiffers request other n ∨ VehicleUnsafe request mandate other)) ↔
        PrintedWeightDiffers request fact attempted ∨ VehicleUnsafe request mandate fact := by
      simp [hfact, hweight]
    have hagree : WeightsAgree request state mandate ↔
        (WeightDiffers request fact ∨ VehicleUnsafe request mandate fact ↔
          PrintedWeightDiffers request fact attempted ∨
            VehicleUnsafe request mandate fact) := by
      simp [WeightsAgree, haction, hfact, hweight]
    rw [referenceSoft, bundleSoft, if_pos haction, if_pos haction, hagree]
    by_cases hfirst : WeightDiffers request fact ∨ VehicleUnsafe request mandate fact
    · rw [if_pos (hreference.mpr hfirst)]
      by_cases hsecond : PrintedWeightDiffers request fact attempted ∨
          VehicleUnsafe request mandate fact
      · rw [if_pos (hbundle.mpr hsecond)]
        exact iff_of_true rfl (iff_of_true hfirst hsecond)
      · rw [if_neg (fun h => hsecond (hbundle.mp h))]
        exact iff_of_false (by decide) fun h => hsecond (h.mp hfirst)
    · rw [if_neg (fun h => hfirst (hreference.mp h))]
      by_cases hsecond : PrintedWeightDiffers request fact attempted ∨
          VehicleUnsafe request mandate fact
      · rw [if_pos (hbundle.mpr hsecond)]
        exact iff_of_false (by decide) fun h => hfirst (h.mpr hsecond)
      · rw [if_neg (fun h => hsecond (hbundle.mp h))]
        exact iff_of_true rfl (iff_of_false hfirst hsecond)
  · simp [referenceSoft, bundleSoft, WeightsAgree, haction]

theorem reference_decided (request : PolicyRequest) (state : TrajectoryState) :
    decidedOutcome pythonReferencePolicyEngine request state =
      outcomeOf (PythonEngine.evaluate request state) :=
  strongest_failClosed (PythonEngine.evaluate_catalogued request state)

theorem bundle_decided (bundleHash : String) (request : PolicyRequest)
    (state : TrajectoryState) :
    decidedOutcome (cedarPolicyEngine bundleHash) request state =
      outcomeOf (Cedar.evaluate bundleHash request state) :=
  strongest_failClosed (Cedar.evaluate_catalogued bundleHash request state)

/-- For every registered tool, every state and every request, the engines decide the same
exactly when an admitted request is blocked for a shared reason, or by each for a reason of
its own, or by neither while both see the same weight. -/
theorem engines_agree_iff (request : PolicyRequest) (state : TrajectoryState)
    (bundleHash : String) (hregistered : (getDefinition request.action).isSome = true) :
    decidedOutcome pythonReferencePolicyEngine request state =
        decidedOutcome (cedarPolicyEngine bundleHash) request state ↔
      ∀ mandate, Admitted request state mandate →
        EnginesAgree request state mandate bundleHash := by
  rw [reference_decided, bundle_decided]
  by_cases hadmitted : ∃ mandate, Admitted request state mandate
  · obtain ⟨mandate, h⟩ := hadmitted
    have honly : (∀ other, Admitted request state other →
        EnginesAgree request state other bundleHash) ↔
        EnginesAgree request state mandate bundleHash := by
      constructor
      · exact fun hall => hall mandate h
      · intro hone other hother
        obtain rfl : mandate = other :=
          Option.some.inj (h.mandate_eq.symm.trans hother.mandate_eq)
        exact hone
    rw [honly, reference_outcome hregistered h, bundle_outcome hregistered h,
      blocked_agree_iff referenceSoft_ne_block bundleSoft_ne_block]
    refine or_congr Iff.rfl (or_congr Iff.rfl (and_congr_right fun _ => and_congr_right
      fun hbundle => ?_))
    obtain ⟨attempted, hsend⟩ : ∃ attempted,
        Transportable request state mandate bundleHash attempted := by
      by_contra hnone
      exact hbundle (.inl (not_exists.mp hnone))
    refine soft_agree_iff (fun haction hnone => hbundle (.inr ?_)) hsend.weight_eq
    simp [haction, hnone]
  · have hnone := not_exists.mp hadmitted
    rw [PythonEngine.not_admitted_outcome hnone,
      Cedar.not_admitted_outcome (schemaActions_of_registered hregistered) hnone]
    exact iff_of_true rfl fun mandate h => absurd h (hnone mandate)

end Outcomes

/-- The agreement condition at a read of the demo order. -/
theorem engines_agree_iff_read :
    (getDefinition "get_order").isSome = true ∧
    (decidedOutcome pythonReferencePolicyEngine
        ⟨"REQ-1", .inventory, "get_order", "shipment_action", "ORD-8842",
          ⟨some "inventory", some "read", [("order_id", .str "ORD-8842")], .empty, none⟩⟩
        Demo.started =
      decidedOutcome (cedarPolicyEngine "sha256:demo")
        ⟨"REQ-1", .inventory, "get_order", "shipment_action", "ORD-8842",
          ⟨some "inventory", some "read", [("order_id", .str "ORD-8842")], .empty, none⟩⟩
        Demo.started ↔
      ∀ mandate, Admitted
          ⟨"REQ-1", .inventory, "get_order", "shipment_action", "ORD-8842",
            ⟨some "inventory", some "read", [("order_id", .str "ORD-8842")], .empty, none⟩⟩
          Demo.started mandate →
        EnginesAgree
          ⟨"REQ-1", .inventory, "get_order", "shipment_action", "ORD-8842",
            ⟨some "inventory", some "read", [("order_id", .str "ORD-8842")], .empty, none⟩⟩
          Demo.started mandate "sha256:demo") :=
  ⟨by decide, engines_agree_iff _ Demo.started "sha256:demo" (by decide)⟩

/-! ## A disagreement -/

namespace Demo

/-- The request the governor builds to confirm a cancelled booking. -/
def confirmCancelled : PolicyRequest where
  requestId := "REQ-" ++ host.uuid4 "TRACE-1" 0
  principal := .carrier
  action := "confirm_freight_booking"
  resourceType := "shipment_action"
  resourceId := "PREP-ORD-8842-QUOTE-COLD-01"
  context := {
    toolOwner := some "carrier"
    effectClass := some "financial_commit"
    arguments := confirmArgs
    resource := .prepared (booking .cancelled)
    approval := none }

theorem confirmCancelled_admitted :
    Admitted confirmCancelled (holding .cancelled 0) mandate where
  mandate_eq := rfl
  version_eq := rfl
  served_eq := rfl
  owner_eq := rfl
  class_mem := ⟨.financialCommit, by decide, rfl⟩

end Demo

/-- The governor's request to confirm a cancelled booking is allowed by the reference
engine and blocked by the bundle. -/
theorem engines_disagree_cancelled :
    (Governor.buildRequest ⟨pythonReferencePolicyEngine, Demo.loader, 30, 2⟩
        (getDefinition "confirm_freight_booking")
        ⟨"PROP-1", "TRACE-1", .carrier, "confirm_freight_booking", some .financialCommit,
          Demo.confirmArgs, 1⟩ Demo.confirmArgs).exec Demo.handle
        (Demo.holding .cancelled 0) {} =
      ⟨.ok Demo.confirmCancelled, Demo.holding .cancelled 0, ({} : World).tick "TRACE-1"⟩ ∧
    decidedOutcome pythonReferencePolicyEngine Demo.confirmCancelled
      (Demo.holding .cancelled 0) = .allow ∧
    decidedOutcome (cedarPolicyEngine "sha256:demo") Demo.confirmCancelled
      (Demo.holding .cancelled 0) = .block := by
  refine ⟨rfl, by decide +kernel, ?_⟩
  have hblocked : BundleBlock Demo.confirmCancelled (Demo.holding .cancelled 0) Demo.mandate
      "sha256:demo" := by
    refine .inr (.inr ⟨Demo.booking .cancelled, rfl, ?_⟩)
    exact .inr (.inr (.inr (.inl (by decide))))
  rw [bundle_decided, bundle_outcome (by decide) Demo.confirmCancelled_admitted,
    if_pos (.inr hblocked)]

end Manifest
