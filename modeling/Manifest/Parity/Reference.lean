import Manifest.Policy.Outcome
import Manifest.Policy.PythonEngine

/-!
# Outcomes of the Python reference engine

The outcome of a request in terms of the request and the state: when it is
admitted, which prepared action or fact it names, and which rule of its action
applies.

Main results:

- Theorem `evaluate_outcome`: the outcome is the strongest of the six evaluators.
- Theorems `confirm_outcome`, `cancel_outcome`, `dispatch_outcome`, `quote_outcome`
  and `outbox_outcome`: the outcome for each kind of action.
- Theorem `evaluate_catalogued`: every reason the engine gives is catalogued.
-/

set_option autoImplicit false

namespace Manifest

/-! ## Admission -/

/-- What both engines ask of every request: a mandate of the served version that allows
the effect, and a principal that owns the tool. -/
structure Admitted (request : PolicyRequest) (state : TrajectoryState)
    (mandate : ShipmentMandate) : Prop where
  mandate_eq : state.mandate = some mandate
  version_eq : state.policyVersion = mandate.policyVersion
  served_eq : state.policyVersion = "demo-v1"
  owner_eq : request.context.toolOwner = some request.principal.value
  class_mem : ∃ c ∈ mandate.allowedEffectClasses, request.context.effectClass = some c.value

/-! ## References -/

/-- The key a nonempty string argument names. -/
def exactKey : Value → Option String
  | .str key => if key = "" then none else some key
  | _ => none

/-- The entry a nonempty string argument names. -/
def exactLookup {α : Type} (mapping : Dict String α) (value : Value) : Option α :=
  (exactKey value).bind mapping.get?

theorem exactLookup_eq_some {α : Type} {mapping : Dict String α} {value : Value} {a : α}
    (h : exactLookup mapping value = some a) :
    ∃ key, value = .str key ∧ key ≠ "" ∧ mapping.get? key = some a := by
  unfold exactLookup at h
  cases value with
  | str key =>
      by_cases hkey : key = ""
      · simp [exactKey, hkey] at h
      · simp only [exactKey, hkey, if_false, Option.bind_some] at h
        exact ⟨key, rfl, hkey, h⟩
  | _ => simp [exactKey] at h

/-- The prepared action a request names by a nonempty string. -/
def namedAction (request : PolicyRequest) (state : TrajectoryState) : Option PreparedAction :=
  exactLookup state.preparedActions (request.context.arguments.get "prepared_action_id")

/-- The fact a request names by a nonempty string. -/
def namedFact (request : PolicyRequest) (state : TrajectoryState) : Option NumericFact :=
  exactLookup state.facts (request.context.arguments.get "weight_fact_id")

theorem lookupKey_of_exact {α : Type} {mapping : Dict String α} {value : Value} {a : α}
    (h : exactLookup mapping value = some a) : lookupKey mapping value = .ok (some a) := by
  obtain ⟨key, rfl, -, hget⟩ := exactLookup_eq_some h
  simp [lookupKey, hget]

theorem truthy_of_exact {α : Type} {mapping : Dict String α} {value : Value} {a : α}
    (h : exactLookup mapping value = some a) : value.truthy = true := by
  obtain ⟨key, rfl, hkey, -⟩ := exactLookup_eq_some h
  simpa [Value.truthy] using hkey

/-- An argument that names nothing exactly is falsy, absent or raises. -/
theorem lookup_of_not_exact {α : Type} {mapping : Dict String α} {value : Value}
    (h : exactLookup mapping value = none) :
    value.truthy = false ∨ lookupKey mapping value = .ok none ∨
      ∃ x, lookupKey mapping value = .error x := by
  cases value with
  | str key =>
      by_cases hkey : key = ""
      · exact .inl (by simp [Value.truthy, hkey])
      · exact .inr (.inl (by simpa [exactLookup, exactKey, hkey, lookupKey] using h))
  | list xs => exact .inr (.inr ⟨_, rfl⟩)
  | dict entries => exact .inr (.inr ⟨_, rfl⟩)
  | _ => exact .inr (.inl rfl)

namespace PythonEngine

variable [Sha256] {request : PolicyRequest} {state : TrajectoryState} {mandate : ShipmentMandate}

/-! ## The six evaluators -/

/-- The outcome is the strongest of the six evaluators. -/
theorem evaluate_outcome (request : PolicyRequest) (state : TrajectoryState) :
    outcomeOf (evaluate request state) =
      max (outcomeOf (ownershipAndMandate request state))
        (max (outcomeOf (provenance request state))
          (max (outcomeOf (coldChain request state))
            (max (outcomeOf (commitmentBudget request state))
              (max (outcomeOf (separationOfDuties request state))
                (strongest (piiBoundary request)))))) := by
  unfold evaluate
  cases ownershipAndMandate request state with
  | error x => simp [bind, Except.bind]
  | ok ownership =>
      cases provenance request state with
      | error x => simp [bind, Except.bind]
      | ok source =>
          cases coldChain request state with
          | error x => simp [bind, Except.bind]
          | ok cold =>
              cases commitmentBudget request state with
              | error x => simp [bind, Except.bind]
              | ok spend =>
                  cases separationOfDuties request state with
                  | error x => simp [bind, Except.bind]
                  | ok separation => simp [bind, Except.bind, strongest_append]

omit [Sha256] in
/-- A request that is not admitted is blocked. -/
theorem ownership_not_admitted (h : ∀ mandate, ¬ Admitted request state mandate) :
    outcomeOf (ownershipAndMandate request state) = .block := by
  unfold ownershipAndMandate
  split
  · rfl
  · rename_i mandate hmandate
    split
    · rfl
    · rename_i hversion
      split
      · rfl
      · rename_i howner
        split
        · rfl
        · rename_i hclass
          simp only [ne_eq, Bool.or_eq_true, decide_eq_true_eq, not_or, not_not] at hversion howner
          refine absurd ⟨hmandate, hversion.1, hversion.2, howner, ?_⟩ (h mandate)
          simp only [Bool.not_eq_false, List.contains_iff_mem, List.mem_map] at hclass
          obtain ⟨c, hmem, heq⟩ := hclass
          exact ⟨c, hmem, heq.symm⟩

omit [Sha256] in
/-- An admitted request is blocked only for want of its prepared action. -/
theorem ownership_admitted (h : Admitted request state mandate) :
    outcomeOf (ownershipAndMandate request state) =
      if actsOnPrepared request.action && (namedAction request state).isNone then .block
      else .allow := by
  obtain ⟨c, hmem, hc⟩ := h.class_mem
  have hclass : ((mandate.allowedEffectClasses.map fun item => some item.value).contains
      request.context.effectClass = false) = False := by
    simp only [eq_iff_iff, iff_false, Bool.not_eq_false, List.contains_iff_mem, List.mem_map]
    exact ⟨c, hmem, hc.symm⟩
  have hserved : mandate.policyVersion = policyVersion := h.version_eq ▸ h.served_eq
  simp only [ownershipAndMandate, h.mandate_eq, h.version_eq, h.owner_eq, hserved, hclass,
    ne_eq, not_true_eq_false, decide_false, Bool.or_self, Bool.false_eq_true, if_false]
  by_cases hacts : actsOnPrepared request.action = true
  · simp only [hacts, if_true, Bool.true_and, namedAction]
    cases hnamed : exactLookup state.preparedActions
        (request.context.arguments.get "prepared_action_id") with
    | some prepared =>
        simp [truthy_of_exact hnamed, lookupKey_of_exact hnamed, bind, Except.bind]
    | none =>
        rcases lookup_of_not_exact hnamed with heq | heq | ⟨x, heq⟩
        · simp [heq, bind, Except.bind, signal]
        all_goals
          cases (request.context.arguments.get "prepared_action_id").truthy <;>
            simp [heq, bind, Except.bind, signal]
  · simp [hacts]

end PythonEngine

/-! ## Spend -/

/-- Whether an amount can be printed.  Irreducible, as its bound is a huge numeral. -/
@[irreducible]
def printable (minor : Int) : Prop :=
  (PyNumber.hundredths minor).isSome = true

/-- Sums of two 64-bit integers can be printed. -/
theorem printable_of_lt {minor : Int} (h : minor.natAbs < 2 ^ 65) : printable minor := by
  unfold printable
  exact PyNumber.hundredths_isSome_of_lt h

/-- Committed and reserved spend together. -/
def projected (state : TrajectoryState) : Int :=
  state.spendCommittedMinor + state.spendReservedMinor

/-- No approval yet, or one that is still pending. -/
def awaiting : Option ApprovalContext → Prop
  | none => True
  | some approval => approval.status = .pendingApproval

/-- An approval that permits a prepared action: approved, unexpired, and equal to it and
to the policy version in force. -/
structure Binds (approval : ApprovalContext) (prepared : PreparedAction)
    (policyVersion : String) : Prop where
  status_eq : approval.status = .approved
  unexpired : approval.isExpired = false
  preparedActionId_eq : approval.preparedActionId = prepared.preparedActionId
  actionHash_eq : approval.actionHash = prepared.actionHash
  stateHash_eq : approval.stateHash = prepared.stateHash
  policyVersion_eq : approval.policyVersion = policyVersion

/-- A spend above the threshold whose approval neither binds nor is awaited. -/
def ExceptionRefused (request : PolicyRequest) (state : TrajectoryState)
    (prepared : PreparedAction) : Prop :=
  ∃ approval, request.context.approval = some approval ∧ ¬ awaiting (some approval) ∧
    ¬ Binds approval prepared state.policyVersion

/-- What blocks a confirmation on its spend. -/
def SpendBlocked (request : PolicyRequest) (state : TrajectoryState)
    (prepared : PreparedAction) (mandate : ShipmentMandate) : Prop :=
  state.spendCommittedMinor < 0 ∨ state.spendReservedMinor < 0 ∨ prepared.amountMinor < 0 ∨
    prepared.currency ≠ mandate.currency ∨ ¬ printable (projected state) ∨
    mandate.approvalThresholdMinor < projected state ∧
      (ExceptionRefused request state prepared ∨
        awaiting request.context.approval ∧ ¬ printable mandate.approvalThresholdMinor)

/-- A spend above the threshold that waits for an approval. -/
def SpendEscalated (request : PolicyRequest) (state : TrajectoryState)
    (mandate : ShipmentMandate) : Prop :=
  mandate.approvalThresholdMinor < projected state ∧ awaiting request.context.approval

theorem formatMinor_of_printable {minor : Int} (h : printable minor) :
    ∃ text, formatMinor minor = .ok text := by
  unfold printable at h
  unfold formatMinor
  cases hshown : PyNumber.hundredths minor with
  | none => simp [hshown] at h
  | some text => exact ⟨text, rfl⟩

theorem formatMinor_of_not_printable {minor : Int} (h : ¬ printable minor) :
    ∃ x, formatMinor minor = .error x := by
  unfold printable at h
  unfold formatMinor
  cases hshown : PyNumber.hundredths minor with
  | none => exact ⟨_, rfl⟩
  | some text => simp [hshown] at h

open Classical in
/-- Above the threshold an approval is required, refused or used. -/
theorem spendException_outcome (request : PolicyRequest) (state : TrajectoryState)
    (prepared : PreparedAction) (threshold : Int) (hshown : printable (projected state)) :
    outcomeOf (PythonEngine.spendException request state prepared (projected state) threshold) =
      if ExceptionRefused request state prepared ∨
        awaiting request.context.approval ∧ ¬ printable threshold then .block
      else if awaiting request.context.approval then .escalate else .allow := by
  obtain ⟨text, htext⟩ := formatMinor_of_printable hshown
  have hrequired : outcomeOf (PythonEngine.approvalRequired (projected state) threshold) =
      if ¬ printable threshold then .block else .escalate := by
    by_cases hthreshold : printable threshold
    · obtain ⟨text', htext'⟩ := formatMinor_of_printable hthreshold
      simp [PythonEngine.approvalRequired, htext, htext', hthreshold, bind, Except.bind,
        PythonEngine.signal]
    · obtain ⟨x, hx⟩ := formatMinor_of_not_printable hthreshold
      simp [PythonEngine.approvalRequired, htext, hx, hthreshold, bind, Except.bind]
  unfold PythonEngine.spendException ExceptionRefused
  cases happroval : request.context.approval with
  | none => simp [hrequired, awaiting]
  | some approval =>
      cases hstatus : approval.status with
      | pendingApproval => simp [hstatus, hrequired, awaiting]
      | expired =>
          have hnot : ¬ Binds approval prepared state.policyVersion := fun h => by
            simpa [hstatus] using h.status_eq
          simp [hstatus, awaiting, hnot, PythonEngine.signal]
      | rejected =>
          have hnot : ¬ Binds approval prepared state.policyVersion := fun h => by
            simpa [hstatus] using h.status_eq
          simp [hstatus, awaiting, hnot, PythonEngine.signal]
      | approved =>
          have hbinds : Binds approval prepared state.policyVersion ↔
              approval.isExpired = false ∧
              approval.preparedActionId = prepared.preparedActionId ∧
              approval.actionHash = prepared.actionHash ∧
              approval.stateHash = prepared.stateHash ∧
              approval.policyVersion = state.policyVersion :=
            ⟨fun h => ⟨h.2, h.3, h.4, h.5, h.6⟩,
              fun ⟨h₂, h₃, h₄, h₅, h₆⟩ => ⟨hstatus, h₂, h₃, h₄, h₅, h₆⟩⟩
          simp only [Option.some.injEq, exists_eq_left', awaiting, hstatus, hbinds,
            reduceCtorEq, not_false_eq_true, true_and, false_and, or_false, if_false]
          by_cases hexpired : approval.isExpired = true
          · simp [hexpired, PythonEngine.signal]
          · by_cases haction : approval.preparedActionId = prepared.preparedActionId ∧
                approval.actionHash = prepared.actionHash
            · by_cases hstate : approval.stateHash = prepared.stateHash
              · by_cases hpolicy : approval.policyVersion = state.policyVersion <;>
                  simp [hexpired, haction, hstate, hpolicy, htext, bind, Except.bind,
                    PythonEngine.signal]
              · simp [hexpired, haction, hstate, PythonEngine.signal]
            · have hmismatch : (approval.preparedActionId ≠ prepared.preparedActionId ∨
                  approval.actionHash ≠ prepared.actionHash) := not_and_or.mp haction
              have hnot : ¬ (approval.isExpired = false ∧
                  approval.preparedActionId = prepared.preparedActionId ∧
                  approval.actionHash = prepared.actionHash ∧
                  approval.stateHash = prepared.stateHash ∧
                  approval.policyVersion = state.policyVersion) :=
                fun h => haction ⟨h.2.1, h.2.2.1⟩
              rw [if_pos hnot]
              simp [hexpired, hmismatch, PythonEngine.signal]

/-- A spend that cannot be printed is blocked, whatever its approval. -/
theorem spendException_unprintable (request : PolicyRequest) (state : TrajectoryState)
    (prepared : PreparedAction) (threshold : Int) (hshown : ¬ printable (projected state)) :
    outcomeOf (PythonEngine.spendException request state prepared (projected state) threshold) =
      .block := by
  obtain ⟨x, hx⟩ := formatMinor_of_not_printable hshown
  have hrequired :
      outcomeOf (PythonEngine.approvalRequired (projected state) threshold) = .block := by
    simp [PythonEngine.approvalRequired, hx, bind, Except.bind]
  unfold PythonEngine.spendException
  cases request.context.approval with
  | none => exact hrequired
  | some approval =>
      cases hstatus : approval.status with
      | pendingApproval => simpa [hstatus] using hrequired
      | expired => simp [hstatus, PythonEngine.signal]
      | rejected => simp [hstatus, PythonEngine.signal]
      | approved =>
          simp only [hstatus, hx, bind, Except.bind]
          split
          · rfl
          · split
            · rfl
            · split
              · rfl
              · split <;> rfl

namespace PythonEngine

variable [Sha256] {request : PolicyRequest} {state : TrajectoryState} {mandate : ShipmentMandate}
  {prepared : PreparedAction}

omit [Sha256] in
open Classical in
/-- The spend rules for a known prepared action. -/
theorem commitmentBudget_outcome (haction : request.action = "confirm_freight_booking")
    (hmandate : state.mandate = some mandate) (hnamed : namedAction request state = some prepared) :
    outcomeOf (commitmentBudget request state) =
      if SpendBlocked request state prepared mandate then .block
      else if SpendEscalated request state mandate then .escalate else .allow := by
  unfold commitmentBudget
  simp only [haction, ne_eq, not_true_eq_false, if_false]
  have hfound : lookupKey state.preparedActions
      (request.context.arguments.get "prepared_action_id") = .ok (some prepared) :=
    lookupKey_of_exact hnamed
  simp only [hfound, hmandate, bind, Except.bind]
  rw [show state.spendCommittedMinor + state.spendReservedMinor = projected state from rfl]
  by_cases hnegative : state.spendCommittedMinor < 0 ∨ state.spendReservedMinor < 0 ∨
      prepared.amountMinor < 0
  · have hblocked : SpendBlocked request state prepared mandate := by
      rcases hnegative with h | h | h
      · exact .inl h
      · exact .inr (.inl h)
      · exact .inr (.inr (.inl h))
    rw [if_pos (by simpa [or_assoc] using hnegative), if_pos hblocked]
    rfl
  · rw [if_neg (by simpa [or_assoc] using hnegative)]
    obtain ⟨hcommitted, hreserved, hamount⟩ : ¬ state.spendCommittedMinor < 0 ∧
        ¬ state.spendReservedMinor < 0 ∧ ¬ prepared.amountMinor < 0 :=
      ⟨fun h => hnegative (.inl h), fun h => hnegative (.inr (.inl h)),
        fun h => hnegative (.inr (.inr h))⟩
    by_cases hcurrency : prepared.currency = mandate.currency
    · rw [if_neg (not_not.mpr hcurrency)]
      by_cases hshown : printable (projected state)
      · by_cases habove : mandate.approvalThresholdMinor < projected state
        · have hspend := spendException_outcome request state prepared
            mandate.approvalThresholdMinor hshown
          have hiff : SpendBlocked request state prepared mandate ↔
              (ExceptionRefused request state prepared ∨
                awaiting request.context.approval ∧
                  ¬ printable mandate.approvalThresholdMinor) := by
            simp [SpendBlocked, hcommitted, hreserved, hamount, hcurrency, hshown, habove]
          rw [if_pos habove]
          refine hspend.trans ?_
          simp only [hiff, SpendEscalated, habove, true_and]
        · obtain ⟨text, htext⟩ := formatMinor_of_printable hshown
          have hnot : ¬ SpendBlocked request state prepared mandate := by
            simp [SpendBlocked, hcommitted, hreserved, hamount, hcurrency, hshown, habove]
          rw [if_neg habove, if_neg hnot, if_neg fun h => habove h.1]
          simp [htext, signal]
      · obtain ⟨x, hx⟩ := formatMinor_of_not_printable hshown
        have hblocked : SpendBlocked request state prepared mandate :=
          .inr (.inr (.inr (.inr (.inl hshown))))
        rw [if_pos hblocked]
        by_cases habove : mandate.approvalThresholdMinor < projected state
        · rw [if_pos habove]
          exact spendException_unprintable request state prepared _ hshown
        · rw [if_neg habove]
          simp [hx]
    · have hblocked : SpendBlocked request state prepared mandate :=
        .inr (.inr (.inr (.inl hcurrency)))
      rw [if_pos hcurrency, if_pos hblocked]
      rfl

/-! ## Separation of duties -/

end PythonEngine

/-- Whether the arguments carry a prepared action's hash. -/
def hashGiven (request : PolicyRequest) (prepared : PreparedAction) : Prop :=
  request.context.arguments.get "action_hash" = .str prepared.actionHash

/-- The label of the approval a request shows. -/
def shownLabel (request : PolicyRequest) : Option String :=
  request.context.approval.bind (·.approverLabel)

/-- What blocks a confirmation on separation of duties. -/
def ConfirmSeparated (request : PolicyRequest) (state : TrajectoryState)
    (prepared : PreparedAction) : Prop :=
  prepared.status = .pendingApproval ∨ prepared.status = .confirmed ∨
    ¬ hashGiven request prepared ∨ state.approvedBy = some prepared.preparedBy.value ∨
    prepared.status = .approved ∧ shownLabel request = some prepared.preparedBy.value

/-- What blocks a cancellation. -/
def CancelSeparated (request : PolicyRequest) (prepared : PreparedAction) : Prop :=
  ¬ hashGiven request prepared ∨ prepared.status = .confirmed

theorem pyEq_hash_false {request : PolicyRequest} {prepared : PreparedAction} :
    ((request.context.arguments.get "action_hash").pyEq (.str prepared.actionHash) = false) ↔
      ¬ hashGiven request prepared := by
  rw [hashGiven, ← Value.pyEq_str_iff, Bool.not_eq_true]

open Classical in
theorem separationConfirm_outcome (request : PolicyRequest) (state : TrajectoryState)
    (prepared : PreparedAction) :
    strongest (PythonEngine.separationConfirm request state request.context.arguments prepared) =
      if ConfirmSeparated request state prepared then .block else .allow := by
  unfold PythonEngine.separationConfirm ConfirmSeparated
  have hlabel : request.context.approval.bind (·.approverLabel) = shownLabel request := rfl
  simp only [pyEq_hash_false, Bool.or_eq_true, Bool.and_eq_true, decide_eq_true_eq, hlabel]
  by_cases hstatus : prepared.status = .pendingApproval ∨ prepared.status = .confirmed
  · have hblocked : prepared.status = .pendingApproval ∨ prepared.status = .confirmed ∨
        ¬ hashGiven request prepared ∨ state.approvedBy = some prepared.preparedBy.value ∨
        prepared.status = .approved ∧ shownLabel request = some prepared.preparedBy.value :=
      hstatus.elim .inl fun h => .inr (.inl h)
    rw [if_pos hstatus, if_pos hblocked]
    rfl
  · obtain ⟨hpending, hconfirmed⟩ := not_or.mp hstatus
    rw [if_neg hstatus]
    simp only [hpending, hconfirmed, false_or]
    by_cases hhash : hashGiven request prepared
    · by_cases happrover : state.approvedBy = some prepared.preparedBy.value
      · simp [hhash, happrover, PythonEngine.signal]
      · by_cases hconflict : prepared.status = .approved ∧
            shownLabel request = some prepared.preparedBy.value <;>
          simp [hhash, happrover, hconflict, PythonEngine.signal]
    · simp [hhash, PythonEngine.signal]

open Classical in
theorem separationCancel_outcome (request : PolicyRequest) (prepared : PreparedAction) :
    strongest (PythonEngine.separationCancel request.context.arguments prepared) =
      if CancelSeparated request prepared then .block else .allow := by
  unfold PythonEngine.separationCancel CancelSeparated
  simp only [pyEq_hash_false]
  by_cases hhash : hashGiven request prepared
  · by_cases hconfirmed : prepared.status = .confirmed
    · simp [hhash, hconfirmed, PythonEngine.signal]
    · by_cases hcancelled : prepared.status = .cancelled <;>
        simp [hhash, hconfirmed, hcancelled, PythonEngine.signal]
  · simp [hhash, PythonEngine.signal]

/-! ## Dispatch, quotes and disclosure -/

/-- Whether the attempted weight differs from the sourced one. -/
def WeightDiffers (request : PolicyRequest) (fact : NumericFact) : Prop :=
  request.context.arguments.get "weight_unit" ≠ .str fact.unit ∨
    (request.context.arguments.get "weight_value").pyEq (.int fact.value) = false

/-- Whether perishable cargo would travel in an unsafe vehicle. -/
def VehicleUnsafe (request : PolicyRequest) (mandate : ShipmentMandate) (fact : NumericFact) :
    Prop :=
  mandate.cargoClass = "perishable" ∧
    PythonEngine.vehicleUnsafe request.context.resource (some fact.value) = true

/-- Whether perishable cargo lacks the metadata of its vehicle or carrier. -/
def MetadataMissing (request : PolicyRequest) (mandate : ShipmentMandate) : Prop :=
  mandate.cargoClass = "perishable" ∧ request.context.resource.present = false

/-- Whether perishable cargo would go to an uncertified carrier. -/
def CarrierUnsafe (request : PolicyRequest) (mandate : ShipmentMandate) : Prop :=
  mandate.cargoClass = "perishable" ∧
    (request.context.resource.coldChainCertified = false ∨
      request.context.resource.laneSupported = false)

/-- Whether the actor issued the quote itself. -/
def SelfIssued (request : PolicyRequest) : Prop :=
  request.context.resource.quoteIssuer = some request.principal.value

/-- What blocks a disclosure under both engines. -/
def DisclosureBlocked (request : PolicyRequest) : Prop :=
  containsForbiddenPii request.context.arguments = true ∨
    request.context.arguments.get "template_id" ≠ .str "TRACKING_UPDATE_V1" ∨
    startsWith "DEMO-RECIPIENT-"
      (request.context.arguments.getD "recipient_ref" (.str "")).pyStr = false ∨
    templateVariablesAllowed
      (request.context.arguments.getD "template_variables" (.dict [])) = false

/-- Whether the disclosure leaves its variables out. -/
def VariablesMissing (request : PolicyRequest) : Prop :=
  request.context.arguments.get? "template_variables" = none

namespace PythonEngine

variable [Sha256] {request : PolicyRequest} {state : TrajectoryState} {mandate : ShipmentMandate}
  {prepared : PreparedAction}

/-- Evaluators that do not concern an action stay silent. -/
theorem provenance_other (h : request.action ≠ "create_dispatch_plan") :
    provenance request state = .ok [] := by
  simp [provenance, h]

omit [Sha256] in
theorem commitmentBudget_other (h : request.action ≠ "confirm_freight_booking") :
    commitmentBudget request state = .ok [] := by
  simp [commitmentBudget, h]

omit [Sha256] in
theorem coldChain_other (hdispatch : request.action ≠ "create_dispatch_plan")
    (hquote : choosesQuote request.action = false) : coldChain request state = .ok [] := by
  unfold coldChain
  cases state.mandate <;> simp [hdispatch, hquote]

omit [Sha256] in
theorem separationOfDuties_other (hquote : choosesQuote request.action = false)
    (hacts : actsOnPrepared request.action = false) :
    separationOfDuties request state = .ok [] := by
  simp [separationOfDuties, hquote, hacts]

omit [Sha256] in
theorem piiBoundary_other (h : request.action ≠ "write_tracking_outbox") :
    piiBoundary request = [] := by
  simp [piiBoundary, h]

/-- A request that is not admitted is blocked. -/
theorem not_admitted_outcome (h : ∀ mandate, ¬ Admitted request state mandate) :
    outcomeOf (evaluate request state) = .block := by
  rw [evaluate_outcome, ownership_not_admitted h, block_max]

/-- Acting on a prepared action needs its exact identifier. -/
theorem unnamed_outcome (h : Admitted request state mandate)
    (hacts : actsOnPrepared request.action = true) (hnamed : namedAction request state = none) :
    outcomeOf (evaluate request state) = .block := by
  rw [evaluate_outcome, ownership_admitted h, hacts, hnamed]
  simp

open Classical in
/-- A confirmation of a named action rests on its spend and on separation of duties. -/
theorem confirm_outcome (h : Admitted request state mandate)
    (haction : request.action = "confirm_freight_booking")
    (hnamed : namedAction request state = some prepared) :
    outcomeOf (evaluate request state) =
      if SpendBlocked request state prepared mandate ∨ ConfirmSeparated request state prepared
      then .block
      else if SpendEscalated request state mandate then .escalate else .allow := by
  have hquote : choosesQuote request.action = false := by simp [choosesQuote, haction]
  have hacts : actsOnPrepared request.action = true := by simp [actsOnPrepared, haction]
  have hseparation : outcomeOf (separationOfDuties request state) =
      strongest (separationConfirm request state request.context.arguments prepared) := by
    unfold separationOfDuties
    simp only [hquote, hacts, Bool.false_eq_true, if_false, if_true,
      lookupKey_of_exact hnamed, bind, Except.bind]
    simp [haction]
  rw [evaluate_outcome, ownership_admitted h, hnamed, provenance_other (by simp [haction]),
    coldChain_other (by simp [haction]) hquote,
    commitmentBudget_outcome haction h.mandate_eq hnamed, hseparation,
    separationConfirm_outcome, piiBoundary_other (by simp [haction])]
  by_cases hspend : SpendBlocked request state prepared mandate <;>
    by_cases hseparated : ConfirmSeparated request state prepared <;> simp [hspend, hseparated]

open Classical in
/-- A cancellation of a named action rests on separation of duties. -/
theorem cancel_outcome (h : Admitted request state mandate)
    (haction : request.action = "cancel_freight_booking")
    (hnamed : namedAction request state = some prepared) :
    outcomeOf (evaluate request state) =
      if CancelSeparated request prepared then .block else .allow := by
  have hquote : choosesQuote request.action = false := by simp [choosesQuote, haction]
  have hacts : actsOnPrepared request.action = true := by simp [actsOnPrepared, haction]
  have hseparation : outcomeOf (separationOfDuties request state) =
      strongest (separationCancel request.context.arguments prepared) := by
    unfold separationOfDuties
    simp only [hquote, hacts, Bool.false_eq_true, if_false, if_true,
      lookupKey_of_exact hnamed, bind, Except.bind]
    simp [haction]
  rw [evaluate_outcome, ownership_admitted h, hnamed, provenance_other (by simp [haction]),
    coldChain_other (by simp [haction]) hquote, commitmentBudget_other (by simp [haction]),
    hseparation, separationCancel_outcome, piiBoundary_other (by simp [haction])]
  simp

/-- A dispatch without an exactly named fact is blocked. -/
theorem dispatch_unnamed_outcome (haction : request.action = "create_dispatch_plan")
    (hnamed : namedFact request state = none) :
    outcomeOf (evaluate request state) = .block := by
  have hprovenance : outcomeOf (provenance request state) = .block := by
    unfold provenance
    simp only [haction, ne_eq, not_true_eq_false, if_false]
    rcases lookup_of_not_exact hnamed with heq | heq | ⟨x, heq⟩
    · simp [heq, bind, Except.bind, signal]
    all_goals
      cases (request.context.arguments.get "weight_fact_id").truthy <;>
        simp [heq, bind, Except.bind, signal]
  rw [evaluate_outcome, hprovenance]
  simp

/-- What blocks a dispatch whose fact is named. -/
def FactInvalid (state : TrajectoryState) (fact : NumericFact) : Prop :=
  validFactHash state.orderId fact = false

open Classical in
/-- A dispatch rests on the provenance of its weight and on the cold chain. -/
theorem dispatch_outcome {fact : NumericFact} (h : Admitted request state mandate)
    (haction : request.action = "create_dispatch_plan")
    (hnamed : namedFact request state = some fact) :
    outcomeOf (evaluate request state) =
      if fact.name ≠ "shipment_weight" ∨ FactInvalid state fact ∨ MetadataMissing request mandate
      then .block
      else if WeightDiffers request fact ∨ VehicleUnsafe request mandate fact then .guide
      else .allow := by
  have hquote : choosesQuote request.action = false := by simp [choosesQuote, haction]
  have hacts : actsOnPrepared request.action = false := by simp [actsOnPrepared, haction]
  have hprovenance : outcomeOf (provenance request state) =
      if fact.name ≠ "shipment_weight" ∨ FactInvalid state fact then .block
      else if WeightDiffers request fact then .guide else .allow := by
    unfold provenance FactInvalid WeightDiffers
    simp only [haction, ne_eq, not_true_eq_false, if_false, truthy_of_exact hnamed, if_true,
      lookupKey_of_exact hnamed, bind, Except.bind, Bool.or_eq_true, decide_eq_true_eq]
    by_cases hinvalid : ¬ fact.name = "shipment_weight" ∨ validFactHash state.orderId fact = false
    · rw [if_pos hinvalid, if_pos hinvalid]
      rfl
    · rw [if_neg hinvalid, if_neg hinvalid]
      have hunit : ((request.context.arguments.get "weight_unit").pyEq (.str fact.unit) = false) ↔
          ¬ request.context.arguments.get "weight_unit" = .str fact.unit := by
        rw [← Value.pyEq_str_iff, Bool.not_eq_true]
      by_cases hsame : request.context.arguments.get "weight_unit" = .str fact.unit
      · cases hvalue : (request.context.arguments.get "weight_value").pyEq (.int fact.value) <;>
          simp [hsame, signal]
      · simp [hunit.mpr hsame, hsame, signal]
  have hcold : outcomeOf (coldChain request state) =
      if MetadataMissing request mandate then .block
      else if VehicleUnsafe request mandate fact then .guide else .allow := by
    unfold coldChain MetadataMissing VehicleUnsafe
    simp only [h.mandate_eq, haction, if_true, lookupKey_of_exact hnamed, bind, Except.bind,
      ne_eq, Option.map_some]
    by_cases hcargo : mandate.cargoClass = "perishable"
    · cases hpresent : request.context.resource.present
      · simp [hcargo, signal]
      · cases hunsafe : vehicleUnsafe request.context.resource (some fact.value) <;>
          simp [hcargo, signal]
    · simp [hcargo]
  rw [evaluate_outcome, ownership_admitted h, hacts, hprovenance, hcold,
    commitmentBudget_other (by simp [haction]), separationOfDuties_other hquote hacts,
    piiBoundary_other (by simp [haction])]
  by_cases hname : fact.name = "shipment_weight" <;> by_cases hfact : FactInvalid state fact <;>
    by_cases hmissing : MetadataMissing request mandate <;>
    by_cases hweight : WeightDiffers request fact <;>
    by_cases hunsafe : VehicleUnsafe request mandate fact <;>
    simp [hname, hfact, hmissing, hweight, hunsafe]

omit [Sha256] in
theorem choosesQuote_ne {action : String} (h : choosesQuote action = true) :
    action ≠ "create_dispatch_plan" ∧ action ≠ "confirm_freight_booking" ∧
      action ≠ "write_tracking_outbox" ∧ actsOnPrepared action = false := by
  simp only [choosesQuote, Bool.or_eq_true, decide_eq_true_eq] at h
  rcases h with rfl | rfl <;> decide

open Classical in
/-- A choice of quote rests on the cold chain and on who issued it. -/
theorem quote_outcome (h : Admitted request state mandate)
    (hquote : choosesQuote request.action = true) :
    outcomeOf (evaluate request state) =
      if MetadataMissing request mandate ∨ SelfIssued request then .block
      else if CarrierUnsafe request mandate then .guide else .allow := by
  obtain ⟨hdispatch, hconfirm, houtbox, hacts⟩ := choosesQuote_ne hquote
  have hcold : outcomeOf (coldChain request state) =
      if MetadataMissing request mandate then .block
      else if CarrierUnsafe request mandate then .guide else .allow := by
    unfold coldChain MetadataMissing CarrierUnsafe
    simp only [h.mandate_eq, hdispatch, if_false, hquote, if_true, ne_eq]
    by_cases hcargo : mandate.cargoClass = "perishable"
    · cases hpresent : request.context.resource.present
      · simp [hcargo, signal]
      · cases hcold : request.context.resource.coldChainCertified <;>
          cases hlane : request.context.resource.laneSupported <;> simp [hcargo, signal]
    · simp [hcargo]
  have hseparation : outcomeOf (separationOfDuties request state) =
      if SelfIssued request then .block else .allow := by
    unfold separationOfDuties SelfIssued
    simp only [hquote, if_true]
    by_cases hissuer : request.context.resource.quoteIssuer = some request.principal.value <;>
      simp [hissuer, signal]
  rw [evaluate_outcome, ownership_admitted h, hacts, provenance_other hdispatch, hcold,
    commitmentBudget_other hconfirm, hseparation, piiBoundary_other houtbox]
  by_cases hmissing : MetadataMissing request mandate <;>
    by_cases hissued : SelfIssued request <;>
    by_cases hunsafe : CarrierUnsafe request mandate <;> simp [hmissing, hissued, hunsafe]

omit [Sha256] in
theorem templateVariables_get (request : PolicyRequest) :
    templateVariablesAllowed (request.context.arguments.get "template_variables") = false ↔
      templateVariablesAllowed
        (request.context.arguments.getD "template_variables" (.dict [])) = false ∨
      VariablesMissing request := by
  unfold VariablesMissing Kwargs.get Kwargs.getD
  cases request.context.arguments.get? "template_variables" <;> simp [templateVariablesAllowed]

open Classical in
/-- A disclosure rests on the fields it carries. -/
theorem outbox_outcome (h : Admitted request state mandate)
    (haction : request.action = "write_tracking_outbox") :
    outcomeOf (evaluate request state) =
      if DisclosureBlocked request ∨ VariablesMissing request then .block else .allow := by
  have hquote : choosesQuote request.action = false := by simp [choosesQuote, haction]
  have hacts : actsOnPrepared request.action = false := by simp [actsOnPrepared, haction]
  have htemplate : ((request.context.arguments.get "template_id").pyEq
      (.str "TRACKING_UPDATE_V1") = false) ↔
      request.context.arguments.get "template_id" ≠ .str "TRACKING_UPDATE_V1" := by
    rw [ne_eq, ← Value.pyEq_str_iff, Bool.not_eq_true]
  have hpii : strongest (piiBoundary request) =
      if DisclosureBlocked request ∨ VariablesMissing request then .block else .allow := by
    unfold piiBoundary DisclosureBlocked
    simp only [haction, ne_eq, not_true_eq_false, if_false, htemplate, templateVariables_get]
    by_cases hforbidden : containsForbiddenPii request.context.arguments = true
    · simp [hforbidden, signal]
    · by_cases hid : request.context.arguments.get "template_id" = .str "TRACKING_UPDATE_V1"
      · cases hrecipient : startsWith "DEMO-RECIPIENT-"
            (request.context.arguments.getD "recipient_ref" (.str "")).pyStr
        · simp [hforbidden, hid, signal]
        · by_cases hvariables : templateVariablesAllowed
              (request.context.arguments.getD "template_variables" (.dict [])) = false ∨
              VariablesMissing request <;>
            simp [hforbidden, hid, hvariables, signal]
      · simp [hforbidden, hid, signal]
  rw [evaluate_outcome, ownership_admitted h, hacts, provenance_other (by simp [haction]),
    coldChain_other (by simp [haction]) hquote, commitmentBudget_other (by simp [haction]),
    separationOfDuties_other hquote hacts, hpii]
  simp

/-- A read is allowed once it is admitted. -/
theorem read_outcome (h : Admitted request state mandate)
    (hdispatch : request.action ≠ "create_dispatch_plan")
    (houtbox : request.action ≠ "write_tracking_outbox")
    (hquote : choosesQuote request.action = false)
    (hacts : actsOnPrepared request.action = false) :
    outcomeOf (evaluate request state) = .allow := by
  have hconfirm : request.action ≠ "confirm_freight_booking" := by
    rintro heq
    rw [heq] at hacts
    revert hacts
    decide
  rw [evaluate_outcome, ownership_admitted h, hacts, provenance_other hdispatch,
    coldChain_other hdispatch hquote, commitmentBudget_other hconfirm,
    separationOfDuties_other hquote hacts, piiBoundary_other houtbox]
  simp

/-! ## Reasons -/

omit [Sha256] in
theorem signal_given {family policyId : String} {outcome : DecisionOutcome}
    {reasonCode because : String} {guidance : Option Kwargs} (h : EngineReason reasonCode) :
    AnswerGiven (.ok [signal family policyId outcome reasonCode because guidance]) :=
  .singleton h

omit [Sha256] in
theorem ownership_given (request : PolicyRequest) (state : TrajectoryState) :
    AnswerGiven (ownershipAndMandate request state) := by
  unfold ownershipAndMandate
  split
  · exact signal_given (by decide)
  · split
    · exact signal_given (by decide)
    · split
      · exact signal_given (by decide)
      · split
        · exact signal_given (by decide)
        · split
          · dsimp only
            split
            all_goals
              refine .bind fun found _ => ?_
              split
              · exact signal_given (by decide)
              · exact .nil
          · exact .nil

theorem provenance_given (request : PolicyRequest) (state : TrajectoryState) :
    AnswerGiven (provenance request state) := by
  unfold provenance
  split
  · exact .nil
  · dsimp only
    split
    all_goals
      refine .bind fun found _ => ?_
      split
      · exact signal_given (by decide)
      · split
        · exact signal_given (by decide)
        · split
          · exact signal_given (by decide)
          · split
            · exact signal_given (by decide)
            · exact .nil

omit [Sha256] in
theorem coldChain_given (request : PolicyRequest) (state : TrajectoryState) :
    AnswerGiven (coldChain request state) := by
  unfold coldChain
  split
  · exact .nil
  · dsimp only
    split
    · exact .nil
    · split
      · split
        · exact signal_given (by decide)
        · refine .bind fun fact _ => ?_
          split
          · exact signal_given (by decide)
          · exact .nil
      · split
        · split
          · exact signal_given (by decide)
          · split
            · exact signal_given (by decide)
            · exact .nil
        · exact .nil

omit [Sha256] in
theorem spendException_given (request : PolicyRequest) (state : TrajectoryState)
    (prepared : PreparedAction) (shown threshold : Int) :
    AnswerGiven (spendException request state prepared shown threshold) := by
  have hrequired : AnswerGiven (approvalRequired shown threshold) :=
    .bind fun _ _ => .bind fun _ _ => signal_given (by decide)
  unfold spendException
  split
  · exact hrequired
  · split
    · split
      · exact signal_given (by decide)
      · split
        · exact signal_given (by decide)
        · split
          · exact signal_given (by decide)
          · split
            · exact signal_given (by decide)
            · exact .bind fun _ _ => signal_given (by decide)
    · exact signal_given (by decide)
    · exact signal_given (by decide)
    · exact hrequired

omit [Sha256] in
theorem commitmentBudget_given (request : PolicyRequest) (state : TrajectoryState) :
    AnswerGiven (commitmentBudget request state) := by
  unfold commitmentBudget
  split
  · exact .nil
  · refine .bind fun found _ => ?_
    split
    · split
      · exact signal_given (by decide)
      · split
        · exact signal_given (by decide)
        · dsimp only
          split
          · exact spendException_given _ _ _ _ _
          · exact .bind fun _ _ => signal_given (by decide)
    · exact .nil

omit [Sha256] in
theorem separation_given (request : PolicyRequest) (state : TrajectoryState) :
    AnswerGiven (separationOfDuties request state) := by
  unfold separationOfDuties
  split
  · split
    · exact signal_given (by decide)
    · exact .nil
  · split
    · refine .bind fun found _ => ?_
      split
      · exact .nil
      · split
        · unfold separationCancel
          split_ifs <;> exact signal_given (by decide)
        · unfold separationConfirm
          split_ifs
          all_goals first
            | exact signal_given (by decide)
            | exact .nil
    · exact .nil

omit [Sha256] in
theorem piiBoundary_given (request : PolicyRequest) :
    AnswerGiven (.ok (piiBoundary request)) := by
  unfold piiBoundary
  dsimp only
  split_ifs
  all_goals first
    | exact signal_given (by decide)
    | exact .nil

/-- The engine never gives the governor's own reason. -/
theorem evaluate_given (request : PolicyRequest) (state : TrajectoryState) :
    AnswerGiven (evaluate request state) := by
  refine .bind fun ownership hownership => .bind fun source hsource => .bind fun cold hcold =>
    .bind fun spend hspend => .bind fun separation hseparation => ?_
  refine .append (.append (.append (.append (.append ?_ ?_) ?_) ?_) ?_) ?_
  · exact hownership ▸ ownership_given request state
  · exact hsource ▸ provenance_given request state
  · exact hcold ▸ coldChain_given request state
  · exact hspend ▸ commitmentBudget_given request state
  · exact hseparation ▸ separation_given request state
  · exact piiBoundary_given request

/-- Every reason the engine gives is catalogued. -/
theorem evaluate_catalogued (request : PolicyRequest) (state : TrajectoryState) :
    AnswerCatalogued (evaluate request state) :=
  (evaluate_given request state).catalogued

end PythonEngine

end Manifest
