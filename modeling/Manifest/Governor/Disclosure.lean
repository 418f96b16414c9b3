import Manifest.Governor.Frame
import Manifest.Lib.Relational
import Manifest.Parity.Parity

/-!
# Contact data before the engines

Two calls of `write_tracking_outbox` that differ only in contact data, and what the policy
engines see of the difference.

Main results:

- Theorems `reference_blind` and `bundle_blind`: neither engine looks at contact data.
- Theorem `outbox_blocked`: both engines block a notification that carries a forbidden field.
-/

set_option autoImplicit false

namespace Manifest

open Interaction

/-! ## Contact data -/

/-- One entry for another: the same key, and the same value unless the field is never
disclosed. -/
def Concealed (entry entry' : String × Value) : Prop :=
  entry.1 = entry'.1 ∧ (entry.2 = entry'.2 ∨ entry.1 ∈ forbiddenPiiFields)

/-- Template variables that differ only in fields that are never disclosed. -/
def ConcealedVariables (value value' : Value) : Prop :=
  ∃ entries entries', value = .dict entries ∧ value' = .dict entries' ∧
    List.Forall₂ Concealed entries entries'

/-- Arguments that differ only in contact data, their own or that of the template variables. -/
def ContactsDiffer (args args' : Kwargs) : Prop :=
  List.Forall₂ (fun entry entry' => Concealed entry entry' ∨
    entry.1 = "template_variables" ∧ entry'.1 = "template_variables" ∧
      ConcealedVariables entry.2 entry'.2) args args'

theorem ContactsDiffer.keys_eq {args args' : Kwargs} (h : ContactsDiffer args args') :
    args'.keys = args.keys := by
  unfold Kwargs.keys
  induction h with
  | nil => rfl
  | cons hentry hrest ih =>
      simp only [List.map_cons, ih]
      rcases hentry with hsame | ⟨hkey, hkey', -⟩
      · rw [hsame.1]
      · rw [hkey, hkey']

/-- Arguments of one shape that agree wherever values may be disclosed. -/
structure Undisclosed (args args' : Kwargs) : Prop where
  keys_eq : args'.keys = args.keys
  get?_eq : ∀ key, key ∉ forbiddenPiiFields → args'.get? key = args.get? key

theorem get?_safeArguments {args : Kwargs} {key : String} (h : key ∉ forbiddenPiiFields) :
    (safeArguments "write_tracking_outbox" args).get? key = args.get? key := by
  simp only [forbiddenPiiFields, List.mem_cons, List.not_mem_nil, or_false, not_or] at h
  obtain ⟨hphone, hemail, haddress, hname, hpayment, hmessage⟩ := h
  simp only [safeArguments, if_true, List.foldl_cons, List.foldl_nil]
  rw [Kwargs.get?_pop_ne hpayment, Kwargs.get?_pop_ne hname, Kwargs.get?_pop_ne haddress,
    Kwargs.get?_pop_ne hemail, Kwargs.get?_pop_ne hphone, Kwargs.get?_pop_ne hmessage]

/-- Arguments with the same redaction. -/
theorem ContactsDiffer.undisclosed {args args' : Kwargs} (h : ContactsDiffer args args')
    (hsafe : safeArguments "write_tracking_outbox" args' =
      safeArguments "write_tracking_outbox" args) : Undisclosed args args' where
  keys_eq := h.keys_eq
  get?_eq key hkey := by
    rw [← get?_safeArguments hkey, hsafe, get?_safeArguments hkey]

/-- Arguments without a forbidden field are not redacted. -/
theorem safeArguments_of_clean {args : Kwargs} (h : containsForbiddenPii args = false) :
    safeArguments "write_tracking_outbox" args = args := by
  have hpop (key : String) (hkey : forbiddenPiiFields.contains key = true) :
      args.pop key = args := by
    unfold Kwargs.pop
    refine List.filter_eq_self.mpr fun entry hentry => ?_
    unfold containsForbiddenPii Kwargs.keys at h
    have hclean := List.any_eq_false.mp h entry.1 (List.mem_map_of_mem hentry)
    simp only [decide_eq_true_eq, ne_eq]
    rintro rfl
    exact hclean hkey
  simp only [safeArguments, if_true, List.foldl_cons, List.foldl_nil]
  rw [hpop "message" (by decide), hpop "phone" (by decide), hpop "email" (by decide),
    hpop "address" (by decide), hpop "name" (by decide), hpop "payment" (by decide)]

/-- Two calls that differ in contact data carry a forbidden field, unless their template
variables differ. -/
theorem ContactsDiffer.forbidden {args args' : Kwargs} (h : ContactsDiffer args args')
    (hsafe : safeArguments "write_tracking_outbox" args' =
      safeArguments "write_tracking_outbox" args) (hne : args' ≠ args) :
    containsForbiddenPii args = true := by
  by_contra hclean
  rw [Bool.not_eq_true] at hclean
  have hclean' : containsForbiddenPii args' = false := by
    unfold containsForbiddenPii at hclean ⊢
    rw [h.keys_eq, hclean]
  rw [safeArguments_of_clean hclean, safeArguments_of_clean hclean'] at hsafe
  exact hne hsafe

namespace Undisclosed

variable {args args' : Kwargs} (h : Undisclosed args args')

include h

theorem get_eq (key : String) (hkey : key ∉ forbiddenPiiFields) :
    args'.get key = args.get key := by
  unfold Kwargs.get
  rw [h.get?_eq key hkey]

theorem getD_eq (key : String) (hkey : key ∉ forbiddenPiiFields) (default : Value) :
    args'.getD key default = args.getD key default := by
  unfold Kwargs.getD
  rw [h.get?_eq key hkey]

theorem containsForbiddenPii_eq : containsForbiddenPii args' = containsForbiddenPii args := by
  unfold containsForbiddenPii
  rw [h.keys_eq]

end Undisclosed

/-! ## Engines -/

/-- The request with other arguments. -/
def PolicyRequest.withArguments (request : PolicyRequest) (args : Kwargs) : PolicyRequest :=
  { request with context := { request.context with arguments := args } }

@[simp]
theorem PolicyRequest.withArguments_action (request : PolicyRequest) (args : Kwargs) :
    (request.withArguments args).action = request.action :=
  rfl

@[simp]
theorem PolicyRequest.withArguments_arguments (request : PolicyRequest) (args : Kwargs) :
    (request.withArguments args).context.arguments = args :=
  rfl

/-- An engine that does not look at contact data. -/
def BlindToContacts (engine : PolicyEngine) : Prop :=
  ∀ request state args', request.action = "write_tracking_outbox" →
    Undisclosed request.context.arguments args' →
      engine.evaluate (request.withArguments args') state = engine.evaluate request state

section Engines

variable [Sha256]

theorem reference_blind : BlindToContacts pythonReferencePolicyEngine := by
  intro request state args' haction h
  show PythonEngine.evaluate (request.withArguments args') state =
    PythonEngine.evaluate request state
  have hacts : actsOnPrepared request.action = false := by
    rw [haction]
    decide
  have hquote : choosesQuote request.action = false := by
    rw [haction]
    decide
  have hdispatch : request.action ≠ "create_dispatch_plan" := by
    rw [haction]
    decide
  have hconfirm : request.action ≠ "confirm_freight_booking" := by
    rw [haction]
    decide
  have hownership : PythonEngine.ownershipAndMandate (request.withArguments args') state =
      PythonEngine.ownershipAndMandate request state := by
    unfold PythonEngine.ownershipAndMandate PolicyRequest.withArguments
    simp only [hacts, Bool.false_eq_true, if_false]
  have hpii : PythonEngine.piiBoundary (request.withArguments args') =
      PythonEngine.piiBoundary request := by
    unfold PythonEngine.piiBoundary
    simp only [PolicyRequest.withArguments, h.containsForbiddenPii_eq,
      h.get_eq "template_id" (by decide), h.getD_eq "recipient_ref" (by decide),
      h.get_eq "template_variables" (by decide)]
  unfold PythonEngine.evaluate
  rw [hownership, hpii, PythonEngine.provenance_other hdispatch,
    PythonEngine.provenance_other (request.withArguments_action args' ▸ hdispatch),
    PythonEngine.coldChain_other hdispatch hquote,
    PythonEngine.coldChain_other (request.withArguments_action args' ▸ hdispatch)
      (request.withArguments_action args' ▸ hquote),
    PythonEngine.commitmentBudget_other hconfirm,
    PythonEngine.commitmentBudget_other (request.withArguments_action args' ▸ hconfirm),
    PythonEngine.separationOfDuties_other hquote hacts,
    PythonEngine.separationOfDuties_other (request.withArguments_action args' ▸ hquote)
      (request.withArguments_action args' ▸ hacts)]

/-! ### The bundle -/

namespace Undisclosed

variable {request : PolicyRequest} {args' : Kwargs}
  (h : Undisclosed request.context.arguments args') (state : TrajectoryState)

include h

omit [Sha256] in
theorem guidanceFact_eq : Cedar.guidanceFact (request.withArguments args') state =
    Cedar.guidanceFact request state := by
  unfold Cedar.guidanceFact
  rw [request.withArguments_arguments, h.get_eq "weight_fact_id" (by decide)]

omit [Sha256] in
theorem signalFor_eq (policyId : String) :
    Cedar.signalFor (request.withArguments args') state policyId =
      Cedar.signalFor request state policyId := by
  have hbecause (item : Cedar.PolicyMetadata) :
      Cedar.becauseFor (request.withArguments args') state item =
        Cedar.becauseFor request state item := by
    unfold Cedar.becauseFor
    simp only [h.guidanceFact_eq state, Cedar.weightBecause, request.withArguments_arguments,
      h.get_eq "weight_value" (by decide), h.get_eq "weight_unit" (by decide)]
  have hguidance (item : Cedar.PolicyMetadata) :
      Cedar.guidanceFor (request.withArguments args') state item =
        Cedar.guidanceFor request state item := by
    unfold Cedar.guidanceFor
    rw [h.guidanceFact_eq state]
  unfold Cedar.signalFor
  simp only [hbecause, hguidance]

omit [Sha256] in
theorem mapResponse_eq (response : Cedar.CedarAuthorizationResponse) :
    Cedar.mapResponse (request.withArguments args') state response =
      Cedar.mapResponse request state response := by
  have hsignal : Cedar.signalFor (request.withArguments args') state =
      Cedar.signalFor request state :=
    funext (h.signalFor_eq state)
  unfold Cedar.mapResponse
  rw [hsignal]
  rfl

theorem authContext_eq (mandate : ShipmentMandate) (attempted : Int) :
    Cedar.authContext (request.withArguments args') state mandate attempted =
      Cedar.authContext request state mandate attempted := by
  unfold Cedar.authContext Cedar.factOf Cedar.preparedOf
  simp only [PolicyRequest.withArguments, h.containsForbiddenPii_eq,
    h.get_eq "weight_fact_id" (by decide), h.get_eq "prepared_action_id" (by decide),
    h.get_eq "action_hash" (by decide), h.getD_eq "weight_unit" (by decide),
    h.getD_eq "template_id" (by decide), h.getD_eq "recipient_ref" (by decide),
    h.getD_eq "template_variables" (by decide)]
  rfl

theorem buildCedarRequest_eq (bundleHash : String) :
    Cedar.buildCedarRequest (request.withArguments args') state bundleHash =
      Cedar.buildCedarRequest request state bundleHash := by
  unfold Cedar.buildCedarRequest
  simp only [h.authContext_eq state, request.withArguments_arguments,
    h.getD_eq "weight_value" (by decide)]
  rfl

end Undisclosed

theorem bundle_blind (bundleHash : String) : BlindToContacts (cedarPolicyEngine bundleHash) := by
  intro request state args' haction h
  show Cedar.evaluate bundleHash (request.withArguments args') state =
    Cedar.evaluate bundleHash request state
  unfold Cedar.evaluate
  simp only [h.buildCedarRequest_eq state, h.mapResponse_eq state]
  rfl

/-- Both engines block a notification that carries a forbidden field. -/
theorem outbox_blocked {engine : PolicyEngine}
    (hengine : engine = pythonReferencePolicyEngine ∨
      ∃ bundleHash, engine = cedarPolicyEngine bundleHash)
    {request : PolicyRequest} (haction : request.action = "write_tracking_outbox")
    (hforbidden : containsForbiddenPii request.context.arguments = true)
    (state : TrajectoryState) : decidedOutcome engine request state = .block := by
  have hregistered : (getDefinition request.action).isSome = true := by
    rw [haction]
    decide
  have hdisclosure : DisclosureBlocked request := .inl hforbidden
  rcases hengine with rfl | ⟨bundleHash, rfl⟩
  · rw [reference_decided]
    by_cases hadmitted : ∃ mandate, Admitted request state mandate
    · obtain ⟨mandate, h⟩ := hadmitted
      rw [PythonEngine.outbox_outcome h haction, if_pos (.inl hdisclosure)]
    · exact PythonEngine.not_admitted_outcome (not_exists.mp hadmitted)
  · rw [bundle_decided]
    by_cases hadmitted : ∃ mandate, Admitted request state mandate
    · obtain ⟨mandate, h⟩ := hadmitted
      have hshared : SharedBlock request state mandate := by
        unfold SharedBlock
        rw [haction]
        exact hdisclosure
      rw [bundle_outcome hregistered h, if_pos (.inl hshared)]
    · exact Cedar.not_admitted_outcome (schemaActions_of_registered hregistered)
        (not_exists.mp hadmitted)

end Engines

end Manifest
