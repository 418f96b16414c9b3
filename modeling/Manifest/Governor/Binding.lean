import Manifest.Approvals
import Manifest.Governor.Spec
import Manifest.Ledger.Verifier
import Manifest.Lib.JsonRead

/-!
# What an approval binds

An approval carries the two hashes of the prepared action it was made for.  Both are
recomputed when the approval is validated, so the action and the state it is validated
against are those that were prepared.

Main results:

- Theorem `validatePrepared_ok_iff`: what the checks of a prepared action ask for.
- Theorem `validatePending_binds`: what a validated approval pins.
-/

set_option autoImplicit false

namespace Manifest

open Interaction

/-! ## The checks, all together -/

namespace ApprovalLifecycle

theorem refuseIf_bind_ok_iff {condition : Bool} {x : PyError} {α : Type}
    {f : Unit → Except PyError α} {a : α} :
    (refuseIf condition (.error x) >>= f) = .ok a ↔ condition = false ∧ f () = .ok a := by
  cases condition with
  | true => simp [refuseIf, bind, Except.bind]
  | false => simp [refuseIf, bind, Except.bind]

theorem refuseIf_ok_iff {condition : Bool} {x : PyError} :
    refuseIf condition (.error x) = .ok () ↔ condition = false := by
  cases condition <;> simp [refuseIf]

variable [Sha256]

/-- What the checks of a prepared action ask for. -/
structure Prepared (approval : ApprovalRecord) (state : TrajectoryState)
    (command : ApprovalCommand) (prepared : PreparedAction) : Prop where
  status_eq : prepared.status = .pendingApproval
  actionHash_eq : preparedActionHash prepared = prepared.actionHash
  approval_actionHash : approval.actionHash = prepared.actionHash
  stateHash_eq : preparedStateHash state.traceId state.orderId prepared = prepared.stateHash
  approval_stateHash : approval.stateHash = prepared.stateHash
  mandate_eq : ∃ mandate, state.mandate = some mandate ∧
    approval.policyVersion = state.policyVersion ∧
    prepared.policyVersion = state.policyVersion ∧ prepared.mandateId = mandate.mandateId
  committed_eq : state.spendCommittedMinor = prepared.spendCommittedAtPrepareMinor
  reserved_eq : state.spendReservedMinor = prepared.spendReservedAfterMinor
  quote_eq : ∃ quote, state.selectedQuote = some quote ∧ quote.quoteId = prepared.resourceId ∧
    quote.amountMinor = prepared.amountMinor ∧ quote.currency = prepared.currency
  approver_ne : casefold command.approverLabel ≠ casefold prepared.preparedBy.value

/-- The checks of a prepared action pass when all of them hold. -/
theorem validatePrepared_ok_iff {approval : ApprovalRecord} {state : TrajectoryState}
    {command : ApprovalCommand} {prepared : PreparedAction} :
    validatePrepared approval state command prepared = .ok () ↔
      Prepared approval state command prepared := by
  unfold validatePrepared stateMismatch actionMismatch
  simp only [refuseIf_bind_ok_iff, refuseIf_ok_iff]
  constructor
  · rintro ⟨hstatus, haction, hstate, hmandate, hspend, hquote, happrover⟩
    simp only [ne_eq, decide_not, Bool.not_eq_eq_eq_not, Bool.not_false, decide_eq_true_eq,
      Bool.or_eq_false_iff, decide_eq_false_iff_not] at hstatus haction hstate hspend happrover
    cases hm : state.mandate with
    | none => simp [hm] at hmandate
    | some mandate =>
        cases hq : state.selectedQuote with
        | none => simp [hq] at hquote
        | some quote =>
            rw [hm] at hmandate
            rw [hq] at hquote
            simp only [ne_eq, decide_not, Bool.not_eq_eq_eq_not, Bool.not_false,
              decide_eq_true_eq, Bool.or_eq_false_iff] at hmandate hquote
            exact
              { status_eq := hstatus
                actionHash_eq := haction.1
                approval_actionHash := haction.2
                stateHash_eq := hstate.1
                approval_stateHash := hstate.2
                mandate_eq := ⟨mandate, hm, hmandate.1.1, hmandate.1.2, hmandate.2⟩
                committed_eq := hspend.1
                reserved_eq := hspend.2
                quote_eq := ⟨quote, hq, hquote.1.1, hquote.1.2, hquote.2⟩
                approver_ne := happrover }
  · rintro h
    obtain ⟨mandate, hm, hpolicy, hversion, hid⟩ := h.mandate_eq
    obtain ⟨quote, hq, hquote, hamount, hcurrency⟩ := h.quote_eq
    simp [h.status_eq, h.actionHash_eq, h.approval_actionHash, h.stateHash_eq,
      h.approval_stateHash, hm, hpolicy, hversion, hid, h.committed_eq, h.reserved_eq, hq, hquote,
      hamount, hcurrency, h.approver_ne]

theorem validateBound_prepared {approval : ApprovalRecord} {state : TrajectoryState}
    {command : ApprovalCommand} (h : validateBound approval state command = .ok ()) :
    ∃ prepared, state.preparedActions.get? approval.preparedActionId = some prepared ∧
      Prepared approval state command prepared := by
  obtain ⟨-, -, -, -, prepared, hget, -⟩ := validateBound_ok h
  refine ⟨prepared, hget, ?_⟩
  unfold validateBound stateMismatch actionMismatch at h
  simp only [hget] at h
  split_ifs at h
  exact validatePrepared_ok_iff.mp h

/-- An approval that was validated passed the checks after the clock. -/
theorem validatePending_ok {E : Type} {h : Handler Op E} {env : E} {approval : ApprovalRecord}
    {state : TrajectoryState} {command : ApprovalCommand}
    (hvalid : ((validatePending approval state command).exec h () env).result = .ok ()) :
    validateBound approval state command = .ok () := by
  unfold validatePending nowFn at hvalid
  split_ifs at hvalid
  · simp [notPending] at hvalid
  · simp at hvalid
  · simp only [Proc.exec_bind, Proc.exec_perform] at hvalid
    split_ifs at hvalid
    · simp [expiredError] at hvalid
    · simpa using hvalid

end ApprovalLifecycle

/-! ## The two payloads -/

/-- The text `prepared_action_hash` digests. -/
def actionText (prepared : PreparedAction) : String :=
  Value.dumps true (.dict prepared.arguments)

/-- The payload `prepared_state_hash` digests. -/
def preparedStatePayload (traceId orderId : String) (prepared : PreparedAction) : Kwargs :=
  [ ("trace_id", .str traceId), ("order_id", .str orderId),
    ("mandate_id", .str prepared.mandateId),
    ("policy_version", .str prepared.policyVersion),
    ("prepared_action_id", .str prepared.preparedActionId),
    ("quote_id", .str prepared.resourceId), ("amount_minor", .int prepared.amountMinor),
    ("currency", .str prepared.currency),
    ("committed_minor", .int prepared.spendCommittedAtPrepareMinor),
    ("reserved_before_minor", .int prepared.spendReservedBeforeMinor),
    ("reserved_after_minor", .int prepared.spendReservedAfterMinor),
    ("selected_quote_id", .str prepared.resourceId) ]

def stateText (traceId orderId : String) (prepared : PreparedAction) : String :=
  Value.dumps true (.dict (preparedStatePayload traceId orderId prepared))

/-- Two prepared actions with the same arguments, whatever the order of their keys, and the
same fields under the hashes. -/
structure SameAction (a b : PreparedAction) : Prop where
  arguments_eq : (Value.dict a.arguments).normal = (Value.dict b.arguments).normal
  preparedActionId_eq : a.preparedActionId = b.preparedActionId
  resourceId_eq : a.resourceId = b.resourceId
  amountMinor_eq : a.amountMinor = b.amountMinor
  currency_eq : a.currency = b.currency
  mandateId_eq : a.mandateId = b.mandateId
  policyVersion_eq : a.policyVersion = b.policyVersion
  committedAtPrepare_eq : a.spendCommittedAtPrepareMinor = b.spendCommittedAtPrepareMinor
  reservedBefore_eq : a.spendReservedBeforeMinor = b.spendReservedBeforeMinor
  reservedAfter_eq : a.spendReservedAfterMinor = b.spendReservedAfterMinor

theorem preparedStatePayload_keys (traceId orderId traceId' orderId' : String)
    (a b : PreparedAction) :
    (preparedStatePayload traceId orderId a).map Prod.fst =
        (preparedStatePayload traceId' orderId' b).map Prod.fst ∧
      ((preparedStatePayload traceId orderId a).map Prod.fst).Nodup := by
  constructor
  · rfl
  · simp only [preparedStatePayload, List.map_cons, List.map_nil]
    decide

/-- Equal payloads have equal fields. -/
theorem sameAction_of_texts {traceId orderId traceId' orderId' : String} {a b : PreparedAction}
    (haction : actionText a = actionText b)
    (hstate : stateText traceId orderId a = stateText traceId' orderId' b) :
    SameAction a b ∧ traceId = traceId' ∧ orderId = orderId' := by
  obtain ⟨hkeys, hnodup⟩ := preparedStatePayload_keys traceId orderId traceId' orderId' a b
  have hvalues := Value.normal_dict_inj hkeys hnodup (Value.dumps_eq_iff.mp hstate)
  simp only [preparedStatePayload, List.map_cons, List.map_nil, Value.normal, Value.sorted,
    List.cons.injEq, Value.str.injEq, Value.int.injEq, and_true] at hvalues
  obtain ⟨htrace, horder, hmandate, hpolicy, hid, hquote, hamount, hcurrency, hcommitted,
    hbefore, hafter, -⟩ := hvalues
  exact ⟨⟨Value.dumps_eq_iff.mp haction, hid, hquote, hamount, hcurrency, hmandate, hpolicy,
    hcommitted, hbefore, hafter⟩, htrace, horder⟩

/-! ## Binding -/

/-- The record `_create_approval` makes for a prepared action copies its hashes. -/
structure ApprovalFor (approval : ApprovalRecord) (prepared : PreparedAction) : Prop where
  actionHash_eq : approval.actionHash = prepared.actionHash
  stateHash_eq : approval.stateHash = prepared.stateHash

/-- An approval that was just created is the approval of the action it names. -/
theorem createApproval_for (args : Kwargs) (decision : Decision) (state : TrajectoryState) :
    Proc.Ensures Governor.anyOp (Governor.createApproval args decision) state fun r _ =>
      ∀ approval, r = .ok approval → ∃ prepared,
        state.preparedActions.get? (args.get "prepared_action_id").pyStr = some prepared ∧
          ApprovalFor approval prepared := by
  simp only [Governor.createApproval, Governor.preparedAt, Proc.ensures_bind, Proc.ensures_read]
  cases hprepared : state.preparedActions.get? (args.get "prepared_action_id").pyStr with
  | none => simp
  | some prepared =>
      simp only [Proc.ensures_pure, Proc.ensures_mutate, ensures_uuid4,
        ensures_utcNow, ensures_addApproval, Governor.anyOp, true_and]
      intro uuid now added ledger
      cases added with
      | error x => simp
      | ok u =>
          rintro approval ⟨⟩
          exact ⟨prepared, rfl, ⟨rfl, rfl⟩⟩

/-- The state agrees with the state an action was prepared in, with the amount reserved and
the quote still selected. -/
structure SameGround (state later : TrajectoryState) (prepared : PreparedAction) : Prop where
  traceId_eq : later.traceId = state.traceId
  orderId_eq : later.orderId = state.orderId
  committed_eq : later.spendCommittedMinor = state.spendCommittedMinor
  reserved_eq : later.spendReservedMinor = state.spendReservedMinor + prepared.amountMinor
  quote_eq : ∃ quote, later.selectedQuote = some quote ∧ quote.quoteId = prepared.resourceId ∧
    quote.amountMinor = prepared.amountMinor ∧ quote.currency = prepared.currency

section Binding

variable [Sha256]

/-- The digests of the payloads of two actions are only equal on equal payloads. -/
def PayloadsApart (state later : TrajectoryState) (prepared current : PreparedAction) : Prop :=
  CollisionFree
    [ actionText prepared, actionText current,
      stateText state.traceId state.orderId prepared,
      stateText later.traceId later.orderId current ]

/-- Whatever was changed meanwhile, an approval that is validated pins the arguments and
hashed fields of the action it was created for, and the state it was prepared in. -/
theorem validatePending_binds {E : Type} (h : Handler Op E) (env : E)
    (state later : TrajectoryState) (mandate : ShipmentMandate)
    (preparedActionId quoteId : String) (amountMinor : Int) (currency : String)
    (preparedBy : AgentName) (now : Timestamp) (approval : ApprovalRecord)
    (command : ApprovalCommand)
    (happroval : ApprovalFor approval (buildPreparedAction state mandate preparedActionId quoteId
      amountMinor currency preparedBy now))
    (hapart : ∀ current, later.preparedActions.get? approval.preparedActionId = some current →
      PayloadsApart state later (buildPreparedAction state mandate preparedActionId quoteId
        amountMinor currency preparedBy now) current)
    (hvalid : ((ApprovalLifecycle.validatePending approval later command).exec h () env).result =
      .ok ()) :
    let prepared := buildPreparedAction state mandate preparedActionId quoteId amountMinor
      currency preparedBy now
    ∃ current, later.preparedActions.get? approval.preparedActionId = some current ∧
      SameAction current prepared ∧ SameGround state later prepared := by
  intro prepared
  have hbound := ApprovalLifecycle.validatePending_ok hvalid
  obtain ⟨current, hget, hchecks⟩ := ApprovalLifecycle.validateBound_prepared hbound
  have hfree := hapart current hget
  -- Each recomputed hash equals the approval's copy, which is the one prepared.
  have haction : actionText current = actionText prepared := by
    refine hfree _ (by simp) _ (by simp [prepared]) (tagged_injective ?_)
    exact hchecks.actionHash_eq.trans
      (hchecks.approval_actionHash.symm.trans happroval.actionHash_eq)
  have hstate : stateText later.traceId later.orderId current =
      stateText state.traceId state.orderId prepared := by
    refine hfree _ (by simp) _ (by simp [prepared]) (tagged_injective ?_)
    exact hchecks.stateHash_eq.trans
      (hchecks.approval_stateHash.symm.trans happroval.stateHash_eq)
  obtain ⟨hsame, htrace, horder⟩ := sameAction_of_texts haction hstate
  obtain ⟨quote, hquote, hid, hamount, hcurrency⟩ := hchecks.quote_eq
  refine ⟨current, hget, hsame, ?_⟩
  exact
    { traceId_eq := htrace
      orderId_eq := horder
      committed_eq := hchecks.committed_eq.trans hsame.committedAtPrepare_eq
      reserved_eq := hchecks.reserved_eq.trans hsame.reservedAfter_eq
      quote_eq := ⟨quote, hquote, hid.trans hsame.resourceId_eq,
        hamount.trans hsame.amountMinor_eq, hcurrency.trans hsame.currency_eq⟩ }

end Binding

namespace Demo

/-- The state the booking is prepared in. -/
def preparing : TrajectoryState :=
  { started with spendCommittedMinor := 250000 }

/-- The run that waits for the booking's approval. -/
def awaitingRun : TrajectoryState :=
  { holding .pendingApproval 90000 with
    status := .pendingApproval
    workflowStage := .awaitingApproval
    selectedQuote := some coldQuote
    pendingApprovalId := some "APR-1" }

def bookingApproval : ApprovalRecord :=
  { approvalId := "APR-1", traceId := "TRACE-1"
    preparedActionId := "PREP-ORD-8842-QUOTE-COLD-01"
    actionHash := (booking .prepared).actionHash, stateHash := (booking .prepared).stateHash
    policyVersion := "demo-v1", reasonCode := "SPEND_APPROVAL_REQUIRED"
    status := .pendingApproval, createdAt := 0, expiresAt := 900000000 }

def approveCommand : ApprovalCommand :=
  { decision := .approve, approverLabel := "operations lead", comment := none
    expectedVersion := 1, idempotencyKey := "approve-1" }

/-- The two payloads of the booking have two digests. -/
theorem booking_digests :
    Sha256.hexdigest (actionText (booking .prepared)) ≠
      Sha256.hexdigest (stateText "TRACE-1" "ORD-8842" (booking .prepared)) := by
  decide +kernel

end Demo

/-- The demo booking, approved. -/
theorem validatePending_binds_booking :
    ∃ current, Demo.awaitingRun.preparedActions.get? "PREP-ORD-8842-QUOTE-COLD-01" =
        some current ∧ SameAction current (Demo.booking .prepared) ∧
      SameGround Demo.preparing Demo.awaitingRun (Demo.booking .prepared) := by
  have hget : Demo.awaitingRun.preparedActions.get? "PREP-ORD-8842-QUOTE-COLD-01" =
      some (Demo.booking .pendingApproval) := rfl
  refine validatePending_binds Demo.handle {} Demo.preparing Demo.awaitingRun Demo.mandate
    "PREP-ORD-8842-QUOTE-COLD-01" "QUOTE-COLD-01" 90000 "INR" .carrier 0 Demo.bookingApproval
    Demo.approveCommand ⟨rfl, rfl⟩ ?_ ?_
  · intro current hcurrent
    obtain rfl := Option.some.inj (hget.symm.trans hcurrent)
    have htexts : ∀ text ∈ [actionText (Demo.booking .prepared),
        actionText (Demo.booking .pendingApproval),
        stateText "TRACE-1" "ORD-8842" (Demo.booking .prepared),
        stateText "TRACE-1" "ORD-8842" (Demo.booking .pendingApproval)],
        text = actionText (Demo.booking .prepared) ∨
          text = stateText "TRACE-1" "ORD-8842" (Demo.booking .prepared) := by
      intro text htext
      simp only [List.mem_cons, List.not_mem_nil, or_false] at htext
      rcases htext with rfl | rfl | rfl | rfl
      · exact .inl rfl
      · exact .inl rfl
      · exact .inr rfl
      · exact .inr rfl
    intro s hs t ht heq
    rcases htexts s hs with rfl | rfl <;> rcases htexts t ht with rfl | rfl
    · rfl
    · exact absurd heq Demo.booking_digests
    · exact absurd heq.symm Demo.booking_digests
    · rfl
  · have hchecks : ApprovalLifecycle.Prepared Demo.bookingApproval Demo.awaitingRun
        Demo.approveCommand (Demo.booking .pendingApproval) :=
      { status_eq := rfl
        actionHash_eq := rfl
        approval_actionHash := rfl
        stateHash_eq := rfl
        approval_stateHash := rfl
        mandate_eq := ⟨Demo.mandate, rfl, rfl, rfl, rfl⟩
        committed_eq := rfl
        reserved_eq := rfl
        quote_eq := ⟨Demo.coldQuote, rfl, rfl, rfl, rfl⟩
        approver_ne := by decide }
    exact ApprovalLifecycle.validatePrepared_ok_iff.mpr hchecks

end Manifest
