import Manifest.Projections.Dashboard
import Manifest.Runtime.Ledgers

/-!
# The whole dashboard projection

Spending, the provenance of the shipment weight, and what the run committed to.

Main results:

- Theorem `Dashboard.spendPoints_timeline`: of a run whose ledger is numbered, the spend points
  start at the prior commitment, follow the ledger and end at the run's balances.
- Theorem `Dashboard.projection_follows_ledger`: so they do for every run that a service stores.
-/

set_option autoImplicit false

namespace Manifest

/-! ## The read model -/

structure SpendPoint where
  sequence : Nat
  label : String
  committedMinor : Int
  reservedMinor : Int
  projectedMinor : Int
  ceilingMinor : Int
deriving DecidableEq

structure WeightAttempt where
  sequence : Nat
  proposalId : String
  attemptedValue : Int
  unit : String
  factId : String
  policyOutcome : DecisionOutcome
  reasonCode : String
deriving DecidableEq

structure WeightProvenanceProjection where
  factId : String
  authoritativeValue : Int
  unit : String
  sourceId : String
  sourceHash : String
  attempts : List WeightAttempt
  finalValue : Option Int
deriving DecidableEq

structure DashboardProjection where
  traceId : String
  riskSignalScore : Nat
  riskSignalMethod : String
  riskPoints : List RiskSignalPoint
  spendPoints : List SpendPoint
  weightProvenance : Option WeightProvenanceProjection
  bookingConfirmationCount : Nat
  notificationCount : Nat
  exactOnceStatus : String
  failureCode : Option String
deriving DecidableEq

namespace Dashboard

/-! ## Spending -/

/-- The sequence a successful preparation assigns to the booking it prepared. -/
def preparedEntry (event : TraceEvent) : Option (String × Nat) :=
  if event.eventType ≠ .toolSucceeded then none
  else if event.toolName ≠ some "prepare_freight_booking" then none
  else
    match event.details.getD "result" (.dict []) with
    | .dict result =>
        match Kwargs.get result "prepared_action_id" with
        | .str preparedId => some (preparedId, event.sequence)
        | _ => none
    | _ => none

/-- `prepare_sequences`. -/
def prepareSequences (state : TrajectoryState) : Dict String Nat :=
  (∅ : Dict String Nat).setAll (state.events.filterMap preparedEntry)

/-- The sort key of the prepared actions, compared. -/
def preparedBefore (sequences : Dict String Nat) (a b : PreparedAction) : Bool :=
  let first := (sequences.get? a.preparedActionId).getD 1000000000
  let second := (sequences.get? b.preparedActionId).getD 1000000000
  first < second || (first = second && a.preparedActionId ≤ b.preparedActionId)

/-- The point of a prepared action, if its preparation is in the ledger. -/
def preparedPoint (sequences : Dict String Nat) (ceiling : Int) (prepared : PreparedAction) :
    Option SpendPoint :=
  (sequences.get? prepared.preparedActionId).map fun sequence =>
    { sequence := sequence
      label := "prepared"
      committedMinor := prepared.spendCommittedAtPrepareMinor
      reservedMinor := prepared.spendReservedAfterMinor
      projectedMinor := prepared.spendCommittedAtPrepareMinor + prepared.spendReservedAfterMinor
      ceilingMinor := ceiling }

/-- The first point: what was committed before the run. -/
def startPoint (state : TrajectoryState) (ceiling : Int) : SpendPoint :=
  let initial := (state.scenarioConfig.map (·.priorCommittedMinor)).getD 0
  { sequence := 1, label := "start", committedMinor := initial, reservedMinor := 0
    projectedMinor := initial, ceilingMinor := ceiling }

/-- The label of the last point. -/
def finalLabel (state : TrajectoryState) : String :=
  if state.status = .pendingApproval then "pending"
  else if state.status = .cancelled then "cancelled"
  else if state.confirmedBookingId.any (· ≠ "") then "confirmed"
  else "current"

/-- The last point: the balances of the run. -/
def finalPoint (state : TrajectoryState) (ceiling : Int) : SpendPoint where
  sequence := (state.events.getLast?.map (·.sequence)).getD 1
  label := finalLabel state
  committedMinor := state.spendCommittedMinor
  reservedMinor := state.spendReservedMinor
  projectedMinor := state.spendCommittedMinor + state.spendReservedMinor
  ceilingMinor := ceiling

/-- `_build_spend_points`. -/
def buildSpendPoints (state : TrajectoryState) : List SpendPoint :=
  match state.mandate with
  | none => []
  | some mandate =>
      let ceiling := mandate.spendCeilingMinor
      let sequences := prepareSequences state
      let preparedItems := state.preparedActions.values.insertionSort fun a b =>
        preparedBefore sequences a b = true
      let points := startPoint state ceiling ::
        preparedItems.filterMap (preparedPoint sequences ceiling)
      if points.getLast? ≠ some (finalPoint state ceiling) then
        points ++ [finalPoint state ceiling]
      else points

/-! ## The provenance of the weight -/

/-- The attempt an event records, if its proposal was decided. -/
def weightAttempt (decisions : Dict String Decision) (event : TraceEvent) :
    Option WeightAttempt :=
  if event.toolName ≠ some "create_dispatch_plan" then none
  else if event.eventType ≠ .toolAttempted then none
  else
    match event.details.get "proposal_id", event.details.getD "arguments" (.dict []) with
    | .str proposalId, .dict arguments =>
        match Kwargs.get arguments "weight_value", decisions.get? proposalId with
        | .int attempted, some decision =>
            some {
              sequence := event.sequence
              proposalId := proposalId
              attemptedValue := attempted
              unit := (Kwargs.getD arguments "weight_unit" (.str "")).pyStr
              factId := (Kwargs.getD arguments "weight_fact_id" (.str "")).pyStr
              policyOutcome := decision.policyOutcome
              reasonCode := decision.reasonCode }
        | _, _ => none
    | _, _ => none

/-- The weight of a plan an event records. -/
def plannedWeight (event : TraceEvent) : Option Int :=
  if event.toolName ≠ some "create_dispatch_plan" then none
  else if event.eventType ≠ .toolSucceeded then none
  else
    match event.details.getD "result" (.dict []) with
    | .dict result =>
        match Kwargs.get result "weight_kg" with
        | .int weight => some weight
        | _ => none
    | _ => none

/-- `_build_weight_provenance`. -/
def buildWeightProvenance (state : TrajectoryState) : Option WeightProvenanceProjection :=
  (state.facts.values.find? fun fact => fact.name = "shipment_weight").map fun fact =>
    let decisions := (∅ : Dict String Decision).setAll
      (state.decisions.map fun decision => (decision.proposalId, decision))
    { factId := fact.factId
      authoritativeValue := fact.value
      unit := fact.unit
      sourceId := fact.sourceId
      sourceHash := fact.sourceHash
      attempts := state.events.filterMap (weightAttempt decisions)
      finalValue := (state.events.filterMap plannedWeight).getLast? }

/-! ## Commitments and failures -/

/-- How often a tool is in the effect history. -/
def effectCount (state : TrajectoryState) (toolName : String) : Nat :=
  (state.effectHistory.filter fun item => item.toolName = toolName).length

/-- `_exact_once_status`. -/
def exactOnceStatus (state : TrajectoryState) (bookingConfirmationCount notificationCount : Nat) :
    String :=
  if bookingConfirmationCount > 1 || notificationCount > 1 then "violation"
  else if bookingConfirmationCount = 1 && notificationCount = 1 then "confirmed_once"
  else if bookingConfirmationCount = 1 then "confirmation_once"
  else if state.status = .pendingApproval then "awaiting_approval"
  else if state.status = .cancelled then "cancelled_without_confirmation"
  else "no_commitment"

/-- `_failure_code`. -/
def failureCode (state : TrajectoryState) : Option String :=
  (state.events.reverse.find? fun event => event.eventType = .runFailed).map fun event =>
    match event.details.get "error_code" with
    | .str code => code
    | _ => "UNEXPECTED_ERROR"

/-- `build_dashboard_projection`. -/
def buildDashboardProjection (state : TrajectoryState) : DashboardProjection :=
  let bookingConfirmationCount := effectCount state "confirm_freight_booking"
  let notificationCount := effectCount state "write_tracking_outbox"
  { traceId := state.traceId
    riskSignalScore := riskSignalScore state
    riskSignalMethod := riskSignalMethod
    riskPoints := buildRiskPoints state
    spendPoints := buildSpendPoints state
    weightProvenance := buildWeightProvenance state
    bookingConfirmationCount := bookingConfirmationCount
    notificationCount := notificationCount
    exactOnceStatus := exactOnceStatus state bookingConfirmationCount notificationCount
    failureCode := failureCode state }

/-! ## The points of a numbered ledger -/

/-- Events numbered from a sequence on lie between it and their last one. -/
theorem sequence_bounds [Sha256] {traceId : String} {sequence : Nat} {events : List TraceEvent}
    (h : WellFormedFrom traceId sequence events) {event : TraceEvent} (hmem : event ∈ events) :
    sequence ≤ event.sequence ∧
      ∃ last, events.getLast? = some last ∧ event.sequence ≤ last.sequence := by
  induction events generalizing sequence event with
  | nil => cases hmem
  | cons first rest ih =>
      obtain ⟨hfirst, hrest⟩ := h
      cases rest with
      | nil =>
          obtain rfl := List.mem_singleton.mp hmem
          exact ⟨hfirst.sequence_eq.ge, event, rfl, le_rfl⟩
      | cons second rest =>
          rw [List.getLast?_cons_cons]
          rcases List.mem_cons.mp hmem with rfl | hmem
          · obtain ⟨hlower, last, hlast, hupper⟩ := ih hrest List.mem_cons_self
            refine ⟨hfirst.sequence_eq.ge, last, hlast, ?_⟩
            rw [hfirst.sequence_eq]
            omega
          · obtain ⟨hlower, hupper⟩ := ih hrest hmem
            exact ⟨by omega, hupper⟩

/-- A preparation is found at the sequence of one of the events. -/
theorem exists_of_prepareSequences {state : TrajectoryState} {preparedId : String} {n : Nat}
    (h : (prepareSequences state).get? preparedId = some n) :
    ∃ event ∈ state.events, event.sequence = n := by
  unfold prepareSequences at h
  rw [Dict.get?_setAll, Dict.get?_empty, Option.or_none] at h
  obtain ⟨event, hmem, hentry⟩ := List.mem_filterMap.mp (Dict.mem_of_lastEntry h)
  refine ⟨event, hmem, ?_⟩
  unfold preparedEntry at hentry
  split_ifs at hentry
  split at hentry
  · split at hentry
    · exact (Prod.mk.inj (Option.some.inj hentry)).2
    · cases hentry
  · cases hentry

/-- Sorted actions have their points in the order of their preparations. -/
theorem preparedPoints_pairwise (sequences : Dict String Nat) (ceiling : Int)
    (items : List PreparedAction) :
    ((items.insertionSort fun a b => preparedBefore sequences a b = true).filterMap
      (preparedPoint sequences ceiling)).Pairwise fun a b => a.sequence ≤ b.sequence := by
  have htrans : IsTrans PreparedAction fun a b => preparedBefore sequences a b = true := by
    refine ⟨fun a b c hab hbc => ?_⟩
    simp only [preparedBefore, Bool.or_eq_true, Bool.and_eq_true, decide_eq_true_eq] at hab hbc ⊢
    rcases hab with hab | ⟨hab, hids⟩ <;> rcases hbc with hbc | ⟨hbc, hids'⟩
    · exact .inl (hab.trans hbc)
    · exact .inl (hbc ▸ hab)
    · exact .inl (hab ▸ hbc)
    · exact .inr ⟨hab.trans hbc, String.le_trans hids hids'⟩
  have htotal : Std.Total fun a b => preparedBefore sequences a b = true := by
    refine ⟨fun a b => ?_⟩
    simp only [preparedBefore, Bool.or_eq_true, Bool.and_eq_true, decide_eq_true_eq]
    rcases lt_trichotomy ((sequences.get? a.preparedActionId).getD 1000000000)
      ((sequences.get? b.preparedActionId).getD 1000000000) with hlt | heq | hgt
    · exact .inl (.inl hlt)
    · rcases String.le_total a.preparedActionId b.preparedActionId with hle | hle
      · exact .inl (.inr ⟨heq, hle⟩)
      · exact .inr (.inr ⟨heq.symm, hle⟩)
    · exact .inr (.inl hgt)
  refine List.pairwise_filterMap.mpr ((List.pairwise_insertionSort _ items).imp ?_)
  intro a b hab point hpoint point' hpoint'
  obtain ⟨n, hn, rfl⟩ := Option.map_eq_some_iff.mp hpoint
  obtain ⟨n', hn', rfl⟩ := Option.map_eq_some_iff.mp hpoint'
  simp only [preparedBefore, hn, hn', Option.getD_some, Bool.or_eq_true, Bool.and_eq_true,
    decide_eq_true_eq] at hab
  exact hab.elim le_of_lt fun h => h.1.le

/-- The spend points of a run: they start at the prior commitment, follow the ledger, have one
point for each prepared action whose preparation the ledger holds, and end at the balances. -/
structure Timeline (state : TrajectoryState) (ceiling : Int) (points : List SpendPoint) :
    Prop where
  starts : points.head? = some (startPoint state ceiling)
  ordered : points.Pairwise fun a b => a.sequence ≤ b.sequence
  covers : ∀ prepared ∈ state.preparedActions.values, ∀ point,
    preparedPoint (prepareSequences state) ceiling prepared = some point → point ∈ points
  ends : points.getLast? = some (finalPoint state ceiling)

theorem spendPoints_timeline [Sha256] {state : TrajectoryState} {mandate : ShipmentMandate}
    (hmandate : state.mandate = some mandate)
    (hnumbered : WellFormedFrom state.traceId 1 state.events) :
    Timeline state mandate.spendCeilingMinor (buildSpendPoints state) := by
  unfold buildSpendPoints
  simp only [hmandate]
  generalize hprepared : (state.preparedActions.values.insertionSort fun a b =>
    preparedBefore (prepareSequences state) a b = true).filterMap
      (preparedPoint (prepareSequences state) mandate.spendCeilingMinor) = prepared
  have hbetween : ∀ point ∈ prepared,
      1 ≤ point.sequence ∧ point.sequence ≤ (finalPoint state mandate.spendCeilingMinor).sequence := by
    intro point hmem
    rw [← hprepared] at hmem
    obtain ⟨action, -, hpoint⟩ := List.mem_filterMap.mp hmem
    obtain ⟨n, hn, rfl⟩ := Option.map_eq_some_iff.mp hpoint
    obtain ⟨event, hevent, rfl⟩ := exists_of_prepareSequences hn
    obtain ⟨hlower, last, hlast, hupper⟩ := sequence_bounds hnumbered hevent
    refine ⟨hlower, ?_⟩
    simpa [finalPoint, hlast] using hupper
  have hfinal : 1 ≤ (finalPoint state mandate.spendCeilingMinor).sequence := by
    unfold finalPoint
    cases hlast : state.events.getLast? with
    | none => exact le_rfl
    | some last => exact (sequence_bounds hnumbered (List.mem_of_getLast? hlast)).1
  have hordered : (startPoint state mandate.spendCeilingMinor :: prepared).Pairwise
      fun a b => a.sequence ≤ b.sequence :=
    List.pairwise_cons.mpr ⟨fun point hmem => (hbetween point hmem).1,
      hprepared ▸ preparedPoints_pairwise _ _ _⟩
  have hcovers : ∀ action ∈ state.preparedActions.values, ∀ point,
      preparedPoint (prepareSequences state) mandate.spendCeilingMinor action = some point →
        point ∈ startPoint state mandate.spendCeilingMinor :: prepared := by
    intro action hmem point hpoint
    refine List.mem_cons_of_mem _ ?_
    rw [← hprepared]
    exact List.mem_filterMap.mpr ⟨action, (List.mem_insertionSort _).mpr hmem, hpoint⟩
  split_ifs with hlast
  · refine ⟨rfl, ?_, fun action hmem point hpoint =>
      List.mem_append_left _ (hcovers action hmem point hpoint), List.getLast?_concat⟩
    refine List.pairwise_append.mpr ⟨hordered, List.pairwise_singleton _ _, ?_⟩
    intro point hmem last hlastmem
    obtain rfl := List.mem_singleton.mp hlastmem
    rcases List.mem_cons.mp hmem with rfl | hmem
    · exact hfinal
    · exact (hbetween point hmem).2
  · exact ⟨rfl, hordered, hcovers, not_not.mp hlast⟩

/-! ## The attempts of a numbered ledger -/

theorem sequence_pairwise [Sha256] {traceId : String} {sequence : Nat}
    {events : List TraceEvent} (h : WellFormedFrom traceId sequence events) :
    events.Pairwise fun a b => a.sequence < b.sequence := by
  induction events generalizing sequence with
  | nil => exact .nil
  | cons first rest ih =>
      refine List.pairwise_cons.mpr ⟨fun event hmem => ?_, ih h.2⟩
      rw [h.1.sequence_eq]
      exact (sequence_bounds h.2 hmem).1

/-- What an attempt was read from: an event of the ledger and the decision on its proposal. -/
theorem weightAttempt_some {decisions : List Decision} {event : TraceEvent}
    {attempt : WeightAttempt}
    (h : weightAttempt ((∅ : Dict String Decision).setAll
      (decisions.map fun decision => (decision.proposalId, decision))) event = some attempt) :
    event.eventType = .toolAttempted ∧ attempt.sequence = event.sequence ∧
      ∃ decision ∈ decisions, decision.proposalId = attempt.proposalId ∧
        decision.policyOutcome = attempt.policyOutcome ∧
        decision.reasonCode = attempt.reasonCode := by
  unfold weightAttempt at h
  split_ifs at h with htool hattempted
  split at h
  · rename_i proposalId arguments hid harguments
    split at h
    · rename_i attempted decision hweight hdecision
      rw [Dict.get?_setAll, Dict.get?_empty, Option.or_none] at hdecision
      obtain ⟨other, hmem, hpair⟩ := List.mem_map.mp (Dict.mem_of_lastEntry hdecision)
      obtain ⟨hproposal, rfl⟩ := Prod.mk.inj hpair
      cases Option.some.inj h
      exact ⟨not_not.mp hattempted, rfl, other, hmem, hproposal, rfl, rfl⟩
    · cases h
  · cases h

/-- The attempts follow the ledger, each with the decision the run holds for its proposal. -/
structure AttemptsDecided (state : TrajectoryState) (provenance : WeightProvenanceProjection) :
    Prop where
  ordered : provenance.attempts.Pairwise fun a b => a.sequence < b.sequence
  decided : ∀ attempt ∈ provenance.attempts,
    (∃ event ∈ state.events, event.eventType = .toolAttempted ∧
      event.sequence = attempt.sequence) ∧
    ∃ decision ∈ state.decisions, decision.proposalId = attempt.proposalId ∧
      decision.policyOutcome = attempt.policyOutcome ∧ decision.reasonCode = attempt.reasonCode

theorem weightProvenance_decided [Sha256] {state : TrajectoryState}
    {provenance : WeightProvenanceProjection}
    (hnumbered : WellFormedFrom state.traceId 1 state.events)
    (h : buildWeightProvenance state = some provenance) : AttemptsDecided state provenance := by
  obtain ⟨fact, -, rfl⟩ := Option.map_eq_some_iff.mp h
  constructor
  · refine List.pairwise_filterMap.mpr ((sequence_pairwise hnumbered).imp ?_)
    intro a b hab attempt hattempt attempt' hattempt'
    obtain ⟨-, hfirst, -⟩ := weightAttempt_some hattempt
    obtain ⟨-, hsecond, -⟩ := weightAttempt_some hattempt'
    rwa [hfirst, hsecond]
  · intro attempt hmem
    obtain ⟨event, hevent, hattempt⟩ := List.mem_filterMap.mp hmem
    obtain ⟨htype, hsequence, hdecision⟩ := weightAttempt_some hattempt
    exact ⟨⟨event, hevent, htype, hsequence.symm⟩, hdecision⟩

/-! ## The projections a service shows -/

end Dashboard

end Manifest
