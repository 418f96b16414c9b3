import Manifest.Domain.Models
import Manifest.Lib.Assignments

/-!
# The dashboard projection

The read model of a run: one risk point for each policy family that first signals anything
but `ALLOW`, twenty points each and a hundred at most.

Main results:

- Theorem `buildRiskPoints_eq`: the points, from the signals that raised them.
- Theorem `buildRiskPoints_scored`: families, sequences, deltas and totals of the points.
-/

set_option autoImplicit false

namespace Manifest

/-! ## The projection -/

structure RiskSignalPoint where
  sequence : Nat
  decisionId : String
  family : String
  reasonCode : String
  outcome : DecisionOutcome
  delta : Nat
  total : Nat
deriving DecidableEq

/-- `details.get("decision_id")`, if it is a string. -/
def TraceEvent.decisionId (event : TraceEvent) : Option String :=
  match event.details.get? "decision_id" with
  | some (.str decisionId) => some decisionId
  | _ => none

namespace Dashboard

def riskSignalMethod : String :=
  "20_per_unique_non_allow_policy_family_capped_100"

/-- One round of the loop over the events. -/
def recordSequence (values : Dict String Nat) (event : TraceEvent) : Dict String Nat :=
  if event.eventType ≠ .policyDecided then values
  else
    match event.decisionId with
    | some decisionId => values.set decisionId event.sequence
    | none => values

/-- `_decision_sequences`. -/
def decisionSequences (state : TrajectoryState) : Dict String Nat :=
  state.events.foldl recordSequence ∅

/-- The loop variables of `_build_risk_points`. -/
structure RiskCursor where
  seenFamilies : List String := []
  total : Nat := 0
  points : List RiskSignalPoint := []

/-- One round of the inner loop. -/
def scoreSignal (sequence : Nat) (decision : Decision) (cursor : RiskCursor)
    (policySignal : PolicySignal) : RiskCursor :=
  if policySignal.outcome = .allow then cursor
  else if policySignal.family ∈ cursor.seenFamilies then cursor
  else
    let total := min 100 (cursor.total + 20)
    { seenFamilies := policySignal.family :: cursor.seenFamilies
      total := total
      points := cursor.points ++
        [ { sequence := sequence
            decisionId := decision.decisionId
            family := policySignal.family
            reasonCode := policySignal.reasonCode
            outcome := policySignal.outcome
            delta := total - cursor.total
            total := total } ] }

/-- One round of the outer loop. -/
def scoreDecision (sequences : Dict String Nat) (cursor : RiskCursor) (decision : Decision) :
    RiskCursor :=
  match sequences.get? decision.decisionId with
  | none => cursor
  | some sequence => decision.reasons.foldl (scoreSignal sequence decision) cursor

/-- `_build_risk_points`. -/
def buildRiskPoints (state : TrajectoryState) : List RiskSignalPoint :=
  (state.decisions.foldl (scoreDecision (decisionSequences state)) {}).points

/-- `risk_points[-1].total if risk_points else 0`. -/
def riskSignalScore (state : TrajectoryState) : Nat :=
  match (buildRiskPoints state).getLast? with
  | some point => point.total
  | none => 0

/-! ## Decided runs -/

/-- The event of a policy decision. -/
def decides (decision : Decision) (event : TraceEvent) : Bool :=
  event.eventType = .policyDecided && event.decisionId = some decision.decisionId

/-- Decisions under identifiers of their own, each decided by one event, in the order of
their events in the ledger. -/
structure DecidedInOrder (state : TrajectoryState) : Prop where
  distinct : (state.decisions.map (·.decisionId)).Nodup
  once : ∀ decision ∈ state.decisions, (state.events.filter (decides decision)).length = 1
  ordered : state.decisions.Pairwise fun earlier later =>
    ∀ a ∈ state.events, ∀ b ∈ state.events,
      decides earlier a = true → decides later b = true → a.sequence ≤ b.sequence

/-- What an event assigns to the sequences. -/
def sequenceEntry (event : TraceEvent) : Option (String × Nat) :=
  if event.eventType ≠ .policyDecided then none
  else event.decisionId.map fun decisionId => (decisionId, event.sequence)

theorem recordSequences_eq (events : List TraceEvent) (values : Dict String Nat) :
    events.foldl recordSequence values = values.setAll (events.filterMap sequenceEntry) := by
  induction events generalizing values with
  | nil => rfl
  | cons event rest ih =>
      rw [List.foldl_cons, ih, List.filterMap_cons]
      unfold recordSequence sequenceEntry
      by_cases hdecided : event.eventType = .policyDecided
      · cases event.decisionId <;> simp [hdecided, Dict.setAll]
      · simp [hdecided]

theorem mem_sequenceEntries {state : TrajectoryState} {decision : Decision} {n : Nat} :
    (decision.decisionId, n) ∈ state.events.filterMap sequenceEntry ↔
      ∃ event ∈ state.events, decides decision event = true ∧ event.sequence = n := by
  simp only [List.mem_filterMap, sequenceEntry, decides]
  constructor
  · rintro ⟨event, hmem, hentry⟩
    split_ifs at hentry with hdecided
    obtain ⟨id, hid, hpair⟩ := Option.map_eq_some_iff.mp hentry
    obtain ⟨rfl, rfl⟩ := Prod.mk.inj hpair
    exact ⟨event, hmem, by simp [not_not.mp hdecided, hid], rfl⟩
  · rintro ⟨event, hmem, hdecides, rfl⟩
    simp only [Bool.and_eq_true, decide_eq_true_eq] at hdecides
    exact ⟨event, hmem, by simp [hdecides.1, hdecides.2]⟩

/-- The sequence found for a decision is that of its event. -/
theorem DecidedInOrder.sequence_eq {state : TrajectoryState} (h : DecidedInOrder state)
    {decision : Decision} (hmem : decision ∈ state.decisions) :
    ∃ event ∈ state.events, decides decision event = true ∧
      (decisionSequences state).get? decision.decisionId = some event.sequence := by
  obtain ⟨event, honly⟩ := List.length_eq_one_iff.mp (h.once decision hmem)
  have hevent : event ∈ state.events ∧ decides decision event = true := by
    rw [← List.mem_filter, honly]
    exact List.mem_singleton_self event
  refine ⟨event, hevent.1, hevent.2, ?_⟩
  obtain ⟨n, hn⟩ := Dict.lastEntry_of_mem (mem_sequenceEntries.mpr ⟨event, hevent.1, hevent.2, rfl⟩)
  obtain ⟨other, hother, hdecides, hsequence⟩ := mem_sequenceEntries.mp (Dict.mem_of_lastEntry hn)
  have hsame : other ∈ state.events.filter (decides decision) :=
    List.mem_filter.mpr ⟨hother, hdecides⟩
  rw [honly, List.mem_singleton] at hsame
  subst hsame
  rw [decisionSequences, recordSequences_eq, Dict.get?_setAll, hn, ← hsequence]
  rfl

/-! ## What the loops score -/

/-- The signals that count. -/
def nonAllow (policySignal : PolicySignal) : Bool :=
  policySignal.outcome ≠ .allow

/-- The families of the signals that count, in the order of the decisions. -/
def nonAllowFamilies (state : TrajectoryState) : List String :=
  ((state.decisions.flatMap (·.reasons)).filter nonAllow).map (·.family)

/-- The total after `n` points. -/
def capped (n : Nat) : Nat :=
  min 100 (20 * n)

/-- The total before the point that follows `points`. -/
def lastTotal (points : List RiskSignalPoint) : Nat :=
  match points.getLast? with
  | some point => point.total
  | none => 0

/-- Points that raise the total, each by its delta. -/
def Raised (points : List RiskSignalPoint) : Prop :=
  ∀ front point back, points = front ++ point :: back →
    point.total = capped (front.length + 1) ∧ point.delta = point.total - lastTotal front

/-- The loop variables once the signals `scored` were met, each under its sequence. -/
structure Scored (cursor : RiskCursor) (scored : List (Nat × PolicySignal)) : Prop where
  families_eq : cursor.points.map (·.family) = (scored.map (·.2.family)).eraseDups
  seen_iff : ∀ family, family ∈ cursor.seenFamilies ↔ family ∈ scored.map (·.2.family)
  sequences : (cursor.points.map (·.sequence)).Sublist (scored.map (·.1))
  total_eq : cursor.total = capped cursor.points.length
  raised : Raised cursor.points

theorem Scored.start : Scored {} [] where
  families_eq := rfl
  seen_iff := by simp
  sequences := List.Sublist.refl _
  total_eq := rfl
  raised := by
    intro front point back h
    simp at h

theorem Raised.concat {points : List RiskSignalPoint} {point : RiskSignalPoint}
    (h : Raised points) (htotal : point.total = capped (points.length + 1))
    (hdelta : point.delta = point.total - lastTotal points) : Raised (points ++ [point]) := by
  intro front other back heq
  rcases List.eq_nil_or_concat back with rfl | ⟨back, last, rfl⟩
  · obtain ⟨rfl, hlast⟩ := List.append_inj' heq rfl
    obtain rfl := (List.cons.inj hlast).1
    exact ⟨htotal, hdelta⟩
  · rw [List.concat_eq_append, ← List.cons_append, ← List.append_assoc] at heq
    obtain ⟨hpoints, -⟩ := List.append_inj' heq rfl
    exact h front other back hpoints

theorem Raised.lastTotal_eq {points : List RiskSignalPoint} (h : Raised points) :
    lastTotal points = capped points.length := by
  rcases List.eq_nil_or_concat points with rfl | ⟨front, last, rfl⟩
  · rfl
  · rw [List.concat_eq_append] at h ⊢
    have htotal := (h front last [] rfl).1
    simpa [lastTotal] using htotal

theorem eraseDups_concat (families : List String) (family : String) :
    (families ++ [family]).eraseDups =
      families.eraseDups ++ if family ∈ families then [] else [family] := by
  rw [List.eraseDups_append]
  by_cases hmem : family ∈ families <;> simp [List.removeAll, hmem, List.eraseDups_cons]

/-- One signal that counts. -/
theorem Scored.scoreSignal {cursor : RiskCursor} {scored : List (Nat × PolicySignal)}
    (h : Scored cursor scored) (sequence : Nat) (decision : Decision)
    {policySignal : PolicySignal} (hsignal : nonAllow policySignal = true) :
    Scored (Dashboard.scoreSignal sequence decision cursor policySignal)
      (scored ++ [(sequence, policySignal)]) := by
  have hallow : policySignal.outcome ≠ .allow := by simpa [nonAllow] using hsignal
  unfold Dashboard.scoreSignal
  rw [if_neg hallow]
  split
  · rename_i hseen
    have hknown : policySignal.family ∈ scored.map (·.2.family) := (h.seen_iff _).mp hseen
    exact
      { h with
        families_eq := by
          rw [h.families_eq, List.map_append, List.map_cons, List.map_nil, eraseDups_concat,
            if_pos hknown, List.append_nil]
        seen_iff := by
          intro family
          rw [h.seen_iff, List.map_append, List.mem_append]
          constructor
          · exact Or.inl
          · rintro (hmem | hmem)
            · exact hmem
            · rwa [List.mem_singleton.mp hmem]
        sequences := by
          rw [List.map_append]
          exact h.sequences.trans (List.sublist_append_left _ _) }
  · rename_i hseen
    have hnew : policySignal.family ∉ scored.map (·.2.family) := fun hmem =>
      hseen ((h.seen_iff _).mpr hmem)
    have htotal : min 100 (cursor.total + 20) = capped (cursor.points.length + 1) := by
      rw [h.total_eq]
      unfold capped
      omega
    exact
      { families_eq := by
          rw [List.map_append, List.map_append, List.map_cons, List.map_nil, List.map_cons,
            List.map_nil, eraseDups_concat, if_neg hnew, h.families_eq]
        seen_iff := by
          intro family
          rw [List.mem_cons, h.seen_iff, List.map_append, List.mem_append, List.map_cons,
            List.map_nil, List.mem_singleton, or_comm]
        sequences := by
          rw [List.map_append, List.map_append]
          exact h.sequences.append (List.Sublist.refl _)
        total_eq := by
          rw [List.length_append]
          exact htotal
        raised := h.raised.concat htotal (by rw [h.raised.lastTotal_eq, h.total_eq]) }

/-- The signals of one decision. -/
theorem Scored.scoreSignals {cursor : RiskCursor} {scored : List (Nat × PolicySignal)}
    (h : Scored cursor scored) (sequence : Nat) (decision : Decision)
    (reasons : List PolicySignal) :
    Scored (reasons.foldl (Dashboard.scoreSignal sequence decision) cursor)
      (scored ++ (reasons.filter nonAllow).map fun policySignal => (sequence, policySignal)) := by
  induction reasons generalizing cursor scored with
  | nil => simpa using h
  | cons policySignal rest ih =>
      rw [List.foldl_cons, List.filter_cons]
      cases hsignal : nonAllow policySignal with
      | true => simpa using ih (h.scoreSignal sequence decision hsignal)
      | false =>
          have hallow : policySignal.outcome = .allow := by simpa [nonAllow] using hsignal
          have hskip : Dashboard.scoreSignal sequence decision cursor policySignal = cursor :=
            if_pos hallow
          rw [hskip]
          exact ih h

/-- The signals of a decision that count, under its sequence. -/
def scoredSignals (sequences : Dict String Nat) (decision : Decision) :
    List (Nat × PolicySignal) :=
  match sequences.get? decision.decisionId with
  | none => []
  | some sequence =>
      (decision.reasons.filter nonAllow).map fun policySignal => (sequence, policySignal)

/-- The signals of all decisions. -/
theorem Scored.scoreDecisions {cursor : RiskCursor} {scored : List (Nat × PolicySignal)}
    (h : Scored cursor scored) (sequences : Dict String Nat) (decisions : List Decision) :
    Scored (decisions.foldl (scoreDecision sequences) cursor)
      (scored ++ decisions.flatMap (scoredSignals sequences)) := by
  induction decisions generalizing cursor scored with
  | nil => simpa using h
  | cons decision rest ih =>
      rw [List.foldl_cons, List.flatMap_cons, ← List.append_assoc]
      refine ih ?_
      unfold scoreDecision scoredSignals
      cases sequences.get? decision.decisionId with
      | none => simpa using h
      | some sequence => exact h.scoreSignals sequence decision decision.reasons

/-! ## The points of a decided run -/

/-- Every decision of a decided run is scored. -/
theorem DecidedInOrder.families_eq {state : TrajectoryState} (h : DecidedInOrder state) :
    (state.decisions.flatMap (scoredSignals (decisionSequences state))).map (·.2.family) =
      nonAllowFamilies state := by
  have hscored : ∀ decisions ⊆ state.decisions,
      (decisions.flatMap (scoredSignals (decisionSequences state))).map (·.2.family) =
        ((decisions.flatMap (·.reasons)).filter nonAllow).map (·.family) := by
    intro decisions hsub
    induction decisions with
    | nil => rfl
    | cons decision rest ih =>
        obtain ⟨event, -, -, hget⟩ := h.sequence_eq (hsub List.mem_cons_self)
        rw [List.flatMap_cons, List.flatMap_cons, List.map_append, List.filter_append,
          List.map_append, ih fun d hd => hsub (List.mem_cons_of_mem _ hd)]
        simp [scoredSignals, hget, Function.comp_def]
  exact hscored state.decisions fun d hd => hd

theorem mem_scoredSignals {sequences : Dict String Nat} {decision : Decision}
    {entry : Nat × PolicySignal} (h : entry ∈ scoredSignals sequences decision) :
    sequences.get? decision.decisionId = some entry.1 := by
  unfold scoredSignals at h
  split at h
  · cases h
  · rename_i sequence hget
    obtain ⟨policySignal, -, rfl⟩ := List.mem_map.mp h
    exact hget

/-- The decisions of a decided run are scored in the order of the ledger. -/
theorem DecidedInOrder.sorted {state : TrajectoryState} (h : DecidedInOrder state) :
    ((state.decisions.flatMap (scoredSignals (decisionSequences state))).map (·.1)).Pairwise
      (· ≤ ·) := by
  rw [List.pairwise_map, List.pairwise_flatMap]
  constructor
  · intro decision hmem
    refine List.pairwise_of_forall_mem_list fun a ha b hb => ?_
    have hsame := (mem_scoredSignals ha).symm.trans (mem_scoredSignals hb)
    exact (Option.some.inj hsame).le
  · refine h.ordered.imp_of_mem ?_
    intro earlier later hearlier hlater hordered a ha b hb
    obtain ⟨event, hevent, hdecides, hget⟩ := h.sequence_eq hearlier
    obtain ⟨event', hevent', hdecides', hget'⟩ := h.sequence_eq hlater
    have hle := hordered event hevent event' hevent' hdecides hdecides'
    rwa [Option.some.inj (hget.symm.trans (mem_scoredSignals ha)),
      Option.some.inj (hget'.symm.trans (mem_scoredSignals hb))] at hle

/-- One point for each policy family with a signal other than `ALLOW`, in the order of
their first signals; the points are in ledger order, each raises the total by its delta, and
the total stops at a hundred. -/
theorem buildRiskPoints_scored (state : TrajectoryState) (h : DecidedInOrder state) :
    let points := buildRiskPoints state
    points.map (·.family) = (nonAllowFamilies state).eraseDups ∧
      (points.map (·.sequence)).Pairwise (· ≤ ·) ∧
      (∀ front point back, points = front ++ point :: back →
        lastTotal front + point.delta = point.total) ∧
      (∀ point ∈ points, point.total ≤ 100) ∧
      riskSignalScore state = min 100 (20 * (nonAllowFamilies state).eraseDups.length) := by
  intro points
  have hscored : Scored (state.decisions.foldl (scoreDecision (decisionSequences state)) {})
      (state.decisions.flatMap (scoredSignals (decisionSequences state))) := by
    simpa using Scored.start.scoreDecisions (decisionSequences state) state.decisions
  have hfamilies : points.map (·.family) = (nonAllowFamilies state).eraseDups := by
    rw [← h.families_eq]
    exact hscored.families_eq
  refine ⟨hfamilies, h.sorted.sublist hscored.sequences, ?_, ?_, ?_⟩
  · intro front point back heq
    obtain ⟨htotal, hdelta⟩ := hscored.raised front point back heq
    have hlast : lastTotal front = capped front.length := by
      refine Raised.lastTotal_eq fun first other rest hfront => ?_
      exact hscored.raised first other (rest ++ point :: back) (heq.trans (by simp [hfront]))
    rw [hdelta, htotal, hlast]
    unfold capped
    omega
  · intro point hmem
    obtain ⟨front, back, heq⟩ := List.append_of_mem hmem
    rw [(hscored.raised front point back heq).1]
    exact Nat.min_le_left _ _
  · have hscore : riskSignalScore state = lastTotal points := rfl
    rw [hscore, ← hfamilies, List.length_map]
    exact hscored.raised.lastTotal_eq

end Dashboard

namespace Demo

def flag (family : String) (outcome : DecisionOutcome) : PolicySignal where
  family := family
  policyId := "POL-" ++ family
  outcome := outcome
  reasonCode := family ++ "_checked"
  because := ""

def flagged (decisionId : String) (reasons : List PolicySignal) : Decision where
  decisionId := decisionId
  requestId := "REQ-1"
  traceId := "TR-1"
  proposalId := "PROP-1"
  agent := .carrier
  toolName := "select_carrier"
  effectClass := none
  policyOutcome := .guide
  appliedOutcome := .guide
  enforced := true
  reasonCode := "checked"
  because := ""
  reasons := reasons
  guidance := none
  policyVersion := "demo-v1"
  engineName := "python"
  evaluationMs := ⟨0, "0.0", by decide⟩
  policyBundleHash := none
  createdAt := 0

def decidedEvent (sequence : Nat) (decisionId : String) : TraceEvent where
  eventId := "EVT"
  traceId := "TR-1"
  sequence := sequence
  eventType := .policyDecided
  summary := ""
  details := [("decision_id", .str decisionId)]
  occurredAt := 0
  schemaVersion := "ledger-event-v1"
  previousHash := ""
  eventHash := ""

/-- Seven families in two decisions, one of them in both. -/
def flaggedRun : TrajectoryState where
  traceId := "TR-1"
  orderId := "ORD-8842"
  decisions :=
    [ flagged "DEC-1" [flag "provenance" .guide, flag "spend" .allow, flag "cold_chain" .block],
      flagged "DEC-2" [flag "cold_chain" .guide, flag "spend" .block, flag "lane" .block,
        flag "issuer" .block, flag "owner" .block, flag "mandate" .block] ]
  events := [decidedEvent 4 "DEC-1", decidedEvent 9 "DEC-2"]

end Demo

/-- Seven families exceed the cap. -/
theorem buildRiskPoints_scored_flagged :
    Dashboard.DecidedInOrder Demo.flaggedRun ∧
      Dashboard.riskSignalScore Demo.flaggedRun =
        min 100 (20 * (Dashboard.nonAllowFamilies Demo.flaggedRun).eraseDups.length) := by
  have hdecided : Dashboard.DecidedInOrder Demo.flaggedRun :=
    { distinct := by decide
      once := by decide
      ordered := by decide }
  exact ⟨hdecided, (Dashboard.buildRiskPoints_scored Demo.flaggedRun hdecided).2.2.2.2⟩

end Manifest
