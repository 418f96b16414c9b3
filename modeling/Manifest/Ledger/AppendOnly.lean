import Manifest.Ledger.Transition

/-!
# What the writes keep of the history

`append_event`, `append_decision` and `add_approval` compare the revision of the caller's
state with the stored one and then store the caller's state as a whole, its list of events
included.  `commit_transition` starts from the stored events.

Main results:

- Theorem `perform_eventsOf`: the events a write leaves.
- Theorem `perform_appends_iff`: when the stored events are a prefix of them.
- Theorem `commitTransition_appends`: a transition only adds events.
-/

set_option autoImplicit false

namespace Manifest

namespace MemoryTraceStore

/-! ## The three writes -/

/-- A write that is handed the caller's state. -/
inductive StateWrite where
  | appendEvent (spec : EventSpec) (now : Timestamp) (eventId : String)
  | appendDecision (decision : Decision)
  | addApproval (approval : ApprovalRecord)

section Writes

variable [Sha256] (store : MemoryTraceStore) (state : TrajectoryState)

/-- The repository after a write. -/
def perform : StateWrite → MemoryTraceStore
  | .appendEvent spec now eventId => (store.appendEvent state spec now eventId).2
  | .appendDecision decision => (store.appendDecision state decision).2
  | .addApproval approval => (store.addApproval state approval).2

omit [Sha256] in
/-- The stored events of a trace. -/
def eventsOf (traceId : String) : List TraceEvent :=
  match store.runs.get? traceId with
  | some stored => stored.events
  | none => []

omit [Sha256] in
/-- The checks that follow the comparison of the revisions let the write through. -/
def Passes : StateWrite → Prop
  | .appendEvent spec _ _ => store.findReplay state spec = none ∧
      ∃ head, store.heads.get? state.traceId = some head ∧
        state.nextSequence = head.sequence + 1
  | .appendDecision decision => decision.decisionId ∉ state.decisions.map (·.decisionId)
  | .addApproval approval => store.approvals.get? approval.approvalId = none

/-- The events a write adds to those of the caller. -/
def added : StateWrite → List TraceEvent
  | .appendEvent spec now eventId =>
      match store.heads.get? state.traceId with
      | some head => [buildEvent state head spec now eventId]
      | none => []
  | .appendDecision _ => []
  | .addApproval _ => []

omit [Sha256] in
/-- An event identifier of a write's own: `uuid4` is never repeated. -/
def FreshId (events : List TraceEvent) : StateWrite → Prop
  | .appendEvent _ _ eventId => ∀ event ∈ events, event.eventId ≠ eventId
  | .appendDecision _ => True
  | .addApproval _ => True

variable {store state}

omit [Sha256] in
theorem eventsOf_stored {stored : TrajectoryState} {traceId : String}
    (h : store.runs.get? traceId = some stored) : store.eventsOf traceId = stored.events := by
  unfold eventsOf
  rw [h]

omit [Sha256] in
theorem assertRevision_current {stored : TrajectoryState}
    (hstored : store.runs.get? state.traceId = some stored)
    (hrevision : state.storageRevision = stored.storageRevision) :
    store.assertRevision state = .ok () := by
  unfold assertRevision
  rw [hstored]
  exact if_neg (not_not.mpr hrevision)

/-- A write that carries the current revision and passes its checks leaves the caller's
events with its own; any other leaves the stored ones. -/
theorem perform_eventsOf {stored : TrajectoryState}
    (hstored : store.runs.get? state.traceId = some stored)
    (hrevision : state.storageRevision = stored.storageRevision) (write : StateWrite) :
    (store.Passes state write →
      (store.perform state write).eventsOf state.traceId =
        state.events ++ store.added state write) ∧
    (¬ store.Passes state write →
      (store.perform state write).eventsOf state.traceId = stored.events) := by
  have hcurrent := assertRevision_current hstored hrevision
  cases write with
  | appendEvent spec now eventId =>
      constructor
      · rintro ⟨hreplay, head, hhead, hsequence⟩
        have hwritten : (store.perform state (.appendEvent spec now eventId)) =
            (store.commitEvent state (buildEvent state head spec now eventId) spec).2 := by
          simp only [perform, appendEvent, hcurrent, hreplay, hhead, hsequence, ne_eq,
            not_true_eq_false, if_false]
        rw [hwritten]
        simp [commitEvent, persistState, eventsOf, withEvent, added, hhead]
      · intro hblocked
        have hunchanged : store.perform state (.appendEvent spec now eventId) = store := by
          simp only [perform, appendEvent, hcurrent]
          cases hreplay : store.findReplay state spec with
          | some replay =>
              obtain ⟨key, fingerprint, event⟩ := replay
              dsimp only
              split_ifs <;> rfl
          | none =>
              cases hhead : store.heads.get? state.traceId with
              | none => rfl
              | some head =>
                  have hsequence : state.nextSequence ≠ head.sequence + 1 := fun h =>
                    hblocked ⟨hreplay, head, hhead, h⟩
                  dsimp only
                  rw [if_pos hsequence]
        rw [hunchanged, eventsOf_stored hstored]
  | appendDecision decision =>
      constructor
      · intro hfresh
        have hany : state.decisions.any (fun item => item.decisionId = decision.decisionId) =
            false := by simpa [Passes] using hfresh
        simp [perform, appendDecision, hcurrent, hany, persistState, eventsOf, added]
      · intro hlisted
        have hany : state.decisions.any (fun item => item.decisionId = decision.decisionId) =
            true := by simpa [Passes] using hlisted
        have hunchanged : store.perform state (.appendDecision decision) = store := by
          simp [perform, appendDecision, hcurrent, hany]
        rw [hunchanged, eventsOf_stored hstored]
  | addApproval approval =>
      constructor
      · intro habsent
        have hcontains : store.approvals.contains approval.approvalId = false := by
          simpa [Passes, Dict.contains] using habsent
        simp [perform, addApproval, hcurrent, hcontains, persistState, eventsOf, added]
      · intro hknown
        have hcontains : store.approvals.contains approval.approvalId = true := by
          simpa [Passes, Dict.contains, Option.ne_none_iff_isSome] using hknown
        have hunchanged : store.perform state (.addApproval approval) = store := by
          simp [perform, addApproval, hcurrent, hcontains]
        rw [hunchanged, eventsOf_stored hstored]

omit [Sha256] in
/-- Events with an event of its own identifier have no longer prefix in older events. -/
theorem prefix_of_fresh {events caller : List TraceEvent} {event : TraceEvent}
    (hfresh : ∀ other ∈ events, other.eventId ≠ event.eventId)
    (h : events <+: caller ++ [event]) : events <+: caller := by
  rcases List.prefix_concat_iff.mp h with rfl | h
  · exact absurd rfl (hfresh event (by simp))
  · exact h

/-- A write with the current revision keeps the stored events as a prefix of those it leaves
exactly when it stores nothing or the caller's own list begins with them. -/
theorem perform_appends_iff (store : MemoryTraceStore) (state stored : TrajectoryState)
    (write : StateWrite) (hstored : store.runs.get? state.traceId = some stored)
    (hrevision : state.storageRevision = stored.storageRevision)
    (hfresh : FreshId stored.events write) :
    store.eventsOf state.traceId <+: (store.perform state write).eventsOf state.traceId ↔
      (store.Passes state write → stored.events <+: state.events) := by
  obtain ⟨hpasses, hblocked⟩ := perform_eventsOf hstored hrevision write
  rw [eventsOf_stored hstored]
  by_cases hwrites : store.Passes state write
  · rw [hpasses hwrites]
    simp only [hwrites, true_imp_iff]
    constructor
    · intro h
      cases write with
      | appendEvent spec now eventId =>
          obtain ⟨-, head, hhead, -⟩ := hwrites
          rw [added, hhead] at h
          refine prefix_of_fresh ?_ h
          exact hfresh
      | appendDecision decision => simpa [added] using h
      | addApproval approval => simpa [added] using h
    · exact fun h => h.trans (List.prefix_append _ _)
  · rw [hblocked hwrites]
    simp [hwrites]

/-- A transition only adds events, whatever the state it carries holds. -/
theorem commitTransition_appends (store : MemoryTraceStore) (transition : TraceTransition) :
    store.eventsOf transition.traceId <+:
      (store.commitTransition transition).2.eventsOf transition.traceId := by
  have hends := store.commitTransition_ends transition
  generalize store.commitTransition transition = committed at hends
  cases hends with
  | refused x hnone => exact List.prefix_refl _
  | clashed x hadmits hfirst => exact List.prefix_refl _
  | returned hadmits hcompatible =>
      rw [eventsOf_stored hadmits.run_eq]
      simp [MemoryTraceStore.committed, persistState, eventsOf, staged, withEvents,
        transition.state_traceId]

end Writes

end MemoryTraceStore

namespace Demo

/-- A repository with the demo run and its first event. -/
def recorded : MemoryTraceStore :=
  (MemoryTraceStore.appendEvent (MemoryTraceStore.createRun {} started 0).2 started
    { eventType := .runStarted, summary := "Started benign journey." } 0 "EVT-1").2

/-- The recorded run as a caller may hand it back, with a list of events of its choice. -/
def handedBack (events : List TraceEvent) : TrajectoryState :=
  { started with nextSequence := 2, storageRevision := 1, events := events }

theorem recorded_run : ∃ stored, recorded.runs.get? "TRACE-1" = some stored ∧
    stored.storageRevision = 1 ∧ stored.events.length = 1 :=
  ⟨_, rfl, rfl, rfl⟩

end Demo

/-- A caller that kept the history appends to it. -/
theorem perform_appends_iff_kept :
    Demo.recorded.eventsOf "TRACE-1" <+:
      (Demo.recorded.perform (Demo.handedBack (Demo.recorded.eventsOf "TRACE-1"))
        (.addApproval Demo.stagedApproval)).eventsOf "TRACE-1" := by
  obtain ⟨stored, hstored, hrevision, -⟩ := Demo.recorded_run
  refine (MemoryTraceStore.perform_appends_iff Demo.recorded
    (Demo.handedBack (Demo.recorded.eventsOf "TRACE-1")) stored (.addApproval Demo.stagedApproval)
    hstored hrevision.symm trivial).mpr fun _ => ?_
  rw [← MemoryTraceStore.eventsOf_stored hstored]
  exact List.prefix_refl _

/-- An approval that is added with a stripped state takes the history with it. -/
theorem not_perform_appends :
    ¬ ∀ (store : MemoryTraceStore) (state stored : TrajectoryState)
      (write : MemoryTraceStore.StateWrite),
      store.runs.get? state.traceId = some stored →
      state.storageRevision = stored.storageRevision →
      store.eventsOf state.traceId <+: (store.perform state write).eventsOf state.traceId := by
  intro h
  obtain ⟨stored, hstored, hrevision, hlength⟩ := Demo.recorded_run
  have hkept := (h Demo.recorded (Demo.handedBack []) stored (.addApproval Demo.stagedApproval)
    hstored hrevision.symm).length_le
  have hafter : (Demo.recorded.perform (Demo.handedBack [])
      (.addApproval Demo.stagedApproval)).eventsOf "TRACE-1" = [] := rfl
  have hbefore : (Demo.recorded.eventsOf "TRACE-1").length = 1 := by
    rw [MemoryTraceStore.eventsOf_stored hstored, hlength]
  have htrace : (Demo.handedBack []).traceId = "TRACE-1" := rfl
  rw [htrace, hafter, hbefore] at hkept
  simp at hkept

end Manifest
