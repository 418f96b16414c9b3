import Manifest.Ledger.Transition

/-!
# The ledger after a transition

`commit_transition` rechecks the links of the events it is handed; their schema version and,
without events, the snapshot's next sequence are taken as they come.

Main results:

- Theorem `chainHolds_after_iff`: when the extended chain is one the verifier accepts.
- Theorem `commitTransition_usable`: when the trace still verifies and can be extended.
-/

set_option autoImplicit false

namespace Manifest

open HashChain

namespace MemoryTraceStore

/-! ## A usable ledger -/

section Usability

variable [Sha256]

/-- `verify_trace`. -/
def verifyTrace (store : MemoryTraceStore) (traceId : String) (now : Timestamp) :
    Except PyError VerificationResult :=
  match store.runs.get? traceId with
  | none => .error ⟨.traceNotFound, s!"Trace {traceId} was not found."⟩
  | some state =>
      match store.heads.get? traceId with
      | none => .error ⟨.ledgerAppend, s!"Trace {traceId} has no ledger head."⟩
      | some head => .ok (verifyChain traceId state.events head now)

/-- A trace verifies, whenever it is asked. -/
def Verifies (store : MemoryTraceStore) (traceId : String) : Prop :=
  ∀ now, ∃ result, store.verifyTrace traceId now = .ok result ∧ result.valid = true

/-- A caller's state can be extended by any event whose key is unused. -/
def Extends (store : MemoryTraceStore) (state : TrajectoryState) : Prop :=
  ∀ spec now eventId, store.findReplay state spec = none →
    ∃ event, (store.appendEvent state spec now eventId).1.1 = .ok event

theorem verifies_iff {store : MemoryTraceStore} {traceId : String} :
    store.Verifies traceId ↔ ∃ state head, store.runs.get? traceId = some state ∧
      store.heads.get? traceId = some head ∧ ChainHolds traceId state.events head := by
  unfold Verifies verifyTrace
  cases hrun : store.runs.get? traceId with
  | none => simp
  | some state =>
      cases hhead : store.heads.get? traceId with
      | none => simp
      | some head => simp [verifyChain_valid_iff]

/-- An event is appended when the caller's revision and next sequence are the stored ones. -/
theorem extends_iff {store : MemoryTraceStore} {state stored : TrajectoryState}
    {head : LedgerHead} (hrun : store.runs.get? state.traceId = some stored)
    (hrevision : state.storageRevision = stored.storageRevision)
    (hhead : store.heads.get? state.traceId = some head) :
    store.Extends state ↔ state.nextSequence = head.sequence + 1 := by
  have hassert : store.assertRevision state = .ok () := by
    unfold assertRevision
    rw [hrun]
    simp [hrevision]
  have happend (spec : EventSpec) (now : Timestamp) (eventId : String)
      (hunused : store.findReplay state spec = none) :
      (∃ event, (store.appendEvent state spec now eventId).1.1 = .ok event) ↔
        state.nextSequence = head.sequence + 1 := by
    unfold appendEvent
    simp only [hassert, hunused, hhead]
    split
    · rename_i hne
      simp [hne]
    · rename_i heq
      simp [commitEvent, not_not.mp heq]
  constructor
  · intro h
    let spec : EventSpec := ⟨.runStarted, "", [], none, none, none, none⟩
    have hunused : store.findReplay state spec = none := rfl
    exact (happend spec 0 "" hunused).mp (h spec 0 "" hunused)
  · intro heq spec now eventId hunused
    exact (happend spec now eventId hunused).mpr heq

theorem wellFormedFrom_append {traceId : String} {sequence : Nat}
    {xs ys : List TraceEvent} :
    WellFormedFrom traceId sequence (xs ++ ys) ↔
      WellFormedFrom traceId sequence xs ∧ WellFormedFrom traceId (sequence + xs.length) ys := by
  induction xs generalizing sequence with
  | nil => simp [WellFormedFrom]
  | cons x xs ih =>
      simp only [List.cons_append, WellFormedFrom, ih, List.length_cons, and_assoc]
      rw [show sequence + 1 + xs.length = sequence + (xs.length + 1) by omega]

/-- Events that continue a head form a chain from it, at the positions after it. -/
theorem Continues.chain {traceId : String} {sequence : Nat} {eventHash : String}
    {events : List TraceEvent} (h : Continues sequence eventHash events)
    (htrace : ∀ event ∈ events, event.traceId = traceId) :
    Linked TraceEvent.previousHash calculateEventHash eventHash events ∧
      (WellFormedFrom traceId (sequence + 1) events ↔
        ∀ event ∈ events, event.schemaVersion = ledgerSchemaVersion) ∧
      ∀ last, events.getLast? = some last →
        last.sequence = sequence + events.length ∧
          last.eventHash = tip calculateEventHash eventHash events := by
  induction events generalizing sequence eventHash with
  | nil => simp [Linked, WellFormedFrom]
  | cons event rest ih =>
      obtain ⟨hsequence, hprevious, hhash, hrest⟩ := h
      obtain ⟨hlinked, hwell, hlast⟩ := ih hrest fun other hmem =>
        htrace other (List.mem_cons_of_mem _ hmem)
      refine ⟨⟨hprevious, hhash ▸ hlinked⟩, ?_, fun last hsome => ?_⟩
      · rw [List.forall_mem_cons, ← hwell, WellFormedFrom, hsequence]
        refine and_congr_left fun _ => ⟨fun h => h.schemaVersion_eq, fun h => ?_⟩
        exact ⟨hsequence, htrace event (by simp), h, hhash.symm⟩
      · cases hget : rest.getLast? with
        | none =>
            obtain rfl := List.getLast?_eq_none_iff.mp hget
            obtain rfl : event = last := by simpa using hsome
            exact ⟨hsequence, hhash.symm⟩
        | some other =>
            obtain rfl : other = last := by simpa [List.getLast?_cons, hget] using hsome
            obtain ⟨hpos, htip⟩ := hlast other hget
            refine ⟨?_, ?_⟩
            · rw [hpos, hsequence, List.length_cons]
              omega
            · rw [htip, tip, hhash]

/-- The events of an accepted transition extend the stored chain when they are of the
ledger's schema. -/
theorem chainHolds_after_iff {store : MemoryTraceStore} {transition : TraceTransition}
    {stored : TrajectoryState} {head : LedgerHead}
    (hadmits : store.Admits transition stored head)
    (hchain : ChainHolds transition.traceId stored.events head) :
    ChainHolds transition.traceId (stored.events ++ transition.events)
        (headAfter transition.traceId stored head transition.events) ↔
      ∀ event ∈ transition.events, event.schemaVersion = ledgerSchemaVersion := by
  obtain ⟨hlinked, hwell, hlast⟩ := hadmits.continues.chain transition.events_traceId
  rw [hchain.eventHash_eq] at hlinked
  have hposition : 1 + stored.events.length = head.sequence + 1 := by
    rw [hchain.sequence_eq]
    omega
  constructor
  · intro h
    rw [← hwell, ← hposition]
    exact (wellFormedFrom_append.mp h.wellFormed).2
  · intro hschema
    have hwellFormed : WellFormedFrom transition.traceId 1
        (stored.events ++ transition.events) := by
      refine wellFormedFrom_append.mpr ⟨hchain.wellFormed, ?_⟩
      rw [hposition]
      exact hwell.mpr hschema
    have hlinks := linked_append.mpr ⟨hchain.linked, hlinked⟩
    unfold headAfter
    cases hget : transition.events.getLast? with
    | none =>
        rw [List.getLast?_eq_none_iff.mp hget, List.append_nil]
        exact hchain
    | some last =>
        obtain ⟨hsequence, htip⟩ := hlast last hget
        refine ⟨hwellFormed, hlinks, List.length_append.symm, ?_, ?_, rfl⟩
        · dsimp only
          rw [List.length_append, hsequence, hchain.sequence_eq]
        · dsimp only
          rw [htip, tip_append, hchain.eventHash_eq]

/-- An accepted transition leaves a ledger that verifies and can be extended exactly when
its events are of the ledger's schema and, where it brings none, its snapshot's next sequence
is the stored head's. -/
theorem commitTransition_usable (store : MemoryTraceStore) (transition : TraceTransition)
    (state : TrajectoryState) (store' : MemoryTraceStore)
    (hverifies : store.Verifies transition.traceId)
    (haccepts : store.commitTransition transition = (.ok state, store')) :
    store'.Verifies transition.traceId ∧ store'.Extends state ↔
      (∀ event ∈ transition.events, event.schemaVersion = ledgerSchemaVersion) ∧
        (transition.events = [] → ∀ head, store.heads.get? transition.traceId = some head →
          transition.state.nextSequence = head.sequence + 1) := by
  have hends := commitTransition_ends store transition
  rw [haccepts] at hends
  cases hends with
  | returned admits compatible =>
      rename_i stored head
      obtain ⟨stored', head', hrun, hhead, hchain⟩ := verifies_iff.mp hverifies
      obtain rfl := Option.some.inj (hrun.symm.trans admits.run_eq)
      obtain rfl := Option.some.inj (hhead.symm.trans admits.head_eq)
      have htrace : (staged transition stored').traceId = transition.traceId :=
        transition.state_traceId
      have hrun' : (store.committed transition stored' head').2.runs.get? transition.traceId =
          some (store.committed transition stored' head').1 := by
        simp only [committed, persistState]
        rw [← htrace, Dict.get?_set_self]
      have hhead' : (store.committed transition stored' head').2.heads.get? transition.traceId =
          some (headAfter transition.traceId stored' head' transition.events) := by
        simp only [committed, persistState]
        rw [Dict.get?_set_self]
      refine and_congr ?_ ?_
      · refine Iff.trans ?_ (chainHolds_after_iff admits hchain)
        rw [verifies_iff]
        constructor
        · rintro ⟨other, otherHead, hother, hotherHead, h⟩
          obtain rfl := Option.some.inj (hother.symm.trans hrun')
          obtain rfl := Option.some.inj (hotherHead.symm.trans hhead')
          exact h
        · exact fun h => ⟨_, _, hrun', hhead', h⟩
      · have htrace' : (store.committed transition stored' head').1.traceId =
            transition.traceId := transition.state_traceId
        rw [← htrace'] at hrun' hhead'
        rw [extends_iff hrun' rfl hhead']
        show (withEvents _ transition.events).nextSequence = _ ↔ _
        unfold withEvents headAfter
        cases hget : transition.events.getLast? with
        | none => simp [List.getLast?_eq_none_iff.mp hget, admits.head_eq]
        | some last =>
            have hne : transition.events ≠ [] := by
              rintro hnil
              simp [hnil] at hget
            simp [hne]

/-- A transition that every check lets through and whose receipts are compatible returns. -/
theorem commitTransition_of_admits {store : MemoryTraceStore} {transition : TraceTransition}
    {stored : TrajectoryState} {head : LedgerHead}
    (hadmits : store.Admits transition stored head)
    (hcompatible : Compatible store.effectReceipts transition.effectReceipts) :
    store.commitTransition transition =
      (.ok (store.committed transition stored head).1,
        (store.committed transition stored head).2) := by
  have hends := commitTransition_ends store transition
  generalize store.commitTransition transition = reply at hends ⊢
  cases hends with
  | refused x none_admitted => exact absurd hadmits (none_admitted stored head)
  | clashed x admits first => exact absurd hcompatible first.not_compatible
  | returned admits compatible =>
      obtain ⟨rfl, rfl⟩ := hadmits.unique admits
      rfl

end Usability

end MemoryTraceStore

namespace Demo

/-- A repository with the demo run only. -/
def registered : MemoryTraceStore :=
  (MemoryTraceStore.createRun {} started 0).2

/-- The head of a run without events. -/
def emptyHead : LedgerHead :=
  { traceId := "TRACE-1", sequence := 0, eventCount := 0, eventHash := genesisHash
    schemaVersion := ledgerSchemaVersion, updatedAt := 0 }

theorem registered_verifies : registered.Verifies "TRACE-1" := by
  refine MemoryTraceStore.verifies_iff.mpr ⟨started, emptyHead, rfl, rfl, ?_⟩
  exact ⟨trivial, trivial, rfl, rfl, rfl, rfl⟩

/-- The event that opens the demo run. -/
def startedEvent : TraceEvent :=
  MemoryTraceStore.buildEvent started emptyHead ⟨.runStarted, "Started", [], none, none, none, none⟩
    0 "EVT-1"

theorem started_numbered_traceId (nextSequence : Nat) :
    ({ started with nextSequence := nextSequence } : TrajectoryState).traceId = "TRACE-1" :=
  rfl

/-- Of no records at all, each belongs to the demo trace. -/
theorem traceId_of_none {α : Type} (traceId : α → String) :
    ∀ record ∈ ([] : List α), traceId record = "TRACE-1" :=
  fun _ h => absurd h List.not_mem_nil

/-- A transition that brings some events and a snapshot with some next sequence. -/
def staging (events : List TraceEvent) (nextSequence : Nat)
    (h : ∀ event ∈ events, event.traceId = "TRACE-1") : TraceTransition :=
  { traceId := "TRACE-1", expectedRevision := 0
    state := { started with nextSequence := nextSequence }
    events := events
    state_traceId := started_numbered_traceId nextSequence
    events_traceId := h
    decisions_traceId := traceId_of_none Decision.traceId
    approvals_traceId := traceId_of_none ApprovalRecord.traceId
    replays_traceId := traceId_of_none ReplayRecord.traceId
    receipts_traceId := traceId_of_none EffectReceipt.traceId }

/-- The first event of the demo run, staged. -/
def opening : TraceTransition :=
  staging [startedEvent] 1 (by simp [startedEvent, MemoryTraceStore.buildEvent, started])

/-- A snapshot from elsewhere, staged without events. -/
def renumbering : TraceTransition :=
  staging [] 7 (traceId_of_none TraceEvent.traceId)

theorem opening_admitted : registered.Admits opening started emptyHead := by
  refine ⟨rfl, rfl, rfl, ⟨rfl, rfl, rfl, trivial⟩, ?_⟩
  exact ⟨List.nodup_nil, by simp [opening, staging]⟩

theorem renumbering_admitted : registered.Admits renumbering started emptyHead := by
  refine ⟨rfl, rfl, rfl, trivial, ?_⟩
  exact ⟨List.nodup_nil, by simp [renumbering, staging]⟩

end Demo

theorem commitTransition_usable_opening :
    let reply := Demo.registered.committed Demo.opening Demo.started Demo.emptyHead
    (reply.2.Verifies "TRACE-1" ∧ reply.2.Extends reply.1 ↔
      (∀ event ∈ Demo.opening.events, event.schemaVersion = ledgerSchemaVersion) ∧
        (Demo.opening.events = [] → ∀ head, Demo.registered.heads.get? "TRACE-1" = some head →
          Demo.opening.state.nextSequence = head.sequence + 1)) :=
  MemoryTraceStore.commitTransition_usable Demo.registered Demo.opening _ _
    Demo.registered_verifies
    (MemoryTraceStore.commitTransition_of_admits Demo.opening_admitted
      (MemoryTraceStore.compatible_nil _))

/-- A snapshot with a next sequence of its own is accepted, and the state it returns cannot
be extended. -/
theorem commitTransition_unusable :
    ∃ state store', Demo.registered.Verifies "TRACE-1" ∧
      Demo.registered.commitTransition Demo.renumbering = (.ok state, store') ∧
      ¬ (store'.Verifies "TRACE-1" ∧ store'.Extends state) := by
  refine ⟨_, _, Demo.registered_verifies,
    MemoryTraceStore.commitTransition_of_admits Demo.renumbering_admitted
      (MemoryTraceStore.compatible_nil _), ?_⟩
  rintro ⟨-, hextends⟩
  have hrun : (Demo.registered.committed Demo.renumbering Demo.started Demo.emptyHead).2.runs.get?
      "TRACE-1" = some
        (Demo.registered.committed Demo.renumbering Demo.started Demo.emptyHead).1 := rfl
  have hnext := (MemoryTraceStore.extends_iff hrun rfl rfl).mp hextends
  exact absurd hnext (show ¬ 7 = 1 by decide)

end Manifest
