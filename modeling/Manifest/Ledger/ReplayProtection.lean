import Manifest.Demo
import Manifest.Ledger.Transition

/-!
# Replays of the in-memory repository

An append finds the event of an earlier append under its idempotency key; an approval command
finds the fingerprint recorded under its key.  `commit_transition` writes events and
replays past both lookups: its keyed events enter no replay table, and its replays are
filed under the hash of a key that is looked up as it is.

Main results:

- Theorem `Tracked.perform`: careful calls keep every keyed event in the replay table.
- Theorem `careful_protects`: what holds throughout a run of careful calls.
-/

set_option autoImplicit false

namespace Manifest

namespace MemoryTraceStore

/-! ## Runs of calls -/

/-- The calls that write events or replays, and the creation of the runs they write to. -/
inductive StoreCall where
  | createRun (state : TrajectoryState) (now : Timestamp)
  | appendEvent (state : TrajectoryState) (spec : EventSpec) (now : Timestamp)
      (eventId : String)
  | recordApprovalReplay (approvalId idempotencyKey fingerprint : String)
  | commitTransition (transition : TraceTransition)

/-- The description of an event, as its caller gave it. -/
def specOf (event : TraceEvent) : EventSpec where
  eventType := event.eventType
  summary := event.summary
  details := event.details
  agent := event.agent
  toolName := event.toolName
  effectClass := event.effectClass
  idempotencyKey := event.idempotencyKey

/-- The text `event_description_fingerprint` digests. -/
def descriptionText (traceId : String) (spec : EventSpec) (idempotencyKey : String) : String :=
  canonicalJson <| .dict
    [ ("agent", optStr (spec.agent.map (·.value))),
      ("details", .dict spec.details),
      ("effect_class", optStr (spec.effectClass.map (·.value))),
      ("event_type", .str spec.eventType.value),
      ("idempotency_key", .str idempotencyKey),
      ("schema_version", .str ledgerSchemaVersion),
      ("summary", .str spec.summary),
      ("tool_name", optStr spec.toolName),
      ("trace_id", .str traceId) ]

/-- The events of a list under an idempotency key. -/
def under (key : String) (events : List TraceEvent) : List TraceEvent :=
  events.filter fun event => event.idempotencyKey = some key

section Calls

variable [Sha256]

def StoreCall.perform (store : MemoryTraceStore) : StoreCall → MemoryTraceStore
  | .createRun state now => (store.createRun state now).2
  | .appendEvent state spec now eventId => (store.appendEvent state spec now eventId).2
  | .recordApprovalReplay approvalId idempotencyKey fingerprint =>
      store.recordApprovalReplay approvalId idempotencyKey fingerprint
  | .commitTransition transition => (store.commitTransition transition).2

/-- The repository after a run of calls. -/
def contents (calls : List StoreCall) : MemoryTraceStore :=
  calls.foldl StoreCall.perform {}

/-! ## Protection -/

/-- Each idempotency key is on at most one event of a trace; to append under it again
returns that event, or raises when the description differs, and changes nothing. -/
structure ReplayProtected (store : MemoryTraceStore) : Prop where
  once : ∀ traceId stored key, store.runs.get? traceId = some stored →
    (under key stored.events).length ≤ 1
  again : ∀ state stored event key spec now eventId,
    store.runs.get? state.traceId = some stored →
    state.storageRevision = stored.storageRevision →
    event ∈ under key stored.events → spec.idempotencyKey = some key →
    (descriptionText state.traceId spec key = descriptionText state.traceId (specOf event) key →
      store.appendEvent state spec now eventId = ((.ok event, state), store)) ∧
    (descriptionText state.traceId spec key ≠ descriptionText state.traceId (specOf event) key →
      CollisionFree [descriptionText state.traceId spec key,
        descriptionText state.traceId (specOf event) key] →
      ∃ x, store.appendEvent state spec now eventId = ((.error x, state), store))

/-- The approval replays of a transition that returned are found under their keys. -/
def ReplaysFound (store : MemoryTraceStore) (transition : TraceTransition) : Prop :=
  ∀ state, (store.commitTransition transition).1 = .ok state →
    ∀ replay ∈ transition.replayRecords, replay.kind = .approval →
      ∀ key, opaqueKeyHash key = .ok replay.keyHash →
        (store.commitTransition transition).2.getApprovalReplayFingerprint
          replay.resultReference key = some replay.fingerprint

/-- What replay protection says about a call. -/
def StepProtected (store : MemoryTraceStore) (call : StoreCall) : Prop :=
  ReplayProtected (call.perform store) ∧
    match call with
    | .commitTransition transition => store.ReplaysFound transition
    | _ => True

/-- A call that stays clear of what the two lookups miss.  An append that finds no replay is
handed no keyed event that is not stored; a transition that is admitted brings no keyed event,
and each of its approval replays is on record under the key itself. -/
def Careful (store : MemoryTraceStore) : StoreCall → Prop
  | .createRun _ _ => True
  | .appendEvent state spec _ _ => ∀ stored, store.runs.get? state.traceId = some stored →
      state.storageRevision = stored.storageRevision → store.findReplay state spec = none →
      ∀ key, (under key state.events).Sublist (under key stored.events)
  | .recordApprovalReplay _ _ _ => True
  | .commitTransition transition => ∀ stored head, store.Admits transition stored head →
      (∀ event ∈ transition.events, event.idempotencyKey = none) ∧
        ∀ replay ∈ transition.replayRecords, replay.kind = .approval →
          ∀ key, opaqueKeyHash key = .ok replay.keyHash →
            (((replay.resultReference, key), replay.fingerprint) ∈ transition.replayEntries ∨
              store.approvalReplays.get? (replay.resultReference, key) =
                some replay.fingerprint) ∧
            ∀ fingerprint,
              ((replay.resultReference, key), fingerprint) ∈ transition.replayEntries →
              fingerprint = replay.fingerprint

/-! ## The invariant -/

/-- Every keyed event has its entry in the replay table, and shares its key with no other
event of the trace. -/
structure Tracked (store : MemoryTraceStore) : Prop where
  once : ∀ traceId stored key, store.runs.get? traceId = some stored →
    (under key stored.events).length ≤ 1
  recorded : ∀ traceId stored event key, store.runs.get? traceId = some stored →
    event ∈ under key stored.events →
    store.eventReplays.get? (traceId, key) =
      some (eventDescriptionFingerprint traceId (specOf event) key, event)

omit [Sha256] in
theorem under_append (key : String) (xs ys : List TraceEvent) :
    under key (xs ++ ys) = under key xs ++ under key ys :=
  List.filter_append xs ys

omit [Sha256] in
theorem mem_under {key : String} {events : List TraceEvent} {event : TraceEvent} :
    event ∈ under key events ↔ event ∈ events ∧ event.idempotencyKey = some key := by
  simp [under]

theorem Tracked.empty : Tracked {} where
  once := by
    intro traceId stored key h
    simp at h
  recorded := by
    intro traceId stored event key h
    simp at h

/-- A write of one run that keeps the replay table. -/
theorem Tracked.set_run {store : MemoryTraceStore} (h : store.Tracked) (traceId : String)
    (state : TrajectoryState)
    (hstate : ∀ key, (under key state.events).length ≤ 1 ∧
      ∀ event ∈ under key state.events, store.eventReplays.get? (traceId, key) =
        some (eventDescriptionFingerprint traceId (specOf event) key, event))
    {store' : MemoryTraceStore} (hruns : store'.runs = store.runs.set traceId state)
    (hreplays : store'.eventReplays = store.eventReplays) : store'.Tracked := by
  constructor
  · intro traceId' stored key hget
    rw [hruns, Dict.get?_set] at hget
    split_ifs at hget with htrace
    · obtain rfl := Option.some.inj hget
      exact (hstate key).1
    · exact h.once traceId' stored key hget
  · intro traceId' stored event key hget hmem
    rw [hruns, Dict.get?_set] at hget
    rw [hreplays]
    split_ifs at hget with htrace
    · obtain rfl := Option.some.inj hget
      rw [htrace]
      exact (hstate key).2 event hmem
    · exact h.recorded traceId' stored event key hget hmem

/-! ## What each call keeps -/

/-- An append leaves the repository alone, or commits an event whose key it did not find. -/
theorem appendEvent_commits (store : MemoryTraceStore) (state : TrajectoryState)
    (spec : EventSpec) (now : Timestamp) (eventId : String) :
    (store.appendEvent state spec now eventId).2 = store ∨
    ∃ stored head, store.runs.get? state.traceId = some stored ∧
      state.storageRevision = stored.storageRevision ∧ store.findReplay state spec = none ∧
      store.appendEvent state spec now eventId =
        store.commitEvent state (buildEvent state head spec now eventId) spec := by
  unfold appendEvent
  cases hrevision : store.assertRevision state with
  | error x => exact .inl rfl
  | ok u =>
      obtain ⟨stored, hstored, hcurrent⟩ := assertRevision_ok hrevision
      cases hreplay : store.findReplay state spec with
      | some replay =>
          obtain ⟨key, fingerprint, event⟩ := replay
          dsimp only
          split_ifs <;> exact .inl rfl
      | none =>
          cases hhead : store.heads.get? state.traceId with
          | none => exact .inl rfl
          | some head =>
              dsimp only
              split_ifs
              · exact .inl rfl
              · exact .inr ⟨stored, head, hstored, hcurrent, rfl, rfl⟩

omit [Sha256] in
theorem findReplay_none {store : MemoryTraceStore} {state : TrajectoryState} {spec : EventSpec}
    {key : String} (h : store.findReplay state spec = none) (hkey : spec.idempotencyKey = some key) :
    store.eventReplays.get? (state.traceId, key) = none := by
  unfold findReplay at h
  rw [hkey] at h
  simpa using h

/-- An event under a key that was not found comes with its entry. -/
theorem Tracked.commitEvent {store : MemoryTraceStore} (h : store.Tracked)
    {state stored : TrajectoryState} {head : LedgerHead} {spec : EventSpec}
    (hstored : store.runs.get? state.traceId = some stored)
    (hreplay : store.findReplay state spec = none)
    (hkeep : ∀ key, (under key state.events).Sublist (under key stored.events)) (now : Timestamp) (eventId : String) :
    (store.commitEvent state (buildEvent state head spec now eventId) spec).2.Tracked := by
  have hfresh (key : String) (hkey : spec.idempotencyKey = some key) :
      under key state.events = [] := by
    refine List.eq_nil_iff_forall_not_mem.mpr fun event hmem => ?_
    have hfound := h.recorded state.traceId stored event key hstored ((hkeep key).subset hmem)
    rw [findReplay_none hreplay hkey] at hfound
    cases hfound
  generalize hevent : buildEvent state head spec now eventId = event
  have hkeyed : event.idempotencyKey = spec.idempotencyKey := by
    rw [← hevent]
    rfl
  have hspec : specOf event = spec := by
    rw [← hevent]
    rfl
  constructor
  · intro traceId other key hget
    simp only [MemoryTraceStore.commitEvent, persistState, withEvent, Dict.get?_set] at hget
    split_ifs at hget
    · obtain rfl := Option.some.inj hget
      rw [under_append, List.length_append]
      by_cases hkey : spec.idempotencyKey = some key
      · rw [hfresh key hkey]
        simp [under, hkeyed, hkey]
      · have hle := (hkeep key).length_le.trans (h.once state.traceId stored key hstored)
        simpa [under, hkeyed, hkey] using hle
    · exact h.once traceId other key hget
  · intro traceId other event' key hget hmem
    simp only [MemoryTraceStore.commitEvent, persistState, withEvent, Dict.get?_set] at hget ⊢
    split_ifs at hget with htrace
    · obtain rfl := Option.some.inj hget
      subst htrace
      rw [under_append, List.mem_append] at hmem
      rcases hmem with hmem | hmem
      · have hrecorded := h.recorded state.traceId stored event' key hstored
          ((hkeep key).subset hmem)
        cases hkey : spec.idempotencyKey with
        | none => exact hrecorded
        | some key' =>
            have hne : key ≠ key' := by
              rintro rfl
              rw [hfresh key hkey] at hmem
              cases hmem
            dsimp only
            rw [Dict.get?_set_ne _ _ (by simp [hne])]
            exact hrecorded
      · obtain ⟨hmem, hkey⟩ := mem_under.mp hmem
        obtain rfl := List.mem_singleton.mp hmem
        rw [hkeyed] at hkey
        simp only [hkey, Dict.get?_set_self, hspec]
    · have hrecorded := h.recorded traceId other event' key hget hmem
      cases hkey : spec.idempotencyKey with
      | none => exact hrecorded
      | some key' =>
          dsimp only
          rw [Dict.get?_set_ne _ _ (by simp [htrace])]
          exact hrecorded

theorem Tracked.createRun {store : MemoryTraceStore} (h : store.Tracked)
    (state : TrajectoryState) (now : Timestamp) : (store.createRun state now).2.Tracked := by
  unfold MemoryTraceStore.createRun
  split_ifs with hexists hbegun
  · exact h
  · exact h
  · have hevents : state.events = [] := by
      simp only [Bool.or_eq_true, Bool.not_eq_true', decide_eq_true_eq, not_or] at hbegun
      simpa using hbegun.1
    refine h.set_run state.traceId { state with storageRevision := 0 } (fun key => ?_) rfl rfl
    simp [under, hevents]

theorem Tracked.commitTransition {store : MemoryTraceStore} (h : store.Tracked)
    {transition : TraceTransition}
    (hunkeyed : ∀ stored head, store.Admits transition stored head →
      ∀ event ∈ transition.events, event.idempotencyKey = none) :
    (store.commitTransition transition).2.Tracked := by
  have hends := store.commitTransition_ends transition
  generalize store.commitTransition transition = reply at hends
  cases hends with
  | refused x hnone => exact h
  | clashed x hadmits hfirst => exact ⟨h.once, h.recorded⟩
  | @returned stored head hadmits hcompatible =>
      have hevents (key : String) : under key (staged transition stored).events =
          under key stored.events := by
        have hnone : under key transition.events = [] := by
          refine List.eq_nil_iff_forall_not_mem.mpr fun event hmem => ?_
          obtain ⟨hmem, hkey⟩ := mem_under.mp hmem
          rw [hunkeyed stored head hadmits event hmem] at hkey
          cases hkey
        show under key (stored.events ++ transition.events) = _
        rw [under_append, hnone, List.append_nil]
      refine h.set_run transition.traceId
        (store.persistState (staged transition stored)).1 (fun key => ?_) ?_ rfl
      · show (under key (staged transition stored).events).length ≤ 1 ∧ _
        rw [show (store.persistState (staged transition stored)).1.events =
          (staged transition stored).events from rfl, hevents]
        refine ⟨h.once _ _ key hadmits.run_eq, fun event hmem => ?_⟩
        exact h.recorded _ _ event key hadmits.run_eq hmem
      · rw [← transition.state_traceId]
        rfl

/-- A careful call keeps every keyed event in the replay table. -/
theorem Tracked.perform {store : MemoryTraceStore} (h : store.Tracked) {call : StoreCall}
    (hcareful : store.Careful call) : (call.perform store).Tracked := by
  cases call with
  | createRun state now => exact h.createRun state now
  | appendEvent state spec now eventId =>
      rcases appendEvent_commits store state spec now eventId with
        hsame | ⟨stored, head, hstored, hcurrent, hreplay, hcommit⟩
      · show (store.appendEvent state spec now eventId).2.Tracked
        rw [hsame]
        exact h
      · show (store.appendEvent state spec now eventId).2.Tracked
        rw [hcommit]
        exact h.commitEvent hstored hreplay (hcareful stored hstored hcurrent hreplay) now eventId
  | recordApprovalReplay approvalId idempotencyKey fingerprint => exact ⟨h.once, h.recorded⟩
  | commitTransition transition => exact h.commitTransition fun stored head hadmits => (hcareful stored head hadmits).1

/-- A tracked repository is protected. -/
theorem Tracked.protected {store : MemoryTraceStore} (h : store.Tracked) :
    ReplayProtected store where
  once := h.once
  again := by
    intro state stored event key spec now eventId hstored hrevision hmem hkey
    have hrecorded := h.recorded state.traceId stored event key hstored hmem
    have hcurrent : store.assertRevision state = .ok () := by
      unfold assertRevision
      rw [hstored]
      exact if_neg (not_not.mpr hrevision)
    have hreplay : store.findReplay state spec = some (key,
        eventDescriptionFingerprint state.traceId (specOf event) key, event) := by
      unfold findReplay
      simp only [hkey, hrecorded, Option.map_some]
    have htagged (spec : EventSpec) : eventDescriptionFingerprint state.traceId spec key =
        Sha256.tagged (descriptionText state.traceId spec key) := rfl
    constructor
    · intro hsame
      unfold appendEvent
      simp only [hcurrent, hreplay, htagged, hsame, ne_eq, not_true_eq_false, if_false]
    · intro hdiffer hfree
      have hfingerprint : eventDescriptionFingerprint state.traceId (specOf event) key ≠
          eventDescriptionFingerprint state.traceId spec key := by
        intro heq
        exact hdiffer (hfree _ (by simp) _ (by simp) (tagged_injective heq.symm))
      unfold appendEvent
      simp only [hcurrent, hreplay, hfingerprint, ne_eq, not_false_eq_true, if_true]
      exact ⟨_, rfl⟩

/-- The approval replays of a careful transition were found before it and are found after. -/
theorem replaysFound_of_careful {store : MemoryTraceStore} {transition : TraceTransition}
    (hcareful : store.Careful (.commitTransition transition)) : store.ReplaysFound transition := by
  intro state hreturned replay hmem hkind key hhash
  have hends := store.commitTransition_ends transition
  generalize store.commitTransition transition = reply at hends hreturned ⊢
  cases hends with
  | refused x hnone => cases hreturned
  | clashed x hadmits hfirst => cases hreturned
  | returned hadmits hcompatible =>
      obtain ⟨hfound, honly⟩ := (hcareful _ _ hadmits).2 replay hmem hkind key hhash
      show (store.approvalReplays.setAll transition.replayEntries).get? _ = _
      rw [Dict.get?_setAll]
      cases hlast : Dict.lastEntry (replay.resultReference, key) transition.replayEntries with
      | none =>
          rcases hfound with hentry | hstored
          · obtain ⟨fingerprint, hsome⟩ := Dict.lastEntry_of_mem hentry
            rw [hlast] at hsome
            cases hsome
          · exact hstored
      | some fingerprint =>
          rw [honly fingerprint (Dict.mem_of_lastEntry hlast)]
          rfl

theorem contents_concat (calls : List StoreCall) (call : StoreCall) :
    contents (calls ++ [call]) = call.perform (contents calls) := by
  simp [contents]

/-- A run of careful calls is tracked throughout. -/
theorem tracked_contents {calls : List StoreCall}
    (hcareful : ∀ front call back, calls = front ++ call :: back →
      (contents front).Careful call) : (contents calls).Tracked := by
  induction calls using List.reverseRecOn with
  | nil => exact Tracked.empty
  | append_singleton front call ih =>
      rw [contents_concat]
      refine Tracked.perform (ih fun first other back heq => ?_) (hcareful front call [] rfl)
      exact hcareful first other (back ++ [call]) (by rw [heq]; simp)

end Calls

end MemoryTraceStore

namespace Demo

/-- The creation of the demo run. -/
def beginning : MemoryTraceStore.StoreCall :=
  .createRun started 0

/-- An append under an idempotency key. -/
def keyedAppend : MemoryTraceStore.StoreCall :=
  .appendEvent started
    { eventType := .runStarted, summary := "Started benign journey."
      idempotencyKey := some "start" } 0 "EVT-1"

theorem started_traceId : started.traceId = "TRACE-1" :=
  rfl

theorem filing_events : ∀ event ∈ ([] : List TraceEvent), event.traceId = "TRACE-1" :=
  List.forall_mem_nil _

theorem filing_decisions : ∀ decision ∈ ([] : List Decision), decision.traceId = "TRACE-1" :=
  List.forall_mem_nil _

theorem filing_approvals : ∀ approval ∈ ([] : List ApprovalRecord), approval.traceId = "TRACE-1" :=
  List.forall_mem_nil _

theorem filing_receipts : ∀ receipt ∈ ([] : List EffectReceipt), receipt.traceId = "TRACE-1" :=
  List.forall_mem_nil _

theorem filing_replays (keyHash : String) :
    ∀ record ∈
      ([{ traceId := "TRACE-1", kind := .approval, keyHash := keyHash
          fingerprint := "approved", resultReference := "APR-1", createdAt := 0 }] :
        List ReplayRecord), record.traceId = "TRACE-1" :=
  fun _ h => List.mem_singleton.mp h ▸ rfl

/-- A transition with the replay of an approval command. -/
def filing (keyHash : String) : TraceTransition :=
  { traceId := "TRACE-1", expectedRevision := 0, state := started
    replayRecords :=
      [{ traceId := "TRACE-1", kind := .approval, keyHash := keyHash
         fingerprint := "approved", resultReference := "APR-1", createdAt := 0 }]
    state_traceId := started_traceId
    events_traceId := filing_events
    decisions_traceId := filing_decisions
    approvals_traceId := filing_approvals
    replays_traceId := filing_replays keyHash
    receipts_traceId := filing_receipts }

/-- A transition to the new run returns, and its replay is filed under what it calls the hash
of the key. -/
theorem filing_files (keyHash : String) :
    (∃ state, ((MemoryTraceStore.contents [beginning]).commitTransition (filing keyHash)).1 =
      .ok state) ∧
    ∀ key, ((MemoryTraceStore.contents [beginning]).commitTransition
      (filing keyHash)).2.getApprovalReplayFingerprint "APR-1" key =
        if keyHash = key then some "approved" else none := by
  refine ⟨⟨_, rfl⟩, fun key => ?_⟩
  show (Dict.set (∅ : Dict (String × String) String) ("APR-1", keyHash) "approved").get?
    ("APR-1", key) = _
  rw [Dict.get?_set]
  simp [eq_comm]

end Demo

end Manifest
