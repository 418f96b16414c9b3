import Manifest.Ledger.Canonical

/-!
# In-memory trace repository

The repository behind the runtime: runs, approvals, ledger heads and the replay
and receipt tables.  Every operation is one atomic step under the store's lock.
Operations that are handed the caller's state object return it as well, since
they mutate it; the stored copy is detached.

Main results:

- Theorem `appendEvent_cases`: an append raises and changes nothing, replays and
  changes nothing, or persists the caller's state with one more event.
- Theorems `createRun_cases`, `appendDecision_cases` and `addApproval_cases`: the same for
  the other writes.
-/

set_option autoImplicit false

namespace Manifest

structure MemoryTraceStore where
  runs : Dict String TrajectoryState := ∅
  approvals : Dict String ApprovalRecord := ∅
  approvalReplays : Dict (String × String) String := ∅
  heads : Dict String LedgerHead := ∅
  eventReplays : Dict (String × String) (String × TraceEvent) := ∅
  effectReceipts : Dict (String × String) EffectReceipt := ∅

namespace MemoryTraceStore

variable (store : MemoryTraceStore)

/-! ## Runs -/

def createRun (state : TrajectoryState) (now : Timestamp) :
    (Except PyError Unit × TrajectoryState) × MemoryTraceStore :=
  if store.runs.contains state.traceId then
    ((.error ⟨.traceSequence, s!"Trace {state.traceId} already exists."⟩, state), store)
  else if !state.events.isEmpty || state.nextSequence ≠ 1 then
    ((.error ⟨.traceSequence,
      s!"Trace {state.traceId} must start with an empty event list."⟩, state), store)
  else
    let state := { state with storageRevision := 0 }
    let head : LedgerHead :=
      { traceId := state.traceId, sequence := 0, eventCount := 0, eventHash := genesisHash
        schemaVersion := ledgerSchemaVersion, updatedAt := now }
    ((.ok (), state),
      { store with
        runs := store.runs.set state.traceId state
        heads := store.heads.set state.traceId head })

/-- `get_state` and `load_trace`: a detached copy. -/
def loadTrace (traceId : String) : Except PyError TrajectoryState :=
  match store.runs.get? traceId with
  | some state => .ok state
  | none => .error ⟨.traceNotFound, s!"Trace {traceId} was not found."⟩

/-- `_assert_revision` on the stored run, after the lookup. -/
def assertRevision (state : TrajectoryState) : Except PyError Unit :=
  match store.runs.get? state.traceId with
  | none => .error ⟨.traceNotFound, s!"Trace {state.traceId} was not found."⟩
  | some stored =>
      if state.storageRevision ≠ stored.storageRevision then
        .error ⟨.traceRevisionConflict, s!"Trace {state.traceId} revision changed."⟩
      else .ok ()

/-- `_persist_state`: bump the caller's revision and store a copy. -/
def persistState (state : TrajectoryState) : TrajectoryState × MemoryTraceStore :=
  let state := { state with storageRevision := state.storageRevision + 1 }
  (state, { store with runs := store.runs.set state.traceId state })

/-! ## Events -/

/-- The event an append builds on a head. -/
def buildEvent [Sha256] (state : TrajectoryState) (head : LedgerHead) (spec : EventSpec)
    (now : Timestamp) (eventId : String) : TraceEvent :=
  let unhashed : TraceEvent :=
    { eventId := eventId, traceId := state.traceId, sequence := head.sequence + 1
      eventType := spec.eventType, summary := spec.summary, details := spec.details
      agent := spec.agent, toolName := spec.toolName, effectClass := spec.effectClass
      occurredAt := now, schemaVersion := ledgerSchemaVersion
      previousHash := head.eventHash, eventHash := ""
      idempotencyKey := spec.idempotencyKey }
  { unhashed with eventHash := calculateEventHash unhashed }

/-- The caller's state with one more event. -/
def withEvent (state : TrajectoryState) (event : TraceEvent) : TrajectoryState :=
  { state with events := state.events ++ [event], nextSequence := event.sequence + 1 }

/-- The head after an event. -/
def headOf (event : TraceEvent) (eventCount : Nat) : LedgerHead :=
  { traceId := event.traceId, sequence := event.sequence, eventCount := eventCount
    eventHash := event.eventHash, schemaVersion := ledgerSchemaVersion
    updatedAt := event.occurredAt }

/-- Commit an event that passed every check. -/
def commitEvent [Sha256] (state : TrajectoryState) (event : TraceEvent) (spec : EventSpec) :
    (Except PyError TraceEvent × TrajectoryState) × MemoryTraceStore :=
  let state := withEvent state event
  let store := { store with
    heads := store.heads.set state.traceId (headOf event state.events.length)
    eventReplays :=
      match spec.idempotencyKey with
      | none => store.eventReplays
      | some key =>
          store.eventReplays.set (state.traceId, key)
            (eventDescriptionFingerprint state.traceId spec key, event) }
  let (state, store) := store.persistState state
  ((.ok event, state), store)

/-- The replay an append finds under its idempotency key. -/
def findReplay (state : TrajectoryState) (spec : EventSpec) :
    Option (String × (String × TraceEvent)) :=
  match spec.idempotencyKey with
  | none => none
  | some key => (store.eventReplays.get? (state.traceId, key)).map fun replay => (key, replay)

def appendEvent [Sha256] (state : TrajectoryState) (spec : EventSpec) (now : Timestamp)
    (eventId : String) : (Except PyError TraceEvent × TrajectoryState) × MemoryTraceStore :=
  match store.assertRevision state with
  | .error x => ((.error x, state), store)
  | .ok () =>
      match store.findReplay state spec with
      | some (key, fingerprint, event) =>
          if fingerprint ≠ eventDescriptionFingerprint state.traceId spec key then
            ((.error ⟨.ledgerIdempotencyConflict,
              s!"Ledger idempotency key {key} was reused with different event fields."⟩,
              state), store)
          else ((.ok event, state), store)
      | none =>
          match store.heads.get? state.traceId with
          | none =>
              ((.error ⟨.ledgerAppend,
                s!"Trace {state.traceId} has no initialized ledger head."⟩, state), store)
          | some head =>
              if state.nextSequence ≠ head.sequence + 1 then
                let expected := head.sequence + 1
                ((.error ⟨.traceSequence,
                  s!"Trace {state.traceId} expected sequence {expected}, received {state.nextSequence}."⟩,
                  state), store)
              else
                store.commitEvent state (buildEvent state head spec now eventId) spec

/-! ## Decisions -/

def appendDecision (state : TrajectoryState) (decision : Decision) :
    (Except PyError Unit × TrajectoryState) × MemoryTraceStore :=
  match store.assertRevision state with
  | .error x => ((.error x, state), store)
  | .ok () =>
      if state.decisions.any (fun item => item.decisionId = decision.decisionId) then
        ((.error ⟨.traceSequence, s!"Decision {decision.decisionId} already exists."⟩, state),
          store)
      else
        let state := { state with decisions := state.decisions ++ [decision] }
        let (state, store) := store.persistState state
        ((.ok (), state), store)

/-! ## Approvals -/

def addApproval (state : TrajectoryState) (approval : ApprovalRecord) :
    (Except PyError Unit × TrajectoryState) × MemoryTraceStore :=
  match store.assertRevision state with
  | .error x => ((.error x, state), store)
  | .ok () =>
      if store.approvals.contains approval.approvalId then
        ((.error ⟨.traceSequence, s!"Approval {approval.approvalId} already exists."⟩, state),
          store)
      else
        let store := { store with
          approvals := store.approvals.set approval.approvalId approval }
        let (state, store) := store.persistState state
        ((.ok (), state), store)

def getApproval (approvalId : String) : Except PyError ApprovalRecord :=
  match store.approvals.get? approvalId with
  | some approval => .ok approval
  | none => .error ⟨.approvalNotFound, s!"Approval {approvalId} was not found."⟩

/-- The stored version must be the new one or its predecessor. -/
def replaceApproval (approval : ApprovalRecord) :
    Except PyError Unit × MemoryTraceStore :=
  match store.approvals.get? approval.approvalId with
  | none =>
      (.error ⟨.approvalNotFound, s!"Approval {approval.approvalId} was not found."⟩, store)
  | some current =>
      if current.version ≠ approval.version && current.version ≠ approval.version - 1 then
        (.error ⟨.approvalPersistenceConflict, "Approval version changed concurrently."⟩, store)
      else
        (.ok (), { store with approvals := store.approvals.set approval.approvalId approval })

/-- Creation order, then approval ID. -/
def approvalBefore (a b : ApprovalRecord) : Bool :=
  a.createdAt < b.createdAt || (a.createdAt = b.createdAt && a.approvalId ≤ b.approvalId)

def listApprovals (traceId : Option String) (status : Option ApprovalStatus) :
    List ApprovalRecord :=
  let items := store.approvals.values.filter fun item =>
    (match traceId with
      | some id => decide (item.traceId = id)
      | none => true) &&
    (match status with
      | some wanted => decide (item.status = wanted)
      | none => true)
  items.insertionSort fun a b => approvalBefore a b = true

def getApprovalReplayFingerprint (approvalId idempotencyKey : String) : Option String :=
  store.approvalReplays.get? (approvalId, idempotencyKey)

def recordApprovalReplay (approvalId idempotencyKey fingerprint : String) :
    MemoryTraceStore :=
  { store with
    approvalReplays := store.approvalReplays.set (approvalId, idempotencyKey) fingerprint }

/-! ## Effect receipts -/

def getEffectReceipt (traceId keyHash : String) : Option EffectReceipt :=
  store.effectReceipts.get? (traceId, keyHash)

def putEffectReceipt (receipt : EffectReceipt) :
    Except PyError EffectReceipt × MemoryTraceStore :=
  match store.effectReceipts.get? (receipt.traceId, receipt.keyHash) with
  | some existing =>
      if existing.fingerprint ≠ receipt.fingerprint then
        (.error ⟨.effectReceiptConflict,
          "An effect idempotency key was reused with different arguments."⟩, store)
      else (.ok existing, store)
  | none =>
      if store.runs.contains receipt.traceId = false then
        (.error ⟨.traceNotFound, s!"Trace {receipt.traceId} was not found."⟩, store)
      else
        (.ok receipt, { store with
          effectReceipts :=
            store.effectReceipts.set (receipt.traceId, receipt.keyHash) receipt })

/-! ## What the state-carrying writes can do -/

variable {store}

theorem assertRevision_ok {state : TrajectoryState}
    (h : store.assertRevision state = .ok ()) :
    ∃ stored, store.runs.get? state.traceId = some stored ∧
      state.storageRevision = stored.storageRevision := by
  unfold assertRevision at h
  split at h
  · cases h
  · rename_i stored hget
    split at h
    · cases h
    · rename_i hrev
      exact ⟨stored, hget, not_not.mp hrev⟩

theorem findReplay_some {state : TrajectoryState} {spec : EventSpec} {key fingerprint : String}
    {event : TraceEvent} (h : store.findReplay state spec = some (key, fingerprint, event)) :
    spec.idempotencyKey = some key ∧
      store.eventReplays.get? (state.traceId, key) = some (fingerprint, event) := by
  unfold findReplay at h
  split at h
  · cases h
  · rename_i key' hkey
    simp only [Option.map_eq_some_iff] at h
    obtain ⟨replay, hget, hpair⟩ := h
    cases hpair
    exact ⟨hkey, hget⟩

/-- A new run is refused without an effect, or stored under a free trace. -/
theorem createRun_cases (store : MemoryTraceStore) (state : TrajectoryState) (now : Timestamp) :
    (∃ x, store.createRun state now = ((.error x, state), store)) ∨
    (store.runs.get? state.traceId = none ∧ ∃ head,
      let state' := { state with storageRevision := 0 }
      store.createRun state now =
        ((.ok (), state'), { store with
          runs := store.runs.set state.traceId state'
          heads := store.heads.set state.traceId head })) := by
  unfold createRun
  split
  · exact .inl ⟨_, rfl⟩
  · rename_i hcontains
    have hfree : store.runs.get? state.traceId = none := by
      simpa [Dict.contains] using hcontains
    split
    · exact .inl ⟨_, rfl⟩
    · exact .inr ⟨hfree, _, rfl⟩

/-- An append raises without an effect, replays a keyed event without an effect, or commits. -/
theorem appendEvent_cases [Sha256] (store : MemoryTraceStore) (state : TrajectoryState)
    (spec : EventSpec) (now : Timestamp) (eventId : String) :
    (∃ x, store.appendEvent state spec now eventId = ((.error x, state), store)) ∨
    (∃ event, spec.idempotencyKey ≠ none ∧
      store.appendEvent state spec now eventId = ((.ok event, state), store)) ∨
    (∃ stored head, store.runs.get? state.traceId = some stored ∧
      state.storageRevision = stored.storageRevision ∧
      store.heads.get? state.traceId = some head ∧
      store.appendEvent state spec now eventId =
        store.commitEvent state (buildEvent state head spec now eventId) spec) := by
  unfold appendEvent
  cases hrev : store.assertRevision state with
  | error x => exact .inl ⟨x, rfl⟩
  | ok u =>
      obtain ⟨stored, hstored, heq⟩ := assertRevision_ok hrev
      cases hreplay : store.findReplay state spec with
      | some replay =>
          obtain ⟨key, fingerprint, event⟩ := replay
          have hkeyed : spec.idempotencyKey ≠ none := by simp [(findReplay_some hreplay).1]
          simp only
          split
          · exact .inl ⟨_, rfl⟩
          · exact .inr (.inl ⟨event, hkeyed, rfl⟩)
      | none =>
          simp only
          cases hhead : store.heads.get? state.traceId with
          | none => exact .inl ⟨_, rfl⟩
          | some head =>
              simp only
              split
              · exact .inl ⟨_, rfl⟩
              · exact .inr (.inr ⟨stored, head, hstored, heq, rfl, rfl⟩)

/-- A decision is refused without an effect, or persisted with the caller's state. -/
theorem appendDecision_cases (store : MemoryTraceStore) (state : TrajectoryState)
    (decision : Decision) :
    (∃ x, store.appendDecision state decision = ((.error x, state), store)) ∨
    (∃ stored, store.runs.get? state.traceId = some stored ∧
      state.storageRevision = stored.storageRevision ∧
      let state' := { state with
        decisions := state.decisions ++ [decision]
        storageRevision := state.storageRevision + 1 }
      store.appendDecision state decision =
        ((.ok (), state'), { store with runs := store.runs.set state.traceId state' })) := by
  unfold appendDecision
  cases hrev : store.assertRevision state with
  | error x => exact .inl ⟨x, rfl⟩
  | ok u =>
      obtain ⟨stored, hstored, heq⟩ := assertRevision_ok hrev
      simp only
      split
      · exact .inl ⟨_, rfl⟩
      · exact .inr ⟨stored, hstored, heq, rfl⟩

/-- An approval is refused without an effect, or stored with the caller's state. -/
theorem addApproval_cases (store : MemoryTraceStore) (state : TrajectoryState)
    (approval : ApprovalRecord) :
    (∃ x, store.addApproval state approval = ((.error x, state), store)) ∨
    (∃ stored, store.runs.get? state.traceId = some stored ∧
      state.storageRevision = stored.storageRevision ∧
      store.approvals.get? approval.approvalId = none ∧
      let state' := { state with storageRevision := state.storageRevision + 1 }
      store.addApproval state approval =
        ((.ok (), state'), { store with
          approvals := store.approvals.set approval.approvalId approval
          runs := store.runs.set state.traceId state' })) := by
  unfold addApproval
  cases hrev : store.assertRevision state with
  | error x => exact .inl ⟨x, rfl⟩
  | ok u =>
      obtain ⟨stored, hstored, heq⟩ := assertRevision_ok hrev
      simp only
      split
      · exact .inl ⟨_, rfl⟩
      · rename_i hcontains
        have habsent : store.approvals.get? approval.approvalId = none := by
          simpa [Dict.contains] using hcontains
        exact .inr ⟨stored, hstored, heq, habsent, rfl⟩

end MemoryTraceStore

end Manifest
