import Manifest.Ledger.Verifier
import Manifest.Lib.Fallible
import Manifest.Storage.Table

/-!
# The DynamoDB trace repository

Each method is a procedure over the caller's state object, at the granularity of single
requests.  An append reads the ledger head, builds the next event, changes the caller's
state, encodes every document and commits them in one conditional transaction; only the
failure of that last request is undone in the caller's state.

Main results:

- Theorems `appendActions_ok`, `decisionActions_ok`, `approvalActions_ok` and
  `createActions_ok`: the transactions the writes commit.
-/

set_option autoImplicit false

namespace Manifest

open Interaction Fallible

/-- A procedure of the repository over the caller's state. -/
abbrev Dynamo := Proc DynamoOp PyError TrajectoryState

/-! ## What a write does to the caller's state -/

namespace TrajectoryState

/-- `state.events.append(event)`, with the next sequence and revision. -/
def withEvent (state : TrajectoryState) (event : TraceEvent) : TrajectoryState :=
  { state with
    events := state.events ++ [event]
    nextSequence := state.nextSequence + 1
    storageRevision := state.storageRevision + 1 }

/-- Undo an event after a failed transaction. -/
def withoutEvent (state : TrajectoryState) (oldRevision : Nat) : TrajectoryState :=
  { state with
    events := state.events.dropLast
    nextSequence := state.nextSequence - 1
    storageRevision := oldRevision }

/-- `state.decisions.append(decision)`, with the next revision. -/
def withDecision (state : TrajectoryState) (decision : Decision) : TrajectoryState :=
  { state with
    decisions := state.decisions ++ [decision]
    storageRevision := state.storageRevision + 1 }

/-- Undo a decision after a failed transaction. -/
def withoutDecision (state : TrajectoryState) (oldRevision : Nat) : TrajectoryState :=
  { state with
    decisions := state.decisions.dropLast
    storageRevision := oldRevision }

/-- `state.storage_revision = revision`. -/
def setRevision (state : TrajectoryState) (revision : Nat) : TrajectoryState :=
  { state with storageRevision := revision }

end TrajectoryState

namespace DynamoDBTraceStore

/-! ## Actions -/

/-- `_trace_item` under `_put_action`.  The sort key is built first, then the document,
then the partition key. -/
def putTraceItem (traceId : String) (sk : Except PyError SortKey) (recordType : String)
    (document : Document) (revision : Option Int) : Except PyError WriteAction := do
  let sk ← sk
  let document ← document.encode
  let pk ← tracePk traceId
  .ok (.put ⟨pk, sk⟩
    { recordType := recordType, traceId := traceId, document := some document
      sequence := if sk = .headSk then some 0 else none
      revision := revision })

/-- The update of `HEAD`. -/
def headUpdateAction (traceId : String) (head newHead : LedgerHead) :
    Except PyError WriteAction := do
  let pk ← tracePk traceId
  let document ← (Document.head newHead).encode
  .ok (.update ⟨pk, .headSk⟩ .sequence head.sequence newHead.sequence document)

/-- `_meta_update_action`. -/
def metaUpdateAction (state : TrajectoryState) (oldRevision : Nat) :
    Except PyError WriteAction := do
  let pk ← tracePk state.traceId
  let document ← (Document.state state).encode
  .ok (.update ⟨pk, .metaSk⟩ .revision oldRevision state.storageRevision document)

/-! ## Reads -/

/-- `_get`. -/
def getItem (pk : Except PyError PartitionKey) (sk : Except PyError SortKey) :
    Dynamo (Option Item) := do
  let pk ← Proc.ofExcept pk
  let sk ← Proc.ofExcept sk
  Proc.request (.getItem ⟨pk, sk⟩)

/-- The loop of `_query` from a start key, for as many pages as `fuel` allows; the source
sets no limit. -/
def queryFrom (pk : PartitionKey) (beginning : String) :
    Nat → Option SortKey → List Item → Dynamo (List Item)
  | 0, _, _ => Proc.raise (.ofPython "the query did not end")
  | fuel + 1, start, items => do
      let (found, last) ← Proc.request (.query pk beginning start)
      match last with
      | none => pure (items ++ found)
      | some key => queryFrom pk beginning fuel (some key) (items ++ found)

/-- `_query`. -/
def query (fuel : Nat) (pk : Except PyError PartitionKey) (beginning : String) :
    Dynamo (List Item) := do
  let pk ← Proc.ofExcept pk
  queryFrom pk beginning fuel none []

def getEvents (fuel : Nat) (traceId : String) : Dynamo (List TraceEvent) := do
  let items ← query fuel (tracePk traceId) "EVENT#"
  Proc.ofExcept (items.mapM (·.decode Document.decodeEvent))

def getDecisions (fuel : Nat) (traceId : String) : Dynamo (List Decision) := do
  let items ← query fuel (tracePk traceId) "DECISION#"
  Proc.ofExcept (items.mapM (·.decode Document.decodeDecision))

def getHead (traceId : String) : Dynamo LedgerHead := do
  match ← getItem (tracePk traceId) (.ok .headSk) with
  | some item => Proc.ofExcept (item.decode Document.decodeHead)
  | none =>
      match ← getItem (tracePk traceId) (.ok .metaSk) with
      | none => Proc.raise ⟨.traceNotFound, s!"Trace {traceId} was not found."⟩
      | some _ => Proc.raise ⟨.ledgerAppend, s!"Trace {traceId} has no ledger head."⟩

/-- `int(meta["Revision"]["N"])`. -/
def revisionOf (item : Item) : Except PyError Nat :=
  match item.revision with
  | some n => .ok n.toNat
  | none => .error (.ofPython "'Revision'")

def loadTrace (fuel : Nat) (traceId : String) : Dynamo TrajectoryState := do
  match ← getItem (tracePk traceId) (.ok .metaSk) with
  | none => Proc.raise ⟨.traceNotFound, s!"Trace {traceId} was not found."⟩
  | some item => do
      let events ← getEvents fuel traceId
      let decisions ← getDecisions fuel traceId
      let state ← Proc.ofExcept (item.decode Document.decodeState)
      let revision ← Proc.ofExcept (revisionOf item)
      pure ({ state with events := events, decisions := decisions }.setRevision revision)

def verifyTrace [Sha256] (fuel : Nat) (traceId : String) : Dynamo VerificationResult := do
  let events ← getEvents fuel traceId
  let head ← getHead traceId
  let now ← Proc.perform .utcNow
  pure (verifyChain traceId events head now)

/-! ## Writes -/

/-- Keys and documents are built while the caller's state is already changed; an exception
here leaves the change in place. -/
def assemble (actions : Except PyError (List WriteAction)) : Dynamo (List WriteAction) :=
  Proc.request (.assemble actions)

/-- The transaction, undone in the caller's state when it fails. -/
def commit (actions : List WriteAction) (undo : TrajectoryState → TrajectoryState)
    (failure : PyError) : Dynamo Unit :=
  Proc.tryCatch (Proc.request (.transactWriteItems actions)) fun _ => do
    Proc.mutate undo
    Proc.raise failure

def changedConcurrently (traceId : String) : PyError :=
  ⟨.traceRevisionConflict, s!"Trace {traceId} changed concurrently."⟩

/-- The actions of `create_run`. -/
def createActions (state : TrajectoryState) (head : LedgerHead) (name : String) :
    Except PyError (List WriteAction) := do
  let putMeta ← putTraceItem state.traceId (.ok .metaSk) "trace" (.state state) (some 0)
  let putHead ← putTraceItem state.traceId (.ok .headSk) "head" (.head head) none
  let pk ← namespacePk name
  let sk ← namespaceTraceSk state.traceId
  .ok [putMeta, putHead,
    .put ⟨pk, sk⟩ { recordType := "namespace_trace", traceId := state.traceId }]

def createRun (name : String) : Dynamo Unit := do
  let state ← Proc.read
  if !state.events.isEmpty || state.nextSequence ≠ 1 then
    Proc.raise ⟨.traceSequence, "A new trace must have no events."⟩
  else do
    Proc.mutate fun state => state.setRevision 0
    let now ← Proc.perform .utcNow
    let head : LedgerHead :=
      { traceId := state.traceId, sequence := 0, eventCount := 0, eventHash := genesisHash
        schemaVersion := ledgerSchemaVersion, updatedAt := now }
    let actions ← Proc.ofExcept (createActions (state.setRevision 0) head name)
    commit actions id ⟨.traceSequence, s!"Trace {state.traceId} already exists."⟩

/-- What an append finds under its idempotency key: the event it replays, or nothing, with
the key hash and fingerprint of a new replay record. -/
inductive Replay where
  | found (event : TraceEvent)
  | absent (record : Option (String × String))

/-- `int(replay.result_reference)`, on the decimal text of a sequence number. -/
def parseReference (text : String) : Except PyError Nat :=
  if text ≠ "" && text.toList.all Char.isDigit then .ok (Nat.ofDigitChars 10 text.toList 0)
  else .error (.ofPython s!"invalid literal for int() with base 10: {text}")

def findReplay [Sha256] (spec : EventSpec) : Dynamo Replay := do
  match spec.idempotencyKey with
  | none => pure (.absent none)
  | some key => do
      let state ← Proc.read
      let fingerprint := eventDescriptionFingerprint state.traceId spec key
      let replayKey ← Proc.ofExcept (opaqueKeyHash key)
      match ← getItem (tracePk state.traceId) (eventReplaySk replayKey) with
      | none => pure (.absent (some (replayKey, fingerprint)))
      | some existing => do
          let replay ← Proc.ofExcept (existing.decode Document.decodeReplay)
          if replay.fingerprint ≠ fingerprint then
            Proc.raise ⟨.ledgerIdempotencyConflict,
              "A ledger idempotency key was reused with different event fields."⟩
          else do
            let sequence ← Proc.ofExcept (parseReference replay.resultReference)
            match ← getItem (tracePk state.traceId) (eventSk sequence) with
            | none =>
                Proc.raise ⟨.ledgerAppend, "A ledger replay points to a missing event."⟩
            | some item => do
                let event ← Proc.ofExcept (item.decode Document.decodeEvent)
                pure (.found event)

/-- The event after a head. -/
def nextEvent [Sha256] (traceId : String) (head : LedgerHead) (spec : EventSpec)
    (now : Timestamp) (uuid : String) : TraceEvent :=
  let unhashed : TraceEvent :=
    { eventId := "EVT-" ++ uuid, traceId := traceId, sequence := head.sequence + 1
      eventType := spec.eventType, summary := spec.summary, details := spec.details
      agent := spec.agent, toolName := spec.toolName, effectClass := spec.effectClass
      occurredAt := now, schemaVersion := ledgerSchemaVersion
      previousHash := head.eventHash, eventHash := ""
      idempotencyKey := spec.idempotencyKey }
  { unhashed with eventHash := calculateEventHash unhashed }

/-- The head after the next event. -/
def nextHead (head : LedgerHead) (event : TraceEvent) : LedgerHead :=
  { traceId := event.traceId, sequence := event.sequence, eventCount := head.eventCount + 1
    eventHash := event.eventHash, schemaVersion := ledgerSchemaVersion
    updatedAt := event.occurredAt }

/-- The actions of an append, without its replay record; `state` already holds the event. -/
def appendActions (state : TrajectoryState) (head : LedgerHead) (event : TraceEvent)
    (oldRevision : Nat) : Except PyError (List WriteAction) := do
  let putEvent ← putTraceItem state.traceId (eventSk event.sequence) "event" (.event event) none
  let updateHead ← headUpdateAction state.traceId head (nextHead head event)
  let updateMeta ← metaUpdateAction state oldRevision
  .ok [putEvent, updateHead, updateMeta]

/-- The put of a replay record, when the append has an idempotency key. -/
def replayActions (traceId : String) (sequence : Nat) :
    Option (String × String) → Dynamo (List WriteAction)
  | none => pure []
  | some (replayKey, fingerprint) => do
      let createdAt ← Proc.perform .utcNow
      let record : ReplayRecord :=
        { traceId := traceId, kind := .event, keyHash := replayKey
          fingerprint := fingerprint, resultReference := toString sequence
          createdAt := createdAt }
      assemble do
        let put ←
          putTraceItem traceId (eventReplaySk replayKey) "event_replay" (.replay record) none
        .ok [put]

/-- Commit an event that passed the sequence check. -/
def commitEvent (head : LedgerHead) (event : TraceEvent) (record : Option (String × String)) :
    Dynamo TraceEvent := do
  let state ← Proc.read
  let oldRevision := state.storageRevision
  Proc.mutate fun state => state.withEvent event
  let actions ← assemble (appendActions (state.withEvent event) head event oldRevision)
  let replay ← replayActions state.traceId event.sequence record
  commit (actions ++ replay) (fun state => state.withoutEvent oldRevision)
    (changedConcurrently state.traceId)
  pure event

/-- Append an event that is no replay. -/
def writeEvent [Sha256] (spec : EventSpec) (record : Option (String × String)) :
    Dynamo TraceEvent := do
  let state ← Proc.read
  let head ← getHead state.traceId
  if state.nextSequence ≠ head.sequence + 1 then
    let expected := head.sequence + 1
    Proc.raise ⟨.traceSequence,
      s!"Trace {state.traceId} expected sequence {expected}, received {state.nextSequence}."⟩
  else do
    let now ← Proc.perform .utcNow
    let uuid ← Proc.perform .uuid4
    commitEvent head (nextEvent state.traceId head spec now uuid) record

def appendEvent [Sha256] (spec : EventSpec) : Dynamo TraceEvent := do
  match ← findReplay spec with
  | .found event => pure event
  | .absent record => writeEvent spec record

/-- The actions of a decision; `state` already holds it. -/
def decisionActions (state : TrajectoryState) (decision : Decision) (oldRevision : Nat) :
    Except PyError (List WriteAction) := do
  let putDecision ← putTraceItem state.traceId
    (decisionSk decision.createdAt decision.decisionId) "decision" (.decision decision) none
  let updateMeta ← metaUpdateAction state oldRevision
  .ok [putDecision, updateMeta]

def appendDecision (decision : Decision) : Dynamo Unit := do
  let state ← Proc.read
  let oldRevision := state.storageRevision
  Proc.mutate fun state => state.withDecision decision
  let actions ← assemble (decisionActions (state.withDecision decision) decision oldRevision)
  commit actions (fun state => state.withoutDecision oldRevision)
    (changedConcurrently state.traceId)

/-- The three items of an approval. -/
def approvalItem (approval : ApprovalRecord) (document : Document) : Item where
  recordType := "approval"
  traceId := approval.traceId
  document := some document
  version := some approval.version

/-- The actions of an approval; `state` already has the next revision. -/
def approvalActions (state : TrajectoryState) (approval : ApprovalRecord) (name : String)
    (oldRevision : Nat) : Except PyError (List WriteAction) := do
  let document ← (Document.approval approval).encode
  let item := approvalItem approval document
  let pk ← tracePk state.traceId
  let sk ← approvalSk approval.approvalId
  let pointer ← approvalPointerPk approval.approvalId
  let listed ← namespacePk name
  let listedSk ← namespaceApprovalSk approval.createdAt approval.approvalId
  let updateMeta ← metaUpdateAction state oldRevision
  .ok [.put ⟨pk, sk⟩ item, .put ⟨pointer, .pointerSk⟩ item,
    .put ⟨listed, listedSk⟩ { item with approvalId := some approval.approvalId }, updateMeta]

def addApproval (name : String) (approval : ApprovalRecord) : Dynamo Unit := do
  let state ← Proc.read
  let oldRevision := state.storageRevision
  Proc.mutate fun state => state.setRevision (oldRevision + 1)
  let actions ←
    assemble (approvalActions (state.setRevision (oldRevision + 1)) approval name oldRevision)
  commit actions (fun state => state.setRevision oldRevision)
    ⟨.approvalPersistenceConflict, "Approval could not be created."⟩

/-! ## The assembled transactions -/

/-- The item of a record of a trace. -/
def traceItem (traceId : String) (sk : SortKey) (recordType : String) (document : Document)
    (revision : Option Int) : Item where
  recordType := recordType
  traceId := traceId
  document := some document.stored
  sequence := if sk = .headSk then some 0 else none
  revision := revision

theorem putTraceItem_ok {traceId recordType : String} {sk : Except PyError SortKey}
    {document : Document} {revision : Option Int} {put : WriteAction}
    (h : putTraceItem traceId sk recordType document revision = .ok put) :
    ∃ key, sk = .ok key ∧ document.Fits ∧
      put = .put ⟨.trace traceId, key⟩ (traceItem traceId key recordType document revision) := by
  obtain ⟨key, hkey, h⟩ := bind_eq_ok_iff.mp h
  obtain ⟨stored, hstored, h⟩ := bind_eq_ok_iff.mp h
  obtain ⟨pk, hpk, h⟩ := bind_eq_ok_iff.mp h
  obtain ⟨hfits, rfl⟩ := Document.encode_ok_iff.mp hstored
  obtain rfl := tracePk_ok hpk
  exact ⟨key, hkey, hfits, (Except.ok.inj h).symm⟩

theorem headUpdateAction_ok {traceId : String} {head newHead : LedgerHead}
    {action : WriteAction} (h : headUpdateAction traceId head newHead = .ok action) :
    action = .update ⟨.trace traceId, .headSk⟩ .sequence head.sequence newHead.sequence
      (.head newHead) := by
  obtain ⟨pk, hpk, h⟩ := bind_eq_ok_iff.mp h
  obtain ⟨stored, hstored, h⟩ := bind_eq_ok_iff.mp h
  obtain ⟨-, rfl⟩ := Document.encode_ok_iff.mp hstored
  obtain rfl := tracePk_ok hpk
  exact (Except.ok.inj h).symm

theorem metaUpdateAction_ok {state : TrajectoryState} {oldRevision : Nat}
    {action : WriteAction} (h : metaUpdateAction state oldRevision = .ok action) :
    action = .update ⟨.trace state.traceId, .metaSk⟩ .revision oldRevision
      state.storageRevision (Document.state state).stored := by
  obtain ⟨pk, hpk, h⟩ := bind_eq_ok_iff.mp h
  obtain ⟨stored, hstored, h⟩ := bind_eq_ok_iff.mp h
  obtain ⟨-, rfl⟩ := Document.encode_ok_iff.mp hstored
  obtain rfl := tracePk_ok hpk
  exact (Except.ok.inj h).symm

/-- The transaction of an append, its replay record apart. -/
theorem appendActions_ok {state : TrajectoryState} {head : LedgerHead} {event : TraceEvent}
    {oldRevision : Nat} {actions : List WriteAction}
    (h : appendActions state head event oldRevision = .ok actions) :
    1 ≤ event.sequence ∧ event.sequence < 10 ^ 12 ∧ actions =
      [ .put ⟨.trace state.traceId, .event event.sequence⟩
          (traceItem state.traceId (.event event.sequence) "event" (.event event) none),
        .update ⟨.trace state.traceId, .headSk⟩ .sequence head.sequence event.sequence
          (.head (nextHead head event)),
        .update ⟨.trace state.traceId, .metaSk⟩ .revision oldRevision state.storageRevision
          (Document.state state).stored ] := by
  obtain ⟨putEvent, hput, h⟩ := bind_eq_ok_iff.mp h
  obtain ⟨updateHead, hhead, h⟩ := bind_eq_ok_iff.mp h
  obtain ⟨updateMeta, hmeta, h⟩ := bind_eq_ok_iff.mp h
  obtain ⟨key, hkey, -, rfl⟩ := putTraceItem_ok hput
  obtain ⟨rfl, hlow, hhigh⟩ := eventSk_ok hkey
  obtain rfl := headUpdateAction_ok hhead
  obtain rfl := metaUpdateAction_ok hmeta
  exact ⟨hlow, hhigh, (Except.ok.inj h).symm⟩

theorem putTraceItem_replay {traceId keyHash : String} {record : ReplayRecord}
    {put : WriteAction}
    (h : putTraceItem traceId (eventReplaySk keyHash) "event_replay" (.replay record) none =
      .ok put) : ∃ name item, put = .put ⟨.trace traceId, .eventReplay name⟩ item := by
  obtain ⟨key, hkey, -, rfl⟩ := putTraceItem_ok h
  obtain ⟨name, rfl⟩ := eventReplaySk_ok hkey
  exact ⟨name, _, rfl⟩

/-- The transaction of a decision. -/
theorem decisionActions_ok {state : TrajectoryState} {decision : Decision} {oldRevision : Nat}
    {actions : List WriteAction}
    (h : decisionActions state decision oldRevision = .ok actions) :
    ∃ decisionId item, actions =
      [ .put ⟨.trace state.traceId, .decision decision.createdAt decisionId⟩ item,
        .update ⟨.trace state.traceId, .metaSk⟩ .revision oldRevision state.storageRevision
          (Document.state state).stored ] := by
  obtain ⟨putDecision, hput, h⟩ := bind_eq_ok_iff.mp h
  obtain ⟨updateMeta, hmeta, h⟩ := bind_eq_ok_iff.mp h
  obtain ⟨key, hkey, -, rfl⟩ := putTraceItem_ok hput
  obtain ⟨decisionId, rfl⟩ := decisionSk_ok hkey
  obtain rfl := metaUpdateAction_ok hmeta
  exact ⟨decisionId, _, (Except.ok.inj h).symm⟩

/-- The transaction of an approval. -/
theorem approvalActions_ok {state : TrajectoryState} {approval : ApprovalRecord}
    {name : String} {oldRevision : Nat} {actions : List WriteAction}
    (h : approvalActions state approval name oldRevision = .ok actions) :
    ∃ valid item listed, actions =
      [ .put ⟨.trace state.traceId, .approval approval.approvalId⟩ item,
        .put ⟨.approval approval.approvalId, .pointerSk⟩ item,
        .put ⟨.namespaced valid, .namespaceApproval approval.createdAt approval.approvalId⟩
          listed,
        .update ⟨.trace state.traceId, .metaSk⟩ .revision oldRevision state.storageRevision
          (Document.state state).stored ] := by
  obtain ⟨document, -, h⟩ := bind_eq_ok_iff.mp h
  obtain ⟨pk, hpk, h⟩ := bind_eq_ok_iff.mp h
  obtain ⟨sk, hsk, h⟩ := bind_eq_ok_iff.mp h
  obtain ⟨pointer, hpointer, h⟩ := bind_eq_ok_iff.mp h
  obtain ⟨listed, hlisted, h⟩ := bind_eq_ok_iff.mp h
  obtain ⟨listedSk, hlistedSk, h⟩ := bind_eq_ok_iff.mp h
  obtain ⟨updateMeta, hmeta, h⟩ := bind_eq_ok_iff.mp h
  obtain rfl := tracePk_ok hpk
  obtain rfl := map_identifier_ok hsk
  obtain rfl := map_identifier_ok hpointer
  obtain ⟨valid, rfl⟩ := namespacePk_ok hlisted
  obtain rfl := map_identifier_ok hlistedSk
  obtain rfl := metaUpdateAction_ok hmeta
  exact ⟨valid, _, _, (Except.ok.inj h).symm⟩

/-- The transaction of a new run. -/
theorem createActions_ok {state : TrajectoryState} {head : LedgerHead} {name : String}
    {actions : List WriteAction} (h : createActions state head name = .ok actions) :
    ∃ valid, actions =
      [ .put ⟨.trace state.traceId, .metaSk⟩
          (traceItem state.traceId .metaSk "trace" (.state state) (some 0)),
        .put ⟨.trace state.traceId, .headSk⟩
          (traceItem state.traceId .headSk "head" (.head head) none),
        .put ⟨.namespaced valid, .namespaceTrace state.traceId⟩
          { recordType := "namespace_trace", traceId := state.traceId } ] := by
  obtain ⟨putMeta, hmeta, h⟩ := bind_eq_ok_iff.mp h
  obtain ⟨putHead, hhead, h⟩ := bind_eq_ok_iff.mp h
  obtain ⟨pk, hpk, h⟩ := bind_eq_ok_iff.mp h
  obtain ⟨sk, hsk, h⟩ := bind_eq_ok_iff.mp h
  obtain ⟨key, hkey, -, rfl⟩ := putTraceItem_ok hmeta
  obtain ⟨key', hkey', -, rfl⟩ := putTraceItem_ok hhead
  obtain rfl := Except.ok.inj hkey
  obtain rfl := Except.ok.inj hkey'
  obtain ⟨valid, rfl⟩ := namespacePk_ok hpk
  obtain rfl := map_identifier_ok hsk
  exact ⟨valid, (Except.ok.inj h).symm⟩

end DynamoDBTraceStore

end Manifest
