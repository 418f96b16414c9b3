import Manifest.Approvals
import Manifest.Demo
import Manifest.Storage.Receipts

/-!
# Approval replays in the table

The replay of an approval command has one item under the trace of the approval and the hash
of its idempotency key.  Neither that key nor the fingerprint of the command names the
approval.

Main results:

- Theorem `exec_getApprovalReplayFingerprint`: what a lookup finds.
- Theorem `exec_recordApprovalReplay`: what a recorded replay leaves in the table.
- Theorem `recordApprovalReplay_apart_iff`: when another approval is left without a replay.
-/

set_option autoImplicit false

namespace Manifest

open Interaction Fallible

namespace DynamoDBTraceStore

/-! ## Approvals and their replays -/

def getApproval (approvalId : String) : Dynamo ApprovalRecord := do
  match ← getItem (approvalPointerPk approvalId) (.ok .pointerSk) with
  | none => Proc.raise ⟨.approvalNotFound, s!"Approval {approvalId} was not found."⟩
  | some item => Proc.ofExcept (item.decode Document.decodeApproval)

section Replays

variable [Sha256]

def getApprovalReplayFingerprint (approvalId idempotencyKey : String) :
    Dynamo (Option String) := do
  let approval ← getApproval approvalId
  let keyHash ← Proc.ofExcept (opaqueKeyHash idempotencyKey)
  match ← getItem (tracePk approval.traceId) (approvalReplaySk keyHash) with
  | none => pure none
  | some item =>
      Proc.ofExcept ((item.decode Document.decodeReplay).map fun replay => some replay.fingerprint)

/-- `ReplayRecord.__post_init__`. -/
def checkReplay (record : ReplayRecord) : Except PyError ReplayRecord :=
  if record.traceId = "" || record.keyHash = "" || record.fingerprint = "" then
    .error (.ofPython "ValueError")
  else .ok record

/-- The conditional put of a replay; after a failure the recorded fingerprint decides. -/
def putReplay (put : WriteAction) (approvalId idempotencyKey fingerprint : String) :
    Dynamo Unit :=
  Proc.tryCatch (Proc.request (.transactWriteItems [put])) fun _ => do
    let existing ← getApprovalReplayFingerprint approvalId idempotencyKey
    if existing ≠ some fingerprint then
      Proc.raise ⟨.approvalPersistenceConflict, "Approval replay key conflict."⟩
    else pure ()

def recordApprovalReplay (approvalId idempotencyKey fingerprint : String) : Dynamo Unit := do
  let approval ← getApproval approvalId
  let keyHash ← Proc.ofExcept (opaqueKeyHash idempotencyKey)
  let createdAt ← Proc.perform .utcNow
  let replay ← Proc.ofExcept <| checkReplay
    { traceId := approval.traceId, kind := .approval, keyHash := keyHash
      fingerprint := fingerprint, resultReference := approvalId, createdAt := createdAt }
  let put ← Proc.ofExcept (putTraceItem approval.traceId (approvalReplaySk keyHash)
    "approval_replay" (.replay replay) none)
  putReplay put approvalId idempotencyKey fingerprint

/-- The first branch of `resolve_approval`: the answer to a command whose key was recorded
before, or nothing. -/
def replayedResolution (fuel : Nat) (engineName approvalId : String)
    (command : ApprovalCommand) : Dynamo (Option ApprovalResolution) := do
  match ← getApprovalReplayFingerprint approvalId command.idempotencyKey with
  | none => pure none
  | some previous =>
      if previous ≠ command.fingerprint then
        Proc.raise ⟨.approvalIdempotencyConflict,
          s!"Idempotency key {command.idempotencyKey} was reused with different approval fields."⟩
      else do
        let approval ← getApproval approvalId
        let state ← loadTrace fuel approval.traceId
        pure (some
          { approval := approval
            run := RunSummary.fromState state engineName
            idempotentReplay := true })

end Replays

/-! ## What a table holds -/

/-- The item a table holds under a key. -/
def itemIn (table : Table) (pk : Except PyError PartitionKey) (sk : Except PyError SortKey) :
    Except PyError (Option Item) := do
  let pk ← pk
  let sk ← sk
  .ok (table.get? ⟨pk, sk⟩)

/-- The approval a table holds. -/
def approvalIn (table : Table) (approvalId : String) : Except PyError ApprovalRecord := do
  match ← itemIn table (approvalPointerPk approvalId) (.ok .pointerSk) with
  | none => .error ⟨.approvalNotFound, s!"Approval {approvalId} was not found."⟩
  | some item => item.decode Document.decodeApproval

/-- The fingerprint a table holds under a trace and a key hash. -/
def replayIn (table : Table) (traceId keyHash : String) : Except PyError (Option String) := do
  match ← itemIn table (tracePk traceId) (approvalReplaySk keyHash) with
  | none => .ok none
  | some item => (item.decode Document.decodeReplay).map fun replay => some replay.fingerprint

/-- The fingerprint a table holds for an approval and a key. -/
def fingerprintIn [Sha256] (table : Table) (approvalId idempotencyKey : String) :
    Except PyError (Option String) := do
  let approval ← approvalIn table approvalId
  let keyHash ← opaqueKeyHash idempotencyKey
  replayIn table approval.traceId keyHash

/-- A procedure that reads `f` of the table and changes nothing. -/
def Looks {α : Type} (backend : Backend) (m : Dynamo α) (f : Table → Except PyError α) : Prop :=
  ∀ (state : TrajectoryState) (db : Database),
    let r := m.exec (Database.handle backend) state db
    r.result = f db.table ∧ r.state = state ∧ r.env.table = db.table

namespace Looks

variable {backend : Backend}

theorem ofExcept {α : Type} (r : Except PyError α) :
    Looks backend (Proc.ofExcept r) fun _ => r :=
  fun _ _ => ⟨rfl, rfl, rfl⟩

theorem bind {α β : Type} {m : Dynamo α} {k : α → Dynamo β} {f : Table → Except PyError α}
    {g : α → Table → Except PyError β} (hm : Looks backend m f)
    (hk : ∀ a, Looks backend (k a) (g a)) :
    Looks backend (m >>= k) fun table => f table >>= fun a => g a table := by
  intro state db
  obtain ⟨hresult, hstate, htable⟩ := hm state db
  simp only [Proc.exec_bind]
  generalize m.exec (Database.handle backend) state db = r at hresult hstate htable
  obtain ⟨result, state', db'⟩ := r
  dsimp only at hresult hstate htable
  subst hresult hstate
  cases hf : f db.table with
  | error x => exact ⟨rfl, rfl, htable⟩
  | ok a =>
      obtain ⟨hresult', hstate', htable'⟩ := hk a state' db'
      exact ⟨by rw [hresult', htable]; rfl, hstate', htable'.trans htable⟩

/-- A sequence that returned went through its lookup. -/
theorem returned {α β : Type} {m : Dynamo α} {k : α → Dynamo β} {f : Table → Except PyError α}
    (hm : Looks backend m f) {state : TrajectoryState} {db : Database}
    {r : Exit PyError TrajectoryState Database β} {b : β}
    (hr : (m >>= k).exec (Database.handle backend) state db = r) (hok : r.result = .ok b) :
    ∃ a db', f db.table = .ok a ∧ db'.table = db.table ∧
      (k a).exec (Database.handle backend) state db' = r := by
  subst hr
  obtain ⟨a, state', db', hexec, hrest⟩ := Proc.exec_bind_returned _ _ _ hok
  obtain ⟨hresult, hstate, htable⟩ := hm state db
  rw [hexec] at hresult hstate htable
  dsimp only at hresult hstate htable
  subst hstate
  exact ⟨a, db', hresult.symm, htable, hrest.symm⟩

end Looks

section Calm

variable [Sha256] {backend : Backend} (calm : ∀ n, backend.failure n = none)

include calm

omit [Sha256] in
theorem looks_getItem (pk : Except PyError PartitionKey) (sk : Except PyError SortKey) :
    Looks backend (getItem pk sk) fun table => itemIn table pk sk := by
  refine (Looks.ofExcept pk).bind fun pk => (Looks.ofExcept sk).bind fun sk state db => ?_
  simp only [Proc.exec_request, Database.handle, answer_calm calm]
  exact ⟨trivial, trivial, rfl⟩

omit [Sha256] in
theorem looks_getApproval (approvalId : String) :
    Looks backend (getApproval approvalId) fun table => approvalIn table approvalId := by
  refine (looks_getItem calm _ _).bind fun item => ?_
  cases item with
  | none => exact Looks.ofExcept (.error _)
  | some item => exact Looks.ofExcept (item.decode Document.decodeApproval)

/-- A lookup finds what the table holds. -/
theorem looks_getApprovalReplayFingerprint (approvalId idempotencyKey : String) :
    Looks backend (getApprovalReplayFingerprint approvalId idempotencyKey) fun table =>
      fingerprintIn table approvalId idempotencyKey := by
  refine (looks_getApproval calm approvalId).bind fun approval =>
    (Looks.ofExcept (opaqueKeyHash idempotencyKey)).bind fun keyHash =>
      (looks_getItem calm _ _).bind fun item => ?_
  cases item with
  | none => exact Looks.ofExcept (.ok none)
  | some item => exact Looks.ofExcept _

omit [Sha256] calm in
theorem checkReplay_ok {record checked : ReplayRecord} (h : checkReplay record = .ok checked) :
    record = checked := by
  unfold checkReplay at h
  split_ifs at h
  exact Except.ok.inj h

omit [Sha256] calm in
/-- The action that puts a replay. -/
theorem putTraceItem_approvalReplay {traceId keyHash recordType : String}
    {replay : ReplayRecord} {put : WriteAction}
    (h : putTraceItem traceId (approvalReplaySk keyHash) recordType (.replay replay) none =
      .ok put) :
    tracePk traceId = .ok (.trace traceId) ∧
      approvalReplaySk keyHash = .ok (.approvalReplay keyHash) ∧
      put = .put ⟨.trace traceId, .approvalReplay keyHash⟩
        (traceItem traceId (.approvalReplay keyHash) recordType (.replay replay) none) := by
  obtain ⟨key, hkey, -, rfl⟩ := putTraceItem_ok h
  obtain ⟨name, hname, rfl⟩ := map_ok hkey
  obtain rfl : keyHash = name := by
    unfold storageHash at hname
    split_ifs at hname
    exact Except.ok.inj hname
  refine ⟨?_, hkey, rfl⟩
  obtain ⟨_, _, h⟩ := bind_eq_ok_iff.mp h
  obtain ⟨_, _, h⟩ := bind_eq_ok_iff.mp h
  obtain ⟨pk, hpk, -⟩ := bind_eq_ok_iff.mp h
  rw [hpk, tracePk_ok hpk]

/-- The put of a replay, or the lookup after it failed. -/
theorem exec_putReplay {state : TrajectoryState} {db : Database} {key : ItemKey} {item : Item}
    {approvalId idempotencyKey fingerprint : String}
    {r : Exit PyError TrajectoryState Database Unit}
    (hr : (putReplay (.put key item) approvalId idempotencyKey fingerprint).exec
      (Database.handle backend) state db = r) (hok : r.result = .ok ()) :
    (fingerprintIn db.table approvalId idempotencyKey = .ok (some fingerprint) ∧
      r.env.table = db.table) ∨ r.env.table = db.table.set key item := by
  unfold putReplay at hr
  rw [Proc.exec_tryCatch, Proc.exec_request] at hr
  rcases Database.transact_cases db backend [.put key item] with ⟨x, hfailed⟩ | ⟨-, hput⟩
  · left
    have hhandle : Database.handle backend _ (.transactWriteItems [.put key item]) db =
      (.error x, db.serve) := hfailed
    rw [hhandle] at hr
    obtain ⟨existing, db₁, hfound, htable, hr⟩ :=
      (looks_getApprovalReplayFingerprint calm approvalId idempotencyKey).returned hr hok
    split_ifs at hr with hsame
    · subst hr
      cases hok
    · obtain rfl := not_not.mp hsame
      subst hr
      exact ⟨hfound, htable⟩
  · right
    have hhandle : Database.handle backend _ (.transactWriteItems [.put key item]) db =
      (.ok (), { db.serve with table := db.table.apply [.put key item] }) := hput
    rw [hhandle] at hr
    subst hr
    rfl

/-- A replay that was recorded is found, or its item was put. -/
theorem exec_recordApprovalReplay {state : TrajectoryState} {db : Database}
    {approvalId idempotencyKey fingerprint : String}
    {r : Exit PyError TrajectoryState Database Unit}
    (hr : (recordApprovalReplay approvalId idempotencyKey fingerprint).exec
      (Database.handle backend) state db = r) (hok : r.result = .ok ()) :
    ∃ approval keyHash, approvalIn db.table approvalId = .ok approval ∧
      opaqueKeyHash idempotencyKey = .ok keyHash ∧
      tracePk approval.traceId = .ok (.trace approval.traceId) ∧
      approvalReplaySk keyHash = .ok (.approvalReplay keyHash) ∧
      ((fingerprintIn db.table approvalId idempotencyKey = .ok (some fingerprint) ∧
          r.env.table = db.table) ∨
        ∃ item replay, item.decode Document.decodeReplay = .ok replay ∧
          replay.fingerprint = fingerprint ∧
          r.env.table = db.table.set ⟨.trace approval.traceId, .approvalReplay keyHash⟩ item) := by
  unfold recordApprovalReplay at hr
  obtain ⟨approval, db₁, happroval, htable₁, hr⟩ :=
    (looks_getApproval calm approvalId).returned hr hok
  obtain ⟨keyHash, db₂, hkey, htable₂, hr⟩ := (Looks.ofExcept _).returned hr hok
  rw [Proc.exec_bind, Proc.exec_perform] at hr
  obtain ⟨replay, db₃, hreplay, htable₃, hr⟩ := (Looks.ofExcept _).returned hr hok
  obtain ⟨put, db₄, hput, htable₄, hr⟩ := (Looks.ofExcept _).returned hr hok
  obtain ⟨hpk, hsk, rfl⟩ := putTraceItem_approvalReplay hput
  have htable : db₄.table = db.table := htable₄.trans (htable₃.trans (htable₂.trans htable₁))
  refine ⟨approval, keyHash, happroval, hkey, hpk, hsk, ?_⟩
  rcases exec_putReplay calm hr hok with ⟨hfound, hsame⟩ | hset
  · rw [htable] at hfound hsame
    exact .inl ⟨hfound, hsame⟩
  · rw [htable] at hset
    refine .inr ⟨_, replay, rfl, ?_, hset⟩
    rw [← checkReplay_ok hreplay]

end Calm

/-! ## Replays of other approvals -/

section Apart

variable [Sha256]

omit [Sha256] in
theorem approvalIn_set_replay (table : Table) (traceId keyHash : String) (item : Item)
    (approvalId : String) :
    approvalIn (table.set ⟨.trace traceId, .approvalReplay keyHash⟩ item) approvalId =
      approvalIn table approvalId := by
  have hget (pk : PartitionKey) :
      (table.set ⟨.trace traceId, .approvalReplay keyHash⟩ item).get? ⟨pk, .pointerSk⟩ =
        table.get? ⟨pk, .pointerSk⟩ :=
    Dict.get?_set_ne _ _ (by simp)
  unfold approvalIn itemIn
  cases approvalPointerPk approvalId with
  | error x => rfl
  | ok pk => simp only [bind, Except.bind, hget]

/-- A replay that was recorded for one approval is found for another one of the same trace,
and only for those. -/
theorem fingerprintIn_recorded {backend : Backend} (calm : ∀ n, backend.failure n = none)
    {state : TrajectoryState} {db : Database} {a b : ApprovalRecord}
    {idempotencyKey fingerprint : String} {r : Exit PyError TrajectoryState Database Unit}
    (ha : approvalIn db.table a.approvalId = .ok a) (hb : approvalIn db.table b.approvalId = .ok b)
    (hnone : fingerprintIn db.table b.approvalId idempotencyKey = .ok none)
    (hr : (recordApprovalReplay a.approvalId idempotencyKey fingerprint).exec
      (Database.handle backend) state db = r) (hok : r.result = .ok ()) :
    approvalIn r.env.table b.approvalId = .ok b ∧
      fingerprintIn r.env.table b.approvalId idempotencyKey =
        .ok (if a.traceId = b.traceId then some fingerprint else none) := by
  obtain ⟨approval, keyHash, happroval, hkey, hpk, hsk, hcases⟩ :=
    exec_recordApprovalReplay calm hr hok
  obtain rfl : approval = a := Except.ok.inj (happroval.symm.trans ha)
  have hlookup (table : Table) (hb : approvalIn table b.approvalId = .ok b) :
      fingerprintIn table b.approvalId idempotencyKey = replayIn table b.traceId keyHash := by
    simp only [fingerprintIn, hb, hkey, bind, Except.bind]
  have hlookup' : fingerprintIn db.table approval.approvalId idempotencyKey =
      replayIn db.table approval.traceId keyHash := by
    simp only [fingerprintIn, ha, hkey, bind, Except.bind]
  rcases hcases with ⟨hfound, hsame⟩ | ⟨item, replay, hdecode, hfingerprint, hset⟩
  · rw [hsame]
    refine ⟨hb, hnone.trans ?_⟩
    split_ifs with htrace
    · rw [hlookup db.table hb, ← htrace, ← hlookup', hfound] at hnone
      cases hnone
    · rfl
  · have hb' : approvalIn r.env.table b.approvalId = .ok b := by
      rw [hset, approvalIn_set_replay, hb]
    refine ⟨hb', ?_⟩
    rw [hlookup _ hb', hset]
    split_ifs with htrace
    · simp only [replayIn, itemIn, ← htrace, hpk, hsk, bind, Except.bind, Dict.get?_set_self,
        hdecode]
      rw [← hfingerprint]
      rfl
    · rw [← hnone, hlookup db.table hb]
      unfold replayIn itemIn
      cases hpk' : tracePk b.traceId with
      | error x => rfl
      | ok pk =>
          have hne : (⟨pk, .approvalReplay keyHash⟩ : ItemKey) ≠
              ⟨.trace approval.traceId, .approvalReplay keyHash⟩ := by
            rw [tracePk_ok hpk']
            intro heq
            injection heq with hsame
            exact htrace (PartitionKey.trace.inj hsame).symm
          simp only [hsk, bind, Except.bind, Dict.get?_set_ne _ _ hne]

/-- `resolve_approval` goes on to decide an approval exactly when no fingerprint is found. -/
theorem replayedResolution_none_iff {backend : Backend}
    (calm : ∀ n, backend.failure n = none) (state : TrajectoryState) (db : Database)
    (fuel : Nat) (engineName approvalId : String) (command : ApprovalCommand) :
    ((replayedResolution fuel engineName approvalId command).exec (Database.handle backend) state
        db).result = .ok none ↔
      fingerprintIn db.table approvalId command.idempotencyKey = .ok none := by
  constructor
  · intro hok
    unfold replayedResolution at hok
    obtain ⟨previous, db₁, hfound, -, hr⟩ :=
      (looks_getApprovalReplayFingerprint calm approvalId command.idempotencyKey).returned rfl hok
    rw [← hr] at hok
    cases previous with
    | none => exact hfound
    | some previous =>
        dsimp only at hok
        split_ifs at hok
        · cases hok
        · obtain ⟨approval, state₂, db₂, -, hrest⟩ := Proc.exec_bind_returned _ _ _ hok
          rw [hrest] at hok
          obtain ⟨loaded, state₃, db₃, -, hrest⟩ := Proc.exec_bind_returned _ _ _ hok
          rw [hrest] at hok
          cases hok
  · intro hnone
    obtain ⟨hresult, hstate, -⟩ := looks_getApprovalReplayFingerprint calm approvalId
      command.idempotencyKey state db
    dsimp only at hresult hstate
    unfold replayedResolution
    rw [Proc.exec_bind]
    generalize Proc.exec _ (getApprovalReplayFingerprint _ _) _ _ = r at hresult hstate
    obtain ⟨result, state', db'⟩ := r
    dsimp only at hresult
    rw [hresult, hnone]
    rfl

/-- Recording a replay for one approval leaves another approval without one, and its next
command to its own decision, exactly when the two belong to different traces. -/
theorem recordApprovalReplay_apart_iff {backend : Backend}
    (calm : ∀ n, backend.failure n = none) (state : TrajectoryState) (db : Database)
    (a b : ApprovalRecord) (command : ApprovalCommand) (fuel : Nat) (engineName : String)
    (ha : approvalIn db.table a.approvalId = .ok a) (hb : approvalIn db.table b.approvalId = .ok b)
    (hnone : fingerprintIn db.table b.approvalId command.idempotencyKey = .ok none)
    (hok : ((recordApprovalReplay a.approvalId command.idempotencyKey command.fingerprint).exec
      (Database.handle backend) state db).result = .ok ()) :
    let db' := ((recordApprovalReplay a.approvalId command.idempotencyKey
      command.fingerprint).exec (Database.handle backend) state db).env
    (((getApprovalReplayFingerprint b.approvalId command.idempotencyKey).exec
        (Database.handle backend) state db').result = .ok none ↔ a.traceId ≠ b.traceId) ∧
      (((replayedResolution fuel engineName b.approvalId command).exec
        (Database.handle backend) state db').result = .ok none ↔ a.traceId ≠ b.traceId) := by
  intro db'
  obtain ⟨-, hfound⟩ := fingerprintIn_recorded calm ha hb hnone rfl hok
  have hresult := (looks_getApprovalReplayFingerprint calm b.approvalId
    command.idempotencyKey state db').1
  dsimp only at hresult
  constructor
  · rw [hresult, hfound]
    by_cases htrace : a.traceId = b.traceId <;> simp [htrace]
  · rw [replayedResolution_none_iff calm, hfound]
    by_cases htrace : a.traceId = b.traceId <;> simp [htrace]

end Apart

end DynamoDBTraceStore

namespace Demo

/-- A pending approval of a trace. -/
def pendingApproval (approvalId traceId : String) : ApprovalRecord :=
  { approvalId := approvalId, traceId := traceId, preparedActionId := "PREP-1"
    actionHash := "", stateHash := "", policyVersion := "demo-v1"
    reasonCode := "SPEND_APPROVAL_REQUIRED", status := .pendingApproval, createdAt := 0
    expiresAt := 900000000 }

/-- A table with the pointers of two approvals. -/
def pointing (a b : ApprovalRecord) : Database where
  table := ((∅ : Table).set ⟨.approval a.approvalId, .pointerSk⟩
    (DynamoDBTraceStore.approvalItem a (.approval a))).set ⟨.approval b.approvalId, .pointerSk⟩
    (DynamoDBTraceStore.approvalItem b (.approval b))

/-- A command that may be sent to more than one approval. -/
def repeatedCommand : ApprovalCommand :=
  { decision := .approve, approverLabel := "operations lead", comment := none
    expectedVersion := 1, idempotencyKey := "approve-1" }

/-- The first approval and one of another trace, or of its own. -/
def pair (traceId : String) : Database :=
  pointing (pendingApproval "APR-1" "TR-1") (pendingApproval "APR-2" traceId)

/-- The command is recorded for the first approval. -/
def recording (traceId : String) : Interaction.Exit PyError TrajectoryState Database Unit :=
  (DynamoDBTraceStore.recordApprovalReplay "APR-1" repeatedCommand.idempotencyKey
    repeatedCommand.fingerprint).exec (Database.handle .calm) started (pair traceId)

theorem recording_ok : (recording "TR-1").result = .ok () ∧ (recording "TR-2").result = .ok () := by
  decide +kernel

end Demo

/-- An approval of another trace is left alone. -/
theorem recordApprovalReplay_apart_iff_traces :
    ((DynamoDBTraceStore.getApprovalReplayFingerprint "APR-2" "approve-1").exec
      (Database.handle .calm) Demo.started (Demo.recording "TR-2").env).result = .ok none := by
  have hnone : DynamoDBTraceStore.fingerprintIn (Demo.pair "TR-2").table "APR-2" "approve-1" =
      .ok none := by
    decide +kernel
  exact (DynamoDBTraceStore.recordApprovalReplay_apart_iff (fun _ => rfl) Demo.started
    (Demo.pair "TR-2") (Demo.pendingApproval "APR-1" "TR-1") (Demo.pendingApproval "APR-2" "TR-2")
    Demo.repeatedCommand 1 "python" rfl rfl hnone Demo.recording_ok.2).1.mpr (by decide)

/-- A replay recorded for one approval is found for the next one of its trace. -/
theorem not_recordApprovalReplay_apart :
    ¬ ∀ (db : Database) (a b : ApprovalRecord) (idempotencyKey fingerprint : String),
      a.approvalId ≠ b.approvalId → DynamoDBTraceStore.approvalIn db.table a.approvalId = .ok a →
      DynamoDBTraceStore.approvalIn db.table b.approvalId = .ok b →
      DynamoDBTraceStore.fingerprintIn db.table b.approvalId idempotencyKey = .ok none →
      ((DynamoDBTraceStore.recordApprovalReplay a.approvalId idempotencyKey fingerprint).exec
        (Database.handle .calm) Demo.started db).result = .ok () →
      DynamoDBTraceStore.fingerprintIn ((DynamoDBTraceStore.recordApprovalReplay a.approvalId
        idempotencyKey fingerprint).exec (Database.handle .calm) Demo.started db).env.table
          b.approvalId idempotencyKey = .ok none := by
  intro h
  have hnone : DynamoDBTraceStore.fingerprintIn (Demo.pair "TR-1").table "APR-2" "approve-1" =
      .ok none := by
    decide +kernel
  have ha : DynamoDBTraceStore.approvalIn (Demo.pair "TR-1").table "APR-1" =
      .ok (Demo.pendingApproval "APR-1" "TR-1") := rfl
  have hb : DynamoDBTraceStore.approvalIn (Demo.pair "TR-1").table "APR-2" =
      .ok (Demo.pendingApproval "APR-2" "TR-1") := rfl
  have hapart := h (Demo.pair "TR-1") (Demo.pendingApproval "APR-1" "TR-1")
    (Demo.pendingApproval "APR-2" "TR-1") "approve-1" Demo.repeatedCommand.fingerprint (by decide)
    ha hb hnone Demo.recording_ok.1
  have hfound := (DynamoDBTraceStore.fingerprintIn_recorded (fun _ => rfl)
    (a := Demo.pendingApproval "APR-1" "TR-1") (b := Demo.pendingApproval "APR-2" "TR-1")
    ha hb hnone rfl Demo.recording_ok.1).2
  have hsome := hfound.symm.trans hapart
  cases hsome

end Manifest
