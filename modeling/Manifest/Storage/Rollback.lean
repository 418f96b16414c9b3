import Manifest.Storage.LostUpdate

/-!
# The caller's state after a failed write

A write changes the caller's state, builds its keys and documents and commits them.  Only the
failure of the commit is undone, so what a call that raised leaves behind depends on whether
its keys and documents could be built.

Main results:

- Theorem `commit_cases`: a failed commit is undone.
- Theorem `leavesCaller_iff`: which calls leave their caller as it was whenever they raise.
-/

set_option autoImplicit false

namespace Manifest

open Interaction Fallible

namespace DynamoDBTraceStore

/-! ## Undoing -/

theorem withoutEvent_withEvent (s : TrajectoryState) (event : TraceEvent) :
    (s.withEvent event).withoutEvent s.storageRevision = s := by
  unfold TrajectoryState.withoutEvent TrajectoryState.withEvent
  dsimp only
  rw [List.dropLast_concat, Nat.add_sub_cancel]

theorem withoutDecision_withDecision (s : TrajectoryState) (decision : Decision) :
    (s.withDecision decision).withoutDecision s.storageRevision = s := by
  unfold TrajectoryState.withoutDecision TrajectoryState.withDecision
  dsimp only
  rw [List.dropLast_concat]

/-- The ledger of a caller whose change was not undone differs. -/
theorem ledger_withEvent_ne (s : TrajectoryState) (event : TraceEvent) :
    (s.withEvent event).ledger ≠ s.ledger := by
  intro h
  have hrevision : s.storageRevision + 1 = s.storageRevision := congrArg (·.storageRevision) h
  omega

theorem ledger_withDecision_ne (s : TrajectoryState) (decision : Decision) :
    (s.withDecision decision).ledger ≠ s.ledger := by
  intro h
  have hrevision : s.storageRevision + 1 = s.storageRevision := congrArg (·.storageRevision) h
  omega

theorem ledger_setRevision_ne (s : TrajectoryState) :
    (s.setRevision (s.storageRevision + 1)).ledger ≠ s.ledger := by
  intro h
  have hrevision : s.storageRevision + 1 = s.storageRevision := congrArg (·.storageRevision) h
  omega

variable (backend : Backend)

/-- A commit undoes the change when it fails and keeps it when it succeeds. -/
theorem commit_cases (actions : List WriteAction) (undo : TrajectoryState → TrajectoryState)
    (failure : PyError) (s : TrajectoryState) (db : Database) :
    (commit actions undo failure).exec (Database.handle backend) s db =
        ⟨.error failure, undo s, db.serve⟩ ∨
      ∃ db', (commit actions undo failure).exec (Database.handle backend) s db =
        ⟨.ok (), s, db'⟩ := by
  unfold commit
  rw [Proc.exec_tryCatch, Proc.exec_request]
  have htransact : Database.handle backend _ (.transactWriteItems actions) db =
      db.transact backend actions := rfl
  rw [htransact]
  rcases db.transact_cases backend actions with ⟨x, hx⟩ | ⟨-, hx⟩
  · rw [hx]
    exact .inl rfl
  · rw [hx]
    exact .inr ⟨_, rfl⟩

/-! ## Reads keep the caller -/

/-- A read that returned had a valid key. -/
structure Fetched {α : Type} (pk : Except PyError PartitionKey) (sk : Except PyError SortKey)
    (s : TrajectoryState) (r : Except PyError α) (s' : TrajectoryState) : Prop where
  state_eq : s' = s
  keyed : ∀ a, r = .ok a → (∃ p, pk = .ok p) ∧ ∃ k, sk = .ok k

theorem Fetched.raised {α : Type} {pk : Except PyError PartitionKey} {sk : Except PyError SortKey}
    (s : TrajectoryState) (x : PyError) : Fetched pk sk s (.error x : Except PyError α) s :=
  ⟨rfl, fun _ h => by cases h⟩

theorem getItem_fetched (pk : Except PyError PartitionKey) (sk : Except PyError SortKey)
    (s : TrajectoryState) :
    Proc.Ensures (fun _ _ => True) (getItem pk sk) s (Fetched pk sk s) := by
  unfold getItem
  cases pk with
  | error x => exact .raised s x
  | ok pk =>
      cases sk with
      | error x => exact .raised s x
      | ok sk => exact ⟨trivial, fun _ => ⟨rfl, fun _ _ => ⟨⟨pk, rfl⟩, ⟨sk, rfl⟩⟩⟩⟩

theorem getHead_fetched (traceId : String) (s : TrajectoryState) :
    Proc.Ensures (fun _ _ => True) (getHead traceId) s
      (Fetched (tracePk traceId) (.ok .headSk) s) := by
  unfold getHead
  rw [Proc.ensures_bind]
  refine (getItem_fetched _ _ s).mono ?_
  rintro r s' ⟨rfl, hkeyed⟩
  rcases r with x | _ | item
  · exact .raised s' x
  · dsimp only
    rw [Proc.ensures_bind]
    refine (getItem_fetched _ _ s').mono ?_
    rintro r s'' ⟨rfl, -⟩
    rcases r with x | _ | item
    · exact .raised s'' x
    · exact .raised s'' _
    · exact .raised s'' _
  · exact ⟨rfl, fun _ _ => hkeyed _ rfl⟩

/-- A search for a replay; a new replay record gets a key of the table. -/
structure Searched (s : TrajectoryState) (r : Except PyError Replay) (s' : TrajectoryState) :
    Prop where
  state_eq : s' = s
  keyed : ∀ replayKey fingerprint, r = .ok (.absent (some (replayKey, fingerprint))) →
    ∃ sk, eventReplaySk replayKey = .ok sk

theorem Searched.raised (s : TrajectoryState) (x : PyError) : Searched s (.error x) s :=
  ⟨rfl, fun _ _ h => by cases h⟩

theorem findReplay_searched [Sha256] (spec : EventSpec) (s : TrajectoryState) :
    Proc.Ensures (fun _ _ => True) (findReplay spec) s (Searched s) := by
  unfold findReplay
  cases spec.idempotencyKey with
  | none => exact ⟨rfl, fun _ _ h => by cases h⟩
  | some key =>
      simp only [Proc.ensures_bind, Proc.ensures_read, Proc.ensures_ofExcept]
      cases opaqueKeyHash key with
      | error x => exact .raised s x
      | ok replayKey =>
          refine (getItem_fetched _ _ s).mono ?_
          rintro r s' ⟨rfl, hkeyed⟩
          rcases r with x | _ | existing
          · exact .raised s' x
          · refine ⟨rfl, fun _ _ h => ?_⟩
            cases h
            exact (hkeyed _ rfl).2
          · simp only [Proc.ensures_bind, Proc.ensures_ofExcept]
            cases existing.decode Document.decodeReplay with
            | error x => exact .raised s' x
            | ok replay =>
                dsimp only
                split
                · exact .raised s' _
                · simp only [Proc.ensures_bind, Proc.ensures_ofExcept]
                  cases parseReference replay.resultReference with
                  | error x => exact .raised s' x
                  | ok sequence =>
                      refine (getItem_fetched _ _ s').mono ?_
                      rintro r s'' ⟨rfl, -⟩
                      rcases r with x | _ | item
                      · exact .raised s'' x
                      · exact .raised s'' _
                      · simp only [Proc.ensures_bind, Proc.ensures_ofExcept]
                        cases item.decode Document.decodeEvent with
                        | error x => exact .raised s'' x
                        | ok event => exact ⟨rfl, fun _ _ h => by cases h⟩

/-! ## What a write stores -/

/-- A key that is valid. -/
def Valid {α : Type} (key : Except PyError α) : Prop :=
  ∃ a, key = .ok a

theorem valid_bind_iff {α β : Type} {r : Except PyError α} {f : α → Except PyError β} :
    Valid (r >>= f) ↔ ∃ a, r = .ok a ∧ Valid (f a) := by
  constructor
  · rintro ⟨b, h⟩
    obtain ⟨a, ha, hb⟩ := bind_eq_ok_iff.mp h
    exact ⟨a, ha, b, hb⟩
  · rintro ⟨a, rfl, b, hb⟩
    exact ⟨b, hb⟩

theorem valid_ok {α : Type} (a : α) : Valid (.ok a : Except PyError α) :=
  ⟨a, rfl⟩

theorem valid_encode_iff {d : Document} : Valid d.encode ↔ d.Fits :=
  ⟨fun ⟨_, h⟩ => (Document.encode_ok_iff.mp h).1,
    fun h => ⟨_, Document.encode_ok_iff.mpr ⟨h, rfl⟩⟩⟩

/-- Sequencing where the rest does not depend on the value. -/
theorem valid_bind_const_iff {α β : Type} {r : Except PyError α} {f : α → Except PyError β}
    {p : Prop} (hf : ∀ a, Valid (f a) ↔ p) : Valid (r >>= f) ↔ Valid r ∧ p := by
  rw [valid_bind_iff]
  constructor
  · rintro ⟨a, ha, h⟩
    exact ⟨⟨a, ha⟩, (hf a).mp h⟩
  · rintro ⟨⟨a, ha⟩, hp⟩
    exact ⟨a, ha, (hf a).mpr hp⟩

/-- The last step, which only builds the actions. -/
theorem valid_bind_ok_iff {α β : Type} {r : Except PyError α} {f : α → β} :
    Valid (r >>= fun a => (.ok (f a) : Except PyError β)) ↔ Valid r :=
  (valid_bind_const_iff fun a => iff_true_intro (valid_ok (f a))).trans (iff_of_eq (and_true _))

theorem valid_putTraceItem_iff {traceId recordType : String} {sk : Except PyError SortKey}
    {document : Document} {revision : Option Int} :
    Valid (putTraceItem traceId sk recordType document revision) ↔
      Valid sk ∧ document.Fits ∧ Valid (tracePk traceId) := by
  unfold putTraceItem
  refine valid_bind_const_iff fun sk => ?_
  rw [← valid_encode_iff]
  exact valid_bind_const_iff fun stored => valid_bind_ok_iff

theorem valid_headUpdateAction_iff {traceId : String} {head newHead : LedgerHead} :
    Valid (headUpdateAction traceId head newHead) ↔
      Valid (tracePk traceId) ∧ (Document.head newHead).Fits := by
  unfold headUpdateAction
  rw [← valid_encode_iff]
  exact valid_bind_const_iff fun pk => valid_bind_ok_iff

theorem valid_metaUpdateAction_iff {state : TrajectoryState} {oldRevision : Nat} :
    Valid (metaUpdateAction state oldRevision) ↔
      Valid (tracePk state.traceId) ∧ (Document.state state).Fits := by
  unfold metaUpdateAction
  rw [← valid_encode_iff]
  exact valid_bind_const_iff fun pk => valid_bind_ok_iff

theorem valid_eventSk_iff {sequence : Nat} :
    Valid (eventSk sequence) ↔ 1 ≤ sequence ∧ sequence < 10 ^ 12 := by
  constructor
  · rintro ⟨sk, h⟩
    exact (eventSk_ok h).2
  · rintro ⟨hlow, hhigh⟩
    unfold eventSk
    rw [if_neg (by omega), if_neg (by omega)]
    exact valid_ok _

/-- The records of an event can be stored: its sequence fits the key, and it, the head after
it and the state with it fit an item. -/
structure EventStorable (s : TrajectoryState) (head : LedgerHead) (event : TraceEvent) : Prop where
  sequence_pos : 1 ≤ event.sequence
  sequence_lt : event.sequence < 10 ^ 12
  event_fits : (Document.event event).Fits
  head_fits : (Document.head (nextHead head event)).Fits
  state_fits : (Document.state (s.withEvent event)).Fits

theorem valid_appendActions_iff {s : TrajectoryState} {head : LedgerHead} {event : TraceEvent}
    (htrace : Valid (tracePk s.traceId)) :
    Valid (appendActions (s.withEvent event) head event s.storageRevision) ↔
      EventStorable s head event := by
  have htrace' : Valid (tracePk (s.withEvent event).traceId) := htrace
  have hactions : Valid (appendActions (s.withEvent event) head event s.storageRevision) ↔
      Valid (putTraceItem (s.withEvent event).traceId (eventSk event.sequence) "event"
        (.event event) none) ∧
      Valid (headUpdateAction (s.withEvent event).traceId head (nextHead head event)) ∧
      Valid (metaUpdateAction (s.withEvent event) s.storageRevision) := by
    unfold appendActions
    exact valid_bind_const_iff fun putEvent => valid_bind_const_iff fun updateHead =>
      valid_bind_ok_iff
  rw [hactions, valid_putTraceItem_iff, valid_headUpdateAction_iff, valid_metaUpdateAction_iff,
    valid_eventSk_iff]
  constructor
  · rintro ⟨⟨⟨hlow, hhigh⟩, hevent, -⟩, ⟨-, hhead⟩, -, hstate⟩
    exact ⟨hlow, hhigh, hevent, hhead, hstate⟩
  · rintro ⟨hlow, hhigh, hevent, hhead, hstate⟩
    exact ⟨⟨⟨hlow, hhigh⟩, hevent, htrace'⟩, ⟨htrace', hhead⟩, htrace', hstate⟩

/-- The records of a decision can be stored, under valid keys. -/
structure DecisionStorable (s : TrajectoryState) (decision : Decision) : Prop where
  trace_valid : Valid (tracePk s.traceId)
  key_valid : Valid (decisionSk decision.createdAt decision.decisionId)
  decision_fits : (Document.decision decision).Fits
  state_fits : (Document.state (s.withDecision decision)).Fits

theorem valid_decisionActions_iff {s : TrajectoryState} {decision : Decision} :
    Valid (decisionActions (s.withDecision decision) decision s.storageRevision) ↔
      DecisionStorable s decision := by
  have hactions : Valid (decisionActions (s.withDecision decision) decision s.storageRevision) ↔
      Valid (putTraceItem (s.withDecision decision).traceId
        (decisionSk decision.createdAt decision.decisionId) "decision" (.decision decision) none) ∧
      Valid (metaUpdateAction (s.withDecision decision) s.storageRevision) := by
    unfold decisionActions
    exact valid_bind_const_iff fun putDecision => valid_bind_ok_iff
  rw [hactions, valid_putTraceItem_iff, valid_metaUpdateAction_iff]
  constructor
  · rintro ⟨⟨hkey, hdecision, htrace⟩, -, hstate⟩
    exact ⟨htrace, hkey, hdecision, hstate⟩
  · rintro ⟨htrace, hkey, hdecision, hstate⟩
    exact ⟨⟨hkey, hdecision, htrace⟩, htrace, hstate⟩

/-- The records of an approval can be stored, under valid keys. -/
structure ApprovalStorable (s : TrajectoryState) (approval : ApprovalRecord) (name : String) :
    Prop where
  trace_valid : Valid (tracePk s.traceId)
  key_valid : Valid (approvalSk approval.approvalId)
  pointer_valid : Valid (approvalPointerPk approval.approvalId)
  namespace_valid : Valid (namespacePk name)
  listed_valid : Valid (namespaceApprovalSk approval.createdAt approval.approvalId)
  approval_fits : (Document.approval approval).Fits
  state_fits : (Document.state (s.setRevision (s.storageRevision + 1))).Fits

theorem valid_approvalActions_iff {s : TrajectoryState} {approval : ApprovalRecord}
    {name : String} :
    Valid (approvalActions (s.setRevision (s.storageRevision + 1)) approval name
        s.storageRevision) ↔ ApprovalStorable s approval name := by
  have hactions : Valid (approvalActions (s.setRevision (s.storageRevision + 1)) approval name
      s.storageRevision) ↔
      Valid (Document.approval approval).encode ∧ Valid (tracePk s.traceId) ∧
        Valid (approvalSk approval.approvalId) ∧ Valid (approvalPointerPk approval.approvalId) ∧
        Valid (namespacePk name) ∧
        Valid (namespaceApprovalSk approval.createdAt approval.approvalId) ∧
        Valid (metaUpdateAction (s.setRevision (s.storageRevision + 1)) s.storageRevision) := by
    unfold approvalActions
    exact valid_bind_const_iff fun document => valid_bind_const_iff fun pk =>
      valid_bind_const_iff fun sk => valid_bind_const_iff fun pointer =>
      valid_bind_const_iff fun listed => valid_bind_const_iff fun listedSk => valid_bind_ok_iff
  rw [hactions, valid_encode_iff, valid_metaUpdateAction_iff]
  constructor
  · rintro ⟨happroval, htrace, hkey, hpointer, hname, hlisted, -, hstate⟩
    exact ⟨htrace, hkey, hpointer, hname, hlisted, happroval, hstate⟩
  · rintro ⟨htrace, hkey, hpointer, hname, hlisted, happroval, hstate⟩
    exact ⟨happroval, htrace, hkey, hpointer, hname, hlisted, htrace, hstate⟩

/-! ## Calls that leave their caller alone -/

variable [Sha256] (name : String)

/-- When a call raises, the caller's ledger is what it was and the calls that follow go on as
if it had not been made. -/
def LeavesCaller (call : ClientCall) (s : TrajectoryState) (db : Database) : Prop :=
  let x := (call.perform name).exec (Database.handle backend) s db
  ∀ error, x.result = .error error → x.state.ledger = s.ledger ∧
    ∀ next : ClientCall, (next.perform name).exec (Database.handle backend) x.state x.env =
      (next.perform name).exec (Database.handle backend) s x.env

/-- The replay record of an event. -/
def replayRecord (traceId : String) (sequence : Nat) (createdAt : Timestamp)
    (record : String × String) : ReplayRecord :=
  { traceId := traceId, kind := .event, keyHash := record.1, fingerprint := record.2
    resultReference := toString sequence, createdAt := createdAt }

/-- The records of an append can be stored, where it finds no replay and the head it reads is
the one the caller's next sequence continues. -/
def AppendStorable (spec : EventSpec) (s : TrajectoryState) (db : Database) : Prop :=
  ∀ record db₁ head db₂,
    (findReplay spec).exec (Database.handle backend) s db = ⟨.ok (.absent record), s, db₁⟩ →
    (getHead s.traceId).exec (Database.handle backend) s db₁ = ⟨.ok head, s, db₂⟩ →
    s.nextSequence = head.sequence + 1 →
    let event := nextEvent s.traceId head spec (backend.utcNow db₂.served)
      (backend.uuid4 (db₂.served + 1))
    EventStorable s head event ∧ ∀ found, record = some found →
      (Document.replay (replayRecord s.traceId event.sequence
        (backend.utcNow (db₂.served + 2)) found)).Fits

/-- The records a call would store fit their items, under valid keys. -/
def Storable (s : TrajectoryState) (db : Database) : ClientCall → Prop
  | .appendEvent spec => AppendStorable backend spec s db
  | .appendDecision decision => DecisionStorable s decision
  | .addApproval approval => ApprovalStorable s approval name
  | .change _ => True

/-- The caller's object is the one before the call if the call raised. -/
def Kept {α : Type} (s : TrajectoryState) (x : Exit PyError TrajectoryState Database α) : Prop :=
  ∀ error, x.result = .error error → x.state = s

/-- The call raised and left a changed ledger behind. -/
def Spoiled {α : Type} (s : TrajectoryState) (x : Exit PyError TrajectoryState Database α) :
    Prop :=
  ∃ error, x.result = .error error ∧ x.state.ledger ≠ s.ledger

omit [Sha256] in
/-- Naming what a call returned changes neither. -/
theorem exec_bind_pure {α β : Type} (m : Dynamo α) (f : α → β) (s : TrajectoryState)
    (db : Database) :
    (m >>= fun a => pure (f a)).exec (Database.handle backend) s db =
      ⟨(m.exec (Database.handle backend) s db).result.map f,
        (m.exec (Database.handle backend) s db).state,
        (m.exec (Database.handle backend) s db).env⟩ := by
  rw [Proc.exec_bind]
  rcases m.exec (Database.handle backend) s db with ⟨r, s', db'⟩
  cases r with
  | error x => rfl
  | ok a => rfl

omit [Sha256] in
theorem Kept.bind_pure {α β : Type} {m : Dynamo α} {f : α → β} {s t : TrajectoryState}
    {db : Database} (h : Kept s (m.exec (Database.handle backend) t db)) :
    Kept s ((m >>= fun a => pure (f a)).exec (Database.handle backend) t db) := by
  rw [exec_bind_pure]
  intro error herror
  cases hr : (m.exec (Database.handle backend) t db).result with
  | ok a =>
      rw [hr] at herror
      cases herror
  | error x => exact h x hr

omit [Sha256] in
theorem Spoiled.bind_pure {α β : Type} {m : Dynamo α} {f : α → β} {s : TrajectoryState}
    {db : Database} (h : Spoiled s (m.exec (Database.handle backend) s db)) :
    Spoiled s ((m >>= fun a => pure (f a)).exec (Database.handle backend) s db) := by
  rw [exec_bind_pure]
  obtain ⟨error, herror, hne⟩ := h
  exact ⟨error, by rw [herror]; rfl, hne⟩

omit [Sha256] in
/-- A commit of assembled actions undoes its failure. -/
theorem kept_commit {actions : List WriteAction} {undo : TrajectoryState → TrajectoryState}
    {failure : PyError} {s t : TrajectoryState} {db : Database} (hundo : undo t = s) :
    Kept s ((commit actions undo failure).exec (Database.handle backend) t db) := by
  intro error herror
  rcases commit_cases backend actions undo failure t db with hx | ⟨db', hx⟩
  · rw [hx]
    exact hundo
  · rw [hx] at herror
    cases herror

omit [Sha256] in
theorem exec_assemble {r : Except PyError (List WriteAction)} (s : TrajectoryState)
    (db : Database) : (assemble r).exec (Database.handle backend) s db = ⟨r, s, db⟩ :=
  rfl

omit [Sha256] in
theorem error_of_not_valid {α : Type} {r : Except PyError α} (h : ¬ Valid r) :
    ∃ x, r = .error x := by
  cases r with
  | error x => exact ⟨x, rfl⟩
  | ok a => exact absurd (valid_ok a) h

omit [Sha256] in
theorem appendDecision_leaves (decision : Decision) (s : TrajectoryState) (db : Database) :
    (DecisionStorable s decision →
        Kept s ((appendDecision decision).exec (Database.handle backend) s db)) ∧
      (¬ DecisionStorable s decision →
        Spoiled s ((appendDecision decision).exec (Database.handle backend) s db)) := by
  unfold appendDecision
  rw [Proc.exec_bind_ok _ (Proc.exec_read _ s db), Proc.exec_bind_ok _ (Proc.exec_mutate ..),
    ← valid_decisionActions_iff]
  constructor
  · rintro ⟨actions, hactions⟩
    rw [hactions, Proc.exec_bind_ok _ (exec_assemble ..)]
    exact kept_commit backend (withoutDecision_withDecision s decision)
  · intro hinvalid
    obtain ⟨x, hx⟩ := error_of_not_valid hinvalid
    rw [hx, Proc.exec_bind_error _ (exec_assemble ..)]
    exact ⟨x, rfl, ledger_withDecision_ne s decision⟩

omit [Sha256] in
theorem addApproval_leaves (approval : ApprovalRecord) (s : TrajectoryState) (db : Database) :
    (ApprovalStorable s approval name →
        Kept s ((addApproval name approval).exec (Database.handle backend) s db)) ∧
      (¬ ApprovalStorable s approval name →
        Spoiled s ((addApproval name approval).exec (Database.handle backend) s db)) := by
  unfold addApproval
  rw [Proc.exec_bind_ok _ (Proc.exec_read _ s db), Proc.exec_bind_ok _ (Proc.exec_mutate ..),
    ← valid_approvalActions_iff]
  constructor
  · rintro ⟨actions, hactions⟩
    rw [hactions, Proc.exec_bind_ok _ (exec_assemble ..)]
    exact kept_commit backend rfl
  · intro hinvalid
    obtain ⟨x, hx⟩ := error_of_not_valid hinvalid
    rw [hx, Proc.exec_bind_error _ (exec_assemble ..)]
    exact ⟨x, rfl, ledger_setRevision_ne s⟩

/-- The records of an event and of its replay can be stored, for a replay created at some
time. -/
def RecordsStorable (s : TrajectoryState) (head : LedgerHead) (event : TraceEvent)
    (record : Option (String × String)) (createdAt : Timestamp) : Prop :=
  EventStorable s head event ∧ ∀ found, record = some found →
    (Document.replay (replayRecord s.traceId event.sequence createdAt found)).Fits

omit [Sha256] in
/-- The put of a replay record is assembled when the record fits. -/
theorem exec_replayActions (traceId : String) (sequence : Nat)
    (record : Option (String × String)) (s : TrajectoryState) (db : Database)
    (hkey : ∀ found, record = some found → Valid (eventReplaySk found.1))
    (htrace : Valid (tracePk traceId)) :
    ∃ r db', (replayActions traceId sequence record).exec (Database.handle backend) s db =
        ⟨r, s, db'⟩ ∧
      (Valid r ↔ ∀ found, record = some found → (Document.replay
        (replayRecord traceId sequence (backend.utcNow db.served) found)).Fits) := by
  cases record with
  | none => exact ⟨_, _, rfl, iff_of_true (valid_ok _) fun _ h => by cases h⟩
  | some found =>
      have hput : Valid (do
          let put ← putTraceItem traceId (eventReplaySk found.1) "event_replay"
            (.replay (replayRecord traceId sequence (backend.utcNow db.served) found)) none
          .ok [put]) ↔ (Document.replay
            (replayRecord traceId sequence (backend.utcNow db.served) found)).Fits := by
        refine valid_bind_ok_iff.trans (valid_putTraceItem_iff.trans ?_)
        exact ⟨fun h => h.2.1, fun h => ⟨hkey found rfl, h, htrace⟩⟩
      refine ⟨_, db.serve, rfl, hput.trans ⟨?_, fun h => h found rfl⟩⟩
      intro h other hother
      cases hother
      exact h

omit [Sha256] in
theorem commitEvent_leaves (head : LedgerHead) (event : TraceEvent)
    (record : Option (String × String)) (s : TrajectoryState) (db : Database)
    (hkey : ∀ found, record = some found → Valid (eventReplaySk found.1))
    (htrace : Valid (tracePk s.traceId)) :
    (RecordsStorable s head event record (backend.utcNow db.served) →
        Kept s ((commitEvent head event record).exec (Database.handle backend) s db)) ∧
      (¬ RecordsStorable s head event record (backend.utcNow db.served) →
        Spoiled s ((commitEvent head event record).exec (Database.handle backend) s db)) := by
  have hactions : Valid (appendActions (s.withEvent event) head event s.storageRevision) ↔
      EventStorable s head event := valid_appendActions_iff htrace
  unfold commitEvent RecordsStorable
  rw [Proc.exec_bind_ok _ (Proc.exec_read _ s db), Proc.exec_bind_ok _ (Proc.exec_mutate ..),
    ← hactions]
  by_cases hvalid : Valid (appendActions (s.withEvent event) head event s.storageRevision)
  · obtain ⟨actions, hassembled⟩ := id hvalid
    obtain ⟨r, db', hreplay, hfits⟩ :=
      exec_replayActions backend s.traceId event.sequence record (s.withEvent event) db hkey htrace
    rw [← hfits]
    cases r with
    | error x =>
        have hinvalid : ¬ Valid (.error x : Except PyError (List WriteAction)) :=
          fun ⟨_, h⟩ => by cases h
        refine ⟨fun h => absurd h.2 hinvalid, fun _ => ?_⟩
        rw [hassembled, Proc.exec_bind_ok _ (exec_assemble ..), Proc.exec_bind_error _ hreplay]
        exact ⟨x, rfl, ledger_withEvent_ne s event⟩
    | ok replay =>
        refine ⟨fun _ => ?_, fun h => absurd ⟨hvalid, valid_ok replay⟩ h⟩
        rw [hassembled, Proc.exec_bind_ok _ (exec_assemble ..), Proc.exec_bind_ok _ hreplay]
        have hcommit : Kept s ((commit (actions ++ replay)
            (fun state => state.withoutEvent s.storageRevision)
            (changedConcurrently s.traceId)).exec (Database.handle backend) (s.withEvent event)
              db') :=
          kept_commit backend (withoutEvent_withEvent s event)
        exact Kept.bind_pure backend (f := fun _ => event) hcommit
  · refine ⟨fun h => absurd h.1 hvalid, fun _ => ?_⟩
    obtain ⟨x, hx⟩ := error_of_not_valid hvalid
    rw [hx, Proc.exec_bind_error _ (exec_assemble ..)]
    exact ⟨x, rfl, ledger_withEvent_ne s event⟩

theorem appendEvent_leaves (spec : EventSpec) (s : TrajectoryState) (db : Database) :
    (AppendStorable backend spec s db →
        Kept s ((appendEvent spec).exec (Database.handle backend) s db)) ∧
      (¬ AppendStorable backend spec s db →
        Spoiled s ((appendEvent spec).exec (Database.handle backend) s db)) := by
  have hsearched := (findReplay_searched spec s).exec (Database.handle backend) db
  unfold appendEvent AppendStorable
  rcases hfind : (findReplay spec).exec (Database.handle backend) s db with ⟨r, s₁, db₁⟩
  rw [hfind] at hsearched
  obtain ⟨hstate, hkeyed⟩ := hsearched
  obtain rfl : s₁ = s := hstate
  rcases r with x | event | record
  · rw [Proc.exec_bind_error _ hfind]
    refine ⟨fun _ error _ => rfl, fun h => absurd ?_ h⟩
    intro _ _ _ _ h
    cases h
  · rw [Proc.exec_bind_ok _ hfind]
    refine ⟨fun _ error herror => (by cases herror), fun h => absurd ?_ h⟩
    intro _ _ _ _ h
    cases h
  · rw [Proc.exec_bind_ok _ hfind]
    have hkey : ∀ found, record = some found → Valid (eventReplaySk found.1) := by
      rintro found rfl
      exact hkeyed found.1 found.2 rfl
    have hhead := (getHead_fetched s₁.traceId s₁).exec (Database.handle backend) db₁
    show (_ → Kept s₁ ((writeEvent spec record).exec _ s₁ db₁)) ∧
      (_ → Spoiled s₁ ((writeEvent spec record).exec _ s₁ db₁))
    unfold writeEvent
    rw [Proc.exec_bind_ok _ (Proc.exec_read _ s₁ db₁)]
    rcases hget : (getHead s₁.traceId).exec (Database.handle backend) s₁ db₁ with ⟨r, s₂, db₂⟩
    rw [hget] at hhead
    obtain ⟨hstate, htrace⟩ := hhead
    obtain rfl : s₂ = s₁ := hstate
    cases r with
    | error x =>
        rw [Proc.exec_bind_error _ hget]
        refine ⟨fun _ error _ => rfl, fun h => absurd ?_ h⟩
        intro _ _ _ _ h h'
        cases h
        rw [hget] at h'
        cases h'
    | ok head =>
        rw [Proc.exec_bind_ok _ hget]
        by_cases hsequence : s₂.nextSequence = head.sequence + 1
        · rw [if_neg (not_not.mpr hsequence)]
          have hstorable : (∀ record' db₁' head' db₂',
              (⟨.ok (.absent record), s₂, db₁⟩ : Exit PyError TrajectoryState Database Replay) =
                ⟨.ok (.absent record'), s₂, db₁'⟩ →
              (getHead s₂.traceId).exec (Database.handle backend) s₂ db₁' =
                ⟨.ok head', s₂, db₂'⟩ → s₂.nextSequence = head'.sequence + 1 →
              RecordsStorable s₂ head' (nextEvent s₂.traceId head' spec
                (backend.utcNow db₂'.served) (backend.uuid4 (db₂'.served + 1))) record'
                (backend.utcNow (db₂'.served + 2))) ↔
              RecordsStorable s₂ head (nextEvent s₂.traceId head spec
                (backend.utcNow db₂.served) (backend.uuid4 (db₂.served + 1))) record
                (backend.utcNow (db₂.served + 2)) := by
            constructor
            · intro h
              exact h record db₁ head db₂ rfl hget hsequence
            · intro h record' db₁' head' db₂' hfound hget' _
              cases hfound
              rw [hget] at hget'
              cases hget'
              exact h
          have hleaves := commitEvent_leaves backend head (nextEvent s₂.traceId head spec
            (backend.utcNow db₂.served) (backend.uuid4 (db₂.served + 1))) record s₂
            db₂.serve.serve hkey (htrace head rfl).1
          exact ⟨fun h => hleaves.1 (hstorable.mp h), fun h => hleaves.2 (mt hstorable.mpr h)⟩
        · rw [if_pos hsequence]
          refine ⟨fun _ error _ => rfl, fun h => absurd ?_ h⟩
          intro _ _ _ _ h h' heq
          cases h
          rw [hget] at h'
          cases h'
          exact absurd heq hsequence

theorem perform_leaves (call : ClientCall) (s : TrajectoryState) (db : Database) :
    (Storable backend name s db call →
        Kept s ((call.perform name).exec (Database.handle backend) s db)) ∧
      (¬ Storable backend name s db call →
        Spoiled s ((call.perform name).exec (Database.handle backend) s db)) := by
  cases call with
  | appendEvent spec =>
      obtain ⟨hkept, hspoiled⟩ := appendEvent_leaves backend spec s db
      exact ⟨fun h => (hkept h).bind_pure backend, fun h => (hspoiled h).bind_pure backend⟩
  | appendDecision decision =>
      obtain ⟨hkept, hspoiled⟩ := appendDecision_leaves backend decision s db
      exact ⟨fun h => (hkept h).bind_pure backend, fun h => (hspoiled h).bind_pure backend⟩
  | addApproval approval =>
      obtain ⟨hkept, hspoiled⟩ := addApproval_leaves backend name approval s db
      exact ⟨fun h => (hkept h).bind_pure backend, fun h => (hspoiled h).bind_pure backend⟩
  | change f => exact ⟨fun _ error herror => (by cases herror), fun h => absurd trivial h⟩

/-- A call that spoils its caller's ledger does not leave it alone. -/
theorem Spoiled.not_leavesCaller {call : ClientCall} {s : TrajectoryState} {db : Database}
    (h : Spoiled s ((call.perform name).exec (Database.handle backend) s db)) :
    ¬ LeavesCaller backend name call s db := by
  obtain ⟨error, herror, hne⟩ := h
  exact fun hleaves => hne (hleaves error herror).1

/-- A decision that does not fit an item is counted by its caller. -/
theorem not_leavesCaller_of_not_fits {decision : Decision} (s : TrajectoryState) (db : Database)
    (h : ¬ (Document.decision decision).Fits) :
    ¬ LeavesCaller backend name (.appendDecision decision) s db :=
  ((perform_leaves backend name (.appendDecision decision) s db).2 fun hstorable =>
    h (DecisionStorable.decision_fits hstorable)).not_leavesCaller backend name

end DynamoDBTraceStore

end Manifest
