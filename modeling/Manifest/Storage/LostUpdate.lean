import Manifest.Demo
import Manifest.Storage.Chain
import Manifest.Storage.Revision

/-!
# An update that is lost

Two clients load a new trace.  The first one's decision is too large to be stored: the call
raises, but its object already counts with the next revision.  The second client writes, and
the first one's next write passes the condition although its object has never seen what it
replaces.

Main results:

- Theorem `LostUpdate.lost_update`: the second client's write is overwritten.
- Theorem `LostUpdate.no_lost_update_written`: without the failed write it is not.
-/

set_option autoImplicit false

namespace Manifest

open Interaction Fallible DynamoDBTraceStore

namespace LostUpdate

open Watched

def newRun : TrajectoryState :=
  { traceId := "TRACE-1", orderId := "ORD-8842" }

def decision (decisionId because : String) : Decision :=
  { decisionId := decisionId, requestId := "REQ-1", traceId := "TRACE-1", proposalId := "PROP-1"
    agent := .carrier, toolName := "get_order", effectClass := some .read, policyOutcome := .allow
    appliedOutcome := .allow, enforced := true, reasonCode := "ALLOW", because := because
    reasons := [], guidance := none, policyVersion := "demo-v1", engineName := "python"
    evaluationMs := Demo.zeroFloat, policyBundleHash := none, createdAt := 0 }

/-- A decision whose document exceeds the limit. -/
def oversized : Decision :=
  decision "DEC-1" (String.ofList (List.replicate 350000 'x'))

theorem oversized_not_fits : ¬ (Document.decision oversized).Fits := by
  have hbecause : 350000 < Value.byteSize (.str oversized.because) := by
    have hlength := Value.length_lt_quotedSize oversized.because
    have hlist : oversized.because.toList = List.replicate 350000 'x' :=
      String.toList_ofList
    rw [hlist, List.length_replicate] at hlength
    exact hlength
  have hpayload : Value.byteSize (.str oversized.because) ≤ oversized.payload.byteSize :=
    Value.byteSize_le_of_mem (k := "because") (by simp)
  have henvelope : oversized.payload.byteSize ≤ (Document.decision oversized).envelope.byteSize :=
    Value.byteSize_le_of_mem (k := "payload") List.mem_cons_self
  unfold Document.Fits
  rw [Document.size_eq]
  exact Nat.not_le_of_gt (hbecause.trans_le (hpayload.trans henvelope))

/-- A decision that cannot be encoded cannot be assembled. -/
theorem decisionActions_error {d : Decision} (state : TrajectoryState) (oldRevision : Nat)
    (h : ¬ (Document.decision d).Fits) : ∃ x, decisionActions state d oldRevision = .error x := by
  cases hactions : decisionActions state d oldRevision with
  | error x => exact ⟨x, rfl⟩
  | ok actions =>
      obtain ⟨put, hput, -⟩ := bind_eq_ok_iff.mp hactions
      obtain ⟨-, -, hfits, -⟩ := putTraceItem_ok hput
      exact absurd hfits h

/-- The size of a state document does not depend on the digits its counters are. -/
theorem fits_counters {state : TrajectoryState} {sequence revision : Nat}
    (hsequence : sequence < 10) (hrevision : revision < 10) (hnext : state.nextSequence < 10)
    (hstate : state.storageRevision < 10) (h : (Document.state state).Fits) :
    (Document.state
      { state with nextSequence := sequence, storageRevision := revision }).Fits := by
  have hdigit : ∀ n < 10, Value.byteSize (.int (n : Nat)) = 1 := by decide
  have hsize : (Document.state
      { state with nextSequence := sequence, storageRevision := revision }).size =
      (Document.state state).size := by
    simp only [Document.size_eq, Document.envelope, Document.payload, TrajectoryState.payload,
      Value.byteSize, Value.entriesSize]
    simp only [Value.byteSize] at hdigit
    rw [hdigit revision hrevision, hdigit sequence hsequence, hdigit state.nextSequence hnext,
      hdigit state.storageRevision hstate]
    rfl
  unfold Document.Fits at h ⊢
  rwa [hsize]

theorem newRun_fits (sequence revision : Nat) (hsequence : sequence < 10) (hrevision : revision < 10) :
    (Document.state
      { newRun with nextSequence := sequence, storageRevision := revision }).Fits :=
  fits_counters hsequence hrevision (by decide) (by decide) (by decide +kernel)

theorem namespacePk_demo : namespacePk "demo" = .ok (.namespaced "demo") := by
  have hlower : "demo".toLower = "demo" := by decide +kernel
  have hname : validateNamespace "demo" = .ok "demo" := by
    unfold validateNamespace
    rw [hlower]
    rfl
  rw [namespacePk, hname]
  rfl

def newHead : LedgerHead :=
  { traceId := "TRACE-1", sequence := 0, eventCount := 0, eventHash := genesisHash
    schemaVersion := ledgerSchemaVersion, updatedAt := 0 }

/-- The new run can be assembled. -/
theorem newRun_assembles : ∃ actions, createActions newRun newHead "demo" = .ok actions := by
  have hstate : (Document.state newRun).encode = .ok (Document.state newRun) :=
    Document.encode_ok_iff.mpr ⟨newRun_fits 1 0 (by decide) (by decide), rfl⟩
  have hhead : (Document.head newHead).encode = .ok (Document.head newHead) :=
    Document.encode_ok_iff.mpr ⟨by decide +kernel, rfl⟩
  have hpk : tracePk newRun.traceId = .ok (.trace "TRACE-1") := rfl
  have hsk : namespaceTraceSk newRun.traceId = .ok (.namespaceTrace "TRACE-1") := rfl
  unfold createActions putTraceItem
  rw [hstate, hhead, hpk, hsk, namespacePk_demo]
  exact ⟨_, rfl⟩

/-! ### Calls that nobody disturbs -/

variable {ι : Type} [DecidableEq ι] {i : ι} {w : Watched ι} {s : TrajectoryState}

theorem handle_accepted {traceId : String} {action : WriteAction} {actions : List WriteAction}
    (h : WritesState traceId action actions) (haccepts : w.db.table.accepts actions = true) :
    Watched.handle .calm i _ (.transactWriteItems actions) w =
      (.ok (), w.committed i action actions) := by
  have htransact : w.db.transact .calm actions =
      (.ok (), { w.db.serve with table := w.db.table.apply actions }) := by
    unfold Database.transact
    simp only [Backend.calm, haccepts, if_true]
  unfold Watched.handle
  rw [show Database.handle .calm _ (.transactWriteItems actions) w.db =
    w.db.transact .calm actions from rfl, htransact]
  simp only [note, h.stateWrites_eq, List.foldl_cons, List.foldl_nil]
  rfl

/-- A decision that is accepted. -/
theorem exec_appendDecision {d : Decision} {actions : List WriteAction}
    (hactions : decisionActions (s.withDecision d) d s.storageRevision = .ok actions)
    (haccepts : w.db.table.accepts actions = true) :
    (appendDecision d).exec (Watched.handle .calm i) s w =
      ⟨.ok (), s.withDecision d, w.committed i
        (.update ⟨.trace s.traceId, .metaSk⟩ .revision s.storageRevision
          (s.storageRevision + 1 : Nat) (Document.state (s.withDecision d)).stored) actions⟩ := by
  have hwrites := (replaces_decision hactions).writesState
  have hassemble : (assemble (decisionActions (s.withDecision d) d s.storageRevision)).exec
      (Watched.handle .calm i) (s.withDecision d) w = ⟨.ok actions, s.withDecision d, w⟩ := by
    rw [hactions]
    rfl
  unfold appendDecision
  rw [Proc.exec_bind_ok _ (Proc.exec_read _ s w), Proc.exec_bind_ok _ (Proc.exec_mutate ..),
    Proc.exec_bind_ok _ hassemble, commit, Proc.exec_tryCatch, Proc.exec_request,
    handle_accepted hwrites haccepts]
  rfl

/-- A decision that cannot be encoded leaves the next revision behind. -/
theorem exec_appendDecision_error {d : Decision} (h : ¬ (Document.decision d).Fits) :
    ∃ x, (appendDecision d).exec (Watched.handle .calm i) s w =
      ⟨.error x, s.withDecision d, w⟩ := by
  obtain ⟨x, hx⟩ := decisionActions_error (s.withDecision d) s.storageRevision h
  refine ⟨x, ?_⟩
  have hassemble : (assemble (decisionActions (s.withDecision d) d s.storageRevision)).exec
      (Watched.handle .calm i) (s.withDecision d) w = ⟨.error x, s.withDecision d, w⟩ := by
    rw [hx]
    rfl
  unfold appendDecision
  rw [Proc.exec_bind_ok _ (Proc.exec_read _ s w), Proc.exec_bind_ok _ (Proc.exec_mutate ..),
    Proc.exec_bind_error _ hassemble]

/-- A query that finds nothing. -/
theorem exec_query_nil {E α : Type} {h : Handler DynamoOp E} {e e' : E} {pk : PartitionKey}
    {beginning : String} (decoder : Document → Except PyError α)
    (hquery : h _ (.query pk beginning none) e = (.ok ([], none), e')) :
    (query 1 (.ok pk) beginning >>= fun items =>
      Proc.ofExcept (items.mapM (·.decode decoder)) : Dynamo (List α)).exec h s e =
        ⟨.ok [], s, e'⟩ := by
  have hexec : (query 1 (.ok pk) beginning).exec h s e = ⟨.ok [], s, e'⟩ := by
    unfold query
    rw [Proc.exec_bind_ok _ (Proc.exec_ofExcept ..), queryFrom, Proc.exec_bind, Proc.exec_request,
      hquery]
    rfl
  rw [Proc.exec_bind_ok _ hexec]
  rfl

/-- A page of an empty partition. -/
theorem handle_query_nil {db : Database} {pk : PartitionKey} {beginning : String}
    (hnone : db.table.partition pk beginning = []) :
    Database.handle .calm _ (.query pk beginning none) db = (.ok ([], none), db.serve) := by
  have hpage : db.table.page pk beginning none 100 = ([], none) := by
    unfold Table.page
    rw [hnone]
    rfl
  rw [← hpage]
  rfl

theorem watched_query_nil {pk : PartitionKey} {beginning : String}
    (hnone : w.db.table.partition pk beginning = []) :
    Watched.handle .calm i _ (.query pk beginning none) w =
      (.ok ([], none), { w with db := w.db.serve }) := by
  simp only [Watched.handle, handle_query_nil hnone]
  rfl

/-- The state item of the new run. -/
def storedRun : Item :=
  traceItem "TRACE-1" .metaSk "trace" (.state newRun) (some 0)

/-- The new run is stored, without events and decisions. -/
structure Created (table : Table) : Prop where
  get?_eq : table.get? ⟨.trace "TRACE-1", .metaSk⟩ = some storedRun
  bare : ∀ sk, (table.get? ⟨.trace "TRACE-1", sk⟩).isSome = true → sk = .metaSk ∨ sk = .headSk

theorem Created.partition_eq {table : Table} (h : Created table)
    (beginning : String) (hmeta : SortKey.begins beginning .metaSk = false)
    (hhead : SortKey.begins beginning .headSk = false) :
    table.partition (.trace "TRACE-1") beginning = [] := by
  refine List.eq_nil_iff_forall_not_mem.mpr fun entry hentry => ?_
  obtain ⟨hbegins, hget⟩ := mem_partition.mp hentry
  rcases h.bare entry.1 (by rw [hget]; rfl) with hsk | hsk
  · rw [hsk, hmeta] at hbegins
    cases hbegins
  · rw [hsk, hhead] at hbegins
    cases hbegins

/-- A load of the new trace. -/
theorem exec_loadTrace (h : Created w.db.table) :
    ∃ w', (loadTrace 1 "TRACE-1").exec (Watched.handle .calm i) s w = ⟨.ok newRun, s, w'⟩ ∧
      w'.db.table = w.db.table ∧ w'.base = Function.update w.base i (some storedRun) ∧
      w'.accepted = w.accepted := by
  have hread : Watched.handle .calm i _ (.getItem ⟨.trace "TRACE-1", .metaSk⟩) w =
      (.ok (some storedRun), { w.rebase i (some storedRun) with db := w.db.serve }) := by
    rw [← h.get?_eq]
    rfl
  generalize hw : ({ w.rebase i (some storedRun) with db := w.db.serve } : Watched ι) = w₁ at hread
  have htable : w₁.db.table = w.db.table := hw ▸ rfl
  have hcreated : Created w₁.db.table := htable ▸ h
  have hevents := exec_query_nil (s := s) Document.decodeEvent (watched_query_nil (i := i)
    (hcreated.partition_eq "EVENT#" (by decide +kernel) (by decide +kernel)))
  have hdecisions := exec_query_nil (s := s) Document.decodeDecision
    (watched_query_nil (i := i) (w := { w₁ with db := w₁.db.serve })
      (hcreated.partition_eq "DECISION#" (by decide +kernel) (by decide +kernel)))
  have hpk : tracePk "TRACE-1" = .ok (.trace "TRACE-1") := rfl
  have hitem : (getItem (tracePk "TRACE-1") (.ok .metaSk)).exec (Watched.handle .calm i) s w =
      ⟨.ok (some storedRun), s, w₁⟩ := by
    rw [hpk, getItem, Proc.exec_bind_ok _ (Proc.exec_ofExcept ..),
      Proc.exec_bind_ok _ (Proc.exec_ofExcept ..), Proc.exec_request, hread]
  have hstored : storedRun.decode Document.decodeState = .ok newRun := rfl
  have hrevision : revisionOf storedRun = .ok 0 := rfl
  refine ⟨{ { w₁ with db := w₁.db.serve } with db := w₁.db.serve.serve }, ?_, htable, ?_, ?_⟩
  · rw [loadTrace_eq, Proc.exec_bind_ok _ hitem]
    simp only [loadFrom, getEvents, getDecisions, hpk]
    rw [Proc.exec_bind_ok _ hevents, Proc.exec_bind_ok _ hdecisions, hstored, hrevision]
    rfl
  · rw [← hw]
    rfl
  · rw [← hw]
    rfl

/-- What a new run leaves in an empty table. -/
theorem created_of_actions {actions : List WriteAction}
    (hactions : createActions newRun newHead "demo" = .ok actions) :
    Created (Table.apply ∅ actions) := by
  have hwrites := (writesState_create hactions).1
  obtain ⟨valid, heq⟩ := createActions_ok hactions
  refine ⟨hwrites.get?_self ∅, fun sk hsk => ?_⟩
  by_contra hother
  have hnone : (Table.apply ∅ actions).get? ⟨.trace "TRACE-1", sk⟩ = none := by
    refine (Table.get?_apply_of_not_mem (fun hmem => hother ?_) ∅).trans rfl
    rw [heq] at hmem
    simpa [WriteAction.key, newRun] using hmem
  rw [hnone] at hsk
  cases hsk

/-- The first run of the trace. -/
theorem exec_createRun : ∃ w' actions,
    (createRun "demo").exec (Watched.handle .calm i) newRun ({} : Watched ι) =
      ⟨.ok (), newRun, w'⟩ ∧
    createActions newRun newHead "demo" = .ok actions ∧ w'.db.table = Table.apply ∅ actions ∧
    w'.accepted.length = 1 := by
  obtain ⟨actions, hactions⟩ := newRun_assembles
  obtain ⟨valid, heq⟩ := createActions_ok hactions
  have hwrites : WritesState "TRACE-1" (.put ⟨.trace "TRACE-1", .metaSk⟩ storedRun) actions :=
    (writesState_create hactions).1
  have haccepts : Table.accepts ∅ actions = true := by
    rw [heq]
    rfl
  generalize hw : ({ ({} : Watched ι) with db := ({} : Database).serve } : Watched ι) = w
  have htable : w.db.table = ∅ := hw ▸ rfl
  have hnow : Watched.handle .calm i _ .utcNow ({} : Watched ι) = (0, w) := hw ▸ rfl
  have htransact := handle_accepted (i := i) hwrites (htable ▸ haccepts)
  refine ⟨w.committed i (.put ⟨.trace "TRACE-1", .metaSk⟩ storedRun) actions, actions, ?_,
    hactions, ?_, hw ▸ rfl⟩
  · unfold createRun
    rw [Proc.exec_bind_ok _ (Proc.exec_read ..), if_neg (by decide),
      Proc.exec_bind_ok _ (Proc.exec_mutate ..), Proc.exec_bind, Proc.exec_perform, hnow]
    show (Proc.ofExcept (createActions newRun newHead "demo") >>= fun actions => _).exec _ newRun w = _
    rw [hactions, Proc.exec_bind_ok _ (Proc.exec_ofExcept ..), commit, Proc.exec_tryCatch,
      Proc.exec_request, htransact]
  · show w.db.table.apply actions = _
    rw [htable]

/-- A small decision on an object of the new run. -/
theorem decision_assembles {d : Decision} {sk : SortKey} (htrace : s.traceId = "TRACE-1")
    (hrevision : s.storageRevision < 9)
    (hstored : (Document.state (s.withDecision d)).stored =
      .state (newRun.setRevision (s.storageRevision + 1)))
    (hsk : decisionSk d.createdAt d.decisionId = .ok sk) (hd : (Document.decision d).Fits) :
    decisionActions (s.withDecision d) d s.storageRevision =
      .ok [.put ⟨.trace "TRACE-1", sk⟩ (traceItem "TRACE-1" sk "decision" (.decision d) none),
        .update ⟨.trace "TRACE-1", .metaSk⟩ .revision s.storageRevision
          (s.storageRevision + 1 : Nat) (.state (newRun.setRevision (s.storageRevision + 1)))] := by
  have hsize : (Document.state (s.withDecision d)).size =
      (Document.state (s.withDecision d)).stored.size := rfl
  have hfits : (Document.state (s.withDecision d)).Fits := by
    unfold Document.Fits
    rw [hsize, hstored]
    exact newRun_fits 1 (s.storageRevision + 1) (by decide) (by omega)
  have hstate : (Document.state (s.withDecision d)).encode =
      .ok (.state (newRun.setRevision (s.storageRevision + 1))) :=
    Document.encode_ok_iff.mpr ⟨hfits, hstored.symm⟩
  have hdocument : (Document.decision d).encode = .ok (.decision d) :=
    Document.encode_ok_iff.mpr ⟨hd, rfl⟩
  have htrace' : (s.withDecision d).traceId = "TRACE-1" := htrace
  have hpk : tracePk "TRACE-1" = .ok (.trace "TRACE-1") := rfl
  unfold decisionActions putTraceItem metaUpdateAction
  rw [hstate, hsk, hdocument, htrace', hpk]
  rfl

/-- A decision is accepted under a free key and at the current revision. -/
theorem accepts_decision {table : Table} {item put : Item} {sk : SortKey} {revision : Nat} {next : Int}
    {document : Document} (hfree : table.get? ⟨.trace "TRACE-1", sk⟩ = none)
    (hget : table.get? ⟨.trace "TRACE-1", .metaSk⟩ = some item)
    (hrevision : item.revision = some (revision : Int)) :
    table.accepts [.put ⟨.trace "TRACE-1", sk⟩ put,
      .update ⟨.trace "TRACE-1", .metaSk⟩ .revision revision next document] = true := by
  simp [Table.accepts, WriteAction.holds, WriteAction.key, hfree, hget, Item.counter, hrevision]

theorem Created.free {table : Table} (h : Created table) {sk : SortKey} (hmeta : sk ≠ .metaSk)
    (hhead : sk ≠ .headSk) : table.get? ⟨.trace "TRACE-1", sk⟩ = none := by
  cases hget : table.get? ⟨.trace "TRACE-1", sk⟩ with
  | none => rfl
  | some item =>
      have hsk := h.bare sk (by rw [hget]; rfl)
      exact absurd hsk (not_or.mpr ⟨hmeta, hhead⟩)

/-! ### The run -/

theorem client_created [Sha256] (name : String) (fuel : Nat) (calls : List ClientCall)
    (state s : TrajectoryState) : client name fuel calls (.created state) s =
      (createRun name >>= fun _ => session name calls) state :=
  rfl

theorem client_loaded [Sha256] (name : String) (fuel : Nat) (calls : List ClientCall)
    (traceId : String) (s : TrajectoryState) :
    client name fuel calls (.loaded traceId) s =
      (loadTrace fuel traceId >>= fun state => (fun _ => session name calls state)) s :=
  rfl

theorem session_cons [Sha256] (name : String) (call : ClientCall) (rest : List ClientCall) :
    session name (call :: rest) =
      (Proc.tryCatch (call.perform name) fun x => pure (.raised x)) >>= fun outcome =>
        session name rest >>= fun outcomes => pure (outcome :: outcomes) :=
  rfl

/-- A call that raised. -/
theorem exec_call_error [Sha256] {s' : TrajectoryState} {d : Decision} {x : PyError}
    (h : (appendDecision d).exec (Watched.handle .calm i) s w = ⟨.error x, s', w⟩) :
    (Proc.tryCatch ((ClientCall.appendDecision d).perform "demo") fun x =>
      pure (.raised x)).exec (Watched.handle .calm i) s w = ⟨.ok (.raised x), s', w⟩ := by
  rw [Proc.exec_tryCatch, ClientCall.perform, Proc.exec_bind_error _ h]
  rfl

/-- A call that returned. -/
theorem exec_call_ok [Sha256] {s' : TrajectoryState} {w' : Watched ι} {d : Decision}
    (h : (appendDecision d).exec (Watched.handle .calm i) s w = ⟨.ok (), s', w'⟩) :
    (Proc.tryCatch ((ClientCall.appendDecision d).perform "demo") fun x =>
      pure (.raised x)).exec (Watched.handle .calm i) s w = ⟨.ok .done, s', w'⟩ := by
  rw [Proc.exec_tryCatch, ClientCall.perform, Proc.exec_bind_ok _ h]
  rfl

theorem scheduled_commit {actions : List WriteAction} {undo : TrajectoryState → TrajectoryState}
    {failure : PyError} :
    (commit actions undo failure s).Scheduled (Watched.handle .calm i) Assembles w := by
  refine Prog.scheduled_bind.mpr ⟨⟨trivial, trivial⟩, ?_⟩
  split <;> trivial

/-- A decision that is assembled is permitted where assembling must not fail. -/
theorem scheduled_appendDecision {d : Decision} {actions : List WriteAction}
    (hactions : decisionActions (s.withDecision d) d s.storageRevision = .ok actions) :
    (appendDecision d s).Scheduled (Watched.handle .calm i) Assembles w := by
  have hassemble : (assemble (decisionActions (s.withDecision d) d s.storageRevision)).exec
      (Watched.handle .calm i) (s.withDecision d) w = ⟨.ok actions, s.withDecision d, w⟩ := by
    rw [hactions]
    rfl
  unfold appendDecision
  refine Proc.scheduled_bind trivial (Proc.exec_read ..) ?_
  refine Proc.scheduled_bind trivial (Proc.exec_mutate ..) ?_
  exact Proc.scheduled_bind ⟨⟨actions, hactions⟩, trivial⟩ hassemble scheduled_commit

theorem scheduled_createRun :
    (createRun "demo" newRun).Scheduled (Watched.handle .calm i) Assembles w := by
  obtain ⟨actions, hactions⟩ := newRun_assembles
  unfold createRun
  refine Proc.scheduled_bind trivial (Proc.exec_read ..) ?_
  rw [if_neg (by decide)]
  refine Proc.scheduled_bind trivial (Proc.exec_mutate ..) ?_
  refine Proc.scheduled_bind ⟨trivial, trivial⟩ (Proc.exec_perform ..) ?_
  show Prog.Scheduled _ _
    ((Proc.ofExcept (createActions newRun newHead "demo") >>= fun actions => _) newRun) _
  rw [hactions]
  exact Proc.scheduled_bind trivial (Proc.exec_ofExcept ..) scheduled_commit

theorem scheduled_loadTrace {fuel : Nat} {traceId : String} :
    (loadTrace fuel traceId s).Scheduled (Watched.handle .calm i) Assembles w :=
  Prog.All.scheduled (loadTrace_reads fuel traceId s) (fun β o w ho => by
    cases o with
    | assemble actions => cases ho
    | _ => trivial) w

inductive Client where
  | starter
  | stale
  | other
deriving DecidableEq

def origins : Client → Origin
  | .starter => .created newRun
  | .stale => .loaded "TRACE-1"
  | .other => .loaded "TRACE-1"

/-- One of the clients goes on after a decision that was too large. -/
def calls : Client → List ClientCall
  | .starter => []
  | .stale => [.appendDecision oversized, .appendDecision (decision "DEC-2" "Second try.")]
  | .other => [.appendDecision (decision "DEC-3" "Allowed.")]

/-- A trace is created, and both other clients load it. -/
theorem opened (calls : Client → List ClientCall) : ∃ pool w,
    (startWatched "demo" (fun _ => 1) calls origins).Reaches (Watched.handle .calm)
      (fun _ => Assembles) pool ∧
    pool.env = w ∧ Created w.db.table ∧ w.base .stale = some storedRun ∧ w.accepted.length = 1 ∧
    pool.threads .stale = session "demo" (calls .stale) newRun ∧
    pool.threads .other = session "demo" (calls .other) newRun := by
  generalize hpool : startWatched "demo" (fun _ => 1) calls origins = pool
  have hstarter : pool.threads .starter =
      (createRun "demo" >>= fun _ => session "demo" (calls .starter)) newRun :=
    hpool ▸ client_created "demo" 1 (calls .starter) newRun _
  have hstale : pool.threads .stale = (loadTrace 1 "TRACE-1" >>= fun state =>
      (fun _ => session "demo" (calls .stale) state)) { traceId := "", orderId := "" } :=
    hpool ▸ client_loaded "demo" 1 (calls .stale) "TRACE-1" _
  have hother : pool.threads .other = (loadTrace 1 "TRACE-1" >>= fun state =>
      (fun _ => session "demo" (calls .other) state)) { traceId := "", orderId := "" } :=
    hpool ▸ client_loaded "demo" 1 (calls .other) "TRACE-1" _
  have henv : pool.env = {} := hpool ▸ rfl
  obtain ⟨w₁, actions, hcreate, hactions, htable₁, hlength⟩ := exec_createRun (i := Client.starter)
  have hcreated : Created w₁.db.table := htable₁ ▸ created_of_actions hactions
  obtain ⟨pool₁, hreach₁, -, henv₁, hrest₁⟩ := Pool.reaches_exec (h := Watched.handle .calm)
    (C := fun _ => Assembles) hstarter henv scheduled_createRun hcreate
  obtain ⟨w₂, hload, htable₂, hbase₂, haccepted₂⟩ := exec_loadTrace (i := Client.stale) hcreated
  obtain ⟨pool₂, hreach₂, hstale₂, henv₂, hrest₂⟩ := Pool.reaches_exec (C := fun _ => Assembles)
    ((hrest₁ .stale nofun).trans hstale) henv₁ scheduled_loadTrace hload
  obtain ⟨w₃, hload', htable₃, hbase₃, haccepted₃⟩ :=
    exec_loadTrace (i := Client.other) (htable₂ ▸ hcreated)
  obtain ⟨pool₃, hreach₃, hother₃, henv₃, hrest₃⟩ := Pool.reaches_exec (C := fun _ => Assembles)
    ((hrest₂ .other nofun).trans ((hrest₁ .other nofun).trans hother)) henv₂ scheduled_loadTrace hload'
  have hbase : w₃.base .stale = some storedRun := by
    rw [hbase₃, hbase₂]
    rfl
  exact ⟨pool₃, w₃, hreach₁.trans (hreach₂.trans hreach₃), henv₃, htable₃ ▸ htable₂ ▸ hcreated,
    hbase, by rw [haccepted₃, haccepted₂, hlength], (hrest₃ .stale nofun).trans hstale₂, hother₃⟩

/-- The other client's decision is accepted on the new trace. -/
theorem first_accepted {w : Watched Client} (hcreated : Created w.db.table) : ∃ w',
    (appendDecision (decision "DEC-3" "Allowed.")).exec (Watched.handle .calm .other) newRun w =
      ⟨.ok (), newRun.withDecision (decision "DEC-3" "Allowed."), w'⟩ ∧
    (appendDecision (decision "DEC-3" "Allowed.") newRun).Scheduled
      (Watched.handle .calm Client.other) Assembles w ∧
    w'.db.table.get? ⟨.trace "TRACE-1", .metaSk⟩ =
      some (storedRun.update .revision 1 (.state (newRun.setRevision 1))) ∧
    w'.db.table.get? ⟨.trace "TRACE-1", .decision 0 "DEC-2"⟩ = none ∧
    w'.base .stale = w.base .stale ∧ w'.accepted.length = w.accepted.length + 1 := by
  have hassembled := decision_assembles (s := newRun) (d := decision "DEC-3" "Allowed.") rfl
    (by decide) rfl rfl (by decide +kernel)
  have hwrites := (replaces_decision hassembled).writesState
  have hexec := exec_appendDecision (i := Client.other) (w := w) hassembled
    (accepts_decision (hcreated.free nofun nofun) hcreated.get?_eq rfl)
  have hne : Client.stale ≠ Client.other := nofun
  refine ⟨_, hexec, scheduled_appendDecision hassembled, ?_, ?_, base_committed_of_ne hne .., ?_⟩
  · exact (hwrites.get?_self w.db.table).trans (congrArg _ hcreated.get?_eq)
  · refine (Table.get?_apply_of_not_mem ?_ w.db.table).trans (hcreated.free nofun nofun)
    simp [WriteAction.key, decision]
  · exact List.length_append

/-- The write after the failed one replaces the other client's write. -/
theorem lost_update : ¬ ∀ turns : List Client,
    ((startWatched "demo" (fun _ => 1) calls origins).play (Watched.handle .calm)
      turns).env.NoLostUpdate := by
  intro hall
  obtain ⟨pool₁, w₁, hreach₁, henv₁, hcreated, hbase₁, -, hstale, hother⟩ := opened calls
  -- The stale client's first write fails, and its object counts on.
  obtain ⟨x, hfailed⟩ := exec_appendDecision_error (i := Client.stale) (w := w₁) (s := newRun)
    oversized_not_fits
  obtain ⟨pool₂, hreach₂, hstale₂, henv₂, hrest₂⟩ := Pool.reaches_exec
    (hstale.trans (congrFun (session_cons ..) newRun)) henv₁ (Prog.scheduled_any ..)
    (exec_call_error hfailed)
  -- The other client writes.
  obtain ⟨w₃, hwrite₃, -, hget₃, hfree₃, hbase₃, -⟩ := first_accepted hcreated
  obtain ⟨pool₃, hreach₃, -, henv₃, hrest₃⟩ := Pool.reaches_exec
    ((hrest₂ .other nofun).trans (hother.trans (congrFun (session_cons ..) newRun))) henv₂
    (Prog.scheduled_any ..) (exec_call_ok hwrite₃)
  -- The stale client's second write passes the condition.
  have hassembled := decision_assembles (s := newRun.withDecision oversized)
    (d := decision "DEC-2" "Second try.") rfl (by decide) rfl rfl (by decide +kernel)
  have hwrite₄ := exec_appendDecision (i := Client.stale) (w := w₃) hassembled
    (accepts_decision hfree₃ hget₃ rfl)
  obtain ⟨pool₄, hreach₄, -, henv₄, -⟩ := Pool.reaches_exec
    ((hrest₃ .stale nofun).trans (hstale₂.trans (congrFun ((congrArg (· >>= _)
      (session_cons ..)).trans (Proc.bind_assoc ..)) _))) henv₃ (Prog.scheduled_any ..)
    (exec_call_ok hwrite₄)
  obtain ⟨turns, -, hturns⟩ := hreach₁.any.trans (hreach₂.trans (hreach₃.trans hreach₄))
  have hlast := hall turns
  rw [hturns, henv₄] at hlast
  have hlost : w₃.base .stale = w₃.db.table.get? ⟨.trace "TRACE-1", .metaSk⟩ :=
    hlast _ (List.mem_append_right _ (List.mem_singleton_self _))
  rw [hbase₃, hbase₁, hget₃] at hlost
  have hrevision := congrArg (Option.bind · Item.revision) hlost
  exact absurd hrevision (by decide)

/-- Without the write that was too large. -/
def smallCalls : Client → List ClientCall
  | .starter => []
  | .stale => []
  | .other => [.appendDecision (decision "DEC-3" "Allowed.")]

/-- A run in which a client loads the new trace and writes on it. -/
theorem no_lost_update_written : ∃ turns : List Client,
    let run := (startWatched "demo" (fun _ => 1) smallCalls origins).play (Watched.handle .calm) turns
    run.env.accepted.length = 2 ∧ run.env.NoLostUpdate := by
  obtain ⟨pool₁, w₁, hreach₁, henv₁, hcreated, -, hlength, -, hother⟩ := opened smallCalls
  obtain ⟨w₂, hwrite₂, hscheduled, -, -, -, hlength₂⟩ := first_accepted hcreated
  obtain ⟨pool₂, hreach₂, -, henv₂, -⟩ := Pool.reaches_exec (C := fun _ => Assembles)
    (hother.trans (congrFun (session_cons ..) newRun)) henv₁
    (Proc.scheduled_tryCatch (Proc.scheduled_bind hscheduled hwrite₂ trivial)
      (Proc.exec_bind_ok _ hwrite₂)) (exec_call_ok hwrite₂)
  obtain ⟨turns, hpermitted, hturns⟩ := hreach₁.trans hreach₂
  have horigins : ∀ i state, origins i ≠ .held state := by
    intro i state
    cases i <;> nofun
  refine ⟨turns, ?_, no_lost_update .calm "demo" (fun _ => 1) smallCalls origins turns horigins
    hpermitted⟩
  rw [hturns, henv₂, hlength₂, hlength]

end LostUpdate

end Manifest
