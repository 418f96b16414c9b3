import Manifest.Lib.Maintains
import Manifest.Storage.ResetExact

/-!
# Stores of several namespaces

What stores of any namespaces do to one table, in any interleaving of their requests, and the
calls that take no caller's state, lead from a reachable table to a reachable one.

Main results:

- Theorem `reachable_play`: any interleaving of stores.
- Theorem `stores_indexed`: the namespace index they leave behind.
- Theorem `reachable_recordApprovalReplay` and `reachable_putEffectReceipt`: the other writes.
-/

set_option autoImplicit false

namespace Manifest

open Interaction Fallible

namespace DynamoDBTraceStore

/-! ## The discipline of stores -/

theorem handle_serves (backend : Backend) (β : Type) (o : DynamoOp β) (db : Database) :
    ((Database.handle backend β o db).1, id (Database.handle backend β o db).2) =
      Database.handle backend β o (id db) :=
  rfl

theorem reachable_refl (db : Database) : Reachable db.table → Reachable db.table :=
  id

/-- Nothing a store does leads out of the reachable tables. -/
def leads (backend : Backend) : Discipline Database where
  backend := backend
  db := id
  handler := Database.handle backend
  serves := handle_serves backend
  scheduled _ _ _ := True
  rely db db' := Reachable db.table → Reachable db'.table
  guarantee db db' := Reachable db.table → Reachable db'.table
  rely_refl := reachable_refl

/-- The instants of a call are those of the calendar. -/
def ClientCall.Dated : ClientCall → Prop
  | .appendDecision decision => decision.createdAt.InRange
  | .addApproval approval => approval.createdAt.InRange
  | _ => True

section Stores

variable {backend : Backend} {s : TrajectoryState} {db : Database}

/-- A transaction of a repository's write. -/
theorem reachable_transact {actions : List WriteAction} (hcommits : Commits actions)
    (h : Reachable db.table) :
    Reachable (Database.handle backend _ (.transactWriteItems actions) db).2.table := by
  show Reachable (db.transact backend actions).2.table
  rcases db.transact_cases backend actions with ⟨x, hx⟩ | ⟨haccepts, hok⟩
  · rw [hx]
    exact h
  · rw [hok]
    exact .commit h hcommits haccepts

theorem leads_steady : (leads backend).Steady fun db => Reachable db.table where
  stable h hrely := hrely h
  quiet o db ho h := by
    have htable := Database.handle_table backend db ho.not_writes
    exact ⟨fun h => htable ▸ h, htable ▸ h⟩

/-- Every exit of a store's call leaves a reachable table. -/
abbrev Leads {α : Type} (_ : Except PyError α) (_ : TrajectoryState) (db : Database) : Prop :=
  Reachable db.table

theorem leads_commits {α : Type} {s s' : TrajectoryState} {failure : PyError}
    {actions : List WriteAction} {r : α} (hcommits : Commits actions) :
    (leads backend).Commits (fun db => Reachable db.table) s s' failure actions r Leads := by
  intro db h _
  have hnext : Reachable (Database.handle backend _ (.transactWriteItems actions) db).2.table :=
    reachable_transact hcommits h
  exact ⟨fun _ => hnext, fun _ db' hrely => hrely hnext, fun _ _ db' hrely => hrely hnext⟩

theorem leads_spoils {α : Type} {s : TrajectoryState} :
    (leads backend).Spoils (fun db => Reachable db.table) s (Leads (α := α)) :=
  fun _ _ _ _ _ h => h

theorem leads_appendEvent [Sha256] (spec : EventSpec) (h : Reachable db.table) :
    (leads backend).Guards (appendEvent spec) s db Leads := by
  have hsteady : (leads backend).Steady fun db => Reachable db.table := leads_steady
  have hread {β : Type} {o : DynamoOp β} (ho : o.writes = false) {db : Database}
      (h : Reachable db.table) : Reachable (Database.handle backend β o db).2.table :=
    Database.handle_table backend db ho ▸ h
  refine hsteady.guards_appendEvent (K := fun _ db => Reachable db.table)
    (V := fun _ db => Reachable db.table) (fun _ => hsteady) (fun _ _ _ hV hrely => hrely hV)
    (fun _ _ _ _ h _ _ => hread rfl h) (fun _ _ _ h _ _ => hread rfl h)
    (fun _ _ _ _ h => ⟨fun _ => hread rfl h, hread rfl h⟩) (fun _ _ h => h) (fun _ _ h => h)
    (fun _ _ _ h => h) (fun _ _ => leads_spoils) ?_ h
  intro head now uuid actions replay _ hactions hreplay
  exact leads_commits (.appendEvent hactions hreplay)

/-- One call, its exceptions handled. -/
theorem leads_call [Sha256] (name : String) (call : ClientCall) (hdated : call.Dated)
    (h : Reachable db.table) :
    (leads backend).Guards (Proc.tryCatch (call.perform name) fun x => pure (.raised x)) s db
      Leads := by
  have hdone {outcome : Outcome} {s : TrajectoryState} {db : Database} (h : Reachable db.table) :
      (leads backend).Guards (pure outcome : Dynamo Outcome) s db Leads :=
    fun _ hrely => hrely h
  refine Proc.Guarantees.tryCatch (P := Leads) (leads backend).rely_refl ?_
    (fun _ _ _ h _ hrely => hrely h) (fun _ _ _ h => hdone h)
  cases call with
  | appendEvent spec =>
      exact Proc.Guarantees.bind (leads backend).rely_refl (leads_appendEvent spec h)
        (fun _ _ _ h => hdone h) fun _ _ _ h _ hrely => hrely h
  | appendDecision decision =>
      refine Proc.Guarantees.bind (leads backend).rely_refl
        (leads_steady.guards_appendDecision leads_spoils (fun _ hactions => ?_) h)
        (fun _ _ _ h => hdone h) fun _ _ _ h _ hrely => hrely h
      exact leads_commits (.appendDecision hdated hactions)
  | addApproval approval =>
      refine Proc.Guarantees.bind (leads backend).rely_refl
        (leads_steady.guards_addApproval leads_spoils (fun _ hactions => ?_) h)
        (fun _ _ _ h => hdone h) fun _ _ _ h _ hrely => hrely h
      exact leads_commits (.addApproval hdated hactions)
  | change f => exact hdone (s := applyChange f s) h

/-- The calls of a store. -/
theorem leads_session [Sha256] (name : String) (calls : List ClientCall)
    (hdated : ∀ call ∈ calls, call.Dated) (h : Reachable db.table) :
    (leads backend).Guards (session name calls) s db Leads := by
  induction calls generalizing s db with
  | nil => exact fun _ hrely => hrely h
  | cons call rest ih =>
      obtain ⟨hfirst, hrest⟩ := List.forall_mem_cons.mp hdated
      refine Proc.Guarantees.bind (leads backend).rely_refl (leads_call name call hfirst h)
        (fun outcome s₁ db₁ h₁ => ?_) fun _ _ _ h _ hrely => hrely h
      refine Proc.Guarantees.bind (leads backend).rely_refl (ih hrest h₁)
        (fun outcomes s₂ db₂ h₂ => ?_) fun _ _ _ h _ hrely => hrely h
      exact fun _ hrely => hrely h₂

/-- A store obtains its object and makes its calls. -/
theorem leads_client [Sha256] (name : String) (fuel : Nat) (calls : List ClientCall)
    (origin : Origin) (hdated : ∀ call ∈ calls, call.Dated) (h : Reachable db.table) :
    (leads backend).Guards (client name fuel calls origin) s db Leads := by
  have hsession {s : TrajectoryState} {db : Database} (h : Reachable db.table) :
      (leads backend).Guards (session name calls) s db Leads :=
    leads_session name calls hdated h
  cases origin with
  | created state =>
      simp only [client, Proc.guarantees_mutate_bind]
      refine Proc.Guarantees.bind (leads backend).rely_refl
        (leads_steady.guards_createRun (fun _ _ _ h => h)
          (fun now actions hactions => leads_commits (.createRun hactions)) h)
        (fun _ _ _ h => hsession h) fun _ _ _ h _ hrely => hrely h
  | loaded traceId =>
      refine Proc.Guarantees.bind (leads backend).rely_refl
        ((loadTrace_reads fuel traceId s).guarantees (fun h hrely => hrely h)
          (fun _ o db ho h => ?_) h) ?_ fun _ _ _ h _ hrely => hrely h.2
      · have htable := Database.handle_table backend db (DynamoOp.not_writes_of_reads ho)
        exact ⟨fun h => htable ▸ h, htable ▸ h⟩
      · intro state s' db' h
        simp only [Proc.guarantees_mutate_bind]
        exact hsession h.2
  | held state =>
      simp only [client, Proc.guarantees_mutate_bind]
      exact hsession h

/-! ## Any interleaving -/

/-- Stores of any namespaces, each with its own object and calls, on one table. -/
def stores {ι : Type} [Sha256] (db : Database) (names : ι → String) (fuel : ι → Nat)
    (calls : ι → List ClientCall) (origins : ι → Origin) :
    Pool DynamoOp Database ι (Except PyError (List Outcome) × TrajectoryState) where
  threads i := client (names i) (fuel i) (calls i) (origins i) { traceId := "", orderId := "" }
  env := db

/-- What any number of stores of any namespaces do to a reachable table, in any interleaving of
their requests, leaves it reachable. -/
theorem reachable_play {ι : Type} [DecidableEq ι] [Sha256] (backend : Backend) (names : ι → String)
    (fuel : ι → Nat) (calls : ι → List ClientCall) (origins : ι → Origin) (turns : List ι)
    (hdated : ∀ i, ∀ call ∈ calls i, call.Dated) (h : Reachable db.table) :
    Reachable ((stores db names fuel calls origins).play (fun _ => Database.handle backend)
      turns).env.table := by
  have hclients (i : ι) : (leads backend).Guards
      (client (names i) (fuel i) (calls i) (origins i)) { traceId := "", orderId := "" } db Leads :=
    leads_client (names i) (fuel i) (calls i) (origins i) (hdated i) h
  have hrun := Pool.play_guarantees
    (R := fun _ (db db' : Database) => Reachable db.table → Reachable db'.table)
    (G := fun _ (db db' : Database) => Reachable db.table → Reachable db'.table)
    (T := fun db db' => Reachable db.table → Reachable db'.table) turns
    (fun _ => fun h h' => h' ∘ h) (fun _ _ => id) (fun _ _ _ _ _ h => h) (fun _ => id)
    (fun h h' => h' ∘ h) (fun _ _ _ h => h)
    (Pool.permitted_any (fun _ => Database.handle backend) turns
      (stores db names fuel calls origins)) hclients
  exact hrun.1 h

/-! ## The index of a table -/

/-- The namespace index of a table: every stored trace and approval is in one namespace, and a
namespace lists its own, each trace once. -/
structure Indexed (table : Table) : Prop where
  trace_placed : ∀ traceId, (table.get? ⟨.trace traceId, .metaSk⟩).isSome = true →
    ∃! name, traceId ∈ tracesOf table name
  approval_placed : ∀ approvalId,
    (table.get? ⟨.approval approvalId, .pointerSk⟩).isSome = true →
      ∃! name, approvalId ∈ approvalsOf table name
  traces_listed : ∀ name traceId,
    traceId ∈ listedTraces (table.partition (.namespaced name) "") ↔ traceId ∈ tracesOf table name
  traces_once : ∀ name, (listedTraces (table.partition (.namespaced name) "")).Nodup
  approvals_listed : ∀ name approvalId,
    approvalId ∈ listedApprovals (table.partition (.namespaced name) "") ↔
      approvalId ∈ approvalsOf table name

/-- The approvals of a namespace are those it lists. -/
theorem mem_approvalsOf {table : Table} (h : Manifest.Kept table.mark) {name approvalId : String} :
    approvalId ∈ approvalsOf table name ↔ ListsApproval table.mark name approvalId := by
  constructor
  · exact fun hmem => hmem.2
  · intro hlists
    exact ⟨(Table.isSome_mark ..).symm.trans (h.listed_approval _ _ hlists), hlists⟩

theorem indexed_of_kept {table : Table} (h : Manifest.Kept table.mark) : Indexed table where
  trace_placed traceId hstored := by
    have hmark := (Table.isSome_mark table ⟨.trace traceId, .metaSk⟩).trans hstored
    obtain ⟨-, name, hlists⟩ := h.trace_listed traceId hmark
    refine ⟨name, (mem_tracesOf h).mpr hlists, fun other hother => ?_⟩
    exact h.one_trace other name traceId ((mem_tracesOf h).mp hother) hlists
  approval_placed approvalId hstored := by
    have hmark := (Table.isSome_mark table ⟨.approval approvalId, .pointerSk⟩).trans hstored
    obtain ⟨-, -, name, hlists⟩ := h.approval_listed approvalId .pointerSk hmark
    refine ⟨name, (mem_approvalsOf h).mpr hlists, fun other hother => ?_⟩
    exact h.one_approval other name approvalId ((mem_approvalsOf h).mp hother) hlists
  traces_listed name traceId := (mem_listedTraces h).trans (mem_tracesOf h).symm
  traces_once name := nodup_listedTraces h name
  approvals_listed name approvalId := (mem_listedApprovals h).trans (mem_approvalsOf h).symm

/-- Whatever any number of stores of any namespaces do to a reachable table, in any interleaving
of their requests and whichever of these fail, the table is indexed. -/
theorem stores_indexed {ι : Type} [DecidableEq ι] [Sha256] (backend : Backend) (names : ι → String)
    (fuel : ι → Nat) (calls : ι → List ClientCall) (origins : ι → Origin) (turns : List ι)
    (hdated : ∀ i, ∀ call ∈ calls i, call.Dated) (h : Reachable db.table) :
    Indexed ((stores db names fuel calls origins).play (fun _ => Database.handle backend)
      turns).env.table :=
  indexed_of_kept (reachable_play backend names fuel calls origins turns hdated h).kept

/-- Two stores that take turns: one adds to the run of its namespace, the other makes a run of
the same name in a namespace of its own. -/
theorem stores_indexed_firstRun :
    Indexed ((stores ResetDemo.firstRun (fun second => if second then "other" else "demo")
      (fun _ => 1) (fun _ => [.appendDecision (LostUpdate.decision "DEC-1" "Checked.")])
      (fun second => if second then .created LostUpdate.newRun else .loaded "TRACE-1")).play
        (fun _ => Database.handle Backend.calm)
        [false, true, false, true, false, false, true, false, false]).env.table := by
  refine stores_indexed Backend.calm _ _ _ _ _ (fun second call hmem => ?_)
    ResetDemo.reachable_firstRun
  obtain rfl := List.mem_singleton.mp hmem
  exact ⟨by decide, by decide⟩

/-! ## Calls without an object -/

section Calls

variable {σ : Type}

/-- The table stays reachable. -/
abbrev Stays {σ : Type} (_ : σ) (db : Database) : Prop :=
  Reachable db.table

/-- Requests that write nothing leave a reachable table. -/
theorem stays_handle {β : Type} {o : DynamoOp β} (ho : o.writes = false) {s : σ} {db : Database}
    (h : Stays s db) : Stays s (Database.handle backend β o db).2 := by
  show Reachable (Database.handle backend β o db).2.table
  rwa [Database.handle_table backend db ho]

theorem maintains_read {α : Type} {o : DynamoOp (Except PyError α)} (ho : o.writes = false) :
    Proc.Maintains (Database.handle backend) Stays (Proc.request o : Proc DynamoOp PyError σ α) :=
  .request fun _ _ h => stays_handle ho h

theorem maintains_transact {actions : List WriteAction} (hcommits : Commits actions) :
    Proc.Maintains (Database.handle backend) Stays
      (Proc.request (.transactWriteItems actions) : Proc DynamoOp PyError σ Unit) :=
  .request fun _ _ h => reachable_transact hcommits h

theorem maintains_getItem (pk : Except PyError PartitionKey) (sk : Except PyError SortKey) :
    Proc.Maintains (Database.handle backend) Stays (getItem pk sk) :=
  .bind (.ofExcept pk) fun _ => .bind (.ofExcept sk) fun _ => maintains_read rfl

theorem maintains_getApproval (approvalId : String) :
    Proc.Maintains (Database.handle backend) Stays (getApproval approvalId) := by
  refine .bind (maintains_getItem _ _) fun found => ?_
  cases found with
  | none => exact .raise _
  | some item => exact .ofExcept _

theorem maintains_getApprovalReplayFingerprint [Sha256] (approvalId idempotencyKey : String) :
    Proc.Maintains (Database.handle backend) Stays
      (getApprovalReplayFingerprint approvalId idempotencyKey) := by
  refine .bind (maintains_getApproval approvalId) fun approval => ?_
  refine .bind (.ofExcept _) fun keyHash => .bind (maintains_getItem _ _) fun found => ?_
  cases found with
  | none => exact .pure _
  | some item => exact .ofExcept _

/-- The put of an approval replay leaves a reachable table. -/
theorem reachable_recordApprovalReplay [Sha256] (approvalId idempotencyKey fingerprint : String) :
    Proc.Maintains (Database.handle backend) Stays
      (recordApprovalReplay approvalId idempotencyKey fingerprint) := by
  refine .bind (maintains_getApproval approvalId) fun approval => ?_
  refine .bind (.ofExcept _) fun keyHash =>
    .bind (.perform fun _ _ h => stays_handle (o := .utcNow) rfl h) fun createdAt => ?_
  refine .bind (.ofExcept _) fun replay => .ofExcept_bind fun put hput => ?_
  refine .tryCatch (maintains_transact (.recordApprovalReplay hput)) fun _ => ?_
  refine .bind (maintains_getApprovalReplayFingerprint approvalId idempotencyKey) fun existing => ?_
  split_ifs
  · exact .raise _
  · exact .pure _

/-- So does the put of an effect receipt. -/
theorem reachable_putEffectReceipt (receipt : EffectReceipt) :
    Proc.Maintains (Database.handle backend) Stays (putEffectReceipt receipt) := by
  refine .ofExcept_bind fun put hput => .tryCatch ?_ fun _ => ?_
  · exact .bind (maintains_transact (.putEffectReceipt hput)) fun _ => .pure _
  · refine .bind (.bind (.ofExcept _) fun pk => .bind (.ofExcept _) fun sk =>
      .bind (maintains_read rfl) fun found => ?_) fun existing => ?_
    · cases found with
      | none => exact .pure _
      | some item => exact .ofExcept _
    · cases existing with
      | none => exact .raise _
      | some existing =>
          dsimp only
          split_ifs
          · exact .pure _
          · exact .raise _

end Calls

end Stores

end DynamoDBTraceStore

end Manifest
