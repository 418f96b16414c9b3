import Mathlib.Data.Set.Card
import Manifest.Storage.LostUpdate
import Manifest.Storage.NamespaceReset
import Manifest.Storage.Pointers

/-!
# What a namespace reset leaves behind

Whatever stores of any namespaces wrote before, every trace and every approval of the table is
listed in exactly one namespace.  A reset whose batches are processed whole therefore removes
the traces and approvals of its namespace, counts the traces, and touches nothing else.  The
repository does not ask again for what a batch leaves unprocessed.

Main results:

- Theorem `Reachable.kept`: how traces, approvals and pointers belong together in every table.
- Theorem `resetDemoNamespace_exact`: what a reset that is processed whole does.
-/

set_option autoImplicit false

namespace Manifest

open Interaction Fallible

namespace DynamoDBTraceStore

/-! ## Writes of a repository -/

/-- The three updates of `replace_approval`. -/
def replaceActions (approval : ApprovalRecord) (name : String) (expected : Int) :
    Except PyError (List WriteAction) := do
  let document ← (Document.approval approval).encode
  let listedSk ← namespaceApprovalSk approval.createdAt approval.approvalId
  let pk ← tracePk approval.traceId
  let sk ← approvalSk approval.approvalId
  let pointer ← approvalPointerPk approval.approvalId
  let listed ← namespacePk name
  .ok ([⟨pk, sk⟩, ⟨pointer, .pointerSk⟩, ⟨listed, listedSk⟩].map fun key =>
    .update key .version expected approval.version document)

/-- The update of `commit_transition`. -/
def transitionActions (traceId : String) (state : TrajectoryState) (expectedRevision : Nat) :
    Except PyError (List WriteAction) := do
  let pk ← tracePk traceId
  let document ← (Document.state (state.setRevision (expectedRevision + 1))).encode
  .ok [.update ⟨pk, .metaSk⟩ .revision expectedRevision ((expectedRevision + 1 : Nat) : Int)
    document]

/-- What the methods of a repository commit, each in one request. -/
inductive Commits : List WriteAction → Prop where
  | createRun {state : TrajectoryState} {head : LedgerHead} {name : String}
      {actions : List WriteAction} (h : createActions state head name = .ok actions) :
      Commits actions
  | appendEvent {state : TrajectoryState} {head : LedgerHead} {event : TraceEvent}
      {oldRevision : Nat} {actions replay : List WriteAction}
      (h : appendActions state head event oldRevision = .ok actions)
      (hreplay : Discipline.IsReplay event.traceId replay) : Commits (actions ++ replay)
  | appendDecision {state : TrajectoryState} {decision : Decision} {oldRevision : Nat}
      {actions : List WriteAction} (hrange : decision.createdAt.InRange)
      (h : decisionActions state decision oldRevision = .ok actions) : Commits actions
  | addApproval {state : TrajectoryState} {approval : ApprovalRecord} {name : String}
      {oldRevision : Nat} {actions : List WriteAction} (hrange : approval.createdAt.InRange)
      (h : approvalActions state approval name oldRevision = .ok actions) : Commits actions
  | replaceApproval {approval : ApprovalRecord} {name : String} {expected : Int}
      {actions : List WriteAction} (h : replaceActions approval name expected = .ok actions) :
      Commits actions
  | recordApprovalReplay {traceId keyHash : String} {record : ReplayRecord} {put : WriteAction}
      (h : putTraceItem traceId (approvalReplaySk keyHash) "approval_replay" (.replay record) none
        = .ok put) : Commits [put]
  | putEffectReceipt {receipt : EffectReceipt} {put : WriteAction}
      (h : putTraceItem receipt.traceId (effectSk receipt.keyHash) "effect" (.effect receipt) none
        = .ok put) : Commits [put]
  | commitTransition {traceId : String} {state : TrajectoryState} {expectedRevision : Nat}
      {actions : List WriteAction}
      (h : transitionActions traceId state expectedRevision = .ok actions) : Commits actions

/-- The tables that stores of any namespaces, and resets whose batches are processed whole,
lead to. -/
inductive Reachable : Table → Prop where
  | empty : Reachable ∅
  | commit {table : Table} {actions : List WriteAction} (h : Reachable table)
      (hcommits : Commits actions) (haccepts : table.accepts actions = true) :
      Reachable (table.apply actions)
  | tamper {table : Table} {traceId : String} {sequence : Nat} {item : Item}
      (h : Reachable table) (hitem : table.get? ⟨.trace traceId, .event sequence⟩ = some item)
      (document : Document) :
      Reachable (table.set ⟨.trace traceId, .event sequence⟩
        { item with document := some document })
  | reset {backend : BatchBackend} {fuel n : Nat} {name : String} {db db' : Database}
      (h : Reachable db.table) (hwhole : backend.Whole)
      (hreset : (resetDemoNamespace fuel name).exec (Database.resetHandle backend) () db =
        ⟨.ok n, (), db'⟩) : Reachable db'.table

/-! ## What a reset deletes -/

section Deleted

variable {table : Table} {name : String}

theorem mem_partition_all {pk : PartitionKey} {entry : SortKey × Item} :
    entry ∈ table.partition pk "" ↔ table.get? ⟨pk, entry.1⟩ = some entry.2 := by
  rw [mem_partition, and_iff_right]
  rfl

theorem mem_partitionKeys {pk : PartitionKey} {key : ItemKey} :
    key ∈ partitionKeys table pk ↔ key.pk = pk ∧ (table.get? key).isSome = true := by
  rw [partitionKeys, List.mem_map]
  constructor
  · rintro ⟨entry, hentry, rfl⟩
    exact ⟨rfl, by rw [mem_partition_all.mp hentry]; rfl⟩
  · rintro ⟨rfl, hsome⟩
    obtain ⟨item, hitem⟩ := Option.isSome_iff_exists.mp hsome
    exact ⟨(key.sk, item), mem_partition_all.mpr hitem, rfl⟩

/-- The pointers of a namespace name the traces it lists. -/
theorem mem_listedTraces (h : Kept table.mark) {traceId : String} :
    traceId ∈ listedTraces (table.partition (.namespaced name) "") ↔
      ListsTrace table.mark name traceId := by
  rw [listedTraces, List.mem_map]
  constructor
  · rintro ⟨⟨sk, item⟩, hentry, rfl⟩
    obtain ⟨hmem, htype⟩ := List.mem_filter.mp hentry
    have hmark := Table.mark_of_get? (mem_partition_all.mp hmem)
    rcases h.pointers name sk item.mark hmark with ⟨id, rfl, heq⟩ | ⟨_, _, _, hother, -⟩
    · have hid : item.traceId = id := congrArg Mark.traceId heq
      show (table.mark ⟨.namespaced name, .namespaceTrace item.traceId⟩).isSome = true
      rw [hid, hmark]
      rfl
    · have hlisted : item.recordType = "namespace_trace" := by simpa using htype
      exact absurd hlisted hother
  · intro hlists
    obtain ⟨item, hitem⟩ := Option.isSome_iff_exists.mp
      ((Table.isSome_mark table _).symm.trans hlists)
    have hmark := Table.mark_of_get? hitem
    rcases h.pointers name _ item.mark hmark with ⟨id, hsk, heq⟩ | ⟨_, _, hsk, -⟩
    · obtain rfl := SortKey.namespaceTrace.inj hsk
      refine ⟨(.namespaceTrace traceId, item), List.mem_filter.mpr
        ⟨mem_partition_all.mpr hitem, ?_⟩, congrArg Mark.traceId heq⟩
      exact decide_eq_true (congrArg Mark.recordType heq)
    · cases hsk

/-- And the approvals it lists. -/
theorem mem_listedApprovals (h : Kept table.mark) {approvalId : String} :
    approvalId ∈ listedApprovals (table.partition (.namespaced name) "") ↔
      ListsApproval table.mark name approvalId := by
  rw [listedApprovals, List.mem_filterMap]
  constructor
  · rintro ⟨⟨sk, item⟩, hentry, hid⟩
    have hmark := Table.mark_of_get? (mem_partition_all.mp hentry)
    rcases h.pointers name sk item.mark hmark with ⟨id, rfl, heq⟩ | ⟨createdAt, id, rfl, -, heq⟩
    · have hnone : item.approvalId = none := congrArg Mark.approvalId heq
      rw [hnone] at hid
      cases hid
    · obtain rfl : id = approvalId := Option.some.inj (heq.symm.trans hid)
      exact ⟨createdAt, by rw [hmark]; rfl⟩
  · rintro ⟨createdAt, hlists⟩
    obtain ⟨item, hitem⟩ := Option.isSome_iff_exists.mp
      ((Table.isSome_mark table _).symm.trans hlists)
    have hmark := Table.mark_of_get? hitem
    refine ⟨(.namespaceApproval createdAt approvalId, item), mem_partition_all.mpr hitem, ?_⟩
    rcases h.pointers name _ item.mark hmark with ⟨id, hsk, -⟩ | ⟨_, id, hsk, -, heq⟩
    · cases hsk
    · obtain ⟨-, rfl⟩ := SortKey.namespaceApproval.inj hsk
      exact heq

/-- A reset deletes the items of its namespace. -/
theorem mem_deletedKeys (h : Kept table.mark) {key : ItemKey}
    (hsome : (table.get? key).isSome = true) :
    key ∈ deletedKeys table name ↔ Belongs table.mark name key := by
  unfold deletedKeys
  simp only [List.mem_append, List.mem_flatMap, List.mem_map, mem_partitionKeys,
    mem_listedTraces h, mem_listedApprovals h]
  obtain ⟨pk, sk⟩ := key
  cases pk with
  | trace traceId => simp [Belongs, hsome]
  | approval approvalId =>
      have hsk := (h.approval_listed approvalId sk (by rwa [Table.isSome_mark])).1
      simp [Belongs, hsk]
  | namespaced listed => simp [Belongs, hsome]

end Deleted

/-! ## Every table that is reached -/

/-- A put is accepted where there is no item. -/
theorem mark_of_accepts {table : Table} {actions : List WriteAction} {key : ItemKey} {item : Item}
    (haccepts : table.accepts actions = true) (hmem : WriteAction.put key item ∈ actions) :
    table.mark key = none := by
  have hholds := Table.holds_of_accepts haccepts hmem
  rw [Table.mark, Option.map_eq_none_iff]
  exact Option.isNone_iff_eq_none.mp hholds

theorem createActions_named {state : TrajectoryState} {head : LedgerHead} {name : String}
    {actions : List WriteAction} (h : createActions state head name = .ok actions) :
    tracePk state.traceId = .ok (.trace state.traceId) := by
  obtain ⟨putMeta, hmeta, -⟩ := bind_eq_ok_iff.mp h
  obtain ⟨sk, -, hmeta⟩ := bind_eq_ok_iff.mp hmeta
  obtain ⟨document, -, hmeta⟩ := bind_eq_ok_iff.mp hmeta
  obtain ⟨pk, hpk, -⟩ := bind_eq_ok_iff.mp hmeta
  rw [hpk, tracePk_ok hpk]

/-- The items of an approval's transaction. -/
theorem approvalActions_items {state : TrajectoryState} {approval : ApprovalRecord}
    {name : String} {oldRevision : Nat} {actions : List WriteAction}
    (h : approvalActions state approval name oldRevision = .ok actions) :
    '#' ∉ approval.approvalId.toList ∧
      approvalPointerPk approval.approvalId = .ok (.approval approval.approvalId) ∧
      ∃ item action, item.recordType = "approval" ∧ (∀ m, WriteAction.marks m action = m) ∧
        actions = [ .put ⟨.trace state.traceId, .approval approval.approvalId⟩ item,
          .put ⟨.approval approval.approvalId, .pointerSk⟩ item,
          .put ⟨.namespaced name, .namespaceApproval approval.createdAt approval.approvalId⟩
            { item with approvalId := some approval.approvalId }, action ] := by
  obtain ⟨document, -, h⟩ := bind_eq_ok_iff.mp h
  obtain ⟨pk, hpk, h⟩ := bind_eq_ok_iff.mp h
  obtain ⟨sk, hsk, h⟩ := bind_eq_ok_iff.mp h
  obtain ⟨pointer, hpointer, h⟩ := bind_eq_ok_iff.mp h
  obtain ⟨listed, hlisted, h⟩ := bind_eq_ok_iff.mp h
  obtain ⟨listedSk, hlistedSk, h⟩ := bind_eq_ok_iff.mp h
  obtain ⟨updateMeta, hmeta, h⟩ := bind_eq_ok_iff.mp h
  obtain ⟨valid, hvalid, rfl⟩ := map_ok hsk
  have hplain := identifier_plain hvalid
  obtain rfl := identifier_ok hvalid
  obtain rfl := tracePk_ok hpk
  obtain rfl := map_identifier_ok hpointer
  obtain rfl := namespacePk_eq hlisted
  obtain rfl := map_identifier_ok hlistedSk
  obtain rfl := metaUpdateAction_ok hmeta
  exact ⟨hplain, hpointer, approvalItem approval document, _, rfl, fun _ => rfl,
    (Except.ok.inj h).symm⟩

/-- Putting one item of a trace. -/
theorem kept_putTraceItem {m : ItemKey → Option Mark} (h : Kept m) {traceId recordType : String}
    {sk : Except PyError SortKey} {document : Document} {put : WriteAction}
    (hput : putTraceItem traceId sk recordType document none = .ok put)
    (hsk : ∀ key, sk = .ok key → key ≠ .metaSk ∧ key.Printable) : Kept (put.marks m) := by
  obtain ⟨key, hkey, -, rfl⟩ := putTraceItem_ok hput
  exact h.put_traceItem (hsk key hkey).1 (hsk key hkey).2

/-- The keys of hashed names. -/
theorem hash_printable {f : String → SortKey}
    (hf : ∀ keyHash, f keyHash ≠ .metaSk ∧ (f keyHash).Printable) {keyHash : String} (key : SortKey)
    (h : (storageHash keyHash).map f = .ok key) : key ≠ .metaSk ∧ key.Printable := by
  obtain rfl := map_storageHash_ok h
  exact hf keyHash

/-- An append puts an event and updates what is there. -/
theorem kept_append {m : ItemKey → Option Mark} (h : Kept m) {state : TrajectoryState}
    {head : LedgerHead} {event : TraceEvent} {oldRevision : Nat} {actions : List WriteAction}
    (hactions : appendActions state head event oldRevision = .ok actions) :
    Kept (actions.foldl WriteAction.marks m) := by
  obtain ⟨-, hlt, rfl⟩ := appendActions_ok hactions
  exact h.put_traceItem (by simp) hlt

/-- What a repository commits keeps pointers, traces and approvals together. -/
theorem Commits.kept {table : Table} {actions : List WriteAction} (hcommits : Commits actions)
    (h : Kept table.mark) (haccepts : table.accepts actions = true) :
    Kept (Table.mark (table.apply actions)) := by
  rw [Table.mark_apply]
  cases hcommits with
  | @createRun state head name _ hactions =>
      have hnamed := createActions_named hactions
      obtain ⟨valid, rfl⟩ := createActions_ok hactions
      have hfree := mark_of_accepts haccepts List.mem_cons_self
      -- `HEAD` is an item of the trace, and its place among the puts does not matter.
      have hne : (⟨.trace state.traceId, .headSk⟩ : ItemKey) ≠
          ⟨.namespaced valid, .namespaceTrace state.traceId⟩ := by simp
      show Kept (Function.update (Function.update (Function.update table.mark _ _)
        ⟨.trace state.traceId, .headSk⟩ _) ⟨.namespaced valid, .namespaceTrace state.traceId⟩ _)
      rw [Function.update_comm hne]
      exact (h.put_run hfree hnamed).put_traceItem (by simp) trivial
  | appendEvent hactions hreplay =>
      rw [List.foldl_append]
      rcases hreplay with rfl | ⟨keyHash, item, rfl⟩
      · exact kept_append h hactions
      · exact (kept_append h hactions).put_traceItem (by simp) trivial
  | appendDecision hrange hactions =>
      obtain ⟨decisionId, item, rfl⟩ := decisionActions_ok hactions
      exact h.put_traceItem (by simp) hrange
  | @addApproval state approval _ _ _ hrange hactions =>
      obtain ⟨hplain, hnamed, item, action, htype, haction, rfl⟩ := approvalActions_items hactions
      have hfree := mark_of_accepts haccepts (List.mem_cons_of_mem _ List.mem_cons_self)
      have hprintable : (SortKey.approval approval.approvalId).Printable := hplain
      have hitem := @Kept.put_traceItem _ item.mark h state.traceId _ (by simp) hprintable
      show Kept (action.marks _)
      rw [haction]
      refine hitem.put_approval ?_ hnamed hrange ?_ rfl
      · rw [Function.update_of_ne (by simp)]
        exact hfree
      · show item.recordType ≠ "namespace_trace"
        rw [htype]
        decide
  | replaceApproval hactions =>
      obtain ⟨document, -, hactions⟩ := bind_eq_ok_iff.mp hactions
      obtain ⟨listedSk, -, hactions⟩ := bind_eq_ok_iff.mp hactions
      obtain ⟨pk, -, hactions⟩ := bind_eq_ok_iff.mp hactions
      obtain ⟨sk, -, hactions⟩ := bind_eq_ok_iff.mp hactions
      obtain ⟨pointer, -, hactions⟩ := bind_eq_ok_iff.mp hactions
      obtain ⟨listed, -, hactions⟩ := bind_eq_ok_iff.mp hactions
      obtain rfl := Except.ok.inj hactions
      exact h
  | recordApprovalReplay hput =>
      exact kept_putTraceItem h hput
        (hash_printable (f := .approvalReplay) fun _ => ⟨by simp, trivial⟩)
  | putEffectReceipt hput =>
      exact kept_putTraceItem h hput
        (hash_printable (f := .effect) fun _ => ⟨by simp, trivial⟩)
  | commitTransition hactions =>
      obtain ⟨pk, -, hactions⟩ := bind_eq_ok_iff.mp hactions
      obtain ⟨document, -, hactions⟩ := bind_eq_ok_iff.mp hactions
      obtain rfl := Except.ok.inj hactions
      exact h

theorem kept_printable {table : Table} (h : Kept table.mark) : table.Printable := by
  intro key hkey
  rw [← Table.isSome_mark] at hkey
  exact h.printable key hkey

/-- A reset that is processed whole removes the items of its namespace, and no others. -/
theorem get?_of_reset {backend : BatchBackend} (hwhole : backend.Whole) {fuel n : Nat}
    {name : String} {db db' : Database} (h : Kept db.table.mark)
    (hreset : (resetDemoNamespace fuel name).exec (Database.resetHandle backend) () db =
      ⟨.ok n, (), db'⟩) :
    (∀ key, Belongs db.table.mark name key → db'.table.get? key = none) ∧
      ∀ key, ¬ Belongs db.table.mark name key → db'.table.get? key = db.table.get? key := by
  obtain ⟨-, hget⟩ := exec_resetDemoNamespace hwhole (kept_printable h) hreset
  constructor
  · intro key hbelongs
    rw [hget key]
    by_cases hsome : (db.table.get? key).isSome = true
    · rw [if_pos ((mem_deletedKeys h hsome).mpr hbelongs)]
    · rw [Option.not_isSome_iff_eq_none.mp hsome, ite_self]
  · intro key hbelongs
    rw [hget key]
    by_cases hsome : (db.table.get? key).isSome = true
    · rw [if_neg fun hdeleted => hbelongs ((mem_deletedKeys h hsome).mp hdeleted)]
    · rw [Option.not_isSome_iff_eq_none.mp hsome, ite_self]

/-- How traces, approvals and pointers belong together in every table. -/
theorem Reachable.kept {table : Table} (h : Reachable table) : Kept table.mark := by
  induction h with
  | empty => exact Kept.empty
  | commit _ hcommits haccepts ih => exact hcommits.kept ih haccepts
  | @tamper table traceId sequence item _ hitem document ih =>
      rw [Table.mark_set]
      have hmark := Table.mark_of_get? hitem
      rwa [Function.update_eq_self_iff.mpr]
      exact hmark.symm
  | @reset backend fuel n name db db' _ hwhole hreset ih =>
      obtain ⟨hgone, hkeep⟩ := get?_of_reset hwhole ih hreset
      have hgoneMark (key : ItemKey) (hbelongs : Belongs db.table.mark name key) :
          db'.table.mark key = none := by
        rw [Table.mark, hgone key hbelongs, Option.map_none]
      have hkeepMark (key : ItemKey) (hbelongs : ¬ Belongs db.table.mark name key) :
          db'.table.mark key = db.table.mark key := by
        rw [Table.mark, hkeep key hbelongs, Table.mark]
      exact ih.remove hgoneMark hkeepMark

/-! ## Reads after a reset -/

/-- `get_state`: the state of the loaded trace. -/
def getState (fuel : Nat) (traceId : String) : Dynamo TrajectoryState :=
  loadTrace fuel traceId

/-- The order of `list_approvals`. -/
def listedBefore (a b : ApprovalRecord) : Prop :=
  a.createdAt < b.createdAt ∨ a.createdAt = b.createdAt ∧ a.approvalId ≤ b.approvalId

instance : DecidableRel listedBefore :=
  fun a b => inferInstanceAs (Decidable
    (a.createdAt < b.createdAt ∨ a.createdAt = b.createdAt ∧ a.approvalId ≤ b.approvalId))

def listApprovals (fuel : Nat) (name : String) (traceId : Option String)
    (status : Option ApprovalStatus) : Dynamo (List ApprovalRecord) := do
  let items ← query fuel (namespacePk name) "APPROVAL#"
  let approvals ← Proc.ofExcept (items.mapM (·.decode Document.decodeApproval))
  let ofTrace := approvals.filter fun approval =>
    traceId.all fun wanted => decide (approval.traceId = wanted)
  let ofStatus := ofTrace.filter fun approval =>
    status.all fun wanted => decide (approval.status = wanted)
  pure (ofStatus.insertionSort listedBefore)

section Reads

variable {backend : Backend} {state : TrajectoryState} {db : Database} {fuel : Nat}
  (hcalm : backend.failure db.served = none)

include hcalm

/-- A lookup that finds no item. -/
theorem exec_getItem_none {pk : PartitionKey} {sk : SortKey}
    (hget : db.table.get? ⟨pk, sk⟩ = none) :
    (getItem (.ok pk) (.ok sk)).exec (Database.handle backend) state db =
      ⟨.ok none, state, db.serve⟩ := by
  have hanswer : Database.handle backend _ (.getItem ⟨pk, sk⟩) db = (.ok none, db.serve) := by
    unfold Database.handle Database.answer
    simp only [hcalm, hget]
  rw [getItem, Proc.exec_bind_ok _ (Proc.exec_ofExcept ..),
    Proc.exec_bind_ok _ (Proc.exec_ofExcept ..), Proc.exec_request, hanswer]

/-- A trace without a `META` item is not found. -/
theorem exec_getState_missing {traceId : String} (hpk : tracePk traceId = .ok (.trace traceId))
    (hget : db.table.get? ⟨.trace traceId, .metaSk⟩ = none) :
    (getState fuel traceId).exec (Database.handle backend) state db =
      ⟨.error ⟨.traceNotFound, s!"Trace {traceId} was not found."⟩, state, db.serve⟩ := by
  rw [getState, loadTrace, hpk, Proc.exec_bind_ok _ (exec_getItem_none hcalm hget)]
  rfl

/-- An approval without a pointer is not found. -/
theorem exec_getApproval_missing {approvalId : String}
    (hpk : approvalPointerPk approvalId = .ok (.approval approvalId))
    (hget : db.table.get? ⟨.approval approvalId, .pointerSk⟩ = none) :
    (getApproval approvalId).exec (Database.handle backend) state db =
      ⟨.error ⟨.approvalNotFound, s!"Approval {approvalId} was not found."⟩, state, db.serve⟩ := by
  rw [getApproval, hpk, Proc.exec_bind_ok _ (exec_getItem_none hcalm hget)]
  rfl

/-- A namespace without pointers lists no approvals. -/
theorem exec_listApprovals_nil {name : String} {traceId : Option String}
    {status : Option ApprovalStatus} (hpk : namespacePk name = .ok (.namespaced name))
    (hget : ∀ sk, db.table.get? ⟨.namespaced name, sk⟩ = none) :
    (listApprovals (fuel + 1) name traceId status).exec (Database.handle backend) state db =
      ⟨.ok [], state, db.serve⟩ := by
  have hpartition : db.table.partition (.namespaced name) "APPROVAL#" = [] := by
    refine List.eq_nil_iff_forall_not_mem.mpr fun entry hentry => ?_
    have hfound := (mem_partition.mp hentry).2
    rw [hget] at hfound
    cases hfound
  have hpage (size : Nat) (hsize : 0 < size) :
      db.table.page (.namespaced name) "APPROVAL#" none size = ([], none) := by
    unfold Table.page
    rw [hpartition]
    simp [hsize]
  have hanswer : Database.handle backend _ (.query (.namespaced name) "APPROVAL#" none) db =
      (.ok ([], none), db.serve) := by
    unfold Database.handle Database.answer
    simp only [hcalm, hpage _ (backend.pageSize_pos db.served)]
  have hquery : (query (fuel + 1) (namespacePk name) "APPROVAL#").exec (Database.handle backend)
      state db = ⟨.ok [], state, db.serve⟩ := by
    rw [hpk, query, Proc.exec_bind_ok _ (Proc.exec_ofExcept ..), queryFrom, Proc.exec_bind,
      Proc.exec_request, hanswer]
    rfl
  rw [listApprovals, Proc.exec_bind_ok _ hquery]
  rfl

end Reads

/-! ## A reset that is processed whole -/

/-- The traces of a namespace. -/
def tracesOf (table : Table) (name : String) : Set String :=
  {traceId | (table.get? ⟨.trace traceId, .metaSk⟩).isSome = true ∧
    Belongs table.mark name ⟨.trace traceId, .metaSk⟩}

/-- The approvals of a namespace. -/
def approvalsOf (table : Table) (name : String) : Set String :=
  {approvalId | (table.get? ⟨.approval approvalId, .pointerSk⟩).isSome = true ∧
    Belongs table.mark name ⟨.approval approvalId, .pointerSk⟩}

/-- What a reset of a namespace that returns `n` should have done: the traces and approvals of
the namespace are gone, `n` is the number of the traces, and all items of other namespaces are
as they were. -/
structure ExactlyReset (name : String) (n : Nat) (db db' : Database) : Prop where
  gone : ∀ key, Belongs db.table.mark name key → db'.table.get? key = none
  counted : n = (tracesOf db.table name).ncard
  trace_missing : ∀ traceId ∈ tracesOf db.table name,
    ∀ (backend : Backend) (fuel : Nat) (state : TrajectoryState),
      backend.failure db'.served = none →
        (getState fuel traceId).exec (Database.handle backend) state db' =
          ⟨.error ⟨.traceNotFound, s!"Trace {traceId} was not found."⟩, state, db'.serve⟩
  approval_missing : ∀ approvalId ∈ approvalsOf db.table name,
    ∀ (backend : Backend) (state : TrajectoryState), backend.failure db'.served = none →
      (getApproval approvalId).exec (Database.handle backend) state db' =
        ⟨.error ⟨.approvalNotFound, s!"Approval {approvalId} was not found."⟩, state, db'.serve⟩
  approvals_empty : ∀ (backend : Backend) (fuel : Nat) (traceId : Option String)
    (status : Option ApprovalStatus) (state : TrajectoryState),
      backend.failure db'.served = none →
        (listApprovals (fuel + 1) name traceId status).exec (Database.handle backend) state db' =
          ⟨.ok [], state, db'.serve⟩
  unchanged : ∀ name' key, name' ≠ name → Belongs db.table.mark name' key →
    db'.table.get? key = db.table.get? key

/-- The traces of a namespace are those it lists. -/
theorem mem_tracesOf {table : Table} (h : Kept table.mark) {name traceId : String} :
    traceId ∈ tracesOf table name ↔ ListsTrace table.mark name traceId := by
  constructor
  · exact fun hmem => hmem.2
  · exact fun hlists => ⟨(Table.isSome_mark ..).symm.trans (h.listed_trace _ _ hlists), hlists⟩

/-- Each trace is listed once. -/
theorem nodup_listedTraces {table : Table} (h : Kept table.mark) (name : String) :
    (listedTraces (table.partition (.namespaced name) "")).Nodup := by
  unfold listedTraces
  have hkey {entry : SortKey × Item} (hentry : entry ∈ (table.partition (.namespaced name) "").filter
      fun entry => decide (entry.2.recordType = "namespace_trace")) :
      entry.1 = .namespaceTrace entry.2.traceId ∧
        table.get? ⟨.namespaced name, entry.1⟩ = some entry.2 := by
    obtain ⟨hmem, htype⟩ := List.mem_filter.mp hentry
    have hget := mem_partition_all.mp hmem
    rcases h.pointers name entry.1 entry.2.mark (Table.mark_of_get? hget) with
      ⟨id, hsk, heq⟩ | ⟨_, _, _, hother, -⟩
    · have hid : entry.2.traceId = id := congrArg Mark.traceId heq
      exact ⟨hid ▸ hsk, hget⟩
    · exact absurd (of_decide_eq_true htype) hother
  refine List.Nodup.map_on ?_ ((nodup_partition table _ _).filter _)
  intro a ha b hb hid
  obtain ⟨hfirst, hgetFirst⟩ := hkey ha
  obtain ⟨hsecond, hgetSecond⟩ := hkey hb
  have hsk : a.1 = b.1 := by rw [hfirst, hsecond, hid]
  rw [hsk, hgetSecond] at hgetFirst
  exact Prod.ext hsk (Option.some.inj hgetFirst).symm

/-- What a reset counts. -/
theorem ncard_tracesOf {table : Table} (h : Kept table.mark) (name : String) :
    (tracesOf table name).ncard =
      (listedTraces (table.partition (.namespaced name) "")).length := by
  have hset : tracesOf table name =
      ((listedTraces (table.partition (.namespaced name) "")).toFinset : Set String) := by
    ext traceId
    rw [mem_tracesOf h, Finset.mem_coe, List.mem_toFinset, mem_listedTraces h]
  rw [hset, Set.ncard_coe_finset, List.toFinset_card_of_nodup (nodup_listedTraces h name)]

/-- A reset that returned had a valid namespace. -/
theorem namespacePk_of_reset {backend : BatchBackend} {fuel n : Nat} {name : String}
    {db db' : Database}
    (h : (resetDemoNamespace fuel name).exec (Database.resetHandle backend) () db =
      ⟨.ok n, (), db'⟩) : namespacePk name = .ok (.namespaced name) := by
  obtain ⟨pk, db₁, hkey, -⟩ := exec_bind_eq_ok h
  obtain ⟨hpk, -⟩ := exec_ofExcept_eq_ok hkey
  rw [hpk, namespacePk_eq hpk]

end DynamoDBTraceStore

namespace ResetDemo

open DynamoDBTraceStore LostUpdate

/-- What the first run of a namespace commits. -/
def written : List WriteAction :=
  [ .put ⟨.trace "TRACE-1", .metaSk⟩
      (traceItem "TRACE-1" .metaSk "trace" (.state newRun) (some 0)),
    .put ⟨.trace "TRACE-1", .headSk⟩ (traceItem "TRACE-1" .headSk "head" (.head newHead) none),
    .put ⟨.namespaced "demo", .namespaceTrace "TRACE-1"⟩
      { recordType := "namespace_trace", traceId := "TRACE-1" } ]

/-- The table of the first run. -/
def firstRun : Database :=
  { table := Table.apply ∅ written }

/-- A service that processes every batch, and one that processes none. -/
def processing : BatchBackend :=
  { Backend.calm with unprocessed := fun _ _ => [] }

def throttled : BatchBackend :=
  { Backend.calm with unprocessed := fun _ keys => keys }

theorem createActions_written : createActions newRun newHead "demo" = .ok written := by
  have hstate : (Document.state newRun).encode = .ok (Document.state newRun) :=
    Document.encode_ok_iff.mpr ⟨newRun_fits 1 0 (by decide) (by decide), rfl⟩
  have hhead : (Document.head newHead).encode = .ok (Document.head newHead) :=
    Document.encode_ok_iff.mpr ⟨by decide +kernel, rfl⟩
  have hpk : tracePk newRun.traceId = .ok (.trace "TRACE-1") := rfl
  have hsk : namespaceTraceSk newRun.traceId = .ok (.namespaceTrace "TRACE-1") := rfl
  unfold createActions putTraceItem
  rw [hstate, hhead, hpk, hsk, namespacePk_demo]
  rfl

theorem reachable_firstRun : Reachable firstRun.table :=
  .commit .empty (.createRun createActions_written) rfl

theorem processing_returns :
    ((resetDemoNamespace 1 "demo").exec (Database.resetHandle processing) () firstRun).result.toOption
      = some 1 := by
  decide +kernel

theorem throttled_returns :
    ((resetDemoNamespace 1 "demo").exec (Database.resetHandle throttled) () firstRun).result.toOption
      = some 1 := by
  decide +kernel

theorem throttled_leaves :
    (((resetDemoNamespace 1 "demo").exec (Database.resetHandle throttled) ()
      firstRun).env.table.get? ⟨.trace "TRACE-1", .metaSk⟩).isSome = true := by
  decide +kernel

theorem listed_firstRun :
    (Table.mark firstRun.table ⟨.namespaced "demo", .namespaceTrace "TRACE-1"⟩).isSome = true := by
  decide +kernel

/-- A reset whose reply says `n`. -/
theorem exec_of_toOption {backend : BatchBackend} {fuel n : Nat} {name : String} {db : Database}
    (h : ((resetDemoNamespace fuel name).exec (Database.resetHandle backend) ()
      db).result.toOption = some n) :
    (resetDemoNamespace fuel name).exec (Database.resetHandle backend) () db =
      ⟨.ok n, (), ((resetDemoNamespace fuel name).exec (Database.resetHandle backend) () db).env⟩ := by
  generalize (resetDemoNamespace fuel name).exec (Database.resetHandle backend) () db = r at h ⊢
  obtain ⟨result, state, db'⟩ := r
  cases result with
  | error x => cases h
  | ok a =>
      obtain rfl := Option.some.inj h
      rfl

end ResetDemo

end Manifest
