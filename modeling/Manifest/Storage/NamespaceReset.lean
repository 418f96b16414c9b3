import Manifest.Storage.ApprovalReplays
import Manifest.Storage.Paging

/-!
# Resetting a demo namespace

A reset follows the pointers of its namespace to the items of its traces and approvals, and
deletes them in batches.  The service may leave part of a batch to be requested again; the
repository does not look at what is left.

Main results:

- Theorem `exec_deleteBatches`: what batches that are processed whole leave in the table.
- Theorem `exec_resetDemoNamespace`: the keys a reset deletes, and what it returns.
-/

set_option autoImplicit false

namespace Manifest

open Interaction Fallible

/-! ## Requests -/

/-- The requests of a reset. -/
inductive ResetOp : Type → Type where
  | query (pk : PartitionKey) (beginning : String) (start : Option SortKey) :
      ResetOp (Except PyError (List (SortKey × Item) × Option SortKey))
  | batchWriteItem (deleted : List ItemKey) : ResetOp (Except PyError (List ItemKey))

/-- A service that may leave part of a batch unprocessed. -/
structure BatchBackend extends Backend where
  unprocessed : Nat → List ItemKey → List ItemKey

/-- Batches are processed whole. -/
def BatchBackend.Whole (backend : BatchBackend) : Prop :=
  ∀ n keys, backend.unprocessed n keys = []

namespace Database

/-- `batch_write_item` of delete requests: the keys it leaves unprocessed. -/
def batchDelete (db : Database) (backend : BatchBackend) (keys : List ItemKey) :
    Except PyError (List ItemKey) × Database :=
  match backend.failure db.served with
  | some x => (.error x, db.serve)
  | none =>
      let left := keys.filter fun key => decide (key ∈ backend.unprocessed db.served keys)
      let deleted := keys.filter fun key => decide (key ∉ left)
      (.ok left, { db.serve with table := db.table.without deleted })

def resetHandle (backend : BatchBackend) : Handler ResetOp Database
  | _, .query pk beginning start, db =>
      db.answer backend.toBackend
        (db.table.entriesPage pk beginning start (backend.pageSize db.served))
  | _, .batchWriteItem keys, db => db.batchDelete backend keys

end Database

/-! ## The reset -/

/-- A method that takes no caller's state. -/
abbrev Reset := Proc ResetOp PyError Unit

/-- `xs[offset:offset + size] for offset in range(0, len(xs), size)`. -/
def slices {α : Type} (size : Nat) (xs : List α) : List (List α) :=
  (List.range ((xs.length + size - 1) / size)).map fun i => (xs.drop (size * i)).take size

namespace DynamoDBTraceStore

/-- The loop of `_query`, with the keys of the items. -/
def queryEntriesFrom (pk : PartitionKey) (beginning : String) :
    Nat → Option SortKey → List (SortKey × Item) → Reset (List (SortKey × Item))
  | 0, _, _ => Proc.raise (.ofPython "the query did not end")
  | fuel + 1, start, items => do
      let (found, last) ← Proc.request (.query pk beginning start)
      match last with
      | none => pure (items ++ found)
      | some key => queryEntriesFrom pk beginning fuel (some key) (items ++ found)

/-- The keys of the items of the traces. -/
def traceKeys (fuel : Nat) : List String → Reset (List ItemKey)
  | [] => pure []
  | traceId :: rest => do
      let pk ← Proc.ofExcept (tracePk traceId)
      let items ← queryEntriesFrom pk "" fuel none []
      let keys ← traceKeys fuel rest
      pure (items.map (fun entry => ⟨pk, entry.1⟩) ++ keys)

/-- The batches, one after another; what the replies leave unprocessed is dropped. -/
def deleteBatches : List (List ItemKey) → Reset Unit
  | [] => pure ()
  | batch :: rest => do
      let _ ← Proc.request (.batchWriteItem batch)
      deleteBatches rest

/-- `item.get("RecordType", {}).get("S") == "namespace_trace"`. -/
def listedTraces (pointers : List (SortKey × Item)) : List String :=
  (pointers.filter fun entry => decide (entry.2.recordType = "namespace_trace")).map
    fun entry => entry.2.traceId

def listedApprovals (pointers : List (SortKey × Item)) : List String :=
  pointers.filterMap fun entry => entry.2.approvalId

def pointerKey (approvalId : String) : Except PyError ItemKey :=
  (approvalPointerPk approvalId).map fun pk => ⟨pk, .pointerSk⟩

def resetDemoNamespace (fuel : Nat) (name : String) : Reset Nat := do
  let pk ← Proc.ofExcept (namespacePk name)
  let pointers ← queryEntriesFrom pk "" fuel none []
  let traceIds := listedTraces pointers
  let traces ← traceKeys fuel traceIds
  let approvals ← Proc.ofExcept ((listedApprovals pointers).mapM pointerKey)
  deleteBatches (slices 25
    (traces ++ approvals ++ pointers.map fun entry => (⟨pk, entry.1⟩ : ItemKey)))
  pure traceIds.length

/-! ## What a reset deletes -/

section Reset

variable {backend : BatchBackend}

theorem flatten_slices {α : Type} {size : Nat} (hsize : 0 < size) (xs : List α) :
    (slices size xs).flatten = xs := by
  have htake (m : Nat) :
      ((List.range m).map fun i => (xs.drop (size * i)).take size).flatten =
        xs.take (size * m) := by
    induction m with
    | zero => simp
    | succ m ih =>
        rw [List.range_succ, List.map_append, List.flatten_append, ih, List.map_singleton,
          List.flatten_singleton, Nat.mul_succ, List.take_add]
  rw [slices, htake]
  apply List.take_of_length_le
  have hdiv := Nat.div_add_mod (xs.length + size - 1) size
  have hmod := Nat.mod_lt (xs.length + size - 1) hsize
  omega

/-- A reset that returns went through its first part. -/
theorem exec_bind_eq_ok {α γ : Type} {m : Reset α} {f : α → Reset γ} {c : γ} {db db' : Database}
    (h : (m >>= f).exec (Database.resetHandle backend) () db = ⟨.ok c, (), db'⟩) :
    ∃ a db₁, m.exec (Database.resetHandle backend) () db = ⟨.ok a, (), db₁⟩ ∧
      (f a).exec (Database.resetHandle backend) () db₁ = ⟨.ok c, (), db'⟩ := by
  obtain ⟨a, s, db₁, hfirst, hrest⟩ := Proc.exec_bind_returned _ _ _ (congrArg Exit.result h)
  exact ⟨a, db₁, hfirst, hrest.symm.trans h⟩

theorem exec_ofExcept_eq_ok {α : Type} {r : Except PyError α} {a : α} {db db' : Database}
    (h : (Proc.ofExcept r : Reset α).exec (Database.resetHandle backend) () db =
      ⟨.ok a, (), db'⟩) : r = .ok a ∧ db' = db := by
  rw [Proc.exec_ofExcept] at h
  cases h
  exact ⟨rfl, rfl⟩

/-- A reply that arrives is the page, and the table stays. -/
theorem exec_queryPage {pk : PartitionKey} {beginning : String} {start : Option SortKey}
    {db db' : Database} {page : List (SortKey × Item) × Option SortKey}
    (h : (Proc.request (.query pk beginning start) : Reset _).exec (Database.resetHandle backend)
      () db = ⟨.ok page, (), db'⟩) :
    page = db.table.entriesPage pk beginning start (backend.pageSize db.served) ∧
      db'.table = db.table := by
  rw [Proc.exec_request] at h
  rcases db.answer_cases backend.toBackend
    (db.table.entriesPage pk beginning start (backend.pageSize db.served)) with ⟨x, hx⟩ | hx
  · simp [Database.resetHandle, hx] at h
  · simp only [Database.resetHandle, hx, Exit.mk.injEq, Except.ok.injEq] at h
    exact ⟨h.1.symm, h.2.2 ▸ rfl⟩

/-- A query of a table whose keys are in order returns what follows the start key. -/
theorem exec_queryEntriesFrom {pk : PartitionKey} {beginning : String} {fuel : Nat}
    {start : Option SortKey} {items found : List (SortKey × Item)} {db db' : Database}
    (hprintable : db.table.Printable)
    (h : (queryEntriesFrom pk beginning fuel start items).exec (Database.resetHandle backend) () db
      = ⟨.ok found, (), db'⟩) :
    found = items ++ db.table.after pk beginning start ∧ db'.table = db.table := by
  induction fuel generalizing start items db with
  | zero => cases h
  | succ fuel ih =>
      unfold queryEntriesFrom at h
      obtain ⟨page, db₁, hpage, hrest⟩ := exec_bind_eq_ok h
      obtain ⟨rfl, htable⟩ := exec_queryPage hpage
      have hspec := @Table.entriesPage_spec _ hprintable pk beginning start _
        (backend.pageSize_pos db.served)
      rcases hlast : db.table.entriesPage pk beginning start (backend.pageSize db.served) with
        ⟨run, last⟩
      rw [hlast] at hrest hspec
      cases last with
      | none =>
          obtain rfl : run = db.table.after pk beginning start := hspec
          cases hrest
          exact ⟨rfl, htable⟩
      | some last =>
          obtain ⟨hfound, hsame⟩ := ih (htable ▸ hprintable) hrest
          rw [htable] at hfound hsame
          refine ⟨?_, hsame⟩
          rw [hfound, List.append_assoc]
          exact congrArg _ hspec

/-- The keys of a partition. -/
def partitionKeys (table : Table) (pk : PartitionKey) : List ItemKey :=
  (table.partition pk "").map fun entry => ⟨pk, entry.1⟩

theorem exec_partition {pk : PartitionKey} {fuel : Nat} {found : List (SortKey × Item)}
    {db db' : Database} (hprintable : db.table.Printable)
    (h : (queryEntriesFrom pk "" fuel none []).exec (Database.resetHandle backend) () db
      = ⟨.ok found, (), db'⟩) : found = db.table.partition pk "" ∧ db'.table = db.table := by
  obtain ⟨hfound, htable⟩ := exec_queryEntriesFrom hprintable h
  rw [Table.after_none, List.nil_append] at hfound
  exact ⟨hfound, htable⟩

theorem exec_traceKeys {fuel : Nat} {traceIds : List String} {keys : List ItemKey}
    {db db' : Database} (hprintable : db.table.Printable)
    (h : (traceKeys fuel traceIds).exec (Database.resetHandle backend) () db =
      ⟨.ok keys, (), db'⟩) :
    keys = traceIds.flatMap (fun traceId => partitionKeys db.table (.trace traceId)) ∧
      db'.table = db.table := by
  induction traceIds generalizing keys db db' with
  | nil =>
      cases h
      exact ⟨rfl, rfl⟩
  | cons traceId rest ih =>
      obtain ⟨pk, db₁, hkey, hafterKey⟩ := exec_bind_eq_ok h
      obtain ⟨hpk, rfl⟩ := exec_ofExcept_eq_ok hkey
      obtain rfl := tracePk_ok hpk
      obtain ⟨items, db₂, hitems, hafterItems⟩ := exec_bind_eq_ok hafterKey
      obtain ⟨rfl, htable⟩ := exec_partition hprintable hitems
      obtain ⟨others, db₃, hothers, hlast⟩ := exec_bind_eq_ok hafterItems
      obtain ⟨rfl, htable'⟩ := ih (htable ▸ hprintable) hothers
      rw [Proc.exec_pure] at hlast
      cases hlast
      rw [htable] at htable' ⊢
      exact ⟨rfl, htable'⟩

/-- What batches that are processed whole leave in the table. -/
theorem exec_deleteBatches (hwhole : backend.Whole) {batches : List (List ItemKey)}
    {db db' : Database}
    (h : (deleteBatches batches).exec (Database.resetHandle backend) () db = ⟨.ok (), (), db'⟩)
    (key : ItemKey) :
    db'.table.get? key = if key ∈ batches.flatten then none else db.table.get? key := by
  induction batches generalizing db with
  | nil =>
      cases h
      rfl
  | cons batch rest ih =>
      obtain ⟨left, db₁, hbatch, h⟩ := exec_bind_eq_ok h
      have htable : db₁.table = db.table.without batch := by
        rw [Proc.exec_request] at hbatch
        unfold Database.resetHandle Database.batchDelete at hbatch
        dsimp only at hbatch
        rw [hwhole] at hbatch
        split at hbatch
        · cases hbatch
        · cases hbatch
          simp
      rw [ih h, htable, Dict.get?_without]
      by_cases hrest : key ∈ rest.flatten
      · simp [hrest]
      · simp [hrest]

/-- The keys a reset deletes: the items of the listed traces, the pointers of the listed
approvals, and the list itself. -/
def deletedKeys (table : Table) (name : String) : List ItemKey :=
  let pointers := table.partition (.namespaced name) ""
  (listedTraces pointers).flatMap (fun traceId => partitionKeys table (.trace traceId)) ++
    (listedApprovals pointers).map (fun approvalId => ⟨.approval approvalId, .pointerSk⟩) ++
    partitionKeys table (.namespaced name)

theorem mapM_pointerKey {approvalIds : List String} {keys : List ItemKey}
    (h : approvalIds.mapM pointerKey = .ok keys) :
    keys = approvalIds.map fun approvalId => ⟨.approval approvalId, .pointerSk⟩ := by
  induction approvalIds generalizing keys with
  | nil => exact (Except.ok.inj h).symm
  | cons approvalId rest ih =>
      rw [List.mapM_cons] at h
      obtain ⟨key, hkey, h⟩ := bind_eq_ok_iff.mp h
      obtain ⟨others, hothers, h⟩ := bind_eq_ok_iff.mp h
      obtain ⟨pk, hpk, rfl⟩ := map_ok hkey
      obtain rfl := map_identifier_ok hpk
      obtain rfl := ih hothers
      exact (Except.ok.inj h).symm

/-- A reset that returns deleted the keys it follows, and returns the number of the listed
traces. -/
theorem exec_resetDemoNamespace (hwhole : backend.Whole) {fuel n : Nat} {name : String}
    {db db' : Database} (hprintable : db.table.Printable)
    (h : (resetDemoNamespace fuel name).exec (Database.resetHandle backend) () db =
      ⟨.ok n, (), db'⟩) :
    n = (listedTraces (db.table.partition (.namespaced name) "")).length ∧
      ∀ key, db'.table.get? key =
        if key ∈ deletedKeys db.table name then none else db.table.get? key := by
  obtain ⟨pk, db₁, hkey, hafterKey⟩ := exec_bind_eq_ok h
  obtain ⟨hpk, rfl⟩ := exec_ofExcept_eq_ok hkey
  obtain rfl := namespacePk_eq hpk
  obtain ⟨pointers, db₂, hpointers, hafterPointers⟩ := exec_bind_eq_ok hafterKey
  obtain ⟨rfl, htable⟩ := exec_partition hprintable hpointers
  obtain ⟨traces, db₃, htraces, hafterTraces⟩ := exec_bind_eq_ok hafterPointers
  obtain ⟨rfl, htable'⟩ := exec_traceKeys (htable ▸ hprintable) htraces
  obtain ⟨approvals, db₄, hmapped, hafterApprovals⟩ := exec_bind_eq_ok hafterTraces
  obtain ⟨happrovals, rfl⟩ := exec_ofExcept_eq_ok hmapped
  obtain rfl := mapM_pointerKey happrovals
  obtain ⟨u, db₅, hdelete, hlast⟩ := exec_bind_eq_ok hafterApprovals
  have hdeleted := exec_deleteBatches hwhole hdelete
  rw [Proc.exec_pure] at hlast
  cases hlast
  refine ⟨rfl, fun key => ?_⟩
  rw [hdeleted key, flatten_slices (by decide), htable', htable]
  rfl

end Reset

end DynamoDBTraceStore

end Manifest
