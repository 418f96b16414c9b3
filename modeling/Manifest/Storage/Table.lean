import Manifest.Lib.Interleaving
import Manifest.Storage.Codec
import Manifest.Storage.Keyspace

/-!
# The table and its requests

One table shared by every client: items under typed keys, conditional writes that commit
together or not at all, and queries that read one page at a time.  Reads are consistent.
A request either fails without an effect or takes effect at once.

Main results:

- Theorem `Table.get?_apply`: what a committed transaction leaves under a key it writes.
- Theorem `Table.get?_apply_of_not_mem`: it leaves every other key alone.
- Theorem `Database.transact_cases`: a transaction is all or nothing.
-/

set_option autoImplicit false

namespace Manifest

open Interaction

/-! ## Items -/

/-- The numeric attributes conditions speak about. -/
inductive Counter where
  | sequence
  | revision
  | version
deriving DecidableEq

structure Item where
  recordType : String
  traceId : String
  document : Option Document := none
  sequence : Option Int := none
  revision : Option Int := none
  version : Option Int := none
  approvalId : Option String := none

namespace Item

def counter (item : Item) : Counter → Option Int
  | .sequence => item.sequence
  | .revision => item.revision
  | .version => item.version

def setCounter (item : Item) : Counter → Int → Item
  | .sequence, n => { item with sequence := some n }
  | .revision, n => { item with revision := some n }
  | .version, n => { item with version := some n }

/-- `SET #d = :d, #c = :next`. -/
def update (item : Item) (counter : Counter) (next : Int) (document : Document) : Item :=
  { item with document := some document }.setCounter counter next

/-- `decode(item["Document"]["S"])`. -/
def decode {α : Type} (item : Item) (decoder : Document → Except PyError α) :
    Except PyError α :=
  match item.document with
  | some document => decoder document
  | none => .error (.ofPython "'Document'")

end Item

abbrev Table := Dict ItemKey Item

/-! ## Transactions -/

/-- The two conditional writes: a put of an absent key, and an update of an item whose
counter has an expected value. -/
inductive WriteAction where
  | put (key : ItemKey) (item : Item)
  | update (key : ItemKey) (counter : Counter) (expected next : Int) (document : Document)

namespace WriteAction

def key : WriteAction → ItemKey
  | .put key _ => key
  | .update key .. => key

/-- The condition expression, on the item under the key. -/
def holds : WriteAction → Option Item → Bool
  | .put .., found => found.isNone
  | .update _ counter expected _ _, found =>
      (found.bind (·.counter counter)) = some expected

/-- The item the action leaves under its key. -/
def written : WriteAction → Option Item → Option Item
  | .put _ item, _ => some item
  | .update _ counter _ next document, found =>
      found.map fun item => item.update counter next document

end WriteAction

namespace Table

/-- Every condition holds. -/
def accepts (table : Table) (actions : List WriteAction) : Bool :=
  actions.all fun action => action.holds (table.get? action.key)

def write (table : Table) (action : WriteAction) : Table :=
  match action.written (table.get? action.key) with
  | some item => table.set action.key item
  | none => table

/-- The writes of a transaction. -/
def apply (table : Table) (actions : List WriteAction) : Table :=
  actions.foldl write table

/-! ## Queries -/

/-- The items of a partition whose sort keys begin with a text, in sort key order. -/
def partition (table : Table) (pk : PartitionKey) (beginning : String) :
    List (SortKey × Item) :=
  ((table.entries.filter fun entry =>
      decide (entry.1.pk = pk) && entry.1.sk.begins beginning).map
    fun entry => (entry.1.sk, entry.2)).insertionSort fun a b => b.1.before a.1 = false

/-- One page: at most `size` items after the start key, and the key to continue from when
the page is full. -/
def page (table : Table) (pk : PartitionKey) (beginning : String) (start : Option SortKey)
    (size : Nat) : List Item × Option SortKey :=
  let rest := (table.partition pk beginning).filter fun entry =>
    match start with
    | some last => last.before entry.1
    | none => true
  let items := rest.take size
  (items.map Prod.snd,
    if items.length < size then none else items.getLast?.map Prod.fst)

end Table

/-! ## Requests -/

/-- The requests of the adapter, and its clock and identifiers.  Assembling the actions of a
transaction asks nothing of the service; it is a step of its own so that a schedule can
speak about what was assembled. -/
inductive DynamoOp : Type → Type where
  | getItem (key : ItemKey) : DynamoOp (Except PyError (Option Item))
  | query (pk : PartitionKey) (beginning : String) (start : Option SortKey) :
      DynamoOp (Except PyError (List Item × Option SortKey))
  | assemble (actions : Except PyError (List WriteAction)) :
      DynamoOp (Except PyError (List WriteAction))
  | transactWriteItems (actions : List WriteAction) : DynamoOp (Except PyError Unit)
  | utcNow : DynamoOp Timestamp
  | uuid4 : DynamoOp String

/-- Only transactions write. -/
def DynamoOp.writes {β : Type} : DynamoOp β → Bool
  | .transactWriteItems _ => true
  | _ => false

/-- What the service decides: how much a page holds, and which requests fail. -/
structure Backend where
  utcNow : Nat → Timestamp
  uuid4 : Nat → String
  pageSize : Nat → Nat
  pageSize_pos : ∀ n, 0 < pageSize n
  failure : Nat → Option PyError

/-- A service that never fails. -/
def Backend.calm : Backend where
  utcNow _ := 0
  uuid4 _ := "0"
  pageSize _ := 100
  pageSize_pos _ := by decide
  failure _ := none

/-- The table and the number of requests served. -/
structure Database where
  table : Table := ∅
  served : Nat := 0

namespace Database

/-- Serve one more request. -/
def serve (db : Database) : Database :=
  { db with served := db.served + 1 }

@[simp]
theorem serve_table (db : Database) : db.serve.table = db.table :=
  rfl

/-- Answer a request, unless it fails. -/
def answer {α : Type} (db : Database) (backend : Backend) (reply : α) :
    Except PyError α × Database :=
  match backend.failure db.served with
  | some x => (.error x, db.serve)
  | none => (.ok reply, db.serve)

/-- `transact_write_items`: all writes when every condition holds. -/
def transact (db : Database) (backend : Backend) (actions : List WriteAction) :
    Except PyError Unit × Database :=
  match backend.failure db.served with
  | some x => (.error x, db.serve)
  | none =>
      if db.table.accepts actions then
        (.ok (), { db.serve with table := db.table.apply actions })
      else (.error (.ofPython "TransactionCanceledException"), db.serve)

def handle (backend : Backend) : Handler DynamoOp Database
  | _, .getItem key, db => db.answer backend (db.table.get? key)
  | _, .query pk beginning start, db =>
      db.answer backend (db.table.page pk beginning start (backend.pageSize db.served))
  | _, .assemble actions, db => (actions, db)
  | _, .transactWriteItems actions, db => db.transact backend actions
  | _, .utcNow, db => (backend.utcNow db.served, db.serve)
  | _, .uuid4, db => (backend.uuid4 db.served, db.serve)

/-- A request that fails has no effect. -/
theorem answer_cases {α : Type} (db : Database) (backend : Backend) (reply : α) :
    (∃ x, db.answer backend reply = (.error x, db.serve)) ∨
      db.answer backend reply = (.ok reply, db.serve) := by
  unfold answer
  split
  · exact .inl ⟨_, rfl⟩
  · exact .inr rfl

/-- Requests that write nothing leave the table alone. -/
theorem handle_table {β : Type} {o : DynamoOp β} (backend : Backend) (db : Database)
    (ho : o.writes = false) : (handle backend β o db).2.table = db.table := by
  cases o with
  | getItem key =>
      show (db.answer backend (db.table.get? key)).2.table = db.table
      rcases db.answer_cases backend (db.table.get? key) with ⟨x, hx⟩ | hx <;> rw [hx] <;> rfl
  | query pk beginning start =>
      show (db.answer backend (db.table.page pk beginning start _)).2.table = db.table
      rcases db.answer_cases backend (db.table.page pk beginning start
        (backend.pageSize db.served)) with ⟨x, hx⟩ | hx <;> rw [hx] <;> rfl
  | assemble actions => rfl
  | transactWriteItems actions => cases ho
  | utcNow => rfl
  | uuid4 => rfl

/-- A transaction fails without an effect, or every condition held and it is applied. -/
theorem transact_cases (db : Database) (backend : Backend) (actions : List WriteAction) :
    (∃ x, db.transact backend actions = (.error x, db.serve)) ∨
      (db.table.accepts actions = true ∧
        db.transact backend actions =
          (.ok (), { db.serve with table := db.table.apply actions })) := by
  unfold transact
  split
  · exact .inl ⟨_, rfl⟩
  · split_ifs with haccepts
    · exact .inr ⟨haccepts, rfl⟩
    · exact .inl ⟨_, rfl⟩

end Database

/-! ## What a transaction leaves behind -/

namespace Table

theorem get?_write_self (table : Table) (action : WriteAction) :
    (table.write action).get? action.key =
      (action.written (table.get? action.key)) := by
  unfold write
  cases hwritten : action.written (table.get? action.key) with
  | some item => simp
  | none =>
      cases action with
      | put key item => cases hwritten
      | update key counter expected next document =>
          simpa [WriteAction.written] using hwritten

theorem get?_write_ne {table : Table} {action : WriteAction} {key : ItemKey}
    (hne : key ≠ action.key) : (table.write action).get? key = table.get? key := by
  unfold write
  split
  · exact Dict.get?_set_ne _ _ hne
  · rfl

/-- A transaction leaves the keys alone that it does not write. -/
theorem get?_apply_of_not_mem {actions : List WriteAction} {key : ItemKey}
    (hkey : key ∉ actions.map WriteAction.key) (table : Table) :
    (table.apply actions).get? key = table.get? key := by
  induction actions generalizing table with
  | nil => rfl
  | cons action rest ih =>
      rw [List.map_cons, List.mem_cons, not_or] at hkey
      exact (ih hkey.2 _).trans (get?_write_ne hkey.1)

/-- What a transaction on distinct keys leaves under a key it writes. -/
theorem get?_apply {actions : List WriteAction} {action : WriteAction}
    (hnodup : (actions.map WriteAction.key).Nodup) (hmem : action ∈ actions) (table : Table) :
    (table.apply actions).get? action.key = action.written (table.get? action.key) := by
  induction actions generalizing table with
  | nil => cases hmem
  | cons first rest ih =>
      rw [List.map_cons, List.nodup_cons] at hnodup
      rcases List.mem_cons.mp hmem with rfl | hmem
      · exact (get?_apply_of_not_mem hnodup.1 _).trans (get?_write_self table action)
      · have hne : action.key ≠ first.key := fun heq =>
          hnodup.1 (heq ▸ List.mem_map_of_mem hmem)
        have hwrite : (table.write first).get? action.key = table.get? action.key :=
          get?_write_ne hne
        rw [← hwrite]
        exact ih hnodup.2 hmem (table.write first)

/-- No item is ever deleted. -/
theorem isSome_apply {table : Table} {key : ItemKey} (h : (table.get? key).isSome = true)
    (actions : List WriteAction) : ((table.apply actions).get? key).isSome = true := by
  induction actions generalizing table with
  | nil => exact h
  | cons action rest ih =>
      refine ih ?_
      by_cases hkey : key = action.key
      · subst hkey
        rw [get?_write_self]
        cases action with
        | put key item => rfl
        | update key counter expected next document => simpa [WriteAction.written] using h
      · rwa [get?_write_ne hkey]

theorem holds_of_accepts {table : Table} {actions : List WriteAction} {action : WriteAction}
    (haccepts : table.accepts actions = true) (hmem : action ∈ actions) :
    action.holds (table.get? action.key) = true :=
  List.all_eq_true.mp haccepts action hmem

end Table

end Manifest
