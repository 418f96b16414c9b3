import Manifest.Storage.DynamoDB
import Mathlib.Data.List.Lex
import Mathlib.Data.String.Basic

/-!
# The chain a trace is stored as

The event items of a trace hold a chain under consecutive sequence numbers, and its head
item holds the head the chain leads to.  Appends extend the chain; nothing else in the
table concerns it.

Main results:

- Theorem `StoredChain.partition_eq`: a query finds the chain, in order.
- Theorem `WellKept.apply_append`: the transaction of an append extends the chain whose
  head it was built on, and is refused on any other chain.
- Theorem `Transaction.keeps`: no transaction of the repository breaks a chain.
- Theorem `Transaction.stores`: only an append changes what is stored of a trace.
-/

set_option autoImplicit false

namespace Manifest

open HashChain DynamoDBTraceStore

variable [Sha256]

/-! ## Stored chains -/

/-- The item of an event. -/
def eventItem (traceId : String) (event : TraceEvent) : Item :=
  traceItem traceId (.event event.sequence) "event" (.event event) none

/-- The trace is stored as this chain under this head. -/
structure StoredChain (table : Table) (traceId : String) (events : List TraceEvent)
    (head : LedgerHead) : Prop where
  zero_get : table.get? ⟨.trace traceId, .event 0⟩ = none
  event_get : ∀ n, table.get? ⟨.trace traceId, .event (n + 1)⟩ =
    events[n]?.map (eventItem traceId)
  head_get : ∃ item, table.get? ⟨.trace traceId, .headSk⟩ = some item ∧
    item.document = some (.head head) ∧ item.sequence = some (head.sequence : Int)
  holds : ChainHolds traceId events head
  bounded : events.length < 10 ^ 12

/-- The trace has neither events nor a head. -/
structure NoChain (table : Table) (traceId : String) : Prop where
  event_get : ∀ n, table.get? ⟨.trace traceId, .event n⟩ = none
  head_get : table.get? ⟨.trace traceId, .headSk⟩ = none

/-- Every trace is stored as a chain or not at all. -/
def WellKept (table : Table) : Prop :=
  ∀ traceId, NoChain table traceId ∨ ∃ events head, StoredChain table traceId events head

/-- Every stored chain is still there, perhaps with more events. -/
def Extends (table table' : Table) : Prop :=
  ∀ traceId events head, StoredChain table traceId events head →
    ∃ more head', StoredChain table' traceId (events ++ more) head'

omit [Sha256] in
theorem NoChain.empty (traceId : String) : NoChain ∅ traceId :=
  ⟨fun _ => rfl, rfl⟩

theorem WellKept.empty : WellKept ∅ :=
  fun traceId => .inl (.empty traceId)

theorem Extends.refl (table : Table) : Extends table table :=
  fun traceId events head h => ⟨[], head, by simpa using h⟩

theorem Extends.trans {table table' table'' : Table} (h : Extends table table')
    (h' : Extends table' table'') : Extends table table'' := by
  intro traceId events head hstored
  obtain ⟨more, head', hstored'⟩ := h traceId events head hstored
  obtain ⟨more', head'', hstored''⟩ := h' traceId _ head' hstored'
  exact ⟨more ++ more', head'', by simpa using hstored''⟩

/-! ## What a stored chain determines -/

theorem WellFormedFrom.get {traceId : String} {sequence n : Nat} {events : List TraceEvent}
    {event : TraceEvent} (h : WellFormedFrom traceId sequence events)
    (hget : events[n]? = some event) : WellFormed traceId (sequence + n) event := by
  induction events generalizing sequence n with
  | nil => simp at hget
  | cons first rest ih =>
      cases n with
      | zero =>
          obtain rfl : first = event := by simpa using hget
          exact h.1
      | succ n =>
          have hrest := ih h.2 (n := n) (by simpa using hget)
          rwa [Nat.add_right_comm] at hrest

theorem wellFormedFrom_append_singleton {traceId : String} {sequence : Nat}
    {events : List TraceEvent} {event : TraceEvent} :
    WellFormedFrom traceId sequence (events ++ [event]) ↔
      WellFormedFrom traceId sequence events ∧
        WellFormed traceId (sequence + events.length) event := by
  induction events generalizing sequence with
  | nil => simp [WellFormedFrom]
  | cons first rest ih =>
      simp only [List.cons_append, WellFormedFrom, ih, List.length_cons, and_assoc]
      rw [Nat.add_right_comm, Nat.add_assoc]

namespace StoredChain

variable {table : Table} {traceId : String} {events : List TraceEvent} {head : LedgerHead}

/-- The event at a position has its sequence number. -/
theorem sequence_eq (h : StoredChain table traceId events head) {n : Nat} {event : TraceEvent}
    (hget : events[n]? = some event) : event.sequence = n + 1 :=
  ((h.holds.wellFormed.get hget).sequence_eq).trans (Nat.add_comm 1 n)

theorem traceId_eq (h : StoredChain table traceId events head) {n : Nat} {event : TraceEvent}
    (hget : events[n]? = some event) : event.traceId = traceId :=
  (h.holds.wellFormed.get hget).traceId_eq

/-- The items of the chain are determined by the table. -/
theorem events_eq (h : StoredChain table traceId events head) {events' : List TraceEvent}
    {head' : LedgerHead} (h' : StoredChain table traceId events' head') : events = events' := by
  refine List.ext_getElem? fun n => ?_
  have hitems := (h.event_get n).symm.trans (h'.event_get n)
  cases hn : events[n]? with
  | none =>
      rw [hn] at hitems
      exact (Option.map_eq_none_iff.mp hitems.symm).symm
  | some event =>
      rw [hn] at hitems
      obtain ⟨event', hn', heq⟩ := Option.map_eq_some_iff.mp hitems.symm
      have hdocument := congrArg Item.document heq
      simp only [eventItem, traceItem, Document.stored, Option.some.injEq,
        Document.event.injEq] at hdocument
      rw [hn', hdocument]

/-- An event item holds the event of its number. -/
theorem event_of_item (h : StoredChain table traceId events head) {n : Nat} {item : Item}
    {event : TraceEvent} (hget : table.get? ⟨.trace traceId, .event n⟩ = some item)
    (hevent : item.decode Document.decodeEvent = .ok event) :
    ∃ m, n = m + 1 ∧ events[m]? = some event := by
  cases n with
  | zero =>
      rw [h.zero_get] at hget
      cases hget
  | succ m =>
      rw [h.event_get m] at hget
      obtain ⟨event', hn, rfl⟩ := Option.map_eq_some_iff.mp hget
      exact ⟨m, rfl, hn.trans (congrArg some (Except.ok.inj hevent))⟩

/-- The head item holds the head. -/
theorem head_of_item (h : StoredChain table traceId events head) {item : Item}
    {head' : LedgerHead} (hget : table.get? ⟨.trace traceId, .headSk⟩ = some item)
    (hhead : item.decode Document.decodeHead = .ok head') : head' = head := by
  obtain ⟨item', hget', hdocument, -⟩ := h.head_get
  obtain rfl := Option.some.inj (hget'.symm.trans hget)
  rw [Item.decode, hdocument] at hhead
  exact (Except.ok.inj hhead).symm

/-- Only the trace's event and head items matter. -/
theorem congr (h : StoredChain table traceId events head) {table' : Table}
    (hevent : ∀ n, table'.get? ⟨.trace traceId, .event n⟩ =
      table.get? ⟨.trace traceId, .event n⟩)
    (hhead : table'.get? ⟨.trace traceId, .headSk⟩ = table.get? ⟨.trace traceId, .headSk⟩) :
    StoredChain table' traceId events head where
  zero_get := (hevent 0).trans h.zero_get
  event_get n := (hevent (n + 1)).trans (h.event_get n)
  head_get := by
    rw [hhead]
    exact h.head_get
  holds := h.holds
  bounded := h.bounded

end StoredChain

omit [Sha256] in
theorem NoChain.congr {table table' : Table} {traceId : String} (h : NoChain table traceId)
    (hevent : ∀ n, table'.get? ⟨.trace traceId, .event n⟩ =
      table.get? ⟨.trace traceId, .event n⟩)
    (hhead : table'.get? ⟨.trace traceId, .headSk⟩ = table.get? ⟨.trace traceId, .headSk⟩) :
    NoChain table' traceId :=
  ⟨fun n => (hevent n).trans (h.event_get n), hhead.trans h.head_get⟩

/-- The keys of a trace's chain. -/
def chainKey (traceId : String) (key : ItemKey) : Prop :=
  key.pk = .trace traceId ∧ (key.sk = .headSk ∨ ∃ n, key.sk = .event n)

/-- The events that are stored of a trace. -/
def Stores (table : Table) (traceId : String) (events : List TraceEvent) : Prop :=
  (NoChain table traceId ∧ events = []) ∨ ∃ head, StoredChain table traceId events head

section Untouched

variable {table : Table} {actions : List WriteAction} {traceId : String}

omit [Sha256] in
/-- A transaction leaves the chain keys alone that it does not write. -/
theorem get?_apply_of_not_chainKey (hkeys : ∀ action ∈ actions, ¬ chainKey traceId action.key)
    {sk : SortKey} (hsk : chainKey traceId ⟨.trace traceId, sk⟩) :
    (table.apply actions).get? ⟨.trace traceId, sk⟩ = table.get? ⟨.trace traceId, sk⟩ := by
  refine Table.get?_apply_of_not_mem (fun hmem => ?_) table
  obtain ⟨action, haction, hkey⟩ := List.mem_map.mp hmem
  exact hkeys action haction (hkey ▸ hsk)

theorem StoredChain.apply_of_not_chainKey {events : List TraceEvent} {head : LedgerHead}
    (h : StoredChain table traceId events head)
    (hkeys : ∀ action ∈ actions, ¬ chainKey traceId action.key) :
    StoredChain (table.apply actions) traceId events head :=
  h.congr (fun n => get?_apply_of_not_chainKey hkeys ⟨rfl, .inr ⟨n, rfl⟩⟩)
    (get?_apply_of_not_chainKey hkeys ⟨rfl, .inl rfl⟩)

/-- A transaction that writes no chain key of a trace keeps what is stored of it. -/
theorem Stores.apply_of_not_chainKey {events : List TraceEvent}
    (h : Stores table traceId events)
    (hkeys : ∀ action ∈ actions, ¬ chainKey traceId action.key) :
    Stores (table.apply actions) traceId events := by
  rcases h with ⟨hno, hevents⟩ | ⟨head, hstored⟩
  · refine .inl ⟨hno.congr (fun n => ?_) ?_, hevents⟩
    · exact get?_apply_of_not_chainKey hkeys ⟨rfl, .inr ⟨n, rfl⟩⟩
    · exact get?_apply_of_not_chainKey hkeys ⟨rfl, .inl rfl⟩
  · exact .inr ⟨head, hstored.apply_of_not_chainKey hkeys⟩

end Untouched

theorem WellKept.stores {table : Table} (h : WellKept table) (traceId : String) :
    ∃ events, Stores table traceId events := by
  rcases h traceId with hno | ⟨events, head, hstored⟩
  · exact ⟨[], .inl ⟨hno, rfl⟩⟩
  · exact ⟨events, .inr ⟨head, hstored⟩⟩

theorem WellKept.of_stores {table : Table} (h : ∀ traceId, ∃ events, Stores table traceId events) :
    WellKept table := by
  intro traceId
  obtain ⟨events, ⟨hno, -⟩ | ⟨head, hstored⟩⟩ := h traceId
  · exact .inl hno
  · exact .inr ⟨events, head, hstored⟩

/-- A transaction outside every chain. -/
theorem WellKept.apply_of_no_chainKey {table : Table} {actions : List WriteAction}
    (h : WellKept table) (hkeys : ∀ traceId, ∀ action ∈ actions, ¬ chainKey traceId action.key) :
    WellKept (table.apply actions) ∧ Extends table (table.apply actions) := by
  constructor
  · refine .of_stores fun traceId => ?_
    obtain ⟨events, hstores⟩ := h.stores traceId
    exact ⟨events, hstores.apply_of_not_chainKey (hkeys traceId)⟩
  · intro traceId events head hstored
    have hkept := hstored.apply_of_not_chainKey (hkeys traceId)
    exact ⟨[], head, by simpa using hkept⟩

/-- A transaction on one trace, given what it does to that trace. -/
theorem WellKept.apply_of_trace {table : Table} {actions : List WriteAction}
    (h : WellKept table) (traceId : String)
    (hkeys : ∀ action ∈ actions, ∀ other, chainKey other action.key → other = traceId)
    (hstored : ∃ events head, StoredChain (table.apply actions) traceId events head)
    (hextends : ∀ events head, StoredChain table traceId events head →
      ∃ more head', StoredChain (table.apply actions) traceId (events ++ more) head') :
    WellKept (table.apply actions) ∧ Extends table (table.apply actions) := by
  have helsewhere (other : String) (hother : other ≠ traceId) :
      ∀ action ∈ actions, ¬ chainKey other action.key :=
    fun action hmem hkey => hother (hkeys action hmem other hkey)
  constructor
  · refine .of_stores fun other => ?_
    by_cases hother : other = traceId
    · obtain ⟨events, head, hstored⟩ := hstored
      exact ⟨events, .inr ⟨head, hother ▸ hstored⟩⟩
    · obtain ⟨events, hstores⟩ := h.stores other
      exact ⟨events, hstores.apply_of_not_chainKey (helsewhere other hother)⟩
  · intro other events head hold
    by_cases hother : other = traceId
    · subst hother
      exact hextends events head hold
    · have hkept := hold.apply_of_not_chainKey (helsewhere other hother)
      exact ⟨[], head, by simpa using hkept⟩

/-! ## Queries of a stored chain -/

/-- The entries of a chain under consecutive keys. -/
def chainEntries (traceId : String) (events : List TraceEvent) : List (SortKey × Item) :=
  events.map fun event => (.event event.sequence, eventItem traceId event)

omit [Sha256] in
theorem mem_partition {table : Table} {pk : PartitionKey} {beginning : String}
    {entry : SortKey × Item} :
    entry ∈ table.partition pk beginning ↔
      entry.1.begins beginning = true ∧ table.get? ⟨pk, entry.1⟩ = some entry.2 := by
  rw [Table.partition, List.mem_insertionSort]
  simp only [List.mem_map, List.mem_filter, Bool.and_eq_true, decide_eq_true_eq,
    Dict.get?_eq_some_iff]
  constructor
  · rintro ⟨⟨⟨pk', sk⟩, item⟩, ⟨hmem, rfl, hbegins⟩, rfl⟩
    exact ⟨hbegins, hmem⟩
  · rintro ⟨hbegins, hmem⟩
    exact ⟨(⟨pk, entry.1⟩, entry.2), ⟨hmem, rfl, hbegins⟩, rfl⟩

omit [Sha256] in
theorem nodup_partition (table : Table) (pk : PartitionKey) (beginning : String) :
    (table.partition pk beginning).Nodup := by
  rw [Table.partition, (List.perm_insertionSort _ _).nodup_iff]
  refine List.Nodup.map_on ?_ (List.Nodup.filter _ (List.Nodup.of_map _ table.nodup))
  rintro ⟨⟨pk', sk⟩, item⟩ h ⟨⟨pk'', sk'⟩, item'⟩ h' heq
  simp only [List.mem_filter, Bool.and_eq_true, decide_eq_true_eq] at h h'
  obtain ⟨rfl, rfl⟩ := Prod.mk.inj heq
  rw [h.2.1, h'.2.1]

namespace StoredChain

variable {table : Table} {traceId : String} {events : List TraceEvent} {head : LedgerHead}

theorem mem_chainEntries (h : StoredChain table traceId events head)
    {entry : SortKey × Item} :
    entry ∈ chainEntries traceId events ↔ entry ∈ table.partition (.trace traceId) "EVENT#" := by
  rw [mem_partition, SortKey.begins_event_iff, chainEntries, List.mem_map]
  constructor
  · rintro ⟨event, hmem, rfl⟩
    obtain ⟨n, hn⟩ := List.mem_iff_getElem?.mp hmem
    refine ⟨⟨_, rfl⟩, ?_⟩
    rw [h.sequence_eq hn, h.event_get n, hn]
    rfl
  · rintro ⟨⟨n, hkey⟩, hget⟩
    obtain ⟨sk, item⟩ := entry
    obtain rfl : sk = .event n := hkey
    cases n with
    | zero =>
        rw [h.zero_get] at hget
        cases hget
    | succ m =>
        rw [h.event_get m] at hget
        obtain ⟨event, hm, hitem⟩ := Option.map_eq_some_iff.mp hget
        exact ⟨event, List.mem_of_getElem? hm, by rw [h.sequence_eq hm, hitem]⟩

/-- The entries of a chain are in strict key order. -/
theorem chainEntries_sorted (h : StoredChain table traceId events head) :
    (chainEntries traceId events).Pairwise fun a b => a.1.before b.1 = true := by
  rw [chainEntries, List.pairwise_map, List.pairwise_iff_getElem]
  intro i j hi hj hij
  have hbound := h.bounded
  rw [h.sequence_eq (List.getElem?_eq_getElem hi), h.sequence_eq (List.getElem?_eq_getElem hj)]
  exact (SortKey.event_before_iff (by omega) (by omega)).mpr (by omega)

/-- A query finds the chain, in order. -/
theorem partition_eq (h : StoredChain table traceId events head) :
    table.partition (.trace traceId) "EVENT#" = chainEntries traceId events := by
  have hirrefl (a : SortKey) : a.before a = false := by
    simp [SortKey.before]
  have hnodup : (chainEntries traceId events).Nodup :=
    h.chainEntries_sorted.imp fun {a b} hab heq => by
      rw [heq, hirrefl] at hab
      cases hab
  have hperm : (table.partition (.trace traceId) "EVENT#").Perm (chainEntries traceId events) :=
    (List.perm_ext_iff_of_nodup (nodup_partition _ _ _) hnodup).mpr fun entry =>
      h.mem_chainEntries.symm
  -- Both lists are sorted, and entries of the chain with one key are equal.
  refine @List.Perm.eq_of_pairwise _ (fun a b => b.1.before a.1 = false) _ _ ?_ ?_ ?_ hperm
  · intro a b ha hb hab hba
    rw [← h.mem_chainEntries] at ha
    obtain ⟨event, hmem, rfl⟩ := List.mem_map.mp ha
    obtain ⟨event', hmem', rfl⟩ := List.mem_map.mp hb
    obtain ⟨i, hi⟩ := List.mem_iff_getElem?.mp hmem
    obtain ⟨j, hj⟩ := List.mem_iff_getElem?.mp hmem'
    have hilt := (List.getElem?_eq_some_iff.mp hi).1
    have hjlt := (List.getElem?_eq_some_iff.mp hj).1
    have hbound := h.bounded
    rw [h.sequence_eq hi, h.sequence_eq hj] at hab hba
    have hij : ¬ j + 1 < i + 1 := fun hlt => by
      rw [(SortKey.event_before_iff (by omega) (by omega)).mpr hlt] at hab
      cases hab
    have hji : ¬ i + 1 < j + 1 := fun hlt => by
      rw [(SortKey.event_before_iff (by omega) (by omega)).mpr hlt] at hba
      cases hba
    obtain rfl : i = j := by omega
    rw [Option.some.inj (hi.symm.trans hj)]
  · have htotal : Std.Total fun a b : SortKey × Item => b.1.before a.1 = false :=
      ⟨fun a b => by
        simp only [SortKey.before, decide_eq_false_iff_not, not_lt]
        exact le_total _ _⟩
    have htrans : IsTrans (SortKey × Item) fun a b => b.1.before a.1 = false :=
      ⟨fun a b c => by
        simp only [SortKey.before, decide_eq_false_iff_not, not_lt]
        exact le_trans⟩
    exact List.pairwise_insertionSort _ _
  · refine h.chainEntries_sorted.imp fun {a b} hab => ?_
    simp only [SortKey.before, decide_eq_true_eq, decide_eq_false_iff_not, not_lt] at hab ⊢
    exact le_of_lt hab

end StoredChain

/-! ## The transactions of the repository -/

section Keys

omit [Sha256]

theorem not_chainKey_of_sk {traceId : String} {key : ItemKey} (hhead : key.sk ≠ .headSk)
    (hevent : ∀ n, key.sk ≠ .event n) : ¬ chainKey traceId key :=
  fun h => h.2.elim hhead fun ⟨n, hn⟩ => hevent n hn

variable {state : TrajectoryState} {name : String} {head : LedgerHead} {oldRevision : Nat}
variable {actions : List WriteAction}

/-- A decision writes no chain key. -/
theorem not_chainKey_decision {decision : Decision}
    (hactions : decisionActions state decision oldRevision = .ok actions) (traceId : String) :
    ∀ action ∈ actions, ¬ chainKey traceId action.key := by
  obtain ⟨decisionId, item, rfl⟩ := decisionActions_ok hactions
  intro action hmem
  simp only [List.mem_cons, List.not_mem_nil, or_false] at hmem
  rcases hmem with rfl | rfl <;> exact not_chainKey_of_sk (by simp [WriteAction.key])
    (by simp [WriteAction.key])

/-- An approval writes no chain key. -/
theorem not_chainKey_approval {approval : ApprovalRecord}
    (hactions : approvalActions state approval name oldRevision = .ok actions)
    (traceId : String) : ∀ action ∈ actions, ¬ chainKey traceId action.key := by
  obtain ⟨valid, item, listed, rfl⟩ := approvalActions_ok hactions
  intro action hmem
  simp only [List.mem_cons, List.not_mem_nil, or_false] at hmem
  rcases hmem with rfl | rfl | rfl | rfl <;> exact not_chainKey_of_sk (by simp [WriteAction.key])
    (by simp [WriteAction.key])

/-- A new run writes chain keys of its own trace. -/
theorem chainKey_create (hactions : createActions state head name = .ok actions) :
    ∀ action ∈ actions, ∀ other, chainKey other action.key → other = state.traceId := by
  obtain ⟨valid, rfl⟩ := createActions_ok hactions
  intro action hmem other hkey
  simp only [List.mem_cons, List.not_mem_nil, or_false] at hmem
  rcases hmem with rfl | rfl | rfl
  · exact (PartitionKey.trace.inj hkey.1).symm
  · exact (PartitionKey.trace.inj hkey.1).symm
  · exact absurd hkey (not_chainKey_of_sk (by simp [WriteAction.key]) (by simp [WriteAction.key]))

/-- So does an append. -/
theorem chainKey_append {event : TraceEvent} {replay : List WriteAction}
    (hactions : appendActions state head event oldRevision = .ok actions)
    (hreplay : replay = [] ∨
      ∃ keyHash item, replay = [.put ⟨.trace state.traceId, .eventReplay keyHash⟩ item]) :
    ∀ action ∈ actions ++ replay, ∀ other, chainKey other action.key → other = state.traceId := by
  obtain ⟨-, -, rfl⟩ := appendActions_ok hactions
  intro action hmem other hkey
  have hpk : action.key.pk = .trace state.traceId := by
    rcases hreplay with rfl | ⟨keyHash, item, rfl⟩ <;>
      simp only [List.append_nil, List.cons_append, List.nil_append, List.mem_cons,
        List.not_mem_nil, or_false] at hmem
    · rcases hmem with rfl | rfl | rfl <;> rfl
    · rcases hmem with rfl | rfl | rfl | rfl <;> rfl
  exact PartitionKey.trace.inj (hkey.1.symm.trans hpk)

end Keys

section Create

variable {table : Table} {state : TrajectoryState} {name : String} {head : LedgerHead}
variable {actions : List WriteAction}

omit [Sha256] in
/-- A new run is refused where there is a head. -/
theorem head_free_of_create (hactions : createActions state head name = .ok actions)
    (haccepts : table.accepts actions = true) :
    table.get? ⟨.trace state.traceId, .headSk⟩ = none := by
  obtain ⟨valid, heq⟩ := createActions_ok hactions
  have hmem : .put ⟨.trace state.traceId, .headSk⟩
      (traceItem state.traceId .headSk "head" (.head head) none) ∈ actions := by
    simp [heq]
  simpa [WriteAction.holds, WriteAction.key] using Table.holds_of_accepts haccepts hmem

/-- Where there is no head there is no chain. -/
theorem Stores.of_head_free {traceId : String} {events : List TraceEvent}
    (h : Stores table traceId events) (hfree : table.get? ⟨.trace traceId, .headSk⟩ = none) :
    NoChain table traceId ∧ events = [] := by
  rcases h with hno | ⟨head, hstored⟩
  · exact hno
  · obtain ⟨item, hitem, -⟩ := hstored.head_get
    rw [hfree] at hitem
    cases hitem

/-- A new run starts an empty chain. -/
theorem storedChain_create (hno : NoChain table state.traceId)
    (hgenesis : ChainHolds state.traceId [] head)
    (hactions : createActions state head name = .ok actions) :
    StoredChain (table.apply actions) state.traceId [] head := by
  obtain ⟨valid, heq⟩ := createActions_ok hactions
  have hmem : .put ⟨.trace state.traceId, .headSk⟩
      (traceItem state.traceId .headSk "head" (.head head) none) ∈ actions := by
    simp [heq]
  have hkeys : actions.map WriteAction.key = [⟨.trace state.traceId, .metaSk⟩,
      ⟨.trace state.traceId, .headSk⟩, ⟨.namespaced valid, .namespaceTrace state.traceId⟩] := by
    rw [heq]
    rfl
  have hkept (n : Nat) : (table.apply actions).get? ⟨.trace state.traceId, .event n⟩ = none :=
    (Table.get?_apply_of_not_mem (by simp [hkeys]) table).trans (hno.event_get n)
  have hhead := Table.get?_apply (by simp [hkeys]) hmem table
  exact
    { zero_get := hkept 0
      event_get := fun n => by simpa using hkept (n + 1)
      head_get := ⟨_, hhead, rfl, by
        rw [hgenesis.sequence_eq]
        rfl⟩
      holds := hgenesis
      bounded := by decide }

theorem WellKept.apply_create (h : WellKept table) (hgenesis : ChainHolds state.traceId [] head)
    (hactions : createActions state head name = .ok actions)
    (haccepts : table.accepts actions = true) :
    WellKept (table.apply actions) ∧ Extends table (table.apply actions) := by
  have hfree := head_free_of_create hactions haccepts
  obtain ⟨events, hstores⟩ := h.stores state.traceId
  have hnew := storedChain_create (hstores.of_head_free hfree).1 hgenesis hactions
  refine h.apply_of_trace state.traceId (chainKey_create hactions) ⟨[], head, hnew⟩ ?_
  intro events' head' hstored
  obtain ⟨item, hitem, -⟩ := hstored.head_get
  rw [hfree] at hitem
  cases hitem

end Create

/-- A chain and the event after its head. -/
theorem chainHolds_nextEvent {traceId : String} {events : List TraceEvent} {head : LedgerHead}
    (h : ChainHolds traceId events head) (spec : EventSpec) (now : Timestamp) (uuid : String) :
    ChainHolds traceId (events ++ [nextEvent traceId head spec now uuid])
      (nextHead head (nextEvent traceId head spec now uuid)) where
  wellFormed := wellFormedFrom_append_singleton.mpr ⟨h.wellFormed, by
    constructor
    · show head.sequence + 1 = 1 + events.length
      rw [h.sequence_eq, Nat.add_comm]
    · rfl
    · rfl
    · rfl⟩
  linked := linked_append_singleton.mpr ⟨h.linked, h.eventHash_eq⟩
  eventCount_eq := by simp [nextHead, h.eventCount_eq]
  sequence_eq := by simp [nextHead, nextEvent, h.sequence_eq]
  eventHash_eq := by
    rw [tip_append_singleton]
    rfl
  schemaVersion_eq := rfl

/-- The transaction of an append that was built on the head of a chain. -/
theorem WellKept.apply_append {table : Table} {state : TrajectoryState} {head : LedgerHead}
    {event : TraceEvent} {spec : EventSpec} {now : Timestamp} {uuid : String}
    {oldRevision : Nat} {actions replay : List WriteAction} {known : List TraceEvent}
    (h : WellKept table) (hactions : appendActions state head event oldRevision = .ok actions)
    (hevent : event = nextEvent state.traceId head spec now uuid)
    (hknown : ChainHolds state.traceId known head)
    (hstored : ∃ more head', StoredChain table state.traceId (known ++ more) head')
    (hreplay : replay = [] ∨
      ∃ keyHash item, replay = [.put ⟨.trace state.traceId, .eventReplay keyHash⟩ item])
    (haccepts : table.accepts (actions ++ replay) = true) :
    (∃ head', StoredChain (table.apply (actions ++ replay)) state.traceId (known ++ [event])
      head') ∧
    WellKept (table.apply (actions ++ replay)) ∧
      Extends table (table.apply (actions ++ replay)) := by
  obtain ⟨-, hbound, heq⟩ := appendActions_ok hactions
  obtain ⟨more, head', hstored⟩ := hstored
  have hhead : .update ⟨.trace state.traceId, .headSk⟩ .sequence head.sequence event.sequence
      (.head (nextHead head event)) ∈ actions ++ replay := by
    simp [heq]
  have hput : .put ⟨.trace state.traceId, .event event.sequence⟩ (eventItem state.traceId event) ∈
      actions ++ replay := by
    simp [heq, eventItem]
  -- The condition on the head leaves no room for events after the known ones.
  have hmore : more = [] := by
    obtain ⟨item, hitem, -, hsequence⟩ := hstored.head_get
    have hcondition := Table.holds_of_accepts haccepts hhead
    simp only [WriteAction.holds, WriteAction.key, hitem, Option.bind_some, Item.counter,
      hsequence, decide_eq_true_eq, Option.some.injEq, Nat.cast_inj] at hcondition
    have hlength : (known ++ more).length = known.length := by
      rw [← hstored.holds.sequence_eq, hcondition, hknown.sequence_eq]
    simpa using hlength
  subst hmore
  rw [List.append_nil] at hstored
  have hposition : event.sequence = known.length + 1 := by
    rw [hevent, ← hknown.sequence_eq]
    rfl
  have hkeys : (actions ++ replay).map WriteAction.key =
      [⟨.trace state.traceId, .event event.sequence⟩, ⟨.trace state.traceId, .headSk⟩,
        ⟨.trace state.traceId, .metaSk⟩] ++ replay.map WriteAction.key := by
    rw [heq, List.map_append]
    rfl
  have hnodup : ((actions ++ replay).map WriteAction.key).Nodup := by
    rw [hkeys]
    rcases hreplay with rfl | ⟨keyHash, item, rfl⟩ <;> simp [WriteAction.key]
  have hother (n : Nat) (hn : n ≠ event.sequence) :
      (table.apply (actions ++ replay)).get? ⟨.trace state.traceId, .event n⟩ =
        table.get? ⟨.trace state.traceId, .event n⟩ := by
    refine Table.get?_apply_of_not_mem ?_ table
    rw [hkeys]
    rcases hreplay with rfl | ⟨keyHash, item, rfl⟩ <;> simp [WriteAction.key, hn]
  have hputget := Table.get?_apply hnodup hput table
  have hheadget := Table.get?_apply hnodup hhead table
  have hnew : StoredChain (table.apply (actions ++ replay)) state.traceId (known ++ [event])
      (nextHead head event) := by
    refine
      { zero_get := (hother 0 (by omega)).trans hstored.zero_get
        event_get := fun n => ?_
        head_get := ?_
        holds := hevent ▸ chainHolds_nextEvent hknown spec now uuid
        bounded := by
          rw [List.length_append, List.length_singleton]
          omega }
    · rcases Nat.lt_trichotomy n known.length with hlt | rfl | hgt
      · rw [hother (n + 1) (by omega), hstored.event_get n, List.getElem?_append_left hlt]
      · rw [← hposition]
        simpa [WriteAction.key, WriteAction.written] using hputget
      · have hlength : (known ++ [event]).length ≤ n := by
          rw [List.length_append, List.length_singleton]
          omega
        rw [hother (n + 1) (by omega), hstored.event_get n,
          List.getElem?_eq_none (Nat.le_of_lt hgt), List.getElem?_eq_none hlength]
    · obtain ⟨item, hitem, -, -⟩ := hstored.head_get
      simp only [WriteAction.key, WriteAction.written, hitem, Option.map_some] at hheadget
      exact ⟨_, hheadget, rfl, rfl⟩
  refine ⟨⟨_, hnew⟩,
    h.apply_of_trace state.traceId (chainKey_append hactions hreplay) ⟨_, _, hnew⟩ ?_⟩
  intro events' head'' hold
  rw [← hstored.events_eq hold]
  exact ⟨[event], _, hnew⟩

/-! ## Any transaction -/

/-- The transactions of the repository, with what they were assembled from. -/
inductive Transaction (table : Table) : List WriteAction → Prop
  | append {state : TrajectoryState} {head : LedgerHead} {event : TraceEvent} {spec : EventSpec}
      {now : Timestamp} {uuid : String} {oldRevision : Nat} {actions replay : List WriteAction}
      {known : List TraceEvent}
      (hactions : appendActions state head event oldRevision = .ok actions)
      (hevent : event = nextEvent state.traceId head spec now uuid)
      (hknown : ChainHolds state.traceId known head)
      (hstored : ∃ more head', StoredChain table state.traceId (known ++ more) head')
      (hreplay : replay = [] ∨
        ∃ keyHash item, replay = [.put ⟨.trace state.traceId, .eventReplay keyHash⟩ item]) :
      Transaction table (actions ++ replay)
  | decision {state : TrajectoryState} {decision : Decision} {oldRevision : Nat}
      {actions : List WriteAction}
      (hactions : decisionActions state decision oldRevision = .ok actions) :
      Transaction table actions
  | approval {state : TrajectoryState} {approval : ApprovalRecord} {name : String}
      {oldRevision : Nat} {actions : List WriteAction}
      (hactions : approvalActions state approval name oldRevision = .ok actions) :
      Transaction table actions
  | create {state : TrajectoryState} {head : LedgerHead} {name : String}
      {actions : List WriteAction} (hgenesis : ChainHolds state.traceId [] head)
      (hactions : createActions state head name = .ok actions) : Transaction table actions

/-- The transaction writes an event of the trace. -/
def AppendsTo (traceId : String) (actions : List WriteAction) : Prop :=
  ∃ n item, .put ⟨.trace traceId, .event n⟩ item ∈ actions

namespace Transaction

variable {table : Table} {actions : List WriteAction}

/-- No transaction breaks a chain. -/
theorem keeps (ht : Transaction table actions) (h : WellKept table)
    (haccepts : table.accepts actions = true) :
    WellKept (table.apply actions) ∧ Extends table (table.apply actions) := by
  cases ht with
  | append hactions hevent hknown hstored hreplay =>
      exact (h.apply_append hactions hevent hknown hstored hreplay haccepts).2
  | decision hactions => exact h.apply_of_no_chainKey (not_chainKey_decision hactions)
  | approval hactions => exact h.apply_of_no_chainKey (not_chainKey_approval hactions)
  | create hgenesis hactions => exact h.apply_create hgenesis hactions haccepts

/-- Only an append changes what is stored of a trace. -/
theorem stores (ht : Transaction table actions) (haccepts : table.accepts actions = true)
    {traceId : String} {events : List TraceEvent} (hquiet : ¬ AppendsTo traceId actions)
    (h : Stores table traceId events) : Stores (table.apply actions) traceId events := by
  cases ht with
  | @append state head event _ _ _ _ actions replay _ hactions _ _ _ hreplay =>
      refine h.apply_of_not_chainKey fun action hmem hkey => hquiet ?_
      obtain rfl := chainKey_append hactions hreplay action hmem traceId hkey
      obtain ⟨-, -, rfl⟩ := appendActions_ok hactions
      exact ⟨event.sequence, _, List.mem_append_left _ List.mem_cons_self⟩
  | decision hactions => exact h.apply_of_not_chainKey (not_chainKey_decision hactions traceId)
  | approval hactions => exact h.apply_of_not_chainKey (not_chainKey_approval hactions traceId)
  | @create state head name _ hgenesis hactions =>
      by_cases htrace : traceId = state.traceId
      · subst htrace
        obtain ⟨hno, rfl⟩ := h.of_head_free (head_free_of_create hactions haccepts)
        exact .inr ⟨head, storedChain_create hno hgenesis hactions⟩
      · exact h.apply_of_not_chainKey fun action hmem hkey =>
          htrace (chainKey_create hactions action hmem traceId hkey)

end Transaction

end Manifest
