import Manifest.Storage.Clients

/-!
# The revision of a state document

Every write of a state document is conditional on the revision its writer's object counts
with.  The environment notes which document an object was loaded from or last stored as, and
for each accepted write what it replaced: a write that replaces anything else than the
document its object is based on loses an update.

The count goes wrong in one place.  An object whose write cannot be assembled keeps the
revision of the write that never happened.

Main results:

- Theorem `Watched.handle_transact`: what one transaction notes.
- Theorem `DynamoDBTraceStore.no_lost_update`: in every run in which each write can be
  assembled, every accepted write replaces the document its object is based on.
-/

set_option autoImplicit false

namespace Manifest

open Interaction DynamoDBTraceStore

/-! ## What the environment notes -/

/-- An accepted write of a state document: what the writer's object is based on, and what
the write replaced. -/
structure StateWrite where
  base : Option Item
  previous : Option Item

/-- A database with notes: for each client the state item its object is based on, and the
accepted writes. -/
structure Watched (ι : Type) where
  db : Database := {}
  base : ι → Option Item := fun _ => none
  accepted : List StateWrite := []

namespace Watched

variable {ι : Type}

section Notes

variable [DecidableEq ι]

/-- Client `i` is based on what it read. -/
def rebase (w : Watched ι) (i : ι) (item : Option Item) : Watched ι :=
  { w with base := Function.update w.base i item }

/-- Client `i` wrote a state document; `table` is the table after the transaction. -/
def stateWritten (w : Watched ι) (i : ι) (table : Table) (action : WriteAction) : Watched ι :=
  { w.rebase i (table.get? action.key) with
    accepted := w.accepted ++ [⟨w.base i, w.db.table.get? action.key⟩] }

/-- The writes of state documents in a transaction. -/
def stateWrites (actions : List WriteAction) : List WriteAction :=
  actions.filter fun action => action.key.sk = .metaSk

/-- What is noted of a request and its reply; `table` is the table after it. -/
def note (w : Watched ι) (i : ι) (table : Table) : {β : Type} → DynamoOp β → β → Watched ι
  | _, .getItem key, .ok found => if key.sk = .metaSk then w.rebase i found else w
  | _, .transactWriteItems actions, .ok () =>
      (stateWrites actions).foldl (fun w action => w.stateWritten i table action) w
  | _, _, _ => w

def handle (backend : Backend) (i : ι) : Handler DynamoOp (Watched ι) :=
  fun β o w =>
    let reply := Database.handle backend β o w.db
    (reply.1, { w.note i reply.2.table o reply.1 with db := reply.2 })

end Notes

/-- Every accepted write replaced what its object was based on. -/
def NoLostUpdate (w : Watched ι) : Prop :=
  ∀ write ∈ w.accepted, write.base = write.previous

/-! ## Documents and their successors -/

/-- A state item was replaced any number of times. -/
def Succeeds (item later : Item) : Prop :=
  later = item ∨ ∃ m n : Int, item.revision = some m ∧ later.revision = some n ∧ m < n

theorem Succeeds.trans {a b c : Item} (h : Succeeds a b) (h' : Succeeds b c) : Succeeds a c := by
  rcases h with rfl | ⟨m, n, hm, hn, hlt⟩
  · exact h'
  · rcases h' with rfl | ⟨m', n', hm', hn', hlt'⟩
    · exact .inr ⟨m, n, hm, hn, hlt⟩
    · obtain rfl := Option.some.inj (hn.symm.trans hm')
      exact .inr ⟨m, n', hm, hn', hlt.trans hlt'⟩

/-- The only successor with the same revision is the item itself. -/
theorem Succeeds.eq_of_revision {item later : Item} {n : Int} (h : Succeeds item later)
    (hitem : item.revision = some n) (hlater : later.revision = some n) : later = item := by
  rcases h with rfl | ⟨m, n', hm, hn', hlt⟩
  · rfl
  · have hmn : m = n := Option.some.inj (hm.symm.trans hitem)
    have hnn : n' = n := Option.some.inj (hn'.symm.trans hlater)
    omega

/-- State items hold the state of their trace under a natural revision, and their trace has
a head. -/
def StatesKept (table : Table) : Prop :=
  ∀ traceId item, table.get? ⟨.trace traceId, .metaSk⟩ = some item →
    (∃ state, item.document = some (.state state) ∧ state.traceId = traceId) ∧
    (∃ revision : Nat, item.revision = some (revision : Int)) ∧
    (table.get? ⟨.trace traceId, .headSk⟩).isSome = true

/-- State items are only replaced by successors. -/
def Advances (table table' : Table) : Prop :=
  ∀ traceId item, table.get? ⟨.trace traceId, .metaSk⟩ = some item →
    ∃ later, table'.get? ⟨.trace traceId, .metaSk⟩ = some later ∧ Succeeds item later

theorem Advances.refl (table : Table) : Advances table table :=
  fun _ item h => ⟨item, h, .inl rfl⟩

theorem Advances.trans {table table' table'' : Table} (h : Advances table table')
    (h' : Advances table' table'') : Advances table table'' := by
  intro traceId item hitem
  obtain ⟨later, hlater, hsucceeds⟩ := h traceId item hitem
  obtain ⟨last, hlast, hsucceeds'⟩ := h' traceId later hlater
  exact ⟨last, hlast, hsucceeds.trans hsucceeds'⟩

/-- Nothing went wrong so far. -/
structure Sound (w : Watched ι) : Prop where
  kept : StatesKept w.db.table
  replaced : w.NoLostUpdate

/-- What all clients guarantee together. -/
def Progress (w w' : Watched ι) : Prop :=
  w.Sound → w'.Sound ∧ Advances w.db.table w'.db.table

theorem Progress.refl (w : Watched ι) : Progress w w :=
  fun h => ⟨h, .refl _⟩

theorem Progress.trans {w w' w'' : Watched ι} (h : Progress w w') (h' : Progress w' w'') :
    Progress w w'' := fun hsound =>
  ⟨(h' (h hsound).1).1, (h hsound).2.trans (h' (h hsound).1).2⟩

/-- The object `s` of client `i` counts with the revision of the item it is based on. -/
def Based (i : ι) (s : TrajectoryState) (w : Watched ι) : Prop :=
  ∃ item current, w.base i = some item ∧ item.revision = some (s.storageRevision : Int) ∧
    w.db.table.get? ⟨.trace s.traceId, .metaSk⟩ = some current ∧ Succeeds item current

theorem Based.advance {i : ι} {s : TrajectoryState} {w w' : Watched ι} (h : Based i s w)
    (hadvances : Advances w.db.table w'.db.table) (hbase : w'.base i = w.base i) :
    Based i s w' := by
  obtain ⟨item, current, hitem, hrevision, hcurrent, hsucceeds⟩ := h
  obtain ⟨later, hlater, hsucceeds'⟩ := hadvances _ _ hcurrent
  exact ⟨item, later, hbase.trans hitem, hrevision, hlater, hsucceeds.trans hsucceeds'⟩

/-! ## One transaction -/

/-- A transaction on distinct keys with a single state document. -/
structure WritesState (traceId : String) (action : WriteAction) (actions : List WriteAction) :
    Prop where
  nodup : (actions.map WriteAction.key).Nodup
  stateWrites_eq : stateWrites actions = [action]
  key_eq : action.key = ⟨.trace traceId, .metaSk⟩

namespace WritesState

variable {traceId : String} {action : WriteAction} {actions : List WriteAction} {table : Table}

theorem mem (h : WritesState traceId action actions) : action ∈ actions := by
  have hmem : action ∈ stateWrites actions := by
    rw [h.stateWrites_eq]
    exact List.mem_singleton_self action
  exact List.mem_of_mem_filter hmem

/-- The state document that was written. -/
theorem get?_self (h : WritesState traceId action actions) (table : Table) :
    (table.apply actions).get? ⟨.trace traceId, .metaSk⟩ =
      action.written (table.get? ⟨.trace traceId, .metaSk⟩) := by
  rw [← h.key_eq]
  exact Table.get?_apply h.nodup h.mem table

/-- The state documents of other traces. -/
theorem get?_other (h : WritesState traceId action actions) (table : Table) {other : String}
    (hother : other ≠ traceId) :
    (table.apply actions).get? ⟨.trace other, .metaSk⟩ =
      table.get? ⟨.trace other, .metaSk⟩ := by
  refine Table.get?_apply_of_not_mem (fun hmem => hother ?_) table
  obtain ⟨found, hfound, hkey⟩ := List.mem_map.mp hmem
  have hwrites : found ∈ stateWrites actions := by
    refine List.mem_filter.mpr ⟨hfound, ?_⟩
    rw [hkey]
    rfl
  rw [h.stateWrites_eq, List.mem_singleton] at hwrites
  rw [hwrites, h.key_eq] at hkey
  exact (PartitionKey.trace.inj (congrArg ItemKey.pk hkey)).symm

end WritesState

/-- A transaction that replaces the state document of a trace. -/
structure Replaces (state : TrajectoryState) (oldRevision : Nat) (actions : List WriteAction) :
    Prop where
  nodup : (actions.map WriteAction.key).Nodup
  stateWrites_eq : stateWrites actions =
    [.update ⟨.trace state.traceId, .metaSk⟩ .revision oldRevision state.storageRevision
      (Document.state state).stored]

theorem Replaces.writesState {state : TrajectoryState} {oldRevision : Nat}
    {actions : List WriteAction} (h : Replaces state oldRevision actions) :
    WritesState state.traceId
      (.update ⟨.trace state.traceId, .metaSk⟩ .revision oldRevision state.storageRevision
        (Document.state state).stored) actions :=
  ⟨h.nodup, h.stateWrites_eq, rfl⟩

theorem replaces_append {state : TrajectoryState} {head : LedgerHead} {event : TraceEvent}
    {oldRevision : Nat} {actions replay : List WriteAction}
    (h : appendActions state head event oldRevision = .ok actions)
    (hreplay : Discipline.IsReplay state.traceId replay) :
    Replaces state oldRevision (actions ++ replay) := by
  obtain ⟨-, -, rfl⟩ := appendActions_ok h
  rcases hreplay with rfl | ⟨keyHash, item, rfl⟩
  · exact ⟨by simp [WriteAction.key], by simp [stateWrites, WriteAction.key]⟩
  · exact ⟨by simp [WriteAction.key], by simp [stateWrites, WriteAction.key]⟩

theorem replaces_decision {state : TrajectoryState} {decision : Decision} {oldRevision : Nat}
    {actions : List WriteAction}
    (h : decisionActions state decision oldRevision = .ok actions) :
    Replaces state oldRevision actions := by
  obtain ⟨decisionId, item, rfl⟩ := decisionActions_ok h
  exact ⟨by simp [WriteAction.key], by simp [stateWrites, WriteAction.key]⟩

theorem replaces_approval {state : TrajectoryState} {approval : ApprovalRecord} {name : String}
    {oldRevision : Nat} {actions : List WriteAction}
    (h : approvalActions state approval name oldRevision = .ok actions) :
    Replaces state oldRevision actions := by
  obtain ⟨valid, item, listed, rfl⟩ := approvalActions_ok h
  exact ⟨by simp [WriteAction.key], by simp [stateWrites, WriteAction.key]⟩

/-! ## The discipline of the clients -/

/-- No write fails while it is assembled. -/
def Assembles : (β : Type) → DynamoOp β → Watched ι → Prop
  | _, .assemble actions, _ => ∃ assembled, actions = .ok assembled
  | _, _, _ => True

variable [DecidableEq ι]

/-- A client leaves the notes about the others alone. -/
def revisions (backend : Backend) (i : ι) : Discipline (Watched ι) where
  backend := backend
  db := Watched.db
  handler := Watched.handle backend i
  serves _ _ _ := rfl
  scheduled := Assembles
  rely w w' := w.Progress w' ∧ w'.base i = w.base i
  guarantee w w' := w.Progress w' ∧ ∀ j, j ≠ i → w'.base j = w.base j
  rely_refl w := ⟨.refl w, rfl⟩

variable {backend : Backend} {i : ι} {s : TrajectoryState} {w : Watched ι}

/-- Nothing is noted of a quiet request. -/
theorem handle_quiet {β : Type} {o : DynamoOp β} (ho : o.Quiet) (w : Watched ι) :
    (Watched.handle backend i β o w).2 =
      { w with db := (Database.handle backend β o w.db).2 } := by
  cases o with
  | getItem key =>
      have hkey : key.sk ≠ .metaSk := ho
      unfold Watched.handle
      rcases Database.handle backend _ (.getItem key) w.db with ⟨x | found, db⟩
      · rfl
      · simp only [note, if_neg hkey]
  | transactWriteItems actions => cases ho
  | query pk beginning start => rfl
  | assemble actions => rfl
  | utcNow => rfl
  | uuid4 => rfl

omit [DecidableEq ι] in
theorem Sound.congr {w' : Watched ι} (h : w.Sound) (htable : w'.db.table = w.db.table)
    (haccepted : w'.accepted = w.accepted) : w'.Sound where
  kept := htable ▸ h.kept
  replaced := by
    unfold NoLostUpdate
    rw [haccepted]
    exact h.replaced

theorem Advances.of_eq {table table' : Table} (h : table' = table) : Advances table table' :=
  h ▸ .refl table

/-- What a client knows is steady when no successor of a state document breaks it. -/
theorem revisions_steady {P : Watched ι → Prop} (hsound : ∀ w, P w → w.Sound)
    (hP : ∀ w w', P w → w'.Sound → Advances w.db.table w'.db.table → w'.base i = w.base i →
      P w') : (revisions backend i).Steady P where
  stable {w w'} h hrely :=
    hP w w' h (hrely.1 (hsound w h)).1 (hrely.1 (hsound w h)).2 hrely.2
  quiet {β} o w ho h := by
    have htable : (Database.handle backend β o w.db).2.table = w.db.table :=
      Database.handle_table backend w.db ho.not_writes
    have hnext : ((revisions backend i).handler β o w).2 =
        { w with db := (Database.handle backend β o w.db).2 } := handle_quiet ho w
    rw [hnext]
    have hsound' (h : w.Sound) :
        ({ w with db := (Database.handle backend β o w.db).2 } : Watched ι).Sound :=
      h.congr htable rfl
    exact ⟨⟨fun h => ⟨hsound' h, .of_eq htable⟩, fun _ _ => rfl⟩,
      hP w _ h (hsound' (hsound w h)) (.of_eq htable) rfl⟩

theorem sound_steady : (revisions backend i).Steady Sound :=
  revisions_steady (fun _ h => h) fun _ _ _ h _ _ => h

/-- An object keeps the count of its base. -/
theorem based_steady : (revisions backend i).Steady fun w => w.Sound ∧ Based i s w :=
  revisions_steady (fun _ h => h.1) fun _ _ h hsound hadvances hbase =>
    ⟨hsound, h.2.advance hadvances hbase⟩

/-- Reading a state document. -/
theorem handle_readState (traceId : String) (w : Watched ι) :
    (∃ x, Watched.handle backend i _ (.getItem ⟨.trace traceId, .metaSk⟩) w =
      (.error x, { w with db := w.db.serve })) ∨
    Watched.handle backend i _ (.getItem ⟨.trace traceId, .metaSk⟩) w =
      (.ok (w.db.table.get? ⟨.trace traceId, .metaSk⟩),
        { w.rebase i (w.db.table.get? ⟨.trace traceId, .metaSk⟩) with db := w.db.serve }) := by
  have hhandle : Database.handle backend _ (.getItem ⟨.trace traceId, .metaSk⟩) w.db =
      w.db.answer backend (w.db.table.get? ⟨.trace traceId, .metaSk⟩) := rfl
  unfold Watched.handle
  rcases w.db.answer_cases backend (w.db.table.get? ⟨.trace traceId, .metaSk⟩) with ⟨x, hx⟩ | hok
  · rw [hhandle, hx]
    exact .inl ⟨x, rfl⟩
  · rw [hhandle, hok]
    exact .inr rfl

/-! ### Transactions -/

/-- The notes of an accepted transaction with one state document. -/
def committed (w : Watched ι) (i : ι) (action : WriteAction) (actions : List WriteAction) :
    Watched ι :=
  { w.stateWritten i (w.db.table.apply actions) action with
    db := { w.db.serve with table := w.db.table.apply actions } }

theorem base_committed_of_ne {j : ι} (hj : j ≠ i) (w : Watched ι) (action : WriteAction)
    (actions : List WriteAction) : (w.committed i action actions).base j = w.base j :=
  Function.update_of_ne hj ..

/-- A transaction fails without a note, or it is accepted and noted. -/
theorem handle_transact {traceId : String} {action : WriteAction} {actions : List WriteAction}
    (h : WritesState traceId action actions) (w : Watched ι) :
    (∃ x, Watched.handle backend i _ (.transactWriteItems actions) w =
      (.error x, { w with db := w.db.serve })) ∨
    (w.db.table.accepts actions = true ∧
      Watched.handle backend i _ (.transactWriteItems actions) w =
        (.ok (), w.committed i action actions)) := by
  have hhandle : Database.handle backend _ (.transactWriteItems actions) w.db =
      w.db.transact backend actions := rfl
  unfold Watched.handle
  rcases w.db.transact_cases backend actions with ⟨x, hx⟩ | ⟨haccepts, hok⟩
  · rw [hhandle, hx]
    exact .inl ⟨x, rfl⟩
  · rw [hhandle, hok]
    refine .inr ⟨haccepts, ?_⟩
    simp only [note, h.stateWrites_eq, List.foldl_cons, List.foldl_nil]
    rfl

/-- A write of a successor to what the object is based on. -/
theorem Sound.commit {traceId : String} {action : WriteAction} {actions : List WriteAction}
    {item : Item} (hsound : w.Sound) (h : WritesState traceId action actions)
    (hbase : w.base i = w.db.table.get? ⟨.trace traceId, .metaSk⟩)
    (hitem : action.written (w.db.table.get? ⟨.trace traceId, .metaSk⟩) = some item)
    (hstate : ∃ state, item.document = some (.state state) ∧ state.traceId = traceId)
    (hrevision : ∃ revision : Nat, item.revision = some (revision : Int))
    (hhead : ((w.db.table.apply actions).get? ⟨.trace traceId, .headSk⟩).isSome = true)
    (hsucceeds : ∀ previous, w.db.table.get? ⟨.trace traceId, .metaSk⟩ = some previous →
      Succeeds previous item) :
    (w.committed i action actions).Sound ∧
      Advances w.db.table (w.committed i action actions).db.table := by
  have hself := (h.get?_self w.db.table).trans hitem
  refine ⟨⟨?_, ?_⟩, ?_⟩
  · intro other found hfound
    by_cases hother : other = traceId
    · subst hother
      obtain rfl : item = found := Option.some.inj (hself.symm.trans hfound)
      exact ⟨hstate, hrevision, hhead⟩
    · have hkept := (h.get?_other w.db.table hother).symm.trans hfound
      obtain ⟨hstate', hrevision', hhead'⟩ := hsound.kept other found hkept
      exact ⟨hstate', hrevision', Table.isSome_apply hhead' actions⟩
  · intro write hwrite
    rcases List.mem_append.mp hwrite with hold | hnew
    · exact hsound.replaced write hold
    · rw [List.mem_singleton.mp hnew, h.key_eq]
      exact hbase
  · intro other previous hprevious
    by_cases hother : other = traceId
    · subst hother
      exact ⟨item, hself, hsucceeds previous hprevious⟩
    · exact ⟨previous, (h.get?_other w.db.table hother).trans hprevious, .inl rfl⟩

/-- What a client has to know after any of its calls. -/
abbrev Holds (i : ι) {α : Type} (_ : Except PyError α) (s : TrajectoryState) (w : Watched ι) :
    Prop :=
  w.Sound ∧ Based i s w

/-- A replacement is accepted only on the document the object is based on. -/
theorem revisions_commits {α : Type} {state : TrajectoryState} {failure : PyError}
    {actions : List WriteAction} {r : α} (h : Replaces state s.storageRevision actions)
    (htrace : state.traceId = s.traceId) (hnext : state.storageRevision = s.storageRevision + 1) :
    (revisions backend i).Commits (fun w => w.Sound ∧ Based i s w) s state failure actions r
      (Holds i) := by
  intro w hw _
  obtain ⟨hsound, hbased⟩ := hw
  have hstable {s : TrajectoryState} {w w' : Watched ι} (h : w.Sound ∧ Based i s w)
      (hrely : (revisions backend i).rely w w') : w'.Sound ∧ Based i s w' :=
    based_steady.stable h hrely
  have hcases : (∃ x, (revisions backend i).handler _ (.transactWriteItems actions) w =
      (.error x, { w with db := w.db.serve })) ∨
      (w.db.table.accepts actions = true ∧
        (revisions backend i).handler _ (.transactWriteItems actions) w =
          (.ok (), w.committed i _ actions)) := handle_transact h.writesState w
  rcases hcases with ⟨x, hx⟩ | ⟨haccepts, hok⟩
  · rw [hx]
    have hsound' : ({ w with db := w.db.serve } : Watched ι).Sound := hsound.congr rfl rfl
    refine ⟨⟨fun _ => ⟨hsound', .refl _⟩, fun _ _ => rfl⟩, fun h => (by cases h), fun _ _ w' hrely => ?_⟩
    exact hstable ⟨hsound', hbased⟩ hrely
  · -- The condition identifies the current document with the base of the object.
    obtain ⟨item, current, hbase, hrevision, hcurrent, hsucceeds⟩ := hbased
    have hcondition := Table.holds_of_accepts haccepts h.writesState.mem
    simp only [WriteAction.holds, WriteAction.key, htrace, hcurrent, Option.bind_some,
      Item.counter, decide_eq_true_eq] at hcondition
    obtain rfl : current = item := hsucceeds.eq_of_revision hrevision hcondition
    rw [← htrace] at hcurrent
    have hwritten : (WriteAction.update ⟨.trace state.traceId, .metaSk⟩ .revision
        s.storageRevision state.storageRevision (Document.state state).stored).written
          (w.db.table.get? ⟨.trace state.traceId, .metaSk⟩) =
        some (current.update .revision state.storageRevision (Document.state state).stored) := by
      rw [hcurrent]
      rfl
    have hhead := Table.isSome_apply (hsound.kept _ _ hcurrent).2.2 actions
    obtain ⟨hsound', hadvances⟩ := hsound.commit (i := i) h.writesState (hbase.trans hcurrent.symm)
      hwritten ⟨_, rfl, rfl⟩ ⟨state.storageRevision, rfl⟩ hhead fun previous hprevious => by
        obtain rfl : current = previous := Option.some.inj (hcurrent.symm.trans hprevious)
        exact .inr ⟨s.storageRevision, state.storageRevision, hrevision, rfl, by omega⟩
    have hself := (h.writesState.get?_self w.db.table).trans hwritten
    rw [hok]
    refine ⟨⟨fun _ => ⟨hsound', hadvances⟩, fun j hj => ?_⟩, fun _ w' hrely => ?_, fun _ h => by cases h⟩
    · exact Function.update_of_ne hj _ _
    · refine hstable ⟨hsound', _, _, ?_, ?_, hself, .inl rfl⟩ hrely
      · exact (Function.update_self i _ w.base).trans hself
      · rfl

/-! ### Calls -/

/-- A write that cannot be assembled is not scheduled. -/
theorem revisions_spoils {α : Type} {P : Watched ι → Prop}
    {Q : Except PyError α → TrajectoryState → Watched ι → Prop} :
    (revisions backend i).Spoils P s Q := by
  rintro x w ⟨assembled, hassembled⟩
  cases hassembled

theorem revisions_appendEvent [Sha256] (spec : EventSpec) (h : w.Sound ∧ Based i s w) :
    (revisions backend i).Guards (appendEvent spec) s w (Holds i) := by
  have hsteady : (revisions backend i).Steady fun w => w.Sound ∧ Based i s w := based_steady
  refine hsteady.guards_appendEvent (K := fun _ w => w.Sound ∧ Based i s w)
    (V := fun _ w => w.Sound ∧ Based i s w) (fun _ => hsteady)
    (fun _ _ _ hV hrely => hsteady.stable hV hrely) (fun n _ _ w' hw _ _ => ?_)
    (fun _ _ w' hw _ _ => ?_) ?_ (fun _ _ hV => hV) (fun _ _ hP => hP) (fun _ _ _ hK => hK)
    (fun _ _ => revisions_spoils) (fun head now uuid actions replay _ hactions hreplay => ?_) h
  · exact (hsteady.quiet (.getItem ⟨.trace s.traceId, .event n⟩) (SortKey.event_ne_meta n) hw).2
  · exact (hsteady.quiet (.getItem ⟨.trace s.traceId, .headSk⟩) SortKey.head_ne_meta hw).2
  · -- A trace with a state document has a head.
    intro w' hw hnone
    obtain ⟨item, current, -, -, hcurrent, -⟩ := hw.2
    have hhead := (hw.1.kept _ _ hcurrent).2.2
    rw [show w'.db.table.get? ⟨.trace s.traceId, .headSk⟩ = none from hnone] at hhead
    cases hhead
  · generalize nextEvent s.traceId head spec now uuid = event at hactions ⊢
    exact revisions_commits (replaces_append hactions hreplay) rfl rfl

theorem revisions_appendDecision (decision : Decision) (h : w.Sound ∧ Based i s w) :
    (revisions backend i).Guards (appendDecision decision) s w (Holds i) :=
  based_steady.guards_appendDecision revisions_spoils
    (fun _ hactions => revisions_commits (replaces_decision hactions) rfl rfl) h

theorem revisions_addApproval (name : String) (approval : ApprovalRecord)
    (h : w.Sound ∧ Based i s w) :
    (revisions backend i).Guards (addApproval name approval) s w (Holds i) :=
  based_steady.guards_addApproval revisions_spoils
    (fun _ hactions => revisions_commits (replaces_approval hactions) rfl rfl) h

/-- One call, its exceptions handled. -/
theorem revisions_call [Sha256] (name : String) (call : ClientCall)
    (h : w.Sound ∧ Based i s w) :
    (revisions backend i).Guards (Proc.tryCatch (call.perform name) fun x => pure (.raised x)) s w
      (Holds i) := by
  have hdone {s : TrajectoryState} {w : Watched ι} {outcome : Outcome}
      (h : w.Sound ∧ Based i s w) :
      (revisions backend i).Guards (pure outcome : Dynamo Outcome) s w (Holds i) :=
    fun w' hrely => based_steady.stable h hrely
  have hlate {α : Type} {r : Except PyError α} {s : TrajectoryState} {w : Watched ι}
      (h : Holds i r s w) (w' : Watched ι) (hrely : (revisions backend i).rely w w') :
      w'.Sound ∧ Based i s w' :=
    based_steady.stable h hrely
  refine Proc.Guarantees.tryCatch (P := Holds i) (revisions backend i).rely_refl ?_
    (fun _ _ _ hP => hlate hP) (fun _ _ _ hP => hdone hP)
  cases call with
  | appendEvent spec =>
      exact Proc.Guarantees.bind (revisions backend i).rely_refl (revisions_appendEvent spec h)
        (fun _ _ _ hP => hdone hP) fun _ _ _ hP => hlate hP
  | appendDecision decision =>
      exact Proc.Guarantees.bind (revisions backend i).rely_refl
        (revisions_appendDecision decision h) (fun _ _ _ hP => hdone hP) fun _ _ _ hP => hlate hP
  | addApproval approval =>
      exact Proc.Guarantees.bind (revisions backend i).rely_refl
        (revisions_addApproval name approval h) (fun _ _ _ hP => hdone hP) fun _ _ _ hP => hlate hP
  | change f => exact hdone (s := applyChange f s) h

/-- The calls of a client. -/
theorem revisions_session [Sha256] (name : String) (calls : List ClientCall)
    (h : w.Sound ∧ Based i s w) :
    (revisions backend i).Guards (session name calls) s w (Holds i) := by
  induction calls generalizing s w with
  | nil => exact fun w' hrely => based_steady.stable h hrely
  | cons call rest ih =>
      refine Proc.Guarantees.bind (revisions backend i).rely_refl (revisions_call name call h)
        (fun outcome s₁ w₁ hP => ?_) fun _ _ _ hP w' hrely => based_steady.stable hP hrely
      refine Proc.Guarantees.bind (revisions backend i).rely_refl (ih hP)
        (fun outcomes s₂ w₂ hP₂ => ?_) fun _ _ _ hP w' hrely => based_steady.stable hP hrely
      exact fun w' hrely => based_steady.stable hP₂ hrely

/-- The transaction of a new run. -/
theorem writesState_create {state : TrajectoryState} {head : LedgerHead} {name : String}
    {actions : List WriteAction} (h : createActions state head name = .ok actions) :
    WritesState state.traceId
      (.put ⟨.trace state.traceId, .metaSk⟩
        (traceItem state.traceId .metaSk "trace" (.state state) (some 0))) actions ∧
    ∃ item, .put ⟨.trace state.traceId, .headSk⟩ item ∈ actions := by
  obtain ⟨valid, rfl⟩ := createActions_ok h
  refine ⟨⟨?_, ?_, rfl⟩, _, List.mem_cons_of_mem _ List.mem_cons_self⟩
  · simp [WriteAction.key]
  · simp [stateWrites, WriteAction.key]

/-- A new run is based on what it stored. -/
theorem revisions_createRun (name : String) (h : w.Sound ∧ w.base i = none) :
    (revisions backend i).Guards (createRun name) s w fun r s' w' =>
      w'.Sound ∧ (r = .ok () → Based i s' w') := by
  have hsteady : (revisions backend i).Steady fun w => w.Sound ∧ w.base i = none :=
    revisions_steady (fun _ h => h.1) fun _ _ h hsound _ hbase => ⟨hsound, hbase.trans h.2⟩
  refine hsteady.guards_createRun (fun _ _ _ hP => ⟨hP.1, fun h => by cases h⟩)
    (fun now actions hactions w hw _ => ?_) h
  obtain ⟨hwrites, headItem, hheadMem⟩ := writesState_create hactions
  generalize hstate : s.setRevision 0 = state at hwrites hheadMem hactions ⊢
  have hrevision : state.storageRevision = 0 := by
    rw [← hstate]
    rfl
  have hcases : (∃ x, (revisions backend i).handler _ (.transactWriteItems actions) w =
      (.error x, { w with db := w.db.serve })) ∨
      (w.db.table.accepts actions = true ∧
        (revisions backend i).handler _ (.transactWriteItems actions) w =
          (.ok (), w.committed i _ actions)) := handle_transact hwrites w
  rcases hcases with ⟨x, hx⟩ | ⟨haccepts, hok⟩
  · rw [hx]
    have hsound' : ({ w with db := w.db.serve } : Watched ι).Sound := hw.1.congr rfl rfl
    refine ⟨⟨fun _ => ⟨hsound', .refl _⟩, fun _ _ => rfl⟩, fun h => (by cases h), fun _ _ w' hrely => ?_⟩
    exact ⟨(hrely.1 hsound').1, fun h => by cases h⟩
  · -- The condition says that there is no document yet.
    have hfree : w.db.table.get? ⟨.trace state.traceId, .metaSk⟩ = none := by
      have hcondition := Table.holds_of_accepts haccepts hwrites.mem
      simpa [WriteAction.holds, WriteAction.key] using hcondition
    have hhead : ((w.db.table.apply actions).get? ⟨.trace state.traceId, .headSk⟩).isSome =
        true := by
      have hput := Table.get?_apply hwrites.nodup hheadMem w.db.table
      rw [show (WriteAction.put ⟨.trace state.traceId, .headSk⟩ headItem).key =
        ⟨.trace state.traceId, .headSk⟩ from rfl] at hput
      rw [hput]
      rfl
    obtain ⟨hsound', hadvances⟩ := hw.1.commit (i := i) hwrites (hw.2.trans hfree.symm) rfl
      ⟨_, rfl, rfl⟩ ⟨0, rfl⟩ hhead fun previous hprevious => by
        rw [hfree] at hprevious
        cases hprevious
    have hself := hwrites.get?_self w.db.table
    rw [hok]
    refine ⟨⟨fun _ => ⟨hsound', hadvances⟩, fun j hj => ?_⟩, fun _ w' hrely => ?_, fun _ h => by cases h⟩
    · exact Function.update_of_ne hj _ _
    · have hlate := hrely.1 hsound'
      refine ⟨hlate.1, fun _ => Based.advance ?_ hlate.2 hrely.2⟩
      refine ⟨_, _, (Function.update_self i _ w.base).trans hself, ?_, hself, .inl rfl⟩
      rw [hrevision]
      rfl

omit [DecidableEq ι] in
/-- What a load leaves the client with. -/
theorem based_of_loaded {item : Item} {state : TrajectoryState} (hsound : w.Sound)
    (hbase : w.base i = some item) {traceId : String}
    (hcurrent : ∃ current, w.db.table.get? ⟨.trace traceId, .metaSk⟩ = some current ∧
      Succeeds item current)
    (hitem : (∃ stored, item.document = some (.state stored) ∧ stored.traceId = traceId) ∧
      ∃ revision : Nat, item.revision = some (revision : Int))
    (hloaded : LoadedFrom item state) : w.Sound ∧ Based i state w := by
  obtain ⟨stored, hstored, htrace, hrevision⟩ := hloaded
  obtain ⟨⟨stored', hdocument, htrace'⟩, revision, hcount⟩ := hitem
  obtain ⟨current, hcurrent, hsucceeds⟩ := hcurrent
  rw [Item.decode, hdocument] at hstored
  obtain rfl : stored' = stored := Except.ok.inj hstored
  rw [revisionOf, hcount] at hrevision
  have hcounts : revision = state.storageRevision := Except.ok.inj hrevision
  refine ⟨hsound, item, current, hbase, hcounts ▸ hcount, ?_, hsucceeds⟩
  rw [htrace, htrace']
  exact hcurrent

/-- A client that starts or loads a run. -/
theorem revisions_client [Sha256] (name : String) (fuel : Nat) (calls : List ClientCall)
    (origin : Origin) (horigin : ∀ state, origin ≠ .held state) (h : w.Sound ∧ w.base i = none) :
    (revisions backend i).Guards (client name fuel calls origin) s w fun _ _ w' => w'.Sound := by
  have hsession {s : TrajectoryState} {w : Watched ι} (h : w.Sound ∧ Based i s w) :
      (revisions backend i).Guards (session name calls) s w fun _ _ w' => w'.Sound :=
    (revisions_session name calls h).mono fun _ _ _ hP => hP.1
  cases origin with
  | created state =>
      simp only [client, Proc.guarantees_mutate_bind]
      refine Proc.Guarantees.bind (revisions backend i).rely_refl (revisions_createRun name h) ?_ ?_
      · exact fun _ s w hP => hsession ⟨hP.1, hP.2 rfl⟩
      · exact fun _ s w hP w' hrely => (hrely.1 hP.1).1
  | loaded traceId =>
      -- Once the document was read, the object is going to be based on it.
      have hfound (item : Item) : (revisions backend i).Steady fun w => w.Sound ∧
          w.base i = some item ∧ (∃ current, w.db.table.get? ⟨.trace traceId, .metaSk⟩ =
            some current ∧ Succeeds item current) ∧
          (∃ stored, item.document = some (.state stored) ∧ stored.traceId = traceId) ∧
          ∃ revision : Nat, item.revision = some (revision : Int) :=
        revisions_steady (fun _ h => h.1) fun w w' h hsound hadvances hbase => by
          obtain ⟨-, hitem, ⟨current, hcurrent, hsucceeds⟩, hdocument⟩ := h
          obtain ⟨later, hlater, hsucceeds'⟩ := hadvances _ _ hcurrent
          exact ⟨hsound, hbase.trans hitem, ⟨later, hlater, hsucceeds.trans hsucceeds'⟩, hdocument⟩
      simp only [client]
      refine sound_steady.guards_loadTrace (Q := fun _ _ w => w.Sound) hfound
        (fun w hsound => ?_) h.1 (fun item state s w hloaded hw => ?_)
        (fun x w hP => hP) (fun item x s w hL => hL.1)
      · have hcases : (∃ x, (revisions backend i).handler _
            (.getItem ⟨.trace traceId, .metaSk⟩) w = (.error x, { w with db := w.db.serve })) ∨
            (revisions backend i).handler _ (.getItem ⟨.trace traceId, .metaSk⟩) w =
              (.ok (w.db.table.get? ⟨.trace traceId, .metaSk⟩),
                { w.rebase i (w.db.table.get? ⟨.trace traceId, .metaSk⟩) with
                  db := w.db.serve }) := handle_readState traceId w
        rcases hcases with ⟨x, hx⟩ | hok
        · rw [hx]
          have hsound' : ({ w with db := w.db.serve } : Watched ι).Sound := hsound.congr rfl rfl
          exact ⟨⟨fun _ => ⟨hsound', .refl _⟩, fun _ _ => rfl⟩, hsound', fun _ h => by cases h⟩
        · rw [hok]
          generalize hnext : ({ w.rebase i (w.db.table.get? ⟨.trace traceId, .metaSk⟩) with
            db := w.db.serve } : Watched ι) = next
          have hsound' : next.Sound := hsound.congr (hnext ▸ rfl) (hnext ▸ rfl)
          have htable : next.db.table = w.db.table := hnext ▸ rfl
          refine ⟨⟨fun _ => ⟨hsound', .of_eq htable⟩, fun j hj => ?_⟩, hsound', fun item hitem => ?_⟩
          · rw [← hnext]
            exact Function.update_of_ne hj _ _
          · have hget := Except.ok.inj hitem
            obtain ⟨hdocument, hrevision, -⟩ := hsound.kept _ _ hget
            refine ⟨hsound', ?_, ⟨item, htable ▸ hget, .inl rfl⟩, hdocument, hrevision⟩
            rw [← hnext]
            exact (Function.update_self i _ w.base).trans hget
      · simp only [Proc.guarantees_mutate_bind]
        obtain ⟨hsound, hbase, hcurrent, hdocument⟩ := hw
        exact hsession (based_of_loaded hsound hbase hcurrent hdocument hloaded)
  | held state => exact absurd rfl (horigin state)

end Watched

/-! ## Any interleaving -/

namespace DynamoDBTraceStore

variable {ι : Type}

/-- Clients on one empty table that is watched. -/
def startWatched [Sha256] (name : String) (fuel : ι → Nat) (calls : ι → List ClientCall)
    (origins : ι → Origin) :
    Pool DynamoOp (Watched ι) ι (Except PyError (List Outcome) × TrajectoryState) where
  threads i := client name (fuel i) (calls i) (origins i) { traceId := "", orderId := "" }
  env := {}

/-- Any number of clients start or load runs and make any calls on their objects, in any
interleaving of their requests in which no write fails while it is assembled.  Then every
accepted write of a state document replaced exactly what its object was based on. -/
theorem no_lost_update [DecidableEq ι] [Sha256] (backend : Backend) (name : String)
    (fuel : ι → Nat) (calls : ι → List ClientCall) (origins : ι → Origin) (turns : List ι)
    (horigins : ∀ i state, origins i ≠ .held state)
    (hassembles : (startWatched name fuel calls origins).Permitted (Watched.handle backend)
      (fun _ => Watched.Assembles) turns) :
    ((startWatched name fuel calls origins).play (Watched.handle backend) turns).env.NoLostUpdate := by
  have hempty : (startWatched name fuel calls origins).env.Sound := by
    refine ⟨?_, ?_⟩
    · intro traceId item hitem
      cases hitem
    · intro write hwrite
      cases hwrite
  have hclients (i : ι) : (Watched.revisions backend i).Guards
      (client name (fuel i) (calls i) (origins i)) { traceId := "", orderId := "" }
      (startWatched name fuel calls origins).env fun _ _ w => w.Sound :=
    Watched.revisions_client name (fuel i) (calls i) (origins i) (horigins i) ⟨hempty, rfl⟩
  have hrun := Pool.play_guarantees
    (R := fun i (w w' : Watched ι) => w.Progress w' ∧ w'.base i = w.base i)
    (G := fun i (w w' : Watched ι) => w.Progress w' ∧ ∀ j, j ≠ i → w'.base j = w.base j)
    (T := Watched.Progress) turns
    (fun _ => fun h h' => ⟨h.1.trans h'.1, h'.2.trans h.2⟩) (fun _ w => ⟨.refl w, rfl⟩)
    (fun i j w w' hij h => ⟨h.1, h.2 j (Ne.symm hij)⟩) Watched.Progress.refl
    (fun h h' => h.trans h') (fun _ _ _ h => h.1) hassembles hclients
  exact (hrun.1 hempty).1.replaced

end DynamoDBTraceStore

end Manifest
