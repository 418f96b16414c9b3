import Manifest.Storage.Chain
import Manifest.Storage.Clients

/-!
# Integrity of the distributed chain

Any number of clients work on one table, each request of one interleaved with the requests
of the others.  Their objects may be stale or made up: what keeps the chains whole is the
conditions of the transactions, not what the clients believe.

Main results:

- Theorem `Discipline.Chained.guards_client`: a client keeps every chain and only appends to
  it, whatever the others do that does the same.
- Theorem `DynamoDBTraceStore.chain_integrity`: after any interleaving every trace is
  stored as one verified chain, and every event an append returned is in it once.
-/

set_option autoImplicit false

namespace Manifest

open Interaction

variable [Sha256]

/-! ## The discipline -/

/-- What every client relies on and guarantees: chains stay whole and only grow. -/
def KeepsChains (db db' : Database) : Prop :=
  WellKept db.table → WellKept db'.table ∧ Extends db.table db'.table

theorem KeepsChains.refl (db : Database) : KeepsChains db db :=
  fun h => ⟨h, .refl _⟩

theorem KeepsChains.trans {db db' db'' : Database} (h : KeepsChains db db')
    (h' : KeepsChains db' db'') : KeepsChains db db'' := fun hkept =>
  ⟨(h' (h hkept).1).1, (h hkept).2.trans (h' (h hkept).1).2⟩

theorem KeepsChains.of_table_eq {db db' : Database} (h : db'.table = db.table) :
    KeepsChains db db' := fun hkept => by
  rw [h]
  exact ⟨hkept, .refl _⟩

/-- A discipline under which the others keep chains, and reads and the transactions of the
repository are permitted. -/
structure Discipline.Chained {E : Type} (d : Discipline E) : Prop where
  rely : ∀ {e e'}, d.rely e e' → KeepsChains (d.db e) (d.db e')
  guarantee : ∀ {e e'}, d.guarantee e e' → KeepsChains (d.db e) (d.db e')
  reads : ∀ {β : Type} (o : DynamoOp β) (e : E), o.writes = false →
    d.guarantee e (d.handler β o e).2
  transacts : ∀ (actions : List WriteAction) (e : E),
    d.scheduled _ (.transactWriteItems actions) e →
    (WellKept (d.db e).table → Transaction (d.db e).table actions) →
    d.guarantee e (d.handler _ (.transactWriteItems actions) e).2

section Steady

variable {E : Type} {d : Discipline E}

omit [Sha256] in
theorem Discipline.handler_db {β : Type} (o : DynamoOp β) (e : E) :
    d.db (d.handler β o e).2 = (Database.handle d.backend β o (d.db e)).2 :=
  congrArg Prod.snd (d.serves β o e)

omit [Sha256] in
theorem Discipline.handler_table {β : Type} {o : DynamoOp β} (ho : o.writes = false) (e : E) :
    (d.db (d.handler β o e).2).table = (d.db e).table := by
  rw [d.handler_db]
  exact Database.handle_table d.backend (d.db e) ho

/-- What survives the others' appends is steady. -/
theorem Discipline.Chained.steady (hd : d.Chained) {P : Table → Prop}
    (hP : ∀ table table', WellKept table → P table → Extends table table' → P table') :
    d.Steady fun e => WellKept (d.db e).table ∧ P (d.db e).table where
  stable h hrely := ⟨(hd.rely hrely h.1).1, hP _ _ h.1 h.2 (hd.rely hrely h.1).2⟩
  quiet o e ho h := by
    refine ⟨hd.reads o e ho.not_writes, ?_⟩
    rw [d.handler_table ho.not_writes]
    exact h

end Steady

/-- The event is part of the stored chain of its trace. -/
def StoredEvent (event : TraceEvent) (table : Table) : Prop :=
  ∃ events head, StoredChain table event.traceId events head ∧ event ∈ events

/-- The head was the head of a part of the stored chain. -/
def KnownHead (traceId : String) (head : LedgerHead) (table : Table) : Prop :=
  ∃ known more head', ChainHolds traceId known head ∧
    StoredChain table traceId (known ++ more) head'

theorem StoredEvent.extend {event : TraceEvent} {table table' : Table}
    (h : StoredEvent event table) (hext : Extends table table') : StoredEvent event table' := by
  obtain ⟨events, head, hstored, hmem⟩ := h
  obtain ⟨more, head', hstored'⟩ := hext _ _ _ hstored
  exact ⟨_, head', hstored', List.mem_append_left _ hmem⟩

theorem KnownHead.extend {traceId : String} {head : LedgerHead} {table table' : Table}
    (h : KnownHead traceId head table) (hext : Extends table table') :
    KnownHead traceId head table' := by
  obtain ⟨known, more, head', hholds, hstored⟩ := h
  obtain ⟨more', head'', hstored'⟩ := hext _ _ _ hstored
  exact ⟨known, more ++ more', head'', hholds, by simpa using hstored'⟩

/-! ## Every write keeps the discipline -/

section Writes

open DynamoDBTraceStore

variable {E : Type} {d : Discipline E} {α : Type} {s : TrajectoryState} {e : E}

/-- Chains are kept, and a returned value satisfies `S`. -/
def Discipline.Leaves (d : Discipline E) (S : α → Table → Prop) (r : Except PyError α)
    (_ : TrajectoryState) (e : E) : Prop :=
  WellKept (d.db e).table ∧ ∀ a, r = .ok a → S a (d.db e).table

theorem leaves_error (S : α → Table → Prop) (x : PyError) (s : TrajectoryState)
    (h : WellKept (d.db e).table) : d.Leaves S (.error x) s e :=
  ⟨h, fun _ hx => nomatch hx⟩

/-- Every event an append returned is stored. -/
def StoredOutcomes (outcomes : List Outcome) (table : Table) : Prop :=
  ∀ event, .appended event ∈ outcomes → StoredEvent event table

namespace Discipline.Chained

/-- A transaction of the repository. -/
theorem commits (hd : d.Chained) {P : Table → Prop} {S : α → Table → Prop}
    {s' : TrajectoryState} {failure : PyError} {actions : List WriteAction} {r : α}
    (hS : ∀ table table', S r table → Extends table table' → S r table')
    (happly : ∀ table, WellKept table → P table →
      Transaction table actions ∧ (table.accepts actions = true → S r (table.apply actions))) :
    d.Commits (fun e => WellKept (d.db e).table ∧ P (d.db e).table) s s' failure actions r
      (d.Leaves S) := by
  intro e he hscheduled
  have hserves := d.serves _ (.transactWriteItems actions) e
  obtain ⟨htransaction, hresult⟩ := happly (d.db e).table he.1 he.2
  refine ⟨hd.transacts actions e hscheduled fun _ => htransaction, ?_⟩
  rcases (d.db e).transact_cases d.backend actions with ⟨x, hx⟩ | ⟨haccepts, hok⟩
  · rw [Database.handle, hx, Prod.mk.injEq] at hserves
    obtain ⟨hreply, hdb⟩ := hserves
    refine ⟨fun h => ?_, fun _ _ e' hrely => ?_⟩
    · rw [hreply] at h
      cases h
    · refine leaves_error S failure s (hd.rely hrely ?_).1
      rw [hdb]
      exact he.1
  · rw [Database.handle, hok, Prod.mk.injEq] at hserves
    obtain ⟨hreply, hdb⟩ := hserves
    have hkept := htransaction.keeps he.1 haccepts
    refine ⟨fun _ e' hrely => ?_, fun x h => ?_⟩
    · obtain ⟨hkept', hext⟩ := hd.rely hrely (by rw [hdb]; exact hkept.1)
      rw [hdb] at hext
      refine ⟨hkept', fun a ha => ?_⟩
      rw [← Except.ok.inj ha]
      exact hS _ _ (hresult haccepts) hext
    · rw [hreply] at h
      cases h

/-- A transaction that nothing is to be known of afterwards. -/
theorem commits_unit (hd : d.Chained) {s' : TrajectoryState} {failure : PyError}
    {actions : List WriteAction} (ht : ∀ table, Transaction table actions) :
    d.Commits (fun e => WellKept (d.db e).table ∧ True) s s' failure actions ()
      (d.Leaves fun _ _ => True) :=
  hd.commits (P := fun _ => True) (fun _ _ _ _ => trivial) fun table _ _ =>
    ⟨ht table, fun _ => trivial⟩

theorem wellKept (hd : d.Chained) : d.Steady fun e => WellKept (d.db e).table ∧ True :=
  hd.steady fun _ _ _ _ _ => trivial

theorem guards_appendEvent (hd : d.Chained) (spec : EventSpec) (h : WellKept (d.db e).table) :
    d.Guards (appendEvent spec) s e (d.Leaves StoredEvent) := by
  refine hd.wellKept.guards_appendEvent
    (K := fun head e => WellKept (d.db e).table ∧ KnownHead s.traceId head (d.db e).table)
    (V := fun event e => WellKept (d.db e).table ∧ StoredEvent event (d.db e).table)
    (fun head => hd.steady fun _ _ _ hknown hext => hknown.extend hext)
    (fun event e e' hV hrely => ⟨(hd.rely hrely hV.1).1, hV.2.extend (hd.rely hrely hV.1).2⟩)
    ?_ ?_ ?_ (fun event e hV => ⟨hV.1, fun a ha => Except.ok.inj ha ▸ hV.2⟩)
    (fun x _ hP => leaves_error _ x s hP.1) (fun _ x _ hK => leaves_error _ x s hK.1)
    (fun _ _ x _ _ _ _ hK => leaves_error _ x _ hK.1) ?_ ⟨h, trivial⟩
  · -- An event that was read is part of the chain.
    intro n item event e hP hget hevent
    rw [d.handler_table (o := .getItem ⟨.trace s.traceId, .event n⟩) rfl]
    refine ⟨hP.1, ?_⟩
    rcases hP.1 s.traceId with hno | ⟨events, head, hstored⟩
    · rw [hno.event_get n] at hget
      cases hget
    · obtain ⟨m, -, hm⟩ := hstored.event_of_item hget hevent
      rw [StoredEvent, hstored.traceId_eq hm]
      exact ⟨events, head, hstored, List.mem_of_getElem? hm⟩
  · -- A head that was read is the head of the chain.
    intro item head e hP hget hhead
    rw [d.handler_table (o := .getItem ⟨.trace s.traceId, .headSk⟩) rfl]
    rcases hP.1 s.traceId with hno | ⟨events, head', hstored⟩
    · rw [hno.head_get] at hget
      cases hget
    · obtain rfl := hstored.head_of_item hget hhead
      exact ⟨hP.1, events, [], head, hstored.holds, by simpa using hstored⟩
  · intro e hP _ e' hP'
    rw [d.handler_table (o := .getItem ⟨.trace s.traceId, .metaSk⟩) rfl]
    exact ⟨hd.reads _ e' rfl, hP'.1, trivial⟩
  · intro head now uuid actions replay _ hactions hreplay
    generalize hevent : nextEvent s.traceId head spec now uuid = event at hactions ⊢
    refine hd.commits (P := KnownHead s.traceId head) (S := StoredEvent)
      (fun _ _ hstored hext => hstored.extend hext) ?_
    intro table hkept hknown
    obtain ⟨known, more, head', hholds, hstored⟩ := hknown
    refine ⟨.append hactions hevent.symm hholds ⟨more, head', hstored⟩ hreplay, fun haccepts => ?_⟩
    obtain ⟨⟨head'', hnew⟩, -⟩ :=
      hkept.apply_append hactions hevent.symm hholds ⟨more, head', hstored⟩ hreplay haccepts
    have htrace : event.traceId = s.traceId :=
      hnew.traceId_eq (List.getElem?_concat_length)
    refine ⟨known ++ [event], head'', ?_, by simp⟩
    rw [htrace]
    exact hnew

theorem guards_appendDecision (hd : d.Chained) (decision : Decision)
    (h : WellKept (d.db e).table) :
    d.Guards (appendDecision decision) s e (d.Leaves fun _ _ => True) :=
  hd.wellKept.guards_appendDecision (fun x _ _ _ _ hP => leaves_error _ x _ hP.1)
    (fun _ hactions => hd.commits_unit fun _ => .decision hactions) ⟨h, trivial⟩

theorem guards_addApproval (hd : d.Chained) (name : String) (approval : ApprovalRecord)
    (h : WellKept (d.db e).table) :
    d.Guards (addApproval name approval) s e (d.Leaves fun _ _ => True) :=
  hd.wellKept.guards_addApproval (fun x _ _ _ _ hP => leaves_error _ x _ hP.1)
    (fun _ hactions => hd.commits_unit fun _ => .approval hactions) ⟨h, trivial⟩

theorem guards_createRun (hd : d.Chained) (name : String) (h : WellKept (d.db e).table) :
    d.Guards (createRun name) s e (d.Leaves fun _ _ => True) :=
  hd.wellKept.guards_createRun (fun x _ _ hP => leaves_error _ x _ hP.1)
    (fun _ _ hactions => hd.commits_unit fun _ =>
      .create ⟨trivial, trivial, rfl, rfl, rfl, rfl⟩ hactions) ⟨h, trivial⟩

/-- One call, its exceptions handled. -/
theorem guards_call (hd : d.Chained) (name : String) (call : ClientCall)
    (h : WellKept (d.db e).table) :
    d.Guards (Proc.tryCatch (call.perform name) fun x => pure (.raised x)) s e
      (d.Leaves fun outcome table => StoredOutcomes [outcome] table) := by
  have hdone (s : TrajectoryState) (e : E) (h : WellKept (d.db e).table) :
      d.Guards (pure .done : Dynamo Outcome) s e
        (d.Leaves fun outcome table => StoredOutcomes [outcome] table) := by
    refine fun e' hrely => ⟨(hd.rely hrely h).1, fun outcome ho event hmem => ?_⟩
    rw [← Except.ok.inj ho] at hmem
    simp at hmem
  have herror {S : Outcome → Table → Prop} (x : PyError) (s : TrajectoryState) (e : E)
      (h : WellKept (d.db e).table) (e' : E) (hrely : d.rely e e') :
      d.Leaves S (.error x) s e' :=
    leaves_error S x s (hd.rely hrely h).1
  refine Proc.Guarantees.tryCatch
    (P := d.Leaves fun outcome table => StoredOutcomes [outcome] table) d.rely_refl ?_ ?_ ?_
  · cases call with
    | appendEvent spec =>
        refine Proc.Guarantees.bind d.rely_refl (hd.guards_appendEvent spec h) ?_
          fun x s e hP => herror x s e hP.1
        refine fun event s e hP e' hrely => ⟨(hd.rely hrely hP.1).1, fun outcome ho event' hmem => ?_⟩
        rw [← Except.ok.inj ho] at hmem
        obtain rfl : event' = event := by simpa using hmem
        exact (hP.2 event' rfl).extend (hd.rely hrely hP.1).2
    | appendDecision decision =>
        exact Proc.Guarantees.bind d.rely_refl (hd.guards_appendDecision decision h)
          (fun _ s e hP => hdone s e hP.1) fun x s e hP => herror x s e hP.1
    | addApproval approval =>
        exact Proc.Guarantees.bind d.rely_refl (hd.guards_addApproval name approval h)
          (fun _ s e hP => hdone s e hP.1) fun x s e hP => herror x s e hP.1
    | change f => exact hdone (applyChange f s) e h
  · refine fun outcome s e hP e' hrely => ⟨(hd.rely hrely hP.1).1, fun a ha event hmem => ?_⟩
    rw [← Except.ok.inj ha] at hmem
    exact (hP.2 outcome rfl event hmem).extend (hd.rely hrely hP.1).2
  · refine fun x s e hP e' hrely => ⟨(hd.rely hrely hP.1).1, fun a ha event hmem => ?_⟩
    rw [← Except.ok.inj ha] at hmem
    simp at hmem

/-- The calls of a client. -/
theorem guards_session (hd : d.Chained) (name : String) (calls : List ClientCall)
    (h : WellKept (d.db e).table) :
    d.Guards (session name calls) s e (d.Leaves StoredOutcomes) := by
  induction calls generalizing s e with
  | nil =>
      refine fun e' hrely => ⟨(hd.rely hrely h).1, fun outcomes ho event hmem => ?_⟩
      rw [← Except.ok.inj ho] at hmem
      cases hmem
  | cons call rest ih =>
      refine Proc.Guarantees.bind d.rely_refl (hd.guards_call name call h) ?_
        fun x s e hP e' hrely => leaves_error _ x s (hd.rely hrely hP.1).1
      intro outcome s₁ e₁ hP
      -- What the first call left stays stored while the others are made.
      have hkeep {e e' : E} (hF : WellKept (d.db e).table ∧ StoredOutcomes [outcome] (d.db e).table)
          (hkeeps : KeepsChains (d.db e) (d.db e')) :
          WellKept (d.db e').table ∧ StoredOutcomes [outcome] (d.db e').table :=
        ⟨(hkeeps hF.1).1, fun event hmem => (hF.2 event hmem).extend (hkeeps hF.1).2⟩
      refine Proc.Guarantees.bind d.rely_refl
        (Proc.Guarantees.frame (ih hP.1) (fun hF hrely => hkeep hF (hd.rely hrely))
          (fun hF hguarantee => hkeep hF (hd.guarantee hguarantee)) ⟨hP.1, hP.2 outcome rfl⟩) ?_
        fun x s e hP e' hrely => leaves_error _ x s (hd.rely hrely hP.1.1).1
      intro outcomes s₂ e₂ hP₂ e₃ hrely
      obtain ⟨hkept, hfirst⟩ := hkeep hP₂.2 (hd.rely hrely)
      refine ⟨hkept, fun all hall event hmem => ?_⟩
      rw [← Except.ok.inj hall] at hmem
      rcases List.mem_cons.mp hmem with hmem | hmem
      · exact hfirst event (List.mem_singleton.mpr hmem)
      · exact (hP₂.1.2 outcomes rfl event hmem).extend (hd.rely hrely hP₂.2.1).2

/-- A client, from the moment it obtains its object. -/
theorem guards_client (hd : d.Chained) (name : String) (fuel : Nat) (calls : List ClientCall)
    (origin : Origin) (h : WellKept (d.db e).table) :
    d.Guards (client name fuel calls origin) s e (d.Leaves StoredOutcomes) := by
  have hstable : ∀ {e e' : E}, WellKept (d.db e).table → d.rely e e' →
      WellKept (d.db e').table := fun h hrely => (hd.rely hrely h).1
  have herror (x : PyError) (s : TrajectoryState) (e : E) (h : WellKept (d.db e).table)
      (e' : E) (hrely : d.rely e e') :
      d.Leaves StoredOutcomes (.error x) s e' :=
    leaves_error _ x s (hd.rely hrely h).1
  cases origin with
  | created state =>
      show d.Guards (createRun name >>= fun _ => session name calls) state e _
      refine Proc.Guarantees.bind d.rely_refl (hd.guards_createRun name h) ?_ ?_
      · exact fun _ s e hP => hd.guards_session name calls hP.1
      · exact fun x s e hP => herror x s e hP.1
  | loaded traceId =>
      refine Proc.Guarantees.bind d.rely_refl
        ((loadTrace_reads fuel traceId s).guarantees hstable (fun β o e ho he => ?_) h) ?_ ?_
      · refine ⟨hd.reads o e (DynamoOp.not_writes_of_reads ho), ?_⟩
        rw [d.handler_table (DynamoOp.not_writes_of_reads ho)]
        exact he
      · exact fun state s e hP => hd.guards_session name calls hP.2
      · exact fun x s e hP => herror x s e hP.2
  | held state => exact hd.guards_session name calls h

end Discipline.Chained

end Writes

/-! ## Any interleaving -/

omit [Sha256] in
theorem mapM_decode_eventItem (traceId : String) (events : List TraceEvent) :
    (events.map (eventItem traceId)).mapM (·.decode Document.decodeEvent) = .ok events := by
  induction events with
  | nil => rfl
  | cons event rest ih =>
      rw [List.map_cons, List.mapM_cons, ih]
      rfl

/-- Reading the event items of a trace in key order finds its chain. -/
theorem StoredChain.decode_partition {table : Table} {traceId : String}
    {events : List TraceEvent} {head : LedgerHead}
    (h : StoredChain table traceId events head) :
    ((table.partition (.trace traceId) "EVENT#").map Prod.snd).mapM
      (·.decode Document.decodeEvent) = .ok events := by
  rw [h.partition_eq, chainEntries, List.map_map]
  exact mapM_decode_eventItem traceId events

namespace DynamoDBTraceStore

/-- Every client's discipline, under any schedule. -/
def integrity (backend : Backend) : Discipline Database where
  backend := backend
  db := id
  handler := Database.handle backend
  serves _ _ _ := rfl
  scheduled _ _ _ := True
  rely := KeepsChains
  guarantee := KeepsChains
  rely_refl := KeepsChains.refl

/-- A transaction of the repository keeps every chain, accepted or not. -/
theorem Database.keepsChains_transact {backend : Backend} {db : Database}
    {actions : List WriteAction} (ht : WellKept db.table → Transaction db.table actions) :
    KeepsChains db (db.transact backend actions).2 := by
  intro hkept
  rcases db.transact_cases backend actions with ⟨x, hx⟩ | ⟨haccepts, hok⟩
  · rw [hx]
    exact KeepsChains.of_table_eq rfl hkept
  · rw [hok]
    exact (ht hkept).keeps hkept haccepts

theorem integrity_chained (backend : Backend) : (integrity backend).Chained where
  rely h := h
  guarantee h := h
  reads _ db ho := .of_table_eq (Database.handle_table backend db ho)
  transacts _ _ _ ht := Database.keepsChains_transact ht

/-- A trace as it is stored: event items under the numbers from 1 to the head's, no other
ones, linked from the genesis hash to the head, and accepted by the verifier. -/
structure Intact (table : Table) (traceId : String) (events : List TraceEvent)
    (head : LedgerHead) : Prop where
  stored : StoredChain table traceId events head
  numbered : ∀ n, (table.get? ⟨.trace traceId, .event n⟩).isSome = true ↔
    1 ≤ n ∧ n ≤ head.sequence
  read : ((table.partition (.trace traceId) "EVENT#").map Prod.snd).mapM
    (·.decode Document.decodeEvent) = .ok events
  verified : ∀ now, (verifyChain traceId events head now).valid = true

theorem Intact.of_stored {table : Table} {traceId : String} {events : List TraceEvent}
    {head : LedgerHead} (h : StoredChain table traceId events head) :
    Intact table traceId events head where
  stored := h
  numbered n := by
    cases n with
    | zero => simp [h.zero_get]
    | succ m =>
        have hlt : events[m]?.isSome = true ↔ m < events.length := by simp
        rw [h.event_get m, h.holds.sequence_eq, Option.isSome_map, hlt]
        omega
  read := h.decode_partition
  verified now := (verifyChain_valid_iff events head now).mpr h.holds

/-- Any number of clients, whatever objects they hold, make any calls in any interleaving of
their requests.  Then every trace is stored intact or not at all, and each event an append
has returned is stored under exactly one number. -/
theorem chain_integrity {ι : Type} [DecidableEq ι] (backend : Backend) (name : String)
    (fuel : ι → Nat) (calls : ι → List ClientCall) (origins : ι → Origin) (turns : List ι) :
    let pool := (start name fuel calls origins).play (fun _ => Database.handle backend) turns
    (∀ traceId, NoChain pool.env.table traceId ∨
      ∃ events head, Intact pool.env.table traceId events head) ∧
    ∀ i outcomes state, pool.threads i = .pure (.ok outcomes, state) →
      ∀ event, .appended event ∈ outcomes →
        ∃! n, ∃ item, pool.env.table.get? ⟨.trace event.traceId, .event n⟩ = some item ∧
          item.decode Document.decodeEvent = .ok event := by
  intro pool
  have hclients (i : ι) : (integrity backend).Guards (client name (fuel i) (calls i) (origins i))
      { traceId := "", orderId := "" } ({} : Database) ((integrity backend).Leaves StoredOutcomes) :=
    (integrity_chained backend).guards_client name (fuel i) (calls i) (origins i) WellKept.empty
  obtain ⟨hkeeps, hthreads⟩ := Pool.play_guarantees (R := fun _ => KeepsChains)
    (G := fun _ => KeepsChains) (T := KeepsChains) turns (fun _ => KeepsChains.trans)
    (fun _ => KeepsChains.refl) (fun _ _ _ _ _ h => h) KeepsChains.refl KeepsChains.trans
    (fun _ _ _ h => h)
    (Pool.permitted_any (fun _ => Database.handle backend) turns (start name fuel calls origins))
    hclients
  have hkept : WellKept pool.env.table := (hkeeps WellKept.empty).1
  constructor
  · intro traceId
    rcases hkept traceId with hno | ⟨events, head, hstored⟩
    · exact .inl hno
    · exact .inr ⟨events, head, .of_stored hstored⟩
  · intro i outcomes state hfinished event hmem
    have hthread := hthreads i
    rw [hfinished] at hthread
    have hevents : StoredOutcomes outcomes pool.env.table :=
      (hthread pool.env (KeepsChains.refl _)).2 outcomes rfl
    obtain ⟨events, head, hstored, hevent⟩ := hevents event hmem
    obtain ⟨m, hm⟩ := List.mem_iff_getElem?.mp hevent
    refine ⟨m + 1, ⟨eventItem event.traceId event, ?_, rfl⟩, ?_⟩
    · rw [hstored.event_get m, hm]
      rfl
    · rintro n ⟨item, hget, hdecode⟩
      obtain ⟨k, rfl, hk⟩ := hstored.event_of_item hget hdecode
      have hsame := (hstored.sequence_eq hm).symm.trans (hstored.sequence_eq hk)
      omega

end DynamoDBTraceStore

end Manifest
