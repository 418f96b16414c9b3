import Manifest.Storage.DynamoDB

/-!
# Clients of the repository

A client holds one state object and makes calls on it, one after the other, going on with
the object after a call that raised.  The rules below follow the control flow of each
write once, for any discipline the clients may keep towards each other.

Main results:

- Theorem `Discipline.Steady.guards_appendEvent`: an append, from what its reads tell it.
- Theorems `Discipline.Steady.guards_appendDecision`, `Discipline.Steady.guards_addApproval`
  and `Discipline.Steady.guards_createRun`: the other writes.
-/

set_option autoImplicit false

namespace Manifest

open Interaction Fallible

namespace DynamoDBTraceStore

/-! ## Calls -/

/-- The calls of a client on its state object; `change` is what the caller itself does to
the fields the repository does not count with. -/
inductive ClientCall where
  | appendEvent (spec : EventSpec)
  | appendDecision (decision : Decision)
  | addApproval (approval : ApprovalRecord)
  | change (f : TrajectoryState → TrajectoryState)

/-- What a call returned. -/
inductive Outcome where
  | appended (event : TraceEvent)
  | done
  | raised (x : PyError)

/-- The caller's own change, which keeps the trace and the repository's counters. -/
def applyChange (f : TrajectoryState → TrajectoryState) (state : TrajectoryState) :
    TrajectoryState :=
  { f state with
    traceId := state.traceId
    events := state.events
    decisions := state.decisions
    nextSequence := state.nextSequence
    storageRevision := state.storageRevision }

variable [Sha256] (name : String)

def ClientCall.perform : ClientCall → Dynamo Outcome
  | .appendEvent spec => do
      let event ← DynamoDBTraceStore.appendEvent spec
      pure (.appended event)
  | .appendDecision decision => do
      DynamoDBTraceStore.appendDecision decision
      pure .done
  | .addApproval approval => do
      DynamoDBTraceStore.addApproval name approval
      pure .done
  | .change f => do
      Proc.mutate (applyChange f)
      pure .done

/-- The calls of a client, each with what it returned. -/
def session : List ClientCall → Dynamo (List Outcome)
  | [] => pure []
  | call :: rest => do
      let outcome ← Proc.tryCatch (call.perform name) fun x => pure (.raised x)
      let outcomes ← session rest
      pure (outcome :: outcomes)

/-- Where a client's state object comes from: a new run, a load, or anywhere. -/
inductive Origin where
  | created (state : TrajectoryState)
  | loaded (traceId : String)
  | held (state : TrajectoryState)

/-- A client obtains its object and then makes its calls. -/
def client (fuel : Nat) (calls : List ClientCall) : Origin → Dynamo (List Outcome)
  | .created state => do
      Proc.mutate fun _ => state
      createRun name
      session name calls
  | .loaded traceId => do
      let state ← loadTrace fuel traceId
      Proc.mutate fun _ => state
      session name calls
  | .held state => do
      Proc.mutate fun _ => state
      session name calls

/-- Clients on one empty table. -/
def start {ι : Type} (fuel : ι → Nat) (calls : ι → List ClientCall) (origins : ι → Origin) :
    Pool DynamoOp Database ι (Except PyError (List Outcome) × TrajectoryState) where
  threads i := client name (fuel i) (calls i) (origins i) { traceId := "", orderId := "" }
  env := {}

end DynamoDBTraceStore

/-! ## Disciplines -/

/-- Reads of items and queries. -/
def DynamoOp.reads {β : Type} : DynamoOp β → Bool
  | .getItem _ => true
  | .query .. => true
  | _ => false

def DynamoOp.queries {β : Type} : DynamoOp β → Bool
  | .query .. => true
  | _ => false

/-- Requests that write nothing and do not read a state document. -/
def DynamoOp.Quiet {β : Type} : DynamoOp β → Prop
  | .getItem key => key.sk ≠ .metaSk
  | .transactWriteItems _ => False
  | _ => True

theorem DynamoOp.Quiet.not_writes {β : Type} {o : DynamoOp β} (h : o.Quiet) :
    o.writes = false := by
  cases o <;> first | rfl | exact absurd h id

theorem DynamoOp.quiet_of_queries {β : Type} {o : DynamoOp β} (h : o.queries = true) :
    o.Quiet := by
  cases o with
  | query pk beginning start => trivial
  | _ => cases h

theorem DynamoOp.reads_of_queries {β : Type} {o : DynamoOp β} (h : o.queries = true) :
    o.reads = true := by
  cases o <;> first | rfl | exact absurd h nofun

theorem DynamoOp.not_writes_of_reads {β : Type} {o : DynamoOp β} (h : o.reads = true) :
    o.writes = false := by
  cases o <;> first | rfl | exact absurd h nofun

namespace DynamoDBTraceStore

theorem queryFrom_queries (pk : PartitionKey) (beginning : String) (fuel : Nat)
    (start : Option SortKey) (items : List Item) (s : TrajectoryState) :
    Proc.Ensures (fun _ o => o.queries = true) (queryFrom pk beginning fuel start items) s
      fun _ _ => True := by
  induction fuel generalizing start items with
  | zero => trivial
  | succ fuel ih =>
      simp only [queryFrom, Proc.ensures_bind, Proc.ensures_request]
      refine ⟨rfl, fun r => ?_⟩
      cases r with
      | error x => trivial
      | ok page =>
          obtain ⟨found, last⟩ := page
          cases last with
          | none => trivial
          | some key => exact ih (some key) (items ++ found)

/-- A query and the decoding of what it found. -/
theorem query_queries {α : Type} (fuel : Nat) (pk : Except PyError PartitionKey)
    (beginning : String) (decoder : Document → Except PyError α) (s : TrajectoryState) :
    Proc.Ensures (fun _ o => o.queries = true)
      (query fuel pk beginning >>= fun items =>
        Proc.ofExcept (items.mapM (·.decode decoder)) : Dynamo (List α)) s fun _ _ => True := by
  cases pk with
  | error x => trivial
  | ok pk =>
      refine Proc.ensures_bind.mpr ((queryFrom_queries pk beginning fuel none [] s).mono ?_)
      rintro (x | items) s' -
      · trivial
      · trivial

/-- The part of a load after its first read. -/
def loadFrom (fuel : Nat) (traceId : String) (item : Item) : Dynamo TrajectoryState := do
  let events ← getEvents fuel traceId
  let decisions ← getDecisions fuel traceId
  let state ← Proc.ofExcept (item.decode Document.decodeState)
  let revision ← Proc.ofExcept (revisionOf item)
  pure ({ state with events := events, decisions := decisions }.setRevision revision)

/-- A loaded object has the identity of the stored state and the revision of its item. -/
def LoadedFrom (item : Item) (state : TrajectoryState) : Prop :=
  ∃ stored, item.decode Document.decodeState = .ok stored ∧ state.traceId = stored.traceId ∧
    revisionOf item = .ok state.storageRevision

theorem loadFrom_queries (fuel : Nat) (traceId : String) (item : Item) (s : TrajectoryState) :
    Proc.Ensures (fun _ o => o.queries = true) (loadFrom fuel traceId item) s
      fun r _ => ∀ state, r = .ok state → LoadedFrom item state := by
  have herror (x : PyError) (state : TrajectoryState)
      (h : (.error x : Except PyError TrajectoryState) = .ok state) : LoadedFrom item state :=
    nomatch h
  unfold loadFrom getEvents getDecisions
  rw [Proc.ensures_bind]
  refine (query_queries fuel (tracePk traceId) "EVENT#" Document.decodeEvent s).mono ?_
  intro r s₁ _
  cases r with
  | error x => exact herror x
  | ok events =>
      show Proc.Ensures _ _ s₁ _
      rw [Proc.ensures_bind]
      refine (query_queries fuel (tracePk traceId) "DECISION#" Document.decodeDecision s₁).mono ?_
      intro r s₂ _
      cases r with
      | error x => exact herror x
      | ok decisions =>
          show Proc.Ensures _ _ s₂ _
          rw [Proc.ensures_bind, Proc.ensures_ofExcept]
          cases hstored : item.decode Document.decodeState with
          | error x => exact herror x
          | ok stored =>
              show Proc.Ensures _ _ s₂ _
              rw [Proc.ensures_bind, Proc.ensures_ofExcept]
              cases hrevision : revisionOf item with
              | error x => exact herror x
              | ok revision =>
                  rintro state ⟨⟩
                  exact ⟨stored, hstored, rfl, hrevision⟩

/-- The state document is read first. -/
theorem loadTrace_eq (fuel : Nat) (traceId : String) :
    loadTrace fuel traceId = getItem (tracePk traceId) (.ok .metaSk) >>= fun found =>
      match found with
      | none => Proc.raise ⟨.traceNotFound, s!"Trace {traceId} was not found."⟩
      | some item => loadFrom fuel traceId item :=
  rfl

/-- A load only reads. -/
theorem loadTrace_reads (fuel : Nat) (traceId : String) (s : TrajectoryState) :
    Proc.Ensures (fun _ o => o.reads = true) (loadTrace fuel traceId) s fun _ _ => True := by
  rw [loadTrace_eq, getItem]
  simp only [Proc.ensures_bind, Proc.ensures_ofExcept]
  cases tracePk traceId with
  | error x => trivial
  | ok pk =>
      simp only [Proc.ensures_request]
      refine ⟨rfl, fun r => ?_⟩
      rcases r with x | _ | item
      · trivial
      · trivial
      · exact ((loadFrom_queries fuel traceId item s).weaken
          fun _ _ => DynamoOp.reads_of_queries).mono fun _ _ _ => trivial

end DynamoDBTraceStore

/-- An environment around a database, and what a client relies on and guarantees in it. -/
structure Discipline (E : Type) where
  backend : Backend
  db : E → Database
  handler : Handler DynamoOp E
  serves : ∀ (β : Type) (o : DynamoOp β) (e : E),
    ((handler β o e).1, db (handler β o e).2) = Database.handle backend β o (db e)
  scheduled : (β : Type) → DynamoOp β → E → Prop
  rely : E → E → Prop
  guarantee : E → E → Prop
  rely_refl : ∀ e, rely e e

namespace Discipline

open DynamoDBTraceStore

variable {E : Type} (d : Discipline E)

/-- A procedure keeps the discipline and exits in `Q`. -/
abbrev Guards {α : Type} (m : Dynamo α) (s : TrajectoryState) (e : E)
    (Q : Except PyError α → TrajectoryState → E → Prop) : Prop :=
  Proc.Guarantees d.handler d.scheduled d.rely d.guarantee m s e Q

/-- The others do not break `P`, and quiet requests are permitted and keep it. -/
structure Steady (P : E → Prop) : Prop where
  stable : ∀ {e e'}, P e → d.rely e e' → P e'
  quiet : ∀ {β : Type} (o : DynamoOp β) {e}, o.Quiet → P e →
    d.guarantee e (d.handler β o e).2 ∧ P (d.handler β o e).2

variable {d} {α γ : Type} {P : E → Prop} {s : TrajectoryState} {e : E}

/-! ### Reads -/

/-- A quiet request, with the table it was served from. -/
theorem Steady.guards_request (hP : d.Steady P) {o : DynamoOp (Except PyError α)}
    (ho : o.Quiet) (he : P e) {f : α → Dynamo γ}
    {Q : Except PyError γ → TrajectoryState → E → Prop}
    (hok : ∀ a e', P e' → (d.handler _ o e').1 = .ok a → d.Guards (f a) s (d.handler _ o e').2 Q)
    (herror : ∀ x e', P e' → Q (.error x) s e') :
    d.Guards (Proc.request o >>= f) s e Q := by
  refine Proc.Guarantees.request_bind fun e' hrely _ => ?_
  have he' := hP.stable he hrely
  obtain ⟨hguarantee, hnext⟩ := hP.quiet o ho he'
  exact ⟨hguarantee, fun a hreply => hok a e' he' hreply,
    fun x _ e'' hrely' => herror x e'' (hP.stable hnext hrely')⟩

/-- A computed value or exception. -/
theorem Steady.guards_ofExcept (hP : d.Steady P) (he : P e) {r : Except PyError α}
    {f : α → Dynamo γ} {Q : Except PyError γ → TrajectoryState → E → Prop}
    (hok : ∀ a, r = .ok a → d.Guards (f a) s e Q)
    (herror : ∀ x e', P e' → Q (.error x) s e') :
    d.Guards (Proc.ofExcept r >>= f) s e Q :=
  Proc.guarantees_ofExcept_bind.mpr
    ⟨hok, fun x _ e' hrely => herror x e' (hP.stable he hrely)⟩

theorem Steady.guards_raise (hP : d.Steady P) (he : P e) {x : PyError}
    {Q : Except PyError α → TrajectoryState → E → Prop}
    (herror : ∀ x e', P e' → Q (.error x) s e') :
    d.Guards (Proc.raise x : Dynamo α) s e Q :=
  fun e' hrely => herror x e' (hP.stable he hrely)

/-- The reply to a read is what the table holds. -/
theorem handler_getItem {key : ItemKey} {found : Option Item}
    (h : (d.handler _ (.getItem key) e).1 = .ok found) :
    found = (d.db e).table.get? key := by
  have hserves := d.serves _ (.getItem key) e
  rcases Database.answer_cases (d.db e) d.backend ((d.db e).table.get? key) with
    ⟨x, hx⟩ | hx
  · rw [Database.handle, hx, Prod.mk.injEq, h] at hserves
    cases hserves.1
  · rw [Database.handle, hx, Prod.mk.injEq, h] at hserves
    exact Except.ok.inj hserves.1

/-- A read of one item. -/
theorem Steady.guards_getItem (hP : d.Steady P) (he : P e) {pk : Except PyError PartitionKey}
    {sk : Except PyError SortKey} (hsk : ∀ k, sk = .ok k → k ≠ .metaSk)
    {f : Option Item → Dynamo γ} {Q : Except PyError γ → TrajectoryState → E → Prop}
    (hok : ∀ p k e', pk = .ok p → sk = .ok k → P e' →
      d.Guards (f ((d.db e').table.get? ⟨p, k⟩)) s (d.handler _ (.getItem ⟨p, k⟩) e').2 Q)
    (herror : ∀ x e', P e' → Q (.error x) s e') :
    d.Guards (getItem pk sk >>= f) s e Q := by
  cases pk with
  | error x => exact hP.guards_raise he herror
  | ok p =>
      cases sk with
      | error x => exact hP.guards_raise he herror
      | ok k =>
          refine hP.guards_request (o := .getItem ⟨p, k⟩) (hsk k rfl) he ?_ herror
          intro found e' he' hreply
          rw [handler_getItem hreply]
          exact hok p k e' rfl rfl he'

/-- The replay lookup, with what is known of an event once it was read. -/
theorem Steady.guards_findReplay [Sha256] (hP : d.Steady P) {V : TraceEvent → E → Prop}
    (hV : ∀ n item event e', P e' →
      (d.db e').table.get? ⟨.trace s.traceId, .event n⟩ = some item →
      item.decode Document.decodeEvent = .ok event →
      V event (d.handler _ (.getItem ⟨.trace s.traceId, .event n⟩) e').2)
    (he : P e) (spec : EventSpec) {f : Replay → Dynamo γ}
    {Q : Except PyError γ → TrajectoryState → E → Prop}
    (hfound : ∀ event e', V event e' → d.Guards (f (.found event)) s e' Q)
    (habsent : ∀ record e', P e' → d.Guards (f (.absent record)) s e' Q)
    (herror : ∀ x e', P e' → Q (.error x) s e') :
    d.Guards (findReplay spec >>= f) s e Q := by
  unfold findReplay
  cases hkey : spec.idempotencyKey with
  | none => exact habsent none e he
  | some key =>
      simp only [Proc.bind_assoc, Proc.guarantees_read_bind]
      refine hP.guards_ofExcept he (fun replayKey _ => ?_) herror
      refine hP.guards_getItem he (fun k hk => eventReplaySk_ne hk) (fun p k e₁ hp hk he₁ => ?_)
        herror
      have he₁' := (hP.quiet (.getItem ⟨p, k⟩) (eventReplaySk_ne hk) he₁).2
      cases (d.db e₁).table.get? ⟨p, k⟩ with
      | none => exact habsent _ _ he₁'
      | some existing =>
          simp only [Proc.bind_assoc]
          refine hP.guards_ofExcept he₁' (fun replay _ => ?_) herror
          split_ifs
          · exact hP.guards_raise he₁' herror
          · simp only [Proc.bind_assoc]
            refine hP.guards_ofExcept he₁' (fun sequence _ => ?_) herror
            refine hP.guards_getItem he₁' (fun k hk => ?_) (fun p k e₂ hp hk he₂ => ?_) herror
            · rw [(eventSk_ok hk).1]
              exact SortKey.event_ne_meta sequence
            obtain rfl := tracePk_ok hp
            obtain rfl := (eventSk_ok hk).1
            have he₂' := (hP.quiet (.getItem ⟨.trace s.traceId, .event sequence⟩)
              (SortKey.event_ne_meta sequence) he₂).2
            cases hitem : (d.db e₂).table.get? ⟨.trace s.traceId, .event sequence⟩ with
            | none => exact hP.guards_raise he₂' herror
            | some item =>
                simp only [Proc.bind_assoc]
                refine hP.guards_ofExcept he₂' (fun event hevent => ?_) herror
                exact hfound event _ (hV sequence item event e₂ he₂ hitem hevent)

/-- The head lookup, with what is known of the head once it was read. -/
theorem Steady.guards_getHead (hP : d.Steady P) {K : LedgerHead → E → Prop} {traceId : String}
    (hK : ∀ item head e', P e' →
      (d.db e').table.get? ⟨.trace traceId, .headSk⟩ = some item →
      item.decode Document.decodeHead = .ok head →
      K head (d.handler _ (.getItem ⟨.trace traceId, .headSk⟩) e').2)
    (hmeta : ∀ e', P e' → (d.db e').table.get? ⟨.trace traceId, .headSk⟩ = none →
      ∀ e'', P e'' → d.guarantee e'' (d.handler _ (.getItem ⟨.trace traceId, .metaSk⟩) e'').2 ∧
        P (d.handler _ (.getItem ⟨.trace traceId, .metaSk⟩) e'').2)
    (he : P e) {f : LedgerHead → Dynamo γ}
    {Q : Except PyError γ → TrajectoryState → E → Prop}
    (hok : ∀ head e', K head e' → d.Guards (f head) s e' Q)
    (herror : ∀ x e', P e' → Q (.error x) s e') :
    d.Guards (getHead traceId >>= f) s e Q := by
  unfold getHead
  simp only [Proc.bind_assoc]
  refine hP.guards_getItem he (fun k hk => ?_) (fun p k e₁ hp hk he₁ => ?_) herror
  · rw [← Except.ok.inj hk]
    exact SortKey.head_ne_meta
  obtain rfl := tracePk_ok hp
  obtain rfl := Except.ok.inj hk
  have he₁' := (hP.quiet (.getItem ⟨.trace traceId, .headSk⟩) SortKey.head_ne_meta he₁).2
  cases hitem : (d.db e₁).table.get? ⟨.trace traceId, .headSk⟩ with
  | some item =>
      simp only
      refine hP.guards_ofExcept he₁' (fun head hhead => ?_) herror
      exact hok head _ (hK item head e₁ he₁ hitem hhead)
  | none =>
      -- Only the error message depends on the state document.
      simp only [hp, Proc.bind_assoc]
      refine Proc.Guarantees.request_bind (o := DynamoOp.getItem ⟨.trace traceId, .metaSk⟩)
        fun e₂ hrely _ => ?_
      obtain ⟨hguarantee, he₂⟩ := hmeta e₁ he₁ hitem e₂ (hP.stable he₁' hrely)
      refine ⟨hguarantee, fun found _ => ?_, fun x _ e₃ hrely' => herror x e₃ (hP.stable he₂ hrely')⟩
      cases found <;> exact hP.guards_raise he₂ herror

/-- A load, with what is known of the state document once it was read. -/
theorem Steady.guards_loadTrace (hP : d.Steady P) {L : Item → E → Prop}
    {fuel : Nat} {traceId : String} {f : TrajectoryState → Dynamo γ}
    {Q : Except PyError γ → TrajectoryState → E → Prop} (hL : ∀ item, d.Steady (L item))
    (hread : ∀ e', P e' →
      d.guarantee e' (d.handler _ (.getItem ⟨.trace traceId, .metaSk⟩) e').2 ∧
        P (d.handler _ (.getItem ⟨.trace traceId, .metaSk⟩) e').2 ∧
        ∀ item, (d.handler _ (.getItem ⟨.trace traceId, .metaSk⟩) e').1 = .ok (some item) →
          L item (d.handler _ (.getItem ⟨.trace traceId, .metaSk⟩) e').2)
    (he : P e)
    (hok : ∀ item state s' e', LoadedFrom item state → L item e' → d.Guards (f state) s' e' Q)
    (herror : ∀ x e', P e' → Q (.error x) s e')
    (hfailed : ∀ item x s' e', L item e' → Q (.error x) s' e') :
    d.Guards (loadTrace fuel traceId >>= f) s e Q := by
  rw [loadTrace_eq, getItem]
  simp only [Proc.bind_assoc]
  refine hP.guards_ofExcept he (fun pk hpk => ?_) herror
  obtain rfl := tracePk_ok hpk
  refine hP.guards_ofExcept he (fun sk hsk => ?_) herror
  obtain rfl := Except.ok.inj hsk
  refine Proc.Guarantees.request_bind (o := DynamoOp.getItem ⟨.trace traceId, .metaSk⟩)
    fun e₁ hrely _ => ?_
  obtain ⟨hguarantee, hkept, hfound⟩ := hread e₁ (hP.stable he hrely)
  refine ⟨hguarantee, fun found hreply => ?_, fun x _ e₂ hrely' =>
    herror x e₂ (hP.stable hkept hrely')⟩
  cases found with
  | none => exact hP.guards_raise hkept herror
  | some item =>
      refine Proc.Guarantees.bind (m := loadFrom fuel traceId item) d.rely_refl
        ((loadFrom_queries fuel traceId item s).guarantees (hL item).stable
          (fun _ o _ ho hitem => (hL item).quiet o (DynamoOp.quiet_of_queries ho) hitem)
          (hfound item hreply)) ?_ ?_
      · intro state s' e' hloaded
        exact hok item state s' e' (hloaded.1 state rfl) hloaded.2
      · intro x s' e' hloaded e₂ hrely'
        exact hfailed item x s' e₂ ((hL item).stable hloaded.2 hrely')

/-! ### Writes -/

/-- Assembling raises what it was given. -/
theorem handler_assemble (actions : Except PyError (List WriteAction)) :
    (d.handler _ (.assemble actions) e).1 = actions :=
  congrArg Prod.fst (d.serves _ (.assemble actions) e)

theorem Steady.guards_assemble (hP : d.Steady P) (he : P e)
    {actions : Except PyError (List WriteAction)} {f : List WriteAction → Dynamo γ}
    {Q : Except PyError γ → TrajectoryState → E → Prop}
    (hok : ∀ assembled e', actions = .ok assembled → P e' → d.Guards (f assembled) s e' Q)
    (herror : ∀ x e', d.scheduled _ (.assemble actions) e' → actions = .error x → P e' →
      ∀ e'', P e'' → Q (.error x) s e'') :
    d.Guards (assemble actions >>= f) s e Q := by
  refine Proc.Guarantees.request_bind (o := DynamoOp.assemble actions) fun e' hrely hsched => ?_
  have he' := hP.stable he hrely
  obtain ⟨hguarantee, hnext⟩ := hP.quiet (.assemble actions) trivial he'
  rw [handler_assemble]
  exact ⟨hguarantee, fun assembled hassembled => hok assembled _ hassembled hnext,
    fun x hx e'' hrely' => herror x e' hsched hx he' e'' (hP.stable hnext hrely')⟩

/-- A transaction, undone in the caller's state when it fails. -/
theorem guards_commit {actions : List WriteAction} {undo : TrajectoryState → TrajectoryState}
    {failure : PyError} {f : Unit → Dynamo γ}
    {Q : Except PyError γ → TrajectoryState → E → Prop}
    (hcommit : ∀ e', d.rely e e' → d.scheduled _ (.transactWriteItems actions) e' →
      d.guarantee e' (d.handler _ (.transactWriteItems actions) e').2 ∧
      ((d.handler _ (.transactWriteItems actions) e').1 = .ok () →
        d.Guards (f ()) s (d.handler _ (.transactWriteItems actions) e').2 Q) ∧
      ∀ x, (d.handler _ (.transactWriteItems actions) e').1 = .error x →
        ∀ e'', d.rely (d.handler _ (.transactWriteItems actions) e').2 e'' →
          Q (.error failure) (undo s) e'') :
    d.Guards (commit actions undo failure >>= f) s e Q := by
  intro e' hrely hsched
  obtain ⟨hguarantee, hok, herror⟩ := hcommit e' hrely hsched
  refine ⟨hguarantee, ?_⟩
  cases hreply : (d.handler _ (.transactWriteItems actions) e').1 with
  | ok u => exact hok hreply
  | error x => exact herror x hreply

/-- What a transaction of a write has to establish. -/
def Commits (d : Discipline E) (P : E → Prop) (s s' : TrajectoryState) (failure : PyError)
    (actions : List WriteAction) (r : α)
    (Q : Except PyError α → TrajectoryState → E → Prop) : Prop :=
  ∀ e, P e → d.scheduled _ (.transactWriteItems actions) e →
    d.guarantee e (d.handler _ (.transactWriteItems actions) e).2 ∧
    ((d.handler _ (.transactWriteItems actions) e).1 = .ok () →
      ∀ e', d.rely (d.handler _ (.transactWriteItems actions) e).2 e' → Q (.ok r) s' e') ∧
    ∀ x, (d.handler _ (.transactWriteItems actions) e).1 = .error x →
      ∀ e', d.rely (d.handler _ (.transactWriteItems actions) e).2 e' → Q (.error failure) s e'

/-- A commit that ends a write. -/
theorem Steady.guards_commit_pure (hP : d.Steady P) (he : P e) {s' : TrajectoryState}
    {actions : List WriteAction} {undo : TrajectoryState → TrajectoryState} {failure : PyError}
    {r : α} {Q : Except PyError α → TrajectoryState → E → Prop} (hundo : undo s' = s)
    (hcommit : d.Commits P s s' failure actions r Q) :
    d.Guards (commit actions undo failure >>= fun _ => pure r) s' e Q := by
  refine guards_commit fun e' hrely hsched => ?_
  obtain ⟨hguarantee, hok, herror⟩ := hcommit e' (hP.stable he hrely) hsched
  exact ⟨hguarantee, hok, fun x hx e'' hrely' => hundo ▸ herror x hx e'' hrely'⟩

/-- The put of a replay record, or nothing. -/
def IsReplay (traceId : String) (replay : List WriteAction) : Prop :=
  replay = [] ∨ ∃ keyHash item, replay = [.put ⟨.trace traceId, .eventReplay keyHash⟩ item]

/-- What happens to a write whose documents cannot be assembled. -/
def Spoils (d : Discipline E) (P : E → Prop) (s : TrajectoryState)
    (Q : Except PyError α → TrajectoryState → E → Prop) : Prop :=
  ∀ x e, d.scheduled _ (.assemble (.error x)) e → P e → ∀ e', P e' → Q (.error x) s e'

theorem Steady.guards_replayActions (hP : d.Steady P) (he : P e) {traceId : String}
    {sequence : Nat} {record : Option (String × String)} {f : List WriteAction → Dynamo γ}
    {Q : Except PyError γ → TrajectoryState → E → Prop}
    (hok : ∀ replay e', IsReplay traceId replay → P e' → d.Guards (f replay) s e' Q)
    (hspoils : d.Spoils P s Q) :
    d.Guards (replayActions traceId sequence record >>= f) s e Q := by
  cases record with
  | none => exact hok [] e (.inl rfl) he
  | some record =>
      obtain ⟨replayKey, fingerprint⟩ := record
      simp only [replayActions, Proc.bind_assoc]
      refine Proc.Guarantees.perform_bind fun e₁ hrely _ => ?_
      obtain ⟨hguarantee, he₁⟩ := hP.quiet .utcNow trivial (hP.stable he hrely)
      refine ⟨hguarantee, hP.guards_assemble he₁ (fun assembled e₂ hassembled he₂ => ?_) ?_⟩
      · refine hok assembled e₂ (.inr ?_) he₂
        obtain ⟨put, hput, heq⟩ := bind_eq_ok_iff.mp hassembled
        obtain ⟨keyHash, item, rfl⟩ := putTraceItem_replay hput
        exact ⟨keyHash, item, (Except.ok.inj heq).symm⟩
      · rintro x e₂ hsched hx he₂ e₃ he₃
        rw [hx] at hsched
        exact hspoils x e₂ hsched he₂ e₃ he₃

/-- An event that passed the sequence check. -/
theorem Steady.guards_commitEvent (hP : d.Steady P) (he : P e) {head : LedgerHead}
    {event : TraceEvent} {record : Option (String × String)}
    {Q : Except PyError TraceEvent → TrajectoryState → E → Prop}
    (hspoils : d.Spoils P (s.withEvent event) Q)
    (hcommit : ∀ actions replay,
      appendActions (s.withEvent event) head event s.storageRevision = .ok actions →
      IsReplay s.traceId replay →
      d.Commits P s (s.withEvent event) (changedConcurrently s.traceId) (actions ++ replay)
        event Q) :
    d.Guards (commitEvent head event record) s e Q := by
  unfold commitEvent
  simp only [Proc.guarantees_read_bind, Proc.guarantees_mutate_bind]
  refine hP.guards_assemble he (fun actions e₁ hactions he₁ => ?_) ?_
  · refine hP.guards_replayActions he₁ (fun replay e₂ hreplay he₂ => ?_) hspoils
    refine hP.guards_commit_pure he₂ ?_ (hcommit actions replay hactions hreplay)
    simp [TrajectoryState.withoutEvent, TrajectoryState.withEvent]
  · rintro x e₁ hsched hx he₁ e₂ he₂
    rw [hx] at hsched
    exact hspoils x e₁ hsched he₁ e₂ he₂

/-- An append: `P` is what the client knows before, `K` what a head tells it, and `V` what
reading an event tells it. -/
theorem Steady.guards_appendEvent [Sha256] (hP : d.Steady P) {K : LedgerHead → E → Prop}
    {V : TraceEvent → E → Prop} {spec : EventSpec}
    {Q : Except PyError TraceEvent → TrajectoryState → E → Prop}
    (hKsteady : ∀ head, d.Steady (K head)) (hVstable : ∀ event e e', V event e → d.rely e e' →
      V event e')
    (hV : ∀ n item event e', P e' →
      (d.db e').table.get? ⟨.trace s.traceId, .event n⟩ = some item →
      item.decode Document.decodeEvent = .ok event →
      V event (d.handler _ (.getItem ⟨.trace s.traceId, .event n⟩) e').2)
    (hK : ∀ item head e', P e' →
      (d.db e').table.get? ⟨.trace s.traceId, .headSk⟩ = some item →
      item.decode Document.decodeHead = .ok head →
      K head (d.handler _ (.getItem ⟨.trace s.traceId, .headSk⟩) e').2)
    (hmeta : ∀ e', P e' → (d.db e').table.get? ⟨.trace s.traceId, .headSk⟩ = none →
      ∀ e'', P e'' →
        d.guarantee e'' (d.handler _ (.getItem ⟨.trace s.traceId, .metaSk⟩) e'').2 ∧
          P (d.handler _ (.getItem ⟨.trace s.traceId, .metaSk⟩) e'').2)
    (hfound : ∀ event e', V event e' → Q (.ok event) s e')
    (herror : ∀ x e', P e' → Q (.error x) s e')
    (hmismatch : ∀ head x e', K head e' → Q (.error x) s e')
    (hspoils : ∀ head event, d.Spoils (K head) (s.withEvent event) Q)
    (hcommit : ∀ head now uuid actions replay, s.nextSequence = head.sequence + 1 →
      appendActions (s.withEvent (nextEvent s.traceId head spec now uuid)) head
        (nextEvent s.traceId head spec now uuid) s.storageRevision = .ok actions →
      IsReplay s.traceId replay →
      d.Commits (K head) s (s.withEvent (nextEvent s.traceId head spec now uuid))
        (changedConcurrently s.traceId) (actions ++ replay)
        (nextEvent s.traceId head spec now uuid) Q)
    (he : P e) : d.Guards (appendEvent spec) s e Q := by
  unfold appendEvent
  refine hP.guards_findReplay hV he spec ?_ ?_ herror
  · exact fun event e₁ hevent e₂ hrely => hfound event e₂ (hVstable event e₁ e₂ hevent hrely)
  · intro record e₁ he₁
    unfold writeEvent
    simp only [Proc.guarantees_read_bind]
    refine hP.guards_getHead hK hmeta he₁ (fun head e₂ he₂ => ?_) herror
    split_ifs with hsequence
    · exact (hKsteady head).guards_raise he₂ (hmismatch head)
    · refine Proc.Guarantees.perform_bind fun e₃ hrely _ => ?_
      obtain ⟨hnow, he₃⟩ :=
        (hKsteady head).quiet .utcNow trivial ((hKsteady head).stable he₂ hrely)
      refine ⟨hnow, Proc.Guarantees.perform_bind fun e₄ hrely' _ => ?_⟩
      obtain ⟨huuid, he₄⟩ :=
        (hKsteady head).quiet .uuid4 trivial ((hKsteady head).stable he₃ hrely')
      exact ⟨huuid, (hKsteady head).guards_commitEvent he₄ (hspoils head _)
        fun actions replay hactions hreplay =>
          hcommit head _ _ actions replay (not_not.mp hsequence) hactions hreplay⟩

/-- A decision. -/
theorem Steady.guards_appendDecision (hP : d.Steady P) {decision : Decision}
    {Q : Except PyError Unit → TrajectoryState → E → Prop}
    (hspoils : d.Spoils P (s.withDecision decision) Q)
    (hcommit : ∀ actions,
      decisionActions (s.withDecision decision) decision s.storageRevision = .ok actions →
      d.Commits P s (s.withDecision decision) (changedConcurrently s.traceId) actions () Q)
    (he : P e) : d.Guards (appendDecision decision) s e Q := by
  unfold appendDecision
  simp only [Proc.guarantees_read_bind, Proc.guarantees_mutate_bind]
  refine hP.guards_assemble he (fun actions e₁ hactions he₁ => ?_) ?_
  · rw [← Proc.bind_pure (commit _ _ _)]
    refine hP.guards_commit_pure he₁ ?_ (hcommit actions hactions)
    simp [TrajectoryState.withoutDecision, TrajectoryState.withDecision]
  · rintro x e₁ hsched hx he₁ e₂ he₂
    rw [hx] at hsched
    exact hspoils x e₁ hsched he₁ e₂ he₂

/-- An approval. -/
theorem Steady.guards_addApproval (hP : d.Steady P) {name : String} {approval : ApprovalRecord}
    {Q : Except PyError Unit → TrajectoryState → E → Prop}
    (hspoils : d.Spoils P (s.setRevision (s.storageRevision + 1)) Q)
    (hcommit : ∀ actions,
      approvalActions (s.setRevision (s.storageRevision + 1)) approval name s.storageRevision =
        .ok actions →
      d.Commits P s (s.setRevision (s.storageRevision + 1))
        ⟨.approvalPersistenceConflict, "Approval could not be created."⟩ actions () Q)
    (he : P e) : d.Guards (addApproval name approval) s e Q := by
  unfold addApproval
  simp only [Proc.guarantees_read_bind, Proc.guarantees_mutate_bind]
  refine hP.guards_assemble he (fun actions e₁ hactions he₁ => ?_) ?_
  · rw [← Proc.bind_pure (commit _ _ _)]
    refine hP.guards_commit_pure he₁ ?_ (hcommit actions hactions)
    rfl
  · rintro x e₁ hsched hx he₁ e₂ he₂
    rw [hx] at hsched
    exact hspoils x e₁ hsched he₁ e₂ he₂

/-- A new run. -/
theorem Steady.guards_createRun (hP : d.Steady P) {name : String}
    {Q : Except PyError Unit → TrajectoryState → E → Prop}
    (herror : ∀ x s' e', P e' → Q (.error x) s' e')
    (hcommit : ∀ now actions,
      createActions (s.setRevision 0)
        { traceId := s.traceId, sequence := 0, eventCount := 0, eventHash := genesisHash
          schemaVersion := ledgerSchemaVersion, updatedAt := now } name = .ok actions →
      d.Commits P (s.setRevision 0) (s.setRevision 0)
        ⟨.traceSequence, s!"Trace {s.traceId} already exists."⟩ actions () Q)
    (he : P e) : d.Guards (createRun name) s e Q := by
  unfold createRun
  simp only [Proc.guarantees_read_bind]
  split_ifs
  · exact hP.guards_raise he fun x => herror x s
  · simp only [Proc.guarantees_mutate_bind]
    refine Proc.Guarantees.perform_bind fun e₁ hrely _ => ?_
    obtain ⟨hnow, he₁⟩ := hP.quiet .utcNow trivial (hP.stable he hrely)
    refine ⟨hnow, ?_⟩
    generalize hcreated : createActions (s.setRevision 0) _ name = created
    refine hP.guards_ofExcept he₁ (fun actions hactions => ?_) fun x => herror x _
    rw [← Proc.bind_pure (commit _ _ _)]
    refine hP.guards_commit_pure he₁ ?_ (hcommit _ actions (hcreated.trans hactions))
    rfl

end Discipline

end Manifest
