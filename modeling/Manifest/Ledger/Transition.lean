import Manifest.Ledger.Verifier
import Manifest.Lib.Assignments
import Manifest.Lib.Fallible
import Manifest.Storage.Codec

/-!
# Explicit transitions of the in-memory repository

`commit_transition` checks a staged transition against the stored run, then writes its
approvals, replays and receipts one kind after the other, and the run last.

Main results:

- Theorem `commitTransition_ends`: the ways a transition ends.
- Theorem `commitTransition_atomic`: when it commits all of its records or none.
-/

set_option autoImplicit false

namespace Manifest

open Fallible

/-- All records that must commit with one optimistic state transition. -/
structure TraceTransition where
  traceId : String
  expectedRevision : Nat
  state : TrajectoryState
  events : List TraceEvent := []
  decisions : List Decision := []
  approvalUpserts : List ApprovalRecord := []
  replayRecords : List ReplayRecord := []
  effectReceipts : List EffectReceipt := []
  state_traceId : state.traceId = traceId
  events_traceId : ∀ event ∈ events, event.traceId = traceId
  decisions_traceId : ∀ decision ∈ decisions, decision.traceId = traceId
  approvals_traceId : ∀ approval ∈ approvalUpserts, approval.traceId = traceId
  replays_traceId : ∀ replay ∈ replayRecords, replay.traceId = traceId
  receipts_traceId : ∀ receipt ∈ effectReceipts, receipt.traceId = traceId

namespace TraceTransition

variable (transition : TraceTransition)

/-- The entries a transition assigns to the approvals. -/
def approvalEntries : List (String × ApprovalRecord) :=
  transition.approvalUpserts.map fun approval => (approval.approvalId, approval)

/-- The entries it assigns to the approval replays; replays of events are passed over. -/
def replayEntries : List ((String × String) × String) :=
  (transition.replayRecords.filter fun replay => replay.kind = .approval).map fun replay =>
    ((replay.resultReference, replay.keyHash), replay.fingerprint)

end TraceTransition

/-- The key of a receipt, with the receipt. -/
def EffectReceipt.entry (receipt : EffectReceipt) : (String × String) × EffectReceipt :=
  ((receipt.traceId, receipt.keyHash), receipt)

/-- `existing == receipt`. -/
def EffectReceipt.pyEq (existing receipt : EffectReceipt) : Bool :=
  existing.traceId = receipt.traceId && existing.toolName = receipt.toolName &&
    existing.keyHash = receipt.keyHash && existing.fingerprint = receipt.fingerprint &&
    Value.pyEq (.dict existing.result) (.dict receipt.result) &&
    existing.createdAt = receipt.createdAt

namespace MemoryTraceStore

/-! ## Committing a transition -/

section Commit

variable [Sha256] (traceId : String)

/-- One round of the loop over the events. -/
def linkEvent (cursor : TrajectoryState × LedgerHead) (event : TraceEvent) :
    Except PyError (TrajectoryState × LedgerHead) :=
  let (state, head) := cursor
  if event.sequence ≠ head.sequence + 1 then
    .error ⟨.traceSequence, s!"Trace {traceId} received a stale event sequence."⟩
  else if event.previousHash ≠ head.eventHash then
    .error ⟨.traceSequence, s!"Trace {traceId} received a stale previous hash."⟩
  else if calculateEventHash event ≠ event.eventHash then
    .error ⟨.ledgerAppend, "Transition event hash is invalid."⟩
  else
    let state := withEvent state event
    .ok (state,
      { traceId := traceId, sequence := event.sequence, eventCount := state.events.length
        eventHash := event.eventHash, schemaVersion := ledgerSchemaVersion
        updatedAt := event.occurredAt })

omit [Sha256] in
/-- One round of the loop over the decisions. -/
def stageDecision (state : TrajectoryState) (decision : Decision) :
    Except PyError TrajectoryState :=
  if state.decisions.any (fun item => item.decisionId = decision.decisionId) then
    .error ⟨.traceSequence, s!"Decision {decision.decisionId} already exists."⟩
  else .ok { state with decisions := state.decisions ++ [decision] }

/-- What is checked before the first record is written. -/
def stageTransition (store : MemoryTraceStore) (transition : TraceTransition) :
    Except PyError (TrajectoryState × LedgerHead) :=
  match store.runs.get? transition.traceId with
  | none => .error ⟨.traceNotFound, s!"Trace {transition.traceId} was not found."⟩
  | some stored =>
      if stored.storageRevision ≠ transition.expectedRevision then
        .error ⟨.traceRevisionConflict, s!"Trace {transition.traceId} revision changed."⟩
      else
        let state := { transition.state with
          storageRevision := transition.expectedRevision
          events := stored.events
          decisions := stored.decisions }
        match store.heads.get? transition.traceId with
        | none => .error (.ofPython "KeyError")
        | some head => do
            let (state, head) ← transition.events.foldlM (linkEvent transition.traceId)
              (state, head)
            let state ← transition.decisions.foldlM stageDecision state
            .ok (state, head)

omit [Sha256] in
def receiptExists : PyError :=
  ⟨.traceSequence, "Effect receipt already exists."⟩

omit [Sha256] in
/-- The loop over the receipts; a conflict leaves the receipts before it stored. -/
def storeReceipts : List EffectReceipt → Dict (String × String) EffectReceipt →
    Except PyError Unit × Dict (String × String) EffectReceipt
  | [], receipts => (.ok (), receipts)
  | receipt :: rest, receipts =>
      match receipts.get? (receipt.traceId, receipt.keyHash) with
      | some existing =>
          if existing.pyEq receipt then
            storeReceipts rest (receipts.set (receipt.traceId, receipt.keyHash) receipt)
          else (.error receiptExists, receipts)
      | none => storeReceipts rest (receipts.set (receipt.traceId, receipt.keyHash) receipt)

/-- `commit_transition`. -/
def commitTransition (store : MemoryTraceStore) (transition : TraceTransition) :
    Except PyError TrajectoryState × MemoryTraceStore :=
  match store.stageTransition transition with
  | .error x => (.error x, store)
  | .ok (state, head) =>
      let store := { store with
        approvals := store.approvals.setAll transition.approvalEntries
        approvalReplays := store.approvalReplays.setAll transition.replayEntries }
      let (stored, receipts) := storeReceipts transition.effectReceipts store.effectReceipts
      let store := { store with effectReceipts := receipts }
      match stored with
      | .error x => (.error x, store)
      | .ok () =>
          let store := { store with heads := store.heads.set transition.traceId head }
          let (state, store) := store.persistState state
          (.ok state, store)

end Commit

/-! ## What the checks let through -/

/-- Events that continue a head one by one, each with the hash of its own fields. -/
def Continues [Sha256] : Nat → String → List TraceEvent → Prop
  | _, _, [] => True
  | sequence, eventHash, event :: rest =>
      event.sequence = sequence + 1 ∧ event.previousHash = eventHash ∧
        calculateEventHash event = event.eventHash ∧
        Continues event.sequence event.eventHash rest

/-- Decisions under identifiers of their own. -/
def FreshDecisions (stored decisions : List Decision) : Prop :=
  (decisions.map (·.decisionId)).Nodup ∧
    ∀ decision ∈ decisions, decision.decisionId ∉ stored.map (·.decisionId)

/-- The state with more events. -/
def withEvents (state : TrajectoryState) (events : List TraceEvent) : TrajectoryState :=
  { state with
    events := state.events ++ events
    nextSequence :=
      match events.getLast? with
      | none => state.nextSequence
      | some event => event.sequence + 1 }

/-- The head after more events. -/
def headAfter (traceId : String) (state : TrajectoryState) (head : LedgerHead)
    (events : List TraceEvent) : LedgerHead :=
  match events.getLast? with
  | none => head
  | some event =>
      { traceId := traceId, sequence := event.sequence
        eventCount := state.events.length + events.length
        eventHash := event.eventHash, schemaVersion := ledgerSchemaVersion
        updatedAt := event.occurredAt }

section Stage

variable [Sha256]

theorem linkEvent_ok_iff {traceId : String} {state state' : TrajectoryState}
    {head head' : LedgerHead} {event : TraceEvent} :
    linkEvent traceId (state, head) event = .ok (state', head') ↔
      (event.sequence = head.sequence + 1 ∧ event.previousHash = head.eventHash ∧
        calculateEventHash event = event.eventHash) ∧
        state' = withEvent state event ∧ head' = headAfter traceId state head [event] := by
  have hcount : (withEvent state event).events.length = state.events.length + 1 := by
    simp [withEvent]
  unfold linkEvent
  dsimp only
  constructor
  · intro h
    split_ifs at h with hsequence hprevious hhash
    obtain ⟨rfl, rfl⟩ := Prod.mk.inj (Except.ok.inj h)
    refine ⟨⟨not_not.mp hsequence, not_not.mp hprevious, not_not.mp hhash⟩, rfl, ?_⟩
    simp [headAfter, hcount]
  · rintro ⟨⟨hsequence, hprevious, hhash⟩, rfl, rfl⟩
    rw [if_neg (not_not.mpr hsequence), if_neg (not_not.mpr hprevious),
      if_neg (not_not.mpr hhash)]
    simp [headAfter, hcount]

omit [Sha256] in
theorem withEvents_cons (state : TrajectoryState) (event : TraceEvent)
    (rest : List TraceEvent) :
    withEvents state (event :: rest) = withEvents (withEvent state event) rest := by
  unfold withEvents withEvent
  cases hlast : rest.getLast? with
  | none => simp [List.getLast?_eq_none_iff.mp hlast]
  | some last => simp [List.getLast?_cons, hlast]

omit [Sha256] in
theorem headAfter_cons (traceId : String) (state : TrajectoryState) (head : LedgerHead)
    (event : TraceEvent) (rest : List TraceEvent) :
    headAfter traceId state head (event :: rest) =
      headAfter traceId (withEvent state event) (headAfter traceId state head [event]) rest := by
  unfold headAfter withEvent
  cases hlast : rest.getLast? with
  | none => simp [List.getLast?_eq_none_iff.mp hlast]
  | some last => simp [List.getLast?_cons, hlast, Nat.add_comm, Nat.add_left_comm]

/-- The loop over the events goes through when they continue the head. -/
theorem linkEvents_ok_iff {traceId : String} {events : List TraceEvent}
    {state state' : TrajectoryState} {head head' : LedgerHead} :
    events.foldlM (linkEvent traceId) (state, head) = .ok (state', head') ↔
      Continues head.sequence head.eventHash events ∧ state' = withEvents state events ∧
        head' = headAfter traceId state head events := by
  induction events generalizing state head with
  | nil => simp [Continues, withEvents, headAfter, pure, Except.pure, eq_comm]
  | cons event rest ih =>
      rw [List.foldlM_cons, withEvents_cons, headAfter_cons]
      constructor
      · intro h
        cases hlink : linkEvent traceId (state, head) event with
        | error x =>
            rw [hlink] at h
            cases h
        | ok cursor =>
            obtain ⟨next, nextHead⟩ := cursor
            rw [hlink] at h
            obtain ⟨⟨hsequence, hprevious, hhash⟩, rfl, rfl⟩ := linkEvent_ok_iff.mp hlink
            obtain ⟨hrest, hstate, hhead⟩ := ih.mp h
            exact ⟨⟨hsequence, hprevious, hhash, hrest⟩, hstate, hhead⟩
      · rintro ⟨⟨hsequence, hprevious, hhash, hrest⟩, hstate, hhead⟩
        rw [linkEvent_ok_iff.mpr ⟨⟨hsequence, hprevious, hhash⟩, rfl, rfl⟩]
        exact ih.mpr ⟨hrest, hstate, hhead⟩

omit [Sha256] in
theorem stageDecisions_ok_iff {decisions : List Decision} {state state' : TrajectoryState} :
    decisions.foldlM stageDecision state = .ok state' ↔
      FreshDecisions state.decisions decisions ∧
        state' = { state with decisions := state.decisions ++ decisions } := by
  induction decisions generalizing state with
  | nil => simp [FreshDecisions, pure, Except.pure, eq_comm]
  | cons decision rest ih =>
      rw [List.foldlM_cons]
      unfold stageDecision
      by_cases hlisted : decision.decisionId ∈ state.decisions.map (·.decisionId)
      · have hany : state.decisions.any (fun item => item.decisionId = decision.decisionId) =
            true := by simpa using hlisted
        rw [if_pos hany]
        constructor
        · intro h
          cases h
        · rintro ⟨hfresh, -⟩
          exact absurd hlisted (hfresh.2 decision (by simp))
      · have hany : ¬ state.decisions.any (fun item => item.decisionId = decision.decisionId) =
            true := by simpa using hlisted
        rw [if_neg hany]
        refine (@ih { state with decisions := state.decisions ++ [decision] }).trans ?_
        refine and_congr ?_ ?_
        · simp only [FreshDecisions, List.map_append, List.map_cons, List.map_nil,
            List.nodup_cons, List.mem_cons, List.mem_append, not_or,
            List.mem_map, not_exists, not_and, forall_eq_or_imp] at *
          grind
        · simp

/-- A transition every check before the first write lets through. -/
structure Admits (store : MemoryTraceStore) (transition : TraceTransition)
    (stored : TrajectoryState) (head : LedgerHead) : Prop where
  run_eq : store.runs.get? transition.traceId = some stored
  revision_eq : stored.storageRevision = transition.expectedRevision
  head_eq : store.heads.get? transition.traceId = some head
  continues : Continues head.sequence head.eventHash transition.events
  fresh : FreshDecisions stored.decisions transition.decisions

omit [Sha256] in
/-- The state a transition leaves, before its revision is bumped. -/
def staged (transition : TraceTransition) (stored : TrajectoryState) : TrajectoryState :=
  { withEvents { transition.state with
      storageRevision := transition.expectedRevision
      events := stored.events
      decisions := stored.decisions } transition.events with
    decisions := stored.decisions ++ transition.decisions }

theorem stageTransition_ok_iff {store : MemoryTraceStore} {transition : TraceTransition}
    {state : TrajectoryState} {head' : LedgerHead} :
    store.stageTransition transition = .ok (state, head') ↔
      ∃ stored head, store.Admits transition stored head ∧ state = staged transition stored ∧
        head' = headAfter transition.traceId stored head transition.events := by
  unfold stageTransition
  constructor
  · intro h
    cases hrun : store.runs.get? transition.traceId with
    | none => simp [hrun] at h
    | some stored =>
        simp only [hrun] at h
        split at h
        · cases h
        · rename_i hrevision
          cases hhead : store.heads.get? transition.traceId with
          | none => simp [hhead] at h
          | some head =>
              simp only [hhead] at h
              obtain ⟨cursor, hevents, h⟩ := bind_eq_ok_iff.mp h
              obtain ⟨next, hdecisions, h⟩ := bind_eq_ok_iff.mp h
              obtain ⟨rfl, rfl⟩ := Prod.mk.inj (Except.ok.inj h)
              obtain ⟨hcontinues, hstate, hhead'⟩ := linkEvents_ok_iff.mp hevents
              obtain ⟨hfresh, rfl⟩ := stageDecisions_ok_iff.mp hdecisions
              rw [hstate] at hfresh ⊢
              exact ⟨stored, head, ⟨hrun, not_not.mp hrevision, hhead, hcontinues, hfresh⟩, rfl,
                hhead'⟩
  · rintro ⟨stored, head, hadmits, rfl, rfl⟩
    rw [hadmits.run_eq]
    dsimp only
    rw [if_neg (not_not.mpr hadmits.revision_eq), hadmits.head_eq]
    refine bind_eq_ok_iff.mpr ⟨_, linkEvents_ok_iff.mpr ⟨hadmits.continues, rfl, rfl⟩, ?_⟩
    exact bind_eq_ok_iff.mpr ⟨_, stageDecisions_ok_iff.mpr ⟨hadmits.fresh, rfl⟩, rfl⟩

end Stage

/-! ## Storing the receipts -/

/-- A receipt differs from what its key holds once the receipts before it are stored. -/
def Clashes (receipts : Dict (String × String) EffectReceipt) (before : List EffectReceipt)
    (receipt : EffectReceipt) : Prop :=
  ∃ existing, (receipts.setAll (before.map (·.entry))).get? (receipt.traceId, receipt.keyHash) =
    some existing ∧ existing.pyEq receipt = false

/-- No receipt of a list clashes. -/
def Compatible (receipts : Dict (String × String) EffectReceipt) (list : List EffectReceipt) :
    Prop :=
  ∀ before receipt after, list = before ++ receipt :: after → ¬ Clashes receipts before receipt

/-- The first receipt of a list that clashes comes after `before`. -/
structure FirstClash (receipts : Dict (String × String) EffectReceipt)
    (list before : List EffectReceipt) : Prop where
  compatible : Compatible receipts before
  clashes : ∃ receipt after, list = before ++ receipt :: after ∧ Clashes receipts before receipt

theorem compatible_nil (receipts : Dict (String × String) EffectReceipt) :
    Compatible receipts [] := by
  intro before receipt after h
  simp at h

theorem clashes_cons {receipts : Dict (String × String) EffectReceipt}
    {first receipt : EffectReceipt} {before : List EffectReceipt} :
    Clashes receipts (first :: before) receipt ↔
      Clashes (receipts.set (first.traceId, first.keyHash) first) before receipt :=
  Iff.rfl

theorem compatible_cons {receipts : Dict (String × String) EffectReceipt}
    {first : EffectReceipt} {rest : List EffectReceipt} :
    Compatible receipts (first :: rest) ↔
      ¬ Clashes receipts [] first ∧
        Compatible (receipts.set (first.traceId, first.keyHash) first) rest := by
  constructor
  · intro h
    refine ⟨h [] first rest rfl, fun before receipt after heq hclash => ?_⟩
    exact h (first :: before) receipt after (by rw [heq]; rfl) (clashes_cons.mpr hclash)
  · rintro ⟨hfirst, hrest⟩ before receipt after heq
    cases before with
    | nil =>
        obtain ⟨rfl, rfl⟩ := List.cons.inj heq
        exact hfirst
    | cons other before =>
        obtain ⟨rfl, hrest'⟩ := List.cons.inj heq
        exact fun hclash => hrest before receipt after hrest' (clashes_cons.mp hclash)

/-- The loop stores every receipt, or those before the first one that clashes. -/
theorem storeReceipts_cases (list : List EffectReceipt)
    (receipts : Dict (String × String) EffectReceipt) :
    (Compatible receipts list ∧
      storeReceipts list receipts = (.ok (), receipts.setAll (list.map (·.entry)))) ∨
    ∃ before x, FirstClash receipts list before ∧
      storeReceipts list receipts = (.error x, receipts.setAll (before.map (·.entry))) := by
  induction list generalizing receipts with
  | nil => exact .inl ⟨compatible_nil receipts, rfl⟩
  | cons first rest ih =>
      by_cases hclash : Clashes receipts [] first
      · obtain ⟨existing, hget, hne⟩ := hclash
        have hget' : receipts.get? (first.traceId, first.keyHash) = some existing := hget
        refine .inr ⟨[], receiptExists, ⟨compatible_nil receipts, first, rest, rfl, existing, hget, hne⟩, ?_⟩
        rw [storeReceipts, hget']
        simp only [hne, Bool.false_eq_true, if_false]
        rfl
      · have hstep : storeReceipts (first :: rest) receipts =
            storeReceipts rest (receipts.set (first.traceId, first.keyHash) first) := by
          rw [storeReceipts]
          cases hget : receipts.get? (first.traceId, first.keyHash) with
          | none => rfl
          | some existing =>
              have heq : existing.pyEq first = true := by
                by_contra hne
                exact hclash ⟨existing, hget, Bool.eq_false_iff.mpr hne⟩
              simp only [heq, if_true]
        rw [hstep]
        rcases ih (receipts.set (first.traceId, first.keyHash) first) with
          ⟨hcompatible, heq⟩ | ⟨before, x, hfirst, heq⟩
        · exact .inl ⟨compatible_cons.mpr ⟨hclash, hcompatible⟩, heq⟩
        · obtain ⟨receipt, after, rfl, hclashes⟩ := hfirst.clashes
          exact .inr ⟨first :: before, x,
            ⟨compatible_cons.mpr ⟨hclash, hfirst.compatible⟩, receipt, after, rfl,
              clashes_cons.mpr hclashes⟩, heq⟩

/-- A list of receipts is compatible or has one first clash. -/
theorem FirstClash.not_compatible {receipts : Dict (String × String) EffectReceipt}
    {list before : List EffectReceipt} (h : FirstClash receipts list before) :
    ¬ Compatible receipts list := by
  obtain ⟨receipt, after, heq, hclash⟩ := h.clashes
  exact fun hcompatible => hcompatible before receipt after heq hclash

theorem FirstClash.unique {receipts : Dict (String × String) EffectReceipt}
    {list before before' : List EffectReceipt} (h : FirstClash receipts list before)
    (h' : FirstClash receipts list before') : before = before' := by
  induction before generalizing receipts list before' with
  | nil =>
      cases before' with
      | nil => rfl
      | cons first before' =>
          obtain ⟨receipt, after, rfl, hclash⟩ := h.clashes
          obtain ⟨receipt', after', heq, -⟩ := h'.clashes
          obtain ⟨rfl, -⟩ := List.cons.inj heq
          exact absurd hclash (compatible_cons.mp h'.compatible).1
  | cons first before ih =>
      cases before' with
      | nil =>
          obtain ⟨receipt, after, rfl, hclash⟩ := h'.clashes
          obtain ⟨receipt', after', heq, -⟩ := h.clashes
          obtain ⟨rfl, -⟩ := List.cons.inj heq
          exact absurd hclash (compatible_cons.mp h.compatible).1
      | cons first' before' =>
          obtain ⟨receipt, after, rfl, hclash⟩ := h.clashes
          obtain ⟨receipt', after', heq, hclash'⟩ := h'.clashes
          obtain ⟨rfl, hrest⟩ := List.cons.inj heq
          have hfirst : FirstClash (receipts.set (first.traceId, first.keyHash) first)
              (before ++ receipt :: after) before :=
            ⟨(compatible_cons.mp h.compatible).2, receipt, after, rfl, hclash⟩
          have hsecond : FirstClash (receipts.set (first.traceId, first.keyHash) first)
              (before ++ receipt :: after) before' :=
            ⟨(compatible_cons.mp h'.compatible).2, receipt', after', hrest, hclash'⟩
          rw [ih hfirst hsecond]
/-! ## The ways a transition ends -/

section Cases

variable [Sha256]

/-- The store with a transition's approvals and replays and with some receipts. -/
def withRecords (store : MemoryTraceStore) (transition : TraceTransition)
    (receipts : List EffectReceipt) : MemoryTraceStore :=
  { store with
    approvals := store.approvals.setAll transition.approvalEntries
    approvalReplays := store.approvalReplays.setAll transition.replayEntries
    effectReceipts := store.effectReceipts.setAll (receipts.map (·.entry)) }

/-- The store after a transition that returned. -/
def committed (store : MemoryTraceStore) (transition : TraceTransition)
    (stored : TrajectoryState) (head : LedgerHead) : TrajectoryState × MemoryTraceStore :=
  let head := headAfter transition.traceId stored head transition.events
  { store.withRecords transition transition.effectReceipts with
    heads := store.heads.set transition.traceId head }.persistState (staged transition stored)

/-- A transition is refused before the first write, stops at the first receipt that
clashes, or commits. -/
inductive Ends (store : MemoryTraceStore) (transition : TraceTransition) :
    Except PyError TrajectoryState × MemoryTraceStore → Prop where
  | refused (x : PyError) (none_admitted : ∀ stored head, ¬ store.Admits transition stored head) :
      Ends store transition (.error x, store)
  | clashed {stored head before} (x : PyError) (admits : store.Admits transition stored head)
      (first : FirstClash store.effectReceipts transition.effectReceipts before) :
      Ends store transition (.error x, store.withRecords transition before)
  | returned {stored head} (admits : store.Admits transition stored head)
      (compatible : Compatible store.effectReceipts transition.effectReceipts) :
      Ends store transition (.ok (store.committed transition stored head).1,
        (store.committed transition stored head).2)

theorem commitTransition_ends (store : MemoryTraceStore) (transition : TraceTransition) :
    store.Ends transition (store.commitTransition transition) := by
  unfold commitTransition
  cases hstage : store.stageTransition transition with
  | error x =>
      refine .refused x fun stored head hadmits => ?_
      rw [stageTransition_ok_iff.mpr ⟨stored, head, hadmits, rfl, rfl⟩] at hstage
      cases hstage
  | ok cursor =>
      obtain ⟨state, head'⟩ := cursor
      obtain ⟨stored, head, hadmits, rfl, rfl⟩ := stageTransition_ok_iff.mp hstage
      dsimp only
      rcases storeReceipts_cases transition.effectReceipts store.effectReceipts with
        ⟨hcompatible, heq⟩ | ⟨before, x, hfirst, heq⟩
      · rw [heq]
        exact .returned hadmits hcompatible
      · rw [heq]
        exact .clashed x hadmits hfirst

theorem Admits.unique {store : MemoryTraceStore} {transition : TraceTransition}
    {stored stored' : TrajectoryState} {head head' : LedgerHead}
    (h : store.Admits transition stored head) (h' : store.Admits transition stored' head') :
    stored' = stored ∧ head' = head :=
  ⟨Option.some.inj (h'.run_eq.symm.trans h.run_eq),
    Option.some.inj (h'.head_eq.symm.trans h.head_eq)⟩

end Cases

/-! ## All records or none -/

section Atomicity

variable [Sha256]

/-- A store holds a replay record: an approval's under its key, an event's under a key with
the record's hash. -/
def HoldsReplay (store : MemoryTraceStore) (replay : ReplayRecord) : Prop :=
  match replay.kind with
  | .approval =>
      store.approvalReplays.get? (replay.resultReference, replay.keyHash) =
        some replay.fingerprint
  | .event =>
      ∃ key event, opaqueKeyHash key = .ok replay.keyHash ∧
        store.eventReplays.get? (replay.traceId, key) = some (replay.fingerprint, event)

/-- The tables a transition writes are those of another store. -/
structure SameTables (store store' : MemoryTraceStore) : Prop where
  runs_eq : store'.runs = store.runs
  heads_eq : store'.heads = store.heads
  approvals_eq : store'.approvals = store.approvals
  approvalReplays_eq : store'.approvalReplays = store.approvalReplays
  effectReceipts_eq : store'.effectReceipts = store.effectReceipts

/-- Every record of a transition is in a store. -/
structure HoldsRecords (store : MemoryTraceStore) (transition : TraceTransition)
    (state : TrajectoryState) : Prop where
  run_eq : store.runs.get? transition.traceId = some state
  events : ∀ event ∈ transition.events, event ∈ state.events
  decisions : ∀ decision ∈ transition.decisions, decision ∈ state.decisions
  approvals : ∀ approval ∈ transition.approvalUpserts,
    store.approvals.get? approval.approvalId = some approval
  replays : ∀ replay ∈ transition.replayRecords, store.HoldsReplay replay
  receipts : ∀ receipt ∈ transition.effectReceipts,
    store.effectReceipts.get? (receipt.traceId, receipt.keyHash) = some receipt

/-- A transition that raises leaves every table alone; one that returns stored every record. -/
def AllOrNothing (store : MemoryTraceStore) (transition : TraceTransition) : Prop :=
  match store.commitTransition transition with
  | (.error _, store') => SameTables store store'
  | (.ok state, store') => store'.HoldsRecords transition state

/-- Nothing a transition writes is lost or left behind.  When no receipt clashes, records of
one kind under one key are the same and the replays of events are held already; before a
receipt that clashes everything written is held already. -/
structure Settles (store : MemoryTraceStore) (transition : TraceTransition) : Prop where
  returned : Compatible store.effectReceipts transition.effectReceipts →
    Dict.Consistent transition.approvalEntries ∧ Dict.Consistent transition.replayEntries ∧
      Dict.Consistent (transition.effectReceipts.map (·.entry)) ∧
      ∀ replay ∈ transition.replayRecords, replay.kind = .event → store.HoldsReplay replay
  clashed : ∀ before, FirstClash store.effectReceipts transition.effectReceipts before →
    store.approvals.Holds transition.approvalEntries ∧
      store.approvalReplays.Holds transition.replayEntries ∧
      store.effectReceipts.Holds (before.map (·.entry))

omit [Sha256] in
/-- Leaving records behind is writing what is not held. -/
theorem sameTables_withRecords_iff {store : MemoryTraceStore} {transition : TraceTransition}
    {receipts : List EffectReceipt} :
    SameTables store (store.withRecords transition receipts) ↔
      store.approvals.Holds transition.approvalEntries ∧
        store.approvalReplays.Holds transition.replayEntries ∧
        store.effectReceipts.Holds (receipts.map (·.entry)) := by
  constructor
  · intro h
    exact ⟨(Dict.setAll_eq_self_iff _ _).mp h.approvals_eq,
      (Dict.setAll_eq_self_iff _ _).mp h.approvalReplays_eq,
      (Dict.setAll_eq_self_iff _ _).mp h.effectReceipts_eq⟩
  · rintro ⟨happrovals, hreplays, hreceipts⟩
    exact ⟨rfl, rfl, (Dict.setAll_eq_self_iff _ _).mpr happrovals,
      (Dict.setAll_eq_self_iff _ _).mpr hreplays, (Dict.setAll_eq_self_iff _ _).mpr hreceipts⟩

/-- A transition that returns stored its events and decisions; its other records are kept
unless two of one kind share a key or one replays an event. -/
theorem holdsRecords_committed_iff {store : MemoryTraceStore} {transition : TraceTransition}
    {stored : TrajectoryState} {head : LedgerHead} :
    (store.committed transition stored head).2.HoldsRecords transition
        (store.committed transition stored head).1 ↔
      Dict.Consistent transition.approvalEntries ∧ Dict.Consistent transition.replayEntries ∧
        Dict.Consistent (transition.effectReceipts.map (·.entry)) ∧
        ∀ replay ∈ transition.replayRecords, replay.kind = .event → store.HoldsReplay replay := by
  have happrovals := Dict.setAll_holds_iff store.approvals transition.approvalEntries
  have hreplays := Dict.setAll_holds_iff store.approvalReplays transition.replayEntries
  have hreceipts := Dict.setAll_holds_iff store.effectReceipts
    (transition.effectReceipts.map (·.entry))
  constructor
  · intro h
    refine ⟨happrovals.mp ?_, hreplays.mp ?_, hreceipts.mp ?_, fun replay hmem hkind => ?_⟩
    · intro key approval hmem
      obtain ⟨approval, happroval, heq⟩ := List.mem_map.mp hmem
      cases heq
      exact h.approvals approval happroval
    · intro key fingerprint hmem
      obtain ⟨replay, hreplay, heq⟩ := List.mem_map.mp hmem
      obtain ⟨hreplay, hkind⟩ := List.mem_filter.mp hreplay
      cases heq
      have hheld := h.replays replay hreplay
      unfold HoldsReplay at hheld
      rw [of_decide_eq_true hkind] at hheld
      exact hheld
    · intro key receipt hmem
      obtain ⟨receipt, hreceipt, heq⟩ := List.mem_map.mp hmem
      cases heq
      exact h.receipts receipt hreceipt
    · have hheld := h.replays replay hmem
      unfold HoldsReplay at hheld ⊢
      rw [hkind] at hheld ⊢
      exact hheld
  · rintro ⟨hconsistent, hconsistent', hconsistent'', hevents⟩
    refine ⟨?_, fun event hmem => ?_, fun decision hmem => ?_, fun approval hmem => ?_,
      fun replay hmem => ?_, fun receipt hmem => ?_⟩
    · have htrace : (staged transition stored).traceId = transition.traceId :=
        transition.state_traceId
      simp only [committed, persistState]
      rw [← htrace, Dict.get?_set_self]
    · exact List.mem_append_right _ hmem
    · exact List.mem_append_right _ hmem
    · exact happrovals.mpr hconsistent _ _ (List.mem_map.mpr ⟨approval, hmem, rfl⟩)
    · cases hkind : replay.kind with
      | approval =>
          unfold HoldsReplay
          rw [hkind]
          refine hreplays.mpr hconsistent' _ _ (List.mem_map.mpr ⟨replay, ?_, rfl⟩)
          exact List.mem_filter.mpr ⟨hmem, decide_eq_true hkind⟩
      | event =>
          have hheld := hevents replay hmem hkind
          unfold HoldsReplay at hheld ⊢
          rw [hkind] at hheld ⊢
          exact hheld
    · exact hreceipts.mpr hconsistent'' _ _ (List.mem_map.mpr ⟨receipt, hmem, rfl⟩)

/-- A transition commits all of its records or none exactly when it is refused before the
first write or settles. -/
theorem commitTransition_atomic (store : MemoryTraceStore) (transition : TraceTransition) :
    store.AllOrNothing transition ↔
      ∀ stored head, store.Admits transition stored head → store.Settles transition := by
  unfold AllOrNothing
  have hends := commitTransition_ends store transition
  generalize store.commitTransition transition = reply at hends ⊢
  cases hends with
  | refused x none_admitted =>
      refine iff_of_true ⟨rfl, rfl, rfl, rfl, rfl⟩ fun stored head hadmits => ?_
      exact absurd hadmits (none_admitted stored head)
  | clashed x admits first =>
      refine sameTables_withRecords_iff.trans ⟨fun hheld stored head _ => ⟨?_, ?_⟩, ?_⟩
      · exact fun hcompatible => absurd hcompatible first.not_compatible
      · intro before' first'
        rw [← first.unique first']
        exact hheld
      · intro hsettles
        exact (hsettles _ _ admits).clashed _ first
  | returned admits compatible =>
      refine holdsRecords_committed_iff.trans ⟨fun hheld stored head _ => ⟨?_, ?_⟩, ?_⟩
      · exact fun _ => hheld
      · exact fun before first => absurd compatible first.not_compatible
      · intro hsettles
        exact (hsettles _ _ admits).returned compatible

end Atomicity

end MemoryTraceStore

namespace Demo

/-- An approval of the demo booking. -/
def stagedApproval : ApprovalRecord :=
  { approvalId := "APR-1", traceId := "TRACE-1"
    preparedActionId := "PREP-ORD-8842-QUOTE-COLD-01", actionHash := "", stateHash := ""
    policyVersion := "demo-v1", reasonCode := "SPEND_APPROVAL_REQUIRED"
    status := .pendingApproval, createdAt := 0, expiresAt := 0 }

/-- The receipt of a plan, for some vehicle. -/
def planReceipt (vehicleId : String) : EffectReceipt :=
  { traceId := "TRACE-1", toolName := "create_dispatch_plan", keyHash := "plan"
    fingerprint := vehicleId, result := [("vehicle_id", .str vehicleId)], createdAt := 0 }

/-- A repository with the demo run and the receipt of its plan. -/
def planned : MemoryTraceStore :=
  (MemoryTraceStore.putEffectReceipt (MemoryTraceStore.createRun {} started 0).2
    (planReceipt "VEH-COLD-01")).2

/-- A transition that brings an approval and another receipt under the plan's key. -/
def replanning : TraceTransition :=
  { traceId := "TRACE-1", expectedRevision := 0, state := started
    approvalUpserts := [stagedApproval]
    effectReceipts := [planReceipt "VEH-SMALL-01"]
    state_traceId := rfl
    events_traceId := by simp
    decisions_traceId := by simp
    approvals_traceId := by simp [stagedApproval]
    replays_traceId := by simp
    receipts_traceId := by simp [planReceipt] }

end Demo

/-- A transition that raises at its receipt has stored its approval. -/
theorem commitTransition_not_atomic : ¬ Demo.planned.AllOrNothing Demo.replanning := by
  intro h
  have hreply : Demo.planned.commitTransition Demo.replanning =
      (.error MemoryTraceStore.receiptExists, Demo.planned.withRecords Demo.replanning []) := rfl
  unfold MemoryTraceStore.AllOrNothing at h
  rw [hreply] at h
  have hstored : (Demo.planned.withRecords Demo.replanning []).approvals.get? "APR-1" =
      some Demo.stagedApproval := rfl
  rw [h.approvals_eq] at hstored
  cases hstored

end Manifest
