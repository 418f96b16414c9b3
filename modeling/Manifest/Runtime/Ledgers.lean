import Manifest.Governor.Stages
import Manifest.Ledger.ReplayProtection
import Manifest.Ledger.Usability
import Manifest.Runtime.Invariants

/-!
# The ledgers of a service

Whatever is asked of the service, each trace it stores verifies and can be extended, no event
or decision occurs twice in it, and a keyed append is carried out once: every write of a run is
made by a caller whose ledger fields are the stored ones.

Main results:

- Theorem `World.serviceInvariant`: coherent repositories are kept by every write of a caller
  that holds the stored ledger.
- Theorem `ledgers_coherent`: the repository that processes leave behind, at every moment.
-/

set_option autoImplicit false

namespace Manifest

open Interaction HashChain

namespace World

variable [Sha256]

/-! ## Coherent repositories -/

/-- The ledger of a stored run: its chain leads to the stored head, its next append follows
that head, and its events were numbered by the host. -/
structure LedgerSound (host : Host) (w : World) (traceId : String) (run : TrajectoryState) :
    Prop where
  traceId_eq : run.traceId = traceId
  chain : ∃ head, w.store.heads.get? traceId = some head ∧ ChainHolds traceId run.events head ∧
    run.nextSequence = head.sequence + 1
  drawn : ∀ event ∈ run.events, ∃ n < w.ticks traceId,
    event.eventId = "EVT-" ++ host.uuid4 traceId n
  eventIds : (run.events.map (·.eventId)).Nodup
  decisionIds : (run.decisions.map (·.decisionId)).Nodup

/-- A repository all of whose ledgers are sound, and whose replay table covers them. -/
structure Coherent (host : Host) (w : World) : Prop where
  tracked : w.store.Tracked
  sound : ∀ traceId run, w.stored traceId = some run → w.LedgerSound host traceId run

/-- In a coherent repository, a caller whose ledger fields are the stored ones. -/
def Holding (host : Host) (state : TrajectoryState) (w : World) : Prop :=
  w.Coherent host ∧ ∃ run, w.stored state.traceId = some run ∧ run.ledger = state.ledger

section Coherent

variable {host : Host} {w w' : World} {traceId : String} {run : TrajectoryState}

theorem LedgerSound.later (h : w.LedgerSound host traceId run)
    (hhead : w'.store.heads.get? traceId = w.store.heads.get? traceId)
    (hticks : w.ticks traceId ≤ w'.ticks traceId) : w'.LedgerSound host traceId run where
  traceId_eq := h.traceId_eq
  chain := by
    rw [hhead]
    exact h.chain
  drawn := by
    intro event hmem
    obtain ⟨n, hn, hid⟩ := h.drawn event hmem
    exact ⟨n, hn.trans_le hticks, hid⟩
  eventIds := h.eventIds
  decisionIds := h.decisionIds

/-- What is not written stays sound. -/
theorem Coherent.unwritten (h : w.Coherent host) (hruns : w'.store.runs = w.store.runs)
    (hheads : w'.store.heads = w.store.heads)
    (hreplays : w'.store.eventReplays = w.store.eventReplays)
    (hticks : ∀ scope, w.ticks scope ≤ w'.ticks scope) : w'.Coherent host where
  tracked :=
    ⟨fun traceId stored key hrun => h.tracked.once traceId stored key (hruns ▸ hrun),
      fun traceId stored event key hrun hmem =>
        hreplays ▸ h.tracked.recorded traceId stored event key (hruns ▸ hrun) hmem⟩
  sound := by
    intro traceId run hrun
    rw [World.stored, hruns] at hrun
    exact (h.sound traceId run hrun).later (by rw [hheads]) (hticks traceId)

/-- A write of one run. -/
theorem Coherent.write (h : w.Coherent host) (htracked : w'.store.Tracked)
    (hruns : w'.store.runs = w.store.runs.set traceId run)
    (hheads : ∀ other, other ≠ traceId →
      w'.store.heads.get? other = w.store.heads.get? other)
    (hticks : ∀ scope, w.ticks scope ≤ w'.ticks scope)
    (hsound : w'.LedgerSound host traceId run) : w'.Coherent host where
  tracked := htracked
  sound := by
    intro other run' hrun'
    rw [stored_set hruns] at hrun'
    split_ifs at hrun' with hother
    · cases hrun'
      exact hother ▸ hsound
    · exact (h.sound other run' hrun').later (hheads other hother) (hticks other)

/-- A write that leaves the events of the run as they are stored. -/
theorem Coherent.rewrite (h : w.Coherent host) {run' : TrajectoryState}
    (hrun : w.stored traceId = some run)
    (hruns : w'.store.runs = w.store.runs.set traceId run') (htrace : run'.traceId = traceId)
    (hevents : run'.events = run.events) (hnext : run'.nextSequence = run.nextSequence)
    (hdecisions : (run'.decisions.map (·.decisionId)).Nodup)
    (hheads : w'.store.heads = w.store.heads)
    (hreplays : w'.store.eventReplays = w.store.eventReplays) (hticks : w'.ticks = w.ticks) :
    w'.Coherent host := by
  have hsound := h.sound traceId run hrun
  refine h.write (h.tracked.set_run traceId run' (fun key => ?_) hruns hreplays) hruns
    (fun other _ => by rw [hheads]) (fun scope => by rw [hticks]) ?_
  · rw [hevents]
    exact ⟨h.tracked.once traceId run key hrun,
      fun event hmem => h.tracked.recorded traceId run event key hrun hmem⟩
  · refine ⟨htrace, ?_, ?_, by rw [hevents]; exact hsound.eventIds, hdecisions⟩
    · rw [hheads, hevents, hnext]
      exact hsound.chain
    · rw [hevents, hticks]
      exact hsound.drawn

theorem Holding.unwritten {state : TrajectoryState} (h : w.Holding host state)
    (hruns : w'.store.runs = w.store.runs) (hheads : w'.store.heads = w.store.heads)
    (hreplays : w'.store.eventReplays = w.store.eventReplays)
    (hticks : ∀ scope, w.ticks scope ≤ w'.ticks scope) : w'.Holding host state := by
  refine ⟨h.1.unwritten hruns hheads hreplays hticks, ?_⟩
  rw [World.stored, hruns]
  exact h.2

end Coherent

/-! ## What the effects write -/

omit [Sha256] in
theorem ticks_tick_self (w : World) (scope : String) :
    (w.tick scope).ticks scope = w.ticks scope + 1 :=
  Function.update_self ..

section Effects

variable {loader : FixtureLoader} {host : Host} {w : World}

/-- Effects that write no state leave every table of the ledgers alone. -/
theorem tables_of_quiet (loader : FixtureLoader) (host : Host) {β : Type} (o : Op β) (w : World)
    (ho : quietOp β o) :
    let w' := (World.handle loader host β o w).2
    w'.store.runs = w.store.runs ∧ w'.store.heads = w.store.heads ∧
      w'.store.eventReplays = w.store.eventReplays ∧ ∀ scope, w.ticks scope ≤ w'.ticks scope := by
  cases o with
  | createRun state => exact ho.elim
  | appendEvent state spec => exact ho.elim
  | appendDecision state decision => exact ho.elim
  | addApproval state approval => exact ho.elim
  | replaceApproval approval => exact ho.elim
  | putEffectReceipt receipt =>
      dsimp only [World.handle]
      unfold MemoryTraceStore.putEffectReceipt
      split
      · split <;> exact ⟨rfl, rfl, rfl, fun _ => le_rfl⟩
      · split <;> exact ⟨rfl, rfl, rfl, fun _ => le_rfl⟩
  | utcNow scope => exact ⟨rfl, rfl, rfl, w.ticks_le_tick scope⟩
  | nowFn scope => exact ⟨rfl, rfl, rfl, w.ticks_le_tick scope⟩
  | uuid4 scope => exact ⟨rfl, rfl, rfl, w.ticks_le_tick scope⟩
  | elapsedMs scope => exact ⟨rfl, rfl, rfl, w.ticks_le_tick scope⟩
  | invokeModel scope role phase => exact ⟨rfl, rfl, rfl, w.ticks_le_tick scope⟩
  | _ => exact ⟨rfl, rfl, rfl, fun _ => le_rfl⟩

/-- So does the replacement of an approval. -/
theorem tables_of_replace (loader : FixtureLoader) (host : Host) (approval : ApprovalRecord)
    (w : World) :
    let w' := (World.handle loader host _ (.replaceApproval approval) w).2
    w'.store.runs = w.store.runs ∧ w'.store.heads = w.store.heads ∧
      w'.store.eventReplays = w.store.eventReplays ∧ ∀ scope, w.ticks scope ≤ w'.ticks scope := by
  dsimp only [World.handle]
  unfold MemoryTraceStore.replaceApproval
  split
  · exact ⟨rfl, rfl, rfl, fun _ => le_rfl⟩
  · split <;> exact ⟨rfl, rfl, rfl, fun _ => le_rfl⟩

/-- A chain is extended by the event built on its head. -/
theorem chainHolds_built {state : TrajectoryState} {events : List TraceEvent} {head : LedgerHead}
    (h : ChainHolds state.traceId events head) (spec : EventSpec) (now : Timestamp)
    (eventId : String) :
    let event := MemoryTraceStore.buildEvent state head spec now eventId
    ChainHolds state.traceId (events ++ [event])
      (MemoryTraceStore.headOf event (events ++ [event]).length) := by
  intro event
  have hsequence : event.sequence = events.length + 1 := congrArg (· + 1) h.sequence_eq
  have hwell : WellFormed state.traceId (1 + events.length) event :=
    ⟨by rw [hsequence, Nat.add_comm], rfl, rfl, rfl⟩
  refine ⟨?_, ?_, rfl, ?_, ?_, rfl⟩
  · exact MemoryTraceStore.wellFormedFrom_append.mpr ⟨h.wellFormed, hwell, trivial⟩
  · exact linked_append_singleton.mpr ⟨h.linked, h.eventHash_eq⟩
  · show event.sequence = _
    rw [hsequence, List.length_append, List.length_singleton]
  · show event.eventHash = _
    rw [tip_append_singleton]
    rfl

omit [Sha256] in
/-- Another event of a caller that holds the stored events: it is new to them. -/
theorem eventIds_append {events : List TraceEvent} {traceId : String} {event : TraceEvent}
    (hdrawn : ∀ other ∈ events, ∃ n < w.ticks traceId,
      other.eventId = "EVT-" ++ host.uuid4 traceId n)
    (hids : (events.map (·.eventId)).Nodup)
    (hevent : event.eventId = "EVT-" ++ host.uuid4 traceId (w.ticks traceId)) :
    ((events ++ [event]).map (·.eventId)).Nodup := by
  rw [List.map_append, List.nodup_append]
  refine ⟨hids, List.nodup_singleton _, ?_⟩
  rintro id hid other hother rfl
  obtain ⟨earlier, hmem, rfl⟩ := List.mem_map.mp hid
  obtain ⟨n, hn, hdraw⟩ := hdrawn earlier hmem
  have hsame : "EVT-" ++ host.uuid4 traceId n = "EVT-" ++ host.uuid4 traceId (w.ticks traceId) := by
    rw [← hdraw, ← hevent]
    simpa using hother
  have huuid := String.append_right_inj "EVT-" |>.mp hsame
  exact absurd (host.uuid4_injective huuid).2 hn.ne

/-- An append answers without an effect, or commits the event built on the stored head, having
found no replay. -/
theorem appendEvent_answers (store : MemoryTraceStore) (state : TrajectoryState)
    (spec : EventSpec) (now : Timestamp) (eventId : String) :
    (∃ reply, store.appendEvent state spec now eventId = ((reply, state), store)) ∨
    ∃ head, store.heads.get? state.traceId = some head ∧ store.findReplay state spec = none ∧
      store.appendEvent state spec now eventId =
        store.commitEvent state (MemoryTraceStore.buildEvent state head spec now eventId) spec := by
  unfold MemoryTraceStore.appendEvent
  cases store.assertRevision state with
  | error x => exact .inl ⟨_, rfl⟩
  | ok u =>
      cases store.findReplay state spec with
      | some replay =>
          obtain ⟨key, fingerprint, event⟩ := replay
          dsimp only
          split_ifs
          · exact .inl ⟨_, rfl⟩
          · exact .inl ⟨_, rfl⟩
      | none =>
          cases store.heads.get? state.traceId with
          | none => exact .inl ⟨_, rfl⟩
          | some head =>
              dsimp only
              split_ifs
              · exact .inl ⟨_, rfl⟩
              · exact .inr ⟨head, rfl, rfl, rfl⟩

/-- An append by a caller that holds the stored ledger. -/
theorem holding_appendEvent (spec : EventSpec) :
    Proc.Maintains (World.handle loader host) (Holding host) (Py.appendEvent spec) := by
  rintro state w ⟨hcoherent, run, hrun, hledger⟩
  rw [Py.exec_appendEvent]
  simp only [World.handle]
  have hticks (scope : String) := w.ticks_le_tick state.traceId scope
  have hsound := hcoherent.sound state.traceId run hrun
  obtain ⟨head, hhead, hchain, hnext⟩ := hsound.chain
  have hevents : run.events = state.events := congrArg LedgerFields.events hledger
  have hdecisions : run.decisions = state.decisions := congrArg LedgerFields.decisions hledger
  rcases appendEvent_answers w.store state spec
    (host.utcNow state.traceId (w.ticks state.traceId))
    ("EVT-" ++ host.uuid4 state.traceId (w.ticks state.traceId)) with
    ⟨reply, heq⟩ | ⟨head', hhead', hreplay, heq⟩
  · rw [heq]
    exact ⟨hcoherent.unwritten rfl rfl rfl hticks, run, hrun, hledger⟩
  · rw [heq]
    obtain rfl := Option.some.inj (hhead.symm.trans hhead')
    have htracked : (w.store.commitEvent state (MemoryTraceStore.buildEvent state head spec
        (host.utcNow state.traceId (w.ticks state.traceId))
        ("EVT-" ++ host.uuid4 state.traceId (w.ticks state.traceId))) spec).2.Tracked :=
      hcoherent.tracked.commitEvent hrun hreplay (fun key => by rw [hevents]) _ _
    generalize hbuilt : MemoryTraceStore.buildEvent state head spec
      (host.utcNow state.traceId (w.ticks state.traceId))
      ("EVT-" ++ host.uuid4 state.traceId (w.ticks state.traceId)) = event at htracked ⊢
    have hid : event.eventId = "EVT-" ++ host.uuid4 state.traceId (w.ticks state.traceId) := by
      rw [← hbuilt]
      rfl
    have hchain' := chainHolds_built (hevents ▸ hchain) spec
      (host.utcNow state.traceId (w.ticks state.traceId))
      ("EVT-" ++ host.uuid4 state.traceId (w.ticks state.traceId))
    rw [hbuilt] at hchain'
    have hdrawn {n : Nat} (hn : n ≤ w.ticks state.traceId) :
        n < (w.tick state.traceId).ticks state.traceId := by
      rw [ticks_tick_self]
      omega
    refine ⟨hcoherent.write htracked rfl (fun other hother => Dict.get?_set_ne _ _ hother) hticks
      ?_,
      _, Dict.get?_set_self .., rfl⟩
    refine ⟨rfl, ⟨_, Dict.get?_set_self .., hchain', rfl⟩, ?_, ?_, ?_⟩
    · intro other hmem
      rcases List.mem_append.mp hmem with hmem | hmem
      · obtain ⟨n, hn, hdraw⟩ := hsound.drawn other (hevents ▸ hmem)
        exact ⟨n, hdrawn hn.le, hdraw⟩
      · obtain rfl := List.mem_singleton.mp hmem
        exact ⟨w.ticks state.traceId, hdrawn le_rfl, hid⟩
    · exact eventIds_append (hevents ▸ hsound.drawn) (hevents ▸ hsound.eventIds) hid
    · exact hdecisions ▸ hsound.decisionIds

/-- A decision, which the repository takes only under a new identifier. -/
theorem holding_appendDecision (decision : Decision) :
    Proc.Maintains (World.handle loader host) (Holding host) (Py.appendDecision decision) := by
  rintro state w ⟨hcoherent, run, hrun, hledger⟩
  rw [Py.exec_appendDecision]
  simp only [World.handle]
  have hsound := hcoherent.sound state.traceId run hrun
  have hevents : run.events = state.events := congrArg LedgerFields.events hledger
  have hdecisions : run.decisions = state.decisions := congrArg LedgerFields.decisions hledger
  have hnext : run.nextSequence = state.nextSequence := congrArg LedgerFields.nextSequence hledger
  unfold MemoryTraceStore.appendDecision
  cases w.store.assertRevision state with
  | error x => exact ⟨hcoherent, run, hrun, hledger⟩
  | ok u =>
      dsimp only
      split_ifs with hknown
      · exact ⟨hcoherent, run, hrun, hledger⟩
      · refine ⟨hcoherent.rewrite hrun rfl rfl hevents.symm hnext.symm ?_ rfl rfl rfl, _,
          Dict.get?_set_self .., rfl⟩
        show ((state.decisions ++ [decision]).map (·.decisionId)).Nodup
        rw [List.map_append, List.nodup_append]
        refine ⟨hdecisions ▸ hsound.decisionIds, List.nodup_singleton _, ?_⟩
        rintro id hid other hother rfl
        obtain ⟨earlier, hmem, hsame⟩ := List.mem_map.mp hid
        refine hknown (List.any_eq_true.mpr ⟨earlier, hmem, ?_⟩)
        rw [hsame]
        simpa using hother

/-- The registration of an approval writes the caller's run again. -/
theorem holding_addApproval (approval : ApprovalRecord) :
    Proc.Maintains (World.handle loader host) (Holding host) (Py.addApproval approval) := by
  rintro state w ⟨hcoherent, run, hrun, hledger⟩
  show Holding host (state.withLedger _)
    (World.handle loader host _ (.addApproval state approval) w).2
  simp only [World.handle]
  have hsound := hcoherent.sound state.traceId run hrun
  have hevents : run.events = state.events := congrArg LedgerFields.events hledger
  have hdecisions : run.decisions = state.decisions := congrArg LedgerFields.decisions hledger
  have hnext : run.nextSequence = state.nextSequence := congrArg LedgerFields.nextSequence hledger
  unfold MemoryTraceStore.addApproval
  cases w.store.assertRevision state with
  | error x => exact ⟨hcoherent, run, hrun, hledger⟩
  | ok u =>
      dsimp only
      split_ifs
      · exact ⟨hcoherent, run, hrun, hledger⟩
      · exact ⟨hcoherent.rewrite hrun rfl rfl hevents.symm hnext.symm
          (hdecisions ▸ hsound.decisionIds) rfl rfl rfl, _, Dict.get?_set_self .., rfl⟩

/-- A new run is stored with a head of its own. -/
theorem createRun_holding (state : TrajectoryState) (w : World) (hevents : state.events = [])
    (hdecisions : state.decisions = []) (h : w.Coherent host) :
    match (World.handle loader host _ (.createRun state) w).1.1 with
    | .error _ => (World.handle loader host _ (.createRun state) w).2.Coherent host
    | .ok _ => (World.handle loader host _ (.createRun state) w).2.Holding host
        (state.withLedger (World.handle loader host _ (.createRun state) w).1.2) := by
  have hticks (scope : String) := w.ticks_le_tick state.traceId scope
  have htracked := h.tracked.createRun state
    (host.utcNow state.traceId (w.ticks state.traceId))
  simp only [World.handle]
  unfold MemoryTraceStore.createRun at htracked ⊢
  split_ifs at htracked ⊢ with hexists hbegun
  · exact h.unwritten rfl rfl rfl hticks
  · exact h.unwritten rfl rfl rfl hticks
  · have hnext : state.nextSequence = 1 := by
      simp only [Bool.or_eq_true, decide_eq_true_eq, not_or, not_not] at hbegun
      exact hbegun.2
    refine ⟨h.write htracked rfl (fun other hother => Dict.get?_set_ne _ _ hother) hticks ?_, _,
      Dict.get?_set_self .., rfl⟩
    refine ⟨rfl, ⟨_, Dict.get?_set_self .., ?_, hnext⟩, ?_, ?_, ?_⟩
    · rw [hevents]
      exact ⟨trivial, trivial, rfl, rfl, rfl, rfl⟩
    · simp [hevents]
    · simp [hevents]
    · simp [hdecisions]

/-- Coherent repositories are kept by every write of a caller that holds the stored ledger. -/
theorem serviceInvariant (loader : FixtureLoader) (host : Host) :
    ServiceInvariant (World.handle loader host) (Holding host) (Coherent host) where
  same := by
    rintro s s' w htrace hledger ⟨hcoherent, run, hrun, hsame⟩
    exact ⟨hcoherent, run, htrace ▸ hrun, hsame.trans hledger.symm⟩
  event := holding_appendEvent
  decision := holding_appendDecision
  approval := holding_addApproval
  quiet β o s w ho h := by
    obtain ⟨hruns, hheads, hreplays, hticks⟩ := tables_of_quiet loader host o w ho
    exact h.unwritten hruns hheads hreplays hticks
  idle h := h.1
  calm β o w ho h := by
    obtain ⟨hruns, hheads, hreplays, hticks⟩ := tables_of_quiet loader host o w ho
    exact h.unwritten hruns hheads hreplays hticks
  replaced approval w h := by
    obtain ⟨hruns, hheads, hreplays, hticks⟩ := tables_of_replace loader host approval w
    exact h.unwritten hruns hheads hreplays hticks
  kept approval s w h := by
    obtain ⟨hruns, hheads, hreplays, hticks⟩ := tables_of_replace loader host approval w
    exact h.unwritten hruns hheads hreplays hticks
  loaded traceId w state h hload := by
    show w.Holding host state
    have hload : w.store.loadTrace traceId = .ok state := hload
    unfold MemoryTraceStore.loadTrace at hload
    split at hload
    · rename_i stored hstored
      cases hload
      exact ⟨h, _, (h.sound traceId _ hstored).traceId_eq ▸ hstored, rfl⟩
    · cases hload
  created := createRun_holding

end Effects

end World

/-! ## The repositories a service leaves behind -/

/-- The worlds that processes go through: a service serves a call up to some effect, whichever
roles it runs, and a process restarts. -/
inductive Reached [Sha256] (host : Host) : World → Prop where
  | empty {w : World} (hempty : w.store = {}) : Reached host w
  | served {w w' : World} {g : Governor} {settings : RuntimeSettings} (loader : FixtureLoader)
      (service : RunService) (call : ServiceCall)
      (hroles : service.orchestrator.agents = legacyAgents g ∨
        service.orchestrator.agents = strandsAgents g settings)
      (hbefore : Reached host w)
      (hduring : w' ∈ ((service.serve call).exec (Chronicle.handle loader host) ()
        { world := w }).env.history) : Reached host w'
  | restarted {w : World} (hbefore : Reached host w) : Reached host w.restart

section Reached

variable [Sha256] {host : Host} {w : World}

theorem World.coherent_of_empty (hempty : w.store = {}) : w.Coherent host := by
  refine ⟨hempty ▸ MemoryTraceStore.Tracked.empty, fun traceId run hrun => ?_⟩
  rw [World.stored, hempty] at hrun
  simp at hrun

theorem World.Coherent.verifies (h : w.Coherent host) {traceId : String} {run : TrajectoryState}
    (hrun : w.stored traceId = some run) : w.store.Verifies traceId := by
  obtain ⟨head, hhead, hchain, -⟩ := (h.sound traceId run hrun).chain
  exact MemoryTraceStore.verifies_iff.mpr ⟨run, head, hrun, hhead, hchain⟩

theorem Reached.coherent (h : Reached host w) : w.Coherent host := by
  induction h with
  | empty hempty => exact World.coherent_of_empty hempty
  | served loader service call hroles hbefore hduring ih =>
      refine (World.serviceInvariant loader host).chronicled.serve hroles call () _ ?_ _ hduring
      intro w' hmem
      exact List.mem_singleton.mp hmem ▸ ih
  | restarted hbefore ih => exact ih.unwritten rfl rfl rfl fun _ => le_rfl

/-- However processes serve calls, crash between two effects and restart: every stored trace
verifies, its stored state can be extended by any event whose key is unused, no event or
decision occurs twice in it, and replay protection holds. -/
theorem ledgers_coherent (h : Reached host w) :
    w.store.ReplayProtected ∧ ∀ traceId run, w.stored traceId = some run →
      w.store.Verifies traceId ∧ w.store.Extends run ∧
        (run.events.map (·.eventId)).Nodup ∧ (run.decisions.map (·.decisionId)).Nodup := by
  have hcoherent := h.coherent
  refine ⟨hcoherent.tracked.protected, fun traceId run hrun => ?_⟩
  have hsound := hcoherent.sound traceId run hrun
  obtain ⟨head, hhead, hchain, hnext⟩ := hsound.chain
  refine ⟨hcoherent.verifies hrun, ?_, hsound.eventIds, hsound.decisionIds⟩
  have htrace := hsound.traceId_eq
  exact (MemoryTraceStore.extends_iff (htrace.symm ▸ hrun) rfl (htrace.symm ▸ hhead)).mpr hnext

end Reached

namespace Demo

/-- The chronicle of the demo journey with hosted roles. -/
def journey : Chronicle :=
  ((hostedService.serve (.startRun "T" "ORD-8842" "enforce" "adversarial")).exec
    (Chronicle.handle loader (sweepingHost 40)) () { world := {} }).env

theorem journey_stored : (journey.world.restart.stored "TR--T").isSome = true := by
  decide +kernel

theorem journey_reached : Reached (sweepingHost 40) journey.world.restart := by
  refine .restarted (.served loader hostedService
    (.startRun "T" "ORD-8842" "enforce" "adversarial") (.inr rfl) (.empty (w := {}) rfl) ?_)
  exact Chronicle.world_mem_history journey

end Demo

/-- The demo journey, which escalates, and the restart of its process. -/
theorem ledgers_coherent_journey :
    (Demo.journey.world.restart.stored "TR--T").isSome = true ∧
      Demo.journey.world.restart.store.ReplayProtected ∧
      ∀ traceId run, Demo.journey.world.restart.stored traceId = some run →
        Demo.journey.world.restart.store.Verifies traceId ∧
          Demo.journey.world.restart.store.Extends run ∧
          (run.events.map (·.eventId)).Nodup ∧ (run.decisions.map (·.decisionId)).Nodup :=
  ⟨Demo.journey_stored, ledgers_coherent Demo.journey_reached⟩

end Manifest
