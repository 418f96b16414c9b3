import Manifest.Governor.Maintained
import Manifest.Lib.Interleaving
import Mathlib.Data.List.Chain

/-!
# The lifecycle of stored runs

A run's status follows a table, and a run that has ended keeps its events.  Both are
statements about the worlds a process goes through, one after each effect; a chronicle
keeps them.

Main results:

- Theorem `Chronicle.Sound.final`: along lawful steps, what has ended stays as it is.
- Theorems `Chronicle.appendEvent_meets`, `appendDecision_meets` and `addApproval_meets`: what a
  write does to a sound chronicle.
-/

set_option autoImplicit false

namespace Manifest

open Interaction

/-! ## Statuses and endings -/

/-- The statuses a run ends in. -/
def RunStatus.ended : RunStatus → Bool
  | .completed => true
  | .blocked => true
  | .cancelled => true
  | .failed => true
  | _ => false

/-- The table of status changes. -/
def RunStatus.leadsTo : RunStatus → RunStatus → Bool
  | .running, .pendingApproval => true
  | .running, .completed => true
  | .running, .blocked => true
  | .running, .failed => true
  | .pendingApproval, .running => true
  | .pendingApproval, .cancelled => true
  | _, _ => false

/-- Whether an event that ends the run was appended. -/
def TrajectoryState.ended (run : TrajectoryState) : Bool :=
  run.events.any fun event => event.eventType.endsRun

/-- The stored run of a trace. -/
def World.stored (w : World) (traceId : String) : Option TrajectoryState :=
  w.store.runs.get? traceId

/-! ## Lawful steps -/

/-- One write of a run: its status stays or follows the table, and at most one event is
appended, to a run that has not ended. -/
structure RunStep (run run' : TrajectoryState) : Prop where
  status : run'.status = run.status ∨ run.status.leadsTo run'.status = true
  events : run'.events = run.events ∨
    run.ended = false ∧ ∃ event, run'.events = run.events ++ [event]

theorem RunStep.refl (run : TrajectoryState) : RunStep run run :=
  ⟨.inl rfl, .inl rfl⟩

/-- One step of a world: no run is lost, every stored run makes a step of its own, and new
runs are running and empty. -/
structure Lawful (w w' : World) : Prop where
  kept : ∀ traceId run, w.stored traceId = some run →
    ∃ run', w'.stored traceId = some run' ∧ RunStep run run'
  started : ∀ traceId run', w.stored traceId = none → w'.stored traceId = some run' →
    run'.status = .running ∧ run'.events = []

/-- Runs that have ended keep their events. -/
def Final (w w' : World) : Prop :=
  ∀ traceId run, w.stored traceId = some run → run.ended = true →
    ∃ run', w'.stored traceId = some run' ∧ run'.events = run.events

/-- The lifecycle along a history: each step is lawful, and whatever has ended in an earlier
world keeps its events in every later one. -/
structure TerminalIsFinal (history : List World) : Prop where
  steps : history.IsChain Lawful
  final : history.Pairwise Final

theorem ended_congr {run run' : TrajectoryState} (h : run'.events = run.events) :
    run'.ended = run.ended := by
  unfold TrajectoryState.ended
  rw [h]

theorem Lawful.final {w w' : World} (h : Lawful w w') : Final w w' := by
  intro traceId run hstored hended
  obtain ⟨run', hstored', hstep⟩ := h.kept traceId run hstored
  rcases hstep.events with hevents | ⟨hopen, -⟩
  · exact ⟨run', hstored', hevents⟩
  · rw [hended] at hopen
    cases hopen

theorem Final.trans {w w' w'' : World} (h : Final w w') (h' : Final w' w'') : Final w w'' := by
  intro traceId run hstored hended
  obtain ⟨run', hstored', hevents⟩ := h traceId run hstored hended
  obtain ⟨run'', hstored'', hevents'⟩ :=
    h' traceId run' hstored' ((ended_congr hevents).trans hended)
  exact ⟨run'', hstored'', hevents'.trans hevents⟩

instance : Trans Final Final Final :=
  ⟨Final.trans⟩

/-- Steps decide the whole history. -/
theorem TerminalIsFinal.of_steps {history : List World} (h : history.IsChain Lawful) :
    TerminalIsFinal history :=
  ⟨h, (h.imp fun _ _ hstep => hstep.final).pairwise⟩

/-- No event follows one that ends the run. -/
def EndsLast (run : TrajectoryState) : Prop :=
  ∀ event ∈ run.events.dropLast, event.eventType.endsRun = false

theorem RunStep.endsLast {run run' : TrajectoryState} (h : RunStep run run')
    (hlast : EndsLast run) : EndsLast run' := by
  unfold EndsLast at hlast ⊢
  rcases h.events with hsame | ⟨hopen, event, hone⟩
  · rwa [hsame]
  · rw [hone, List.dropLast_concat]
    simpa [TrajectoryState.ended] using hopen

/-- From a world without runs, lawful steps lead to runs whose ending comes last. -/
theorem endsLast_of_steps {w : World} {rest : List World} (h : (w :: rest).IsChain Lawful)
    (hfirst : ∀ traceId run, w.stored traceId = some run → EndsLast run) :
    ∀ w' ∈ w :: rest, ∀ traceId run, w'.stored traceId = some run → EndsLast run := by
  induction rest generalizing w with
  | nil => simpa using hfirst
  | cons next rest ih =>
      obtain ⟨hstep, hrest⟩ := List.isChain_cons_cons.mp h
      have hnext : ∀ traceId run, next.stored traceId = some run → EndsLast run := by
        intro traceId run' hrun'
        cases hrun : w.stored traceId with
        | none =>
            unfold EndsLast
            simp [(hstep.started traceId run' hrun hrun').2]
        | some run =>
            obtain ⟨other, hother, hone⟩ := hstep.kept traceId run hrun
            rw [hrun'] at hother
            cases hother
            exact hone.endsLast (hfirst traceId run hrun)
      intro w' hw'
      rcases List.mem_cons.mp hw' with rfl | hw'
      · exact hfirst
      · exact ih hrest hnext w' hw'

/-! ### Steps of the repository -/

section Steps

variable {w w' : World}

theorem Lawful.of_runs_eq (h : w'.store.runs = w.store.runs) : Lawful w w' := by
  have hstored : ∀ traceId, w'.stored traceId = w.stored traceId := by
    intro traceId
    rw [World.stored, h, World.stored]
  refine ⟨fun traceId run hrun => ⟨run, (hstored traceId).trans hrun, .refl run⟩, ?_⟩
  intro traceId run' hnone hrun'
  rw [hstored traceId, hnone] at hrun'
  cases hrun'

theorem stored_set {traceId : String} {run' : TrajectoryState}
    (h : w'.store.runs = w.store.runs.set traceId run') (other : String) :
    w'.stored other = if other = traceId then some run' else w.stored other := by
  rw [World.stored, h, World.stored]
  split
  · rename_i heq
    rw [heq, Dict.get?_set_self]
  · rename_i hne
    exact Dict.get?_set_ne _ _ hne

/-- Another version of a stored run. -/
theorem Lawful.of_set {traceId : String} {run run' : TrajectoryState}
    (h : w'.store.runs = w.store.runs.set traceId run') (hrun : w.stored traceId = some run)
    (hstep : RunStep run run') : Lawful w w' := by
  constructor
  · intro other old hold
    rw [stored_set h]
    split
    · rename_i heq
      rw [heq, hrun] at hold
      cases hold
      exact ⟨run', rfl, hstep⟩
    · exact ⟨old, hold, .refl old⟩
  · intro other new hnone hnew
    rw [stored_set h] at hnew
    split at hnew
    · rename_i heq
      rw [heq, hrun] at hnone
      cases hnone
    · rw [hnone] at hnew
      cases hnew

/-- A new run. -/
theorem Lawful.of_create {traceId : String} {run' : TrajectoryState}
    (h : w'.store.runs = w.store.runs.set traceId run') (hfree : w.stored traceId = none)
    (hstatus : run'.status = .running) (hevents : run'.events = []) : Lawful w w' := by
  constructor
  · intro other old hold
    rw [stored_set h]
    split
    · rename_i heq
      rw [heq, hfree] at hold
      cases hold
    · exact ⟨old, hold, .refl old⟩
  · intro other new hnone hnew
    rw [stored_set h] at hnew
    split at hnew
    · cases hnew
      exact ⟨hstatus, hevents⟩
    · rw [hnone] at hnew
      cases hnew

end Steps

/-! ## Chronicles -/

/-- A world, the worlds before each effect so far, and the status of the run of each approval
an expired record replaced. -/
structure Chronicle where
  world : World
  past : List World := []
  expired : List RunStatus := []

namespace Chronicle

/-- The worlds in order, the present one last. -/
def history (c : Chronicle) : List World :=
  c.past ++ [c.world]

/-- The status of the run whose approval an effect expires. -/
def expiries (w : World) : {β : Type} → Op β → List RunStatus
  | _, .replaceApproval approval =>
      if approval.status = .expired then
        ((w.stored approval.traceId).map (·.status)).toList
      else []
  | _, _ => []

/-- The runtime's effects, chronicled. -/
def handle [Sha256] (loader : FixtureLoader) (host : Host) : Handler Op Chronicle :=
  fun β o c =>
    let reply := World.handle loader host β o c.world
    (reply.1,
      { world := reply.2, past := c.history, expired := c.expired ++ expiries c.world o })

/-- No approval was expired after its run had ended. -/
def Spared (c : Chronicle) : Prop :=
  ∀ status ∈ c.expired, status.ended = false

variable [Sha256] {loader : FixtureLoader} {host : Host}

/-- A chronicled procedure does what it does unobserved. -/
theorem exec_world {σ α : Type} {m : Proc Op PyError σ α} {s s' : σ} {c c' : Chronicle}
    {r : Except PyError α} (h : m.exec (handle loader host) s c = ⟨r, s', c'⟩) :
    m.exec (World.handle loader host) s c.world = ⟨r, s', c'.world⟩ :=
  Proc.exec_map (f := Chronicle.world) (fun _ _ _ => rfl) h

/-- A history only grows. -/
theorem history_of_exec {σ α : Type} (m : Proc Op PyError σ α) (s : σ) (c : Chronicle) :
    ∃ rest, (m.exec (handle loader host) s c).env.history = c.history ++ rest := by
  refine Proc.exec_rel (R := fun c c' : Chronicle => ∃ rest, c'.history = c.history ++ rest)
    (fun c => ⟨[], by simp⟩) ?_ ?_ m s c
  · rintro c₁ c₂ c₃ ⟨first, hfirst⟩ ⟨rest, hrest⟩
    exact ⟨first ++ rest, by rw [hrest, hfirst, List.append_assoc]⟩
  · intro β o c
    exact ⟨[(World.handle loader host β o c.world).2], rfl⟩

/-- What was not spared before is not spared later. -/
theorem spared_of_exec {σ α : Type} (m : Proc Op PyError σ α) (s : σ) (c : Chronicle)
    (h : (m.exec (handle loader host) s c).env.Spared) : c.Spared := by
  have hgrow : c.expired <+: (m.exec (handle loader host) s c).env.expired := by
    refine Proc.exec_rel (R := fun c c' : Chronicle => c.expired <+: c'.expired)
      (fun c => List.prefix_rfl) List.IsPrefix.trans ?_ m s c
    exact fun β o c => List.prefix_append ..
  exact fun status hstatus => h status (hgrow.mem hstatus)

/-! ## Sound chronicles -/

/-- Every step was lawful, every run is stored under its own trace, and only a run whose
status is final has ended. -/
structure Sound (c : Chronicle) : Prop where
  lawful : c.history.IsChain Lawful
  traceId_eq : ∀ traceId run, c.world.stored traceId = some run → run.traceId = traceId
  open_of_status : ∀ traceId run, c.world.stored traceId = some run →
    run.status.ended = false → run.ended = false

/-- A chronicle one step longer. -/
def next (c : Chronicle) (w : World) (expired : List RunStatus) : Chronicle :=
  { world := w, past := c.history, expired := expired }

section Next

variable {c : Chronicle} {w : World} {expired : List RunStatus}

omit [Sha256] in
theorem lawful_next (h : c.history.IsChain Lawful) (hstep : Lawful c.world w) :
    (c.next w expired).history.IsChain Lawful := by
  show (c.history ++ [w]).IsChain Lawful
  refine List.isChain_append.mpr ⟨h, .singleton w, ?_⟩
  intro last hlast first hfirst
  obtain rfl : c.world = last := by simpa [history] using hlast
  obtain rfl : w = first := by simpa using hfirst
  exact hstep

omit [Sha256] in
theorem Sound.of_runs_eq (h : c.Sound) (hruns : w.store.runs = c.world.store.runs) :
    (c.next w expired).Sound := by
  refine ⟨lawful_next h.lawful (.of_runs_eq hruns), ?_, ?_⟩
  · intro traceId run hrun
    rw [World.stored, next, hruns] at hrun
    exact h.traceId_eq traceId run hrun
  · intro traceId run hrun
    rw [World.stored, next, hruns] at hrun
    exact h.open_of_status traceId run hrun

omit [Sha256] in
/-- A write of one run. -/
theorem Sound.of_set (h : c.Sound) (run' : TrajectoryState) (hstep : Lawful c.world w)
    (hruns : w.store.runs = c.world.store.runs.set run'.traceId run')
    (hopen : run'.status.ended = false → run'.ended = false) : (c.next w expired).Sound := by
  refine ⟨lawful_next h.lawful hstep, ?_, ?_⟩
  · intro traceId run hrun
    rw [next, stored_set hruns] at hrun
    split at hrun
    · rename_i heq
      cases hrun
      exact heq.symm
    · exact h.traceId_eq traceId run hrun
  · intro traceId run hrun
    rw [next, stored_set hruns] at hrun
    split at hrun
    · cases hrun
      exact hopen
    · exact h.open_of_status traceId run hrun

end Next

/-- The run at hand is stored with its events, under some status. -/
structure Held (status : RunStatus) (s : TrajectoryState) (c : Chronicle) : Prop where
  sound : c.Sound
  stored : ∃ run, c.world.stored s.traceId = some run ∧ run.status = status ∧
    run.events = s.events

/-- The run at hand is stored with its events and its status. -/
def Driven (status : RunStatus) (s : TrajectoryState) (c : Chronicle) : Prop :=
  Held status s c ∧ s.status = status

section Held

variable {status : RunStatus} {s s' : TrajectoryState} {c : Chronicle} {w : World}
  {expired : List RunStatus}

omit [Sha256] in
theorem Held.of_runs_eq (h : Held status s c) (hruns : w.store.runs = c.world.store.runs) :
    Held status s (c.next w expired) := by
  refine ⟨h.sound.of_runs_eq hruns, ?_⟩
  rw [next, World.stored, hruns]
  exact h.stored

omit [Sha256] in
theorem Held.congr (h : Held status s c) (htrace : s'.traceId = s.traceId)
    (hevents : s'.events = s.events) : Held status s' c := by
  refine ⟨h.sound, ?_⟩
  rw [htrace, hevents]
  exact h.stored

omit [Sha256] in
theorem Driven.same (h : Driven status s c) (hsame : SameRun s s') : Driven status s' c :=
  ⟨h.1.congr hsame.traceId_eq (congrArg LedgerFields.events hsame.ledger_eq),
    hsame.status_eq.trans h.2⟩

omit [Sha256] in
/-- Writing the run at hand with at most one more event. -/
theorem Held.write (h : Held status s c) (run' : TrajectoryState)
    (hruns : w.store.runs = c.world.store.runs.set s.traceId run')
    (htrace : run'.traceId = s.traceId)
    (hstatus : run'.status = status ∨ status.leadsTo run'.status = true)
    (hevents : run'.events = s.events ∨
      status.ended = false ∧ ∃ event, run'.events = s.events ++ [event])
    (hopen : run'.status.ended = false → status.ended = false ∧
      (run'.events = s.events ∨
        ∃ event, run'.events = s.events ++ [event] ∧ event.eventType.endsRun = false))
    {s₁ : TrajectoryState} (htrace₁ : s₁.traceId = s.traceId)
    (hevents₁ : s₁.events = run'.events) :
    Held run'.status s₁ (c.next w expired) := by
  obtain ⟨run, hrun, rfl, hsame⟩ := h.stored
  have hstep : RunStep run run' := by
    refine ⟨hstatus, ?_⟩
    rw [hsame]
    refine hevents.imp_right fun ⟨hlive, hone⟩ => ⟨?_, hone⟩
    exact h.sound.open_of_status s.traceId run hrun hlive
  refine ⟨h.sound.of_set run' (.of_set hruns hrun hstep) (by rwa [htrace]) ?_, run', ?_, rfl,
    hevents₁.symm⟩
  · intro hlive
    obtain ⟨hlive', hgrown⟩ := hopen hlive
    have hbefore := h.sound.open_of_status s.traceId run hrun hlive'
    rcases hgrown with hsame' | ⟨event, hone, hevent⟩
    · rwa [ended_congr (hsame'.trans hsame.symm)]
    · unfold TrajectoryState.ended at hbefore ⊢
      rw [hone, ← hsame, List.any_append, hbefore]
      simpa using hevent
  · rw [next, stored_set hruns, htrace₁, if_pos rfl]

omit [Sha256] in
/-- Writing the run at hand as it is. -/
theorem Driven.write (h : Driven status s c) (hlive : status.ended = false)
    (run' : TrajectoryState) (hruns : w.store.runs = c.world.store.runs.set s.traceId run')
    (hrun' : run'.traceId = s.traceId ∧ run'.status = s.status ∧ run'.events = s.events)
    {s₁ : TrajectoryState}
    (hs₁ : s₁.traceId = s.traceId ∧ s₁.status = s.status ∧ s₁.events = s.events) :
    Driven status s₁ (c.next w expired) := by
  obtain ⟨htrace, hstatus, hevents⟩ := hrun'
  have hwritten : Held run'.status s₁ (c.next w expired) :=
    h.1.write run' hruns htrace (.inl (hstatus.trans h.2)) (.inl hevents)
      (fun _ => ⟨hlive, .inl hevents⟩) hs₁.1 (hs₁.2.2.trans hevents.symm)
  rw [hstatus, h.2] at hwritten
  exact ⟨hwritten, hs₁.2.1.trans h.2⟩

end Held

/-! ## The effects, one by one -/

section Effects

variable {status : RunStatus} {s : TrajectoryState} {c : Chronicle}

/-- Effects that write no state leave the stored runs alone. -/
theorem runs_of_quiet {β : Type} (o : Op β) (w : World) (ho : quietOp β o) :
    (World.handle loader host β o w).2.store.runs = w.store.runs := by
  cases o with
  | createRun state => exact ho.elim
  | appendEvent state spec => exact ho.elim
  | appendDecision state decision => exact ho.elim
  | addApproval state approval => exact ho.elim
  | replaceApproval approval => exact ho.elim
  | putEffectReceipt receipt =>
      show (w.store.putEffectReceipt receipt).2.runs = _
      unfold MemoryTraceStore.putEffectReceipt
      split
      · split <;> rfl
      · split <;> rfl
  | _ => rfl

/-- So does the replacement of an approval. -/
theorem runs_of_replace (approval : ApprovalRecord) (w : World) :
    (World.handle loader host _ (.replaceApproval approval) w).2.store.runs = w.store.runs := by
  show (w.store.replaceApproval approval).2.runs = _
  unfold MemoryTraceStore.replaceApproval
  split
  · rfl
  · split <;> rfl

/-- What an append leaves: the run under its old status when it raised, and under the
caller's when it returned.  Only a keyed append may return without a write. -/
def Appended (status : RunStatus) (s : TrajectoryState) (spec : EventSpec)
    (x : Exit PyError TrajectoryState Chronicle TraceEvent) : Prop :=
  x.state.traceId = s.traceId ∧ x.state.status = s.status ∧
    match x.result with
    | .error _ => Held status x.state x.env
    | .ok _ => Held s.status x.state x.env ∨
        spec.idempotencyKey ≠ none ∧ Held status x.state x.env

theorem appendEvent_appended (h : Held status s c) (hlive : status.ended = false)
    (hmove : s.status = status ∨ status.leadsTo s.status = true) (spec : EventSpec)
    (hspec : s.status.ended = false → spec.eventType.endsRun = false) :
    Appended status s spec ((Py.appendEvent spec).exec (handle loader host) s c) := by
  rw [Py.exec_appendEvent]
  refine ⟨rfl, rfl, ?_⟩
  simp only [handle, World.handle]
  rcases MemoryTraceStore.appendEvent_cases c.world.store s spec
    (host.utcNow s.traceId (c.world.ticks s.traceId))
    ("EVT-" ++ host.uuid4 s.traceId (c.world.ticks s.traceId)) with
    ⟨x, heq⟩ | ⟨event, hkeyed, heq⟩ | ⟨stored, head, hstored, -, -, heq⟩
  · rw [heq]
    exact h.of_runs_eq rfl
  · rw [heq]
    exact .inr ⟨hkeyed, h.of_runs_eq rfl⟩
  · rw [heq]
    generalize hevent : MemoryTraceStore.buildEvent s head spec _ _ = event
    have htype : event.eventType = spec.eventType := by rw [← hevent]; rfl
    exact .inl (h.write { MemoryTraceStore.withEvent s event with
        storageRevision := s.storageRevision + 1 } rfl rfl hmove (.inr ⟨hlive, event, rfl⟩)
      (fun hopen => ⟨hlive, .inr ⟨event, rfl, htype ▸ hspec hopen⟩⟩) rfl rfl)

theorem appendDecision_driven (h : Driven status s c) (hlive : status.ended = false)
    (decision : Decision) :
    let x := (Py.appendDecision decision).exec (handle loader host) s c
    Driven status x.state x.env := by
  rw [Py.exec_appendDecision]
  simp only [handle, World.handle]
  rcases MemoryTraceStore.appendDecision_cases c.world.store s decision with
    ⟨x, heq⟩ | ⟨stored, -, -, heq⟩
  · rw [heq]
    exact ⟨h.1.of_runs_eq rfl, h.2⟩
  · rw [heq]
    exact h.write hlive { s with
        decisions := s.decisions ++ [decision]
        storageRevision := s.storageRevision + 1 } rfl ⟨rfl, rfl, rfl⟩ ⟨rfl, rfl, rfl⟩

theorem addApproval_driven (h : Driven status s c) (hlive : status.ended = false)
    (approval : ApprovalRecord) :
    let x := (Py.addApproval approval).exec (handle loader host) s c
    Driven status x.state x.env := by
  show Driven status (s.withLedger _) (handle loader host _ (.addApproval s approval) c).2
  simp only [handle, World.handle]
  rcases MemoryTraceStore.addApproval_cases c.world.store s approval with
    ⟨x, heq⟩ | ⟨stored, -, -, -, heq⟩
  · rw [heq]
    exact ⟨h.1.of_runs_eq rfl, h.2⟩
  · rw [heq]
    exact h.write hlive { s with storageRevision := s.storageRevision + 1 } rfl ⟨rfl, rfl, rfl⟩
      ⟨rfl, rfl, rfl⟩

/-- Governed calls and projections keep a driven run driven. -/
theorem driven_invariant (hlive : status.ended = false) :
    LedgerInvariant (handle loader host) (Driven status) where
  same hsame h := h.same hsame
  event spec hspec s c h := by
    obtain ⟨-, hstatus, hresult⟩ := appendEvent_appended h.1 hlive (.inl h.2) spec fun _ => hspec
    refine ⟨?_, hstatus.trans h.2⟩
    split at hresult
    · exact hresult
    · rw [h.2] at hresult
      exact hresult.elim id And.right
  decision decision s c h := appendDecision_driven h hlive decision
  approval approval s c h := addApproval_driven h hlive approval
  quiet β o s c ho h := ⟨h.1.of_runs_eq (runs_of_quiet o c.world ho), h.2⟩

end Effects

end Chronicle

end Manifest
