import Manifest.Runtime.Ledgers

/-!
# What a service never takes back

Main results:

- Theorem `World.growing`: every write of a caller that holds the stored ledger adds to the
  repository.
- Theorem `ledgers_grow`: what a served call leaves of the repository it found.
-/

set_option autoImplicit false

namespace Manifest

open Interaction

namespace World

/-- A repository that has been added to: events and decisions follow the earlier ones, approvals
are kept under versions that do not go down, and receipts stay as they are. -/
structure Grown (w w' : World) : Prop where
  runs : ∀ traceId run, w.stored traceId = some run → ∃ run', w'.stored traceId = some run' ∧
    run.events <+: run'.events ∧ run.decisions <+: run'.decisions
  approvals : ∀ approvalId approval, w.store.approvals.get? approvalId = some approval →
    ∃ approval', w'.store.approvals.get? approvalId = some approval' ∧
      approval.version ≤ approval'.version
  receipts : ∀ key receipt, w.store.effectReceipts.get? key = some receipt →
    w'.store.effectReceipts.get? key = some receipt

section Grown

variable {w w' w'' : World} {traceId : String}

theorem Grown.refl (w : World) : Grown w w where
  runs _ run h := ⟨run, h, List.prefix_refl _, List.prefix_refl _⟩
  approvals _ approval h := ⟨approval, h, le_rfl⟩
  receipts _ _ h := h

theorem Grown.trans (h : Grown w w') (h' : Grown w' w'') : Grown w w'' where
  runs traceId run hrun := by
    obtain ⟨run', hrun', hevents, hdecisions⟩ := h.runs traceId run hrun
    obtain ⟨run'', hrun'', hevents', hdecisions'⟩ := h'.runs traceId run' hrun'
    exact ⟨run'', hrun'', hevents.trans hevents', hdecisions.trans hdecisions'⟩
  approvals approvalId approval happroval := by
    obtain ⟨approval', happroval', hversion⟩ := h.approvals approvalId approval happroval
    obtain ⟨approval'', happroval'', hversion'⟩ := h'.approvals approvalId approval' happroval'
    exact ⟨approval'', happroval'', hversion.trans hversion'⟩
  receipts key receipt hreceipt := h'.receipts key receipt (h.receipts key receipt hreceipt)

/-- Tables that are the same have not shrunk. -/
theorem Grown.of_eq (hruns : w'.store.runs = w.store.runs)
    (happrovals : w'.store.approvals = w.store.approvals)
    (hreceipts : w'.store.effectReceipts = w.store.effectReceipts) : Grown w w' where
  runs traceId run h := by
    refine ⟨run, ?_, List.prefix_refl _, List.prefix_refl _⟩
    unfold World.stored
    rw [hruns]
    exact h
  approvals approvalId approval h := ⟨approval, by rw [happrovals]; exact h, le_rfl⟩
  receipts key receipt h := by rw [hreceipts]; exact h

/-- One run is written, and nothing else that counts. -/
theorem Grown.write {run' : TrajectoryState} (hruns : w'.store.runs = w.store.runs.set traceId run')
    (happrovals : ∀ approvalId approval, w.store.approvals.get? approvalId = some approval →
      w'.store.approvals.get? approvalId = some approval)
    (hreceipts : w'.store.effectReceipts = w.store.effectReceipts)
    (hrun : ∀ run, w.stored traceId = some run →
      run.events <+: run'.events ∧ run.decisions <+: run'.decisions) : Grown w w' where
  runs other run h := by
    unfold World.stored
    rw [hruns]
    by_cases hother : other = traceId
    · subst hother
      exact ⟨run', Dict.get?_set_self .., hrun run h⟩
    · refine ⟨run, ?_, List.prefix_refl _, List.prefix_refl _⟩
      rw [Dict.get?_set_ne _ _ hother]
      exact h
  approvals approvalId approval h := ⟨approval, happrovals approvalId approval h, le_rfl⟩
  receipts key receipt h := by rw [hreceipts]; exact h

end Grown

/-! ## What the effects add -/

section Effects

variable [Sha256] {loader : FixtureLoader} {host : Host} {start : World}

theorem grown_quiet {β : Type} (o : Op β) (w : World) (ho : quietOp β o) :
    Grown w (World.handle loader host β o w).2 := by
  cases o with
  | createRun state => exact ho.elim
  | appendEvent state spec => exact ho.elim
  | appendDecision state decision => exact ho.elim
  | addApproval state approval => exact ho.elim
  | replaceApproval approval => exact ho.elim
  | putEffectReceipt receipt =>
      dsimp only [World.handle]
      unfold MemoryTraceStore.putEffectReceipt
      split
      · split
        · exact .refl w
        · exact .refl w
      · rename_i hfree
        split
        · exact .refl w
        · refine ⟨(Grown.refl w).runs, (Grown.refl w).approvals, fun key stored hstored => ?_⟩
          have hne : key ≠ (receipt.traceId, receipt.keyHash) := by
            rintro rfl
            rw [hfree] at hstored
            cases hstored
          exact (Dict.get?_set_ne _ _ hne).trans hstored
  | _ => exact .of_eq rfl rfl rfl

theorem grown_replaceApproval (approval : ApprovalRecord) (w : World) :
    Grown w (World.handle loader host _ (.replaceApproval approval) w).2 := by
  dsimp only [World.handle]
  unfold MemoryTraceStore.replaceApproval
  split
  · exact .refl w
  · rename_i current hcurrent
    split
    · exact .refl w
    · rename_i hversion
      refine ⟨(Grown.refl w).runs, fun approvalId earlier hearlier => ?_, (Grown.refl w).receipts⟩
      by_cases hsame : approvalId = approval.approvalId
      · subst hsame
        obtain rfl := Option.some.inj (hcurrent.symm.trans hearlier)
        refine ⟨approval, Dict.get?_set_self .., ?_⟩
        simp only [ne_eq, decide_not, Bool.and_eq_true, Bool.not_eq_true',
          decide_eq_false_iff_not, not_and, not_not] at hversion
        omega
      · exact ⟨earlier, (Dict.get?_set_ne _ _ hsame).trans hearlier, le_rfl⟩

theorem grown_createRun (loader : FixtureLoader) (host : Host) (state : TrajectoryState)
    (w : World) : Grown w (World.handle loader host _ (.createRun state) w).2 := by
  simp only [World.handle]
  rcases w.store.createRun_cases state (host.utcNow state.traceId (w.ticks state.traceId)) with
    ⟨x, hx⟩ | ⟨hfree, head, hok⟩
  · rw [hx]
    exact .of_eq rfl rfl rfl
  · rw [hok]
    refine .write rfl (fun _ _ h => h) rfl fun run hrun => ?_
    exact absurd (hfree.symm.trans hrun) (by simp)

/-- What a caller that holds the stored ledger writes adds to the stored run. -/
theorem grown_rewrite {state run' : TrajectoryState} {w w' : World} (h : w.Holding host state)
    (hruns : w'.store.runs = w.store.runs.set state.traceId run')
    (happrovals : ∀ approvalId approval, w.store.approvals.get? approvalId = some approval →
      w'.store.approvals.get? approvalId = some approval)
    (hreceipts : w'.store.effectReceipts = w.store.effectReceipts)
    (hevents : state.events <+: run'.events) (hdecisions : state.decisions <+: run'.decisions) :
    Grown w w' := by
  obtain ⟨-, stored, hstored, hledger⟩ := h
  refine .write hruns happrovals hreceipts fun run hrun => ?_
  obtain rfl := Option.some.inj (hstored.symm.trans hrun)
  have hsame : stored.events = state.events := congrArg LedgerFields.events hledger
  have hsame' : stored.decisions = state.decisions := congrArg LedgerFields.decisions hledger
  rw [hsame, hsame']
  exact ⟨hevents, hdecisions⟩

/-- Callers that hold the stored ledger, over a repository that has been added to since. -/
def Adding (host : Host) (start : World) (state : TrajectoryState) (w : World) : Prop :=
  w.Holding host state ∧ Grown start w

theorem adding_appendEvent (spec : EventSpec) :
    Proc.Maintains (World.handle loader host) (Adding host start) (Py.appendEvent spec) := by
  rintro state w ⟨hholding, hgrown⟩
  refine ⟨holding_appendEvent spec state w hholding, hgrown.trans ?_⟩
  show Grown w (World.handle loader host _ (.appendEvent state spec) w).2
  simp only [World.handle]
  rcases w.store.appendEvent_cases state spec
    (host.utcNow state.traceId (w.ticks state.traceId))
    ("EVT-" ++ host.uuid4 state.traceId (w.ticks state.traceId)) with
    ⟨x, hx⟩ | ⟨event, -, hreplay⟩ | ⟨stored, head, -, -, -, hcommit⟩
  · rw [hx]
    exact .of_eq rfl rfl rfl
  · rw [hreplay]
    exact .of_eq rfl rfl rfl
  · rw [hcommit]
    exact grown_rewrite hholding rfl (fun _ _ h => h) rfl (List.prefix_append ..)
      (List.prefix_refl _)

theorem adding_appendDecision (decision : Decision) :
    Proc.Maintains (World.handle loader host) (Adding host start) (Py.appendDecision decision) := by
  rintro state w ⟨hholding, hgrown⟩
  refine ⟨holding_appendDecision decision state w hholding, hgrown.trans ?_⟩
  show Grown w (World.handle loader host _ (.appendDecision state decision) w).2
  simp only [World.handle]
  rcases w.store.appendDecision_cases state decision with ⟨x, hx⟩ | ⟨stored, -, -, hok⟩
  · rw [hx]
    exact .of_eq rfl rfl rfl
  · rw [hok]
    exact grown_rewrite hholding rfl (fun _ _ h => h) rfl (List.prefix_refl _)
      (List.prefix_append ..)

theorem adding_addApproval (approval : ApprovalRecord) :
    Proc.Maintains (World.handle loader host) (Adding host start) (Py.addApproval approval) := by
  rintro state w ⟨hholding, hgrown⟩
  refine ⟨holding_addApproval approval state w hholding, hgrown.trans ?_⟩
  show Grown w (World.handle loader host _ (.addApproval state approval) w).2
  simp only [World.handle]
  rcases w.store.addApproval_cases state approval with ⟨x, hx⟩ | ⟨stored, -, -, hfree, hok⟩
  · rw [hx]
    exact .of_eq rfl rfl rfl
  · rw [hok]
    refine grown_rewrite hholding rfl (fun approvalId earlier hearlier => ?_) rfl
      (List.prefix_refl _) (List.prefix_refl _)
    have hne : approvalId ≠ approval.approvalId := by
      rintro rfl
      rw [hfree] at hearlier
      cases hearlier
    exact (Dict.get?_set_ne _ _ hne).trans hearlier

/-- Every write of a caller that holds the stored ledger adds to the repository. -/
theorem growing (loader : FixtureLoader) (host : Host) (start : World) :
    ServiceInvariant (World.handle loader host) (Adding host start)
      (fun w => w.Coherent host ∧ Grown start w) where
  same htrace hledger h := ⟨(serviceInvariant loader host).same htrace hledger h.1, h.2⟩
  event := adding_appendEvent
  decision := adding_appendDecision
  approval := adding_addApproval
  quiet β o s w ho h :=
    ⟨(serviceInvariant loader host).quiet β o s w ho h.1, h.2.trans (grown_quiet o w ho)⟩
  idle h := ⟨h.1.1, h.2⟩
  calm β o w ho h :=
    ⟨(serviceInvariant loader host).calm β o w ho h.1, h.2.trans (grown_quiet o w ho)⟩
  replaced approval w h :=
    ⟨(serviceInvariant loader host).replaced approval w h.1,
      h.2.trans (grown_replaceApproval approval w)⟩
  kept approval s w h :=
    ⟨(serviceInvariant loader host).kept approval s w h.1,
      h.2.trans (grown_replaceApproval approval w)⟩
  loaded traceId w state h hload :=
    ⟨(serviceInvariant loader host).loaded traceId w state h.1 hload,
      h.2.trans (grown_quiet _ w trivial)⟩
  created s w hevents hdecisions h := by
    have hcreated := (serviceInvariant loader host).created s w hevents hdecisions h.1
    have hgrown := h.2.trans (grown_createRun loader host s w)
    split
    · rename_i x hx
      rw [hx] at hcreated
      exact ⟨hcreated, hgrown⟩
    · rename_i u hu
      rw [hu] at hcreated
      exact ⟨hcreated, hgrown⟩

end Effects

end World

/-- Whatever sequence of calls a service serves from a repository that processes left behind, at
every moment the repository has been added to: nothing in a ledger, no approval and no receipt
is taken back. -/
theorem ledgers_grow [Sha256] {host : Host} {w : World} (h : Reached host w) {g : Governor}
    {settings : RuntimeSettings} (loader : FixtureLoader) (service : RunService)
    (hroles : service.orchestrator.agents = legacyAgents g ∨
      service.orchestrator.agents = strandsAgents g settings) (calls : List ServiceCall) :
    ∀ w' ∈ ((service.serveAll calls).exec (Chronicle.handle loader host) ()
      { world := w }).env.history, w.Grown w' := by
  intro w' hmem
  have inv := (World.growing loader host w).chronicled
  have hstart : ∀ w' ∈ ({ world := w } : Chronicle).history, w'.Coherent host ∧ w.Grown w' := by
    intro w' hw'
    obtain rfl := List.mem_singleton.mp hw'
    exact ⟨h.coherent, .refl _⟩
  exact (inv.serveAll hroles calls () { world := w } hstart w' hmem).2

/-- The demo journey, and a sweep after the restart of its process. -/
theorem ledgers_grow_journey :
    Reached (Demo.sweepingHost 40) Demo.journey.world.restart ∧
      ∀ w' ∈ ((Demo.hostedService.serveAll [.expireDueApprovals]).exec
        (Chronicle.handle Demo.loader (Demo.sweepingHost 40)) ()
        { world := Demo.journey.world.restart }).env.history,
        Demo.journey.world.restart.Grown w' :=
  ⟨Demo.journey_reached, ledgers_grow Demo.journey_reached Demo.loader Demo.hostedService (.inr rfl)
    [.expireDueApprovals]⟩

end Manifest
