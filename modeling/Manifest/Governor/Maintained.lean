import Manifest.Lib.Maintains
import Manifest.Projector

/-!
# Invariants of a run's ledger and status

Governed calls and projections append to the ledger of their own run.  They change neither
its identity nor its status, and end no run.

Main results:

- Theorem `LedgerInvariant.executeTool`: a governed call maintains every invariant that
  speaks of no other field of a state.
- Theorem `LedgerInvariant.project`: so does a projection.
-/

set_option autoImplicit false

namespace Manifest

open Interaction

/-! ## The end of a run -/

/-- The events a run ends with. -/
def EventType.endsRun : EventType → Bool
  | .runCompleted => true
  | .runCancelled => true
  | .runFailed => true
  | _ => false

/-- The same run, with the same status and ledger. -/
structure SameRun (s s' : TrajectoryState) : Prop where
  traceId_eq : s'.traceId = s.traceId
  status_eq : s'.status = s.status
  ledger_eq : s'.ledger = s.ledger

theorem SameRun.refl (s : TrajectoryState) : SameRun s s :=
  ⟨rfl, rfl, rfl⟩

theorem SameRun.trans {s s' s'' : TrajectoryState} (h : SameRun s s') (h' : SameRun s' s'') :
    SameRun s s'' :=
  ⟨h'.traceId_eq.trans h.traceId_eq, h'.status_eq.trans h.status_eq,
    h'.ledger_eq.trans h.ledger_eq⟩

/-- The same run, and the same counts of calls. -/
structure SameCounts (s s' : TrajectoryState) : Prop extends SameRun s s' where
  toolCallCount_eq : s'.toolCallCount = s.toolCallCount
  guideAttempts_eq : s'.guideAttempts = s.guideAttempts

theorem SameCounts.refl (s : TrajectoryState) : SameCounts s s :=
  ⟨.refl s, rfl, rfl⟩

theorem SameCounts.trans {s s' s'' : TrajectoryState} (h : SameCounts s s')
    (h' : SameCounts s' s'') : SameCounts s s'' :=
  ⟨h.toSameRun.trans h'.toSameRun, h'.toolCallCount_eq.trans h.toolCallCount_eq,
    h'.guideAttempts_eq.trans h.guideAttempts_eq⟩

theorem sameCounts_setPreparedStatus (s : TrajectoryState) (preparedId : String)
    (status : CommitmentStatus) : SameCounts s (s.setPreparedStatus preparedId status) := by
  unfold TrajectoryState.setPreparedStatus
  cases s.preparedActions.get? preparedId <;> exact ⟨⟨rfl, rfl, rfl⟩, rfl, rfl⟩

theorem sameRun_setPreparedStatus (s : TrajectoryState) (preparedId : String)
    (status : CommitmentStatus) : SameRun s (s.setPreparedStatus preparedId status) :=
  (sameCounts_setPreparedStatus s preparedId status).toSameRun

theorem sameCounts_applyEffect (toolName : String) (args : Kwargs) (value : ToolValue)
    (s : TrajectoryState) : SameCounts s (Governor.applyEffect toolName args value s).2 := by
  unfold Governor.applyEffect
  split
  · unfold Governor.applyConfirmation
    split
    · exact .refl s
    · split
      · exact .refl s
      · split
        · exact .refl s
        · dsimp only
          have hstatus (preparedId : String) := sameCounts_setPreparedStatus s preparedId .confirmed
          split
          · exact hstatus _
          · exact (hstatus _).trans ⟨⟨rfl, rfl, rfl⟩, rfl, rfl⟩
  · split
    · unfold Governor.applyCancellation
      split
      · exact .refl s
      · split
        · exact .refl s
        · split
          · exact .refl s
          · split
            · exact .refl s
            · exact (sameCounts_setPreparedStatus s _ .cancelled).trans ⟨⟨rfl, rfl, rfl⟩, rfl, rfl⟩
    · exact .refl s

/-- Effects that write no state and replace no approval. -/
def quietOp : (β : Type) → Op β → Prop
  | _, .createRun _ => False
  | _, .appendEvent _ _ => False
  | _, .appendDecision _ _ => False
  | _, .addApproval _ _ => False
  | _, .replaceApproval _ => False
  | _, _ => True

theorem readingOp.quiet (β : Type) (o : Op β) (h : readingOp β o) : quietOp β o := by
  cases o <;> trivial

/-! ## The invariants -/

section Invariant

variable {E : Type} {h : Handler Op E} {I : TrajectoryState → E → Prop}

/-- Looking a prepared action up changes nothing. -/
theorem maintains_preparedAt (preparedId : String) :
    Proc.Maintains h I (Governor.preparedAt preparedId) := by
  unfold Governor.preparedAt
  refine .bind .read fun state => ?_
  split
  · exact .pure _
  · exact .raise _

/-- An invariant of a run's identity, status and ledger that survives the writes of a
governed call. -/
structure LedgerInvariant (h : Handler Op E) (I : TrajectoryState → E → Prop) : Prop where
  same : ∀ {s s' e}, SameRun s s' → I s e → I s' e
  event : ∀ spec, spec.eventType.endsRun = false → Proc.Maintains h I (Py.appendEvent spec)
  decision : ∀ decision, Proc.Maintains h I (Py.appendDecision decision)
  approval : ∀ approval, Proc.Maintains h I (Py.addApproval approval)
  quiet : ∀ β (o : Op β) s e, quietOp β o → I s e → I s (h β o e).2

/-- One that may also speak of the counts of calls: it survives a call that is counted. -/
structure StageInvariant (h : Handler Op E) (I : TrajectoryState → E → Prop) : Prop where
  same : ∀ {s s' e}, SameCounts s s' → I s e → I s' e
  event : ∀ spec, spec.eventType.endsRun = false → Proc.Maintains h I (Py.appendEvent spec)
  decision : ∀ decision, Proc.Maintains h I (Py.appendDecision decision)
  approval : ∀ approval, Proc.Maintains h I (Py.addApproval approval)
  quiet : ∀ β (o : Op β) s e, quietOp β o → I s e → I s (h β o e).2

theorem LedgerInvariant.stages (inv : LedgerInvariant h I) : StageInvariant h I :=
  ⟨fun hsame => inv.same hsame.toSameRun, inv.event, inv.decision, inv.approval, inv.quiet⟩

namespace StageInvariant

variable (inv : StageInvariant h I)

include inv

theorem mutate {f : TrajectoryState → TrajectoryState} (hf : ∀ s, SameCounts s (f s)) :
    Proc.Maintains h I (Proc.mutate f : Py Unit) :=
  .mutate fun s _ => inv.same (hf s)

theorem perform {α : Type} {o : Op α} (ho : quietOp α o) :
    Proc.Maintains h I (Proc.perform o : Py α) :=
  .perform fun s e => inv.quiet α o s e ho

theorem request {α : Type} {o : Op (Except PyError α)} (ho : quietOp _ o) :
    Proc.Maintains h I (Proc.request o : Py α) :=
  .request fun s e => inv.quiet _ o s e ho

/-- Procedures that only read. -/
theorem reading {α : Type} {m : Py α} {R : TrajectoryState → TrajectoryState → Prop}
    (hm : ∀ s, Proc.Ensures readingOp m s fun _ s' => R s s')
    (hR : ∀ s s', R s s' → SameCounts s s') :
    Proc.Maintains h I m :=
  .of_ensures hm (fun β o s e ho => inv.quiet β o s e (readingOp.quiet β o ho))
    fun s s' _ hs => inv.same (hR s s' hs)

theorem uuid4 : Proc.Maintains h I Py.uuid4 :=
  .bind .read fun _ => inv.perform trivial

theorem utcNow : Proc.Maintains h I Py.utcNow :=
  .bind .read fun _ => inv.perform trivial

/-! ### The stages of a governed call -/

theorem judge (g : Governor) (definition : Option ToolDefinition) (proposal : ToolProposal)
    (args : Kwargs) : Proc.Maintains h I (g.judge definition proposal args) :=
  inv.reading (R := fun s s' => s' = s)
    (fun s => (g.judge_ensures definition proposal args s).mono fun _ _ hs => hs.1)
    fun s _ hs => hs ▸ .refl s

theorem record (decision : Decision) : Proc.Maintains h I (Governor.record decision) :=
  .bind (inv.decision decision) fun _ => .bind (inv.event _ rfl) fun _ => .pure _

theorem createApproval (args : Kwargs) (decision : Decision) :
    Proc.Maintains h I (Governor.createApproval args decision) := by
  unfold Governor.createApproval
  refine .bind (maintains_preparedAt _) fun prepared => ?_
  refine .bind (inv.mutate fun s => sameCounts_setPreparedStatus s _ _) fun _ => ?_
  refine .bind inv.uuid4 fun uuid => .bind inv.utcNow fun now => .bind .read fun state => ?_
  refine .bind (inv.mutate fun s => ⟨⟨rfl, rfl, rfl⟩, rfl, rfl⟩) fun _ => ?_
  exact .bind (inv.approval _) fun _ => .pure _

theorem escalate (proposal : ToolProposal) (args : Kwargs) (decision : Decision) :
    Proc.Maintains h I (Governor.escalate proposal args decision) :=
  .bind (inv.createApproval args decision) fun _ => .bind (inv.event _ rfl) fun _ => .pure _

theorem reportFailure {α : Type} (proposal : ToolProposal) (x : PyError) :
    Proc.Maintains h I (Governor.reportFailure proposal x : Py α) := by
  unfold Governor.reportFailure
  split
  · exact .bind (inv.event _ rfl) fun _ => .raise _
  · exact .bind (inv.event _ rfl) fun _ => .raise _

variable [Sha256]

theorem executeOnce (toolName : String) (args : Kwargs) (key : String) :
    Proc.Maintains h I (Governor.executeOnce toolName args key) := by
  unfold Governor.executeOnce
  refine .bind (.ofExcept _) fun keyHash => .bind .read fun state => ?_
  refine .bind (inv.perform trivial) fun receipt => ?_
  split
  · split
    · exact .raise _
    · exact .pure _
  · refine .bind (inv.request trivial) fun value => ?_
    split
    · refine .bind inv.utcNow fun now => ?_
      exact .bind (inv.request trivial) fun _ => .pure _
    · exact .raise _

theorem executeWithDurableReceipt (toolName : String) (effectClass : EffectClass)
    (args : Kwargs) :
    Proc.Maintains h I (Governor.executeWithDurableReceipt toolName effectClass args) := by
  unfold Governor.executeWithDurableReceipt
  split
  · exact inv.request trivial
  · exact inv.executeOnce toolName args _
  · exact inv.request trivial

theorem effect (effectClass : EffectClass) (proposal : ToolProposal) (request : PolicyRequest)
    (args : Kwargs) (decision : Decision) :
    Proc.Maintains h I (Governor.effect effectClass proposal request args decision) := by
  unfold Governor.effect
  have hexecuted := inv.executeWithDurableReceipt proposal.toolName effectClass args
  refine .bind (.tryCatch hexecuted fun x => inv.reportFailure proposal x) fun value => ?_
  refine .bind (inv.event _ rfl) fun _ => ?_
  refine .bind (.lift fun s _ => inv.same (sameCounts_applyEffect _ _ _ s)) fun _ => ?_
  exact .bind (inv.mutate fun s => ⟨⟨rfl, rfl, rfl⟩, rfl, rfl⟩) fun _ => .pure _

theorem apply (definition : Option ToolDefinition) (proposal : ToolProposal)
    (request : PolicyRequest) (args : Kwargs) (decision : Decision) :
    Proc.Maintains h I (Governor.apply definition proposal request args decision) := by
  unfold Governor.apply
  split
  · exact .bind (inv.event _ rfl) fun _ => .pure _
  · exact .bind (inv.event _ rfl) fun _ => .pure _
  · exact inv.escalate proposal args decision
  · exact .pure _
  · exact inv.effect _ proposal request args decision

/-- Everything after the proposal. -/
theorem decide (g : Governor) (definition : Option ToolDefinition) (proposal : ToolProposal)
    (args : Kwargs) : Proc.Maintains h I (do
      let (request, decision) ← g.judge definition proposal args
      Governor.record decision
      Governor.apply definition proposal request args decision) := by
  refine .bind (inv.judge g definition proposal args) ?_
  rintro ⟨request, decision⟩
  exact .bind (inv.record decision) fun _ => inv.apply definition proposal request args decision

end StageInvariant

namespace LedgerInvariant

variable (inv : LedgerInvariant h I)

include inv

theorem mutate {f : TrajectoryState → TrajectoryState} (hf : ∀ s, SameRun s (f s)) :
    Proc.Maintains h I (Proc.mutate f : Py Unit) :=
  .mutate fun s _ => inv.same (hf s)

theorem perform {α : Type} {o : Op α} (ho : quietOp α o) :
    Proc.Maintains h I (Proc.perform o : Py α) :=
  inv.stages.perform ho

theorem uuid4 : Proc.Maintains h I Py.uuid4 :=
  inv.stages.uuid4

theorem propose (g : Governor) (agent : AgentName) (toolName : String) (args : Kwargs) :
    Proc.Maintains h I (g.propose agent toolName args) := by
  unfold Governor.propose
  refine .bind .read fun state => ?_
  split
  · exact .raise _
  · refine .bind (inv.mutate fun s => ⟨rfl, rfl, rfl⟩) fun _ => ?_
    refine .bind inv.uuid4 fun uuid => ?_
    exact .bind (inv.event _ rfl) fun _ => .pure _

variable [Sha256]

/-- A governed call maintains the invariant. -/
theorem executeTool (g : Governor) (agent : AgentName) (toolName : String)
    (args : Kwargs) : Proc.Maintains h I (g.executeTool agent toolName args) :=
  .bind (inv.propose g agent toolName args) fun proposed =>
    inv.stages.decide g proposed.1 proposed.2 args

/-- A projection maintains the invariant. -/
theorem project (loader : FixtureLoader) (agent : AgentName) (toolName : String) (args : Kwargs)
    (value : ToolValue) :
    Proc.Maintains h I (Projector.project loader agent toolName args value) :=
  .of_ensures (fun s => Projector.project_ensures loader agent toolName args value s)
    (fun β o s e ho => inv.quiet β o s e (readingOp.quiet β o ho))
    fun _ _ _ hs => inv.same ⟨hs.same.traceId_eq, hs.same.status_eq, hs.same.ledger_eq⟩

end LedgerInvariant

end Invariant

end Manifest
