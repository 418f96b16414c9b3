import Manifest.Lib.Program
import Manifest.Tools.Mocks
import Manifest.Ledger.MemoryStore

/-!
# The effects of the runtime

Everything the governor, the agents and the service ask of their surroundings:
the repository, the tool adapters, clocks, fresh identifiers and hosted models.
A procedure runs against one mutable trajectory state and raises `PyError`.

The world is what a process runs in.  Its repository is durable; the adapter's
caches die with the process.

Main results:

- Theorems `Py.exec_appendEvent` and `Py.log_appendEvent`: what an append does to its
  caller, whatever repository replies.
-/

set_option autoImplicit false

namespace Manifest

open Interaction

/-! ## The part of a state the repository mutates -/

structure LedgerFields where
  events : List TraceEvent
  nextSequence : Nat
  decisions : List Decision
  storageRevision : Nat

/-- The ledger fields of a state. -/
def TrajectoryState.ledger (state : TrajectoryState) : LedgerFields :=
  ⟨state.events, state.nextSequence, state.decisions, state.storageRevision⟩

/-- A state with other ledger fields. -/
def TrajectoryState.withLedger (state : TrajectoryState) (ledger : LedgerFields) :
    TrajectoryState :=
  { state with
    events := ledger.events
    nextSequence := ledger.nextSequence
    decisions := ledger.decisions
    storageRevision := ledger.storageRevision }

@[simp]
theorem TrajectoryState.withLedger_ledger (state : TrajectoryState) :
    state.withLedger state.ledger = state :=
  rfl

/-! ## Hosted-model invocations -/

inductive RolePhase where
  | run
  | resumeApproved
  | cancel
deriving DecidableEq, Repr

def RolePhase.value : RolePhase → String
  | .run => "run"
  | .resumeApproved => "resume_approved"
  | .cancel => "cancel"

/-- One tool call a model asks for. -/
structure ModelCall where
  toolName : String
  arguments : Kwargs

/-- What an invocation that stopped by itself reports. -/
structure ModelResult where
  stopReason : String
  summary : String
  cycleCount : Int
  latencyMs : PyFloat
  inputTokens : Option Int
  outputTokens : Option Int
  totalTokens : Option Int

/-- How an invocation ends: the time limit, an exception as the provider-error
classification leaves it, or a result. -/
inductive InvocationEnd where
  | timedOut
  | raised (x : PyError)
  | stopped (result : ModelResult)

/-- One hosted-model invocation: the calls it makes in order, then its end. -/
structure Invocation where
  calls : List ModelCall
  ending : InvocationEnd

/-! ## The effect signature -/

/-- The effects.  The reply of a state-carrying write says what it did to the
caller's state; `scope` names the trace an effect belongs to. -/
inductive Op : Type → Type where
  | createRun (state : TrajectoryState) : Op (Except PyError Unit × LedgerFields)
  | appendEvent (state : TrajectoryState) (spec : EventSpec) :
      Op (Except PyError TraceEvent × LedgerFields)
  | appendDecision (state : TrajectoryState) (decision : Decision) :
      Op (Except PyError Unit × LedgerFields)
  | addApproval (state : TrajectoryState) (approval : ApprovalRecord) :
      Op (Except PyError Unit × LedgerFields)
  | loadTrace (traceId : String) : Op (Except PyError TrajectoryState)
  | getApproval (approvalId : String) : Op (Except PyError ApprovalRecord)
  | replaceApproval (approval : ApprovalRecord) : Op (Except PyError Unit)
  | listApprovals (traceId : Option String) (status : Option ApprovalStatus) :
      Op (List ApprovalRecord)
  | getApprovalReplayFingerprint (approvalId idempotencyKey : String) : Op (Option String)
  | recordApprovalReplay (approvalId idempotencyKey fingerprint : String) : Op Unit
  | getEffectReceipt (traceId keyHash : String) : Op (Option EffectReceipt)
  | putEffectReceipt (receipt : EffectReceipt) : Op (Except PyError EffectReceipt)
  | callTool (toolName : String) (arguments : Kwargs) : Op (Except PyError ToolValue)
  | utcNow (scope : String) : Op Timestamp
  | nowFn (scope : String) : Op Timestamp
  | uuid4 (scope : String) : Op String
  | elapsedMs (scope : String) : Op PyFloat
  | invokeModel (scope : String) (role : AgentName) (phase : RolePhase) : Op Invocation

/-- A procedure over a trajectory state. -/
abbrev Py := Proc Op PyError TrajectoryState

namespace Py

/-- `store.append_event(state, ...)`. -/
def appendEvent (spec : EventSpec) : Py TraceEvent :=
  Proc.send .withLedger fun state => .appendEvent state spec

/-- `store.append_decision(state, decision)`. -/
def appendDecision (decision : Decision) : Py Unit :=
  Proc.send .withLedger fun state => .appendDecision state decision

/-- `store.add_approval(state, approval)`. -/
def addApproval (approval : ApprovalRecord) : Py Unit :=
  Proc.send .withLedger fun state => .addApproval state approval

/-- `store.create_run(state)`. -/
def createRun : Py Unit :=
  Proc.send .withLedger .createRun

/-- `uuid4()`, drawn for the trace at hand. -/
def uuid4 : Py String := do
  let state ← Proc.read
  Proc.perform (.uuid4 state.traceId)

/-- `utc_now()`, read for the trace at hand. -/
def utcNow : Py Timestamp := do
  let state ← Proc.read
  Proc.perform (.utcNow state.traceId)

section Readings

variable {E O : Type} (h : Handler Op E) (obs : Observer Op E O) (state : TrajectoryState)
  (e : E)

@[simp]
theorem exec_appendEvent (spec : EventSpec) :
    (appendEvent spec).exec h state e =
      ⟨(h _ (.appendEvent state spec) e).1.1,
        state.withLedger (h _ (.appendEvent state spec) e).1.2,
        (h _ (.appendEvent state spec) e).2⟩ :=
  rfl

@[simp]
theorem exec_appendDecision (decision : Decision) :
    (appendDecision decision).exec h state e =
      ⟨(h _ (.appendDecision state decision) e).1.1,
        state.withLedger (h _ (.appendDecision state decision) e).1.2,
        (h _ (.appendDecision state decision) e).2⟩ :=
  rfl

@[simp]
theorem log_appendEvent (spec : EventSpec) :
    (appendEvent spec).log h obs state e =
      obs _ (.appendEvent state spec) (h _ (.appendEvent state spec) e) :=
  Proc.log_send ..

@[simp]
theorem log_appendDecision (decision : Decision) :
    (appendDecision decision).log h obs state e =
      obs _ (.appendDecision state decision) (h _ (.appendDecision state decision) e) :=
  Proc.log_send ..

end Readings

end Py

/-! ## The world a process runs in -/

/-- What a host supplies: identifiers that never repeat, clocks, timers and
hosted models.  Each supply is indexed by a scope and a tick of that scope. -/
structure Host where
  uuid4 : String → Nat → String
  utcNow : String → Nat → Timestamp
  nowFn : String → Nat → Timestamp
  elapsedMs : String → Nat → PyFloat
  invocation : String → Nat → Invocation
  uuid4_injective : ∀ {scope scope' : String} {n n' : Nat},
    uuid4 scope n = uuid4 scope' n' → scope = scope' ∧ n = n'

/-- The repository, the adapter and how much of each supply was used. -/
structure World where
  store : MemoryTraceStore := {}
  mocks : MockLogisticsTools := {}
  ticks : String → Nat := fun _ => 0

namespace World

/-- Use one tick of a scope. -/
def tick (w : World) (scope : String) : World :=
  { w with ticks := Function.update w.ticks scope (w.ticks scope + 1) }

/-- The world after a process restart: only the repository is durable. -/
def restart (w : World) : World :=
  { w with mocks := {} }

/-- Report what a write did to the caller's ledger fields. -/
def written {α : Type} (w : World)
    (reply : (Except PyError α × TrajectoryState) × MemoryTraceStore) :
    (Except PyError α × LedgerFields) × World :=
  ((reply.1.1, reply.1.2.ledger), { w with store := reply.2 })

/-- A draw from a supply. -/
def draw {α : Type} (w : World) (scope : String) (supply : String → Nat → α) :
    α × World :=
  (supply scope (w.ticks scope), w.tick scope)

/-- The runtime's effects against an in-memory repository and the mock adapter. -/
def handle [Sha256] (loader : FixtureLoader) (host : Host) : Handler Op World
  | _, .createRun state, w =>
      let w' := w.tick state.traceId
      w'.written (w.store.createRun state (host.utcNow state.traceId (w.ticks state.traceId)))
  | _, .appendEvent state spec, w =>
      let n := w.ticks state.traceId
      let w' := w.tick state.traceId
      w'.written (w.store.appendEvent state spec (host.utcNow state.traceId n)
        ("EVT-" ++ host.uuid4 state.traceId n))
  | _, .appendDecision state decision, w => w.written (w.store.appendDecision state decision)
  | _, .addApproval state approval, w => w.written (w.store.addApproval state approval)
  | _, .loadTrace traceId, w => (w.store.loadTrace traceId, w)
  | _, .getApproval approvalId, w => (w.store.getApproval approvalId, w)
  | _, .replaceApproval approval, w =>
      let reply := w.store.replaceApproval approval
      (reply.1, { w with store := reply.2 })
  | _, .listApprovals traceId status, w => (w.store.listApprovals traceId status, w)
  | _, .getApprovalReplayFingerprint approvalId key, w =>
      (w.store.getApprovalReplayFingerprint approvalId key, w)
  | _, .recordApprovalReplay approvalId key fingerprint, w =>
      ((), { w with store := w.store.recordApprovalReplay approvalId key fingerprint })
  | _, .getEffectReceipt traceId keyHash, w => (w.store.getEffectReceipt traceId keyHash, w)
  | _, .putEffectReceipt receipt, w =>
      let reply := w.store.putEffectReceipt receipt
      (reply.1, { w with store := reply.2 })
  | _, .callTool toolName arguments, w =>
      let reply := MockLogisticsTools.execute loader toolName arguments w.mocks
      (reply.1, { w with mocks := reply.2 })
  | _, .utcNow scope, w => w.draw scope host.utcNow
  | _, .nowFn scope, w => w.draw scope host.nowFn
  | _, .uuid4 scope, w => w.draw scope host.uuid4
  | _, .elapsedMs scope, w => w.draw scope host.elapsedMs
  | _, .invokeModel scope _ _, w => w.draw scope host.invocation

end World

end Manifest
