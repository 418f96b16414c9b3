import Manifest.Demo
import Manifest.Governor.Governor
import Manifest.Ledger.Verifier
import Manifest.Lib.JsonRead
import Manifest.Storage.Receipts

/-!
# Governed writes run once

`_execute_with_durable_receipt` against either repository and any registry, and its histories
over one repository.  A process restart loses what the registered tools remember.

Main results:

- Theorem `executeWithDurableReceipt_exec`: the governor's own step is the in-memory instance.
- Theorem `KeyedCall.perform_spec`: what one execution without failures does.
- Theorem `executions_once`: over a history every key runs its handler at most once.
-/

set_option autoImplicit false

namespace Manifest

open Interaction

/-! ## Repositories and registries -/

/-- The repositories of effect receipts; the requests of the second one are all answered. -/
inductive Adapter : Type → Type where
  | memory : Adapter MemoryTraceStore
  | dynamo (backend : Backend) (answering : ∀ n, backend.failure n = none) : Adapter Database

namespace Adapter

variable {R : Type}

def getEffectReceipt (adapter : Adapter R) (traceId keyHash : String) (contents : R) :
    Except PyError (Option EffectReceipt) × R :=
  match adapter with
  | .memory => (.ok (contents.getEffectReceipt traceId keyHash), contents)
  | .dynamo backend _ =>
      let reply := (DynamoDBTraceStore.getEffectReceipt traceId keyHash).exec
        (Database.handle backend) () contents
      (reply.result, reply.env)

def putEffectReceipt (adapter : Adapter R) (receipt : EffectReceipt) (contents : R) :
    Except PyError EffectReceipt × R :=
  match adapter with
  | .memory => contents.putEffectReceipt receipt
  | .dynamo backend _ =>
      let reply := (DynamoDBTraceStore.putEffectReceipt receipt).exec
        (Database.handle backend) () contents
      (reply.result, reply.env)

/-- What a lookup finds. -/
def find (adapter : Adapter R) (traceId keyHash : String) (contents : R) :
    Except PyError (Option EffectReceipt) :=
  (adapter.getEffectReceipt traceId keyHash contents).1

end Adapter

/-- `ToolRegistry.execute`, over what the registered handlers remember. -/
structure Registry (A : Type) where
  initial : A
  execute : String → Kwargs → A → Except PyError ToolValue × A

/-- One handler call and its answer. -/
structure HandlerCall where
  toolName : String
  arguments : Kwargs
  answer : Except PyError ToolValue

namespace Registry

variable {A : Type}

/-- The mock tools. -/
def mocks [Sha256] (loader : FixtureLoader) : Registry MockLogisticsTools where
  initial := {}
  execute := MockLogisticsTools.execute loader

/-- A registry that notes every handler call. -/
def noting (registry : Registry A) : Registry (A × List HandlerCall) where
  initial := (registry.initial, [])
  execute toolName args tools :=
    let reply := registry.execute toolName args tools.1
    (reply.1, reply.2, tools.2 ++ [⟨toolName, args, reply.1⟩])

end Registry

/-! ## One execution -/

/-- A reused key is refused. -/
def keyReused : PyError :=
  ⟨.effectReceiptConflict, "An effect idempotency key was reused with different arguments."⟩

section Execute

variable [Sha256] {R A : Type} (adapter : Adapter R) (registry : Registry A)

/-- Run a handler and store its receipt. -/
def executeNew (traceId toolName : String) (args : Kwargs) (keyHash : String) (now : Timestamp)
    (contents : R) (tools : A) : Except PyError ToolValue × R × A :=
  match registry.execute toolName args tools with
  | (.error x, tools) => (.error x, contents, tools)
  | (.ok (.dict payload), tools) =>
      match adapter.putEffectReceipt
          { traceId := traceId, toolName := toolName, keyHash := keyHash
            fingerprint := Governor.effectFingerprint toolName args, result := payload
            createdAt := now } contents with
      | (.error x, contents) => (.error x, contents, tools)
      | (.ok stored, contents) => (.ok (.dict stored.result), contents, tools)
  | (.ok _, tools) =>
      (.error ⟨.toolExecution, s!"Write tool {toolName} returned a non-object result."⟩,
        contents, tools)

/-- The keyed part of `_execute_with_durable_receipt`. -/
def executeKeyed (traceId toolName : String) (args : Kwargs) (key : String) (now : Timestamp)
    (contents : R) (tools : A) : Except PyError ToolValue × R × A :=
  match opaqueKeyHash key with
  | .error x => (.error x, contents, tools)
  | .ok keyHash =>
      match adapter.getEffectReceipt traceId keyHash contents with
      | (.error x, contents) => (.error x, contents, tools)
      | (.ok (some existing), contents) =>
          if existing.fingerprint ≠ Governor.effectFingerprint toolName args then
            (.error keyReused, contents, tools)
          else (.ok (.dict existing.result), contents, tools)
      | (.ok none, contents) =>
          executeNew adapter registry traceId toolName args keyHash now contents tools

/-- `_execute_with_durable_receipt`; `now` is the clock when a receipt is made. -/
def executeWithDurableReceipt (traceId toolName : String) (effectClass : EffectClass)
    (args : Kwargs) (now : Timestamp) (contents : R) (tools : A) :
    Except PyError ToolValue × R × A :=
  match effectClass, args.get "idempotency_key" with
  | .read, _ =>
      let reply := registry.execute toolName args tools
      (reply.1, contents, reply.2)
  | _, .str key => executeKeyed adapter registry traceId toolName args key now contents tools
  | _, _ =>
      let reply := registry.execute toolName args tools
      (reply.1, contents, reply.2)

/-- The governor's step is this one, in memory and with the mock tools. -/
theorem executeWithDurableReceipt_exec (loader : FixtureLoader) (host : Host)
    (toolName : String) (effectClass : EffectClass) (args : Kwargs) (s : TrajectoryState)
    (w : World) :
    let r := (Governor.executeWithDurableReceipt toolName effectClass args).exec
      (World.handle loader host) s w
    executeWithDurableReceipt .memory (.mocks loader) s.traceId toolName effectClass args
        (host.utcNow s.traceId (w.ticks s.traceId)) w.store w.mocks =
      (r.result, r.env.store, r.env.mocks) := by
  have honce (key : String) :
      let r := (Governor.executeOnce toolName args key).exec (World.handle loader host) s w
      executeKeyed .memory (.mocks loader) s.traceId toolName args key
          (host.utcNow s.traceId (w.ticks s.traceId)) w.store w.mocks =
        (r.result, r.env.store, r.env.mocks) := by
    unfold executeKeyed executeNew Governor.executeOnce
    cases hhash : opaqueKeyHash key with
    | error x => simp [Proc.exec_bind]
    | ok keyHash =>
        simp only [Adapter.getEffectReceipt, Adapter.putEffectReceipt, Proc.exec_bind,
          Proc.exec_ofExcept, Proc.exec_read, Proc.exec_perform, World.handle]
        cases hstored : w.store.getEffectReceipt s.traceId keyHash with
        | some existing =>
            by_cases hsame : existing.fingerprint = Governor.effectFingerprint toolName args <;>
              simp [hsame, keyReused]
        | none =>
            rcases hreply : MockLogisticsTools.execute loader toolName args w.mocks
              with ⟨answer, mocks⟩
            have hexecute : (Registry.mocks loader).execute toolName args w.mocks =
                (answer, mocks) := hreply
            simp only [hexecute, Proc.exec_bind, Proc.exec_request, World.handle, hreply]
            cases answer with
            | error x => rfl
            | ok value =>
                cases value with
                | dict payload =>
                    simp only [Py.utcNow, Proc.exec_bind, Proc.exec_read, Proc.exec_perform,
                      Proc.exec_request, World.handle, World.draw, World.tick]
                    generalize w.store.putEffectReceipt _ = reply
                    rcases reply with ⟨stored, store⟩
                    cases stored <;> rfl
                | order o => rfl
                | fact f => rfl
                | vehicles vs => rfl
                | quotes qs => rfl
  unfold executeWithDurableReceipt Governor.executeWithDurableReceipt
  cases effectClass <;> cases hkey : args.get "idempotency_key" <;>
    first | exact honce _ | rfl

end Execute

/-! ## Lookups and puts -/

namespace Adapter

variable {R : Type} (adapter : Adapter R)

/-- A lookup never fails for a reused key. -/
theorem find_error {contents : R} {traceId keyHash : String} {x : PyError}
    (h : adapter.find traceId keyHash contents = .error x) : x ≠ keyReused := by
  cases adapter with
  | memory => cases h
  | dynamo backend answering =>
      have hfound := (DynamoDBTraceStore.exec_getEffectReceipt answering contents traceId
        keyHash).1
      have hcls := DynamoDBTraceStore.receiptIn_error (hfound.symm.trans h)
      rintro rfl
      exact hcls rfl

/-- A lookup changes no lookup. -/
theorem find_getEffectReceipt (contents : R) (traceId keyHash traceId' keyHash' : String) :
    adapter.find traceId' keyHash' (adapter.getEffectReceipt traceId keyHash contents).2 =
      adapter.find traceId' keyHash' contents := by
  cases adapter with
  | memory => rfl
  | dynamo backend answering =>
      have hfound (db : Database) : (dynamo backend answering).find traceId' keyHash' db =
          DynamoDBTraceStore.receiptIn db.table traceId' keyHash' :=
        (DynamoDBTraceStore.exec_getEffectReceipt answering db traceId' keyHash').1
      have htable := (DynamoDBTraceStore.exec_getEffectReceipt answering contents traceId
        keyHash).2
      rw [hfound, hfound]
      exact congrArg (DynamoDBTraceStore.receiptIn · traceId' keyHash') htable

/-- Where nothing is found, a put stores the receipt, or it is refused otherwise than for a
reused key; every other lookup finds what it found before. -/
theorem find_putEffectReceipt {contents : R} (receipt : EffectReceipt)
    (hnone : adapter.find receipt.traceId receipt.keyHash contents = .ok none) :
    let reply := adapter.putEffectReceipt receipt contents
    (∃ x, reply.1 = .error x ∧ x ≠ keyReused) ∨
      (reply.1 = .ok receipt ∧ ∀ traceId keyHash, adapter.find traceId keyHash reply.2 =
        if traceId = receipt.traceId ∧ keyHash = receipt.keyHash then .ok (some receipt)
        else adapter.find traceId keyHash contents) := by
  cases adapter with
  | memory =>
      have hget : contents.effectReceipts.get? (receipt.traceId, receipt.keyHash) = none :=
        Except.ok.inj hnone
      simp only [putEffectReceipt, MemoryTraceStore.putEffectReceipt, hget]
      split
      · refine .inl ⟨_, rfl, fun heq => ?_⟩
        have hcls := congrArg PyError.cls heq
        cases hcls
      · refine .inr ⟨rfl, fun traceId keyHash => ?_⟩
        show Except.ok ((contents.effectReceipts.set _ receipt).get? (traceId, keyHash)) = _
        rw [Dict.get?_set]
        by_cases hsame : traceId = receipt.traceId ∧ keyHash = receipt.keyHash
        · rw [if_pos (Prod.ext hsame.1 hsame.2), if_pos hsame]
        · rw [if_neg fun heq => hsame (Prod.mk.inj heq), if_neg hsame]
          rfl
  | dynamo backend answering =>
      have hfound (db : Database) (traceId keyHash : String) :
          (dynamo backend answering).find traceId keyHash db =
            DynamoDBTraceStore.receiptIn db.table traceId keyHash :=
        (DynamoDBTraceStore.exec_getEffectReceipt answering db traceId keyHash).1
      rw [hfound] at hnone
      rcases DynamoDBTraceStore.exec_putEffectReceipt answering contents hnone with
        ⟨x, hresult, hcls, -⟩ | ⟨hresult, htable⟩
      · refine .inl ⟨x, hresult, ?_⟩
        rintro rfl
        cases hcls
      · refine .inr ⟨hresult, fun traceId keyHash => ?_⟩
        rw [hfound, hfound]
        exact (congrArg (DynamoDBTraceStore.receiptIn · traceId keyHash) htable).trans
          (DynamoDBTraceStore.receiptIn_set contents.table hnone traceId keyHash)

end Adapter

/-! ## Histories -/

/-- A write under a key. -/
structure KeyedCall where
  traceId : String
  toolName : String
  effectClass : EffectClass
  arguments : Kwargs
  key : String
  now : Timestamp
  writes : effectClass ≠ .read
  keyed : arguments.get "idempotency_key" = .str key

/-- One call in a history: its outcome, the handler calls it made, and the repository before
and after it. -/
structure Execution (R : Type) where
  call : KeyedCall
  result : Except PyError ToolValue
  handled : List HandlerCall
  before : R
  after : R

/-- No handler raises, and the call completes or is refused for its key. -/
structure Execution.FailureFree {R : Type} (e : Execution R) : Prop where
  answered : ∀ handled ∈ e.handled, ∃ value, handled.answer = .ok value
  completed : ∀ x, e.result = .error x → x = keyReused

theorem Execution.failureFree_iff {R : Type} {e : Execution R} : e.FailureFree ↔
    e.handled.all (fun handled => handled.answer.toOption.isSome) = true ∧
      (match e.result with
        | .ok _ => true
        | .error x => decide (x = keyReused)) = true := by
  constructor
  · intro h
    refine ⟨List.all_eq_true.mpr fun handled hmem => ?_, ?_⟩
    · obtain ⟨value, hvalue⟩ := h.answered handled hmem
      rw [hvalue]
      rfl
    · cases hresult : e.result with
      | ok value => rfl
      | error x => exact decide_eq_true (h.completed x hresult)
  · rintro ⟨hanswered, hcompleted⟩
    refine ⟨fun handled hmem => ?_, fun x hresult => ?_⟩
    · have hsome := List.all_eq_true.mp hanswered handled hmem
      cases hanswer : handled.answer with
      | ok value => exact ⟨value, rfl⟩
      | error x =>
          rw [hanswer] at hsome
          cases hsome
    · rw [hresult] at hcompleted
      exact of_decide_eq_true hcompleted

instance {R : Type} (e : Execution R) : Decidable e.FailureFree :=
  decidable_of_iff _ e.failureFree_iff.symm

namespace KeyedCall

/-- The same tool with the same arguments. -/
def Same (call call' : KeyedCall) : Prop :=
  call.toolName = call'.toolName ∧
    (Value.dict call.arguments).normal = (Value.dict call'.arguments).normal

/-- What the fingerprint of a call is computed from. -/
def text (call : KeyedCall) : String :=
  canonicalJson (.dict [("tool_name", .str call.toolName), ("arguments", .dict call.arguments)])

/-- Two calls have one text exactly when they are the same. -/
theorem text_eq_iff {call call' : KeyedCall} : call.text = call'.text ↔ call.Same call' := by
  have hsorted (call : KeyedCall) : (Value.dict [("tool_name", .str call.toolName),
      ("arguments", .dict call.arguments)]).normal =
        .dict [("arguments", (Value.dict call.arguments).normal),
          ("tool_name", .str call.toolName)] := by
    have hle : ¬ ("tool_name" : String) ≤ "arguments" := by decide
    simp [Value.normal, Value.sorted, Value.sortedEntries, hle]
  unfold text canonicalJson Same
  rw [Value.dumps_eq_iff, hsorted, hsorted]
  simp [and_comm]

section Perform

variable [Sha256] {R A : Type} (adapter : Adapter R) (registry : Registry A)

/-- The digest of a call. -/
def fingerprint (call : KeyedCall) : String :=
  Governor.effectFingerprint call.toolName call.arguments

/-- Execute a call and note its handler calls. -/
def perform (call : KeyedCall) (contents : R) (tools : A) : Execution R × A :=
  let reply := executeWithDurableReceipt adapter registry.noting call.traceId call.toolName
    call.effectClass call.arguments call.now contents (tools, [])
  ({ call := call, result := reply.1, handled := reply.2.2.2, before := contents
     after := reply.2.1 }, reply.2.2.1)

variable {adapter registry}

/-- What an execution did with the receipt that is stored after it. -/
inductive Settled (adapter : Adapter R) (e : Execution R) (keyHash : String)
    (receipt : EffectReceipt) : Prop where
  | recalled (found : adapter.find e.call.traceId keyHash e.before = .ok (some receipt))
      (handled_eq : e.handled = [])
      (result_eq : e.result =
        if receipt.fingerprint = e.call.fingerprint then .ok (.dict receipt.result)
        else .error keyReused)
  | executed (absent : adapter.find e.call.traceId keyHash e.before = .ok none)
      (handled_length : e.handled.length = 1)
      (fingerprint_eq : receipt.fingerprint = e.call.fingerprint)
      (result_eq : e.result = .ok (.dict receipt.result))

/-- A new write without failures ran its handler once and stored the receipt. -/
theorem executeNew_spec (call : KeyedCall) {keyHash : String} {contents : R} {tools : A}
    (hnone : adapter.find call.traceId keyHash contents = .ok none)
    {reply : Except PyError ToolValue × R × A × List HandlerCall}
    (hreply : executeNew adapter registry.noting call.traceId call.toolName call.arguments
      keyHash call.now contents (tools, []) = reply)
    (hanswered : ∀ handled ∈ reply.2.2.2, ∃ value, handled.answer = .ok value)
    (hcompleted : ∀ x, reply.1 = .error x → x = keyReused) :
    ∃ receipt : EffectReceipt, receipt.fingerprint = call.fingerprint ∧
      reply.1 = .ok (.dict receipt.result) ∧ reply.2.2.2.length = 1 ∧
      ∀ traceId' keyHash', adapter.find traceId' keyHash' reply.2.1 =
        if traceId' = call.traceId ∧ keyHash' = keyHash then .ok (some receipt)
        else adapter.find traceId' keyHash' contents := by
  have hrefused (message : String) : (⟨.toolExecution, message⟩ : PyError) ≠ keyReused := by
    intro heq
    have hcls := congrArg PyError.cls heq
    cases hcls
  rcases hanswer : registry.execute call.toolName call.arguments tools with ⟨answer, tools'⟩
  have hnoted : registry.noting.execute call.toolName call.arguments (tools, []) =
      (answer, tools', [⟨call.toolName, call.arguments, answer⟩]) := by
    simp [Registry.noting, hanswer]
  unfold executeNew at hreply
  rw [hnoted] at hreply
  cases answer with
  | error x =>
      subst hreply
      obtain ⟨value, hvalue⟩ := hanswered _ (List.mem_singleton_self _)
      cases hvalue
  | ok value =>
      cases value with
      | dict payload =>
          dsimp only at hreply
          generalize hreceipt : ({
              traceId := call.traceId, toolName := call.toolName, keyHash := keyHash
              fingerprint := Governor.effectFingerprint call.toolName call.arguments
              result := payload, createdAt := call.now } : EffectReceipt) = receipt at hreply
          have htrace : receipt.traceId = call.traceId := by rw [← hreceipt]
          have hkey : receipt.keyHash = keyHash := by rw [← hreceipt]
          have hstored := adapter.find_putEffectReceipt receipt (by rwa [htrace, hkey])
          rcases hput : adapter.putEffectReceipt receipt contents with ⟨stored, contents'⟩
          rw [hput] at hreply hstored
          rcases hstored with ⟨x, hx, hne⟩ | ⟨hok, hfound⟩
          · obtain rfl : stored = .error x := hx
            subst hreply
            exact absurd (hcompleted x rfl) hne
          · obtain rfl : stored = .ok receipt := hok
            subst hreply
            rw [htrace, hkey] at hfound
            exact ⟨receipt, by rw [← hreceipt]; rfl, rfl, rfl, hfound⟩
      | order o =>
          subst hreply
          exact absurd (hcompleted _ rfl) (hrefused _)
      | fact f =>
          subst hreply
          exact absurd (hcompleted _ rfl) (hrefused _)
      | vehicles vs =>
          subst hreply
          exact absurd (hcompleted _ rfl) (hrefused _)
      | quotes qs =>
          subst hreply
          exact absurd (hcompleted _ rfl) (hrefused _)

variable (adapter registry) in
/-- A keyed write takes the keyed path. -/
theorem perform_eq (call : KeyedCall) (contents : R) (tools : A) :
    call.perform adapter registry contents tools =
      let reply := executeKeyed adapter registry.noting call.traceId call.toolName
        call.arguments call.key call.now contents (tools, [])
      ({ call := call, result := reply.1, handled := reply.2.2.2, before := contents
         after := reply.2.1 }, reply.2.2.1) := by
  have hwrites := call.writes
  unfold perform executeWithDurableReceipt
  rw [call.keyed]
  cases hclass : call.effectClass with
  | read => exact absurd hclass hwrites
  | reversibleWrite => rfl
  | financialCommit => rfl
  | physicalCommit => rfl
  | externalDisclosure => rfl

/-- An execution without failures leaves a receipt, which it found or stored, and keeps every
receipt it finds. -/
theorem perform_spec (call : KeyedCall) (contents : R) (tools : A)
    (hfree : (call.perform adapter registry contents tools).1.FailureFree) :
    ∃ keyHash receipt, opaqueKeyHash call.key = .ok keyHash ∧
      adapter.find call.traceId keyHash (call.perform adapter registry contents tools).1.after =
        .ok (some receipt) ∧
      Settled adapter (call.perform adapter registry contents tools).1 keyHash receipt ∧
      ∀ traceId' keyHash' stored, adapter.find traceId' keyHash' contents = .ok (some stored) →
        adapter.find traceId' keyHash'
          (call.perform adapter registry contents tools).1.after = .ok (some stored) := by
  rw [perform_eq] at hfree ⊢
  generalize hreply : executeKeyed adapter registry.noting call.traceId call.toolName
    call.arguments call.key call.now contents (tools, []) = reply at hfree ⊢
  unfold executeKeyed at hreply
  cases hhash : opaqueKeyHash call.key with
  | error x =>
      rw [hhash] at hreply
      subst hreply
      rw [hfree.completed x rfl] at hhash
      unfold opaqueKeyHash at hhash
      split_ifs at hhash
      have hcls := congrArg PyError.cls (Except.error.inj hhash)
      cases hcls
  | ok keyHash =>
      rw [hhash] at hreply
      rcases hget : adapter.getEffectReceipt call.traceId keyHash contents
        with ⟨found, contents'⟩
      have hfind : adapter.find call.traceId keyHash contents = found :=
        congrArg Prod.fst hget
      have hkept (traceId' keyHash' : String) : adapter.find traceId' keyHash' contents' =
          adapter.find traceId' keyHash' contents := by
        have hlookup := adapter.find_getEffectReceipt contents call.traceId keyHash traceId'
          keyHash'
        rwa [hget] at hlookup
      dsimp only at hreply
      rw [hget] at hreply
      cases found with
      | error x =>
          subst hreply
          exact absurd (hfree.completed x rfl) (adapter.find_error hfind)
      | ok stored =>
          cases stored with
          | some existing =>
              dsimp only at hreply
              by_cases hsame : existing.fingerprint =
                Governor.effectFingerprint call.toolName call.arguments
              · rw [if_neg (not_not.mpr hsame)] at hreply
                subst hreply
                exact ⟨keyHash, existing, rfl, (hkept _ _).trans hfind,
                  .recalled hfind rfl (if_pos hsame).symm,
                  fun _ _ _ hfound => (hkept _ _).trans hfound⟩
              · rw [if_pos hsame] at hreply
                subst hreply
                exact ⟨keyHash, existing, rfl, (hkept _ _).trans hfind,
                  .recalled hfind rfl (if_neg hsame).symm,
                  fun _ _ _ hfound => (hkept _ _).trans hfound⟩
          | none =>
              obtain ⟨receipt, hfingerprint, hresult, hlength, hfound⟩ :=
                executeNew_spec call ((hkept _ _).trans hfind) hreply hfree.answered
                  hfree.completed
              refine ⟨keyHash, receipt, rfl, (hfound _ _).trans (if_pos ⟨rfl, rfl⟩),
                .executed hfind hlength hfingerprint hresult, ?_⟩
              intro traceId' keyHash' stored hstored
              refine (hfound _ _).trans ?_
              rw [if_neg, hkept, hstored]
              rintro ⟨rfl, rfl⟩
              rw [hfind] at hstored
              cases hstored

end Perform

end KeyedCall

/-- What happens to a repository and its process: a call, a restart of the process, or
activity that has nothing to do with receipts. -/
inductive HistoryStep {R : Type} (adapter : Adapter R) where
  | execute (call : KeyedCall)
  | restart
  | beside (activity : R → R) (keeps : ∀ contents traceId keyHash,
      adapter.find traceId keyHash (activity contents) = adapter.find traceId keyHash contents)

section Run

variable [Sha256] {R A : Type} {adapter : Adapter R} (registry : Registry A)

/-- The executions of a history. -/
def executions : List (HistoryStep adapter) → R → A → List (Execution R)
  | [], _, _ => []
  | .execute call :: rest, contents, tools =>
      let performed := call.perform adapter registry contents tools
      performed.1 :: executions rest performed.1.after performed.2
  | .restart :: rest, contents, _ => executions rest contents registry.initial
  | .beside activity _ :: rest, contents, tools => executions rest (activity contents) tools

variable {registry}

/-- Once a receipt is stored, every later call under its key is answered from it. -/
theorem executions_recalled {traceId keyHash : String} {receipt : EffectReceipt}
    (steps : List (HistoryStep adapter)) (contents : R) (tools : A)
    (hfree : ∀ e ∈ executions registry steps contents tools, e.FailureFree)
    (hfound : adapter.find traceId keyHash contents = .ok (some receipt)) :
    ∀ e ∈ executions registry steps contents tools, e.call.traceId = traceId →
      opaqueKeyHash e.call.key = .ok keyHash →
      adapter.find traceId keyHash e.before = .ok (some receipt) ∧
        adapter.find traceId keyHash e.after = .ok (some receipt) ∧ e.handled = [] ∧
        e.result = if receipt.fingerprint = e.call.fingerprint then .ok (.dict receipt.result)
          else .error keyReused := by
  induction steps generalizing contents tools with
  | nil => exact fun e hmem => absurd hmem List.not_mem_nil
  | cons step rest ih =>
      cases step with
      | execute call =>
          obtain ⟨keyHash', receipt', hhash, hafter, hsettled, hkeeps⟩ :=
            call.perform_spec contents tools (hfree _ List.mem_cons_self)
          have hfound' := hkeeps _ _ _ hfound
          intro e hmem htrace hkey
          rcases List.mem_cons.mp hmem with rfl | hmem
          · have hcall : (call.perform adapter registry contents tools).1.call = call := rfl
            obtain rfl : keyHash' = keyHash := Except.ok.inj (hhash.symm.trans hkey)
            obtain rfl : call.traceId = traceId := htrace
            obtain rfl : receipt' = receipt :=
              Option.some.inj (Except.ok.inj (hafter.symm.trans hfound'))
            cases hsettled with
            | recalled _ hhandled hresult => exact ⟨hfound, hfound', hhandled, hresult⟩
            | executed habsent =>
                have hnone := hfound.symm.trans habsent
                cases hnone
          · exact ih _ _ (fun e h => hfree e (List.mem_cons_of_mem _ h)) hfound' e hmem htrace hkey
      | restart => exact ih contents registry.initial hfree hfound
      | beside activity keeps =>
          exact ih (activity contents) tools hfree ((keeps _ _ _).trans hfound)

/-- The handler calls of a history under one key of a trace. -/
def handledUnder (traceId key : String) (executions : List (Execution R)) : List HandlerCall :=
  (executions.filter fun e => e.call.traceId = traceId && e.call.key = key).flatMap (·.handled)

/-- After a call that returned a value, the same call returns it again and any other call under
its key is refused, both without a handler and without touching the receipt. -/
def AnsweredBy (adapter : Adapter R) (e e' : Execution R) : Prop :=
  ∀ value, e.result = .ok value → e'.call.traceId = e.call.traceId →
    e'.call.key = e.call.key →
      e'.handled = [] ∧
        (∀ keyHash, opaqueKeyHash e.call.key = .ok keyHash →
          adapter.find e.call.traceId keyHash e'.after =
            adapter.find e.call.traceId keyHash e'.before) ∧
        (e'.call.Same e.call → e'.result = .ok value) ∧
        (¬ e'.call.Same e.call → e'.result = .error keyReused)

/-- An execution that returned a value left it in a receipt of its own. -/
theorem KeyedCall.Settled.of_ok {e : Execution R} {keyHash : String} {receipt : EffectReceipt}
    {value : ToolValue} (h : Settled adapter e keyHash receipt) (hvalue : e.result = .ok value) :
    receipt.fingerprint = e.call.fingerprint ∧ value = .dict receipt.result := by
  cases h with
  | recalled _ _ hresult =>
      rw [hvalue] at hresult
      split_ifs at hresult with hsame
      exact ⟨hsame, Except.ok.inj hresult⟩
  | executed _ _ hsame hresult =>
      rw [hvalue] at hresult
      exact ⟨hsame, Except.ok.inj hresult⟩

/-- A handler runs at most once in an execution. -/
theorem KeyedCall.Settled.handled_length_le {e : Execution R} {keyHash : String}
    {receipt : EffectReceipt} (h : Settled adapter e keyHash receipt) : e.handled.length ≤ 1 := by
  cases h with
  | recalled _ hhandled => simp [hhandled]
  | executed _ hlength => exact hlength.le

/-- No handler runs under a key that has a receipt. -/
theorem handledUnder_eq_nil {traceId key keyHash : String} {executions : List (Execution R)}
    (hhash : opaqueKeyHash key = .ok keyHash)
    (h : ∀ e ∈ executions, e.call.traceId = traceId → opaqueKeyHash e.call.key = .ok keyHash →
      e.handled = []) : handledUnder traceId key executions = [] := by
  refine List.flatMap_eq_nil_iff.mpr fun e hmem => ?_
  obtain ⟨hmem, hkey⟩ := List.mem_filter.mp hmem
  simp only [Bool.and_eq_true, decide_eq_true_eq] at hkey
  exact h e hmem hkey.1 (hkey.2 ▸ hhash)

variable (registry) in
/-- Over every history without failures, whatever process restarts and other activity it has,
every key of a trace runs a handler at most once; later calls return what was stored, and a
reused key is refused. -/
theorem executions_once (steps : List (HistoryStep adapter)) (contents : R) (tools : A)
    (hfree : ∀ e ∈ executions registry steps contents tools, e.FailureFree)
    (hdigests : CollisionFree ((executions registry steps contents tools).map (·.call.text))) :
    (∀ traceId key,
      (handledUnder traceId key (executions registry steps contents tools)).length ≤ 1) ∧
      (executions registry steps contents tools).Pairwise (AnsweredBy adapter) := by
  induction steps generalizing contents tools with
  | nil => exact ⟨fun _ _ => Nat.zero_le _, .nil⟩
  | cons step rest ih =>
      cases step with
      | execute call =>
          obtain ⟨keyHash, receipt, hhash, hafter, hsettled, -⟩ :=
            call.perform_spec contents tools (hfree _ List.mem_cons_self)
          have hrest (e : Execution R) (hmem : e ∈ executions registry rest
              (call.perform adapter registry contents tools).1.after
              (call.perform adapter registry contents tools).2) : e.FailureFree :=
            hfree e (List.mem_cons_of_mem _ hmem)
          have hdigests' : CollisionFree ((executions registry rest
              (call.perform adapter registry contents tools).1.after
              (call.perform adapter registry contents tools).2).map (·.call.text)) :=
            fun s hs t ht => hdigests s (List.mem_cons_of_mem _ hs) t (List.mem_cons_of_mem _ ht)
          have hlater := executions_recalled rest _ _ hrest hafter
          obtain ⟨hcount, hpairs⟩ := ih _ _ hrest hdigests'
          refine ⟨fun traceId key => ?_, List.pairwise_cons.mpr ⟨?_, hpairs⟩⟩
          · have hnone (hkey : key = call.key) (htrace : traceId = call.traceId) :
                handledUnder traceId key (executions registry rest
                  (call.perform adapter registry contents tools).1.after
                  (call.perform adapter registry contents tools).2) = [] := by
              subst hkey htrace
              exact handledUnder_eq_nil hhash fun e hmem ht hk => (hlater e hmem ht hk).2.2.1
            unfold executions handledUnder
            rw [List.filter_cons]
            split_ifs with hown
            · simp only [Bool.and_eq_true, decide_eq_true_eq] at hown
              rw [List.flatMap_cons]
              have htail := hnone hown.2.symm hown.1.symm
              unfold handledUnder at htail
              rw [htail, List.append_nil]
              exact hsettled.handled_length_le
            · exact hcount traceId key
          · intro e' hmem value hvalue htrace hkey
            obtain ⟨hsame, rfl⟩ := hsettled.of_ok hvalue
            obtain ⟨hbefore, hafter', hhandled, hresult⟩ :=
              hlater e' hmem htrace (hkey ▸ hhash)
            rw [hsame] at hresult
            have htexts (hdigest : e'.call.fingerprint = call.fingerprint) :
                e'.call.Same call :=
              KeyedCall.text_eq_iff.mp (hdigests _
                (List.mem_cons_of_mem _ (List.mem_map_of_mem hmem)) _ List.mem_cons_self hdigest)
            refine ⟨hhandled, fun keyHash' hhash' => ?_, fun hcall => ?_, fun hcall => ?_⟩
            · obtain rfl : keyHash' = keyHash := Except.ok.inj (hhash'.symm.trans hhash)
              exact hafter'.trans hbefore.symm
            · have htext := KeyedCall.text_eq_iff.mpr hcall
              have hdigest : call.fingerprint = e'.call.fingerprint :=
                congrArg Sha256.hexdigest htext.symm
              exact hresult.trans (if_pos hdigest)
            · exact hresult.trans (if_neg fun hdigest => hcall (htexts hdigest.symm))
      | restart => exact ih contents registry.initial hfree hdigests
      | beside activity keeps => exact ih (activity contents) tools hfree hdigests

end Run

/-! ## A selection that is repeated -/

namespace Demo

/-- A quote selected under one key. -/
def selection (quoteId : String) : KeyedCall where
  traceId := "TRACE-1"
  toolName := "select_carrier_quote"
  effectClass := .reversibleWrite
  arguments := [("order_id", .str "ORD-8842"), ("quote_id", .str quoteId),
    ("idempotency_key", .str "select-1")]
  key := "select-1"
  now := 0
  writes := by decide
  keyed := rfl

/-- A selection, a process restart, the same selection and another one under its key. -/
def reselecting : List (HistoryStep .memory) :=
  [.execute (selection "QUOTE-COLD-01"), .restart, .execute (selection "QUOTE-COLD-01"),
    .execute (selection "QUOTE-CHEAP-01")]

/-- The executions of that history. -/
def reselected : List (Execution MemoryTraceStore) :=
  executions (.mocks loader) reselecting (MemoryTraceStore.createRun {} started 0).2 {}

end Demo

/-- Of three selections under one key one reaches its handler. -/
theorem executions_once_reselected :
    (handledUnder "TRACE-1" "select-1" Demo.reselected).length ≤ 1 ∧
      Demo.reselected.length = 3 ∧ Demo.reselected.Pairwise (AnsweredBy .memory) := by
  have hfree : ∀ e ∈ Demo.reselected, e.FailureFree := by decide +kernel
  have hdigests : CollisionFree (Demo.reselected.map (·.call.text)) := by
    unfold CollisionFree
    decide +kernel
  obtain ⟨hcount, hpairs⟩ := executions_once (.mocks Demo.loader) Demo.reselecting
    (MemoryTraceStore.createRun {} Demo.started 0).2 {} hfree hdigests
  exact ⟨hcount _ _, by decide +kernel, hpairs⟩

end Manifest
