import Manifest.Governor.Disclosure
import Manifest.Governor.Shadow

/-!
# What a notification writes

Two calls of `write_tracking_outbox` that differ only in contact data, and everything the
governor writes to the repository in them.

Main results:

- Theorem `effect_writes`: what carrying out an effect writes.
- Theorem `writes_eq_iff`: when the two calls write the same.
-/

set_option autoImplicit false

namespace Manifest

open Interaction

/-! ## Writes -/

/-- A write to the repository, without the identifiers, times and hashes the repository
itself adds. -/
inductive Write where
  | run (state : TrajectoryState)
  | event (state : TrajectoryState) (spec : EventSpec)
  | decision (state : TrajectoryState) (decision : Decision)
  | approval (state : TrajectoryState) (approval : ApprovalRecord)
  | replacement (approval : ApprovalRecord)
  | replay (approvalId idempotencyKey fingerprint : String)
  | receipt (receipt : EffectReceipt)

/-- The observer of all writes. -/
def writeObserver {E : Type} : Observer Op E Write
  | _, .createRun state, _ => [.run state]
  | _, .appendEvent state spec, _ => [.event state spec]
  | _, .appendDecision state decision, _ => [.decision state decision]
  | _, .addApproval state approval, _ => [.approval state approval]
  | _, .replaceApproval approval, _ => [.replacement approval]
  | _, .recordApprovalReplay approvalId key fingerprint, _ =>
      [.replay approvalId key fingerprint]
  | _, .putEffectReceipt receipt, _ => [.receipt receipt]
  | _, _, _ => []

namespace Governor

/-! ## The report of an effect -/

/-- The text a failed tool is reported with. -/
def failureText (toolName : String) (x : PyError) : String :=
  if x.isManifest then x.message else s!"Tool {toolName} failed unexpectedly."

/-- What the event after an effect tells of the tool's answer. -/
def disclosed (toolName : String) : Except PyError ToolValue → Except String Value
  | .ok value => .ok (safeResult toolName value)
  | .error x => .error (failureText toolName x)

/-- The event after an effect. -/
def reportSpec (proposal : ToolProposal) : Except PyError ToolValue → EventSpec
  | .ok value => succeededSpec proposal value
  | .error x => failedSpec proposal (failureText proposal.toolName x)

/-- Two answers are reported alike when they disclose the same. -/
theorem reportSpec_eq_iff {proposal : ToolProposal} {r r' : Except PyError ToolValue} :
    reportSpec proposal r = reportSpec proposal r' ↔
      disclosed proposal.toolName r = disclosed proposal.toolName r' := by
  cases r with
  | ok value =>
      cases r' with
      | ok value' => simp [reportSpec, disclosed, succeededSpec]
      | error x => simp [reportSpec, disclosed, succeededSpec, failedSpec]
  | error x =>
      cases r' with
      | ok value' => simp [reportSpec, disclosed, succeededSpec, failedSpec]
      | error x' => simp [reportSpec, disclosed, failedSpec]

section Writes

variable {E : Type} (h : Handler Op E) (s : TrajectoryState) (e : E)

theorem reportFailure_writes {α : Type} (proposal : ToolProposal) (x : PyError) :
    (reportFailure proposal x : Py α).log h writeObserver s e =
      [.event s (reportSpec proposal (.error x))] := by
  have hraise (spec : EventSpec) (y : PyError) :
      (Py.appendEvent spec >>= fun _ => (Proc.raise y : Py α)).log h writeObserver s e =
        [.event s spec] := by
    rw [Proc.log_bind, Py.log_appendEvent]
    rcases (Py.appendEvent spec).exec h s e with ⟨r, s', e'⟩
    cases r <;> rfl
  unfold reportFailure reportSpec failureText
  by_cases hmanifest : x.isManifest = true
  · simp only [hmanifest, if_true]
    exact hraise _ _
  · simp only [hmanifest, Bool.false_eq_true, if_false]
    exact hraise _ _

variable [Sha256]

/-- An effect writes what the tool's receipt asks for, then the report. -/
theorem effect_writes (effectClass : EffectClass) (proposal : ToolProposal)
    (request : PolicyRequest) (args : Kwargs) (decision : Decision) :
    (effect effectClass proposal request args decision).log h writeObserver s e =
      (executeWithDurableReceipt proposal.toolName effectClass args).log h writeObserver s e ++
        [.event s (reportSpec proposal
          ((executeWithDurableReceipt proposal.toolName effectClass args).exec h s e).result)] := by
  have hframe := (executeWithDurableReceipt_ensures proposal.toolName effectClass args s).exec h e
  unfold effect
  rw [Proc.log_bind, Proc.log_tryCatch, Proc.exec_tryCatch]
  rcases hx : (executeWithDurableReceipt proposal.toolName effectClass args).exec h s e
    with ⟨r, s', e'⟩
  rw [hx] at hframe
  obtain rfl : s' = s := hframe
  cases r with
  | ok value =>
      simp only [List.append_nil, List.append_cancel_left_eq]
      rw [Proc.log_bind, Py.log_appendEvent]
      rcases (Py.appendEvent (succeededSpec proposal value)).exec h s' e' with ⟨r, s₁, e₁⟩
      cases r with
      | error x => rfl
      | ok event =>
          simp only [Proc.log_bind, Proc.log_lift, Proc.exec_lift]
          cases (applyEffect proposal.toolName args value s₁).1 <;> rfl
  | error x =>
      have hraise := (reportFailure_ensures (α := ToolValue) proposal x s').exec h e'
      simp only [reportFailure_writes]
      rcases hx' : (reportFailure proposal x : Py ToolValue).exec h s' e' with ⟨r, s₁, e₁⟩
      rw [hx'] at hraise
      cases r with
      | ok value => exact absurd rfl (hraise.2 value)
      | error y => simp

end Writes

/-! ## Two effects -/

section Alike

variable [Sha256] (loader : FixtureLoader) (host : Host)

/-- The adapter's answer to a call. -/
def answer (toolName : String) (args : Kwargs) (w : World) : Except PyError ToolValue :=
  (MockLogisticsTools.execute loader toolName args w.mocks).1

/-- A keyed notification is remembered for both calls or for neither; where it is not
remembered, or has no key, the answers of the adapter disclose the same, and an answer that
is about to be remembered is the same for both, under one fingerprint. -/
def TreatedAlike (toolName : String) (args args' : Kwargs) (s : TrajectoryState) (w : World) :
    Prop :=
  match args.get "idempotency_key" with
  | .str key =>
      match opaqueKeyHash key with
      | .error _ => True
      | .ok keyHash =>
          match w.store.getEffectReceipt s.traceId keyHash with
          | some existing =>
              existing.fingerprint = effectFingerprint toolName args ↔
                existing.fingerprint = effectFingerprint toolName args'
          | none =>
              disclosed toolName (answer loader toolName args w) =
                disclosed toolName (answer loader toolName args' w) ∧
              ∀ value, answer loader toolName args w = .ok value →
                answer loader toolName args' w = .ok value ∧
                  effectFingerprint toolName args = effectFingerprint toolName args'
  | _ =>
      disclosed toolName (answer loader toolName args w) =
        disclosed toolName (answer loader toolName args' w)

/-- The receipt a new keyed write asks for. -/
def newReceipt (toolName : String) (args : Kwargs) (keyHash : String) (s : TrajectoryState)
    (w : World) (payload : Kwargs) : EffectReceipt :=
  { traceId := s.traceId, toolName := toolName, keyHash := keyHash
    fingerprint := effectFingerprint toolName args, result := payload
    createdAt := host.utcNow s.traceId (w.ticks s.traceId) }

section Once

variable {toolName key keyHash : String} {args : Kwargs} {s : TrajectoryState} {w : World}
  (hhash : opaqueKeyHash key = .ok keyHash)

include hhash

variable (toolName args) in
/-- Under a remembered key nothing is written and the receipt decides the result. -/
theorem executeOnce_remembered {existing : EffectReceipt}
    (hstored : w.store.getEffectReceipt s.traceId keyHash = some existing) :
    (executeOnce toolName args key).log (World.handle loader host) writeObserver s w = [] ∧
      ((executeOnce toolName args key).exec (World.handle loader host) s w).result =
        if existing.fingerprint = effectFingerprint toolName args then .ok (.dict existing.result)
        else .error ⟨.effectReceiptConflict,
          "An effect idempotency key was reused with different arguments."⟩ := by
  unfold executeOnce
  rw [hhash]
  simp only [Proc.log_bind, Proc.exec_bind, Proc.exec_ofExcept, Proc.log_ofExcept,
    Proc.exec_read, Proc.log_read, Proc.exec_perform, Proc.log_perform, World.handle, hstored]
  by_cases hsame : existing.fingerprint = effectFingerprint toolName args <;>
    simp [hsame, writeObserver]

variable (hstored : w.store.getEffectReceipt s.traceId keyHash = none)

include hstored

/-- A tool that fails writes no receipt. -/
theorem executeOnce_failed {x : PyError} (hanswer : answer loader toolName args w = .error x) :
    (executeOnce toolName args key).log (World.handle loader host) writeObserver s w = [] ∧
      ((executeOnce toolName args key).exec (World.handle loader host) s w).result =
        .error x := by
  unfold answer at hanswer
  unfold executeOnce
  rw [hhash]
  simp [Proc.log_bind, Proc.exec_bind, World.handle, hstored, hanswer, writeObserver]

/-- A tool that succeeds asks for a receipt, which decides the result. -/
theorem executeOnce_new {payload : Kwargs}
    (hanswer : answer loader toolName args w = .ok (.dict payload)) :
    (executeOnce toolName args key).log (World.handle loader host) writeObserver s w =
        [.receipt (newReceipt host toolName args keyHash s w payload)] ∧
      ((executeOnce toolName args key).exec (World.handle loader host) s w).result =
        (w.store.putEffectReceipt (newReceipt host toolName args keyHash s w payload)).1.map
          fun stored => .dict stored.result := by
  unfold answer at hanswer
  unfold executeOnce newReceipt
  rw [hhash]
  simp only [Proc.log_bind, Proc.exec_bind, World.handle, hstored, hanswer, Proc.exec_ofExcept,
    Proc.log_ofExcept, Proc.exec_read, Proc.log_read, Proc.exec_perform, Proc.log_perform,
    Proc.exec_request, Proc.log_request, Py.utcNow, World.draw, World.tick]
  generalize w.store.putEffectReceipt _ = reply
  rcases reply with ⟨r, store⟩
  cases r <;> exact ⟨rfl, rfl⟩

end Once

omit [Sha256] in
/-- The two answers disclose the same when they are the same. -/
theorem disclosed_stored (toolName : String) {existing : EffectReceipt} {p p' : Prop}
    [Decidable p] [Decidable p'] (x : PyError) :
    disclosed toolName (if p then .ok (.dict existing.result) else .error x) =
      disclosed toolName (if p' then .ok (.dict existing.result) else .error x) ↔ (p ↔ p') := by
  by_cases hp : p <;> by_cases hp' : p' <;> simp [hp, hp', disclosed]

/-- A successful notification answers with an object. -/
theorem answer_object {args : Kwargs} {w : World} {value : ToolValue}
    (h : answer loader "write_tracking_outbox" args w = .ok value) :
    ∃ payload, value = .dict payload := by
  have hwriting : answer loader "write_tracking_outbox" args w =
      (MockLogisticsTools.writing w.mocks
        (MockLogisticsTools.writeTrackingOutbox loader args w.mocks)).1 := rfl
  rw [hwriting] at h
  unfold MockLogisticsTools.writing at h
  split at h
  · exact ⟨_, (Except.ok.inj h).symm⟩
  · cases h

/-- Two keyed notifications without a receipt write and report the same exactly when they
disclose the same and would be remembered as one. -/
theorem executeOnce_new_iff {key keyHash : String} (hhash : opaqueKeyHash key = .ok keyHash)
    {args args' : Kwargs} {s : TrajectoryState} {w : World}
    (hstored : w.store.getEffectReceipt s.traceId keyHash = none) {proposal : ToolProposal}
    (htool : proposal.toolName = "write_tracking_outbox") :
    (executeOnce proposal.toolName args key).log (World.handle loader host) writeObserver s w ++
        [.event s (reportSpec proposal ((executeOnce proposal.toolName args key).exec
          (World.handle loader host) s w).result)] =
      (executeOnce proposal.toolName args' key).log (World.handle loader host) writeObserver s
          w ++
        [.event s (reportSpec proposal ((executeOnce proposal.toolName args' key).exec
          (World.handle loader host) s w).result)] ↔
      disclosed proposal.toolName (answer loader proposal.toolName args w) =
          disclosed proposal.toolName (answer loader proposal.toolName args' w) ∧
        ∀ value, answer loader proposal.toolName args w = .ok value →
          answer loader proposal.toolName args' w = .ok value ∧
            effectFingerprint proposal.toolName args =
              effectFingerprint proposal.toolName args' := by
  cases hanswer : answer loader proposal.toolName args w with
  | error x =>
      obtain ⟨hlog, hresult⟩ := executeOnce_failed loader host hhash hstored hanswer
      rw [hlog, hresult]
      cases hanswer' : answer loader proposal.toolName args' w with
      | error x' =>
          obtain ⟨hlog', hresult'⟩ := executeOnce_failed loader host hhash hstored hanswer'
          rw [hlog', hresult']
          simp [reportSpec_eq_iff]
      | ok value' =>
          obtain ⟨payload', rfl⟩ := answer_object loader (htool ▸ hanswer')
          obtain ⟨hlog', hresult'⟩ := executeOnce_new loader host hhash hstored hanswer'
          rw [hlog']
          simp [disclosed]
  | ok value =>
      obtain ⟨payload, rfl⟩ := answer_object loader (htool ▸ hanswer)
      obtain ⟨hlog, hresult⟩ := executeOnce_new loader host hhash hstored hanswer
      rw [hlog, hresult]
      cases hanswer' : answer loader proposal.toolName args' w with
      | error x' =>
          obtain ⟨hlog', hresult'⟩ := executeOnce_failed loader host hhash hstored hanswer'
          rw [hlog']
          simp [disclosed]
      | ok value' =>
          obtain ⟨payload', rfl⟩ := answer_object loader (htool ▸ hanswer')
          obtain ⟨hlog', hresult'⟩ := executeOnce_new loader host hhash hstored hanswer'
          rw [hlog', hresult']
          constructor
          · intro heq
            have hreceipt : newReceipt host proposal.toolName args keyHash s w payload =
                newReceipt host proposal.toolName args' keyHash s w payload' :=
              Write.receipt.inj (List.cons.inj heq).1
            have hpayload : payload = payload' := congrArg EffectReceipt.result hreceipt
            subst hpayload
            refine ⟨rfl, ?_⟩
            rintro value ⟨⟩
            exact ⟨rfl, congrArg EffectReceipt.fingerprint hreceipt⟩
          · rintro ⟨-, hsame⟩
            obtain ⟨hvalue, hfingerprint⟩ := hsame _ rfl
            obtain rfl : payload' = payload := by simpa using hvalue
            unfold newReceipt
            rw [hfingerprint]

/-- Two notifications under one key write and report the same exactly when they are
treated alike. -/
theorem effect_writes_iff {effectClass : EffectClass} (hclass : effectClass ≠ .read)
    {proposal : ToolProposal} (htool : proposal.toolName = "write_tracking_outbox")
    {args args' : Kwargs} (hkey : args'.get "idempotency_key" = args.get "idempotency_key")
    (request request' : PolicyRequest) (decision : Decision) (s : TrajectoryState) (w : World) :
    (effect effectClass proposal request args decision).log (World.handle loader host)
        writeObserver s w =
      (effect effectClass proposal request' args' decision).log (World.handle loader host)
        writeObserver s w ↔
      TreatedAlike loader proposal.toolName args args' s w := by
  rw [effect_writes, effect_writes]
  have hadapter (hnone : ∀ key, args.get "idempotency_key" ≠ .str key) :
      (executeWithDurableReceipt proposal.toolName effectClass args).log
            (World.handle loader host) writeObserver s w ++
          [.event s (reportSpec proposal ((executeWithDurableReceipt proposal.toolName effectClass
            args).exec (World.handle loader host) s w).result)] =
        (executeWithDurableReceipt proposal.toolName effectClass args').log
            (World.handle loader host) writeObserver s w ++
          [.event s (reportSpec proposal ((executeWithDurableReceipt proposal.toolName effectClass
            args').exec (World.handle loader host) s w).result)] ↔
        disclosed proposal.toolName (answer loader proposal.toolName args w) =
          disclosed proposal.toolName (answer loader proposal.toolName args' w) := by
    rw [executeWithDurableReceipt_unkeyed _ _ hnone,
      executeWithDurableReceipt_unkeyed _ _ (hkey ▸ hnone)]
    simp only [Proc.log_request, Proc.exec_request, writeObserver, List.nil_append,
      List.cons.injEq, Write.event.injEq, true_and, and_true, reportSpec_eq_iff]
    rfl
  unfold TreatedAlike
  cases hvalue : args.get "idempotency_key" with
  | str key =>
      rw [executeWithDurableReceipt_keyed _ hclass hvalue,
        executeWithDurableReceipt_keyed _ hclass (hkey.trans hvalue)]
      dsimp only
      cases hhash : opaqueKeyHash key with
      | error x =>
          have hraise (arguments : Kwargs) :
              executeOnce proposal.toolName arguments key = Proc.raise x := by
            unfold executeOnce
            rw [hhash]
            rfl
          rw [hraise, hraise]
          simp
      | ok keyHash =>
          dsimp only
          cases hstored : w.store.getEffectReceipt s.traceId keyHash with
          | none => exact executeOnce_new_iff loader host hhash hstored htool
          | some existing =>
              obtain ⟨hlog, hresult⟩ :=
                executeOnce_remembered loader host proposal.toolName args hhash hstored
              obtain ⟨hlog', hresult'⟩ :=
                executeOnce_remembered loader host proposal.toolName args' hhash hstored
              rw [hlog, hlog', hresult, hresult']
              simp only [List.nil_append, List.cons.injEq, Write.event.injEq, true_and, and_true,
                reportSpec_eq_iff, disclosed_stored]
  | _ => exact hadapter (by simp [hvalue])

end Alike

/-! ## Up to the decision -/

section Decided

variable (g : Governor) {E : Type} {h : Handler Op E}

/-- Proposing looks at the redacted arguments alone. -/
theorem propose_congr (agent : AgentName) {toolName : String} {args args' : Kwargs}
    (hsafe : safeArguments toolName args' = safeArguments toolName args) :
    g.propose agent toolName args' = g.propose agent toolName args := by
  unfold propose
  rw [hsafe]

/-- Requests for one notification, with either call's arguments. -/
def Readdressed (args args' : Kwargs) (request request' : PolicyRequest) : Prop :=
  request.action = "write_tracking_outbox" ∧ request.context.arguments = args ∧
    request' = request.withArguments args'

theorem buildRequest_agree {args args' : Kwargs} (definition : Option ToolDefinition)
    {proposal : ToolProposal} (htool : proposal.toolName = "write_tracking_outbox") :
    Proc.Agree h writeObserver Proc.Same Proc.Same Proc.Same (Readdressed args args')
      (g.buildRequest definition proposal args) (g.buildRequest definition proposal args') := by
  have hresource (s : TrajectoryState) (arguments : Kwargs) :
      g.resourceContext s proposal.toolName arguments = .ok .empty := by
    unfold resourceContext
    simp [htool]
  have hid (s : TrajectoryState) (arguments : Kwargs) :
      resourceIdOf s proposal.toolName arguments = s.orderId := by
    unfold resourceIdOf
    simp [htool]
  unfold buildRequest
  refine (Proc.Agree.same Proc.read).bind ?_
  rintro _ s rfl
  rw [hresource, hresource, hid, hid]
  refine (Proc.Agree.same _).bind ?_
  rintro _ resource rfl
  refine (Proc.Agree.same _).bind ?_
  rintro _ approval rfl
  refine (Proc.Agree.same _).bind ?_
  rintro _ uuid rfl
  exact .pure ⟨htool, rfl, rfl⟩

/-- Two notifications are decided alike. -/
theorem judge_agree (hblind : BlindToContacts g.engine) {args args' : Kwargs}
    (hargs : Undisclosed args args') (definition : Option ToolDefinition)
    {proposal : ToolProposal} (htool : proposal.toolName = "write_tracking_outbox") :
    Proc.Agree h writeObserver Proc.Same Proc.Same Proc.Same
      (fun judged judged' => judged' = (judged.1.withArguments args', judged.2))
      (g.judge definition proposal args) (g.judge definition proposal args') := by
  unfold judge
  refine (g.buildRequest_agree definition htool).bind ?_
  rintro request _ ⟨haction, hrequest, rfl⟩
  refine (Proc.Agree.same Proc.read).bind ?_
  rintro _ s rfl
  have hsignals : g.signalsFor definition (request.withArguments args') s =
      g.signalsFor definition request s := by
    unfold signalsFor
    rw [hblind request s args' haction (hrequest ▸ hargs)]
    rfl
  rw [hsignals]
  refine (Proc.Agree.same (g.makeDecision proposal request _)).bind ?_
  rintro _ decision rfl
  exact .pure rfl

/-- What one notification is judged on, the other is. -/
theorem judge_readdressed (hblind : BlindToContacts g.engine) {args args' : Kwargs}
    (hargs : Undisclosed args args') {definition : Option ToolDefinition}
    {proposal : ToolProposal} (htool : proposal.toolName = "write_tracking_outbox")
    {request : PolicyRequest} {decision : Decision} {s t : TrajectoryState} {e u : E}
    (hjudge : (g.judge definition proposal args).exec h s e = ⟨.ok (request, decision), t, u⟩) :
    (g.judge definition proposal args').exec h s e =
      ⟨.ok (request.withArguments args', decision), t, u⟩ := by
  obtain ⟨judged', hjudge', hsame⟩ :=
    (g.judge_agree hblind hargs definition htool).exec_ok hjudge
  rw [hjudge', hsame]

variable [Sha256]

/-- Two notifications that are redacted alike write the same exactly when what they carry
out does. -/
theorem executeTool_writes_iff (hblind : BlindToContacts g.engine) {args args' : Kwargs}
    (hargs : Undisclosed args args')
    (hsafe : safeArguments "write_tracking_outbox" args' =
      safeArguments "write_tracking_outbox" args) (agent : AgentName) (s : TrajectoryState)
    (e : E) :
    (g.executeTool agent "write_tracking_outbox" args).log h writeObserver s e =
      (g.executeTool agent "write_tracking_outbox" args').log h writeObserver s e ↔
      ∀ definition proposal request decision s₁ s₃ e₁ e₂ e₃,
        g.Staged h agent "write_tracking_outbox" args s e definition proposal request decision
          s₁ s₃ e₁ e₂ e₃ →
        (apply definition proposal request args decision).log h writeObserver s₃ e₃ =
          (apply definition proposal (request.withArguments args') args' decision).log h
            writeObserver s₃ e₃ := by
  unfold executeTool
  rw [g.propose_congr agent hsafe, (Proc.Agree.same _).log_bind_iff]
  constructor
  · intro hlog definition proposal request decision s₁ s₃ e₁ e₂ e₃ hs
    have htool : proposal.toolName = "write_tracking_outbox" := hs.proposed.toolName_eq
    have hjudged := hlog _ _ _ _ hs.propose_eq hs.propose_eq rfl
    have hrecorded := ((g.judge_agree hblind hargs definition htool).log_bind_iff s₁ e₁).mp
      hjudged _ _ _ _ hs.judge_eq (g.judge_readdressed hblind hargs htool hs.judge_eq) rfl
    exact ((Proc.Agree.same (record decision)).log_bind_iff s₁ e₂).mp hrecorded _ _ _ _
      hs.record_eq hs.record_eq rfl
  · rintro happly ⟨definition, proposal⟩ _ s₁ e₁ hpropose - rfl
    have hproposed := (g.propose_ensures agent "write_tracking_outbox" args s).exec h e
    rw [hpropose] at hproposed
    have htool : proposal.toolName = "write_tracking_outbox" :=
      (hproposed.2 _ _ rfl).toolName_eq
    refine ((g.judge_agree hblind hargs definition htool).log_bind_iff s₁ e₁).mpr ?_
    rintro ⟨request, decision⟩ _ s₂ e₂ hjudge - rfl
    have hframe := (g.judge_ensures definition proposal args s₁).exec h e₁
    rw [hjudge] at hframe
    obtain rfl : s₂ = s₁ := hframe.1
    refine ((Proc.Agree.same (record decision)).log_bind_iff s₂ e₂).mpr ?_
    rintro _ _ s₃ e₃ hrecord - rfl
    exact happly definition proposal request decision s₂ s₃ e₁ e₂ e₃ ⟨hpropose, hjudge, hrecord⟩

/-- Two notifications that are carried out write the same exactly when the effect of an
allowed one does. -/
theorem apply_writes_iff (loader : FixtureLoader) (host : Host) {args args' : Kwargs}
    (hargs : Undisclosed args args') {proposal : ToolProposal}
    (htool : proposal.toolName = "write_tracking_outbox") (request request' : PolicyRequest)
    (decision : Decision) (s : TrajectoryState) (w : World) :
    (apply (getDefinition "write_tracking_outbox") proposal request args decision).log
        (World.handle loader host) writeObserver s w =
      (apply (getDefinition "write_tracking_outbox") proposal request' args' decision).log
        (World.handle loader host) writeObserver s w ↔
      (decision.appliedOutcome = .allow →
        TreatedAlike loader proposal.toolName args args' s w) := by
  obtain ⟨definition, hdefinition, hclass⟩ : ∃ definition,
      getDefinition "write_tracking_outbox" = some definition ∧ definition.effectClass ≠ .read :=
    ⟨_, rfl, by decide⟩
  rw [hdefinition]
  unfold apply
  cases houtcome : decision.appliedOutcome with
  | guide => simp
  | block => simp
  | escalate =>
      have hsame : escalate proposal args' decision = escalate proposal args decision := by
        unfold escalate createApproval
        rw [hargs.get_eq "prepared_action_id" (by decide)]
      simp [hsame]
  | allow =>
      simp only [forall_const]
      exact effect_writes_iff loader host hclass htool
        (hargs.get_eq "idempotency_key" (by decide)) request request' decision s w

omit [Sha256] in
/-- The first thing a call writes is its redacted arguments. -/
theorem propose_writes (agent : AgentName) (toolName : String) (args : Kwargs)
    {s : TrajectoryState} (hlimit : ¬ g.maxToolCalls ≤ s.toolCallCount) (e : E) :
    ∃ proposal : ToolProposal, (g.propose agent toolName args).log h writeObserver s e =
        [.event (s.countAttempt toolName) (attemptedSpec proposal)] ∧
      proposal.arguments = safeArguments toolName args := by
  unfold propose
  rw [Proc.log_bind]
  simp only [Proc.exec_read, Proc.log_read, List.nil_append, if_neg hlimit]
  rw [Proc.log_bind]
  simp only [Proc.exec_mutate, Proc.log_mutate, List.nil_append]
  rw [Proc.log_bind]
  simp only [Py.uuid4, Proc.exec_bind, Proc.exec_read, Proc.exec_perform, Proc.log_bind,
    Proc.log_read, Proc.log_perform, writeObserver, List.nil_append, Py.log_appendEvent]
  rcases (Py.appendEvent _).exec h _ _ with ⟨r, s', e'⟩
  cases r <;> exact ⟨_, rfl, rfl⟩

/-- Calls that write the same are redacted alike. -/
theorem redacted_of_writes_eq {agent : AgentName} {toolName : String} {args args' : Kwargs}
    {s : TrajectoryState} {e : E} (hlimit : ¬ g.maxToolCalls ≤ s.toolCallCount)
    (heq : (g.executeTool agent toolName args).log h writeObserver s e =
      (g.executeTool agent toolName args').log h writeObserver s e) :
    safeArguments toolName args' = safeArguments toolName args := by
  obtain ⟨proposal, hlog, harguments⟩ := g.propose_writes (h := h) agent toolName args hlimit e
  obtain ⟨proposal', hlog', harguments'⟩ :=
    g.propose_writes (h := h) agent toolName args' hlimit e
  unfold executeTool at heq
  rw [Proc.log_bind, Proc.log_bind, hlog, hlog'] at heq
  have hevent := (Write.event.inj (List.cons.inj heq).1).2
  have hdetails := congrArg EventSpec.details hevent
  simp only [attemptedSpec, List.cons.injEq, Prod.mk.injEq, Value.dict.injEq, true_and,
    and_true] at hdetails
  rw [← harguments, ← harguments', hdetails.2.2]

end Decided

/-! ## When two notifications write the same -/

section Notifications

variable [Sha256] (g : Governor) (loader : FixtureLoader) (host : Host)

/-- The repository takes the attempt and the decision of a call. -/
def Recorded (agent : AgentName) (toolName : String) (args : Kwargs) (s : TrajectoryState)
    (w : World) : Prop :=
  ∃ definition proposal request decision s₁ s₃ w₁ w₂ w₃,
    g.Staged (World.handle loader host) agent toolName args s w definition proposal request
      decision s₁ s₃ w₁ w₂ w₃

theorem TreatedAlike.refl (toolName : String) (args : Kwargs) (s : TrajectoryState)
    (w : World) : TreatedAlike loader toolName args args s w := by
  unfold TreatedAlike
  split
  · split
    · trivial
    · split
      · exact Iff.rfl
      · exact ⟨rfl, fun value hvalue => ⟨hvalue, rfl⟩⟩
  · rfl

/-- Recording a call changes nothing about how its effect is treated. -/
theorem TreatedAlike.congr {toolName : String} {args args' : Kwargs} {s s' : TrajectoryState}
    {w w' : World} (htrace : s'.traceId = s.traceId) (hkept : World.Kept w w') :
    TreatedAlike loader toolName args args' s' w' ↔
      TreatedAlike loader toolName args args' s w := by
  have hreceipt (keyHash : String) : w'.store.getEffectReceipt s'.traceId keyHash =
      w.store.getEffectReceipt s.traceId keyHash := by
    simp only [MemoryTraceStore.getEffectReceipt, hkept.effectReceipts_eq, htrace]
  unfold TreatedAlike answer
  simp only [hreceipt, hkept.mocks_eq]

section Outcomes

variable {E : Type} {h : Handler Op E} {agent : AgentName} {args : Kwargs}
  {s s₁ s₃ : TrajectoryState} {e e₁ e₂ e₃ : E} {definition : Option ToolDefinition}
  {proposal : ToolProposal} {request : PolicyRequest} {decision : Decision}

omit [Sha256] in
/-- Outside enforce mode everything is allowed. -/
theorem Staged.unenforced {toolName : String} (hs : g.Staged h agent toolName args s e definition
      proposal request decision s₁ s₃ e₁ e₂ e₃) (hmode : s.mode ≠ .enforce) :
    decision.appliedOutcome = .allow := by
  have hmode' : s₁.mode ≠ .enforce := by rwa [mode_of_business hs.seen_eq]
  rw [hs.judged.appliedOutcome_eq]
  simp [appliedOutcome, hmode']

/-- In enforce mode a notification with a forbidden field is blocked. -/
theorem Staged.disclosure_blocked
    (hs : g.Staged h agent "write_tracking_outbox" args s e definition proposal request decision
      s₁ s₃ e₁ e₂ e₃)
    (hengine : g.engine = pythonReferencePolicyEngine ∨
      ∃ bundleHash, g.engine = cedarPolicyEngine bundleHash)
    (hmode : s.mode = .enforce) (hforbidden : containsForbiddenPii args = true) :
    decision.appliedOutcome = .block := by
  obtain ⟨definition', hdefinition⟩ : ∃ definition',
      getDefinition "write_tracking_outbox" = some definition' := ⟨_, rfl⟩
  have hmode' : s₁.mode = .enforce := by rwa [mode_of_business hs.seen_eq]
  have haction : request.action = "write_tracking_outbox" :=
    hs.judged.action_eq.trans hs.proposed.toolName_eq
  have hblocked := outbox_blocked hengine haction (hs.judged.arguments_eq ▸ hforbidden) s₁
  have hsignals : strongest (g.signalsFor definition request s₁) = .block := by
    rw [hs.proposed.definition_eq, hdefinition]
    exact hblocked
  rw [hs.judged.appliedOutcome_eq]
  simp [appliedOutcome, hmode', hsignals]

end Outcomes

end Notifications

end Governor

/-! ## Two pairs of notifications -/

namespace Demo

/-- A notification with a free-form message. -/
def messageArgs (message : String) : Kwargs :=
  [("order_id", .str "ORD-8842"), ("message", .str message),
    ("idempotency_key", .str "notify-1")]

/-- A notification whose template carries a telephone number. -/
def phoneArgs (phone : String) : Kwargs :=
  [("order_id", .str "ORD-8842"), ("recipient_ref", .str "DEMO-RECIPIENT-001"),
    ("template_id", .str "TRACKING_UPDATE_V1"),
    ("template_variables", .dict [("order_id", .str "ORD-8842"), ("phone", .str phone)]),
    ("idempotency_key", .str "notify-1")]

theorem messageArgs_differ (message message' : String) :
    ContactsDiffer (messageArgs message) (messageArgs message') :=
  have hfield : "message" ∈ forbiddenPiiFields := by decide
  .cons (.inl ⟨rfl, .inl rfl⟩) (.cons (.inl ⟨rfl, .inr hfield⟩)
    (.cons (.inl ⟨rfl, .inl rfl⟩) .nil))

theorem phoneArgs_differ (phone phone' : String) :
    ContactsDiffer (phoneArgs phone) (phoneArgs phone') := by
  have hfield : "phone" ∈ forbiddenPiiFields := by decide
  have hvariables : ConcealedVariables
      (.dict [("order_id", .str "ORD-8842"), ("phone", .str phone)])
      (.dict [("order_id", .str "ORD-8842"), ("phone", .str phone')]) :=
    ⟨_, _, rfl, rfl, .cons ⟨rfl, .inl rfl⟩ (.cons ⟨rfl, .inr hfield⟩ .nil)⟩
  exact .cons (.inl ⟨rfl, .inl rfl⟩) (.cons (.inl ⟨rfl, .inl rfl⟩) (.cons (.inl ⟨rfl, .inl rfl⟩)
    (.cons (.inr ⟨rfl, rfl, hvariables⟩) (.cons (.inl ⟨rfl, .inl rfl⟩) .nil))))

end Demo

end Manifest
