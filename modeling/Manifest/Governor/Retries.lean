import Manifest.Governor.Maintained
import Manifest.Governor.Spend
import Manifest.Governor.Trail
import Manifest.Parity.Bundle

/-!
# Guided retries

A governor counts the calls of a tool over the whole trace, and turns a guide into a block
once the count reaches its limit.

Main results:

- Theorem `executeTool_attempts`: a call moves the count of its own tool by at most one.
- Theorem `History.attempts_eq`: the counts of a run are the numbers of its calls.
- Theorem `exhausted_after_guide`: where the policy guides a tool before it is called too
  often, a retry is exhausted only after a guide.
-/

set_option autoImplicit false

namespace Manifest

open Interaction

/-- How often a tool was called in this trace. -/
def TrajectoryState.attempts (state : TrajectoryState) (toolName : String) : Nat :=
  (state.guideAttempts.get? toolName).getD 0

theorem attempts_countAttempt (state : TrajectoryState) (toolName name : String) :
    (state.countAttempt toolName).attempts name =
      state.attempts name + if toolName = name then 1 else 0 := by
  unfold TrajectoryState.attempts TrajectoryState.countAttempt
  dsimp only
  split_ifs with hname
  · rw [hname, Dict.get?_set_self, Option.getD_some]
  · rw [Dict.get?_set_ne _ _ (Ne.symm hname), Nat.add_zero]

/-- What is recorded after a call is counted leaves the counts alone. -/
theorem attempts_stages {E : Type} (h : Handler Op E) (counts : Dict String Nat) :
    StageInvariant h fun s _ => s.guideAttempts = counts where
  same := fun hsame hI => hsame.guideAttempts_eq.trans hI
  event := fun _ _ _ _ hI => hI
  decision := fun _ _ _ hI => hI
  approval := fun _ _ _ hI => hI
  quiet := fun _ _ _ _ _ hI => hI

namespace Governor

variable (g : Governor)

/-- Every effect but recording a decision. -/
def carryingOp : (β : Type) → Op β → Prop
  | _, .appendDecision _ _ => False
  | _, _ => True

/-! ## The count of attempts -/

/-- A proposal carries the number of this attempt. -/
theorem propose_attempt (agent : AgentName) (toolName : String) (args : Kwargs)
    (s : TrajectoryState) :
    Proc.Ensures anyOp (g.propose agent toolName args) s fun r s' =>
      s'.guideAttempts = (if s.toolCallCount < g.maxToolCalls then s.countAttempt toolName
        else s).guideAttempts ∧
      ∀ definition proposal, r = .ok (definition, proposal) →
        s.toolCallCount < g.maxToolCalls ∧ proposal.attempt = s.attempts toolName + 1 := by
  simp only [propose, Proc.ensures_bind, Proc.ensures_read]
  split
  · rename_i hlimit
    simp [not_lt.mpr hlimit]
  · rename_i hbelow
    simp only [Proc.ensures_bind, Proc.ensures_mutate, ensures_uuid4, ensures_appendEvent,
      anyOp, true_and, if_pos (not_le.mp hbelow)]
    intro uuid r l
    cases r with
    | error x => exact ⟨rfl, fun _ _ heq => by cases heq⟩
    | ok event =>
        refine ⟨rfl, ?_⟩
        rintro definition proposal ⟨⟩
        exact ⟨not_le.mp hbelow, rfl⟩

variable [Sha256] {E : Type} (h : Handler Op E)

/-- A call moves the count of its own tool by one, unless the limit of calls is reached. -/
theorem executeTool_attempts (agent : AgentName) (toolName : String) (args : Kwargs)
    (s : TrajectoryState) (e : E) (name : String) :
    ((g.executeTool agent toolName args).exec h s e).state.attempts name =
      s.attempts name + if s.toolCallCount < g.maxToolCalls ∧ toolName = name then 1 else 0 := by
  have hcounts : (((g.propose agent toolName args).exec h s e).state).attempts name =
      s.attempts name + if s.toolCallCount < g.maxToolCalls ∧ toolName = name then 1 else 0 := by
    have hpropose := ((g.propose_attempt agent toolName args s).exec h e).1
    unfold TrajectoryState.attempts
    rw [hpropose]
    by_cases hbelow : s.toolCallCount < g.maxToolCalls
    · simp only [hbelow, true_and]
      exact attempts_countAttempt s toolName name
    · simp only [hbelow, false_and, if_false, Nat.add_zero]
  rw [← hcounts]
  unfold executeTool
  rcases hx : (g.propose agent toolName args).exec h s e with ⟨r, s₁, e₁⟩
  cases r with
  | error x => rw [Proc.exec_bind_error h hx]
  | ok proposed =>
      rw [Proc.exec_bind_ok h hx]
      have hkept := (attempts_stages h s₁.guideAttempts).decide g proposed.1 proposed.2 args
        s₁ e₁ rfl
      exact congrArg (fun counts => (counts.get? name).getD 0) hkept

/-! ## One call -/

omit [Sha256] in
/-- What the retry limit makes of a decision. -/
structure Limited (proposal : ToolProposal) (mode : GovernanceMode)
    (signals : List PolicySignal) (decision : Decision) : Prop where
  toolName_eq : decision.toolName = proposal.toolName
  guides : mode = .enforce → strongest signals = .guide → proposal.attempt < g.maxGuidedAttempts →
    decision.appliedOutcome = .guide ∧ decision.guidance = nonEmpty (mergedGuidance signals)
  guided : decision.appliedOutcome = .guide → mode = .enforce ∧ strongest signals = .guide
  exhausted : (∀ item ∈ signals, EngineReason item.reasonCode) →
    decision.reasonCode = "GUIDE_RETRY_EXHAUSTED" →
      mode = .enforce ∧ strongest signals = .guide ∧ g.maxGuidedAttempts ≤ proposal.attempt

omit [Sha256] in
/-- What a decision says before its retries are limited. -/
theorem makeDecision_made (proposal : ToolProposal) (request : PolicyRequest)
    (signals : List PolicySignal) (s : TrajectoryState) (e : E) :
    ∃ decision e', (g.makeDecision proposal request signals).exec h s e = ⟨.ok decision, s, e'⟩ ∧
      decision.toolName = proposal.toolName ∧
      decision.appliedOutcome = (if s.mode = .enforce then strongest signals else .allow) ∧
      decision.guidance = nonEmpty (mergedGuidance signals) ∧
      ((∀ item ∈ signals, EngineReason item.reasonCode) →
        decision.reasonCode ≠ "GUIDE_RETRY_EXHAUSTED") := by
  refine ⟨_, _, rfl, rfl, ?_, ?_, ?_⟩
  · by_cases hmode : s.mode = .enforce
    · simp only [hmode, if_true]
      exact primaryOf_orDefaultAllow signals
    · simp only [hmode, if_false]
  · cases signals <;> rfl
  · intro hgiven
    cases signals with
    | nil => exact of_decide_eq_true rfl
    | cons first rest => exact (hgiven _ (primaryOf_mem first rest)).2

omit [Sha256] in
theorem makeDecision_limited (proposal : ToolProposal) (request : PolicyRequest)
    (signals : List PolicySignal) (s : TrajectoryState) (e : E) :
    ∃ decision e', (g.makeDecision proposal request signals).exec h s e = ⟨.ok decision, s, e'⟩ ∧
      g.Limited proposal s.mode signals (g.limitRetries proposal decision) ∧
      (g.limitRetries proposal decision).appliedOutcome =
        g.appliedOutcome s.mode proposal.attempt signals := by
  obtain ⟨decision, e', hexec, htool, happlied, hguidance, hreason⟩ :=
    g.makeDecision_made h proposal request signals s e
  refine ⟨decision, e', hexec, ?_, by rw [limitRetries_appliedOutcome, happlied]; rfl⟩
  have hguide : decision.appliedOutcome = .guide ↔ s.mode = .enforce ∧ strongest signals = .guide := by
    rw [happlied]
    split_ifs with hmode <;> simp [hmode]
  -- The limit applies to an enforced guide at the last attempt, and to nothing else.
  unfold limitRetries
  split_ifs with hlimit
  · simp only [Bool.and_eq_true, decide_eq_true_eq] at hlimit
    obtain ⟨houtcome, hattempt⟩ := hlimit
    obtain ⟨hmode, hstrongest⟩ := hguide.mp houtcome
    exact ⟨htool, fun _ _ hbelow => absurd hattempt (not_le.mpr hbelow),
      fun hblock => (by cases hblock), fun _ _ => ⟨hmode, hstrongest, hattempt⟩⟩
  · exact ⟨htool, fun hmode hstrongest _ => ⟨hguide.mpr ⟨hmode, hstrongest⟩, hguidance⟩,
      hguide.mp, fun hgiven hexhausted => absurd hexhausted (hreason hgiven)⟩

/-! ### Only one stage records a decision -/

omit [Sha256] in
theorem appendEvent_carrying (spec : EventSpec) :
    Proc.Performs carryingOp (Py.appendEvent spec) :=
  .send fun _ => trivial

omit [Sha256] in
theorem escalate_carrying (proposal : ToolProposal) (args : Kwargs) (decision : Decision) :
    Proc.Performs carryingOp (escalate proposal args decision) := by
  have hprepared (preparedId : String) : Proc.Performs carryingOp (preparedAt preparedId) := by
    unfold preparedAt
    refine .bind .read fun state => ?_
    split
    · exact .pure _
    · exact .raise _
  unfold escalate createApproval
  refine .bind (.bind (hprepared _) fun prepared => .bind (.mutate _) fun _ => ?_) fun approval =>
    .bind (appendEvent_carrying _) fun _ => .pure _
  refine .bind (.bind .read fun _ => .perform trivial) fun uuid => ?_
  refine .bind (.bind .read fun _ => .perform trivial) fun now => .bind .read fun state => ?_
  exact .bind (.mutate _) fun _ => .bind (.send fun _ => trivial) fun _ => .pure _

theorem executeWithDurableReceipt_carrying (toolName : String) (effectClass : EffectClass)
    (args : Kwargs) :
    Proc.Performs carryingOp (executeWithDurableReceipt toolName effectClass args) := by
  unfold executeWithDurableReceipt
  split
  · exact .request trivial
  · unfold executeOnce
    refine .bind (.ofExcept _) fun keyHash => .bind .read fun state => ?_
    refine .bind (.perform trivial) fun receipt => ?_
    split
    · split
      · exact .raise _
      · exact .pure _
    · refine .bind (.request trivial) fun value => ?_
      split
      · refine .bind (.bind .read fun _ => .perform trivial) fun now => ?_
        exact .bind (.request trivial) fun _ => .pure _
      · exact .raise _
  · exact .request trivial

omit [Sha256] in
theorem propose_carrying (agent : AgentName) (toolName : String) (args : Kwargs) :
    Proc.Performs carryingOp (g.propose agent toolName args) := by
  unfold propose
  refine .bind .read fun state => ?_
  split
  · exact .raise _
  · refine .bind (.mutate _) fun _ => .bind (.bind .read fun _ => .perform trivial) fun uuid => ?_
    exact .bind (appendEvent_carrying _) fun _ => .pure _

omit [Sha256] in
theorem judge_carrying (definition : Option ToolDefinition) (proposal : ToolProposal)
    (args : Kwargs) : Proc.Performs carryingOp (g.judge definition proposal args) := by
  intro s
  refine ((g.judge_ensures definition proposal args s).weaken fun β o ho => ?_).mono
    fun _ _ _ => trivial
  cases o with
  | appendDecision state decision => exact ho
  | _ => trivial

theorem apply_carrying (definition : Option ToolDefinition) (proposal : ToolProposal)
    (request : PolicyRequest) (args : Kwargs) (decision : Decision) :
    Proc.Performs carryingOp (apply definition proposal request args decision) := by
  have hreport (x : PyError) :
      Proc.Performs carryingOp (reportFailure proposal x : Py ToolValue) := by
    unfold reportFailure
    split
    · exact .bind (appendEvent_carrying _) fun _ => .raise _
    · exact .bind (appendEvent_carrying _) fun _ => .raise _
  unfold apply
  split
  · exact .bind (appendEvent_carrying _) fun _ => .pure _
  · exact .bind (appendEvent_carrying _) fun _ => .pure _
  · exact escalate_carrying proposal args decision
  · exact .pure _
  · unfold effect
    refine .bind (.tryCatch (executeWithDurableReceipt_carrying _ _ args) hreport) fun value => ?_
    exact .bind (appendEvent_carrying _) fun _ => .bind (.lift _) fun _ =>
      .bind (.mutate _) fun _ => .pure _

end Governor

/-- A call, with the state and the environment it starts in. -/
structure Call (E : Type) where
  agent : AgentName
  toolName : String
  args : Kwargs
  state : TrajectoryState
  env : E

namespace TrailEntry

/-- A decision that was recorded. -/
def recorded : TrailEntry → Option Decision
  | .decision made true => some made
  | _ => none

/-- An entry the repository refused. -/
def refused : TrailEntry → Bool
  | .event _ kept => !kept
  | .decision _ kept => !kept
  | .raised => false

end TrailEntry

namespace Governor

variable {E : Type} (h : Handler Op E) (s : TrajectoryState) (e : E)

/-- Recording a decision records no other, and fails only where an entry is refused. -/
theorem record_recorded (decision : Decision) :
    Proc.Yields h trailObserver s e (record decision) fun l x =>
      (l.filterMap TrailEntry.recorded = [] ∨ l.filterMap TrailEntry.recorded = [decision]) ∧
        ((∃ entry ∈ l, entry.refused = true) ∨ x.result = .ok ()) := by
  simp only [record, Proc.yields_bind, Py.appendDecision, Py.appendEvent, Proc.yields_send,
    trailObserver]
  cases (h _ (.appendDecision s decision) e).1.1 with
  | error x => simp [isKept, TrailEntry.recorded, TrailEntry.refused]
  | ok u =>
      dsimp only
      cases (h _ (.appendEvent (s.withLedger (h _ (.appendDecision s decision) e).1.2)
        (decidedSpec decision)) (h _ (.appendDecision s decision) e).2).1.1 with
      | error x => simp [isKept, TrailEntry.recorded, TrailEntry.refused]
      | ok event => simp [isKept, TrailEntry.recorded]

/-- A guide is answered with its guidance, unless its event is refused. -/
theorem guide_answered (proposal : ToolProposal) (decision : Decision) :
    Proc.Yields h trailObserver s e (guide proposal decision) fun l x =>
      (∃ entry ∈ l, entry.refused = true) ∨
        x.result = .ok { decision := decision, guidance := decision.guidance } := by
  simp only [guide, Proc.yields_bind, Py.appendEvent, Proc.yields_send, trailObserver]
  cases (h _ (.appendEvent s (guidedSpec proposal decision)) e).1.1 with
  | error x => simp [isKept, TrailEntry.refused]
  | ok event => exact .inr rfl

theorem carryingOp.unrecorded (β : Type) (o : Op β) (reply : β × E) (ho : carryingOp β o) :
    ∀ entry ∈ trailObserver β o reply, entry.recorded = none := by
  cases o with
  | appendDecision state decision => exact ho.elim
  | appendEvent state spec => simp [trailObserver, TrailEntry.recorded]
  | callTool toolName args =>
      simp only [trailObserver]
      split <;> simp [TrailEntry.recorded]
  | _ => simp [trailObserver]

/-- What performs anything but recording a decision records none. -/
theorem unrecorded_of_carrying {α : Type} {m : Py α} (hm : Proc.Performs carryingOp m) :
    (m.log h trailObserver s e).filterMap TrailEntry.recorded = [] :=
  List.filterMap_eq_nil_iff.mpr (hm.forall_log h carryingOp.unrecorded s e)

/-- What a call records and answers once its decision is made. -/
theorem concluded [Sha256] (definition : Option ToolDefinition) (proposal : ToolProposal)
    (request : PolicyRequest) (args : Kwargs) (decision : Decision) :
    Proc.Yields h trailObserver s e
      (record decision >>= fun _ => apply definition proposal request args decision)
      fun l x => (l.filterMap TrailEntry.recorded = [] ∨
          l.filterMap TrailEntry.recorded = [decision]) ∧
        (decision.appliedOutcome = .guide → (∃ entry ∈ l, entry.refused = true) ∨
          x.result = .ok { decision := decision, guidance := decision.guidance }) := by
  refine (record_recorded h s e decision).bind ?_ ?_
  · rintro l u s' e' ⟨hrecorded, -⟩
    refine ⟨?_, fun hguide => ?_⟩
    · rw [List.filterMap_append, unrecorded_of_carrying h s' e' (apply_carrying definition
        proposal request args decision), List.append_nil]
      exact hrecorded
    · have hanswered := guide_answered h s' e' proposal decision
      unfold apply
      rw [hguide]
      exact hanswered.imp (fun ⟨entry, hmem, hrefused⟩ =>
        ⟨entry, List.mem_append_right _ hmem, hrefused⟩) id
  · rintro l x s' e' ⟨hrecorded, hkept⟩
    refine ⟨hrecorded, fun _ => ?_⟩
    rcases hkept with hrefused | hreturned
    · exact .inl hrefused
    · cases hreturned

end Governor

namespace Call

variable [Sha256] (g : Governor) {E : Type} (h : Handler Op E) (c : Call E)

def exec : Exit PyError TrajectoryState E GovernedToolResult :=
  (g.executeTool c.agent c.toolName c.args).exec h c.state c.env

def trail : List TrailEntry :=
  (g.executeTool c.agent c.toolName c.args).log h trailObserver c.state c.env

/-- The decisions the call records. -/
def recorded : List Decision :=
  (c.trail g h).filterMap TrailEntry.recorded

/-- Whether the call is below the limit of calls, and therefore counted. -/
def counted : Bool :=
  c.state.toolCallCount < g.maxToolCalls

omit [Sha256] in
/-- The proposal of the call and the request built for it, in the state the engine sees. -/
def Asked (definition : Option ToolDefinition) (proposal : ToolProposal)
    (request : PolicyRequest) (seen : TrajectoryState) (e : E) : Prop :=
  ∃ e₁, (g.propose c.agent c.toolName c.args).exec h c.state c.env =
      ⟨.ok (definition, proposal), seen, e₁⟩ ∧
    (g.buildRequest definition proposal c.args).exec h seen e₁ = ⟨.ok request, seen, e⟩

omit [Sha256] in
/-- The policy guides the call: its mode enforces, and the strongest signal of its request is a
guide. -/
def Guided (signals : List PolicySignal) : Prop :=
  c.state.mode = .enforce ∧ strongest signals = .guide ∧
    ∃ definition proposal request seen e, c.Asked g h definition proposal request seen e ∧
      g.signalsFor definition request seen = signals

variable {g h c}
variable {definition : Option ToolDefinition} {proposal : ToolProposal} {request : PolicyRequest}
  {seen : TrajectoryState} {e : E}

omit [Sha256] in
/-- What a call that asks the engine says of its proposal. -/
theorem Asked.proposed (hasked : c.Asked g h definition proposal request seen e) :
    definition = getDefinition c.toolName ∧ proposal.toolName = c.toolName ∧
      seen.mode = c.state.mode ∧ c.counted g = true ∧
      proposal.attempt = c.state.attempts c.toolName + 1 := by
  obtain ⟨e₁, hpropose, -⟩ := hasked
  have hproposed := (g.propose_ensures c.agent c.toolName c.args c.state).exec h c.env
  have hattempt := (g.propose_attempt c.agent c.toolName c.args c.state).exec h c.env
  rw [hpropose] at hproposed hattempt
  obtain ⟨hcounted, hnumber⟩ := hattempt.2 definition proposal rfl
  obtain ⟨hdefinition, -, htool, -⟩ := hproposed.2 definition proposal rfl
  exact ⟨hdefinition, htool, mode_of_business hproposed.1, decide_eq_true hcounted, hnumber⟩

/-- A call that asks the engine records nothing but its own decision, and is answered with a
guide unless the repository refuses an entry. -/
theorem Asked.answered (hasked : c.Asked g h definition proposal request seen e) :
    ∃ decision, g.Limited proposal seen.mode (g.signalsFor definition request seen) decision ∧
      decision.appliedOutcome = g.appliedOutcome seen.mode proposal.attempt
        (g.signalsFor definition request seen) ∧
      (c.recorded g h = [] ∨ c.recorded g h = [decision]) ∧
      (decision.appliedOutcome = .guide → (∃ entry ∈ c.trail g h, entry.refused = true) ∨
        (c.exec g h).result = .ok { decision := decision, guidance := decision.guidance }) := by
  obtain ⟨e₁, hpropose, hbuild⟩ := hasked
  obtain ⟨made, e₂, hmade, hlimited, happlied⟩ := g.makeDecision_limited h proposal request
    (g.signalsFor definition request seen) seen e
  refine ⟨g.limitRetries proposal made, hlimited, happlied, ?_⟩
  have hjudge : (g.judge definition proposal c.args).exec h seen e₁ =
      ⟨.ok (request, g.limitRetries proposal made), seen, e₂⟩ := by
    unfold Governor.judge
    rw [Proc.exec_bind_ok h hbuild, Proc.exec_bind_ok h (Proc.exec_read h seen e),
      Proc.exec_bind_ok h hmade]
    rfl
  generalize g.limitRetries proposal made = decision at hjudge ⊢
  have hproposeTrail := g.propose_trail h c.state c.env c.agent c.toolName c.args
  unfold Proc.Yields at hproposeTrail
  rw [hpropose] at hproposeTrail
  have hjudgeTrail : (g.judge definition proposal c.args).log h trailObserver seen e₁ = [] :=
    (((g.judge_ensures definition proposal c.args seen).weaken readingOp.silent).yields
      trailObserver_silent).1
  obtain ⟨hrecorded, hguided⟩ := Governor.concluded h seen e₂ definition proposal request c.args
    decision
  have hexec : c.exec g h = (Governor.record decision >>= fun _ =>
      Governor.apply definition proposal request c.args decision).exec h seen e₂ := by
    unfold exec Governor.executeTool
    rw [Proc.exec_bind_ok h hpropose, Proc.exec_bind_ok h hjudge]
  have htrail : c.trail g h = [.event (attemptedSpec proposal) true] ++
      (Governor.record decision >>= fun _ =>
        Governor.apply definition proposal request c.args decision).log h trailObserver
          seen e₂ := by
    unfold trail Governor.executeTool
    rw [Proc.log_bind, hproposeTrail.2 definition proposal rfl, hpropose]
    dsimp only
    rw [Proc.log_bind, hjudgeTrail, hjudge]
    rfl
  unfold recorded
  rw [hexec, htrail]
  refine ⟨hrecorded, fun hguide => (hguided hguide).imp ?_ id⟩
  rintro ⟨entry, hmem, hrefused⟩
  exact ⟨entry, List.mem_append_right _ hmem, hrefused⟩

theorem eq_of_recorded {decision d : Decision}
    (hrecorded : c.recorded g h = [] ∨ c.recorded g h = [decision]) (hd : d ∈ c.recorded g h) :
    d = decision := by
  rcases hrecorded with hnone | hone
  · rw [hnone] at hd
    cases hd
  · rw [hone] at hd
    exact List.mem_singleton.mp hd

/-- A call that records a decision has asked the engine. -/
theorem asked_of_recorded {d : Decision} (hd : d ∈ c.recorded g h) :
    ∃ definition proposal request seen e, c.Asked g h definition proposal request seen e := by
  unfold recorded trail Governor.executeTool at hd
  rw [Proc.log_bind, List.filterMap_append,
    Governor.unrecorded_of_carrying h c.state c.env
      (g.propose_carrying c.agent c.toolName c.args)] at hd
  cases hpropose : (g.propose c.agent c.toolName c.args).exec h c.state c.env with
  | mk r₁ seen e₁ =>
    rw [hpropose] at hd
    cases r₁ with
    | error x => simp at hd
    | ok proposed =>
        obtain ⟨definition, proposal⟩ := proposed
        dsimp only at hd
        rw [Proc.log_bind, List.filterMap_append,
          Governor.unrecorded_of_carrying h seen e₁
            (g.judge_carrying definition proposal c.args)] at hd
        have hbuilt := (g.buildRequest_ensures definition proposal c.args seen).exec h e₁
        cases hbuild : (g.buildRequest definition proposal c.args).exec h seen e₁ with
        | mk r₂ s₂ e₂ =>
          rw [hbuild] at hbuilt
          obtain rfl : s₂ = seen := hbuilt.1
          cases r₂ with
          | ok request => exact ⟨definition, proposal, request, s₂, e₂, e₁, hpropose, hbuild⟩
          | error x =>
              have hjudge : (g.judge definition proposal c.args).exec h s₂ e₁ =
                  ⟨.error x, s₂, e₂⟩ := by
                unfold Governor.judge
                exact Proc.exec_bind_error h hbuild
              rw [hjudge] at hd
              simp at hd

end Call

/-! ## Runs -/

section Runs

variable [Sha256] (g : Governor) {E : Type} (h : Handler Op E)

/-- The calls of a trace, the latest first, and the state they have led to.  Between two calls
anything but the counts of attempts may change. -/
inductive History : List (Call E) → TrajectoryState → Prop where
  | fresh {s : TrajectoryState} (uncounted : s.guideAttempts = ∅) : History [] s
  | call {earlier : List (Call E)} (c : Call E) (led : History earlier c.state) :
      History (c :: earlier) (c.exec g h).state
  | between {calls : List (Call E)} {s s' : TrajectoryState} (led : History calls s)
      (kept : s'.guideAttempts = s.guideAttempts) : History calls s'

/-- The calls of a tool that were counted. -/
def callsOf (toolName : String) (calls : List (Call E)) : Nat :=
  calls.countP fun c => c.counted g && c.toolName = toolName

/-- Some call of the tool recorded a guide. -/
def GuidedBefore (toolName : String) (earlier : List (Call E)) : Prop :=
  ∃ c ∈ earlier, c.toolName = toolName ∧
    ∃ d ∈ c.recorded g h, d.toolName = toolName ∧ d.appliedOutcome = .guide

variable {g h}

/-- The counts are the numbers of counted calls. -/
theorem History.attempts_eq {calls : List (Call E)} {s : TrajectoryState}
    (hhistory : History g h calls s) (toolName : String) :
    s.attempts toolName = callsOf g toolName calls := by
  induction hhistory with
  | fresh uncounted =>
      unfold TrajectoryState.attempts
      rw [uncounted]
      rfl
  | call c led ih =>
      unfold Call.exec callsOf
      rw [g.executeTool_attempts h, ih, List.countP_cons]
      simp only [callsOf, Call.counted, Bool.and_eq_true, decide_eq_true_eq]
  | between led kept ih =>
      rw [← ih]
      exact congrArg (fun counts => (counts.get? toolName).getD 0) kept

theorem History.of_suffix {calls earlier : List (Call E)} {c : Call E} {s : TrajectoryState}
    (hhistory : History g h calls s) (hsuffix : c :: earlier <:+ calls) :
    History g h earlier c.state := by
  induction hhistory with
  | fresh uncounted => simp at hsuffix
  | call c' led ih =>
      rcases List.suffix_cons_iff.mp hsuffix with heq | hsuffix
      · obtain ⟨rfl, rfl⟩ := List.cons.inj heq
        exact led
      · exact ih hsuffix
  | between led kept ih => exact ih hsuffix

/-- The engines of the repository give no reason of the governor's own. -/
def Shipped (engine : PolicyEngine) : Prop :=
  engine = pythonReferencePolicyEngine ∨ ∃ bundleHash, engine = cedarPolicyEngine bundleHash

omit [Sha256] in
theorem failClosed_given {answer : Except PyError (List PolicySignal)} (h : AnswerGiven answer) :
    ∀ item ∈ failClosed answer, EngineReason item.reasonCode := by
  have hfailure : EngineReason engineFailureSignal.reasonCode := by decide
  unfold failClosed
  cases answer with
  | error x => simpa using hfailure
  | ok signals =>
      dsimp only
      split
      · exact h signals rfl
      · simpa using hfailure

theorem Shipped.signals_given (hshipped : Shipped g.engine)
    (definition : Option ToolDefinition) (request : PolicyRequest) (state : TrajectoryState) :
    ∀ item ∈ g.signalsFor definition request state, EngineReason item.reasonCode := by
  unfold Governor.signalsFor
  cases definition with
  | none =>
      have hunknown : EngineReason "UNKNOWN_TOOL" := by decide
      simpa [unknownToolSignal] using hunknown
  | some tool =>
      rcases hshipped with hengine | ⟨bundleHash, hengine⟩
      · rw [hengine]
        exact failClosed_given (PythonEngine.evaluate_given request state)
      · rw [hengine]
        exact failClosed_given (Cedar.evaluate_given bundleHash request state)

/-- A recorded guide is one the policy gave. -/
theorem guided_of_recorded {c : Call E} {d : Decision} (hd : d ∈ c.recorded g h)
    (hguide : d.appliedOutcome = .guide) : ∃ signals, c.Guided g h signals := by
  obtain ⟨definition, proposal, request, seen, e, hasked⟩ := Call.asked_of_recorded hd
  obtain ⟨decision, hlimited, -, hrecorded, -⟩ := hasked.answered
  obtain rfl := Call.eq_of_recorded hrecorded hd
  obtain ⟨hmode, hstrongest⟩ := hlimited.guided hguide
  exact ⟨_, hasked.proposed.2.2.1 ▸ hmode, hstrongest, definition, proposal, request, seen, e,
    hasked, rfl⟩

/-- While the policy guides a tool before it is called too often, or after a recorded guide, a
retry is exhausted only after a guide, and the first guided call of a tool is answered with
its guidance unless the repository refuses an entry. -/
theorem exhausted_after_guide (hshipped : Shipped g.engine) {calls : List (Call E)}
    {s : TrajectoryState} (hhistory : History g h calls s)
    (hfirst : ∀ c earlier signals, c :: earlier <:+ calls → c.Guided g h signals →
      GuidedBefore g h c.toolName earlier ∨
        callsOf g c.toolName earlier + 1 < g.maxGuidedAttempts)
    {c : Call E} {earlier : List (Call E)} (hsuffix : c :: earlier <:+ calls) :
    (∀ d ∈ c.recorded g h, d.reasonCode = "GUIDE_RETRY_EXHAUSTED" →
      GuidedBefore g h d.toolName earlier) ∧
    ∀ signals, c.Guided g h signals →
      (∀ c' ∈ earlier, c'.toolName = c.toolName → ∀ signals', ¬ c'.Guided g h signals') →
      (∃ entry ∈ c.trail g h, entry.refused = true) ∨
        ∃ decision, decision.appliedOutcome = .guide ∧ (c.exec g h).result =
          .ok { decision := decision, guidance := nonEmpty (mergedGuidance signals) } := by
  have hcount := (hhistory.of_suffix hsuffix).attempts_eq c.toolName
  constructor
  · intro d hd hexhausted
    obtain ⟨definition, proposal, request, seen, e, hasked⟩ := Call.asked_of_recorded hd
    obtain ⟨-, htool, hmode, -, hattempt⟩ := hasked.proposed
    obtain ⟨decision, hlimited, -, hrecorded, -⟩ := hasked.answered
    obtain rfl := Call.eq_of_recorded hrecorded hd
    obtain ⟨henforce, hstrongest, hlast⟩ :=
      hlimited.exhausted (hshipped.signals_given definition request seen) hexhausted
    rw [hlimited.toolName_eq, htool]
    refine (hfirst c earlier _ hsuffix ⟨hmode ▸ henforce, hstrongest, definition, proposal,
      request, seen, e, hasked, rfl⟩).resolve_right fun hbelow => ?_
    omega
  · rintro signals hguided hnone
    have hbelow := (hfirst c earlier signals hsuffix hguided).resolve_left ?_
    · obtain ⟨henforce, hstrongest, definition, proposal, request, seen, e, hasked, rfl⟩ := hguided
      obtain ⟨-, -, hmode, -, hattempt⟩ := hasked.proposed
      obtain ⟨decision, hlimited, -, -, hanswer⟩ := hasked.answered
      obtain ⟨hguide, hguidance⟩ := hlimited.guides (hmode.trans henforce) hstrongest (by omega)
      rw [← hguidance]
      exact (hanswer hguide).imp id fun hreturned => ⟨decision, hguide, hreturned⟩
    · rintro ⟨c', hmem, htool, d, hd, -, hguide⟩
      obtain ⟨signals', hguided'⟩ := guided_of_recorded hd hguide
      exact hnone c' hmem htool signals' hguided'

end Runs

namespace Demo

/-- The carrier role selects a quote of the demo order. -/
def selectCall (quoteId : String) (s : TrajectoryState) (w : World) : Call World where
  agent := .carrier
  toolName := "select_carrier_quote"
  args := [("order_id", .str "ORD-8842"), ("quote_id", .str quoteId),
    ("idempotency_key", .str ("TRACE-1:select:" ++ quoteId))]
  state := s
  env := w

/-- An uncertified quote is selected first. -/
def cheapSelection : Call World :=
  selectCall "QUOTE-CHEAP-01" started (Py.createRun.exec handle started {}).env

/-- A certified quote is selected, and then the uncertified one. -/
def coldSelection : Call World :=
  selectCall "QUOTE-COLD-01" started (Py.createRun.exec handle started {}).env

def laterSelection : Call World :=
  let answered := coldSelection.exec governor handle
  selectCall "QUOTE-CHEAP-01" answered.state answered.env

/-- The decisions of a call, with their tools, outcomes and reasons. -/
def decided (c : Call World) : List (String × DecisionOutcome × String) :=
  (c.recorded governor handle).map fun d => (d.toolName, d.appliedOutcome, d.reasonCode)

end Demo

/-- The first selection of a run. -/
theorem exhausted_after_guide_first :
    (∀ d ∈ Demo.cheapSelection.recorded Demo.governor Demo.handle,
      d.reasonCode = "GUIDE_RETRY_EXHAUSTED" →
        GuidedBefore Demo.governor Demo.handle d.toolName []) ∧
    ∀ signals, Demo.cheapSelection.Guided Demo.governor Demo.handle signals →
      (∀ c' ∈ ([] : List (Call World)), c'.toolName = Demo.cheapSelection.toolName →
        ∀ signals', ¬ c'.Guided Demo.governor Demo.handle signals') →
      (∃ entry ∈ Demo.cheapSelection.trail Demo.governor Demo.handle, entry.refused = true) ∨
        ∃ decision, decision.appliedOutcome = .guide ∧
          (Demo.cheapSelection.exec Demo.governor Demo.handle).result =
            .ok { decision := decision, guidance := nonEmpty (mergedGuidance signals) } := by
  refine exhausted_after_guide (g := Demo.governor) (h := Demo.handle) (.inl rfl)
    (.call Demo.cheapSelection (.fresh rfl)) ?_ (List.suffix_refl _)
  intro c earlier signals hsuffix _
  have hlength := hsuffix.length_le
  obtain rfl : earlier = [] := List.eq_nil_of_length_eq_zero (by simpa using hlength)
  exact .inr (show 0 + 1 < 2 by decide)

/-- A retry is exhausted although no call of the tool was guided. -/
theorem exhausted_without_guide :
    History Demo.governor Demo.handle [Demo.laterSelection, Demo.coldSelection]
        (Demo.laterSelection.exec Demo.governor Demo.handle).state ∧
      Demo.decided Demo.coldSelection =
        [("select_carrier_quote", .allow, "ALLOW_POLICY_CHECKS_PASSED")] ∧
      Demo.decided Demo.laterSelection =
        [("select_carrier_quote", .block, "GUIDE_RETRY_EXHAUSTED")] :=
  ⟨.call Demo.laterSelection (.call Demo.coldSelection (.fresh rfl)), by decide +kernel,
    by decide +kernel⟩

end Manifest
