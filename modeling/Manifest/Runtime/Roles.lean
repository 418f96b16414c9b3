import Manifest.Runtime.Orchestrator

/-!
# Reasoning about roles

What a role does is a sequence of governed calls and projections, whoever decides on
them.  An invariant of these steps is an invariant of every role: the deterministic ones
and those backed by a hosted model.

`Open` is what holds while calls may still be made; `Held` is what holds once a call has
escalated, after which no role makes another.

Main results:

- Theorem `RoleLogic.run`: every role's run keeps the invariant.
- Theorems `RoleLogic.resumeBooking` and `RoleLogic.cancelBooking`: so do the carrier's
  continuations.
-/

set_option autoImplicit false

namespace Manifest

open Interaction

/-! ## What roles ask for -/

/-- The key a trace confirms an action under. -/
def confirmKey (traceId preparedId : String) : String :=
  s!"{traceId}:confirm:{preparedId}"

/-- The key a trace cancels an action under. -/
def cancelKey (traceId preparedId : String) : String :=
  s!"{traceId}:cancel:{preparedId}"

/-- Arguments that name a prepared action, and the idempotency key they are under. -/
structure NamesAction (args : Kwargs) (preparedId key : String) : Prop where
  id_eq : args.get? "prepared_action_id" = some (.str preparedId)
  key_eq : args.get? "idempotency_key" = some (.str key)

/-- What a role asks of the governor. -/
inductive RoleCall (traceId : String) : String → Kwargs → Prop where
  | plain {toolName : String} {args : Kwargs} (h : actsOnPrepared toolName = false) :
      RoleCall traceId toolName args
  | confirm {args : Kwargs} (preparedId : String)
      (h : NamesAction args preparedId (confirmKey traceId preparedId)) :
      RoleCall traceId "confirm_freight_booking" args
  | cancel {args : Kwargs} (preparedId : String)
      (h : NamesAction args preparedId (cancelKey traceId preparedId)) :
      RoleCall traceId "cancel_freight_booking" args

theorem confirmArgs_names (traceId : String) (prepared : PreparedAction) :
    NamesAction (CarrierAgent.confirmArgs traceId prepared) prepared.preparedActionId
      (confirmKey traceId prepared.preparedActionId) :=
  ⟨rfl, rfl⟩

theorem cancelArgs_names (traceId : String) (prepared : PreparedAction) (reasonCode : String) :
    NamesAction (CarrierAgent.cancelArgs traceId prepared reasonCode) prepared.preparedActionId
      (cancelKey traceId prepared.preparedActionId) :=
  ⟨rfl, rfl⟩

/-- The tools a role may call in its first journey. -/
def runTools (name : AgentName) : List String :=
  (roleTools name).filter (· ≠ "cancel_freight_booking")

/-! ## The logic -/

section Logic

variable {E O : Type}

/-- The invariant, whether or not a call has escalated. -/
def Within {α : Type} (Open Held : TrajectoryState → E → Prop)
    (x : Exit PyError TrajectoryState E α) : Prop :=
  Open x.state x.env ∨ Held x.state x.env

/-- What holds after a governed call: only the escalation of a confirmation closes the
calls. -/
def Called (Open Held : TrajectoryState → E → Prop) (toolName : String)
    (x : Exit PyError TrajectoryState E GovernedToolResult) : Prop :=
  match x.result with
  | .error _ => Open x.state x.env
  | .ok result =>
      Open x.state x.env ∨
        (Held x.state x.env ∧ toolName = "confirm_freight_booking" ∧ result.value = none ∧
          result.pendingApproval.isSome = true ∧ result.decision.appliedOutcome = .escalate)

variable {Open Held : TrajectoryState → E → Prop} {s : TrajectoryState} {e : E}

variable {toolName : String}

theorem Called.within {x : Exit PyError TrajectoryState E GovernedToolResult}
    (hcalled : Called Open Held toolName x) : Within Open Held x := by
  unfold Called at hcalled
  split at hcalled
  · exact .inl hcalled
  · exact hcalled.imp_right And.left

theorem Called.of_value {result : GovernedToolResult} {value : ToolValue}
    (hcalled : Called Open Held toolName ⟨.ok result, s, e⟩) (hvalue : result.value = some value) :
    Open s e := by
  rcases hcalled with hopen | ⟨-, -, hnone, -⟩
  · exact hopen
  · rw [hnone] at hvalue
    cases hvalue

theorem Called.of_guide {result : GovernedToolResult}
    (hcalled : Called Open Held toolName ⟨.ok result, s, e⟩)
    (hguide : result.decision.appliedOutcome = .guide) : Open s e := by
  rcases hcalled with hopen | ⟨-, -, -, -, houtcome⟩
  · exact hopen
  · rw [houtcome] at hguide
    cases hguide

theorem Called.of_unheld {result : GovernedToolResult}
    (hcalled : Called Open Held toolName ⟨.ok result, s, e⟩) (hnone : result.pendingApproval = none) :
    Open s e := by
  rcases hcalled with hopen | ⟨-, -, -, hsome, -⟩
  · exact hopen
  · rw [hnone] at hsome
    cases hsome

variable [Sha256] (h : Handler Op E) (obs : Observer Op E O) (J : O → Prop) (g : Governor)

/-- What an invariant needs to be an invariant of every role that calls only permitted
tools. -/
structure RoleLogic (permits : String → Prop) (Open Held : TrajectoryState → E → Prop) :
    Prop where
  call : ∀ {s e toolName args} (agent : AgentName), Open s e → permits toolName →
    RoleCall s.traceId toolName args →
    Proc.Meets h obs s e (g.executeTool agent toolName args) J (Called Open Held toolName)
  project : ∀ {s e toolName} (agent : AgentName) (args : Kwargs) (value : ToolValue),
    Open s e → permits toolName →
    Proc.Meets h obs s e (Projector.project g.loader agent toolName args value) J
      fun x => Open x.state x.env
  invoke : ∀ {s e} (role : AgentName) (phase : RolePhase), Open s e →
    Proc.Meets h obs s e (Proc.perform (.invokeModel s.traceId role phase) : Py Invocation) J
      fun x => Open x.state x.env
  completed : ∀ {s e} (settings : RuntimeSettings) (context : GovernedInvocationContext)
    (result : ModelResult), Open s e ∨ Held s e →
    Proc.Meets h obs s e
      (Py.appendEvent (StrandsRuntime.modelCompletedSpec settings context s.traceId result)) J
      (Within Open Held)

variable {h obs J}

omit [Sha256] in
/-- `valueOrBlocked` hands a value to the rest, or raises. -/
theorem meets_valueOrBlocked {α : Type} {result : GovernedToolResult} {f : ToolValue → Py α}
    {Q : Exit PyError TrajectoryState E α → Prop}
    (hok : ∀ value, result.value = some value → Proc.Meets h obs s e (f value) J Q)
    (herror : ∀ x, Q ⟨.error x, s, e⟩) :
    Proc.Meets h obs s e (valueOrBlocked result >>= f) J Q := by
  unfold valueOrBlocked
  cases hvalue : result.value with
  | some value => exact Proc.meets_bind.mpr (Proc.meets_pure.mpr (hok value hvalue))
  | none => exact Proc.meets_bind.mpr (Proc.meets_raise.mpr (herror _))

variable {g} {permits : String → Prop}

namespace RoleLogic

variable (logic : RoleLogic h obs J g permits Open Held)

include logic

/-! ### The deterministic roles -/

theorem inventory_run (hopen : Open s e) (hpermits : ∀ tool ∈ runTools .inventory, permits tool) :
    Proc.Meets h obs s e (InventoryAgent.run g) J (Within Open Held) := by
  unfold InventoryAgent.run
  refine .read (.bind (logic.call .inventory hopen (hpermits _ (by decide)) (.plain (by decide)))
    ?_ fun x s' e' hcalled => hcalled.within)
  intro orderResult s₁ e₁ hcalled
  dsimp only
  split
  · rename_i order hvalue
    refine .bind (logic.project .inventory _ _ (hcalled.of_value hvalue) (hpermits _ (by decide)))
      ?_ fun x s' e' hopen' => .inl hopen'
    intro _ s₂ e₂ hopen₂
    refine .bind (logic.call .inventory hopen₂ (hpermits _ (by decide)) (.plain (by decide)))
      ?_ fun x s' e' hcalled => hcalled.within
    intro factResult s₃ e₃ hcalled₃
    split
    · rename_i fact hvalue₃
      exact .bind
        (logic.project .inventory _ _ (hcalled₃.of_value hvalue₃) (hpermits _ (by decide)))
        (fun _ s' e' hopen' => .pure (.inl hopen')) fun x s' e' hopen' => .inl hopen'
    · exact .raise hcalled₃.within
  · exact .raise hcalled.within

theorem dispatch_plan (hopen : Open s e) (hpermits : permits "create_dispatch_plan")
    (attempt : String) (vehicle : Vehicle) (weight : Int) (unit factId : String) :
    Proc.Meets h obs s e (DispatchAgent.plan g attempt vehicle weight unit factId) J
      (Called Open Held "create_dispatch_plan") :=
  .read (logic.call .dispatch hopen hpermits (.plain (by decide)))

/-- Planning ends in a result of the last call. -/
theorem dispatch_planGuided (hopen : Open s e) (hpermits : permits "create_dispatch_plan")
    (vehicles : List Vehicle) (selected : Vehicle) (fact : InventoryFact) (weight : Int) :
    Proc.Meets h obs s e (DispatchAgent.planGuided g vehicles selected fact weight) J fun x =>
      Within Open Held x ∧ ∀ chosen, x.result = .ok chosen →
        Called Open Held "create_dispatch_plan" ⟨.ok chosen.2.2, x.state, x.env⟩ := by
  unfold DispatchAgent.planGuided
  refine .bind (logic.dispatch_plan hopen hpermits _ _ _ _ _) ?_ fun x s' e' hcalled =>
    ⟨hcalled.within, by simp⟩
  intro result s₁ e₁ hcalled
  split
  · rename_i hguide
    have hopen₁ := hcalled.of_guide hguide
    unfold DispatchAgent.replan
    refine .ofExcept (fun required _ => ?_) fun x _ => ⟨.inl hopen₁, by simp⟩
    refine .ofExcept (fun suitable _ => ?_) fun x _ => ⟨.inl hopen₁, by simp⟩
    split
    · exact .raise ⟨.inl hopen₁, by simp⟩
    · refine .bind (logic.dispatch_plan hopen₁ hpermits _ _ _ _ _) ?_ fun x s' e' hcalled =>
        ⟨hcalled.within, by simp⟩
      intro result s₂ e₂ hcalled₂
      refine .pure ⟨hcalled₂.within, ?_⟩
      rintro chosen ⟨⟩
      exact hcalled₂
  · refine .pure ⟨hcalled.within, ?_⟩
    rintro chosen ⟨⟩
    exact hcalled

theorem dispatch_run (hopen : Open s e) (hpermits : ∀ tool ∈ runTools .dispatch, permits tool) :
    Proc.Meets h obs s e (DispatchAgent.run g) J (Within Open Held) := by
  unfold DispatchAgent.run
  refine .read ?_
  dsimp only
  split
  · refine .bind (logic.call .dispatch hopen (hpermits _ (by decide)) (.plain (by decide)))
      ?_ fun x s' e' hcalled => hcalled.within
    intro listed s₁ e₁ hcalled
    refine meets_valueOrBlocked (fun value hvalue => ?_) fun x => hcalled.within
    have hopen₁ := hcalled.of_value hvalue
    refine .ofExcept (fun vehicles _ => ?_) fun x _ => .inl hopen₁
    refine .ofExcept (fun preferred _ => ?_) fun x _ => .inl hopen₁
    refine .bind (logic.dispatch_planGuided hopen₁ (hpermits _ (by decide)) _ _ _ _) ?_
      fun x s' e' hplanned => hplanned.1
    rintro ⟨selected, weight, result⟩ s₂ e₂ ⟨hwithin, hresult⟩
    refine meets_valueOrBlocked (fun planned hplanned => ?_) fun x => hwithin
    exact .bind
      (logic.project .dispatch _ _ ((hresult _ rfl).of_value hplanned) (hpermits _ (by decide)))
      (fun _ s' e' hopen' => .pure (.inl hopen')) fun x s' e' hopen' => .inl hopen'
  · exact .raise (.inl hopen)

theorem carrier_select (hopen : Open s e) (hpermits : permits "select_carrier_quote")
    (quote : CarrierQuote) (attempt : String) :
    Proc.Meets h obs s e (CarrierAgent.select g quote attempt) J
      (Called Open Held "select_carrier_quote") :=
  .read (logic.call .carrier hopen hpermits (.plain (by decide)))

theorem carrier_selectGuided (hopen : Open s e) (hpermits : permits "select_carrier_quote")
    (quotes : List CarrierQuote) (preferred : CarrierQuote) :
    Proc.Meets h obs s e (CarrierAgent.selectGuided g quotes preferred) J fun x =>
      Within Open Held x ∧ ∀ chosen, x.result = .ok chosen →
        Called Open Held "select_carrier_quote" ⟨.ok chosen.2, x.state, x.env⟩ := by
  unfold CarrierAgent.selectGuided
  refine .bind (logic.carrier_select hopen hpermits _ _) ?_ fun x s' e' hcalled =>
    ⟨hcalled.within, by simp⟩
  intro result s₁ e₁ hcalled
  split
  · rename_i hguide
    have hopen₁ := hcalled.of_guide hguide
    refine .read ?_
    split
    · exact .raise ⟨.inl hopen₁, by simp⟩
    · refine .bind (logic.carrier_select hopen₁ hpermits _ _) ?_ fun x s' e' hcalled =>
        ⟨hcalled.within, by simp⟩
      intro result s₂ e₂ hcalled₂
      refine .pure ⟨hcalled₂.within, ?_⟩
      rintro chosen ⟨⟩
      exact hcalled₂
  · refine .pure ⟨hcalled.within, ?_⟩
    rintro chosen ⟨⟩
    exact hcalled

theorem carrier_prepare (hopen : Open s e) (hpermits : permits "prepare_freight_booking")
    (selected : CarrierQuote) :
    Proc.Meets h obs s e (CarrierAgent.prepare g selected) J fun x =>
      Within Open Held x ∧ ∀ prepared, x.result = .ok prepared → Open x.state x.env := by
  unfold CarrierAgent.prepare
  refine .read (.bind (logic.call .carrier hopen hpermits (.plain (by decide))) ?_
    fun x s' e' hcalled => ⟨hcalled.within, by simp⟩)
  intro result s₁ e₁ hcalled
  split
  · exact .raise ⟨hcalled.within, by simp⟩
  · refine meets_valueOrBlocked (fun value hvalue => ?_) fun x => ⟨hcalled.within, by simp⟩
    refine .bind (logic.project .carrier _ _ (hcalled.of_value hvalue) hpermits) ?_
      fun x s' e' hopen' => ⟨.inl hopen', by simp⟩
    intro _ s₂ e₂ hopen₂
    refine .ofExcept (fun preparedId _ => ?_) fun x _ => ⟨.inl hopen₂, by simp⟩
    unfold Governor.preparedAt
    refine .read ?_
    split
    · exact .pure ⟨.inl hopen₂, fun _ _ => hopen₂⟩
    · exact .raise ⟨.inl hopen₂, by simp⟩

theorem carrier_confirm (hopen : Open s e) (hpermits : permits "confirm_freight_booking")
    (prepared : PreparedAction) :
    Proc.Meets h obs s e (CarrierAgent.confirm g prepared) J
      (Called Open Held "confirm_freight_booking") :=
  .read (logic.call .carrier hopen hpermits (.confirm _ (confirmArgs_names _ prepared)))

theorem carrier_run (hopen : Open s e) (hpermits : ∀ tool ∈ runTools .carrier, permits tool) :
    Proc.Meets h obs s e (CarrierAgent.run g) J (Within Open Held) := by
  unfold CarrierAgent.run
  refine .read ?_
  dsimp only
  split
  · refine .bind (logic.call .carrier hopen (hpermits _ (by decide)) (.plain (by decide)))
      ?_ fun x s' e' hcalled => hcalled.within
    intro listed s₁ e₁ hcalled
    refine meets_valueOrBlocked (fun value hvalue => ?_) fun x => hcalled.within
    have hopen₁ := hcalled.of_value hvalue
    refine .ofExcept (fun quotes _ => ?_) fun x _ => .inl hopen₁
    refine .ofExcept (fun preferred _ => ?_) fun x _ => .inl hopen₁
    refine .bind (logic.carrier_selectGuided hopen₁ (hpermits _ (by decide)) _ _) ?_
      fun x s' e' hselected => hselected.1
    rintro ⟨selected, result⟩ s₂ e₂ ⟨hwithin, hresult⟩
    refine meets_valueOrBlocked (fun chosen hchosen => ?_) fun x => hwithin
    refine .bind
      (logic.project .carrier _ _ ((hresult _ rfl).of_value hchosen) (hpermits _ (by decide)))
      ?_ fun x s' e' hopen' => .inl hopen'
    intro _ s₃ e₃ hopen₃
    unfold CarrierAgent.book
    refine .bind (logic.carrier_prepare hopen₃ (hpermits _ (by decide)) selected) ?_
      fun x s' e' hprepared => hprepared.1
    rintro prepared s₄ e₄ ⟨-, hopen₄⟩
    refine .bind (logic.carrier_confirm (hopen₄ _ rfl) (hpermits _ (by decide)) prepared) ?_
      fun x s' e' hcalled => hcalled.within
    intro confirmed s₅ e₅ hcalled₅
    split
    · exact .pure hcalled₅.within
    · refine meets_valueOrBlocked (fun value hvalue => ?_) fun x => hcalled₅.within
      exact .ofExcept (fun amount _ => .pure hcalled₅.within) fun x _ => hcalled₅.within
  · exact .raise (.inl hopen)

theorem communications_run (hopen : Open s e) (hpermits : permits "write_tracking_outbox") :
    Proc.Meets h obs s e (CustomerCommunicationsAgent.run g) J (Within Open Held) := by
  unfold CustomerCommunicationsAgent.run
  refine .read ?_
  split
  · refine .bind (logic.call .customerCommunications hopen hpermits (.plain (by decide)))
      ?_ fun x s' e' hcalled => hcalled.within
    intro result s₁ e₁ hcalled
    split
    · exact .raise hcalled.within
    · rename_i value hvalue
      exact .bind
        (logic.project .customerCommunications _ _ (hcalled.of_value hvalue) hpermits)
        (fun _ s' e' hopen' => .pure (.inl hopen')) fun x s' e' hopen' => .inl hopen'
  · exact .raise (.inl hopen)

theorem carrier_resumeBooking (hopen : Open s e) (hpermits : permits "confirm_freight_booking")
    (approval : ApprovalRecord) :
    Proc.Meets h obs s e (CarrierAgent.resumeBooking g approval) J (Within Open Held) := by
  unfold CarrierAgent.resumeBooking
  split
  · exact .raise (.inl hopen)
  · refine .read ?_
    split
    · exact .raise (.inl hopen)
    · split
      · exact .raise (.inl hopen)
      · refine .bind (logic.carrier_confirm hopen hpermits _) ?_
          fun x s' e' hcalled => hcalled.within
        intro result s₁ e₁ hcalled
        refine meets_valueOrBlocked (fun value hvalue => ?_) fun x => hcalled.within
        exact .ofExcept (fun confirmationId _ => .pure hcalled.within)
          fun x _ => hcalled.within

end RoleLogic

/-! ## Marking an action whose approval ended -/

omit [Sha256] in
/-- Marking an ended action raises and changes nothing, or writes the status that belongs to
the approval's. -/
theorem markEnded_meets {approval : ApprovalRecord}
    {Q : Exit PyError TrajectoryState E PreparedAction → Prop}
    (hraise : ∀ x, Q ⟨.error x, s, e⟩)
    (hmark : ∀ prepared status, s.preparedActions.get? approval.preparedActionId = some prepared →
      CarrierAgent.endedStatus approval.status = some status →
      Q ⟨.ok prepared, s.setPreparedStatus approval.preparedActionId status, e⟩) :
    Proc.Meets h obs s e (CarrierAgent.markEnded approval) J Q := by
  unfold CarrierAgent.markEnded
  refine .read ?_
  split
  · exact .raise (hraise _)
  · rename_i prepared hprepared
    split
    · exact .raise (hraise _)
    · rename_i status hstatus
      exact .mutate (.pure (hmark prepared status hprepared hstatus))

namespace RoleLogic

variable (logic : RoleLogic h obs J g permits Open Held)

include logic

theorem carrier_cancelBooking (hopen : Open s e) (hpermits : permits "cancel_freight_booking")
    {approval : ApprovalRecord} (reasonCode : String)
    (hmark : ∀ status, CarrierAgent.endedStatus approval.status = some status →
      Open (s.setPreparedStatus approval.preparedActionId status) e) :
    Proc.Meets h obs s e (CarrierAgent.cancelBooking g approval reasonCode) J
      (Within Open Held) := by
  unfold CarrierAgent.cancelBooking
  refine .bind (markEnded_meets (Q := fun x => Open x.state x.env) (fun _ => hopen)
    fun prepared status _ hstatus => hmark status hstatus) ?_ fun x s' e' hopen' => .inl hopen'
  intro prepared s₁ e₁ hopen₁
  refine .read (.bind (logic.call .carrier hopen₁ hpermits (.cancel _ (cancelArgs_names ..))) ?_
    fun x s' e' hcalled => hcalled.within)
  intro result s₂ e₂ hcalled
  exact meets_valueOrBlocked (fun value _ => .pure hcalled.within) fun x => hcalled.within

/-! ### Roles backed by a hosted model -/

/-- While an invocation is not terminal its calls are open. -/
def Stepping (Open Held : TrajectoryState → E → Prop) (context : GovernedInvocationContext)
    (s : TrajectoryState) (e : E) : Prop :=
  (Open s e ∨ Held s e) ∧ (context.terminal = false → Open s e)

omit [Sha256] logic in
/-- An action's key is the same text whether or not its operation is spliced in. -/
theorem keyText_eq (operation text : String) (htext : ":" ++ (operation ++ ":") = text)
    (traceId preparedId : String) :
    s!"{traceId}:{operation}:{preparedId}" = traceId ++ text ++ preparedId := by
  subst htext
  simp [toString, String.append_assoc]

omit [Sha256] logic in
/-- Bound arguments are those of a role's call. -/
theorem roleCall_of_bound {context : GovernedInvocationContext} {args bound : Kwargs}
    {toolName : String} (hbound : context.bindArguments s toolName args = .ok bound) :
    RoleCall s.traceId toolName bound := by
  by_cases hconfirm : toolName = "confirm_freight_booking"
  · subst hconfirm
    simp only [GovernedInvocationContext.bindArguments,
      GovernedInvocationContext.bindPrepared, bind, Except.bind] at hbound
    cases hid : entryOf args "prepared_action_id" with
    | error x => simp [hid] at hbound
    | ok value =>
        cases hget : s.preparedActions.get? value.pyStr with
        | none => simp [hid, hget, agentRuntime] at hbound
        | some prepared =>
            simp only [hid, hget, String.reduceEq, if_true, if_false, Except.ok.injEq] at hbound
            subst hbound
            refine .confirm value.pyStr ⟨rfl, congrArg (some ∘ Value.str) ?_⟩
            exact keyText_eq "confirm" ":confirm:" rfl s.traceId value.pyStr
  · by_cases hcancel : toolName = "cancel_freight_booking"
    · subst hcancel
      simp only [GovernedInvocationContext.bindArguments,
        GovernedInvocationContext.bindPrepared, bind, Except.bind] at hbound
      cases hid : entryOf args "prepared_action_id" with
      | error x => simp [hid] at hbound
      | ok value =>
          cases hget : s.preparedActions.get? value.pyStr with
          | none => simp [hid, hget, agentRuntime] at hbound
          | some prepared =>
              simp only [hid, hget, String.reduceEq, if_true, if_false] at hbound
              split at hbound
              · cases hbound
              · simp only [Except.ok.injEq] at hbound
                subst hbound
                refine .cancel value.pyStr ⟨rfl, congrArg (some ∘ Value.str) ?_⟩
                exact keyText_eq "cancel" ":cancel:" rfl s.traceId value.pyStr
    · exact .plain (by simp [actsOnPrepared, hconfirm, hcancel])

omit [Sha256] logic in
theorem safeValue_confirm : GovernedInvocationContext.safeValue "confirm_freight_booking" s =
    .ok () :=
  rfl

theorem governedCall_meets {context : GovernedInvocationContext} {args : Kwargs}
    {toolName : String} (hopen : Open s e) (hpermits : permits toolName) :
    Proc.Meets h obs s e (context.governedCall g toolName args) J fun x =>
      match x.result with
      | .error _ => Open x.state x.env
      | .ok context' => Stepping Open Held context' x.state x.env ∧
          context'.role = context.role ∧ context'.phase = context.phase := by
  unfold GovernedInvocationContext.governedCall
  refine .read (.ofExcept (fun bound hbound => ?_) fun x _ => hopen)
  refine .bind (logic.call context.role hopen hpermits (roleCall_of_bound hbound)) ?_
    fun x s' e' hcalled => hcalled
  intro result s₁ e₁ hcalled
  have hsettled (s' : TrajectoryState) (e' : E) (hopen' : Open s' e') :
      Stepping Open Held (context.settle toolName result) s' e' :=
    ⟨.inl hopen', fun _ => hopen'⟩
  have hsame : (context.settle toolName result).role = context.role ∧
      (context.settle toolName result).phase = context.phase := by
    unfold GovernedInvocationContext.settle
    dsimp only
    split
    · exact ⟨rfl, rfl⟩
    · split <;> exact ⟨rfl, rfl⟩
  cases hvalue : result.value with
  | some value =>
      refine .bind (logic.project context.role bound value (hcalled.of_value hvalue) hpermits)
        ?_ fun x s' e' hopen' => hopen'
      intro _ s₂ e₂ hopen₂
      exact .read (.ofExcept (fun _ _ => .pure ⟨hsettled s₂ e₂ hopen₂, hsame⟩)
        fun x _ => hopen₂)
  | none =>
      refine .read ?_
      rcases hcalled with hopen₁ | ⟨hheld, rfl, -, hsome, houtcome⟩
      · exact .ofExcept (fun _ _ => .pure ⟨hsettled s₁ e₁ hopen₁, hsame⟩) fun x _ => hopen₁
      · -- An escalation makes the invocation terminal.
        refine .ofExcept (fun _ _ => .pure ⟨⟨.inr hheld, fun hlive => ?_⟩, hsame⟩) fun x hx => ?_
        · simp [GovernedInvocationContext.settle, houtcome, hsome,
            GovernedInvocationContext.finish] at hlive
        · rw [safeValue_confirm] at hx
          cases hx

theorem step_meets {context : GovernedInvocationContext} {call : ModelCall}
    (hstepping : Stepping Open Held context s e)
    (hpermits : ∀ tool ∈ context.allowedTools, permits tool) :
    Proc.Meets h obs s e (context.step g call) J fun x =>
      ∃ context', x.result = .ok context' ∧ Stepping Open Held context' x.state x.env ∧
        context'.role = context.role ∧ context'.phase = context.phase := by
  unfold GovernedInvocationContext.step
  split
  · rename_i args hallowed hargs
    unfold GovernedInvocationContext.execute
    split
    · exact .pure ⟨context, rfl, hstepping, rfl, rfl⟩
    · rename_i hlive
      simp only [hallowed, Bool.true_eq_false, if_false]
      have hopen : Open s e := hstepping.2 (by
        cases hterminal : context.terminal
        · rfl
        · simp [hterminal] at hlive)
      refine .tryCatch (logic.governedCall_meets hopen
        (hpermits _ (by simpa using hallowed))) ?_ ?_
      · rintro context' s' e' ⟨hstepping', hsame⟩
        exact ⟨context', rfl, hstepping', hsame⟩
      · intro x s' e' hopen'
        exact .pure ⟨context, rfl, ⟨.inl hopen', fun _ => hopen'⟩, rfl, rfl⟩
  · exact .pure ⟨context, rfl, hstepping, rfl, rfl⟩

omit [Sha256] logic in
/-- The tools of an invocation depend on its role and phase only. -/
theorem allowedTools_congr {context context' : GovernedInvocationContext}
    (hrole : context'.role = context.role) (hphase : context'.phase = context.phase) :
    context'.allowedTools = context.allowedTools := by
  unfold GovernedInvocationContext.allowedTools
  rw [hrole, hphase]

/-- The calls of an invocation keep the invariant, whatever the model asks for. -/
theorem steps_meets {calls : List ModelCall} {context : GovernedInvocationContext}
    (hstepping : Stepping Open Held context s e)
    (hpermits : ∀ tool ∈ context.allowedTools, permits tool) :
    Proc.Meets h obs s e (GovernedInvocationContext.steps g calls context) J fun x =>
      Within Open Held x := by
  induction calls generalizing context s e with
  | nil => exact .pure hstepping.1
  | cons call rest ih =>
      refine .bind (logic.step_meets hstepping hpermits) ?_ ?_
      · rintro context' s' e' ⟨other, hother, hstepping', hrole, hphase⟩
        cases hother
        exact ih hstepping' (by rwa [allowedTools_congr hrole hphase])
      · rintro x s' e' ⟨other, hother, -⟩
        cases hother

/-- One bounded invocation keeps the invariant. -/
theorem invoke_meets {context : GovernedInvocationContext} (settings : RuntimeSettings)
    (hopen : Open s e) (hpermits : ∀ tool ∈ context.allowedTools, permits tool) :
    Proc.Meets h obs s e (StrandsRuntime.invoke g settings context) J (Within Open Held) := by
  unfold StrandsRuntime.invoke
  refine .read (.bind (logic.invoke context.role context.phase hopen) ?_
    fun x s' e' hopen' => .inl hopen')
  intro invocation s₁ e₁ hopen₁
  refine .bind (logic.steps_meets ⟨.inl hopen₁, fun _ => hopen₁⟩ hpermits) ?_
    fun x s' e' hwithin => hwithin
  intro context' s₂ e₂ hwithin
  split
  · exact .raise hwithin
  · exact .raise hwithin
  · rename_i result _
    refine .read (.ofExcept (fun summary _ => ?_) fun x _ => hwithin)
    exact .bind (logic.completed settings context' result hwithin)
      (fun _ s' e' hwithin' => .pure hwithin') fun x s' e' hwithin' => hwithin'

/-! ### All roles -/

omit [Sha256] logic in
theorem runTools_allowed (name : AgentName) :
    ∀ tool ∈ GovernedInvocationContext.allowedTools { role := name, phase := .run },
      tool ∈ runTools name := by
  cases name <;> decide

/-- Every role's run keeps the invariant. -/
theorem run {agents : List Agent} {agent : Agent} (settings : RuntimeSettings)
    (hroles : agents = legacyAgents g ∨ agents = strandsAgents g settings)
    (hagent : agent ∈ agents) (hopen : Open s e)
    (hpermits : ∀ tool ∈ runTools agent.name, permits tool) :
    Proc.Meets h obs s e agent.run J (Within Open Held) := by
  rcases hroles with rfl | rfl
  · simp only [legacyAgents, List.mem_cons, List.not_mem_nil, or_false] at hagent
    rcases hagent with rfl | rfl | rfl | rfl
    · exact logic.inventory_run hopen hpermits
    · exact logic.dispatch_run hopen hpermits
    · exact logic.carrier_run hopen hpermits
    · exact logic.communications_run hopen (hpermits _ List.mem_cons_self)
  · simp only [strandsAgents, List.mem_cons, List.not_mem_nil, or_false] at hagent
    rcases hagent with rfl | rfl | rfl | rfl
    all_goals
      exact logic.invoke_meets settings hopen fun tool htool =>
        hpermits tool (runTools_allowed _ tool htool)

/-- The carrier's approved continuation keeps the invariant. -/
theorem resumeBooking {agents : List Agent} {agent : Agent} (settings : RuntimeSettings)
    (hroles : agents = legacyAgents g ∨ agents = strandsAgents g settings)
    (hagent : agent ∈ agents) (hopen : Open s e) (hpermits : permits "confirm_freight_booking")
    (approval : ApprovalRecord) :
    Proc.Meets h obs s e (agent.resumeBooking approval) J (Within Open Held) := by
  have hstrands : Proc.Meets h obs s e (StrandsCarrierAgent.resumeBooking g settings approval) J
      (Within Open Held) := by
    unfold StrandsCarrierAgent.resumeBooking
    split
    · exact .raise (.inl hopen)
    · refine .read ?_
      split
      · exact .raise (.inl hopen)
      · split
        · exact .raise (.inl hopen)
        · refine logic.invoke_meets settings hopen fun tool htool => ?_
          simp only [GovernedInvocationContext.allowedTools, List.mem_singleton] at htool
          exact htool ▸ hpermits
  rcases hroles with rfl | rfl
  · simp only [legacyAgents, List.mem_cons, List.not_mem_nil, or_false] at hagent
    rcases hagent with rfl | rfl | rfl | rfl
    · exact .raise (.inl hopen)
    · exact .raise (.inl hopen)
    · exact logic.carrier_resumeBooking hopen hpermits approval
    · exact .raise (.inl hopen)
  · simp only [strandsAgents, List.mem_cons, List.not_mem_nil, or_false] at hagent
    rcases hagent with rfl | rfl | rfl | rfl
    · exact .raise (.inl hopen)
    · exact .raise (.inl hopen)
    · exact hstrands
    · exact .raise (.inl hopen)

/-- The carrier's cancelling continuation keeps the invariant. -/
theorem cancelBooking {agents : List Agent} {agent : Agent} (settings : RuntimeSettings)
    (hroles : agents = legacyAgents g ∨ agents = strandsAgents g settings)
    (hagent : agent ∈ agents) (hopen : Open s e) (hpermits : permits "cancel_freight_booking")
    {approval : ApprovalRecord} (reasonCode : String)
    (hmark : ∀ status, CarrierAgent.endedStatus approval.status = some status →
      Open (s.setPreparedStatus approval.preparedActionId status) e) :
    Proc.Meets h obs s e (agent.cancelBooking approval reasonCode) J (Within Open Held) := by
  have hstrands : Proc.Meets h obs s e
      (StrandsCarrierAgent.cancelBooking g settings approval reasonCode) J
      (Within Open Held) := by
    unfold StrandsCarrierAgent.cancelBooking
    refine .bind (markEnded_meets (Q := fun x => Open x.state x.env) (fun _ => hopen)
      fun prepared status _ hstatus => hmark status hstatus) ?_ fun x s' e' hopen' => .inl hopen'
    intro _ s₁ e₁ hopen₁
    refine logic.invoke_meets settings hopen₁ fun tool htool => ?_
    simp only [GovernedInvocationContext.allowedTools, List.mem_singleton] at htool
    exact htool ▸ hpermits
  rcases hroles with rfl | rfl
  · simp only [legacyAgents, List.mem_cons, List.not_mem_nil, or_false] at hagent
    rcases hagent with rfl | rfl | rfl | rfl
    · exact .raise (.inl hopen)
    · exact .raise (.inl hopen)
    · exact logic.carrier_cancelBooking hopen hpermits reasonCode hmark
    · exact .raise (.inl hopen)
  · simp only [strandsAgents, List.mem_cons, List.not_mem_nil, or_false] at hagent
    rcases hagent with rfl | rfl | rfl | rfl
    · exact .raise (.inl hopen)
    · exact .raise (.inl hopen)
    · exact hstrands
    · exact .raise (.inl hopen)

end RoleLogic

end Logic

end Manifest
