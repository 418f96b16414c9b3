import Manifest.Governor.Dispatch
import Manifest.Runtime.Confinement
import Manifest.Runtime.Service

/-!
# Dispatch safety

Whatever weights, units, facts and vehicles a model asks for, a dispatch plan is only made
for the inventory's weight, in kilograms and under a fact whose hash is valid, and perishable
cargo only travels in a vehicle that may carry it.

Main results:

- Theorem `perform_dispatches`: one call of a role tool invokes only safe dispatches, and
  keeps the facts sourced.
- Theorem `steps_run`: the calls of a model's invocation are such calls.
- Theorem `dispatch_safe`: every call along an enforced run.
-/

set_option autoImplicit false

namespace Manifest

open Interaction

section Calls

variable [Sha256] (g : Governor)

/-! ## One call of a role tool -/

/-- The dispatches that rest on the same sources. -/
theorem Dispatches.of_sources {loader : FixtureLoader} {s s' : TrajectoryState}
    (h : SameSources s s') {event : GateEvent} (hevent : Dispatches loader s' event) :
    Dispatches loader s event := by
  cases event with
  | handlerInvoked toolName args =>
      intro htool
      obtain ⟨order, fact, hsafe⟩ := hevent htool
      obtain ⟨horder, hfact, hnamed, hvalid, hunit, hweight, hvehicle⟩ := hsafe
      rw [h.orderId_eq] at horder hvalid
      rw [h.facts_eq] at hnamed
      rw [h.mandate_eq] at hvehicle
      exact ⟨order, fact, horder, hfact, hnamed, hvalid, hunit, hweight, hvehicle⟩
  | _ => trivial

/-- An enforced state of an order, whose facts are sourced. -/
structure Grounded (loader : FixtureLoader) (orderId : String) (mandate : Option ShipmentMandate)
    (s : TrajectoryState) : Prop where
  mode_eq : s.mode = .enforce
  orderId_eq : s.orderId = orderId
  mandate_eq : s.mandate = mandate
  sourced : Sourced loader s

theorem Grounded.of_sources {loader : FixtureLoader} {orderId : String}
    {mandate : Option ShipmentMandate} {s s' : TrajectoryState} (h : SameSources s s')
    (hgrounded : Grounded loader orderId mandate s) : Grounded loader orderId mandate s' :=
  ⟨h.mode_eq.trans hgrounded.mode_eq, h.orderId_eq.trans hgrounded.orderId_eq,
    h.mandate_eq.trans hgrounded.mandate_eq, h.sourced hgrounded.sourced⟩

omit [Sha256] in
/-- A dispatch through its role tool carries the weight the model asked for. -/
theorem has_weight_of_bound {context : GovernedInvocationContext} {s : TrajectoryState}
    {args bound : Kwargs} (hdeclared : args.keys = GovernedInvocationContext.declaredKeys
      "create_dispatch_plan")
    (hbound : context.bindArguments s "create_dispatch_plan" args = .ok bound) :
    bound.has "weight_value" = true := by
  obtain rfl := Except.ok.inj hbound
  have hmem : "weight_value" ∈ args.keys := by
    rw [hdeclared]
    decide
  have hupdated : (Kwargs.update [("order_id", .str s.orderId)] args).has "weight_value" = true :=
    Kwargs.has_update (.inr hmem)
  unfold Kwargs.has at hupdated ⊢
  rw [Kwargs.get?_set, if_neg (by decide)]
  exact hupdated

variable {host : Host} {orderId : String} {mandate : Option ShipmentMandate}

/-- The part of a role tool's call that the governor governs. -/
theorem governedCall_dispatches (hengine : EnforcesDispatch g.engine)
    {context : GovernedInvocationContext} {toolName : String} {args : Kwargs}
    {s : TrajectoryState} {w : World} (hgrounded : Grounded g.loader orderId mandate s)
    (hdeclared : args.keys = GovernedInvocationContext.declaredKeys toolName) :
    Proc.Meets (World.handle g.loader host) gateObserver s w (context.governedCall g toolName args)
      (Dispatches g.loader s) fun x => Grounded g.loader orderId mandate x.state := by
  unfold GovernedInvocationContext.governedCall
  refine .read (.ofExcept (fun bound hbound => ?_) fun x _ => hgrounded)
  have hsafe : ∀ event ∈ (g.executeTool context.role toolName bound).log
      (World.handle g.loader host) gateObserver s w, Dispatches g.loader s event := by
    refine executeTool_dispatches g hengine _ context.role hgrounded.mode_eq hgrounded.sourced
      ?_ w
    rintro rfl
    exact has_weight_of_bound hdeclared hbound
  have hsame := (executeTool_sameSources g context.role toolName bound s).exec
    (World.handle g.loader host) w
  have hreads {result : GovernedToolResult} {value : ToolValue}
      (htool : toolName = "check_inventory")
      (hresult : ((g.executeTool context.role toolName bound).exec (World.handle g.loader host) s
        w).result = .ok result) (hvalue : result.value = some value) :
      ∃ order fact, value = .fact fact ∧ g.loader.getOrder s.orderId = .ok order ∧
        g.loader.getInventoryFact order = .ok fact := by
    subst htool
    obtain ⟨mocks, hexecuted⟩ := executeTool_reads g (by decide) hresult hvalue
    obtain ⟨order, fact, hfact, horder, hinventory⟩ := checkInventory_ok hexecuted
    refine ⟨order, fact, hfact, ?_, hinventory⟩
    cases hordered : s.order with
    | none => simp [GovernedInvocationContext.bindArguments, hordered, agentRuntime] at hbound
    | some governed =>
        simp only [GovernedInvocationContext.bindArguments, hordered, Except.ok.injEq] at hbound
        subst hbound
        exact horder
  refine .bind (P := fun x => x = (g.executeTool context.role toolName bound).exec
    (World.handle g.loader host) s w) ⟨hsafe, rfl⟩ ?_ ?_
  · intro result s₁ w₁ hexit
    rw [← hexit] at hsame hreads
    have hgrounded₁ := hgrounded.of_sources hsame
    have hrest (s' : TrajectoryState) (w' : World)
        (hgrounded' : Grounded g.loader orderId mandate s') :
        Proc.Meets (World.handle g.loader host) gateObserver s' w' (do
          let state ← Proc.read
          Proc.ofExcept (GovernedInvocationContext.safeValue toolName state)
          pure (context.settle toolName result) : Py GovernedInvocationContext)
          (Dispatches g.loader s) fun x => Grounded g.loader orderId mandate x.state :=
      .read (.ofExcept (fun _ _ => .pure hgrounded') fun x _ => hgrounded')
    cases hvalue : result.value with
    | none => exact hrest s₁ w₁ hgrounded₁
    | some value =>
        have hproject := project_sources g.loader context.role toolName bound value s₁
        refine .bind (P := fun x => Grounded g.loader orderId mandate x.state)
          ⟨fun event hmem => ?_, ?_⟩ (fun _ s' w' hgrounded' => hrest s' w' hgrounded')
          fun x s' w' hgrounded' => hgrounded'
        · refine hproject.forall_log _ (fun β o reply ho => ?_) w₁ event hmem
          exact dispatches_of_undecided β o reply (readingOp.bookkeeping β o ho).undecided
        · rcases hproject.exec (World.handle g.loader host) w₁ with
            hsources | ⟨htool, fact, rfl, heq⟩
          · exact hgrounded₁.of_sources hsources
          · obtain ⟨order, found, hfound, horder, hinventory⟩ := hreads htool rfl hvalue
            cases hfound
            rw [heq]
            refine ⟨hgrounded₁.mode_eq, hgrounded₁.orderId_eq, hgrounded₁.mandate_eq,
              sourced_setFact hgrounded₁.sourced ?_ hinventory⟩
            rw [hsame.orderId_eq]
            exact horder
  · intro x s₁ w₁ hexit
    rw [← hexit] at hsame
    exact hgrounded.of_sources hsame

/-- One call of a role tool, whatever its context: what is dispatched is safe, and the facts
stay sourced. -/
theorem perform_dispatches (hengine : EnforcesDispatch g.engine)
    (context : GovernedInvocationContext) (toolName : String) (args : Kwargs)
    {s : TrajectoryState} {w : World} (hgrounded : Grounded g.loader orderId mandate s) :
    Proc.Meets (World.handle g.loader host) gateObserver s w
      ((GovernedInvocationContext.Request.built toolName args).perform g context)
      (Dispatches g.loader s) fun x => Grounded g.loader orderId mandate x.state := by
  unfold GovernedInvocationContext.Request.perform GovernedInvocationContext.Request.execution
  by_cases hbuilt : (context.allowedTools.contains toolName &&
      decide (args.keys = GovernedInvocationContext.declaredKeys toolName)) = true
  · simp only [hbuilt, if_true]
    simp only [Bool.and_eq_true, decide_eq_true_eq] at hbuilt
    unfold GovernedInvocationContext.execute
    split
    · exact .pure hgrounded
    · split
      · exact .pure hgrounded
      · exact .tryCatch (governedCall_dispatches g hengine hgrounded hbuilt.2) (fun _ _ _ h => h)
          fun x s' w' h => .pure h
  · simp only [hbuilt, Bool.false_eq_true, if_false]
    exact .pure hgrounded

end Calls

/-! ## Runs -/

section Runs

variable [Sha256] (g : Governor) (host : Host)

/-- What can happen to a trajectory: a call of a role tool, in any context and with any values,
or anything that leaves the sources of dispatches alone. -/
inductive RoleStep : TrajectoryState × World → TrajectoryState × World → Prop where
  | call (context : GovernedInvocationContext) (toolName : String) (args : Kwargs)
      (s : TrajectoryState) (w : World) :
      RoleStep (s, w)
        ((((GovernedInvocationContext.Request.built toolName args).perform g context).exec
            (World.handle g.loader host) s w).state,
          (((GovernedInvocationContext.Request.built toolName args).perform g context).exec
            (World.handle g.loader host) s w).env)
  | between {s s' : TrajectoryState} {w w' : World} (same : SameSources s s') :
      RoleStep (s, w) (s', w')

variable {g host}

/-- A step keeps the facts sourced. -/
theorem RoleStep.grounded (hengine : EnforcesDispatch g.engine) {orderId : String}
    {mandate : Option ShipmentMandate} {c c' : TrajectoryState × World}
    (h : RoleStep g host c c') (hgrounded : Grounded g.loader orderId mandate c.1) :
    Grounded g.loader orderId mandate c'.1 := by
  cases h with
  | call context toolName args s w =>
      exact (perform_dispatches g hengine context toolName args hgrounded).2
  | between same => exact hgrounded.of_sources same

theorem grounded_of_run (hengine : EnforcesDispatch g.engine) {orderId : String}
    {mandate : Option ShipmentMandate} {c₀ c : TrajectoryState × World}
    (hrun : Relation.ReflTransGen (RoleStep g host) c₀ c)
    (hgrounded : Grounded g.loader orderId mandate c₀.1) :
    Grounded g.loader orderId mandate c.1 := by
  induction hrun with
  | refl => exact hgrounded
  | tail hrun hstep ih => exact hstep.grounded hengine ih

omit [Sha256] in
/-- A call that fits the schema gives a value to each declared parameter. -/
theorem declaredArguments_keys {toolName : String} {args declared : Kwargs}
    (h : declaredArguments toolName args = some declared) :
    declared.keys = GovernedInvocationContext.declaredKeys toolName := by
  unfold declaredArguments at h
  unfold GovernedInvocationContext.declaredKeys Kwargs.keys
  generalize toolParameters toolName = parameters at h ⊢
  induction parameters generalizing declared with
  | nil =>
      obtain rfl : [] = declared := Option.some.inj h
      rfl
  | cons parameter rest ih =>
      obtain ⟨key, kind⟩ := parameter
      simp only [List.mapM_cons, Option.bind_eq_bind, Option.bind_eq_some_iff] at h
      obtain ⟨entry, hentry, tail, htail, heq⟩ := h
      obtain rfl : entry :: tail = declared := Option.some.inj heq
      have hkey : entry.1 = key := by
        split at hentry
        · split at hentry
          · cases hentry
            rfl
          · cases hentry
        · cases hentry
      simp only [List.map_cons, hkey, ih htail]

/-- A call of a model is a call of a role tool, or is refused by the schema. -/
theorem step_eq (context : GovernedInvocationContext) (call : ModelCall) :
    (∃ args, context.step g call =
        (GovernedInvocationContext.Request.built call.toolName args).perform g context) ∨
      context.step g call = pure context := by
  unfold GovernedInvocationContext.step
  split
  · rename_i args hallowed hargs
    refine .inl ⟨args, ?_⟩
    unfold GovernedInvocationContext.Request.perform GovernedInvocationContext.Request.execution
    simp only [hallowed, declaredArguments_keys hargs, decide_true, Bool.and_self, if_true]
  · exact .inr rfl

/-- The calls a model makes in an invocation are such steps. -/
theorem steps_run (calls : List ModelCall) (context : GovernedInvocationContext)
    (s : TrajectoryState) (w : World) :
    Relation.ReflTransGen (RoleStep g host) (s, w)
      (((GovernedInvocationContext.steps g calls context).exec (World.handle g.loader host) s
          w).state,
        ((GovernedInvocationContext.steps g calls context).exec (World.handle g.loader host) s
          w).env) := by
  induction calls generalizing context s w with
  | nil => exact .refl
  | cons call rest ih =>
      have hfirst : Relation.ReflTransGen (RoleStep g host) (s, w)
          (((context.step g call).exec (World.handle g.loader host) s w).state,
            ((context.step g call).exec (World.handle g.loader host) s w).env) := by
        rcases step_eq (g := g) context call with ⟨args, heq⟩ | heq
        · rw [heq]
          exact .single (.call context call.toolName args s w)
        · rw [heq]
          exact .refl
      unfold GovernedInvocationContext.steps
      rw [Proc.exec_bind]
      rcases hx : (context.step g call).exec (World.handle g.loader host) s w with ⟨r, s', w'⟩
      rw [hx] at hfirst
      cases r with
      | error x => exact hfirst
      | ok context' => exact hfirst.trans (ih context' s' w')

/-- Dispatch safety.  Along every enforced run, under either engine and whatever the model
asks of the role tools, a dispatch plan is only made for the sourced weight, in kilograms, and
for a vehicle that may carry perishable cargo. -/
theorem dispatch_safe
    (hengine : g.engine = pythonReferencePolicyEngine ∨
      ∃ bundleHash, g.engine = cedarPolicyEngine bundleHash)
    {traceId orderId : String} {scenario : ScenarioName} {mandate : ShipmentMandate}
    {config : ScenarioConfig} {w₀ : World} {c : TrajectoryState × World}
    (hrun : Relation.ReflTransGen (RoleStep g host)
      (RunService.initialState traceId orderId .enforce scenario mandate config, w₀) c)
    (context : GovernedInvocationContext) (toolName : String) (args dispatched : Kwargs)
    (hinvoked : GateEvent.handlerInvoked "create_dispatch_plan" dispatched ∈
      ((GovernedInvocationContext.Request.built toolName args).perform g context).log
        (World.handle g.loader host) gateObserver c.1 c.2) :
    c.1.orderId = orderId ∧ c.1.mandate = some mandate ∧
      ∃ order fact, SafeDispatch g.loader c.1 dispatched order fact := by
  have henforces : EnforcesDispatch g.engine := by
    rcases hengine with heq | ⟨bundleHash, heq⟩ <;> rw [heq]
    · exact reference_dispatched
    · exact bundle_dispatched bundleHash
  have hstart : Grounded g.loader orderId (some mandate)
      (RunService.initialState traceId orderId .enforce scenario mandate config) := by
    refine ⟨rfl, rfl, rfl, fun key entry hget => ?_⟩
    rw [show (RunService.initialState traceId orderId .enforce scenario mandate config).facts = ∅
      from rfl, Dict.get?_empty] at hget
    cases hget
  have hgrounded := grounded_of_run henforces hrun hstart
  have hsafe := (perform_dispatches g henforces context toolName args hgrounded).1 _ hinvoked rfl
  exact ⟨hgrounded.orderId_eq, hgrounded.mandate_eq, hsafe⟩

end Runs

namespace Demo

/-- The benign scenario of the demo order. -/
def benign : ScenarioConfig :=
  { name := .benign, priorCommittedMinor := 250000, attemptedWeightKg := 500
    preferredVehicleId := "VEH-COLD-01", preferredQuoteId := "QUOTE-COLD-01" }

/-- An enforced run of the benign scenario. -/
def enforced : TrajectoryState :=
  RunService.initialState "TRACE-1" "ORD-8842" .enforce .benign mandate benign

/-- The run, stored, with its order. -/
def ordered : Exit PyError TrajectoryState World Unit :=
  Py.createRun.exec handle (Projector.setOrder enforced order) {}

/-- The check of the inventory, asked for by a model. -/
def stocked : Exit PyError TrajectoryState World GovernedInvocationContext :=
  ((GovernedInvocationContext.Request.built "check_inventory" []).perform governor
    { role := .inventory, phase := .run }).exec handle ordered.state ordered.env

/-- What the model asks a dispatch for. -/
def dispatchArgs : Kwargs :=
  [ ("vehicle_id", .str "VEH-COLD-01"), ("weight_value", .int 500), ("weight_unit", .str "kg"),
    ("weight_fact_id", .str "WEIGHT-ORD-8842") ]

/-- What is observed of that dispatch. -/
def dispatching : List GateEvent :=
  ((GovernedInvocationContext.Request.built "create_dispatch_plan" dispatchArgs).perform governor
    { role := .dispatch, phase := .run }).log handle gateObserver stocked.state stocked.env

def isDispatch : GateEvent → Bool
  | .handlerInvoked toolName _ => toolName = "create_dispatch_plan"
  | _ => false

theorem dispatching_any : dispatching.any isDispatch = true := by
  decide +kernel

theorem stocked_run :
    Relation.ReflTransGen (RoleStep governor host) (enforced, {}) (stocked.state, stocked.env) := by
  have hordered : RoleStep governor host (enforced, {}) (ordered.state, ordered.env) :=
    .between ⟨rfl, rfl, rfl, rfl⟩
  exact .tail (.single hordered) (.call { role := .inventory, phase := .run } "check_inventory" []
    ordered.state ordered.env)

end Demo

/-- The demo order's dispatch reaches its handler, and is safe. -/
theorem dispatch_safe_planned :
    ∃ dispatched order fact,
      GateEvent.handlerInvoked "create_dispatch_plan" dispatched ∈ Demo.dispatching ∧
        SafeDispatch Demo.loader Demo.stocked.state dispatched order fact := by
  obtain ⟨event, hmem, hdispatch⟩ := List.any_eq_true.mp Demo.dispatching_any
  cases event with
  | handlerInvoked toolName dispatched =>
      obtain rfl : toolName = "create_dispatch_plan" := by simpa [Demo.isDispatch] using hdispatch
      obtain ⟨-, -, order, fact, hsafe⟩ := dispatch_safe (.inl rfl) Demo.stocked_run
        { role := .dispatch, phase := .run } "create_dispatch_plan" Demo.dispatchArgs dispatched
        hmem
      exact ⟨dispatched, order, fact, hmem, hsafe⟩
  | _ => cases hdispatch

end Manifest
