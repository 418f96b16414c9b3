import Manifest.Governor.Spend
import Manifest.Governor.Stages

/-!
# What a governed dispatch rests on

Either engine clears a dispatch only for the weight of a valid fact, and perishable cargo only
for a vehicle that may carry it.  The handler that runs is the cleared call's own.

Main results:

- Theorems `reference_dispatched` and `bundle_dispatched`: what either engine clears.
- Theorem `executeTool_dispatches`: a governed call on sourced facts invokes only safe
  dispatches.
- Theorem `project_sources`: only the projection of an inventory adds a fact.
-/

set_option autoImplicit false

namespace Manifest

open Interaction
open Cedar (PrintedWeightDiffers vehicleUnsafe_iff)

/-! ## What clearing a dispatch means -/

/-- A dispatch of a valid fact's weight, in a vehicle that may carry perishable cargo. -/
structure DispatchCleared [Sha256] (request : PolicyRequest) (state : TrajectoryState)
    (mandate : ShipmentMandate) (fact : NumericFact) : Prop where
  mandate_eq : state.mandate = some mandate
  fact_eq : Cedar.factOf request state = some fact
  valid : validFactHash state.orderId fact = true
  unit_eq : (request.context.arguments.getD "weight_unit" (.str "")).pyStr = fact.unit
  weight_eq : (request.context.arguments.getD "weight_value" (.int 0)).pyEq (.int fact.value) = true
  vehicle_safe : mandate.cargoClass = "perishable" →
    PythonEngine.vehicleUnsafe request.context.resource (some fact.value) = false

/-- An engine that only lets cleared dispatches through. -/
def EnforcesDispatch [Sha256] (engine : PolicyEngine) : Prop :=
  ∀ request state, request.action = "create_dispatch_plan" →
    outcomeOf (engine.evaluate request state) = .allow →
      ∃ mandate fact, DispatchCleared request state mandate fact

section Engines

variable [Sha256]

omit [Sha256] in
theorem vehicle_safe_of {request : PolicyRequest} {mandate : ShipmentMandate} {fact : NumericFact}
    (h : ¬ VehicleUnsafe request mandate fact) (hcargo : mandate.cargoClass = "perishable") :
    PythonEngine.vehicleUnsafe request.context.resource (some fact.value) = false := by
  by_contra hunsafe
  exact h ⟨hcargo, by simpa using hunsafe⟩

omit [Sha256] in
/-- An argument that is read as a value is the one any default leaves in place. -/
theorem getD_of_get {args : Kwargs} {key : String} {default value : Value}
    (hvalue : args.get key = value) (hpresent : value ≠ .none) : args.getD key default = value := by
  unfold Kwargs.get at hvalue
  unfold Kwargs.getD
  cases hget : args.get? key with
  | none =>
      rw [hget] at hvalue
      exact absurd hvalue.symm hpresent
  | some found =>
      rw [hget] at hvalue
      exact hvalue

theorem reference_dispatched : EnforcesDispatch pythonReferencePolicyEngine := by
  intro request state haction hallow
  change outcomeOf (PythonEngine.evaluate request state) = .allow at hallow
  by_cases hadmitted : ∃ mandate, Admitted request state mandate
  · obtain ⟨mandate, h⟩ := hadmitted
    cases hnamed : namedFact request state with
    | none =>
        rw [PythonEngine.dispatch_unnamed_outcome haction hnamed] at hallow
        cases hallow
    | some fact =>
        rw [PythonEngine.dispatch_outcome h haction hnamed] at hallow
        split_ifs at hallow with hblocked hguided
        simp only [not_or] at hblocked hguided
        obtain ⟨-, hvalid, -⟩ := hblocked
        obtain ⟨hweight, hvehicle⟩ := hguided
        unfold WeightDiffers at hweight
        simp only [ne_eq, not_or, not_not, Bool.not_eq_false] at hweight
        have hnumber : request.context.arguments.get "weight_value" ≠ .none := by
          intro hnone
          rw [hnone] at hweight
          exact absurd hweight.2 (by simp [Value.pyEq])
        refine ⟨mandate, fact, h.mandate_eq, factOf_of_named hnamed, ?_, ?_, ?_,
          vehicle_safe_of hvehicle⟩
        · simpa [PythonEngine.FactInvalid] using hvalid
        · rw [getD_of_get hweight.1 (by simp)]
          rfl
        · rw [getD_of_get rfl hnumber]
          exact hweight.2
  · rw [PythonEngine.not_admitted_outcome (not_exists.mp hadmitted)] at hallow
    cases hallow

theorem bundle_dispatched (bundleHash : String) :
    EnforcesDispatch (cedarPolicyEngine bundleHash) := by
  intro request state haction hallow
  change outcomeOf (Cedar.evaluate bundleHash request state) = .allow at hallow
  have hregistered : (getDefinition request.action).isSome = true := by
    rw [haction]
    decide
  by_cases hadmitted : ∃ mandate, Admitted request state mandate
  · obtain ⟨mandate, h⟩ := hadmitted
    rw [bundle_outcome hregistered h] at hallow
    split_ifs at hallow with hblocked
    simp only [bundleSoft, haction, if_true] at hallow
    split_ifs at hallow with hguided
    simp only [SharedBlock, BundleBlock, haction, if_true, not_or] at hblocked
    obtain ⟨hshared, hsendable, hfact⟩ := hblocked
    obtain ⟨fact, hfact⟩ := Option.ne_none_iff_exists'.mp hfact
    obtain ⟨attempted, hsend⟩ := not_forall_not.mp hsendable
    have hvalid : ¬ (PythonEngine.FactInvalid state fact ∨ MetadataMissing request mandate) := by
      intro hinvalid
      refine hshared fun other hother => ?_
      obtain rfl : fact = other := Option.some.inj (hfact.symm.trans hother)
      exact hinvalid
    have hsafe : ¬ (PrintedWeightDiffers request fact attempted ∨
        VehicleUnsafe request mandate fact) :=
      fun hunsafe => hguided ⟨fact, attempted, hfact, hsend.weight_eq, hunsafe⟩
    rw [not_or] at hvalid hsafe
    unfold PrintedWeightDiffers at hsafe
    simp only [ne_eq, not_or, not_not] at hsafe
    obtain ⟨⟨hunit, hweight⟩, hvehicle⟩ := hsafe
    refine ⟨mandate, fact, h.mandate_eq, hfact, ?_, hunit, ?_, vehicle_safe_of hvehicle⟩
    · simpa [PythonEngine.FactInvalid] using hvalid.1
    · rw [hsend.weight_eq, hweight]
      exact (Value.pyEq_int_iff _ _).mpr rfl
  · rw [Cedar.not_admitted_outcome (schemaActions_of_registered hregistered)
      (not_exists.mp hadmitted)] at hallow
    cases hallow

end Engines

/-! ## What a safe dispatch is -/

/-- A dispatch of the weight the inventory has for the order, under a fact of the state whose
hash is valid; perishable cargo travels in a listed vehicle that may carry it. -/
structure SafeDispatch [Sha256] (loader : FixtureLoader) (s : TrajectoryState) (args : Kwargs)
    (order : Order) (fact : InventoryFact) : Prop where
  order_ok : loader.getOrder s.orderId = .ok order
  fact_ok : loader.getInventoryFact order = .ok fact
  named_eq : s.facts.get? (args.get "weight_fact_id").pyStr = some (Projector.factOf fact)
  valid : validFactHash s.orderId (Projector.factOf fact) = true
  unit_eq : args.get "weight_unit" = .str "kg"
  weight_eq : (args.get "weight_value").pyEq (.int fact.shipmentWeightKg) = true
  vehicle_ok : ∀ mandate, s.mandate = some mandate → mandate.cargoClass = "perishable" →
    ∃ vehicles vehicle, loader.listVehicles = .ok vehicles ∧ vehicle ∈ vehicles ∧
      args.get "vehicle_id" = .str vehicle.vehicleId ∧ vehicle.available = true ∧
      vehicle.refrigerated = true ∧ fact.shipmentWeightKg ≤ vehicle.capacityKg

/-- Every fact of the state is what the inventory says about the trace's order. -/
def Sourced [Sha256] (loader : FixtureLoader) (s : TrajectoryState) : Prop :=
  ∀ key entry, s.facts.get? key = some entry → ∃ order fact,
    loader.getOrder s.orderId = .ok order ∧ loader.getInventoryFact order = .ok fact ∧
      entry = Projector.factOf fact

/-- The fields that dispatches rest on. -/
structure SameSources (s s' : TrajectoryState) : Prop where
  orderId_eq : s'.orderId = s.orderId
  mode_eq : s'.mode = s.mode
  mandate_eq : s'.mandate = s.mandate
  facts_eq : s'.facts = s.facts

theorem SameSources.refl (s : TrajectoryState) : SameSources s s :=
  ⟨rfl, rfl, rfl, rfl⟩

theorem SameSources.trans {s s' s'' : TrajectoryState} (h : SameSources s s')
    (h' : SameSources s' s'') : SameSources s s'' :=
  ⟨h'.orderId_eq.trans h.orderId_eq, h'.mode_eq.trans h.mode_eq,
    h'.mandate_eq.trans h.mandate_eq, h'.facts_eq.trans h.facts_eq⟩

theorem SameSources.of_business {s s' : TrajectoryState} (h : s'.business = s.business) :
    SameSources s s' :=
  ⟨business_congr (·.orderId) (fun _ => rfl) h, mode_of_business h, mandate_of_business h,
    business_congr (·.facts) (fun _ => rfl) h⟩

theorem SameSources.sourced [Sha256] {loader : FixtureLoader} {s s' : TrajectoryState}
    (h : SameSources s s') (hsourced : Sourced loader s) : Sourced loader s' := by
  intro key entry hget
  rw [h.facts_eq] at hget
  rw [h.orderId_eq]
  exact hsourced key entry hget

theorem sameSources_setPreparedStatus (s : TrajectoryState) (preparedId : String)
    (status : CommitmentStatus) : SameSources s (s.setPreparedStatus preparedId status) := by
  unfold TrajectoryState.setPreparedStatus
  cases s.preparedActions.get? preparedId <;> exact ⟨rfl, rfl, rfl, rfl⟩

theorem sameSources_awaitApproval (s : TrajectoryState) (preparedId approvalId : String) :
    SameSources s (Governor.awaitApproval preparedId approvalId s) :=
  (sameSources_setPreparedStatus s preparedId .pendingApproval).trans ⟨rfl, rfl, rfl, rfl⟩

/-- Effects on commitments leave the sources alone. -/
theorem Governor.Applied.sameSources {toolName : String} {args : Kwargs} {s s' : TrajectoryState}
    {r : Except PyError Unit} (h : Governor.Applied toolName args s r s') : SameSources s s' := by
  cases h with
  | unchanged r => exact .refl s
  | unnumbered x tool_eq applicable => exact sameSources_setPreparedStatus ..
  | confirmed confirmationId tool_eq applicable =>
      exact (sameSources_setPreparedStatus s _ .confirmed).trans ⟨rfl, rfl, rfl, rfl⟩
  | cancelled tool_eq applicable live =>
      exact (sameSources_setPreparedStatus s _ .cancelled).trans ⟨rfl, rfl, rfl, rfl⟩

section Calls

variable [Sha256] (g : Governor)

/-- A governed call leaves the sources alone. -/
theorem executeTool_sameSources (agent : AgentName) (toolName : String) (args : Kwargs)
    (s : TrajectoryState) :
    Proc.Ensures Governor.anyOp (g.executeTool agent toolName args) s
      fun _ s' => SameSources s s' := by
  refine (g.executeTool_ensures agent toolName args s).mono fun r s' hstep => ?_
  cases hstep with
  | refused h => exact .of_business h.business_eq
  | escalated governed h =>
      exact (sameSources_awaitApproval s _ _).trans (.of_business h.business_eq)
  | effected governed registered h =>
      exact (Governor.applyEffect_applied _ _ _ s).sameSources.trans (.of_business h.business_eq)

/-! ## The handlers a call reaches -/

/-- The only handler invoked is the call's own, with its arguments. -/
def ownCall (toolName : String) (args : Kwargs) : (β : Type) → Op β → Prop
  | _, .callTool name arguments => name = toolName ∧ arguments = args
  | _, _ => True

omit [Sha256] in
theorem undecidedOp.ownCall {toolName : String} {args : Kwargs} (β : Type) (o : Op β)
    (h : undecidedOp β o) : ownCall toolName args β o := by
  cases o <;> trivial

theorem executeWithDurableReceipt_ownCall (toolName : String) (effectClass : EffectClass)
    (args : Kwargs) (s : TrajectoryState) :
    Proc.Ensures (ownCall toolName args)
      (Governor.executeWithDurableReceipt toolName effectClass args) s fun _ _ => True := by
  unfold Governor.executeWithDurableReceipt
  split
  · simp [ownCall]
  · simp only [Governor.executeOnce, Proc.ensures_bind, Proc.ensures_ofExcept]
    cases opaqueKeyHash _ with
    | error x => trivial
    | ok keyHash =>
        simp only [Proc.ensures_read, Proc.ensures_perform]
        refine ⟨trivial, fun receipt => ?_⟩
        cases receipt with
        | some existing =>
            dsimp only
            split <;> trivial
        | none =>
            simp only [Proc.ensures_bind, Proc.ensures_request]
            refine ⟨⟨rfl, rfl⟩, fun r => ?_⟩
            cases r with
            | error x => trivial
            | ok value =>
                cases value <;> simp [ownCall]
                intro r
                cases r <;> trivial
  · simp [ownCall]

/-- A governed call reaches no handler but its own. -/
theorem executeTool_ownCall (agent : AgentName) (toolName : String) (args : Kwargs)
    (s : TrajectoryState) :
    Proc.Ensures (ownCall toolName args) (g.executeTool agent toolName args) s
      fun _ _ => True := by
  have hquiet {α : Type} {m : Py α} {s : TrajectoryState}
      {Q : Except PyError α → TrajectoryState → Prop} (hm : Proc.Ensures undecidedOp m s Q) :
      Proc.Ensures (ownCall toolName args) m s Q :=
    hm.weaken undecidedOp.ownCall
  have hbook {α : Type} {m : Py α} {s : TrajectoryState}
      {Q : Except PyError α → TrajectoryState → Prop} (hm : Proc.Ensures bookkeepingOp m s Q) :
      Proc.Ensures (ownCall toolName args) m s Q :=
    hquiet (hm.weaken fun _ _ ho => ho.undecided)
  simp only [Governor.executeTool, Proc.ensures_bind]
  refine (hbook (g.propose_ensures agent toolName args s)).mono fun r s₁ hproposed => ?_
  cases r with
  | error x => trivial
  | ok proposed =>
      obtain ⟨definition, proposal⟩ := proposed
      have hname : proposal.toolName = toolName := (hproposed.2 _ _ rfl).toolName_eq
      refine (hbook ((g.judge_ensures definition proposal args s₁).weaken
        readingOp.bookkeeping)).mono fun r s₂ hjudged => ?_
      cases r with
      | error x => trivial
      | ok judged =>
          obtain ⟨request, decision⟩ := judged
          refine (hbook (Governor.record_ensures decision s₂)).mono fun r s₃ hrecorded => ?_
          cases r with
          | error x => trivial
          | ok u =>
              dsimp only
              unfold Governor.apply
              split
              · exact (hbook (Governor.guide_ensures proposal decision s₃)).mono
                  fun _ _ _ => trivial
              · exact (hbook (Governor.block_ensures proposal decision s₃)).mono
                  fun _ _ _ => trivial
              · exact (hquiet (Governor.escalate_ensures proposal args decision s₃)).mono
                  fun _ _ _ => trivial
              · trivial
              · simp only [Governor.effect, Proc.ensures_bind, Proc.ensures_tryCatch]
                rw [hname]
                refine (executeWithDurableReceipt_ownCall toolName _ args s₃).mono fun r s₄ _ => ?_
                cases r with
                | error x =>
                    refine (hbook (Governor.reportFailure_ensures proposal x s₄)).mono
                      fun r s₅ hreport => ?_
                    cases r with
                    | error y => trivial
                    | ok value => exact absurd rfl (hreport.2 value)
                | ok value =>
                    simp only [ensures_appendEvent, Proc.ensures_lift, Proc.ensures_mutate]
                    refine ⟨trivial, fun r l => ?_⟩
                    cases r with
                    | error x => trivial
                    | ok event =>
                        dsimp only
                        cases (Governor.applyEffect _ args value (s₄.withLedger l)).1 <;> trivial

omit [Sha256] in
/-- A vehicle that is not unsafe was found in the list, under the identifier asked for. -/
theorem vehicle_listed {s : TrajectoryState} {args : Kwargs} {resource : Resource} {weight : Int}
    (hresource : g.resourceContext s "create_dispatch_plan" args = .ok resource)
    (hsafe : PythonEngine.vehicleUnsafe resource (some weight) = false) :
    ∃ vehicles vehicle, g.loader.listVehicles = .ok vehicles ∧ vehicle ∈ vehicles ∧
      args.get "vehicle_id" = .str vehicle.vehicleId ∧ vehicle.available = true ∧
      vehicle.refrigerated = true ∧ weight ≤ vehicle.capacityKg := by
  unfold Governor.resourceContext at hresource
  rw [if_pos rfl] at hresource
  cases hvehicles : g.loader.listVehicles with
  | error x =>
      rw [hvehicles] at hresource
      cases hresource
  | ok vehicles =>
      rw [hvehicles] at hresource
      dsimp only [bind, Except.bind] at hresource
      split at hresource
      · rename_i vehicle hfound
        cases hresource
        have hnamed := List.find?_some hfound
        have hunsafe : ¬ PythonEngine.vehicleUnsafe (.vehicle vehicle) (some weight) = true := by
          rw [hsafe]
          exact Bool.false_ne_true
        rw [vehicleUnsafe_iff, not_or, not_or] at hunsafe
        obtain ⟨⟨havailable, hrefrigerated⟩, hcapacity⟩ := hunsafe
        refine ⟨vehicles, vehicle, rfl, List.mem_of_find?_eq_some hfound,
          (Value.pyEq_str_iff _ _).mp hnamed, ?_, ?_, not_lt.mp hcapacity⟩
        · exact (Bool.not_eq_false _).mp havailable
        · exact (Bool.not_eq_false _).mp hrefrigerated
      · cases hresource
        cases hsafe

/-- What is invoked after an allowing decision is a safe dispatch. -/
theorem safeDispatch_of_opened (hengine : EnforcesDispatch g.engine) {agent : AgentName}
    {args : Kwargs} {s : TrajectoryState} {before : List GateEvent}
    (hsourced : Sourced g.loader s) (hweight : args.has "weight_value" = true)
    (h : g.Opened agent "create_dispatch_plan" args s before) :
    ∃ order fact, SafeDispatch g.loader s args order fact := by
  obtain ⟨s₁, request, signals, decision, hgoverned, hcleared, -⟩ := h.opened
  have hallow : outcomeOf (g.engine.evaluate request s₁) = .allow := by
    rw [hcleared.returned]
    exact (strongest_eq_allow_iff signals).mpr hcleared.allowed
  obtain ⟨mandate, fact, hdispatch⟩ := hengine request s₁ hgoverned.action_eq hallow
  have hsame : SameSources s s₁ := .of_business hgoverned.business_eq
  have hfact := hdispatch.fact_eq
  have hvalid := hdispatch.valid
  have hunit := hdispatch.unit_eq
  have hvalue := hdispatch.weight_eq
  rw [hgoverned.arguments_eq] at hunit hvalue
  have hnamed : s.facts.get? (args.get "weight_fact_id").pyStr = some fact := by
    unfold Cedar.factOf Cedar.lookupText at hfact
    rw [hgoverned.arguments_eq, hsame.facts_eq] at hfact
    split at hfact
    · cases hfact
    · exact hfact
  obtain ⟨order, inventory, horder, hinventory, rfl⟩ := hsourced _ _ hnamed
  refine ⟨order, inventory, horder, hinventory, hnamed, ?_, ?_, ?_, ?_⟩
  · rw [← hsame.orderId_eq]
    exact hvalid
  · change (args.getD "weight_unit" (.str "")).pyStr = "kg" at hunit
    unfold Kwargs.getD at hunit
    unfold Kwargs.get
    cases hget : args.get? "weight_unit" with
    | none =>
        rw [hget] at hunit
        exact absurd hunit (by decide)
    | some unit =>
        rw [hget] at hunit
        exact (Value.pyStr_eq_iff (c := 'k') (by decide) (by decide) (by decide) (by decide)
          (by decide) unit).mp hunit
  · obtain ⟨value, hget⟩ := Option.isSome_iff_exists.mp hweight
    unfold Kwargs.getD at hvalue
    rw [hget] at hvalue
    unfold Kwargs.get
    rw [hget]
    exact hvalue
  · intro other hmandate hcargo
    have heq := hdispatch.mandate_eq
    rw [hsame.mandate_eq, hmandate] at heq
    obtain rfl := Option.some.inj heq
    exact vehicle_listed g hgoverned.resource_ok (hdispatch.vehicle_safe hcargo)

/-- Every dispatch among what is observed is safe. -/
def Dispatches (loader : FixtureLoader) (s : TrajectoryState) : GateEvent → Prop
  | .handlerInvoked toolName args =>
      toolName = "create_dispatch_plan" → ∃ order fact, SafeDispatch loader s args order fact
  | _ => True

theorem dispatches_of_undecided {E : Type} {loader : FixtureLoader} {s : TrajectoryState} (β : Type)
    (o : Op β) (reply : β × E) (ho : undecidedOp β o) :
    ∀ event ∈ gateObserver β o reply, Dispatches loader s event := by
  intro event hmem
  have hguarded := not_guarded_of_undecided β o reply ho event hmem
  cases event with
  | handlerInvoked toolName args => exact absurd trivial hguarded
  | _ => trivial

/-- A governed call of an enforced run invokes only safe dispatches. -/
theorem executeTool_dispatches (hengine : EnforcesDispatch g.engine) {E : Type} (h : Handler Op E)
    (agent : AgentName) {toolName : String} {args : Kwargs} {s : TrajectoryState}
    (hmode : s.mode = .enforce) (hsourced : Sourced g.loader s)
    (hweight : toolName = "create_dispatch_plan" → args.has "weight_value" = true) (e : E) :
    ∀ event ∈ (g.executeTool agent toolName args).log h gateObserver s e,
      Dispatches g.loader s event := by
  have hown : ∀ event ∈ (g.executeTool agent toolName args).log h gateObserver s e,
      ∀ name arguments, event = .handlerInvoked name arguments →
        name = toolName ∧ arguments = args := by
    refine (executeTool_ownCall g agent toolName args s).forall_log h (fun β o reply ho => ?_) e
    rintro event hmem name arguments rfl
    cases o with
    | callTool other values =>
        obtain ⟨rfl, rfl⟩ := ho
        cases List.mem_singleton.mp hmem
        exact ⟨rfl, rfl⟩
    | getEffectReceipt traceId keyHash =>
        obtain ⟨receipt, -, heq⟩ := Option.mem_map.mp (Option.mem_toList.mp hmem)
        cases heq
    | appendDecision state decision => cases mem_whenOk hmem
    | appendEvent state spec => cases mem_whenOk hmem
    | _ => cases hmem
  intro event hmem
  cases event with
  | handlerInvoked name arguments =>
      obtain ⟨rfl, rfl⟩ := hown _ hmem name arguments rfl
      rintro rfl
      obtain ⟨before, after, hsplit⟩ := List.append_of_mem hmem
      have hopened := g.executeTool_opened h agent _ arguments hmode e hsplit trivial
      exact safeDispatch_of_opened g hengine hsourced (hweight rfl) hopened
  | _ => trivial

/-! ## What a read returns -/

/-- An effect that returns hands on what its tool returned. -/
theorem effect_returns {E : Type} {h : Handler Op E} {effectClass : EffectClass}
    {proposal : ToolProposal} {request : PolicyRequest} {args : Kwargs} {decision : Decision}
    {s : TrajectoryState} {e : E} {result : GovernedToolResult}
    (hresult : ((Governor.effect effectClass proposal request args decision).exec h s e).result =
      .ok result) :
    ∃ value, result.value = some value ∧
      ((Governor.executeWithDurableReceipt proposal.toolName effectClass args).exec h s e).result =
        .ok value := by
  unfold Governor.effect at hresult
  rw [Proc.exec_bind, Proc.exec_tryCatch] at hresult
  rcases hx : (Governor.executeWithDurableReceipt proposal.toolName effectClass args).exec h s e
    with ⟨r, s₁, e₁⟩
  rw [hx] at hresult
  cases r with
  | error x =>
      have hreport := (Governor.reportFailure_ensures (α := ToolValue) proposal x s₁).exec h e₁
      rcases hy : (Governor.reportFailure proposal x : Py ToolValue).exec h s₁ e₁ with ⟨r, s₂, e₂⟩
      rw [hy] at hreport
      dsimp only at hresult
      rw [hy] at hresult
      cases r with
      | ok value => exact absurd rfl (hreport.2 value)
      | error y => cases hresult
  | ok value =>
      refine ⟨value, ?_, rfl⟩
      dsimp only at hresult
      rw [Proc.exec_bind] at hresult
      rcases hy : (Py.appendEvent (succeededSpec proposal value)).exec h s₁ e₁ with ⟨r, s₂, e₂⟩
      rw [hy] at hresult
      cases r with
      | error y => cases hresult
      | ok event =>
          dsimp only at hresult
          rw [Proc.exec_bind, Proc.exec_lift] at hresult
          cases happly : (Governor.applyEffect proposal.toolName args value s₂).1 with
          | error y =>
              rw [happly] at hresult
              cases hresult
          | ok u =>
              rw [happly] at hresult
              dsimp only at hresult
              rw [Proc.exec_bind, Proc.exec_mutate] at hresult
              cases hresult
              rfl

/-- A governed read returns what its handler returned. -/
theorem executeTool_reads {loader : FixtureLoader} {host : Host} {agent : AgentName}
    {toolName : String} {args : Kwargs} {s : TrajectoryState} {w : World}
    (hread : ∀ definition, getDefinition toolName = some definition →
      definition.effectClass = .read)
    {result : GovernedToolResult} {value : ToolValue}
    (hresult : ((g.executeTool agent toolName args).exec (World.handle loader host) s w).result =
      .ok result) (hvalue : result.value = some value) :
    ∃ mocks, (MockLogisticsTools.execute loader toolName args mocks).1 = .ok value := by
  rcases g.executeTool_stages (World.handle loader host) agent toolName args s w with
    ⟨x, herror, -⟩ | ⟨definition, proposal, request, decision, s₁, s₃, w₁, w₂, w₃, hs, hexec⟩
  · rw [herror] at hresult
    cases hresult
  rw [hexec] at hresult
  have hname : proposal.toolName = toolName := hs.proposed.toolName_eq
  have hcarried := (Governor.apply_carried definition proposal request args decision s₃).exec
    (World.handle loader host) w₃
  have hallow : decision.appliedOutcome = .allow := by
    rcases hcarried with hrefused | ⟨-, hescalated⟩ | ⟨hallow, -⟩
    · rw [(hrefused.result_eq result hresult).1] at hvalue
      cases hvalue
    · rw [(hescalated.result_eq result hresult).1] at hvalue
      cases hvalue
    · exact hallow
  unfold Governor.apply at hresult
  rw [hallow] at hresult
  cases hdefinition : definition with
  | none =>
      rw [hdefinition] at hresult
      cases hresult
      cases hvalue
  | some tool =>
      rw [hdefinition] at hresult
      dsimp only at hresult
      have hclass := hread tool (by rw [← hs.proposed.definition_eq, hdefinition])
      rw [hclass] at hresult
      obtain ⟨returned, hsome, hreturned⟩ := effect_returns hresult
      obtain rfl : value = returned := Option.some.inj (hvalue.symm.trans hsome)
      rw [hname] at hreturned
      exact ⟨w₃.mocks, hreturned⟩

/-- The inventory of the order asked for. -/
theorem checkInventory_ok {loader : FixtureLoader} {args : Kwargs} {value : ToolValue}
    {mocks : MockLogisticsTools}
    (hvalue : (MockLogisticsTools.execute loader "check_inventory" args mocks).1 = .ok value) :
    ∃ order fact, value = .fact fact ∧
      loader.getOrder (args.get "order_id").pyStr = .ok order ∧
      loader.getInventoryFact order = .ok fact := by
  change MockLogisticsTools.checkInventory loader args = .ok value at hvalue
  unfold MockLogisticsTools.checkInventory at hvalue
  cases hbound : MockLogisticsTools.bindKwargs ["order_id", "sku_id", "quantity"] [] args with
  | error x =>
      rw [hbound] at hvalue
      cases hvalue
  | ok u =>
      rw [hbound] at hvalue
      dsimp only [bind, Except.bind] at hvalue
      cases horder : loader.getOrder (args.get "order_id").pyStr with
      | error x =>
          rw [horder] at hvalue
          cases hvalue
      | ok order =>
          rw [horder] at hvalue
          dsimp only at hvalue
          split at hvalue
          · cases hvalue
          · cases hfact : loader.getInventoryFact order with
            | error x =>
                rw [hfact] at hvalue
                cases hvalue
            | ok fact =>
                rw [hfact] at hvalue
                exact ⟨order, fact, (Except.ok.inj hvalue).symm, rfl, hfact⟩

/-! ## Projections -/

/-- Only the projection of an inventory adds a fact. -/
theorem project_sources (loader : FixtureLoader) (agent : AgentName) (toolName : String)
    (args : Kwargs) (value : ToolValue) (s : TrajectoryState) :
    Proc.Ensures readingOp (Projector.project loader agent toolName args value) s fun _ s' =>
      SameSources s s' ∨
        toolName = "check_inventory" ∧ ∃ fact, value = .fact fact ∧
          s' = Projector.setFact s fact := by
  unfold Projector.project
  split
  · simp only [Proc.ensures_lift, Projector.projectOrder]
    split
    · exact .inl ⟨rfl, rfl, rfl, rfl⟩
    · exact .inl (.refl s)
  · simp only [Proc.ensures_lift, Projector.projectInventory]
    split
    · exact .inr ⟨trivial, _, rfl, rfl⟩
    · exact .inl (.refl s)
  · exact .inl (Projector.assignTwice_rel (.refl s) (fun a => ⟨rfl, rfl, rfl, rfl⟩)
      fun a b => ⟨rfl, rfl, rfl, rfl⟩)
  · exact .inl (Projector.assignTwice_rel (.refl s) (fun a => ⟨rfl, rfl, rfl, rfl⟩)
      fun a b => ⟨rfl, rfl, rfl, rfl⟩)
  · simp only [Projector.projectPreparation, Proc.ensures_bind, Proc.ensures_ofExcept]
    cases Projector.preparedIdOf value with
    | error x => exact .inl (.refl s)
    | ok preparedId =>
        simp only [Proc.ensures_read]
        split
        · exact .inl (.refl s)
        · simp only [Proc.ensures_bind, Proc.ensures_ofExcept]
          cases Projector.preparation args with
          | error x => exact .inl (.refl s)
          | ok prepared =>
              dsimp only
              cases s.mandate with
              | none => exact .inl (.refl s)
              | some mandate =>
                  simp only [Proc.ensures_bind]
                  exact ⟨trivial, fun now => .inl ⟨rfl, rfl, rfl, rfl⟩⟩
  · simp only [Proc.ensures_lift, Projector.projectNotification]
    split
    · exact .inl ⟨rfl, rfl, rfl, rfl⟩
    · exact .inl (.refl s)
  · exact .inl (.refl s)

/-- A fact of the inventory is sourced. -/
theorem sourced_setFact {loader : FixtureLoader} {s : TrajectoryState} {order : Order}
    {fact : InventoryFact} (hsourced : Sourced loader s)
    (horder : loader.getOrder s.orderId = .ok order)
    (hfact : loader.getInventoryFact order = .ok fact) :
    Sourced loader (Projector.setFact s fact) := by
  intro key entry hget
  change (s.facts.set fact.factId (Projector.factOf fact)).get? key = some entry at hget
  rw [Dict.get?_set] at hget
  split at hget
  · exact ⟨order, fact, horder, hfact, (Option.some.inj hget).symm⟩
  · exact hsourced key entry hget

end Calls

end Manifest
