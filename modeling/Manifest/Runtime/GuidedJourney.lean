import Manifest.Runtime.GuideBack
import Manifest.Runtime.Roles

/-!
# Guided dispatches of a journey

The dispatch role of a journey starts from what the inventory role has sourced, and no other
role proposes a dispatch.  What the role's decisions say about each other is therefore what the
journey's trail says.

Main results:

- Theorem `inventory_run_provisions`: what the inventory role leaves for the dispatch role.
- Theorem `unplanned_logic`: no call of another tool records a decision on a dispatch.
- Theorem `guide_back_converges_iff`: after a guided first dispatch, when the second is allowed.
-/

set_option autoImplicit false

namespace Manifest

open Interaction

/-- The inventory's fact for an order.  The order is looked up again by the identifier that its
file holds. -/
def SourcedFact [Sha256] (loader : FixtureLoader) (orderId : String) (fact : InventoryFact) : Prop :=
  ∃ order sourced, loader.getOrder orderId = .ok order ∧
    loader.getOrder order.orderId = .ok sourced ∧ loader.getInventoryFact sourced = .ok fact

theorem SourcedFact.unique [Sha256] {loader : FixtureLoader} {orderId : String}
    {fact other : InventoryFact} (h : SourcedFact loader orderId fact)
    (hother : SourcedFact loader orderId other) : fact = other := by
  obtain ⟨order, sourced, horder, hsourced, hfact⟩ := h
  obtain ⟨order', sourced', horder', hsourced', hfact'⟩ := hother
  obtain rfl := Except.ok.inj (horder.symm.trans horder')
  obtain rfl := Except.ok.inj (hsourced.symm.trans hsourced')
  exact Except.ok.inj (hfact.symm.trans hfact')

/-- An enforced state of an order, with its mandate and its scenario. -/
structure Enforced (orderId : String) (mandate : ShipmentMandate) (config : ScenarioConfig)
    (s : TrajectoryState) : Prop where
  orderId_eq : s.orderId = orderId
  mode_eq : s.mode = .enforce
  mandate_eq : s.mandate = some mandate
  config_eq : s.scenarioConfig = some config

/-- A state in which the inventory has been read. -/
structure Provisioned (mandate : ShipmentMandate) (fact : InventoryFact) (config : ScenarioConfig)
    (s : TrajectoryState) : Prop extends Stocked mandate fact s where
  fact_eq : s.inventoryFact = some fact
  config_eq : s.scenarioConfig = some config

theorem Enforced.congr {orderId : String} {mandate : ShipmentMandate} {config : ScenarioConfig}
    {s s' : TrajectoryState} (h : s'.planning = s.planning)
    (hs : Enforced orderId mandate config s) : Enforced orderId mandate config s' := by
  simp only [TrajectoryState.planning, Prod.mk.injEq] at h
  obtain ⟨horder, hmode, hmandate, -, -, -, -, hconfig⟩ := h
  exact ⟨horder.trans hs.orderId_eq, hmode.trans hs.mode_eq, hmandate.trans hs.mandate_eq,
    hconfig.trans hs.config_eq⟩

theorem Provisioned.congr {mandate : ShipmentMandate} {fact : InventoryFact}
    {config : ScenarioConfig} {s s' : TrajectoryState} (h : s'.planning = s.planning)
    (hs : Provisioned mandate fact config s) : Provisioned mandate fact config s' := by
  have hstocked := hs.toStocked.congr h
  simp only [TrajectoryState.planning, Prod.mk.injEq] at h
  obtain ⟨-, -, -, -, -, -, hfact, hconfig⟩ := h
  exact { hstocked with
    fact_eq := hfact.trans hs.fact_eq
    config_eq := hconfig.trans hs.config_eq }

section Roles

variable [Sha256] {g : Governor} {host : Host} {s : TrajectoryState} {w : World}
  {orderId : String} {mandate : ShipmentMandate} {fact : InventoryFact} {config : ScenarioConfig}

/-! ## The inventory role -/

/-- A call of another tool records no decision on a dispatch, and leaves what a plan rests on. -/
theorem call_unplanned {E : Type} {h : Handler Op E} {e : E} {agent : AgentName}
    {toolName : String} {args : Kwargs} (hother : toolName ≠ "create_dispatch_plan") :
    Proc.Yields h trailObserver s e (g.executeTool agent toolName args) fun l x =>
      plannedIn l = [] ∧ x.state.planning = s.planning ∧
        x = (g.executeTool agent toolName args).exec h s e :=
  ⟨Call.plannedIn_other (c := ⟨agent, toolName, args, s, e⟩) hother,
    (executeTool_planning g agent toolName args s).exec h e, rfl⟩

theorem getOrder_read {args : Kwargs} {agent : AgentName} {result : GovernedToolResult}
    {order : Order} (hargs : args.get "order_id" = .str orderId)
    (hresult : ((g.executeTool agent "get_order" args).exec (World.handle g.loader host) s w).result =
      .ok result) (hvalue : result.value = some (.order order)) :
    g.loader.getOrder orderId = .ok order := by
  obtain ⟨mocks, hexecuted⟩ := executeTool_reads g (by decide) hresult hvalue
  change MockLogisticsTools.getOrder g.loader args = .ok (.order order) at hexecuted
  unfold MockLogisticsTools.getOrder at hexecuted
  obtain ⟨u, -, hread⟩ := Fallible.bind_eq_ok_iff.mp hexecuted
  obtain ⟨found, hfound, hsame⟩ := Fallible.bind_eq_ok_iff.mp hread
  cases hsame
  rw [hargs] at hfound
  exact hfound

theorem checkInventory_read {args : Kwargs} {agent : AgentName} {result : GovernedToolResult}
    {fact : InventoryFact} {orderId : String} (hargs : args.get "order_id" = .str orderId)
    (hresult : ((g.executeTool agent "check_inventory" args).exec (World.handle g.loader host) s
      w).result = .ok result) (hvalue : result.value = some (.fact fact)) :
    ∃ sourced, g.loader.getOrder orderId = .ok sourced ∧
      g.loader.getInventoryFact sourced = .ok fact := by
  obtain ⟨mocks, hexecuted⟩ := executeTool_reads g (by decide) hresult hvalue
  obtain ⟨sourced, found, hsame, hsourced, hfact⟩ := checkInventory_ok hexecuted
  cases hsame
  rw [hargs] at hsourced
  exact ⟨sourced, hsourced, hfact⟩

/-- The inventory role plans nothing, and leaves the sourced fact for the dispatch role. -/
theorem inventory_run_provisions (hfact : SourcedFact g.loader orderId fact)
    (hs : Enforced orderId mandate config s) :
    Proc.Yields (World.handle g.loader host) trailObserver s w (InventoryAgent.run g) fun l x =>
      plannedIn l = [] ∧ ∀ summary, x.result = .ok summary → Provisioned mandate fact config x.state := by
  unfold InventoryAgent.run
  rw [Proc.yields_bind, Proc.yields_read]
  simp only [List.nil_append]
  refine (call_unplanned (by decide)).bind ?_ ?_
  · rintro l result s₁ w₁ ⟨hquiet, hkept, hexec⟩
    have hresult : ((g.executeTool .inventory "get_order" [("order_id", .str s.orderId)]).exec
        (World.handle g.loader host) s w).result = .ok result := by rw [← hexec]
    split
    · rename_i order hvalue
      have horder : g.loader.getOrder orderId = .ok order :=
        hs.orderId_eq ▸ getOrder_read rfl hresult hvalue
      have hordered : Enforced orderId mandate config (Projector.setOrder s₁ order) := by
        have henforced := hs.congr hkept
        exact ⟨henforced.orderId_eq, henforced.mode_eq, henforced.mandate_eq, henforced.config_eq⟩
      refine Proc.yields_bind.mpr (Proc.yields_lift.mpr ?_)
      change Proc.Yields _ _ (Projector.setOrder s₁ order) w₁ _ _
      refine (call_unplanned (by decide)).bind ?_ ?_
      · rintro l' result' s₂ w₂ ⟨hquiet', hkept', hexec'⟩
        have hresult' : ((g.executeTool .inventory "check_inventory"
            [("order_id", .str order.orderId), ("sku_id", .str order.skuId),
              ("quantity", .int order.quantity)]).exec (World.handle g.loader host)
            (Projector.setOrder s₁ order) w₁).result = .ok result' := by rw [← hexec']
        have hchecked := hordered.congr hkept'
        split
        · rename_i found hvalue'
          obtain ⟨sourced, hsourced, hfound⟩ := checkInventory_read rfl hresult' hvalue'
          obtain rfl := hfact.unique ⟨order, sourced, horder, hsourced, hfound⟩
          refine Proc.yields_bind.mpr (Proc.yields_lift.mpr ?_)
          refine ⟨by simp [hquiet, hquiet'], fun summary _ => ?_⟩
          exact {
            mode_eq := hchecked.mode_eq
            mandate_eq := hchecked.mandate_eq
            stock_eq := Dict.get?_set_self ..
            fact_eq := rfl
            config_eq := hchecked.config_eq }
        · simp [hquiet, hquiet']
      · rintro l' x s₂ w₂ ⟨hquiet', -⟩
        simp [hquiet, hquiet']
    · simp [hquiet]
  · rintro l x s₁ w₁ ⟨hquiet, -⟩
    exact ⟨hquiet, by simp⟩

/-! ## The other roles -/

/-- An entry that records no decision on a dispatch. -/
def Unplanned (entry : TrailEntry) : Prop :=
  ∀ decision, entry.recorded = some decision → decision.toolName ≠ "create_dispatch_plan"

omit [Sha256] in
theorem plannedIn_eq_nil {l : List TrailEntry} (h : ∀ entry ∈ l, Unplanned entry) :
    plannedIn l = [] := by
  refine List.filter_eq_nil_iff.mpr fun decision hmem hplan => ?_
  obtain ⟨entry, hentry, hrecorded⟩ := List.mem_filterMap.mp hmem
  exact h entry hentry decision hrecorded (of_decide_eq_true hplan)

omit [Sha256] in
theorem unplanned_of_carrying {E : Type} (β : Type) (o : Op β) (reply : β × E)
    (ho : Governor.carryingOp β o) : ∀ entry ∈ trailObserver β o reply, Unplanned entry := by
  intro entry hmem decision hrecorded
  rw [Governor.carryingOp.unrecorded β o reply ho entry hmem] at hrecorded
  cases hrecorded

/-- No call of another tool records a decision on a dispatch. -/
theorem unplanned_logic {E : Type} (h : Handler Op E) :
    RoleLogic h trailObserver Unplanned g (· ≠ "create_dispatch_plan") (fun _ _ => True)
      fun _ _ => True where
  call := by
    intro s e toolName args agent _ hother _
    refine ⟨fun entry hmem decision hrecorded => ?_, ?_⟩
    · let c : Call E := ⟨agent, toolName, args, s, e⟩
      have hd : decision ∈ c.recorded g h := List.mem_filterMap.mpr ⟨entry, hmem, hrecorded⟩
      rw [Call.toolName_of_recorded hd]
      exact hother
    · unfold Called
      split
      · trivial
      · exact .inl trivial
  project := by
    intro s e toolName agent args value _ _
    refine ⟨?_, trivial⟩
    refine (project_sources g.loader agent toolName args value s).forall_log h (fun β o reply ho => ?_) e
    rw [trailObserver_silent β o reply (readingOp.silent β o ho)]
    simp
  invoke := fun role phase _ => ⟨by simp [trailObserver], trivial⟩
  completed := fun settings context result _ =>
    ⟨(Governor.appendEvent_carrying _).forall_log h unplanned_of_carrying _ _, .inl trivial⟩

/-! ## The journey -/

section Journey

variable {E : Type} {h : Handler Op E} {s : TrajectoryState} {e : E}

omit [Sha256] in
/-- An event is no decision, and leaves what a plan rests on. -/
theorem appendEvent_unplanned (spec : EventSpec) :
    Proc.Yields h trailObserver s e (Py.appendEvent spec) fun l x =>
      plannedIn l = [] ∧ x.state.planning = s.planning :=
  ⟨plannedIn_eq_nil fun entry hmem =>
      (Governor.appendEvent_carrying spec).forall_log h unplanned_of_carrying s e entry hmem, rfl⟩

omit [Sha256] in
theorem planning_markAgentStage (s : TrajectoryState) (name : AgentName) :
    (s.markAgentStage name).planning = s.planning := by
  unfold TrajectoryState.markAgentStage
  cases name
  case carrier => dsimp only; split <;> rfl
  all_goals rfl

omit [Sha256] in
/-- What holds of the decisions and of the state a role leaves holds of the role's turn. -/
theorem runAgent_yields {agent : Agent} {D : List Decision → Prop} {R : TrajectoryState → Prop}
    (hnone : D []) (hR : ∀ s s' : TrajectoryState, s'.planning = s.planning → R s → R s')
    (hrun : ∀ s' e', s'.planning = s.planning → Proc.Yields h trailObserver s' e' agent.run
      fun l x => D (plannedIn l) ∧ ∀ summary, x.result = .ok summary → R x.state) :
    Proc.Yields h trailObserver s e (ShipmentOrchestrator.runAgent agent) fun l x =>
      D (plannedIn l) ∧ (x.result = .ok () → R x.state) := by
  unfold ShipmentOrchestrator.runAgent
  refine Proc.yields_bind.mpr (Proc.yields_mutate.mpr ?_)
  refine (appendEvent_unplanned _).bind ?_ ?_
  · rintro l event s₁ e₁ ⟨hquiet, hkept⟩
    refine (hrun s₁ e₁ (hkept.trans rfl)).bind ?_ ?_
    · rintro l₂ summary s₂ e₂ ⟨hdecisions, hleft⟩
      have hready : R s₂ := hleft summary rfl
      -- Whichever event ends the turn, it is the last entry.
      have hend (s₃ : TrajectoryState) (spec : EventSpec) (hsame : s₃.planning = s₂.planning) :
          Proc.Yields h trailObserver s₃ e₂ (do let _ ← Py.appendEvent spec; pure () : Py Unit)
            fun l₃ x => D (plannedIn ([] ++ (l ++ (l₂ ++ ([] ++ ([] ++ l₃)))))) ∧
              (x.result = .ok () → R x.state) := by
        refine (appendEvent_unplanned spec).bind ?_ ?_
        · rintro l₃ event s₄ e₄ ⟨hquiet', hkept'⟩
          refine ⟨by simpa [hquiet, hquiet'] using hdecisions, fun _ => ?_⟩
          exact hR s₂ s₄ (hkept'.trans hsame) hready
        · rintro l₃ x s₄ e₄ ⟨hquiet', -⟩
          exact ⟨by simpa [hquiet, hquiet'] using hdecisions, by simp⟩
      refine Proc.yields_bind.mpr (Proc.yields_read.mpr ?_)
      dsimp only
      split
      · exact Proc.yields_bind.mpr (Proc.yields_mutate.mpr (hend _ _ rfl))
      · refine Proc.yields_bind.mpr (Proc.yields_mutate.mpr (hend _ _ ?_))
        exact planning_markAgentStage s₂ agent.name
    · rintro l₂ x s₂ e₂ ⟨hdecisions, -⟩
      exact ⟨by simpa [hquiet] using hdecisions, by simp⟩
  · rintro l x s₁ e₁ ⟨hquiet, -⟩
    exact ⟨by simpa [hquiet] using hnone, by simp⟩

omit [Sha256] in
/-- A journey ends where a role has asked for an approval, and otherwise goes on with the next. -/
theorem runAgents_yields {agent : Agent} {rest : List Agent} {Q : List Decision → Prop}
    {P : List TrailEntry → Exit PyError TrajectoryState E Unit → Prop} (hnone : Q [])
    (hturn : Proc.Yields h trailObserver s e (ShipmentOrchestrator.runAgent agent) P)
    (hok : ∀ l s' e', P l ⟨.ok (), s', e'⟩ →
      Proc.Yields h trailObserver s' e' (ShipmentOrchestrator.runAgents rest)
        fun l' _ => Q (plannedIn l ++ plannedIn l'))
    (herror : ∀ l x s' e', P l ⟨.error x, s', e'⟩ → Q (plannedIn l)) :
    Proc.Yields h trailObserver s e (ShipmentOrchestrator.runAgents (agent :: rest))
      fun l _ => Q (plannedIn l) := by
  unfold ShipmentOrchestrator.runAgents
  refine Proc.yields_bind.mpr (Proc.yields_read.mpr ?_)
  dsimp only
  split
  · exact hnone
  · refine hturn.bind ?_ ?_
    · rintro l u s' e' hP
      simpa using hok l s' e' hP
    · rintro l x s' e' hP
      exact herror l x s' e' hP

omit [Sha256] in
/-- Roles that plan nothing. -/
theorem runAgents_unplanned {agents : List Agent}
    (hquiet : ∀ agent ∈ agents, ∀ s e, plannedIn (agent.run.log h trailObserver s e) = []) :
    Proc.Yields h trailObserver s e (ShipmentOrchestrator.runAgents agents)
      fun l _ => plannedIn l = [] := by
  induction agents generalizing s e with
  | nil => rfl
  | cons agent rest ih =>
      have hturn : Proc.Yields h trailObserver s e (ShipmentOrchestrator.runAgent agent) fun l x =>
          plannedIn l = [] ∧ (x.result = .ok () → True) :=
        runAgent_yields (D := (· = [])) (R := fun _ => True) rfl (fun _ _ _ _ => trivial)
          fun s' e' _ => ⟨hquiet agent List.mem_cons_self s' e', fun _ _ => trivial⟩
      refine runAgents_yields (Q := (· = [])) rfl hturn ?_ ?_
      · rintro l s' e' ⟨hl, -⟩
        simpa [hl] using ih fun other hmem => hquiet other (List.mem_cons_of_mem _ hmem)
      · rintro l x s' e' ⟨hl, -⟩
        exact hl

theorem role_unplanned (settings : RuntimeSettings) {agent : Agent} (hagent : agent ∈ legacyAgents g)
    (hother : agent.name ≠ .dispatch) (s : TrajectoryState) (e : E) :
    plannedIn (agent.run.log h trailObserver s e) = [] := by
  refine plannedIn_eq_nil ((unplanned_logic h).run settings (.inl rfl) hagent trivial ?_).1
  cases hname : agent.name with
  | dispatch => exact absurd hname hother
  | _ => decide

end Journey

variable {vehicles : List Vehicle} {preferred : Vehicle}

/-- The roles of a journey. -/
theorem runAgents_converges (settings : RuntimeSettings)
    (hengine : g.engine = pythonReferencePolicyEngine)
    (hlist : g.loader.listVehicles = .ok vehicles) (hpreferred : preferred ∈ vehicles)
    (hid : preferred.vehicleId = config.preferredVehicleId)
    (hfact : SourcedFact g.loader orderId fact)
    (hcold : ∃ vehicle ∈ vehicles, vehicle.available = true ∧ vehicle.refrigerated = true ∧
      fact.shipmentWeightKg ≤ vehicle.capacityKg)
    (hs : Enforced orderId mandate config s) :
    Proc.Yields (World.handle g.loader host) trailObserver s w
      (ShipmentOrchestrator.runAgents (legacyAgents g))
      fun l _ => Converges mandate vehicles preferred fact.shipmentWeightKg (plannedIn l) := by
  have hshort : Converges mandate vehicles preferred fact.shipmentWeightKg [] :=
    converges_of_short (Nat.zero_le 1)
  have hinventory : Proc.Yields (World.handle g.loader host) trailObserver s w
      (ShipmentOrchestrator.runAgent { name := .inventory, run := InventoryAgent.run g })
      fun l x => plannedIn l = [] ∧ (x.result = .ok () → Provisioned mandate fact config x.state) :=
    runAgent_yields (D := (· = [])) rfl (fun _ _ h => Provisioned.congr h) fun s' w' hkept =>
      inventory_run_provisions hfact (hs.congr hkept)
  refine runAgents_yields hshort hinventory ?_ ?_
  · rintro l s₁ w₁ ⟨hquiet, hready⟩
    simp only [hquiet, List.nil_append]
    have hprovisioned : Provisioned mandate fact config s₁ := hready rfl
    have hdispatch : Proc.Yields (World.handle g.loader host) trailObserver s₁ w₁
        (ShipmentOrchestrator.runAgent { name := .dispatch, run := DispatchAgent.run g })
        fun l x => Converges mandate vehicles preferred fact.shipmentWeightKg (plannedIn l) ∧
          (x.result = .ok () → True) :=
      runAgent_yields hshort (fun _ _ _ _ => trivial) fun s' w' hkept =>
        have hstocked := hprovisioned.congr hkept
        (dispatch_run_converges hengine hlist hpreferred hid hcold hstocked.toStocked
          hstocked.fact_eq hstocked.config_eq).mono fun _ _ hconverges =>
            ⟨hconverges, fun _ _ => trivial⟩
    refine runAgents_yields hshort hdispatch ?_ ?_
    · rintro l' s₂ w₂ ⟨hconverges, -⟩
      refine (runAgents_unplanned fun agent hagent s w => ?_).mono fun l₃ x hnone => ?_
      · refine role_unplanned settings (List.mem_cons_of_mem _ (List.mem_cons_of_mem _ hagent)) ?_ s w
        simp only [List.mem_cons, List.not_mem_nil, or_false] at hagent
        rcases hagent with rfl | rfl <;> simp
      · rw [hnone, List.append_nil]
        exact hconverges
    · rintro l' x s₂ w₂ ⟨hconverges, -⟩
      exact hconverges
  · rintro l x s₁ w₁ ⟨hquiet, -⟩
    rw [hquiet]
    exact hshort

section Ends

variable {E : Type} {h : Handler Op E} {e : E} (o : ShipmentOrchestrator)

omit [Sha256] in
theorem carrying_unplanned {α : Type} {m : Py α} (hm : Proc.Performs Governor.carryingOp m)
    (s : TrajectoryState) (e : E) : plannedIn (m.log h trailObserver s e) = [] :=
  plannedIn_eq_nil fun entry hmem => hm.forall_log h unplanned_of_carrying s e entry hmem

omit [Sha256] in
theorem finishRun_carrying : Proc.Performs Governor.carryingOp o.finishRun := by
  unfold ShipmentOrchestrator.finishRun
  refine .bind (.mutate _) fun _ => .bind .read fun state => ?_
  split
  · exact .bind (.mutate _) fun _ => .bind (Governor.appendEvent_carrying _) fun _ => .pure _
  · exact .bind (.mutate _) fun _ => .bind (Governor.appendEvent_carrying _) fun _ => .pure _

omit [Sha256] in
theorem failRun_carrying (x : PyError) : Proc.Performs Governor.carryingOp (o.failRun x) := by
  unfold ShipmentOrchestrator.failRun
  split
  · exact .bind (.mutate _) fun _ => .bind (Governor.appendEvent_carrying _) fun _ => .pure _
  · exact .bind .read fun state => .bind (.mutate _) fun _ =>
      .bind (Governor.appendEvent_carrying _) fun _ => .pure _

end Ends

omit [Sha256] in
/-- The decisions on dispatches of a whole run are those of its roles. -/
theorem run_yields {o : ShipmentOrchestrator} {E : Type} {h : Handler Op E} {e : E}
    {Q : List Decision → Prop} (hnone : Q [])
    (hroles : ∀ s' e', s'.planning = s.planning → Proc.Yields h trailObserver s' e'
      (ShipmentOrchestrator.runAgents o.agents) fun l _ => Q (plannedIn l)) :
    Proc.Yields h trailObserver s e o.run fun l _ => Q (plannedIn l) := by
  unfold ShipmentOrchestrator.run
  refine Proc.yields_bind.mpr (Proc.yields_read.mpr ?_)
  have hcreated : Proc.Performs Governor.carryingOp Py.createRun := .send fun _ => trivial
  have hcreate : Proc.Yields h trailObserver s e Py.createRun fun l x =>
      plannedIn l = [] ∧ x.state.planning = s.planning :=
    ⟨carrying_unplanned hcreated s e, rfl⟩
  refine hcreate.bind ?_ ?_
  · rintro l u s₁ e₁ ⟨hquiet, hkept⟩
    refine (appendEvent_unplanned _).bind ?_ ?_
    · rintro l₁ event s₂ e₂ ⟨hquiet₁, hkept₁⟩
      have hbody : Proc.Yields h trailObserver s₂ e₂ (do
          ShipmentOrchestrator.runAgents o.agents
          o.finishRun) fun l _ => Q (plannedIn l) := by
        refine (hroles s₂ e₂ (hkept₁.trans hkept)).bind ?_ fun _ _ _ _ hl => hl
        intro l₂ u s₃ e₃ hl
        have hfinish := carrying_unplanned (h := h) (finishRun_carrying o) s₃ e₃
        unfold Proc.Yields
        simpa [hfinish] using hl
      refine hbody.tryCatch ?_ ?_
      · intro l₂ u s₃ e₃ hl
        simpa [hquiet, hquiet₁] using hl
      · intro l₂ x s₃ e₃ hl
        have hfail := carrying_unplanned (h := h) (failRun_carrying o x) s₃ e₃
        unfold Proc.Yields
        simpa [hquiet, hquiet₁, hfail] using hl
    · rintro l₁ x s₂ e₂ ⟨hquiet₁, -⟩
      simpa [hquiet, hquiet₁] using hnone
  · rintro l x s₁ e₁ ⟨hquiet, -⟩
    simpa [hquiet] using hnone

/-- Guide-back.  In an enforced journey of a legacy runtime, after a guided first dispatch the
second is allowed exactly where the plan recovers: the cargo is not perishable, or the preferred
vehicle itself was unsafe for the sourced weight, or the first vehicle by identifier with the
capacity for it is a cold one. -/
theorem guide_back_converges_iff {o : ShipmentOrchestrator} (hroles : o.agents = legacyAgents g)
    (hengine : g.engine = pythonReferencePolicyEngine)
    (hlist : g.loader.listVehicles = .ok vehicles) (hpreferred : preferred ∈ vehicles)
    (hid : preferred.vehicleId = config.preferredVehicleId)
    (hfact : SourcedFact g.loader orderId fact)
    (hcold : ∃ vehicle ∈ vehicles, vehicle.available = true ∧ vehicle.refrigerated = true ∧
      fact.shipmentWeightKg ≤ vehicle.capacityKg)
    (traceId : String) (scenario : ScenarioName) (w : World) {first second : Decision}
    {rest : List Decision}
    (hplanned : plannedIn (o.run.log (World.handle g.loader host) trailObserver
      (RunService.initialState traceId orderId .enforce scenario mandate config) w) =
        first :: second :: rest)
    (hguide : first.appliedOutcome = .guide) :
    second.appliedOutcome = .allow ↔ Recovers mandate vehicles preferred fact.shipmentWeightKg := by
  have hstart : Enforced orderId mandate config
      (RunService.initialState traceId orderId .enforce scenario mandate config) :=
    ⟨rfl, rfl, rfl, rfl⟩
  have hrun : Proc.Yields (World.handle g.loader host) trailObserver
      (RunService.initialState traceId orderId .enforce scenario mandate config) w o.run
      fun l _ => Converges mandate vehicles preferred fact.shipmentWeightKg (plannedIn l) := by
    refine run_yields (converges_of_short (Nat.zero_le 1)) fun s' w' hkept => ?_
    rw [hroles]
    exact runAgents_converges o.settings hengine hlist hpreferred hid hfact hcold
      (hstart.congr hkept)
  exact hrun first second rest hplanned hguide

end Roles

namespace Demo

/-- The demo fixtures, with a vehicle that could carry the order but is not refrigerated. -/
def warmLoader : FixtureLoader :=
  { loader with vehicles := [⟨"VEH-AMBIENT-01", 1000, false, true⟩, coldVehicle, smallVehicle] }

/-- A scenario whose weight is not the inventory's.  Its quote is not offered, so a journey ends
after the dispatch. -/
def misweighed (preferredVehicleId : String) : ScenarioConfig :=
  { name := .adversarial, priorCommittedMinor := 365000, attemptedWeightKg := 50
    preferredVehicleId := preferredVehicleId, preferredQuoteId := "QUOTE-NONE-01" }

/-- The legacy runtime over a fixture directory. -/
def legacy (fixtures : FixtureLoader) : ShipmentOrchestrator where
  agents := legacyAgents { governor with loader := fixtures }
  settings := { timeoutSeconds := zeroFloat }

/-- The enforced run of the scenario. -/
def misweighing (preferredVehicleId : String) : TrajectoryState :=
  RunService.initialState "TRACE-1" "ORD-8842" .enforce .adversarial mandate
    (misweighed preferredVehicleId)

/-- What is decided on its dispatches. -/
def dispatchesDecided (fixtures : FixtureLoader) (preferredVehicleId : String) : List Decision :=
  plannedIn ((legacy fixtures).run.log (World.handle fixtures host) trailObserver
    (misweighing preferredVehicleId) {})

/-- What the inventory says about the order. -/
def orderFact : InventoryFact where
  factId := "WEIGHT-ORD-8842"
  skuId := "SKU-17"
  availableQuantity := 25
  shipmentWeightKg := 500
  sourceId := "WMS-SNAPSHOT-001"
  sourceHash := FixtureLoader.sourceHash "ORD-8842" "WMS-SNAPSHOT-001" 500

theorem orderFact_sourced (fixtures : FixtureLoader) (horders : fixtures.orders = loader.orders)
    (hinventory : fixtures.inventory = loader.inventory) :
    SourcedFact fixtures "ORD-8842" orderFact := by
  have horder : fixtures.getOrder "ORD-8842" = .ok order := by
    unfold FixtureLoader.getOrder
    rw [horders]
    rfl
  refine ⟨order, order, horder, horder, ?_⟩
  unfold FixtureLoader.getInventoryFact
  rw [hinventory]
  rfl

theorem dispatchesDecided_small :
    (dispatchesDecided loader "VEH-SMALL-01").map (·.appliedOutcome) = [.guide, .allow] := by
  decide +kernel

theorem dispatchesDecided_cold :
    (dispatchesDecided warmLoader "VEH-COLD-01").map (·.appliedOutcome) = [.guide, .block] := by
  decide +kernel

theorem misweighing_blocked :
    ((legacy warmLoader).run.exec (World.handle warmLoader host) (misweighing "VEH-COLD-01")
      {}).state.status = .blocked := by
  decide +kernel

end Demo

/-- The small vehicle is guided for its weight and for the cold chain: the second dispatch is
allowed. -/
theorem guide_back_converges_small :
    ∃ first second, Demo.dispatchesDecided Demo.loader "VEH-SMALL-01" = [first, second] ∧
      first.appliedOutcome = .guide ∧
      (second.appliedOutcome = .allow ↔
        Recovers Demo.mandate Demo.loader.vehicles Demo.smallVehicle 500) := by
  have houtcomes := Demo.dispatchesDecided_small
  cases hdecided : Demo.dispatchesDecided Demo.loader "VEH-SMALL-01" with
  | nil => simp [hdecided] at houtcomes
  | cons first others =>
      rw [hdecided] at houtcomes
      obtain ⟨hguide, houtcomes⟩ := List.cons.inj houtcomes
      obtain ⟨second, rfl, -⟩ := List.map_eq_singleton_iff.mp houtcomes
      have hcold : ∃ vehicle ∈ Demo.loader.vehicles, vehicle.available = true ∧
          vehicle.refrigerated = true ∧ Demo.orderFact.shipmentWeightKg ≤ vehicle.capacityKg :=
        ⟨Demo.coldVehicle, List.mem_cons_self, rfl, rfl, by decide⟩
      refine ⟨first, second, rfl, hguide, ?_⟩
      have hsourced : SourcedFact Demo.governor.loader "ORD-8842" Demo.orderFact :=
        Demo.orderFact_sourced Demo.loader rfl rfl
      have hroles : (Demo.legacy Demo.loader).agents = legacyAgents Demo.governor := rfl
      exact guide_back_converges_iff hroles rfl rfl (List.mem_cons_of_mem _ List.mem_cons_self) rfl
        hsourced hcold "TRACE-1" .adversarial {} hdecided hguide

/-- The preferred vehicle is a cold one that can carry the order, but the weight was guided: the
second dispatch names a vehicle that is not refrigerated, and the run ends blocked. -/
theorem not_guide_back_converges :
    Demo.coldVehicle ∈ Demo.warmLoader.vehicles ∧
      (Demo.misweighed "VEH-COLD-01").preferredVehicleId = Demo.coldVehicle.vehicleId ∧
      Demo.coldVehicle.available = true ∧ Demo.coldVehicle.refrigerated = true ∧
      SourcedFact Demo.warmLoader "ORD-8842" Demo.orderFact ∧
      Demo.orderFact.shipmentWeightKg ≤ Demo.coldVehicle.capacityKg ∧
      (Demo.dispatchesDecided Demo.warmLoader "VEH-COLD-01").map (·.appliedOutcome) =
        [.guide, .block] ∧
      ((Demo.legacy Demo.warmLoader).run.exec (World.handle Demo.warmLoader Demo.host)
        (Demo.misweighing "VEH-COLD-01") {}).state.status = .blocked :=
  ⟨List.mem_cons_of_mem _ List.mem_cons_self, rfl, rfl, rfl,
    Demo.orderFact_sourced Demo.warmLoader rfl rfl, by decide, Demo.dispatchesDecided_cold,
    Demo.misweighing_blocked⟩

end Manifest
