import Manifest.Governor.Guidance
import Manifest.Governor.Retries
import Manifest.Runtime.Dispatch

/-!
# Guided dispatches

When its first proposal is guided, the dispatch role builds a second one from the guidance:
the sourced weight, and the first vehicle by identifier that meets what the guidance names.  The
guidance names only what the first proposal got wrong.

Main results:

- Theorem `replan_eq`: the second proposal.
- Theorem `second_allowed_iff`: when the engine allows it.
- Theorem `dispatch_run_converges`: the decisions on the dispatches of the role.
-/

set_option autoImplicit false

namespace Manifest

open Interaction

namespace DispatchAgent

/-! ## The vehicles a guidance leaves -/

/-- The vehicles that can carry a weight, cold where that was asked for. -/
def suitable (cold : Bool) (weight : Int) (vehicles : List Vehicle) : List Vehicle :=
  vehicles.filter fun vehicle =>
    vehicle.available && weight ≤ vehicle.capacityKg && (!cold || vehicle.refrigerated)

theorem mem_suitable {cold : Bool} {weight : Int} {vehicles : List Vehicle} {vehicle : Vehicle} :
    vehicle ∈ suitable cold weight vehicles ↔ vehicle ∈ vehicles ∧ vehicle.available = true ∧
      weight ≤ vehicle.capacityKg ∧ (cold = true → vehicle.refrigerated = true) := by
  unfold suitable
  cases cold <;> simp [and_assoc]

/-- The filter of the role, for guidance that names this capacity or leaves the weight to be it. -/
theorem candidates_eq {required : Value} (minimum cold : Value) {weight correctedWeight : Int}
    (hminimum : lookup required "minimum_capacity_kg" = .ok minimum)
    (hcapacity : intOf (if minimum.truthy then minimum else .int correctedWeight) = .ok weight)
    (hcold : lookup required "refrigerated" = .ok cold) (vehicles : List Vehicle) :
    candidates required correctedWeight vehicles = .ok (suitable cold.truthy weight vehicles) := by
  have hmeets (vehicle : Vehicle) : meets required correctedWeight vehicle =
      .ok (vehicle.available && weight ≤ vehicle.capacityKg &&
        (!cold.truthy || vehicle.refrigerated)) := by
    unfold meets
    simp only [hminimum, hcapacity, hcold, bind, Except.bind]
    cases vehicle.available
    · rfl
    · by_cases hlight : vehicle.capacityKg < weight
      · simp [hlight, not_le.mpr hlight]
      · simp [hlight, not_lt.mp hlight]
  induction vehicles with
  | nil => rfl
  | cons vehicle rest ih =>
      simp only [candidates, hmeets, ih, bind, Except.bind, suitable, List.filter_cons]

theorem firstById_mem {vehicles : List Vehicle} {vehicle : Vehicle}
    (h : firstById vehicles = some vehicle) : vehicle ∈ vehicles :=
  (List.mem_insertionSort _).mp (List.mem_of_mem_head? h)

theorem exists_firstById {vehicles : List Vehicle} {vehicle : Vehicle} (h : vehicle ∈ vehicles) :
    ∃ first, firstById vehicles = some first := by
  unfold firstById
  rw [← Option.isSome_iff_exists, List.isSome_head?]
  exact List.ne_nil_of_mem ((List.mem_insertionSort _).mpr h)

/-! ## The second proposal -/

theorem ofExcept_ok_bind {α β : Type} (a : α) (f : α → Py β) :
    (Proc.ofExcept (.ok a) >>= f) = f a :=
  rfl

variable [Sha256] (g : Governor)

/-- The arguments of an attempt. -/
def planArgs (state : TrajectoryState) (attempt : String) (vehicle : Vehicle) (weight : Int)
    (unit factId : String) : Kwargs :=
  [ ("order_id", .str state.orderId), ("vehicle_id", .str vehicle.vehicleId),
    ("weight_value", .int weight), ("weight_unit", .str unit), ("weight_fact_id", .str factId),
    ("idempotency_key", .str s!"{state.traceId}:dispatch-plan:{attempt}") ]

open Classical in
/-- The second proposal names the sourced weight, and the first vehicle by identifier among
those the guidance leaves. -/
theorem replan_eq {request : PolicyRequest} {mandate : ShipmentMandate} {fact : InventoryFact}
    {guidance : Kwargs}
    (hasks : PythonEngine.Asks request mandate (Projector.factOf fact) guidance)
    {vehicles : List Vehicle} {vehicle : Vehicle}
    (hfirst : firstById (suitable (VehicleUnsafe request mandate (Projector.factOf fact))
      fact.shipmentWeightKg vehicles) = some vehicle) :
    replan g vehicles fact guidance = (do
      let result ← plan g "2" vehicle fact.shipmentWeightKg "kg" fact.factId
      pure (vehicle, fact.shipmentWeightKg, result)) := by
  have hweight : guidance.getD "required_value" (.int fact.shipmentWeightKg) =
      .int fact.shipmentWeightKg ∧ guidance.getD "required_unit" (.str "kg") = .str "kg" ∧
      guidance.getD "required_fact_id" (.str fact.factId) = .str fact.factId := by
    unfold Kwargs.getD
    by_cases hdiffers : WeightDiffers request (Projector.factOf fact)
    · obtain ⟨hid, hvalue, hunit⟩ := hasks.weight hdiffers
      rw [hid, hvalue, hunit]
      exact ⟨rfl, rfl, rfl⟩
    · obtain ⟨hid, hvalue, hunit⟩ := hasks.no_weight hdiffers
      rw [hid, hvalue, hunit]
      exact ⟨rfl, rfl, rfl⟩
  have hcandidates : candidates (guidance.getD "required_vehicle" (.dict [])) fact.shipmentWeightKg
      vehicles = .ok (suitable (VehicleUnsafe request mandate (Projector.factOf fact))
        fact.shipmentWeightKg vehicles) := by
    unfold Kwargs.getD
    by_cases hunfit : VehicleUnsafe request mandate (Projector.factOf fact)
    · rw [hasks.vehicle hunfit, decide_eq_true hunfit]
      refine candidates_eq (.int fact.shipmentWeightKg) (.bool true) rfl ?_ rfl _
      split <;> rfl
    · rw [hasks.no_vehicle hunfit, decide_eq_false hunfit]
      exact candidates_eq .none .none rfl rfl rfl _
  unfold replan
  dsimp only
  rw [hweight.1, hweight.2.1, hweight.2.2]
  have hvalue : intOf (.int fact.shipmentWeightKg) = .ok fact.shipmentWeightKg := rfl
  rw [hvalue, ofExcept_ok_bind, hcandidates, ofExcept_ok_bind, hfirst]
  rfl

end DispatchAgent

/-! ## What the engine makes of a proposal -/

section Proposals

variable [Sha256] {g : Governor} {E : Type} {h : Handler Op E}

/-- A proposal of the role, as a governed call. -/
def planCall (s : TrajectoryState) (e : E) (attempt : String) (vehicle : Vehicle) (weight : Int)
    (factId : String) : Call E where
  agent := .dispatch
  toolName := "create_dispatch_plan"
  args := DispatchAgent.planArgs s attempt vehicle weight "kg" factId
  state := s
  env := e

theorem plan_exec (s : TrajectoryState) (e : E) (attempt : String) (vehicle : Vehicle) (weight : Int)
    (factId : String) :
    (DispatchAgent.plan g attempt vehicle weight "kg" factId).exec h s e =
      (planCall s e attempt vehicle weight factId).exec g h := by
  unfold DispatchAgent.plan
  rw [Proc.exec_bind, Proc.exec_read]
  rfl

theorem plan_log (s : TrajectoryState) (e : E) (attempt : String) (vehicle : Vehicle) (weight : Int)
    (factId : String) :
    (DispatchAgent.plan g attempt vehicle weight "kg" factId).log h trailObserver s e =
      (planCall s e attempt vehicle weight factId).trail g h := by
  unfold DispatchAgent.plan
  rw [Proc.log_bind, Proc.log_read, Proc.exec_read]
  rfl

/-- A state in which the engine blocks no dispatch that names a fact. -/
structure Dispatchable (s : TrajectoryState) (mandate : ShipmentMandate) (fact : InventoryFact) :
    Prop where
  mandate_eq : s.mandate = some mandate
  version_eq : s.policyVersion = mandate.policyVersion
  served_eq : s.policyVersion = "demo-v1"
  class_mem : EffectClass.reversibleWrite ∈ mandate.allowedEffectClasses
  factId_ne : fact.factId ≠ ""
  valid : validFactHash s.orderId (Projector.factOf fact) = true

/-- A vehicle that perishable cargo of a weight may not travel in. -/
def Unsafe (mandate : ShipmentMandate) (vehicle : Vehicle) (weight : Int) : Prop :=
  mandate.cargoClass = "perishable" ∧
    PythonEngine.vehicleUnsafe (.vehicle vehicle) (some weight) = true

omit [Sha256] in
/-- The only element with a key is the one that is found by it. -/
theorem find?_eq_of_nodup {α : Type} {key : α → String} {xs : List α} (hnodup : (xs.map key).Nodup)
    {x : α} (hmem : x ∈ xs) {p : α → Bool} (hx : p x = true)
    (hkey : ∀ other, p other = true → key other = key x) : xs.find? p = some x := by
  obtain ⟨y, hy⟩ := Option.isSome_iff_exists.mp (List.find?_isSome.mpr ⟨x, hmem, hx⟩)
  have hsame : y = x := List.inj_on_of_nodup_map hnodup (List.mem_of_find?_eq_some hy) hmem
    (hkey y (List.find?_some hy))
  rw [hy, hsame]

omit [Sha256] in
theorem nodup_of_listed {vehicles : List Vehicle} (hlist : g.loader.listVehicles = .ok vehicles) :
    (vehicles.map (·.vehicleId)).Nodup := by
  unfold FixtureLoader.listVehicles at hlist
  obtain ⟨u, hunique, hsame⟩ := Fallible.bind_eq_ok_iff.mp hlist
  obtain rfl := Except.ok.inj hsame
  exact FixtureLoader.nodup_of_ensureUnique hunique

omit [Sha256] in
/-- A listed vehicle is the resource of a proposal that names it. -/
theorem resource_of_listed {vehicles : List Vehicle} (hlist : g.loader.listVehicles = .ok vehicles)
    {vehicle : Vehicle} (hmem : vehicle ∈ vehicles) (s : TrajectoryState) {args : Kwargs}
    (hnamed : args.get "vehicle_id" = .str vehicle.vehicleId) :
    g.resourceContext s "create_dispatch_plan" args = .ok (.vehicle vehicle) := by
  have hnodup := nodup_of_listed hlist
  have hfound : (vehicles.find? fun v => (args.get "vehicle_id").pyEq (.str v.vehicleId)) =
      some vehicle := by
    refine find?_eq_of_nodup hnodup hmem ?_ fun other heq => ?_
    · rw [hnamed]
      exact (Value.pyEq_str_iff _ _).mpr rfl
    · rw [hnamed] at heq
      exact (Value.str.inj ((Value.pyEq_str_iff _ _).mp heq)).symm
  simp [Governor.resourceContext, hlist, hfound, bind, Except.bind]

section Judged

variable {s : TrajectoryState} {e : E} {attempt : String} {vehicle : Vehicle} {weight : Int}
  {fact : InventoryFact} {definition : Option ToolDefinition} {proposal : ToolProposal}
  {request : PolicyRequest} {seen : TrajectoryState} {e' : E}

/-- What the request of a proposal says. -/
structure Proposes (g : Governor) (s : TrajectoryState) (vehicle : Vehicle) (weight : Int)
    (fact : InventoryFact) (request : PolicyRequest) (seen : TrajectoryState) : Prop where
  business_eq : seen.business = s.business
  action_eq : request.action = "create_dispatch_plan"
  owner_eq : request.context.toolOwner = some request.principal.value
  class_eq : request.context.effectClass = some EffectClass.reversibleWrite.value
  factId_eq : request.context.arguments.get "weight_fact_id" = .str fact.factId
  unit_eq : request.context.arguments.get "weight_unit" = .str "kg"
  weight_eq : request.context.arguments.get "weight_value" = .int weight
  resource_eq : request.context.resource = .vehicle vehicle

omit [Sha256] in
theorem Call.Asked.proposes {vehicles : List Vehicle}
    (hlist : g.loader.listVehicles = .ok vehicles) (hmem : vehicle ∈ vehicles)
    (hasked : (planCall s e attempt vehicle weight fact.factId).Asked g h definition proposal request
      seen e') : Proposes g s vehicle weight fact request seen := by
  obtain ⟨e₁, hpropose, hbuild⟩ := hasked
  have hproposed := (g.propose_ensures .dispatch "create_dispatch_plan"
    (DispatchAgent.planArgs s attempt vehicle weight "kg" fact.factId) s).exec h e
  change (g.propose .dispatch "create_dispatch_plan"
    (DispatchAgent.planArgs s attempt vehicle weight "kg" fact.factId)).exec h s e = _ at hpropose
  rw [hpropose] at hproposed
  have hbuilt := (g.buildRequest_ensures definition proposal
    (DispatchAgent.planArgs s attempt vehicle weight "kg" fact.factId) seen).exec h e₁
  change (g.buildRequest definition proposal
    (DispatchAgent.planArgs s attempt vehicle weight "kg" fact.factId)).exec h seen e₁ = _ at hbuild
  rw [hbuild] at hbuilt
  obtain ⟨hdefinition, hagent, htool, -⟩ := hproposed.2 definition proposal rfl
  obtain ⟨hprincipal, haction, harguments, howner, hclass, hresource⟩ := hbuilt.2 request rfl
  rw [hdefinition] at howner hclass
  rw [htool, resource_of_listed hlist hmem seen rfl] at hresource
  refine ⟨hproposed.1, haction.trans htool, ?_, hclass, ?_, ?_, ?_, (Except.ok.inj hresource).symm⟩
  · rw [howner, hprincipal, hagent]
    rfl
  all_goals
    rw [harguments]
    rfl

variable (hp : Proposes g s vehicle weight fact request seen)

include hp

omit [Sha256] in
theorem Proposes.namedFact_eq (hid : fact.factId ≠ "")
    (hstock : s.facts.get? fact.factId = some (Projector.factOf fact)) :
    namedFact request seen = some (Projector.factOf fact) := by
  have hfacts : seen.facts = s.facts := business_congr (·.facts) (fun _ => rfl) hp.business_eq
  simp [namedFact, exactLookup, exactKey, hp.factId_eq, hid, hfacts, hstock]

omit [Sha256] in
theorem Proposes.weightDiffers_iff :
    WeightDiffers request (Projector.factOf fact) ↔ weight ≠ fact.shipmentWeightKg := by
  unfold WeightDiffers
  rw [hp.unit_eq, hp.weight_eq]
  simp only [Projector.factOf, ne_eq, not_true_eq_false, false_or]
  rw [← Bool.not_eq_true, Value.pyEq_int_iff]
  simp [Value.number?]

omit [Sha256] in
theorem Proposes.vehicleUnsafe_iff {mandate : ShipmentMandate} :
    VehicleUnsafe request mandate (Projector.factOf fact) ↔
      Unsafe mandate vehicle fact.shipmentWeightKg := by
  unfold VehicleUnsafe Unsafe
  rw [hp.resource_eq]
  rfl

omit [Sha256] in
theorem Proposes.admitted_iff {mandate : ShipmentMandate} :
    Admitted request seen mandate ↔ s.mandate = some mandate ∧
      s.policyVersion = mandate.policyVersion ∧ s.policyVersion = "demo-v1" ∧
        EffectClass.reversibleWrite ∈ mandate.allowedEffectClasses := by
  have hmandate := mandate_of_business hp.business_eq
  have hversion := policyVersion_of_business hp.business_eq
  constructor
  · intro h
    obtain ⟨c, hmem, hc⟩ := h.class_mem
    rw [hp.class_eq, Option.some_inj] at hc
    have hsame : EffectClass.reversibleWrite = c := by
      cases c <;> first | rfl | exact absurd hc (by decide)
    exact ⟨hmandate ▸ h.mandate_eq, hversion ▸ h.version_eq, hversion ▸ h.served_eq, hsame ▸ hmem⟩
  · rintro ⟨h₁, h₂, h₃, h₄⟩
    exact ⟨hmandate.trans h₁, hversion.trans h₂, hversion.trans h₃, hp.owner_eq, _, h₄, hp.class_eq⟩

open Classical in
/-- A proposal on a dispatchable state is guided for another weight or an unsafe vehicle, and
allowed otherwise. -/
theorem Proposes.outcome_eq {mandate : ShipmentMandate} (hs : Dispatchable s mandate fact)
    (hstock : s.facts.get? fact.factId = some (Projector.factOf fact)) :
    outcomeOf (PythonEngine.evaluate request seen) =
      if weight ≠ fact.shipmentWeightKg ∨ Unsafe mandate vehicle fact.shipmentWeightKg then .guide
      else .allow := by
  have hadmitted : Admitted request seen mandate :=
    hp.admitted_iff.mpr ⟨hs.mandate_eq, hs.version_eq, hs.served_eq, hs.class_mem⟩
  have horder : seen.orderId = s.orderId := business_congr (·.orderId) (fun _ => rfl) hp.business_eq
  have hvalid : ¬ PythonEngine.FactInvalid seen (Projector.factOf fact) := by
    unfold PythonEngine.FactInvalid
    rw [horder, hs.valid]
    exact Bool.noConfusion
  have hname : ¬ (Projector.factOf fact).name ≠ "shipment_weight" := not_not.mpr rfl
  have hpresent : ¬ MetadataMissing request mandate := by
    unfold MetadataMissing
    rw [hp.resource_eq]
    exact fun hmissing => Bool.noConfusion hmissing.2
  rw [PythonEngine.dispatch_outcome hadmitted hp.action_eq (hp.namedFact_eq hs.factId_ne hstock),
    if_neg (not_or.mpr ⟨hname, not_or.mpr ⟨hvalid, hpresent⟩⟩)]
  refine if_congr ?_ rfl rfl
  rw [hp.weightDiffers_iff, hp.vehicleUnsafe_iff]

/-- A guided proposal was made on a dispatchable state. -/
theorem Proposes.dispatchable (hstock : s.facts.get? fact.factId = some (Projector.factOf fact))
    (hguide : outcomeOf (PythonEngine.evaluate request seen) = .guide) :
    ∃ mandate, Dispatchable s mandate fact := by
  have horder : seen.orderId = s.orderId := business_congr (·.orderId) (fun _ => rfl) hp.business_eq
  by_cases hid : fact.factId = ""
  · have hunnamed : namedFact request seen = none := by
      simp [namedFact, exactLookup, exactKey, hp.factId_eq, hid]
    rw [PythonEngine.dispatch_unnamed_outcome hp.action_eq hunnamed] at hguide
    cases hguide
  · by_cases hadmitted : ∃ mandate, Admitted request seen mandate
    · obtain ⟨mandate, hadmitted⟩ := hadmitted
      rw [PythonEngine.dispatch_outcome hadmitted hp.action_eq (hp.namedFact_eq hid hstock)]
        at hguide
      split_ifs at hguide with hblocked
      obtain ⟨hmandate, hversion, hserved, hclass⟩ := hp.admitted_iff.mp hadmitted
      refine ⟨mandate, hmandate, hversion, hserved, hclass, hid, ?_⟩
      simp only [not_or, PythonEngine.FactInvalid, Bool.not_eq_false] at hblocked
      rw [← horder]
      exact hblocked.2.1
    · rw [PythonEngine.not_admitted_outcome (not_exists.mp hadmitted)] at hguide
      cases hguide

end Judged

/-! ## What a call leaves alone -/

/-- The fields the dispatch role rests on. -/
def TrajectoryState.planning (s : TrajectoryState) :=
  (s.orderId, s.mode, s.mandate, s.policyVersion, s.facts, s.order, s.inventoryFact,
    s.scenarioConfig)

omit [Sha256] in
theorem planning_setPreparedStatus (s : TrajectoryState) (preparedId : String)
    (status : CommitmentStatus) : (s.setPreparedStatus preparedId status).planning = s.planning := by
  unfold TrajectoryState.setPreparedStatus
  cases s.preparedActions.get? preparedId <;> rfl

omit [Sha256] in
theorem Governor.Applied.planning {toolName : String} {args : Kwargs} {s s' : TrajectoryState}
    {r : Except PyError Unit} (h : Governor.Applied toolName args s r s') :
    s'.planning = s.planning := by
  cases h with
  | unchanged r => rfl
  | unnumbered x tool_eq applicable => exact planning_setPreparedStatus s _ _
  | confirmed confirmationId tool_eq applicable => exact planning_setPreparedStatus s _ .confirmed
  | cancelled tool_eq applicable live => exact planning_setPreparedStatus s _ .cancelled

/-- A governed call leaves these fields alone. -/
theorem executeTool_planning (g : Governor) (agent : AgentName) (toolName : String) (args : Kwargs)
    (s : TrajectoryState) :
    Proc.Ensures Governor.anyOp (g.executeTool agent toolName args) s
      fun _ s' => s'.planning = s.planning := by
  have hbusiness {s s' : TrajectoryState} (h : s'.business = s.business) :
      s'.planning = s.planning := business_congr TrajectoryState.planning (fun _ => rfl) h
  refine (g.executeTool_ensures agent toolName args s).mono fun r s' hstep => ?_
  cases hstep with
  | refused h => exact hbusiness h.business_eq
  | escalated governed h =>
      exact (hbusiness h.business_eq).trans (planning_setPreparedStatus s _ .pendingApproval)
  | effected governed registered h =>
      exact (hbusiness h.business_eq).trans (Governor.applyEffect_applied _ _ _ s).planning

/-! ## The decisions of the role's calls -/

namespace Call

variable {c : Call E}

/-- A call that returns has recorded its decision, and refused no entry. -/
theorem returned {result : GovernedToolResult} (hresult : (c.exec g h).result = .ok result) :
    c.recorded g h = [result.decision] ∧ ∀ entry ∈ c.trail g h, entry.refused = false := by
  have htrail := (g.executeTool_trail h c.agent c.toolName c.args c.state c.env).1 result hresult
  obtain ⟨proposal, -, -, -, hlog⟩ := htrail
  unfold recorded trail
  split_ifs at hlog
  · rw [hlog]
    exact ⟨rfl, by simp [Governor.opening, TrailEntry.refused]⟩
  · obtain ⟨spec, -, hlog⟩ := hlog
    rw [hlog]
    exact ⟨rfl, by simp [Governor.opening, TrailEntry.refused]⟩

/-- A guided call answers with the guidance of its decision. -/
theorem guidance_eq {result : GovernedToolResult} (hresult : (c.exec g h).result = .ok result)
    (hguide : result.decision.appliedOutcome = .guide) :
    result.guidance = result.decision.guidance := by
  obtain ⟨hrecorded, hkept⟩ := returned hresult
  have hmem : result.decision ∈ c.recorded g h := by simp [hrecorded]
  obtain ⟨definition, proposal, request, seen, e, hasked⟩ := asked_of_recorded hmem
  obtain ⟨decision, -, -, hone, hanswer⟩ := hasked.answered
  obtain hsame := eq_of_recorded hone hmem
  rcases hanswer (hsame ▸ hguide) with ⟨entry, hentry, hrefused⟩ | hreturned
  · exact absurd hrefused (by simp [hkept entry hentry])
  · rw [hresult] at hreturned
    obtain rfl := Except.ok.inj hreturned
    rfl

end Call

section Decided

variable {s : TrajectoryState} {e : E} {attempt : String} {vehicle : Vehicle} {weight : Int}
  {fact : InventoryFact} {vehicles : List Vehicle} {d : Decision}
  (hengine : g.engine = pythonReferencePolicyEngine) (henforce : s.mode = .enforce)
  (hlist : g.loader.listVehicles = .ok vehicles) (hmem : vehicle ∈ vehicles)
  (hd : d ∈ (planCall s e attempt vehicle weight fact.factId).recorded g h)

include hengine henforce hlist hmem hd

/-- An enforced proposal is decided as the engine decides its request. -/
theorem plan_decided : ∃ request seen, Proposes g s vehicle weight fact request seen ∧
    (d.appliedOutcome = .allow ↔ outcomeOf (PythonEngine.evaluate request seen) = .allow) ∧
    (d.appliedOutcome = .guide → outcomeOf (PythonEngine.evaluate request seen) = .guide ∧
      d.guidance = nonEmpty (mergedGuidance (failClosed (PythonEngine.evaluate request seen)))) := by
  obtain ⟨definition, proposal, request, seen, e', hasked⟩ := Call.asked_of_recorded hd
  obtain ⟨hdefinition, -, hmode, -⟩ := hasked.proposed
  obtain ⟨decision, hlimited, happlied, hone, -⟩ := hasked.answered
  obtain rfl := Call.eq_of_recorded hone hd
  have hsignals : g.signalsFor definition request seen =
      failClosed (PythonEngine.evaluate request seen) := by
    rw [hdefinition]
    unfold Governor.signalsFor
    rw [hengine]
    rfl
  have hseen : seen.mode = .enforce := hmode.trans henforce
  have hstrongest := strongest_failClosed (PythonEngine.evaluate_catalogued request seen)
  rw [hsignals, hseen] at happlied hlimited
  unfold Governor.appliedOutcome at happlied
  rw [if_pos rfl, hstrongest] at happlied
  refine ⟨request, seen, hasked.proposes hlist hmem, ?_, fun hguide => ?_⟩
  · rw [happlied]
    dsimp only
    split_ifs with hlast
    · simp only [Bool.and_eq_true, decide_eq_true_eq] at hlast
      rw [hlast.1]
      exact iff_of_false (by simp) (by simp)
    · exact Iff.rfl
  · rw [hguide] at happlied
    dsimp only at happlied
    split_ifs at happlied with hlast
    have hbelow : proposal.attempt < g.maxGuidedAttempts := by
      simpa [← happlied] using hlast
    exact ⟨happlied.symm, (hlimited.guides rfl (hstrongest.trans happlied.symm) hbelow).2⟩

variable (hstock : s.facts.get? fact.factId = some (Projector.factOf fact))

include hstock

/-- A guided proposal carries guidance for its own request. -/
theorem plan_guided (hguide : d.appliedOutcome = .guide) :
    ∃ mandate request seen, Dispatchable s mandate fact ∧
      Proposes g s vehicle weight fact request seen ∧
      PythonEngine.Asks request mandate (Projector.factOf fact) (d.guidance.getD []) := by
  obtain ⟨request, seen, hp, -, hguided⟩ := plan_decided hengine henforce hlist hmem hd
  obtain ⟨houtcome, hguidance⟩ := hguided hguide
  obtain ⟨mandate, hs⟩ := hp.dispatchable hstock houtcome
  have hadmitted : Admitted request seen mandate :=
    hp.admitted_iff.mpr ⟨hs.mandate_eq, hs.version_eq, hs.served_eq, hs.class_mem⟩
  obtain ⟨signals, hsignals, hasks⟩ := PythonEngine.dispatch_guidance hadmitted hp.action_eq
    (hp.namedFact_eq hs.factId_ne hstock) houtcome
  refine ⟨mandate, request, seen, hs, hp, ?_⟩
  have hcatalogued : catalogued signals = true := by
    refine List.all_eq_true.mpr fun item hitem => ?_
    simpa using PythonEngine.evaluate_catalogued request seen signals hsignals item hitem
  have hmerged : d.guidance.getD [] = mergedGuidance signals := by
    rw [hguidance, hsignals, failClosed, if_pos hcatalogued, nonEmpty]
    split_ifs with hempty
    · exact (List.isEmpty_iff.mp hempty).symm
    · rfl
  rw [hmerged]
  exact hasks

/-- A proposal on a dispatchable state is allowed for the sourced weight and a safe vehicle. -/
theorem plan_allowed_iff {mandate : ShipmentMandate} (hs : Dispatchable s mandate fact) :
    d.appliedOutcome = .allow ↔
      weight = fact.shipmentWeightKg ∧ ¬ Unsafe mandate vehicle fact.shipmentWeightKg := by
  obtain ⟨request, seen, hp, hallow, -⟩ := plan_decided hengine henforce hlist hmem hd
  rw [hallow, hp.outcome_eq hs hstock]
  split_ifs with hguided
  · refine iff_of_false (by simp) fun hsafe => ?_
    exact not_or.mpr ⟨not_not.mpr hsafe.1, hsafe.2⟩ hguided
  · rw [not_or, not_not] at hguided
    exact ⟨fun _ => hguided, fun _ => rfl⟩

end Decided

/-! ## Two proposals -/

omit [Sha256] in
/-- The decisions a trail has recorded on dispatches. -/
def plannedIn (l : List TrailEntry) : List Decision :=
  (l.filterMap TrailEntry.recorded).filter (·.toolName = "create_dispatch_plan")

omit [Sha256] in
@[simp]
theorem plannedIn_nil : plannedIn [] = [] :=
  rfl

omit [Sha256] in
@[simp]
theorem plannedIn_append (l l' : List TrailEntry) :
    plannedIn (l ++ l') = plannedIn l ++ plannedIn l' := by
  simp [plannedIn, List.filterMap_append, List.filter_append]

omit [Sha256] in
/-- Where the preferred vehicle may carry the sourced weight, the first vehicle by identifier
that has the capacity for it is a cold one. -/
def Recovers (mandate : ShipmentMandate) (vehicles : List Vehicle) (preferred : Vehicle)
    (weight : Int) : Prop :=
  mandate.cargoClass = "perishable" → preferred.refrigerated = true → weight ≤ preferred.capacityKg →
    ∀ vehicle, DispatchAgent.firstById (DispatchAgent.suitable false weight vehicles) = some vehicle →
      vehicle.refrigerated = true

omit [Sha256] in
theorem unsafe_iff {mandate : ShipmentMandate} {vehicle : Vehicle} {weight : Int}
    (havailable : vehicle.available = true) :
    Unsafe mandate vehicle weight ↔ mandate.cargoClass = "perishable" ∧
      ¬ (vehicle.refrigerated = true ∧ weight ≤ vehicle.capacityKg) := by
  have hunfit : PythonEngine.vehicleUnsafe (.vehicle vehicle) (some weight) = true ↔
      (vehicle.available = false ∨ vehicle.refrigerated = false) ∨ vehicle.capacityKg < weight :=
    Cedar.vehicleUnsafe_iff
  unfold Unsafe
  rw [hunfit, havailable, not_and_or, not_le]
  simp

open Classical in
omit [Sha256] in
/-- The vehicle that the guidance leaves may carry the cargo exactly where the plan recovers. -/
theorem safe_iff_recovers {mandate : ShipmentMandate} {vehicles : List Vehicle}
    {preferred vehicle : Vehicle} {weight : Int} (havailable : preferred.available = true)
    (hfirst : DispatchAgent.firstById (DispatchAgent.suitable (Unsafe mandate preferred weight) weight
      vehicles) = some vehicle) :
    ¬ Unsafe mandate vehicle weight ↔ Recovers mandate vehicles preferred weight := by
  obtain ⟨-, hready, hcapacity, hcold⟩ :=
    DispatchAgent.mem_suitable.mp (DispatchAgent.firstById_mem hfirst)
  rw [unsafe_iff hready]
  unfold Recovers
  by_cases hunfit : Unsafe mandate preferred weight
  · have hrefrigerated : vehicle.refrigerated = true := hcold (decide_eq_true hunfit)
    refine iff_of_true (fun hboth => hboth.2 ⟨hrefrigerated, hcapacity⟩) ?_
    intro hcargo hpreferred hcarries
    exact absurd ⟨hpreferred, hcarries⟩ ((unsafe_iff havailable).mp hunfit).2
  · rw [decide_eq_false hunfit] at hfirst
    rw [unsafe_iff havailable] at hunfit
    constructor
    · intro hsafe hcargo _ _ other hother
      obtain rfl := Option.some.inj (hfirst.symm.trans hother)
      by_contra hwarm
      exact hsafe ⟨hcargo, fun hboth => hwarm hboth.1⟩
    · rintro hrecovers ⟨hcargo, hnot⟩
      have hpreferred : preferred.refrigerated = true ∧ weight ≤ preferred.capacityKg := by
        by_contra hneither
        exact hunfit ⟨hcargo, hneither⟩
      exact hnot ⟨hrecovers hcargo hpreferred.1 hpreferred.2 vehicle hfirst, hcapacity⟩

namespace Call

variable {c : Call E}

theorem toolName_of_recorded {d : Decision} (hd : d ∈ c.recorded g h) : d.toolName = c.toolName := by
  obtain ⟨definition, proposal, request, seen, e, hasked⟩ := asked_of_recorded hd
  obtain ⟨decision, hlimited, -, hone, -⟩ := hasked.answered
  rw [eq_of_recorded hone hd, hlimited.toolName_eq]
  exact hasked.proposed.2.1

theorem plannedIn_plan (hplan : c.toolName = "create_dispatch_plan") :
    plannedIn (c.trail g h) = c.recorded g h :=
  List.filter_eq_self.mpr fun _ hd => decide_eq_true ((toolName_of_recorded hd).trans hplan)

theorem plannedIn_other (hother : c.toolName ≠ "create_dispatch_plan") :
    plannedIn (c.trail g h) = [] := by
  refine List.filter_eq_nil_iff.mpr fun d hd hplan => ?_
  exact hother ((toolName_of_recorded hd).symm.trans (of_decide_eq_true hplan))

theorem recorded_short : (c.recorded g h).length ≤ 1 := by
  cases hrecorded : c.recorded g h with
  | nil => exact Nat.zero_le 1
  | cons d rest =>
      obtain ⟨definition, proposal, request, seen, e, hasked⟩ :=
        asked_of_recorded (g := g) (h := h) (c := c) (d := d) (by simp [hrecorded])
      obtain ⟨decision, -, -, hone, -⟩ := hasked.answered
      rw [← hrecorded]
      rcases hone with hnone | hone
      · simp [hnone]
      · simp [hone]

end Call

/-- A guided first dispatch is followed by an allowed one exactly where the plan recovers. -/
def Converges (mandate : ShipmentMandate) (vehicles : List Vehicle) (preferred : Vehicle)
    (weight : Int) (decisions : List Decision) : Prop :=
  ∀ first second rest, decisions = first :: second :: rest → first.appliedOutcome = .guide →
    (second.appliedOutcome = .allow ↔ Recovers mandate vehicles preferred weight)

omit [Sha256] in
theorem converges_of_short {mandate : ShipmentMandate} {vehicles : List Vehicle}
    {preferred : Vehicle} {weight : Int} {decisions : List Decision} (hshort : decisions.length ≤ 1) :
    Converges mandate vehicles preferred weight decisions := by
  rintro first second rest rfl
  simp at hshort

/-- What the role has read when it plans. -/
structure Stocked (mandate : ShipmentMandate) (fact : InventoryFact) (s : TrajectoryState) :
    Prop where
  mode_eq : s.mode = .enforce
  mandate_eq : s.mandate = some mandate
  stock_eq : s.facts.get? fact.factId = some (Projector.factOf fact)

section Planning

variable {s : TrajectoryState} {e : E} {mandate : ShipmentMandate} {fact : InventoryFact}
  {vehicles listed : List Vehicle} {preferred : Vehicle}
  (hengine : g.engine = pythonReferencePolicyEngine)
  (hlist : g.loader.listVehicles = .ok vehicles) (hlisted : listed = vehicles.filter (·.available))

omit [Sha256] in
theorem Stocked.congr {s' : TrajectoryState} (h : s'.planning = s.planning)
    (hs : Stocked mandate fact s) : Stocked mandate fact s' := by
  simp only [TrajectoryState.planning, Prod.mk.injEq] at h
  obtain ⟨-, hmode, hmandate, -, hfacts, -⟩ := h
  exact ⟨hmode.trans hs.mode_eq, hmandate.trans hs.mandate_eq, by rw [hfacts]; exact hs.stock_eq⟩

theorem Dispatchable.congr {s' : TrajectoryState} (h : s'.planning = s.planning)
    (hs : Dispatchable s mandate fact) : Dispatchable s' mandate fact := by
  simp only [TrajectoryState.planning, Prod.mk.injEq] at h
  obtain ⟨horder, -, hmandate, hversion, -⟩ := h
  exact ⟨hmandate.trans hs.mandate_eq, hversion.trans hs.version_eq, hversion.trans hs.served_eq,
    hs.class_mem, hs.factId_ne, by rw [horder]; exact hs.valid⟩

omit [Sha256] in
theorem suitable_listed (cold : Bool) (weight : Int) (vehicles : List Vehicle) :
    DispatchAgent.suitable cold weight (vehicles.filter (·.available)) =
      DispatchAgent.suitable cold weight vehicles := by
  unfold DispatchAgent.suitable
  rw [List.filter_filter]
  refine List.filter_congr fun vehicle _ => ?_
  cases vehicle.available <;> simp

include hengine hlist hlisted

open Classical in
/-- The second proposal is allowed exactly where the plan recovers. -/
theorem second_allowed_iff (hpreferred : preferred.available = true) (hs : Stocked mandate fact s)
    (hdispatch : Dispatchable s mandate fact) {vehicle : Vehicle}
    (hfirst : DispatchAgent.firstById (DispatchAgent.suitable
      (Unsafe mandate preferred fact.shipmentWeightKg) fact.shipmentWeightKg listed) = some vehicle)
    {d : Decision}
    (hd : d ∈ (planCall s e "2" vehicle fact.shipmentWeightKg fact.factId).recorded g h) :
    d.appliedOutcome = .allow ↔ Recovers mandate vehicles preferred fact.shipmentWeightKg := by
  rw [hlisted, suitable_listed] at hfirst
  have hmem : vehicle ∈ vehicles :=
    (DispatchAgent.mem_suitable.mp (DispatchAgent.firstById_mem hfirst)).1
  rw [plan_allowed_iff hengine hs.mode_eq hlist hmem hd hs.stock_eq hdispatch,
    ← safe_iff_recovers hpreferred hfirst]
  exact and_iff_right rfl

open Classical in
theorem planGuided_converges (hpreferred : preferred ∈ listed)
    (hcold : ∃ vehicle ∈ vehicles, vehicle.available = true ∧ vehicle.refrigerated = true ∧
      fact.shipmentWeightKg ≤ vehicle.capacityKg)
    (hs : Stocked mandate fact s) (weight : Int) :
    Proc.Yields h trailObserver s e (DispatchAgent.planGuided g listed preferred fact weight)
      fun l _ => Converges mandate vehicles preferred fact.shipmentWeightKg (plannedIn l) := by
  obtain ⟨hmem, havailable⟩ : preferred ∈ vehicles ∧ preferred.available = true := by
    rw [hlisted] at hpreferred
    exact List.mem_filter.mp hpreferred
  unfold DispatchAgent.planGuided
  have hfirst : Proc.Yields h trailObserver s e
      (DispatchAgent.plan g "1" preferred weight "kg" fact.factId) fun l x =>
        l = (planCall s e "1" preferred weight fact.factId).trail g h ∧
          x = (planCall s e "1" preferred weight fact.factId).exec g h :=
    ⟨plan_log .., plan_exec ..⟩
  refine hfirst.bind ?_ ?_
  · rintro l result s₁ e₁ ⟨rfl, hexec⟩
    have hresult : ((planCall s e "1" preferred weight fact.factId).exec g h).result = .ok result := by
      rw [← hexec]
    obtain ⟨hrecorded, -⟩ := Call.returned hresult
    have hplanned : plannedIn ((planCall s e "1" preferred weight fact.factId).trail g h) =
        [result.decision] := (Call.plannedIn_plan rfl).trans hrecorded
    by_cases hguide : result.decision.appliedOutcome = .guide
    · rw [if_pos hguide, Call.guidance_eq hresult hguide]
      have hfirstMem : result.decision ∈
          (planCall s e "1" preferred weight fact.factId).recorded g h := by
        rw [hrecorded]
        exact List.mem_singleton_self _
      obtain ⟨other, request, seen, hdispatch, hp, hasks⟩ :=
        plan_guided hengine hs.mode_eq hlist hmem hfirstMem hs.stock_eq hguide
      obtain rfl : mandate = other :=
        Option.some.inj (hs.mandate_eq.symm.trans hdispatch.mandate_eq)
      have hkept : s₁.planning = s.planning := by
        have hplanning := (executeTool_planning g .dispatch "create_dispatch_plan"
          (DispatchAgent.planArgs s "1" preferred weight "kg" fact.factId) s).exec h e
        change ((planCall s e "1" preferred weight fact.factId).exec g h).state.planning = _
          at hplanning
        rwa [← hexec] at hplanning
      obtain ⟨vehicle, hvehicle⟩ : ∃ vehicle, DispatchAgent.firstById (DispatchAgent.suitable
          (VehicleUnsafe request mandate (Projector.factOf fact)) fact.shipmentWeightKg listed) =
            some vehicle := by
        obtain ⟨cold, hcoldMem, hready, hrefrigerated, hcapacity⟩ := hcold
        have hsuitable : cold ∈ DispatchAgent.suitable
            (VehicleUnsafe request mandate (Projector.factOf fact)) fact.shipmentWeightKg listed := by
          rw [hlisted, suitable_listed]
          exact DispatchAgent.mem_suitable.mpr ⟨hcoldMem, hready, hcapacity, fun _ => hrefrigerated⟩
        exact DispatchAgent.exists_firstById hsuitable
      rw [DispatchAgent.replan_eq g hasks hvehicle]
      rw [decide_eq_decide.mpr hp.vehicleUnsafe_iff] at hvehicle
      have hsecond : Proc.Yields h trailObserver s₁ e₁
          (DispatchAgent.plan g "2" vehicle fact.shipmentWeightKg "kg" fact.factId) fun l _ =>
            l = (planCall s₁ e₁ "2" vehicle fact.shipmentWeightKg fact.factId).trail g h :=
        plan_log ..
      have hconverges : Converges mandate vehicles preferred fact.shipmentWeightKg
          (plannedIn ((planCall s e "1" preferred weight fact.factId).trail g h ++
            (planCall s₁ e₁ "2" vehicle fact.shipmentWeightKg fact.factId).trail g h)) := by
        intro first second rest hsplit _
        rw [plannedIn_append, hplanned, Call.plannedIn_plan rfl] at hsplit
        have htail : (planCall s₁ e₁ "2" vehicle fact.shipmentWeightKg fact.factId).recorded g h =
            second :: rest := (List.cons.inj hsplit).2
        have hsecondMem : second ∈
            (planCall s₁ e₁ "2" vehicle fact.shipmentWeightKg fact.factId).recorded g h := by
          rw [htail]
          exact List.mem_cons_self
        exact second_allowed_iff hengine hlist hlisted havailable (hs.congr hkept)
          (hdispatch.congr hkept) hvehicle hsecondMem
      refine hsecond.bind ?_ ?_
      · rintro l r s₂ e₂ rfl
        rw [Proc.yields_pure, List.append_nil]
        exact hconverges
      · rintro l x s₂ e₂ rfl
        exact hconverges
    · rw [if_neg hguide, Proc.yields_pure, List.append_nil, hplanned]
      exact converges_of_short le_rfl
  · rintro l x s₁ e₁ ⟨rfl, -⟩
    refine converges_of_short ?_
    rw [Call.plannedIn_plan rfl]
    exact Call.recorded_short

end Planning

end Proposals

/-! ## The role -/

section Role

variable [Sha256] {g : Governor} {host : Host} {s : TrajectoryState} {w : World}
  {mandate : ShipmentMandate} {fact : InventoryFact} {config : ScenarioConfig}
  {vehicles : List Vehicle} {preferred : Vehicle}

/-- A projection records no decision. -/
theorem plannedIn_project (agent : AgentName) (toolName : String) (args : Kwargs)
    (value : ToolValue) (s : TrajectoryState) (w : World) :
    plannedIn ((Projector.project g.loader agent toolName args value).log
      (World.handle g.loader host) trailObserver s w) = [] := by
  have hsilent : ∀ entry ∈ (Projector.project g.loader agent toolName args value).log
      (World.handle g.loader host) trailObserver s w, False := by
    refine (project_sources g.loader agent toolName args value s).forall_log _ (fun β o reply ho => ?_) w
    rw [trailObserver_silent β o reply (readingOp.silent β o ho)]
    simp
  rw [List.eq_nil_iff_forall_not_mem.mpr hsilent]
  rfl

/-- The listing the role plans with is that of the available vehicles. -/
theorem listed_available {args : Kwargs} {result : GovernedToolResult} {value : ToolValue}
    (hlist : g.loader.listVehicles = .ok vehicles)
    (hresult : ((g.executeTool .dispatch "list_available_vehicles" args).exec
      (World.handle g.loader host) s w).result = .ok result)
    (hvalue : result.value = some value) : value = .vehicles (vehicles.filter (·.available)) := by
  obtain ⟨mocks, hexecuted⟩ := executeTool_reads g (by decide) hresult hvalue
  change MockLogisticsTools.listAvailableVehicles g.loader args = .ok value at hexecuted
  unfold MockLogisticsTools.listAvailableVehicles at hexecuted
  obtain ⟨u, -, hread⟩ := Fallible.bind_eq_ok_iff.mp hexecuted
  split at hread
  · cases hread
  · rw [hlist] at hread
    exact (Except.ok.inj hread).symm

omit [Sha256] in
/-- The vehicle that is found is the preferred one. -/
theorem findVehicle_listed (hlist : g.loader.listVehicles = .ok vehicles)
    (hpreferred : preferred ∈ vehicles) {vehicleId : String} (hid : preferred.vehicleId = vehicleId)
    {found : Vehicle} (hfound : DispatchAgent.findVehicle (vehicles.filter (·.available)) vehicleId =
      .ok found) :
    found ∈ vehicles.filter (·.available) ∧ found = preferred := by
  unfold DispatchAgent.findVehicle at hfound
  split at hfound
  · rename_i vehicle hvehicle
    obtain rfl := Except.ok.inj hfound
    have hmem := List.mem_of_find?_eq_some hvehicle
    have hsame : vehicle.vehicleId = vehicleId := by simpa using List.find?_some hvehicle
    exact ⟨hmem, List.inj_on_of_nodup_map (nodup_of_listed hlist) (List.mem_filter.mp hmem).1 hpreferred
      (hsame.trans hid.symm)⟩
  · cases hfound

theorem dispatch_run_converges (hengine : g.engine = pythonReferencePolicyEngine)
    (hlist : g.loader.listVehicles = .ok vehicles) (hpreferred : preferred ∈ vehicles)
    (hid : preferred.vehicleId = config.preferredVehicleId)
    (hcold : ∃ vehicle ∈ vehicles, vehicle.available = true ∧ vehicle.refrigerated = true ∧
      fact.shipmentWeightKg ≤ vehicle.capacityKg)
    (hs : Stocked mandate fact s) (hfact : s.inventoryFact = some fact)
    (hconfig : s.scenarioConfig = some config) :
    Proc.Yields (World.handle g.loader host) trailObserver s w (DispatchAgent.run g)
      fun l _ => Converges mandate vehicles preferred fact.shipmentWeightKg (plannedIn l) := by
  have hnothing : Converges mandate vehicles preferred fact.shipmentWeightKg (plannedIn []) :=
    converges_of_short (Nat.zero_le 1)
  unfold DispatchAgent.run
  simp only [Proc.yields_bind, Proc.yields_read, List.nil_append, hfact, hconfig]
  cases s.order with
  | none => exact hnothing
  | some order =>
      let c : Call World :=
        { agent := .dispatch, toolName := "list_available_vehicles"
          args := [("destination_zone", .str order.destinationZone)], state := s, env := w }
      have hlisting : Proc.Yields (World.handle g.loader host) trailObserver s w
          (g.executeTool .dispatch "list_available_vehicles" c.args) fun l x =>
            plannedIn l = [] ∧ x = c.exec g (World.handle g.loader host) :=
        ⟨Call.plannedIn_other (c := c) (by simp [c]), rfl⟩
      refine hlisting.bind ?_ ?_
      · rintro l result s₁ w₁ ⟨hquiet, hexec⟩
        have hresult : (c.exec g (World.handle g.loader host)).result = .ok result := by rw [← hexec]
        have hkept := (executeTool_planning g .dispatch "list_available_vehicles" c.args s).exec
          (World.handle g.loader host) w
        change (c.exec g (World.handle g.loader host)).state.planning = _ at hkept
        rw [← hexec] at hkept
        have hsilent {l' : List TrailEntry} : plannedIn (l ++ l') = plannedIn l' := by
          rw [plannedIn_append, hquiet, List.nil_append]
        simp only [hsilent]
        unfold valueOrBlocked
        cases hvalue : result.value with
        | none => exact hnothing
        | some value =>
            obtain rfl := listed_available hlist hresult hvalue
            simp only [Proc.yields_bind, Proc.yields_pure, List.nil_append, vehiclesIn,
              Proc.yields_ofExcept]
            cases hfound : DispatchAgent.findVehicle (vehicles.filter (·.available))
              config.preferredVehicleId with
            | error x => exact hnothing
            | ok found =>
                obtain ⟨hmem, rfl⟩ := findVehicle_listed hlist hpreferred hid hfound
                have hplanned := planGuided_converges (h := World.handle g.loader host) (e := w₁)
                  hengine hlist rfl hmem hcold (hs.congr hkept) config.attemptedWeightKg
                refine hplanned.mono fun l' x hconverges => ?_
                rcases x with ⟨r, s₂, w₂⟩
                cases r with
                | error y => exact hconverges
                | ok chosen =>
                    dsimp only
                    cases chosen.2.2.value with
                    | none => simpa [policyBlocked] using hconverges
                    | some planned =>
                        rw [Proc.yields_pure]
                        have hprojected : Proc.Yields (World.handle g.loader host) trailObserver s₂ w₂
                            (Projector.project g.loader .dispatch "create_dispatch_plan"
                              [("vehicle_id", .str chosen.1.vehicleId)] planned)
                            fun l₃ _ => plannedIn l₃ = [] := plannedIn_project ..
                        refine hprojected.mono fun l₃ x hsilent => ?_
                        rcases x with ⟨r, s₃, w₃⟩
                        cases r <;> simpa [hsilent] using hconverges
      · rintro l x s₁ w₁ ⟨hquiet, -⟩
        rw [hquiet]
        exact hnothing

end Role

end Manifest
