import Manifest.Governor.Governor
import Manifest.Parity.Reference

/-!
# What a guided dispatch is asked for

A dispatch is guided for its weight, for its vehicle, or for both.  The guidance of the
decision holds the entries of the signals that were given, and no others.

Main results:

- Theorem `PythonEngine.dispatch_guidance`: the entries of the guidance of a dispatch.
-/

set_option autoImplicit false

namespace Manifest

namespace PythonEngine

variable [Sha256] {request : PolicyRequest} {state : TrajectoryState} {mandate : ShipmentMandate}
  {fact : NumericFact}

omit [Sha256] in
/-- An admitted request that names no prepared action raises no signal of ownership. -/
theorem ownership_silent (h : Admitted request state mandate)
    (hacts : actsOnPrepared request.action = false) :
    ownershipAndMandate request state = .ok [] := by
  obtain ⟨c, hmem, hc⟩ := h.class_mem
  have hclass : ((mandate.allowedEffectClasses.map fun item => some item.value).contains
      request.context.effectClass = false) = False := by
    simp only [eq_iff_iff, iff_false, Bool.not_eq_false, List.contains_iff_mem, List.mem_map]
    exact ⟨c, hmem, hc.symm⟩
  have hserved : mandate.policyVersion = policyVersion := h.version_eq ▸ h.served_eq
  simp only [ownershipAndMandate, h.mandate_eq, h.version_eq, h.owner_eq, hserved, hclass, hacts,
    ne_eq, not_true_eq_false, decide_false, Bool.or_self, Bool.false_eq_true, if_false]

/-- The provenance of a valid fact guides a weight that differs, with the fact's own. -/
theorem provenance_guides (haction : request.action = "create_dispatch_plan")
    (hnamed : namedFact request state = some fact) (hname : fact.name = "shipment_weight")
    (hvalid : ¬ FactInvalid state fact) :
    (WeightDiffers request fact ∧ ∃ item, provenance request state = .ok [item] ∧
        item.guidance = some (factGuidance fact)) ∨
      ¬ WeightDiffers request fact ∧ provenance request state = .ok [] := by
  have hchecked : validFactHash state.orderId fact = true := by
    simpa [FactInvalid] using hvalid
  have hself : (Value.str fact.unit).pyEq (.str fact.unit) = true := (Value.pyEq_str_iff _ _).mpr rfl
  unfold provenance WeightDiffers
  simp only [haction, ne_eq, not_true_eq_false, if_false, truthy_of_exact hnamed, if_true,
    lookupKey_of_exact hnamed, bind, Except.bind, hname, hchecked, decide_false, Bool.or_self,
    Bool.true_eq_false, Bool.false_eq_true]
  by_cases hunit : request.context.arguments.get "weight_unit" = .str fact.unit
  · simp only [hunit, hself, Bool.true_eq_false, if_false, not_true_eq_false, false_or]
    cases (request.context.arguments.get "weight_value").pyEq (.int fact.value)
    · exact .inl ⟨rfl, _, rfl, rfl⟩
    · exact .inr ⟨by simp, rfl⟩
  · have hdiffers : (request.context.arguments.get "weight_unit").pyEq (.str fact.unit) = false := by
      rw [← Bool.not_eq_true, Value.pyEq_str_iff]
      exact hunit
    simp only [hdiffers, if_true]
    exact .inl ⟨.inl hunit, _, rfl, rfl⟩

omit [Sha256] in
/-- The cold chain guides an unsafe vehicle, with the fact's weight. -/
theorem coldChain_guides (hmandate : state.mandate = some mandate)
    (haction : request.action = "create_dispatch_plan")
    (hnamed : namedFact request state = some fact) (hpresent : ¬ MetadataMissing request mandate) :
    (VehicleUnsafe request mandate fact ∧ ∃ item, coldChain request state = .ok [item] ∧
        item.guidance = some (vehicleGuidance (some fact.value))) ∨
      ¬ VehicleUnsafe request mandate fact ∧ coldChain request state = .ok [] := by
  unfold MetadataMissing at hpresent
  unfold coldChain VehicleUnsafe
  simp only [hmandate, haction, if_true, lookupKey_of_exact hnamed, bind, Except.bind, ne_eq,
    Option.map_some]
  by_cases hcargo : mandate.cargoClass = "perishable"
  · have hresource : (request.context.resource.present = false) = False := by
      simp only [eq_iff_iff, iff_false]
      exact fun hmissing => hpresent ⟨hcargo, hmissing⟩
    simp only [hcargo, not_true_eq_false, if_false, hresource, true_and]
    cases vehicleUnsafe request.context.resource (some fact.value)
    · exact .inr ⟨by simp, rfl⟩
    · exact .inl ⟨rfl, _, rfl, rfl⟩
  · exact .inr ⟨fun h => hcargo h.1, by simp [hcargo]⟩

/-- The entries that a dispatch's guidance holds. -/
structure Asks (request : PolicyRequest) (mandate : ShipmentMandate) (fact : NumericFact)
    (guidance : Kwargs) : Prop where
  weight : WeightDiffers request fact →
    guidance.get? "required_fact_id" = some (.str fact.factId) ∧
      guidance.get? "required_value" = some (.int fact.value) ∧
      guidance.get? "required_unit" = some (.str fact.unit)
  no_weight : ¬ WeightDiffers request fact →
    guidance.get? "required_fact_id" = none ∧ guidance.get? "required_value" = none ∧
      guidance.get? "required_unit" = none
  vehicle : VehicleUnsafe request mandate fact → guidance.get? "required_vehicle" =
    some (.dict [("minimum_capacity_kg", .int fact.value), ("refrigerated", .bool true)])
  no_vehicle : ¬ VehicleUnsafe request mandate fact → guidance.get? "required_vehicle" = none

/-- A guided dispatch rests on a valid fact, and asks for what the guided signals ask for. -/
theorem dispatch_guidance (h : Admitted request state mandate)
    (haction : request.action = "create_dispatch_plan")
    (hnamed : namedFact request state = some fact)
    (hguide : outcomeOf (evaluate request state) = .guide) :
    ∃ signals, evaluate request state = .ok signals ∧
      Asks request mandate fact (mergedGuidance signals) := by
  have hacts : actsOnPrepared request.action = false := by simp [actsOnPrepared, haction]
  have hquote : choosesQuote request.action = false := by simp [choosesQuote, haction]
  rw [dispatch_outcome h haction hnamed] at hguide
  split_ifs at hguide with hblocked hguided
  simp only [not_or, not_not] at hblocked
  obtain ⟨hname, hvalid, hpresent⟩ := hblocked
  have hevaluate : ∀ source cold, provenance request state = .ok source →
      coldChain request state = .ok cold → evaluate request state = .ok (source ++ cold) := by
    intro source cold hsource hcold
    have hbudget : commitmentBudget request state = .ok [] :=
      commitmentBudget_other (by simp [haction])
    have hduties : separationOfDuties request state = .ok [] := separationOfDuties_other hquote hacts
    have hprivate : piiBoundary request = [] := piiBoundary_other (by simp [haction])
    simp [evaluate, ownership_silent h hacts, hsource, hcold, hbudget, hduties, hprivate, bind,
      Except.bind]
  rcases provenance_guides haction hnamed hname hvalid with
    ⟨hweight, item, hsource, hitem⟩ | ⟨hweight, hsource⟩ <;>
  rcases coldChain_guides h.mandate_eq haction hnamed hpresent with
    ⟨hvehicle, other, hcold, hother⟩ | ⟨hvehicle, hcold⟩
  all_goals refine ⟨_, hevaluate _ _ hsource hcold, ?_⟩
  · have hmerged : mergedGuidance ([item] ++ [other]) =
        Kwargs.update (Kwargs.update [] (factGuidance fact)) (vehicleGuidance (some fact.value)) := by
      simp [mergedGuidance, hitem, hother]
    rw [hmerged]
    exact ⟨fun _ => ⟨rfl, rfl, rfl⟩, fun hnone => absurd hweight hnone, fun _ => rfl,
      fun hnone => absurd hvehicle hnone⟩
  · have hmerged : mergedGuidance ([item] ++ []) = Kwargs.update [] (factGuidance fact) := by
      simp [mergedGuidance, hitem]
    rw [hmerged]
    exact ⟨fun _ => ⟨rfl, rfl, rfl⟩, fun hnone => absurd hweight hnone,
      fun hunfit => absurd hunfit hvehicle, fun _ => rfl⟩
  · have hmerged : mergedGuidance ([] ++ [other]) =
        Kwargs.update [] (vehicleGuidance (some fact.value)) := by
      simp [mergedGuidance, hother]
    rw [hmerged]
    exact ⟨fun hdiffers => absurd hdiffers hweight, fun _ => ⟨rfl, rfl, rfl⟩, fun _ => rfl,
      fun hnone => absurd hvehicle hnone⟩
  · exact absurd hguided (not_or.mpr ⟨hweight, hvehicle⟩)

end PythonEngine

end Manifest
