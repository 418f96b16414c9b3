import Mathlib.Data.List.Dedup
import Manifest.Domain.Models

/-!
# Fixture loader

The deterministic reference data behind the tools.  A loader is the parsed
content of a fixture directory: every accessor applies the same checks as the
source, in the same order, and raises the same errors.
-/

set_option autoImplicit false

namespace Manifest

/-- One record of the inventory file. -/
structure InventoryRecord where
  skuId : String
  availableQuantity : Int
  shipmentWeightKg : Int
  sourceId : String

/-- One record of the carrier file: a quote and the zone it is offered in. -/
structure CarrierRecord where
  quote : CarrierQuote
  destinationZone : String

/-- One mandate file; effect classes are still strings. -/
structure MandateRecord where
  mandateId : String
  orderId : String
  currency : String
  spendCeilingMinor : Int
  approvalThresholdMinor : Int
  cargoClass : String
  allowedEffectClasses : List String
  policyVersion : String

/-- One scenario file. -/
structure ScenarioRecord where
  scenario : String
  priorCommittedMinor : Int
  attemptedWeightKg : Int
  preferredVehicleId : String
  preferredQuoteId : String

/-- A fixture directory; files are found by their stem. -/
structure FixtureLoader where
  orders : List (String × Order)
  inventory : List InventoryRecord
  vehicles : List Vehicle
  carriers : List CarrierRecord
  mandates : List (String × MandateRecord)
  scenarios : List (String × ScenarioRecord)

/-- `EffectClass(value)`. -/
def EffectClass.parse : String → Option EffectClass
  | "read" => some .read
  | "reversible_write" => some .reversibleWrite
  | "financial_commit" => some .financialCommit
  | "physical_commit" => some .physicalCommit
  | "external_disclosure" => some .externalDisclosure
  | _ => none

namespace FixtureLoader

def fixtureError {α : Type} (message : String) : Except PyError α :=
  .error ⟨.fixture, message⟩

/-- `_ensure_unique`: the IDs occurring more than once, in sorted order. -/
def ensureUnique (ids : List String) (label : String) : Except PyError Unit :=
  let duplicates := ((ids.filter fun id => 1 < ids.count id).dedup).insertionSort (· ≤ ·)
  let listed := ", ".intercalate duplicates
  if duplicates.isEmpty then .ok ()
  else fixtureError s!"Duplicate {label} IDs: {listed}."

/-- Identifiers that pass are distinct. -/
theorem nodup_of_ensureUnique {ids : List String} {label : String}
    (h : ensureUnique ids label = .ok ()) : ids.Nodup := by
  unfold ensureUnique at h
  dsimp only at h
  split at h
  · rename_i hnone
    have hdedup : (ids.filter fun id => 1 < ids.count id).dedup = [] := by
      have hperm := List.perm_insertionSort (· ≤ ·) (ids.filter fun id => 1 < ids.count id).dedup
      rw [List.isEmpty_iff.mp hnone] at hperm
      exact hperm.symm.eq_nil
    refine List.nodup_iff_count_le_one.mpr fun id => ?_
    by_contra hmany
    have hmem : id ∈ (ids.filter fun id => 1 < ids.count id).dedup := by
      rw [List.mem_dedup, List.mem_filter]
      exact ⟨List.count_pos_iff.mp (by omega), by simpa using hmany⟩
    rw [hdedup] at hmem
    cases hmem
  · cases h

/-- `_non_negative_int`; the label is already capitalized. -/
def nonNegativeInt (value : Int) (label : String) : Except PyError Int :=
  if value < 0 then fixtureError s!"{label} must be a non-negative integer."
  else .ok value

/-- `_source_hash`. -/
def sourceHash [Sha256] (orderId sourceId : String) (value : Int) : String :=
  Sha256.tagged <| Value.dumps true <| .dict
    [("name", .str "shipment_weight"), ("order_id", .str orderId),
      ("source_id", .str sourceId), ("unit", .str "kg"), ("value", .int value)]

variable (loader : FixtureLoader)

def getOrder (orderId : String) : Except PyError Order :=
  match Dict.lookupEntries orderId loader.orders with
  | some order => .ok order
  | none => .error ⟨.orderNotFound, s!"Order {orderId} was not found."⟩

def getInventoryFact [Sha256] (order : Order) : Except PyError InventoryFact := do
  ensureUnique (loader.inventory.map (·.skuId)) "inventory SKU"
  match loader.inventory.find? fun record => record.skuId = order.skuId with
  | none => fixtureError s!"No inventory record exists for {order.skuId}."
  | some record =>
      if record.availableQuantity < order.quantity then
        fixtureError s!"Insufficient inventory for {order.skuId}."
      else
        .ok {
          factId := s!"WEIGHT-{order.orderId}"
          skuId := record.skuId
          availableQuantity := record.availableQuantity
          shipmentWeightKg := record.shipmentWeightKg
          sourceId := record.sourceId
          sourceHash := sourceHash order.orderId record.sourceId record.shipmentWeightKg }

def listVehicles : Except PyError (List Vehicle) := do
  ensureUnique (loader.vehicles.map (·.vehicleId)) "vehicle"
  .ok loader.vehicles

def listCarrierQuotes (destinationZone : String) : Except PyError (List CarrierQuote) := do
  ensureUnique (loader.carriers.map (·.quote.quoteId)) "quote"
  .ok ((loader.carriers.filter fun record => record.destinationZone = destinationZone).map
    (·.quote))

/-- The effect classes of a mandate record, or `none` if one is unknown. -/
def parseEffects (names : List String) : Option (List EffectClass) :=
  names.mapM EffectClass.parse

def getMandate (order : Order) (mode : GovernanceMode) : Except PyError ShipmentMandate := do
  let suffix := removePrefix "ORD-" order.orderId
  let stem := s!"M-{suffix}-1"
  match Dict.lookupEntries stem loader.mandates with
  | none => fixtureError s!"Fixture file {stem}.json is missing."
  | some record =>
      if record.orderId ≠ order.orderId then
        fixtureError "Mandate order does not match the requested order."
      else if record.currency ≠ order.currency then
        fixtureError "Mandate currency does not match the order."
      else if record.spendCeilingMinor ≠ order.spendCeilingMinor then
        fixtureError "Mandate spend ceiling does not match the order."
      else if record.cargoClass ≠ order.cargoClass then
        fixtureError "Mandate cargo class does not match the order."
      else if isBlank record.policyVersion then
        fixtureError "Mandate policy version cannot be empty."
      else
        match parseEffects record.allowedEffectClasses with
        | none => fixtureError "Mandate contains an invalid effect class."
        | some effects => do
            let ceiling ← nonNegativeInt record.spendCeilingMinor "Spend ceiling"
            let threshold ← nonNegativeInt record.approvalThresholdMinor "Approval threshold"
            if effects.isEmpty then
              fixtureError "Mandate must allow at least one effect class."
            else
              .ok {
                mandateId := record.mandateId
                orderId := order.orderId
                mode := mode
                currency := order.currency
                spendCeilingMinor := ceiling
                approvalThresholdMinor := threshold
                cargoClass := record.cargoClass
                allowedEffectClasses := effects
                policyVersion := record.policyVersion }

def getScenario (orderId : String) (scenario : ScenarioName) :
    Except PyError ScenarioConfig := do
  let stem := s!"{orderId}-{scenario.value}"
  match Dict.lookupEntries stem loader.scenarios with
  | none => fixtureError s!"Fixture file {stem}.json is missing."
  | some record =>
      if record.scenario ≠ scenario.value then
        fixtureError "Scenario name does not match its fixture file."
      else
        let prior ← nonNegativeInt record.priorCommittedMinor "Prior committed spend"
        let weight ← nonNegativeInt record.attemptedWeightKg "Attempted weight"
        let vehicles ← loader.listVehicles
        let order ← loader.getOrder orderId
        let quotes ← loader.listCarrierQuotes order.destinationZone
        if (vehicles.map (·.vehicleId)).contains record.preferredVehicleId = false then
          fixtureError "Scenario references an unknown vehicle."
        else if (quotes.map (·.quoteId)).contains record.preferredQuoteId = false then
          fixtureError "Scenario references an unknown carrier quote."
        else
          .ok {
            name := scenario
            priorCommittedMinor := prior
            attemptedWeightKg := weight
            preferredVehicleId := record.preferredVehicleId
            preferredQuoteId := record.preferredQuoteId }

end FixtureLoader

end Manifest
