import Manifest.Lib.Fallible
import Manifest.Runtime.Finality
import Mathlib.Data.Finset.Card

/-!
# Validated fixtures

A service starts only over fixtures that `validate_all` accepts.  The validation goes through
the order files by the identifiers their records carry, a run by the names of the files.

Main results:

- Theorem `FixtureLoader.validated_stem`: validation covers every order file under its own name.
- Theorem `FixtureLoader.validateAll_sufficient`: what a run of a validated fixture directory reads
  is there.
-/

set_option autoImplicit false

namespace Manifest.FixtureLoader

open Fallible

variable (loader : FixtureLoader)

/-! ## Validation -/

/-- `list_orders`: the order files in the order of their paths. -/
def listOrders : Except PyError (List Order) := do
  let records := loader.orders.insertionSort fun a b => a.1 ++ ".json" ≤ b.1 ++ ".json"
  ensureUnique (records.map (·.2.orderId)) "order"
  .ok (records.map (·.2))

/-- One round of the loop of `validate_all`. -/
def validateOrder [Sha256] (order : Order) : Except PyError Unit := do
  let _ ← loader.getInventoryFact order
  let _ ← loader.listCarrierQuotes order.destinationZone
  let _ ← [ScenarioName.benign, ScenarioName.adversarial].mapM (loader.getScenario order.orderId)
  let _ ← loader.getMandate order .enforce
  .ok ()

/-- `validate_all`. -/
def validateAll [Sha256] : Except PyError Unit := do
  let orders ← loader.listOrders
  if orders.isEmpty then fixtureError "At least one order fixture is required."
  else
    let _ ← loader.listVehicles
    let _ ← orders.mapM loader.validateOrder
    .ok ()

variable {loader}

/-! ## What validation covers -/

theorem listOrders_ok {orders : List Order} (h : loader.listOrders = .ok orders) :
    (∀ order, order ∈ orders ↔ ∃ stem, (stem, order) ∈ loader.orders) ∧
      (orders.map (·.orderId)).Nodup ∧ orders.length = loader.orders.length := by
  unfold listOrders at h
  obtain ⟨u, hunique, h⟩ := bind_eq_ok_iff.mp h
  obtain rfl := Except.ok.inj h
  have hperm := List.perm_insertionSort (fun a b => a.1 ++ ".json" ≤ b.1 ++ ".json") loader.orders
  refine ⟨fun order => ?_, ?_, ?_⟩
  · rw [List.mem_map]
    constructor
    · rintro ⟨⟨stem, other⟩, hmem, rfl⟩
      exact ⟨stem, hperm.mem_iff.mp hmem⟩
    · rintro ⟨stem, hmem⟩
      exact ⟨(stem, order), hperm.mem_iff.mpr hmem, rfl⟩
  · rw [List.map_map]
    exact nodup_of_ensureUnique hunique
  · rw [List.length_map]
    exact hperm.length_eq

/-- What a validated order has. -/
structure Validated [Sha256] (loader : FixtureLoader) (order : Order) : Prop where
  fact : ∃ fact, loader.getInventoryFact order = .ok fact
  scenarios : ∀ scenario, ∃ config, loader.getScenario order.orderId scenario = .ok config
  mandate : ∃ mandate, loader.getMandate order .enforce = .ok mandate

theorem validateOrder_ok [Sha256] {order : Order} (h : loader.validateOrder order = .ok ()) :
    loader.Validated order := by
  unfold validateOrder at h
  obtain ⟨fact, hfact, h⟩ := bind_eq_ok_iff.mp h
  obtain ⟨quotes, -, h⟩ := bind_eq_ok_iff.mp h
  obtain ⟨configs, hconfigs, h⟩ := bind_eq_ok_iff.mp h
  obtain ⟨mandate, hmandate, -⟩ := bind_eq_ok_iff.mp h
  refine ⟨⟨fact, hfact⟩, fun scenario => ?_, ⟨mandate, hmandate⟩⟩
  obtain ⟨config, -, hconfig⟩ := (mem_of_mapM hconfigs).1 scenario (by cases scenario <;> simp)
  exact ⟨config, hconfig⟩

theorem validateAll_ok [Sha256] (h : loader.validateAll = .ok ()) :
    ∃ orders vehicles, loader.listOrders = .ok orders ∧ loader.listVehicles = .ok vehicles ∧
      ∀ order ∈ orders, loader.Validated order := by
  unfold validateAll at h
  obtain ⟨orders, horders, h⟩ := bind_eq_ok_iff.mp h
  split_ifs at h
  · cases h
  · obtain ⟨vehicles, hvehicles, h⟩ := bind_eq_ok_iff.mp h
    obtain ⟨units, hunits, -⟩ := bind_eq_ok_iff.mp h
    refine ⟨orders, vehicles, horders, hvehicles, fun order hmem => ?_⟩
    obtain ⟨u, -, hvalidated⟩ := (mem_of_mapM hunits).1 order hmem
    exact validateOrder_ok hvalidated

theorem getOrder_ok_iff {stem : String} {order : Order} :
    loader.getOrder stem = .ok order ↔ Dict.lookupEntries stem loader.orders = some order := by
  unfold getOrder
  cases Dict.lookupEntries stem loader.orders <;> simp

/-- A scenario is read for an order that has a file. -/
theorem getOrder_of_getScenario {orderId : String} {scenario : ScenarioName}
    {config : ScenarioConfig} (h : loader.getScenario orderId scenario = .ok config) :
    ∃ order, loader.getOrder orderId = .ok order := by
  unfold getScenario at h
  dsimp only at h
  split at h
  · cases h
  · split_ifs at h
    · cases h
    · obtain ⟨prior, -, h⟩ := bind_eq_ok_iff.mp h
      obtain ⟨weight, -, h⟩ := bind_eq_ok_iff.mp h
      obtain ⟨vehicles, -, h⟩ := bind_eq_ok_iff.mp h
      obtain ⟨order, horder, -⟩ := bind_eq_ok_iff.mp h
      exact ⟨order, horder⟩

theorem mem_of_lookupEntries {κ α : Type} [DecidableEq κ] {k : κ} {v : α}
    {entries : List (κ × α)} (h : Dict.lookupEntries k entries = some v) : (k, v) ∈ entries := by
  induction entries with
  | nil => cases h
  | cons entry rest ih =>
      unfold Dict.lookupEntries at h
      split_ifs at h with hkey
      · obtain rfl := Option.some.inj h
        exact hkey ▸ List.mem_cons_self
      · exact List.mem_cons_of_mem _ (ih h)

/-- Every order file is named after some record: the identifiers of the records are names of
files, they are distinct, and there are as many as files. -/
theorem validated_stem {orders : List Order} (horders : loader.listOrders = .ok orders)
    (hnamed : ∀ order ∈ orders, ∃ other, loader.getOrder order.orderId = .ok other)
    {stem : String} {order : Order} (hstem : (stem, order) ∈ loader.orders) :
    ∃ record ∈ orders, record.orderId = stem := by
  obtain ⟨-, hnodup, hlength⟩ := listOrders_ok horders
  have hsubset : (orders.map (·.orderId)).toFinset ⊆ (loader.orders.map Prod.fst).toFinset := by
    intro id hid
    obtain ⟨record, hrecord, rfl⟩ := List.mem_map.mp (List.mem_toFinset.mp hid)
    obtain ⟨other, hother⟩ := hnamed record hrecord
    have hmem := mem_of_lookupEntries (getOrder_ok_iff.mp hother)
    exact List.mem_toFinset.mpr (List.mem_map.mpr ⟨_, hmem, rfl⟩)
  have hcard : (loader.orders.map Prod.fst).toFinset.card ≤ (orders.map (·.orderId)).toFinset.card := by
    rw [List.toFinset_card_of_nodup hnodup, List.length_map, hlength]
    exact (List.toFinset_card_le _).trans (List.length_map ..).le
  have hsame := Finset.eq_of_subset_of_card_le hsubset hcard
  have hmem : stem ∈ (orders.map (·.orderId)).toFinset := by
    rw [hsame]
    exact List.mem_toFinset.mpr (List.mem_map.mpr ⟨_, hstem, rfl⟩)
  obtain ⟨record, hrecord, hid⟩ := List.mem_map.mp (List.mem_toFinset.mp hmem)
  exact ⟨record, hrecord, hid⟩

/-! ## What a run reads -/

/-- A mandate does not depend on the mode it is issued for. -/
theorem getMandate_mode {order : Order} {mode : GovernanceMode} {mandate : ShipmentMandate}
    (h : loader.getMandate order mode = .ok mandate) (mode' : GovernanceMode) :
    loader.getMandate order mode' = .ok { mandate with mode := mode' } := by
  unfold getMandate at h ⊢
  dsimp only at h ⊢
  split at h
  · cases h
  · split_ifs at h ⊢
    · cases h
    · cases h
    · cases h
    · cases h
    · cases h
    split at h
    · cases h
    · obtain ⟨ceiling, hceiling, h⟩ := bind_eq_ok_iff.mp h
      obtain ⟨threshold, hthreshold, h⟩ := bind_eq_ok_iff.mp h
      rw [hceiling, hthreshold]
      dsimp only [bind, Except.bind]
      split_ifs at h ⊢
      · cases h
      · cases h
        rfl

/-- A scenario's preferences are among what the fixtures list. -/
theorem getScenario_lists {orderId : String} {scenario : ScenarioName} {config : ScenarioConfig}
    {order : Order} (horder : loader.getOrder orderId = .ok order)
    (h : loader.getScenario orderId scenario = .ok config) :
    (∃ vehicles, loader.listVehicles = .ok vehicles ∧
      config.preferredVehicleId ∈ vehicles.map (·.vehicleId)) ∧
    ∃ quotes, loader.listCarrierQuotes order.destinationZone = .ok quotes ∧
      config.preferredQuoteId ∈ quotes.map (·.quoteId) := by
  unfold getScenario at h
  dsimp only at h
  split at h
  · cases h
  · split_ifs at h
    · cases h
    · obtain ⟨prior, -, h⟩ := bind_eq_ok_iff.mp h
      obtain ⟨weight, -, h⟩ := bind_eq_ok_iff.mp h
      obtain ⟨vehicles, hvehicles, h⟩ := bind_eq_ok_iff.mp h
      obtain ⟨other, hother, h⟩ := bind_eq_ok_iff.mp h
      obtain rfl := Except.ok.inj (horder.symm.trans hother)
      obtain ⟨quotes, hquotes, h⟩ := bind_eq_ok_iff.mp h
      split_ifs at h with hvehicle hquote
      · cases h
      · cases h
      · cases h
        exact ⟨⟨vehicles, hvehicles, by simpa using hvehicle⟩, quotes, hquotes,
          by simpa using hquote⟩

/-- What the tools of a run read off the fixtures. -/
structure Supplied [Sha256] (loader : FixtureLoader) (order : Order) (config : ScenarioConfig) :
    Prop where
  fact : ∃ fact, loader.getInventoryFact order = .ok fact
  vehicles : ∃ vehicles, loader.listVehicles = .ok vehicles ∧
    config.preferredVehicleId ∈ vehicles.map (·.vehicleId)
  quotes : ∃ quotes, loader.listCarrierQuotes order.destinationZone = .ok quotes ∧
    config.preferredQuoteId ∈ quotes.map (·.quoteId)

theorem validated_supplied [Sha256] (hvalid : loader.validateAll = .ok ()) {orderId : String}
    {order : Order} (horder : loader.getOrder orderId = .ok order) (mode : GovernanceMode)
    (scenario : ScenarioName) :
    ∃ mandate config, loader.getMandate order mode = .ok mandate ∧
      loader.getScenario orderId scenario = .ok config ∧ loader.Supplied order config := by
  obtain ⟨orders, vehicles, horders, -, hall⟩ := validateAll_ok hvalid
  have hfile := mem_of_lookupEntries (getOrder_ok_iff.mp horder)
  have hnamed : ∀ record ∈ orders, ∃ other, loader.getOrder record.orderId = .ok other := by
    intro record hrecord
    obtain ⟨config, hconfig⟩ := (hall record hrecord).scenarios .benign
    exact getOrder_of_getScenario hconfig
  obtain ⟨record, hrecord, rfl⟩ := validated_stem horders hnamed hfile
  have hvalidated := hall order ((listOrders_ok horders).1 order |>.mpr ⟨_, hfile⟩)
  obtain ⟨mandate, hmandate⟩ := hvalidated.mandate
  obtain ⟨config, hconfig⟩ := (hall record hrecord).scenarios scenario
  obtain ⟨hvehicles, hquotes⟩ := getScenario_lists horder hconfig
  exact ⟨_, config, getMandate_mode hmandate mode, hconfig, hvalidated.fact, hvehicles, hquotes⟩

/-- The shipped fixtures are valid. -/
theorem validateAll_shipped : Demo.loader.validateAll = .ok () := by
  decide +kernel

end Manifest.FixtureLoader
