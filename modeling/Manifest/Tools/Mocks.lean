import Manifest.Fixtures
import Manifest.Tools.Registry

/-!
# Deterministic logistics adapters

The process-local adapter behind the registry.  Its caches are keyed by
idempotency key and are lost when the process restarts.

Main results:

- Definition `MockLogisticsTools.execute`: the registry's dispatch to a handler.
- Theorem `storeIdempotently_ok`: a successful store returns a payload equal to
  the requested one, and keeps every other entry.
-/

set_option autoImplicit false

namespace Manifest

/-- A cache of payloads under idempotency keys. -/
abbrev Cache := List (Value × Kwargs)

/-- The adapter's process-local maps. -/
structure MockLogisticsTools where
  dispatchPlans : Cache := []
  carrierSelections : Cache := []
  outbox : Cache := []
  preparedBookings : Cache := []
  confirmedBookings : Cache := []
  cancelledBookings : Cache := []

namespace MockLogisticsTools

def fixtureError {α : Type} (message : String) : Except PyError α :=
  .error ⟨.fixture, message⟩

/-- `TypeError`: a wrong keyword, an unhashable key, an unordered comparison. -/
def typeError {α : Type} : Except PyError α :=
  .error (.ofPython "TypeError")

/-! ## Caches -/

/-- `store.get(key)`. -/
def Cache.get? (store : Cache) (key : Value) : Option Kwargs :=
  (store.find? fun entry => entry.1.pyEq key).map Prod.snd

/-- The values of `item["prepared_action_id"]` over a cache. -/
def Cache.preparedIds (store : Cache) : List Value :=
  store.map fun entry => entry.2.get "prepared_action_id"

/-- `_store_idempotently`, followed by reading the entry back. -/
def storeIdempotently (store : Cache) (key : Value) (payload : Kwargs) :
    Except PyError (Kwargs × Cache) :=
  if key.hashable = false then typeError
  else
    match Cache.get? store key with
    | some existing =>
        if (Value.dict existing).pyEq (.dict payload) then .ok (existing, store)
        else
          let text := key.pyStr
          .error ⟨.idempotencyConflict,
            s!"Idempotency key {text} was reused with different arguments."⟩
    | none => .ok (payload, store ++ [(key, payload)])

/-- `value in set_of_values`. -/
def memberOf (value : Value) (values : List Value) : Except PyError Bool :=
  if value.hashable then .ok (values.any fun other => other.pyEq value) else typeError

/-! ## Keyword binding -/

/-- Python's keyword binding: every required parameter, and no unknown one. -/
def bindKwargs (required optional : List String) (args : Kwargs) : Except PyError Unit :=
  if required.all args.has && args.keys.all (fun key => (required ++ optional).contains key)
  then .ok ()
  else typeError

/-- `list_carrier_quotes(zone)` for a dynamically typed zone. -/
def quotesForZone (loader : FixtureLoader) : Value → Except PyError (List CarrierQuote)
  | .str zone => loader.listCarrierQuotes zone
  | _ => do
      FixtureLoader.ensureUnique (loader.carriers.map (·.quote.quoteId)) "quote"
      .ok []

/-- `quotes.get(quote_id)` over a mapping by quote ID. -/
def findQuote (quotes : List CarrierQuote) (quoteId : Value) :
    Except PyError (Option CarrierQuote) :=
  if quoteId.hashable then .ok (quotes.find? fun quote => quoteId.pyEq (.str quote.quoteId))
  else typeError

/-- `vehicles.get(vehicle_id)` over a mapping by vehicle ID. -/
def findVehicle (vehicles : List Vehicle) (vehicleId : Value) :
    Except PyError (Option Vehicle) :=
  if vehicleId.hashable then
    .ok (vehicles.find? fun vehicle => vehicleId.pyEq (.str vehicle.vehicleId))
  else typeError

/-- `capacity < weight` for a dynamically typed weight. -/
def capacityBelow (capacity : Int) (weight : Value) : Except PyError Bool :=
  match weight.number? with
  | some w => .ok ((capacity : Rat) < w)
  | none => typeError

/-! ## Handlers -/

variable (loader : FixtureLoader)

def getOrder (args : Kwargs) : Except PyError ToolValue := do
  bindKwargs ["order_id"] [] args
  let order ← loader.getOrder (args.get "order_id").pyStr
  .ok (.order order)

def checkInventory [Sha256] (args : Kwargs) : Except PyError ToolValue := do
  bindKwargs ["order_id", "sku_id", "quantity"] [] args
  let orderId := (args.get "order_id").pyStr
  let order ← loader.getOrder orderId
  if (args.get "sku_id").pyEq (.str order.skuId) = false ||
      (args.get "quantity").pyEq (.int order.quantity) = false then
    fixtureError s!"Inventory request does not match order {orderId}."
  else
    let fact ← loader.getInventoryFact order
    .ok (.fact fact)

def listAvailableVehicles (args : Kwargs) : Except PyError ToolValue := do
  bindKwargs ["destination_zone"] [] args
  if (args.get "destination_zone").truthy = false then
    fixtureError "A destination zone is required."
  else
    let vehicles ← loader.listVehicles
    .ok (.vehicles (vehicles.filter (·.available)))

def createDispatchPlan (args : Kwargs) (mocks : MockLogisticsTools) :
    Except PyError (Kwargs × MockLogisticsTools) := do
  bindKwargs ["order_id", "vehicle_id", "idempotency_key"]
    ["weight_kg", "weight_value", "weight_unit", "weight_fact_id"] args
  let weight := match args.get "weight_value" with
    | .none => args.get "weight_kg"
    | value => value
  let unit := args.getD "weight_unit" (.str "kg")
  match weight, unit.pyEq (.str "kg") with
  | .none, _ => fixtureError "Dispatch requires a weight expressed in kg."
  | _, false => fixtureError "Dispatch requires a weight expressed in kg."
  | _, true => do
      let vehicles ← loader.listVehicles
      let vehicleId := args.get "vehicle_id"
      let vehicleText := vehicleId.pyStr
      match ← findVehicle vehicles vehicleId with
      | none => fixtureError s!"Vehicle {vehicleText} was not found."
      | some vehicle => do
          -- `or` skips the comparison for an unavailable vehicle.
          let below ← if vehicle.available then capacityBelow vehicle.capacityKg weight
            else .ok true
          let weightText := weight.pyStr
          if below then
            fixtureError s!"Vehicle {vehicleText} cannot carry {weightText} kg."
          else
            let orderText := (args.get "order_id").pyStr
            let payload : Kwargs :=
              [("plan_id", .str s!"PLAN-{orderText}-{vehicleText}"),
                ("order_id", args.get "order_id"), ("vehicle_id", vehicleId),
                ("weight_kg", weight), ("weight_fact_id", args.get "weight_fact_id")]
            let (stored, cache) ←
              storeIdempotently mocks.dispatchPlans (args.get "idempotency_key") payload
            .ok (stored, { mocks with dispatchPlans := cache })

def listCarrierQuotes (args : Kwargs) : Except PyError ToolValue := do
  bindKwargs ["order_id", "destination_zone"] [] args
  let _ ← loader.getOrder (args.get "order_id").pyStr
  let quotes ← quotesForZone loader (args.get "destination_zone")
  .ok (.quotes quotes)

def selectCarrierQuote (args : Kwargs) (mocks : MockLogisticsTools) :
    Except PyError (Kwargs × MockLogisticsTools) := do
  bindKwargs ["order_id", "quote_id", "idempotency_key"] [] args
  let orderText := (args.get "order_id").pyStr
  let quoteText := (args.get "quote_id").pyStr
  let order ← loader.getOrder orderText
  let quotes ← loader.listCarrierQuotes order.destinationZone
  match ← findQuote quotes (args.get "quote_id") with
  | none => fixtureError s!"Quote {quoteText} was not found for {orderText}."
  | some _ => do
      let payload : Kwargs :=
        [("selection_id", .str s!"SELECTION-{orderText}-{quoteText}"),
          ("order_id", args.get "order_id"), ("quote_id", args.get "quote_id")]
      let (stored, cache) ←
        storeIdempotently mocks.carrierSelections (args.get "idempotency_key") payload
      .ok (stored, { mocks with carrierSelections := cache })

def prepareFreightBooking (args : Kwargs) (mocks : MockLogisticsTools) :
    Except PyError (Kwargs × MockLogisticsTools) := do
  bindKwargs ["order_id", "quote_id", "amount_minor", "currency", "idempotency_key"] [] args
  let orderText := (args.get "order_id").pyStr
  let quoteText := (args.get "quote_id").pyStr
  let order ← loader.getOrder orderText
  match args.get "amount_minor" with
  | .int amount =>
      if amount < 0 then fixtureError "Booking amount must be a non-negative integer."
      else do
        let quotes ← loader.listCarrierQuotes order.destinationZone
        match ← findQuote quotes (args.get "quote_id") with
        | none => fixtureError "Prepared booking does not match the selected quote."
        | some quote =>
            if quote.amountMinor ≠ amount ||
                (args.get "currency").pyEq (.str quote.currency) = false then
              fixtureError "Prepared booking does not match the selected quote."
            else do
              let payload : Kwargs :=
                [("prepared_action_id", .str s!"PREP-{orderText}-{quoteText}"),
                  ("order_id", args.get "order_id"), ("quote_id", args.get "quote_id"),
                  ("amount_minor", .int amount), ("currency", args.get "currency")]
              let (stored, cache) ←
                storeIdempotently mocks.preparedBookings (args.get "idempotency_key") payload
              .ok (stored, { mocks with preparedBookings := cache })
  | _ => fixtureError "Booking amount must be a non-negative integer."

def confirmFreightBooking (args : Kwargs) (mocks : MockLogisticsTools) :
    Except PyError (Kwargs × MockLogisticsTools) := do
  bindKwargs ["prepared_action_id", "action_hash", "idempotency_key"] [] args
  let preparedId := args.get "prepared_action_id"
  let idText := preparedId.pyStr
  if preparedId.truthy = false || (args.get "action_hash").truthy = false then
    fixtureError "Confirmation requires a prepared action and hash."
  else
    let preparedIds := Cache.preparedIds mocks.preparedBookings
    let known ← memberOf preparedId preparedIds
    -- An adapter without any preparation of its own trusts the durable state.
    if preparedIds.isEmpty = false && known = false then
      fixtureError s!"Prepared booking {idText} was not found."
    else
      let cancelled ← memberOf preparedId (Cache.preparedIds mocks.cancelledBookings)
      if cancelled then fixtureError s!"Prepared booking {idText} was cancelled."
      else
        let payload : Kwargs :=
          [("confirmation_id", .str s!"CONFIRM-{idText}"),
            ("prepared_action_id", preparedId), ("action_hash", args.get "action_hash")]
        let (stored, cache) ←
          storeIdempotently mocks.confirmedBookings (args.get "idempotency_key") payload
        .ok (stored, { mocks with confirmedBookings := cache })

def cancelFreightBooking (args : Kwargs) (mocks : MockLogisticsTools) :
    Except PyError (Kwargs × MockLogisticsTools) := do
  bindKwargs ["prepared_action_id", "action_hash", "cancellation_reason_code",
    "idempotency_key"] [] args
  let preparedId := args.get "prepared_action_id"
  let idText := preparedId.pyStr
  if preparedId.truthy = false || (args.get "action_hash").truthy = false ||
      (args.get "cancellation_reason_code").truthy = false then
    fixtureError "Cancellation requires a prepared action, hash, and reason."
  else
    let preparedIds := Cache.preparedIds mocks.preparedBookings
    let known ← memberOf preparedId preparedIds
    if preparedIds.isEmpty = false && known = false then
      fixtureError s!"Prepared booking {idText} was not found."
    else
      let confirmed ← memberOf preparedId (Cache.preparedIds mocks.confirmedBookings)
      if confirmed then fixtureError s!"Prepared booking {idText} is already confirmed."
      else
        let payload : Kwargs :=
          [("cancellation_id", .str s!"CANCEL-{idText}"),
            ("prepared_action_id", preparedId), ("status", .str "cancelled"),
            ("reason_code", args.get "cancellation_reason_code")]
        let (stored, cache) ←
          storeIdempotently mocks.cancelledBookings (args.get "idempotency_key") payload
        .ok (stored, { mocks with cancelledBookings := cache })

/-- `message is not None and not message.strip()`; only strings have `strip`. -/
def blankMessage : Value → Except PyError Bool
  | .none => .ok false
  | .str text => .ok (isBlank text)
  | _ => .error (.ofPython "AttributeError")

def writeTrackingOutbox (args : Kwargs) (mocks : MockLogisticsTools) :
    Except PyError (Kwargs × MockLogisticsTools) := do
  bindKwargs ["order_id"] ["message", "idempotency_key", "recipient_ref", "template_id",
    "template_variables"] args
  let orderText := (args.get "order_id").pyStr
  let _ ← loader.getOrder orderText
  let message := args.get "message"
  let templateText := (args.get "template_id").pyStr
  if ← blankMessage message then fixtureError "Tracking message cannot be empty."
  else if message.truthy = false &&
      ((args.get "recipient_ref").truthy = false || (args.get "template_id").truthy = false) then
    fixtureError "Tracking notification requires a recipient and template."
  else if (args.get "idempotency_key").truthy = false then
    fixtureError "Tracking notification requires an idempotency key."
  else
    let rendered := if message.truthy then message
      else .str s!"Synthetic {templateText} for {orderText}."
    let vars := if (args.get "template_variables").truthy
      then args.get "template_variables" else .dict []
    let payload : Kwargs :=
      [("notification_id", .str s!"NOTIFY-{orderText}"), ("order_id", args.get "order_id"),
        ("recipient_ref", args.get "recipient_ref"), ("template_id", args.get "template_id"),
        ("template_variables", vars), ("rendered_message", rendered),
        ("delivery", .str "simulated_outbox")]
    let (stored, cache) ←
      storeIdempotently mocks.outbox (args.get "idempotency_key") payload
    .ok (stored, { mocks with outbox := cache })

/-! ## Dispatch -/

/-- A read handler leaves the adapter alone. -/
def reading (mocks : MockLogisticsTools) (result : Except PyError ToolValue) :
    Except PyError ToolValue × MockLogisticsTools :=
  (result, mocks)

/-- A write handler returns its stored payload, or raises and stores nothing. -/
def writing (mocks : MockLogisticsTools)
    (result : Except PyError (Kwargs × MockLogisticsTools)) :
    Except PyError ToolValue × MockLogisticsTools :=
  match result with
  | .ok (payload, mocks') => (.ok (.dict payload), mocks')
  | .error x => (.error x, mocks)

/-- `ToolRegistry.execute`. -/
def execute [Sha256] (toolName : String) (args : Kwargs) (mocks : MockLogisticsTools) :
    Except PyError ToolValue × MockLogisticsTools :=
  match toolName with
  | "get_order" => reading mocks (getOrder loader args)
  | "check_inventory" => reading mocks (checkInventory loader args)
  | "list_available_vehicles" => reading mocks (listAvailableVehicles loader args)
  | "create_dispatch_plan" => writing mocks (createDispatchPlan loader args mocks)
  | "list_carrier_quotes" => reading mocks (listCarrierQuotes loader args)
  | "select_carrier_quote" => writing mocks (selectCarrierQuote loader args mocks)
  | "prepare_freight_booking" => writing mocks (prepareFreightBooking loader args mocks)
  | "confirm_freight_booking" => writing mocks (confirmFreightBooking args mocks)
  | "cancel_freight_booking" => writing mocks (cancelFreightBooking args mocks)
  | "write_tracking_outbox" => writing mocks (writeTrackingOutbox loader args mocks)
  | _ => (.error ⟨.unknownTool, s!"Tool {toolName} is not registered."⟩, mocks)

/-! ## What a store returns -/

/-- A successful store returns a payload equal to the requested one. -/
theorem storeIdempotently_ok {store store' : Cache} {key : Value} {payload stored : Kwargs}
    (h : storeIdempotently store key payload = .ok (stored, store')) :
    stored = payload ∨ (Value.dict stored).pyEq (.dict payload) = true := by
  unfold storeIdempotently at h
  split at h
  · cases h
  · split at h
    · split at h
      · rename_i hsame
        cases h
        exact .inr hsame
      · cases h
    · cases h
      exact .inl rfl

end MockLogisticsTools

end Manifest
