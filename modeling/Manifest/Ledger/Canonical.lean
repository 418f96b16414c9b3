import Manifest.Domain.Models
import Mathlib.Algebra.Order.Ring.Int

/-!
# Canonical serialization and hashing of ledger events

Timestamps are printed in UTC with microseconds, payloads as compact JSON with
sorted keys, and an event hash covers every field except itself.
-/

set_option autoImplicit false

namespace Manifest

/-! ## Timestamps as text -/

/-- Decimal digits of `n`, padded with zeros to `width`. -/
def padded (width n : Nat) : String :=
  let digits := (toString n).toList
  String.ofList (List.replicate (width - digits.length) '0' ++ digits)

/-- A UTC date and time. -/
structure CivilTime where
  year : Int
  month : Nat
  day : Nat
  hour : Nat
  minute : Nat
  second : Nat
  microsecond : Nat
deriving DecidableEq

/-- Proleptic Gregorian date of a day number, counting from 1970-01-01. -/
def civilOfDays (days : Int) : Int × Nat × Nat :=
  -- The era arithmetic starts the year in March, so that leap days come last.
  let z := days + 719468
  let era := z / 146097
  let dayOfEra := (z - era * 146097).toNat
  let yearOfEra :=
    (dayOfEra - dayOfEra / 1460 + dayOfEra / 36524 - dayOfEra / 146096) / 365
  let dayOfYear := dayOfEra - (365 * yearOfEra + yearOfEra / 4 - yearOfEra / 100)
  let monthIndex := (5 * dayOfYear + 2) / 153
  let day := dayOfYear - (153 * monthIndex + 2) / 5 + 1
  let month := if monthIndex < 10 then monthIndex + 3 else monthIndex - 9
  let year := (yearOfEra : Int) + era * 400
  (if month ≤ 2 then year + 1 else year, month, day)

/-- The UTC fields of an instant. -/
def Timestamp.civil (t : Timestamp) : CivilTime :=
  let days := t / 86400000000
  let rest := (t - days * 86400000000).toNat
  let (year, month, day) := civilOfDays days
  { year := year, month := month, day := day
    hour := rest / 3600000000
    minute := rest / 60000000 % 60
    second := rest / 1000000 % 60
    microsecond := rest % 1000000 }

/-- Date and time without a fraction. -/
def CivilTime.seconds (c : CivilTime) : String :=
  padded 4 c.year.toNat ++ "-" ++ padded 2 c.month ++ "-" ++ padded 2 c.day ++ "T" ++
    padded 2 c.hour ++ ":" ++ padded 2 c.minute ++ ":" ++ padded 2 c.second

/-- `isoformat(timespec="microseconds")` with `Z`. -/
def Timestamp.isoMicroseconds (t : Timestamp) : String :=
  t.civil.seconds ++ "." ++ padded 6 t.civil.microsecond ++ "Z"

/-! ## Event hashing -/

def ledgerSchemaVersion : String := "ledger-event-v1"

/-- `"sha256:"` followed by 64 zeros. -/
def genesisHash : String :=
  "sha256:0000000000000000000000000000000000000000000000000000000000000000"

/-- `canonical_json`. -/
def canonicalJson (value : Value) : String :=
  value.dumps false

/-- `hash_payload`. -/
def hashPayload [Sha256] (payload : Kwargs) : String :=
  Sha256.tagged (canonicalJson (.dict payload))

/-- `event_hash_payload`. -/
def eventHashPayload (event : TraceEvent) : Kwargs :=
  [ ("agent", optStr (event.agent.map (·.value))),
    ("details", .dict event.details),
    ("effect_class", optStr (event.effectClass.map (·.value))),
    ("event_id", .str event.eventId),
    ("event_type", .str event.eventType.value),
    ("idempotency_key", optStr event.idempotencyKey),
    ("occurred_at", .str event.occurredAt.isoMicroseconds),
    ("previous_hash", .str event.previousHash),
    ("schema_version", .str event.schemaVersion),
    ("sequence", .int event.sequence),
    ("summary", .str event.summary),
    ("tool_name", optStr event.toolName),
    ("trace_id", .str event.traceId) ]

/-- `calculate_event_hash`. -/
def calculateEventHash [Sha256] (event : TraceEvent) : String :=
  hashPayload (eventHashPayload event)

/-- The fields a caller supplies when appending an event. -/
structure EventSpec where
  eventType : EventType
  summary : String
  details : Kwargs := []
  agent : Option AgentName := none
  toolName : Option String := none
  effectClass : Option EffectClass := none
  idempotencyKey : Option String := none

/-- `event_description_fingerprint`: the caller's fields, for replay checks. -/
def eventDescriptionFingerprint [Sha256] (traceId : String) (spec : EventSpec)
    (idempotencyKey : String) : String :=
  hashPayload
    [ ("agent", optStr (spec.agent.map (·.value))),
      ("details", .dict spec.details),
      ("effect_class", optStr (spec.effectClass.map (·.value))),
      ("event_type", .str spec.eventType.value),
      ("idempotency_key", .str idempotencyKey),
      ("schema_version", .str ledgerSchemaVersion),
      ("summary", .str spec.summary),
      ("tool_name", optStr spec.toolName),
      ("trace_id", .str traceId) ]

/-- `opaque_key_hash`: an idempotency key cannot be empty. -/
def opaqueKeyHash [Sha256] (key : String) : Except PyError String :=
  if key = "" then
    .error ⟨.storageConfiguration, "An idempotency key cannot be empty."⟩
  else .ok (Sha256.hexdigest key)

example : Timestamp.isoMicroseconds 1709208000000001 = "2024-02-29T12:00:00.000001Z" := by
  decide +kernel

end Manifest
