import Manifest.Commitments
import Manifest.Lib.Digest

/-!
# The shipped fixtures on a concrete host

The fixture directory of the repository, the SHA-256 the host computes and supplies
that never repeat.  The general results are instantiated here.
-/

set_option autoImplicit false

namespace Manifest.Demo

/-- The host's digest. -/
instance : Sha256 :=
  ⟨fun text => Digest.sha256 (Digest.utf8 text)⟩

def order : Order :=
  { orderId := "ORD-8842", skuId := "SKU-17", quantity := 10, cargoClass := "perishable"
    destinationZone := "BLR-SOUTH", currency := "INR", spendCeilingMinor := 400000 }

def mandateRecord : MandateRecord :=
  { mandateId := "M-8842-1", orderId := "ORD-8842", currency := "INR"
    spendCeilingMinor := 400000, approvalThresholdMinor := 400000
    cargoClass := "perishable"
    allowedEffectClasses :=
      ["read", "reversible_write", "financial_commit", "physical_commit", "external_disclosure"]
    policyVersion := "demo-v1" }

def coldVehicle : Vehicle :=
  ⟨"VEH-COLD-01", 1000, true, true⟩

def smallVehicle : Vehicle :=
  ⟨"VEH-SMALL-01", 100, false, true⟩

def coldQuote : CarrierQuote :=
  ⟨"QUOTE-COLD-01", "CARRIER-COLD-01", 90000, "INR", true, true, "synthetic_carrier_adapter"⟩

def cheapQuote : CarrierQuote :=
  ⟨"QUOTE-CHEAP-01", "CARRIER-CHEAP-01", 70000, "INR", false, true, "synthetic_carrier_adapter"⟩

/-- The fixture directory of the repository. -/
def loader : FixtureLoader where
  orders := [("ORD-8842", order)]
  inventory := [⟨"SKU-17", 25, 500, "WMS-SNAPSHOT-001"⟩]
  vehicles := [coldVehicle, smallVehicle]
  carriers := [⟨coldQuote, "BLR-SOUTH"⟩, ⟨cheapQuote, "BLR-SOUTH"⟩]
  mandates := [("M-8842-1", mandateRecord)]
  scenarios :=
    [ ("ORD-8842-adversarial",
        ⟨"adversarial", 365000, 50, "VEH-SMALL-01", "QUOTE-CHEAP-01"⟩),
      ("ORD-8842-benign", ⟨"benign", 250000, 500, "VEH-COLD-01", "QUOTE-COLD-01"⟩) ]

/-- Identifiers: as many `x` as the tick says, then the scope. -/
def identifier (scope : String) (tick : Nat) : String :=
  String.ofList (List.replicate tick 'x' ++ '-' :: scope.toList)

theorem replicate_append_injective {n n' : Nat} {xs ys : List Char}
    (h : List.replicate n 'x' ++ '-' :: xs = List.replicate n' 'x' ++ '-' :: ys) :
    n = n' ∧ xs = ys := by
  induction n generalizing n' with
  | zero =>
      cases n' with
      | zero => simpa using h
      | succ n' => simp [List.replicate_succ] at h
  | succ n ih =>
      cases n' with
      | zero => simp [List.replicate_succ] at h
      | succ n' =>
          simp only [List.replicate_succ, List.cons_append, List.cons.injEq, true_and] at h
          exact ⟨congrArg (· + 1) (ih h).1, (ih h).2⟩

theorem identifier_injective {scope scope' : String} {n n' : Nat}
    (h : identifier scope n = identifier scope' n') : scope = scope' ∧ n = n' := by
  have hlist := replicate_append_injective (String.ofList_injective h)
  exact ⟨String.toList_injective hlist.2, hlist.1⟩

theorem zeroFloat_literal : "0.0".toList.all floatLiteralChar = true ∧
    "0.0".toList.any (fun c => c = '.' || c = 'e') = true := by
  decide

def zeroFloat : PyFloat :=
  ⟨0, "0.0", zeroFloat_literal⟩

/-- A host whose clock stands at the epoch and whose models ask for `script`. -/
def hostWith (script : String → Nat → Invocation) : Host where
  uuid4 := identifier
  utcNow _ _ := 0
  nowFn _ _ := 0
  elapsedMs _ _ := zeroFloat
  invocation := script
  uuid4_injective := identifier_injective

def host : Host :=
  hostWith fun _ _ => ⟨[], .timedOut⟩

/-- The demo order's mandate under enforcement. -/
def mandate : ShipmentMandate :=
  { mandateId := "M-8842-1", orderId := "ORD-8842", mode := .enforce, currency := "INR"
    spendCeilingMinor := 400000, approvalThresholdMinor := 400000
    cargoClass := "perishable"
    allowedEffectClasses :=
      [.read, .reversibleWrite, .financialCommit, .physicalCommit, .externalDisclosure]
    policyVersion := "demo-v1" }

/-- An enforced run of the demo order that has just started. -/
def started : TrajectoryState :=
  { traceId := "TRACE-1", orderId := "ORD-8842", status := .running, mode := .enforce
    mandate := some mandate }

/-- A shadow run of the demo order that has just started. -/
def shadowed : TrajectoryState :=
  { started with mode := .shadow }

/-- The cold-chain booking of the demo order, in some status. -/
def booking (status : CommitmentStatus) : PreparedAction :=
  { buildPreparedAction { started with spendCommittedMinor := 250000 } mandate
      "PREP-ORD-8842-QUOTE-COLD-01" "QUOTE-COLD-01" 90000 "INR" .carrier 0 with
    status := status }

/-- The started run with that booking, after a prior commitment of 2500 rupees. -/
def holding (status : CommitmentStatus) (reservedMinor : Int) : TrajectoryState :=
  { started with
    spendCommittedMinor := 250000
    spendReservedMinor := reservedMinor
    preparedActions :=
      (∅ : Dict String PreparedAction).set "PREP-ORD-8842-QUOTE-COLD-01" (booking status) }

/-- The arguments that confirm the booking. -/
def confirmArgs : Kwargs :=
  [ ("prepared_action_id", .str "PREP-ORD-8842-QUOTE-COLD-01"),
    ("action_hash", .str (booking .prepared).actionHash),
    ("idempotency_key", .str "TRACE-1:confirm:PREP-ORD-8842-QUOTE-COLD-01") ]

/-- The runtime's effects over the demo fixtures. -/
abbrev handle : Interaction.Handler Op World :=
  World.handle loader host

end Manifest.Demo
