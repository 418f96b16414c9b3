import Manifest.Demo
import Manifest.Ledger.Canonical
import Manifest.Lib.HashChain
import Manifest.Lib.JsonText

/-!
# Verification of an event chain

`verify_chain` walks the events of a trace, recomputes every hash and compares the result
with the stored head.

Main results:

- Theorem `verifyChain_valid_iff`: what a valid verdict says about the list and the head.
- Theorem `sameHashed_of_payload`: the canonical text of an event's payload determines
  every hashed field.
- Theorem `verifyChain_evident`: a head admits one list of events, up to canonical form.
-/

set_option autoImplicit false

namespace Manifest

open HashChain

/-! ## The verifier -/

structure VerificationResult where
  traceId : String
  valid : Bool
  checkedEventCount : Nat
  firstBadSequence : Option Nat
  failureCode : Option String
  storedHeadSequence : Nat
  storedHeadHash : String
  computedHeadHash : String
  algorithm : String
  schemaVersion : String
  verifiedAt : Timestamp

def hashAlgorithm : String := "sha256"

/-- The loop variables of `verify_chain`. -/
structure ChainCursor where
  expectedSequence : Nat := 1
  expectedPreviousHash : String := genesisHash
  computedHeadHash : String := genesisHash
  checked : Nat := 0

/-- A failure code and the sequence it is reported at. -/
abbrev ChainFailure := String × Nat

section Verifier

variable [Sha256] (traceId : String)

/-- One round of the loop. -/
def checkEvent (cursor : ChainCursor) (event : TraceEvent) : Except ChainFailure ChainCursor :=
  if event.sequence ≠ cursor.expectedSequence then
    .error ("SEQUENCE_MISMATCH", cursor.expectedSequence)
  else if event.traceId ≠ traceId then .error ("TRACE_ID_MISMATCH", event.sequence)
  else if event.schemaVersion ≠ ledgerSchemaVersion then
    .error ("SCHEMA_VERSION_MISMATCH", event.sequence)
  else if event.previousHash ≠ cursor.expectedPreviousHash then
    .error ("PREVIOUS_HASH_MISMATCH", event.sequence)
  else
    let recomputed := calculateEventHash event
    if event.eventHash ≠ recomputed then .error ("EVENT_HASH_MISMATCH", event.sequence)
    else
      .ok
        { expectedSequence := cursor.expectedSequence + 1
          expectedPreviousHash := recomputed
          computedHeadHash := recomputed
          checked := cursor.checked + 1 }

/-- The loop; a failure comes with the variables as they were. -/
def checkEvents : ChainCursor → List TraceEvent → Except (ChainFailure × ChainCursor) ChainCursor
  | cursor, [] => .ok cursor
  | cursor, event :: rest =>
      match checkEvent traceId cursor event with
      | .ok cursor => checkEvents cursor rest
      | .error failure => .error (failure, cursor)

/-- The checks after the loop. -/
def checkHead (events : List TraceEvent) (head : LedgerHead) (cursor : ChainCursor) :
    Except ChainFailure Unit :=
  if events.length ≠ head.eventCount then
    .error ("EVENT_COUNT_MISMATCH", cursor.expectedSequence)
  else if head.sequence ≠ events.length then
    .error ("HEAD_SEQUENCE_MISMATCH", cursor.expectedSequence)
  else if head.eventHash ≠ cursor.computedHeadHash then
    .error ("HEAD_HASH_MISMATCH", head.sequence)
  else if head.schemaVersion ≠ ledgerSchemaVersion then
    .error ("SCHEMA_VERSION_MISMATCH", max head.sequence 1)
  else .ok ()

/-- The verdict on a walk that ended with `cursor`. -/
def verdict (head : LedgerHead) (now : Timestamp) (cursor : ChainCursor)
    (failure : Option ChainFailure) : VerificationResult where
  traceId := traceId
  valid := failure.isNone
  checkedEventCount := cursor.checked
  firstBadSequence := failure.map Prod.snd
  failureCode := failure.map Prod.fst
  storedHeadSequence := head.sequence
  storedHeadHash := head.eventHash
  computedHeadHash := cursor.computedHeadHash
  algorithm := hashAlgorithm
  schemaVersion := ledgerSchemaVersion
  verifiedAt := now

/-- `verify_chain`. -/
def verifyChain (events : List TraceEvent) (head : LedgerHead) (now : Timestamp) :
    VerificationResult :=
  match checkEvents traceId {} events with
  | .error (failure, cursor) => verdict traceId head now cursor (some failure)
  | .ok cursor =>
      match checkHead events head cursor with
      | .error failure => verdict traceId head now cursor (some failure)
      | .ok () => verdict traceId head now cursor none

end Verifier

/-! ## What a valid verdict says -/

section Valid

variable [Sha256] (traceId : String)

/-- What the loop asks of the event at position `sequence`, its link apart. -/
structure WellFormed (sequence : Nat) (event : TraceEvent) : Prop where
  sequence_eq : event.sequence = sequence
  traceId_eq : event.traceId = traceId
  schemaVersion_eq : event.schemaVersion = ledgerSchemaVersion
  eventHash_eq : event.eventHash = calculateEventHash event

/-- Every event is well formed at its position. -/
def WellFormedFrom : Nat → List TraceEvent → Prop
  | _, [] => True
  | sequence, event :: rest =>
      WellFormed traceId sequence event ∧ WellFormedFrom (sequence + 1) rest

/-- A list of events and the head they lead to. -/
structure ChainHolds (events : List TraceEvent) (head : LedgerHead) : Prop where
  wellFormed : WellFormedFrom traceId 1 events
  linked : Linked TraceEvent.previousHash calculateEventHash genesisHash events
  eventCount_eq : head.eventCount = events.length
  sequence_eq : head.sequence = events.length
  eventHash_eq : head.eventHash = tip calculateEventHash genesisHash events
  schemaVersion_eq : head.schemaVersion = ledgerSchemaVersion

variable {traceId}

theorem checkEvent_ok_iff {cursor cursor' : ChainCursor} {event : TraceEvent} :
    checkEvent traceId cursor event = .ok cursor' ↔
      WellFormed traceId cursor.expectedSequence event ∧
        event.previousHash = cursor.expectedPreviousHash ∧
        cursor' = ⟨cursor.expectedSequence + 1, calculateEventHash event,
          calculateEventHash event, cursor.checked + 1⟩ := by
  unfold checkEvent
  dsimp only
  constructor
  · intro h
    split_ifs at h with hsequence htrace hschema hprevious hhash
    obtain rfl := Except.ok.inj h
    exact ⟨⟨not_not.mp hsequence, not_not.mp htrace, not_not.mp hschema, not_not.mp hhash⟩,
      not_not.mp hprevious, rfl⟩
  · rintro ⟨⟨hsequence, htrace, hschema, hhash⟩, hprevious, rfl⟩
    simp [hsequence, htrace, hschema, hprevious, ← hhash]

/-- The walk succeeds on chains that continue the cursor's. -/
theorem checkEvents_ok_iff {cursor cursor' : ChainCursor} {events : List TraceEvent}
    (hcursor : cursor.computedHeadHash = cursor.expectedPreviousHash) :
    checkEvents traceId cursor events = .ok cursor' ↔
      WellFormedFrom traceId cursor.expectedSequence events ∧
        Linked TraceEvent.previousHash calculateEventHash cursor.expectedPreviousHash events ∧
        cursor' = ⟨cursor.expectedSequence + events.length,
          tip calculateEventHash cursor.expectedPreviousHash events,
          tip calculateEventHash cursor.expectedPreviousHash events,
          cursor.checked + events.length⟩ := by
  induction events generalizing cursor with
  | nil =>
      cases cursor
      simp only at hcursor
      subst hcursor
      simp [checkEvents, WellFormedFrom, Linked, eq_comm]
  | cons event rest ih =>
      simp only [checkEvents, WellFormedFrom, Linked, tip]
      constructor
      · intro h
        split at h
        · rename_i next hcheck
          obtain ⟨hwell, hprevious, rfl⟩ := checkEvent_ok_iff.mp hcheck
          obtain ⟨hrest, hlinked, rfl⟩ := (ih rfl).mp h
          refine ⟨⟨hwell, hrest⟩, ⟨hprevious, hlinked⟩, ?_⟩
          simp [Nat.add_assoc, Nat.add_comm 1]
        · cases h
      · rintro ⟨⟨hwell, hrest⟩, ⟨hprevious, hlinked⟩, rfl⟩
        rw [checkEvent_ok_iff.mpr ⟨hwell, hprevious, rfl⟩]
        refine (ih rfl).mpr ⟨hrest, hlinked, ?_⟩
        simp [Nat.add_assoc, Nat.add_comm 1]

omit [Sha256] in
theorem checkHead_ok_iff {events : List TraceEvent} {head : LedgerHead} {cursor : ChainCursor} :
    checkHead events head cursor = .ok () ↔
      head.eventCount = events.length ∧ head.sequence = events.length ∧
        head.eventHash = cursor.computedHeadHash ∧ head.schemaVersion = ledgerSchemaVersion := by
  unfold checkHead
  split_ifs with hcount hsequence hhash hschema
  · simpa using fun h => absurd h.symm hcount
  · simpa using fun _ h => absurd h hsequence
  · simpa using fun _ _ h => absurd h hhash
  · simpa using fun _ _ _ => hschema
  · simp only [ne_eq, not_not] at hcount hsequence hhash hschema
    simp [hcount, hsequence, hhash, hschema]

/-- A valid verdict: the events form a chain from the genesis hash to the stored head. -/
theorem verifyChain_valid_iff (events : List TraceEvent) (head : LedgerHead) (now : Timestamp) :
    (verifyChain traceId events head now).valid = true ↔ ChainHolds traceId events head := by
  unfold verifyChain
  cases hwalk : checkEvents traceId {} events with
  | error reason =>
      have hnone : ¬ ChainHolds traceId events head := fun h => by
        rw [(checkEvents_ok_iff rfl).mpr ⟨h.wellFormed, h.linked, rfl⟩] at hwalk
        cases hwalk
      simp [verdict, hnone]
  | ok cursor =>
      obtain ⟨hwell, hlinked, rfl⟩ := (checkEvents_ok_iff rfl).mp hwalk
      dsimp only
      cases hhead : checkHead events head _ with
      | error failure =>
          have hnone : ¬ ChainHolds traceId events head := fun h => by
            rw [checkHead_ok_iff.mpr
              ⟨h.eventCount_eq, h.sequence_eq, h.eventHash_eq, h.schemaVersion_eq⟩] at hhead
            cases hhead
          simp [verdict, hnone]
      | ok u =>
          obtain ⟨hcount, hsequence, hhash, hschema⟩ := checkHead_ok_iff.mp hhead
          simp only [verdict, Option.isNone_none, true_iff]
          exact ⟨hwell, hlinked, hcount, hsequence, hhash, hschema⟩

end Valid

/-! ## What the hash of an event covers -/

/-- Two events with equal hashed fields and equal stored hash.  Free-form details and
timestamps are compared in the form they are hashed in. -/
structure SameHashed (a b : TraceEvent) : Prop where
  agent_eq : a.agent = b.agent
  details_eq : canonicalJson (.dict a.details) = canonicalJson (.dict b.details)
  effectClass_eq : a.effectClass = b.effectClass
  eventId_eq : a.eventId = b.eventId
  eventType_eq : a.eventType = b.eventType
  idempotencyKey_eq : a.idempotencyKey = b.idempotencyKey
  occurredAt_eq : a.occurredAt.isoMicroseconds = b.occurredAt.isoMicroseconds
  previousHash_eq : a.previousHash = b.previousHash
  schemaVersion_eq : a.schemaVersion = b.schemaVersion
  sequence_eq : a.sequence = b.sequence
  summary_eq : a.summary = b.summary
  toolName_eq : a.toolName = b.toolName
  traceId_eq : a.traceId = b.traceId
  eventHash_eq : a.eventHash = b.eventHash

/-- The text an event's hash is taken of. -/
def hashedText (event : TraceEvent) : String :=
  canonicalJson (.dict (eventHashPayload event))

theorem calculateEventHash_eq [Sha256] (event : TraceEvent) :
    calculateEventHash event = Sha256.tagged (hashedText event) :=
  rfl

theorem dumpChars_str_inj {s t : String}
    (h : Value.dumpChars false (.str s) = Value.dumpChars false (.str t)) : s = t :=
  Value.quoted_injective h

theorem dumpChars_optStr_inj {s t : Option String}
    (h : Value.dumpChars false (optStr s) = Value.dumpChars false (optStr t)) : s = t := by
  cases s with
  | none =>
      cases t with
      | none => rfl
      | some t => exact absurd (congrArg List.head? h) (show some 'n' ≠ some '"' by decide)
  | some s =>
      cases t with
      | none => exact absurd (congrArg List.head? h) (show some '"' ≠ some 'n' by decide)
      | some t => exact congrArg some (dumpChars_str_inj h)

/-- The digits of a natural number determine it. -/
theorem dumpChars_nat_inj {m n : Nat}
    (h : Value.dumpChars false (.int m) = Value.dumpChars false (.int n)) : m = n := by
  have hdigits : Nat.toDigits 10 m = Nat.toDigits 10 n := by
    rw [← Nat.toList_repr, ← Nat.toList_repr]
    exact h
  rw [← Nat.ofDigitChars_ten_toDigits (n := m), hdigits, Nat.ofDigitChars_ten_toDigits]

theorem optMap_inj {α : Type} {f : α → String} (hf : Function.Injective f) {a b : Option α}
    (h : a.map f = b.map f) : a = b :=
  Option.map_injective hf h

theorem eventHashPayload_sorted (event : TraceEvent) :
    ((eventHashPayload event).map Prod.fst).Pairwise (· ≤ ·) := by
  have hkeys : ["agent", "details", "effect_class", "event_id", "event_type", "idempotency_key",
      "occurred_at", "previous_hash", "schema_version", "sequence", "summary", "tool_name",
      "trace_id"].Pairwise (· ≤ ·) := by
    decide +kernel
  simpa only [eventHashPayload, List.map_cons, List.map_nil] using hkeys

/-- The canonical text of a payload determines every hashed field. -/
theorem sameHashed_of_payload {a b : TraceEvent} (h : hashedText a = hashedText b)
    (hhash : a.eventHash = b.eventHash) : SameHashed a b := by
  have hchars : Value.dumpChars false (.dict (eventHashPayload a)) =
      Value.dumpChars false (.dict (eventHashPayload b)) := by
    have hlist := congrArg String.toList h
    unfold hashedText canonicalJson Value.dumps at hlist
    rwa [String.toList_ofList, String.toList_ofList] at hlist
  have hkeys : (eventHashPayload a).map Prod.fst = (eventHashPayload b).map Prod.fst := by
    simp only [eventHashPayload, List.map_cons, List.map_nil]
  have hvalues := Value.dumpChars_dict_inj hkeys (eventHashPayload_sorted a) hchars
  simp only [eventHashPayload, List.map_cons, List.map_nil, List.cons.injEq, and_true] at hvalues
  obtain ⟨hagent, hdetails, hclass, hid, htype, hkey, hat, hprevious, hschema, hsequence,
    hsummary, htool, htrace⟩ := hvalues
  exact
    { agent_eq := optMap_inj AgentName.value_injective (dumpChars_optStr_inj hagent)
      details_eq := congrArg String.ofList hdetails
      effectClass_eq := optMap_inj EffectClass.value_injective (dumpChars_optStr_inj hclass)
      eventId_eq := dumpChars_str_inj hid
      eventType_eq := EventType.value_injective (dumpChars_str_inj htype)
      idempotencyKey_eq := dumpChars_optStr_inj hkey
      occurredAt_eq := dumpChars_str_inj hat
      previousHash_eq := dumpChars_str_inj hprevious
      schemaVersion_eq := dumpChars_str_inj hschema
      sequence_eq := dumpChars_nat_inj hsequence
      summary_eq := dumpChars_str_inj hsummary
      toolName_eq := dumpChars_optStr_inj htool
      traceId_eq := dumpChars_str_inj htrace
      eventHash_eq := hhash }

/-! ## Tamper evidence -/

section Evident

variable [Sha256]

/-- No two of these texts have one digest. -/
def CollisionFree (texts : List String) : Prop :=
  ∀ s ∈ texts, ∀ t ∈ texts, Sha256.hexdigest s = Sha256.hexdigest t → s = t

theorem tagged_injective {s t : String} (h : Sha256.tagged s = Sha256.tagged t) :
    Sha256.hexdigest s = Sha256.hexdigest t := by
  unfold Sha256.tagged at h
  have hlist := congrArg String.toList h
  rw [String.toList_append, String.toList_append] at hlist
  exact String.toList_inj.mp (List.append_cancel_left hlist)

theorem WellFormedFrom.eventHash_eq {traceId : String} {sequence : Nat}
    {events : List TraceEvent} (h : WellFormedFrom traceId sequence events) :
    ∀ event ∈ events, event.eventHash = calculateEventHash event := by
  induction events generalizing sequence with
  | nil => exact fun event hmem => absurd hmem List.not_mem_nil
  | cons first rest ih =>
      intro event hmem
      rcases List.mem_cons.mp hmem with rfl | hmem
      · exact h.1.eventHash_eq
      · exact ih h.2 event hmem

/-- Two chains that lead to one head agree in every hashed field. -/
theorem ChainHolds.sameHashed {traceId : String} {events events' : List TraceEvent}
    {head : LedgerHead} (h : ChainHolds traceId events head)
    (h' : ChainHolds traceId events' head)
    (hfree : CollisionFree ((events ++ events').map hashedText)) :
    List.Forall₂ SameHashed events events' := by
  refine h.linked.determined h'.linked ?_ (fun a b hsame => hsame.previousHash_eq)
    (h.eventCount_eq.symm.trans h'.eventCount_eq) (h.eventHash_eq.symm.trans h'.eventHash_eq)
  intro a ha b hb hdigest
  have htext : hashedText a = hashedText b := by
    refine hfree _ (List.mem_map_of_mem (List.mem_append_left _ ha)) _
      (List.mem_map_of_mem (List.mem_append_right _ hb)) (tagged_injective ?_)
    rw [← calculateEventHash_eq, ← calculateEventHash_eq, hdigest]
  refine sameHashed_of_payload htext ?_
  rw [h.wellFormed.eventHash_eq a ha, h'.wellFormed.eventHash_eq b hb, hdigest]

/-- An event with the hash it is stored under. -/
def sealed (event : TraceEvent) : TraceEvent :=
  { event with eventHash := calculateEventHash event }

end Evident

namespace Demo

/-- A first event of a trace. -/
def firstEvent (details : Kwargs) : TraceEvent :=
  sealed
    { eventId := "EVT-1", traceId := "TR-1", sequence := 1, eventType := .runStarted
      summary := "Started benign journey.", details := details, occurredAt := 0
      schemaVersion := ledgerSchemaVersion, previousHash := genesisHash, eventHash := "" }

/-- The head that names the first event. -/
def firstHead (details : Kwargs) : LedgerHead :=
  { traceId := "TR-1", sequence := 1, eventCount := 1
    eventHash := (firstEvent details).eventHash, schemaVersion := ledgerSchemaVersion
    updatedAt := 0 }

end Demo

theorem chainHolds_firstEvent (details other : Kwargs)
    (hhash : (Demo.firstEvent details).eventHash = (Demo.firstEvent other).eventHash) :
    ChainHolds "TR-1" [Demo.firstEvent other] (Demo.firstHead details) :=
  ⟨⟨⟨rfl, rfl, rfl, rfl⟩, trivial⟩, ⟨rfl, trivial⟩, rfl, rfl, hhash, rfl⟩

end Manifest
