import Manifest.Ledger.Normalize
import Manifest.Ledger.Usability

/-!
# Altered events

Events are frozen but not checked: whoever alters a stored one may put any object in any
field.  `verify_chain` reports the first event whose hashed fields changed, a field that
cannot be hashed included, as long as hashing it raises nothing but `TypeError` and
`ValueError`.

Main results:

- Theorem `RawEvent.checkEvent_altered`: what the verifier does at an altered event.
- Theorem `verifyChain_pinpoints`: when it reports the first altered position, and what the
  demonstration endpoint's alterations do.
-/

set_option autoImplicit false

namespace Manifest

/-! ## Events with fields of any kind -/

/-- An event whose hashed fields hold any object. -/
structure RawEvent where
  agent : PyObject
  details : PyObject
  effectClass : PyObject
  eventId : PyObject
  eventType : PyObject
  idempotencyKey : PyObject
  occurredAt : PyObject
  previousHash : PyObject
  schemaVersion : PyObject
  sequence : PyObject
  summary : PyObject
  toolName : PyObject
  traceId : PyObject
  eventHash : String

namespace RawEvent

/-- `event_hash_payload`. -/
def hashed (event : RawEvent) : PyObject :=
  .mapping .dict
    [ (.str "agent", event.agent),
      (.str "details", event.details),
      (.str "effect_class", event.effectClass),
      (.str "event_id", event.eventId),
      (.str "event_type", event.eventType),
      (.str "idempotency_key", event.idempotencyKey),
      (.str "occurred_at", event.occurredAt),
      (.str "previous_hash", event.previousHash),
      (.str "schema_version", event.schemaVersion),
      (.str "sequence", event.sequence),
      (.str "summary", event.summary),
      (.str "tool_name", event.toolName),
      (.str "trace_id", event.traceId) ]

/-- The text an event's hash is taken of. -/
def text (event : RawEvent) : Except Fault String :=
  Canonical.canonicalJson event.hashed

/-- Why the walk over the events ends early: a failure it reports, with the variables as they
were, or an exception it lets through. -/
inductive Stop where
  | failure (failure : ChainFailure) (cursor : ChainCursor)
  | raised (fault : Fault)

section Verifier

variable [Sha256] (traceId : String)

/-- `calculate_event_hash`. -/
def calculateHash (event : RawEvent) : Except Fault String :=
  Canonical.hashPayload event.hashed

/-- What the loop asks of an event before it hashes it. -/
def misplaced (cursor : ChainCursor) (event : RawEvent) : Option String :=
  if ¬ event.sequence.equals (.int cursor.expectedSequence) then some "SEQUENCE_MISMATCH"
  else if ¬ event.traceId.equals (.str traceId) then some "TRACE_ID_MISMATCH"
  else if ¬ event.schemaVersion.equals (.str ledgerSchemaVersion) then
    some "SCHEMA_VERSION_MISMATCH"
  else if ¬ event.previousHash.equals (.str cursor.expectedPreviousHash) then
    some "PREVIOUS_HASH_MISMATCH"
  else none

/-- One round of the loop.  A failure is reported at `event.sequence`, which compares equal to
the expected sequence once the first check has passed. -/
def checkEvent (cursor : ChainCursor) (event : RawEvent) : Except Stop ChainCursor :=
  match misplaced traceId cursor event with
  | some code => .error (.failure (code, cursor.expectedSequence) cursor)
  | none =>
      match event.calculateHash with
      | .error .overflowError => .error (.raised .overflowError)
      | .error _ => .error (.failure ("EVENT_HASH_MISMATCH", cursor.expectedSequence) cursor)
      | .ok recomputed =>
          if event.eventHash ≠ recomputed then
            .error (.failure ("EVENT_HASH_MISMATCH", cursor.expectedSequence) cursor)
          else
            .ok
              { expectedSequence := cursor.expectedSequence + 1
                expectedPreviousHash := recomputed
                computedHeadHash := recomputed
                checked := cursor.checked + 1 }

omit [Sha256] in
/-- The checks after the loop. -/
def checkHead (count : Nat) (head : LedgerHead) (cursor : ChainCursor) :
    Except ChainFailure Unit :=
  if count ≠ head.eventCount then .error ("EVENT_COUNT_MISMATCH", cursor.expectedSequence)
  else if head.sequence ≠ count then .error ("HEAD_SEQUENCE_MISMATCH", cursor.expectedSequence)
  else if head.eventHash ≠ cursor.computedHeadHash then
    .error ("HEAD_HASH_MISMATCH", head.sequence)
  else if head.schemaVersion ≠ ledgerSchemaVersion then
    .error ("SCHEMA_VERSION_MISMATCH", max head.sequence 1)
  else .ok ()

/-- `verify_chain`. -/
def verifyChain (events : List RawEvent) (head : LedgerHead) (now : Timestamp) :
    Except Fault VerificationResult :=
  match events.foldlM (checkEvent traceId) {} with
  | .error (.raised fault) => .error fault
  | .error (.failure failure cursor) => .ok (verdict traceId head now cursor (some failure))
  | .ok cursor =>
      match checkHead events.length head cursor with
      | .error failure => .ok (verdict traceId head now cursor (some failure))
      | .ok () => .ok (verdict traceId head now cursor none)

end Verifier

/-! ## Events as they are recorded -/

/-- A member of one of the string enumerations, or `None`. -/
def ofMember : Option String → PyObject
  | none => .none
  | some value => .member (some (.str value)) (.str value)

/-- A recorded event. -/
def ofEvent (event : TraceEvent) : RawEvent where
  agent := ofMember (event.agent.map (·.value))
  details := PyObject.ofValue (.dict event.details)
  effectClass := ofMember (event.effectClass.map (·.value))
  eventId := .str event.eventId
  eventType := ofMember (some event.eventType.value)
  idempotencyKey := PyObject.ofValue (optStr event.idempotencyKey)
  occurredAt := .datetime (some event.occurredAt)
  previousHash := .str event.previousHash
  schemaVersion := .str event.schemaVersion
  sequence := .int event.sequence
  summary := .str event.summary
  toolName := PyObject.ofValue (optStr event.toolName)
  traceId := .str event.traceId
  eventHash := event.eventHash

/-- A recorded event holds what its types promise: details with distinct keys and a time
`datetime` can hold. -/
structure Typed (event : TraceEvent) : Prop where
  details : Canonical.KeysDistinct (.dict event.details)
  occurredAt : event.occurredAt.InRange

theorem normalize_ofMember (value : Option String) :
    Canonical.normalize (ofMember value) = .ok (PyObject.ofValue (optStr value)) := by
  cases value <;> rfl

theorem normalize_optStr (value : Option String) :
    Canonical.normalize (PyObject.ofValue (optStr value)) = .ok (PyObject.ofValue (optStr value)) := by
  cases value <;> rfl

theorem keysDistinct_optStr (value : Option String) : Canonical.KeysDistinct (optStr value) := by
  cases value <;> trivial

theorem keysDistinct_payload {event : TraceEvent} (h : Typed event) :
    Canonical.KeysDistinct (.dict (eventHashPayload event)) := by
  have hkeys : ["agent", "details", "effect_class", "event_id", "event_type", "idempotency_key",
      "occurred_at", "previous_hash", "schema_version", "sequence", "summary", "tool_name",
      "trace_id"].Nodup := by
    decide
  refine ⟨by simpa only [eventHashPayload, List.map_cons, List.map_nil] using hkeys, ?_⟩
  exact ⟨keysDistinct_optStr _, h.details, keysDistinct_optStr _, trivial, trivial,
    keysDistinct_optStr _, trivial, trivial, trivial, trivial, trivial, keysDistinct_optStr _,
    trivial, trivial⟩

theorem normalize_occurredAt {t : Timestamp} (h : t.InRange) :
    Canonical.normalize (.datetime (some t)) =
      Canonical.normalize (PyObject.ofValue (.str t.isoMicroseconds)) := by
  show (Canonical.utcText t).map PyObject.str = .ok (.str t.isoMicroseconds)
  rw [Canonical.utcText, if_pos h]
  rfl

/-- The text of a recorded event is the one its hash is taken of. -/
theorem text_ofEvent {event : TraceEvent} (h : Typed event) :
    (ofEvent event).text = .ok (hashedText event) := by
  have hnormal : Canonical.normalize (ofEvent event).hashed =
      Canonical.normalize (PyObject.ofValue (.dict (eventHashPayload event))) := by
    unfold hashed ofEvent
    rw [PyObject.ofValue]
    show (Canonical.normalizeEntries _ >>= _) = (Canonical.normalizeEntries _ >>= _)
    simp only [Canonical.normalizeEntries, eventHashPayload, PyObject.ofEntries,
      normalize_ofMember, normalize_optStr, normalize_occurredAt h.occurredAt]
    rfl
  unfold text
  rw [hashedText, ← Canonical.canonicalJson_ofValue (keysDistinct_payload h)]
  unfold Canonical.canonicalJson Canonical.canonicalChars
  rw [hnormal]

section Recorded

variable [Sha256] {traceId : String}

omit [Sha256] in
theorem equals_str (s t : String) : (PyObject.str s).equals (.str t) = decide (s = t) := by
  simp [PyObject.equals, PyObject.content]

omit [Sha256] in
theorem equals_int (m n : Nat) : (PyObject.int m).equals (.int n) = decide (m = n) := by
  rw [Bool.eq_iff_iff, decide_eq_true_iff]
  show (Value.int m).pyEq (.int n) = true ↔ m = n
  rw [Value.pyEq_int_iff, Value.number?]
  simp

/-- A round of the loop over a recorded event is the round of the verifier of recorded
events. -/
theorem checkEvent_ofEvent {event : TraceEvent} (h : Typed event) (cursor : ChainCursor) :
    checkEvent traceId cursor (ofEvent event) =
      match Manifest.checkEvent traceId cursor event with
      | .ok next => .ok next
      | .error failure => .error (.failure failure cursor) := by
  have hhash : (ofEvent event).calculateHash = .ok (calculateEventHash event) := by
    rw [calculateHash, Canonical.hashPayload, ← text, text_ofEvent h]
    rfl
  unfold checkEvent Manifest.checkEvent misplaced
  rw [hhash]
  simp only [ofEvent, equals_str, equals_int, decide_eq_true_eq]
  by_cases hsequence : event.sequence = cursor.expectedSequence
  · simp only [hsequence, not_true_eq_false, if_false, ne_eq]
    split_ifs with htrace hschema hprevious hhash
    · simp [hhash]
    all_goals first | rfl | simp [hhash]
  · simp only [hsequence, not_false_eq_true, if_true, ne_eq]

/-- Chains of recorded events verify as before. -/
theorem verifyChain_ofEvent {events : List TraceEvent} (h : ∀ event ∈ events, Typed event)
    (head : LedgerHead) (now : Timestamp) :
    verifyChain traceId (events.map ofEvent) head now =
      .ok (Manifest.verifyChain traceId events head now) := by
  have hwalk (cursor : ChainCursor) : (events.map ofEvent).foldlM (checkEvent traceId) cursor =
      match checkEvents traceId cursor events with
      | .ok last => .ok last
      | .error (failure, last) => .error (.failure failure last) := by
    induction events generalizing cursor with
    | nil => rfl
    | cons event rest ih =>
        rw [List.map_cons, List.foldlM_cons, checkEvent_ofEvent (h event List.mem_cons_self),
          checkEvents]
        cases Manifest.checkEvent traceId cursor event with
        | error failure => rfl
        | ok next => exact ih (fun other hmem => h other (List.mem_cons_of_mem _ hmem)) next
  unfold verifyChain Manifest.verifyChain
  rw [hwalk]
  cases checkEvents traceId {} events with
  | error stop => rfl
  | ok cursor =>
      dsimp only
      have hcheck : checkHead (events.map ofEvent).length head cursor =
          Manifest.checkHead events head cursor := by
        rw [List.length_map]
        rfl
      rw [hcheck]
      cases Manifest.checkHead events head cursor <;> rfl

end Recorded

/-! ## The first altered event -/

section Pinpoint

variable [Sha256] {traceId : String}

theorem calculateHash_eq (event : RawEvent) :
    event.calculateHash = event.text.map Sha256.tagged :=
  rfl

/-- The hash an event is chained to, after some events. -/
def lastHash (start : String) (events : List RawEvent) : String :=
  (events.map (·.eventHash)).getLastD start

/-- An event that passes is in place and carries the hash of its fields. -/
theorem checkEvent_ok {cursor cursor' : ChainCursor} {event : RawEvent}
    (h : checkEvent traceId cursor event = .ok cursor') :
    misplaced traceId cursor event = none ∧ event.calculateHash = .ok event.eventHash ∧
      cursor' = ⟨cursor.expectedSequence + 1, event.eventHash, event.eventHash,
        cursor.checked + 1⟩ := by
  unfold checkEvent at h
  cases hplace : misplaced traceId cursor event with
  | some code =>
      rw [hplace] at h
      cases h
  | none =>
      rw [hplace] at h
      cases hhash : event.calculateHash with
      | error fault => cases fault <;> (rw [hhash] at h; cases h)
      | ok recomputed =>
          rw [hhash] at h
          dsimp only at h
          split_ifs at h with hdiffer
          obtain rfl := Except.ok.inj h
          rw [not_not.mp hdiffer]
          exact ⟨rfl, rfl, rfl⟩

/-- Where the walk stands after events that passed. -/
theorem checkEvents_ok {cursor cursor' : ChainCursor} {events : List RawEvent}
    (h : events.foldlM (checkEvent traceId) cursor = .ok cursor') :
    cursor'.expectedSequence = cursor.expectedSequence + events.length ∧
      cursor'.checked = cursor.checked + events.length ∧
      cursor'.expectedPreviousHash = lastHash cursor.expectedPreviousHash events := by
  induction events generalizing cursor with
  | nil =>
      obtain rfl := Except.ok.inj h
      exact ⟨rfl, rfl, rfl⟩
  | cons event rest ih =>
      rw [List.foldlM_cons] at h
      obtain ⟨next, hnext, h⟩ := Fallible.bind_eq_ok_iff.mp h
      obtain ⟨-, -, rfl⟩ := checkEvent_ok hnext
      obtain ⟨hsequence, hchecked, hprevious⟩ := ih h
      dsimp only at hsequence hchecked hprevious
      rw [List.length_cons]
      refine ⟨by omega, by omega, ?_⟩
      rw [hprevious, lastHash, lastHash, List.map_cons, List.getLastD_cons]

/-- What the verifier does at an event whose stored hash is that of another text: it reports
it, unless the event is in place and hashing it raises what the verifier lets through. -/
theorem checkEvent_altered (cursor : ChainCursor) {event event' : RawEvent}
    (hhash : event.calculateHash = .ok event.eventHash)
    (hstored : event'.eventHash = event.eventHash)
    (haltered : event'.text ≠ event.text)
    (hfree : ∀ text text', event.text = .ok text → event'.text = .ok text' →
      CollisionFree [text, text']) :
    (misplaced traceId cursor event' = none ∧ event'.text = .error .overflowError ∧
      checkEvent traceId cursor event' = .error (.raised .overflowError)) ∨
    (¬ (misplaced traceId cursor event' = none ∧ event'.text = .error .overflowError) ∧
      ∃ code, checkEvent traceId cursor event' =
        .error (.failure (code, cursor.expectedSequence) cursor)) := by
  unfold checkEvent
  cases hplace : misplaced traceId cursor event' with
  | some code => exact .inr ⟨by simp, code, rfl⟩
  | none =>
      rw [calculateHash_eq]
      cases htext' : event'.text with
      | error fault =>
          cases fault with
          | overflowError => exact .inl ⟨rfl, rfl, rfl⟩
          | typeError => exact .inr ⟨by simp, _, rfl⟩
          | valueError => exact .inr ⟨by simp, _, rfl⟩
      | ok text' =>
          refine .inr ⟨by simp, "EVENT_HASH_MISMATCH", if_pos ?_⟩
          cases htext : event.text with
          | error fault =>
              rw [calculateHash_eq, htext] at hhash
              cases hhash
          | ok text =>
              rw [calculateHash_eq, htext] at hhash
              rw [hstored, ← Except.ok.inj hhash]
              intro heq
              refine haltered ?_
              rw [htext', htext]
              exact congrArg Except.ok ((hfree text text' htext htext') text' (by simp) text
                (by simp) (tagged_injective heq.symm))

/-- The verdict names the altered position and counts the events before it. -/
def Pinpoints (result : Except Fault VerificationResult) (position : Nat) : Prop :=
  ∃ reported, result = .ok reported ∧ reported.valid = false ∧
    reported.firstBadSequence = some position ∧ reported.checkedEventCount = position - 1

/-- An altered event after `front` is where the verifier expects it, and hashing it raises an
exception that the verifier does not catch. -/
def Escapes (traceId : String) (front : List RawEvent) (event : RawEvent) : Prop :=
  event.sequence.equals (.int (front.length + 1)) = true ∧
    event.traceId.equals (.str traceId) = true ∧
    event.schemaVersion.equals (.str ledgerSchemaVersion) = true ∧
    event.previousHash.equals (.str (lastHash genesisHash front)) = true ∧
    event.text = .error .overflowError

omit [Sha256] in
theorem misplaced_eq_none_iff {cursor : ChainCursor} {event : RawEvent} :
    misplaced traceId cursor event = none ↔
      event.sequence.equals (.int cursor.expectedSequence) = true ∧
        event.traceId.equals (.str traceId) = true ∧
        event.schemaVersion.equals (.str ledgerSchemaVersion) = true ∧
        event.previousHash.equals (.str cursor.expectedPreviousHash) = true := by
  unfold misplaced
  split_ifs with hsequence htrace hschema hprevious <;> simp_all

/-- A valid verdict was walked to through every event. -/
theorem walk_of_valid {head : LedgerHead} {now : Timestamp} {front back : List RawEvent}
    {event : RawEvent} {result : VerificationResult}
    (h : verifyChain traceId (front ++ event :: back) head now = .ok result)
    (hvalid : result.valid = true) :
    ∃ cursor, front.foldlM (checkEvent traceId) {} = .ok cursor ∧
      ∃ next, checkEvent traceId cursor event = .ok next := by
  unfold verifyChain at h
  rw [List.foldlM_append] at h
  cases hfront : front.foldlM (checkEvent traceId) {} with
  | error stop =>
      rw [hfront] at h
      cases stop with
      | raised fault => cases h
      | failure failure cursor =>
          obtain rfl := Except.ok.inj h
          cases hvalid
  | ok cursor =>
      refine ⟨cursor, rfl, ?_⟩
      rw [hfront] at h
      cases hnext : checkEvent traceId cursor event with
      | ok next => exact ⟨next, rfl⟩
      | error stop =>
          have hwalk : (Except.ok cursor >>= fun cursor =>
              (event :: back).foldlM (checkEvent traceId) cursor) = .error stop := by
            show (event :: back).foldlM (checkEvent traceId) cursor = _
            rw [List.foldlM_cons, hnext]
            rfl
          rw [hwalk] at h
          cases stop with
          | raised fault => cases h
          | failure failure cursor =>
              obtain rfl := Except.ok.inj h
              cases hvalid

/-- The first event of a verifying chain whose hashed fields changed is pinpointed, exactly
when hashing it does not raise past the verifier. -/
theorem verifyChain_altered {head : LedgerHead} {now : Timestamp}
    {front back back' : List RawEvent} {event event' : RawEvent} {result : VerificationResult}
    (hresult : verifyChain traceId (front ++ event :: back) head now = .ok result)
    (hvalid : result.valid = true) (hstored : event'.eventHash = event.eventHash)
    (haltered : event'.text ≠ event.text)
    (hfree : ∀ text text', event.text = .ok text → event'.text = .ok text' →
      CollisionFree [text, text']) :
    Pinpoints (verifyChain traceId (front ++ event' :: back') head now) (front.length + 1) ↔
      ¬ Escapes traceId front event' := by
  obtain ⟨cursor, hfront, next, hnext⟩ := walk_of_valid hresult hvalid
  obtain ⟨-, hhash, -⟩ := checkEvent_ok hnext
  obtain ⟨hsequence, hchecked, hprevious⟩ := checkEvents_ok hfront
  dsimp only at hsequence hchecked hprevious
  have hescapes : Escapes traceId front event' ↔
      misplaced traceId cursor event' = none ∧ event'.text = .error .overflowError := by
    rw [misplaced_eq_none_iff, hsequence, hprevious, Escapes, Nat.add_comm 1 front.length]
    simp only [and_assoc, Nat.cast_add, Nat.cast_one]
  have hwalk : (front ++ event' :: back').foldlM (checkEvent traceId) {} =
      checkEvent traceId cursor event' >>= fun next =>
        back'.foldlM (checkEvent traceId) next := by
    rw [List.foldlM_append, hfront]
    rfl
  rw [hescapes]
  rcases checkEvent_altered cursor hhash hstored haltered hfree with
    ⟨hplace, htext, hraised⟩ | ⟨hcaught, code, hfailed⟩
  · refine iff_of_false ?_ (not_not.mpr ⟨hplace, htext⟩)
    rintro ⟨reported, hreported, -⟩
    unfold verifyChain at hreported
    rw [hwalk, hraised] at hreported
    cases hreported
  · refine iff_of_true ⟨verdict traceId head now cursor (some (code, cursor.expectedSequence)),
      ?_, rfl, ?_, ?_⟩ hcaught
    · unfold verifyChain
      rw [hwalk, hfailed]
      rfl
    · show some cursor.expectedSequence = _
      rw [hsequence, Nat.add_comm]
    · show cursor.checked = _
      rw [hchecked]
      omega

end Pinpoint

end RawEvent

/-! ## Alterations for a demonstration -/

structure TamperResult where
  traceId : String
  sequence : Int
  field : String
  status : String := "tampered_for_demo"

/-- `not text.strip()`: the characters `str` counts as whitespace. -/
def stripped (text : String) : Bool :=
  text.toList.all fun c =>
    [9, 10, 11, 12, 13, 28, 29, 30, 31, 32, 133, 160, 5760, 8192, 8193, 8194, 8195, 8196, 8197,
      8198, 8199, 8200, 8201, 8202, 8232, 8233, 8239, 8287, 12288].contains c.toNat

/-- `replace(event, summary=...)`. -/
def TraceEvent.withSummary (event : TraceEvent) (summary : String) : TraceEvent :=
  { event with summary := summary }

namespace MemoryTraceStore

/-- `terminal_event`. -/
def terminalEvent (events : List TraceEvent) : Bool :=
  match events.getLast? with
  | some event => event.eventType = .runCompleted || event.eventType = .runCancelled ||
      event.eventType = .runFailed
  | none => false

/-- `tamper_event_summary_for_demo`. -/
def tamperEventSummaryForDemo (store : MemoryTraceStore) (traceId : String) (sequence : Int)
    (replacementSummary : String) : Except PyError TamperResult × MemoryTraceStore :=
  match store.runs.get? traceId with
  | none => (.error ⟨.traceNotFound, s!"Trace {traceId} was not found."⟩, store)
  | some state =>
      if !(state.status = .completed || state.status = .cancelled || state.status = .blocked) &&
          !terminalEvent state.events then
        (.error ⟨.ledgerTamperValidation,
          "Only a terminal disposable trace may be tampered with."⟩, store)
      else if stripped replacementSummary then
        (.error ⟨.ledgerTamperValidation, "The replacement summary must not be empty."⟩, store)
      else if sequence < 1 || sequence > state.events.length then
        (.error ⟨.ledgerTamperValidation,
          s!"Trace {traceId} has no event at sequence {sequence}."⟩, store)
      else
        let state := { state with
          events := state.events.modify (sequence - 1).toNat (·.withSummary replacementSummary)
          storageRevision := state.storageRevision + 1 }
        (.ok { traceId := traceId, sequence := sequence, field := "summary" },
          { store with runs := store.runs.set traceId state })

/-- The arguments of an alteration. -/
structure Alteration where
  traceId : String
  sequence : Int
  replacementSummary : String

/-- The repository after a run of alterations. -/
def tampered (store : MemoryTraceStore) (calls : List Alteration) : MemoryTraceStore :=
  calls.foldl (fun store call => (store.tamperEventSummaryForDemo call.traceId call.sequence
    call.replacementSummary).2) store

/-- Events that differ in their summaries at most. -/
def Resummarized (events events' : List TraceEvent) : Prop :=
  List.Forall₂ (fun a b => b = a.withSummary b.summary) events events'

theorem Resummarized.refl (events : List TraceEvent) : Resummarized events events :=
  List.forall₂_same.mpr fun _ _ => rfl

theorem Resummarized.modify {events events' : List TraceEvent} (h : Resummarized events events')
    (index : Nat) (summary : String) :
    Resummarized events (events'.modify index (·.withSummary summary)) := by
  induction h generalizing index with
  | nil =>
      rw [List.modify_nil]
      exact .nil
  | @cons a b rest rest' hsame hrest ih =>
      cases index with
      | zero =>
          refine .cons ?_ hrest
          rw [hsame]
          rfl
      | succ index => exact .cons hsame (ih index)

/-- Summaries that agree leave the events as they were. -/
theorem Resummarized.eq_of_summaries {events events' : List TraceEvent}
    (h : Resummarized events events') (hsummaries : events'.map (·.summary) = events.map (·.summary)) :
    events' = events := by
  induction h with
  | nil => rfl
  | @cons a b rest rest' hsame hrest ih =>
      obtain ⟨hsummary, hsummaries⟩ := List.cons.inj hsummaries
      dsimp only at hsummary
      rw [ih hsummaries, hsame, hsummary]
      rfl

/-- An alteration keeps the heads and changes summaries at most. -/
theorem tamperEventSummaryForDemo_keeps (store : MemoryTraceStore) (call : Alteration)
    {traceId : String} {state : TrajectoryState} (hrun : store.runs.get? traceId = some state) :
    let store' := (store.tamperEventSummaryForDemo call.traceId call.sequence
      call.replacementSummary).2
    store'.heads = store.heads ∧ ∃ state', store'.runs.get? traceId = some state' ∧
      ∃ index summary, state'.events = state.events ∨
        state'.events = state.events.modify index (·.withSummary summary) := by
  intro store'
  have hkept : store' = store → store'.heads = store.heads ∧ ∃ state',
      store'.runs.get? traceId = some state' ∧ ∃ index summary, state'.events = state.events ∨
        state'.events = state.events.modify index (·.withSummary summary) := by
    intro hsame
    rw [hsame]
    exact ⟨rfl, state, hrun, 0, "", .inl rfl⟩
  cases hcall : store.runs.get? call.traceId with
  | none =>
      refine hkept ?_
      simp only [store', tamperEventSummaryForDemo, hcall]
  | some target =>
      by_cases hrefused : store' = store
      · exact hkept hrefused
      · simp only [store', tamperEventSummaryForDemo, hcall] at hrefused ⊢
        split_ifs at hrefused ⊢
        · exact absurd rfl hrefused
        · exact absurd rfl hrefused
        · exact absurd rfl hrefused
        · refine ⟨rfl, ?_⟩
          dsimp only
          rw [Dict.get?_set]
          split_ifs with htrace
          · refine ⟨_, rfl, (call.sequence - 1).toNat, call.replacementSummary, .inr ?_⟩
            rw [htrace, hcall] at hrun
            rw [Option.some.inj hrun]
          · exact ⟨state, hrun, 0, "", .inl rfl⟩

theorem summaries_of_sameHashed {events events' : List TraceEvent}
    (h : List.Forall₂ SameHashed events events') :
    events'.map (·.summary) = events.map (·.summary) := by
  induction h with
  | nil => rfl
  | cons hsame hrest ih => rw [List.map_cons, List.map_cons, ih, hsame.summary_eq]

/-- A run of alterations keeps the heads and changes summaries at most. -/
theorem tampered_keeps (store : MemoryTraceStore) (calls : List Alteration) {traceId : String}
    {state : TrajectoryState} (hrun : store.runs.get? traceId = some state) :
    (store.tampered calls).heads = store.heads ∧ ∃ state',
      (store.tampered calls).runs.get? traceId = some state' ∧
        Resummarized state.events state'.events := by
  induction calls using List.reverseRecOn with
  | nil => exact ⟨rfl, state, hrun, Resummarized.refl _⟩
  | append_singleton calls call ih =>
      obtain ⟨hheads, middle, hmiddle, hsame⟩ := ih
      have hstep : store.tampered (calls ++ [call]) =
          ((store.tampered calls).tamperEventSummaryForDemo call.traceId call.sequence
            call.replacementSummary).2 := by
        simp [tampered]
      rw [hstep]
      obtain ⟨hheads', state', hstate, index, summary, hevents⟩ :=
        tamperEventSummaryForDemo_keeps (store.tampered calls) call hmiddle
      refine ⟨hheads'.trans hheads, state', hstate, ?_⟩
      rcases hevents with hevents | hevents
      · rw [hevents]
        exact hsame
      · rw [hevents]
        exact hsame.modify index summary

/-- After any alterations the trace verifies exactly when every summary is the original. -/
theorem verifyTrace_tampered [Sha256] (store : MemoryTraceStore) (calls : List Alteration)
    {traceId : String} {state : TrajectoryState} {head : LedgerHead} {now : Timestamp}
    (hrun : store.runs.get? traceId = some state) (hhead : store.heads.get? traceId = some head)
    (hvalid : (verifyChain traceId state.events head now).valid = true)
    (hfree : ∀ state', (store.tampered calls).runs.get? traceId = some state' →
      CollisionFree ((state.events ++ state'.events).map hashedText)) :
    ∃ state' result, (store.tampered calls).runs.get? traceId = some state' ∧
      (store.tampered calls).verifyTrace traceId now = .ok result ∧
      (result.valid = true ↔ state'.events.map (·.summary) = state.events.map (·.summary)) := by
  obtain ⟨hheads, state', hstate, hsame⟩ := tampered_keeps store calls hrun
  refine ⟨state', verifyChain traceId state'.events head now, hstate, ?_, ?_⟩
  · unfold verifyTrace
    simp only [hstate, hheads, hhead]
  · constructor
    · intro h
      have hsummaries := ((verifyChain_valid_iff state.events head now).mp hvalid).sameHashed
        ((verifyChain_valid_iff state'.events head now).mp h) (hfree state' hstate)
      exact summaries_of_sameHashed hsummaries
    · intro hsummaries
      rw [hsame.eq_of_summaries hsummaries]
      exact hvalid

end MemoryTraceStore

namespace Demo

/-- The first event of a verifying chain. -/
def genuine : RawEvent :=
  RawEvent.ofEvent (firstEvent [])

/-- The event with a summary that no text is made of. -/
def unhashable : RawEvent :=
  { genuine with summary := .set [] }

/-- The event at midnight of the first of January of the year 1, five hours east. -/
def beforeCalendar : RawEvent :=
  { genuine with occurredAt := .datetime (some (-62135614800000000)) }

theorem typed_firstEvent : RawEvent.Typed (firstEvent []) :=
  ⟨⟨List.nodup_nil, trivial⟩, by decide⟩

theorem text_unhashable : unhashable.text = .error .typeError := rfl

theorem text_beforeCalendar : beforeCalendar.text = .error .overflowError := rfl

theorem verifyChain_genuine : ∃ result,
    RawEvent.verifyChain "TR-1" [genuine] (firstHead []) 0 = .ok result ∧
      result.valid = true := by
  have hall : ∀ event ∈ [firstEvent []], RawEvent.Typed event := by
    intro event hmem
    obtain rfl := List.mem_singleton.mp hmem
    exact typed_firstEvent
  exact ⟨_, RawEvent.verifyChain_ofEvent hall (firstHead []) 0,
    (verifyChain_valid_iff _ _ _).mpr (chainHolds_firstEvent [] [] rfl)⟩

theorem verifyChain_beforeCalendar :
    RawEvent.verifyChain "TR-1" [beforeCalendar] (firstHead []) 0 = .error .overflowError := by
  have hplace : RawEvent.misplaced "TR-1" {} beforeCalendar = none :=
    RawEvent.misplaced_eq_none_iff.mpr (by decide +kernel)
  have hraised : RawEvent.checkEvent "TR-1" {} beforeCalendar =
      .error (.raised .overflowError) := by
    unfold RawEvent.checkEvent
    rw [hplace, RawEvent.calculateHash_eq, text_beforeCalendar]
    rfl
  unfold RawEvent.verifyChain
  rw [List.foldlM_cons, hraised]
  rfl

/-- A completed run with the first event. -/
def finished : TrajectoryState :=
  { started with traceId := "TR-1", status := .completed, events := [firstEvent []] }

/-- A repository with the completed run. -/
def archive : MemoryTraceStore :=
  { runs := Dict.set ∅ "TR-1" finished, heads := Dict.set ∅ "TR-1" (firstHead []) }

/-- An alteration that writes the summary that is there. -/
def rewriting : MemoryTraceStore.Alteration :=
  ⟨"TR-1", 1, "Started benign journey."⟩

theorem archive_rewritten : ((archive.tampered [rewriting]).runs.get? "TR-1").map (·.events) =
    some [firstEvent []] :=
  rfl

end Demo

end Manifest
