import Manifest.Storage.Decode

/-!
# What the decoders let through

A decoder of any text returns a record or raises one of two storage errors, except where the
loader raises past `_decode`, where a timestamp has no equivalent in UTC, and where a
mapping of a state is not an object.

Main results:

- Theorem `agrees`: field by field, when reading it raises past `_construct`.
- Theorem `decodeRecord_failsClosed_iff`: the texts on which the decoders fail closed.
-/

set_option autoImplicit false

namespace Manifest

namespace Codec

open PyObject Fallible

/-! ## Failing closed -/

/-- A record, or one of the two errors of the storage layer. -/
def FailsClosed (result : Except PyError PyObject) : Prop :=
  ∀ x, result = .error x → x.cls = .tracePersistence ∨ x.cls = .serializationVersion

instance : (result : Except PyError PyObject) → Decidable (FailsClosed result)
  | .ok _ => .isTrue fun x hx => by cases hx
  | .error x => decidable_of_iff (x.cls = .tracePersistence ∨ x.cls = .serializationVersion)
      ⟨fun h y hy => by cases hy; exact h, fun h => h x rfl⟩

/-- The timestamp under a key is a time whose equivalent in UTC `datetime` cannot hold. -/
def OutOfRange (lib : PyLibrary) (key : String) (object : PyObject) : Prop :=
  ∃ holder entries text instant, object = .mapping holder entries ∧
    lookup key entries = some (.str text) ∧ lib.isoParse text = some (some instant) ∧
    ¬ Timestamp.InRange instant

/-- What is under a key is not an object. -/
def NotObject (key : String) (object : PyObject) : Prop :=
  ∃ holder entries value, object = .mapping holder entries ∧ lookup key entries = some value ∧
    ∀ holder entries, value ≠ .mapping holder entries

/-- One of the prepared actions, the first that cannot be built, has its expiry out of range. -/
def BadExpiry (lib : PyLibrary) (object : PyObject) : Prop :=
  ∃ holder entries holder' front entry back, object = .mapping holder entries ∧
    lookup "prepared_actions" entries = some (.mapping holder' (front ++ entry :: back)) ∧
    (∀ other ∈ front, ∃ action, preparedAction lib other.2 = .ok action) ∧
    (∃ action, record preparedActionFields entry.2 = .ok action) ∧
    OutOfRange lib "expires_at" entry.2

/-- The fields of a payload that cannot be read, and whose exception `_construct` does not
catch. -/
def Bad (lib : PyLibrary) : RecordKind → String → PyObject → Prop
  | .state, key, payload => (key = "facts" ∧ NotObject "facts" payload) ∨
      (key = "prepared_actions" ∧
        (NotObject "prepared_actions" payload ∨ BadExpiry lib payload))
  | .event, key, payload => key = "occurred_at" ∧ OutOfRange lib "occurred_at" payload
  | .decision, key, payload => key = "created_at" ∧ OutOfRange lib "created_at" payload
  | .approval, key, payload => (key = "created_at" ∨ key = "expires_at" ∨ key = "decided_at") ∧
      OutOfRange lib key payload
  | .head, key, payload => key = "updated_at" ∧ OutOfRange lib "updated_at" payload
  | .replay, key, payload => key = "created_at" ∧ OutOfRange lib "created_at" payload
  | .effect, key, payload => key = "created_at" ∧ OutOfRange lib "created_at" payload

/-- The arguments of a record, in the order they are evaluated. -/
def fieldsOf (lib : PyLibrary) (events decisions : List PyObject) : RecordKind → List Field
  | .state => stateFields lib events decisions
  | .event => eventFields lib
  | .decision => decisionFields lib
  | .approval => approvalFields lib
  | .head => headFields lib
  | .replay => replayFields lib
  | .effect => effectFields lib

/-- The loader raises past `_decode`, or the first field of the payload that cannot be read is
a bad one. -/
def Uncaught (lib : PyLibrary) (document : String) (events decisions : List PyObject)
    (kind : RecordKind) : Prop :=
  lib.loads document = .error .valueError ∨ lib.loads document = .error .recursionError ∨
    ∃ envelope payload, lib.loads document = .ok envelope ∧
      openEnvelope kind envelope = .ok payload ∧
      ∃ before field after, fieldsOf lib events decisions kind = before ++ field :: after ∧
        (∀ other ∈ before, ∃ value, other.2 payload = .ok value) ∧ Bad lib kind field.1 payload

/-! ## Readers that raise nothing uncaught -/

/-- What a reader raises on an object passes `_construct`. -/
def Escapes (read : Reader) (object : PyObject) : Prop :=
  ∃ x, read object = .error x ∧ caught x = false

/-- What a reader raises is caught. -/
def Harmless (read : Reader) : Prop :=
  ∀ object x, read object = .error x → caught x = true

theorem Harmless.not_escapes {read : Reader} (h : Harmless read) (object : PyObject) :
    ¬ Escapes read object := by
  rintro ⟨x, hx, hfree⟩
  rw [h object x hx] at hfree
  cases hfree

/-- Two reads in a row. -/
theorem escapes_bind {read build : Reader} {object : PyObject} :
    Escapes (fun source => read source >>= build) object ↔
      Escapes read object ∨ ∃ value, read object = .ok value ∧ Escapes build value := by
  constructor
  · rintro ⟨x, hx, hfree⟩
    rcases bind_eq_error_iff.mp hx with hx | ⟨value, hvalue, hx⟩
    · exact .inl ⟨x, hx, hfree⟩
    · exact .inr ⟨value, hvalue, x, hx, hfree⟩
  · rintro (⟨x, hx, hfree⟩ | ⟨value, hvalue, x, hx, hfree⟩)
    · exact ⟨x, bind_eq_error_iff.mpr (.inl hx), hfree⟩
    · exact ⟨x, bind_eq_error_iff.mpr (.inr ⟨value, hvalue, hx⟩), hfree⟩

theorem harmless_subscript (key : String) : Harmless (subscript key) := by
  intro object x h
  unfold subscript at h
  split at h
  · split at h
    · cases h
    · cases h
      rfl
  · cases h
    rfl

theorem harmless_memberOf (values : List String) : Harmless (memberOf values) := by
  intro object x h
  unfold memberOf at h
  split at h
  · split_ifs at h
    cases h
    rfl
  · cases h
    rfl

theorem harmless_elements {object : PyObject} {x : Raised} (h : object.elements = .error x) :
    caught x = true := by
  unfold elements at h
  split at h <;> cases h
  rfl

theorem harmless_asKey {object : PyObject} {x : Raised} (h : object.asKey = .error x) :
    caught x = true := by
  unfold asKey at h
  split at h <;> cases h
  rfl

theorem harmless_mapM {α β : Type} {f : α → Except Raised β} {xs : List α}
    (h : ∀ a ∈ xs, ∀ x, f a = .error x → caught x = true) {x : Raised}
    (hx : xs.mapM f = .error x) : caught x = true := by
  obtain ⟨before, a, after, rfl, -, ha⟩ := mapM_error_iff.mp hx
  exact h a (by simp) x ha

theorem harmless_foldlM {α β : Type} {f : β → α → Except Raised β} {xs : List α}
    (h : ∀ b a x, f b a = .error x → caught x = true) {b : β} {x : Raised}
    (hx : xs.foldlM f b = .error x) : caught x = true := by
  induction xs generalizing b with
  | nil => cases hx
  | cons a rest ih =>
      rw [List.foldlM_cons] at hx
      rcases bind_eq_error_iff.mp hx with hx | ⟨next, -, hx⟩
      · exact h b a x hx
      · exact ih hx

theorem harmless_assignPair {entries : List (PyKey × PyObject)} {pair : PyObject} {x : Raised}
    (h : assignPair entries pair = .error x) : caught x = true := by
  rcases bind_eq_error_iff.mp h with h | ⟨elements, -, h⟩
  · exact harmless_elements h
  · split at h
    · rcases bind_eq_error_iff.mp h with h | ⟨key, -, h⟩
      · exact harmless_asKey h
      · cases h
    · cases h
      rfl

theorem harmless_copyDict : Harmless copyDict := by
  intro object x h
  unfold copyDict at h
  split at h
  · cases h
  · rcases bind_eq_error_iff.mp h with h | ⟨pairs, -, h⟩
    · exact harmless_elements h
    · rcases bind_eq_error_iff.mp h with h | ⟨entries, -, h⟩
      · exact harmless_foldlM (fun _ _ _ => harmless_assignPair) h
      · cases h

theorem harmless_kwargs (parameters : List Parameter) : Harmless (kwargs parameters) := by
  intro object x h
  unfold kwargs at h
  split at h
  · split_ifs at h
    · rcases bind_eq_error_iff.mp h with h | ⟨values, -, h⟩
      · refine harmless_mapM (fun parameter _ x hx => ?_) h
        unfold argument at hx
        split at hx
        · cases hx
        · cases hx
          rfl
      · cases h
    · cases h
      rfl
  · cases h
    rfl

theorem harmless_each {build : Reader} (h : Harmless build) : Harmless (each build) := by
  intro object x hx
  rcases bind_eq_error_iff.mp hx with hx | ⟨elements, -, hx⟩
  · exact harmless_elements hx
  · rcases bind_eq_error_iff.mp hx with hx | ⟨values, -, hx⟩
    · exact harmless_mapM (fun element _ => h element) hx
    · cases hx

theorem harmless_effectClasses : Harmless effectClasses := by
  intro object x hx
  rcases bind_eq_error_iff.mp hx with hx | ⟨elements, -, hx⟩
  · exact harmless_elements hx
  · rcases bind_eq_error_iff.mp hx with hx | ⟨values, -, hx⟩
    · exact harmless_mapM (fun element _ => harmless_memberOf _ element) hx
    · cases hx

/-- A record is constructed when every reader returns. -/
theorem record_ok_iff_forall {fields : List Field} {source : PyObject} :
    (∃ object, record fields source = .ok object) ↔
      ∀ field ∈ fields, ∃ value, field.2 source = .ok value := by
  constructor
  · rintro ⟨object, h⟩ field hfield
    obtain ⟨values, hvalues, -⟩ := record_ok_iff.mp h
    obtain ⟨entry, -, hentry⟩ := (mem_of_mapM hvalues).1 field hfield
    obtain ⟨value, hvalue, -⟩ := map_eq_ok_iff.mp hentry
    exact ⟨value, hvalue⟩
  · intro h
    obtain ⟨values, hvalues⟩ := mapM_ok_of_forall
      (f := fun field : Field => (field.2 source).map fun value => (PyKey.str field.1, value))
      fun field hfield => by
        obtain ⟨value, hvalue⟩ := h field hfield
        exact ⟨_, map_eq_ok_iff.mpr ⟨value, hvalue, rfl⟩⟩
    exact ⟨_, record_ok_iff.mpr ⟨values, hvalues, rfl⟩⟩

/-- A record raises past `_construct` when its first reader to fail does. -/
theorem escapes_record {fields : List Field} {object : PyObject} :
    Escapes (record fields) object ↔ ∃ before field after, fields = before ++ field :: after ∧
      (∀ other ∈ before, ∃ value, other.2 object = .ok value) ∧ Escapes field.2 object := by
  constructor
  · rintro ⟨x, hx, hfree⟩
    obtain ⟨before, field, after, hfields, hbefore, hfield⟩ := record_error_iff.mp hx
    exact ⟨before, field, after, hfields, hbefore, x, hfield, hfree⟩
  · rintro ⟨before, field, after, hfields, hbefore, x, hfield, hfree⟩
    exact ⟨x, record_error_iff.mpr ⟨before, field, after, hfields, hbefore, hfield⟩, hfree⟩

theorem harmless_record {fields : List Field} (h : ∀ field ∈ fields, Harmless field.2) :
    Harmless (record fields) := by
  intro object x hx
  obtain ⟨before, field, after, rfl, -, hfield⟩ := record_error_iff.mp hx
  exact h field (by simp) object x hfield

theorem harmless_item (key : String) : Harmless (item key).2 :=
  harmless_subscript key

theorem harmless_member (values : List String) (key : String) :
    Harmless (member values key).2 := by
  intro object x hx
  rcases bind_eq_error_iff.mp hx with hx | ⟨value, -, hx⟩
  · exact harmless_subscript key object x hx
  · exact harmless_memberOf values value x hx

theorem harmless_itemField {build : Reader} (h : Harmless build) (key : String) :
    Harmless (itemField build key).2 := by
  intro object x hx
  rcases bind_eq_error_iff.mp hx with hx | ⟨value, -, hx⟩
  · exact harmless_subscript key object x hx
  · exact h value x hx

theorem harmless_mandate : Harmless (record mandateFields) := by
  apply harmless_record
  simp only [mandateFields, List.forall_mem_cons]
  exact ⟨harmless_item _, harmless_item _, harmless_member _ _, harmless_item _,
    harmless_item _, harmless_item _, harmless_item _,
    harmless_itemField harmless_effectClasses _, harmless_item _, by simp⟩

theorem harmless_scenario : Harmless (record scenarioFields) := by
  apply harmless_record
  simp only [scenarioFields, List.forall_mem_cons]
  exact ⟨harmless_member _ _, harmless_item _, harmless_item _, harmless_item _,
    harmless_item _, by simp⟩

theorem harmless_effectRecord : Harmless (record effectRecordFields) := by
  apply harmless_record
  simp only [effectRecordFields, List.forall_mem_cons]
  exact ⟨harmless_item _, harmless_member _ _, harmless_item _, harmless_item _,
    by simp⟩

theorem harmless_preparedActionFields : ∀ field ∈ preparedActionFields, Harmless field.2 := by
  simp only [preparedActionFields, List.forall_mem_cons]
  refine ⟨harmless_item _, harmless_item _, harmless_item _,
    harmless_item _, harmless_item _, harmless_item _, harmless_member _ _,
    harmless_itemField harmless_copyDict _, harmless_item _, harmless_item _,
    harmless_item _, harmless_item _, harmless_item _, harmless_item _,
    harmless_item _, harmless_member _ _, by simp⟩

/-- The guidance of a signal is read with `get`, after five subscripts. -/
theorem harmless_signal : Harmless (record signalFields) := by
  intro object x hx
  obtain ⟨before, field, after, hfields, hbefore, hfield⟩ := record_error_iff.mp hx
  cases object with
  | mapping holder entries =>
      have hmem : field ∈ signalFields := hfields ▸ by simp
      simp only [signalFields, List.mem_cons, List.not_mem_nil, or_false] at hmem
      rcases hmem with rfl | rfl | rfl | rfl | rfl | rfl
      · exact harmless_item _ _ x hfield
      · exact harmless_item _ _ x hfield
      · exact harmless_member _ _ _ x hfield
      · exact harmless_item _ _ x hfield
      · exact harmless_item _ _ x hfield
      · cases hfield
  | _ =>
      cases before with
      | nil =>
          obtain ⟨rfl, -⟩ := List.cons.inj hfields
          exact harmless_item _ _ x hfield
      | cons first before =>
          obtain ⟨rfl, -⟩ := List.cons.inj hfields
          obtain ⟨value, hvalue⟩ := hbefore _ List.mem_cons_self
          cases hvalue

/-! ## Fields of a payload -/

section Payload

variable {holder : Holder} {entries : List (PyKey × PyObject)}

theorem get_mapping (key : String) (default : PyObject) :
    get key default (.mapping holder entries) = .ok ((lookup key entries).getD default) := rfl

theorem not_escapes_optional (key : String) :
    ¬ Escapes (optional key).2 (.mapping holder entries) := by
  rintro ⟨x, hx, -⟩
  cases hx

theorem escapes_itemField {build : Reader} {key : String} :
    Escapes (itemField build key).2 (.mapping holder entries) ↔
      ∃ value, lookup key entries = some value ∧ Escapes build value := by
  unfold itemField
  rw [escapes_bind, or_iff_right ((harmless_subscript key).not_escapes _)]
  simp only [subscript]
  cases lookup key entries <;> simp

theorem escapes_truthyField {build : Reader} {key : String} :
    Escapes (truthyField build key).2 (.mapping holder entries) ↔
      ∃ value, lookup key entries = some value ∧ value.truthy = true ∧ Escapes build value := by
  unfold truthyField
  simp only [get_mapping, Escapes, subscript]
  cases h : lookup key entries with
  | none => simp [bind, Except.bind, truthy]
  | some value =>
      by_cases hvalue : value.truthy = true
      · simp [bind, Except.bind, hvalue]
      · simp [bind, Except.bind, hvalue]

theorem not_escapes_presentField {build : Reader} {key : String} (h : Harmless build) :
    ¬ Escapes (presentField build key).2 (.mapping holder entries) := by
  rintro ⟨x, hx, hfree⟩
  simp only [presentField, get_mapping, bind, Except.bind] at hx
  split at hx
  · cases hx
  · exact h.not_escapes _ ⟨x, hx, hfree⟩

theorem escapes_defaultField {build : Reader} {default : PyObject} {key : String} :
    Escapes (defaultField build default key).2 (.mapping holder entries) ↔
      Escapes build ((lookup key entries).getD default) := by
  unfold defaultField
  rw [escapes_bind]
  simp [get_mapping, Escapes]

theorem escapes_datetime {lib : PyLibrary} {value : PyObject} :
    Escapes (datetime lib) value ↔ ∃ text instant, value = .str text ∧
      lib.isoParse text = some (some instant) ∧ ¬ Timestamp.InRange instant := by
  constructor
  · rintro ⟨x, hx, hfree⟩
    unfold datetime at hx
    split at hx
    · split at hx
      · cases hx
        cases hfree
      · cases hx
        cases hfree
      · split_ifs at hx with hrange
        exact ⟨_, _, rfl, ‹_›, hrange⟩
    · cases hx
      cases hfree
  · rintro ⟨text, instant, rfl, hparse, hrange⟩
    exact ⟨.overflowError, by simp [datetime, hparse, hrange], rfl⟩

theorem escapes_item_datetime {lib : PyLibrary} {key : String} :
    Escapes (itemField (datetime lib) key).2 (.mapping holder entries) ↔
      OutOfRange lib key (.mapping holder entries) := by
  rw [escapes_itemField]
  simp only [escapes_datetime]
  constructor
  · rintro ⟨value, hvalue, text, instant, rfl, hparse, hrange⟩
    exact ⟨holder, entries, text, instant, rfl, hvalue, hparse, hrange⟩
  · rintro ⟨_, _, text, instant, heq, hvalue, hparse, hrange⟩
    cases heq
    exact ⟨_, hvalue, text, instant, rfl, hparse, hrange⟩

/-- An empty text is no timestamp, so the truth of the text does not matter. -/
theorem escapes_truthy_datetime {lib : PyLibrary} {key : String} :
    Escapes (truthyField (datetime lib) key).2 (.mapping holder entries) ↔
      OutOfRange lib key (.mapping holder entries) := by
  rw [escapes_truthyField, ← escapes_item_datetime, escapes_itemField]
  constructor
  · rintro ⟨value, hvalue, -, hescapes⟩
    exact ⟨value, hvalue, hescapes⟩
  · rintro ⟨value, hvalue, hescapes⟩
    refine ⟨value, hvalue, ?_, hescapes⟩
    obtain ⟨text, instant, rfl, hparse, -⟩ := escapes_datetime.mp hescapes
    have hne : text ≠ "" := by
      rintro rfl
      rw [lib.isoParse_empty] at hparse
      cases hparse
    simp [truthy, hne]

/-! ## Mappings of a state -/

theorem escapes_eachValue {build : Reader} {object : PyObject} :
    Escapes (eachValue build) object ↔ (∀ holder entries, object ≠ .mapping holder entries) ∨
      ∃ holder front entry back, object = .mapping holder (front ++ entry :: back) ∧
        (∀ other ∈ front, ∃ value, build other.2 = .ok value) ∧ Escapes build entry.2 := by
  cases object with
  | mapping holder entries =>
      constructor
      · rintro ⟨x, hx, hfree⟩
        rcases bind_eq_error_iff.mp hx with hx | ⟨pairs, hpairs, hx⟩
        · cases hx
        · cases hpairs
          rcases bind_eq_error_iff.mp hx with hx | ⟨values, -, hx⟩
          · obtain ⟨front, entry, back, rfl, hfront, hentry⟩ := mapM_error_iff.mp hx
            refine .inr ⟨holder, front, entry, back, rfl, fun other hother => ?_, x,
              map_eq_error_iff.mp hentry, hfree⟩
            obtain ⟨_, hvalue⟩ := hfront other hother
            obtain ⟨value, hvalue, -⟩ := map_eq_ok_iff.mp hvalue
            exact ⟨value, hvalue⟩
          · cases hx
      · rintro (hnot | ⟨_, front, entry, back, heq, hfront, x, hx, hfree⟩)
        · exact absurd rfl (hnot holder entries)
        · obtain ⟨-, rfl⟩ := PyObject.mapping.inj heq
          refine ⟨x, bind_eq_error_iff.mpr (.inr ⟨_, rfl, bind_eq_error_iff.mpr (.inl
            (mapM_error_iff.mpr ⟨front, entry, back, rfl, fun other hother => ?_,
              map_eq_error_iff.mpr hx⟩))⟩), hfree⟩
          obtain ⟨value, hvalue⟩ := hfront other hother
          exact ⟨_, map_eq_ok_iff.mpr ⟨value, hvalue, rfl⟩⟩
  | _ =>
      refine iff_of_true ⟨.attributeError, rfl, rfl⟩ (.inl ?_)
      rintro holder entries ⟨⟩

end Payload

/-- A prepared action raises past `_construct` when all but its expiry can be read. -/
theorem escapes_preparedAction {lib : PyLibrary} {object : PyObject} :
    Escapes (preparedAction lib) object ↔
      (∃ action, record preparedActionFields object = .ok action) ∧
        OutOfRange lib "expires_at" object := by
  have hlast : Escapes (itemField (datetime lib) "expires_at").2 object ↔
      OutOfRange lib "expires_at" object := by
    cases object with
    | mapping holder entries => exact escapes_item_datetime
    | _ =>
        refine iff_of_false ?_ ?_
        · rintro ⟨x, hx, hfree⟩
          cases hx
          cases hfree
        · rintro ⟨holder, entries, text, instant, heq, -⟩
          cases heq
  rw [← hlast, preparedAction, escapes_record, record_ok_iff_forall]
  constructor
  · rintro ⟨before, field, after, hfields, hbefore, hfield⟩
    rcases List.eq_nil_or_concat after with rfl | ⟨after, last, rfl⟩
    · obtain ⟨rfl, heq⟩ := List.append_inj' hfields rfl
      obtain rfl := (List.cons.inj heq).1
      exact ⟨hbefore, hfield⟩
    · have hinit : preparedActionFields ++ [itemField (datetime lib) "expires_at"] =
          (before ++ field :: after) ++ [last] := by
        simpa using hfields
      have hmem : field ∈ preparedActionFields := by
        rw [(List.append_inj' hinit rfl).1]
        simp
      exact absurd hfield ((harmless_preparedActionFields field hmem).not_escapes object)
  · rintro ⟨hfields, hfield⟩
    exact ⟨preparedActionFields, _, [], rfl, hfields, hfield⟩

/-! ## Which fields are bad -/

section Fields

variable (lib : PyLibrary) {holder : Holder} {entries : List (PyKey × PyObject)}

/-- A default that is a mapping is read like an empty one. -/
theorem escapes_values {build : Reader} {key : String} :
    Escapes (defaultField (eachValue build) emptyDict key).2 (.mapping holder entries) ↔
      NotObject key (.mapping holder entries) ∨ ∃ holder' front entry back,
        lookup key entries = some (.mapping holder' (front ++ entry :: back)) ∧
        (∀ other ∈ front, ∃ value, build other.2 = .ok value) ∧ Escapes build entry.2 := by
  rw [escapes_defaultField, escapes_eachValue]
  cases h : lookup key entries with
  | none =>
      simp [emptyDict, NotObject, h]
  | some value =>
      simp [NotObject, h]

theorem escapes_facts :
    Escapes (defaultField (eachValue (kwargs numericFactParameters)) emptyDict "facts").2
      (.mapping holder entries) ↔ NotObject "facts" (.mapping holder entries) := by
  rw [escapes_values, or_iff_left]
  rintro ⟨_, _, entry, _, -, -, hentry⟩
  exact (harmless_kwargs _).not_escapes entry.2 hentry

theorem escapes_preparedActions :
    Escapes (defaultField (eachValue (preparedAction lib)) emptyDict "prepared_actions").2
      (.mapping holder entries) ↔
      NotObject "prepared_actions" (.mapping holder entries) ∨
        BadExpiry lib (.mapping holder entries) := by
  rw [escapes_values]
  refine or_congr Iff.rfl ?_
  simp only [escapes_preparedAction, BadExpiry, PyObject.mapping.injEq]
  constructor
  · rintro ⟨holder', front, entry, back, hlookup, hfront, haction, hrange⟩
    exact ⟨holder, entries, holder', front, entry, back, ⟨rfl, rfl⟩, hlookup, hfront, haction,
      hrange⟩
  · rintro ⟨_, _, holder', front, entry, back, ⟨rfl, rfl⟩, hlookup, hfront, haction, hrange⟩
    exact ⟨holder', front, entry, back, hlookup, hfront, haction, hrange⟩

theorem not_escapes_default {build : Reader} (h : Harmless build) (default : PyObject)
    (key : String) :
    ¬ Escapes (defaultField build default key).2 (.mapping holder entries) := by
  rw [escapes_defaultField]
  exact h.not_escapes _

theorem not_escapes_truthy {build : Reader} (h : Harmless build) (key : String) :
    ¬ Escapes (truthyField build key).2 (.mapping holder entries) := by
  rw [escapes_truthyField]
  rintro ⟨value, -, -, hvalue⟩
  exact h.not_escapes value hvalue

theorem not_escapes_constant (value : PyObject) :
    ¬ Escapes (fun _ => .ok value) (.mapping holder entries) := by
  rintro ⟨x, hx, -⟩
  cases hx

theorem not_escapes_get (key : String) (default : PyObject) :
    ¬ Escapes (get key default) (.mapping holder entries) := by
  rintro ⟨x, hx, -⟩
  cases hx

theorem not_escapes_item (key : String) : ¬ Escapes (item key).2 (.mapping holder entries) :=
  (harmless_item key).not_escapes _

theorem not_escapes_member (values : List String) (key : String) :
    ¬ Escapes (member values key).2 (.mapping holder entries) :=
  (harmless_member values key).not_escapes _

theorem not_escapes_itemField {build : Reader} (h : Harmless build) (key : String) :
    ¬ Escapes (itemField build key).2 (.mapping holder entries) :=
  (harmless_itemField h key).not_escapes _

/-- Field by field, when reading it raises past `_construct`. -/
theorem agrees (events decisions : List PyObject) (kind : RecordKind) :
    ∀ field ∈ fieldsOf lib events decisions kind,
      Escapes field.2 (.mapping holder entries) ↔
        Bad lib kind field.1 (.mapping holder entries) := by
  have hagent (key : String) :
      ¬ Escapes (truthyField (memberOf AgentName.values) key).2 (.mapping holder entries) :=
    not_escapes_truthy (harmless_memberOf _) key
  have hclass (key : String) :
      ¬ Escapes (truthyField (memberOf EffectClass.values) key).2 (.mapping holder entries) :=
    not_escapes_truthy (harmless_memberOf _) key
  have hkwargs (parameters : List Parameter) (key : String) :
      ¬ Escapes (truthyField (kwargs parameters) key).2 (.mapping holder entries) :=
    not_escapes_truthy (harmless_kwargs _) key
  have hcopy (key : String) :
      ¬ Escapes (defaultField copyDict emptyDict key).2 (.mapping holder entries) :=
    not_escapes_default harmless_copyDict _ key
  cases kind with
  | state =>
      simp only [fieldsOf, stateFields, List.forall_mem_cons, List.not_mem_nil, false_implies,
        implies_true, and_true, not_escapes_item, not_escapes_member, not_escapes_optional,
        hagent, hkwargs, hcopy, not_escapes_presentField harmless_mandate,
        not_escapes_presentField harmless_scenario,
        not_escapes_default (harmless_each harmless_effectRecord), not_escapes_constant,
        not_escapes_get, escapes_facts, escapes_preparedActions, Bad]
      simp [item, member, optional, truthyField, presentField, defaultField]
  | event =>
      simp only [fieldsOf, eventFields, List.forall_mem_cons, List.not_mem_nil, false_implies,
        implies_true, and_true, not_escapes_item, not_escapes_member, not_escapes_optional, hagent,
        hclass, hcopy, escapes_item_datetime, Bad]
      simp [item, itemField, member, optional, truthyField, defaultField]
  | decision =>
      simp only [fieldsOf, decisionFields, List.forall_mem_cons, List.not_mem_nil, false_implies,
        implies_true, and_true, not_escapes_item, not_escapes_member, not_escapes_optional,
        hclass, not_escapes_itemField (harmless_each harmless_signal), escapes_item_datetime, Bad]
      simp [item, itemField, member, optional, truthyField]
  | approval =>
      simp only [fieldsOf, approvalFields, List.forall_mem_cons, List.not_mem_nil, false_implies,
        implies_true, and_true, not_escapes_item, not_escapes_member, not_escapes_optional,
        not_escapes_truthy (harmless_memberOf ApprovalDecision.values), escapes_item_datetime,
        escapes_truthy_datetime, Bad]
      simp [item, itemField, member, optional, truthyField]
  | head =>
      simp only [fieldsOf, headFields, List.forall_mem_cons, List.not_mem_nil, false_implies,
        implies_true, and_true, not_escapes_item, escapes_item_datetime, Bad]
      simp [item, itemField]
  | replay =>
      simp only [fieldsOf, replayFields, List.forall_mem_cons, List.not_mem_nil, false_implies,
        implies_true, and_true, not_escapes_item, not_escapes_member, escapes_item_datetime, Bad]
      simp [item, itemField, member]
  | effect =>
      simp only [fieldsOf, effectFields, List.forall_mem_cons, List.not_mem_nil, false_implies,
        implies_true, and_true, not_escapes_item, not_escapes_itemField harmless_copyDict,
        escapes_item_datetime, Bad]
      simp [item, itemField]

end Fields

/-! ## The decoders -/

/-- A payload is an object, and what is wrong with an envelope is reported as such. -/
theorem openEnvelope_spec {kind : RecordKind} {envelope : PyObject} :
    (∀ payload, openEnvelope kind envelope = .ok payload →
      ∃ holder entries, payload = .mapping holder entries) ∧
    FailsClosed (openEnvelope kind envelope) := by
  constructor
  · intro payload h
    unfold openEnvelope at h
    split at h
    · split_ifs at h
      split at h
      · exact ⟨_, _, (Except.ok.inj h).symm⟩
      · cases h
    · cases h
  · intro x h
    unfold openEnvelope at h
    split at h
    · split at h
      · cases h
        exact .inr rfl
      · split at h
        · cases h
          exact .inr rfl
        · split at h <;> cases h
          exact .inl rfl
    · cases h
      exact .inl rfl

theorem failsClosed_construct {kind : RecordKind} {built : Reader} {payload : PyObject} :
    FailsClosed (construct kind (built payload)) ↔ ¬ Escapes built payload := by
  unfold construct
  constructor
  · rintro h ⟨x, hx, hfree⟩
    have hclass := h (.ofPython x.name) (by simp [hx, hfree])
    rcases hclass with hclass | hclass <;> cases hclass
  · intro h x hx
    split at hx
    · cases hx
    · rename_i raised hraised
      split_ifs at hx with hcaught
      · cases hx
        exact .inl rfl
      · exact absurd ⟨raised, hraised, by simpa using hcaught⟩ h

/-- What passes the envelope and the construction of a decoder. -/
theorem failsClosed_decoder {lib : PyLibrary} {document : String} {kind : RecordKind}
    {built : Reader} :
    FailsClosed (decode lib document kind >>= fun payload => construct kind (built payload)) ↔
      ¬ (lib.loads document = .error .valueError ∨
        lib.loads document = .error .recursionError ∨
        ∃ envelope payload, lib.loads document = .ok envelope ∧
          openEnvelope kind envelope = .ok payload ∧ Escapes built payload) := by
  unfold decode
  cases hload : lib.loads document with
  | error fault =>
      cases fault with
      | decodeError =>
          refine iff_of_true ?_ (by simp)
          intro x hx
          cases hx
          exact .inl rfl
      | valueError =>
          refine iff_of_false (fun h => ?_) (by simp)
          rcases h _ rfl with h | h <;> cases h
      | recursionError =>
          refine iff_of_false (fun h => ?_) (by simp)
          rcases h _ rfl with h | h <;> cases h
  | ok envelope =>
      show FailsClosed (openEnvelope kind envelope >>= fun payload =>
        construct kind (built payload)) ↔ _
      cases hopen : openEnvelope kind envelope with
      | error y =>
          refine iff_of_true ?_ (by simp [hopen])
          intro x hx
          cases hx
          exact openEnvelope_spec.2 y hopen
      | ok payload =>
          show FailsClosed (construct kind (built payload)) ↔ _
          rw [failsClosed_construct]
          simp [hopen]

theorem harmless_postInit (keys : List String) : Harmless (postInit keys) := by
  intro object x h
  unfold postInit at h
  split at h
  · split_ifs at h
    cases h
    rfl
  · cases h

/-- The record of a kind raises past `_construct` when its first field to fail is a bad one. -/
theorem escapes_fieldsOf {lib : PyLibrary} {events decisions : List PyObject} {kind : RecordKind}
    {holder : Holder} {entries : List (PyKey × PyObject)} :
    Escapes (record (fieldsOf lib events decisions kind)) (.mapping holder entries) ↔
      ∃ before field after, fieldsOf lib events decisions kind = before ++ field :: after ∧
        (∀ other ∈ before, ∃ value, other.2 (.mapping holder entries) = .ok value) ∧
        Bad lib kind field.1 (.mapping holder entries) := by
  rw [escapes_record]
  constructor
  · rintro ⟨before, field, after, hfields, hbefore, hfield⟩
    exact ⟨before, field, after, hfields, hbefore,
      (agrees lib events decisions kind field (hfields ▸ by simp)).mp hfield⟩
  · rintro ⟨before, field, after, hfields, hbefore, hfield⟩
    exact ⟨before, field, after, hfields, hbefore,
      (agrees lib events decisions kind field (hfields ▸ by simp)).mpr hfield⟩

/-- A decoder fails closed unless the loader raises past `_decode` or the first field that
cannot be read is a bad one. -/
theorem failsClosed_fields {lib : PyLibrary} {document : String} {events decisions : List PyObject}
    {kind : RecordKind} {built : Reader}
    (hbuilt : ∀ payload, Escapes built payload ↔
      Escapes (record (fieldsOf lib events decisions kind)) payload) :
    FailsClosed (decode lib document kind >>= fun payload => construct kind (built payload)) ↔
      ¬ Uncaught lib document events decisions kind := by
  rw [failsClosed_decoder, Uncaught]
  refine not_congr (or_congr Iff.rfl (or_congr Iff.rfl ?_))
  constructor
  · rintro ⟨envelope, payload, hload, hopen, hescapes⟩
    obtain ⟨holder, entries, rfl⟩ := openEnvelope_spec.1 payload hopen
    exact ⟨envelope, _, hload, hopen, escapes_fieldsOf.mp ((hbuilt _).mp hescapes)⟩
  · rintro ⟨envelope, payload, hload, hopen, hbad⟩
    obtain ⟨holder, entries, rfl⟩ := openEnvelope_spec.1 payload hopen
    exact ⟨envelope, _, hload, hopen, (hbuilt _).mpr (escapes_fieldsOf.mpr hbad)⟩

/-- The checks after construction raise nothing uncaught. -/
theorem escapes_postInit {read : Reader} {keys : List String} (payload : PyObject) :
    Escapes (fun source => read source >>= postInit keys) payload ↔ Escapes read payload := by
  rw [escapes_bind, or_iff_left]
  rintro ⟨value, -, hvalue⟩
  exact (harmless_postInit keys).not_escapes value hvalue

/-- A decoder returns a record or raises one of the two errors of the storage layer exactly
when the loader raises nothing but `JSONDecodeError` and the first field that cannot be read
is no timestamp without an equivalent in UTC and no mapping of a state that is not an
object. -/
theorem decodeRecord_failsClosed_iff (lib : PyLibrary) (document : String)
    (events decisions : List PyObject) (kind : RecordKind) :
    FailsClosed (decodeRecord lib document events decisions kind) ↔
      ¬ Uncaught lib document events decisions kind := by
  cases kind with
  | state => exact failsClosed_fields fun _ => Iff.rfl
  | event => exact failsClosed_fields fun _ => Iff.rfl
  | decision => exact failsClosed_fields fun _ => Iff.rfl
  | approval => exact failsClosed_fields fun _ => Iff.rfl
  | head => exact failsClosed_fields fun _ => Iff.rfl
  | replay => exact failsClosed_fields escapes_postInit
  | effect => exact failsClosed_fields escapes_postInit

end Codec

namespace Demo

/-- A stored state whose facts are a list. -/
def listedFacts : String :=
  "\x7b\"payload\":\x7b\"facts\":[]\x7d,\"record_schema_version\":\"trace-state-v1\"," ++
    "\"storage_schema_version\":\"manifest-storage-v1\"\x7d"

end Demo

/-- A list of facts has no `items`, and `_construct` does not catch the `AttributeError`. -/
theorem not_decodeRecord_failsClosed :
    ¬ ∀ (lib : Codec.PyLibrary) (document : String) (events decisions : List PyObject)
      (kind : Codec.RecordKind),
        Codec.FailsClosed (Codec.decodeRecord lib document events decisions kind) := by
  intro h
  have hclosed := h (.written Value.readLiteral) Demo.listedFacts [] [] .state
  revert hclosed
  decide +kernel

end Manifest
