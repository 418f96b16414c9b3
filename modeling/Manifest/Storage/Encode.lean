import Manifest.Ledger.Reprint
import Manifest.Lib.PyEqual
import Manifest.Storage.Decode

/-!
# Encoders of durable records

`_normalize` turns a record into JSON primitives, in its own way: it takes sets, which
`canonical_json` refuses, and no mappings but dictionaries.  `_encode` puts the result under the
versioned envelope and prints it with `canonical_json`, which normalizes it once more.

Main results:

- Theorem `persisted_eq_normalize`: the two normalizers agree where both return.
- Theorem `Persists.fields`: a mapping or a record, from the values of its fields.
- Theorem `encode_ok`: the text an encoder returns.
-/

set_option autoImplicit false

namespace Manifest

namespace Codec

open Canonical Fallible PyObject

/-! ## Normalization -/

/-- The exception behind a fault. -/
def ofFault : Fault → PyError
  | .typeError => .ofPython "TypeError"
  | .valueError => .ofPython "ValueError"
  | .overflowError => .ofPython "OverflowError"

def unsupported (typeName : String) : PyError :=
  ⟨.tracePersistence, s!"Unsupported persisted value type: {typeName}."⟩

section Normalize

variable (str : PyObject → String)

mutual

/-- `_normalize`, for a `str` of what the elements of a set become. -/
def persisted : PyObject → Except PyError PyObject
  | .member _ value => .ok value
  | .datetime Option.none =>
      .error ⟨.tracePersistence, "Persisted datetimes must include a timezone."⟩
  | .datetime (some instant) =>
      match utcText instant with
      | .ok text => .ok (.str text)
      | .error fault => .error (ofFault fault)
  -- `asdict` makes a mapping of an instance of a dataclass.
  | .mapping holder entries =>
      if holder = .view then .error (unsupported "mappingproxy")
      else do
        let items ← persistedEntries entries
        .ok (ofDict (Dict.setAll ∅ items))
  | .set items => do
      let items ← persistedItems items
      .ok (.sequence (items.insertionSort fun a b => str a ≤ str b))
  | .sequence items => do
      let items ← persistedItems items
      .ok (.sequence items)
  | .none => .ok .none
  | .bool b => .ok (.bool b)
  | .int n => .ok (.int n)
  | .float x => .ok (.float x)
  | .nonFinite => .ok .nonFinite
  | .str s => .ok (.str s)
  | .other typeName => .error (unsupported typeName)

def persistedItems : List PyObject → Except PyError (List PyObject)
  | [] => .ok []
  | item :: rest => do
      let first ← persisted item
      let others ← persistedItems rest
      .ok (first :: others)

/-- `str(key)` and the normalized value, entry by entry. -/
def persistedEntries : List (PyKey × PyObject) → Except PyError (List (String × PyObject))
  | [] => .ok []
  | (key, value) :: rest => do
      let first ← persisted value
      let others ← persistedEntries rest
      .ok ((key.text, first) :: others)

end

end Normalize

/-! ## Encoding -/

/-- `assert_item_size`. -/
def assertItemSize (document label : String) : Except PyError Unit :=
  let size := textSize document.toList
  if Document.maxPersistedItemBytes < size then
    .error ⟨.itemSizeLimit,
      s!"Serialized {label} is {size} bytes; maximum is {Document.maxPersistedItemBytes}."⟩
  else .ok ()

/-- The versioned envelope. -/
def enveloped (schemaVersion : String) (payload : PyObject) : PyObject :=
  .mapping .dict
    [ (.str "storage_schema_version", .str Document.storageSchemaVersion),
      (.str "record_schema_version", .str schemaVersion),
      (.str "payload", payload) ]

/-- `canonical_json`, with the exception it raises. -/
def canonicalText (object : PyObject) : Except PyError String :=
  match Canonical.canonicalJson object with
  | .ok text => .ok text
  | .error fault => .error (ofFault fault)

/-- `payload.pop(key, None)`. -/
def pop (key : String) : PyObject → PyObject
  | .mapping holder entries =>
      .mapping holder (entries.filter fun entry => decide (entry.1.string? ≠ some key))
  | object => object

section Encoders

variable (str : PyObject → String)

/-- `_encode`. -/
def encode (kind : RecordKind) (payload : PyObject) : Except PyError String := do
  let normalized ← persisted str payload
  let document ← canonicalText (enveloped kind.schemaVersion normalized)
  assertItemSize document kind.label
  .ok document

/-- `encode_state_json`: the events and decisions have items of their own. -/
def encodeStateJson (state : PyObject) : Except PyError String := do
  let payload ← persisted str state
  encode str .state (pop "decisions" (pop "events" payload))

/-- The encoder of a kind of record. -/
def encodeRecord : RecordKind → PyObject → Except PyError String
  | .state, state => encodeStateJson str state
  | kind, record => encode str kind record

end Encoders

/-! ## The two normalizers -/

variable {str : PyObject → String}

theorem persistedItems_eq (items : List PyObject) :
    persistedItems str items = items.mapM (persisted str) := by
  induction items with
  | nil => rfl
  | cons item rest ih =>
      rw [List.mapM_cons, ← ih]
      rfl

mutual

/-- Where both normalizers return, they return the same. -/
theorem persisted_eq_normalize : (object : PyObject) → ∀ value value',
    Canonical.normalize object = .ok value → persisted str object = .ok value' → value' = value
  | .member _ value, _, _, h, h' => by
      rw [← Except.ok.inj h, ← Except.ok.inj h']
  | .datetime Option.none, _, _, h, _ => by cases h
  | .datetime (some instant), value, value', h, h' => by
      unfold Canonical.normalize at h
      unfold persisted at h'
      cases htext : utcText instant with
      | error fault =>
          rw [htext] at h
          cases h
      | ok text =>
          rw [htext] at h h'
          rw [← Except.ok.inj h, ← Except.ok.inj h']
  | .mapping holder entries, value, value', h, h' => by
      unfold Canonical.normalize at h
      unfold persisted at h'
      split_ifs at h' with hview
      obtain ⟨items, hitems, h⟩ := bind_eq_ok_iff.mp h
      obtain ⟨items', hitems', h'⟩ := bind_eq_ok_iff.mp h'
      rw [← Except.ok.inj h, ← Except.ok.inj h',
        persistedEntries_eq_normalize entries items items' hitems hitems']
  | .sequence items, value, value', h, h' => by
      unfold Canonical.normalize at h
      unfold persisted at h'
      obtain ⟨values, hvalues, h⟩ := bind_eq_ok_iff.mp h
      obtain ⟨values', hvalues', h'⟩ := bind_eq_ok_iff.mp h'
      rw [← Except.ok.inj h, ← Except.ok.inj h',
        persistedItems_eq_normalize items values values' hvalues hvalues']
  | .set _, _, _, h, _ => by cases h
  | .nonFinite, _, _, h, _ => by cases h
  | .none, _, _, h, h' => by rw [← Except.ok.inj h, ← Except.ok.inj h']
  | .bool _, _, _, h, h' => by rw [← Except.ok.inj h, ← Except.ok.inj h']
  | .int _, _, _, h, h' => by rw [← Except.ok.inj h, ← Except.ok.inj h']
  | .float _, _, _, h, h' => by rw [← Except.ok.inj h, ← Except.ok.inj h']
  | .str _, _, _, h, h' => by rw [← Except.ok.inj h, ← Except.ok.inj h']
  | .other _, _, _, h, _ => by cases h

theorem persistedItems_eq_normalize : (items : List PyObject) → ∀ values values',
    normalizeItems items = .ok values → persistedItems str items = .ok values' → values' = values
  | [], _, _, h, h' => by rw [← Except.ok.inj h, ← Except.ok.inj h']
  | item :: rest, values, values', h, h' => by
      obtain ⟨first, hfirst, h⟩ := bind_eq_ok_iff.mp h
      obtain ⟨others, hothers, h⟩ := bind_eq_ok_iff.mp h
      obtain ⟨first', hfirst', h'⟩ := bind_eq_ok_iff.mp h'
      obtain ⟨others', hothers', h'⟩ := bind_eq_ok_iff.mp h'
      rw [← Except.ok.inj h, ← Except.ok.inj h',
        persisted_eq_normalize item first first' hfirst hfirst',
        persistedItems_eq_normalize rest others others' hothers hothers']

theorem persistedEntries_eq_normalize : (entries : List (PyKey × PyObject)) → ∀ values values',
    normalizeEntries entries = .ok values → persistedEntries str entries = .ok values' →
      values' = values
  | [], _, _, h, h' => by rw [← Except.ok.inj h, ← Except.ok.inj h']
  | (key, value) :: rest, values, values', h, h' => by
      obtain ⟨first, hfirst, h⟩ := bind_eq_ok_iff.mp h
      obtain ⟨others, hothers, h⟩ := bind_eq_ok_iff.mp h
      obtain ⟨first', hfirst', h'⟩ := bind_eq_ok_iff.mp h'
      obtain ⟨others', hothers', h'⟩ := bind_eq_ok_iff.mp h'
      rw [← Except.ok.inj h, ← Except.ok.inj h',
        persisted_eq_normalize value first first' hfirst hfirst',
        persistedEntries_eq_normalize rest others others' hothers hothers']

end

/-! ## JSON values and records -/

mutual

/-- A JSON value is persisted as it is. -/
theorem persisted_ofValue : (v : Value) → KeysDistinct v →
    persisted str (ofValue v) = .ok (ofValue v)
  | .none, _ => rfl
  | .bool _, _ => rfl
  | .int _, _ => rfl
  | .float _, _ => rfl
  | .str _, _ => rfl
  | .list xs, h => by
      rw [ofValue, persisted, persistedItems_ofValues xs h]
      rfl
  | .dict kvs, h => by
      have hnodup : ((kvs.map fun entry => (entry.1, ofValue entry.2)).map Prod.fst).Nodup := by
        rw [List.map_map]
        exact h.1
      rw [ofValue, persisted, if_neg (by decide), persistedEntries_ofEntries kvs h.2]
      show Except.ok (ofDict (Dict.setAll ∅ (kvs.map fun entry => (entry.1, ofValue entry.2)))) = _
      rw [ofDict, Dict.entries_setAll ∅ _ (by simpa using hnodup), ofEntries_eq]
      simp [Function.comp_def]

theorem persistedItems_ofValues : (xs : List Value) → KeysDistinctList xs →
    persistedItems str (ofValues xs) = .ok (ofValues xs)
  | [], _ => rfl
  | x :: xs, h => by
      rw [ofValues, persistedItems, persisted_ofValue x h.1, persistedItems_ofValues xs h.2]
      rfl

theorem persistedEntries_ofEntries : (kvs : List (String × Value)) → KeysDistinctEntries kvs →
    persistedEntries str (ofEntries kvs) = .ok (kvs.map fun entry => (entry.1, ofValue entry.2))
  | [], _ => rfl
  | (k, v) :: rest, h => by
      rw [ofEntries, persistedEntries, persisted_ofValue v h.1,
        persistedEntries_ofEntries rest h.2]
      rfl

end

/-- An instance of a dataclass with the values of its fields. -/
def instanceOf (fields : List (String × PyObject)) : PyObject :=
  .mapping .dataclass (keyed id fields)

/-- A dictionary of records. -/
def dictOf {α : Type} (f : α → PyObject) (fields : List (String × α)) : PyObject :=
  .mapping .dict (keyed f fields)

/-- An object that is persisted as a JSON value. -/
def Persists (str : PyObject → String) (object : PyObject) (v : Value) : Prop :=
  persisted str object = .ok (ofValue v) ∧ KeysDistinct v

/-- A field that is persisted under its name. -/
def FieldPersists {α : Type} (str : PyObject → String) (f : α → PyObject) (field : String × α)
    (kv : String × Value) : Prop :=
  kv.1 = field.1 ∧ Persists str (f field.2) kv.2

theorem Persists.ofValue {v : Value} (h : KeysDistinct v) : Persists str (ofValue v) v :=
  ⟨persisted_ofValue v h, h⟩

/-- A mapping is persisted as the mapping of its persisted values. -/
theorem persisted_keyed {α : Type} {f : α → PyObject} {holder : Holder}
    {fields : List (String × α)} {named : List (String × PyObject)} (hholder : holder ≠ .view)
    (h : List.Forall₂ (fun field entry => entry.1 = field.1 ∧
      persisted str (f field.2) = .ok entry.2) fields named)
    (hnodup : (named.map Prod.fst).Nodup) :
    persisted str (.mapping holder (keyed f fields)) = .ok (.mapping .dict (keyed id named)) := by
  have hentries : persistedEntries str (keyed f fields) = .ok named := by
    clear hnodup
    induction h with
    | nil => rfl
    | @cons field entry _ _ hfirst _ ih =>
        unfold keyed at ih ⊢
        rw [List.map_cons, persistedEntries, hfirst.2, ih]
        show Except.ok ((field.1, entry.2) :: _) = _
        rw [← hfirst.1]
  rw [persisted, if_neg hholder, hentries]
  show Except.ok (ofDict (Dict.setAll ∅ named)) = _
  rw [ofDict, Dict.entries_setAll ∅ _ (by simpa using hnodup), Dict.entries_empty,
    List.nil_append]
  rfl

/-- A mapping whose values are persisted as JSON values is persisted as their mapping. -/
theorem Persists.fields {α : Type} {f : α → PyObject} {holder : Holder}
    {fields : List (String × α)} {kvs : List (String × Value)} (hholder : holder ≠ .view)
    (h : List.Forall₂ (FieldPersists str f) fields kvs) (hnodup : (kvs.map Prod.fst).Nodup) :
    Persists str (.mapping holder (keyed f fields)) (.dict kvs) := by
  have hvalues : List.Forall₂ (fun field (entry : String × PyObject) => entry.1 = field.1 ∧
      persisted str (f field.2) = .ok entry.2) fields
        (kvs.map fun entry => (entry.1, PyObject.ofValue entry.2)) :=
    List.forall₂_map_right_iff.mpr (h.imp fun _ _ hfield => ⟨hfield.1, hfield.2.1⟩)
  have hkeys : ((kvs.map fun entry => (entry.1, PyObject.ofValue entry.2)).map Prod.fst).Nodup := by
    rw [List.map_map]
    exact hnodup
  refine ⟨?_, hnodup, ?_⟩
  · rw [persisted_keyed hholder hvalues hkeys, PyObject.ofValue, ofEntries_eq, keyed, List.map_map]
    rfl
  · clear hnodup hvalues hkeys
    induction h with
    | nil => trivial
    | cons hfirst _ ih => exact ⟨hfirst.2.2, ih⟩

/-- A mapping is persisted only if its values are. -/
theorem persisted_of_mem {holder : Holder} {entries : List (PyKey × PyObject)} {object : PyObject}
    (h : persisted str (.mapping holder entries) = .ok object) {entry : PyKey × PyObject}
    (hmem : entry ∈ entries) : ∃ value, persisted str entry.2 = .ok value := by
  unfold persisted at h
  split_ifs at h
  obtain ⟨items, hitems, -⟩ := bind_eq_ok_iff.mp h
  clear h
  induction entries generalizing items with
  | nil => exact absurd hmem List.not_mem_nil
  | cons first rest ih =>
      obtain ⟨value, hvalue, hitems⟩ := bind_eq_ok_iff.mp hitems
      obtain ⟨others, hothers, -⟩ := bind_eq_ok_iff.mp hitems
      rcases List.mem_cons.mp hmem with rfl | hmem
      · exact ⟨value, hvalue⟩
      · exact ih hmem others hothers

/-- A datetime is persisted only if `datetime` can hold it in UTC. -/
theorem inRange_of_persisted {t : Timestamp} {object : PyObject}
    (h : persisted str (.datetime (some t)) = .ok object) : t.InRange := by
  unfold persisted utcText at h
  split_ifs at h with hrange
  exact hrange

theorem Persists.datetime {t : Timestamp} (h : t.InRange) :
    Persists str (.datetime (some t)) (.str t.isoMicroseconds) := by
  refine ⟨?_, trivial⟩
  unfold persisted utcText
  rw [if_pos h]
  rfl

/-! ## What an encoder returns -/

theorem canonicalText_ok {object : PyObject} {text : String} (h : canonicalText object = .ok text) :
    Canonical.canonicalJson object = .ok text := by
  unfold canonicalText at h
  cases hjson : Canonical.canonicalJson object with
  | error fault =>
      rw [hjson] at h
      cases h
  | ok document =>
      rw [hjson] at h
      rw [← Except.ok.inj h]

/-- The text an encoder returns is the canonical text of the normalized record under the
envelope, and within the limit. -/
theorem encode_ok {kind : RecordKind} {payload : PyObject} {document : String}
    (h : encode str kind payload = .ok document) :
    ∃ normalized, persisted str payload = .ok normalized ∧
      Canonical.canonicalJson (enveloped kind.schemaVersion normalized) = .ok document ∧
      textSize document.toList ≤ Document.maxPersistedItemBytes := by
  obtain ⟨normalized, hnormalized, h⟩ := bind_eq_ok_iff.mp h
  obtain ⟨text, htext, h⟩ := bind_eq_ok_iff.mp h
  obtain ⟨u, hsize, h⟩ := bind_eq_ok_iff.mp h
  obtain rfl := Except.ok.inj h
  refine ⟨normalized, hnormalized, canonicalText_ok htext, ?_⟩
  unfold assertItemSize at hsize
  dsimp only at hsize
  split_ifs at hsize with hlarge
  exact Nat.le_of_not_lt hlarge

end Codec

end Manifest
