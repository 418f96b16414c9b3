import Manifest.Lib.PyObject

/-!
# Reading Python objects

Subscripts, `get`, iteration, `dict(...)`, keyword arguments and enumeration lookups, with the
exception each raises on an object of the wrong kind; and the construction of a record from
a list of readers, which stops at the first that raises.

Main results:

- Theorem `PyObject.record_ok_iff`: a record is constructed when every field is.
- Theorem `PyObject.record_error_iff`: it raises what its first field to fail raises.
-/

set_option autoImplicit false

open Fallible

/-- The exceptions of a read. -/
inductive Raised where
  | keyError
  | typeError
  | valueError
  | attributeError
  | overflowError
deriving DecidableEq

def Raised.name : Raised → String
  | .keyError => "KeyError"
  | .typeError => "TypeError"
  | .valueError => "ValueError"
  | .attributeError => "AttributeError"
  | .overflowError => "OverflowError"

namespace PyObject

/-! ## Values of mappings -/

/-- The value under a string key. -/
def lookup (key : String) : List (PyKey × PyObject) → Option PyObject
  | [] => Option.none
  | (key', value) :: rest => if key'.string? = some key then some value else lookup key rest

/-- `object[key]`. -/
def subscript (key : String) : PyObject → Except Raised PyObject
  | .mapping _ entries =>
      match lookup key entries with
      | some value => .ok value
      | Option.none => .error .keyError
  | _ => .error .typeError

/-- `object.get(key, default)`. -/
def get (key : String) (default : PyObject) : PyObject → Except Raised PyObject
  | .mapping _ entries => .ok ((lookup key entries).getD default)
  | _ => .error .attributeError

/-- `object.items()`. -/
def items : PyObject → Except Raised (List (PyKey × PyObject))
  | .mapping _ entries => .ok entries
  | _ => .error .attributeError

/-- `bool(object)`. -/
def truthy : PyObject → Bool
  | .none => false
  | .bool b => b
  | .int n => n ≠ 0
  | .float x => x.value ≠ 0
  | .str s => s ≠ ""
  | .mapping .dict entries => !entries.isEmpty
  | .sequence items => !items.isEmpty
  | .set items => !items.isEmpty
  | _ => true

/-! ## Iteration -/

/-- A key as an object. -/
def ofKey (key : PyKey) : PyObject :=
  match key.json with
  | some .none => .none
  | some (.number value name) =>
      if name = "true" then .bool true else if name = "false" then .bool false else .int value.num
  | _ => .str key.text

/-- The elements an iteration visits. -/
def elements : PyObject → Except Raised (List PyObject)
  | .sequence items => .ok items
  | .set items => .ok items
  | .str s => .ok (s.toList.map fun c => .str (String.singleton c))
  | .mapping _ entries => .ok (entries.map fun entry => ofKey entry.1)
  | _ => .error .typeError

/-- An object as a key: lists and mappings are not hashable. -/
def asKey : PyObject → Except Raised PyKey
  | .none => .ok { text := "None", json := some .none }
  | .bool b => .ok (.bool b)
  | .int n => .ok (.int n)
  | .float x => .ok { text := x.text, json := some (.number x.value x.text) }
  | .nonFinite => .ok { text := "nan", json := Option.none }
  | .str s => .ok (.str s)
  | _ => .error .typeError

/-- Two keys that are one key to a mapping. -/
def sameKey (a b : PyKey) : Bool :=
  match a.json, b.json with
  | some .none, some .none => true
  | some (.number p _), some (.number q _) => p = q
  | some (.string s), some (.string t) => s = t
  | _, _ => false

/-- `mapping[key] = value`. -/
def assign (key : PyKey) (value : PyObject) : List (PyKey × PyObject) → List (PyKey × PyObject)
  | [] => [(key, value)]
  | (key', old) :: rest =>
      if sameKey key' key then (key', value) :: rest else (key', old) :: assign key value rest

/-- One round of `dict(pairs)`. -/
def assignPair (entries : List (PyKey × PyObject)) (pair : PyObject) :
    Except Raised (List (PyKey × PyObject)) := do
  match ← pair.elements with
  | [first, second] => do
      let key ← first.asKey
      .ok (assign key second entries)
  | _ => .error .valueError

/-- `dict(object)`: a copy of a mapping, or the mapping of a list of pairs. -/
def copyDict : PyObject → Except Raised PyObject
  | .mapping _ entries => .ok (.mapping .dict entries)
  | object => do
      let pairs ← object.elements
      let entries ← pairs.foldlM assignPair []
      .ok (.mapping .dict entries)

/-! ## Enumerations and keyword arguments -/

/-- `Enumeration(object)`, for an enumeration of strings. -/
def memberOf (values : List String) : PyObject → Except Raised PyObject
  | .str s => if s ∈ values then .ok (.member (some (.str s)) (.str s)) else .error .valueError
  | _ => .error .valueError

/-- A parameter of a constructor, with its default. -/
abbrev Parameter := String × Option PyObject

/-- The value a keyword argument gets. -/
def argument (entries : List (PyKey × PyObject)) (parameter : Parameter) :
    Except Raised (PyKey × PyObject) :=
  match (lookup parameter.1 entries).or parameter.2 with
  | some value => .ok (.str parameter.1, value)
  | Option.none => .error .typeError

/-- `Class(**object)`: keywords that are unknown or missing raise. -/
def kwargs (parameters : List Parameter) : PyObject → Except Raised PyObject
  | .mapping _ entries =>
      if entries.all fun entry => decide (entry.1.text ∈ parameters.map Prod.fst) then do
        let values ← parameters.mapM (argument entries)
        .ok (.mapping .dataclass values)
      else .error .typeError
  | _ => .error .typeError

/-! ## Records -/

/-- What one field of a record is read from. -/
abbrev Reader := PyObject → Except Raised PyObject

/-- A keyword argument of a constructor, under its name. -/
abbrev Field := String × Reader

/-- `Class(name=..., ...)`: the arguments are evaluated in order. -/
def record (fields : List Field) (source : PyObject) : Except Raised PyObject := do
  let values ← fields.mapM fun field =>
    (field.2 source).map fun value => (PyKey.str field.1, value)
  .ok (.mapping .dataclass values)

/-- `[build(element) for element in object]`. -/
def each (build : Reader) (object : PyObject) : Except Raised PyObject := do
  let elements ← object.elements
  let values ← elements.mapM build
  .ok (.sequence values)

/-- `{key: build(value) for key, value in object.items()}`. -/
def eachValue (build : Reader) (object : PyObject) : Except Raised PyObject := do
  let entries ← object.items
  let values ← entries.mapM fun entry => (build entry.2).map fun value => (entry.1, value)
  .ok (.mapping .dict values)

/-- A record is constructed when every field is. -/
theorem record_ok_iff {fields : List Field} {source object : PyObject} :
    record fields source = .ok object ↔ ∃ values,
      fields.mapM (fun field => (field.2 source).map fun value => (PyKey.str field.1, value)) =
        .ok values ∧ object = .mapping .dataclass values := by
  unfold record
  rw [bind_eq_ok_iff]
  simp only [Except.ok.injEq, eq_comm]

/-- A record raises what its first field to fail raises. -/
theorem record_error_iff {fields : List Field} {source : PyObject} {x : Raised} :
    record fields source = .error x ↔ ∃ before field after, fields = before ++ field :: after ∧
      (∀ other ∈ before, ∃ value, other.2 source = .ok value) ∧ field.2 source = .error x := by
  unfold record
  rw [bind_eq_error_iff]
  constructor
  · rintro (h | ⟨values, -, h⟩)
    · obtain ⟨before, field, after, rfl, hbefore, hfield⟩ := mapM_error_iff.mp h
      refine ⟨before, field, after, rfl, fun other hother => ?_, map_eq_error_iff.mp hfield⟩
      obtain ⟨entry, hentry⟩ := hbefore other hother
      obtain ⟨value, hvalue, -⟩ := map_eq_ok_iff.mp hentry
      exact ⟨value, hvalue⟩
    · cases h
  · rintro ⟨before, field, after, rfl, hbefore, hfield⟩
    refine .inl (mapM_error_iff.mpr ⟨before, field, after, rfl, fun other hother => ?_,
      map_eq_error_iff.mpr hfield⟩)
    obtain ⟨value, hvalue⟩ := hbefore other hother
    exact ⟨_, map_eq_ok_iff.mpr ⟨value, hvalue, rfl⟩⟩

end PyObject
