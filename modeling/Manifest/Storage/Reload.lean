import Manifest.Storage.Records

/-!
# Records read back from their documents

What `json.loads` returns for a printed JSON value: the value with its keys in order.  A reader
reads an object back when, from what the object was persisted as and then loaded, it returns an
equal object.  The lemmas here follow the readers of fields one by one.

Main results:

- Theorem `equal_reloaded`: a JSON value equals what is loaded of it.
- Theorem `ReadsBack.record`: a record is read back when each of its fields is.
- Theorem `decode_printed`: what `_decode` returns for a printed envelope.
-/

set_option autoImplicit false

namespace Manifest

namespace Codec

open Canonical Fallible PyObject

/-! ## Loaded values -/

/-- A JSON value as it is loaded from its text: its keys are in order. -/
def reloaded (v : Value) : PyObject :=
  ofValue (v.sorted id)

@[simp] theorem reloaded_none : reloaded .none = .none :=
  rfl

@[simp] theorem reloaded_str (s : String) : reloaded (.str s) = .str s :=
  rfl

theorem ofValues_eq (xs : List Value) : ofValues xs = xs.map ofValue := by
  induction xs with
  | nil => rfl
  | cons x rest ih => exact congrArg (_ :: ·) ih

theorem reloaded_list (xs : List Value) :
    reloaded (.list xs) = .sequence (xs.map reloaded) := by
  unfold reloaded
  rw [Value.sorted, Value.sortedList_eq, ofValue, ofValues_eq, List.map_map]
  rfl

/-- A mapping is loaded with the same entries, in another order. -/
theorem reloaded_dict (kvs : List (String × Value)) :
    ∃ kws : List (String × Value), kws.Perm kvs ∧
      reloaded (.dict kvs) = .mapping .dict (keyed reloaded kws) := by
  refine ⟨kvs.insertionSort fun a b => a.1 ≤ b.1, List.perm_insertionSort _ _, ?_⟩
  unfold reloaded keyed
  rw [Value.sorted, Value.sortedEntries_eq, Value.sort_entries, ofValue, ofEntries_eq,
    List.map_map]
  rfl

mutual

/-- A JSON value equals what is loaded of it. -/
theorem equal_reloaded : (v : Value) → KeysDistinct v → Equal (ofValue v) (reloaded v)
  | .none, _ => .refl _
  | .bool _, _ => .refl _
  | .int _, _ => .refl _
  | .float _, _ => .refl _
  | .str _, _ => .refl _
  | .list xs, h => by
      rw [reloaded_list, ofValue, ofValues_eq]
      exact .sequence (List.forall₂_map_left_iff.mpr (List.forall₂_map_right_iff.mpr
        (List.forall₂_same.mpr (equal_reloadedList xs h))))
  | .dict kvs, h => by
      obtain ⟨kws, hperm, heq⟩ := reloaded_dict kvs
      rw [heq, ofValue, ofEntries_eq]
      have hnames : (kvs.map Prod.fst).Perm (kws.map Prod.fst) := (hperm.map Prod.fst).symm
      exact Equal.fields (hnames.nodup_iff.mp h.1) hnames fun entry hmem =>
        ⟨entry.2, hperm.symm.subset hmem, equal_reloadedEntries kvs h.2 entry hmem⟩

theorem equal_reloadedList : (xs : List Value) → KeysDistinctList xs →
    ∀ x ∈ xs, Equal (ofValue x) (reloaded x)
  | [], _, _, hmem => absurd hmem List.not_mem_nil
  | first :: rest, h, x, hmem => by
      rcases List.mem_cons.mp hmem with heq | hmem
      · exact heq ▸ equal_reloaded first h.1
      · exact equal_reloadedList rest h.2 x hmem

theorem equal_reloadedEntries : (kvs : List (String × Value)) → KeysDistinctEntries kvs →
    ∀ entry ∈ kvs, Equal (ofValue entry.2) (reloaded entry.2)
  | [], _, _, hmem => absurd hmem List.not_mem_nil
  | (key, v) :: rest, h, entry, hmem => by
      rcases List.mem_cons.mp hmem with rfl | hmem
      · exact equal_reloaded v h.1
      · exact equal_reloadedEntries rest h.2 entry hmem

end

/-! ## Names of fields -/

section Names

variable (build : Reader) (default : PyObject) (values : List String) (key : String)

@[simp] theorem item_fst : (item key).1 = key :=
  rfl

@[simp] theorem optional_fst : (optional key).1 = key :=
  rfl

@[simp] theorem member_fst : (member values key).1 = key :=
  rfl

@[simp] theorem truthyField_fst : (truthyField build key).1 = key :=
  rfl

@[simp] theorem presentField_fst : (presentField build key).1 = key :=
  rfl

@[simp] theorem itemField_fst : (itemField build key).1 = key :=
  rfl

@[simp] theorem defaultField_fst : (defaultField build default key).1 = key :=
  rfl

end Names

/-! ## Reading back -/

/-- From what an object was persisted as, a reader returns an equal object. -/
def ReadsBack (build : Reader) (object : PyObject) (v : Value) : Prop :=
  ∃ object', build (reloaded v) = .ok object' ∧ Equal object object'

/-- A payload that holds the persisted entries. -/
def Holds (kvs : List (String × Value)) (entries : List (PyKey × PyObject)) : Prop :=
  ∀ key v, kvs.lookup key = some v → lookup key entries = some (reloaded v)

/-- A field of the record is read back from the payload. -/
def FieldReads (named : List (String × PyObject)) (kvs : List (String × Value)) (field : Field) :
    Prop :=
  ∃ object, named.lookup field.1 = some object ∧ ∀ entries, Holds kvs entries →
    ∃ object', field.2 (.mapping .dict entries) = .ok object' ∧ Equal object object'

/-- Every entry is loaded. -/
theorem holds_keyed {kvs kws : List (String × Value)} (hnodup : (kvs.map Prod.fst).Nodup)
    (hperm : kws.Perm kvs) : Holds kvs (keyed reloaded kws) := by
  intro key v h
  have hnodup' : (kws.map Prod.fst).Nodup := ((hperm.map Prod.fst).nodup_iff).mpr hnodup
  rw [lookup_keyed_eq, lookup_of_mem hnodup' (hperm.symm.subset (mem_of_lookup h))]
  rfl

section Fields

variable {named : List (String × PyObject)} {kvs : List (String × Value)} {key : String}
  {object : PyObject} {v : Value} {build : Reader}

theorem get_of_holds {entries : List (PyKey × PyObject)} (h : Holds kvs entries)
    (hv : kvs.lookup key = some v) (default : PyObject) :
    PyObject.get key default (.mapping .dict entries) = .ok (reloaded v) := by
  unfold PyObject.get
  simp only [h key v hv, Option.getD_some]

theorem subscript_of_holds {entries : List (PyKey × PyObject)} (h : Holds kvs entries)
    (hv : kvs.lookup key = some v) :
    subscript key (.mapping .dict entries) = .ok (reloaded v) := by
  unfold subscript
  simp only [h key v hv]

namespace FieldReads

theorem item (hobject : named.lookup key = some object) (hv : kvs.lookup key = some v)
    (h : Equal object (reloaded v)) : FieldReads named kvs (item key) :=
  ⟨object, hobject, fun _ hentries => ⟨_, subscript_of_holds hentries hv, h⟩⟩

/-- A field with a default that is not needed. -/
theorem get {default : PyObject} (hobject : named.lookup key = some object)
    (hv : kvs.lookup key = some v) (h : Equal object (reloaded v)) :
    FieldReads named kvs (key, PyObject.get key default) :=
  ⟨object, hobject, fun _ hentries => ⟨_, get_of_holds hentries hv default, h⟩⟩

theorem optional (hobject : named.lookup key = some object) (hv : kvs.lookup key = some v)
    (h : Equal object (reloaded v)) : FieldReads named kvs (optional key) :=
  get hobject hv h

theorem itemField (hobject : named.lookup key = some object) (hv : kvs.lookup key = some v)
    (h : ReadsBack build object v) : FieldReads named kvs (itemField build key) := by
  obtain ⟨object', hbuild, hequal⟩ := h
  refine ⟨object, hobject, fun entries hentries => ⟨object', ?_, hequal⟩⟩
  exact bind_eq_ok_iff.mpr ⟨_, subscript_of_holds hentries hv, hbuild⟩

theorem defaultField {default : PyObject} (hobject : named.lookup key = some object)
    (hv : kvs.lookup key = some v) (h : ReadsBack build object v) :
    FieldReads named kvs (defaultField build default key) := by
  obtain ⟨object', hbuild, hequal⟩ := h
  refine ⟨object, hobject, fun entries hentries => ⟨object', ?_, hequal⟩⟩
  exact bind_eq_ok_iff.mpr ⟨_, get_of_holds hentries hv default, hbuild⟩

/-- A field that is read where it is true to Python. -/
theorem truthyField (hobject : named.lookup key = some object) (hv : kvs.lookup key = some v)
    (h : object = .none ∧ v = .none ∨ (reloaded v).truthy = true ∧ ReadsBack build object v) :
    FieldReads named kvs (truthyField build key) := by
  refine ⟨object, hobject, fun entries hentries => ?_⟩
  have hget := get_of_holds hentries hv .none
  rcases h with ⟨rfl, rfl⟩ | ⟨htruthy, object', hbuild, hequal⟩
  · exact ⟨.none, bind_eq_ok_iff.mpr ⟨_, hget, rfl⟩, .refl _⟩
  · refine ⟨object', bind_eq_ok_iff.mpr ⟨_, hget, ?_⟩, hequal⟩
    rw [if_pos htruthy]
    exact bind_eq_ok_iff.mpr ⟨_, subscript_of_holds hentries hv, hbuild⟩

/-- A field that is read where it is not `None`. -/
theorem presentField (hobject : named.lookup key = some object) (hv : kvs.lookup key = some v)
    (h : object = .none ∧ v = .none ∨ (reloaded v).truthy = true ∧ ReadsBack build object v) :
    FieldReads named kvs (presentField build key) := by
  refine ⟨object, hobject, fun entries hentries => ?_⟩
  have hget := get_of_holds hentries hv .none
  rcases h with ⟨rfl, rfl⟩ | ⟨htruthy, object', hbuild, hequal⟩
  · exact ⟨.none, bind_eq_ok_iff.mpr ⟨_, hget, rfl⟩, .refl _⟩
  · refine ⟨object', bind_eq_ok_iff.mpr ⟨_, hget, ?_⟩, hequal⟩
    split
    · rename_i hnone
      rw [hnone] at htruthy
      cases htruthy
    · exact hbuild

/-- A field the decoder is handed. -/
theorem supplied (hobject : named.lookup key = some object) :
    FieldReads named kvs (key, fun _ => .ok object) :=
  ⟨object, hobject, fun _ _ => ⟨object, rfl, .refl _⟩⟩

theorem member {values : List String} {name : String}
    (hobject : named.lookup key = some (enumMember name)) (hv : kvs.lookup key = some (.str name))
    (hname : name ∈ values) : FieldReads named kvs (member values key) :=
  itemField hobject hv ⟨_, if_pos hname, .refl _⟩

end FieldReads

/-! ## Optional fields -/

/-- A member of an enumeration, where there is one. -/
theorem readsBack_optMember {values : List String} {name : Option String}
    (hname : ∀ n, name = some n → n ∈ values) (hvalues : "" ∉ values) :
    orNone enumMember name = .none ∧ optStr name = .none ∨
      (reloaded (optStr name)).truthy = true ∧
        ReadsBack (memberOf values) (orNone enumMember name) (optStr name) := by
  cases name with
  | none => exact .inl ⟨rfl, rfl⟩
  | some n =>
      have hmem := hname n rfl
      refine .inr ⟨decide_eq_true fun hempty => hvalues ?_, ⟨_, if_pos hmem, .refl _⟩⟩
      rwa [← show n = "" from hempty]

/-- A record, where there is one. -/
theorem readsBack_optRecord {α : Type} {f : α → PyObject} {payload : α → Value} {record : Option α}
    (h : ∀ a, record = some a →
      (reloaded (payload a)).truthy = true ∧ ReadsBack build (f a) (payload a)) :
    orNone f record = .none ∧ optRecord payload record = .none ∨
      (reloaded (optRecord payload record)).truthy = true ∧
        ReadsBack build (orNone f record) (optRecord payload record) := by
  cases record with
  | none => exact .inl ⟨rfl, rfl⟩
  | some a => exact .inr (h a rfl)

theorem equal_optStr (s : Option String) : Equal (orNone .str s) (reloaded (optStr s)) := by
  cases s <;> exact .refl _

theorem equal_optFreeForm {kwargs : Option Kwargs}
    (h : ∀ given, kwargs = some given → KeysDistinct (.dict given)) :
    Equal (orNone freeForm kwargs) (reloaded (optRecord .dict kwargs)) := by
  cases kwargs with
  | none => exact .refl _
  | some given => exact equal_reloaded _ (h given rfl)

/-- A mapping with an entry is true to Python. -/
theorem truthy_reloaded_dict (entry : String × Value) (rest : List (String × Value)) :
    (reloaded (.dict (entry :: rest))).truthy = true := by
  obtain ⟨kws, hperm, heq⟩ := reloaded_dict (entry :: rest)
  rw [heq]
  cases kws with
  | nil => exact absurd hperm.length_eq (by simp)
  | cons first others => rfl

end Fields

/-! ## Records -/

/-- A record whose readers all return. -/
theorem record_ok_of_forall {fields : List Field} {source : PyObject}
    (h : ∀ field ∈ fields, ∃ object, field.2 source = .ok object) :
    ∃ values : List (String × PyObject),
      record fields source = .ok (.mapping .dataclass (keyed id values)) ∧
        values.map Prod.fst = fields.map Prod.fst ∧
        ∀ name object, (name, object) ∈ values →
          ∃ field ∈ fields, field.1 = name ∧ field.2 source = .ok object := by
  have hvalues : ∃ values : List (String × PyObject),
      fields.mapM (fun field => (field.2 source).map fun value => (PyKey.str field.1, value)) =
          .ok (keyed id values) ∧ values.map Prod.fst = fields.map Prod.fst ∧
        ∀ name object, (name, object) ∈ values →
          ∃ field ∈ fields, field.1 = name ∧ field.2 source = .ok object := by
    induction fields with
    | nil => exact ⟨[], rfl, rfl, fun _ _ hmem => absurd hmem List.not_mem_nil⟩
    | cons field rest ih =>
        obtain ⟨hfield, hrest⟩ := List.forall_mem_cons.mp h
        obtain ⟨object, hobject⟩ := hfield
        obtain ⟨values, hvalues, hnames, hread⟩ := ih hrest
        refine ⟨(field.1, object) :: values, ?_, by rw [List.map_cons, List.map_cons, hnames], ?_⟩
        · rw [List.mapM_cons, hvalues, hobject]
          rfl
        · intro name object' hmem
          rcases List.mem_cons.mp hmem with heq | hmem
          · obtain ⟨rfl, rfl⟩ := Prod.mk.inj heq
            exact ⟨field, List.mem_cons_self, rfl, hobject⟩
          · obtain ⟨other, hother, hname, hok⟩ := hread name object' hmem
            exact ⟨other, List.mem_cons_of_mem _ hother, hname, hok⟩
  obtain ⟨values, hvalues, hnames, hread⟩ := hvalues
  refine ⟨values, ?_, hnames, hread⟩
  unfold record
  rw [hvalues]
  rfl

/-- A record is read back when each of its fields is, in whatever order. -/
theorem ReadsBack.record {fields : List Field} {named : List (String × PyObject)}
    {kvs : List (String × Value)} (hkeys : (kvs.map Prod.fst).Nodup)
    (hfields : (fields.map Prod.fst).Nodup)
    (hnames : (named.map Prod.fst).Perm (fields.map Prod.fst))
    (h : ∀ field ∈ fields, FieldReads named kvs field) :
    ReadsBack (record fields) (instanceOf named) (.dict kvs) := by
  obtain ⟨kws, hperm, heq⟩ := reloaded_dict kvs
  have hentries := holds_keyed hkeys hperm
  have hreturns : ∀ field ∈ fields,
      ∃ object, field.2 (.mapping .dict (keyed reloaded kws)) = .ok object := by
    intro field hmem
    obtain ⟨object, -, hreads⟩ := h field hmem
    obtain ⟨object', hok, -⟩ := hreads _ hentries
    exact ⟨object', hok⟩
  obtain ⟨values, hrecord, hvalues, hread⟩ := record_ok_of_forall hreturns
  refine ⟨_, heq ▸ hrecord, ?_⟩
  have hvaluesNodup : (values.map Prod.fst).Nodup := hvalues ▸ hfields
  refine Equal.fields hvaluesNodup (hvalues ▸ hnames) fun entry hentry => ?_
  have hnamedNodup : (named.map Prod.fst).Nodup := hnames.nodup_iff.mpr hfields
  have hname : entry.1 ∈ values.map Prod.fst := by
    rw [hvalues]
    exact hnames.subset (List.mem_map_of_mem hentry)
  obtain ⟨⟨name, object'⟩, hvalue, hnameEq⟩ := List.mem_map.mp hname
  obtain ⟨field, hfield, rfl, hok⟩ := hread name object' hvalue
  obtain ⟨object, hobject, hreads⟩ := h field hfield
  obtain ⟨object'', hok', hequal⟩ := hreads _ hentries
  obtain rfl := Except.ok.inj (hok.symm.trans hok')
  have hsame : object = entry.2 := by
    have hlookup : named.lookup entry.1 = some entry.2 := lookup_of_mem hnamedNodup hentry
    rw [show field.1 = entry.1 from hnameEq] at hobject
    exact Option.some.inj (hobject.symm.trans hlookup)
  exact ⟨object', hnameEq ▸ hvalue, hsame ▸ hequal⟩

/-! ## Keyword arguments -/

/-- The reader of one keyword argument. -/
def keyword (parameter : Parameter) : Field :=
  (parameter.1, fun source =>
    match source with
    | .mapping _ entries =>
        match (lookup parameter.1 entries).or parameter.2 with
        | some value => .ok value
        | Option.none => .error .typeError
    | _ => .error .typeError)

/-- Without unknown keywords, the arguments are read like the fields of a record. -/
theorem kwargs_eq_record {parameters : List Parameter} {holder : Holder}
    {entries : List (PyKey × PyObject)}
    (hknown : ∀ entry ∈ entries, entry.1.text ∈ parameters.map Prod.fst) :
    kwargs parameters (.mapping holder entries) =
      record (parameters.map keyword) (.mapping holder entries) := by
  have hargument (parameter : Parameter) : argument entries parameter =
      ((keyword parameter).2 (.mapping holder entries)).map fun value =>
        (PyKey.str (keyword parameter).1, value) := by
    unfold argument keyword
    dsimp only
    cases (lookup parameter.1 entries).or parameter.2 <;> rfl
  have hall : (entries.all fun entry => decide (entry.1.text ∈ parameters.map Prod.fst)) = true :=
    List.all_eq_true.mpr fun entry hmem => decide_eq_true (hknown entry hmem)
  unfold kwargs record
  rw [List.mapM_map]
  refine (if_pos hall).trans ?_
  rw [funext hargument]
  rfl

theorem FieldReads.keyword {named : List (String × PyObject)} {kvs : List (String × Value)}
    {parameter : Parameter} {object : PyObject} {v : Value}
    (hobject : named.lookup parameter.1 = some object) (hv : kvs.lookup parameter.1 = some v)
    (h : Equal object (reloaded v)) : FieldReads named kvs (keyword parameter) := by
  refine ⟨object, hobject, fun entries hentries => ⟨reloaded v, ?_, h⟩⟩
  unfold Codec.keyword
  simp only [hentries parameter.1 v hv, Option.some_or]

/-- Keyword arguments are read back when each is. -/
theorem ReadsBack.kwargs {parameters : List Parameter} {named : List (String × PyObject)}
    {kvs : List (String × Value)} (hkeys : (kvs.map Prod.fst).Nodup)
    (hparameters : kvs.map Prod.fst = parameters.map Prod.fst)
    (hnames : named.map Prod.fst = parameters.map Prod.fst)
    (h : ∀ parameter ∈ parameters, FieldReads named kvs (keyword parameter)) :
    ReadsBack (kwargs parameters) (instanceOf named) (.dict kvs) := by
  have hfields : (parameters.map keyword).map Prod.fst = parameters.map Prod.fst :=
    List.map_map
  obtain ⟨kws, hperm, heq⟩ := reloaded_dict kvs
  have hknown : ∀ entry ∈ keyed reloaded kws, entry.1.text ∈ parameters.map Prod.fst := by
    intro entry hmem
    obtain ⟨kv, hkv, rfl⟩ := List.mem_map.mp hmem
    rw [← hparameters]
    exact List.mem_map_of_mem (hperm.subset hkv)
  have hrecord : ReadsBack (PyObject.record (parameters.map Codec.keyword)) (instanceOf named)
      (.dict kvs) := by
    refine .record hkeys ?_ ?_ ?_
    · rw [hfields, ← hparameters]
      exact hkeys
    · rw [hfields, hnames]
    · intro field hmem
      obtain ⟨parameter, hparameter, rfl⟩ := List.mem_map.mp hmem
      exact h parameter hparameter
  unfold ReadsBack at hrecord ⊢
  rw [heq] at hrecord ⊢
  rw [kwargs_eq_record hknown]
  exact hrecord

/-! ## Lists and dictionaries of records -/

/-- A list of records is read back when each is. -/
theorem ReadsBack.each {α : Type} {f : α → PyObject} {payload : α → Value} {build : Reader}
    {records : List α} (h : ∀ a ∈ records, ReadsBack build (f a) (payload a)) :
    ReadsBack (each build) (.sequence (records.map f)) (.list (records.map payload)) := by
  have hitems : ∃ items, ((records.map payload).map reloaded).mapM build = .ok items ∧
      List.Forall₂ Equal (records.map f) items := by
    induction records with
    | nil => exact ⟨[], rfl, .nil⟩
    | cons a rest ih =>
        obtain ⟨⟨object', hbuild, hequal⟩, hrest⟩ := List.forall_mem_cons.mp h
        obtain ⟨items, hitems, hequals⟩ := ih hrest
        refine ⟨object' :: items, ?_, .cons hequal hequals⟩
        rw [List.map_cons, List.map_cons, List.mapM_cons, hbuild, hitems]
        rfl
  obtain ⟨items, hitems, hequals⟩ := hitems
  refine ⟨.sequence items, ?_, .sequence hequals⟩
  rw [reloaded_list]
  exact bind_eq_ok_iff.mpr ⟨_, rfl, bind_eq_ok_iff.mpr ⟨items, hitems, rfl⟩⟩

/-- A dictionary of records is read back when each is. -/
theorem ReadsBack.eachValue {α : Type} {f : α → PyObject} {payload : α → Value} {build : Reader}
    (d : Dict String α) (h : ∀ entry ∈ d.entries, ReadsBack build (f entry.2) (payload entry.2)) :
    ReadsBack (eachValue build) (dictOf f d.entries) (dictPayload payload d) := by
  obtain ⟨kws, hperm, heq⟩ := reloaded_dict (d.entries.map fun entry => (entry.1, payload entry.2))
  have hbuild : ∀ kw ∈ kws, ∃ object', build (reloaded kw.2) = .ok object' ∧
      ∀ entry ∈ d.entries, entry.1 = kw.1 → Equal (f entry.2) object' := by
    intro kw hmem
    obtain ⟨entry, hentry, rfl⟩ := List.mem_map.mp (hperm.subset hmem)
    obtain ⟨object', hok, hequal⟩ := h entry hentry
    refine ⟨object', hok, fun other hother hkey => ?_⟩
    rw [eq_of_mem_entries hother hentry hkey]
    exact hequal
  have hvalues : ∃ values : List (String × PyObject),
      (keyed reloaded kws).mapM (fun entry => (build entry.2).map fun value => (entry.1, value)) =
          .ok (keyed id values) ∧ values.map Prod.fst = kws.map Prod.fst ∧
        ∀ value ∈ values, ∀ entry ∈ d.entries, entry.1 = value.1 → Equal (f entry.2) value.2 := by
    clear hperm heq
    induction kws with
    | nil => exact ⟨[], rfl, rfl, fun _ hmem => absurd hmem List.not_mem_nil⟩
    | cons kw rest ih =>
        obtain ⟨⟨object', hok, hequal⟩, hrest⟩ := List.forall_mem_cons.mp hbuild
        obtain ⟨values, hvalues, hnames, hequals⟩ := ih hrest
        refine ⟨(kw.1, object') :: values, ?_, by rw [List.map_cons, List.map_cons, hnames],
          List.forall_mem_cons.mpr ⟨hequal, hequals⟩⟩
        unfold keyed at hvalues ⊢
        rw [List.map_cons, List.mapM_cons, hok, hvalues]
        rfl
  obtain ⟨values, hvalues, hnames, hequals⟩ := hvalues
  have hkeys : (d.entries.map Prod.fst).Perm (values.map Prod.fst) := by
    have hpayload := hperm.map Prod.fst
    rw [List.map_map] at hpayload
    rw [hnames]
    exact hpayload.symm
  refine ⟨.mapping .dict (keyed id values), ?_,
    Equal.fields (hkeys.nodup_iff.mp d.nodup) hkeys fun entry hmem => ?_⟩
  · rw [dictPayload, heq]
    exact bind_eq_ok_iff.mpr ⟨_, rfl, bind_eq_ok_iff.mpr ⟨_, hvalues, rfl⟩⟩
  · obtain ⟨value, hvalue, hname⟩ := List.mem_map.mp (hkeys.subset (List.mem_map_of_mem hmem))
    exact ⟨value.2, by rw [← hname]; exact hvalue, hequals value hvalue entry hmem hname.symm⟩

/-- A copy of a mapping is read back. -/
theorem readsBack_copyDict {kvs : List (String × Value)} (h : KeysDistinct (.dict kvs)) :
    ReadsBack copyDict (ofValue (.dict kvs)) (.dict kvs) := by
  obtain ⟨kws, -, heq⟩ := reloaded_dict kvs
  refine ⟨reloaded (.dict kvs), ?_, equal_reloaded _ h⟩
  rw [heq]
  rfl

/-! ## Times -/

/-- An instant is read from the text it is printed as. -/
theorem readsBack_datetime (read : String → Option PyFloat) {t : Timestamp} (h : t.InRange) :
    ReadsBack (datetime (PyLibrary.written read)) (instant t) (.str t.isoMicroseconds) := by
  obtain ⟨-, ⟨-, hmonth⟩, -, hday⟩ := civilOfDays_spec (t / 86400000000)
  have hread : readIso t.isoMicroseconds.toList = some (t.civil, 0) := by
    rw [isoMicroseconds_toList]
    exact readIso_chars (t.civil_valid h) (lt_of_le_of_lt hmonth (by decide))
      (lt_of_le_of_lt hday (by decide))
  have hparse : (PyLibrary.written read).isoParse t.isoMicroseconds = some (some t) := by
    unfold PyLibrary.written
    dsimp only
    rw [hread, Option.map_some, t.civil_instant, zero_mul, sub_zero]
  refine ⟨instant t, ?_, .refl _⟩
  rw [reloaded_str]
  unfold datetime
  simp only [hparse, if_pos h, instant]

theorem readsBack_optInstant (read : String → Option PyFloat) {t : Option Timestamp}
    (h : ∀ t', t = some t' → t'.InRange) :
    orNone instant t = .none ∧ optTime t = .none ∨ (reloaded (optTime t)).truthy = true ∧
      ReadsBack (datetime (PyLibrary.written read)) (orNone instant t) (optTime t) := by
  cases t with
  | none => exact .inl ⟨rfl, rfl⟩
  | some t =>
      refine .inr ⟨?_, readsBack_datetime read (h t rfl)⟩
      show decide (t.isoMicroseconds ≠ "") = true
      refine decide_eq_true fun hempty => ?_
      have hchars := congrArg String.toList hempty
      rw [isoMicroseconds_toList] at hchars
      have hlength := congrArg List.length hchars
      simp [CivilTime.chars] at hlength

/-! ## The envelope -/

/-- The envelope of a payload. -/
def envelopeOf (kind : RecordKind) (payload : Value) : List (String × Value) :=
  [("storage_schema_version", .str Document.storageSchemaVersion),
    ("record_schema_version", .str kind.schemaVersion), ("payload", payload)]

theorem enveloped_ofValue (kind : RecordKind) (payload : Value) :
    enveloped kind.schemaVersion (ofValue payload) = ofValue (.dict (envelopeOf kind payload)) :=
  rfl

theorem keysDistinct_envelopeOf {kind : RecordKind} {payload : Value} (h : KeysDistinct payload) :
    KeysDistinct (.dict (envelopeOf kind payload)) :=
  ⟨by simp [envelopeOf], trivial, trivial, h, trivial⟩

/-- What `_decode` returns for a printed envelope. -/
theorem decode_printed {read : String → Option PyFloat} {kind : RecordKind}
    {kvs : List (String × Value)}
    (hfloats : (Value.dict kvs).FloatsAre fun x => read x.text = some x) :
    decode (PyLibrary.written read) (Manifest.canonicalJson (.dict (envelopeOf kind (.dict kvs))))
      kind = .ok (reloaded (.dict kvs)) := by
  have hloads : (PyLibrary.written read).loads
      (Manifest.canonicalJson (.dict (envelopeOf kind (.dict kvs)))) =
        .ok (reloaded (.dict (envelopeOf kind (.dict kvs)))) := by
    have hread : Value.loads read ((Value.dict (envelopeOf kind (.dict kvs))).dumps false) =
        some ((Value.dict (envelopeOf kind (.dict kvs))).sorted id) :=
      Value.loads_dumps false ⟨trivial, trivial, hfloats, trivial⟩
    unfold PyLibrary.written Manifest.canonicalJson
    dsimp only
    rw [hread]
    rfl
  obtain ⟨kws, hperm, heq⟩ := reloaded_dict (envelopeOf kind (.dict kvs))
  have hnodup : ((envelopeOf kind (.dict kvs)).map Prod.fst).Nodup := by simp [envelopeOf]
  have hentries := holds_keyed hnodup hperm
  obtain ⟨kws', -, hpayload⟩ := reloaded_dict kvs
  unfold decode
  rw [hloads, heq]
  dsimp only
  unfold openEnvelope
  dsimp only
  rw [hentries "storage_schema_version" _ rfl, hentries "record_schema_version" _ rfl,
    hentries "payload" _ rfl, reloaded_str, reloaded_str, hpayload]
  simp [equals, content, Value.pyEq]

end Codec

end Manifest
