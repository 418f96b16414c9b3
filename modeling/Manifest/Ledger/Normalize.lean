import Manifest.Demo
import Manifest.Ledger.Instants
import Manifest.Lib.PyObject

/-!
# Canonical form of arbitrary objects

`normalize` turns the objects a payload may hold into JSON primitives and `canonical_json`
prints the result with sorted keys.  The keys of a mapping become strings first: of keys
with one text the last wins, and its value depends on the order of insertion.

Main results:

- Theorem `canonicalChars_mapping`: the text of a mapping, from the texts of its values.
- Theorem `canonicalJson_reordered_iff`: the objects whose text ignores the order of insertion.
-/

set_option autoImplicit false

namespace Manifest.Canonical

open Fallible PyObject
open scoped List

/-! ## Normalization -/

/-- `value.astimezone(timezone.utc).isoformat(timespec="microseconds")` with `Z`: an instant
outside the years of `datetime` raises. -/
def utcText (instant : Int) : Except Fault String :=
  if Timestamp.InRange instant then .ok (Timestamp.isoMicroseconds instant)
  else .error .overflowError

mutual

/-- `normalize`. -/
def normalize : PyObject → Except Fault PyObject
  | .member _ value => .ok value
  | .datetime Option.none => .error .valueError
  | .datetime (some instant) => (utcText instant).map .str
  -- `asdict` makes a mapping of an instance of a dataclass.
  | .mapping _ entries => do
      let items ← normalizeEntries entries
      .ok (ofDict (Dict.setAll ∅ items))
  | .sequence items => do
      let items ← normalizeItems items
      .ok (.sequence items)
  | .set _ => .error .typeError
  | .nonFinite => .error .valueError
  | .none => .ok .none
  | .bool b => .ok (.bool b)
  | .int n => .ok (.int n)
  | .float x => .ok (.float x)
  | .str s => .ok (.str s)
  | .other _ => .error .typeError

def normalizeItems : List PyObject → Except Fault (List PyObject)
  | [] => .ok []
  | item :: rest => do
      let first ← normalize item
      let others ← normalizeItems rest
      .ok (first :: others)

/-- `str(key)` and the normalized value, entry by entry. -/
def normalizeEntries : List (PyKey × PyObject) → Except Fault (List (String × PyObject))
  | [] => .ok []
  | (key, value) :: rest => do
      let first ← normalize value
      let others ← normalizeEntries rest
      .ok ((key.text, first) :: others)

end

/-- The characters of `canonical_json`. -/
def canonicalChars (object : PyObject) : Except Fault (List Char) :=
  normalize object >>= dumps

/-- `canonical_json`. -/
def canonicalJson (object : PyObject) : Except Fault String :=
  (canonicalChars object).map String.ofList

/-- `hash_payload`. -/
def hashPayload [Sha256] (payload : PyObject) : Except Fault String :=
  (canonicalJson payload).map Sha256.tagged

/-! ## The text of a whole from the texts of its parts -/

/-- The values of a mapping under the texts of their keys. -/
def named (entries : List (PyKey × PyObject)) : List (String × PyObject) :=
  entries.map fun entry => (entry.1.text, entry.2)

theorem normalizeItems_eq (items : List PyObject) :
    normalizeItems items = items.mapM normalize := by
  induction items with
  | nil => rfl
  | cons item rest ih =>
      rw [List.mapM_cons, ← ih]
      rfl

theorem normalizeEntries_eq (entries : List (PyKey × PyObject)) :
    normalizeEntries entries =
      (named entries).mapM fun entry => (normalize entry.2).map fun value => (entry.1, value) := by
  induction entries with
  | nil => rfl
  | cons entry rest ih =>
      show (normalize entry.2 >>= fun first => normalizeEntries rest >>= _) = _
      rw [named, List.map_cons, List.mapM_cons, ih]
      cases normalize entry.2 <;> rfl

/-- A sequence has a text when its items have. -/
theorem canonicalChars_sequence {items : List PyObject} {text : List Char} :
    canonicalChars (.sequence items) = .ok text ↔
      ∃ texts, items.mapM canonicalChars = .ok texts ∧
        text = '[' :: List.intercalate [','] texts ++ [']'] := by
  unfold canonicalChars
  rw [normalize, normalizeItems_eq]
  constructor
  · intro h
    obtain ⟨value, hvalue, h⟩ := bind_eq_ok_iff.mp h
    obtain ⟨values, hvalues, hvalue⟩ := bind_eq_ok_iff.mp hvalue
    obtain rfl := Except.ok.inj hvalue
    obtain ⟨texts, htexts, rfl⟩ := dumps_sequence.mp h
    exact ⟨texts, mapM_bind_mapM.mp (bind_eq_ok_iff.mpr ⟨values, hvalues, htexts⟩), rfl⟩
  · rintro ⟨texts, htexts, rfl⟩
    obtain ⟨values, hvalues, htexts⟩ := bind_eq_ok_iff.mp (mapM_bind_mapM.mpr htexts)
    rw [hvalues]
    exact dumps_sequence.mpr ⟨texts, htexts, rfl⟩

/-- The normalized value of an object that has one. -/
def valueOf (object : PyObject) : PyObject :=
  (normalize object).toOption.getD .none

theorem valueOf_eq {object value : PyObject} (h : normalize object = .ok value) :
    valueOf object = value := by
  unfold valueOf
  rw [h]
  rfl

theorem canonicalChars_eq {object value : PyObject} (h : normalize object = .ok value) :
    canonicalChars object = dumps (valueOf object) := by
  unfold canonicalChars
  rw [valueOf_eq h, h]
  rfl

/-- What is printed for a mapping whose values are normalized. -/
theorem canonicalChars_dict (holder : Holder) {entries : List (PyKey × PyObject)}
    (h : ∀ entry ∈ entries, ∃ value, normalize entry.2 = .ok value) :
    ∃ d : Dict String PyObject, canonicalChars (.mapping holder entries) = dumps (ofDict d) ∧
      ∀ k, (d.get? k).map dumps = (Dict.lastEntry k (named entries)).map canonicalChars := by
  have hnamed (entry : String × PyObject) (hmem : entry ∈ named entries) :
      ∃ value, normalize entry.2 = .ok value := by
    obtain ⟨original, horiginal, rfl⟩ := List.mem_map.mp hmem
    exact h original horiginal
  have hitems : normalizeEntries entries =
      .ok ((named entries).map fun entry => (entry.1, valueOf entry.2)) := by
    rw [normalizeEntries_eq]
    refine mapM_ok_map fun entry hmem => ?_
    obtain ⟨value, hvalue⟩ := hnamed entry hmem
    rw [valueOf_eq hvalue, hvalue]
    rfl
  refine ⟨Dict.setAll ∅ ((named entries).map fun entry => (entry.1, valueOf entry.2)), ?_, ?_⟩
  · unfold canonicalChars
    rw [normalize, hitems]
    rfl
  · intro k
    rw [Dict.get?_setAll, Dict.get?_empty, Option.or_none, Dict.lastEntry_map]
    cases hlast : Dict.lastEntry k (named entries) with
    | none => rfl
    | some object =>
        obtain ⟨value, hvalue⟩ := hnamed (k, object) (Dict.mem_of_lastEntry hlast)
        exact congrArg some (canonicalChars_eq hvalue).symm

theorem normalize_of_canonicalChars {object : PyObject} {text : List Char}
    (h : canonicalChars object = .ok text) : ∃ value, normalize object = .ok value := by
  obtain ⟨value, hvalue, -⟩ := bind_eq_ok_iff.mp h
  exact ⟨value, hvalue⟩

/-- A mapping has a text when its values are normalized and those that survive have one. -/
theorem canonicalChars_mapping {holder : Holder} {entries : List (PyKey × PyObject)}
    {text : List Char} :
    canonicalChars (.mapping holder entries) = .ok text ↔
      (∀ entry ∈ entries, ∃ value, normalize entry.2 = .ok value) ∧
        ∃ texts : Dict String (List Char),
          (∀ k, (Dict.lastEntry k (named entries)).map canonicalChars =
            (texts.get? k).map Except.ok) ∧ text = render texts := by
  constructor
  · intro h
    have hall : ∀ entry ∈ entries, ∃ value, normalize entry.2 = .ok value := by
      obtain ⟨value, hvalue⟩ := normalize_of_canonicalChars h
      obtain ⟨items, hitems, -⟩ := bind_eq_ok_iff.mp hvalue
      rw [normalizeEntries_eq] at hitems
      intro entry hmem
      obtain ⟨item, -, hitem⟩ := (mem_of_mapM hitems).1 (entry.1.text, entry.2)
        (List.mem_map.mpr ⟨entry, hmem, rfl⟩)
      cases hnormal : normalize entry.2 with
      | error x =>
          rw [hnormal] at hitem
          cases hitem
      | ok value => exact ⟨value, rfl⟩
    obtain ⟨d, hprinted, hread⟩ := canonicalChars_dict holder hall
    rw [hprinted] at h
    obtain ⟨texts, htexts, rfl⟩ := dumps_ofDict.mp h
    exact ⟨hall, texts, fun k => (hread k).symm.trans (htexts k), rfl⟩
  · rintro ⟨hall, texts, htexts, rfl⟩
    obtain ⟨d, hprinted, hread⟩ := canonicalChars_dict holder hall
    rw [hprinted]
    exact dumps_ofDict.mpr ⟨texts, fun k => (hread k).trans (htexts k), rfl⟩

/-! ## JSON values -/

mutual

/-- Every mapping of a value has distinct keys. -/
def KeysDistinct : Value → Prop
  | .list xs => KeysDistinctList xs
  | .dict kvs => (kvs.map Prod.fst).Nodup ∧ KeysDistinctEntries kvs
  | _ => True

def KeysDistinctList : List Value → Prop
  | [] => True
  | x :: xs => KeysDistinct x ∧ KeysDistinctList xs

def KeysDistinctEntries : List (String × Value) → Prop
  | [] => True
  | (_, v) :: rest => KeysDistinct v ∧ KeysDistinctEntries rest

end

mutual

/-- A JSON value is its own normal form. -/
theorem normalize_ofValue : (v : Value) → KeysDistinct v → normalize (ofValue v) = .ok (ofValue v)
  | .none, _ => rfl
  | .bool _, _ => rfl
  | .int _, _ => rfl
  | .float _, _ => rfl
  | .str _, _ => rfl
  | .list xs, h => by
      rw [ofValue, normalize, normalizeItems_ofValues xs h]
      rfl
  | .dict kvs, h => by
      rw [ofValue, normalize, normalizeEntries_ofEntries kvs h.2]
      show Except.ok (ofDict (Dict.setAll ∅ (kvs.map fun entry => (entry.1, ofValue entry.2)))) = _
      have hnodup : ((kvs.map fun entry => (entry.1, ofValue entry.2)).map Prod.fst).Nodup := by
        rw [List.map_map]
        exact h.1
      rw [ofDict, Dict.entries_setAll ∅ _ (by simpa using hnodup), ofEntries_eq]
      simp [Function.comp_def]

theorem normalizeItems_ofValues : (xs : List Value) → KeysDistinctList xs →
    normalizeItems (ofValues xs) = .ok (ofValues xs)
  | [], _ => rfl
  | x :: xs, h => by
      rw [ofValues, normalizeItems, normalize_ofValue x h.1, normalizeItems_ofValues xs h.2]
      rfl

theorem normalizeEntries_ofEntries : (kvs : List (String × Value)) → KeysDistinctEntries kvs →
    normalizeEntries (ofEntries kvs) = .ok (kvs.map fun entry => (entry.1, ofValue entry.2))
  | [], _ => rfl
  | (k, v) :: rest, h => by
      rw [ofEntries, normalizeEntries, normalize_ofValue v h.1,
        normalizeEntries_ofEntries rest h.2]
      rfl

end

/-- The canonical text of a JSON value. -/
theorem canonicalJson_ofValue {v : Value} (h : KeysDistinct v) :
    canonicalJson (ofValue v) = .ok (Manifest.canonicalJson v) := by
  unfold canonicalJson canonicalChars
  rw [normalize_ofValue v h]
  show (dumps (ofValue v)).map String.ofList = _
  rw [dumps_ofValue]
  rfl

/-! ## Orders of insertion -/

mutual

/-- Two objects that are equal up to the order of insertion of their mappings. -/
def Reordered : PyObject → PyObject → Prop
  | .mapping holder entries, object' => ∃ values, ReorderedEntries entries values ∧
      ∃ entries', values.Perm entries' ∧ object' = .mapping holder entries'
  | .sequence items, object' => ∃ items', ReorderedItems items items' ∧ object' = .sequence items'
  | object, object' => object' = object

def ReorderedItems : List PyObject → List PyObject → Prop
  | [], others => others = []
  | item :: rest, others => ∃ first tail, Reordered item first ∧ ReorderedItems rest tail ∧
      others = first :: tail

/-- The same keys in the same order, over reordered values. -/
def ReorderedEntries : List (PyKey × PyObject) → List (PyKey × PyObject) → Prop
  | [], others => others = []
  | (key, value) :: rest, others => ∃ first tail, Reordered value first ∧
      ReorderedEntries rest tail ∧ others = (key, first) :: tail

end

mutual

/-- No order of insertion decides anything: wherever keys of one mapping have one text, their
values have one canonical form. -/
def Settled : PyObject → Prop
  | .mapping _ entries => SettledEntries entries ∧
      ∀ a ∈ entries, ∀ b ∈ entries, a.1.text = b.1.text → canonicalJson a.2 = canonicalJson b.2
  | .sequence items => SettledItems items
  | _ => True

def SettledItems : List PyObject → Prop
  | [] => True
  | item :: rest => Settled item ∧ SettledItems rest

def SettledEntries : List (PyKey × PyObject) → Prop
  | [] => True
  | (_, value) :: rest => Settled value ∧ SettledEntries rest

end

mutual

theorem Reordered.refl : (object : PyObject) → Reordered object object
  | .mapping _ entries =>
      ⟨entries, ReorderedEntries.refl entries, entries, List.Perm.refl _, rfl⟩
  | .sequence items => ⟨items, ReorderedItems.refl items, rfl⟩
  | .none => rfl
  | .bool _ => rfl
  | .int _ => rfl
  | .float _ => rfl
  | .nonFinite => rfl
  | .str _ => rfl
  | .member _ _ => rfl
  | .datetime _ => rfl
  | .set _ => rfl
  | .other _ => rfl

theorem ReorderedItems.refl : (items : List PyObject) → ReorderedItems items items
  | [] => rfl
  | item :: rest => ⟨item, rest, Reordered.refl item, ReorderedItems.refl rest, rfl⟩

theorem ReorderedEntries.refl : (entries : List (PyKey × PyObject)) →
    ReorderedEntries entries entries
  | [] => rfl
  | (_, value) :: rest => ⟨value, rest, Reordered.refl value, ReorderedEntries.refl rest, rfl⟩

end

theorem settledItems_iff {items : List PyObject} :
    SettledItems items ↔ ∀ item ∈ items, Settled item := by
  induction items with
  | nil => simp [SettledItems]
  | cons item rest ih => simp [SettledItems, ih]

theorem settledEntries_iff {entries : List (PyKey × PyObject)} :
    SettledEntries entries ↔ ∀ entry ∈ entries, Settled entry.2 := by
  induction entries with
  | nil => simp [SettledEntries]
  | cons entry rest ih => simp [SettledEntries, ih]

theorem canonicalJson_inj {a b : PyObject} :
    canonicalJson a = canonicalJson b ↔ canonicalChars a = canonicalChars b := by
  constructor
  · intro h
    unfold canonicalJson at h
    cases ha : canonicalChars a with
    | error x =>
        cases hb : canonicalChars b with
        | error y => simpa [ha, hb, Except.map] using h
        | ok text => simp [ha, hb, Except.map] at h
    | ok text =>
        cases hb : canonicalChars b with
        | error y => simp [ha, hb, Except.map] at h
        | ok text' =>
            simp only [ha, hb, Except.map, Except.ok.injEq] at h
            rw [String.ofList_injective h]
  · intro h
    unfold canonicalJson
    rw [h]

/-! ## Settled objects ignore the order of insertion -/

theorem last_of_mem {entries : List (PyKey × PyObject)} {entry : PyKey × PyObject}
    (h : entry ∈ entries) : ∃ last ∈ entries, last.1.text = entry.1.text ∧
      Dict.lastEntry entry.1.text (named entries) = some last.2 := by
  obtain ⟨object, hlast⟩ := Dict.lastEntry_of_mem
    (show (entry.1.text, entry.2) ∈ named entries from List.mem_map.mpr ⟨entry, h, rfl⟩)
  obtain ⟨last, hmem, hpair⟩ := List.mem_map.mp (Dict.mem_of_lastEntry hlast)
  obtain ⟨hkey, rfl⟩ := Prod.mk.inj hpair
  exact ⟨last, hmem, hkey, hlast⟩

theorem mem_of_last {entries : List (PyKey × PyObject)} {k : String} {object : PyObject}
    (h : Dict.lastEntry k (named entries) = some object) :
    ∃ entry ∈ entries, entry.1.text = k ∧ entry.2 = object := by
  obtain ⟨entry, hmem, hpair⟩ := List.mem_map.mp (Dict.mem_of_lastEntry h)
  obtain ⟨hkey, hvalue⟩ := Prod.mk.inj hpair
  exact ⟨entry, hmem, hkey, hvalue⟩

/-- Every value of a mapping that has a text has one, when none hides a different one. -/
theorem canonicalChars_of_mem {holder : Holder} {entries : List (PyKey × PyObject)}
    {text : List Char} (h : canonicalChars (.mapping holder entries) = .ok text)
    (hsame : ∀ a ∈ entries, ∀ b ∈ entries, a.1.text = b.1.text →
      canonicalChars a.2 = canonicalChars b.2) :
    ∀ entry ∈ entries, ∃ text', canonicalChars entry.2 = .ok text' := by
  intro entry hmem
  obtain ⟨-, texts, htexts, -⟩ := canonicalChars_mapping.mp h
  obtain ⟨last, hmemLast, hkey, hlast⟩ := last_of_mem hmem
  rw [hsame entry hmem last hmemLast hkey.symm]
  have hread := htexts entry.1.text
  rw [hlast, Option.map_some] at hread
  cases hget : texts.get? entry.1.text with
  | none => simp [hget] at hread
  | some text' => exact ⟨text', by simpa [hget] using hread⟩

/-- Mappings with the same keys whose values have the same texts, in some order, have the same
text. -/
theorem canonicalChars_mapping_congr {holder : Holder}
    {entries entries' : List (PyKey × PyObject)} {text : List Char}
    (h : canonicalChars (.mapping holder entries) = .ok text)
    (hsame : ∀ a ∈ entries, ∀ b ∈ entries, a.1.text = b.1.text →
      canonicalChars a.2 = canonicalChars b.2)
    (hvalues : ∀ value ∈ entries', ∃ entry ∈ entries, entry.1 = value.1 ∧
      canonicalChars value.2 = canonicalChars entry.2)
    (hkeys : ∀ entry ∈ entries, ∃ value ∈ entries', value.1 = entry.1) :
    canonicalChars (.mapping holder entries') = .ok text := by
  have hall := canonicalChars_of_mem h hsame
  obtain ⟨-, texts, htexts, rfl⟩ := canonicalChars_mapping.mp h
  refine canonicalChars_mapping.mpr ⟨fun value hmem => ?_, texts, fun k => ?_, rfl⟩
  · obtain ⟨entry, hentry, -, htext⟩ := hvalues value hmem
    obtain ⟨text', hok⟩ := hall entry hentry
    exact normalize_of_canonicalChars (htext.trans hok)
  · rw [← htexts k]
    cases hlast : Dict.lastEntry k (named entries') with
    | none =>
        cases hlast' : Dict.lastEntry k (named entries) with
        | none => rfl
        | some object =>
            obtain ⟨entry, hentry, rfl, rfl⟩ := mem_of_last hlast'
            obtain ⟨value, hmem, hkey⟩ := hkeys entry hentry
            obtain ⟨last, -, -, hsome⟩ := last_of_mem hmem
            rw [hkey, hlast] at hsome
            cases hsome
    | some object =>
        obtain ⟨value, hmem, rfl, rfl⟩ := mem_of_last hlast
        obtain ⟨entry, hentry, hkey, htext⟩ := hvalues value hmem
        obtain ⟨last, hmemLast, hkeyLast, hsome⟩ := last_of_mem hentry
        rw [← hkey, hsome, Option.map_some, Option.map_some, htext,
          hsame entry hentry last hmemLast hkeyLast.symm]

mutual

/-- A settled object has one text in all its orders. -/
theorem canonicalChars_of_settled : (object : PyObject) → Settled object → ∀ text,
    canonicalChars object = .ok text → ∀ object', Reordered object object' →
      canonicalChars object' = .ok text
  | .mapping _ entries, hsettled, text, h, object', hreordered => by
      obtain ⟨values, hvalues, entries', hperm, rfl⟩ := hreordered
      obtain ⟨hparts, hclash⟩ := hsettled
      have hsame : ∀ a ∈ entries, ∀ b ∈ entries, a.1.text = b.1.text →
          canonicalChars a.2 = canonicalChars b.2 := fun a ha b hb heq =>
        canonicalJson_inj.mp (hclash a ha b hb heq)
      obtain ⟨htexts, hkeys⟩ := canonicalChars_of_settledEntries entries hparts
        (canonicalChars_of_mem h hsame) values hvalues
      refine canonicalChars_mapping_congr h hsame
        (fun value hmem => htexts value (hperm.symm.subset hmem)) fun entry hmem => ?_
      have hkey : entry.1 ∈ values.map Prod.fst := hkeys ▸ List.mem_map_of_mem hmem
      obtain ⟨value, hvalue, hsameKey⟩ := List.mem_map.mp hkey
      exact ⟨value, hperm.subset hvalue, hsameKey⟩
  | .sequence items, hsettled, text, h, object', hreordered => by
      obtain ⟨items', hitems, rfl⟩ := hreordered
      obtain ⟨texts, htexts, rfl⟩ := canonicalChars_sequence.mp h
      exact canonicalChars_sequence.mpr
        ⟨texts, canonicalChars_of_settledItems items hsettled texts htexts items' hitems, rfl⟩
  | .none, _, _, h, _, hreordered => hreordered ▸ h
  | .bool _, _, _, h, _, hreordered => hreordered ▸ h
  | .int _, _, _, h, _, hreordered => hreordered ▸ h
  | .float _, _, _, h, _, hreordered => hreordered ▸ h
  | .nonFinite, _, _, h, _, hreordered => hreordered ▸ h
  | .str _, _, _, h, _, hreordered => hreordered ▸ h
  | .member _ _, _, _, h, _, hreordered => hreordered ▸ h
  | .datetime _, _, _, h, _, hreordered => hreordered ▸ h
  | .set _, _, _, h, _, hreordered => hreordered ▸ h
  | .other _, _, _, h, _, hreordered => hreordered ▸ h

theorem canonicalChars_of_settledItems : (items : List PyObject) → SettledItems items →
    ∀ texts, items.mapM canonicalChars = .ok texts → ∀ items', ReorderedItems items items' →
      items'.mapM canonicalChars = .ok texts
  | [], _, _, h, _, hreordered => by
      rw [ReorderedItems] at hreordered
      rw [hreordered]
      exact h
  | item :: rest, hsettled, texts, h, items', hreordered => by
      obtain ⟨first, tail, hfirst, htail, rfl⟩ := hreordered
      rw [List.mapM_cons] at h ⊢
      obtain ⟨text, htext, h⟩ := bind_eq_ok_iff.mp h
      obtain ⟨others, hothers, h⟩ := bind_eq_ok_iff.mp h
      obtain rfl := Except.ok.inj h
      rw [canonicalChars_of_settled item hsettled.1 text htext first hfirst,
        canonicalChars_of_settledItems rest hsettled.2 others hothers tail htail]
      rfl

theorem canonicalChars_of_settledEntries : (entries : List (PyKey × PyObject)) →
    SettledEntries entries →
    (∀ entry ∈ entries, ∃ text, canonicalChars entry.2 = .ok text) →
    ∀ values, ReorderedEntries entries values →
      (∀ value ∈ values, ∃ entry ∈ entries, entry.1 = value.1 ∧
        canonicalChars value.2 = canonicalChars entry.2) ∧
        values.map Prod.fst = entries.map Prod.fst
  | [], _, _, values, hreordered => by
      rw [ReorderedEntries] at hreordered
      subst hreordered
      exact ⟨fun value hmem => absurd hmem List.not_mem_nil, rfl⟩
  | (key, value) :: rest, hsettled, htexts, values, hreordered => by
      obtain ⟨first, tail, hfirst, htail, rfl⟩ := hreordered
      obtain ⟨text, htext⟩ := htexts (key, value) List.mem_cons_self
      obtain ⟨hrest, hkeys⟩ := canonicalChars_of_settledEntries rest hsettled.2
        (fun entry hmem => htexts entry (List.mem_cons_of_mem _ hmem)) tail htail
      constructor
      · intro other hmem
        rcases List.mem_cons.mp hmem with rfl | hmem
        · exact ⟨(key, value), List.mem_cons_self, rfl,
            (canonicalChars_of_settled value hsettled.1 text htext first hfirst).trans
              htext.symm⟩
        · obtain ⟨entry, hentry, hsame⟩ := hrest other hmem
          exact ⟨entry, List.mem_cons_of_mem _ hentry, hsame⟩
      · rw [List.map_cons, List.map_cons, hkeys]

end

/-! ## Objects that ignore the order of insertion are settled -/

/-- The object has one text in all its orders. -/
def OrderFree (object : PyObject) : Prop :=
  ∃ text, ∀ object', Reordered object object' → canonicalChars object' = .ok text

theorem opaque_canonicalChars {object : PyObject} {text : List Char}
    (h : canonicalChars object = .ok text) : JsonText.Opaque text := by
  obtain ⟨value, -, hdumps⟩ := bind_eq_ok_iff.mp h
  exact opaque_dumps value text hdumps

theorem reorderedItems_replace {front back : List PyObject} {item item' : PyObject}
    (h : Reordered item item') :
    ReorderedItems (front ++ item :: back) (front ++ item' :: back) := by
  induction front with
  | nil => exact ⟨item', back, h, ReorderedItems.refl back, rfl⟩
  | cons first front ih => exact ⟨first, _, Reordered.refl first, ih, rfl⟩

theorem reorderedEntries_replace {front back : List (PyKey × PyObject)} {key : PyKey}
    {value value' : PyObject} (h : Reordered value value') :
    ReorderedEntries (front ++ (key, value) :: back) (front ++ (key, value') :: back) := by
  induction front with
  | nil => exact ⟨value', back, h, ReorderedEntries.refl back, rfl⟩
  | cons first front ih => exact ⟨first.2, _, Reordered.refl first.2, ih, rfl⟩

theorem OrderFree.items {items : List PyObject} (h : OrderFree (.sequence items)) :
    ∀ item ∈ items, OrderFree item := by
  intro item hmem
  obtain ⟨text, htext⟩ := h
  obtain ⟨front, back, rfl⟩ := List.append_of_mem hmem
  obtain ⟨texts, htexts, hprinted⟩ := canonicalChars_sequence.mp (htext _ (Reordered.refl _))
  have hone (item' : PyObject) (hreordered : Reordered item item') :
      ∃ text', canonicalChars item = .ok text' ∧ canonicalChars item' = .ok text' := by
    obtain ⟨texts', htexts', hprinted'⟩ := canonicalChars_sequence.mp
      (htext _ ⟨front ++ item' :: back, reorderedItems_replace hreordered, rfl⟩)
    have hsealed {items : List PyObject} {texts : List (List Char)}
        (h : items.mapM canonicalChars = .ok texts) : ∀ text ∈ texts, JsonText.Opaque text := by
      intro text hmem
      obtain ⟨object, -, hobject⟩ := (mem_of_mapM h).2 text hmem
      exact opaque_canonicalChars hobject
    have hlength : texts.length = texts'.length := by
      rw [length_of_mapM htexts, length_of_mapM htexts']
      simp
    have hsame : texts = texts' :=
      JsonText.intercalate_inj (hsealed htexts) (hsealed htexts') hlength
        (.cons (c := ']') rfl []) (.cons rfl [])
        (List.cons.inj (hprinted.symm.trans hprinted')).2
    subst hsame
    exact eq_of_mapM_replace htexts htexts'
  obtain ⟨text', hself, -⟩ := hone item (Reordered.refl item)
  refine ⟨text', fun item' hreordered => ?_⟩
  obtain ⟨other, hfirst, hsecond⟩ := hone item' hreordered
  rw [hsecond, ← hself, hfirst]

/-- An order of a mapping that ends with one of its entries, its value in some order. -/
theorem reordered_last (holder : Holder) {entries : List (PyKey × PyObject)}
    {entry : PyKey × PyObject} (hmem : entry ∈ entries) {value : PyObject}
    (hvalue : Reordered entry.2 value) :
    ∃ front, Reordered (.mapping holder entries) (.mapping holder (front ++ [(entry.1, value)])) ∧
      (front ++ [(entry.1, value)]).map (·.1.text) ~ entries.map (·.1.text) := by
  obtain ⟨front, back, rfl⟩ := List.append_of_mem hmem
  have hmoved (value : PyObject) :
      (front ++ (entry.1, value) :: back).Perm (front ++ back ++ [(entry.1, value)]) :=
    List.perm_middle.trans (List.perm_append_singleton _ _).symm
  refine ⟨front ++ back, ⟨_, reorderedEntries_replace hvalue, _, hmoved value, rfl⟩, ?_⟩
  refine ((hmoved value).symm.map _).trans ?_
  simp

/-- The texts of the surviving values, read back. -/
theorem texts_spec {entries : List (PyKey × PyObject)} {texts : Dict String (List Char)}
    (h : ∀ k, (Dict.lastEntry k (named entries)).map canonicalChars =
      (texts.get? k).map Except.ok) :
    (∀ k object, Dict.lastEntry k (named entries) = some object →
      ∃ text, texts.get? k = some text ∧ canonicalChars object = .ok text) ∧
    (∀ k text, texts.get? k = some text → JsonText.Opaque text) ∧
    ∀ k, (texts.get? k).isSome = true ↔ k ∈ entries.map (·.1.text) := by
  have hread (k : String) (text : List Char) (hget : texts.get? k = some text) :
      ∃ object, Dict.lastEntry k (named entries) = some object ∧
        canonicalChars object = .ok text := by
    have hk := h k
    rw [hget, Option.map_some] at hk
    exact Option.map_eq_some_iff.mp hk
  have hlast (k : String) (object : PyObject)
      (hobject : Dict.lastEntry k (named entries) = some object) :
      ∃ text, texts.get? k = some text ∧ canonicalChars object = .ok text := by
    have hk := h k
    rw [hobject, Option.map_some] at hk
    obtain ⟨text, hget, htext⟩ := Option.map_eq_some_iff.mp hk.symm
    exact ⟨text, hget, htext.symm⟩
  refine ⟨hlast, fun k text hget => ?_, fun k => ⟨fun hsome => ?_, fun hmem => ?_⟩⟩
  · obtain ⟨object, -, hobject⟩ := hread k text hget
    exact opaque_canonicalChars hobject
  · obtain ⟨text, hget⟩ := Option.isSome_iff_exists.mp hsome
    obtain ⟨object, hobject, -⟩ := hread k text hget
    obtain ⟨entry, hmem, rfl, -⟩ := mem_of_last hobject
    exact List.mem_map_of_mem hmem
  · obtain ⟨entry, hentry, rfl⟩ := List.mem_map.mp hmem
    obtain ⟨last, -, -, hobject⟩ := last_of_mem hentry
    obtain ⟨text, hget, -⟩ := hlast _ _ hobject
    rw [hget]
    rfl

/-- Two orders that end with keys of one text print their last values alike. -/
theorem OrderFree.last {holder : Holder} {entries front front' : List (PyKey × PyObject)}
    {last last' : PyKey × PyObject} (h : OrderFree (.mapping holder entries))
    (hlast : Reordered (.mapping holder entries) (.mapping holder (front ++ [last])))
    (hlast' : Reordered (.mapping holder entries) (.mapping holder (front' ++ [last'])))
    (hkey : last.1.text = last'.1.text)
    (hkeys : (front ++ [last]).map (·.1.text) ~ (front' ++ [last']).map (·.1.text)) :
    ∃ text, canonicalChars last.2 = .ok text ∧ canonicalChars last'.2 = .ok text := by
  obtain ⟨text, htext⟩ := h
  obtain ⟨-, texts, htexts, rfl⟩ := canonicalChars_mapping.mp (htext _ hlast)
  obtain ⟨-, texts', htexts', hprinted⟩ := canonicalChars_mapping.mp (htext _ hlast')
  obtain ⟨hvalues, hsealed, hlisted⟩ := texts_spec htexts
  obtain ⟨hvalues', hsealed', hlisted'⟩ := texts_spec htexts'
  have hends (front : List (PyKey × PyObject)) (last : PyKey × PyObject) :
      Dict.lastEntry last.1.text (named (front ++ [last])) = some last.2 := by
    unfold named
    rw [List.map_append, List.map_singleton, Dict.lastEntry_append_singleton, if_pos rfl]
  obtain ⟨text, hread, hvalue⟩ := hvalues _ _ (hends front last)
  obtain ⟨text', hread', hvalue'⟩ := hvalues' _ _ (hends front' last')
  have hsame := render_injective (fun k => Bool.eq_iff_iff.mpr
    ((hlisted k).trans (hkeys.mem_iff.trans (hlisted' k).symm))) hsealed hsealed' hprinted
  rw [hkey, hsame, hread'] at hread
  obtain rfl := Option.some.inj hread
  exact ⟨text', hvalue, hvalue'⟩

theorem OrderFree.values {holder : Holder} {entries : List (PyKey × PyObject)}
    (h : OrderFree (.mapping holder entries)) : ∀ entry ∈ entries, OrderFree entry.2 := by
  intro entry hmem
  obtain ⟨front, hfront, hkeys⟩ := reordered_last holder hmem (Reordered.refl entry.2)
  have hone (value : PyObject) (hvalue : Reordered entry.2 value) :
      ∃ text, canonicalChars entry.2 = .ok text ∧ canonicalChars value = .ok text := by
    obtain ⟨front', hfront', hkeys'⟩ := reordered_last holder hmem hvalue
    exact h.last hfront hfront' rfl (hkeys.trans hkeys'.symm)
  obtain ⟨text, hself, -⟩ := hone entry.2 (Reordered.refl entry.2)
  refine ⟨text, fun value hvalue => ?_⟩
  obtain ⟨other, hfirst, hsecond⟩ := hone value hvalue
  rw [hsecond, ← hself, hfirst]

theorem OrderFree.clash {holder : Holder} {entries : List (PyKey × PyObject)}
    (h : OrderFree (.mapping holder entries)) :
    ∀ a ∈ entries, ∀ b ∈ entries, a.1.text = b.1.text → canonicalJson a.2 = canonicalJson b.2 := by
  intro a ha b hb hkey
  obtain ⟨front, hfront, hkeys⟩ := reordered_last holder ha (Reordered.refl a.2)
  obtain ⟨front', hfront', hkeys'⟩ := reordered_last holder hb (Reordered.refl b.2)
  obtain ⟨text, hfirst, hsecond⟩ := h.last hfront hfront' hkey (hkeys.trans hkeys'.symm)
  rw [canonicalJson_inj, hfirst, hsecond]

mutual

theorem settled_of_orderFree : (object : PyObject) → OrderFree object → Settled object
  | .mapping _ entries, h => ⟨settledEntries_of_orderFree entries h.values, h.clash⟩
  | .sequence items, h => settledItems_of_orderFree items h.items
  | .none, _ => trivial
  | .bool _, _ => trivial
  | .int _, _ => trivial
  | .float _, _ => trivial
  | .nonFinite, _ => trivial
  | .str _, _ => trivial
  | .member _ _, _ => trivial
  | .datetime _, _ => trivial
  | .set _, _ => trivial
  | .other _, _ => trivial

theorem settledItems_of_orderFree : (items : List PyObject) → (∀ item ∈ items, OrderFree item) →
    SettledItems items
  | [], _ => trivial
  | item :: rest, h => ⟨settled_of_orderFree item (h item List.mem_cons_self),
      settledItems_of_orderFree rest fun other hmem => h other (List.mem_cons_of_mem _ hmem)⟩

theorem settledEntries_of_orderFree : (entries : List (PyKey × PyObject)) →
    (∀ entry ∈ entries, OrderFree entry.2) → SettledEntries entries
  | [], _ => trivial
  | (key, value) :: rest, h => ⟨settled_of_orderFree value (h (key, value) List.mem_cons_self),
      settledEntries_of_orderFree rest fun other hmem => h other (List.mem_cons_of_mem _ hmem)⟩

end

/-- An object that is printed is printed and hashed alike in all its orders exactly when no
order decides which value a key of a mapping keeps. -/
theorem canonicalJson_reordered_iff [Sha256] (object : PyObject) (text : String)
    (h : canonicalJson object = .ok text) :
    (∀ object', Reordered object object' →
      canonicalJson object' = canonicalJson object ∧
        hashPayload object' = hashPayload object) ↔ Settled object := by
  obtain ⟨chars, hchars⟩ : ∃ chars, canonicalChars object = .ok chars := by
    unfold canonicalJson at h
    cases hcanonical : canonicalChars object with
    | error x =>
        rw [hcanonical] at h
        cases h
    | ok chars => exact ⟨chars, rfl⟩
  constructor
  · intro hsame
    refine settled_of_orderFree object ⟨chars, fun object' hreordered => ?_⟩
    rw [canonicalJson_inj.mp (hsame object' hreordered).1, hchars]
  · intro hsettled object' hreordered
    have hjson : canonicalJson object' = canonicalJson object := by
      rw [canonicalJson_inj, hchars,
        canonicalChars_of_settled object hsettled chars hchars object' hreordered]
    refine ⟨hjson, ?_⟩
    unfold hashPayload
    rw [hjson]

end Manifest.Canonical

namespace Manifest

namespace Demo

/-- An integer key and the string it prints as, in one of their orders. -/
def labelled (first second : PyKey × PyObject) : PyObject :=
  .mapping .dict [first, second]

end Demo

/-- `{"attempt": 1, 2: "b"}` and `{2: "b", "attempt": 1}` are printed alike. -/
theorem canonicalJson_reordered_iff_distinct :
    Canonical.canonicalJson (Demo.labelled (.int 2, .str "b") (.str "attempt", .int 1)) =
      Canonical.canonicalJson (Demo.labelled (.str "attempt", .int 1) (.int 2, .str "b")) := by
  refine ((Canonical.canonicalJson_reordered_iff
    (Demo.labelled (.str "attempt", .int 1) (.int 2, .str "b"))
    "\x7b\"2\":\"b\",\"attempt\":1\x7d" (by decide +kernel)).mpr ?_ _ ?_).1
  · refine ⟨⟨trivial, trivial, trivial⟩, fun a ha b hb hkey => ?_⟩
    simp only [List.mem_cons, List.not_mem_nil, or_false] at ha hb
    rcases ha with rfl | rfl <;> rcases hb with rfl | rfl
    · rfl
    · exact absurd hkey (by decide +kernel)
    · exact absurd hkey (by decide +kernel)
    · rfl
  · exact ⟨_, Canonical.ReorderedEntries.refl _, _, List.Perm.swap _ _ _, rfl⟩

/-- `{1: "a", "1": "b"}` and `{"1": "b", 1: "a"}` are printed differently. -/
theorem not_canonicalJson_reordered :
    ¬ ∀ object object' : PyObject, Canonical.Reordered object object' →
      Canonical.canonicalJson object' = Canonical.canonicalJson object := by
  intro h
  have hsame := h (Demo.labelled (.int 1, .str "a") (.str "1", .str "b"))
    (Demo.labelled (.str "1", .str "b") (.int 1, .str "a"))
    ⟨_, Canonical.ReorderedEntries.refl _, _, List.Perm.swap _ _ _, rfl⟩
  revert hsame
  decide +kernel

end Manifest
