import Manifest.Lib.Dict
import Mathlib.Data.List.Sort
import Mathlib.Data.Rat.Defs

/-!
# Python primitives and their JSON text

The values that cross a dynamically typed boundary: `None`, booleans, integers,
finite floats, strings, lists and string-keyed mappings.  A float carries its
exact value and the text Python prints for it, as the two uses of a float,
comparison and printing, need different things of it.

Main results:

- Definitions `Value.pyEq`, `Value.truthy`, `Value.hashable` and `Value.pyStr`:
  equality, truth, hashability and `str`.
- Definition `Value.dumps`: JSON text with sorted keys and compact separators.
- Theorem `Value.pyEq_str_iff`: a value equals a string only by being it.
-/

set_option autoImplicit false

/-- The characters of a finite float literal. -/
def floatLiteralChar (c : Char) : Bool :=
  c.isDigit || c = '.' || c = 'e' || c = '+' || c = '-'

/-- A finite float: its exact value and the literal it is printed as. -/
structure PyFloat where
  value : Rat
  text : String
  literal : text.toList.all floatLiteralChar = true ∧
    text.toList.any (fun c => c = '.' || c = 'e') = true
deriving DecidableEq

/-- A JSON-compatible Python value. -/
inductive Value where
  | none
  | bool (b : Bool)
  | int (n : Int)
  | float (x : PyFloat)
  | str (s : String)
  | list (xs : List Value)
  | dict (entries : List (String × Value))

instance : Inhabited Value := ⟨.none⟩

/-- Keyword arguments and string-keyed mappings, in insertion order. -/
abbrev Kwargs := List (String × Value)

namespace Kwargs

/-- `mapping.get(key)` with a distinguishable absence. -/
def get? (args : Kwargs) (key : String) : Option Value :=
  Dict.lookupEntries key args

/-- `mapping.get(key)`: an absent key reads as `None`. -/
def get (args : Kwargs) (key : String) : Value :=
  (args.get? key).getD .none

/-- `mapping.get(key, default)`. -/
def getD (args : Kwargs) (key : String) (default : Value) : Value :=
  (args.get? key).getD default

/-- Key membership. -/
def has (args : Kwargs) (key : String) : Bool :=
  (args.get? key).isSome

/-- `mapping[key] = value`. -/
def set (args : Kwargs) (key : String) (value : Value) : Kwargs :=
  Dict.setEntries key value args

/-- `mapping.update(other)`. -/
def update (args other : Kwargs) : Kwargs :=
  other.foldl (fun acc entry => acc.set entry.1 entry.2) args

/-- `mapping.pop(key, None)`, keeping the rest. -/
def pop (args : Kwargs) (key : String) : Kwargs :=
  args.filter fun entry => entry.1 ≠ key

/-- The keys, in order. -/
def keys (args : Kwargs) : List String :=
  args.map Prod.fst

theorem get?_set (args : Kwargs) (key : String) (value : Value) (other : String) :
    (args.set key value).get? other = if other = key then some value else args.get? other :=
  Dict.lookupEntries_setEntries key value args other

/-- Removing a key leaves the others alone. -/
theorem get?_pop_ne {args : Kwargs} {key other : String} (h : other ≠ key) :
    (args.pop key).get? other = args.get? other := by
  unfold get? pop
  induction args with
  | nil => rfl
  | cons entry rest ih =>
      by_cases hkey : entry.1 = key
      · have hother : entry.1 ≠ other := fun heq => h (heq.symm.trans hkey)
        simp only [List.filter_cons, hkey, ne_eq, not_true_eq_false, decide_false,
          Bool.false_eq_true, if_false, ih, Dict.lookupEntries]
        rw [if_neg (hkey ▸ hother)]
      · simp only [List.filter_cons, hkey, ne_eq, not_false_eq_true, decide_true, if_true,
          Dict.lookupEntries, ih]

/-- An update leaves the keys alone that it does not mention. -/
theorem get?_update_of_not_mem {args other : Kwargs} {key : String} (h : key ∉ other.keys) :
    (args.update other).get? key = args.get? key := by
  induction other generalizing args with
  | nil => rfl
  | cons entry rest ih =>
      simp only [keys, List.map_cons, List.mem_cons, not_or] at h
      show Kwargs.get? (Kwargs.update (args.set entry.1 entry.2) rest) key = _
      rw [ih h.2, get?_set, if_neg h.1]

/-- An update has the keys of both. -/
theorem has_update {args other : Kwargs} {key : String}
    (h : args.has key = true ∨ key ∈ other.keys) : (args.update other).has key = true := by
  induction other generalizing args with
  | nil => exact h.resolve_right List.not_mem_nil
  | cons entry rest ih =>
      show Kwargs.has (Kwargs.update (args.set entry.1 entry.2) rest) key = true
      apply ih
      simp only [keys, List.map_cons, List.mem_cons] at h
      unfold has
      rw [get?_set]
      by_cases hkey : key = entry.1
      · simp [hkey]
      · rw [if_neg hkey]
        exact h.imp_right fun hmem => hmem.resolve_left hkey

end Kwargs

namespace Value

/-! ## Truth, hashing and equality -/

/-- `bool(value)`. -/
def truthy : Value → Bool
  | .none => false
  | .bool b => b
  | .int n => n ≠ 0
  | .float x => x.value ≠ 0
  | .str s => s ≠ ""
  | .list xs => !xs.isEmpty
  | .dict entries => !entries.isEmpty

/-- Lists and mappings cannot be dictionary keys. -/
def hashable : Value → Bool
  | .list _ => false
  | .dict _ => false
  | _ => true

/-- The number a value compares as; booleans are integers. -/
def number? : Value → Option Rat
  | .bool b => some (if b then 1 else 0)
  | .int n => some n
  | .float x => some x.value
  | _ => Option.none

mutual

/-- `left == right`: numbers compare by value, mappings ignore order. -/
def pyEq : Value → Value → Bool
  | .none, .none => true
  | .str s, .str t => s = t
  | .list xs, .list ys => listEq xs ys
  | .dict kvs, .dict kws => kvs.length = kws.length && entriesIn kvs kws
  | .bool a, right => numberEq (.bool a) right
  | .int a, right => numberEq (.int a) right
  | .float a, right => numberEq (.float a) right
  | _, _ => false

/-- Pointwise equality of two lists. -/
def listEq : List Value → List Value → Bool
  | [], [] => true
  | x :: xs, y :: ys => pyEq x y && listEq xs ys
  | _, _ => false

/-- Every entry of the first mapping is matched in the second. -/
def entriesIn : List (String × Value) → List (String × Value) → Bool
  | [], _ => true
  | (k, v) :: rest, kws =>
      (match Dict.lookupEntries k kws with
        | some w => pyEq v w
        | Option.none => false) && entriesIn rest kws

/-- Equality of two numbers. -/
def numberEq (left right : Value) : Bool :=
  match left.number?, right.number? with
  | some a, some b => a = b
  | _, _ => false

end

/-! ## Text -/

/-- One lower-case hexadecimal digit. -/
def hexDigit (n : Nat) : Char :=
  if n < 10 then Char.ofNat (48 + n) else Char.ofNat (87 + n)

/-- `\uXXXX` for a code unit below `0x10000`. -/
def unicodeEscape (n : Nat) : List Char :=
  ['\\', 'u', hexDigit (n / 4096 % 16), hexDigit (n / 256 % 16),
    hexDigit (n / 16 % 16), hexDigit (n % 16)]

/-- One character inside a JSON string.  With `ascii` everything outside the
printable ASCII range is escaped, as surrogate pairs beyond the basic plane. -/
def escapeChar (ascii : Bool) (c : Char) : List Char :=
  if c = '"' then ['\\', '"']
  else if c = '\\' then ['\\', '\\']
  else if c = '\n' then ['\\', 'n']
  else if c = '\r' then ['\\', 'r']
  else if c = '\t' then ['\\', 't']
  else if c.toNat = 8 then ['\\', 'b']
  else if c.toNat = 12 then ['\\', 'f']
  else if c.toNat < 32 then unicodeEscape c.toNat
  else if ascii && 126 < c.toNat then
    if c.toNat < 65536 then unicodeEscape c.toNat
    else unicodeEscape (55296 + (c.toNat - 65536) / 1024) ++
      unicodeEscape (56320 + (c.toNat - 65536) % 1024)
  else [c]

/-- A JSON string literal. -/
def quoted (ascii : Bool) (s : String) : List Char :=
  '"' :: s.toList.flatMap (escapeChar ascii) ++ ['"']

mutual

/-- `json.dumps(value, sort_keys=True, separators=(",", ":"))`, as characters. -/
def dumpChars (ascii : Bool) : Value → List Char
  | .none => "null".toList
  | .bool true => "true".toList
  | .bool false => "false".toList
  | .int n => (toString n).toList
  | .float x => x.text.toList
  | .str s => quoted ascii s
  | .list xs => '[' :: List.intercalate [','] (dumpList ascii xs) ++ [']']
  | .dict kvs =>
      '{' :: List.intercalate [',']
        (((dumpEntries ascii kvs).insertionSort fun a b => a.1 ≤ b.1).map
          fun entry => quoted ascii entry.1 ++ ':' :: entry.2) ++ ['}']

/-- The texts of the elements. -/
def dumpList (ascii : Bool) : List Value → List (List Char)
  | [] => []
  | x :: xs => dumpChars ascii x :: dumpList ascii xs

/-- The texts of the values, still under their keys. -/
def dumpEntries (ascii : Bool) : List (String × Value) → List (String × List Char)
  | [] => []
  | (k, v) :: rest => (k, dumpChars ascii v) :: dumpEntries ascii rest

end

/-- Compact JSON text with sorted keys; `ascii` is Python's `ensure_ascii`. -/
def dumps (ascii : Bool) (v : Value) : String :=
  String.ofList (dumpChars ascii v)

/-- The quote Python's `repr` chooses for a string. -/
def reprQuote (s : String) : Char :=
  if s.toList.contains '\'' && !s.toList.contains '"' then '"' else '\''

/-- One character inside a Python string literal. -/
def reprChar (quote : Char) (c : Char) : List Char :=
  if c = quote || c = '\\' then ['\\', c]
  else if c = '\n' then ['\\', 'n']
  else if c = '\r' then ['\\', 'r']
  else if c = '\t' then ['\\', 't']
  else if c.toNat < 32 || c.toNat = 127 then
    ['\\', 'x', hexDigit (c.toNat / 16), hexDigit (c.toNat % 16)]
  else [c]

/-- `repr` of a string. -/
def reprStr (s : String) : List Char :=
  reprQuote s :: s.toList.flatMap (reprChar (reprQuote s)) ++ [reprQuote s]

mutual

/-- `repr(value)`, as characters. -/
def reprChars : Value → List Char
  | .none => "None".toList
  | .bool true => "True".toList
  | .bool false => "False".toList
  | .int n => (toString n).toList
  | .float x => x.text.toList
  | .str s => reprStr s
  | .list xs => '[' :: List.intercalate ", ".toList (reprList xs) ++ [']']
  | .dict kvs => '{' :: List.intercalate ", ".toList (reprEntries kvs) ++ ['}']

def reprList : List Value → List (List Char)
  | [] => []
  | x :: xs => reprChars x :: reprList xs

def reprEntries : List (String × Value) → List (List Char)
  | [] => []
  | (k, v) :: rest => (reprStr k ++ ": ".toList ++ reprChars v) :: reprEntries rest

end

/-- `str(value)`: a string is itself, everything else is its `repr`. -/
def pyStr : Value → String
  | .str s => s
  | v => String.ofList (reprChars v)

@[simp]
theorem pyStr_str (s : String) : (Value.str s).pyStr = s :=
  rfl

@[simp]
theorem pyEq_str_str (s t : String) : pyEq (.str s) (.str t) = decide (s = t) := by
  simp [pyEq]

/-- A value equals a string only by being that string. -/
theorem pyEq_str_iff (v : Value) (s : String) : pyEq v (.str s) = true ↔ v = .str s := by
  cases v <;> simp [pyEq, numberEq, number?]

/-- A value equals an integer exactly when it is a number of that value. -/
theorem pyEq_int_iff (v : Value) (n : Int) :
    pyEq v (.int n) = true ↔ v.number? = some (n : Rat) := by
  cases v <;> simp [pyEq, numberEq, number?]

/-- Integers print as digits, after a sign. -/
theorem floatLiteralChar_of_mem_int {n : Int} {c : Char} (h : c ∈ (toString n).toList) :
    floatLiteralChar c = true := by
  have hdigits {m : Nat} (hm : c ∈ m.repr.toList) : floatLiteralChar c = true := by
    rw [Nat.repr, String.toList_ofList] at hm
    simp [floatLiteralChar, Nat.isDigit_of_mem_toDigits (by decide) (by decide) hm]
  rw [Int.toString_eq_repr, Int.repr_eq_if] at h
  split at h
  · exact hdigits h
  · rw [String.toList_append, List.mem_append] at h
    rcases h with h | h
    · obtain rfl : c = '-' := by simpa using h
      decide
    · exact hdigits h

/-- A text that starts like no container and holds a character of no scalar is only
printed by a string. -/
theorem pyStr_eq_iff {s : String} {c : Char} (hmem : c ∈ s.toList)
    (hword : c ∉ "NoneTrueFalse".toList) (hliteral : floatLiteralChar c = false)
    (hlist : s.toList.head? ≠ some '[') (hdict : s.toList.head? ≠ some '\x7b') (v : Value) :
    v.pyStr = s ↔ v = .str s := by
  constructor
  · intro h
    have hchars : s.toList = v.pyStr.toList := by rw [h]
    cases v with
    | str t => exact congrArg Value.str h
    | none =>
        rw [hchars] at hmem
        revert hmem hword
        simp [pyStr, reprChars]
        grind
    | bool b =>
        rw [hchars] at hmem
        revert hmem hword
        cases b with
        | false => simp [pyStr, reprChars]
        | true =>
            simp [pyStr, reprChars]
            grind
    | int n =>
        rw [hchars, show (Value.int n).pyStr.toList = (toString n).toList from
          String.toList_ofList] at hmem
        rw [floatLiteralChar_of_mem_int hmem] at hliteral
        cases hliteral
    | float x =>
        rw [hchars, show (Value.float x).pyStr.toList = x.text.toList from
          String.toList_ofList] at hmem
        rw [List.all_eq_true.mp x.literal.1 c hmem] at hliteral
        cases hliteral
    | list xs =>
        rw [hchars, show (Value.list xs).pyStr.toList = reprChars (.list xs) from
          String.toList_ofList] at hlist
        exact absurd rfl hlist
    | dict entries =>
        rw [hchars, show (Value.dict entries).pyStr.toList = reprChars (.dict entries) from
          String.toList_ofList] at hdict
        exact absurd rfl hdict
  · rintro rfl
    rfl

end Value

/-! ## Digests and string helpers -/

/-- The host's SHA-256: the hexadecimal digest of a text's UTF-8 bytes.  Nothing
in this development looks inside it. -/
class Sha256 where
  hexdigest : String → String

/-- `"sha256:"` followed by the digest. -/
def Sha256.tagged [Sha256] (text : String) : String :=
  "sha256:" ++ Sha256.hexdigest text

/-- Drop a prefix of characters when it is there. -/
def dropCharsPrefix : List Char → List Char → Option (List Char)
  | [], rest => some rest
  | _ :: _, [] => none
  | c :: cs, d :: ds => if c = d then dropCharsPrefix cs ds else none

/-- `s.removeprefix(p)`. -/
def removePrefix (p s : String) : String :=
  match dropCharsPrefix p.toList s.toList with
  | some rest => String.ofList rest
  | none => s

/-- `s.startswith(p)`. -/
def startsWith (p s : String) : Bool :=
  (dropCharsPrefix p.toList s.toList).isSome

/-- `not s.strip()`. -/
def isBlank (s : String) : Bool :=
  s.toList.all Char.isWhitespace
