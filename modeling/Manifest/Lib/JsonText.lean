import Manifest.Lib.PyValue

/-!
# Reading JSON text back apart

A JSON text in a sequence is recognised without parsing it: it ends at the first comma or
closing bracket outside its own brackets and string literals.  So members of a mapping
cannot trade characters with their neighbours, and a text determines its parts.

Main results:

- Theorem `Value.opaque_dumpChars`: every printed value is recognised as one piece.
- Theorem `Value.dumpChars_dict_inj`: the text of a mapping with given sorted keys
  determines the text of every member.
- Theorem `Value.quoted_injective`: a string literal determines the string.
-/

set_option autoImplicit false

namespace JsonText

/-! ## Scanning -/

/-- Where a scanner is: outside string literals, inside one, or after a backslash. -/
inductive Mode where
  | out
  | inString
  | escaped

/-- The characters that end a value at the outermost level. -/
def ends (c : Char) : Bool :=
  c = ',' || c = '}' || c = ']'

/-- The characters up to the end of the value at hand. -/
def scan : Nat → Mode → List Char → List Char
  | _, _, [] => []
  | depth, .out, c :: rest =>
      if depth = 0 && ends c then []
      else if c = '"' then c :: scan depth .inString rest
      else if c = '[' || c = '{' then c :: scan (depth + 1) .out rest
      else if c = ']' || c = '}' then c :: scan (depth - 1) .out rest
      else c :: scan depth .out rest
  | depth, .inString, c :: rest =>
      if c = '\\' then c :: scan depth .escaped rest
      else if c = '"' then c :: scan depth .out rest
      else c :: scan depth .inString rest
  | depth, .escaped, c :: rest => c :: scan depth .inString rest

example : scan 0 .out ['1', ',', '2'] = ['1'] := by
  simp [scan, ends]

/-- A text the scanner passes over at every depth. -/
def Opaque (text : List Char) : Prop :=
  ∀ depth rest, scan depth .out (text ++ rest) = text ++ scan depth .out rest

/-- A text the scanner passes over inside brackets. -/
def Inner (text : List Char) : Prop :=
  ∀ depth rest, scan (depth + 1) .out (text ++ rest) = text ++ scan (depth + 1) .out rest

/-- A text the scanner passes over inside a string literal. -/
def Quotable (text : List Char) : Prop :=
  ∀ depth rest, scan depth .inString (text ++ rest) = text ++ scan depth .inString rest

/-- What may follow a value: nothing, or a character that ends it. -/
def Stops (rest : List Char) : Prop :=
  scan 0 .out rest = []

theorem Stops.nil : Stops [] := by
  simp [Stops, scan]

theorem Stops.cons {c : Char} (h : ends c = true) (rest : List Char) : Stops (c :: rest) := by
  simp [Stops, scan, h]

/-- Two values followed by an end are the same value. -/
theorem Opaque.cancel {text text' rest rest' : List Char} (h : Opaque text) (h' : Opaque text')
    (hrest : Stops rest) (hrest' : Stops rest') (heq : text ++ rest = text' ++ rest') :
    text = text' ∧ rest = rest' := by
  have hscan := congrArg (scan 0 .out) heq
  rw [h, h', hrest, hrest', List.append_nil, List.append_nil] at hscan
  subst hscan
  exact ⟨rfl, List.append_cancel_left heq⟩

/-! ## Building texts -/

theorem Opaque.inner {text : List Char} (h : Opaque text) : Inner text :=
  fun depth rest => h (depth + 1) rest

theorem Inner.nil : Inner [] :=
  fun _ _ => rfl

theorem Inner.append {text text' : List Char} (h : Inner text) (h' : Inner text') :
    Inner (text ++ text') := by
  intro depth rest
  rw [List.append_assoc, h, h', List.append_assoc]

/-- A character without a meaning of its own. -/
def plain (c : Char) : Bool :=
  !(c = '"' || c = '[' || c = '{' || c = ']' || c = '}' || c = ',')

theorem opaque_of_plain {text : List Char} (h : ∀ c ∈ text, plain c = true) : Opaque text := by
  induction text with
  | nil => exact fun _ _ => rfl
  | cons c text ih =>
      intro depth rest
      have hc := h c List.mem_cons_self
      have htail := ih (fun d hd => h d (List.mem_cons_of_mem c hd)) depth rest
      simp only [plain, Bool.not_eq_true', Bool.or_eq_false_iff, decide_eq_false_iff_not] at hc
      simp [scan, ends, hc, htail]

theorem inner_comma : Inner [','] := by
  intro depth rest
  simp [scan]

theorem Opaque.append {text text' : List Char} (h : Opaque text) (h' : Opaque text') :
    Opaque (text ++ text') := by
  intro depth rest
  rw [List.append_assoc, h, h', List.append_assoc]

theorem opaque_colon : Opaque [':'] :=
  opaque_of_plain (by simp [plain])

/-- Brackets close what they open. -/
theorem Inner.bracket {text : List Char} (h : Inner text) : Opaque ('[' :: text ++ [']']) := by
  intro depth rest
  simp only [List.cons_append, List.append_assoc, scan, ends]
  rw [h]
  simp [scan]

theorem Inner.brace {text : List Char} (h : Inner text) : Opaque ('{' :: text ++ ['}']) := by
  intro depth rest
  simp only [List.cons_append, List.append_assoc, scan, ends]
  rw [h]
  simp [scan]

theorem Quotable.nil : Quotable [] :=
  fun _ _ => rfl

theorem Quotable.append {text text' : List Char} (h : Quotable text) (h' : Quotable text') :
    Quotable (text ++ text') := by
  intro depth rest
  rw [List.append_assoc, h, h', List.append_assoc]

theorem quotable_plain {c : Char} (hslash : c ≠ '\\') (hquote : c ≠ '"') : Quotable [c] := by
  intro depth rest
  simp [scan, hslash, hquote]

theorem quotable_escape (c : Char) : Quotable ['\\', c] := by
  intro depth rest
  simp [scan]

theorem Quotable.quote {text : List Char} (h : Quotable text) : Opaque ('"' :: text ++ ['"']) := by
  intro depth rest
  simp only [List.cons_append, List.append_assoc, scan, ends]
  rw [h]
  simp [scan]

/-- A comma-separated sequence inside brackets. -/
theorem inner_intercalate {texts : List (List Char)} (h : ∀ text ∈ texts, Inner text) :
    Inner (List.intercalate [','] texts) := by
  induction texts with
  | nil => exact .nil
  | cons text rest ih =>
      have htext := h text List.mem_cons_self
      have hrest := ih fun other hmem => h other (List.mem_cons_of_mem text hmem)
      cases rest with
      | nil => simpa [List.intercalate_singleton] using htext
      | cons next rest =>
          rw [List.intercalate_cons_cons]
          exact (htext.append inner_comma).append hrest

/-- Comma-separated sequences of equal length with equal text have equal elements. -/
theorem intercalate_inj {texts texts' : List (List Char)} (h : ∀ text ∈ texts, Opaque text)
    (h' : ∀ text ∈ texts', Opaque text) (hlength : texts.length = texts'.length)
    {rest rest' : List Char} (hrest : Stops rest) (hrest' : Stops rest')
    (heq : List.intercalate [','] texts ++ rest = List.intercalate [','] texts' ++ rest') :
    texts = texts' := by
  induction texts generalizing texts' with
  | nil => exact (List.length_eq_zero_iff.mp hlength.symm).symm
  | cons text tail ih =>
      cases texts' with
      | nil => simp at hlength
      | cons text' tail' =>
          have htext := h text List.mem_cons_self
          have htext' := h' text' List.mem_cons_self
          cases tail with
          | nil =>
              obtain rfl : tail' = [] :=
                List.length_eq_zero_iff.mp (Nat.succ.inj hlength).symm
              simp only [List.intercalate_singleton] at heq
              rw [(htext.cancel htext' hrest hrest' heq).1]
          | cons next tail =>
              cases tail' with
              | nil => simp at hlength
              | cons next' tail' =>
                  simp only [List.intercalate_cons_cons, List.append_assoc] at heq
                  have hcomma (rest : List Char) : Stops ([','] ++ rest) := .cons rfl rest
                  obtain ⟨rfl, htails⟩ := htext.cancel htext' (hcomma _) (hcomma _) heq
                  rw [ih (fun other hmem => h other (List.mem_cons_of_mem _ hmem))
                    (fun other hmem => h' other (List.mem_cons_of_mem _ hmem))
                    (Nat.succ.inj hlength) (List.append_cancel_left htails)]

end JsonText

namespace Value

open JsonText

/-! ## String literals -/

theorem hexDigit_ne : ∀ n, n < 16 → hexDigit n ≠ '\\' ∧ hexDigit n ≠ '"' := by
  decide

theorem quotable_unicodeEscape (n : Nat) : Quotable (unicodeEscape n) := by
  have hdigit (k : Nat) (hk : k < 16) : Quotable [hexDigit k] :=
    quotable_plain (hexDigit_ne k hk).1 (hexDigit_ne k hk).2
  exact (quotable_escape 'u').append <|
    (hdigit _ (Nat.mod_lt _ (by decide))).append <|
      (hdigit _ (Nat.mod_lt _ (by decide))).append <|
        (hdigit _ (Nat.mod_lt _ (by decide))).append (hdigit _ (Nat.mod_lt _ (by decide)))

/-- The letter of a two-character escape. -/
def unescapeLetter (c : Char) : Char :=
  match c with
  | 'n' => '\n'
  | 'r' => '\r'
  | 't' => '\t'
  | 'b' => Char.ofNat 8
  | 'f' => Char.ofNat 12
  | other => other

/-- How a character is escaped. -/
inductive Escaped (c : Char) : List Char → Prop where
  | letter (letter : Char) (hletter : letter ≠ 'u') (hself : unescapeLetter letter = c) :
      Escaped c ['\\', letter]
  | unit (h : c.toNat < 65536) : Escaped c (unicodeEscape c.toNat)
  | surrogates (h : 65536 ≤ c.toNat) :
      Escaped c (unicodeEscape (55296 + (c.toNat - 65536) / 1024) ++
        unicodeEscape (56320 + (c.toNat - 65536) % 1024))
  | plain (hslash : c ≠ '\\') (hquote : c ≠ '"') : Escaped c [c]

theorem escaped_of_code {c : Char} {n : Nat} (letter : Char) (hcode : c.toNat = n)
    (hletter : letter ≠ 'u') (hself : unescapeLetter letter = Char.ofNat n) :
    Escaped c ['\\', letter] :=
  .letter letter hletter (by rw [hself, ← hcode, Char.ofNat_toNat])

theorem escapeChar_escaped (ascii : Bool) (c : Char) : Escaped c (escapeChar ascii c) := by
  unfold escapeChar
  by_cases hquote : c = '"'
  · rw [if_pos hquote]
    exact .letter '"' (by decide) hquote.symm
  rw [if_neg hquote]
  by_cases hslash : c = '\\'
  · rw [if_pos hslash]
    exact .letter '\\' (by decide) hslash.symm
  rw [if_neg hslash]
  by_cases hnewline : c = '\n'
  · rw [if_pos hnewline]
    exact .letter 'n' (by decide) hnewline.symm
  rw [if_neg hnewline]
  by_cases hreturn : c = '\r'
  · rw [if_pos hreturn]
    exact .letter 'r' (by decide) hreturn.symm
  rw [if_neg hreturn]
  by_cases htab : c = '\t'
  · rw [if_pos htab]
    exact .letter 't' (by decide) htab.symm
  rw [if_neg htab]
  by_cases hback : c.toNat = 8
  · rw [if_pos hback]
    exact escaped_of_code 'b' hback (by decide) rfl
  rw [if_neg hback]
  by_cases hfeed : c.toNat = 12
  · rw [if_pos hfeed]
    exact escaped_of_code 'f' hfeed (by decide) rfl
  rw [if_neg hfeed]
  by_cases hcontrol : c.toNat < 32
  · rw [if_pos hcontrol]
    exact .unit (by omega)
  rw [if_neg hcontrol]
  split
  · split
    · exact .unit ‹_›
    · exact .surrogates (not_lt.mp ‹_›)
  · exact .plain hslash hquote

theorem quotable_escapeChar (ascii : Bool) (c : Char) : Quotable (escapeChar ascii c) := by
  have hescaped := escapeChar_escaped ascii c
  generalize escapeChar ascii c = text at hescaped
  cases hescaped with
  | letter letter => exact quotable_escape letter
  | unit => exact quotable_unicodeEscape _
  | surrogates => exact (quotable_unicodeEscape _).append (quotable_unicodeEscape _)
  | plain hslash hquote => exact quotable_plain hslash hquote

theorem opaque_quoted (ascii : Bool) (s : String) : Opaque (quoted ascii s) := by
  refine Quotable.quote ?_
  induction s.toList with
  | nil => exact .nil
  | cons c rest ih =>
      rw [List.flatMap_cons]
      exact (quotable_escapeChar ascii c).append ih

/-- The value of a lower-case hexadecimal digit. -/
def hexVal (c : Char) : Nat :=
  if c.isDigit then c.toNat - 48 else c.toNat - 87

theorem hexVal_hexDigit : ∀ n, n < 16 → hexVal (hexDigit n) = n := by
  decide

/-- The code unit of four hexadecimal digits. -/
def hexUnit (a b c d : Char) : Nat :=
  ((hexVal a * 16 + hexVal b) * 16 + hexVal c) * 16 + hexVal d

/-- The character of a code unit; a high surrogate takes its low one with it. -/
def readUnit (unit : Nat) (rest : List Char) : Option (Char × List Char) :=
  if 55296 ≤ unit && unit < 56320 then
    match rest with
    | slash :: letter :: a :: b :: c :: d :: rest =>
        if slash = '\\' && letter = 'u' then
          some (Char.ofNat (65536 + (unit - 55296) * 1024 + (hexUnit a b c d - 56320)), rest)
        else Option.none
    | _ => Option.none
  else some (Char.ofNat unit, rest)

/-- The character after a backslash. -/
def readEscape (letter : Char) (rest : List Char) : Option (Char × List Char) :=
  if letter = 'u' then
    match rest with
    | a :: b :: c :: d :: rest => readUnit (hexUnit a b c d) rest
    | _ => Option.none
  else some (unescapeLetter letter, rest)

/-- Read one character of a string literal. -/
def readChar : List Char → Option (Char × List Char)
  | [] => Option.none
  | c :: rest =>
      if c = '\\' then
        match rest with
        | [] => Option.none
        | letter :: rest => readEscape letter rest
      else some (c, rest)

theorem hexUnit_digits {n : Nat} (hn : n < 65536) :
    hexUnit (hexDigit (n / 4096 % 16)) (hexDigit (n / 256 % 16)) (hexDigit (n / 16 % 16))
      (hexDigit (n % 16)) = n := by
  simp only [hexUnit, hexVal_hexDigit _ (Nat.mod_lt _ (by decide : 0 < 16))]
  omega

theorem readChar_unicodeEscape {n : Nat} (hn : n < 65536) (rest : List Char) :
    readChar (unicodeEscape n ++ rest) = readUnit n rest := by
  simp only [unicodeEscape, List.cons_append, List.nil_append, readChar, readEscape, if_true]
  rw [hexUnit_digits hn]

theorem readUnit_basic {n : Nat} (hunit : ¬ (55296 ≤ n ∧ n < 56320)) (rest : List Char) :
    readUnit n rest = some (Char.ofNat n, rest) := by
  simp [readUnit, hunit]

theorem readUnit_surrogates {n : Nat} (hlow : 65536 ≤ n) (hhigh : n < 1114112)
    (rest : List Char) :
    readUnit (55296 + (n - 65536) / 1024)
      (unicodeEscape (56320 + (n - 65536) % 1024) ++ rest) = some (Char.ofNat n, rest) := by
  have hunit : 55296 ≤ 55296 + (n - 65536) / 1024 ∧ 55296 + (n - 65536) / 1024 < 56320 := by
    omega
  have hsum : 65536 + (55296 + (n - 65536) / 1024 - 55296) * 1024 +
      (56320 + (n - 65536) % 1024 - 56320) = n := by
    omega
  simp only [readUnit, hunit, decide_true, Bool.and_self, if_true, unicodeEscape,
    List.cons_append, List.nil_append]
  rw [hexUnit_digits (by omega), hsum]

/-- Reading undoes escaping. -/
theorem readChar_escapeChar (ascii : Bool) (c : Char) (rest : List Char) :
    readChar (escapeChar ascii c ++ rest) = some (c, rest) := by
  have hvalid : c.toNat < 55296 ∨ 57343 < c.toNat ∧ c.toNat < 1114112 := c.valid
  have hself : Char.ofNat c.toNat = c := Char.ofNat_toNat c
  have hescaped := escapeChar_escaped ascii c
  generalize escapeChar ascii c = text at hescaped
  cases hescaped with
  | letter letter hletter hsame => simp [readChar, readEscape, hletter, hsame]
  | unit h => rw [readChar_unicodeEscape h, readUnit_basic (by omega), hself]
  | surrogates h =>
      rw [List.append_assoc, readChar_unicodeEscape (by omega),
        readUnit_surrogates h (by omega), hself]
  | plain hslash => simp [readChar, hslash]

/-- A string literal determines the string. -/
theorem quoted_injective {ascii : Bool} {s t : String} (h : quoted ascii s = quoted ascii t) :
    s = t := by
  unfold quoted at h
  refine String.toList_inj.mp ?_
  generalize s.toList = xs at h
  generalize t.toList = ys at h
  replace h : xs.flatMap (escapeChar ascii) = ys.flatMap (escapeChar ascii) := by
    simpa using h
  induction xs generalizing ys with
  | nil =>
      cases ys with
      | nil => rfl
      | cons d ys =>
          have hread := readChar_escapeChar ascii d (ys.flatMap (escapeChar ascii))
          rw [← List.flatMap_cons, ← h] at hread
          cases hread
  | cons c xs ih =>
      have hread := readChar_escapeChar ascii c (xs.flatMap (escapeChar ascii))
      rw [← List.flatMap_cons, h] at hread
      cases ys with
      | nil => cases hread
      | cons d ys =>
          rw [List.flatMap_cons, readChar_escapeChar] at hread
          obtain ⟨rfl, hrest⟩ := Prod.mk.inj (Option.some.inj hread)
          rw [ih ys hrest.symm]

/-! ## Printed values -/

theorem dumpChars_list (ascii : Bool) (xs : List Value) :
    dumpChars ascii (.list xs) = '[' :: List.intercalate [','] (dumpList ascii xs) ++ [']'] :=
  rfl

theorem dumpChars_dict (ascii : Bool) (kvs : List (String × Value)) :
    dumpChars ascii (.dict kvs) =
      '{' :: List.intercalate [',']
        (((dumpEntries ascii kvs).insertionSort fun a b => a.1 ≤ b.1).map
          fun entry => quoted ascii entry.1 ++ ':' :: entry.2) ++ ['}'] :=
  rfl

theorem plain_of_literal {c : Char} (h : floatLiteralChar c = true) : plain c = true := by
  unfold plain
  by_contra hplain
  simp only [Bool.not_eq_true', Bool.not_eq_false, Bool.or_eq_true, decide_eq_true_eq] at hplain
  rcases hplain with ((((rfl | rfl) | rfl) | rfl) | rfl) | rfl <;> revert h <;> decide

mutual

/-- Every printed value is recognised as one piece. -/
theorem opaque_dumpChars (ascii : Bool) : (v : Value) → Opaque (dumpChars ascii v)
  | .none => opaque_of_plain (List.all_eq_true.mp (rfl : "null".toList.all plain = true))
  | .bool true => opaque_of_plain (List.all_eq_true.mp (rfl : "true".toList.all plain = true))
  | .bool false => opaque_of_plain (List.all_eq_true.mp (rfl : "false".toList.all plain = true))
  | .int _ => opaque_of_plain fun _ h => plain_of_literal (floatLiteralChar_of_mem_int h)
  | .float x => opaque_of_plain fun c h => plain_of_literal (List.all_eq_true.mp x.literal.1 c h)
  | .str s => opaque_quoted ascii s
  | .list xs => by
      rw [dumpChars_list]
      exact (inner_intercalate fun text hmem => (opaque_dumpList ascii xs text hmem).inner).bracket
  | .dict kvs => by
      rw [dumpChars_dict]
      refine (inner_intercalate fun text hmem => ?_).brace
      obtain ⟨entry, hentry, rfl⟩ := List.mem_map.mp hmem
      have hvalue := opaque_dumpEntries ascii kvs entry ((List.mem_insertionSort _).mp hentry)
      exact ((opaque_quoted ascii entry.1).append (opaque_colon.append hvalue)).inner

theorem opaque_dumpList (ascii : Bool) :
    (xs : List Value) → ∀ text ∈ dumpList ascii xs, Opaque text
  | [], _, h => absurd h List.not_mem_nil
  | x :: xs, text, h => by
      rcases List.mem_cons.mp h with rfl | h
      · exact opaque_dumpChars ascii x
      · exact opaque_dumpList ascii xs text h

theorem opaque_dumpEntries (ascii : Bool) :
    (kvs : List (String × Value)) → ∀ entry ∈ dumpEntries ascii kvs, Opaque entry.2
  | [], _, h => absurd h List.not_mem_nil
  | (_, v) :: rest, entry, h => by
      rcases List.mem_cons.mp h with rfl | h
      · exact opaque_dumpChars ascii v
      · exact opaque_dumpEntries ascii rest entry h

end

/-! ## Mappings with given keys -/

theorem dumpEntries_eq (ascii : Bool) (kvs : List (String × Value)) :
    dumpEntries ascii kvs = kvs.map fun entry => (entry.1, dumpChars ascii entry.2) := by
  induction kvs with
  | nil => rfl
  | cons entry rest ih => exact congrArg (_ :: ·) ih

/-- One printed member. -/
def member (ascii : Bool) (entry : String × Value) : List Char :=
  quoted ascii entry.1 ++ ':' :: dumpChars ascii entry.2

/-- The text of a mapping whose keys are in order. -/
theorem dumpChars_dict_sorted (ascii : Bool) {kvs : List (String × Value)}
    (hsorted : (kvs.map Prod.fst).Pairwise (· ≤ ·)) :
    dumpChars ascii (.dict kvs) =
      '{' :: List.intercalate [','] (kvs.map (member ascii)) ++ ['}'] := by
  rw [dumpChars_dict, dumpEntries_eq]
  have hpairs : (kvs.map fun entry => (entry.1, dumpChars ascii entry.2)).Pairwise
      fun a b => a.1 ≤ b.1 := by
    rw [List.pairwise_map] at hsorted ⊢
    exact hsorted
  rw [hpairs.insertionSort_eq, List.map_map]
  rfl

/-- Equal members under equal keys have equal values. -/
theorem values_of_members {ascii : Bool} {kvs kws : List (String × Value)}
    (hkeys : kvs.map Prod.fst = kws.map Prod.fst)
    (h : kvs.map (member ascii) = kws.map (member ascii)) :
    kvs.map (fun entry => dumpChars ascii entry.2) =
      kws.map fun entry => dumpChars ascii entry.2 := by
  induction kvs generalizing kws with
  | nil =>
      cases kws with
      | nil => rfl
      | cons => cases hkeys
  | cons entry kvs ih =>
      cases kws with
      | nil => cases hkeys
      | cons entry' kws =>
          obtain ⟨hkey, hkeys⟩ := List.cons.inj hkeys
          obtain ⟨hmember, h⟩ := List.cons.inj h
          unfold member at hmember
          rw [hkey] at hmember
          have hvalue := (List.cons.inj (List.append_cancel_left hmember)).2
          rw [List.map_cons, List.map_cons, ih hkeys h, hvalue]

/-- The text of a mapping with given sorted keys determines every member. -/
theorem dumpChars_dict_inj {ascii : Bool} {kvs kws : List (String × Value)}
    (hkeys : kvs.map Prod.fst = kws.map Prod.fst)
    (hsorted : (kvs.map Prod.fst).Pairwise (· ≤ ·))
    (h : dumpChars ascii (.dict kvs) = dumpChars ascii (.dict kws)) :
    kvs.map (fun entry => dumpChars ascii entry.2) =
      kws.map fun entry => dumpChars ascii entry.2 := by
  rw [dumpChars_dict_sorted ascii hsorted, dumpChars_dict_sorted ascii (hkeys ▸ hsorted)] at h
  have hmember (entries : List (String × Value)) :
      ∀ text ∈ entries.map (member ascii), Opaque text := by
    intro text hmem
    obtain ⟨entry, -, rfl⟩ := List.mem_map.mp hmem
    exact (opaque_quoted ascii entry.1).append
      (opaque_colon.append (opaque_dumpChars ascii entry.2))
  have hlength : kvs.length = kws.length := by simpa using congrArg List.length hkeys
  have hmembers : kvs.map (member ascii) = kws.map (member ascii) :=
    intercalate_inj (hmember kvs) (hmember kws) (by simpa using hlength)
      (.cons (c := '}') rfl []) (.cons rfl []) (List.cons.inj h).2
  exact values_of_members hkeys hmembers

end Value
