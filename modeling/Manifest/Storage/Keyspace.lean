import Manifest.Ledger.Instants

/-!
# Keys of the single table

Every record has a partition key and a sort key, built from validated identifiers.  Keys
are kept by what they name; `text` prints them the way the table stores and orders them.

Main results:

- Theorem `SortKey.event_before_iff`: event keys are ordered by sequence number.
- Theorem `SortKey.begins_event_iff`: the event prefix selects the event keys.
-/

set_option autoImplicit false

namespace Manifest

inductive PartitionKey where
  | trace (traceId : String)
  | approval (approvalId : String)
  | namespaced (name : String)
deriving DecidableEq

inductive SortKey where
  | metaSk
  | headSk
  | pointerSk
  | event (sequence : Nat)
  | decision (createdAt : Timestamp) (decisionId : String)
  | approval (approvalId : String)
  | namespaceTrace (traceId : String)
  | namespaceApproval (createdAt : Timestamp) (approvalId : String)
  | eventReplay (keyHash : String)
  | approvalReplay (keyHash : String)
  | effect (keyHash : String)
deriving DecidableEq

/-- The primary key of an item. -/
structure ItemKey where
  pk : PartitionKey
  sk : SortKey
deriving DecidableEq

/-! ## Key text -/

def PartitionKey.text : PartitionKey → String
  | .trace traceId => "TRACE#" ++ traceId
  | .approval approvalId => "APPROVAL#" ++ approvalId
  | .namespaced name => "DEMO#" ++ name

def SortKey.text : SortKey → String
  | .metaSk => "META"
  | .headSk => "HEAD"
  | .pointerSk => "POINTER"
  | .event sequence => "EVENT#" ++ padded 12 sequence
  | .decision createdAt decisionId =>
      "DECISION#" ++ createdAt.isoMicroseconds ++ "#" ++ decisionId
  | .approval approvalId => "APPROVAL#" ++ approvalId
  | .namespaceTrace traceId => "TRACE#" ++ traceId
  | .namespaceApproval createdAt approvalId =>
      "APPROVAL#" ++ createdAt.isoMicroseconds ++ "#" ++ approvalId
  | .eventReplay keyHash => "REPLAY#EVENT#" ++ keyHash
  | .approvalReplay keyHash => "REPLAY#APPROVAL#" ++ keyHash
  | .effect keyHash => "EFFECT#" ++ keyHash

/-- The order of sort keys within a partition. -/
def SortKey.before (a b : SortKey) : Bool :=
  a.text.toList < b.text.toList

/-- `begins_with(SK, beginning)`. -/
def SortKey.begins (beginning : String) (sk : SortKey) : Bool :=
  beginning.toList.isPrefixOf sk.text.toList

/-! ## Validation -/

/-- Characters after the first one of an identifier. -/
def identifierChar (c : Char) : Bool :=
  c.isAlphanum || c = '.' || c = '_' || c = ':' || c = '-'

/-- A first letter or digit and at most `length` further characters. -/
def wellNamed (further : Char → Bool) (length : Nat) (value : String) : Bool :=
  match value.toList with
  | [] => false
  | c :: rest => c.isAlphanum && rest.all further && decide (rest.length ≤ length)

/-- `_identifier`. -/
def identifier (value label : String) : Except PyError String :=
  if value.toList.contains '#' then
    .error ⟨.storageConfiguration, s!"{label} cannot contain '#'."⟩
  else if wellNamed identifierChar 127 value then .ok value
  else
    .error ⟨.storageConfiguration, s!"{label} must use 1-128 safe identifier characters."⟩

def reservedNamespaces : List String :=
  ["prod", "production", "all", "*"]

def namespaceChar (c : Char) : Bool :=
  c.isAlphanum || c = '.' || c = '_' || c = '-'

def validateNamespace (value : String) : Except PyError String :=
  if wellNamed namespaceChar 63 value = false then
    .error ⟨.storageConfiguration,
      "Demo namespace must use 1-64 letters, digits, dots, underscores, or dashes."⟩
  else if reservedNamespaces.contains value.toLower then
    .error ⟨.storageConfiguration, "The selected demo namespace is reserved."⟩
  else .ok value

/-- `_hash`. -/
def storageHash (value : String) : Except PyError String :=
  if value.length = 64 && value.toList.all (fun c => c.isDigit || ('a' ≤ c && c ≤ 'f')) then
    .ok value
  else
    .error ⟨.storageConfiguration, "Storage key hash must be lowercase SHA-256 hex."⟩

/-! ## Keys of records -/

def tracePk (traceId : String) : Except PyError PartitionKey :=
  (identifier traceId "Trace ID").map .trace

def eventSk (sequence : Nat) : Except PyError SortKey :=
  if sequence < 1 then
    .error ⟨.storageConfiguration, "Event sequence must be a positive integer."⟩
  else if 999999999999 < sequence then
    .error ⟨.storageConfiguration, "Event sequence exceeds the key format limit."⟩
  else .ok (.event sequence)

def decisionSk (createdAt : Timestamp) (decisionId : String) : Except PyError SortKey :=
  (identifier decisionId "Decision ID").map (.decision createdAt)

def approvalSk (approvalId : String) : Except PyError SortKey :=
  (identifier approvalId "Approval ID").map .approval

def approvalPointerPk (approvalId : String) : Except PyError PartitionKey :=
  (identifier approvalId "Approval ID").map .approval

def namespacePk (name : String) : Except PyError PartitionKey :=
  (validateNamespace name).map .namespaced

def namespaceTraceSk (traceId : String) : Except PyError SortKey :=
  (identifier traceId "Trace ID").map .namespaceTrace

def namespaceApprovalSk (createdAt : Timestamp) (approvalId : String) :
    Except PyError SortKey :=
  (identifier approvalId "Approval ID").map (.namespaceApproval createdAt)

def eventReplaySk (keyHash : String) : Except PyError SortKey :=
  (storageHash keyHash).map .eventReplay

def approvalReplaySk (keyHash : String) : Except PyError SortKey :=
  (storageHash keyHash).map .approvalReplay

def effectSk (keyHash : String) : Except PyError SortKey :=
  (storageHash keyHash).map .effect

/-! ## What a valid key is -/

theorem map_ok {α β : Type} {r : Except PyError α} {f : α → β} {b : β} (h : r.map f = .ok b) :
    ∃ a, r = .ok a ∧ b = f a := by
  cases r with
  | error x => cases h
  | ok a => exact ⟨a, rfl, (Except.ok.inj h).symm⟩

theorem identifier_ok {value label name : String} (h : identifier value label = .ok name) :
    name = value := by
  unfold identifier at h
  split_ifs at h
  exact (Except.ok.inj h).symm

theorem map_identifier_ok {α : Type} {value label : String} {f : String → α} {a : α}
    (h : (identifier value label).map f = .ok a) : a = f value := by
  obtain ⟨name, hname, rfl⟩ := map_ok h
  rw [identifier_ok hname]

theorem tracePk_ok {traceId : String} {pk : PartitionKey} (h : tracePk traceId = .ok pk) :
    pk = .trace traceId :=
  map_identifier_ok h

theorem namespacePk_ok {name : String} {pk : PartitionKey} (h : namespacePk name = .ok pk) :
    ∃ valid, pk = .namespaced valid := by
  obtain ⟨valid, -, rfl⟩ := map_ok h
  exact ⟨valid, rfl⟩

theorem eventSk_ok {sequence : Nat} {sk : SortKey} (h : eventSk sequence = .ok sk) :
    sk = .event sequence ∧ 1 ≤ sequence ∧ sequence < 10 ^ 12 := by
  unfold eventSk at h
  split_ifs at h with hlow hhigh
  exact ⟨(Except.ok.inj h).symm, by omega, by omega⟩

theorem decisionSk_ok {createdAt : Timestamp} {decisionId : String} {sk : SortKey}
    (h : decisionSk createdAt decisionId = .ok sk) : ∃ name, sk = .decision createdAt name := by
  obtain ⟨name, -, rfl⟩ := map_ok h
  exact ⟨name, rfl⟩

theorem eventReplaySk_ok {keyHash : String} {sk : SortKey} (h : eventReplaySk keyHash = .ok sk) :
    ∃ name, sk = .eventReplay name := by
  obtain ⟨name, -, rfl⟩ := map_ok h
  exact ⟨name, rfl⟩

namespace SortKey

theorem event_ne_meta (n : Nat) : event n ≠ .metaSk :=
  nofun

theorem head_ne_meta : headSk ≠ .metaSk :=
  nofun

theorem eventReplay_ne_meta (name : String) : eventReplay name ≠ .metaSk :=
  nofun

end SortKey

theorem eventReplaySk_ne {keyHash : String} {sk : SortKey} (h : eventReplaySk keyHash = .ok sk) :
    sk ≠ .metaSk := by
  obtain ⟨name, rfl⟩ := eventReplaySk_ok h
  exact SortKey.eventReplay_ne_meta name

/-! ## Order and prefixes of event keys -/

theorem append_lt_append_left (cs : List Char) {xs ys : List Char} :
    cs ++ xs < cs ++ ys ↔ xs < ys := by
  induction cs with
  | nil => rfl
  | cons c cs ih =>
      rw [List.cons_append, List.cons_append, List.cons_lt_cons_iff, ih]
      simp

namespace SortKey

/-- Event keys are ordered by sequence number. -/
theorem event_before_iff {m n : Nat} (hm : m < 10 ^ 12) (hn : n < 10 ^ 12) :
    before (.event m) (.event n) = true ↔ m < n := by
  simp only [before, text, String.toList_append, padded_toList, decide_eq_true_eq]
  rw [append_lt_append_left, Decimal.lt_iff_of_zeros (by decide) hm hn]

/-- The event prefix selects the event keys. -/
theorem begins_event_iff (sk : SortKey) : sk.begins "EVENT#" = true ↔ ∃ n, sk = .event n := by
  cases sk <;> simp [begins, text, String.toList_append]

end SortKey

example : SortKey.text (.event 10) = "EVENT#000000000010" := by
  decide +kernel

end Manifest
