import Manifest.Ledger.Chronology
import Manifest.Lib.Fallible
import Manifest.Storage.Keyspace

/-!
# Order and uniqueness of stored keys

Every record of the repository is stored under a key of its own: as texts, the keys of two
records differ, and the sort keys of a partition are ordered the way the repository lists the
records.

Main results:

- Theorem `SortKey.text_injective`: different sort keys have different texts.
- Theorem `StoredRecord.keys_ordered`: the keys of two records, and what the prefixes of the
  repository's queries select.
-/

set_option autoImplicit false

namespace Manifest

open Fallible

/-! ## Records and their keys -/

/-- What an item of the table is about. -/
inductive StoredRecord where
  | trace (traceId : String)
  | head (traceId : String)
  | event (traceId : String) (sequence : Nat)
  | decision (traceId : String) (createdAt : Timestamp) (decisionId : String)
  | approval (traceId approvalId : String)
  | approvalPointer (approvalId : String)
  | namespaceTrace (name traceId : String)
  | namespaceApproval (name : String) (createdAt : Timestamp) (approvalId : String)
  | eventReplay (traceId keyHash : String)
  | approvalReplay (traceId keyHash : String)
  | effect (traceId keyHash : String)
deriving DecidableEq

/-- `astimezone(timezone.utc)`. -/
def astimezone (t : Timestamp) : Except PyError Timestamp :=
  if t.InRange then .ok t else .error (.ofPython "OverflowError")

/-- The key of an item, from what it is about. -/
def itemKey (pk : Except PyError PartitionKey) (sk : Except PyError SortKey) :
    Except PyError ItemKey := do
  let pk ← pk
  let sk ← sk
  .ok ⟨pk, sk⟩

namespace StoredRecord

/-- The key a record is stored under. -/
def key : StoredRecord → Except PyError ItemKey
  | trace traceId => itemKey (tracePk traceId) (.ok .metaSk)
  | head traceId => itemKey (tracePk traceId) (.ok .headSk)
  | event traceId sequence => itemKey (tracePk traceId) (eventSk sequence)
  | decision traceId createdAt decisionId =>
      itemKey (tracePk traceId) (astimezone createdAt >>= (decisionSk · decisionId))
  | approval traceId approvalId => itemKey (tracePk traceId) (approvalSk approvalId)
  | approvalPointer approvalId => itemKey (approvalPointerPk approvalId) (.ok .pointerSk)
  | namespaceTrace name traceId => itemKey (namespacePk name) (namespaceTraceSk traceId)
  | namespaceApproval name createdAt approvalId =>
      itemKey (namespacePk name) (astimezone createdAt >>= (namespaceApprovalSk · approvalId))
  | eventReplay traceId keyHash => itemKey (tracePk traceId) (eventReplaySk keyHash)
  | approvalReplay traceId keyHash => itemKey (tracePk traceId) (approvalReplaySk keyHash)
  | effect traceId keyHash => itemKey (tracePk traceId) (effectSk keyHash)

/-- The key as it names the record, without validation. -/
def named : StoredRecord → ItemKey
  | trace traceId => ⟨.trace traceId, .metaSk⟩
  | head traceId => ⟨.trace traceId, .headSk⟩
  | event traceId sequence => ⟨.trace traceId, .event sequence⟩
  | decision traceId createdAt decisionId => ⟨.trace traceId, .decision createdAt decisionId⟩
  | approval traceId approvalId => ⟨.trace traceId, .approval approvalId⟩
  | approvalPointer approvalId => ⟨.approval approvalId, .pointerSk⟩
  | namespaceTrace name traceId => ⟨.namespaced name, .namespaceTrace traceId⟩
  | namespaceApproval name createdAt approvalId =>
      ⟨.namespaced name, .namespaceApproval createdAt approvalId⟩
  | eventReplay traceId keyHash => ⟨.trace traceId, .eventReplay keyHash⟩
  | approvalReplay traceId keyHash => ⟨.trace traceId, .approvalReplay keyHash⟩
  | effect traceId keyHash => ⟨.trace traceId, .effect keyHash⟩

end StoredRecord

/-! ## Texts of sort keys -/

namespace SortKey

/-- The parts of a sort key are within their widths, and an approval's name has no
separator. -/
def Printable : SortKey → Prop
  | event sequence => sequence < 10 ^ 12
  | decision createdAt _ => createdAt.InRange
  | namespaceApproval createdAt _ => createdAt.InRange
  | approval approvalId => '#' ∉ approvalId.toList
  | _ => True

/-- Timestamps have one length, so a text that begins with one splits in one way. -/
theorem stamped_inj {c c' : Timestamp} (hc : c.InRange) (hc' : c'.InRange) {us vs : List Char}
    (h : c.isoMicroseconds.toList ++ '#' :: us = c'.isoMicroseconds.toList ++ '#' :: vs) :
    c = c' ∧ us = vs := by
  have hlength : c.isoMicroseconds.toList.length = c'.isoMicroseconds.toList.length := by
    rw [length_isoMicroseconds hc, length_isoMicroseconds hc']
  obtain ⟨hstamp, hrest⟩ := List.append_inj h hlength
  exact ⟨(isoMicroseconds_inj hc hc').mp hstamp, (List.cons.inj hrest).2⟩

/-- Different sort keys have different texts. -/
theorem text_injective {a b : SortKey} (ha : a.Printable) (hb : b.Printable)
    (h : a.text = b.text) : a = b := by
  have hlist := congrArg String.toList h
  -- Only kinds of one heading are left after the first characters are compared.
  cases a <;> cases b <;> simp [text, String.toList_append] at hlist ⊢
  case event.event m n =>
    have hm := Decimal.ofDigitChars_zeroFilled 12 m
    rw [padded_toList, padded_toList] at hlist
    rw [hlist, Decimal.ofDigitChars_zeroFilled] at hm
    exact hm.symm
  case decision.decision =>
    obtain ⟨hcreated, hname⟩ := stamped_inj ha hb hlist
    exact ⟨hcreated, String.toList_injective hname⟩
  case approval.namespaceApproval =>
    exact ha (hlist ▸ by simp)
  case namespaceApproval.approval =>
    exact hb (hlist ▸ by simp)
  case namespaceApproval.namespaceApproval =>
    obtain ⟨hcreated, hname⟩ := stamped_inj ha hb hlist
    exact ⟨hcreated, String.toList_injective hname⟩
  all_goals exact String.toList_injective hlist

/-- Keys that begin with a timestamp compare by it, then by the name after it. -/
theorem stamped_lt_iff {c c' : Timestamp} (hc : c.InRange) (hc' : c'.InRange)
    {us vs : List Char} :
    c.isoMicroseconds.toList ++ '#' :: us < c'.isoMicroseconds.toList ++ '#' :: vs ↔
      c < c' ∨ c = c' ∧ us < vs := by
  have hlength : c.isoMicroseconds.toList.length = c'.isoMicroseconds.toList.length := by
    rw [length_isoMicroseconds hc, length_isoMicroseconds hc']
  rw [append_lt_append_iff hlength, isoMicroseconds_lt_iff hc hc', isoMicroseconds_inj hc hc',
    cons_lt_cons_same]

/-- Decision keys are ordered by time, then by name. -/
theorem decision_before_iff {c c' : Timestamp} (hc : c.InRange) (hc' : c'.InRange)
    {name name' : String} : before (.decision c name) (.decision c' name') = true ↔
      c < c' ∨ c = c' ∧ name.toList < name'.toList := by
  rw [← stamped_lt_iff hc hc']
  simp only [before, text, String.toList_append, decide_eq_true_eq, List.append_assoc]
  exact append_lt_append_left _

/-- The keys of the approvals of a namespace are ordered by time, then by name. -/
theorem namespaceApproval_before_iff {c c' : Timestamp} (hc : c.InRange) (hc' : c'.InRange)
    {name name' : String} :
    before (.namespaceApproval c name) (.namespaceApproval c' name') = true ↔
      c < c' ∨ c = c' ∧ name.toList < name'.toList := by
  rw [← stamped_lt_iff hc hc']
  simp only [before, text, String.toList_append, decide_eq_true_eq, List.append_assoc]
  exact append_lt_append_left _

theorem begins_decision_iff (sk : SortKey) :
    sk.begins "DECISION#" = true ↔ ∃ createdAt name, sk = .decision createdAt name := by
  cases sk <;> simp [begins, text, String.toList_append]

theorem begins_approval_iff (sk : SortKey) :
    sk.begins "APPROVAL#" = true ↔ (∃ approvalId, sk = .approval approvalId) ∨
      ∃ createdAt approvalId, sk = .namespaceApproval createdAt approvalId := by
  cases sk <;> simp [begins, text, String.toList_append]

end SortKey

theorem PartitionKey.text_injective {a b : PartitionKey} (h : a.text = b.text) : a = b := by
  have hlist := congrArg String.toList h
  cases a <;> cases b <;> simp [text, String.toList_append] at hlist ⊢
  all_goals exact String.toList_injective hlist

/-! ## Keys of records -/

theorem identifier_plain {value label name : String} (h : identifier value label = .ok name) :
    '#' ∉ name.toList := by
  unfold identifier at h
  split_ifs at h with hmark hnamed
  cases h
  simpa using hmark

theorem astimezone_ok {t t' : Timestamp} (h : astimezone t = .ok t') : t' = t ∧ t.InRange := by
  unfold astimezone at h
  split_ifs at h with hrange
  exact ⟨(Except.ok.inj h).symm, hrange⟩

theorem namespacePk_eq {name : String} {pk : PartitionKey} (h : namespacePk name = .ok pk) :
    pk = .namespaced name := by
  obtain ⟨valid, hvalid, rfl⟩ := map_ok h
  unfold validateNamespace at hvalid
  split_ifs at hvalid
  rw [Except.ok.inj hvalid]

theorem map_storageHash_ok {f : String → SortKey} {keyHash : String} {sk : SortKey}
    (h : (storageHash keyHash).map f = .ok sk) : sk = f keyHash := by
  obtain ⟨valid, hvalid, rfl⟩ := map_ok h
  unfold storageHash at hvalid
  split_ifs at hvalid
  rw [Except.ok.inj hvalid]

namespace StoredRecord

/-- A record's key names it, and can be printed. -/
theorem key_ok {r : StoredRecord} {k : ItemKey} (h : r.key = .ok k) :
    k = r.named ∧ k.sk.Printable := by
  cases r <;> obtain ⟨pk, hpk, h⟩ := bind_eq_ok_iff.mp h <;>
    obtain ⟨sk, hsk, h⟩ := bind_eq_ok_iff.mp h <;> obtain rfl := Except.ok.inj h
  case trace =>
    obtain rfl := tracePk_ok hpk
    obtain rfl := Except.ok.inj hsk
    exact ⟨rfl, trivial⟩
  case head =>
    obtain rfl := tracePk_ok hpk
    obtain rfl := Except.ok.inj hsk
    exact ⟨rfl, trivial⟩
  case event =>
    obtain rfl := tracePk_ok hpk
    obtain ⟨rfl, -, hlt⟩ := eventSk_ok hsk
    exact ⟨rfl, hlt⟩
  case decision =>
    obtain rfl := tracePk_ok hpk
    obtain ⟨instant, hinstant, hsorted⟩ := bind_eq_ok_iff.mp hsk
    obtain ⟨rfl, hrange⟩ := astimezone_ok hinstant
    obtain rfl := map_identifier_ok hsorted
    exact ⟨rfl, hrange⟩
  case approval =>
    obtain rfl := tracePk_ok hpk
    obtain ⟨name, hname, rfl⟩ := map_ok hsk
    have hplain := identifier_plain hname
    obtain rfl := identifier_ok hname
    exact ⟨rfl, hplain⟩
  case approvalPointer =>
    obtain rfl := map_identifier_ok hpk
    obtain rfl := Except.ok.inj hsk
    exact ⟨rfl, trivial⟩
  case namespaceTrace =>
    obtain rfl := namespacePk_eq hpk
    obtain rfl := map_identifier_ok hsk
    exact ⟨rfl, trivial⟩
  case namespaceApproval =>
    obtain rfl := namespacePk_eq hpk
    obtain ⟨instant, hinstant, hsorted⟩ := bind_eq_ok_iff.mp hsk
    obtain ⟨rfl, hrange⟩ := astimezone_ok hinstant
    obtain rfl := map_identifier_ok hsorted
    exact ⟨rfl, hrange⟩
  all_goals
    obtain rfl := tracePk_ok hpk
    obtain rfl := map_storageHash_ok hsk
    exact ⟨rfl, trivial⟩

/-- Different records have different names. -/
theorem named_injective {r r' : StoredRecord} (h : r.named = r'.named) : r = r' := by
  cases r <;> cases r' <;> simp_all [named]

/-- Records are ordered and kept apart by the texts of their keys, and the prefixes of the
queries select one kind of record in a partition. -/
theorem keys_ordered {r r' : StoredRecord} {k k' : ItemKey} (h : r.key = .ok k)
    (h' : r'.key = .ok k') :
    (∀ traceId traceId' m n, r = .event traceId m → r' = .event traceId' n →
      (k.sk.before k'.sk = true ↔ m < n)) ∧
    (∀ traceId traceId' c c' name name', r = .decision traceId c name →
      r' = .decision traceId' c' name' →
      (k.sk.before k'.sk = true ↔ c < c' ∨ c = c' ∧ name.toList < name'.toList)) ∧
    (∀ space space' c c' name name', r = .namespaceApproval space c name →
      r' = .namespaceApproval space' c' name' →
      (k.sk.before k'.sk = true ↔ c < c' ∨ c = c' ∧ name.toList < name'.toList)) ∧
    (k.pk.text = k'.pk.text → k.sk.text = k'.sk.text → r = r') ∧
    (∀ traceId pk, tracePk traceId = .ok pk →
      ((k.pk.text = pk.text ∧ k.sk.begins "EVENT#" = true) ↔ ∃ n, r = .event traceId n) ∧
      ((k.pk.text = pk.text ∧ k.sk.begins "DECISION#" = true) ↔
        ∃ c name, r = .decision traceId c name) ∧
      ((k.pk.text = pk.text ∧ k.sk.begins "APPROVAL#" = true) ↔
        ∃ name, r = .approval traceId name)) ∧
    (∀ space pk, namespacePk space = .ok pk →
      ((k.pk.text = pk.text ∧ k.sk.begins "APPROVAL#" = true) ↔
        ∃ c name, r = .namespaceApproval space c name)) := by
  obtain ⟨rfl, hprintable⟩ := key_ok h
  obtain ⟨rfl, hprintable'⟩ := key_ok h'
  refine ⟨?_, ?_, ?_, ?_, ?_, ?_⟩
  · rintro traceId traceId' m n rfl rfl
    exact SortKey.event_before_iff hprintable hprintable'
  · rintro traceId traceId' c c' name name' rfl rfl
    exact SortKey.decision_before_iff hprintable hprintable'
  · rintro space space' c c' name name' rfl rfl
    exact SortKey.namespaceApproval_before_iff hprintable hprintable'
  · intro hpk hsk
    apply named_injective
    have hpartition := PartitionKey.text_injective hpk
    have hsort := SortKey.text_injective hprintable hprintable' hsk
    generalize r.named = k at hpartition hsort
    generalize r'.named = k' at hpartition hsort
    cases k
    cases k'
    exact congrArg₂ ItemKey.mk hpartition hsort
  · intro traceId pk hpk
    obtain rfl := tracePk_ok hpk
    have hiff : r.named.pk.text = (PartitionKey.trace traceId).text ↔
        r.named.pk = .trace traceId := ⟨PartitionKey.text_injective, congrArg _⟩
    rw [hiff, SortKey.begins_event_iff, SortKey.begins_decision_iff, SortKey.begins_approval_iff]
    cases r <;> simp [named]
  · intro space pk hpk
    obtain rfl := namespacePk_eq hpk
    have hiff : r.named.pk.text = (PartitionKey.namespaced space).text ↔
        r.named.pk = .namespaced space := ⟨PartitionKey.text_injective, congrArg _⟩
    rw [hiff, SortKey.begins_approval_iff]
    cases r <;> simp [named]

/-- Two events of one trace. -/
theorem keys_ordered_events :
    ((SortKey.event 2).before (.event 10) = true ↔ 2 < 10) ∧
      ((PartitionKey.trace "TR-1").text = (PartitionKey.trace "TR-1").text →
        (SortKey.event 2).text = (SortKey.event 10).text →
          event "TR-1" 2 = event "TR-1" 10) := by
  have hfirst : key (.event "TR-1" 2) = .ok ⟨.trace "TR-1", .event 2⟩ := by decide +kernel
  have hsecond : key (.event "TR-1" 10) = .ok ⟨.trace "TR-1", .event 10⟩ := by decide +kernel
  have hordered := keys_ordered hfirst hsecond
  exact ⟨hordered.1 "TR-1" "TR-1" 2 10 rfl rfl, hordered.2.2.2.1⟩

end StoredRecord

end Manifest
