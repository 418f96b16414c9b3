import Manifest.Storage.DynamoDB

/-!
# Effect receipts in the table

A receipt has one item under its trace and key hash, put only where there is none.

Main results:

- Theorem `DynamoDBTraceStore.exec_getEffectReceipt`: what a lookup finds.
- Theorem `DynamoDBTraceStore.exec_putEffectReceipt`: what a put does where nothing is found.
-/

set_option autoImplicit false

namespace Manifest

open Interaction Fallible

def Document.decodeEffect : Document → Except PyError EffectReceipt
  | .effect r => .ok r
  | _ => mismatch "effect receipt"

namespace DynamoDBTraceStore

def receiptKeyConflict : PyError :=
  ⟨.effectReceiptConflict, "An effect idempotency key conflict occurred."⟩

/-- `get_effect_receipt`; no caller's state takes part. -/
def getEffectReceipt (traceId keyHash : String) :
    Proc DynamoOp PyError Unit (Option EffectReceipt) := do
  let pk ← Proc.ofExcept (tracePk traceId)
  let sk ← Proc.ofExcept (effectSk keyHash)
  match ← Proc.request (.getItem ⟨pk, sk⟩) with
  | none => pure none
  | some item => Proc.ofExcept ((item.decode Document.decodeEffect).map some)

/-- `put_effect_receipt`; its conditional put is a transaction of one write. -/
def putEffectReceipt (receipt : EffectReceipt) : Proc DynamoOp PyError Unit EffectReceipt := do
  let put ← Proc.ofExcept (putTraceItem receipt.traceId (effectSk receipt.keyHash) "effect"
    (.effect receipt) none)
  Proc.tryCatch
    (do
      Proc.request (.transactWriteItems [put])
      pure receipt)
    fun _ => do
      match ← getEffectReceipt receipt.traceId receipt.keyHash with
      | some existing =>
          if existing.fingerprint = receipt.fingerprint then pure existing
          else Proc.raise receiptKeyConflict
      | none => Proc.raise receiptKeyConflict

/-! ## Without failing requests -/

/-- What a table holds under a trace and a key hash. -/
def receiptIn (table : Table) (traceId keyHash : String) :
    Except PyError (Option EffectReceipt) := do
  let pk ← tracePk traceId
  let sk ← effectSk keyHash
  match table.get? ⟨pk, sk⟩ with
  | none => .ok none
  | some item => (item.decode Document.decodeEffect).map some

theorem effectSk_ok {keyHash : String} {sk : SortKey} (h : effectSk keyHash = .ok sk) :
    sk = .effect keyHash := by
  obtain ⟨name, hname, rfl⟩ := map_ok h
  unfold storageHash at hname
  split_ifs at hname
  rw [Except.ok.inj hname]

theorem receiptIn_none {table : Table} {traceId keyHash : String}
    (h : receiptIn table traceId keyHash = .ok none) :
    tracePk traceId = .ok (.trace traceId) ∧ effectSk keyHash = .ok (.effect keyHash) ∧
      table.get? ⟨.trace traceId, .effect keyHash⟩ = none := by
  obtain ⟨pk, hpk, h⟩ := bind_eq_ok_iff.mp h
  obtain ⟨sk, hsk, h⟩ := bind_eq_ok_iff.mp h
  obtain rfl := tracePk_ok hpk
  obtain rfl := effectSk_ok hsk
  refine ⟨hpk, hsk, ?_⟩
  cases hget : table.get? ⟨.trace traceId, .effect keyHash⟩ with
  | none => rfl
  | some item =>
      rw [hget] at h
      obtain ⟨receipt, -, hnone⟩ := map_ok h
      cases hnone

/-- A lookup fails for its key or for what is stored under it. -/
theorem receiptIn_error {table : Table} {traceId keyHash : String} {x : PyError}
    (h : receiptIn table traceId keyHash = .error x) : x.cls ≠ .effectReceiptConflict := by
  unfold receiptIn at h
  cases hpk : tracePk traceId with
  | error y =>
      rw [hpk] at h
      obtain rfl : y = x := Except.error.inj h
      unfold tracePk identifier at hpk
      split_ifs at hpk <;> cases hpk <;> decide
  | ok pk =>
      cases hsk : effectSk keyHash with
      | error y =>
          rw [hpk, hsk] at h
          obtain rfl : y = x := Except.error.inj h
          unfold effectSk storageHash at hsk
          split_ifs at hsk
          · cases hsk
          · cases hsk
            decide
      | ok sk =>
          rw [hpk, hsk] at h
          dsimp only [bind, Except.bind] at h
          cases hget : table.get? ⟨pk, sk⟩ with
          | none =>
              rw [hget] at h
              cases h
          | some item =>
              rw [hget] at h
              replace h : (item.decode Document.decodeEffect).map some = .error x := h
              unfold Item.decode at h
              cases hdocument : item.document with
              | none =>
                  rw [hdocument] at h
                  cases h
                  decide
              | some document =>
                  rw [hdocument] at h
                  cases document <;> cases h <;> decide

section Calm

variable {backend : Backend} (calm : ∀ n, backend.failure n = none) (db : Database)

include calm

theorem answer_calm {α : Type} (reply : α) : db.answer backend reply = (.ok reply, db.serve) := by
  unfold Database.answer
  rw [calm]

/-- A lookup finds what the table holds and changes nothing in it. -/
theorem exec_getEffectReceipt (traceId keyHash : String) :
    let r := (getEffectReceipt traceId keyHash).exec (Database.handle backend) () db
    r.result = receiptIn db.table traceId keyHash ∧ r.env.table = db.table := by
  unfold getEffectReceipt receiptIn
  simp only [Proc.exec_bind, Proc.exec_ofExcept, Proc.exec_request, Database.handle,
    answer_calm calm]
  cases tracePk traceId with
  | error x => exact ⟨rfl, rfl⟩
  | ok pk =>
      cases effectSk keyHash with
      | error x => exact ⟨rfl, rfl⟩
      | ok sk =>
          dsimp only [bind, Except.bind]
          cases db.table.get? ⟨pk, sk⟩ with
          | none => exact ⟨rfl, rfl⟩
          | some item => exact ⟨rfl, rfl⟩

/-- Where nothing is found, a put is refused for its size or stores the receipt. -/
theorem exec_putEffectReceipt {receipt : EffectReceipt}
    (hnone : receiptIn db.table receipt.traceId receipt.keyHash = .ok none) :
    let r := (putEffectReceipt receipt).exec (Database.handle backend) () db
    (∃ x, r.result = .error x ∧ x.cls = .itemSizeLimit ∧ r.env.table = db.table) ∨
      (r.result = .ok receipt ∧
        r.env.table = db.table.set ⟨.trace receipt.traceId, .effect receipt.keyHash⟩
          (traceItem receipt.traceId (.effect receipt.keyHash) "effect" (.effect receipt)
            none)) := by
  obtain ⟨hpk, hsk, hget⟩ := receiptIn_none hnone
  unfold putEffectReceipt
  simp only [Proc.exec_bind, Proc.exec_ofExcept]
  cases hput : putTraceItem receipt.traceId (effectSk receipt.keyHash) "effect"
      (.effect receipt) none with
  | error x =>
      refine .inl ⟨x, rfl, ?_, rfl⟩
      unfold putTraceItem at hput
      rw [hsk, hpk] at hput
      cases hencode : (Document.effect receipt).encode with
      | error y =>
          rw [hencode] at hput
          obtain rfl : y = x := Except.error.inj hput
          unfold Document.encode at hencode
          split at hencode
          · cases hencode
            rfl
          · cases hencode
      | ok stored =>
          rw [hencode] at hput
          cases hput
  | ok put =>
      right
      obtain ⟨key, hkey, -, rfl⟩ := putTraceItem_ok hput
      obtain rfl : key = .effect receipt.keyHash := effectSk_ok hkey
      have haccepts (item : Item) : db.table.accepts
          [.put ⟨.trace receipt.traceId, .effect receipt.keyHash⟩ item] = true := by
        simp [Table.accepts, WriteAction.holds, WriteAction.key, hget]
      simp only [Proc.exec_tryCatch, Proc.exec_bind, Proc.exec_request, Database.handle,
        Database.transact, calm, haccepts, if_true, Proc.exec_pure, true_and]
      rfl

end Calm

/-- A stored receipt is found, and every other lookup finds what it found before. -/
theorem receiptIn_set (table : Table) {receipt : EffectReceipt}
    (hnone : receiptIn table receipt.traceId receipt.keyHash = .ok none)
    (traceId keyHash : String) :
    receiptIn (table.set ⟨.trace receipt.traceId, .effect receipt.keyHash⟩
        (traceItem receipt.traceId (.effect receipt.keyHash) "effect" (.effect receipt) none))
      traceId keyHash =
        if traceId = receipt.traceId ∧ keyHash = receipt.keyHash then .ok (some receipt)
        else receiptIn table traceId keyHash := by
  obtain ⟨hpk, hsk, -⟩ := receiptIn_none hnone
  split_ifs with hsame
  · obtain ⟨rfl, rfl⟩ := hsame
    unfold receiptIn
    simp only [hpk, hsk, bind, Except.bind, Dict.get?_set_self]
    rfl
  · unfold receiptIn
    cases hpk' : tracePk traceId with
    | error x => rfl
    | ok pk =>
        cases hsk' : effectSk keyHash with
        | error x => rfl
        | ok sk =>
            obtain rfl := tracePk_ok hpk'
            obtain rfl := effectSk_ok hsk'
            have hne : (⟨.trace traceId, .effect keyHash⟩ : ItemKey) ≠
                ⟨.trace receipt.traceId, .effect receipt.keyHash⟩ := by
              intro heq
              injection heq with hpk hsk
              exact hsame ⟨PartitionKey.trace.inj hpk, SortKey.effect.inj hsk⟩
            simp only [bind, Except.bind, Dict.get?_set_ne _ _ hne]

end DynamoDBTraceStore

end Manifest
