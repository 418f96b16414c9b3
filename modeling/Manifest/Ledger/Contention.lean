import Manifest.Approvals
import Manifest.Demo
import Manifest.Lib.Interleaving
import Mathlib.Data.List.Perm.Basic

/-!
# Two callers that replace one approval

Each caller reads the approval and replaces it by a record of its own, one version later.
The repository accepts a record at the stored version or one above it.

Main results:

- Theorem `replaceApproval_ok_iff`: which replacements are accepted.
- Theorem `replaced_by_both`: two callers that read the same version both succeed, and the
  later record stays.
-/

set_option autoImplicit false

namespace Manifest

open Interaction

namespace MemoryTraceStore

/-- A replacement is accepted at the stored version or one above it. -/
theorem replaceApproval_ok_iff (store : MemoryTraceStore) (approval : ApprovalRecord) :
    (store.replaceApproval approval).1 = .ok () ↔
      ∃ current, store.approvals.get? approval.approvalId = some current ∧
        (approval.version = current.version ∨ approval.version = current.version + 1) := by
  unfold replaceApproval
  cases store.approvals.get? approval.approvalId with
  | none => simp
  | some current =>
      simp only [Option.some.injEq, exists_eq_left']
      split_ifs with hversion
      · simp only [ne_eq, decide_not, Bool.and_eq_true, Bool.not_eq_true',
          decide_eq_false_iff_not] at hversion
        simp only [false_iff]
        omega
      · simp only [ne_eq, decide_not, Bool.and_eq_true, Bool.not_eq_true',
          decide_eq_false_iff_not, not_and, not_not] at hversion
        simp only [true_iff]
        omega

/-- An accepted record is stored under its identifier; nothing else changes. -/
theorem replaceApproval_of_accepted {store : MemoryTraceStore}
    {approval current : ApprovalRecord}
    (hget : store.approvals.get? approval.approvalId = some current)
    (hversion : approval.version = current.version ∨
      approval.version = current.version + 1) :
    store.replaceApproval approval = (.ok (),
      { store with approvals := store.approvals.set approval.approvalId approval }) := by
  unfold replaceApproval
  have hconflict : (current.version ≠ approval.version &&
      current.version ≠ approval.version - 1) = false := by
    rw [Bool.and_eq_false_iff]
    simp only [ne_eq, decide_not, Bool.not_eq_false', decide_eq_true_eq]
    omega
  simp only [hget, hconflict, Bool.false_eq_true, if_false]

end MemoryTraceStore

/-! ## The callers -/

/-- A caller's answer: what it read and the reply to its write. -/
abbrev Replaced := Option (ApprovalRecord × Except PyError Unit)

/-- Write the caller's own record of what it read. -/
def replaceRead (own : ApprovalRecord → ApprovalRecord) (read : ApprovalRecord) :
    Prog Op Replaced :=
  .op (.replaceApproval (own read)) fun reply => .pure (some (read, reply))

/-- Read an approval and replace it. -/
def readAndReplace (approvalId : String) (own : ApprovalRecord → ApprovalRecord) :
    Prog Op Replaced :=
  .op (.getApproval approvalId) fun found =>
    match found with
    | .ok read => replaceRead own read
    | .error _ => .pure none

/-- Two callers on one repository. -/
def callers (approvalId : String) (own : Bool → ApprovalRecord → ApprovalRecord) (w : World) :
    Pool Op World Bool Replaced :=
  ⟨fun caller => readAndReplace approvalId (own caller), w⟩

section Callers

variable [Sha256] (loader : FixtureLoader) (host : Host)

/-- Each caller takes its turns in the same repository. -/
abbrev contend (turns : List Bool) (pool : Pool Op World Bool Replaced) :
    Pool Op World Bool Replaced :=
  pool.play (fun _ => World.handle loader host) turns

variable {approvalId : String} {own : Bool → ApprovalRecord → ApprovalRecord}
  {current : ApprovalRecord} (pool : Pool Op World Bool Replaced) (caller : Bool)

/-- A turn that reads. -/
theorem turn_read (hthread : pool.threads caller = readAndReplace approvalId (own caller))
    (hget : pool.env.store.approvals.get? approvalId = some current) :
    pool.turn (fun _ => World.handle loader host) caller =
      { pool with
        threads := Function.update pool.threads caller (replaceRead (own caller) current) } := by
  have hreply : pool.env.store.getApproval approvalId = .ok current := by
    rw [MemoryTraceStore.getApproval, hget]
  unfold Pool.turn
  rw [hthread]
  simp only [readAndReplace, Pool.advance, World.handle, hreply]

/-- A turn that replaces. -/
theorem turn_replace {read : ApprovalRecord}
    (hthread : pool.threads caller = replaceRead (own caller) read)
    (hget : pool.env.store.approvals.get? (own caller read).approvalId = some current)
    (hversion : (own caller read).version = current.version ∨
      (own caller read).version = current.version + 1) :
    pool.turn (fun _ => World.handle loader host) caller =
      { threads := Function.update pool.threads caller (.pure (some (read, .ok ())))
        env := { pool.env with store := { pool.env.store with
          approvals := pool.env.store.approvals.set (own caller read).approvalId
            (own caller read) } } } := by
  unfold Pool.turn
  rw [hthread]
  simp only [replaceRead, Pool.advance, World.handle,
    MemoryTraceStore.replaceApproval_of_accepted hget hversion]

/-- A caller that has read answers with what it read, whatever becomes of its write. -/
theorem answers_read {read : ApprovalRecord} {turns : List Bool} {answer : Replaced}
    (hthread : pool.threads caller = replaceRead (own caller) read)
    (hdone : (contend loader host turns pool).threads caller = .pure answer) :
    answer.map Prod.fst = some read := by
  induction turns generalizing pool with
  | nil => cases hthread.symm.trans hdone
  | cons next rest ih =>
      by_cases hnext : next = caller
      · subst hnext
        have hfinished : (pool.turn (fun _ => World.handle loader host) next).threads next =
            .pure (some (read, (pool.env.store.replaceApproval (own next read)).1)) := by
          simp only [Pool.turn, hthread, replaceRead, Pool.advance, World.handle,
            Function.update_self]
        rw [← Prog.pure.inj ((Pool.play_finished _ hfinished rest).symm.trans hdone)]
        rfl
      · refine ih (pool.turn (fun _ => World.handle loader host) next) ?_ hdone
        rw [← hthread]
        unfold Pool.turn
        cases pool.threads next with
        | pure _ => rfl
        | op o k => exact Function.update_of_ne (Ne.symm hnext) _ _

omit [Sha256] in
/-- Something for either caller, in either order. -/
theorem update_both {α : Type 1} (f : Bool → α) (first : Bool) (x y : α) :
    Function.update (Function.update f first x) (!first) y =
      fun caller => if caller = first then x else y := by
  funext caller
  cases first <;> cases caller <;> rfl

variable {w : World}

/-- Both callers have read. -/
theorem play_read (hget : w.store.approvals.get? approvalId = some current) (first : Bool) :
    contend loader host [first, !first] (callers approvalId own w) =
      ⟨fun caller => replaceRead (own caller) current, w⟩ := by
  simp only [contend, Pool.play]
  rw [turn_read loader host (callers approvalId own w) first rfl hget,
    turn_read loader host _ (!first) (by cases first <;> rfl) hget]
  dsimp only
  rw [update_both]
  refine congrArg (Pool.mk · w) (funext fun caller => ?_)
  cases first <;> cases caller <;> rfl

/-- Both callers have read and now both replace: both succeed and the later record stays. -/
theorem play_replace (hget : w.store.approvals.get? approvalId = some current)
    (hown : ∀ caller, (own caller current).approvalId = approvalId ∧
      (own caller current).version = current.version + 1) (third : Bool) :
    let final := contend loader host [third, !third]
      ⟨fun caller => replaceRead (own caller) current, w⟩
    (∀ caller, final.threads caller = .pure (some (current, .ok ()))) ∧
      final.env.store.approvals.get? approvalId = some (own (!third) current) := by
  have hfirst := hown third
  have hsecond := hown (!third)
  simp only [contend, Pool.play]
  rw [turn_replace loader host _ third rfl (hfirst.1.symm ▸ hget) (.inr hfirst.2),
    turn_replace loader host _ (!third) (by cases third <;> rfl)
      (hsecond.1.trans hfirst.1.symm ▸ Dict.get?_set_self _ _ _)
      (.inl (hsecond.2.trans hfirst.2.symm))]
  dsimp only
  rw [update_both, hsecond.1, Dict.get?_set_self]
  exact ⟨fun caller => ite_self _, rfl⟩

/-- One caller has replaced before the other reads: the other reads what was written. -/
theorem play_reread (hget : w.store.approvals.get? approvalId = some current) (first : Bool)
    (hown : (own first current).approvalId = approvalId ∧
      (own first current).version = current.version + 1) :
    (contend loader host [first, first, !first] (callers approvalId own w)).threads (!first) =
      replaceRead (own (!first)) (own first current) := by
  simp only [contend, Pool.play]
  rw [turn_read loader host (callers approvalId own w) first rfl hget,
    turn_replace loader host _ first (Function.update_self first _ _) (hown.1.symm ▸ hget)
      (.inr hown.2),
    hown.1, turn_read loader host _ (!first) (by cases first <;> rfl)
      (Dict.get?_set_self w.store.approvals approvalId (own first current))]
  exact Function.update_self _ _ _

/-- A caller that finds no approval reads nothing. -/
theorem play_absent (hget : w.store.approvals.get? approvalId = none) (first : Bool)
    (rest : List Bool) :
    (contend loader host (first :: rest) (callers approvalId own w)).threads first =
      .pure none := by
  have hreply : w.store.getApproval approvalId =
      .error ⟨.approvalNotFound, s!"Approval {approvalId} was not found."⟩ := by
    rw [MemoryTraceStore.getApproval, hget]
  refine Pool.play_finished _ ?_ rest
  simp only [Pool.turn, callers, readAndReplace, Pool.advance, World.handle, hreply,
    Function.update_self]

omit [Sha256] in
/-- The orders in which each of two callers takes two turns. -/
theorem orders_of_perm {turns : List Bool} (h : turns.Perm [false, false, true, true]) :
    (∃ first third, turns = [first, !first, third, !third]) ∨
      ∃ first, turns = [first, first, !first, !first] := by
  obtain ⟨first, second, third, fourth, rfl⟩ : ∃ a b c d, turns = [a, b, c, d] := by
    match turns, h.length_eq with
    | [a, b, c, d], _ => exact ⟨a, b, c, d, rfl⟩
  have hcount := h.count_eq true
  revert hcount
  clear h
  revert first second third fourth
  decide

variable (approvalId own w) in
/-- Two callers that each read the approval at one version and replace it by a record one
version later both succeed, in every order of their calls, and the record of the caller that
writes last stays. -/
theorem replaced_by_both {turns : List Bool} (hturns : turns.Perm [false, false, true, true])
    (read : Bool → ApprovalRecord) (reply : Bool → Except PyError Unit) (version : Int)
    (hdone : ∀ caller, (contend loader host turns (callers approvalId own w)).threads caller =
      .pure (some (read caller, reply caller)))
    (hread : ∀ caller, (read caller).version = version)
    (hown : ∀ caller, (own caller (read caller)).approvalId = approvalId ∧
      (own caller (read caller)).version = version + 1) :
    (∀ caller, reply caller = .ok ()) ∧
      ∃ last, turns.getLast? = some last ∧
        (contend loader host turns (callers approvalId own w)).env.store.approvals.get?
          approvalId = some (own last (read last)) := by
  cases hget : w.store.approvals.get? approvalId with
  | none =>
      obtain ⟨first, rest, rfl⟩ : ∃ first rest, turns = first :: rest := by
        rcases orders_of_perm hturns with ⟨first, third, rfl⟩ | ⟨first, rfl⟩ <;> exact ⟨_, _, rfl⟩
      have habsent := (hdone first).symm.trans (play_absent loader host hget first rest)
      exact absurd (Prog.pure.inj habsent) (Option.some_ne_none _)
  | some current =>
      rcases orders_of_perm hturns with ⟨first, third, rfl⟩ | ⟨first, rfl⟩
      · -- Both read before either writes: the second write meets its own version.
        have hplay : contend loader host [first, !first, third, !third]
            (callers approvalId own w) = contend loader host [third, !third]
              ⟨fun caller => replaceRead (own caller) current, w⟩ := by
          rw [← play_read loader host hget first]
          rfl
        rw [hplay] at hdone ⊢
        have hcurrent (caller : Bool) : read caller = current :=
          Option.some.inj (answers_read loader host _ caller rfl (hdone caller))
        have hversion : version = current.version := by
          rw [← hread true, hcurrent]
        simp only [hcurrent, hversion] at hown ⊢
        obtain ⟨hthreads, hstored⟩ := play_replace loader host hget hown third
        refine ⟨fun caller => ?_, !third, rfl, hstored⟩
        exact congrArg Prod.snd (Option.some.inj
          (Prog.pure.inj ((hdone caller).symm.trans (hthreads caller))))
      · -- One writes before the other reads: the other reads a later version.
        have hfirst : read first = current := by
          have hthread := congrArg (Pool.threads · first)
            (turn_read loader host (callers approvalId own w) first rfl hget)
          exact Option.some.inj (answers_read loader host
            ((callers approvalId own w).turn (fun _ => World.handle loader host) first) first
            (hthread.trans (Function.update_self _ _ _)) (hdone first))
        have hownFirst := hown first
        rw [hfirst, ← hread first, hfirst] at hownFirst
        have hsecond : read (!first) = own first current :=
          Option.some.inj (answers_read loader host _ (!first)
            (play_reread loader host hget first hownFirst) (hdone (!first)))
        have hversion := (hread first).trans (hread (!first)).symm
        rw [hfirst, hsecond, hownFirst.2] at hversion
        omega

end Callers

namespace Demo

/-- A pending approval of the demo booking. -/
def contested : ApprovalRecord :=
  { approvalId := "APR-1", traceId := "TRACE-1"
    preparedActionId := "PREP-ORD-8842-QUOTE-COLD-01", actionHash := "", stateHash := ""
    policyVersion := "demo-v1", reasonCode := "SPEND_APPROVAL_REQUIRED"
    status := .pendingApproval, createdAt := 0, expiresAt := 900 }

/-- A repository that holds the demo run and the pending approval. -/
def contesting : World :=
  { store := ((MemoryTraceStore.createRun {} started 0).2.addApproval started contested).2 }

/-- One caller approves, the other rejects. -/
def opposed (approver : Bool) (read : ApprovalRecord) : ApprovalRecord :=
  ApprovalLifecycle.resolve read
    ⟨bif approver then .approve else .reject, "manager@example.com", none, read.version,
      bif approver then "approve-1" else "reject-1"⟩ 60

end Demo

/-- The approver reads first and writes first. -/
theorem replaced_by_both_opposed :
    ∃ last, [true, false, true, false].getLast? = some last ∧
      (contend Demo.loader Demo.host [true, false, true, false]
        (callers "APR-1" Demo.opposed Demo.contesting)).env.store.approvals.get? "APR-1" =
          some (Demo.opposed last Demo.contested) :=
  (replaced_by_both Demo.loader Demo.host "APR-1" Demo.opposed Demo.contesting (by decide)
    (fun _ => Demo.contested) (fun _ => .ok ()) 1 (by rintro (_ | _) <;> rfl) (fun _ => rfl)
    (fun _ => ⟨rfl, rfl⟩)).2

/-- Both calls succeed, and the rejection replaces an approval that was already decided. -/
theorem decided_replaced :
    let play := fun turns => contend Demo.loader Demo.host turns
      (callers "APR-1" Demo.opposed Demo.contesting)
    ((play [true, false, true]).env.store.approvals.get? "APR-1").map (·.status) =
        some .approved ∧
      (∀ caller, (play [true, false, true, false]).threads caller =
        .pure (some (Demo.contested, .ok ()))) ∧
      ((play [true, false, true, false]).env.store.approvals.get? "APR-1").map (·.status) =
        some .rejected :=
  ⟨rfl, by rintro (_ | _) <;> rfl, rfl⟩

end Manifest
