import Manifest.Governor.Stages
import Manifest.Lib.Relational

/-!
# Twin runs

Two runs of one state in shadow mode, under any two policy engines, differ in what the
engines said: in the decisions and the events that report them, and nothing else.

Main results:

- Definition `Twin`: what two shadow runs share.
- Theorems `Twin.appendEvent` and `Twin.appendDecision`: writing to the ledger keeps it.
-/

set_option autoImplicit false

namespace Manifest

open Interaction

/-! ## Keys of ledger events -/

/-- The idempotency key of the event that reports a proposal's decision. -/
def decisionKey (proposalId : String) : String :=
  s!"proposal:{proposalId}:decision"

theorem decisionKey_injective {p q : String} (h : decisionKey p = decisionKey q) : p = q := by
  have htext : "proposal:" ++ p ++ ":decision" = "proposal:" ++ q ++ ":decision" := h
  have hlist := congrArg String.toList htext
  simp only [String.toList_append] at hlist
  have hprefix := List.append_cancel_right hlist
  exact String.toList_injective (List.append_cancel_left hprefix)

theorem ne_decisionKey {text ending : String} (hending : ending.toList.getLast? = some 'd')
    (q : String) : text ++ ending ≠ decisionKey q := by
  intro h
  have htext : text ++ ending = "proposal:" ++ q ++ ":decision" := h
  have hlast := congrArg (fun t : String => t.toList.getLast?) htext
  simp only [String.toList_append, List.getLast?_append, hending] at hlast
  simp at hlast

/-! ## Twins -/

/-- What two stores hold under an idempotency key: the same, or the reports of a decision. -/
def AlikeReplays (key : String) :
    Option (String × TraceEvent) → Option (String × TraceEvent) → Prop
  | none, none => True
  | some first, some second => (∃ p, key = decisionKey p) ∨ first.1 = second.1
  | _, _ => False

theorem AlikeReplays.refl (key : String) (replay : Option (String × TraceEvent)) :
    AlikeReplays key replay replay := by
  cases replay with
  | none => trivial
  | some first => exact .inr rfl

theorem AlikeReplays.none_iff {key : String} {first second : Option (String × TraceEvent)}
    (h : AlikeReplays key first second) : second = none ↔ first = none := by
  cases first <;> cases second <;> simp_all [AlikeReplays]

/-- Two runs in shadow mode that differ in ledger contents only, with one set of approvals. -/
structure Twin (host : Host) (approvals : Dict String ApprovalRecord) (s : TrajectoryState)
    (w : World) (s' : TrajectoryState) (w' : World) : Prop where
  mode_ne : s.mode ≠ .enforce
  outside_eq : ∃ ledger, s' = s.withLedger ledger
  sequence_eq : s'.nextSequence = s.nextSequence
  revision_eq : s'.storageRevision = s.storageRevision
  decisionIds_eq : s'.decisions.map (·.decisionId) = s.decisions.map (·.decisionId)
  mocks_eq : w'.mocks = w.mocks
  ticks_eq : w'.ticks = w.ticks
  receipts_eq : w'.store.effectReceipts = w.store.effectReceipts
  approvals_eq : w.store.approvals = approvals
  approvals_eq' : w'.store.approvals = approvals
  runs_eq : ∀ traceId, (w'.store.runs.get? traceId).map (·.storageRevision) =
    (w.store.runs.get? traceId).map (·.storageRevision)
  heads_eq : ∀ traceId, (w'.store.heads.get? traceId).map (·.sequence) =
    (w.store.heads.get? traceId).map (·.sequence)
  replays : ∀ traceId key, AlikeReplays key (w.store.eventReplays.get? (traceId, key))
    (w'.store.eventReplays.get? (traceId, key))
  drawn : ∀ traceId key, w.store.eventReplays.get? (traceId, key) ≠ none →
    ∀ scope n, key = decisionKey ("PROP-" ++ host.uuid4 scope n) → n < w.ticks scope

namespace Twin

variable {host : Host} {approvals : Dict String ApprovalRecord} {s s' : TrajectoryState}
  {w w' : World}

theorem traceId_eq (h : Twin host approvals s w s' w') : s'.traceId = s.traceId := by
  obtain ⟨ledger, rfl⟩ := h.outside_eq
  rfl

/-- Moving both states the same way outside the ledger. -/
theorem move (h : Twin host approvals s w s' w') {t t' : TrajectoryState}
    (houtside : ∃ ledger, t' = t.withLedger ledger) (hledger : t.ledger = s.ledger)
    (hledger' : t'.ledger = s'.ledger) (hmode : t.mode = s.mode) :
    Twin host approvals t w t' w' := by
  injection hledger with _ hsequence hdecisions hrevision
  injection hledger' with _ hsequence' hdecisions' hrevision'
  exact { h with
    mode_ne := by rw [hmode]; exact h.mode_ne
    outside_eq := houtside
    sequence_eq := by rw [hsequence, hsequence', h.sequence_eq]
    revision_eq := by rw [hrevision, hrevision', h.revision_eq]
    decisionIds_eq := by rw [hdecisions, hdecisions', h.decisionIds_eq] }

/-- Drawing from a supply of the same scope. -/
theorem tick (h : Twin host approvals s w s' w') (scope : String) :
    Twin host approvals s (w.tick scope) s' (w'.tick scope) :=
  { h with
    ticks_eq := by simp only [World.tick, h.ticks_eq]
    drawn := fun traceId key hsome other n hkey =>
      lt_of_lt_of_le (h.drawn traceId key hsome other n hkey) (World.ticks_le_tick w scope other) }

/-! ### The repository -/

theorem assertRevision_eq (h : Twin host approvals s w s' w') :
    w'.store.assertRevision s' = w.store.assertRevision s := by
  have hrun := h.runs_eq s.traceId
  unfold MemoryTraceStore.assertRevision
  rw [h.traceId_eq, h.revision_eq]
  cases hstored : w.store.runs.get? s.traceId with
  | none =>
      rw [hstored, Option.map_none, Option.map_eq_none_iff] at hrun
      rw [hrun]
  | some stored =>
      rw [hstored, Option.map_some, Option.map_eq_some_iff] at hrun
      obtain ⟨stored', hstored', heq⟩ := hrun
      rw [hstored']
      simp only [heq]

theorem contains_eq (h : Twin host approvals s w s' w') (traceId : String) :
    w'.store.runs.contains traceId = w.store.runs.contains traceId := by
  have hrun := congrArg Option.isSome (h.runs_eq traceId)
  simpa only [Dict.contains, Option.isSome_map] using hrun

/-- Two descriptions of one event: the same, under a key that reports no decision, or the
reports of one decision, under a key drawn for it and not used yet. -/
inductive Described (host : Host) (s : TrajectoryState) (w : World) (spec spec' : EventSpec) :
    Prop where
  | same (spec_eq : spec' = spec)
      (plain : ∀ key, spec.idempotencyKey = some key → ∀ p, key ≠ decisionKey p)
  | decided (scope : String) (n : Nat)
      (key_eq : spec.idempotencyKey = some (decisionKey ("PROP-" ++ host.uuid4 scope n)))
      (key_eq' : spec'.idempotencyKey = some (decisionKey ("PROP-" ++ host.uuid4 scope n)))
      (drawn : n < w.ticks scope)
      (unused : w.store.eventReplays.get?
        (s.traceId, decisionKey ("PROP-" ++ host.uuid4 scope n)) = none)

theorem Described.key_eq_key {spec spec' : EventSpec} (hd : Described host s w spec spec') :
    spec'.idempotencyKey = spec.idempotencyKey := by
  cases hd with
  | same spec_eq plain => rw [spec_eq]
  | decided scope n key_eq key_eq' drawn unused => rw [key_eq, key_eq']

theorem Described.tick {spec spec' : EventSpec} (hd : Described host s w spec spec')
    (scope : String) : Described host s (w.tick scope) spec spec' := by
  cases hd with
  | same spec_eq plain => exact .same spec_eq plain
  | decided other n key_eq key_eq' drawn unused =>
      exact .decided other n key_eq key_eq'
        (lt_of_lt_of_le drawn (World.ticks_le_tick w scope other)) unused

variable [Sha256]

omit [Sha256] in
/-- Both runs find no replay, or replays with the same fingerprint for the same event. -/
theorem findReplay_cases (h : Twin host approvals s w s' w') {spec spec' : EventSpec}
    (hd : Described host s w spec spec') :
    (w.store.findReplay s spec = none ∧ w'.store.findReplay s' spec' = none) ∨
    (spec' = spec ∧ ∃ key fingerprint event event',
      w.store.findReplay s spec = some (key, fingerprint, event) ∧
        w'.store.findReplay s' spec = some (key, fingerprint, event')) := by
  unfold MemoryTraceStore.findReplay
  rw [hd.key_eq_key]
  cases hkey : spec.idempotencyKey with
  | none => exact .inl ⟨rfl, rfl⟩
  | some key =>
      have halike := h.replays s.traceId key
      simp only [h.traceId_eq]
      cases hfound : w.store.eventReplays.get? (s.traceId, key) with
      | none =>
          rw [hfound] at halike
          rw [(halike.none_iff).mpr rfl]
          exact .inl ⟨rfl, rfl⟩
      | some replay =>
          rw [hfound] at halike
          cases hd with
          | decided scope n key_eq key_eq' drawn unused =>
              obtain rfl := Option.some.inj (hkey.symm.trans key_eq)
              rw [hfound] at unused
              cases unused
          | same spec_eq plain =>
              cases hfound' : w'.store.eventReplays.get? (s.traceId, key) with
              | none =>
                  rw [hfound'] at halike
                  exact halike.elim
              | some replay' =>
                  rw [hfound'] at halike
                  rcases halike with ⟨p, hp⟩ | hfingerprint
                  · exact absurd hp (plain key hkey p)
                  · refine .inr ⟨spec_eq, key, replay.1, replay.2, replay'.2, rfl, ?_⟩
                    rw [hfingerprint]
                    rfl

/-- Committing events of one sequence number. -/
theorem commit (h : Twin host approvals s w s' w') {spec spec' : EventSpec}
    (hd : Described host s w spec spec') {event event' : TraceEvent}
    (hsequence : event'.sequence = event.sequence) :
    let reply := w.store.commitEvent s event spec
    let reply' := w'.store.commitEvent s' event' spec'
    Twin host approvals reply.1.2 { w with store := reply.2 } reply'.1.2
      { w' with store := reply'.2 } := by
  obtain ⟨ledger, hs'⟩ := h.outside_eq
  have htrace := h.traceId_eq
  exact {
    mode_ne := h.mode_ne
    outside_eq := by
      rw [hs']
      exact ⟨(w'.store.commitEvent (s.withLedger ledger) event' spec').1.2.ledger, rfl⟩
    sequence_eq := congrArg (· + 1) hsequence
    revision_eq := congrArg (· + 1) h.revision_eq
    decisionIds_eq := h.decisionIds_eq
    mocks_eq := h.mocks_eq
    ticks_eq := h.ticks_eq
    receipts_eq := h.receipts_eq
    approvals_eq := h.approvals_eq
    approvals_eq' := h.approvals_eq'
    runs_eq := fun traceId => by
      simp only [MemoryTraceStore.commitEvent, MemoryTraceStore.persistState,
        MemoryTraceStore.withEvent, Dict.get?_set, htrace]
      split
      · exact congrArg some (congrArg (· + 1) h.revision_eq)
      · exact h.runs_eq traceId
    heads_eq := fun traceId => by
      simp only [MemoryTraceStore.commitEvent, MemoryTraceStore.persistState,
        MemoryTraceStore.withEvent, Dict.get?_set, htrace]
      split
      · exact congrArg some hsequence
      · exact h.heads_eq traceId
    replays := fun traceId key => by
      simp only [MemoryTraceStore.commitEvent, MemoryTraceStore.persistState,
        MemoryTraceStore.withEvent, hd.key_eq_key, htrace]
      cases hkey : spec.idempotencyKey with
      | none => exact h.replays traceId key
      | some used =>
          simp only [Dict.get?_set]
          split
          · rename_i hpair
            obtain ⟨rfl, rfl⟩ := Prod.mk.inj hpair
            cases hd with
            | same spec_eq plain => exact .inr (by rw [spec_eq])
            | decided scope n key_eq key_eq' drawn unused =>
                exact .inl ⟨_, Option.some.inj (hkey.symm.trans key_eq)⟩
          · exact h.replays traceId key
    drawn := fun traceId key => by
      simp only [MemoryTraceStore.commitEvent, MemoryTraceStore.persistState,
        MemoryTraceStore.withEvent]
      cases hkey : spec.idempotencyKey with
      | none => exact h.drawn traceId key
      | some used =>
          simp only [Dict.get?_set]
          split
          · rename_i hpair
            obtain ⟨rfl, rfl⟩ := Prod.mk.inj hpair
            intro _ scope n hn
            cases hd with
            | same spec_eq plain => exact absurd hn (plain key hkey _)
            | decided other m key_eq key_eq' drawn unused =>
                obtain rfl := Option.some.inj (hkey.symm.trans key_eq)
                have hprop := decisionKey_injective hn
                have hlist := congrArg String.toList hprop
                simp only [String.toList_append] at hlist
                have huuid := String.toList_injective (List.append_cancel_left hlist)
                obtain ⟨rfl, rfl⟩ := host.uuid4_injective huuid
                exact drawn
          · exact h.drawn traceId key }

/-- Appending an event both runs describe. -/
theorem appendEvent (h : Twin host approvals s w s' w') (loader : FixtureLoader)
    {spec spec' : EventSpec} (hd : Described host s w spec spec') :
    let reply := World.handle loader host _ (.appendEvent s spec) w
    let reply' := World.handle loader host _ (.appendEvent s' spec') w'
    Lockstep (Twin host approvals) (Twin host approvals) (fun _ _ => True)
      ⟨reply.1.1, s.withLedger reply.1.2, reply.2⟩
      ⟨reply'.1.1, s'.withLedger reply'.1.2, reply'.2⟩ := by
  have htick := h.tick s.traceId
  simp only [World.handle, World.written, h.traceId_eq]
  unfold MemoryTraceStore.appendEvent
  rw [h.assertRevision_eq]
  cases w.store.assertRevision s with
  | error x => exact .error x htick
  | ok u =>
      rcases h.findReplay_cases hd with ⟨hnone, hnone'⟩ |
        ⟨rfl, key, fingerprint, event, event', hsome, hsome'⟩
      · simp only [hnone, hnone', h.traceId_eq]
        have hhead := h.heads_eq s.traceId
        cases hfound : w.store.heads.get? s.traceId with
        | none =>
            rw [hfound, Option.map_none, Option.map_eq_none_iff] at hhead
            rw [hhead]
            exact .error _ htick
        | some head =>
            rw [hfound, Option.map_some, Option.map_eq_some_iff] at hhead
            obtain ⟨head', hfound', hsequence⟩ := hhead
            rw [hfound']
            dsimp only
            rw [h.sequence_eq, hsequence]
            split
            · exact .error _ htick
            · exact .ok trivial (htick.commit (hd.tick s.traceId) (congrArg (· + 1) hsequence))
      · simp only [hsome, hsome', h.traceId_eq]
        split
        · exact .error _ htick
        · exact .ok trivial htick

/-- Appending decisions of one identifier. -/
theorem appendDecision (h : Twin host approvals s w s' w') (loader : FixtureLoader)
    {decision decision' : Decision} (hid : decision'.decisionId = decision.decisionId) :
    let reply := World.handle loader host _ (.appendDecision s decision) w
    let reply' := World.handle loader host _ (.appendDecision s' decision') w'
    Lockstep (Twin host approvals) (Twin host approvals) (fun _ _ => True)
      ⟨reply.1.1, s.withLedger reply.1.2, reply.2⟩
      ⟨reply'.1.1, s'.withLedger reply'.1.2, reply'.2⟩ := by
  have hlisted : s'.decisions.any (fun item => item.decisionId = decision'.decisionId) =
      s.decisions.any (fun item => item.decisionId = decision.decisionId) := by
    have hany (t : TrajectoryState) (id : String) :
        t.decisions.any (fun item => decide (item.decisionId = id)) =
          (t.decisions.map (·.decisionId)).any fun other => decide (other = id) := by
      rw [List.any_map]
      rfl
    rw [hany, hany, h.decisionIds_eq, hid]
  obtain ⟨ledger, hs'⟩ := h.outside_eq
  simp only [World.handle, World.written]
  unfold MemoryTraceStore.appendDecision
  rw [h.assertRevision_eq, hlisted, hid]
  cases w.store.assertRevision s with
  | error x => exact .error x h
  | ok u =>
      dsimp only
      split
      · exact .error _ h
      · refine .ok trivial ?_
        exact { h with
          outside_eq := by
            rw [hs']
            exact ⟨⟨ledger.events, ledger.nextSequence, ledger.decisions ++ [decision'],
              ledger.storageRevision + 1⟩, rfl⟩
          revision_eq := congrArg (· + 1) h.revision_eq
          decisionIds_eq := by
            show (s'.decisions ++ [decision']).map (·.decisionId) =
              (s.decisions ++ [decision]).map (·.decisionId)
            rw [List.map_append, List.map_append, h.decisionIds_eq]
            simp only [List.map_cons, List.map_nil, hid]
          runs_eq := fun traceId => by
            simp only [MemoryTraceStore.persistState, Dict.get?_set, h.traceId_eq]
            split
            · exact congrArg some (congrArg (· + 1) h.revision_eq)
            · exact h.runs_eq traceId }

end Twin

end Manifest
