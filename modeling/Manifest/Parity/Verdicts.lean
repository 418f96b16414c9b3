import Manifest.Demo
import Manifest.Lib.Fallible
import Manifest.Parity.Forbids
import Manifest.Governor.Spec

/-!
# Cedar verdicts and applied outcomes

The mapping reports a verdict as signals, and the governor applies the strongest of them.
A verdict is reported by the metadata of its policies, whatever the decision field says.

Main results:

- Theorem `denied_iff`: when a denial is reported as one.
- Theorem `cedar_applied`: the outcome the governor applies to what the bundle decides.
-/

set_option autoImplicit false

namespace Manifest.Cedar

open Authorization Fallible

/-! ## Signals, one for one -/

section Mapping

variable {request : PolicyRequest} {state : TrajectoryState}

/-- A signal carries the outcome of its policy's metadata. -/
theorem signalFor_outcome {id : String} {entry : Nat × PolicySignal}
    (h : signalFor request state id = .ok entry) :
    entry.2.policyId = id ∧ ∃ item, metadataOf id = some item ∧
      entry.2.outcome = item.outcome := by
  unfold signalFor at h
  cases hitem : metadataOf id with
  | none => simp [hitem, mappingError] at h
  | some item =>
      cases htext : becauseFor request state item with
      | error x => simp [hitem, htext, bind, Except.bind] at h
      | ok text =>
          simp only [hitem, htext, bind, Except.bind, Except.ok.injEq] at h
          rw [← h]
          exact ⟨rfl, item, rfl, rfl⟩

/-! ## Denials -/

/-- The policies that report the projected spend when they allow. -/
def showsSpend (id : String) : Prop :=
  id = "SPEND-004" ∨ id = "SPEND-009"

/-- A policy is reported as an allow: its metadata allows, and the amount it shows can be
printed. -/
def ReportedAllow (state : TrajectoryState) (id : String) : Prop :=
  (∃ item, metadataOf id = some item ∧ item.outcome = .allow) ∧
    (showsSpend id → state.mandate.isSome = true → printable (projected state))

/-- Which allowing policies show an amount. -/
theorem shown_of_allow {id : String} {item : PolicyMetadata} (hitem : metadataOf id = some item)
    (hallow : item.outcome = .allow) :
    item.reasonCode ≠ "SPEND_APPROVAL_REQUIRED" ∧
      (item.reasonCode = "SPEND_WITHIN_CEILING" ∨
        item.reasonCode = "SPEND_EXCEPTION_APPROVED" ↔ showsSpend id) := by
  have hall : ∀ entry ∈ metadata, entry.2.outcome = .allow →
      entry.2.reasonCode ≠ "SPEND_APPROVAL_REQUIRED" ∧
        (entry.2.reasonCode = "SPEND_WITHIN_CEILING" ∨
          entry.2.reasonCode = "SPEND_EXCEPTION_APPROVED" ↔
            entry.1 = "SPEND-004" ∨ entry.1 = "SPEND-009") := by
    decide +kernel
  exact hall (id, item) (metadataOf_eq_some_iff.mp hitem) hallow

variable (request) in
theorem signalFor_allow_iff {id : String} {item : PolicyMetadata}
    (hitem : metadataOf id = some item) (hallow : item.outcome = .allow) :
    (∃ entry, signalFor request state id = .ok entry) ↔
      (showsSpend id → state.mandate.isSome = true → printable (projected state)) := by
  obtain ⟨happroval, hshown⟩ := shown_of_allow hitem hallow
  have hsignal : (∃ entry, signalFor request state id = .ok entry) ↔
      ∃ text, becauseFor request state item = .ok text := by
    simp only [signalFor, hitem]
    cases becauseFor request state item with
    | error x => simp [bind, Except.bind]
    | ok text => simp [bind, Except.bind]
  rw [hsignal, ← hshown]
  unfold becauseFor
  cases hmandate : state.mandate with
  | none => simp
  | some mandate =>
      by_cases hprintable : printable (projected state)
      · obtain ⟨shown, hshow⟩ := formatMinor_of_printable hprintable
        unfold projected at hshow
        simp only [happroval, hshow, hprintable, if_false, bind, Except.bind, implies_true,
          iff_true]
        split
        · exact ⟨_, rfl⟩
        · split <;> exact ⟨_, rfl⟩
      · have hshow := formatMinor_of_not_printable hprintable
        unfold projected at hshow
        obtain ⟨x, hx⟩ := hshow
        simp only [happroval, hx, if_false, bind, Except.bind]
        by_cases hwithin : item.reasonCode = "SPEND_WITHIN_CEILING"
        · simp [hwithin, hprintable]
        · by_cases hexception : item.reasonCode = "SPEND_EXCEPTION_APPROVED"
          · simp [hexception, hprintable]
          · simp [hwithin, hexception]

/-- What a denial that names policies is answered with. -/
theorem mapResponse_denied {response : CedarAuthorizationResponse}
    (hdeny : response.decision = "deny") (herrors : response.errors = [])
    (hnamed : response.determiningPolicyIds ≠ [])
    (hknown : ∀ id ∈ response.determiningPolicyIds, (metadataOf id).isSome = true) :
    mapResponse request state response =
      (response.determiningPolicyIds.mapM (signalFor request state)).map fun signals =>
        (signals.insertionSort fun a b => signalBefore a b = true).map Prod.snd := by
  have hany : (response.determiningPolicyIds.any fun id => (metadataOf id).isNone) = false := by
    rw [List.any_eq_false]
    intro id hid
    simp [Option.isNone_iff_eq_none, Option.isSome_iff_ne_none.mp (hknown id hid)]
  unfold mapResponse
  simp only [herrors, hdeny, hany, List.isEmpty_nil, List.isEmpty_eq_false_iff.mpr hnamed,
    ne_eq, String.reduceEq, not_false_eq_true, decide_true, not_true_eq_false, decide_false,
    Bool.and_false, Bool.true_eq_false, Bool.false_eq_true, if_false, bind,
    Except.bind]
  cases response.determiningPolicyIds.mapM (signalFor request state) <;> rfl

/-- The strongest of the sorted signals allows when every one does. -/
theorem strongest_sorted_allow_iff {entries : List (Nat × PolicySignal)} :
    strongest ((entries.insertionSort fun a b => signalBefore a b = true).map Prod.snd) =
        .allow ↔ ∀ entry ∈ entries, entry.2.outcome = .allow := by
  rw [strongest_eq_allow_iff, List.forall_mem_map]
  exact forall_congr' fun entry => by rw [(List.perm_insertionSort _ _).mem_iff]

end Mapping

/-- A denial is answered with an exception or a signal stronger than an allow exactly when it
carries errors, names no policy, or names one that is not reported as an allow. -/
theorem denied_iff (request : PolicyRequest) (state : TrajectoryState)
    {response : CedarAuthorizationResponse} (hdeny : response.decision = "deny") :
    (∀ signals, mapResponse request state response = .ok signals →
        strongest signals ≠ .allow) ↔
      response.errors ≠ [] ∨ response.determiningPolicyIds = [] ∨
        ∃ id ∈ response.determiningPolicyIds, ¬ ReportedAllow state id := by
  by_cases herrors : response.errors = []
  swap
  · refine iff_of_true (fun signals h => ?_) (.inl herrors)
    simp [mapResponse, herrors, mappingError] at h
  by_cases hnamed : response.determiningPolicyIds = []
  · refine iff_of_true (fun signals h => ?_) (.inr (.inl hnamed))
    obtain rfl : _ = signals := by simpa [mapResponse, herrors, hdeny, hnamed] using h
    decide
  by_cases hknown : ∀ id ∈ response.determiningPolicyIds, (metadataOf id).isSome = true
  swap
  · push Not at hknown
    obtain ⟨id, hid, hnone⟩ := hknown
    have hunknown : metadataOf id = none := by simpa using hnone
    refine iff_of_true (fun signals h => ?_) (.inr (.inr ⟨id, hid, ?_⟩))
    · have hany : (response.determiningPolicyIds.any fun id => (metadataOf id).isNone) = true :=
        List.any_eq_true.mpr ⟨id, hid, by simp [hunknown]⟩
      simp [mapResponse, herrors, hdeny, hnamed, hany, mappingError] at h
    · rintro ⟨⟨item, hitem, -⟩, -⟩
      rw [hunknown] at hitem
      cases hitem
  rw [mapResponse_denied hdeny herrors hnamed hknown]
  constructor
  · intro hkept
    by_contra hall
    push Not at hall
    obtain ⟨-, -, hreported⟩ := hall
    obtain ⟨entries, hentries⟩ := mapM_ok_of_forall (f := signalFor request state)
      fun id hid => by
        obtain ⟨⟨item, hitem, hallow⟩, hshown⟩ := hreported id hid
        exact (signalFor_allow_iff request hitem hallow).mpr hshown
    rw [hentries] at hkept
    refine hkept _ rfl (strongest_sorted_allow_iff.mpr fun entry hentry => ?_)
    obtain ⟨id, hid, hsignal⟩ := (mem_of_mapM hentries).2 entry hentry
    obtain ⟨⟨item, hitem, hallow⟩, -⟩ := hreported id hid
    obtain ⟨-, item', hitem', houtcome⟩ := signalFor_outcome hsignal
    rw [houtcome, ← Option.some.inj (hitem.symm.trans hitem'), hallow]
  · rintro (h | h | ⟨id, hid, hreported⟩) signals hsignals hallow
    · exact h herrors
    · exact hnamed h
    · cases hentries : response.determiningPolicyIds.mapM (signalFor request state) with
      | error x =>
          rw [hentries] at hsignals
          cases hsignals
      | ok entries =>
          rw [hentries] at hsignals
          obtain rfl := Except.ok.inj hsignals
          obtain ⟨entry, hentry, hsignal⟩ := (mem_of_mapM hentries).1 id hid
          obtain ⟨-, item, hitem, houtcome⟩ := signalFor_outcome hsignal
          have hitem_allow : item.outcome = .allow :=
            houtcome.symm.trans (strongest_sorted_allow_iff.mp hallow entry hentry)
          exact hreported ⟨⟨item, hitem, hitem_allow⟩,
            (signalFor_allow_iff request hitem hitem_allow).mp ⟨entry, hsignal⟩⟩

/-! ## What the bundle decides -/

/-- The strongest outcome of some policies, by their metadata. -/
def strongestOf (ids : List String) : DecisionOutcome :=
  (ids.map outcomeOfId).foldr max .allow

theorem strongestOf_le_iff {ids : List String} {bound : DecisionOutcome} :
    strongestOf ids ≤ bound ↔ ∀ id ∈ ids, outcomeOfId id ≤ bound := by
  unfold strongestOf
  induction ids with
  | nil =>
      simp only [List.map_nil, List.foldr_nil, List.not_mem_nil, false_implies, implies_true,
        iff_true]
      exact bot_le
  | cons id rest ih =>
      simp only [List.map_cons, List.foldr_cons, max_le_iff, ih, List.forall_mem_cons]

/-- Without a forbid that holds, the request is registered. -/
theorem registered_of_unforbidden {r : AuthRequest} (h : satisfied bundle r .forbid = []) :
    registered r = true := by
  by_contra hnot
  obtain ⟨policy, hmem, heffect, hholds, -⟩ := forbids_unregistered hnot
  rw [satisfied_eq_nil_iff.mp h policy hmem heffect] at hholds
  cases hholds

theorem permitted_of_registered {r : AuthRequest} (h : registered r = true) :
    satisfied bundle r .permit ≠ [] := by
  have hmem : "BASE-PERMIT-REGISTERED" ∈ satisfied bundle r .permit :=
    mem_satisfied.mpr ⟨permit "BASE-PERMIT-REGISTERED" registered, List.mem_cons_self, rfl,
      by simp [Policy.holds, permit, h], rfl⟩
  exact List.ne_nil_of_mem hmem

/-- A denial is determined by a forbid. -/
theorem forbidden_of_deny {r : AuthRequest} (h : (isAuthorized bundle r).decision = .deny) :
    satisfied bundle r .forbid ≠ [] := by
  intro hnone
  have hallow := decision_eq_allow_iff.mpr
    ⟨hnone, permitted_of_registered (registered_of_unforbidden hnone)⟩
  rw [h] at hallow
  cases hallow

section Mapping

variable {request : PolicyRequest} {state : TrajectoryState}

/-- The outcome of a response, whatever was asked. -/
theorem mapResponse_strongestOf {bundleHash requestId : String} {r : AuthRequest}
    (hprintable : AmountsPrintable state) (hmandate : state.mandate.isSome = true) :
    outcomeOf (mapResponse request state (responseFor bundleHash requestId r)) =
      if skipped bundle r = [] then strongestOf (satisfied bundle r .forbid) else .block := by
  split_ifs with hskipped
  · by_cases hnone : satisfied bundle r .forbid = []
    · rw [hnone]
      exact mapResponse_allow hprintable hmandate hskipped hnone
        (permitted_of_registered (registered_of_unforbidden hnone))
    · refine eq_of_forall_ge_iff fun bound => ?_
      rw [mapResponse_deny request bundleHash requestId hprintable hskipped hnone,
        strongestOf_le_iff]
  · exact mapResponse_errors hskipped

theorem known_of_mapM {ids : List String} {entries : List (Nat × PolicySignal)}
    (h : ids.mapM (signalFor request state) = .ok entries) :
    ∀ entry ∈ entries, (metadataOf entry.2.policyId).isSome = true := by
  intro entry hentry
  obtain ⟨id, -, hsignal⟩ := (mem_of_mapM h).2 entry hentry
  obtain ⟨hid, item, hitem, -⟩ := signalFor_outcome hsignal
  rw [hid, hitem]
  rfl

/-- Unless it is a denial that names no policy, a response is reported by known policies. -/
theorem mapResponse_known {response : CedarAuthorizationResponse} {signals : List PolicySignal}
    (hnamed : response.decision = "deny" → response.determiningPolicyIds ≠ [])
    (h : mapResponse request state response = .ok signals) :
    ∀ item ∈ signals, (metadataOf item.policyId).isSome = true := by
  unfold mapResponse at h
  split at h
  · cases h
  · split at h
    · cases h
    · split at h
      · rename_i hempty
        simp only [Bool.and_eq_true, decide_eq_true_eq, List.isEmpty_iff] at hempty
        exact absurd hempty.2 (hnamed hempty.1)
      · split at h
        · cases h
        · dsimp only at h
          split at h
          all_goals
            obtain ⟨ids, -, h⟩ := bind_eq_ok_iff.mp h
            obtain ⟨entries, hentries, h⟩ := bind_eq_ok_iff.mp h
            obtain rfl := Except.ok.inj h
            intro item hmem
            obtain ⟨entry, hentry, rfl⟩ := List.mem_map.mp hmem
            rw [(List.perm_insertionSort _ _).mem_iff] at hentry
            exact known_of_mapM hentries entry hentry

/-- The implicit denial is never reported of the bundle. -/
theorem mapResponse_explicit {bundleHash requestId : String} {r : AuthRequest}
    {signals : List PolicySignal}
    (h : mapResponse request state (responseFor bundleHash requestId r) = .ok signals) :
    ∀ item ∈ signals, item.policyId ≠ "CEDAR-IMPLICIT-DENY" := by
  have hunknown : metadataOf "CEDAR-IMPLICIT-DENY" = none := by decide +kernel
  have hnamed : (responseFor bundleHash requestId r).decision = "deny" →
      (responseFor bundleHash requestId r).determiningPolicyIds ≠ [] := by
    intro hdecision hempty
    have hdeny : (isAuthorized bundle r).decision = .deny := by
      cases hverdict : (isAuthorized bundle r).decision with
      | allow => simp [responseFor, hverdict] at hdecision
      | deny => rfl
    have hperm := List.perm_insertionSort (· ≤ ·) (isAuthorized bundle r).determining
    rw [show (isAuthorized bundle r).determining.insertionSort (· ≤ ·) = [] from hempty,
      determining_of_deny hdeny] at hperm
    exact forbidden_of_deny hdeny hperm.nil_eq.symm
  intro item hmem heq
  have hknown := mapResponse_known hnamed h item hmem
  rw [heq, hunknown] at hknown
  cases hknown

end Mapping

/-! ## What the governor applies -/

variable [Sha256]

/-- A built request the client sends and the sidecar accepts. -/
def Accepted (built : CedarAuthorizationRequest) : Prop :=
  built.encodedLength ≤ maxRequestBytes ∧ built.policyVersion = sidecarPolicyVersion ∧
    built.toAuthRequest.conforms = true

section Evaluate

variable {request : PolicyRequest} {state : TrajectoryState} {bundleHash : String}
  {built : CedarAuthorizationRequest}

/-- What a built request was built from. -/
theorem built_eq (h : buildCedarRequest request state bundleHash = .ok built) :
    ∃ mandate owner effectClass attempted, state.mandate = some mandate ∧
      built = cedarRequestFor request state mandate owner effectClass attempted bundleHash := by
  unfold buildCedarRequest at h
  cases hmandate : state.mandate with
  | none => simp [hmandate, valueError] at h
  | some mandate =>
      simp only [hmandate] at h
      split at h
      · rename_i owner effectClass _ _
        obtain ⟨attempted, -, h⟩ := bind_eq_ok_iff.mp h
        exact ⟨mandate, owner, effectClass, attempted, rfl, (Except.ok.inj h).symm⟩
      · simp [valueError] at h

/-- The amounts of a request that conforms can be printed. -/
theorem printable_of_conforms (h : buildCedarRequest request state bundleHash = .ok built)
    (hconforms : built.toAuthRequest.conforms = true) :
    AmountsPrintable state ∧ state.mandate.isSome = true := by
  obtain ⟨mandate, owner, effectClass, attempted, hmandate, rfl⟩ := built_eq h
  have hfit : (authContext request state mandate attempted).longs.all isLong = true :=
    (Bool.and_eq_true_iff.mp hconforms).2
  refine ⟨printable_of_longs hmandate hfit, ?_⟩
  rw [hmandate]
  rfl

/-- The engine's answer to a built request. -/
theorem evaluate_built (h : buildCedarRequest request state bundleHash = .ok built) :
    (Accepted built → evaluate bundleHash request state = mapResponse request state
        (responseFor bundleHash request.requestId built.toAuthRequest)) ∧
      (¬ Accepted built → ∃ x, evaluate bundleHash request state = .error x) := by
  obtain ⟨mandate, owner, effectClass, attempted, hmandate, hbuilt⟩ := built_eq h
  have hid : built.requestId = request.requestId := by rw [hbuilt]; rfl
  have hbundle : built.bundleHash = bundleHash := by rw [hbuilt]; rfl
  unfold evaluate
  rw [h]
  constructor
  · rintro ⟨hsize, hversion, hconforms⟩
    simp only [clientAuthorize, not_lt.mpr hsize, if_false, sidecarAuthorize, hconforms, hversion,
      hbundle, hid, ne_eq, not_true_eq_false, decide_false, Bool.or_self, Bool.false_eq_true,
      reduceCtorEq, bind, Except.bind]
    rfl
  · intro hrefused
    suffices hclient : ∃ x, clientAuthorize bundleHash built = .error x by
      obtain ⟨x, hx⟩ := hclient
      exact ⟨x, by simp only [hx, bind, Except.bind]⟩
    unfold clientAuthorize
    by_cases hsize : maxRequestBytes < built.encodedLength
    · rw [if_pos hsize]
      exact ⟨_, rfl⟩
    · rw [if_neg hsize]
      unfold sidecarAuthorize
      have hidentity : (built.policyVersion ≠ sidecarPolicyVersion ||
          built.bundleHash ≠ bundleHash || built.toAuthRequest.conforms = false) = true := by
        by_contra hnot
        simp only [hbundle, ne_eq, not_true_eq_false, decide_false, Bool.or_false, decide_not,
          Bool.or_eq_true, Bool.not_eq_true', decide_eq_false_iff_not, decide_eq_true_eq,
          not_or, not_not, Bool.not_eq_false] at hnot
        exact hrefused ⟨not_lt.mp hsize, hnot⟩
      rw [if_pos hidentity]
      exact ⟨_, rfl⟩

/-- The outcome the engine's answer is decided on. -/
theorem strongest_built (h : buildCedarRequest request state bundleHash = .ok built) :
    strongest (failClosed (evaluate bundleHash request state)) =
      open Classical in
      if Accepted built ∧ skipped bundle built.toAuthRequest = [] then
        strongestOf (satisfied bundle built.toAuthRequest .forbid)
      else .block := by
  rw [strongest_failClosed (evaluate_catalogued bundleHash request state)]
  obtain ⟨hanswer, hrefusal⟩ := evaluate_built h
  by_cases haccepted : Accepted built
  · obtain ⟨hprintable, hmandate⟩ := printable_of_conforms h haccepted.2.2
    rw [hanswer haccepted, mapResponse_strongestOf hprintable hmandate]
    by_cases hskipped : skipped bundle built.toAuthRequest = []
    · rw [if_pos hskipped, if_pos ⟨haccepted, hskipped⟩]
    · rw [if_neg hskipped, if_neg fun hboth => hskipped hboth.2]
  · obtain ⟨x, hx⟩ := hrefusal haccepted
    rw [hx, outcomeOf_error, if_neg fun hboth => haccepted hboth.1]

/-- The signals of a built request name no implicit denial. -/
theorem explicit_built (h : buildCedarRequest request state bundleHash = .ok built) :
    ∀ item ∈ failClosed (evaluate bundleHash request state),
      item.policyId ≠ "CEDAR-IMPLICIT-DENY" := by
  obtain ⟨hanswer, hrefusal⟩ := evaluate_built h
  have hfailure : ∀ item ∈ [engineFailureSignal], item.policyId ≠ "CEDAR-IMPLICIT-DENY" := by
    decide
  unfold failClosed
  cases hevaluated : evaluate bundleHash request state with
  | error x => exact hfailure
  | ok signals =>
      dsimp only
      split
      · by_cases haccepted : Accepted built
        · rw [hanswer haccepted] at hevaluated
          exact mapResponse_explicit hevaluated
        · obtain ⟨x, hx⟩ := hrefusal haccepted
          rw [hx] at hevaluated
          cases hevaluated
      · exact hfailure

end Evaluate

omit [Sha256] in
/-- A forbid that holds is never reported as an allow. -/
theorem strongestOf_ne_allow {r : AuthRequest} (h : satisfied bundle r .forbid ≠ []) :
    strongestOf (satisfied bundle r .forbid) ≠ .allow := by
  intro hallow
  obtain ⟨id, hid⟩ := List.exists_mem_of_ne_nil _ h
  have hle := strongestOf_le_iff.mp hallow.le id hid
  obtain ⟨policy, hmem, heffect, -, rfl⟩ := mem_satisfied.mp hid
  rw [outcomeOfId_forbid hmem heffect] at hle
  split at hle
  · exact absurd hle (by decide)
  · split at hle <;> exact absurd hle (by decide)

end Manifest.Cedar

namespace Manifest

open Interaction Authorization Cedar

namespace Governor

variable (g : Governor)

/-- An outcome once guided retries are limited. -/
def retryLimited (attempt : Nat) (outcome : DecisionOutcome) : DecisionOutcome :=
  if outcome = .guide && g.maxGuidedAttempts ≤ attempt then .block else outcome

theorem retryLimited_eq_allow_iff {attempt : Nat} {outcome : DecisionOutcome} :
    g.retryLimited attempt outcome = .allow ↔ outcome = .allow := by
  unfold retryLimited
  split_ifs with hlimit
  · simp only [Bool.and_eq_true, decide_eq_true_eq] at hlimit
    simp [hlimit.1]
  · rfl

/-- A decision is made on the strongest signal and lists every signal. -/
theorem makeDecision_ensures (proposal : ToolProposal) (request : PolicyRequest)
    (signals : List PolicySignal) (s : TrajectoryState) (henforce : s.mode = .enforce) :
    Proc.Ensures readingOp (g.makeDecision proposal request signals) s fun r _ =>
      ∀ decision, r = .ok decision →
        (g.limitRetries proposal decision).appliedOutcome =
            g.retryLimited proposal.attempt (strongest signals) ∧
          ∀ item ∈ decision.reasons, item = defaultAllowSignal ∨ item ∈ signals := by
  simp only [makeDecision, Proc.ensures_bind, Proc.ensures_read, Proc.ensures_perform,
    ensures_uuid4, ensures_utcNow, Proc.ensures_pure, readingOp, true_and]
  rintro elapsed uuid now decision ⟨⟩
  constructor
  · simp only [limitRetries_appliedOutcome, primaryOf_orDefaultAllow, retryLimited, henforce,
      decide_true, if_true]
  · intro item hmem
    cases signals with
    | nil => exact .inl (List.mem_singleton.mp hmem)
    | cons first rest => exact .inr hmem

/-- What a denial rests on, and the outcome applied to what the bundle decides. -/
structure Applies [Sha256] (attempt : Nat) (built : CedarAuthorizationRequest)
    (decision : Decision) (applied : DecisionOutcome) : Prop where
  explicit : ∀ item ∈ decision.reasons, item.policyId ≠ "CEDAR-IMPLICIT-DENY"
  refused : ¬ Accepted built → applied = .block
  failed : skipped bundle built.toAuthRequest ≠ [] → applied = .block
  allowed : Accepted built → (applied = .allow ↔
    satisfied bundle built.toAuthRequest .forbid = [] ∧ skipped bundle built.toAuthRequest = [])
  forbidden : Accepted built → skipped bundle built.toAuthRequest = [] →
    satisfied bundle built.toAuthRequest .forbid ≠ [] →
      applied = g.retryLimited attempt (strongestOf (satisfied bundle built.toAuthRequest .forbid))

/-- Every denial of the bundle is determined by a forbid, and the governor applies the outcome
of the strongest forbid that holds: a block where a policy failed or the request was refused,
and an allow exactly where nothing forbids. -/
theorem cedar_applied [Sha256] {bundleHash : String} {request : PolicyRequest}
    {s : TrajectoryState} {built : CedarAuthorizationRequest}
    (hengine : g.engine = cedarPolicyEngine bundleHash) (henforce : s.mode = .enforce)
    (hbuilt : buildCedarRequest request s bundleHash = .ok built) (tool : ToolDefinition)
    (proposal : ToolProposal) {E : Type} (h : Handler Op E) (e : E) :
    ((isAuthorized bundle built.toAuthRequest).decision = .deny →
      ∃ policy ∈ bundle, policy.effect = .forbid ∧
        policy.id ∈ (isAuthorized bundle built.toAuthRequest).determining) ∧
    ∃ decision, ((g.makeDecision proposal request (g.signalsFor (some tool) request s)).exec
        h s e).result = .ok decision ∧
      g.Applies proposal.attempt built decision
        (g.limitRetries proposal decision).appliedOutcome := by
  constructor
  · intro hdeny
    obtain ⟨id, hid⟩ := List.exists_mem_of_ne_nil _ (forbidden_of_deny hdeny)
    rw [determining_of_deny hdeny]
    obtain ⟨policy, hmem, heffect, -, rfl⟩ := mem_satisfied.mp hid
    exact ⟨policy, hmem, heffect, hid⟩
  have hsignals : g.signalsFor (some tool) request s =
      failClosed (evaluate bundleHash request s) := by
    rw [signalsFor, hengine]
    rfl
  have hdecided := (g.makeDecision_ensures proposal request
    (g.signalsFor (some tool) request s) s henforce).exec h e
  obtain ⟨decision, hdecision⟩ : ∃ decision, ((g.makeDecision proposal request
      (g.signalsFor (some tool) request s)).exec h s e).result = .ok decision := ⟨_, rfl⟩
  refine ⟨decision, hdecision, ?_⟩
  obtain ⟨happlied, hreasons⟩ := hdecided decision hdecision
  rw [hsignals, strongest_built hbuilt] at happlied
  have hblock : g.retryLimited proposal.attempt .block = .block := rfl
  refine ⟨?_, ?_, ?_, ?_, ?_⟩
  · intro item hmem
    rcases hreasons item hmem with rfl | hitem
    · decide
    · rw [hsignals] at hitem
      exact explicit_built hbuilt item hitem
  · intro hrefused
    rw [happlied, if_neg fun hboth => hrefused hboth.1, hblock]
  · intro hskipped
    rw [happlied, if_neg fun hboth => hskipped hboth.2, hblock]
  · intro haccepted
    rw [happlied, retryLimited_eq_allow_iff]
    by_cases hskipped : skipped bundle built.toAuthRequest = []
    · rw [if_pos ⟨haccepted, hskipped⟩]
      by_cases hnone : satisfied bundle built.toAuthRequest .forbid = []
      · rw [hnone]
        exact iff_of_true rfl ⟨rfl, hskipped⟩
      · exact iff_of_false (strongestOf_ne_allow hnone) fun hboth => hnone hboth.1
    · rw [if_neg fun hboth => hskipped hboth.2]
      exact iff_of_false (by decide) fun hboth => hskipped hboth.2
  · intro haccepted hskipped _
    rw [happlied, if_pos ⟨haccepted, hskipped⟩]

end Governor

/-! ## Concrete verdicts -/

namespace Demo

/-- The governor's request to select a quote of the demo order. -/
def selecting (quote : CarrierQuote) : PolicyRequest where
  requestId := "REQ-1"
  principal := .carrier
  action := "select_carrier_quote"
  resourceType := "shipment_action"
  resourceId := quote.quoteId
  context := {
    toolOwner := some "carrier"
    effectClass := some "reversible_write"
    arguments := [("quote_id", .str quote.quoteId)]
    resource := .quote quote
    approval := none }

/-- The Cedar request built for it. -/
def selectingBuilt (quote : CarrierQuote) : CedarAuthorizationRequest :=
  cedarRequestFor (selecting quote) started mandate "carrier" "reversible_write" 0 "sha256:demo"

theorem selectingBuilt_eq (quote : CarrierQuote) :
    buildCedarRequest (selecting quote) started "sha256:demo" = .ok (selectingBuilt quote) :=
  rfl

def selectTool : ToolDefinition where
  name := "select_carrier_quote"
  owner := .carrier
  effectClass := .reversibleWrite
  description := "Select a reversible synthetic carrier quote."
  idempotent := true

/-- A proposal that selects a quote. -/
def selectProposal (attempt : Nat) : ToolProposal :=
  ⟨"PROP-1", "TRACE-1", .carrier, "select_carrier_quote", some .reversibleWrite, [], attempt⟩

/-- A governor over the bundle. -/
def bundleGovernor : Governor :=
  ⟨cedarPolicyEngine "sha256:demo", loader, 30, 2⟩

/-- The started run under another policy version. -/
def renewed : TrajectoryState :=
  { started with
    policyVersion := "demo-v2"
    mandate := some { mandate with policyVersion := "demo-v2" } }

def renewedBuilt : CedarAuthorizationRequest :=
  cedarRequestFor (selecting coldQuote) renewed { mandate with policyVersion := "demo-v2" }
    "carrier" "reversible_write" 0 "sha256:demo"

theorem renewedBuilt_eq :
    buildCedarRequest (selecting coldQuote) renewed "sha256:demo" = .ok renewedBuilt :=
  rfl

/-- A denial by one policy. -/
def denial (policyId : String) : CedarAuthorizationResponse where
  requestId := "REQ-1"
  decision := "deny"
  determiningPolicyIds := [policyId]
  errors := []
  policyVersion := "demo-v1"
  bundleHash := "sha256:demo"

end Demo

/-- The applied outcome of a first selection of an uncertified quote. -/
theorem cedar_applied_select :
    ((isAuthorized bundle (Demo.selectingBuilt Demo.cheapQuote).toAuthRequest).decision = .deny →
      ∃ policy ∈ bundle, policy.effect = .forbid ∧ policy.id ∈
        (isAuthorized bundle (Demo.selectingBuilt Demo.cheapQuote).toAuthRequest).determining) ∧
    ∃ decision, ((Demo.bundleGovernor.makeDecision (Demo.selectProposal 1)
        (Demo.selecting Demo.cheapQuote) (Demo.bundleGovernor.signalsFor
          (some Demo.selectTool)
          (Demo.selecting Demo.cheapQuote) Demo.started)).exec Demo.handle Demo.started
            {}).result = .ok decision ∧
      Demo.bundleGovernor.Applies 1 (Demo.selectingBuilt Demo.cheapQuote) decision
        (Demo.bundleGovernor.limitRetries (Demo.selectProposal 1) decision).appliedOutcome :=
  Demo.bundleGovernor.cedar_applied rfl rfl (Demo.selectingBuilt_eq Demo.cheapQuote) _
    (Demo.selectProposal 1) Demo.handle {}

/-- The outcome of a decision on an enforced state, from its strongest signal. -/
theorem applied_of_strongest (proposal : ToolProposal) (request : PolicyRequest)
    (s : TrajectoryState) {outcome : DecisionOutcome} (henforce : s.mode = .enforce)
    (h : strongest (failClosed (evaluate "sha256:demo" request s)) = outcome) :
    ∃ decision, ((Demo.bundleGovernor.makeDecision proposal request
        (Demo.bundleGovernor.signalsFor (some Demo.selectTool) request s)).exec Demo.handle
          s {}).result = .ok decision ∧
      (Demo.bundleGovernor.limitRetries proposal decision).appliedOutcome =
        Demo.bundleGovernor.retryLimited proposal.attempt outcome := by
  have hsignals : Demo.bundleGovernor.signalsFor (some Demo.selectTool) request s =
      failClosed (evaluate "sha256:demo" request s) := rfl
  rw [hsignals]
  generalize failClosed (evaluate "sha256:demo" request s) = signals at h ⊢
  have hdecided := (Demo.bundleGovernor.makeDecision_ensures proposal request signals s
    henforce).exec Demo.handle {}
  obtain ⟨decision, hdecision⟩ : ∃ decision, ((Demo.bundleGovernor.makeDecision proposal request
      signals).exec Demo.handle s {}).result = .ok decision := ⟨_, rfl⟩
  exact ⟨decision, hdecision, by rw [(hdecided decision hdecision).1, h]⟩

/-- A second guided selection is blocked, where the strongest forbid that holds guides; and a
request under another policy version is blocked, where nothing forbids. -/
theorem cedar_not_applied :
    (Accepted (Demo.selectingBuilt Demo.cheapQuote) ∧
      satisfied bundle (Demo.selectingBuilt Demo.cheapQuote).toAuthRequest .forbid =
        ["COLD-004"] ∧
      skipped bundle (Demo.selectingBuilt Demo.cheapQuote).toAuthRequest = [] ∧
      strongestOf ["COLD-004"] = .guide ∧
      ∃ decision, ((Demo.bundleGovernor.makeDecision (Demo.selectProposal 2)
          (Demo.selecting Demo.cheapQuote) (Demo.bundleGovernor.signalsFor
            (some Demo.selectTool) (Demo.selecting Demo.cheapQuote)
              Demo.started)).exec Demo.handle Demo.started {}).result = .ok decision ∧
        (Demo.bundleGovernor.limitRetries (Demo.selectProposal 2) decision).appliedOutcome =
          .block) ∧
    (buildCedarRequest (Demo.selecting Demo.coldQuote) Demo.renewed "sha256:demo" =
        .ok Demo.renewedBuilt ∧
      satisfied bundle Demo.renewedBuilt.toAuthRequest .forbid = [] ∧
      skipped bundle Demo.renewedBuilt.toAuthRequest = [] ∧
      ∃ decision, ((Demo.bundleGovernor.makeDecision (Demo.selectProposal 1)
          (Demo.selecting Demo.coldQuote) (Demo.bundleGovernor.signalsFor
            (some Demo.selectTool) (Demo.selecting Demo.coldQuote)
              Demo.renewed)).exec Demo.handle Demo.renewed {}).result = .ok decision ∧
        (Demo.bundleGovernor.limitRetries (Demo.selectProposal 1) decision).appliedOutcome =
          .block) := by
  have haccepted : Accepted (Demo.selectingBuilt Demo.cheapQuote) :=
    ⟨by decide +kernel, rfl, by decide +kernel⟩
  have hforbids : satisfied bundle (Demo.selectingBuilt Demo.cheapQuote).toAuthRequest .forbid =
      ["COLD-004"] := by decide +kernel
  have hskipped : skipped bundle (Demo.selectingBuilt Demo.cheapQuote).toAuthRequest = [] := by
    decide +kernel
  have houtcome : strongestOf ["COLD-004"] = .guide := by decide +kernel
  have hguide := strongest_built (Demo.selectingBuilt_eq Demo.cheapQuote)
  rw [if_pos ⟨haccepted, hskipped⟩, hforbids, houtcome] at hguide
  have hblock := strongest_built Demo.renewedBuilt_eq
  rw [if_neg fun hboth => absurd hboth.1.2.1 (by decide)] at hblock
  refine ⟨⟨haccepted, hforbids, hskipped, houtcome, ?_⟩, Demo.renewedBuilt_eq, by decide +kernel,
    by decide +kernel, ?_⟩
  · exact applied_of_strongest (Demo.selectProposal 2) _ _ rfl hguide
  · exact applied_of_strongest (Demo.selectProposal 1) _ _ rfl hblock

/-- A denial by a forbid is not reported as an allow. -/
theorem denied_owner :
    (Demo.denial "OWN-002").decision = "deny" ∧
    ∀ signals, mapResponse (Demo.selecting Demo.coldQuote) Demo.started
        (Demo.denial "OWN-002") = .ok signals → strongest signals ≠ .allow := by
  refine ⟨rfl, (denied_iff _ _ rfl).mpr (.inr (.inr ⟨"OWN-002", List.mem_singleton_self _, ?_⟩))⟩
  rintro ⟨⟨item, hitem, hallow⟩, -⟩
  have howner : (metadataOf "OWN-002").map (·.outcome) = some .block := by decide +kernel
  rw [hitem, Option.map_some, hallow] at howner
  cases howner

/-- A denial that names a permit is reported as an allow. -/
theorem denied_as_allow :
    (Demo.denial "BASE-PERMIT-REGISTERED").decision = "deny" ∧
    ∃ signals, mapResponse (Demo.selecting Demo.coldQuote) Demo.started
        (Demo.denial "BASE-PERMIT-REGISTERED") = .ok signals ∧ strongest signals = .allow :=
  ⟨rfl, _, rfl, rfl⟩

end Manifest
