import Manifest.Cedar.Engine
import Manifest.Lib.Fallible
import Manifest.Parity.Reference

/-!
# Outcomes of the Cedar bundle

The outcome of a request under the demo-v1 bundle, in the same terms as for the
reference engine.

Main results:

- Theorem `mapResponse_outcome`: the outcome of a response is that of its strongest forbid.
- Theorem `evaluate_outcome`: so is the outcome of a request that reaches the sidecar.
-/

set_option autoImplicit false

namespace Manifest.Cedar

open Authorization Fallible

/-! ## The outcome of a policy -/

/-- The outcome a policy is reported with. -/
def outcomeOfId (id : String) : DecisionOutcome :=
  ((metadataOf id).map (·.outcome)).getD .block

/-- The forbids that guide instead of blocking. -/
def guidingIds : List String :=
  ["PROV-003", "PROV-004", "COLD-002", "COLD-004"]

/-- A forbid blocks, unless it escalates a spend or guides. -/
theorem outcomeOfId_forbid {policy : BundlePolicy} (hmem : policy ∈ bundle)
    (heffect : policy.effect = .forbid) :
    outcomeOfId policy.id =
      if policy.id = "SPEND-003" then .escalate
      else if policy.id ∈ guidingIds then .guide else .block := by
  have h : ∀ p ∈ bundle.map (fun policy => (policy.effect, policy.id)), p.1 = Effect.forbid →
      outcomeOfId p.2 = if p.2 = "SPEND-003" then .escalate
        else if p.2 ∈ guidingIds then .guide else .block := by
    decide +kernel
  exact h _ (List.mem_map_of_mem hmem) heffect

/-- Every allow is reported with an allowing outcome. -/
theorem outcomeOfId_allow :
    outcomeOfId "SPEND-009" = .allow ∧ outcomeOfId "SPEND-004" = .allow ∧
      outcomeOfId "BASE-PERMIT-REGISTERED" = .allow := by
  decide +kernel

theorem outcomeOfId_permit {policy : BundlePolicy} (hmem : policy ∈ bundle)
    (heffect : policy.effect = .permit) : outcomeOfId policy.id = .allow := by
  have h : ∀ p ∈ bundle.map (fun policy => (policy.effect, policy.id)), p.1 = Effect.permit →
      outcomeOfId p.2 = .allow := by
    decide +kernel
  exact h _ (List.mem_map_of_mem hmem) heffect

/-- Whether a forbid with some outcome holds. -/
def Forbids (r : AuthRequest) (outcome : DecisionOutcome) : Prop :=
  ∃ policy ∈ bundle, policy.effect = .forbid ∧ policy.holds r = true ∧
    outcomeOfId policy.id = outcome

/-! ## Mapping a response -/

section Mapping

variable {request : PolicyRequest} {state : TrajectoryState}

/-- The amounts a message may show are printable. -/
def AmountsPrintable (state : TrajectoryState) : Prop :=
  printable (projected state) ∧
    ∀ mandate, state.mandate = some mandate → printable mandate.approvalThresholdMinor

variable (request) in
theorem becauseFor_ok (h : AmountsPrintable state) (item : PolicyMetadata) :
    ∃ text, becauseFor request state item = .ok text := by
  obtain ⟨hprojected, hthreshold⟩ := h
  obtain ⟨shown, hshown⟩ := formatMinor_of_printable hprojected
  unfold projected at hshown
  unfold becauseFor
  cases hmandate : state.mandate with
  | none => exact ⟨_, rfl⟩
  | some mandate =>
      obtain ⟨ceiling, hceiling⟩ := formatMinor_of_printable (hthreshold mandate hmandate)
      simp only [hshown, hceiling, bind, Except.bind]
      split
      · exact ⟨_, rfl⟩
      · split
        · exact ⟨_, rfl⟩
        · split <;> exact ⟨_, rfl⟩

variable (request) in
theorem signalFor_ok (h : AmountsPrintable state) {id : String}
    (hid : (metadataOf id).isSome = true) :
    ∃ entry, signalFor request state id = .ok entry ∧ entry.2.outcome = outcomeOfId id ∧
      entry.2.reasonCode ∈ reasonCodes := by
  unfold signalFor outcomeOfId
  cases hitem : metadataOf id with
  | none => simp [hitem] at hid
  | some item =>
      obtain ⟨text, htext⟩ := becauseFor_ok request h item
      refine ⟨(item.order, ⟨item.family, id, item.outcome, item.reasonCode, text,
        guidanceFor request state item⟩), ?_, rfl, ?_⟩
      · simp only [htext, bind, Except.bind]
      simpa using metadata_catalogued (id, item) (metadataOf_eq_some_iff.mp hitem)

variable (request) in
/-- Signals are made one for one. -/
theorem mapM_signalFor (h : AmountsPrintable state) (ids : List String)
    (hids : ∀ id ∈ ids, (metadataOf id).isSome = true) :
    ∃ entries, ids.mapM (signalFor request state) = .ok entries ∧
      entries.map (·.2.outcome) = ids.map outcomeOfId := by
  induction ids with
  | nil => exact ⟨[], rfl, rfl⟩
  | cons id rest ih =>
      obtain ⟨entry, hentry, houtcome, -⟩ :=
        signalFor_ok request h (hids id List.mem_cons_self)
      obtain ⟨entries, hentries, houtcomes⟩ :=
        ih fun other hmem => hids other (List.mem_cons_of_mem _ hmem)
      refine ⟨entry :: entries, ?_, by simp [houtcome, houtcomes]⟩
      rw [List.mapM_cons, hentry, hentries]
      rfl

/-- The order signals are sorted in does not matter to their outcome. -/
theorem strongest_sorted_le_iff {entries : List (Nat × PolicySignal)} {ids : List String}
    (h : entries.map (·.2.outcome) = ids.map outcomeOfId) (bound : DecisionOutcome) :
    strongest ((entries.insertionSort fun a b => signalBefore a b = true).map Prod.snd) ≤ bound ↔
      ∀ id ∈ ids, outcomeOfId id ≤ bound := by
  have hperm := List.perm_insertionSort (fun a b => signalBefore a b = true) entries
  have hall : (∀ o ∈ entries.map (·.2.outcome), o ≤ bound) ↔
      ∀ o ∈ ids.map outcomeOfId, o ≤ bound := by rw [h]
  simp only [List.forall_mem_map] at hall
  rw [strongest_le_iff, List.forall_mem_map, ← hall]
  exact forall_congr' fun entry => by rw [hperm.mem_iff]

/-- The response of the sidecar to a request. -/
def responseFor (bundleHash : String) (requestId : String) (r : AuthRequest) :
    CedarAuthorizationResponse :=
  let response := isAuthorized bundle r
  { requestId := requestId
    decision := if response.decision = .allow then "allow" else "deny"
    determiningPolicyIds := response.determining.insertionSort (· ≤ ·)
    errors := response.errors.map fun _ => "authorization_evaluation_error"
    policyVersion := sidecarPolicyVersion
    bundleHash := bundleHash }

theorem metadataOf_satisfied {r : AuthRequest} {effect : Effect} {id : String}
    (h : id ∈ satisfied bundle r effect) : (metadataOf id).isSome = true := by
  obtain ⟨policy, hmem, -, -, rfl⟩ := mem_satisfied.mp h
  exact metadata_covers_bundle policy hmem

/-- A skipped policy turns the whole response into a failure. -/
theorem mapResponse_errors {bundleHash requestId : String} {r : AuthRequest}
    (h : skipped bundle r ≠ []) :
    outcomeOf (mapResponse request state (responseFor bundleHash requestId r)) = .block := by
  have hne : (responseFor bundleHash requestId r).errors.isEmpty = false := by
    simp [responseFor, errors_eq, h]
  simp [mapResponse, hne, mappingError]

variable (request) in
/-- The policies an allow is reported under have metadata and allow. -/
theorem allowPolicyIds_ok (r : AuthRequest) (hmandate : state.mandate.isSome = true) :
    ∃ ids, allowPolicyIds request state ((satisfied bundle r .permit).insertionSort (· ≤ ·)) =
        .ok ids ∧
      (∀ id ∈ ids, (metadataOf id).isSome = true) ∧ ∀ id ∈ ids, outcomeOfId id = .allow := by
  obtain ⟨mandate, hmandate⟩ := Option.isSome_iff_exists.mp hmandate
  obtain ⟨hnine, hfour, hbase⟩ := outcomeOfId_allow
  have hknown : ∀ id ∈ ["SPEND-009", "SPEND-004", "BASE-PERMIT-REGISTERED"],
      (metadataOf id).isSome = true := by decide +kernel
  unfold allowPolicyIds
  simp only [hmandate]
  split
  · refine ⟨_, rfl, ?_, ?_⟩ <;> intro id hid <;> rw [List.mem_singleton] at hid <;> subst hid
    · split <;> exact hknown _ (by simp)
    · split <;> assumption
  · split
    · refine ⟨_, rfl, ?_, ?_⟩ <;> intro id hid <;> rw [List.mem_singleton] at hid <;> subst hid
      · exact hknown _ (by simp)
      · exact hbase
    · have hsat : ∀ id ∈ ((satisfied bundle r .permit).insertionSort (· ≤ ·)).filter
          (fun id => id ≠ "BASE-PERMIT-REGISTERED"), id ∈ satisfied bundle r .permit := by
        intro id hid
        exact (List.perm_insertionSort _ _).mem_iff.mp (List.mem_filter.mp hid).1
      refine ⟨_, rfl, fun id hid => metadataOf_satisfied (hsat id hid), fun id hid => ?_⟩
      obtain ⟨policy, hmem, heffect, -, rfl⟩ := mem_satisfied.mp (hsat id hid)
      exact outcomeOfId_permit hmem heffect

theorem metadata_known {bundleHash requestId : String} {r : AuthRequest} {effect : Effect}
    (h : (isAuthorized bundle r).determining = satisfied bundle r effect) :
    ((responseFor bundleHash requestId r).determiningPolicyIds.any
      fun id => (metadataOf id).isNone) = false := by
  simp only [responseFor, h, List.any_eq_false]
  intro id hid
  rw [(List.perm_insertionSort _ _).mem_iff] at hid
  simp [Option.isNone_iff_eq_none, Option.isSome_iff_ne_none.mp (metadataOf_satisfied hid)]

/-- Without forbids and with a permit a response allows. -/
theorem mapResponse_allow {bundleHash requestId : String} {r : AuthRequest}
    (hprintable : AmountsPrintable state) (hmandate : state.mandate.isSome = true)
    (hskipped : skipped bundle r = []) (hnone : satisfied bundle r .forbid = [])
    (hpermit : satisfied bundle r .permit ≠ []) :
    outcomeOf (mapResponse request state (responseFor bundleHash requestId r)) = .allow := by
  have hdecision := decision_eq_allow_iff.mpr ⟨hnone, hpermit⟩
  have herrors : (responseFor bundleHash requestId r).errors.isEmpty = true := by
    simp [responseFor, errors_eq, hskipped]
  have hdetermining := determining_of_allow hdecision
  obtain ⟨ids, hids, hknown, hallow⟩ :=
    allowPolicyIds_ok request r hmandate
  obtain ⟨entries, hentries, houtcomes⟩ :=
    mapM_signalFor request hprintable ids hknown
  have hresult : mapResponse request state (responseFor bundleHash requestId r) =
      .ok ((entries.insertionSort fun a b => signalBefore a b = true).map Prod.snd) := by
    unfold mapResponse
    rw [herrors, metadata_known hdetermining]
    simp only [responseFor, hdecision, hdetermining, hids, hentries, if_true, bind, Except.bind]
    simp
  rw [hresult, outcomeOf_ok]
  refine le_antisymm ((strongest_sorted_le_iff houtcomes _).mpr fun id hid => ?_) bot_le
  rw [hallow id hid]

variable (request) in
/-- With a forbid that holds, a response is as strong as these. -/
theorem mapResponse_deny (bundleHash requestId : String) {r : AuthRequest}
    (hprintable : AmountsPrintable state) (hskipped : skipped bundle r = [])
    (hsome : satisfied bundle r .forbid ≠ []) (bound : DecisionOutcome) :
    outcomeOf (mapResponse request state (responseFor bundleHash requestId r)) ≤ bound ↔
      ∀ id ∈ satisfied bundle r .forbid, outcomeOfId id ≤ bound := by
  have hdeny : (isAuthorized bundle r).decision = .deny := by
    cases hverdict : (isAuthorized bundle r).decision with
    | allow => exact absurd (decision_eq_allow_iff.mp hverdict).1 hsome
    | deny => rfl
  have herrors : (responseFor bundleHash requestId r).errors.isEmpty = true := by
    simp [responseFor, errors_eq, hskipped]
  have hdetermining := determining_of_deny hdeny
  obtain ⟨entries, hentries, houtcomes⟩ := mapM_signalFor request hprintable
    ((satisfied bundle r .forbid).insertionSort (· ≤ ·)) fun id hid =>
      metadataOf_satisfied ((List.perm_insertionSort _ _).mem_iff.mp hid)
  have hnonempty : ((satisfied bundle r .forbid).insertionSort (· ≤ ·)).isEmpty = false := by
    rw [List.isEmpty_eq_false_iff]
    intro hnil
    have hperm := List.perm_insertionSort (· ≤ ·) (satisfied bundle r .forbid)
    rw [hnil] at hperm
    exact hsome hperm.nil_eq.symm
  have hresult : mapResponse request state (responseFor bundleHash requestId r) =
      .ok ((entries.insertionSort fun a b => signalBefore a b = true).map Prod.snd) := by
    unfold mapResponse
    rw [herrors, metadata_known hdetermining]
    simp only [responseFor, hdeny, hdetermining, hnonempty, hentries, reduceCtorEq, if_false,
      bind, Except.bind]
    simp
  rw [hresult, outcomeOf_ok, strongest_sorted_le_iff houtcomes]
  exact forall_congr' fun id => by rw [(List.perm_insertionSort _ _).mem_iff]

/-- A blocking forbid blocks, whatever else the response says. -/
theorem mapResponse_block {bundleHash requestId : String} {r : AuthRequest}
    (hprintable : AmountsPrintable state) (h : Forbids r .block) :
    outcomeOf (mapResponse request state (responseFor bundleHash requestId r)) = .block := by
  obtain ⟨policy, hmem, heffect, hholds, houtcome⟩ := h
  by_cases hskipped : skipped bundle r = []
  · have hid : policy.id ∈ satisfied bundle r .forbid :=
      mem_satisfied.mpr ⟨policy, hmem, heffect, hholds, rfl⟩
    have hle := (mapResponse_deny request bundleHash requestId hprintable hskipped
      (List.ne_nil_of_mem hid) _).mp le_rfl _ hid
    rw [houtcome] at hle
    exact top_le_iff.mp hle
  · exact mapResponse_errors hskipped

open Classical in
/-- A registered request without skipped policies has the outcome of its strongest forbid. -/
theorem mapResponse_outcome {bundleHash requestId : String} {r : AuthRequest}
    (hprintable : AmountsPrintable state) (hmandate : state.mandate.isSome = true)
    (hregistered : registered r = true) (hskipped : skipped bundle r = []) :
    outcomeOf (mapResponse request state (responseFor bundleHash requestId r)) =
      if Forbids r .block then .block
      else if Forbids r .escalate then .escalate
      else if Forbids r .guide then .guide else .allow := by
  by_cases hblock : Forbids r .block
  · rw [if_pos hblock]
    exact mapResponse_block hprintable hblock
  rw [if_neg hblock]
  by_cases hnone : satisfied bundle r .forbid = []
  · have hnever : ∀ outcome, ¬ Forbids r outcome := by
      rintro outcome ⟨policy, hmem, heffect, hholds, -⟩
      rw [satisfied_eq_nil_iff.mp hnone policy hmem heffect] at hholds
      cases hholds
    rw [if_neg (hnever _), if_neg (hnever _)]
    refine mapResponse_allow hprintable hmandate hskipped hnone fun hnil => ?_
    have := satisfied_eq_nil_iff.mp hnil (permit "BASE-PERMIT-REGISTERED" registered)
      List.mem_cons_self rfl
    simp [Policy.holds, permit, hregistered] at this
  · have hbound := mapResponse_deny request bundleHash requestId hprintable hskipped hnone
    have hcases : ∀ id ∈ satisfied bundle r .forbid,
        (outcomeOfId id = .escalate ∧ Forbids r .escalate) ∨
          (outcomeOfId id = .guide ∧ Forbids r .guide) := by
      intro id hid
      obtain ⟨policy, hmem, heffect, hholds, rfl⟩ := mem_satisfied.mp hid
      have houtcome := outcomeOfId_forbid hmem heffect
      split at houtcome
      · exact .inl ⟨houtcome, policy, hmem, heffect, hholds, houtcome⟩
      · split at houtcome
        · exact .inr ⟨houtcome, policy, hmem, heffect, hholds, houtcome⟩
        · exact absurd ⟨policy, hmem, heffect, hholds, houtcome⟩ hblock
    obtain ⟨first, hfirst⟩ := List.exists_mem_of_ne_nil _ hnone
    by_cases hescalate : Forbids r .escalate
    · rw [if_pos hescalate]
      obtain ⟨policy, hmem, heffect, hholds, houtcome⟩ := hescalate
      refine le_antisymm ((hbound _).mpr fun id hid => ?_) ?_
      · rcases hcases id hid with ⟨heq, -⟩ | ⟨heq, -⟩
        · rw [heq]
        · rw [heq]
          decide
      · have hle := (hbound _).mp le_rfl _
          (mem_satisfied.mpr ⟨policy, hmem, heffect, hholds, rfl⟩)
        rwa [houtcome] at hle
    · have hguide : ∀ id ∈ satisfied bundle r .forbid, outcomeOfId id = .guide :=
        fun id hid => (hcases id hid).elim (fun h => absurd h.2 hescalate) (·.1)
      have hsome : Forbids r .guide :=
        (hcases first hfirst).elim (fun h => absurd h.2 hescalate) (·.2)
      rw [if_neg hescalate, if_pos hsome]
      refine le_antisymm ((hbound _).mpr fun id hid => (hguide id hid).le) ?_
      have hle := (hbound _).mp le_rfl _ hfirst
      rwa [hguide first hfirst] at hle

end Mapping

/-! ## Evaluating a request -/

variable [Sha256] {request : PolicyRequest} {state : TrajectoryState} {mandate : ShipmentMandate}
  {bundleHash : String} {attempted : Int}

/-- The Cedar request for an integer weight, under the metadata the request carries. -/
def requestFor (request : PolicyRequest) (state : TrajectoryState) (mandate : ShipmentMandate)
    (attempted : Int) (bundleHash : String) : CedarAuthorizationRequest :=
  cedarRequestFor request state mandate (request.context.toolOwner.getD "")
    (request.context.effectClass.getD "") attempted bundleHash

/-- A request that can be sent: an integer weight, amounts that are longs, and a body
within the client's bound. -/
structure Transportable (request : PolicyRequest) (state : TrajectoryState)
    (mandate : ShipmentMandate) (bundleHash : String) (attempted : Int) : Prop where
  weight_eq : request.context.arguments.getD "weight_value" (.int 0) = .int attempted
  longs_fit : (authContext request state mandate attempted).longs.all isLong = true
  size_le :
    (requestFor request state mandate attempted bundleHash).encodedLength ≤ maxRequestBytes

/-- Amounts that are longs can be printed. -/
theorem printable_of_longs (hmandate : state.mandate = some mandate)
    (hfit : (authContext request state mandate attempted).longs.all isLong = true) :
    AmountsPrintable state := by
  simp only [AuthContext.longs, authContext, List.all_cons, List.all_nil, Bool.and_true,
    Bool.and_eq_true, isLong_iff] at hfit
  obtain ⟨-, -, -, hcommitted, hreserved, hthreshold⟩ := hfit
  refine ⟨printable_of_lt ?_, fun other hother => ?_⟩
  · unfold projected
    omega
  · obtain rfl : mandate = other := Option.some.inj (hmandate.symm.trans hother)
    exact printable_of_lt (by omega)

theorem Transportable.printable (hmandate : state.mandate = some mandate)
    (h : Transportable request state mandate bundleHash attempted) : AmountsPrintable state :=
  printable_of_longs hmandate h.longs_fit

/-- A request that cannot be sent is blocked. -/
theorem evaluate_untransportable (hmandate : state.mandate = some mandate)
    (h : ∀ attempted, ¬ Transportable request state mandate bundleHash attempted) :
    outcomeOf (evaluate bundleHash request state) = .block := by
  unfold evaluate
  cases howner : request.context.toolOwner with
  | none => simp [buildCedarRequest, hmandate, howner, valueError, bind, Except.bind]
  | some owner =>
      cases hclass : request.context.effectClass with
      | none => simp [buildCedarRequest, hmandate, howner, hclass, valueError, bind, Except.bind]
      | some effectClass =>
          cases hweight : request.context.arguments.getD "weight_value" (.int 0) with
          | int attempted =>
              rw [buildCedarRequest_ok bundleHash hmandate howner hclass hweight]
              have hrequest : cedarRequestFor request state mandate owner effectClass attempted
                  bundleHash = requestFor request state mandate attempted bundleHash := by
                simp [requestFor, howner, hclass]
              rw [hrequest]
              by_cases hsize : maxRequestBytes <
                  (requestFor request state mandate attempted bundleHash).encodedLength
              · simp [clientAuthorize, hsize, clientError, bind, Except.bind]
              · have hlongs : (authContext request state mandate attempted).longs.all isLong =
                    false := by
                  by_contra hfit
                  exact h attempted ⟨hweight, by simpa using hfit, not_lt.mp hsize⟩
                have hconforms : (requestFor request state mandate attempted
                    bundleHash).toAuthRequest.conforms = false := by
                  unfold AuthRequest.conforms
                  rw [show (requestFor request state mandate attempted
                    bundleHash).toAuthRequest.context =
                      authContext request state mandate attempted from rfl, hlongs, Bool.and_false]
                simp [clientAuthorize, hsize, sidecarAuthorize, hconforms, clientError, bind,
                  Except.bind]
          | _ =>
              simp [buildCedarRequest, hmandate, howner, hclass, hweight, strictInt, valueError,
                bind, Except.bind]

/-- A request of another policy version is blocked. -/
theorem evaluate_unserved (hmandate : state.mandate = some mandate)
    (hserved : state.policyVersion ≠ sidecarPolicyVersion) :
    outcomeOf (evaluate bundleHash request state) = .block := by
  unfold evaluate
  cases hbuilt : buildCedarRequest request state bundleHash with
  | error x => simp [bind, Except.bind]
  | ok built =>
      have hversion : built.policyVersion ≠ sidecarPolicyVersion := by
        have heq : built.policyVersion = state.policyVersion := by
          unfold buildCedarRequest at hbuilt
          simp only [hmandate] at hbuilt
          split at hbuilt
          · simp only [bind, Except.bind] at hbuilt
            split at hbuilt
            · cases hbuilt
            · injection hbuilt with hbuilt
              rw [← hbuilt]
          · cases hbuilt
        rwa [heq]
      obtain ⟨x, hx⟩ : ∃ x, clientAuthorize bundleHash built = .error x := by
        unfold clientAuthorize sidecarAuthorize
        split
        · exact ⟨_, rfl⟩
        · rw [if_pos (by simp [hversion])]
          exact ⟨_, rfl⟩
      simp [hx, bind, Except.bind]

/-- A request that reaches the sidecar has the outcome of its response. -/
theorem evaluate_sent (hmandate : state.mandate = some mandate)
    (hserved : state.policyVersion = sidecarPolicyVersion)
    (howner : request.context.toolOwner.isSome = true)
    (hclass : request.context.effectClass.isSome = true)
    (haction : schemaActions.contains request.action = true)
    (h : Transportable request state mandate bundleHash attempted) :
    outcomeOf (evaluate bundleHash request state) =
      outcomeOf (mapResponse request state (responseFor bundleHash request.requestId
        (requestFor request state mandate attempted bundleHash).toAuthRequest)) := by
  obtain ⟨owner, howner⟩ := Option.isSome_iff_exists.mp howner
  obtain ⟨effectClass, hclass⟩ := Option.isSome_iff_exists.mp hclass
  have hconforms : (requestFor request state mandate attempted
      bundleHash).toAuthRequest.conforms = true := by
    unfold AuthRequest.conforms
    rw [show (requestFor request state mandate attempted bundleHash).toAuthRequest.context =
        authContext request state mandate attempted from rfl,
      show (requestFor request state mandate attempted bundleHash).toAuthRequest.action =
        request.action from rfl, h.longs_fit, haction]
    rfl
  have hrequest : cedarRequestFor request state mandate owner effectClass attempted
      bundleHash = requestFor request state mandate attempted bundleHash := by
    simp [requestFor, howner, hclass]
  have hversion : (requestFor request state mandate attempted bundleHash).policyVersion =
      sidecarPolicyVersion := hserved
  have hbundle : (requestFor request state mandate attempted bundleHash).bundleHash =
      bundleHash := rfl
  have hid : (requestFor request state mandate attempted bundleHash).requestId =
      request.requestId := rfl
  unfold evaluate
  rw [buildCedarRequest_ok bundleHash hmandate howner hclass h.weight_eq, hrequest]
  simp only [clientAuthorize, not_lt.mpr h.size_le, if_false, sidecarAuthorize, hconforms,
    hversion, hbundle, hid, ne_eq, not_true_eq_false, decide_false, Bool.or_self,
    Bool.false_eq_true, reduceCtorEq, bind, Except.bind]
  rfl

omit [Sha256] in
/-- No metadata reason is the governor's own. -/
theorem metadata_given : ∀ entry ∈ metadata, EngineReason entry.2.reasonCode := by
  decide +kernel

omit [Sha256] in
theorem signalFor_given {id : String} {entry : Nat × PolicySignal}
    (h : signalFor request state id = .ok entry) : EngineReason entry.2.reasonCode := by
  unfold signalFor at h
  cases hitem : metadataOf id with
  | none => simp [hitem, mappingError] at h
  | some item =>
      have hcode := metadata_given _ (metadataOf_eq_some_iff.mp hitem)
      cases htext : becauseFor request state item with
      | error x => simp [hitem, htext, bind, Except.bind] at h
      | ok text =>
          simp only [hitem, htext, bind, Except.bind, Except.ok.injEq] at h
          rw [← h]
          exact hcode

omit [Sha256] in
/-- The mapping never gives the governor's own reason. -/
theorem mapResponse_given (response : CedarAuthorizationResponse) :
    AnswerGiven (mapResponse request state response) := by
  unfold mapResponse
  split
  · exact .error _
  · split
    · exact .error _
    · split
      · exact .singleton (by decide)
      · split
        · exact .error _
        · dsimp only
          split
          all_goals
            refine .bind fun ids _ => .bind fun entries hentries => ?_
            rintro signals ⟨⟩ item hmem
            obtain ⟨entry, hentry, rfl⟩ := List.mem_map.mp hmem
            rw [(List.perm_insertionSort _ _).mem_iff] at hentry
            obtain ⟨id, -, hsignal⟩ := (mem_of_mapM hentries).2 entry hentry
            exact signalFor_given hsignal

/-- The engine never gives the governor's own reason. -/
theorem evaluate_given (bundleHash : String) (request : PolicyRequest)
    (state : TrajectoryState) : AnswerGiven (evaluate bundleHash request state) := by
  refine .bind fun built _ => .bind fun response _ => ?_
  split
  · exact .error _
  · split
    · exact .error _
    · split
      · exact .error _
      · exact mapResponse_given response

/-- Every reason the engine gives is catalogued. -/
theorem evaluate_catalogued (bundleHash : String) (request : PolicyRequest)
    (state : TrajectoryState) : AnswerCatalogued (evaluate bundleHash request state) :=
  (evaluate_given bundleHash request state).catalogued

/-- The bundle's reading of an admitted request. -/
abbrev authFor (request : PolicyRequest) (state : TrajectoryState) (mandate : ShipmentMandate)
    (attempted : Int) (bundleHash : String) : AuthRequest :=
  (requestFor request state mandate attempted bundleHash).toAuthRequest

theorem registered_of_admitted (h : Admitted request state mandate) :
    registered (authFor request state mandate attempted bundleHash) = true := by
  obtain ⟨c, hmem, hc⟩ := h.class_mem
  have hclass : c.value ∈ (mandate.allowedEffectClasses.map (·.value)).insertionSort (· ≤ ·) :=
    (List.perm_insertionSort _ _).mem_iff.mpr (List.mem_map_of_mem hmem)
  simp [registered, authFor, requestFor, cedarRequestFor,
    CedarAuthorizationRequest.toAuthRequest, authContext, h.owner_eq, h.version_eq, hc, hclass]

end Manifest.Cedar
