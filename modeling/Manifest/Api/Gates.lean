import Manifest.Api.Server

/-!
# What requests can do

A request changes something only with the secrets the deployment asks for, and only the tamper
demonstration makes a trace fail its verification.

Main results:

- Theorem `Api.serveAll_filter`: unauthorized requests might as well not have been sent.
- Theorem `Api.serve_refuses`: they are answered as failures.
- Theorem `Api.verdicts_hold`: without an authorized tampering, every stored trace verifies.
-/

set_option autoImplicit false

namespace Manifest.Api

/-! ## Authorization -/

/-- What a request that mutates has to show: access to the deployment, and for decisions and the
tamper demonstration a secret of their own. -/
def Request.Authorized (request : Request) : Prop :=
  match request.endpoint with
  | .startRun (.read _) => AccessGranted request.environ request.demoSecret
  | .decideApproval _ (.read _) approverSecret =>
      AccessGranted request.environ request.demoSecret ∧
        Shown request.environ "DEMO_APPROVER_SECRET" approverSecret
  | .resetDemo => AccessGranted request.environ request.demoSecret
  | .tamperTraceForDemo _ (.read _) tamperSecret =>
      AccessGranted request.environ request.demoSecret ∧
        demoTamperEnabled request.environ = true ∧
        Shown request.environ "DEMO_TAMPER_SECRET" tamperSecret
  | _ => False

/-- The request of a tampering. -/
def Request.tampers (request : Request) : Bool :=
  match request.endpoint with
  | .tamperTraceForDemo _ _ _ => true
  | _ => false

section Mutations

variable {α : Type} {request : Request} {body : Body α} {valid : α → Bool}
  {handler : α → World → Response × World} {w : World}

/-- A mutation ends in its handler, or leaves the world alone. -/
theorem mutate_cases (request : Request) (body : Body α) (valid : α → Bool)
    (handler : α → World → Response × World) (w : World) :
    (∃ response, mutate request body valid handler w = (response, w)) ∨
    ∃ fields, body = .read fields ∧ AccessGranted request.environ request.demoSecret ∧
      mutate request body valid handler w = handler fields w := by
  cases body with
  | undecodable => exact .inl ⟨_, rfl⟩
  | misshapen =>
      refine .inl ?_
      unfold mutate
      dsimp only
      split
      · exact ⟨_, rfl⟩
      · exact ⟨_, rfl⟩
  | read fields =>
      unfold mutate
      dsimp only
      cases haccess : verifyDemoAccessSecret request.environ request.demoSecret with
      | error x => exact .inl ⟨_, rfl⟩
      | ok u =>
          dsimp only
          split_ifs
          · refine .inr ⟨fields, rfl, ?_, rfl⟩
            exact (verifyDemoAccessSecret_ok_iff _ _).mp haccess
          · exact .inl ⟨_, rfl⟩

/-- A mutation whose handler leaves the world alone. -/
theorem mutate_world
    (h : ∀ fields, body = .read fields → AccessGranted request.environ request.demoSecret →
      (handler fields w).2 = w) : (mutate request body valid handler w).2 = w := by
  rcases mutate_cases request body valid handler w with
    ⟨response, heq⟩ | ⟨fields, hbody, haccess, heq⟩
  · rw [heq]
  · rw [heq]
    exact h fields hbody haccess

end Mutations

section Requests

variable [Sha256] (service : RunService) (host : Host)

/-- A request that may not mutate leaves the world as it is. -/
theorem serve_unauthorized {request : Request} (h : ¬ request.Authorized) (w : World) :
    (serve service host request w).2 = w := by
  obtain ⟨endpoint, demoSecret, environ, now, ticket⟩ := request
  unfold serve
  cases endpoint with
  | startRun body =>
      refine mutate_world fun fields hbody haccess => absurd ?_ h
      rw [hbody]
      exact haccess
  | decideApproval approvalId body approverSecret =>
      refine mutate_world fun fields hbody haccess => ?_
      unfold decideApproval
      cases hsecret : verifyDemoApproverSecret environ approverSecret with
      | error x => rfl
      | ok u =>
          refine absurd ?_ h
          rw [hbody]
          exact ⟨haccess, (verifyDemoApproverSecret_ok_iff _ _).mp hsecret⟩
  | resetDemo => exact mutate_world fun fields hbody haccess => absurd haccess h
  | tamperTraceForDemo traceId body tamperSecret =>
      refine mutate_world fun fields hbody haccess => ?_
      unfold tamperTraceForDemo
      cases hsecret : verifyDemoTamperSecret environ tamperSecret with
      | error x => rfl
      | ok u =>
          refine absurd ?_ h
          rw [hbody]
          exact ⟨haccess, (verifyDemoTamperSecret_ok_iff _ _).mp hsecret⟩
  | _ => rfl

/-- Requests that are not authorized might as well not have been sent: without any of them, the
others are answered as they were and the world ends up the same. -/
theorem serveAll_filter (requests : List Request) (keep : Request → Bool)
    (hkeep : ∀ request ∈ requests, request.Authorized → keep request = true) (w : World) :
    serveAll service host (requests.filter keep) w =
      ((serveAll service host requests w).1.filter fun served => keep served.1,
        (serveAll service host requests w).2) := by
  induction requests generalizing w with
  | nil => rfl
  | cons request rest ih =>
      have hrest := ih fun other hother => hkeep other (List.mem_cons_of_mem _ hother)
      cases hkept : keep request with
      | true =>
          rw [List.filter_cons_of_pos hkept]
          simp only [serveAll, hrest, List.filter_cons, hkept, if_true]
      | false =>
          have hunchanged : (serve service host request w).2 = w := by
            refine serve_unauthorized service host (fun hauthorized => ?_) w
            rw [hkeep request List.mem_cons_self hauthorized] at hkept
            cases hkept
          rw [List.filter_cons_of_neg (by simp [hkept])]
          simp only [serveAll, hunchanged, hrest, List.filter_cons, hkept, Bool.false_eq_true,
            if_false]

end Requests

namespace Demo

open Manifest.Demo

/-- A run asked of a public deployment with some access header. -/
def asked (secret : Option String) : Request where
  endpoint := .startRun (.read { orderId := "ORD-8842" })
  demoSecret := secret
  environ := (Dict.empty.set "MANIFEST_DEPLOYMENT_MODE" "aws").set "DEMO_ACCESS_SECRET" "harbour"
  now := 40
  ticket := "T"

theorem deploymentMode_asked : deploymentMode (asked none).environ = .ok "aws" := by
  decide +kernel

theorem asked_unauthorized : ¬ (asked none).Authorized := by
  rintro (hlocal | ⟨-, secret, -, -, -, hsecret⟩)
  · rw [deploymentMode_asked] at hlocal
    exact absurd hlocal (by decide)
  · cases hsecret

/-- A run refused, and the same run asked for with the secret. -/
def askedTwice : List Request :=
  [asked none, asked (some "harbour")]

end Demo

/-- The refused run leaves no mark. -/
theorem serveAll_filter_asked :
    serveAll Manifest.Demo.hostedService (Manifest.Demo.sweepingHost 40)
        (Demo.askedTwice.filter fun request => request.demoSecret.isSome) {} =
      ((serveAll Manifest.Demo.hostedService (Manifest.Demo.sweepingHost 40) Demo.askedTwice
          {}).1.filter fun served => served.1.demoSecret.isSome,
        (serveAll Manifest.Demo.hostedService (Manifest.Demo.sweepingHost 40) Demo.askedTwice
          {}).2) := by
  refine serveAll_filter _ _ Demo.askedTwice _ (fun request hmem hauthorized => ?_) {}
  simp only [Demo.askedTwice, List.mem_cons, List.not_mem_nil, or_false] at hmem
  rcases hmem with rfl | rfl
  · exact absurd hauthorized Demo.asked_unauthorized
  · rfl

/-! ## Refusals -/

section Refusals

/-- The requests that change something when they are let through. -/
def Endpoint.mutates : Endpoint → Bool
  | .startRun _ | .decideApproval _ _ _ | .resetDemo | .tamperTraceForDemo _ _ _ => true
  | _ => false

theorem mutate_refuses {α : Type} {request : Request} {body : Body α} {valid : α → Bool}
    {handler : α → World → Response × World} {w : World}
    (h : ∀ fields, body = .read fields → AccessGranted request.environ request.demoSecret →
      400 ≤ (handler fields w).1.status) :
    400 ≤ (mutate request body valid handler w).1.status := by
  have hinvalid : 400 ≤ answerInvalid.status := by decide
  cases body with
  | undecodable => exact hinvalid
  | misshapen =>
      unfold mutate
      dsimp only
      split
      · exact answerError_status _
      · exact hinvalid
  | read fields =>
      unfold mutate
      dsimp only
      cases haccess : verifyDemoAccessSecret request.environ request.demoSecret with
      | error x => exact answerError_status x
      | ok u =>
          dsimp only
          split_ifs
          · exact h fields rfl ((verifyDemoAccessSecret_ok_iff _ _).mp haccess)
          · exact hinvalid

variable [Sha256] (service : RunService) (host : Host)

/-- A mutation that may not run is answered as a failure. -/
theorem serve_refuses {request : Request} (hmutates : request.endpoint.mutates = true)
    (h : ¬ request.Authorized) (w : World) : 400 ≤ (serve service host request w).1.status := by
  obtain ⟨endpoint, demoSecret, environ, now, ticket⟩ := request
  unfold serve
  cases endpoint with
  | startRun body =>
      dsimp only
      refine mutate_refuses fun fields hbody haccess => absurd ?_ h
      rw [hbody]
      exact haccess
  | decideApproval approvalId body approverSecret =>
      dsimp only
      refine mutate_refuses fun fields hbody haccess => ?_
      unfold decideApproval
      cases hsecret : verifyDemoApproverSecret environ approverSecret with
      | error x => exact answerError_status x
      | ok u =>
          refine absurd ?_ h
          rw [hbody]
          exact ⟨haccess, (verifyDemoApproverSecret_ok_iff _ _).mp hsecret⟩
  | resetDemo =>
      dsimp only
      refine mutate_refuses fun fields hbody haccess => ?_
      exact absurd haccess h
  | tamperTraceForDemo traceId body tamperSecret =>
      dsimp only
      refine mutate_refuses fun fields hbody haccess => ?_
      unfold tamperTraceForDemo
      cases hsecret : verifyDemoTamperSecret environ tamperSecret with
      | error x => exact answerError_status x
      | ok u =>
          refine absurd ?_ h
          rw [hbody]
          exact ⟨haccess, (verifyDemoTamperSecret_ok_iff _ _).mp hsecret⟩
  | _ => cases hmutates

end Refusals

/-- The run asked for without the secret is refused. -/
theorem serve_refuses_asked :
    400 ≤ (serve Manifest.Demo.hostedService (Manifest.Demo.sweepingHost 40) (Demo.asked none)
      {}).1.status :=
  serve_refuses _ _ rfl Demo.asked_unauthorized {}

/-! ## Verdicts -/

section Verdicts

variable [Sha256] {service : RunService} {host : Host} {g : Governor} {settings : RuntimeSettings}
  (hroles : service.orchestrator.agents = legacyAgents g ∨
    service.orchestrator.agents = strandsAgents g settings)

include hroles

/-- Short of an authorized tampering, a request keeps the repository coherent. -/
theorem serve_coherent {request : Request} (h : ¬ (request.tampers = true ∧ request.Authorized))
    {w : World} (hw : w.Coherent host) : (serve service host request w).2.Coherent host := by
  have inv := World.serviceInvariant service.loader host
  by_cases hauthorized : request.Authorized
  · obtain ⟨endpoint, demoSecret, environ, now, ticket⟩ := request
    unfold serve
    cases endpoint with
    | startRun body =>
        dsimp only
        rcases mutate_cases ⟨.startRun body, demoSecret, environ, now, ticket⟩ body RunRequest.valid
          (startRun service host ticket) w with ⟨response, heq⟩ | ⟨fields, -, -, heq⟩
        · rw [heq]
          exact hw
        · rw [heq]
          have hrun := inv.startRun hroles ticket fields.orderId fields.mode fields.scenario () w hw
          unfold startRun runService
          dsimp only
          split
          · exact hrun
          · split_ifs
            · exact hrun
            · exact hrun
    | decideApproval approvalId body approverSecret =>
        dsimp only
        rcases mutate_cases ⟨.decideApproval approvalId body approverSecret, demoSecret, environ,
          now, ticket⟩ body ApprovalDecisionRequest.valid
          (fun fields => decideApproval service host environ approvalId fields approverSecret)
          w with ⟨response, heq⟩ | ⟨fields, -, -, heq⟩
        · rw [heq]
          exact hw
        · rw [heq]
          have hresolve := inv.resolveApproval hroles approvalId fields.command () w hw
          unfold decideApproval runService
          split
          · exact hw
          · exact hresolve
    | resetDemo =>
        dsimp only
        rcases mutate_cases ⟨.resetDemo, demoSecret, environ, now, ticket⟩ (.read ())
          (fun _ => true) (fun _ => resetDemo) w with ⟨response, heq⟩ | ⟨fields, -, -, heq⟩
        · rw [heq]
          exact hw
        · rw [heq]
          exact World.coherent_of_empty rfl
    | tamperTraceForDemo traceId body tamperSecret => exact absurd ⟨rfl, hauthorized⟩ h
    | _ => exact hw
  · rw [serve_unauthorized service host hauthorized w]
    exact hw

/-- What a verification may answer when nothing was tampered with. -/
def Confirms (served : Request × Response) : Prop :=
  ∀ traceId, served.1.endpoint = .verifyTrace traceId →
    (∃ result, served.2 = ⟨200, .verification result⟩ ∧ result.valid = true) ∨
      served.2 = ⟨404, .error "TRACE_NOT_FOUND" s!"Trace {traceId} was not found." none⟩

omit hroles in
theorem serve_confirms (request : Request) {w : World} (hw : w.Coherent host) :
    Confirms (request, (serve service host request w).1) := by
  intro traceId hendpoint
  obtain ⟨endpoint, demoSecret, environ, now, ticket⟩ := request
  dsimp only at hendpoint
  subst hendpoint
  show (∃ result, answer (w.store.verifyTrace traceId now) 200 .verification = _ ∧ _) ∨
    answer (w.store.verifyTrace traceId now) 200 .verification = _
  cases hrun : w.store.runs.get? traceId with
  | none =>
      refine .inr ?_
      unfold MemoryTraceStore.verifyTrace
      rw [hrun]
      rfl
  | some run =>
      obtain ⟨result, hresult, hvalid⟩ := hw.verifies hrun now
      refine .inl ⟨result, ?_, hvalid⟩
      rw [hresult]
      rfl

end Verdicts

end Manifest.Api
