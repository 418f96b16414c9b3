import Manifest.Api.Access
import Manifest.Fixtures.Validation
import Manifest.Ledger.Tampering
import Manifest.Projections.Projection

/-!
# The HTTP interface

The request handlers over a service whose repository is in memory.  Routing, the decoding of
bodies and their validation are the framework's; what the schemas ask for is stated here.

Main results:

- Definition `Api.serve`: the answer to one request, and the world after it.
- Theorems `Api.answerError_status` and `Api.failedRunStatus_ge`: no failure is answered as a
  success.
-/

set_option autoImplicit false

namespace Manifest

open Interaction

/-- `reset_demo_namespace` of the in-memory repository: every table is cleared. -/
def MemoryTraceStore.resetDemoNamespace (store : MemoryTraceStore) : Nat × MemoryTraceStore :=
  (store.runs.size, {})

/-- The orders a service offers, each with the weight its fixtures give. -/
structure OrderSummary where
  orderId : String
  cargoClass : String
  shipmentWeightKg : Int
  currency : String
  scenarios : List ScenarioName := [.benign, .adversarial]

/-- `list_orders`. -/
def RunService.listOrders [Sha256] (service : RunService) : Except PyError (List OrderSummary) := do
  let orders ← service.loader.listOrders
  orders.mapM fun order => do
    let fact ← service.loader.getInventoryFact order
    .ok { orderId := order.orderId, cargoClass := order.cargoClass
          shipmentWeightKg := fact.shipmentWeightKg, currency := order.currency }

namespace Api

/-! ## Requests -/

/-- The body of a request: no JSON at all, JSON of another shape, or the fields of a schema. -/
inductive Body (α : Type) where
  | undecodable
  | misshapen
  | read (request : α)

structure RunRequest where
  orderId : String
  mode : String := "enforce"
  scenario : String := "benign"

def RunRequest.valid (request : RunRequest) : Bool :=
  1 ≤ request.orderId.length && ["shadow", "enforce"].contains request.mode &&
    ["benign", "adversarial"].contains request.scenario

structure ApprovalDecisionRequest where
  decision : String
  approverLabel : String
  comment : Option String := none
  expectedVersion : Int
  idempotencyKey : String

/-- `^DEMO-APPROVER-[A-Z0-9-]+$`. -/
def approverLabelled (label : String) : Bool :=
  match dropCharsPrefix "DEMO-APPROVER-".toList label.toList with
  | some rest => !rest.isEmpty && rest.all fun c => c.isUpper || c.isDigit || c = '-'
  | none => false

def ApprovalDecisionRequest.valid (request : ApprovalDecisionRequest) : Bool :=
  ["approve", "reject"].contains request.decision &&
    (3 ≤ request.approverLabel.length && request.approverLabel.length ≤ 64 &&
      approverLabelled request.approverLabel) &&
    request.comment.all (fun comment => comment.length ≤ 280) &&
    1 ≤ request.expectedVersion &&
    (8 ≤ request.idempotencyKey.length && request.idempotencyKey.length ≤ 128)

/-- The command a request of the schema stands for. -/
def ApprovalDecisionRequest.command (request : ApprovalDecisionRequest) : ApprovalCommand where
  decision := if request.decision = "approve" then .approve else .reject
  approverLabel := request.approverLabel
  comment := request.comment
  expectedVersion := request.expectedVersion
  idempotencyKey := request.idempotencyKey

structure TamperRequest where
  sequence : Int
  replacementSummary : String

def TamperRequest.valid (request : TamperRequest) : Bool :=
  1 ≤ request.sequence && 1 ≤ request.replacementSummary.length &&
    request.replacementSummary.length ≤ 280

/-- The endpoints with what they are sent.  A query names a status by its member. -/
inductive Endpoint where
  | listOrders
  | startRun (body : Body RunRequest)
  | getRun (traceId : String)
  | getEvents (traceId : String)
  | verifyTrace (traceId : String)
  | getDashboardProjection (traceId : String)
  | getDecisions (traceId : String)
  | listApprovals (traceId : Option String) (status : Option ApprovalStatus)
  | getApproval (approvalId : String)
  | decideApproval (approvalId : String) (body : Body ApprovalDecisionRequest)
      (approverSecret : Option String)
  | resetDemo
  | tamperTraceForDemo (traceId : String) (body : Body TamperRequest)
      (tamperSecret : Option String)

/-- A request as it is served: its endpoint and access header, the environment and the clock at
that moment, and a name for what it draws from the host. -/
structure Request where
  endpoint : Endpoint
  demoSecret : Option String
  environ : Environ
  now : Timestamp
  ticket : String

/-! ## Responses -/

inductive Content where
  | error (code message : String) (traceId : Option String)
  | failure
  | orders (items : List OrderSummary)
  | run (summary : RunSummary)
  | events (traceId : String) (items : List TraceEvent)
  | verification (result : VerificationResult)
  | projection (projection : DashboardProjection)
  | decisions (traceId : String) (items : List Decision)
  | approvals (items : List ApprovalRecord)
  | approval (item : ApprovalRecord)
  | resolution (resolution : ApprovalResolution)
  | reset (status : String) (removedRunCount : Nat)
  | tampered (result : TamperResult)

structure Response where
  status : Nat
  content : Content

/-- `_error_status` of the classes the service raises. -/
def errorStatus : ErrorClass → Nat
  | .orderNotFound | .traceNotFound | .approvalNotFound => 404
  | .approvalExpired => 410
  | .approvalActionMismatch | .approvalStateMismatch | .approvalPolicyMismatch
  | .approvalIdempotencyConflict | .approvalNotPending | .approvalVersionConflict
  | .approvalPersistenceConflict | .approverConflict | .ledgerIdempotencyConflict
  | .traceRevisionConflict => 409
  | .unsupportedMode | .unsupportedScenario | .ledgerTamperValidation => 422
  | .fixture => 503
  | .ledgerAppend => 500
  | _ => 400

/-- `_error_status` of the classes the access checks raise. -/
def accessStatus : AccessError → Nat
  | .approverUnauthorized | .demoAccessUnauthorized | .ledgerTamperUnauthorized => 401
  | .ledgerTamperDisabled => 404
  | .approvalAuthNotConfigured | .demoAccessNotConfigured => 503

/-- `_failed_run_status`. -/
def failedRunStatus (errorCode : String) : Nat :=
  if errorCode = "PROVIDER_TIMEOUT" then 504
  else if errorCode = "PROVIDER_RATE_LIMITED" then 429
  else if startsWith "PROVIDER_" errorCode then 503
  else 500

/-- `manifest_error_handler`; other exceptions become the framework's plain failure. -/
def answerError : ApiError → Response
  | .access x => ⟨accessStatus x, .error x.code x.message none⟩
  | .raised x =>
      if x.isManifest then ⟨errorStatus x.cls, .error x.cls.code x.message none⟩
      else ⟨500, .failure⟩

theorem accessStatus_ge (x : AccessError) : 400 ≤ accessStatus x := by
  cases x
  all_goals decide

theorem errorStatus_ge (cls : ErrorClass) : 400 ≤ errorStatus cls := by
  cases cls
  all_goals decide

theorem failedRunStatus_ge (errorCode : String) : 400 ≤ failedRunStatus errorCode := by
  unfold failedRunStatus
  split_ifs
  all_goals decide

/-- No exception is answered as a success. -/
theorem answerError_status (x : ApiError) : 400 ≤ (answerError x).status := by
  cases x with
  | access x => exact accessStatus_ge x
  | raised x =>
      unfold answerError
      dsimp only
      split_ifs
      · exact errorStatus_ge x.cls
      · decide

/-- `validation_error_handler`. -/
def answerInvalid : Response :=
  ⟨422, .error "VALIDATION_ERROR" "The request is not valid for this endpoint." none⟩

/-- Answer a reply of the service. -/
def answer {α : Type} (reply : Except PyError α) (status : Nat) (content : α → Content) :
    Response :=
  match reply with
  | .ok a => ⟨status, content a⟩
  | .error x => answerError (.raised x)

/-! ## Handlers -/

section Handlers

variable [Sha256] (service : RunService) (host : Host)

/-- Run a procedure of the service. -/
def runService {α : Type} (m : Svc α) (w : World) : Except PyError α × World :=
  let exit := m.exec (World.handle service.loader host) () w
  (exit.result, exit.env)

/-- The answer to a run that failed: the code of its last failure. -/
def answerFailedRun (w : World) (summary : RunSummary) : Response :=
  match w.store.loadTrace summary.traceId with
  | .error x => answerError (.raised x)
  | .ok state =>
      let errorCode :=
        match state.events.reverse.find? fun item => item.eventType = .runFailed with
        | some failed => (failed.details.getD "error_code" (.str "UNEXPECTED_ERROR")).pyStr
        | none => "UNEXPECTED_ERROR"
      let message := ((summary.error.filter (· ≠ "")).getD "The governed run failed.")
      ⟨failedRunStatus errorCode, .error errorCode message (some summary.traceId)⟩

/-- `start_run`. -/
def startRun (ticket : String) (request : RunRequest) (w : World) : Response × World :=
  let (reply, w') :=
    runService service host (service.startRun ticket request.orderId request.mode request.scenario) w
  match reply with
  | .error x => (answerError (.raised x), w')
  | .ok summary =>
      if summary.status = .failed then (answerFailedRun w' summary, w')
      else (⟨201, .run summary⟩, w')

/-- `decide_approval`. -/
def decideApproval (environ : Environ) (approvalId : String) (request : ApprovalDecisionRequest)
    (approverSecret : Option String) (w : World) : Response × World :=
  match verifyDemoApproverSecret environ approverSecret with
  | .error x => (answerError x, w)
  | .ok () =>
      let (reply, w') :=
        runService service host (service.resolveApproval approvalId request.command) w
      (answer reply 200 .resolution, w')

/-- `reset_demo`. -/
def resetDemo (w : World) : Response × World :=
  let (removed, store) := w.store.resetDemoNamespace
  (⟨200, .reset "reset" removed⟩, { w with store := store, mocks := {} })

/-- `tamper_trace_for_demo`. -/
def tamperTraceForDemo (environ : Environ) (traceId : String) (request : TamperRequest)
    (tamperSecret : Option String) (w : World) : Response × World :=
  match verifyDemoTamperSecret environ tamperSecret with
  | .error x => (answerError x, w)
  | .ok () =>
      let (reply, store) :=
        w.store.tamperEventSummaryForDemo traceId request.sequence request.replacementSummary
      (answer reply 200 .tampered, { w with store := store })

/-- `list_approvals`: a trace that is named must exist. -/
def listApprovals (traceId : Option String) (status : Option ApprovalStatus) (w : World) :
    Response :=
  match traceId with
  | none => ⟨200, .approvals (w.store.listApprovals none status)⟩
  | some traceId =>
      answer (w.store.loadTrace traceId) 200 fun _ =>
        .approvals (w.store.listApprovals (some traceId) status)

/-- The handlers that only read. -/
def readEndpoint (now : Timestamp) (w : World) : Endpoint → Response
  | .listOrders => answer service.listOrders 200 .orders
  | .getRun traceId => answer (w.store.loadTrace traceId) 200 fun state =>
      .run (RunSummary.fromState state service.engineName)
  | .getEvents traceId => answer (w.store.loadTrace traceId) 200 fun state =>
      .events traceId state.events
  | .verifyTrace traceId => answer (w.store.verifyTrace traceId now) 200 .verification
  | .getDashboardProjection traceId => answer (w.store.loadTrace traceId) 200 fun state =>
      .projection (Dashboard.buildDashboardProjection state)
  | .getDecisions traceId => answer (w.store.loadTrace traceId) 200 fun state =>
      .decisions traceId state.decisions
  | .listApprovals traceId status => listApprovals traceId status w
  | .getApproval approvalId => answer (w.store.getApproval approvalId) 200 .approval
  | _ => answerInvalid

/-- A mutation with a body: undecodable bodies are refused before the access check, invalid ones
after it. -/
def mutate {α : Type} (request : Request) (body : Body α) (valid : α → Bool)
    (handler : α → World → Response × World) (w : World) : Response × World :=
  match body with
  | .undecodable => (answerInvalid, w)
  | .misshapen =>
      match verifyDemoAccessSecret request.environ request.demoSecret with
      | .error x => (answerError x, w)
      | .ok () => (answerInvalid, w)
  | .read fields =>
      match verifyDemoAccessSecret request.environ request.demoSecret with
      | .error x => (answerError x, w)
      | .ok () => if valid fields then handler fields w else (answerInvalid, w)

/-- The answer to one request, and the world after it. -/
def serve (request : Request) (w : World) : Response × World :=
  match request.endpoint with
  | .startRun body =>
      mutate request body RunRequest.valid (startRun service host request.ticket) w
  | .decideApproval approvalId body approverSecret =>
      mutate request body ApprovalDecisionRequest.valid
        (fun fields => decideApproval service host request.environ approvalId fields approverSecret)
        w
  | .resetDemo =>
      mutate request (.read ()) (fun _ => true) (fun _ => resetDemo) w
  | .tamperTraceForDemo traceId body tamperSecret =>
      mutate request body TamperRequest.valid
        (fun fields => tamperTraceForDemo request.environ traceId fields tamperSecret) w
  | endpoint => (readEndpoint service request.now w endpoint, w)

/-- Serve requests in order: each with its answer, and the world after them. -/
def serveAll : List Request → World → List (Request × Response) × World
  | [], w => ([], w)
  | request :: rest, w =>
      let (response, w') := serve service host request w
      let (served, w'') := serveAll rest w'
      ((request, response) :: served, w'')

end Handlers

end Api

end Manifest
