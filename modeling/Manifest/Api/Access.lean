import Manifest.Domain.Errors
import Manifest.Lib.Dict
import Manifest.Lib.Fallible
import Manifest.Lib.PyText

/-!
# Access to the HTTP interface

The mutations of a public deployment ask for a shared secret; decisions and the tamper
demonstration ask for one of their own.

Main results:

- Theorem `Api.checkSecret_ok_iff`: a check passes when the configured secret was supplied.
- Theorems `Api.verifyDemoAccessSecret_ok_iff`, `Api.verifyDemoApproverSecret_ok_iff` and
  `Api.verifyDemoTamperSecret_ok_iff`: when each of the three checks passes.
-/

set_option autoImplicit false

namespace Manifest.Api

open Fallible

/-! ## Exceptions -/

/-- The exception classes of the access checks. -/
inductive AccessError where
  | approverUnauthorized
  | approvalAuthNotConfigured
  | demoAccessNotConfigured
  | demoAccessUnauthorized
  | ledgerTamperDisabled
  | ledgerTamperUnauthorized
deriving DecidableEq, Repr

def AccessError.code : AccessError → String
  | .approverUnauthorized => "APPROVER_UNAUTHORIZED"
  | .approvalAuthNotConfigured => "APPROVAL_AUTH_NOT_CONFIGURED"
  | .demoAccessNotConfigured => "DEMO_ACCESS_NOT_CONFIGURED"
  | .demoAccessUnauthorized => "DEMO_ACCESS_UNAUTHORIZED"
  | .ledgerTamperDisabled => "LEDGER_TAMPER_DISABLED"
  | .ledgerTamperUnauthorized => "LEDGER_TAMPER_UNAUTHORIZED"

/-- Each class is raised with one message. -/
def AccessError.message : AccessError → String
  | .approverUnauthorized => "The demo approver secret is invalid."
  | .approvalAuthNotConfigured =>
      "Approval mutation is unavailable because the demo secret is not configured."
  | .demoAccessNotConfigured =>
      "Public demo mutations are unavailable because access is not configured."
  | .demoAccessUnauthorized => "The demo access secret is invalid."
  | .ledgerTamperDisabled => "The disposable tamper demo is disabled."
  | .ledgerTamperUnauthorized => "The demo tamper secret is invalid."

/-- What a request handler raises. -/
inductive ApiError where
  | access (x : AccessError)
  | raised (x : PyError)
deriving DecidableEq, Repr

/-! ## Checks -/

/-- `os.environ`. -/
abbrev Environ := Dict String String

/-- `deployment_mode`. -/
def deploymentMode (environ : Environ) : Except ApiError String :=
  let mode := PyText.lower (PyText.strip ((environ.get? "MANIFEST_DEPLOYMENT_MODE").getD "local"))
  if mode = "local" || mode = "aws" then .ok mode
  else .error (.raised (.ofPython "MANIFEST_DEPLOYMENT_MODE must be local or aws."))

/-- `demo_access_required`. -/
def demoAccessRequired (environ : Environ) : Except ApiError Bool := do
  let mode ← deploymentMode environ
  .ok (mode = "aws")

/-- `hmac.compare_digest` of two strings. -/
def compareDigest (configured supplied : String) : Except ApiError Bool :=
  if PyText.ascii configured && PyText.ascii supplied then .ok (configured = supplied)
  else .error (.raised
    (.ofPython "comparing strings with non-ASCII characters is not supported"))

/-- The check of one secret: it must be configured, and it must be the one supplied. -/
def checkSecret (configured supplied : Option String) (missing invalid : AccessError) :
    Except ApiError Unit :=
  match configured.filter (· ≠ "") with
  | none => .error (.access missing)
  | some secret =>
      match supplied with
      | none => .error (.access invalid)
      | some text => do
          let same ← compareDigest secret text
          if same then .ok () else .error (.access invalid)

/-- `verify_demo_access_secret`. -/
def verifyDemoAccessSecret (environ : Environ) (supplied : Option String) :
    Except ApiError Unit := do
  let required ← demoAccessRequired environ
  if required then
    checkSecret (environ.get? "DEMO_ACCESS_SECRET") supplied .demoAccessNotConfigured
      .demoAccessUnauthorized
  else .ok ()

/-- `verify_demo_approver_secret`. -/
def verifyDemoApproverSecret (environ : Environ) (supplied : Option String) :
    Except ApiError Unit :=
  checkSecret (environ.get? "DEMO_APPROVER_SECRET") supplied .approvalAuthNotConfigured
    .approverUnauthorized

/-- `demo_tamper_enabled`. -/
def demoTamperEnabled (environ : Environ) : Bool :=
  PyText.lower (PyText.strip ((environ.get? "ENABLE_DEMO_TAMPER").getD "")) = "true"

/-- `verify_demo_tamper_secret`. -/
def verifyDemoTamperSecret (environ : Environ) (supplied : Option String) :
    Except ApiError Unit :=
  if demoTamperEnabled environ then
    checkSecret (environ.get? "DEMO_TAMPER_SECRET") supplied .ledgerTamperUnauthorized
      .ledgerTamperUnauthorized
  else .error (.access .ledgerTamperDisabled)

/-! ## When the checks pass -/

/-- A secret is configured, and it is the one supplied. -/
def Shown (environ : Environ) (name : String) (supplied : Option String) : Prop :=
  ∃ secret, secret ≠ "" ∧ PyText.ascii secret = true ∧ environ.get? name = some secret ∧
    supplied = some secret

theorem checkSecret_ok_iff (environ : Environ) (name : String) (supplied : Option String)
    (missing invalid : AccessError) :
    checkSecret (environ.get? name) supplied missing invalid = .ok () ↔
      Shown environ name supplied := by
  unfold checkSecret Shown
  constructor
  · intro h
    split at h
    · cases h
    · rename_i secret hconfigured
      obtain ⟨hget, hnonempty⟩ := Option.filter_eq_some_iff.mp hconfigured
      split at h
      · cases h
      · rename_i text
        obtain ⟨same, hcompare, h⟩ := bind_eq_ok_iff.mp h
        unfold compareDigest at hcompare
        split_ifs at hcompare with hascii
        split_ifs at h with hsame
        cases hcompare
        simp only [Bool.and_eq_true] at hascii
        have htext : secret = text := by simpa using hsame
        exact ⟨secret, by simpa using hnonempty, hascii.1, hget, by rw [htext]⟩
  · rintro ⟨secret, hnonempty, hascii, hget, rfl⟩
    have hfilter : (environ.get? name).filter (· ≠ "") = some secret :=
      Option.filter_eq_some_iff.mpr ⟨hget, by simpa using hnonempty⟩
    rw [hfilter]
    simp [compareDigest, hascii, bind, Except.bind]

/-- Local deployments are open; public ones ask for the access secret. -/
def AccessGranted (environ : Environ) (supplied : Option String) : Prop :=
  deploymentMode environ = .ok "local" ∨
    deploymentMode environ = .ok "aws" ∧ Shown environ "DEMO_ACCESS_SECRET" supplied

/-- There are two deployment modes. -/
theorem deploymentMode_ok {environ : Environ} {mode : String}
    (h : deploymentMode environ = .ok mode) : mode = "local" ∨ mode = "aws" := by
  unfold deploymentMode at h
  generalize PyText.lower _ = text at h
  dsimp only at h
  split_ifs at h with hknown
  cases h
  simpa using hknown

theorem verifyDemoAccessSecret_ok_iff (environ : Environ) (supplied : Option String) :
    verifyDemoAccessSecret environ supplied = .ok () ↔ AccessGranted environ supplied := by
  unfold verifyDemoAccessSecret demoAccessRequired AccessGranted
  cases hmode : deploymentMode environ with
  | error x => simp [bind, Except.bind]
  | ok mode =>
      rcases deploymentMode_ok hmode with rfl | rfl
      · simp [bind, Except.bind]
      · simp only [bind, Except.bind, decide_true, if_true, Except.ok.injEq, String.reduceEq,
          true_and, false_or]
        exact checkSecret_ok_iff environ _ supplied _ _

theorem verifyDemoApproverSecret_ok_iff (environ : Environ) (supplied : Option String) :
    verifyDemoApproverSecret environ supplied = .ok () ↔
      Shown environ "DEMO_APPROVER_SECRET" supplied :=
  checkSecret_ok_iff environ _ supplied _ _

theorem verifyDemoTamperSecret_ok_iff (environ : Environ) (supplied : Option String) :
    verifyDemoTamperSecret environ supplied = .ok () ↔
      demoTamperEnabled environ = true ∧ Shown environ "DEMO_TAMPER_SECRET" supplied := by
  unfold verifyDemoTamperSecret
  split_ifs with henabled
  · rw [checkSecret_ok_iff]
    simp [henabled]
  · simp [henabled]

end Manifest.Api
