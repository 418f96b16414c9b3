import Mathlib.Logic.Function.Basic

/-!
# Enumerations shared by the runtime

Each enumeration carries the strings its members serialize to.
-/

set_option autoImplicit false

namespace Manifest

inductive AgentName where
  | inventory
  | dispatch
  | carrier
  | customerCommunications
deriving DecidableEq, Repr

def AgentName.value : AgentName → String
  | .inventory => "inventory"
  | .dispatch => "dispatch"
  | .carrier => "carrier"
  | .customerCommunications => "customer_communications"

inductive EffectClass where
  | read
  | reversibleWrite
  | financialCommit
  | physicalCommit
  | externalDisclosure
deriving DecidableEq, Repr

def EffectClass.value : EffectClass → String
  | .read => "read"
  | .reversibleWrite => "reversible_write"
  | .financialCommit => "financial_commit"
  | .physicalCommit => "physical_commit"
  | .externalDisclosure => "external_disclosure"

inductive RunStatus where
  | pending
  | running
  | completed
  | blocked
  | pendingApproval
  | cancelled
  | failed
deriving DecidableEq, Repr

def RunStatus.value : RunStatus → String
  | .pending => "pending"
  | .running => "running"
  | .completed => "completed"
  | .blocked => "blocked"
  | .pendingApproval => "pending_approval"
  | .cancelled => "cancelled"
  | .failed => "failed"

inductive GovernanceMode where
  | shadow
  | enforce
deriving DecidableEq, Repr

def GovernanceMode.value : GovernanceMode → String
  | .shadow => "shadow"
  | .enforce => "enforce"

inductive ScenarioName where
  | benign
  | adversarial
deriving DecidableEq, Repr

def ScenarioName.value : ScenarioName → String
  | .benign => "benign"
  | .adversarial => "adversarial"

inductive DecisionOutcome where
  | allow
  | guide
  | block
  | escalate
deriving DecidableEq, Repr

def DecisionOutcome.value : DecisionOutcome → String
  | .allow => "allow"
  | .guide => "guide"
  | .block => "block"
  | .escalate => "escalate"

inductive CommitmentStatus where
  | prepared
  | pendingApproval
  | approved
  | rejected
  | confirmed
  | cancelled
  | expired
deriving DecidableEq, Repr

def CommitmentStatus.value : CommitmentStatus → String
  | .prepared => "prepared"
  | .pendingApproval => "pending_approval"
  | .approved => "approved"
  | .rejected => "rejected"
  | .confirmed => "confirmed"
  | .cancelled => "cancelled"
  | .expired => "expired"

inductive ApprovalDecision where
  | approve
  | reject
deriving DecidableEq, Repr

def ApprovalDecision.value : ApprovalDecision → String
  | .approve => "approve"
  | .reject => "reject"

inductive ApprovalStatus where
  | pendingApproval
  | approved
  | rejected
  | expired
deriving DecidableEq, Repr

def ApprovalStatus.value : ApprovalStatus → String
  | .pendingApproval => "pending_approval"
  | .approved => "approved"
  | .rejected => "rejected"
  | .expired => "expired"

inductive WorkflowStage where
  | started
  | inventoryComplete
  | dispatchComplete
  | bookingPrepared
  | awaitingApproval
  | bookingConfirmed
  | notificationSent
  | complete
  | cancelled
  | blocked
  | failed
deriving DecidableEq, Repr

def WorkflowStage.value : WorkflowStage → String
  | .started => "started"
  | .inventoryComplete => "inventory_complete"
  | .dispatchComplete => "dispatch_complete"
  | .bookingPrepared => "booking_prepared"
  | .awaitingApproval => "awaiting_approval"
  | .bookingConfirmed => "booking_confirmed"
  | .notificationSent => "notification_sent"
  | .complete => "complete"
  | .cancelled => "cancelled"
  | .blocked => "blocked"
  | .failed => "failed"

inductive EventType where
  | runStarted
  | agentStarted
  | toolAttempted
  | governanceObserved
  | policyDecided
  | toolGuided
  | toolBlocked
  | approvalRequired
  | runPaused
  | toolSucceeded
  | toolFailed
  | agentCompleted
  | agentModelCompleted
  | agentPaused
  | agentResumed
  | approvalApproved
  | approvalRejected
  | approvalExpired
  | runResumed
  | runCancelled
  | runCompleted
  | runFailed
deriving DecidableEq, Repr

def EventType.value : EventType → String
  | .runStarted => "run_started"
  | .agentStarted => "agent_started"
  | .toolAttempted => "tool_attempted"
  | .governanceObserved => "governance_observed"
  | .policyDecided => "policy_decided"
  | .toolGuided => "tool_guided"
  | .toolBlocked => "tool_blocked"
  | .approvalRequired => "approval_required"
  | .runPaused => "run_paused"
  | .toolSucceeded => "tool_succeeded"
  | .toolFailed => "tool_failed"
  | .agentCompleted => "agent_completed"
  | .agentModelCompleted => "agent_model_completed"
  | .agentPaused => "agent_paused"
  | .agentResumed => "agent_resumed"
  | .approvalApproved => "approval_approved"
  | .approvalRejected => "approval_rejected"
  | .approvalExpired => "approval_expired"
  | .runResumed => "run_resumed"
  | .runCancelled => "run_cancelled"
  | .runCompleted => "run_completed"
  | .runFailed => "run_failed"

/-- Effect classes are told apart by the strings they serialize to. -/
theorem EffectClass.value_injective : Function.Injective EffectClass.value := by
  intro a b h
  cases a <;> cases b <;> first | rfl | (simp [EffectClass.value] at h)

/-- Event types are told apart by the strings they serialize to. -/
theorem EventType.value_injective : Function.Injective EventType.value := by
  intro a b h
  cases a <;> cases b <;> first | rfl | (simp [EventType.value] at h)

/-- Agents are told apart by the strings they serialize to. -/
theorem AgentName.value_injective : Function.Injective AgentName.value := by
  intro a b h
  cases a <;> cases b <;> first | rfl | (simp [AgentName.value] at h)

end Manifest
