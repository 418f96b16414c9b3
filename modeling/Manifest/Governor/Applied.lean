import Manifest.Governor.Stages

/-!
# The two effects on commitments

What confirming and cancelling a prepared action can do to a state.

Main results:

- Theorem `applyEffect_applied`: the ways an effect is applied.
-/

set_option autoImplicit false

namespace Manifest

namespace Governor

/-- A prepared action an effect may be applied to. -/
structure Applicable (args : Kwargs) (s : TrajectoryState) (preparedId : String)
    (prepared : PreparedAction) : Prop where
  named_eq : namedPrepared args s = .ok (preparedId, prepared)
  open_eq : prepared.status ≠ .confirmed
  reserved_le : prepared.amountMinor ≤ s.spendReservedMinor

/-- The ways an effect is applied: it leaves the state alone, confirms an action, confirms
one whose result has no confirmation identifier, or cancels one. -/
inductive Applied (toolName : String) (args : Kwargs) (s : TrajectoryState) :
    Except PyError Unit → TrajectoryState → Prop where
  | unchanged (r : Except PyError Unit) : Applied toolName args s r s
  | unnumbered {preparedId prepared} (x : PyError)
      (tool_eq : toolName = "confirm_freight_booking")
      (applicable : Applicable args s preparedId prepared) :
      Applied toolName args s (.error x) (s.setPreparedStatus preparedId .confirmed)
  | confirmed {preparedId prepared} (confirmationId : String)
      (tool_eq : toolName = "confirm_freight_booking")
      (applicable : Applicable args s preparedId prepared) :
      Applied toolName args s (.ok ())
        (commitSpend prepared.amountMinor confirmationId
          (s.setPreparedStatus preparedId .confirmed))
  | cancelled {preparedId prepared} (tool_eq : toolName = "cancel_freight_booking")
      (applicable : Applicable args s preparedId prepared)
      (live : prepared.status ≠ .cancelled) :
      Applied toolName args s (.ok ()) (releaseSpend preparedId prepared.amountMinor s)

theorem applyConfirmation_applied (args : Kwargs) (value : ToolValue) (s : TrajectoryState) :
    Applied "confirm_freight_booking" args s (applyConfirmation args value s).1
      (applyConfirmation args value s).2 := by
  unfold applyConfirmation
  cases hnamed : namedPrepared args s with
  | error x => exact .unchanged _
  | ok found =>
      obtain ⟨preparedId, prepared⟩ := found
      dsimp only
      split
      · exact .unchanged _
      · rename_i hopen
        split
        · exact .unchanged _
        · rename_i hreserved
          have happlicable : Applicable args s preparedId prepared :=
            ⟨hnamed, hopen, not_lt.mp hreserved⟩
          cases item value "confirmation_id" with
          | error x => exact .unnumbered x rfl happlicable
          | ok confirmationId => exact .confirmed _ rfl happlicable

theorem applyCancellation_applied (args : Kwargs) (s : TrajectoryState) :
    Applied "cancel_freight_booking" args s (applyCancellation args s).1
      (applyCancellation args s).2 := by
  unfold applyCancellation
  cases hnamed : namedPrepared args s with
  | error x => exact .unchanged _
  | ok found =>
      obtain ⟨preparedId, prepared⟩ := found
      dsimp only
      split
      · exact .unchanged _
      · rename_i hlive
        split
        · exact .unchanged _
        · rename_i hopen
          split
          · exact .unchanged _
          · rename_i hreserved
            exact .cancelled rfl ⟨hnamed, hopen, not_lt.mp hreserved⟩ hlive

/-- What a successful tool can do to the state. -/
theorem applyEffect_applied (toolName : String) (args : Kwargs) (value : ToolValue)
    (s : TrajectoryState) :
    Applied toolName args s (applyEffect toolName args value s).1
      (applyEffect toolName args value s).2 := by
  unfold applyEffect
  split
  · rename_i htool
    exact htool ▸ applyConfirmation_applied args value s
  · split
    · rename_i htool
      exact htool ▸ applyCancellation_applied args s
    · exact .unchanged _

/-- An effect names its action by the text of its argument. -/
theorem namedPrepared_ok {args : Kwargs} {s : TrajectoryState} {preparedId : String}
    {prepared : PreparedAction} (h : namedPrepared args s = .ok (preparedId, prepared)) :
    (∃ value, args.get? "prepared_action_id" = some value ∧ value.pyStr = preparedId) ∧
      s.preparedActions.get? preparedId = some prepared := by
  unfold namedPrepared at h
  cases hvalue : args.get? "prepared_action_id" with
  | none => simp [hvalue] at h
  | some value =>
      simp only [hvalue] at h
      cases hget : s.preparedActions.get? value.pyStr with
      | none => simp [hget] at h
      | some found =>
          simp only [hget, Except.ok.injEq, Prod.mk.injEq] at h
          obtain ⟨rfl, rfl⟩ := h
          exact ⟨⟨value, rfl, rfl⟩, hget⟩

end Governor

end Manifest
