import CryoDaq.Supervision.TaskSupervisor

/-!
# The shutdown of the safety manager

`stop_safety_manager_with_hold` as a machine: it awaits an attempt to stop under a
shield, and after a failed attempt it awaits a delay under a shield.  The caller
may cancel it at each of the awaits.
-/

namespace CryoDaq
namespace Supervision

/-- Where `stop_safety_manager_with_hold` stands. -/
inductive HoldPoint
  /-- in the loop over `stop_task` -/
  | stopping
  /-- in the loop over `delay_task` -/
  | delaying
  | returned
  /-- `delay_task.result()` raised -/
  | raised
deriving DecidableEq, Repr

/-- Its local variable, and the ends of its attempts and delays, the latest first. -/
structure Hold where
  point : HoldPoint := .stopping
  callerCancelled : Bool := false
  attempts : List Outcome := []
  delays : List Outcome := []
deriving DecidableEq

/-- What its awaits can meet. -/
inductive HoldEvent
  | callerCancels
  | stopEnds (outcome : Outcome)
  | delayEnds (outcome : Outcome)
deriving DecidableEq

namespace Hold

variable (h : Hold)

/-- `await asyncio.shield(..)` of a cancelled task raises `CancelledError` too. -/
def shielded (outcome : Outcome) : Bool := h.callerCancelled || (outcome == .cancelled)

/-- `stop_task.result()` and what follows from it. -/
def stopEnds (outcome : Outcome) : Hold :=
  { h with
    callerCancelled := h.shielded outcome
    attempts := outcome :: h.attempts
    point := if outcome = .returned then .returned else .delaying }

/-- `delay_task.result()` and what follows from it. -/
def delayEnds (outcome : Outcome) : Hold :=
  { h with
    callerCancelled := h.shielded outcome
    delays := outcome :: h.delays
    point := if outcome = .returned then .stopping else .raised }

/-- The next point. -/
def step : HoldEvent → Hold
  | .callerCancels =>
      if h.point = .stopping ∨ h.point = .delaying then { h with callerCancelled := true } else h
  | .stopEnds outcome => if h.point = .stopping then h.stopEnds outcome else h
  | .delayEnds outcome => if h.point = .delaying then h.delayEnds outcome else h

def run (events : List HoldEvent) : Hold := events.foldl step {}

/-- It returns after an attempt without error, and only a delay that fails makes it
raise; until then its last attempt has failed. -/
structure Held : Prop where
  returned : h.point = .returned → .returned ∈ h.attempts
  raised : h.point = .raised → ∃ outcome ∈ h.delays, outcome ≠ .returned
  held : h.point ≠ .returned → .returned ∉ h.attempts

variable {h}

theorem Held.stopEnds (hheld : h.Held) (hpoint : h.point = .stopping) (outcome : Outcome) :
    (h.stopEnds outcome).Held := by
  have hbefore : .returned ∉ h.attempts := hheld.held (by simp [hpoint])
  by_cases hreturned : outcome = .returned
  · refine ⟨fun _ => ?_, ?_, ?_⟩
    · simp [Hold.stopEnds, hreturned]
    · simp [Hold.stopEnds, hreturned]
    · simp [Hold.stopEnds, hreturned]
  · refine ⟨?_, ?_, fun _ => ?_⟩
    · simp [Hold.stopEnds, hreturned]
    · simp [Hold.stopEnds, hreturned]
    · simp [Hold.stopEnds, hbefore, Ne.symm hreturned]

theorem Held.delayEnds (hheld : h.Held) (hpoint : h.point = .delaying) (outcome : Outcome) :
    (h.delayEnds outcome).Held := by
  have hbefore : .returned ∉ h.attempts := hheld.held (by simp [hpoint])
  refine ⟨?_, ?_, fun _ => hbefore⟩
  · intro hpoint'
    by_cases hreturned : outcome = .returned <;> simp [Hold.delayEnds, hreturned] at hpoint'
  · intro hpoint'
    refine ⟨outcome, List.mem_cons_self, ?_⟩
    rintro rfl
    simp [Hold.delayEnds] at hpoint'

theorem Held.step (hheld : h.Held) (event : HoldEvent) : (h.step event).Held := by
  cases event with
  | callerCancels =>
      dsimp only [Hold.step]
      split
      · exact ⟨hheld.returned, hheld.raised, hheld.held⟩
      · exact hheld
  | stopEnds outcome =>
      dsimp only [Hold.step]
      split
      · rename_i hpoint
        exact hheld.stopEnds hpoint outcome
      · exact hheld
  | delayEnds outcome =>
      dsimp only [Hold.step]
      split
      · rename_i hpoint
        exact hheld.delayEnds hpoint outcome
      · exact hheld

theorem held_run (events : List HoldEvent) : (run events).Held := by
  have hinit : ({} : Hold).Held := ⟨by simp, by simp, by simp⟩
  have hfold : ∀ (events : List HoldEvent) (h : Hold), h.Held → (events.foldl step h).Held := by
    intro events
    induction events with
    | nil => exact fun h hheld => hheld
    | cons event rest ih => exact fun h hheld => ih _ (hheld.step event)
  exact hfold events _ hinit

end Hold

end Supervision
end CryoDaq
