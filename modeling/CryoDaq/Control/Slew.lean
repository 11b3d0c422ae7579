import Mathlib.Algebra.Order.Field.Basic
import Mathlib.Tactic.Linarith

/-!
# A value that follows a target in bounded steps

`slew maxDelta current target` is the target where it is near, and otherwise one
step of `maxDelta` towards it.

**Bounds.**  A step never overshoots, so it keeps every lower bound that the
current value and the target share.  It keeps an upper bound of the target
exactly when the current value is at most one step above it: a value further
away comes down by one step and is still too high.
-/

namespace CryoDaq

variable {K : Type} [Field K] [LinearOrder K] [IsStrictOrderedRing K]

def slew (maxDelta current target : K) : K :=
  let delta := target - current
  if |delta| > maxDelta then current + (if delta > 0 then maxDelta else -maxDelta)
  else target

section

variable {maxDelta current target : K}

theorem slew_cases (maxDelta current target : K) :
    (|target - current| ≤ maxDelta ∧ slew maxDelta current target = target) ∨
    (maxDelta < target - current ∧ slew maxDelta current target = current + maxDelta) ∨
    (maxDelta < current - target ∧ slew maxDelta current target = current - maxDelta) := by
  unfold slew
  by_cases hfar : |target - current| > maxDelta
  · rw [if_pos hfar]
    by_cases hup : target - current > 0
    · rw [abs_of_pos hup] at hfar
      rw [if_pos hup]
      exact .inr (.inl ⟨hfar, rfl⟩)
    · rw [abs_of_nonpos (not_lt.mp hup)] at hfar
      rw [if_neg hup]
      refine .inr (.inr ⟨?_, (sub_eq_add_neg current maxDelta).symm⟩)
      linarith
  · rw [if_neg hfar]
    exact .inl ⟨not_lt.mp hfar, rfl⟩

theorem abs_slew_sub_le (h : 0 ≤ maxDelta) :
    |slew maxDelta current target - current| ≤ maxDelta := by
  rcases slew_cases maxDelta current target with ⟨hnear, heq⟩ | ⟨_, heq⟩ | ⟨_, heq⟩
  · rw [heq]
    exact hnear
  · rw [heq, add_sub_cancel_left, abs_of_nonneg h]
  · rw [heq, sub_sub_cancel_left, abs_neg, abs_of_nonneg h]

theorem le_slew {low : K} (h : 0 ≤ maxDelta) (hcurrent : low ≤ current)
    (htarget : low ≤ target) : low ≤ slew maxDelta current target := by
  rcases slew_cases maxDelta current target with ⟨_, heq⟩ | ⟨_, heq⟩ | ⟨hfar, heq⟩
  · rw [heq]
    exact htarget
  · rw [heq]
    linarith
  · rw [heq]
    linarith

theorem slew_le_iff {high : K} (h : 0 ≤ maxDelta) (htarget : target ≤ high) :
    slew maxDelta current target ≤ high ↔ current ≤ high + maxDelta := by
  rcases slew_cases maxDelta current target with ⟨hnear, heq⟩ | ⟨hfar, heq⟩ | ⟨_, heq⟩
  · rw [heq]
    have hbelow := (abs_le.mp hnear).1
    exact iff_of_true htarget (by linarith)
  · rw [heq]
    exact iff_of_true (by linarith) (by linarith)
  · rw [heq]
    exact sub_le_iff_le_add

end

end CryoDaq
