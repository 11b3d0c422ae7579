import CryoDaq.Control.Slew
import Mathlib.Data.List.Basic
import Mathlib.Algebra.Order.Ring.Rat
import Mathlib.Tactic.NormNum

/-!
# Constant-power regulation of a source channel

Each poll of an active channel measures current and voltage, computes the level
for the wanted power and writes it.  The level is first clamped to the voltage
limit and then brought within one step of the applied level.

**Interleaving.**  The limit and the target may be updated at any time, also
between computing a level and writing it.

**Limits.**  A level never leaves the applied one by more than a step and is
never negative.  It respects the voltage limit as long as the limit is not
lowered by more than a step below the applied level, nor below a level that is
computed and not yet written.

The arithmetic is exact; the square root is a parameter.
-/

namespace CryoDaq
namespace Keithley

variable {K : Type} [Field K] [LinearOrder K]

def maxDeltaVPerStep : K := 1 / 2

def iMinA : K := 1 / 10000000

/-- The answers of one poll. -/
structure Measurement (K : Type) where
  current : K
  voltage : K
  inCompliance : Bool := false

/-- A level that was written, beside the limit in force and the level that was
applied before. -/
structure LevelWrite (K : Type) where
  level : K
  vComp : K
  before : K
deriving DecidableEq

structure Channel (K : Type) where
  pTarget : K
  vComp : K
  lastV : K
  complianceCount : ℕ := 0
  pending : Option K := none
  writes : List (LevelWrite K) := []

/-- The voltage follows the wanted power only outside compliance, with a current
above the noise and a positive resistance. -/
def Measurement.Regulates (m : Measurement K) : Prop :=
  m.inCompliance = false ∧ iMinA < |m.current| ∧ 0 < m.voltage / m.current

-- `math.sqrt`
variable (sqrt : K → K)

/-- The level that a poll computes; `none` where it leaves the voltage alone. -/
def regulate (c : Channel K) (m : Measurement K) : Option K :=
  if m.inCompliance then none
  else if |m.current| > iMinA then
    let resistance := m.voltage / m.current
    if resistance > 0 then
      let target := max 0 (min (sqrt (c.pTarget * resistance)) c.vComp)
      some (slew maxDeltaVPerStep c.lastV target)
    else none
  else none

inductive ChannelEvent (K : Type)
  | measure (m : Measurement K)
  | write
  | abandon
  | updateTarget (p : K)
  | updateLimit (v : K)

/-- One event.  A poll measures only after the level of the poll before was
written, with an equal readback, or abandoned. -/
def Channel.step (c : Channel K) : ChannelEvent K → Channel K
  | .measure m =>
      if c.pending.isNone then
        { c with
          complianceCount := if m.inCompliance then c.complianceCount + 1 else 0
          pending := regulate sqrt c m }
      else c
  | .write =>
      match c.pending with
      | none => c
      | some level =>
          { c with
            pending := none
            lastV := level
            writes := c.writes ++ [{ level, vComp := c.vComp, before := c.lastV }] }
  | .abandon => { c with pending := none }
  | .updateTarget p => if p ≤ 0 then c else { c with pTarget := p }
  | .updateLimit v => if v ≤ 0 then c else { c with vComp := v }

/-- `start_source` -/
def Channel.start (pTarget vCompliance : K) : Channel K where
  pTarget := pTarget
  vComp := vCompliance
  lastV := 0

def Channel.run (c : Channel K) (events : List (ChannelEvent K)) : Channel K :=
  events.foldl (Channel.step sqrt) c

/-- The limit is not overtaken: a poll finds the applied level at most one step
above it, and it is not lowered below a level that waits to be written. -/
def Careful (c : Channel K) : ChannelEvent K → Prop
  | .measure m => m.Regulates → c.lastV ≤ c.vComp + maxDeltaVPerStep
  | .updateLimit v => ∀ level, c.pending = some level → level ≤ v
  | _ => True

/-- Every event is careful in the state that it meets. -/
def CarefulRun (c : Channel K) : List (ChannelEvent K) → Prop
  | [] => True
  | e :: events => Careful c e ∧ CarefulRun (c.step sqrt e) events

theorem regulate_eq_some {c : Channel K} {m : Measurement K} {level : K}
    (h : regulate sqrt c m = some level) :
    m.Regulates ∧
      ∃ wanted, level = slew maxDeltaVPerStep c.lastV (max 0 (min wanted c.vComp)) := by
  unfold regulate at h
  split at h
  · cases h
  · rename_i hfree
    split at h
    · rename_i hcurrent
      simp only at h
      split at h
      · rename_i hresistance
        exact ⟨⟨Bool.not_eq_true _ ▸ hfree, hcurrent, hresistance⟩, _, (Option.some.inj h).symm⟩
      · cases h
    · cases h

structure Regulated (c : Channel K) : Prop where
  limit : 0 < c.vComp
  applied : 0 ≤ c.lastV
  pending : ∀ level, c.pending = some level →
    0 ≤ level ∧ |level - c.lastV| ≤ maxDeltaVPerStep
  writes : ∀ w ∈ c.writes, 0 ≤ w.level ∧ |w.level - w.before| ≤ maxDeltaVPerStep

/-- What careful events add. -/
structure Limited (c : Channel K) : Prop where
  pending : ∀ level, c.pending = some level → level ≤ c.vComp
  writes : ∀ w ∈ c.writes, w.level ≤ w.vComp

theorem start_regulated {p v : K} (hv : 0 < v) : Regulated (Channel.start p v) :=
  ⟨hv, le_refl 0, (fun _ h => by cases h), fun _ hw => absurd hw List.not_mem_nil⟩

theorem start_limited (p v : K) : Limited (Channel.start p v) :=
  ⟨(fun _ h => by cases h), fun _ hw => absurd hw List.not_mem_nil⟩

variable [IsStrictOrderedRing K]

theorem maxDeltaVPerStep_nonneg : (0 : K) ≤ maxDeltaVPerStep := by
  unfold maxDeltaVPerStep
  positivity

/-- The level of a poll respects the limit exactly when the applied one is at
most a step above it. -/
theorem regulate_le_iff {c : Channel K} {m : Measurement K} {level : K} (hv : 0 < c.vComp)
    (h : regulate sqrt c m = some level) :
    level ≤ c.vComp ↔ c.lastV ≤ c.vComp + maxDeltaVPerStep := by
  obtain ⟨_, wanted, rfl⟩ := regulate_eq_some sqrt h
  exact slew_le_iff maxDeltaVPerStep_nonneg (max_le hv.le (min_le_right _ _))

variable {sqrt} {c : Channel K}

theorem Regulated.step (h : Regulated c) (e : ChannelEvent K) : Regulated (c.step sqrt e) := by
  cases e with
  | measure m =>
      unfold Channel.step
      by_cases hidle : c.pending.isNone = true
      · simp only [hidle, if_true]
        refine ⟨h.limit, h.applied, fun level hlevel => ?_, h.writes⟩
        obtain ⟨_, wanted, rfl⟩ := regulate_eq_some sqrt hlevel
        exact ⟨le_slew maxDeltaVPerStep_nonneg h.applied (le_max_left _ _),
          abs_slew_sub_le maxDeltaVPerStep_nonneg⟩
      · simp only [hidle]
        exact h
  | write =>
      unfold Channel.step
      cases hpending : c.pending with
      | none => exact h
      | some level =>
          obtain ⟨hnonneg, hnear⟩ := h.pending level hpending
          refine ⟨h.limit, hnonneg, (fun _ h => by cases h), fun w hw => ?_⟩
          rcases List.mem_append.mp hw with hw | hw
          · exact h.writes w hw
          · rw [List.mem_singleton.mp hw]
            exact ⟨hnonneg, hnear⟩
  | abandon => exact ⟨h.limit, h.applied, (fun _ h => by cases h), h.writes⟩
  | updateTarget p =>
      unfold Channel.step
      by_cases hp : p ≤ 0
      · simp only [hp, if_true]
        exact h
      · simp only [hp, if_false]
        exact ⟨h.limit, h.applied, h.pending, h.writes⟩
  | updateLimit v =>
      unfold Channel.step
      by_cases hv : v ≤ 0
      · simp only [hv, if_true]
        exact h
      · simp only [hv, if_false]
        exact ⟨not_le.mp hv, h.applied, h.pending, h.writes⟩

theorem Limited.step (hc : Regulated c) (h : Limited c) {e : ChannelEvent K}
    (he : Careful c e) : Limited (c.step sqrt e) := by
  cases e with
  | measure m =>
      unfold Channel.step
      by_cases hidle : c.pending.isNone = true
      · simp only [hidle, if_true]
        refine ⟨fun level hlevel => ?_, h.writes⟩
        have hregulates := (regulate_eq_some sqrt hlevel).1
        exact (regulate_le_iff sqrt hc.limit hlevel).mpr (he hregulates)
      · simp only [hidle]
        exact h
  | write =>
      unfold Channel.step
      cases hpending : c.pending with
      | none => exact h
      | some level =>
          refine ⟨(fun _ h => by cases h), fun w hw => ?_⟩
          rcases List.mem_append.mp hw with hw | hw
          · exact h.writes w hw
          · rw [List.mem_singleton.mp hw]
            exact h.pending level hpending
  | abandon => exact ⟨(fun _ h => by cases h), h.writes⟩
  | updateTarget p =>
      unfold Channel.step
      by_cases hp : p ≤ 0
      · simp only [hp, if_true]
        exact h
      · simp only [hp, if_false]
        exact ⟨h.pending, h.writes⟩
  | updateLimit v =>
      unfold Channel.step
      by_cases hv : v ≤ 0
      · simp only [hv, if_true]
        exact h
      · simp only [hv, if_false]
        exact ⟨he, h.writes⟩

theorem run_regulated (events : List (ChannelEvent K)) :
    ∀ c : Channel K, Regulated c → Regulated (c.run sqrt events) := by
  induction events with
  | nil => exact fun c h => h
  | cons e events ih => exact fun c h => ih _ (h.step e)

theorem run_limited (events : List (ChannelEvent K)) :
    ∀ c : Channel K, Regulated c → Limited c → CarefulRun sqrt c events →
      Limited (c.run sqrt events) := by
  induction events with
  | nil => exact fun c _ h _ => h
  | cons e events ih =>
      exact fun c hc h hcareful => ih _ (hc.step e) (h.step hc hcareful.1) hcareful.2

/-- **Both limits.**  In a run of careful events every level that is written is
within the limit in force and within a step of the applied level.  In any run
the level of a poll respects the limit exactly when the applied one is at most
a step above it. -/
theorem levels_within_limits (sqrt : K → K) {p v : K} (hv : 0 < v)
    (events : List (ChannelEvent K)) :
    (CarefulRun sqrt (Channel.start p v) events →
      ∀ w ∈ ((Channel.start p v).run sqrt events).writes,
        0 ≤ w.level ∧ w.level ≤ w.vComp ∧ |w.level - w.before| ≤ maxDeltaVPerStep) ∧
    ∀ m level, regulate sqrt ((Channel.start p v).run sqrt events) m = some level →
      (level ≤ ((Channel.start p v).run sqrt events).vComp ↔
        ((Channel.start p v).run sqrt events).lastV ≤
          ((Channel.start p v).run sqrt events).vComp + maxDeltaVPerStep) := by
  have hregulated : Regulated ((Channel.start p v).run sqrt events) :=
    run_regulated events _ (start_regulated hv)
  refine ⟨fun hcareful w hw => ?_, fun m level h => regulate_le_iff sqrt hregulated.limit h⟩
  have hlimited := run_limited events _ (start_regulated hv) (start_limited p v) hcareful
  obtain ⟨hnonneg, hnear⟩ := hregulated.writes w hw
  exact ⟨hnonneg, hlimited.writes w hw, hnear⟩

section Example

/-- The square root of a square of a rational number. -/
def ratSqrt (x : ℚ) : ℚ := Nat.sqrt x.num.toNat / Nat.sqrt x.den

def heater : ChannelEvent ℚ := .measure { current := 1, voltage := 100 }

/-- Two polls lead the level to 1 V; then the limit goes down to 0.1 V. -/
def loweredLimit : List (ChannelEvent ℚ) :=
  [heater, .write, heater, .write, .updateLimit (1 / 10), heater, .write]

theorem levels_within_limits_heater :
    ((Channel.start (1 : ℚ) 1).run ratSqrt [heater, .write, heater, .write]).writes.Forall
      (fun w => 0 ≤ w.level ∧ w.level ≤ w.vComp ∧ |w.level - w.before| ≤ maxDeltaVPerStep) := by
  rw [List.forall_iff_forall_mem]
  refine (levels_within_limits ratSqrt (by norm_num) [heater, .write, heater, .write]).1 ?_
  refine ⟨fun _ => ?_, trivial, fun _ => ?_, trivial, trivial⟩
  · decide +kernel
  · decide +kernel

/-- A limit lowered by more than a step is exceeded by the next level. -/
theorem lowered_limit_exceeded :
    ¬ ∀ (p v : ℚ) (events : List (ChannelEvent ℚ)), 0 < p → 0 < v →
      ∀ w ∈ ((Channel.start p v).run ratSqrt events).writes,
        0 ≤ w.level ∧ w.level ≤ w.vComp ∧ |w.level - w.before| ≤ maxDeltaVPerStep := by
  intro h
  have hwrite : (⟨1 / 2, 1 / 10, 1⟩ : LevelWrite ℚ) ∈
      ((Channel.start (1 : ℚ) 1).run ratSqrt loweredLimit).writes := by
    decide +kernel
  have hlevel := (h 1 1 loweredLimit (by norm_num) (by norm_num) _ hwrite).2.1
  norm_num at hlevel

end Example

end Keithley
end CryoDaq
