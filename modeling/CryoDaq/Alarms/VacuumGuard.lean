import CryoDaq.Alarms.Threshold

/-!
# The vacuum guard

The guard watches the pressure while the cryostat is cold.  It is armed by a low
reference temperature and fires when the pressure has stayed above the fire
threshold long enough.

**Order.**  The rules of one tick run one after the other: a warm reading
disarms, a cold one arms, a recovered pressure ends a firing, and then the
pressure of an armed guard is judged.

**Dropouts.**  A tick without both readings skips the rules.
-/

namespace CryoDaq
namespace Alarms

inductive VacuumState
  | disarmed
  | armed
  | fired
deriving DecidableEq

structure VacuumConfig where
  pressureCh : String := "VSP63D_1/pressure"
  refTempCh : String := "Т12"
  armThresholdK : Float := 260.0
  disarmThresholdK : Float := 270.0
  firePressure : Float := 1.0e-2
  clearPressure : Float := 1.0e-3
  sustainedS : Float := 30.0
  severity : String := "CRITICAL"

structure VacuumGuard where
  state : VacuumState := .disarmed
  sustainedSince : Option Float := none
deriving DecidableEq

/-- What one tick is given: the tracker, and the successive answers of
`time.monotonic()` and of `time.time()`. -/
structure VacuumTick where
  state : String → Option ChannelState
  monotonic : ℕ → Float
  clock : Clock

/-- What a call of `latch_fault` is given. -/
structure LatchFault where
  reason : String
  source : String
  channel : String
  value : Float
deriving DecidableEq

def VacuumTick.reading (t : VacuumTick) (channel : String) : Option Float :=
  match t.state channel with
  | none => none
  | some state => if state.isStale then none else some state.value

namespace VacuumGuard

section Rules

variable (cfg : VacuumConfig) (g : VacuumGuard)

/-- Step 1: a warm reading always wins. -/
def disarmWarm (temperature : Float) : VacuumGuard :=
  if temperature ≥ cfg.disarmThresholdK then
    { g with state := .disarmed, sustainedSince := none }
  else g

def armCold (temperature : Float) : VacuumGuard :=
  if g.state = .disarmed ∧ temperature < cfg.armThresholdK then { g with state := .armed }
  else g

/-- Step 3: a recovered pressure ends a firing. -/
def recover (pressure : Float) : VacuumGuard :=
  if g.state = .fired ∧ pressure < cfg.clearPressure then
    { g with state := .armed, sustainedSince := none }
  else g

/-- The judgement of a pressure above the threshold; the clock is read once
more where the time begins to count. -/
def judge (monotonic : ℕ → Float) : VacuumGuard :=
  let since := g.sustainedSince.getD (monotonic 0)
  let now := if g.sustainedSince.isNone then monotonic 1 else monotonic 0
  if now - since ≥ cfg.sustainedS then { g with state := .fired, sustainedSince := some since }
  else { g with sustainedSince := some since }

def judgePressure (pressure : Float) (monotonic : ℕ → Float) : VacuumGuard :=
  if g.state = .armed then
    if pressure > cfg.firePressure then g.judge cfg monotonic
    else { g with sustainedSince := none }
  else g

/-- The rules of one tick. -/
def transition (temperature pressure : Float) (monotonic : ℕ → Float) : VacuumGuard :=
  (((g.disarmWarm cfg temperature).armCold cfg temperature).recover cfg pressure).judgePressure
    cfg pressure monotonic

end Rules

end VacuumGuard

/-- The guard, the manager it feeds and the calls it has made. -/
structure VacuumWorld where
  guard : VacuumGuard
  manager : AlarmStateManager
  published : List VacuumState
  latched : List LatchFault

/-- `ALARM_ID` -/
def vacuumGuardId : String := "vacuum_guard"

section

-- the texts of the alarm and of the latched fault, with their formatted numbers
variable (message reason : VacuumConfig → Float → Float → String)

variable (cfg : VacuumConfig)

def vacuumEvent (temperature pressure : Float) (clock : Clock) : Event where
  alarmId := vacuumGuardId
  level := cfg.severity
  message := message cfg pressure temperature
  triggeredAt := clock 0
  channels := [cfg.pressureCh, cfg.refTempCh]
  values := Dict.ofList [(cfg.pressureCh, pressure), (cfg.refTempCh, temperature)]

def vacuumFault (temperature pressure : Float) : LatchFault where
  reason := reason cfg pressure temperature
  source := "vacuum_guard"
  channel := cfg.pressureCh
  value := pressure

-- whether a safety manager was handed over
variable (escalate : Bool)

/-- A tick without both readings: only a guard that has fired keeps its alarm. -/
def VacuumWorld.skip (w : VacuumWorld) (t : VacuumTick) : VacuumWorld :=
  if w.guard.state ≠ .fired then
    { w with manager := (w.manager.process vacuumGuardId none {} t.clock).1 }
  else w

def VacuumWorld.evaluate (w : VacuumWorld) (t : VacuumTick) (temperature pressure : Float) :
    VacuumWorld :=
  let guard := w.guard.transition cfg temperature pressure t.monotonic
  let published :=
    if w.guard.state ≠ guard.state then w.published ++ [guard.state] else w.published
  let event :=
    if guard.state = .fired then some (vacuumEvent message cfg temperature pressure t.clock)
    else none
  let manager := (w.manager.process vacuumGuardId event {} fun n =>
    if guard.state = .fired then t.clock (n + 1) else t.clock n).1
  let justFired := w.guard.state ≠ .fired ∧ guard.state = .fired
  { guard, manager, published
    latched :=
      if justFired ∧ escalate = true then
        w.latched ++ [vacuumFault reason cfg temperature pressure]
      else w.latched }

def VacuumWorld.tick (w : VacuumWorld) (t : VacuumTick) : VacuumWorld :=
  match t.reading cfg.refTempCh with
  | none => w.skip t
  | some temperature =>
      match t.reading cfg.pressureCh with
      | none => w.skip t
      | some pressure => w.evaluate message reason cfg escalate t temperature pressure

end

/-- The guard as it is made, beside the manager that is handed to it. -/
def VacuumWorld.start (manager : AlarmStateManager) : VacuumWorld where
  guard := {}
  manager := manager
  published := []
  latched := []

end Alarms
end CryoDaq
