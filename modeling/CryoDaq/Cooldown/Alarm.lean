import CryoDaq.Alarms.Manager
import CryoDaq.Python.Time

/-!
# The cooldown alarm

`CooldownAlarm` watches a cooldown with the predictor's answers and, after it,
the cold stage with a watchdog.  The operator arms and disarms it; a loop of the
engine ticks it.

**Segments.**  A tick awaits the event bus and the safety manager.  `tick` is its
part up to the first await, `resume` the part after the await at a `Point`; the
point holds what the tick has in its local variables.  A `Turn` says how a part
ends.

**Readings.**  What a part of a tick reads is a `Readings`: the channels, the
clocks, and the answers of the two predictors.  The monotonic clock counts
microseconds.
-/

namespace CryoDaq
namespace Cooldown

open Alarms

inductive CooldownState
  | disarmed
  | armed
  | watching
  | fired
  | autoDisarmed
  | watchdog
  | watchdogFired
deriving DecidableEq, Repr

def alarmId : String := "cooldown_alarm"

def watchdogAlarmId : String := "cooldown_watchdog"

/-- `_RATE_MIN_HISTORY_H`, in microseconds. -/
def rateMinHistory : Timestamp := 1800000000

/-- The fields of an `EnsembleModel` that the alarm reads.  `pOfTMean` is `none`
without an interpolant; the interpolant answers `none` when it raises. -/
structure EnsembleModel where
  durationMean : Float
  durationStd : Float
  pOfTMean : Option (Float → Option Float)

structure Config where
  coldCh : String
  warmCh : String
  kP : Float
  sustainedMin : ℤ
  baseTempK : Float
  baseEpsilonK : Float
  autoDisarmProgress : Float
  etaSlipWindowMin : Float
  etaSlipThresholdH : Float
  etaHistoryLimit : ℕ
  watchdogEnabled : Bool
  watchdogMarginK : Float
  watchdogLevel : String
  watchdogRequiredTicks : ℕ
  coldStartSkipMarginK : Float
  /-- whether there is a `SafetyManager` -/
  safetyManager : Bool
  /-- `max(1, ..)` -/
  required : 1 ≤ watchdogRequiredTicks

structure Formats where
  percent : Float → String
  tenths : Float → String
  hundredths : Float → String

structure ChannelReading where
  value : Float
  isStale : Bool

/-- What `SteadyStatePredictor.get_prediction` answers. -/
inductive Steady
  | noPredictor
  | raised
  | noPrediction
  | prediction (isQuasiSteady : Bool)
deriving DecidableEq

/-- What `predict` answers. -/
structure Prediction where
  progress : Float
  tRemainingHours : Float

/-- What a part of a tick, or `arm`, reads. -/
structure Readings where
  cold : Option ChannelReading
  warm : Option ChannelReading
  monotonic : Timestamp
  clock : Clock
  steady : Steady
  /-- `none` when the predictor raises -/
  predict : Option Prediction
  /-- the model file; `none` when it is missing or cannot be loaded -/
  modelFile : Option EnsembleModel

/-- Whether the cold channel is reported quasi-steady. -/
def Readings.quasiSteady (r : Readings) : Bool :=
  match r.steady with
  | .prediction isQuasiSteady => isQuasiSteady
  | _ => false

/-- The attributes of the alarm, and the alarm state manager it is given. -/
structure CooldownAlarm where
  state : CooldownState := .disarmed
  model : Option EnsembleModel := none
  tArmed : Timestamp := 0
  sustainedCount : ℤ := 0
  watchdogSustainedCount : ℕ := 0
  currentProgress : Option Float := none
  currentEtaH : Option Float := none
  etaHistory : List (Float × Float) := []
  finalizeRequested : Bool := false
  cycleGeneration : ℕ := 0
  coldStartSkipped : Bool := false
  alarms : AlarmStateManager := .new

/-- The temperatures and the elapsed time of a tick. -/
structure Sample where
  tCold : Float
  tWarm : Float
  elapsed : Timestamp

/-- Where a tick awaits, with its local variables. -/
inductive Point
  /-- publishing AUTO_DISARMED -/
  | autoDisarmed (transition : Option AlarmTransition)
  /-- publishing WATCHDOG after it -/
  | enteredWatchdog (transition : Option AlarmTransition)
  /-- publishing ARMED → WATCHING -/
  | watching (s : Sample)
  /-- publishing FIRED → WATCHING, quasi-steady -/
  | settled
  /-- publishing FIRED -/
  | fired (event : Event)
  /-- publishing FIRED → WATCHING -/
  | unfired
  /-- `latch_fault` -/
  | latching (transition : Option AlarmTransition)
  /-- publishing WATCHDOG_FIRED → WATCHDOG -/
  | watchdogCleared (tCold : Float)
  /-- publishing WATCHDOG_FIRED -/
  | watchdogFired (event : Event)

/-- How a part of a tick ends. -/
inductive Turn
  | returns (transition : Option AlarmTransition)
  | publishes (p : Point)
  | latches (reason : String) (transition : Option AlarmTransition)

/-- `min(a, b)` -/
def pyMin (a b : Float) : Float := if b < a then b else a

/-- `max(a, b)` -/
def pyMax (a b : Float) : Float := if a < b then b else a

def hours (elapsed : Timestamp) : Float := totalSeconds elapsed / 3600.0

/-- `deque.append`, with its limit. -/
def appendLimited {α : Type} (limit : ℕ) (xs : List α) (x : α) : List α :=
  (xs ++ [x]).drop ((xs ++ [x]).length - limit)

namespace CooldownAlarm

variable (cfg : Config) (fmt : Formats) (r : Readings) (a : CooldownAlarm)

/-- `self._alarm_state_mgr.process(..)`; without `sustained_s` it does not raise. -/
def process (id : String) (event : Option Event) (clock : Clock) :
    CooldownAlarm × Option AlarmTransition :=
  let result := a.alarms.process id event {} clock
  ({ a with alarms := result.1 },
    match result.2 with
    | .ok transition => transition
    | .error _ => none)

def isColdStart : Bool :=
  match r.cold with
  | none => false
  | some cold =>
      !cold.isStale && decide (cfg.baseTempK ≤ cold.value) &&
        decide (cold.value ≤ cfg.baseTempK + cfg.coldStartSkipMarginK) &&
        (match r.steady with
        | .noPredictor => true
        | .prediction isQuasiSteady => isQuasiSteady
        | _ => false)

/-- `arm` drops the watchdog of an earlier cycle. -/
def leaveWatchdog : CooldownAlarm :=
  if a.state = .autoDisarmed ∨ a.state = .watchdog ∨ a.state = .watchdogFired then
    { (a.process watchdogAlarmId none r.clock).1 with
      watchdogSustainedCount := 0
      state := .disarmed }
  else a

/-- The end of `arm`, with its model. -/
def startCycle (model : EnsembleModel) : CooldownAlarm :=
  { a with
    model := some model
    tArmed := r.monotonic
    sustainedCount := 0
    currentProgress := none
    currentEtaH := none
    etaHistory := []
    finalizeRequested := false
    state := .armed }

/-- `arm`, and whether it armed. -/
def arm : CooldownAlarm × Bool :=
  if isColdStart cfg r then ({ a with coldStartSkipped := true }, false)
  else
    let b := leaveWatchdog r { a with coldStartSkipped := false }
    match b.model.or r.modelFile with
    | none => (b, false)
    | some model => (b.startCycle r model, true)

def disarm (clock : Clock) : CooldownAlarm :=
  let b : CooldownAlarm :=
    { a with
      cycleGeneration := a.cycleGeneration + 1
      state := .disarmed
      sustainedCount := 0
      watchdogSustainedCount := 0
      finalizeRequested := false
      currentEtaH := none
      currentProgress := none }
  ((b.process alarmId none clock).1.process watchdogAlarmId none clock).1

def notifyExperimentFinalized : CooldownAlarm := { a with finalizeRequested := true }

def notifyPhaseChange (newPhase : String) (clock : Clock) : CooldownAlarm :=
  if newPhase = "cooldown" then { a with coldStartSkipped := false }
  else if a.state = .disarmed then a
  else a.disarm clock

/-- The end of the predictor path: the cycle is checked, then the alarm is set or
cleared, and an entry into FIRED goes to the safety manager. -/
def conclude (cycle : ℕ) (event : Option Event) (justFired : Bool) : CooldownAlarm × Turn :=
  if cycle ≠ a.cycleGeneration then (a, .returns none)
  else
    let processed := a.process alarmId event r.clock
    match event with
    | some e =>
        if justFired ∧ e.level = "CRITICAL" ∧ cfg.safetyManager then
          (processed.1, .latches e.message processed.2)
        else (processed.1, .returns processed.2)
    | none => (processed.1, .returns processed.2)

/-- `p_expected` -/
def expectedProgress (model : EnsembleModel) (elapsed : Timestamp) : Float :=
  let linear := pyMin 1.0 (hours elapsed / pyMax model.durationMean 0.1)
  match model.pOfTMean with
  | none => linear
  | some mean =>
      match mean (hours elapsed) with
      | some p => pyMax 0.0 (pyMin 1.0 p)
      | none => linear

/-- `sigma_p` -/
def sigma (model : EnsembleModel) : Float :=
  model.durationStd / pyMax model.durationMean 0.1 * 0.5

def inDeviation (model : EnsembleModel) (p : Prediction) (s : Sample) : Bool :=
  decide (cfg.kP * sigma model < expectedProgress model s.elapsed - p.progress) &&
    decide (cfg.baseTempK + cfg.baseEpsilonK < s.tCold)

/-- `_sustained_count` after the evaluation of a prediction. -/
def countAfter (model : EnsembleModel) (p : Prediction) (s : Sample) : ℤ :=
  if inDeviation cfg model p s then a.sustainedCount + 1 else 0

/-- `eta_slip_h` -/
def etaSlip (etaH now : Float) (history : List (Float × Float)) : Option Float :=
  let old := history.filter fun p => cfg.etaSlipWindowMin * 60.0 * 0.9 ≤ now - p.1
  old.getLast?.map fun p => etaH - (p.2 - cfg.etaSlipWindowMin / 60.0)

def firedEvent (model : EnsembleModel) (p : Prediction) (s : Sample) (slip : Option Float) :
    Event where
  alarmId := alarmId
  level := "CRITICAL"
  message :=
    let expected := expectedProgress model s.elapsed
    let deviation := (expected - p.progress) / pyMax (sigma model) 0.01
    let slipText :=
      match slip with
      | some h =>
          if cfg.etaSlipThresholdH < h then
            " ETA сдвинулась на +" ++ fmt.tenths h ++ " ч за последний час."
          else ""
      | none => ""
    "Захолаживание не идёт по плану. Прогресс " ++ fmt.percent p.progress ++
      " вместо ожидаемых " ++ fmt.percent expected ++ " (отклонение " ++ fmt.tenths deviation ++
      "σ). " ++ cfg.coldCh ++ " = " ++ fmt.tenths s.tCold ++ " K." ++ slipText
  triggeredAt := r.clock 1
  channels := [cfg.coldCh, cfg.warmCh]
  values := Dict.ofList [(cfg.coldCh, s.tCold), (cfg.warmCh, s.tWarm)]

def judge (cycle : ℕ) (model : EnsembleModel) (p : Prediction) (s : Sample) :
    CooldownAlarm × Turn :=
  let history := appendLimited cfg.etaHistoryLimit a.etaHistory (r.clock 0, p.tRemainingHours)
  let b : CooldownAlarm :=
    { a with
      currentProgress := some p.progress
      currentEtaH := some p.tRemainingHours
      etaHistory := history
      sustainedCount := a.countAfter cfg model p s }
  if cfg.sustainedMin ≤ b.sustainedCount then
    let event := firedEvent cfg fmt r model p s
      (etaSlip cfg p.tRemainingHours (r.clock 0) history)
    if b.state ≠ .fired then ({ b with state := .fired }, .publishes (.fired event))
    else b.conclude cfg r cycle (some event) false
  else if b.state = .fired then ({ b with state := .watching }, .publishes .unfired)
  else b.conclude cfg r cycle none false

/-- The predictor path after the baseline: the quasi-steady gate, then the prediction. -/
def evaluate (cycle : ℕ) (s : Sample) : CooldownAlarm × Turn :=
  if r.quasiSteady then
    if a.state = .fired then
      ((({ a with state := .watching, sustainedCount := 0 } : CooldownAlarm).process alarmId none
        r.clock).1, .publishes .settled)
    else ({ a with sustainedCount := 0 }, .returns none)
  else
    match a.model, r.predict with
    | some model, some p => a.judge cfg fmt r cycle model p s
    | _, _ => (a, .returns none)

def complete (tCold : Float) : Bool :=
  decide (tCold ≤ cfg.baseTempK + cfg.baseEpsilonK) ||
    a.currentProgress.any fun p => decide (cfg.autoDisarmProgress ≤ p)

/-- The predictor path, with both temperatures. -/
def follow (cycle : ℕ) (s : Sample) : CooldownAlarm × Turn :=
  if a.complete cfg s.tCold then
    let processed := ({ a with state := .autoDisarmed } : CooldownAlarm).process alarmId none r.clock
    (processed.1, .publishes (.autoDisarmed processed.2))
  else if s.elapsed < rateMinHistory then ({ a with state := .armed }, .returns none)
  else if a.state = .armed then ({ a with state := .watching }, .publishes (.watching s))
  else a.evaluate cfg fmt r cycle s

/-- The predictor path reads both channels. -/
def predictorTick (cycle : ℕ) : CooldownAlarm × Turn :=
  match r.cold, r.warm with
  | some cold, some warm =>
      if cold.isStale ∨ warm.isStale then (a, .returns none)
      else a.follow cfg fmt r cycle ⟨cold.value, warm.value, r.monotonic - a.tArmed⟩
  | _, _ => (a, .returns none)

def watchdogEvent (tCold : Float) : Event where
  alarmId := watchdogAlarmId
  level := cfg.watchdogLevel
  message :=
    "Холодная ступень (" ++ cfg.coldCh ++ ") греется при измерении: " ++ fmt.hundredths tCold ++
      " K (порог " ++ fmt.hundredths (cfg.baseTempK + cfg.watchdogMarginK) ++ " K)"
  triggeredAt := r.clock 0
  channels := [cfg.coldCh]
  values := Dict.ofList [(cfg.coldCh, tCold)]

/-- The end of `_watchdog_tick`. -/
def watchdogConclude (event : Option Event) : CooldownAlarm × Turn :=
  let processed := a.process watchdogAlarmId event r.clock
  (processed.1, .returns processed.2)

/-- `_watchdog_tick` after the count. -/
def watchdogJudge (tCold : Float) : CooldownAlarm × Turn :=
  if cfg.watchdogRequiredTicks ≤ a.watchdogSustainedCount then
    let event := watchdogEvent cfg fmt r tCold
    if a.state ≠ .watchdogFired then
      ({ a with state := .watchdogFired }, .publishes (.watchdogFired event))
    else a.watchdogConclude r (some event)
  else a.watchdogConclude r none

/-- `_watchdog_tick` with the temperature of the cold stage. -/
def watchdogFollow (tCold : Float) : CooldownAlarm × Turn :=
  if cfg.baseTempK + cfg.watchdogMarginK < tCold then
    ({ a with watchdogSustainedCount := a.watchdogSustainedCount + 1 } :
      CooldownAlarm).watchdogJudge cfg fmt r tCold
  else
    let b : CooldownAlarm := { a with watchdogSustainedCount := 0 }
    if b.state = .watchdogFired then
      ({ b with state := .watchdog }, .publishes (.watchdogCleared tCold))
    else b.watchdogJudge cfg fmt r tCold

def watchdogTick : CooldownAlarm × Turn :=
  match r.cold with
  | none => (a, .returns none)
  | some cold =>
      if cold.isStale then (a, .returns none) else a.watchdogFollow cfg fmt r cold.value

/-- `tick`, up to its first await. -/
def tick : CooldownAlarm × Turn :=
  if a.finalizeRequested then
    let b : CooldownAlarm := { a with finalizeRequested := false }
    (if b.state ≠ .disarmed then b.disarm r.clock else b, .returns none)
  else if a.state = .disarmed ∨ a.state = .autoDisarmed then (a, .returns none)
  else if a.state = .watchdog ∨ a.state = .watchdogFired then a.watchdogTick cfg fmt r
  else a.predictorTick cfg fmt r a.cycleGeneration

/-- `tick` after an await, with the generation that it captured. -/
def resume (cycle : ℕ) : Point → CooldownAlarm × Turn
  | .autoDisarmed transition =>
      if cfg.watchdogEnabled then
        ({ a with watchdogSustainedCount := 0, state := .watchdog },
          .publishes (.enteredWatchdog transition))
      else (a, .returns transition)
  | .enteredWatchdog transition => (a, .returns transition)
  | .watching s => a.evaluate cfg fmt r cycle s
  | .settled => (a, .returns none)
  | .fired event => a.conclude cfg r cycle (some event) true
  | .unfired => a.conclude cfg r cycle none false
  | .latching transition => (a, .returns transition)
  | .watchdogCleared tCold => a.watchdogJudge cfg fmt r tCold
  | .watchdogFired event => a.watchdogConclude r (some event)

end CooldownAlarm

end Cooldown
end CryoDaq
