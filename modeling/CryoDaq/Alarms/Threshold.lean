import CryoDaq.Alarms.Manager

/-!
# The evaluator of threshold alarms

`evalThreshold` goes through the channels of an alarm and returns at the first
one that calls for an event: a violation, or, for an alarm that is active, a
triggering channel without a usable value or still inside its deadband.

**Errors.**  Whatever raises during an evaluation is caught in `evaluate`: an
active alarm gets an event that only marks the error, an inactive one nothing.
-/

namespace CryoDaq
namespace Alarms

structure ChannelState where
  value : Float
  isStale : Bool := false
deriving DecidableEq

def ChannelState.isUsable (c : ChannelState) : Bool := !c.isStale && c.value.isFinite

/-- What the evaluator reads outside the configuration. -/
structure Observation where
  state : String → Option ChannelState
  faultCount : String → ℕ
  setpoint : String → Except PyError Number
  now : Float

/-- The configuration of a threshold alarm; an absent key is `none`. -/
structure ThresholdConfig where
  channels : List String
  check : String := "above"
  level : String := "WARNING"
  message : String
  threshold : Option Scalar := none
  hysteresis : Option Scalar := none
  range : Option (List Scalar) := none
  setpointSource : Option String := none
  minFaultCount : Option Scalar := none
  sustainedS : Option Scalar := none

/-- The part of the configuration that the manager reads. -/
def ThresholdConfig.process (cfg : ThresholdConfig) : ProcessConfig where
  sustainedS := cfg.sustainedS
  hysteresis := cfg.hysteresis

/-- `cfg[key]` -/
def required {α : Type} (value : Option α) : Except PyError α :=
  match value with
  | some v => .ok v
  | none => .error .keyError

/-- `cfg["range"][i]` -/
def bound (range : List Scalar) (i : ℕ) : Except PyError Number :=
  match range[i]? with
  | some v => v.asNumber
  | none => .error .indexError

section

-- `str.format` of a message template with `channel` and `value`
variable (format : String → String → Float → Except PyError String)

def formatMessage (template channel : String) (value : Float) :
    Except PyError String :=
  match format template channel value with
  | .error .keyError => .ok template
  | .error .valueError => .ok template
  | answer => answer

variable (o : Observation) (cfg : ThresholdConfig)

def checkThresholdChannel (channel : String) : Except PyError (Bool × Float) :=
  if cfg.check = "fault_count_in_window" then do
    let minCount ← (cfg.minFaultCount.getD (.number (.int 1))).asNumber
    .ok ((Number.int (o.faultCount channel)).ge minCount,
      Float.ofNat (o.faultCount channel))
  else
    match o.state channel with
    | none => .ok (false, 0.0)
    | some state =>
        let value := Number.float state.value
        if cfg.check = "above" then do
          let threshold ← (← required cfg.threshold).asNumber
          .ok (value.gt threshold, state.value)
        else if cfg.check = "below" then do
          let threshold ← (← required cfg.threshold).asNumber
          .ok (value.lt threshold, state.value)
        else if cfg.check = "outside_range" then do
          let range ← required cfg.range
          let low ← bound range 0
          if value.lt low then .ok (true, state.value)
          else do
            let high ← bound range 1
            .ok (value.gt high, state.value)
        else if cfg.check = "deviation_from_setpoint" then do
          let setpoint ← o.setpoint (← required cfg.setpointSource)
          let deviation ← value.sub setpoint
          let threshold ← (← required cfg.threshold).asNumber
          .ok (deviation.abs.gt threshold, state.value)
        else .error .valueError

/-- Whether a deadband applies to the value and the value is inside. -/
def inDeadband (value : Float) : Except PyError Bool :=
  if cfg.check ≠ "above" ∧ cfg.check ≠ "below" then .ok false
  else
    match cfg.hysteresis with
    | none => .ok false
    | some hysteresis => do
        let threshold ← (cfg.threshold.getD (.number (.float 0.0))).asNumber
        let hysteresis ← hysteresis.asNumber
        if cfg.check = "above" then
          let edge ← threshold.sub hysteresis
          .ok ((Number.float value).ge edge)
        else
          let edge ← threshold.add hysteresis
          .ok ((Number.float value).le edge)

def channelEvent (alarmId channel message : String) (value : Option Float) : Event where
  alarmId := alarmId
  level := cfg.level
  message := message
  triggeredAt := o.now
  channels := [channel]
  values := Dict.ofList (value.elim [] fun v => [(channel, v)])

/-- The event for one channel with its formatted message. -/
def eventFor (alarmId channel : String) (value : Float) :
    Except PyError (Option Event) :=
  (formatMessage format cfg.message channel value).map fun message =>
    some (channelEvent o cfg alarmId channel message (some value))

/-- What a channel with a usable value calls for. -/
def evalUsable (alarmId : String) (triggering : Bool) (channel : String) :
    Except PyError (Option Event) :=
  match checkThresholdChannel o cfg channel with
  | .error e => .error e
  | .ok checked =>
      if checked.1 then eventFor format o cfg alarmId channel checked.2
      else if triggering then
        match inDeadband cfg checked.2 with
        | .error e => .error e
        | .ok true => eventFor format o cfg alarmId channel checked.2
        | .ok false => .ok none
      else .ok none

/-- What one channel calls for; `active` holds the triggering channels of an
active alarm. -/
def evalChannel (alarmId : String) (active : Option (List String))
    (channel : String) : Except PyError (Option Event) :=
  let triggering := active.any (channel ∈ ·)
  match o.state channel with
  | none =>
      if triggering then
        .ok (some (channelEvent o cfg alarmId channel
          (cfg.message ++ " (данные канала " ++ channel ++ " недоступны)") none))
      else .ok none
  | some state =>
      if state.isUsable then evalUsable format o cfg alarmId triggering channel
      else if triggering then eventFor format o cfg alarmId channel state.value
      else .ok none

/-- `_eval_threshold`: the first channel that calls for an event. -/
def evalThreshold (alarmId : String) (active : Option (List String)) :
    List String → Except PyError (Option Event)
  | [] => .ok none
  | channel :: rest =>
      match evalChannel format o cfg alarmId active channel with
      | .error e => .error e
      | .ok (some event) => .ok (some event)
      | .ok none => evalThreshold alarmId active rest

/-- The event that only marks a broken evaluation. -/
def errorEvent (alarmId : String) : Event where
  alarmId := alarmId
  level := cfg.level
  message := cfg.message
  triggeredAt := o.now
  channels := []
  values := Dict.empty
  evaluatorError := true

/-- `AlarmEvaluator.evaluate` of a threshold alarm. -/
def evaluate (alarmId : String) (active : Option (List String)) : Option Event :=
  match evalThreshold format o cfg alarmId active cfg.channels with
  | .ok event => event
  | .error _ => if active.isSome then some (errorEvent o cfg alarmId) else none

end

structure AlarmConfig where
  alarmId : String
  config : ThresholdConfig
  phaseFilter : Option (List String) := none

structure Tick where
  phase : Option String := none
  observation : Observation
  clock : Clock

/-- Whether the phase filter lets an alarm be evaluated. -/
def AlarmConfig.inPhase (cfg : AlarmConfig) (phase : Option String) : Bool :=
  match cfg.phaseFilter with
  | none => true
  | some phases => phase.any (· ∈ phases)

def tickAlarm (format : String → String → Float → Except PyError String)
    (cfg : AlarmConfig) (t : Tick) (s : AlarmStateManager) :
    AlarmStateManager × Except PyError (Option Event × Option AlarmTransition) :=
  if cfg.inPhase t.phase then
    let active := s.active.get? cfg.alarmId
    let event := evaluate format t.observation cfg.config cfg.alarmId
      (active.map fun e => e.channels)
    let answer := s.process cfg.alarmId event cfg.config.process t.clock
    (answer.1, answer.2.map fun transition => (event, transition))
  else
    let answer := s.process cfg.alarmId none cfg.config.process t.clock
    (answer.1, answer.2.map fun _ => (none, none))

end Alarms
end CryoDaq
