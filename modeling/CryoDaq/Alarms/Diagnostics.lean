import CryoDaq.Alarms.Manager

/-!
# Diagnostic alarms

The part of `SensorDiagnosticsEngine` that turns health scores into alarms: the anomalies of the
channels, the last notifications, the cold start grace, and the alarm manager that the engine
publishes to.

**Scores.**  What `_compute_channel` answers is given: `scores` has the health score of every
channel whose buffer is not empty.

**Texts.**  `age` formats the seconds of a message.
-/

namespace CryoDaq
namespace Alarms

inductive HealthStatus
  | ok
  | warning
  | critical
deriving DecidableEq

def healthToStatus (healthScore : ℤ) : HealthStatus :=
  if healthScore < 0 then .ok
  else if 80 ≤ healthScore then .ok
  else if 50 ≤ healthScore then .warning
  else .critical

structure AnomalyState where
  firstAnomalyTs : Float
  currentStatus : HealthStatus
  lastWarningPublishedTs : Option Float := none
  lastCriticalPublishedTs : Option Float := none

structure DiagnosticSettings where
  warningDurationS : Float
  criticalDurationS : Float
  escalationCooldownS : Float
  coldStartGraceS : Float
  age : Float → String

/-- `SensorDiagnosticsEngine` with its `alarm_publisher` -/
structure SensorDiagnosticsEngine where
  settings : DiagnosticSettings
  diagnostics : Dict String ℤ
  anomalyState : Dict String AnomalyState
  channelLastNotified : Dict String Float
  engineStartedMono : Option Float
  alarmPublisher : AlarmStateManager

/-- What one call of `update` finds: the scores, the readings of the monotonic clock and those of
the wall clock at the channels. -/
structure DiagnosticCall where
  scores : Dict String ℤ
  graceClock : Float
  clock : Float
  wall : String → Clock

namespace SensorDiagnosticsEngine

/-- `__init__` -/
def new (settings : DiagnosticSettings) : SensorDiagnosticsEngine where
  settings := settings
  diagnostics := .empty
  anomalyState := .empty
  channelLastNotified := .empty
  engineStartedMono := none
  alarmPublisher := .new

variable (e : SensorDiagnosticsEngine)

def markEngineStarted (now : Float) : SensorDiagnosticsEngine :=
  { e with engineStartedMono := some now }

def isInGracePeriod (now : Float) : Bool :=
  e.engineStartedMono.any fun started =>
    !decide (e.settings.coldStartGraceS ≤ 0) && decide (now - started < e.settings.coldStartGraceS)

def message (channelId : String) (elapsed : Float) : String :=
  "Sensor anomaly sustained " ++ e.settings.age elapsed ++ "s: " ++ channelId

def withinCooldown (channelId : String) (now : Float) : Bool :=
  decide (0 < e.settings.escalationCooldownS) &&
    (e.channelLastNotified.get? channelId).any fun last =>
      decide (now - last < e.settings.escalationCooldownS)

def notify (channelId : String) (now : Float) (event : Event) :
    SensorDiagnosticsEngine × List Event :=
  ({ e with channelLastNotified := e.channelLastNotified.set channelId now }, [event])

/-- A channel that is `ok`: its anomaly ends. -/
def trackOk (channelId : String) (wall : Clock) : SensorDiagnosticsEngine :=
  match e.anomalyState.get? channelId with
  | none => e
  | some state =>
      { e with
        anomalyState := e.anomalyState.erase channelId
        alarmPublisher :=
          if state.lastWarningPublishedTs.isSome || state.lastCriticalPublishedTs.isSome then
            e.alarmPublisher.clearDiagnosticAlarm channelId wall
          else e.alarmPublisher }

/-- The anomaly of a channel that is not `ok`, opened if there is none. -/
def openAnomaly (channelId : String) (status : HealthStatus) (now : Float) : AnomalyState :=
  { (e.anomalyState.get? channelId).getD
      { firstAnomalyTs := now, currentStatus := status } with currentStatus := status }

def publishWarning (channelId : String) (state : AnomalyState) (now : Float) (wall : Clock) :
    SensorDiagnosticsEngine × AnomalyState × List Event :=
  let elapsed := now - state.firstAnomalyTs
  if e.settings.warningDurationS ≤ elapsed ∧ state.lastWarningPublishedTs.isNone then
    let published := e.alarmPublisher.publishDiagnosticAlarm channelId .warning elapsed
      (e.message channelId elapsed) wall
    let e := { e with alarmPublisher := published.1 }
    let state := { state with lastWarningPublishedTs := some now }
    match published.2 with
    | none => (e, state, [])
    | some event =>
        if e.withinCooldown channelId now then (e, state, [])
        else ((e.notify channelId now event).1, state, (e.notify channelId now event).2)
  else (e, state, [])

/-- The critical alarm of an anomaly that has lasted longer. -/
def publishCritical (channelId : String) (state : AnomalyState) (now : Float) (wall : Clock) :
    SensorDiagnosticsEngine × AnomalyState × List Event :=
  let elapsed := now - state.firstAnomalyTs
  if e.settings.criticalDurationS ≤ elapsed ∧ state.currentStatus = .critical ∧
      state.lastCriticalPublishedTs.isNone then
    let published := e.alarmPublisher.publishDiagnosticAlarm channelId .critical elapsed
      (e.message channelId elapsed) wall
    let e := { e with alarmPublisher := published.1 }
    let state := { state with lastCriticalPublishedTs := some now }
    match published.2 with
    | none => (e, state, [])
    | some event => ((e.notify channelId now event).1, state, (e.notify channelId now event).2)
  else (e, state, [])

/-- A channel that is not `ok`. -/
def trackAnomaly (channelId : String) (status : HealthStatus) (now : Float) (wall : Clock) :
    SensorDiagnosticsEngine × List Event :=
  let opened := e.openAnomaly channelId status now
  let warned := e.publishWarning channelId opened now wall
  let raised := warned.1.publishCritical channelId warned.2.1 now fun i => wall (i + 1)
  ({ raised.1 with anomalyState := raised.1.anomalyState.set channelId raised.2.1 },
    warned.2.2 ++ raised.2.2)

def track (now : Float) (wall : String → Clock) (channelId : String) (healthScore : ℤ) :
    SensorDiagnosticsEngine × List Event :=
  if healthToStatus healthScore = .ok then (e.trackOk channelId (wall channelId), [])
  else e.trackAnomaly channelId (healthToStatus healthScore) now (wall channelId)

/-- The loop over the channels. -/
def trackEach (now : Float) (wall : String → Clock) :
    List (String × ℤ) → SensorDiagnosticsEngine → SensorDiagnosticsEngine × List Event
  | [], e => (e, [])
  | p :: rest, e =>
      let first := e.track now wall p.1 p.2
      let later := trackEach now wall rest first.1
      (later.1, first.2 ++ later.2)

/-- `update` with `_update_anomaly_tracking` -/
def update (call : DiagnosticCall) : SensorDiagnosticsEngine × List Event :=
  let e := { e with diagnostics := call.scores }
  if e.isInGracePeriod call.graceClock then (e, [])
  else trackEach call.clock call.wall e.diagnostics.entries e

def acknowledge (request : AcknowledgeRequest) (clock : Clock) : SensorDiagnosticsEngine :=
  { e with alarmPublisher := (e.alarmPublisher.acknowledge request clock).1 }

end SensorDiagnosticsEngine
end Alarms
end CryoDaq
