import CryoDaq.Python.Dict
import CryoDaq.Python.Number

/-!
# The alarm state manager

The manager holds the active alarms by alarm id.  `process` feeds it the answer
of the evaluator for one alarm, `publishDiagnosticAlarm` and
`clearDiagnosticAlarm` serve the sensor diagnostics, and `acknowledge` records
that an operator has seen an alarm.

**Revision.**  Every change of an active event goes together with
`markActiveMutation`.

**Identity.**  An alarm that becomes active gets the next activation id.

An event is written `AlarmEvent chans vals` for the type of its two mutable
containers: here they are the list and the dictionary themselves.
-/

namespace CryoDaq
namespace Alarms

/-- An alarm event, with the types of its two containers. -/
structure AlarmEvent (chans vals : Type) where
  alarmId : String
  level : String
  message : String
  triggeredAt : Float
  channels : chans
  values : vals
  acknowledged : Bool := false
  acknowledgedAt : Float := 0.0
  acknowledgedBy : String := ""
  acknowledgedReason : String := ""
  acknowledgementRequestId : String := ""
  activationId : ℕ := 0
  evaluatorError : Bool := false
deriving DecidableEq

abbrev Event := AlarmEvent (List String) (Dict String Float)

inductive AlarmTransition
  | triggered
  | cleared
deriving DecidableEq

structure HistoryEntry where
  alarmId : String
  transition : String
  at_ : Float
  level : String
  message : Option String := none
  operator : Option String := none
  reason : Option String := none
  requestId : Option String := none
deriving DecidableEq

/-- What `acknowledge` answers. -/
structure Acknowledgement where
  alarmId : String
  acknowledgedAt : Float
  operator : String
  reason : String
  requestId : Option String
deriving DecidableEq

inductive Severity
  | warning
  | critical
deriving DecidableEq

def Severity.upper : Severity → String
  | .warning => "WARNING"
  | .critical => "CRITICAL"

/-- What `process` reads of an alarm's configuration. -/
structure ProcessConfig where
  sustainedS : Option Scalar := none
  hysteresis : Option Scalar := none
deriving DecidableEq

/-- The successive answers of `time.time()` within one call. -/
abbrev Clock := ℕ → Float

/-- `deque(maxlen=1000)` -/
@[irreducible] def historyLimit : ℕ := 1000

/-- `deque.append` -/
def appendHistory (history : List HistoryEntry) (e : HistoryEntry) :
    List HistoryEntry :=
  (history ++ [e]).drop ((history ++ [e]).length - historyLimit)

/-- Whether the condition has held for the configured time; it starts counting
at the first call. -/
def sustained (sustainedSince : Dict String Float) (alarmId : String)
    (limit : Scalar) (clock : Clock) : Dict String Float × Except PyError Bool :=
  let since := (sustainedSince.get? alarmId).getD (clock 0)
  let elapsed := Number.float (clock 1 - since)
  (sustainedSince.set alarmId since,
    limit.asNumber.map fun limit => !elapsed.lt limit)

/-- `f"diag:{channel_id}"` -/
def diagnosticId (channelId : String) : String := "diag:" ++ channelId

/-- The check of a request id: 32 lowercase hexadecimal characters. -/
def validRequestId (requestId : String) : Bool :=
  requestId.length = 32 && requestId.toList.all fun c => c ∈ "0123456789abcdef".toList

/-- The check of a given time: positive and finite. -/
def validTime (acknowledgedAt : Float) : Bool :=
  acknowledgedAt.isFinite && !decide (acknowledgedAt ≤ 0.0)

/-- What an operator submits. -/
structure AcknowledgeRequest where
  alarmId : String
  operator : String := ""
  reason : String := ""
  expectedActivationId : Option ℤ := none
  acknowledgedAt : Option Float := none
  requestId : Option String := none

def acknowledgedEvent {c v : Type} (e : AlarmEvent c v) (r : AcknowledgeRequest)
    (clock : Clock) : AlarmEvent c v :=
  { e with
    acknowledged := true
    acknowledgedAt := r.acknowledgedAt.getD (clock 0)
    acknowledgedBy := r.operator
    acknowledgedReason := r.reason
    acknowledgementRequestId := r.requestId.getD "" }

structure AlarmStateManager where
  active : Dict String Event
  sustainedSince : Dict String Float
  stateRevision : ℕ
  activationSequence : ℕ
  history : List HistoryEntry

namespace AlarmStateManager

/-- `AlarmStateManager()` -/
def new : AlarmStateManager where
  active := Dict.empty
  sustainedSince := Dict.empty
  stateRevision := 0
  activationSequence := 0
  history := []

def markActiveMutation (s : AlarmStateManager) : AlarmStateManager :=
  { s with stateRevision := s.stateRevision + 1 }

def record (s : AlarmStateManager) (e : HistoryEntry) : AlarmStateManager :=
  { s with history := appendHistory s.history e }

section Record

variable (s : AlarmStateManager) (e : HistoryEntry)

@[simp] theorem active_record : (s.record e).active = s.active := by
  simp only [record]

@[simp] theorem stateRevision_record :
    (s.record e).stateRevision = s.stateRevision := by
  simp only [record]

@[simp] theorem activationSequence_record :
    (s.record e).activationSequence = s.activationSequence := by
  simp only [record]

end Record

/-- An active event changed in place. -/
def amend (s : AlarmStateManager) (alarmId : String) (e : Event) :
    AlarmStateManager :=
  { s with active := s.active.set alarmId e }.markActiveMutation

/-- The error mark of an active event, set or removed. -/
def markError (s : AlarmStateManager) (alarmId : String) (error : Bool) :
    AlarmStateManager :=
  match s.active.get? alarmId with
  | none => s
  | some held =>
      if held.evaluatorError = error then s
      else s.amend alarmId { held with evaluatorError := error }

/-- An event stored under the next activation id. -/
def activate (s : AlarmStateManager) (alarmId : String) (event : Event) :
    AlarmStateManager :=
  let stored := { event with activationId := s.activationSequence + 1 }
  { s with
    activationSequence := s.activationSequence + 1
    active := s.active.set alarmId stored }.markActiveMutation.record
      { alarmId, transition := "TRIGGERED", at_ := stored.triggeredAt,
        level := stored.level, message := some stored.message }

def deactivate (s : AlarmStateManager) (alarmId level : String) (now : Float) :
    AlarmStateManager :=
  { s with active := s.active.erase alarmId }.markActiveMutation.record
    { alarmId, transition := "CLEARED", at_ := now, level }

/-- `_check_hysteresis_cleared`: the deadband is the evaluator's. -/
def checkHysteresisCleared (_s : AlarmStateManager) (_alarmId : String)
    (_config : ProcessConfig) : Bool := true

/-- The part of `process` for an alarm whose condition holds. -/
def raise (s : AlarmStateManager) (alarmId : String) (event : Event)
    (config : ProcessConfig) (clock : Clock) :
    AlarmStateManager × Except PyError (Option AlarmTransition) :=
  match config.sustainedS with
  | none =>
      let s := { s with sustainedSince := s.sustainedSince.erase alarmId }
      (s.activate alarmId event, .ok (some .triggered))
  | some limit =>
      let held := sustained s.sustainedSince alarmId limit clock
      let s := { s with sustainedSince := held.1 }
      match held.2 with
      | .error e => (s, .error e)
      | .ok false => (s, .ok none)
      | .ok true => (s.activate alarmId event, .ok (some .triggered))

/-- The part of `process` for an alarm whose condition does not hold. -/
def settle (s : AlarmStateManager) (alarmId : String) (config : ProcessConfig)
    (clock : Clock) : AlarmStateManager × Option AlarmTransition :=
  let s := { s with sustainedSince := s.sustainedSince.erase alarmId }
  match s.active.get? alarmId with
  | none => (s, none)
  | some held =>
      if config.hysteresis.isSome && !s.checkHysteresisCleared alarmId config then
        (s, none)
      else (s.deactivate alarmId held.level (clock 0), some .cleared)

def process (s : AlarmStateManager) (alarmId : String) (event : Option Event)
    (config : ProcessConfig) (clock : Clock) :
    AlarmStateManager × Except PyError (Option AlarmTransition) :=
  match event with
  | some event =>
      if event.evaluatorError then (s.markError alarmId true, .ok none)
      else if (s.active.get? alarmId).isSome then
        (s.markError alarmId false, .ok none)
      else s.raise alarmId event config clock
  | none => ((s.settle alarmId config clock).1, .ok (s.settle alarmId config clock).2)

/-- `publish_diagnostic_alarm`; `message` is the formatted text. -/
def publishDiagnosticAlarm (s : AlarmStateManager) (channelId : String)
    (severity : Severity) (ageSeconds : Float) (message : String) (clock : Clock) :
    AlarmStateManager × Option Event :=
  let alarmId := diagnosticId channelId
  let level := severity.upper
  match s.active.get? alarmId with
  | some existing =>
      if level = "CRITICAL" ∧ existing.level = "WARNING" then
        let upgraded := { existing with level, message }
        ((s.amend alarmId upgraded).record
          { alarmId, transition := "SEVERITY_UPGRADED", at_ := clock 0, level,
            message := some message }, some upgraded)
      else (s, none)
  | none =>
      let event : Event :=
        { alarmId, level, message, triggeredAt := clock 0, channels := [channelId],
          values := Dict.ofList [(channelId, ageSeconds)] }
      (s.activate alarmId event,
        some { event with activationId := s.activationSequence + 1 })

def clearDiagnosticAlarm (s : AlarmStateManager) (channelId : String)
    (clock : Clock) : AlarmStateManager :=
  if (s.active.get? (diagnosticId channelId)).isSome then
    s.deactivate (diagnosticId channelId) "INFO" (clock 0)
  else s

def acknowledge (s : AlarmStateManager) (r : AcknowledgeRequest) (clock : Clock) :
    AlarmStateManager × Except PyError (Option Acknowledgement) :=
  if r.acknowledgedAt.any (!validTime ·) || r.requestId.any (!validRequestId ·) then
    (s, .error .valueError)
  else
    match s.active.get? r.alarmId with
    | none => (s, .ok none)
    | some event =>
        if r.expectedActivationId.any (· ≠ (event.activationId : ℤ)) then
          (s, .ok none)
        else if event.acknowledged then (s, .ok none)
        else
          let marked := acknowledgedEvent event r clock
          ((s.amend r.alarmId marked).record
            { alarmId := r.alarmId, transition := "ACKNOWLEDGED",
              at_ := marked.acknowledgedAt, level := marked.level,
              operator := some r.operator, reason := some r.reason,
              requestId := r.requestId },
            .ok (some
              { alarmId := r.alarmId, acknowledgedAt := marked.acknowledgedAt,
                operator := r.operator, reason := r.reason, requestId := r.requestId }))

end AlarmStateManager

end Alarms
end CryoDaq
