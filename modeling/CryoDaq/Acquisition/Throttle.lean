import CryoDaq.Acquisition.Reading

/-!
# The adaptive throttle

`AdaptiveThrottle` decides which readings go to the archive.  It keeps, for
each channel, the value it saw last, the value and the time of the reading it
let through last, and the time since when the channel counts as stable.

**Comparisons.**  A reading is compared with the value *seen* last.  The value
emitted last is kept and never read.
-/

namespace CryoDaq
namespace Acquisition

/-- A compiled pattern: whether it is found in a channel name. -/
abbrev Pattern := String → Bool

structure ThrottleState where
  lastSeenValue : Float
  lastEmittedValue : Float
  lastEmittedAt : Timestamp
  stableSince : Timestamp
deriving DecidableEq

structure ThrottleConfig where
  enabled : Bool := false
  includePatterns : List Pattern := []
  excludePatterns : List Pattern := []
  protectedPatterns : List Pattern := []
  stableDuration : Float := 120.0
  maxInterval : Float := 30.0
  transitionHoldoff : Float := 30.0
  defaultDelta : Float := 0.05
  deltaByUnit : Dict String Float := .empty

structure AdaptiveThrottle where
  config : ThrottleConfig
  state : Dict String ThrottleState := .empty
  activeAlarmCount : ℕ := 0
  transitionUntil : Option Timestamp := none
  suppressedCount : ℕ := 0

def matchesAny (channel : String) (patterns : List Pattern) : Bool :=
  patterns.any fun pattern => pattern channel

def ThrottleConfig.threshold (cfg : ThrottleConfig) (unit : String) : Float :=
  (cfg.deltaByUnit.get? unit).getD cfg.defaultDelta

/-- `abs(a - b)` -/
def distance (a b : Float) : Float := (a - b).abs

namespace AdaptiveThrottle

/-- The hold after a transition of a source or of the safety state. -/
def holdTransition (t : AdaptiveThrottle) (r : Reading) : Except PyError AdaptiveThrottle := do
  let holdoff ← microseconds t.config.transitionHoldoff
  .ok { t with transitionUntil := some (r.timestamp + holdoff) }

/-- `metadata.get("is_transition") is not False` -/
def marksTransition (r : Reading) : Bool :=
  match r.metadata.get? "is_transition" with
  | some (.bool false) => false
  | _ => true

/-- `str(metadata.get("state", "")).lower() != "running"` -/
def leavesRunning (r : Reading) : Bool :=
  match r.metadata.get? "state" with
  | some (.str s) => s.toLower != "running"
  | _ => true

def observeRuntimeSignal (t : AdaptiveThrottle) (r : Reading) :
    Except PyError AdaptiveThrottle :=
  if r.channel = "analytics/alarm_count" then do
    let count ← roundToInt r.value
    .ok { t with activeAlarmCount := count.toNat }
  else if "analytics/keithley_channel_state/".toList <+: r.channel.toList then
    if marksTransition r then t.holdTransition r else .ok t
  else if r.channel = "analytics/safety_state" then
    if leavesRunning r && marksTransition r then t.holdTransition r else .ok t
  else .ok t

/-- `reading.timestamp <= self._transition_until` -/
def inTransition (t : AdaptiveThrottle) (r : Reading) : Bool :=
  match t.transitionUntil with
  | some until_ => r.timestamp ≤ until_
  | none => false

/-- The early returns: the reading is archived and its channel's state stays. -/
def bypasses (t : AdaptiveThrottle) (r : Reading) : Bool :=
  if 0 < t.activeAlarmCount then true
  else if r.status ≠ .ok then true
  else if t.inTransition r then true
  else if matchesAny r.channel t.config.protectedPatterns then true
  else if matchesAny r.channel t.config.excludePatterns then true
  else !t.config.includePatterns.isEmpty && !matchesAny r.channel t.config.includePatterns

def firstState (r : Reading) : ThrottleState where
  lastSeenValue := r.value
  lastEmittedValue := r.value
  lastEmittedAt := r.timestamp
  stableSince := r.timestamp

/-- A known channel: whether the reading is let through, and the next state. -/
def judge (cfg : ThrottleConfig) (s : ThrottleState) (r : Reading) : Bool × ThrottleState :=
  let delta := distance r.value s.lastSeenValue
  let seen := { s with lastSeenValue := r.value }
  if cfg.threshold r.unit < delta then
    (true, { seen with
      lastEmittedValue := r.value, lastEmittedAt := r.timestamp, stableSince := r.timestamp })
  else if totalSeconds (r.timestamp - s.stableSince) < cfg.stableDuration then
    (true, { seen with lastEmittedValue := r.value, lastEmittedAt := r.timestamp })
  else if cfg.maxInterval ≤ totalSeconds (r.timestamp - s.lastEmittedAt) then
    (true, { seen with lastEmittedValue := r.value, lastEmittedAt := r.timestamp })
  else (false, seen)

def remember (t : AdaptiveThrottle) (channel : String) (s : ThrottleState) : AdaptiveThrottle :=
  { t with state := t.state.set channel s }

def shouldEmit (t : AdaptiveThrottle) (r : Reading) : Bool × AdaptiveThrottle :=
  if t.bypasses r then (true, t)
  else
    match t.state.get? r.channel with
    | none => (true, t.remember r.channel (firstState r))
    | some s => ((judge t.config s r).1, t.remember r.channel (judge t.config s r).2)

/-- One more reading of `filter_for_archive`. -/
def filterStep (acc : List Reading × AdaptiveThrottle) (r : Reading) :
    List Reading × AdaptiveThrottle :=
  let verdict := acc.2.shouldEmit r
  if verdict.1 then (acc.1 ++ [r], verdict.2)
  else (acc.1, { verdict.2 with suppressedCount := verdict.2.suppressedCount + 1 })

def filterForArchive (t : AdaptiveThrottle) (readings : List Reading) :
    List Reading × AdaptiveThrottle :=
  if t.config.enabled then readings.foldl filterStep ([], t) else (readings, t)

end AdaptiveThrottle
end Acquisition
end CryoDaq
