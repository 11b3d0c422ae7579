import CryoDaq.Python.Dict
import CryoDaq.Python.Raising
import CryoDaq.Python.Time

/-!
# The supervisor of the engine's tasks

`TaskSupervisor` keeps every long-lived task of the engine in a registry.  The
done callback of a task asks `handleSupervisedTaskExit` what follows from its end:
an alarm, a restart after a delay, or a FAULT latch.

**Calls.**  A `World` is the supervisor, the tasks and the restart timers of the
loop.  A task ends first, and its done callback comes later.  The monotonic clock
counts microseconds.

**Names.**  The engine registers and spawns each name once; later incarnations
come from the restart timers.
-/

namespace CryoDaq
namespace Supervision

def superviseBackoffMaxS : ℕ := 60

def safetyTaskMaxRestarts : ℕ := 2

/-- `_SUPERVISE_RESET_WINDOW_S`, in microseconds. -/
def superviseResetWindow : Timestamp := 300000000

inductive Outcome
  | returned
  | raised (exc : String)
  | cancelled
deriving DecidableEq, Repr

/-- The exception that stands for the end of a task. -/
def Outcome.exc (name : String) : Outcome → String
  | .returned => "supervised task " ++ name ++ " returned unexpectedly"
  | .raised exc => exc
  | .cancelled => "supervised task " ++ name ++ " was cancelled unexpectedly"

/-- What the end of a task sets off. -/
inductive Effect
  | alarm (name exc : String)
  /-- in seconds -/
  | restart (delay : ℕ)
  | faultLatch (name exc : String)
deriving DecidableEq, Repr

/-- What `_handle_supervised_task_exit` returns. -/
inductive Verdict
  | ignored
  | restart
  | faultLatch
deriving DecidableEq, Repr

/-- `min(_SUPERVISE_BACKOFF_BASE_S * 2 ** (count - 1), _SUPERVISE_BACKOFF_MAX_S)`; a power
of two from `2 ** 1024` on is no float. -/
def backoff (count : ℕ) : Except PyError ℕ :=
  if count - 1 < 1024 then .ok (min (2 ^ (count - 1)) superviseBackoffMaxS)
  else .error .overflowError

/-- `restart_counts` after a termination that counts. -/
def nextCount (counts : Dict String ℕ) (name : String) (running : Timestamp) : ℕ :=
  (if superviseResetWindow ≤ running then 0 else (counts.get? name).getD 0) + 1

def handleSupervisedTaskExit (name : String) (outcome : Outcome) (stopping : Bool)
    (counts : Dict String ℕ) (safetyCritical : Bool) (running : Timestamp)
    (faultImmediately : Bool) : Dict String ℕ × List Effect × Except PyError Verdict :=
  if stopping then (counts, [], .ok .ignored)
  else
    let exc := outcome.exc name
    if safetyCritical && faultImmediately then
      (counts, [.alarm name exc, .faultLatch name exc], .ok .faultLatch)
    else
      let count := nextCount counts name running
      let counted := counts.set name count
      if safetyCritical && decide (safetyTaskMaxRestarts < count) then
        (counted, [.alarm name exc, .faultLatch name exc], .ok .faultLatch)
      else
        match backoff count with
        | .ok delay => (counted, [.alarm name exc, .restart delay], .ok .restart)
        | .error e => (counted, [.alarm name exc], .error e)

/-- The attributes of `TaskSupervisor`; a task is its place in the list of tasks. -/
structure TaskSupervisor where
  engineStopping : Bool := false
  supervisedTasks : Dict String ℕ := .empty
  restarts : Dict String ℕ := .empty
  spawnTimes : Dict String Timestamp := .empty

inductive Status
  | alive
  /-- ended, before its done callback -/
  | ended (outcome : Outcome)
  | settled
deriving DecidableEq, Repr

structure Incarnation where
  name : String
  safetyCritical : Bool
  /-- whether the supervisor created it -/
  created : Bool
  since : Timestamp
  status : Status
deriving DecidableEq

structure Timer where
  name : String
  safetyCritical : Bool
  due : Timestamp
deriving DecidableEq

/-- A done callback that has run. -/
structure Exit where
  name : String
  safetyCritical : Bool
  outcome : Outcome
  /-- whether the engine was stopping -/
  stopping : Bool
  /-- whether `is_stop_cancelled_child` owns the cancellation -/
  owned : Bool
  lived : Timestamp
  effects : List Effect
deriving DecidableEq

/-- The supervisor, its tasks and timers, and the done callbacks, the latest first. -/
structure World where
  supervisor : TaskSupervisor := {}
  tasks : List Incarnation := []
  timers : List Timer := []
  now : Timestamp := 0
  exits : List Exit := []

/-- What happens next. -/
inductive Call
  /-- `register` with a task that may have ended -/
  | register (name : String) (safetyCritical : Bool) (status : Status)
  | spawn (name : String) (safetyCritical : Bool)
  | ends (task : ℕ) (outcome : Outcome)
  | done (task : ℕ) (owned : Bool)
  | timer (index : ℕ)
  | stop
  | passes (now : Timestamp)

namespace World

variable (w : World)

def register (name : String) (safetyCritical created : Bool) (status : Status) : World :=
  { w with
    supervisor :=
      { w.supervisor with
        supervisedTasks := w.supervisor.supervisedTasks.set name w.tasks.length
        spawnTimes := w.supervisor.spawnTimes.set name w.now }
    tasks := w.tasks ++ [⟨name, safetyCritical, created, w.now, status⟩] }

def spawn (name : String) (safetyCritical : Bool) : World :=
  if w.supervisor.engineStopping then w else w.register name safetyCritical true .alive

/-- `_done`: the restart timers that the effects set. -/
def timersOf (name : String) (safetyCritical : Bool) (now : Timestamp) : List Effect → List Timer
  | [] => []
  | .restart delay :: rest =>
      ⟨name, safetyCritical, now + 1000000 * delay⟩ :: timersOf name safetyCritical now rest
  | _ :: rest => timersOf name safetyCritical now rest

/-- `_done` of a task that ended -/
def finish (task : ℕ) (t : Incarnation) (outcome : Outcome) (owned : Bool) : World :=
  let spawnedAt := (w.supervisor.spawnTimes.get? t.name).getD w.now
  let stopping := w.supervisor.engineStopping
  let expected := stopping && t.safetyCritical && (outcome == .cancelled) && owned
  let result := handleSupervisedTaskExit t.name outcome
    (stopping && (!t.safetyCritical || expected)) w.supervisor.restarts t.safetyCritical
    (w.now - spawnedAt) (stopping && t.safetyCritical && !expected)
  { w with
    supervisor := { w.supervisor with restarts := result.1 }
    tasks := w.tasks.set task { t with status := .settled }
    timers := w.timers ++ timersOf t.name t.safetyCritical w.now result.2.1
    exits := ⟨t.name, t.safetyCritical, outcome, stopping, owned, w.now - t.since, result.2.1⟩ ::
      w.exits }

def stop : World := { w with supervisor := { w.supervisor with engineStopping := true } }

/-- Whether a call can come now. -/
def Enabled : Call → Prop
  | .register name _ status =>
      w.supervisor.supervisedTasks.get? name = none ∧ status ≠ .settled
  | .spawn name _ => w.supervisor.supervisedTasks.get? name = none
  | .ends task _ => (w.tasks[task]?).any (fun t => t.status = .alive) = true
  | .done task _ => (w.tasks[task]?).any (fun t => t.status ≠ .alive ∧ t.status ≠ .settled) = true
  | .timer index => (w.timers[index]?).any (fun t => t.due ≤ w.now) = true
  | .stop => True
  | .passes now => w.now ≤ now

def after : Call → World
  | .register name safetyCritical status => w.register name safetyCritical false status
  | .spawn name safetyCritical => w.spawn name safetyCritical
  | .ends task outcome =>
      match w.tasks[task]? with
      | none => w
      | some t => { w with tasks := w.tasks.set task { t with status := .ended outcome } }
  | .done task owned =>
      match w.tasks[task]? with
      | none => w
      | some t =>
          match t.status with
          | .ended outcome => w.finish task t outcome owned
          | _ => w
  | .timer index =>
      match w.timers[index]? with
      | none => w
      | some t => { w with timers := w.timers.eraseIdx index }.spawn t.name t.safetyCritical
  | .stop => w.stop
  | .passes now => { w with now := now }

end World

inductive Reached : World → Prop
  | init : Reached {}
  | call {w : World} (c : Call) : Reached w → w.Enabled c → Reached (w.after c)

end Supervision
end CryoDaq
