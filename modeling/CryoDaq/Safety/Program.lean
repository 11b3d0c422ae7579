import CryoDaq.Async.Pool
import CryoDaq.Safety.Hazard

/-!
# What the manager waits for

The coroutines of the manager are `Py` programs: cooperative coroutines over
`State` that suspend on a `Wait` and are resumed with an outcome.

**Waits.**  `Wait.enabled` says when a wait may be over.  A call of the driver,
a hook, a publication or a durable log may end at any time with any value or
exception; a lock, a retained task or a child only when it is free or done.

**Ownership.**  `_settle_shielded_hardware_task` of a task just created runs
the inner coroutine to its end whatever happens to the caller: `settled`.  The
locks are handed over in any order.
-/

namespace CryoDaq
namespace Safety

open Async

inductive DriverCall where
  | startSource (channel : SmuChannel) (pTarget vComp iComp : PyFloat)
  | stopSource (channel : SmuChannel)
  | emergencyOff (scope : Option SmuChannel)
  | disconnect
  | updateSourceTarget (channel : SmuChannel) (pTarget : PyFloat)
  | updateSourceLimit (channel : SmuChannel) (vComp iComp : Option PyFloat)
  | acknowledgeWdogTrip
  | wdogTripped

inductive Wait where
  /-- The event loop, and nothing else. -/
  | scheduled
  /-- The event loop, before a created task that first takes `_cmd_lock`. -/
  | queuedOwner
  | cmdLock
  | runRequestLock
  | driver (call : DriverCall)
  /-- A retained task. -/
  | background (id : Nat)
  /-- `asyncio.wait` of retained tasks, up to a deadline. -/
  | drained (ids : List Nat)
  /-- `asyncio.gather` of safety children. -/
  | children (ids : List Nat)
  | publish
  | faultLog
  | persistenceProbe
  | warningChoice

def Wait.enabled : Wait → Outcome → State → Bool
  | .cmdLock, r, s => decide (r = .ok .none) && s.control.cmdLock.isNone
  | .runRequestLock, r, s =>
      decide (r = .ok .none) && s.control.runRequestLock.isNone
  | .background id, r, s =>
      match s.lifecycle.background[id]? with
      | some ⟨_, .finished outcome⟩ => decide (outcome = r)
      | _ => false
  | .drained ids, r, s =>
      match r with
      | .ok (.bool true) => ids.all s.lifecycle.backgroundDone
      | .ok (.bool false) => true
      | _ => false
  | .children ids, _, s => ids.all s.lifecycle.childDone
  | _, _, _ => true

/-- A coroutine of the manager. -/
abbrev Py (α : Type) : Type := Coro State Wait Outcome Exc α

namespace Py

variable {α : Type}

/-- `await` of a wait: its value, its exception or the caller's cancellation. -/
def awaiting (w : Wait) : Py PyVal := do
  let r ← Coro.suspend w
  if r.cancelled then Coro.raise .cancelled else Coro.ofExcept r.value

/-- Give way to the event loop. -/
def yielding (w : Wait) : Py Unit := do
  let _ ← awaiting w
  pure ()

/-- A created task whose body is `p`: it starts later, and its creator learns
later that it ended. -/
def task (first : Wait) (p : Py α) : Py α := do
  let _ ← Coro.suspend first
  let r ← Coro.attempt p
  let _ ← Coro.suspend .scheduled
  Coro.ofExcept r

/-- `_settle_shielded_hardware_task(asyncio.create_task(p))`: the outcome, and
whether the caller was cancelled. -/
def settled (p : Py α) : Py (Except Exc α × Bool) :=
  Coro.settle false (task .scheduled p)

/-- The same for a task that first takes `_cmd_lock`. -/
def settledOwner (p : Py α) : Py (Except Exc α × Bool) :=
  Coro.settle false (task .queuedOwner p)

/-- The same for a single wait: a call of the driver, a retained task. -/
def settledWait (w : Wait) : Py (Outcome × Bool) :=
  Coro.settle false (awaiting w)

/-- `raise caller_cancelled` where there is one. -/
def raiseIf (cancelled : Bool) : Py Unit :=
  if cancelled then Coro.raise .cancelled else pure ()

/-- The end of a public method that owns its operation: the operation's own
exception first, then the caller's cancellation, then the result. -/
def deliver (r : Except Exc α × Bool) : Py α := do
  let a ← Coro.ofExcept r.1
  raiseIf r.2
  pure a

/-- `async with self._cmd_lock`. -/
def withCmdLock (t : Nat) (p : Py α) : Py α := do
  yielding .cmdLock
  Coro.update (State.onControl (Control.takeCmdLock t))
  let r ← Coro.attempt p
  Coro.update (State.onControl Control.releaseCmdLock)
  Coro.ofExcept r

/-- `async with self._run_request_lock`; `left` is what follows a wait for it
that is cancelled. -/
def withRunRequestLock (t : Nat) (left : Exc → Py Unit) (p : Py α) :
    Py α := do
  match ← Coro.attempt (yielding .runRequestLock) with
  | .error e => do
      left e
      Coro.raise e
  | .ok () => do
      Coro.update (State.onControl (Control.takeRunRequestLock t))
      let r ← Coro.attempt p
      Coro.update (State.onControl Control.releaseRunRequestLock)
      Coro.ofExcept r

def note (n : Note) : Py Unit := Coro.update (State.note n)

def refusal : Option Exc → Py Unit
  | none => pure ()
  | some e => do
      note .snapshotRefused
      Coro.raise e

/-- A synchronous function that may raise once it has changed the state. -/
def sync (f : State → State × Option Exc) : Py Unit := do
  let s ← Coro.read
  Coro.update fun s => (f s).1
  refusal (f s).2

def observeTerminalSafetyChildren : Py Unit := do
  sync (State.observeTerminalChild .collect)
  sync (State.observeTerminalChild .monitor)

/-- `_refresh_operator_safety_snapshot`. -/
def refresh : Py Unit := sync State.refreshOperatorSafetySnapshot

def settleStop (t : Nat) : Py Unit :=
  Coro.update (State.onControl (Control.settleStop t))

end Py

/-- What a command returns: the keys of its dictionary that it sets. -/
structure Reply where
  ok : Bool
  state : Option SafetyState := none
  channel : Option SmuChannel := none
  channels : Option (Finset SmuChannel) := none
  activeChannels : Option (Finset SmuChannel) := none
  appliedOffChannels : Option (Finset SmuChannel) := none
  outputOffConfirmed : Option Bool := none
  offEvidence : Option SourceOffEvidence := none
  latched : Bool := false
  pTarget : Option PyFloat := none
  vComp : Option PyFloat := none
  iComp : Option PyFloat := none
  applied : List (String × PyFloat) := []
  /-- `applied: {"output_off_confirmed": [channel]}`. -/
  appliedOff : Option SmuChannel := none
  uncertain : List String := []
  operatorWarnings : List OperatorWarning := []
  operatorWarningReceipt : Option WarningReceipt := none
  warning : Option String := none
  error : Option String := none

/-- `normalize_smu_channel`. -/
def ChannelArg.normalize : ChannelArg → Except Exc SmuChannel
  | .omitted => .ok .smua
  | .named channel => .ok channel
  | .invalid text =>
      .error (.raised .valueError
        ("Invalid Keithley channel '" ++ text ++
          "'. Allowed values: smua, smub."))

/-- The OFF scope that a channel argument names: everything when it is
omitted. -/
def ChannelArg.scope : ChannelArg → Except Exc (Option SmuChannel)
  | .omitted => .ok none
  | a => a.normalize.map some

/-- `channel is None`. -/
def ChannelArg.isOmitted : ChannelArg → Bool
  | .omitted => true
  | _ => false

end Safety
end CryoDaq
