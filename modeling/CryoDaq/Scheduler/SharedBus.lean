import CryoDaq.Control.Epochs
import Mathlib.Algebra.Order.Floor.Ring
import Mathlib.Data.Rat.Floor
import Mathlib.Tactic.Linarith

/-!
# The poll loop of a shared bus

`_shared_bus_poll_loop` visits the devices of one bus one after the other.  This
module is the loop as a function of what it reads: the clock, what each device
did when it was visited, and what the two bus recoveries answered.

**Rounds.**  A round visits the devices whose slot has come and whose backoff is
over, counts successes and failures, and then climbs the recovery ladder.  A
terminal read, a terminal recovery and a cancellation end the loop.

**Turned away.**  Three barriers stand before the `try` whose `finally` moves
the slot on.  A device they turn away counts as failed and gets a backoff, and
its slot stays where it is.

**History.**  `Run.history` is a ghost: the rounds so far, with the answers.
-/

namespace CryoDaq

namespace Scheduler

inductive BusRecoveryLevel
  | deviceClear
  | interfaceClear
  | reopenBus
deriving DecidableEq

/-- A participant of the bus; its timing was checked when it was configured. -/
structure Device where
  name : String
  pollInterval : ℚ
  interval_pos : 0 < pollInterval

/-- The participants, and what their descriptor and coordinator can recover. -/
structure Bus where
  devices : List Device
  nonempty : devices ≠ []
  nodup : (devices.map Device.name).Nodup
  coordinator : Bool
  supportedRecovery : Option (List BusRecoveryLevel)

def Bus.participantNames (bus : Bus) : Finset String :=
  (bus.devices.map Device.name).toFinset

/-- What a visit to a device came to, with the clock readings it took. -/
inductive Answer
  | turnedAway (clock : ℚ)
  | read (nowAfter : ℚ)
  | failed (clock nowAfter : ℚ)
  | ended (nowAfter : ℚ)
deriving DecidableEq

namespace Answer

/-- The reading of the clock in `finally`, for a visit that got there. -/
def nowAfter : Answer → Option ℚ
  | .turnedAway _ => none
  | .read nowAfter => some nowAfter
  | .failed _ nowAfter => some nowAfter
  | .ended nowAfter => some nowAfter

def succeeds : Answer → Bool
  | .read _ => true
  | _ => false

def fails : Answer → Bool
  | .turnedAway _ => true
  | .failed _ _ => true
  | _ => false

def ends : Answer → Bool
  | .ended _ => true
  | _ => false

end Answer

structure Schedule where
  nextDue : String → ℚ
  nextEligible : String → ℚ
  recoveryBackoff : String → ℚ

/-- The next slot after `nowAfter`.  The branch divides only when the difference
is not negative, where `int` is the floor. -/
def advance (interval due nowAfter : ℚ) : ℚ :=
  let deadline := due + interval
  if deadline ≤ nowAfter then
    deadline + ((⌊(nowAfter - deadline) / interval⌋ : ℚ) + 1) * interval
  else deadline

namespace Schedule

def isDue (s : Schedule) (now : ℚ) (d : Device) : Bool :=
  decide (s.nextDue d.name ≤ now ∧ s.nextEligible d.name ≤ now)

def holdOff (s : Schedule) (d : Device) (clock : ℚ) : Schedule :=
  { s with
    nextEligible :=
      Function.update s.nextEligible d.name (clock + s.recoveryBackoff d.name) }

def setBackoff (s : Schedule) (d : Device) (backoff : ℚ) : Schedule :=
  { s with recoveryBackoff := Function.update s.recoveryBackoff d.name backoff }

def moveOn (s : Schedule) (d : Device) (nowAfter : ℚ) : Schedule :=
  { s with
    nextDue :=
      Function.update s.nextDue d.name (advance d.pollInterval (s.nextDue d.name) nowAfter) }

def visit (s : Schedule) (d : Device) : Answer → Schedule
  | .turnedAway clock => s.holdOff d clock
  | .read nowAfter => (s.setBackoff d (1 / 100)).moveOn d nowAfter
  | .failed clock nowAfter =>
      ((s.holdOff d clock).setBackoff d (min (s.recoveryBackoff d.name * 2) 1)).moveOn d nowAfter
  | .ended nowAfter => s.moveOn d nowAfter

end Schedule

/-- One visit: the slot it was made for and the slot it left. -/
structure Visit where
  device : Device
  answer : Answer
  before : ℚ
  after : ℚ

def makeVisit (s : Schedule) (d : Device) (a : Answer) : Visit where
  device := d
  answer := a
  before := s.nextDue d.name
  after := (s.visit d a).nextDue d.name

/-- The visits of one round, in order, up to one that ends the loop. -/
def visits (ask : String → Answer) (s : Schedule) : List Device → List Visit
  | [] => []
  | d :: rest =>
      makeVisit s d (ask d.name) ::
        (if (ask d.name).ends then [] else visits ask (s.visit d (ask d.name)) rest)

def visitAll (ask : String → Answer) (s : Schedule) : List Device → Schedule
  | [] => s
  | d :: rest =>
      if (ask d.name).ends then s.visit d (ask d.name)
      else visitAll ask (s.visit d (ask d.name)) rest

structure Loop where
  schedule : Schedule
  correlatedFailures : ℕ
  failureGeneration : Finset String
  ifcSucceeded : Bool
  running : Bool

/-- What the environment says during one round.  A recovery answers `none` when
it is terminal. -/
structure RoundInput where
  now : ℚ
  answers : String → Answer
  interfaceClear : Option Bool
  reopenBus : Option Bool

/-- What a round did: its visits, and the answers of the recoveries it invoked. -/
structure Round where
  visits : List Visit
  interfaceClear : Option (Option Bool)
  reopenBus : Option (Option Bool)

def Round.hasRead (r : Round) : Prop := ∃ v ∈ r.visits, v.answer.succeeds = true

/-- The participants that were due in the round and failed. -/
def Round.failedNames (r : Round) : Finset String :=
  ((r.visits.filter (fun v => v.answer.fails)).map (fun v => v.device.name)).toFinset

def Bus.due (bus : Bus) (s : Schedule) (now : ℚ) : List Device :=
  bus.devices.filter (s.isDue now)

def Loop.count (l : Loop) (due : List Device) (made : List Visit) : Loop :=
  if made.any (fun v => v.answer.succeeds) then
    { l with failureGeneration := ∅, correlatedFailures := 0, ifcSucceeded := false }
  else if made.any (fun v => v.answer.fails) then
    { l with failureGeneration := l.failureGeneration ∪ (due.map Device.name).toFinset }
  else l

def Loop.completeEpoch (l : Loop) : Loop :=
  { l with correlatedFailures := l.correlatedFailures + 1, failureGeneration := ∅ }

/-- What the loop does with the answer of `interface_clear`. -/
def Loop.interfaceCleared (l : Loop) : Option Bool → Loop
  | none => { l with running := false }
  | some result => { l with ifcSucceeded := result }

/-- What the loop does with the answer of `reopen_bus`. -/
def Loop.reopened (l : Loop) : Option Bool → Loop
  | none => { l with running := false }
  | some true => { l with correlatedFailures := 0, ifcSucceeded := false }
  | some false => l

def wantsInterfaceClear (levels : List BusRecoveryLevel) (l : Loop) : Bool :=
  decide (3 ≤ l.correlatedFailures ∧ l.ifcSucceeded = false ∧ .interfaceClear ∈ levels)

def wantsReopen (levels : List BusRecoveryLevel) (l : Loop) : Bool :=
  decide (6 ≤ l.correlatedFailures ∧ .reopenBus ∈ levels)

def reopenStep (levels : List BusRecoveryLevel) (input : RoundInput) (made : List Visit)
    (cleared : Option (Option Bool)) (l : Loop) : Round × Loop :=
  if wantsReopen levels l then
    (⟨made, cleared, some input.reopenBus⟩, l.reopened input.reopenBus)
  else (⟨made, cleared, none⟩, l)

/-- The recovery ladder after a completed epoch. -/
def ladder (levels : List BusRecoveryLevel) (input : RoundInput) (made : List Visit)
    (l : Loop) : Round × Loop :=
  if wantsInterfaceClear levels l then
    if input.interfaceClear = none then
      (⟨made, some input.interfaceClear, none⟩, l.interfaceCleared input.interfaceClear)
    else
      reopenStep levels input made (some input.interfaceClear)
        (l.interfaceCleared input.interfaceClear)
  else reopenStep levels input made none l

/-- What follows the visits of a round that did not end the loop. -/
def afterVisits (bus : Bus) (input : RoundInput) (made : List Visit) (l : Loop) : Round × Loop :=
  if l.failureGeneration = bus.participantNames then
    match bus.coordinator, bus.supportedRecovery with
    | true, some levels => ladder levels input made l.completeEpoch
    | _, _ => (⟨made, none, none⟩, l.completeEpoch)
  else (⟨made, none, none⟩, l)

/-- One turn of the `while`.  Without a due device the loop sleeps. -/
def Loop.round (bus : Bus) (l : Loop) (input : RoundInput) : Round × Loop :=
  let due := bus.due l.schedule input.now
  let made := visits input.answers l.schedule due
  let polled := { l with schedule := visitAll input.answers l.schedule due }
  if due = [] then (⟨[], none, none⟩, l)
  else if made.any (fun v => v.answer.ends) then
    (⟨made, none, none⟩, { polled with running := false })
  else afterVisits bus input made (polled.count due made)

structure Run where
  loop : Loop
  history : List Round

/-- The loop as it starts, with the two clock readings of each device. -/
def begin (due eligible : String → ℚ) : Run where
  loop :=
    { schedule := ⟨due, eligible, fun _ => 1 / 100⟩
      correlatedFailures := 0
      failureGeneration := ∅
      ifcSucceeded := false
      running := true }
  history := []

def Run.step (bus : Bus) (run : Run) (input : RoundInput) : Run :=
  if run.loop.running then
    { loop := (run.loop.round bus input).2
      history := run.history ++ [(run.loop.round bus input).1] }
  else run

def Run.steps (bus : Bus) (run : Run) (inputs : List RoundInput) : Run :=
  inputs.foldl (Run.step bus) run

end Scheduler

end CryoDaq
