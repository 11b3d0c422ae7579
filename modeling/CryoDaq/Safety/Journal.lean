import CryoDaq.Async.Journal
import CryoDaq.Safety.Manager

/-!
# What the journal promises

For each kind of entry, what it says about the entries older than it: `Note`s
are written by the manager's own steps, and `Note.Justified` is the property
that the step has to establish when it writes.

**Runs.**  A run of the manager is good when its journal is justified; the
statements about sequences of operations are read off from there.
-/

namespace CryoDaq
namespace Safety

open Async

namespace Note

/-- The task that wrote the note, where only that task writes such notes. -/
def owner : Note → Option Nat
  | .probeOpened t => some t
  | .latchConsumed t _ _ _ _ _ => some t
  | .acknowledgeAdmitted t => some t
  | .acknowledgeCleared t _ => some t
  | .acknowledgeReturned t _ => some t
  | .startSettled t _ _ _ => some t
  | .startPassRefused t => some t
  | .offJoined t _ => some t
  | .inspectionRaised t => some t
  | .revocationJoined t => some t
  | .runConfirmed r => some r.task
  | .runRefused e => some e.task
  | .outputOffProved p => some p.task
  | .stopBegan t _ _ => some t
  | .stopEnded e => some e.task
  | _ => none

/-- The notes that the shared OFF path writes on behalf of a task. -/
def shared : Note → Bool
  | .offJoined _ _ => true
  | .outputOffProved _ => true
  | _ => false

/-- The notes that only the holder of `_cmd_lock` writes. -/
def locked : Note → Bool
  | .latchConsumed _ _ _ _ _ _ => true
  | .startPassRefused _ => true
  | .runConfirmed _ => true
  | .acknowledgeCleared _ _ => true
  | _ => false

def isAbortIntent : Note → Bool
  | .abortIntent _ => true
  | _ => false

def isProbe (t : Nat) : Note → Bool
  | .probeOpened u => u == t
  | _ => false

def isAdmittedAcknowledge (t : Nat) : Note → Bool
  | .acknowledgeAdmitted u => u == t
  | _ => false

def isCleared (t : Nat) : Note → Bool
  | .acknowledgeCleared u _ => u == t
  | _ => false

/-- A latch that is left with a source still tracked. -/
def leavesLive : Note → Bool
  | .latchConsumed _ _ _ active _ _ => decide (active ≠ ∅)
  | .acknowledgeCleared _ active => decide (active ≠ ∅)
  | _ => false

/-- A cause for RUNNING without a tracked source: the last source was given up
in RUNNING with no stop outstanding, or a refresh raised. -/
def strands : Note → Bool
  | .gaveUp _ state tracked stops =>
      decide (state = .running ∧ tracked = ∅ ∧ stops = ∅)
  | .snapshotRefused => true
  | _ => false

/-- What a `stop()` does not withstand: one that owns no child while a
settlement of an earlier one is pending, and a refresh that raised. -/
def upsetsStop : Note → Bool
  | .stopBegan _ ownsChild pending => !ownsChild && !pending.isEmpty
  | .snapshotRefused => true
  | _ => false

/-- An OFF of everything or of the channel was requested, or a global OFF was
joined on behalf of task `t`. -/
def covers (t : Nat) (channel : SmuChannel) : Note → Bool
  | .offRequested none => true
  | .offRequested (some c) => c == channel
  | .offJoined u _ => u == t
  | _ => false

/-- `start_source` of task `t` settled, but not with an exception under a
latched fault. -/
def isStart (t : Nat) : Note → Bool
  | .startSettled u _ failed state =>
      u == t && !(failed && state == .faultLatched)
  | _ => false

end Note

namespace Journal

/-- The FSM state that the transitions lead to. -/
def lastState : List Note → SafetyState
  | [] => .safeOff
  | .transition _ after _ :: _ => after
  | _ :: older => lastState older

/-- The warning that the next successful Start owes for a consumed latch, as
long as no abort intent and no refused second pass came after it. -/
def owed : List Note → Option WarningCode
  | [] => none
  | .latchConsumed _ _ _ _ code current :: _ =>
      if current then some code else none
  | .runConfirmed _ :: _ => none
  | .abortIntent _ :: _ => none
  | .startPassRefused _ :: _ => none
  | _ :: older => owed older

/-- Every settled start of task `t` was followed by an OFF that covers the
channel. -/
def StartsCovered (t : Nat) (channel : SmuChannel) : List Note → Prop
  | [] => True
  | n :: older =>
      n.covers t channel = true ∨
        (n.isStart t = false ∧ StartsCovered t channel older)

/-- Nothing upset a `stop()`. -/
def StopsOwned (j : List Note) : Prop := ∀ n ∈ j, n.upsetsStop = false

end Journal

open Journal

/-- The two ways out of FAULT_LATCHED, each of them noted by the task that
takes it immediately before the transition. -/
def LeavesLatch (after : SafetyState) (reason : TransitionReason)
    (older : List Note) : Prop :=
  (after = .manualRecovery ∧ (∃ text, reason = .faultAcknowledged text) ∧
    ∃ t active, older.head? = some (.acknowledgeCleared t active)) ∨
  (after = .safeOff ∧ reason = .startUnderLatch ∧
    ∃ t sources recovered active code current, older.head? =
      some (.latchConsumed t sources recovered active code current))

def ConsumableOrigins (t : Nat) (sources : Finset FaultSource)
    (recovered : Bool) (older : List Note) : Prop :=
  if recovered then
    .persistence ∈ sources ∧
      ∀ source ∈ sources, source = .persistence ∨
        .faultRequested source ∈ sinceLast (Note.isProbe t) older
  else sources = {.interlock}

structure RunReceipt.Confirmed (r : RunReceipt) (older : List Note) : Prop where
  running : r.state = .running
  tracked : r.channel ∈ r.activeSources
  generation : r.abortGeneration = r.admittedGeneration
  unaborted : ∀ n ∈ older.take (older.length - r.admittedAt),
    n.isAbortIntent = false
  children : r.childrenLive = true ∨ r.neverStartedSimulator = true
  cut : r.driverCut = .ok none ∨ r.driverCut = .ok (some (some r.activeSources))
  warned : ∀ code, owed older = some code →
    code ∈ r.warnings.map OperatorWarning.code

/-- What a Start without a positive receipt leaves behind. -/
def RunExit.Settled (e : RunExit) (older : List Note) : Prop :=
  let since := older.take (older.length - e.admittedAt)
  e.channel ∉ e.activeAtAdmission →
    e.channel ∈ e.activeAtTurn ∨ .snapshotRefused ∈ since ∨
      .inspectionRaised e.task ∈ since ∨
      ((e.channel ∉ e.activeSources ∨ e.state = .faultLatched) ∧
        (.revocationJoined e.task ∈ since ∨
          StartsCovered e.task e.channel since))

/-- The final proof of a `stop()`: OFF was proved after every fault settlement
had finished and both its children had ended. -/
def StopExit.Proved (e : StopExit) (older : List Note) : Prop :=
  ∃ proof : OffProof, .outputOffProved proof ∈ older ∧ proof.task = e.task ∧
    proof.confirmed = true ∧ proof.unsettled = [] ∧
    proof.settlements = e.settlements ∧
    ∀ child ∈ e.collect.toList ++ e.monitor.toList, child ∈ proof.terminal

/-- What a `stop()` that raised still owns. -/
structure StopExit.Retained (e : StopExit) : Prop where
  generation : e.generationAfter = e.generation
  collect : e.collectAfter = e.collect
  monitor : e.monitorAfter = e.monitor
  retriable : e.stoppingAfter = none
  settlements : ∀ id ∈ e.unsettled, id ∈ e.pendingAfter

/-- How a `stop()` may end. -/
structure StopExit.Orderly (e : StopExit) (older : List Note) : Prop where
  released : e.returned = true → e.released = true
  proved : e.released = true → e.Proved older ∧ e.activeSources = ∅
  retained : e.released = false → e.Retained

/-- What an entry says about the older ones. -/
def Note.Justified : Note → List Note → Prop
  | .transition before after reason, older =>
      before = lastState older ∧
        (before = .faultLatched → after ≠ .faultLatched →
          LeavesLatch after reason older)
  | .latchConsumed t sources recovered _ code _, older =>
      ConsumableOrigins t sources recovered older ∧ owed older = none ∧
        code = (if recovered then .latchedPersistenceStart
          else .latchedInterlockStart)
  | .acknowledgeReturned t state, older =>
      (∃ source, .faultRequested source ∈ sinceLast (Note.isCleared t) older) →
        state = .faultLatched
  | .offJoined _ requestedAt, older =>
      older.reverse[requestedAt]? = some (.offRequested none)
  | .runConfirmed r, older => r.Confirmed older
  | .runRefused e, older => e.Settled older
  | .stopEnded e, older => StopsOwned older → e.Orderly older
  | _, _ => True

end Safety
end CryoDaq
