import CryoDaq.Safety.Commands

/-!
# Starting and stopping the manager

`start()` creates the two safety children.  `stop()` establishes the stop cut,
turns everything off, proves it, settles the retained faults, cancels the
children, settles again and proves OFF once more before it lets the children
go.
-/

namespace CryoDaq
namespace Safety

open Async

namespace Lifecycle

/-- The children that `start()` creates. -/
def startChildren (l : Lifecycle) : Lifecycle :=
  let collect := l.children.length
  let monitor := l.children.length + 1
  let generation := l.childGeneration + 1
  { l with
    children := l.children ++ [{}, {}]
    collectTask := some collect
    monitorTask := some monitor
    childGeneration := generation
    stoppingChildGeneration := none
    failedChildRole := none
    failedChildReason := none
    consumedChildTasks := []
    stopCancelledChildTasks := []
    safetyMonitorActive := true
    doneCallbacks :=
      ⟨collect, .collect, generation⟩ :: ⟨monitor, .monitor, generation⟩ ::
        l.doneCallbacks }

/-- `task.cancel()` by `stop()`. -/
def cancelChild (task : Nat) (l : Lifecycle) : Lifecycle :=
  match l.children[task]? with
  | some ⟨cancelling, none⟩ =>
      { l with
        children := l.children.modify task
          ({ · with cancelling := cancelling + 1 })
        stopCancelledChildTasks :=
          if cancelling = 0 then
            dictSet task (cancelling + 1) l.stopCancelledChildTasks
          else l.stopCancelledChildTasks }
  | _ => l

end Lifecycle

/-- What `stop()` captures when it begins. -/
structure StopCut where
  generation : Nat
  collect : Option Nat
  monitor : Option Nat
  failedRole : Option ChildRole
  failedReason : Option String

def StopCut.tasks (cut : StopCut) : List Nat :=
  cut.collect.toList ++ cut.monitor.toList

namespace State

/-- The cut that `stop()` captures. -/
def stopCut (s : State) : StopCut where
  generation := s.lifecycle.childGeneration
  collect := s.lifecycle.collectTask
  monitor := s.lifecycle.monitorTask
  failedRole := s.lifecycle.failedChildRole
  failedReason := s.lifecycle.failedChildReason

/-- The synchronous cut of `stop()`. -/
def beginStop (t : Nat) (s : State) : State × Option Exc :=
  (((s.note (.stopBegan t
        (s.lifecycle.collectTask.isSome || s.lifecycle.monitorTask.isSome)
        s.lifecycle.pendingChildFaultSettlements)
      ).onControl (Control.registerAbortIntent true)).onLifecycle fun l =>
      { l with
        stoppingChildGeneration := some l.childGeneration
        safetyMonitorActive := false
        failedChildReason :=
          if l.failedChildRole.isNone then some "safety_manager_stopping"
          else l.failedChildReason
        stopOwner := some t }
    ).revokeReviewedSource.refreshOperatorSafetySnapshot

/-- `_restore_shutdown_owner_cut`, before it observes the children. -/
def restoreCut (cut : StopCut) (s : State) : State :=
  s.onLifecycle fun l =>
    let l := { l with stoppingChildGeneration := none, stopOwner := none }
    let l := if l.failedChildRole.isNone then
        { l with
          failedChildRole := cut.failedRole
          failedChildReason := cut.failedReason }
      else l
    { l with
      safetyMonitorActive :=
        l.failedChildRole.isNone &&
          match cut.collect, cut.monitor with
          | some collect, some monitor =>
              collect != monitor && !l.childDone collect &&
                !l.childDone monitor
          | _, _ => false }

/-- The text of a shutdown that cannot be verified. -/
def shutdownHoldReason : String :=
  "SafetyManager shutdown HOLD: global OFF could not be verified"

/-- The settlement that `_begin_shutdown_hold` creates, unless one is live. -/
def retainShutdownHold (s : State) : State :=
  if s.lifecycle.shutdownHoldFaultSettlement.any fun id =>
      !s.lifecycle.backgroundDone id then s
  else
    s.onLifecycle fun l =>
      { l.retainChildFaultSettlement shutdownHoldReason .safetyShutdown with
        shutdownHoldFaultSettlement := some l.background.length }

def cancelChildren (cut : StopCut) (s : State) : State :=
  s.onLifecycle fun l => cut.tasks.foldl (fun l c => l.cancelChild c) l

/-- `stop()` gives its children up. -/
def releaseChildren (cut : StopCut) (s : State) : State :=
  s.onLifecycle fun l =>
    let l :=
      if l.childGeneration = cut.generation then
        { l with
          collectTask :=
            if l.collectTask = cut.collect then none else l.collectTask
          monitorTask :=
            if l.monitorTask = cut.monitor then none else l.monitorTask }
      else l
    let l := cut.tasks.foldl (fun l c => l.forgetConsumedChildIfUnowned c) l
    { l.completeStoppingGenerationIfSettled (some cut.generation) with
      stopOwner := none }

end State

namespace Py

def start : Py Unit := do
  let s ← Coro.read
  if s.lifecycle.pendingChildFaultSettlements ≠ [] then
    Coro.raise (.raised .runtimeError
      "SafetyManager child fault settlement is still in progress")
  else if s.lifecycle.stoppingChildGeneration.isSome then
    Coro.raise (.raised .runtimeError "SafetyManager stop is still in progress")
  else if s.lifecycle.collectTask.isSome ∨ s.lifecycle.monitorTask.isSome then do
    observeTerminalSafetyChildren
    Coro.raise (.raised .runtimeError
      "SafetyManager child lifecycle is already owned")
  else do
    Coro.update (State.onLifecycle Lifecycle.startChildren)
    let s ← Coro.read
    if s.wiring.mock then
      match s.recordConnectedRefusal true with
      | some e => Coro.raise e
      | none => sync (State.recordReviewedSourceConnected true)
    else refresh
    publishState
    publishKeithleyChannelStates
    observeTerminalSafetyChildren
    let s ← Coro.read
    if s.safetyChildrenAuthoritative then pure ()
    else
      Coro.raise (.raised .runtimeError
        "SafetyManager children did not establish live authority")

def restoreShutdownOwnerCut (cut : StopCut) : Py Unit := do
  Coro.update (State.restoreCut cut)
  observeTerminalSafetyChildren
  refresh

/-- `_begin_shutdown_hold`, and the exception that follows it. -/
def shutdownHold {α : Type} (cut : StopCut) (cancelled : Bool) : Py α := do
  sync (State.beginFaultLatch State.shutdownHoldReason .safetyShutdown)
  Coro.update State.retainShutdownHold
  restoreShutdownOwnerCut cut
  raiseIf cancelled
  Coro.raise (.raised .shutdownUnverified State.shutdownHoldReason)

/-- A global OFF that `stop()` demands; whether the caller was cancelled. -/
def demandOff (t : Nat) (cut : StopCut) (cancelled : Bool) : Py Bool := do
  let (proved, offCancelled) ← settledOff t none none
  let cancelled := cancelled || offCancelled
  if proved then do
    Coro.update (State.keepSources .managerStop ∅)
    pure cancelled
  else shutdownHold cut cancelled

/-- A drain that `stop()` demands; whether the caller was cancelled. -/
def demandDrain (cut : StopCut) (owners : List Nat) (cancelled : Bool) :
    Py Bool := do
  let (drained, drainCancelled) ← drainChildFaultSettlements owners
  let cancelled := cancelled || drainCancelled
  if drained then pure cancelled
  else do
    restoreShutdownOwnerCut cut
    raiseIf cancelled
    Coro.raise (.raised .shutdownUnverified
      "SafetyManager shutdown HOLD: child fault settlement is still in progress")

/-- `_safe_off` of every tracked source by `stop()`. -/
def stopSources (t : Nat) (channels : Finset SmuChannel) :
    Py (Finset SmuChannel × Bool) :=
  settling t (safeOff t (.stopped "system stop") channels none)

/-- `stop()` up to its first global proof: the reason of a reconciliation, the
exception of `_safe_off`, and whether the caller was cancelled. -/
def stopTrackedSources (t : Nat) : Py (Option String × Option Exc × Bool) := do
  let (reason, cancelled) ← reconcileHazardousSuccess t "manager stop"
  let s ← Coro.read
  if reason.isNone ∧ s.control.activeSources ≠ ∅ then do
    let (r, offCancelled) ← settled (stopSources t s.control.activeSources)
    let (reason, reconcileCancelled) ←
      reconcileHazardousSuccess t "manager stop"
    pure
      (reason, match r with | .ok _ => none | .error e => some e,
        cancelled || offCancelled || reconcileCancelled)
  else pure (reason, none, cancelled)

/-- `stop()`: the proof that no older settlement can follow. -/
def orderedProof (t : Nat) (cut : StopCut) (before : List Nat)
    (cancelled : Bool) : Py Bool := do
  let s ← Coro.read
  let owners := (before ++ s.lifecycle.pendingChildFaultSettlements).dedup
  if owners.isEmpty then pure cancelled
  else do
    let cancelled ← demandDrain cut owners cancelled
    demandOff t cut cancelled

/-- `stop()`: the children are cancelled and their ends consumed. -/
def settleChildren (cut : StopCut) (cancelled : Bool) : Py Bool := do
  Coro.update (State.cancelChildren cut)
  let (_, settleCancelled) ← settledWait (.children cut.tasks)
  match cut.collect with
  | some task =>
      sync (State.operatorChildDone task .collect cut.generation)
  | none => pure ()
  match cut.monitor with
  | some task =>
      sync (State.operatorChildDone task .monitor cut.generation)
  | none => pure ()
  pure (cancelled || settleCancelled)

/-- `stop()`, once the stop cut is established, up to the release of the
children. -/
def stopToRelease (t : Nat) (cut : StopCut) :
    Py (Option String × Option Exc × Bool) := do
  let (reason, error, cancelled) ← stopTrackedSources t
  let s ← Coro.read
  let before := s.lifecycle.pendingChildFaultSettlements
  let cancelled ← demandOff t cut cancelled
  let cancelled ← orderedProof t cut before cancelled
  let cancelled ← settleChildren cut cancelled
  let cancelled ← demandDrain cut [] cancelled
  let cancelled ← demandOff t cut cancelled
  pure (reason, error, cancelled)

/-- The end of a `stop()`, noted. -/
def noteStop (t : Nat) (cut : StopCut) (released returned : Bool) :
    Py Unit := do
  let s ← Coro.read
  note (.stopEnded
    { task := t
      returned := returned
      released := released
      generation := cut.generation
      collect := cut.collect
      monitor := cut.monitor
      generationAfter := s.lifecycle.childGeneration
      collectAfter := s.lifecycle.collectTask
      monitorAfter := s.lifecycle.monitorTask
      stoppingAfter := s.lifecycle.stoppingChildGeneration
      pendingAfter := s.lifecycle.pendingChildFaultSettlements
      settlements := s.lifecycle.settlements
      unsettled := s.lifecycle.unsettled
      activeSources := s.control.activeSources })

def stop (t : Nat) : Py Unit := do
  let s ← Coro.read
  if s.lifecycle.stoppingChildGeneration.isSome then
    Coro.raise (.raised .runtimeError
      "SafetyManager stop is already in progress")
  else do
    observeTerminalSafetyChildren
    let s ← Coro.read
    let cut := s.stopCut
    match ← Coro.attempt do
        sync (State.beginStop t)
        stopToRelease t cut with
    | .error e => do
        noteStop t cut false false
        Coro.raise e
    | .ok (reason, error, cancelled) => do
        Coro.update (State.releaseChildren cut)
        noteStop t cut true (!cancelled && reason.isNone && error.isNone)
        raiseIf cancelled
        match reason, error with
        | some reason, _ => Coro.raise (.raised .shutdownUnverified reason)
        | none, some e => Coro.raise e
        | none, none => pure ()

end Py

end Safety
end CryoDaq
