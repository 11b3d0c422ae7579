import CryoDaq.Experiments.World

/-!
# Transitions and reservations of the experiment manager

The methods of `ExperimentManager` that keep its authority.  `t` is the thread
that runs a method.

**Transitions.**  `create`, `update` and `finalize` end in `commitTransition`,
which journals the transition, applies it and removes the journal.
`recoverTransition` applies a journal that was left behind; both decorators run
it before the method.

**Reservations.**  `experimentCas` reserves the active experiment without
holding a lock; the decorated methods check the reservation under the mutation
lock, after the recovery.
-/

namespace CryoDaq
namespace Experiments

open Async Op Text

variable {δ κ : Type}

section Authority

variable (S : Setting δ κ) [DecidableEq δ]

/-- `_write_state`; without a revision the next one. -/
def writeState (revision : Option ℕ) (receipt : Option (Receipt δ)) : Op δ κ Unit := do
  let w ← Coro.read
  let next := revision.getD (w.memory.stateRevision + 1)
  durable fun d => { d with state := some (w.memory.stateFile S next receipt) }
  remember fun m => { m with stateRevision := next, lastTransitionReceipt := receipt }

def setActive (t : ℕ) (info : ExperimentInfo) (revision : ℕ) (receipt : Receipt δ) :
    Op δ κ Unit :=
  withLock t .mutation do
    remember fun m =>
      { m with active := some info, state := ⟨m.state.appMode, some info.experimentId⟩ }
    writeState S (some revision) (some receipt)

def clearActive (t : ℕ) (revision : Option ℕ) (receipt : Option (Receipt δ)) : Op δ κ Unit :=
  withLock t .mutation do
    remember fun m => { m with active := none, state := ⟨m.state.appMode, none⟩ }
    writeState S revision receipt

def loadedMemory (f : StateFile δ) (m : Memory δ) : Memory δ :=
  { m with
    state := ⟨f.appMode, f.activeExperimentId⟩
    managerIncarnation := f.managerIncarnation
    stateRevision := f.revision
    lastTransitionReceipt := f.lastTransitionReceipt }

def loadStateAuthority : Op δ κ Unit := do
  let w ← Coro.read
  match w.disk.state with
  | none =>
      if w.disk.journal.isSome then
        Coro.raise (.runtime "Experiment transition has no durable predecessor state authority.")
      else do
        remember fun m =>
          { m with state := ⟨.experiment, none⟩, stateRevision := 0, lastTransitionReceipt := none }
        writeState S (some 0) none
  | some f => do
      refuse ((stateFileRefusal S f).map Failure.runtime)
      remember (loadedMemory f)

def readExperimentFromMetadata (d : Disk δ κ) (id : String) :
    Except Failure (Option ExperimentInfo) :=
  match d.metadata id with
  | none => .ok none
  | some m =>
      match m.experiment with
      | none => .error (.value "Experiment metadata has no exact experiment payload.")
      | some e =>
          match e.fromPayload with
          | .error failure => .error failure
          | .ok info =>
              if info.experimentId = id then .ok (some info)
              else
                .error (.value "Experiment metadata identity does not match its directory.")

def loadState (t : ℕ) : Op δ κ Unit := do
  loadStateAuthority S
  let w ← Coro.read
  match w.memory.state.activeExperimentId with
  | none => pure ()
  | some id => do
      match ← Coro.ofExcept (readExperimentFromMetadata w.disk id) with
      | none => clearActive S t none none
      | some info =>
          if info.status = .running then do
            thread
            remember fun m => { m with active := some info }
          else clearActive S t none none

/-- The row of a transition: one SQL transaction. -/
def writeRowOf (operation : Operation) (info : ExperimentInfo) : Op δ κ Unit := do
  let w ← Coro.read
  let rows ← Coro.ofExcept (writeRow operation w.disk.rows info)
  durable fun d => { d with rows := rows }

def writeArtifact (info : ExperimentInfo) (x : Extras κ) : Op δ κ Unit := do
  let _ ← Coro.ofExcept (S.getTemplate info.templateId)
  let w ← Coro.read
  durable fun d => d.setMetadata info.experimentId
    (Metadata.rewritten (w.disk.readMetadata info.experimentId) info x)

def applyWrites (t : ℕ) (j : Journal δ κ) (info : ExperimentInfo) (receipt : Receipt δ) :
    Op δ κ Unit := do
  writeRowOf j.request.operation info
  writeArtifact S info j.request.extras
  if j.request.operation = .finalize then
    clearActive S t (some (j.request.predecessor.revision + 1)) (some receipt)
  else
    setActive S t info (j.request.predecessor.revision + 1) receipt

def applyTransition (t : ℕ) (j : Journal δ κ) : Op δ κ Unit := do
  let info ← Coro.ofExcept j.request.experiment.fromPayload
  let w ← Coro.read
  let verdict ← Coro.ofExcept (validateTransitionAuthority S w.memory j info)
  if verdict.2 then pure ()
  else do
    refuse ((statusRefusal j.request.operation info).map Failure.runtime)
    applyWrites S t j info verdict.1

def recoverTransition (t : ℕ) : Op δ κ Unit := do
  let w ← Coro.read
  match w.disk.journal with
  | none => pure ()
  | some j =>
      if journalBound < S.journalBytes j then
        Coro.raise (.runtime "Experiment transition journal exceeds its safety bound.")
      else do
        thread
        loadStateAuthority S
        applyTransition S t j
        durable fun d => { d with journal := none }
        loadState S t

def commitTransition (t : ℕ) (requestId : String) (operation : Operation)
    (info : ExperimentInfo) (x : Extras κ) : Op δ κ Unit := do
  recoverTransition S t
  loadStateAuthority S
  let w ← Coro.read
  let j ← Coro.ofExcept (buildJournal S w.memory requestId operation info x)
  durable fun d => { d with journal := some j.reload }
  applyTransition S t j
  durable fun d => { d with journal := none }

/-- `__init__`; nothing else knows the manager before it returns, and the lock of
the data directory is free. -/
def construct (t : ℕ) (incarnation : String) : Op δ κ Unit :=
  underLock t .lifecycle do
    remember fun _ => World.freshMemory incarnation
    loadStateAuthority S
    recoverTransition S t
    loadState S t
    Coro.update fun w => { w with ready := true }

end Authority

section Reservation

variable {α : Type}

/-- The checks of `assert_experiment_cas`. -/
def checkReservation (id : String) : Op δ κ Unit := do
  let w ← Coro.read
  if w.durableMutationId ≠ some id then
    Coro.raise (.runtime "Experiment mutation reservation is not owned by this caller.")
  else if w.activeExperimentId ≠ some id then
    Coro.raise (.runtime "Experiment identity changed during mutation.")
  else pure ()

def assertExperimentCas (t : ℕ) (id : String) : Op δ κ Unit :=
  withLock t .mutation (checkReservation id)

/-- What the entry of `experiment_cas` does under the mutation lock. -/
def makeReservation (t : ℕ) (id : String) : Op δ κ Unit := do
  let w ← Coro.read
  if w.activeExperimentId ≠ some id then
    Coro.raise (.runtime "Experiment identity mismatch.")
  else if w.durableMutationId ≠ none then
    Coro.raise (.runtime "A durable experiment mutation is already in progress.")
  else Coro.update fun w => w.reserve t id

/-- The entry of `experiment_cas`. -/
def enterCas (t : ℕ) (id : String) : Op δ κ Unit :=
  withLock t .mutation (makeReservation t id)

/-- What the `finally` of `experiment_cas` does under the mutation lock. -/
def endReservation (t : ℕ) (id : String) : Op δ κ Unit :=
  Coro.update fun w => w.release t id

/-- The `finally` of `experiment_cas`. -/
def exitCas (t : ℕ) (id : String) : Op δ κ Unit :=
  withLock t .mutation (endReservation t id)

/-- `with experiment_cas(id): body` -/
def experimentCas (t : ℕ) (id : String) (body : Op δ κ α) : Op δ κ α := do
  if id = "" then Coro.raise (.runtime "Experiment identity is required.")
  else do
    enterCas t id
    let r ← Coro.attempt do
      let a ← body
      assertExperimentCas t id
      pure a
    exitCas t id
    Coro.ofExcept r

def assertMutationAvailable (t : ℕ) : Op δ κ Unit :=
  withLock t .mutation do
    let w ← Coro.read
    if w.durableMutationId ≠ none then
      Coro.raise (.runtime "A durable experiment mutation is in progress.")
    else pure ()

variable (S : Setting δ κ) [DecidableEq δ]

def serializedLifecycle (t : ℕ) (method : Op δ κ α) : Op δ κ α :=
  withLock t .lifecycle do
    recoverTransition S t
    method

def serializedLifecycleMutation (t : ℕ) (method : Op δ κ α) : Op δ κ α :=
  withLock t .lifecycle do
    recoverTransition S t
    withLock t .mutation do
      assertMutationAvailable t
      method

end Reservation

end Experiments
end CryoDaq
