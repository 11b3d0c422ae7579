import CryoDaq.Async.Pool
import CryoDaq.Experiments.Documents

/-!
# The data directory and the manager over it

`Disk` is the data directory, as far as the experiment manager writes it, and
`World` is the directory together with one manager in a process: its memory, its
two locks, and the reservation of `experiment_cas`.

**Durable writes.**  A file replacement, an SQLite transaction and an unlink are
atomic.  Before each of them a method is suspended: the write may happen, raise
before it has happened, or raise after it.  A process that dies leaves its
methods suspended for ever.

**Daily databases.**  `rows` holds the rows of the table `experiments` of all
daily databases; a row lies in the database of the day of its `start_time`.

**Ghosts.**  `holders` are the tasks inside `experiment_cas`, `reservedView` what
callers saw of the lifecycle when the reservation was made, `ownPhases` the phases
that its holder has entered since, `overlapped` records that a
reservation was made while a journal was pending, `modeWriteFailed` that a state
write of `set_app_mode` raised, `history` holds the earlier contents of the
directory, the latest first, and `recorded` what calls that returned have
recorded in metadata.  No method reads them.
-/

namespace CryoDaq
namespace Experiments

open Async

variable {δ κ : Type}

/-- The data directory. -/
structure Disk (δ κ : Type) where
  state : Option (StateFile δ) := none
  journal : Option (Journal δ κ) := none
  metadata : String → Option (Metadata κ) := fun _ => none
  rows : List ExperimentInfo := []

namespace Disk

/-- `_read_metadata_payload` -/
def readMetadata (d : Disk δ κ) (id : String) : Metadata κ := (d.metadata id).getD {}

/-- The directory with another metadata document. -/
def setMetadata (d : Disk δ κ) (id : String) (m : Metadata κ) : Disk δ κ :=
  { d with metadata := fun other => if other = id then some m else d.metadata other }

@[simp] theorem readMetadata_setMetadata (d : Disk δ κ) (id : String) (m : Metadata κ) :
    (d.setMetadata id m).readMetadata id = m := by
  simp [readMetadata, setMetadata]

theorem setMetadata_setMetadata (d : Disk δ κ) (id : String) (m n : Metadata κ) :
    (d.setMetadata id m).setMetadata id n = d.setMetadata id n := by
  unfold setMetadata
  congr 1
  funext other
  by_cases h : other = id
  · simp [h]
  · simp [h]

end Disk

/-- The daily database of an instant. -/
def dayOf (t : Timestamp) : ℤ := t / 86400000000

/-- Whether a row is the row of an experiment in the database of its day. -/
def sameRow (i r : ExperimentInfo) : Bool :=
  r.experimentId = i.experimentId && dayOf r.startTime = dayOf i.startTime

/-- Another RUNNING row in the database of an experiment that is RUNNING. -/
def runningClash (rows : List ExperimentInfo) (i : ExperimentInfo) : Bool :=
  i.status = .running && rows.any fun r =>
    r.status = .running && dayOf r.startTime = dayOf i.startTime && !sameRow i r

def writeStart (rows : List ExperimentInfo) (i : ExperimentInfo) :
    Except Failure (List ExperimentInfo) :=
  match rows.find? (sameRow i) with
  | some r =>
      if r.name = i.name ∧ r.operator = i.operator ∧ r.startTime = i.startTime ∧
          r.status = i.status then .ok rows
      else .error (.runtime "Persisted experiment identity collides with different evidence.")
  | none => if runningClash rows i then .error .integrity else .ok (rows ++ [i.reload])

/-- The row after the `UPDATE` of `_write_end`. -/
def updatedRow (i r : ExperimentInfo) : ExperimentInfo :=
  { i with
    operator := r.operator
    cryostat := r.cryostat
    startTime := r.startTime
    configSnapshot := r.configSnapshot }

def writeEnd (rows : List ExperimentInfo) (i : ExperimentInfo) :
    Except Failure (List ExperimentInfo) :=
  if rows.any (sameRow i) then
    if runningClash rows i then .error .integrity
    else .ok (rows.map fun r => if sameRow i r then updatedRow i r else r)
  else .error (.runtime s!"Persisted experiment row is missing for {i.experimentId}.")

/-- The SQL statement of a transition. -/
def writeRow (operation : Operation) (rows : List ExperimentInfo) (i : ExperimentInfo) :
    Except Failure (List ExperimentInfo) :=
  if operation = .create then writeStart rows i else writeEnd rows i

def persistedRunningExperimentIds (rows : List ExperimentInfo) : List String :=
  (rows.filter fun r => r.status = .running).map ExperimentInfo.experimentId

/-- What a call that returned has recorded in the metadata of an experiment. -/
inductive Note (κ : Type)
  | photo (experimentId : String) (entry : ArtifactEntry κ)
  | run (experimentId : String) (record : RunRecord κ)
  | phase (experimentId : String) (entry : PhaseEntry)

inductive Lock
  | lifecycle
  | mutation
deriving DecidableEq

inductive Wait
  | lock (l : Lock)
  /-- A durable write. -/
  | write
  /-- `uuid4()`, which never repeats an identifier of the directory. -/
  | uuid
  /-- Nothing: another thread may run. -/
  | thread
  /-- The body of a reservation. -/
  | held (experimentId : String)

/-- How a wait ends. -/
inductive Answer
  | done
  /-- The write raised and has not happened. -/
  | failed
  /-- The write raised and has happened. -/
  | interrupted
  | drawn (id : String)
deriving DecidableEq

/-- What the files and the manager show of the lifecycle: the metadata documents
hold the phases. -/
structure View (δ κ : Type) where
  state : Option (StateFile δ)
  journaled : Bool
  rows : List ExperimentInfo
  metadata : String → Option (Metadata κ)
  memory : Memory δ

/-- The attributes of the manager; the configuration of the active experiment
may not have been through a file. -/
def Memory.visible (m : Memory δ) : Memory δ :=
  { m with active := m.active.map ExperimentInfo.reload }

/-- What a directory and a manager show of the lifecycle. -/
def Disk.view (d : Disk δ κ) (m : Memory δ) : View δ κ where
  state := d.state
  journaled := d.journal.isSome
  rows := d.rows
  metadata := d.metadata
  memory := m.visible

/-- What is shown once an experiment has entered a phase. -/
def View.advance (id : String) (v : View δ κ) (entry : PhaseEntry) : View δ κ :=
  { v with
    metadata := fun other =>
      if other = id then some (((v.metadata id).getD {}).advance entry) else v.metadata other }

/-- What is shown once an experiment has entered phases one after the other. -/
def View.advanced (id : String) (entries : List PhaseEntry) (v : View δ κ) : View δ κ :=
  entries.foldl (View.advance id) v

/-- The data directory, the manager, and the ghosts. -/
structure World (δ κ : Type) where
  disk : Disk δ κ
  memory : Memory δ
  started : Bool
  ready : Bool
  lifecycleLock : Option ℕ
  mutationLock : Option ℕ
  durableMutationId : Option String
  holders : List ℕ
  reservedView : Option (View δ κ)
  ownPhases : List PhaseEntry
  overlapped : Bool
  modeWriteFailed : Bool
  history : List (Disk δ κ)
  recorded : List (Note κ)

namespace World

/-- The attributes before `__init__` has read anything. -/
def freshMemory (incarnation : String) : Memory δ where
  active := none
  state := ⟨.experiment, none⟩
  managerIncarnation := incarnation
  stateRevision := 0
  lastTransitionReceipt := none

/-- No process over a data directory. -/
def offline (d : Disk δ κ) (history : List (Disk δ κ)) (recorded : List (Note κ)) :
    World δ κ where
  disk := d
  memory := freshMemory ""
  started := false
  ready := false
  lifecycleLock := none
  mutationLock := none
  durableMutationId := none
  holders := []
  reservedView := none
  ownPhases := []
  overlapped := false
  modeWriteFailed := false
  history := history
  recorded := recorded

def empty : World δ κ := offline {} [] []

/-- The process has died. -/
def restarted (w : World δ κ) : World δ κ := offline w.disk w.history w.recorded

def owner (w : World δ κ) : Lock → Option ℕ
  | .lifecycle => w.lifecycleLock
  | .mutation => w.mutationLock

def setOwner (w : World δ κ) (l : Lock) (t : Option ℕ) : World δ κ :=
  match l with
  | .lifecycle => { w with lifecycleLock := t }
  | .mutation => { w with mutationLock := t }

def write (w : World δ κ) (d : Disk δ κ) : World δ κ :=
  { w with disk := d, history := w.disk :: w.history }

/-- The directory after the holder of a reservation has written a phase entry. -/
def writePhase (w : World δ κ) (t : ℕ) (d : Disk δ κ) (entry : PhaseEntry) : World δ κ :=
  { w.write d with
    ownPhases := if w.holders = [t] then w.ownPhases ++ [entry] else w.ownPhases }

/-- The reservation and what its holder has done to the phases. -/
def claim (w : World δ κ) : Option String × List PhaseEntry := (w.durableMutationId, w.ownPhases)

def activeExperimentId (w : World δ κ) : Option String :=
  w.memory.active.map ExperimentInfo.experimentId

/-- The reservation of `experiment_cas`. -/
def reserve (w : World δ κ) (t : ℕ) (id : String) : World δ κ :=
  { w with
    durableMutationId := some id
    holders := t :: w.holders
    reservedView := some (w.disk.view w.memory)
    ownPhases := []
    overlapped := w.overlapped || w.disk.journal.isSome }

/-- The end of a reservation. -/
def release (w : World δ κ) (t : ℕ) (id : String) : World δ κ :=
  { w with
    durableMutationId := if w.durableMutationId = some id then none else w.durableMutationId
    holders := w.holders.erase t }

/-- An identifier that nothing in the directory bears. -/
def fresh (w : World δ κ) (id : String) : Bool :=
  id.length = 12 && id.toList.all (fun c => c.isDigit || ('a' ≤ c && c ≤ 'f')) &&
    w.disk.rows.all (fun r => r.experimentId ≠ id) && (w.disk.metadata id).isNone

end World

def Wait.enabled : Wait → Answer → World δ κ → Bool
  | .lock l, a, w => decide (a = .done) && (w.owner l).isNone
  | .write, a, _ => decide (a = .done) || decide (a = .failed) || decide (a = .interrupted)
  | .uuid, .drawn id, w => w.fresh id
  | .uuid, _, _ => false
  | .thread, a, _ => decide (a = .done)
  | .held _, a, _ => decide (a = .done) || decide (a = .failed)

/-- A method of the manager. -/
abbrev Op (δ κ α : Type) : Type := Coro (World δ κ) Wait Answer Failure α

namespace Op

variable {α : Type}

/-- Suspend; threads are not cancelled. -/
def pause (w : Wait) : Op δ κ Answer := Coro.await true w fun r => Coro.ret r.value

def thread : Op δ κ Unit := do
  let _ ← pause .thread
  pure ()

def durably (f : World δ κ → World δ κ) : Op δ κ Unit := do
  match ← pause .write with
  | .failed => Coro.raise .os
  | .interrupted => do
      Coro.update f
      Coro.raise .os
  | _ => Coro.update f

def durable (f : Disk δ κ → Disk δ κ) : Op δ κ Unit := durably fun w => w.write (f w.disk)

/-- A write of files that no method of the manager reads. -/
def sideEffect : Op δ κ Unit := do
  match ← pause .write with
  | .failed => Coro.raise .os
  | .interrupted => Coro.raise .os
  | _ => pure ()

/-- Hold a lock that is free around a body. -/
def underLock (t : ℕ) (l : Lock) (body : Op δ κ α) : Op δ κ α := do
  Coro.update fun w => w.setOwner l (some t)
  let r ← Coro.attempt body
  Coro.update fun w => w.setOwner l none
  Coro.ofExcept r

/-- `with lock:` for a reentrant lock. -/
def withLock (t : ℕ) (l : Lock) (body : Op δ κ α) : Op δ κ α := do
  let w ← Coro.read
  if w.owner l = some t then body
  else do
    let _ ← pause (.lock l)
    underLock t l body

def remember (f : Memory δ → Memory δ) : Op δ κ Unit :=
  Coro.update fun w => { w with memory := f w.memory }

/-- A refusal, when there is one. -/
def refuse : Option Failure → Op δ κ Unit
  | some e => Coro.raise e
  | none => pure ()

def note (n : Note κ) : Op δ κ Unit :=
  Coro.update fun w => { w with recorded := n :: w.recorded }

end Op

end Experiments
end CryoDaq
