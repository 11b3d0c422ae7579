import CryoDaq.Experiments.Manager

/-!
# The lifecycle commands

The public methods of `ExperimentManager`, and the system of threads that call
them.

**Arguments.**  A structure of arguments also holds what the method reads
outside the data directory: the clock, the configuration, the identifiers of
requests, and what becomes of the files of an archive.

**The system.**  A process constructs one manager; any number of threads then
call its methods.  `Lives` are the directories that processes leave behind when
they die at any point.
-/

namespace CryoDaq
namespace Experiments

open Async Op Text

variable {δ κ : Type}

/-- A `datetime | str | None` argument, parsed. -/
inductive TimeArgument
  | absent
  | instant (t : Timestamp)
  | unreadable

def parseTime : TimeArgument → Except Failure (Option Timestamp)
  | .absent => .ok none
  | .instant t => .ok (some t)
  | .unreadable => .error (.value "Invalid isoformat string")

/-- The arguments of `create_experiment`, with what it reads elsewhere: the
configuration, the clock and the identifier of the request. -/
structure CreateArguments where
  name : String
  operator : String
  templateId : String := "custom"
  title : Option String := none
  cryostat : String := ""
  sample : String := ""
  description : String := ""
  notes : String := ""
  customFields : List (String × String) := []
  startTime : TimeArgument := .absent
  reportEnabled : Option Bool := none
  configSnapshot : Fields := []
  now : Timestamp
  requestId : String

/-- The arguments of `update_experiment`. -/
structure UpdateArguments where
  experimentId : Option String := none
  title : Option String := none
  sample : Option String := none
  notes : Option String := none
  description : Option String := none
  customFields : List (String × String) := []
  requestId : String

/-- What `_build_archive_snapshot` makes of the files of an experiment: the
paths and the entries of each run record, the other entries, the tables and the
summary. -/
structure Archive (κ : Type) where
  materialized : RunRecord κ → List String
  runArtifacts : RunRecord κ → List (ArtifactEntry κ)
  generated : List (ArtifactEntry κ)
  resultTables : List κ
  summaryMetadata : κ

/-- The arguments of `finalize_experiment`. -/
structure FinalizeArguments (κ : Type) where
  experimentId : Option String := none
  status : ExperimentStatus := .completed
  title : Option String := none
  sample : Option String := none
  notes : Option String := none
  description : Option String := none
  customFields : List (String × String) := []
  endTime : TimeArgument := .absent
  now : Timestamp
  archive : Archive κ
  requestId : String

/-- The arguments of `attach_run_record`. -/
structure RunArguments (κ : Type) where
  sourceTab : String
  sourceModule : String
  runType : String
  status : String
  startedAt : TimeArgument
  finishedAt : TimeArgument := .absent
  parameters : κ
  resultSummary : κ
  artifactPaths : List String := []
  sourceRunId : String := ""
  generatedRunId : String
  experimentId : Option String := none

/-- The arguments of `attach_composition_photo`, and what it makes of them. -/
structure PhotoArguments (κ : Type) where
  experimentId : String
  readable : Bool
  filename : String
  path : String
  summary : κ

/-! ## Values that the methods compute -/

/-- `str.lower`, as far as it can reach a mode. -/
def lower (s : String) : String := String.ofList (s.toList.map Char.toLower)

/-- `str.casefold`, as far as it can reach `autosweep`. -/
def casefold (s : String) : String :=
  String.ofList (s.toList.map fun c => if c = 'ſ' then 's' else c.toLower)

/-- `str.upper`, as far as it can reach `RUNNING`. -/
def upper (s : String) : String :=
  String.ofList (s.toList.map fun c => if c = 'ı' then 'I' else c.toUpper)

def normalizeAppMode (raw : String) : Except Failure AppMode :=
  let value := lower (strip raw)
  if value = "" then .error (.value "app_mode is required.")
  else if value = "debug" then .ok .debug
  else if value = "experiment" then .ok .experiment
  else .error (.value s!"'{value}' is not a valid AppMode")

/-- `{**fields, **_normalize_custom_fields(raw)}` -/
def mergeFields (fields : Dict String String) (raw : List (String × String)) :
    Dict String String :=
  (normalizeCustomFields raw).entries.foldl (fun d p => d.set p.1 p.2) fields

def requireActive (m : Memory δ) (experimentId : Option String) :
    Except Failure ExperimentInfo :=
  match m.active with
  | none => .error (.runtime "No active experiment to operate on.")
  | some active =>
      if experimentId.any (· ≠ active.experimentId) then
        .error (.value
          ("experiment_id '" ++ experimentId.getD "" ++ "' does not match active '" ++
            active.experimentId ++ "'."))
      else .ok active

/-- The experiment that `create_experiment` starts. -/
def CreateArguments.info (a : CreateArguments) (template : ExperimentTemplate) (id : String)
    (start : Timestamp) : ExperimentInfo where
  experimentId := id
  name := a.name
  title := ExperimentInfo.orElse (a.title.getD "") a.name
  templateId := template.templateId
  operator := a.operator
  cryostat := a.cryostat
  sample := a.sample
  description := a.description
  notes := a.notes
  startTime := start
  endTime := none
  status := .running
  configSnapshot := a.configSnapshot
  customFields := normalizeCustomFields a.customFields
  reportEnabled := a.reportEnabled.getD template.reportEnabled
  sections := template.sections
  retroactive := false

/-- The experiment that `update_experiment` leaves. -/
def UpdateArguments.info (a : UpdateArguments) (active : ExperimentInfo) : ExperimentInfo :=
  { active with
    title := a.title.getD active.title
    sample := a.sample.getD active.sample
    description := a.description.getD active.description
    notes := a.notes.getD active.notes
    endTime := none
    status := .running
    customFields := mergeFields active.customFields a.customFields }

/-- The experiment that `finalize_experiment` leaves. -/
def FinalizeArguments.info (a : FinalizeArguments κ) (active : ExperimentInfo)
    (finishedAt : Timestamp) : ExperimentInfo :=
  { active with
    title := ExperimentInfo.orElse (a.title.getD "") active.title
    sample := a.sample.getD active.sample
    description := a.description.getD active.description
    notes := a.notes.getD active.notes
    endTime := some finishedAt
    status := a.status
    customFields := mergeFields active.customFields a.customFields }

def listRunRecords (d : Disk δ κ) (experimentId : String) : List (RunRecord κ) :=
  (d.readMetadata experimentId).runRecords.insertionSort
    fun r s => s.payload.startedAt ≤ r.payload.startedAt

def runningSweep (r : RunRecord κ) : Bool :=
  casefold (strip r.payload.runType) = "autosweep" && upper (strip r.payload.status) = "RUNNING"

/-- A run record with other paths, as the metadata will give it back. -/
def RunRecord.withPaths (r : RunRecord κ) (paths : List String) : RunRecord κ :=
  match RunRecord.ofPayload { r.payload with artifactPaths := paths } with
  | .ok record => record
  | .error _ => r

/-- The parts of `_build_archive_snapshot` that a transition carries. -/
def Archive.extras (a : Archive κ) (records : List (RunRecord κ)) : Extras κ where
  runRecords := some (records.map fun r => r.withPaths (a.materialized r))
  artifactIndex := some (records.flatMap a.runArtifacts ++ a.generated)
  resultTables := some a.resultTables
  summaryMetadata := some a.summaryMetadata

/-- The record that `attach_run_record` attaches. -/
def RunArguments.record (a : RunArguments κ) (active : ExperimentInfo) (startedAt : Timestamp)
    (finishedAt : Option Timestamp) : Except Failure (RunRecord κ) :=
  let runKey := ExperimentInfo.orElse (strip a.sourceRunId) a.generatedRunId
  RunRecord.ofPayload
    { recordId := active.experimentId ++ ":" ++ runKey
      sourceRunId := runKey
      sourceTab := strip a.sourceTab
      sourceModule := strip a.sourceModule
      runType := strip a.runType
      status := ExperimentInfo.orElse (upper (strip a.status)) "UNKNOWN"
      startedAt := startedAt
      finishedAt := finishedAt
      parameters := a.parameters
      resultSummary := a.resultSummary
      artifactPaths := (a.artifactPaths.map strip).filter (· ≠ "")
      experimentContext :=
        { experimentId := active.experimentId
          title := active.title
          sample := active.sample
          operator := active.operator
          templateId := active.templateId
          cryostat := active.cryostat } }

def sameRun (r s : RunRecord κ) : Bool :=
  s.payload.sourceRunId = r.payload.sourceRunId && s.payload.runType = r.payload.runType

/-- The records with one more, in the place of the record of the same run. -/
def withRecord (r : RunRecord κ) (records : List (RunRecord κ)) : List (RunRecord κ) :=
  if records.any (sameRun r) then records.map fun s => if sameRun r s then r else s
  else records ++ [r]

def PhotoArguments.entry (a : PhotoArguments κ) : ArtifactEntry κ where
  artifactId := "composition_photo:operator:" ++ a.filename
  category := "composition_photo"
  role := "operator_upload"
  path := a.path
  summary := a.summary

section Methods

variable (S : Setting δ κ) [DecidableEq δ]

def uuid4 : Op δ κ String := do
  match ← pause .uuid with
  | .drawn id => pure id
  | _ => Coro.raise .type

def requireExperimentMode : Op δ κ Unit := do
  let w ← Coro.read
  if w.memory.state.appMode ≠ .experiment then
    Coro.raise (.runtime "Experiment lifecycle commands are only available in experiment mode.")
  else pure ()

def setAppMode (t : ℕ) (raw : String) : Op δ κ Unit :=
  serializedLifecycleMutation S t do
    let next ← Coro.ofExcept (normalizeAppMode raw)
    let w ← Coro.read
    if next = .debug ∧ w.memory.active.isSome then
      Coro.raise (.runtime
        "Нельзя переключиться в режим отладки, пока карточка эксперимента активна.")
    else if next = w.memory.state.appMode then pure ()
    else do
      remember fun m => { m with state := ⟨next, m.state.activeExperimentId⟩ }
      match ← Coro.attempt (writeState S none none) with
      | .ok _ => pure ()
      | .error e => do
          Coro.update fun w => { w with modeWriteFailed := true }
          Coro.raise e

/-- What `create_experiment` refuses before it draws an identifier. -/
def createRefusal (w : World δ κ) : Option Failure :=
  match w.memory.active with
  | some active =>
      some (.runtime s!"Experiment '{active.name}' ({active.experimentId}) is already active.")
  | none =>
      match persistedRunningExperimentIds w.disk.rows with
      | [] => none
      | ids =>
          some (.runtime ("A persisted RUNNING experiment already exists: " ++
            ", ".intercalate (ids.insertionSort (· ≤ ·))))

def createExperiment (t : ℕ) (a : CreateArguments) : Op δ κ Unit :=
  serializedLifecycleMutation S t do
    assertMutationAvailable t
    requireExperimentMode
    let w ← Coro.read
    refuse (createRefusal w)
    let template ← Coro.ofExcept (S.getTemplate a.templateId)
    let id ← uuid4
    let start ← Coro.ofExcept (parseTime a.startTime)
    commitTransition S t a.requestId .create (a.info template id (start.getD a.now)) {}

def updateExperiment (t : ℕ) (a : UpdateArguments) : Op δ κ Unit :=
  serializedLifecycleMutation S t do
    assertMutationAvailable t
    requireExperimentMode
    let w ← Coro.read
    let active ← Coro.ofExcept (requireActive w.memory a.experimentId)
    commitTransition S t a.requestId .update (a.info active) {}

/-- `finalize_experiment`, up to the export that follows the transition. -/
def finalizeExperiment (t : ℕ) (a : FinalizeArguments κ) : Op δ κ Unit :=
  serializedLifecycleMutation S t do
    assertMutationAvailable t
    requireExperimentMode
    let w ← Coro.read
    let active ← Coro.ofExcept (requireActive w.memory a.experimentId)
    let records := listRunRecords w.disk active.experimentId
    if records.any runningSweep then
      Coro.raise (.runtime
        ("Нельзя завершить эксперимент: автоизмерение теплопроводности ещё активно. " ++
          "Сначала остановите автоизмерение и дождитесь подтверждения сохранения."))
    else do
      let ended ← Coro.ofExcept (parseTime a.endTime)
      let finishedAt := ended.getD a.now
      if finishedAt < active.startTime then
        Coro.raise (.value "Experiment end_time cannot precede start_time.")
      else do
        sideEffect
        commitTransition S t a.requestId .finalize (a.info active finishedAt)
          (a.archive.extras records)

def abortExperiment (t : ℕ) (a : FinalizeArguments κ) : Op δ κ Unit :=
  finalizeExperiment S t { a with status := .aborted }

def attachRunRecord (t : ℕ) (a : RunArguments κ) : Op δ κ Unit :=
  serializedLifecycleMutation S t do
    let w ← Coro.read
    if w.memory.state.appMode ≠ .experiment then pure ()
    else
      match w.memory.active with
      | none => pure ()
      | some _ => do
          let active ← Coro.ofExcept (requireActive w.memory a.experimentId)
          let started ← Coro.ofExcept (parseTime a.startedAt)
          match started with
          | none =>
              Coro.raise (.value "started_at is required for run record attachment.")
          | some startedAt => do
              let finishedAt ← Coro.ofExcept (parseTime a.finishedAt)
              if finishedAt.any (· < startedAt) then
                Coro.raise (.value "finished_at cannot precede started_at.")
              else do
                let record ← Coro.ofExcept (a.record active startedAt finishedAt)
                let records := (w.disk.readMetadata active.experimentId).runRecords
                writeArtifact S active { runRecords := some (withRecord record records) }
                note (.run active.experimentId record)

/-- `attach_composition_photo`: the photo and its sidecar, then the metadata. -/
def attachCompositionPhoto (t : ℕ) (a : PhotoArguments κ) : Op δ κ Unit :=
  serializedLifecycleMutation S t do
    let w ← Coro.read
    match w.disk.metadata a.experimentId with
    | none => Coro.raise (.value "Experiment artifact dir not found")
    | some m =>
        if a.readable then do
          sideEffect
          sideEffect
          durable fun d => d.setMetadata a.experimentId
            { m with artifactIndex := m.artifactIndex ++ [a.entry] }
          note (.photo a.experimentId a.entry)
        else Coro.raise (.value "Invalid or unreadable photo data")

def advancePhaseLocked (t : ℕ) (phase operator expectedExperimentId : String)
    (now : Timestamp) : Op δ κ Unit := do
  let w ← Coro.read
  match w.memory.active with
  | none => Coro.raise (.runtime "No active experiment.")
  | some active =>
      if expectedExperimentId ≠ active.experimentId then
        Coro.raise (.mismatch "Experiment identity mismatch.")
      else if phase ∉ experimentPhases then
        Coro.raise (.value s!"Unknown phase '{phase}'.")
      else do
        let m := w.disk.readMetadata active.experimentId
        let entry : PhaseEntry := ⟨phase, now, none, operator⟩
        durably fun w =>
          w.writePhase t (w.disk.setMetadata active.experimentId (m.advance entry)) entry
        note (.phase active.experimentId entry)

def advancePhase (t : ℕ) (phase operator expectedExperimentId : String) (now : Timestamp) :
    Op δ κ Unit :=
  serializedLifecycleMutation S t do
    if expectedExperimentId = "" then
      Coro.raise (.value "expected_experiment_id must be a non-empty string")
    else do
      let w ← Coro.read
      if w.memory.active.isNone then Coro.raise (.runtime "No active experiment.")
      else if w.activeExperimentId ≠ some expectedExperimentId then
        Coro.raise (.mismatch
          ("Experiment identity mismatch: active experiment does not match " ++
            "expected_experiment_id; the phase command is stale and was not applied."))
      else
        experimentCas t expectedExperimentId
          (advancePhaseLocked t phase operator expectedExperimentId now)

def resolveOperatorLogScope (t : ℕ) (expectedExperimentId : Option String) (unbound : Bool) :
    Op δ κ Unit :=
  serializedLifecycle S t do
    let w ← Coro.read
    if unbound then
      if expectedExperimentId.isSome then
        Coro.raise (.value "unbound operator log entry cannot also name an experiment")
      else pure ()
    else if (expectedExperimentId.getD "") = "" then
      Coro.raise (.value
        "expected_experiment_id is required unless the entry is explicitly unbound")
    else if w.activeExperimentId ≠ expectedExperimentId then
      Coro.raise (.mismatch
        ("Active experiment does not match expected_experiment_id; " ++
          "the operator log command is stale and was not applied."))
    else pure ()

/-- A holder of a reservation: it checks the reservation, then does its work
elsewhere. -/
def holdReservation (t : ℕ) (id : String) : Op δ κ Unit :=
  experimentCas t id do
    assertExperimentCas t id
    match ← pause (.held id) with
    | .failed => Coro.raise .os
    | _ => pure ()

end Methods

inductive Call (κ : Type)
  | construct (incarnation : String)
  | setAppMode (raw : String)
  | create (a : CreateArguments)
  | update (a : UpdateArguments)
  | finalize (a : FinalizeArguments κ)
  | abort (a : FinalizeArguments κ)
  | attachRunRecord (a : RunArguments κ)
  | attachCompositionPhoto (a : PhotoArguments κ)
  | advancePhase (phase operator expectedExperimentId : String) (now : Timestamp)
  | resolveScope (expectedExperimentId : Option String) (unbound : Bool)
  | hold (experimentId : String)

section System

variable (S : Setting δ κ) [DecidableEq δ]

def Call.method (t : ℕ) : Call κ → Op δ κ Unit
  | .construct incarnation => Experiments.construct S t incarnation
  | .setAppMode raw => Experiments.setAppMode S t raw
  | .create a => createExperiment S t a
  | .update a => updateExperiment S t a
  | .finalize a => finalizeExperiment S t a
  | .abort a => abortExperiment S t a
  | .attachRunRecord a => Experiments.attachRunRecord S t a
  | .attachCompositionPhoto a => Experiments.attachCompositionPhoto S t a
  | .advancePhase phase operator id now => Experiments.advancePhase S t phase operator id now
  | .resolveScope id unbound => resolveOperatorLogScope S t id unbound
  | .hold id => holdReservation t id

/-- Construction starts a process; the other calls need its manager. -/
def launch (c : Call κ) (w : World δ κ) : Option (World δ κ × (ℕ → Op δ κ Unit)) :=
  match c with
  | .construct _ =>
      if w.started then none
      else some ({ w with started := true }, fun t => c.method S t)
  | _ => if w.ready then some (w, fun t => c.method S t) else none

def manager : System (World δ κ) Wait Answer Failure (Call κ) Empty where
  enabled := Wait.enabled
  launch := launch S
  environment := fun e _ => e.elim

/-- The directories that processes leave behind. -/
inductive Lives : World δ κ → Prop
  | empty : Lives World.empty
  | restart {w : World δ κ} {p : Pool (World δ κ) Wait Answer Failure} :
      Lives w → (manager S).Reachable w p → Lives p.state.restarted

end System

/-! ## A setting to replay in -/

def benchDigest : Document (List String) Unit → List String
  | .state incarnation revision mode active =>
      [incarnation, revision.repr, if mode = .debug then "debug" else "experiment",
        active.getD ""]
  | .receipt r => [r.requestId, r.resultRevision.repr]
  | .experiment i => [i.experimentId, i.name, i.title, i.operator, i.notes]
  | .request q => [q.requestId, q.predecessor.revision.repr, q.experiment.title]

/-- One template and small journals. -/
def bench : Setting (List String) Unit where
  digest := benchDigest
  templates := [⟨"custom", ["setup"], true, rfl, by decide, by decide⟩]
  journalBytes := fun _ => 2048

/-- A task whose wait is over. -/
def done (t n : ℕ) : List (Move Answer (Call Unit) Empty) :=
  List.replicate n (.resume t ⟨.done, false⟩)

/-- A task whose write raises and has not happened. -/
def failed (t : ℕ) : Move Answer (Call Unit) Empty := .resume t ⟨.failed, false⟩

def plainArchive : Archive Unit where
  materialized := fun r => r.payload.artifactPaths
  runArtifacts := fun _ => []
  generated := []
  resultTables := []
  summaryMetadata := ()

/-- A manager is constructed and starts an experiment, as the tasks 0 and 1. -/
def startExperiment : List (Move Answer (Call Unit) Empty) :=
  [.launch (.construct "manager")] ++ done 0 1 ++
    [.launch (.create { name := "Cooldown", operator := "A. K.", now := 5, requestId := "1" })] ++
    done 1 2 ++ [.resume 1 ⟨.drawn "0123456789ab", false⟩] ++ done 1 5

end Experiments
end CryoDaq
