import CryoDaq.Python.Dict
import CryoDaq.Python.Text
import CryoDaq.Python.Time
import CryoDaq.Python.Value

/-!
# Experiment records

The values that the experiment manager keeps in memory and in its files.

**Experiments.**  `ExperimentInfo` is both the record in memory and its payload:
`to_payload` spells every field.  `ExperimentInfo.reload` is the payload after
`json.loads(json.dumps(..))`, which respells the keys of the configuration and
keeps everything else; `ExperimentInfo.fromPayload` reads a record out of a
payload and cleans it on the way.  The artifact directory and the metadata path
follow from the identifier.

**Documents.**  `κ` is the type of the JSON documents that the manager carries
from one place to another and never looks into.

**Metadata.**  `Metadata` is the part of `metadata.json` that the manager reads
back; the template, the data range and the paths are written and not read.
-/

namespace CryoDaq
namespace Experiments

open Text

inductive Failure
  | runtime (message : String)
  | value (message : String)
  | key (message : String)
  | mismatch (message : String)
  | type
  | integrity
  | os
deriving DecidableEq, Repr

inductive ExperimentStatus
  | running
  | completed
  | aborted
deriving DecidableEq, Repr

inductive AppMode
  | debug
  | experiment
deriving DecidableEq, Repr

structure ExperimentInfo where
  experimentId : String
  name : String
  title : String
  templateId : String
  operator : String
  cryostat : String
  sample : String
  description : String
  notes : String
  startTime : Timestamp
  endTime : Option Timestamp
  status : ExperimentStatus
  configSnapshot : Fields
  customFields : Dict String String
  reportEnabled : Bool
  sections : List String
  retroactive : Bool

/-- `_normalize_custom_fields`, on the texts of the keys and of the values. -/
def normalizeCustomFields (raw : List (String × String)) : Dict String String :=
  .ofList (raw.filter fun p => !blank p.1)

def sortedFields (d : Dict String String) : Dict String String where
  entries := d.entries.insertionSort fun p q => p.1 ≤ q.1
  nodup := ((List.perm_insertionSort _ d.entries).map Prod.fst).nodup_iff.mpr d.nodup

/-- The items of a configuration after it was written and read. -/
def reloadConfig (config : Fields) : Fields := Value.ofPairs (Value.reloadFields config)

/-- The items of the document that a configuration is fingerprinted as. -/
def canonicalConfig (config : Fields) : Option Fields :=
  if Value.sortable (config.map Prod.fst) then
    (Value.canonicalFields config).map fun done =>
      (Value.sortFields done).map Value.spellField
  else none

namespace ExperimentInfo

/-- The payload after it was written and read. -/
def reload (i : ExperimentInfo) : ExperimentInfo :=
  { i with configSnapshot := reloadConfig i.configSnapshot }

/-- The document of the payload; `none` when it has keys that do not compare. -/
def canonical (i : ExperimentInfo) : Option ExperimentInfo :=
  (canonicalConfig i.configSnapshot).map fun config =>
    { i with configSnapshot := config, customFields := sortedFields i.customFields }

/-- What `_experiment_info_from_payload` refuses. -/
def payloadRefusal (e : ExperimentInfo) : Option String :=
  if blank e.experimentId || blank e.name || blank e.operator then
    some "Experiment identity, operator, start_time, and status must be explicit."
  else if e.endTime.any (· < e.startTime) then
    some "Experiment end_time cannot precede start_time."
  else if e.status = .running && e.endTime.isSome then
    some "RUNNING experiment cannot carry end_time."
  else if e.status ≠ .running && e.endTime.isNone then
    some "Terminal experiment must carry end_time."
  else none

/-- `text or default` -/
def orElse (text default : String) : String := if text = "" then default else text

theorem strip_orElse (text default : String) (h : strip default = default) :
    orElse (strip (orElse (strip text) default)) default =
      orElse (strip text) default := by
  unfold orElse
  by_cases htext : strip text = ""
  · rw [if_pos htext, h]
    exact ite_self default
  · rw [if_neg htext, strip_strip, if_neg htext]

def cleaned (e : ExperimentInfo) : ExperimentInfo :=
  { e with
    experimentId := strip e.experimentId
    name := strip e.name
    title := orElse (strip e.title) (strip e.name)
    templateId := orElse (strip e.templateId) "custom"
    operator := strip e.operator
    cryostat := strip e.cryostat
    sample := strip e.sample
    description := strip e.description
    notes := strip e.notes
    customFields := normalizeCustomFields e.customFields.entries
    sections := e.sections.filter fun s => !blank s }

/-- `_experiment_info_from_payload` -/
def fromPayload (e : ExperimentInfo) : Except Failure ExperimentInfo :=
  match e.payloadRefusal with
  | some message => .error (.value message)
  | none => .ok e.cleaned

end ExperimentInfo

/-- `ExperimentTemplate`; `_load_templates` has cleaned its texts. -/
structure ExperimentTemplate where
  templateId : String
  sections : List String
  reportEnabled : Bool
  trimmed : strip templateId = templateId
  named : templateId ≠ ""
  filled : ∀ s ∈ sections, blank s = false

structure ExperimentContext where
  experimentId : String
  title : String
  sample : String
  operator : String
  templateId : String
  cryostat : String
deriving DecidableEq

/-- The fields of a `RunRecord`. -/
structure RunPayload (κ : Type) where
  recordId : String
  sourceRunId : String
  sourceTab : String
  sourceModule : String
  runType : String
  status : String
  startedAt : Timestamp
  finishedAt : Option Timestamp
  parameters : κ
  resultSummary : κ
  artifactPaths : List String
  experimentContext : ExperimentContext
deriving DecidableEq

namespace RunPayload

variable {κ : Type}

/-- What `RunRecord.from_payload` makes of the fields. -/
def cleaned (r : RunPayload κ) : RunPayload κ :=
  { r with
    recordId := strip r.recordId
    sourceRunId := strip r.sourceRunId
    sourceTab := strip r.sourceTab
    sourceModule := strip r.sourceModule
    runType := strip r.runType
    status := ExperimentInfo.orElse (strip r.status) "UNKNOWN"
    artifactPaths := (r.artifactPaths.map strip).filter (· ≠ "") }

def fromPayload (r : RunPayload κ) : Except Failure (RunPayload κ) :=
  if blank r.recordId || blank r.sourceRunId then
    .error (.value "Run record identity and started_at must be explicit.")
  else if r.finishedAt.any (· < r.startedAt) then
    .error (.value "Run record finished_at cannot precede started_at.")
  else .ok r.cleaned

theorem fromPayload_cleaned {p q : RunPayload κ} (h : p.fromPayload = .ok q) :
    q.fromPayload = .ok q := by
  unfold fromPayload at h
  split at h
  · cases h
  · split at h
    · cases h
    · rename_i hblank htime
      obtain rfl := Except.ok.inj h
      have hpaths : ((p.artifactPaths.map strip).filter (· ≠ "")).map strip =
          (p.artifactPaths.map strip).filter (· ≠ "") := by
        have hid : ((p.artifactPaths.map strip).filter (· ≠ "")).map strip =
            ((p.artifactPaths.map strip).filter (· ≠ "")).map id := by
          apply List.map_congr_left
          intro s hs
          obtain ⟨raw, _, rfl⟩ := List.mem_map.mp (List.mem_filter.mp hs).1
          exact strip_strip raw
        rw [hid, List.map_id]
      have hcleaned : p.cleaned.cleaned = p.cleaned := by
        simp only [cleaned, strip_strip, ExperimentInfo.strip_orElse _ _ (rfl : strip "UNKNOWN" = "UNKNOWN"),
          hpaths, List.filter_filter, Bool.and_self]
      have hid : blank p.cleaned.recordId = blank p.recordId := by
        simp only [blank, cleaned, strip_strip]
      have hrun : blank p.cleaned.sourceRunId = blank p.sourceRunId := by
        simp only [blank, cleaned, strip_strip]
      have htime' : ¬ p.cleaned.finishedAt.any (· < p.cleaned.startedAt) = true := htime
      unfold fromPayload
      rw [hid, hrun, if_neg hblank, if_neg htime', hcleaned]

end RunPayload

/-- A `RunRecord`: fields that are read back as they were written. -/
structure RunRecord (κ : Type) where
  payload : RunPayload κ
  clean : payload.fromPayload = .ok payload

/-- `RunRecord(..)`, as the metadata will give it back. -/
def RunRecord.ofPayload {κ : Type} (p : RunPayload κ) : Except Failure (RunRecord κ) :=
  match h : p.fromPayload with
  | .error e => .error e
  | .ok q => .ok ⟨q, RunPayload.fromPayload_cleaned h⟩

structure ArtifactEntry (κ : Type) where
  artifactId : String
  category : String
  role : String
  path : String
  summary : κ
deriving DecidableEq

/-- `ExperimentPhase` -/
def experimentPhases : List String :=
  ["preparation", "vacuum", "cooldown", "measurement", "warmup", "teardown"]

structure PhaseEntry where
  phase : String
  startedAt : Timestamp
  endedAt : Option Timestamp
  operator : String
deriving DecidableEq

/-- `metadata.json` -/
structure Metadata (κ : Type) where
  experiment : Option ExperimentInfo := none
  runRecords : List (RunRecord κ) := []
  artifactIndex : List (ArtifactEntry κ) := []
  resultTables : List κ := []
  summaryMetadata : Option κ := none
  phases : List PhaseEntry := []
  currentPhase : Option String := none

def closeLast (now : Timestamp) : List PhaseEntry → List PhaseEntry
  | [] => []
  | [p] => [if p.endedAt.isNone then { p with endedAt := some now } else p]
  | p :: rest => p :: closeLast now rest

/-- The document after `_advance_phase_locked`: the last phase ends when the new one
starts. -/
def Metadata.advance {κ : Type} (m : Metadata κ) (entry : PhaseEntry) : Metadata κ :=
  { m with
    phases := closeLast entry.startedAt m.phases ++ [entry]
    currentPhase := some entry.phase }

structure Extras (κ : Type) where
  runRecords : Option (List (RunRecord κ)) := none
  artifactIndex : Option (List (ArtifactEntry κ)) := none
  resultTables : Option (List κ) := none
  summaryMetadata : Option κ := none

/-- The document that `_write_artifact` leaves in place of the existing one. -/
def Metadata.rewritten {κ : Type} (existing : Metadata κ) (i : ExperimentInfo) (x : Extras κ) :
    Metadata κ :=
  { existing with
    experiment := some i.reload
    runRecords := x.runRecords.getD existing.runRecords
    artifactIndex := x.artifactIndex.getD existing.artifactIndex
    resultTables := x.resultTables.getD existing.resultTables
    summaryMetadata := x.summaryMetadata.or existing.summaryMetadata }

end Experiments
end CryoDaq
