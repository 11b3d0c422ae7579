import CryoDaq.Python.Raising
import CryoDaq.Python.Text
import CryoDaq.Python.Time
import CryoDaq.Python.Value

/-!
# What the report coordinator reads

The readers of `report_state` take the state file and the metadata of the
experiment manager from the data directory and check them again.

**Files.**  A `JsonFile` is a regular file that holds the text of a JSON mapping:
its size in bytes and the items of the mapping.  A missing file is `none`.

**Times.**  `parse` is `datetime.fromisoformat` with its `timestamp()`; it gives
nothing when it raises or when the timestamp is not finite.
-/

namespace CryoDaq
namespace Reports

open Text

/-- `ReportContractError`, or what `in` raises for a value that has no hash. -/
inductive ReportError
  | contract (message : String)
  | unhashable
deriving DecidableEq, Repr

structure JsonFile where
  size : ℕ
  payload : Fields

def maxJsonBytes : ℕ := 128 * 1024

/-- `payload.get(key)` -/
def get (payload : Fields) (key : String) : Option Value := payload.lookup (.text key)

/-- `set(payload) == keys` -/
def hasExactly (keys : List String) (payload : Fields) : Bool :=
  payload.all (fun p => keys.any fun k => p.1 = .text k) &&
    keys.all fun k => (get payload k).isSome

/-- `value == text` -/
def isText (text : String) : Option Value → Bool
  | some (.str s) => s = text
  | _ => false

/-- `value in texts`, for a set of texts. -/
def memTexts (texts : List String) : Option Value → Except ReportError Bool
  | some (.str s) => .ok (texts.any fun t => s = t)
  | some (.list _) => .error .unhashable
  | some (.dict _) => .error .unhashable
  | _ => .ok false

/-- `value.replace("Z", "+00:00")` -/
def replaceZ (text : String) : String :=
  String.ofList (text.toList.flatMap fun c => if c = 'Z' then "+00:00".toList else [c])

def demandText (message : String) : Option Value → Except ReportError String
  | some (.str s) => if blank s then .error (.contract message) else .ok s
  | _ => .error (.contract message)

def demandTime (parse : String → Option Timestamp) (message text : String) :
    Except ReportError Timestamp :=
  match parse (replaceZ text) with
  | some t => .ok t
  | none => .error (.contract message)

def demandMapping (message : String) : Option Value → Except ReportError Fields
  | some (.dict fields) => .ok fields
  | _ => .error (.contract message)

/-- `type(value) is bool` -/
def demandBool (message : String) : Option Value → Except ReportError Bool
  | some (.bool b) => .ok b
  | _ => .error (.contract message)

def oneComponent (value field : String) (maxLength : ℕ) : Except ReportError String := do
  ensure (value ≠ "" ∧ value.length ≤ maxLength)
    (.contract (field ++ " must be a non-empty bounded string"))
  ensure (value ≠ "." ∧ value ≠ ".." ∧ '/' ∉ value.toList ∧ '\\' ∉ value.toList)
    (.contract (field ++ " must be exactly one path component"))
  ensure (value.toList.head? ≠ some '-' ∧ value.toList.all (fun c => 32 ≤ c.toNat) = true)
    (.contract (field ++ " contains forbidden characters"))
  pure value

def validateExperimentId (experimentId : String) : Except ReportError String :=
  oneComponent experimentId "experiment_id" 255

/-- The active experiment of a state file: a text or null. -/
def readActiveId : Option Value → Except ReportError (Option String)
  | some .null => .ok none
  | some (.str s) => (validateExperimentId s).map some
  | _ => .error (.contract "active_experiment_id must be a string or null")

def stateKeys : List String := ["schema_version", "app_mode", "active_experiment_id", "updated_at"]

/-- `type(value) is int and value == 1` -/
def isOne : Option Value → Bool
  | some (.int n) => n = 1
  | _ => false

def readState (parse : String → Option Timestamp) (now : Timestamp) (file : JsonFile) :
    Except ReportError (Option String) := do
  ensure (file.size ≤ maxJsonBytes)
    (.contract "active experiment state must be a bounded regular file")
  ensure (hasExactly stateKeys file.payload = true)
    (.contract "active experiment state has unexpected fields")
  ensure (isOne (get file.payload "schema_version") = true)
    (.contract "active experiment state schema is invalid")
  let known ← memTexts ["experiment", "debug"] (get file.payload "app_mode")
  ensure (known = true) (.contract "active experiment app_mode is invalid")
  let updatedAt ← demandText "active experiment updated_at is invalid"
    (get file.payload "updated_at")
  let timestamp ← demandTime parse "active experiment updated_at is invalid" updatedAt
  ensure (timestamp ≤ now + 300000000)
    (.contract "active experiment updated_at is invalid")
  readActiveId (get file.payload "active_experiment_id")

def loadActiveExperimentId (parse : String → Option Timestamp) (now : Timestamp) :
    Option JsonFile → Except ReportError (Option String)
  | none => .ok none
  | some file => readState parse now file

/-- The template of a metadata document; without one it is empty. -/
def templateOf (payload : Fields) : Option Value :=
  some ((get payload "template").getD (.dict []))

/-- `report_enabled` of the experiment, or else of the template. -/
def reportEnabledOf (experiment template : Fields) : Option Value :=
  if (get experiment "report_enabled").isSome then get experiment "report_enabled"
  else get template "report_enabled"

/-- Whether a terminal experiment asks for a report. -/
def readTerminal (parse : String → Option Timestamp) (experiment template : Fields) :
    Except ReportError Bool := do
  let supported ← memTexts ["COMPLETED", "ABORTED"] (get experiment "status")
  ensure (supported = true)
    (.contract "metadata status is not a supported terminal value")
  let ended ← demandText "terminal metadata end_time is required" (get experiment "end_time")
  let _ ← demandTime parse "terminal metadata end_time is invalid" ended
  let enabled ← demandBool "report_enabled must be a boolean"
    (reportEnabledOf experiment template)
  if enabled = false then pure false
  else do
    let retroactive ← demandBool "retroactive must be a boolean" (get experiment "retroactive")
    pure !retroactive

def readMetadataFile (parse : String → Option Timestamp) (experimentId : String)
    (file : JsonFile) : Except ReportError Bool := do
  ensure (file.size ≤ maxJsonBytes) (.contract "metadata exceeds the size limit")
  let experiment ← demandMapping "metadata experiment/template must be mappings"
    (get file.payload "experiment")
  let template ← demandMapping "metadata experiment/template must be mappings"
    (templateOf file.payload)
  ensure (isText experimentId (get experiment "experiment_id") = true)
    (.contract "metadata experiment_id does not match its directory")
  if isText "RUNNING" (get experiment "status") then pure false
  else readTerminal parse experiment template

/-- `automatic_report_eligible`, of the directory `name`. -/
def automaticReportEligible (parse : String → Option Timestamp) (name : String)
    (metadata : Option JsonFile) (activeExperimentId : Option String) :
    Except ReportError Bool := do
  let experimentId ← validateExperimentId name
  if activeExperimentId = some experimentId then pure false
  else
    match metadata with
    | none => .error (.contract "metadata must be a regular file")
    | some file => readMetadataFile parse experimentId file

end Reports
end CryoDaq
