import CryoDaq.Experiments.Growth
import CryoDaq.Reports.ReportState

/-!
# The report coordinator and the experiment manager

The documents that the experiment manager writes, as the report coordinator
reads them.

**Written documents.**  `stateJson` and `metadataJson` are the state file and a
metadata document after they were written and read as JSON.  Keys of a metadata
document that no reader looks at are left out.

**Batches.**  `nextBatch` chooses the experiments of one round; without a known
active experiment it chooses none.

**The state file.**  The manager writes the second version of the state file and
the reader accepts the first version only.  Metadata is read as it was meant:
`metadata_understood`.
-/

namespace CryoDaq
namespace Reports

open Async Experiments Text

variable {δ κ : Type}

structure Spelling (δ κ : Type) where
  fingerprint : δ → String
  isoformat : Timestamp → String
  artifactDir : String → String
  metadataPath : String → String
  /-- The size of the text of a state file. -/
  stateSize : StateFile δ → ℕ
  /-- The size of the text of a metadata document. -/
  metadataSize : Metadata κ → ℕ

variable (sp : Spelling δ κ)

/-- `AppMode.value` -/
def modeText : AppMode → String
  | .debug => "debug"
  | .experiment => "experiment"

/-- `ExperimentStatus.value` -/
def statusText : ExperimentStatus → String
  | .running => "RUNNING"
  | .completed => "COMPLETED"
  | .aborted => "ABORTED"

def operationText : Operation → String
  | .create => "create"
  | .update => "update"
  | .finalize => "finalize"

def textOrNull : Option String → Value
  | some s => .str s
  | none => .null

def receiptPayload (r : Receipt δ) : Fields :=
  [(.text "schema", .str "experiment_transition_receipt_v2"),
    (.text "manager_incarnation", .str r.managerIncarnation),
    (.text "request_id", .str r.requestId),
    (.text "request_fingerprint", .str (sp.fingerprint r.requestFingerprint)),
    (.text "operation", .str (operationText r.operation)),
    (.text "experiment_id", .str r.experimentId),
    (.text "experiment_fingerprint", .str (sp.fingerprint r.experimentFingerprint)),
    (.text "predecessor_revision", .int r.predecessorRevision),
    (.text "predecessor_state_fingerprint",
      .str (sp.fingerprint r.predecessorStateFingerprint)),
    (.text "result_revision", .int r.resultRevision),
    (.text "result_active_experiment_id", textOrNull r.resultActiveExperimentId),
    (.text "result_state_fingerprint", .str (sp.fingerprint r.resultStateFingerprint))]

/-- The payload of `_write_state`. -/
def statePayload (f : StateFile δ) (updatedAt : Timestamp) : Fields :=
  [(.text "schema_version", .int 2),
    (.text "app_mode", .str (modeText f.appMode)),
    (.text "active_experiment_id", textOrNull f.activeExperimentId),
    (.text "revision", .int f.revision),
    (.text "state_fingerprint", .str (sp.fingerprint f.stateFingerprint)),
    (.text "last_transition_receipt",
      (f.lastTransitionReceipt.map fun r => Value.dict (receiptPayload sp r)).getD .null),
    (.text "last_transition_receipt_fingerprint",
      textOrNull (f.lastTransitionReceiptFingerprint.map sp.fingerprint)),
    (.text "manager_incarnation", .str f.managerIncarnation),
    (.text "updated_at", .str (sp.isoformat updatedAt))]

/-- `ExperimentInfo.to_payload` -/
def experimentPayload (i : ExperimentInfo) : Fields :=
  [(.text "experiment_id", .str i.experimentId),
    (.text "name", .str i.name),
    (.text "title", .str i.title),
    (.text "template_id", .str i.templateId),
    (.text "operator", .str i.operator),
    (.text "cryostat", .str i.cryostat),
    (.text "sample", .str i.sample),
    (.text "description", .str i.description),
    (.text "notes", .str i.notes),
    (.text "start_time", .str (sp.isoformat i.startTime)),
    (.text "end_time", textOrNull (i.endTime.map sp.isoformat)),
    (.text "status", .str (statusText i.status)),
    (.text "config_snapshot", .dict i.configSnapshot),
    (.text "custom_fields",
      .dict (i.customFields.entries.map fun p => (.text p.1, .str p.2))),
    (.text "report_enabled", .bool i.reportEnabled),
    (.text "sections", .list (i.sections.map Value.str)),
    (.text "artifact_dir", .str (sp.artifactDir i.experimentId)),
    (.text "metadata_path", .str (sp.metadataPath i.experimentId)),
    (.text "retroactive", .bool i.retroactive)]

/-- The payload of `_write_artifact`, with the payload of a template. -/
def metadataPayload (template : Fields) (m : Metadata κ) : Fields :=
  [(.text "schema_version", .int 1),
    (.text "experiment",
      (m.experiment.map fun i => Value.dict (experimentPayload sp i)).getD .null),
    (.text "template", .dict template)]

/-- The items of a mapping after it was written and read. -/
def reloaded (payload : Fields) : Fields := Value.ofPairs (Value.reloadFields payload)

/-- The state file of a directory, written at `updatedAt`. -/
def stateJson (d : Disk δ κ) (updatedAt : Timestamp) : Option JsonFile :=
  d.state.map fun f => ⟨sp.stateSize f, reloaded (statePayload sp f updatedAt)⟩

/-- The metadata of an experiment, written with a template. -/
def metadataJson (d : Disk δ κ) (template : Fields) (id : String) : Option JsonFile :=
  (d.metadata id).map fun m => ⟨sp.metadataSize m, reloaded (metadataPayload sp template m)⟩

/-- What a round of the coordinator finds in the data directory. -/
structure Round where
  active : Except ReportError (Option String)
  /-- The directories of the experiments, in order. -/
  names : List String
  metadata : String → Option JsonFile

/-- `_priority_ids`, the cursor and the size of a batch. -/
structure Coordinator where
  priorityIds : List String
  cursor : Option String
  batchSize : ℕ

def eligibleRoot (parse : String → Option Timestamp) (r : Round) (activeId : Option String)
    (id : String) : Bool :=
  if activeId = some id then false
  else
    match automaticReportEligible parse id (r.metadata id) activeId with
    | .ok eligible => eligible
    | .error _ => false

def join (eligible : String → Bool) (batch : List String) (id : String) : List String :=
  if eligible id ∧ id ∉ batch then batch ++ [id] else batch

/-- The priority identifiers until the batch has `limit` experiments. -/
def drain (eligible : String → Bool) (limit : ℕ) : List String → List String →
    List String × List String
  | batch, [] => (batch, [])
  | batch, id :: rest =>
      if batch.length < limit then drain eligible limit (join eligible batch id) rest
      else (batch, id :: rest)

/-- The slots of the sweep: `remaining` names after the cursor. -/
def visited (names : List String) (cursor : Option String) (remaining : ℕ) : List String :=
  let start := names.countP fun name => cursor.any (name ≤ ·)
  (names.drop (if names.length ≤ start then 0 else start)).take remaining

def nextCursor (names slots : List String) (cursor : Option String) : Option String :=
  match slots.getLast? with
  | none => cursor
  | some last => if names.getLast? = some last then none else some last

/-- `_next_batch`, over a known active experiment. -/
def chooseBatch (parse : String → Option Timestamp) (r : Round) (c : Coordinator)
    (activeId : Option String) : List String × Coordinator :=
  if r.names = [] then ([], { c with cursor := none })
  else
    let eligible := eligibleRoot parse r activeId
    let drained := drain eligible (c.batchSize - 1) [] c.priorityIds
    let slots := visited r.names c.cursor (max 1 (c.batchSize - drained.1.length))
    ((slots.foldl (join eligible) drained.1).take c.batchSize,
      { c with priorityIds := drained.2, cursor := nextCursor r.names slots c.cursor })

def nextBatch (parse : String → Option Timestamp) (r : Round) (c : Coordinator) :
    List String × Coordinator :=
  match r.active with
  | .error _ => ([], c)
  | .ok activeId => chooseBatch parse r c activeId

def afterRounds (parse : String → Option Timestamp) (r : Round) (c : Coordinator) : ℕ → Coordinator
  | 0 => c
  | n + 1 => (nextBatch parse r (afterRounds parse r c n)).2

/-! ## What the readers make of the documents -/

/-- The clock, the templates and the reading of times. -/
structure Readers where
  parse : String → Option Timestamp
  now : Timestamp
  updatedAt : Timestamp
  template : String → Fields

variable (rd : Readers)

/-- What the coordinator finds in a data directory. -/
def roundOf (names : List String) (d : Disk δ κ) : Round where
  active := loadActiveExperimentId rd.parse rd.now (stateJson sp d rd.updatedAt)
  names := names
  metadata := fun id => metadataJson sp d (rd.template id) id

/-- An ended experiment that asks for a report, with metadata of a size that is read. -/
def AsksForReport (d : Disk δ κ) (id : String) : Prop :=
  ∃ m i, d.metadata id = some m ∧ m.experiment = some i ∧ i.status ≠ .running ∧
    i.reportEnabled = true ∧ i.retroactive = false ∧ sp.metadataSize m ≤ maxJsonBytes

/-- The coordinator understands what the manager has written. -/
structure Understood (w : World δ κ) : Prop where
  active : (roundOf sp rd [] w.disk).active = .ok w.activeExperimentId
  eligible : ∀ id, AsksForReport sp w.disk id → w.activeExperimentId ≠ some id →
    automaticReportEligible rd.parse id (metadataJson sp w.disk (rd.template id) id)
      w.activeExperimentId = .ok true
  picked : ∀ id names c, AsksForReport sp w.disk id → w.activeExperimentId ≠ some id →
    names.Pairwise (· < ·) → (∀ name, name ∈ names ↔ (w.disk.metadata name).isSome) →
    1 ≤ c.batchSize →
      ∃ n, id ∈ (nextBatch rd.parse (roundOf sp rd names w.disk)
        (afterRounds rd.parse (roundOf sp rd names w.disk) c n)).1

section Eligible

variable {S : Setting δ κ} [DecidableEq δ] {d : Disk δ κ}

/-- A metadata document holds its experiment. -/
def Kept (d : Disk δ κ) : Prop :=
  ∀ id m, d.metadata id = some m →
    ∃ i, m.experiment = some i ∧ i.experimentId = id ∧ i.fromPayload = .ok i

omit [DecidableEq δ] in
theorem Kept.congr {e : Disk δ κ} (he : Kept e) (hm : d.metadata = e.metadata) : Kept d := by
  unfold Kept
  rw [hm]
  exact he

omit [DecidableEq δ] in
theorem Kept.setMetadata (hk : Kept d) {id : String} {m : Metadata κ} {i : ExperimentInfo}
    (hi : m.experiment = some i) (hid : i.experimentId = id) (hread : i.fromPayload = .ok i) :
    Kept (d.setMetadata id m) := by
  intro other n hn
  by_cases hother : other = id
  · subst hother
    have hm : (d.setMetadata other m).metadata other = some m := if_pos rfl
    obtain rfl := Option.some.inj (hm.symm.trans hn)
    exact ⟨i, hi, hid, hread⟩
  · have hm : (d.setMetadata id m).metadata other = d.metadata other := if_neg hother
    exact hk other n (hm.symm.trans hn)

theorem kept_of_chronicle {contents : List (Disk δ κ)} (hc : Chronicle S contents) :
    ∀ e ∈ contents, Kept e := by
  induction hc with
  | empty =>
      intro e he
      obtain rfl := List.mem_singleton.mp he
      intro id m hm
      cases hm
  | @write d d' h hc hw ih =>
      intro e he
      rcases List.mem_cons.mp he with rfl | hold
      · have hd : Kept d := ih d List.mem_cons_self
        cases hw with
        | first _ => exact hd
        | mode _ _ => exact hd
        | @amend _ f id m m' _ _ hm hamends =>
            obtain ⟨i, hi, hid, hread⟩ := hd id m hm
            exact hd.setMetadata (hamends.experiment.trans hi) hid hread
        | journal _ => exact hd
        | @stage q f j info rows k k' hlast happlying _ _ =>
            have hq : Kept q := ih q (List.mem_cons_of_mem _ (List.mem_of_find?_eq_some hlast))
            rcases stage_metadata S q j info rows k' with hk | hk
            · exact hq.congr hk
            · refine Kept.congr ?_ hk
              exact hq.setMetadata rfl rfl
                (ExperimentInfo.normal_reload happlying.accepted.payload).read
        | unlink _ _ => exact hd
      · exact ih e hold

theorem ended_of_terminal {i : ExperimentInfo} (hread : i.fromPayload = .ok i)
    (hstatus : i.status ≠ .running) : ∃ t, i.endTime = some t := by
  obtain ⟨hrefusal, _⟩ := ExperimentInfo.fromPayload_eq hread
  cases hend : i.endTime with
  | some t => exact ⟨t, rfl⟩
  | none =>
      unfold ExperimentInfo.payloadRefusal at hrefusal
      rw [hend] at hrefusal
      split at hrefusal
      · cases hrefusal
      · simp [hstatus] at hrefusal

omit [DecidableEq δ] in
theorem reloaded_experiment (i : ExperimentInfo) :
    reloaded (experimentPayload sp i) = Value.reloadFields (experimentPayload sp i) := by
  refine Value.ofPairs_eq_self ?_
  rw [Value.keys_reloadFields]
  simp [experimentPayload, Key.spelled, Key.spelling]

omit [DecidableEq δ] in
theorem get_experiment {template : Fields} {m : Metadata κ} {i : ExperimentInfo}
    (hi : m.experiment = some i) :
    get (reloaded (metadataPayload sp template m)) "experiment" =
      some (.dict (reloaded (experimentPayload sp i))) := by
  simp only [metadataPayload, hi]
  rfl

omit [DecidableEq δ] in
theorem readTerminal_reloaded {i : ExperimentInfo} {t : Timestamp} (ht : i.endTime = some t)
    (hblank : blank (sp.isoformat t) = false)
    (hparse : (rd.parse (replaceZ (sp.isoformat t))).isSome) (hstatus : i.status ≠ .running)
    (template : Fields) :
    readTerminal rd.parse (reloaded (experimentPayload sp i)) template =
      .ok (i.reportEnabled && !i.retroactive) := by
  obtain ⟨parsed, hparsed⟩ := Option.isSome_iff_exists.mp hparse
  have hend : get (reloaded (experimentPayload sp i)) "end_time" =
      some (.str (sp.isoformat t)) := by
    rw [reloaded_experiment]
    simp only [experimentPayload, ht]
    rfl
  have htext : get (reloaded (experimentPayload sp i)) "status" =
      some (.str (statusText i.status)) := by
    rw [reloaded_experiment]
    rfl
  have hknown : memTexts ["COMPLETED", "ABORTED"] (some (.str (statusText i.status))) =
      .ok true := by
    cases hs : i.status with
    | running => exact absurd hs hstatus
    | completed => rfl
    | aborted => rfl
  have hasks : reportEnabledOf (reloaded (experimentPayload sp i)) template =
      some (.bool i.reportEnabled) := by
    rw [reloaded_experiment]
    rfl
  have hretro : get (reloaded (experimentPayload sp i)) "retroactive" =
      some (.bool i.retroactive) := by
    rw [reloaded_experiment]
    rfl
  simp only [readTerminal, bind_eq_ok, exists_unit, ensure_eq_ok]
  refine ⟨true, by rw [htext, hknown], rfl, sp.isoformat t, ?_, parsed, ?_, i.reportEnabled, ?_, ?_⟩
  · rw [hend, demandText, hblank]
    rfl
  · rw [demandTime, hparsed]
  · rw [hasks]
    rfl
  · cases i.reportEnabled with
    | false => rfl
    | true =>
        rw [if_neg (by decide), hretro]
        rfl

theorem eligible_metadata {h : List (Disk δ κ)} (hc : Chronicle S (d :: h)) {id : String}
    (hid : validateExperimentId id = .ok id) {m : Metadata κ} (hm : d.metadata id = some m)
    (hsize : sp.metadataSize m ≤ maxJsonBytes) (activeId : Option String) :
    ∃ i, m.experiment = some i ∧ i.experimentId = id ∧
      ((∀ t, i.endTime = some t → blank (sp.isoformat t) = false ∧
          (rd.parse (replaceZ (sp.isoformat t))).isSome) →
        automaticReportEligible rd.parse id (metadataJson sp d (rd.template id) id) activeId =
          .ok (decide (activeId ≠ some id ∧ i.status ≠ .running) &&
            (i.reportEnabled && !i.retroactive))) := by
  obtain ⟨i, hi, hname, hread⟩ := kept_of_chronicle hc d List.mem_cons_self id m hm
  refine ⟨i, hi, hname, fun hiso => ?_⟩
  have htext : get (reloaded (experimentPayload sp i)) "status" =
      some (.str (statusText i.status)) := by
    rw [reloaded_experiment]
    rfl
  simp only [automaticReportEligible, bind_eq_ok]
  refine ⟨id, hid, ?_⟩
  by_cases hactive : activeId = some id
  · rw [if_pos hactive, decide_eq_false fun hboth => hboth.1 hactive]
    rfl
  rw [if_neg hactive]
  simp only [metadataJson, hm, Option.map_some, readMetadataFile, bind_eq_ok, exists_unit,
    ensure_eq_ok]
  refine ⟨hsize, reloaded (experimentPayload sp i), ?_, reloaded (rd.template id), rfl, ?_, ?_⟩
  · rw [get_experiment sp hi]
    rfl
  · rw [reloaded_experiment]
    exact decide_eq_true hname
  rw [htext]
  by_cases hstatus : i.status = .running
  · rw [hstatus, decide_eq_false fun hboth => hboth.2 rfl]
    rfl
  have hrunning : isText "RUNNING" (some (.str (statusText i.status))) = false := by
    cases hs : i.status with
    | running => exact absurd hs hstatus
    | completed => rfl
    | aborted => rfl
  obtain ⟨t, ht⟩ := ended_of_terminal hread hstatus
  obtain ⟨hblank, hparse⟩ := hiso t ht
  rw [hrunning, decide_eq_true ⟨hactive, hstatus⟩]
  exact readTerminal_reloaded sp rd ht hblank hparse hstatus _

end Eligible

section Runs

variable {S : Setting δ κ} [DecidableEq δ]

omit [DecidableEq δ] in
theorem state_refused {d : Disk δ κ} {f : StateFile δ} (hf : d.state = some f) :
    ∃ e, loadActiveExperimentId rd.parse rd.now (stateJson sp d rd.updatedAt) = .error e := by
  have hkeys : hasExactly stateKeys (reloaded (statePayload sp f rd.updatedAt)) = false := by
    rfl
  cases hload : loadActiveExperimentId rd.parse rd.now (stateJson sp d rd.updatedAt) with
  | error e => exact ⟨e, rfl⟩
  | ok activeId =>
      simp only [stateJson, hf, Option.map_some, loadActiveExperimentId, readState, bind_eq_ok,
        exists_unit, ensure_eq_ok, hkeys] at hload
      obtain ⟨_, hfalse, _⟩ := hload
      cases hfalse

theorem state_written {w : World δ κ} (h : Inv S w) (hready : w.ready = true)
    (hfree : w.lifecycleLock = none) : ∃ f, w.disk.state = some f := by
  cases hj : w.disk.journal with
  | none =>
      obtain ⟨f, hidle⟩ := (h.quiet hfree hready).idle hj
      exact ⟨f, hidle.settled.state⟩
  | some j =>
      cases h.chronicle.status with
      | blank hblank =>
          rw [hblank.journal] at hj
          cases hj
      | settled f hsettled _ => exact ⟨f, hsettled.state⟩
      | pending q f j' _ hpending =>
          rcases hpending.state with hstate | ⟨info, rows, happlying, hdisk⟩
          · exact ⟨f, hstate⟩
          · rw [hdisk]
            exact ⟨_, rfl⟩

/-- After every operation of every manager the coordinator cannot read the active
experiment, and no round of it chooses an experiment. -/
theorem reports_blocked {w : World δ κ} (hw : Lives S w)
    {p : Pool (World δ κ) Wait Answer Failure} (hp : (manager S).Reachable w p)
    (hready : p.state.ready = true) (hfree : p.state.lifecycleLock = none) :
    ¬ Understood sp rd p.state ∧
      ∀ names c, nextBatch rd.parse (roundOf sp rd names p.state.disk) c = ([], c) := by
  obtain ⟨f, hf⟩ := state_written (hw.inv hp) hready hfree
  obtain ⟨e, he⟩ := state_refused sp rd hf
  constructor
  · intro h
    have hactive := h.active
    simp only [roundOf, he] at hactive
    cases hactive
  · intro names c
    simp only [nextBatch, roundOf, he]

/-- In every state of every run, between any two writes of any manager, the metadata of an
experiment is read as it was meant: nothing is refused, and a report is asked for exactly when the
experiment is not the active one, has ended, has reports enabled and is not retroactive. -/
theorem metadata_understood {w : World δ κ} (hw : Lives S w)
    {p : Pool (World δ κ) Wait Answer Failure} (hp : (manager S).Reachable w p) {id : String}
    (hid : validateExperimentId id = .ok id) {m : Metadata κ}
    (hm : p.state.disk.metadata id = some m) (hsize : sp.metadataSize m ≤ maxJsonBytes)
    (activeId : Option String) :
    ∃ i, m.experiment = some i ∧ i.experimentId = id ∧
      ((∀ t, i.endTime = some t → blank (sp.isoformat t) = false ∧
          (rd.parse (replaceZ (sp.isoformat t))).isSome) →
        automaticReportEligible rd.parse id (metadataJson sp p.state.disk (rd.template id) id)
            activeId =
          .ok (decide (activeId ≠ some id ∧ i.status ≠ .running) &&
            (i.reportEnabled && !i.retroactive))) :=
  eligible_metadata sp rd (hw.inv hp).chronicle hid hm hsize activeId

end Runs

/-! ## A finalized experiment -/

/-- Texts of the first ten microseconds of 1970. -/
def benchSpelling : Spelling (List String) Unit where
  fingerprint := fun words => " ".intercalate words
  isoformat := fun t => "1970-01-01T00:00:00.00000" ++ t.repr ++ "+00:00"
  artifactDir := fun id => "data/experiments/" ++ id
  metadataPath := fun id => "data/experiments/" ++ id ++ "/metadata.json"
  stateSize := fun _ => 1024
  metadataSize := fun _ => 2048

/-- A reader of the text of the fifth microsecond. -/
def benchReaders : Readers where
  parse := fun text => if text = "1970-01-01T00:00:00.000005+00:00" then some 5 else none
  now := 9
  updatedAt := 5
  template := fun _ =>
    [(.text "id", .str "custom"), (.text "name", .str "Custom"),
      (.text "sections", .list [.str "setup"]), (.text "report_enabled", .bool true),
      (.text "report_sections", .list []), (.text "custom_fields", .list [])]

def finalizedExperiment : List (Move Answer (Call Unit) Empty) :=
  startExperiment ++
    [.launch (.finalize { now := 9, archive := plainArchive, requestId := "2" })] ++ done 2 8

def observeReport (p : Pool (World (List String) Unit) Wait Answer Failure) :
    (Bool × Option ℕ × Option String) × Option (Option (ExperimentStatus × Bool × Bool)) :=
  ((p.state.ready, p.state.lifecycleLock, p.state.activeExperimentId),
    (p.state.disk.metadata "0123456789ab").map fun m =>
      m.experiment.map fun i => (i.status, i.reportEnabled, i.retroactive))

/-- A reader of the text of the ninth microsecond. -/
def ninthReaders : Readers :=
  { benchReaders with
    parse := fun text => if text = "1970-01-01T00:00:00.000009+00:00" then some 9 else none }

def observeEnd (p : Pool (World (List String) Unit) Wait Answer Failure) :
    Option (Option (Option Timestamp × ExperimentStatus × Bool × Bool)) :=
  (p.state.disk.metadata "0123456789ab").map fun m =>
    m.experiment.map fun i => (i.endTime, i.status, i.reportEnabled, i.retroactive)

theorem finalizedExperiment_asks :
    ∃ p, (manager bench).Reachable World.empty p ∧ p.state.ready = true ∧
      p.state.lifecycleLock = none ∧ p.state.activeExperimentId = none ∧
        AsksForReport benchSpelling p.state.disk "0123456789ab" := by
  have hrun : ((manager bench).replay (Pool.initial World.empty) finalizedExperiment).map
      observeReport = some ((true, none, none), some (some (.completed, true, false))) := by rfl
  obtain ⟨p, hp, hobserved⟩ := Option.map_eq_some_iff.mp hrun
  obtain ⟨hmanager, hmetadata⟩ := Prod.mk.inj hobserved
  obtain ⟨hready, hrest⟩ := Prod.mk.inj hmanager
  obtain ⟨hfree, hactive⟩ := Prod.mk.inj hrest
  obtain ⟨m, hm, hexperiment⟩ := Option.map_eq_some_iff.mp hmetadata
  obtain ⟨i, hi, hfields⟩ := Option.map_eq_some_iff.mp hexperiment
  obtain ⟨hstatus, hflags⟩ := Prod.mk.inj hfields
  obtain ⟨henabled, hretroactive⟩ := Prod.mk.inj hflags
  refine ⟨p, (manager bench).reachable_replay finalizedExperiment .initial hp, hready, hfree,
    hactive, m, i, hm, hi, ?_, henabled, hretroactive, ?_⟩
  · rw [hstatus]
    decide
  · change 2048 ≤ maxJsonBytes
    decide

theorem reports_blocked_finalized :
    ∃ p, (manager bench).Reachable World.empty p ∧
      AsksForReport benchSpelling p.state.disk "0123456789ab" ∧
        ∀ names c, nextBatch benchReaders.parse
          (roundOf benchSpelling benchReaders names p.state.disk) c = ([], c) := by
  obtain ⟨p, hp, hready, hfree, _, hask⟩ := finalizedExperiment_asks
  exact ⟨p, hp, hask, (reports_blocked benchSpelling benchReaders .empty hp hready hfree).2⟩

theorem metadata_understood_finalized :
    ∃ p, (manager bench).Reachable World.empty p ∧
      automaticReportEligible ninthReaders.parse "0123456789ab"
        (metadataJson benchSpelling p.state.disk (ninthReaders.template "0123456789ab")
          "0123456789ab") none = .ok true := by
  have hrun : ((manager bench).replay (Pool.initial World.empty) finalizedExperiment).map
      observeEnd = some (some (some (some 9, .completed, true, false))) := by rfl
  obtain ⟨p, hp, hobserved⟩ := Option.map_eq_some_iff.mp hrun
  obtain ⟨m, hm, hexperiment⟩ := Option.map_eq_some_iff.mp hobserved
  obtain ⟨i, hi, hfields⟩ := Option.map_eq_some_iff.mp hexperiment
  obtain ⟨hend, hfields⟩ := Prod.mk.inj hfields
  obtain ⟨hstatus, hfields⟩ := Prod.mk.inj hfields
  obtain ⟨henabled, hretroactive⟩ := Prod.mk.inj hfields
  have hreachable := (manager bench).reachable_replay finalizedExperiment .initial hp
  obtain ⟨i', hi', -, heligible⟩ := metadata_understood benchSpelling ninthReaders .empty hreachable
    (show validateExperimentId "0123456789ab" = .ok "0123456789ab" by decide) hm
    (show 2048 ≤ maxJsonBytes by decide) none
  obtain rfl := Option.some.inj (hi.symm.trans hi')
  refine ⟨p, hreachable, (heligible fun t ht => ?_).trans ?_⟩
  · obtain rfl := Option.some.inj (hend.symm.trans ht)
    decide
  · rw [hstatus, henabled, hretroactive]
    rfl

/-- The coordinator does not understand what the manager has written. -/
theorem reports_not_understood :
    ¬ ∀ p, (manager bench).Reachable World.empty p → p.state.ready = true →
      p.state.lifecycleLock = none → Understood benchSpelling benchReaders p.state := by
  intro h
  obtain ⟨p, hp, hready, hfree, _, _⟩ := finalizedExperiment_asks
  have hactive := (h p hp hready hfree).active
  obtain ⟨f, hf⟩ := state_written (Lives.empty.inv hp) hready hfree
  obtain ⟨e, he⟩ := state_refused benchSpelling benchReaders hf
  simp only [roundOf, he] at hactive
  cases hactive

end Reports
end CryoDaq
