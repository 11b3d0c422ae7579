import CryoDaq.Reports.ReportState
import Mathlib.Algebra.Order.Ring.Rat

/-!
# The report state of an experiment

`report_state.json` says how far the report of one experiment has come.  It is
checked whenever it is read and again before it is written.

**Times.**  A time is a rational number of seconds; `now` is the reading of
`time.time()` that a check takes.  The code adds and compares doubles: where a sum
is within a rounding of a bound, it may decide the other way.

**The check.**  `ValidReportState` holds of a state at a reading exactly when
`validateReportState` returns: `validateReportState_eq_ok`.

**Writing.**  A write with a fence loads the file again and compares owner,
generation and status before it replaces the text.
-/

namespace CryoDaq
namespace Reports

variable {κ : Type}

/-- `_REPORT_STATUSES` -/
inductive ReportStatus
  | pending
  | running
  | succeeded
  | failed
deriving DecidableEq, Repr

/-- A report state; the artifacts are any JSON object, the times are exact. -/
structure ReportState (κ : Type) where
  experimentId : String
  sourceFingerprint : String
  generationId : String
  status : ReportStatus
  attemptCount : ℤ
  maxAttempts : ℤ
  notBefore : ℚ
  startedAt : ℚ
  updatedAt : ℚ
  finishedAt : Option ℚ
  ownerToken : String
  errorCode : Option String
  errorText : Option String
  artifacts : κ
deriving DecidableEq

/-- An ASCII letter, a digit or `_`. -/
def isWord (c : Char) : Bool := c.isAlphanum || c == '_'

/-- `_GENERATION_RE.fullmatch(value)` -/
def matchesGeneration (value : String) : Bool :=
  16 ≤ value.length && value.length ≤ 128 &&
    value.toList.head?.any isWord && value.toList.all (fun c => isWord c || c == '-')

def validateGenerationId (generationId : String) : Except ReportError String := do
  ensure (matchesGeneration generationId = true)
    (.contract "generation_id must contain 16-128 ASCII letters, digits, '_' or '-'")
  pure generationId

/-- `re.fullmatch(r"sha256:[0-9a-f]{64}", value)` -/
def matchesFingerprint (value : String) : Bool :=
  value.toList.take 7 = "sha256:".toList && value.length = 71 &&
    (value.toList.drop 7).all fun c => c.isDigit || ('a' ≤ c && c ≤ 'f')

/-- A text of an error: null or at most 2048 characters. -/
def boundedText : Option String → Bool
  | none => true
  | some s => s.length ≤ 2048

/-- A status with no `finished_at`. -/
def ReportStatus.open : ReportStatus → Bool
  | pending => true
  | running => true
  | _ => false

/-- The end of a state that has ended: between its start and its last change, and not
ahead of the clock. -/
def endsInOrder (now : ℚ) (s : ReportState κ) : Option ℚ → Bool
  | none => false
  | some finished =>
      s.startedAt ≤ finished && finished ≤ s.updatedAt && finished ≤ now + 300

/-- `finished_at` is there when the status says so. -/
def checkFinished (now : ℚ) (s : ReportState κ) : Except ReportError Unit :=
  if s.status.open then
    ensure (s.finishedAt = none) (.contract "nonterminal state must not have finished_at")
  else ensure (endsInOrder now s s.finishedAt = true) (.contract "invalid finished_at")

/-- `validate_report_state`, at the reading `now`. -/
def validateReportState (now : ℚ) (s : ReportState κ) : Except ReportError (ReportState κ) := do
  let _ ← validateExperimentId s.experimentId
  let _ ← validateGenerationId s.generationId
  let _ ← validateGenerationId s.ownerToken
  ensure (matchesFingerprint s.sourceFingerprint = true) (.contract "invalid source fingerprint")
  ensure (1 ≤ s.maxAttempts ∧ s.maxAttempts ≤ 20) (.contract "invalid max_attempts")
  ensure (0 ≤ s.attemptCount ∧ s.attemptCount ≤ s.maxAttempts) (.contract "invalid attempt_count")
  ensure (s.status = .pending → s.attemptCount = 0)
    (.contract "PENDING state must have attempt_count zero")
  ensure (s.status ≠ .pending → 1 ≤ s.attemptCount)
    (.contract "non-PENDING state must consume an attempt")
  ensure (0 ≤ s.notBefore) (.contract "invalid not_before")
  ensure (0 ≤ s.startedAt) (.contract "invalid started_at")
  ensure (0 ≤ s.updatedAt) (.contract "invalid updated_at")
  ensure (s.startedAt ≤ s.updatedAt) (.contract "report state timestamps are out of order")
  ensure (s.updatedAt ≤ now + 300) (.contract "report state updated_at is in the future")
  ensure (s.notBefore ≤ s.updatedAt + 86400 + 300)
    (.contract "report state not_before exceeds bounded backoff")
  checkFinished now s
  ensure (boundedText s.errorCode = true) (.contract "invalid error_code")
  ensure (boundedText s.errorText = true) (.contract "invalid error_text")
  pure s

/-- What the check accepts. -/
structure ValidReportState (now : ℚ) (s : ReportState κ) : Prop where
  experimentId : ∃ value, validateExperimentId s.experimentId = .ok value
  generationId : matchesGeneration s.generationId = true
  ownerToken : matchesGeneration s.ownerToken = true
  sourceFingerprint : matchesFingerprint s.sourceFingerprint = true
  maxAttempts : 1 ≤ s.maxAttempts ∧ s.maxAttempts ≤ 20
  attemptCount : 0 ≤ s.attemptCount ∧ s.attemptCount ≤ s.maxAttempts
  unattempted : s.status = .pending → s.attemptCount = 0
  attempted : s.status ≠ .pending → 1 ≤ s.attemptCount
  notBefore : 0 ≤ s.notBefore
  startedAt : 0 ≤ s.startedAt
  updatedAt : 0 ≤ s.updatedAt
  inOrder : s.startedAt ≤ s.updatedAt
  notAhead : s.updatedAt ≤ now + 300
  boundedBackoff : s.notBefore ≤ s.updatedAt + 86400 + 300
  finished : checkFinished now s = .ok ()
  errorCode : boundedText s.errorCode = true
  errorText : boundedText s.errorText = true

theorem validateGenerationId_eq_ok {value result : String} :
    validateGenerationId value = .ok result ↔ matchesGeneration value = true ∧ value = result := by
  simp only [validateGenerationId, bind_eq_ok, ensure_eq_ok, exists_unit, pure_eq_ok]

theorem validateReportState_eq_ok {now : ℚ} {s r : ReportState κ} :
    validateReportState now s = .ok r ↔ ValidReportState now s ∧ s = r := by
  constructor
  · intro h
    simp only [validateReportState, bind_eq_ok, ensure_eq_ok, exists_unit, pure_eq_ok,
      validateGenerationId_eq_ok] at h
    obtain ⟨value, hid, _, ⟨hgeneration, -⟩, _, ⟨howner, -⟩, hfingerprint, hmax, hattempt,
      hpending, hother, hnotBefore, hstarted, hupdated, horder, hahead, hbackoff, hfinished,
      hcode, htext, rfl⟩ := h
    exact ⟨⟨⟨value, hid⟩, hgeneration, howner, hfingerprint, hmax, hattempt, hpending, hother,
      hnotBefore, hstarted, hupdated, horder, hahead, hbackoff, hfinished, hcode, htext⟩, rfl⟩
  · rintro ⟨h, rfl⟩
    obtain ⟨value, hid⟩ := h.experimentId
    simp only [validateReportState, bind_eq_ok, ensure_eq_ok, exists_unit, pure_eq_ok,
      validateGenerationId_eq_ok]
    exact ⟨value, hid, _, ⟨h.generationId, rfl⟩, _, ⟨h.ownerToken, rfl⟩, h.sourceFingerprint,
      h.maxAttempts, h.attemptCount, h.unattempted, h.attempted, h.notBefore, h.startedAt,
      h.updatedAt, h.inOrder, h.notAhead, h.boundedBackoff, h.finished, h.errorCode,
      h.errorText, trivial⟩

theorem ValidReportState.finishedAt {now : ℚ} {s : ReportState κ} (h : ValidReportState now s)
    (hfailed : s.status = .failed) :
    ∃ finished, s.finishedAt = some finished ∧ s.startedAt ≤ finished ∧
      finished ≤ s.updatedAt := by
  have hfinished := h.finished
  unfold checkFinished at hfinished
  rw [hfailed] at hfinished
  simp only [ReportStatus.open, Bool.false_eq_true, if_false, ensure_eq_ok] at hfinished
  cases hend : s.finishedAt with
  | none =>
      rw [hend] at hfinished
      simp [endsInOrder] at hfinished
  | some finished =>
      rw [hend] at hfinished
      simp only [endsInOrder, Bool.and_eq_true, decide_eq_true_eq] at hfinished
      exact ⟨finished, rfl, hfinished.1.1, hfinished.1.2⟩

/-- A valid state stays valid while the clock has not gone back behind its last change. -/
theorem ValidReportState.later {now now' : ℚ} {s : ReportState κ} (h : ValidReportState now s)
    (hahead : s.updatedAt ≤ now' + 300) : ValidReportState now' s := by
  refine { h with notAhead := hahead, finished := ?_ }
  have hfinished := h.finished
  unfold checkFinished at hfinished ⊢
  cases hopen : s.status.open with
  | true =>
      rw [hopen] at hfinished
      exact hfinished
  | false =>
      rw [hopen] at hfinished
      simp only [Bool.false_eq_true, if_false, ensure_eq_ok] at hfinished ⊢
      cases hend : s.finishedAt with
      | none =>
          rw [hend] at hfinished
          simp [endsInOrder] at hfinished
      | some finished =>
          rw [hend] at hfinished
          simp only [endsInOrder, Bool.and_eq_true, decide_eq_true_eq] at hfinished ⊢
          exact ⟨hfinished.1, le_trans hfinished.1.2 hahead⟩

/-- A regular file with the text of a report state, and the length of the text. -/
structure ReportStateFile (κ : Type) where
  size : ℕ
  state : ReportState κ
deriving DecidableEq

def loadReportState (now : ℚ) :
    Option (ReportStateFile κ) → Except ReportError (Option (ReportState κ))
  | none => .ok none
  | some file => do
      ensure (file.size ≤ maxJsonBytes) (.contract "report_state.json is too large")
      let state ← validateReportState now file.state
      pure (some state)

/-- A file that is read without complaint. -/
structure ReadableFile (now : ℚ) (file : ReportStateFile κ) : Prop where
  size : file.size ≤ maxJsonBytes
  state : ValidReportState now file.state

theorem loadReportState_eq_ok {now : ℚ} {file : ReportStateFile κ}
    {r : Option (ReportState κ)} :
    loadReportState now (some file) = .ok r ↔ ReadableFile now file ∧ some file.state = r := by
  simp only [loadReportState, bind_eq_ok, ensure_eq_ok, exists_unit, pure_eq_ok,
    validateReportState_eq_ok]
  constructor
  · rintro ⟨hsize, _, ⟨hvalid, rfl⟩, rfl⟩
    exact ⟨⟨hsize, hvalid⟩, rfl⟩
  · rintro ⟨h, rfl⟩
    exact ⟨h.size, _, ⟨h.state, rfl⟩, rfl⟩

theorem ReadableFile.load {now : ℚ} {file : ReportStateFile κ} (h : ReadableFile now file) :
    loadReportState now (some file) = .ok (some file.state) :=
  loadReportState_eq_ok.mpr ⟨h, rfl⟩

/-- The owner, the generation and the status that a writer expects to replace. -/
structure Fence where
  ownerToken : String
  generationId : String
  status : ReportStatus
deriving DecidableEq, Repr

def ReportState.fence (s : ReportState κ) : Fence := ⟨s.ownerToken, s.generationId, s.status⟩

/-- The fence of `write_report_state`; without one nothing is loaded. -/
def checkFence (now : ℚ) (file : Option (ReportStateFile κ)) :
    Option Fence → Except ReportError Unit
  | none => .ok ()
  | some expected => do
      let current ← loadReportState now file
      ensure (current.map ReportState.fence = some expected)
        (.contract "persisted report state changed before terminal write")

/-- `_json_text`, of a text of `size` bytes. -/
def jsonText (size : ReportState κ → ℕ) (s : ReportState κ) :
    Except ReportError (ReportStateFile κ) := do
  ensure (size s ≤ maxJsonBytes) (.contract "report JSON exceeds size limit")
  pure ⟨size s, s⟩

/-- `write_report_state`, the fence read at `reloaded` and the payload checked at
`written`. -/
def writeReportState (size : ReportState κ → ℕ) (reloaded written : ℚ)
    (file : Option (ReportStateFile κ)) (payload : ReportState κ) (expected : Option Fence) :
    Except ReportError (ReportStateFile κ) := do
  checkFence reloaded file expected
  let checked ← validateReportState written payload
  jsonText size checked

/-- A write that met the fence it expects replaces the file when the payload is valid
and its text is short enough. -/
theorem writeReportState_eq_ok {size : ReportState κ → ℕ} {reloaded written : ℚ}
    {file r : ReportStateFile κ} {payload : ReportState κ} :
    writeReportState size reloaded written (some file) payload (some file.state.fence) = .ok r ↔
      ReadableFile reloaded file ∧ ValidReportState written payload ∧
        size payload ≤ maxJsonBytes ∧ (⟨size payload, payload⟩ : ReportStateFile κ) = r := by
  simp only [writeReportState, checkFence, jsonText, bind_eq_ok, ensure_eq_ok, exists_unit,
    pure_eq_ok, validateReportState_eq_ok, loadReportState_eq_ok]
  constructor
  · rintro ⟨⟨_, ⟨hfile, rfl⟩, -⟩, _, ⟨hpayload, rfl⟩, hsize, hr⟩
    exact ⟨hfile, hpayload, hsize, hr⟩
  · rintro ⟨hfile, hpayload, hsize, hr⟩
    exact ⟨⟨_, ⟨hfile, rfl⟩, rfl⟩, _, ⟨hpayload, rfl⟩, hsize, hr⟩

end Reports
end CryoDaq
