import CryoDaq.Reports.RetryState
import Mathlib.Tactic.Linarith
import Mathlib.Tactic.Positivity

/-!
# Retries of an automatic report

A render that failed is tried again after a delay that doubles with every
attempt, up to a cap, and is spread by a random jitter.

**One retry.**  `recordFailureBackoff` writes the delay into the report state.
The cap is applied to the delay before the jitter, and the check of the state
bounds what comes out of it, so the two agree for some settings only.

**Poisoned.**  What the writer raises is taken for a broken contract by its
caller, which then records a permanent failure: `handleProcessError`.

**In range.**  `BackoffInRange` is what the readings of the clock, the random
number and the state must be for the retry to be written: `backoff_safe_iff`.
-/

namespace CryoDaq
namespace Reports

variable {κ : Type}

/-- `ReportCoordinatorConfig`, as far as retries read it. -/
structure ReportCoordinatorConfig where
  maxAttempts : ℤ
  baseBackoffS : ℚ
  maxBackoffS : ℚ
  jitterFraction : ℚ
  maxAttempts_range : 1 ≤ maxAttempts ∧ maxAttempts ≤ 20
  baseBackoffS_range : 1 ≤ baseBackoffS ∧ baseBackoffS ≤ 3600
  maxBackoffS_range : baseBackoffS ≤ maxBackoffS ∧ maxBackoffS ≤ 86400
  jitterFraction_range : 0 ≤ jitterFraction ∧ jitterFraction ≤ 1

/-- What one call of `_record_failure_backoff` meets. -/
structure BackoffCall where
  /-- The name of the directory of the experiment. -/
  name : String
  /-- The lock of the experiment was acquired. -/
  locked : Bool
  /-- `self._random()` -/
  random : ℚ
  /-- The reading of the clock by the check of the state that was loaded. -/
  loaded : ℚ
  /-- The reading that becomes `finished_at`. -/
  finished : ℚ
  /-- The reading that the delay is added to. -/
  now : ℚ
  /-- The reading by the check of the fence. -/
  reloaded : ℚ
  /-- The reading by the check of the state that is written. -/
  written : ℚ
  /-- The roots of a batch have valid names. -/
  name_valid : validateExperimentId name = .ok name
  random_range : 0 ≤ random ∧ random < 1

/-- `min(max_backoff_s, base_backoff_s * 2 ** (attempt - 1))` -/
def backoffDelay (cfg : ReportCoordinatorConfig) (attempt : ℤ) : ℚ :=
  min cfg.maxBackoffS (cfg.baseBackoffS * 2 ^ (attempt - 1).toNat)

/-- `1 + jitter_fraction * (2 * random - 1)` -/
def jitter (cfg : ReportCoordinatorConfig) (random : ℚ) : ℚ :=
  1 + cfg.jitterFraction * (2 * random - 1)

/-- A pending state has failed its first attempt. -/
def failPending (finished : ℚ) (s : ReportState κ) : ReportState κ :=
  if s.status = .pending then
    { s with attemptCount := 1, status := .failed, finishedAt := some finished }
  else s

/-- `text or default` -/
def orDefault (default : String) : Option String → String
  | none => default
  | some s => if s = "" then default else s

/-- `text[:2_048]` -/
def clip (text : String) : String := String.ofList (text.toList.take 2048)

/-- The fields of a failed state that a retry replaces. -/
def withBackoff (cfg : ReportCoordinatorConfig) (call : BackoffCall) (errorText : String)
    (s : ReportState κ) : ReportState κ :=
  { s with
    maxAttempts := cfg.maxAttempts
    notBefore := call.now +
      max 0 (backoffDelay cfg (max 1 s.attemptCount) * jitter cfg call.random)
    updatedAt := call.now
    errorCode := some (orDefault "automatic_render_failed" s.errorCode)
    errorText := some (clip (orDefault errorText s.errorText)) }

/-- The rest of `_record_failure_backoff`, of a state with the current fingerprint. -/
def backoffLoaded (size : ReportState κ → ℕ) (cfg : ReportCoordinatorConfig)
    (call : BackoffCall) (errorText : String) (file : ReportStateFile κ) (s : ReportState κ) :
    Except ReportError (ReportStateFile κ) :=
  if s.status = .running then .ok file
  else if (failPending call.finished s).status ≠ .failed then .ok file
  else
    writeReportState size call.reloaded call.written (some file)
      (withBackoff cfg call errorText (failPending call.finished s))
      (some ⟨s.ownerToken, s.generationId, s.status⟩)

def recordFailureBackoff (size : ReportState κ → ℕ) (cfg : ReportCoordinatorConfig)
    (call : BackoffCall) (fingerprint errorText : String) (file : Option (ReportStateFile κ)) :
    Except ReportError (Option (ReportStateFile κ)) := do
  let _ ← validateExperimentId call.name
  if call.locked = false then pure file
  else do
    let loaded ← loadReportState call.loaded file
    match file, loaded with
    | some file, some s =>
        if s.sourceFingerprint ≠ fingerprint then pure (some file)
        else do
          let written ← backoffLoaded size cfg call errorText file s
          pure (some written)
    | _, _ => pure file

/-- What `_record_permanent_contract_failure` meets. -/
structure PermanentCall (κ : Type) where
  /-- The lock of the experiment was acquired. -/
  locked : Bool
  loaded : ℚ
  started : ℚ
  startedCheck : ℚ
  terminalCheck : ℚ
  finished : ℚ
  finishedCheck : ℚ
  written : ℚ
  /-- `secrets.token_hex(16)`, for the owner and for the generation. -/
  ownerToken : String
  generationId : String
  /-- The fingerprint of a failure that came before the source was read. -/
  contractFingerprint : String → String → String
  /-- `{}` -/
  noArtifacts : κ

def newRunningState (experimentId sourceFingerprint generationId ownerToken : String)
    (attemptCount maxAttempts : ℤ) (noArtifacts : κ) (now check : ℚ) :
    Except ReportError (ReportState κ) :=
  validateReportState check
    { experimentId, sourceFingerprint, generationId
      status := .running
      attemptCount, maxAttempts
      notBefore := now
      startedAt := now
      updatedAt := now
      finishedAt := none
      ownerToken
      errorCode := none
      errorText := some ""
      artifacts := noArtifacts }

/-- `terminal_state`, of a run that failed. -/
def terminalState (running : ReportState κ) (ownerToken errorCode errorText : String)
    (noArtifacts : κ) (check now finishedCheck : ℚ) : Except ReportError (ReportState κ) := do
  let current ← validateReportState check running
  ensure (current.ownerToken = ownerToken)
    (.contract "stale owner token cannot update report state")
  validateReportState finishedCheck
    { current with
      status := .failed
      updatedAt := now
      finishedAt := some now
      artifacts := noArtifacts
      errorCode := some errorCode
      errorText := some (clip errorText) }

/-- `f"{type(error).__name__}:{error}"[:2_048]` -/
def describe (message : String) : String := clip ("ReportContractError:" ++ message)

/-- The permanent failure of this source was recorded before. -/
def alreadyPermanent (fingerprint : String) : Option (ReportState κ) → Bool
  | none => false
  | some s =>
      s.status = .failed && s.sourceFingerprint = fingerprint &&
        s.errorCode = some "permanent_contract_failure"

/-- The record of `_record_permanent_contract_failure`. -/
def permanentFailure (size : ReportState κ → ℕ) (cfg : ReportCoordinatorConfig)
    (call : PermanentCall κ) (name message fingerprint : String)
    (file : Option (ReportStateFile κ)) : Except ReportError (ReportStateFile κ) := do
  let running ← newRunningState name fingerprint call.generationId call.ownerToken
    cfg.maxAttempts cfg.maxAttempts call.noArtifacts call.started call.startedCheck
  let failed ← terminalState running call.ownerToken "permanent_contract_failure"
    (describe message) call.noArtifacts call.terminalCheck call.finished call.finishedCheck
  writeReportState size call.written call.written file failed none

/-- `_record_permanent_contract_failure`: what it raises is logged. -/
def recordPermanentContractFailure (size : ReportState κ → ℕ) (cfg : ReportCoordinatorConfig)
    (call : PermanentCall κ) (name message : String) (sourceFingerprint : Option String)
    (file : Option (ReportStateFile κ)) : Option (ReportStateFile κ) :=
  match validateExperimentId name with
  | .error _ => file
  | .ok experimentId =>
      if call.locked = false then file
      else
        match loadReportState call.loaded file with
        | .error _ => file
        | .ok state =>
            let fingerprint := orDefault
              (call.contractFingerprint experimentId (describe message)) sourceFingerprint
            if alreadyPermanent fingerprint state then file
            else
              match permanentFailure size cfg call experimentId message fingerprint file with
              | .ok failed => some failed
              | .error _ => file

/-- The process errors that leave the state as it is. -/
def expectedErrors : List String :=
  ["busy", "poisoned", "backoff", "running", "already_current", "ineligible"]

/-- `str(exc).split(":", 1)[0] in {…}` -/
def expectedError (errorText : String) : Bool :=
  expectedErrors.any fun e => e.toList = errorText.toList.takeWhile (· ≠ ':')

/-- What `_reconcile_experiment` does with a `ReportProcessError` of the render. -/
def handleProcessError (size : ReportState κ → ℕ) (cfg : ReportCoordinatorConfig)
    (call : BackoffCall) (permanent : PermanentCall κ) (fingerprint errorText : String)
    (file : Option (ReportStateFile κ)) : Option (ReportStateFile κ) :=
  if expectedError errorText then file
  else
    match recordFailureBackoff size cfg call fingerprint errorText file with
    | .ok written => written
    | .error (.contract message) =>
        recordPermanentContractFailure size cfg permanent call.name message (some fingerprint)
          file
    | .error .unhashable => file

/-! ## What a retry leaves -/

variable (size : ReportState κ → ℕ) (cfg : ReportCoordinatorConfig) (call : BackoffCall)

/-- What a retry of the state `s` leaves behind. -/
structure Retried (s s' : ReportState κ) : Prop where
  valid : ValidReportState call.loaded s' ∨ ValidReportState call.written s'
  ownerToken : s'.ownerToken = s.ownerToken
  attempt : s'.attemptCount = s.attemptCount ∧ s'.status = s.status ∨
    s.status = .pending ∧ s'.status = .failed ∧ s.attemptCount = 0 ∧ s'.attemptCount = 1
  notBefore : s' = s ∨ s'.notBefore ≤ call.now + cfg.maxBackoffS * (1 + cfg.jitterFraction)

/-- The retry is written or has nothing to write, and the failure of the render is not
recorded as a permanent one. -/
def RetriesSafely (permanent : PermanentCall κ) (fingerprint errorText : String)
    (file : ReportStateFile κ) : Prop :=
  ∃ written, recordFailureBackoff size cfg call fingerprint errorText (some file) =
      .ok (some written) ∧
    Retried cfg call file.state written.state ∧
    (expectedError errorText = false →
      handleProcessError size cfg call permanent fingerprint errorText (some file) =
        some written)

/-- The clock does not go back behind the stamps of the state. -/
def StampsInOrder (s : ReportState κ) : Prop :=
  if s.status = .pending then s.startedAt ≤ call.finished ∧ call.finished ≤ call.now
  else ∀ finished, s.finishedAt = some finished → finished ≤ call.now

structure BackoffInRange (errorText : String) (s : ReportState κ) : Prop where
  attempts : s.attemptCount ≤ cfg.maxAttempts
  stamps : StampsInOrder call s
  reloaded : s.updatedAt ≤ call.reloaded + 300
  written : call.now ≤ call.written + 300
  /-- The delay, after the jitter, is not longer than a day and five minutes. -/
  delay : min cfg.maxBackoffS (cfg.baseBackoffS * 2 ^ (s.attemptCount - 1).toNat) *
    (1 + cfg.jitterFraction * (2 * call.random - 1)) ≤ 86400 + 300
  /-- The text with the new fields is short enough. -/
  room : size (withBackoff cfg call errorText (failPending call.finished s)) ≤ maxJsonBytes

/-- No retry is due: another process works on the report, or it is done. -/
def NoRetryDue (s : ReportState κ) : Prop :=
  call.locked = false ∨ s.status = .running ∨ s.status = .succeeded

section
variable {cfg call}

theorem jitter_nonneg : 0 ≤ jitter cfg call.random := by
  have hfraction := cfg.jitterFraction_range
  have hrandom := call.random_range
  have hspread : 0 ≤ cfg.jitterFraction * (2 * call.random) :=
    mul_nonneg hfraction.1 (by linarith only [hrandom.1])
  unfold jitter
  linarith only [hspread, hfraction.2]

theorem jitter_le : jitter cfg call.random ≤ 1 + cfg.jitterFraction := by
  have hfraction := cfg.jitterFraction_range
  have hrandom := call.random_range
  have hspread : cfg.jitterFraction * (2 * call.random - 1) ≤ cfg.jitterFraction * 1 :=
    mul_le_mul_of_nonneg_left (by linarith only [hrandom.2]) hfraction.1
  unfold jitter
  linarith only [hspread]

theorem backoffDelay_nonneg (attempt : ℤ) : 0 ≤ backoffDelay cfg attempt := by
  have hbase := cfg.baseBackoffS_range
  have hcap := cfg.maxBackoffS_range
  refine le_min (by linarith only [hbase.1, hcap.1]) ?_
  exact mul_nonneg (by linarith only [hbase.1]) (by positivity)

theorem max_delay (attempt : ℤ) :
    max 0 (backoffDelay cfg attempt * jitter cfg call.random) =
      backoffDelay cfg attempt * jitter cfg call.random :=
  max_eq_right (mul_nonneg (backoffDelay_nonneg attempt) jitter_nonneg)

theorem delay_le (attempt : ℤ) :
    backoffDelay cfg attempt * jitter cfg call.random ≤
      cfg.maxBackoffS * (1 + cfg.jitterFraction) :=
  mul_le_mul (min_le_left _ _) jitter_le jitter_nonneg
    (le_trans (backoffDelay_nonneg attempt) (min_le_left _ _))

end

/-! ### The state that is written -/

section
variable {size cfg call}

theorem boundedText_clip (text : String) : boundedText (some (clip text)) = true := by
  simp [boundedText, clip]

theorem boundedText_orDefault {default : String} {text : Option String}
    (hdefault : default.length ≤ 2048) (htext : boundedText text = true) :
    boundedText (some (orDefault default text)) = true := by
  cases text with
  | none => exact decide_eq_true hdefault
  | some s =>
      by_cases hempty : s = ""
      · rw [orDefault, if_pos hempty]
        exact decide_eq_true hdefault
      · rw [orDefault, if_neg hempty]
        exact htext

theorem attempt_failPending {now : ℚ} {s : ReportState κ} (h : ValidReportState now s)
    (finished : ℚ) :
    (max 1 (failPending finished s).attemptCount - 1).toNat = (s.attemptCount - 1).toNat := by
  unfold failPending
  by_cases hpending : s.status = .pending
  · rw [if_pos hpending, h.unattempted hpending]
    rfl
  · rw [if_neg hpending, max_eq_right (h.attempted hpending)]

variable (cfg call) in
theorem notBefore_withBackoff {now : ℚ} {s : ReportState κ} (h : ValidReportState now s)
    (errorText : String) :
    (withBackoff cfg call errorText (failPending call.finished s)).notBefore =
      call.now + min cfg.maxBackoffS (cfg.baseBackoffS * 2 ^ (s.attemptCount - 1).toNat) *
        (1 + cfg.jitterFraction * (2 * call.random - 1)) := by
  unfold withBackoff
  dsimp only
  rw [max_delay, backoffDelay, attempt_failPending h, jitter]

theorem failPending_kept (finished : ℚ) (s : ReportState κ) :
    (failPending finished s).experimentId = s.experimentId ∧
      (failPending finished s).sourceFingerprint = s.sourceFingerprint ∧
      (failPending finished s).generationId = s.generationId ∧
      (failPending finished s).ownerToken = s.ownerToken ∧
      (failPending finished s).startedAt = s.startedAt ∧
      (failPending finished s).errorCode = s.errorCode ∧
      (failPending finished s).errorText = s.errorText := by
  unfold failPending
  by_cases hpending : s.status = .pending
  · rw [if_pos hpending]
    exact ⟨rfl, rfl, rfl, rfl, rfl, rfl, rfl⟩
  · rw [if_neg hpending]
    exact ⟨rfl, rfl, rfl, rfl, rfl, rfl, rfl⟩

theorem status_failPending {s : ReportState κ} (hdue : s.status = .pending ∨ s.status = .failed)
    (finished : ℚ) : (failPending finished s).status = .failed := by
  unfold failPending
  by_cases hpending : s.status = .pending
  · rw [if_pos hpending]
  · rw [if_neg hpending]
    exact hdue.resolve_left hpending

variable (cfg call) in
/-- The end of the state that is written lies between its start and the reading of
the clock, if the clock has not gone back. -/
theorem checkFinished_withBackoff {now : ℚ} {s : ReportState κ} (h : ValidReportState now s)
    (hdue : s.status = .pending ∨ s.status = .failed) (errorText : String) :
    (s.startedAt ≤ call.now ∧ call.now ≤ call.written + 300 ∧
        checkFinished call.written
          (withBackoff cfg call errorText (failPending call.finished s)) = .ok ()) ↔
      StampsInOrder call s ∧ call.now ≤ call.written + 300 := by
  have hstatus := status_failPending hdue call.finished
  unfold checkFinished withBackoff
  dsimp only
  rw [hstatus]
  simp only [ReportStatus.open, Bool.false_eq_true, if_false, ensure_eq_ok]
  cases hs : s.status with
  | pending =>
      simp only [failPending, StampsInOrder, hs, if_true, endsInOrder, Bool.and_eq_true,
        decide_eq_true_eq]
      constructor
      · rintro ⟨-, hwritten, ⟨⟨hstart, hend⟩, -⟩⟩
        exact ⟨⟨hstart, hend⟩, hwritten⟩
      · rintro ⟨⟨hstart, hend⟩, hwritten⟩
        exact ⟨le_trans hstart hend, hwritten, ⟨⟨hstart, hend⟩, le_trans hend hwritten⟩⟩
  | failed =>
      obtain ⟨finished, hfinished, hstart, -⟩ := h.finishedAt hs
      simp only [failPending, StampsInOrder, hs, hfinished, reduceCtorEq, if_false, endsInOrder,
        Bool.and_eq_true, decide_eq_true_eq, Option.some.injEq, forall_eq']
      constructor
      · rintro ⟨-, hwritten, ⟨⟨-, hend⟩, -⟩⟩
        exact ⟨hend, hwritten⟩
      · rintro ⟨hend, hwritten⟩
        exact ⟨le_trans hstart hend, hwritten, ⟨⟨hstart, hend⟩, le_trans hend hwritten⟩⟩
  | running =>
      rw [hs] at hdue
      exact absurd hdue (by decide)
  | succeeded =>
      rw [hs] at hdue
      exact absurd hdue (by decide)

/-- What a retry writes is valid exactly when its attempts, its stamps and its delay
are in range. -/
theorem valid_withBackoff_iff {now : ℚ} {s : ReportState κ} (h : ValidReportState now s)
    (hdue : s.status = .pending ∨ s.status = .failed) (errorText : String) :
    ValidReportState call.written
        (withBackoff cfg call errorText (failPending call.finished s)) ↔
      s.attemptCount ≤ cfg.maxAttempts ∧ StampsInOrder call s ∧ call.now ≤ call.written + 300 ∧
        min cfg.maxBackoffS (cfg.baseBackoffS * 2 ^ (s.attemptCount - 1).toNat) *
          (1 + cfg.jitterFraction * (2 * call.random - 1)) ≤ 86400 + 300 := by
  have hstatus := status_failPending hdue call.finished
  have hdelay := notBefore_withBackoff cfg call h errorText
  have hfinished := checkFinished_withBackoff cfg call h hdue errorText
  obtain ⟨hid, hsource, hgeneration, howner, hstarted, hcode, htext⟩ :=
    failPending_kept call.finished s
  constructor
  · intro hv
    have hstart : s.startedAt ≤ call.now := hstarted ▸ hv.inOrder
    have hend := hfinished.mp ⟨hstart, hv.notAhead, hv.finished⟩
    refine ⟨?_, hend.1, hend.2, ?_⟩
    · have hattempts := hv.attemptCount.2
      unfold withBackoff failPending at hattempts
      by_cases hpending : s.status = .pending
      · rw [h.unattempted hpending]
        linarith only [cfg.maxAttempts_range.1]
      · rw [if_neg hpending] at hattempts
        exact hattempts
    · have hbounded := hv.boundedBackoff
      rw [hdelay] at hbounded
      unfold withBackoff at hbounded
      linarith only [hbounded]
  · rintro ⟨hattempts, hstamps, hwritten, hbounded⟩
    obtain ⟨hstart, -, hend⟩ := hfinished.mpr ⟨hstamps, hwritten⟩
    have hnow : 0 ≤ call.now := le_trans h.startedAt hstart
    have hattempt : 1 ≤ (failPending call.finished s).attemptCount ∧
        (failPending call.finished s).attemptCount ≤ cfg.maxAttempts := by
      unfold failPending
      by_cases hpending : s.status = .pending
      · rw [if_pos hpending]
        exact ⟨le_refl 1, cfg.maxAttempts_range.1⟩
      · rw [if_neg hpending]
        exact ⟨h.attempted hpending, hattempts⟩
    exact
      { experimentId := hid ▸ h.experimentId
        generationId := hgeneration ▸ h.generationId
        ownerToken := howner ▸ h.ownerToken
        sourceFingerprint := hsource ▸ h.sourceFingerprint
        maxAttempts := cfg.maxAttempts_range
        attemptCount := ⟨le_trans (by decide) hattempt.1, hattempt.2⟩
        unattempted := fun hpending => absurd (hstatus.symm.trans hpending) (by decide)
        attempted := fun _ => hattempt.1
        notBefore := add_nonneg hnow (le_max_left 0 _)
        startedAt := hstarted ▸ h.startedAt
        updatedAt := hnow
        inOrder := hstarted ▸ hstart
        notAhead := hwritten
        boundedBackoff := by
          rw [hdelay]
          unfold withBackoff
          linarith only [hbounded]
        finished := hend
        errorCode := boundedText_orDefault (by decide) (hcode ▸ h.errorCode)
        errorText := boundedText_clip _ }

end

/-! ## When a retry is safe -/

section
variable {size cfg call}

theorem map_some_eq_ok {x : Except ReportError (ReportStateFile κ)} {a : ReportStateFile κ} :
    x.map some = .ok (some a) ↔ x = .ok a := by
  cases x <;> simp [Except.map]

theorem due_of_not {s : ReportState κ} (h : ¬ NoRetryDue call s) :
    s.status = .pending ∨ s.status = .failed := by
  cases hs : s.status with
  | pending => exact Or.inl rfl
  | running => exact absurd (Or.inr (Or.inl hs)) h
  | succeeded => exact absurd (Or.inr (Or.inr hs)) h
  | failed => exact Or.inr rfl

theorem recordFailureBackoff_eq {file : ReportStateFile κ} (hfile : ReadableFile call.loaded file)
    (errorText : String) :
    recordFailureBackoff size cfg call file.state.sourceFingerprint errorText (some file) =
      if call.locked = false then .ok (some file)
      else (backoffLoaded size cfg call errorText file file.state).map some := by
  unfold recordFailureBackoff
  rw [call.name_valid, hfile.load]
  cases call.locked with
  | false => rfl
  | true =>
      cases hbackoff : backoffLoaded size cfg call errorText file file.state with
      | error e => simp [bind, Except.bind, hbackoff, Except.map]
      | ok written => simp [bind, Except.bind, hbackoff, Except.map, pure, Except.pure]

theorem backoffLoaded_due {file : ReportStateFile κ}
    (hdue : file.state.status = .pending ∨ file.state.status = .failed) (errorText : String) :
    backoffLoaded size cfg call errorText file file.state =
      writeReportState size call.reloaded call.written (some file)
        (withBackoff cfg call errorText (failPending call.finished file.state))
        (some file.state.fence) := by
  have hrunning : file.state.status ≠ .running := by
    intro h
    rw [h] at hdue
    exact absurd hdue (by decide)
  unfold backoffLoaded
  rw [if_neg hrunning, if_neg (not_not_intro (status_failPending hdue call.finished))]
  rfl

theorem backoffLoaded_not_due {file : ReportStateFile κ}
    (h : file.state.status = .running ∨ file.state.status = .succeeded) (errorText : String) :
    backoffLoaded size cfg call errorText file file.state = .ok file := by
  unfold backoffLoaded failPending
  rcases h with h | h
  · rw [if_pos h]
  · simp [h]

theorem backoffLoaded_eq_ok {file written : ReportStateFile κ}
    (hfile : ReadableFile call.loaded file)
    (hdue : file.state.status = .pending ∨ file.state.status = .failed) (errorText : String) :
    backoffLoaded size cfg call errorText file file.state = .ok written ↔
      BackoffInRange size cfg call errorText file.state ∧
        (⟨size (withBackoff cfg call errorText (failPending call.finished file.state)),
          withBackoff cfg call errorText (failPending call.finished file.state)⟩ :
            ReportStateFile κ) = written := by
  rw [backoffLoaded_due hdue, writeReportState_eq_ok,
    valid_withBackoff_iff hfile.state hdue errorText]
  constructor
  · rintro ⟨hreload, ⟨hattempts, hstamps, hwritten, hdelay⟩, hroom, hresult⟩
    exact ⟨⟨hattempts, hstamps, hreload.state.notAhead, hwritten, hdelay, hroom⟩, hresult⟩
  · rintro ⟨h, hresult⟩
    exact ⟨⟨hfile.size, hfile.state.later h.reloaded⟩,
      ⟨h.attempts, h.stamps, h.written, h.delay⟩, h.room, hresult⟩

theorem retried_withBackoff {file : ReportStateFile κ} (hfile : ReadableFile call.loaded file)
    (hdue : file.state.status = .pending ∨ file.state.status = .failed) {errorText : String}
    (h : BackoffInRange size cfg call errorText file.state) :
    Retried cfg call file.state
      (withBackoff cfg call errorText (failPending call.finished file.state)) where
  valid := Or.inr ((valid_withBackoff_iff hfile.state hdue errorText).mpr
    ⟨h.attempts, h.stamps, h.written, h.delay⟩)
  ownerToken := (failPending_kept call.finished file.state).2.2.2.1
  attempt := by
    unfold withBackoff failPending
    by_cases hpending : file.state.status = .pending
    · rw [if_pos hpending]
      exact Or.inr ⟨hpending, rfl, hfile.state.unattempted hpending, rfl⟩
    · rw [if_neg hpending]
      exact Or.inl ⟨rfl, rfl⟩
  notBefore := by
    refine Or.inr ?_
    unfold withBackoff
    dsimp only
    rw [max_delay]
    exact add_le_add_right (delay_le _) call.now

theorem retried_self {file : ReportStateFile κ} (hfile : ReadableFile call.loaded file) :
    Retried cfg call file.state file.state where
  valid := Or.inl hfile.state
  ownerToken := rfl
  attempt := Or.inl ⟨rfl, rfl⟩
  notBefore := Or.inl rfl

theorem handleProcessError_of_ok {permanent : PermanentCall κ} {fingerprint errorText : String}
    {file written : Option (ReportStateFile κ)}
    (h : recordFailureBackoff size cfg call fingerprint errorText file = .ok written)
    (hunexpected : expectedError errorText = false) :
    handleProcessError size cfg call permanent fingerprint errorText file = written := by
  unfold handleProcessError
  rw [hunexpected, h]
  rfl

theorem recordFailureBackoff_eq_ok {file written : ReportStateFile κ}
    (hfile : ReadableFile call.loaded file) (errorText : String) :
    recordFailureBackoff size cfg call file.state.sourceFingerprint errorText (some file) =
        .ok (some written) ↔
      NoRetryDue call file.state ∧ file = written ∨
        ¬ NoRetryDue call file.state ∧ BackoffInRange size cfg call errorText file.state ∧
          (⟨size (withBackoff cfg call errorText (failPending call.finished file.state)),
            withBackoff cfg call errorText (failPending call.finished file.state)⟩ :
              ReportStateFile κ) = written := by
  rw [recordFailureBackoff_eq hfile]
  cases hlocked : call.locked with
  | false => simp [NoRetryDue, hlocked]
  | true =>
      rw [if_neg (by decide), map_some_eq_ok]
      by_cases hdue : NoRetryDue call file.state
      · have hother : file.state.status = .running ∨ file.state.status = .succeeded :=
          hdue.resolve_left fun h => absurd (hlocked.symm.trans h) (by decide)
        rw [backoffLoaded_not_due hother, Except.ok.injEq]
        exact ⟨fun h => Or.inl ⟨hdue, h⟩, fun h => (h.resolve_right fun h => h.1 hdue).2⟩
      · rw [backoffLoaded_eq_ok hfile (due_of_not hdue)]
        exact ⟨fun h => Or.inr ⟨hdue, h⟩, fun h => (h.resolve_left fun h => hdue h.1).2⟩

end

/-- A retry of a readable state is safe exactly when none is due or everything that it
writes is in range. -/
theorem backoff_safe_iff (permanent : PermanentCall κ) (errorText : String)
    (file : ReportStateFile κ) (hfile : ReadableFile call.loaded file) :
    RetriesSafely size cfg call permanent file.state.sourceFingerprint errorText file ↔
      NoRetryDue call file.state ∨ BackoffInRange size cfg call errorText file.state := by
  constructor
  · rintro ⟨written, hwritten, -, -⟩
    rcases (recordFailureBackoff_eq_ok hfile errorText).mp hwritten with h | h
    · exact Or.inl h.1
    · exact Or.inr h.2.1
  · intro h
    by_cases hdue : NoRetryDue call file.state
    · have hcall : recordFailureBackoff size cfg call file.state.sourceFingerprint errorText
          (some file) = .ok (some file) :=
        (recordFailureBackoff_eq_ok hfile errorText).mpr (Or.inl ⟨hdue, rfl⟩)
      exact ⟨file, hcall, retried_self hfile, handleProcessError_of_ok hcall⟩
    · have hrange := h.resolve_left hdue
      have hcall := (recordFailureBackoff_eq_ok hfile errorText).mpr
        (Or.inr ⟨hdue, hrange, rfl⟩)
      exact ⟨_, hcall, retried_withBackoff hfile (due_of_not hdue) hrange,
        handleProcessError_of_ok hcall⟩

/-! ### A poisoned report -/

/-- The longest delays, with the default jitter. -/
def benchConfig : ReportCoordinatorConfig where
  maxAttempts := 20
  baseBackoffS := 3600
  maxBackoffS := 86400
  jitterFraction := 1 / 5
  maxAttempts_range := by decide
  baseBackoffS_range := by norm_num
  maxBackoffS_range := by norm_num
  jitterFraction_range := by norm_num

/-- A call with a clock that stands still. -/
def benchCall : BackoffCall where
  name := "run-1"
  locked := true
  random := 9 / 10
  loaded := 1000000
  finished := 1000000
  now := 1000000
  reloaded := 1000000
  written := 1000000
  name_valid := by decide
  random_range := by norm_num

/-- The tokens and readings of a permanent failure. -/
def benchPermanent : PermanentCall Unit where
  locked := true
  loaded := 1000000
  started := 1000000
  startedCheck := 1000000
  terminalCheck := 1000000
  finished := 1000000
  finishedCheck := 1000000
  written := 1000000
  ownerToken := "0123456789abcdef0123456789abcdef"
  generationId := "fedcba9876543210fedcba9876543210"
  contractFingerprint := fun _ text => text
  noArtifacts := ()

def benchFingerprint : String :=
  "sha256:0123456789abcdef0123456789abcdef0123456789abcdef0123456789abcdef"

theorem benchFingerprint_matches : matchesFingerprint benchFingerprint = true := by decide

/-- A report that failed `attempt` times. -/
def benchFile (attempt : ℤ) : ReportStateFile Unit where
  size := 700
  state :=
    { experimentId := "run-1"
      sourceFingerprint := benchFingerprint
      generationId := "generation-token-0001"
      status := .failed
      attemptCount := attempt
      maxAttempts := 20
      notBefore := 900000
      startedAt := 900000
      updatedAt := 900000
      finishedAt := some 900000
      ownerToken := "owner-token-000000001"
      errorCode := some "render_failed"
      errorText := some "boom"
      artifacts := () }

theorem benchFile_readable {attempt : ℤ} (h : 1 ≤ attempt ∧ attempt ≤ 20) :
    ReadableFile benchCall.loaded (benchFile attempt) where
  size := Nat.le_of_ble_eq_true rfl
  state :=
    { experimentId := ⟨"run-1", benchCall.name_valid⟩
      generationId := (by decide : matchesGeneration "generation-token-0001" = true)
      ownerToken := (by decide : matchesGeneration "owner-token-000000001" = true)
      sourceFingerprint := benchFingerprint_matches
      maxAttempts := ⟨by norm_num [benchFile], by norm_num [benchFile]⟩
      attemptCount := ⟨le_trans (by decide) h.1, h.2⟩
      unattempted := by
        intro h
        cases h
      attempted := fun _ => h.1
      notBefore := by norm_num [benchFile]
      startedAt := by norm_num [benchFile]
      updatedAt := by norm_num [benchFile]
      inOrder := le_refl _
      notAhead := by norm_num [benchFile, benchCall]
      boundedBackoff := by norm_num [benchFile]
      finished := by norm_num [benchFile, benchCall, checkFinished, endsInOrder, ReportStatus.open]
      errorCode := rfl
      errorText := rfl }

/-- Early retries are short and safe. -/
theorem backoff_safe_first :
    RetriesSafely (fun _ => 700) benchConfig benchCall benchPermanent
      (benchFile 1).state.sourceFingerprint "render failed" (benchFile 1) :=
  (backoff_safe_iff (fun _ => 700) benchConfig benchCall benchPermanent "render failed"
    (benchFile 1) (benchFile_readable (by decide))).mpr
    (Or.inr
      { attempts := by decide
        stamps := by norm_num [StampsInOrder, benchFile, benchCall]
        reloaded := by norm_num [benchFile, benchCall]
        written := by norm_num [benchCall]
        delay := by norm_num [benchFile, benchCall, benchConfig]
        room := by decide })

/-- At the cap the jitter takes the delay past what the check of the state allows: the
writer raises, and the report is recorded as permanently failed. -/
theorem retry_poisons_report :
    ReadableFile benchCall.loaded (benchFile 6) ∧
      ¬ RetriesSafely (fun _ => 700) benchConfig benchCall benchPermanent
        (benchFile 6).state.sourceFingerprint "render failed" (benchFile 6) ∧
      (handleProcessError (fun _ => 700) benchConfig benchCall benchPermanent
          (benchFile 6).state.sourceFingerprint "render failed" (some (benchFile 6))).map
        (fun file => file.state.errorCode) = some (some "permanent_contract_failure") := by
  have hraises : recordFailureBackoff (fun _ => 700) benchConfig benchCall
      (benchFile 6).state.sourceFingerprint "render failed" (some (benchFile 6)) =
        .error (.contract "report state not_before exceeds bounded backoff") := by
    decide +kernel
  refine ⟨benchFile_readable (by decide), ?_, ?_⟩
  · rintro ⟨written, hwritten, -, -⟩
    rw [hraises] at hwritten
    cases hwritten
  · rw [handleProcessError, if_neg (by decide +kernel), hraises]
    decide +kernel

end Reports
end CryoDaq
