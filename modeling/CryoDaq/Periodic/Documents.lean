import CryoDaq.Periodic.Records
import CryoDaq.Python.Raising

/-!
# Valid periodic states

`validateDocument` makes the checks of `_validate_document` in their order.  A
`PeriodicStateDocument` is a payload that passes them; the keys and the types
of the payload are part of its Lean type.
-/

namespace CryoDaq
namespace Periodic

def require (p : Prop) [Decidable p] (text : String) : Checked Unit :=
  if p then .ok () else .error ⟨text⟩

section Checks

variable {α : Type} {p : Prop} [Decidable p] {text : String}

@[simp] theorem require_eq_ok {u : Unit} : require p text = .ok u ↔ p :=
  ensure_eq_ok

@[simp] theorem raised_eq_ok {x : Checked α} {a : α} : raised x = .ok a ↔ x = .ok a := by
  cases x with
  | error e =>
      constructor <;> intro h <;> cases h
  | ok b =>
      change Except.ok b = .ok a ↔ Except.ok b = .ok a
      rw [Except.ok.injEq, Except.ok.injEq]

def validateEach (check : α → Checked Unit) : List α → Checked Unit
  | [] => .ok ()
  | a :: rest => do
      check a
      validateEach check rest

/-- An item that may be missing. -/
def validateOptional (check : α → Checked Unit) :
    Option α → Checked Unit
  | none => .ok ()
  | some a => check a

@[simp] theorem validateEach_eq_ok {check : α → Checked Unit} {u : Unit} :
    ∀ items : List α, validateEach check items = .ok u ↔ ∀ a ∈ items, check a = .ok ()
  | [] => by simp [validateEach]
  | a :: rest => by simp [validateEach, validateEach_eq_ok rest]

@[simp] theorem validateOptional_eq_ok {check : α → Checked Unit} {u : Unit} :
    ∀ {item : Option α}, validateOptional check item = .ok u ↔ ∀ a, item = some a → check a = .ok ()
  | none => by simp [validateOptional]
  | some a => by simp [validateOptional]

end Checks

variable (L : Library)

def validatedHash (value field : String) : Checked String := do
  require (hashText value = true) s!"{field} is invalid"
  return value

def validatedToken (value field : String) : Checked String := do
  require (tokenText value = true) s!"{field} is invalid"
  return value

def validatedDisplayTime (value : String) : Checked String := do
  require (displayShape value.toList = true) "display_time must use DD.MM.YYYY HH:MM"
  require (calendarTime value.toList = true) "display_time is not a valid calendar time"
  return value

/-- `_validated_code` of a text -/
def validatedCode (value : String) : Checked String := do
  require (codeText value = true) "periodic error code is invalid"
  return value

/-- `_validated_code` where no code is required -/
def validatedOptionalCode : Option String → Checked (Option String)
  | none => .ok none
  | some value => do
      let code ← validatedCode value
      return some code

def validatedText (value : String) : Checked String := do
  require (value.utf8ByteSize ≤ 2048) "periodic error text is invalid or oversized"
  require (L.sensitive value = false) "sensitive text is not permitted in periodic state"
  return value

def validatedCaption (value : String) : Checked String := do
  require (value.length ≤ 1024 ∧ value.utf8ByteSize ≤ 4096)
    "periodic caption exceeds delivery bounds"
  require (L.sensitive value = false) "sensitive text is not permitted in periodic caption"
  return value

/-- `_exact_int` with both bounds -/
def exactInt (value : ℤ) (field : String) (minimum maximum : ℤ) : Checked Unit :=
  require (minimum ≤ value ∧ value ≤ maximum) s!"{field} is outside its range"

def finiteTime (value : ℤ) (field : String) : Checked ℤ := do
  require (0 ≤ value) s!"{field} must be a finite nonnegative timestamp"
  return value

def requirePhaseCertainty (phase : FailurePhase) (certainty : Certainty) :
    Checked Unit := do
  require (certainty ≠ .unknown) "ambiguous delivery must use DELIVERY_UNKNOWN"
  if phase = .delivery then
    require (certainty = .notSent ∨ certainty = .rejected)
      "delivery failure has an invalid certainty"
  else
    require (certainty = .notApplicable) "non-delivery failure has an invalid certainty"

def requireSlotIdentity (slotId : String) (slotEnd : ℤ) : Checked Unit :=
  require (slotId = L.slotId slotEnd) "periodic slot identity does not match its end"

def healthPayload (status : String) (code : Option String) (text : String) (now : ℤ) :
    Checked Health := do
  require (healthText status = true) "periodic health status is invalid"
  let errorCode ← validatedOptionalCode code
  let errorText ← validatedText L text
  let updatedAt ← finiteTime now "health updated_at"
  return { status, errorCode, errorText, updatedAt }

def validateArtifact (artifact : PeriodicArtifact) (generationId : String) :
    Checked PeriodicArtifact := do
  require (artifact.path = "periodic/generations/" ++ generationId ++ "/periodic.png")
    "periodic artifact path is not authoritative"
  let _ ← validatedHash artifact.sha256 "artifact sha256"
  exactInt artifact.size "artifact size" 33 10485760
  exactInt artifact.width "artifact width" 100 10000
  exactInt artifact.height "artifact height" 100 10000
  require (artifact.width + artifact.height ≤ 10000 ∧ artifact.width * artifact.height ≤ 50000000)
    "periodic artifact dimensions exceed delivery bounds"
  require (artifact.mime = "image/png") "periodic artifact MIME type is invalid"
  return artifact

namespace Active

def attempts (a : Active) (phase : FailurePhase) : ℤ :=
  if phase = .render then a.renderAttemptCount else a.deliveryAttemptCount

def attemptLimit (a : Active) (phase : FailurePhase) : ℤ :=
  if phase = .render then a.maxRenderAttempts else a.maxDeliveryAttempts

def needsArtifact (a : Active) : Bool :=
  a.status ∈ [.ready, .delivering, .succeeded, .deliveryUnknown] ||
    (a.status = .failed && a.failurePhase = some .delivery)

/-- The fields of a failure that stand empty. -/
def Unfailed (a : Active) : Prop :=
  a.failurePhase = none ∧ a.retryable = none ∧ a.certainty = none ∧ a.errorCode = none ∧
    a.errorText = ""

instance (a : Active) : Decidable a.Unfailed :=
  inferInstanceAs (Decidable (_ ∧ _ ∧ _ ∧ _ ∧ _))

end Active

def validateRetryable (a : Active) (phase : FailurePhase) : Checked Unit := do
  require (phase = .render ∨ phase = .delivery)
    "only render or delivery failures may be retryable"
  require (a.attempts phase < a.attemptLimit phase)
    "retryable FAILED state has exhausted attempts"

/-- The evidence of a FAILED slot. -/
def validateFailure (a : Active) : Checked Unit :=
  match a.failurePhase, a.retryable, a.certainty, a.errorCode with
  | some phase, some retryable, some certainty, some _ => do
      requirePhaseCertainty phase certainty
      if retryable then
        require (a.finishedAt = none) "retryable FAILED state cannot be terminal"
        validateRetryable a phase
      else
        require (a.finishedAt ≠ none) "terminal FAILED state lacks finished_at"
  | _, _, _, _ => .error ⟨"FAILED state lacks exact failure evidence"⟩

/-- The evidence that goes with the status of a slot. -/
def validateEvidence (a : Active) : Checked Unit :=
  if a.status = .failed then validateFailure a
  else if a.status = .deliveryUnknown then
    require (a.failurePhase = some .delivery ∧ a.retryable = some false ∧
        a.certainty = some .unknown ∧ a.errorCode ≠ none ∧ a.finishedAt ≠ none)
      "DELIVERY_UNKNOWN lacks exact ambiguity evidence"
  else require a.Unfailed "non-failure state contains failure evidence"

/-- The attempts that go with the status of a slot. -/
def validateAttempts (a : Active) : Checked Unit := do
  require (a.status ∈ [.rendering, .ready, .delivering, .succeeded, .deliveryUnknown] →
      1 ≤ a.renderAttemptCount)
    "active status lacks render-attempt evidence"
  require (a.status ∈ [.delivering, .succeeded, .deliveryUnknown] → 1 ≤ a.deliveryAttemptCount)
    "active status lacks delivery-attempt evidence"
  require (a.status = .failed ∧ a.failurePhase = some .delivery → 1 ≤ a.deliveryAttemptCount)
    "delivery failure lacks attempt evidence"
  require (a.status = .failed ∧ a.failurePhase = some .render → 1 ≤ a.renderAttemptCount)
    "render failure lacks attempt evidence"
  require (a.status = .failed ∧ a.failurePhase = some .render → a.artifact = none ∧ a.caption = "")
    "render failure contains artifact evidence"

def validateActiveSlot (a : Active) (highWater : Option ℤ) : Checked Unit := do
  let _ ← validatedHash a.slotId "slot_id"
  require (1 ≤ a.intervalS) "interval_s is outside its range"
  require (a.slotStart < a.slotEnd ∧ a.slotEnd - a.slotStart = a.intervalS)
    "active slot interval is inconsistent"
  require (a.slotEnd % a.intervalS = 0) "active slot is not UTC epoch aligned"
  require (a.slotId = L.slotId a.slotEnd) "active slot identity is inconsistent"
  require (a.windowEnd = a.slotEnd ∧ a.windowStart < a.windowEnd)
    "active chart window is inconsistent"
  let _ ← validatedDisplayTime a.displayTime
  require (highWater.any (a.slotEnd ≤ ·) = true) "active slot exceeds periodic high water"

/-- The order of the timestamps of a slot. -/
def validateActiveTimes (a : Active) : Checked Unit := do
  let _ ← finiteTime a.createdAt "created_at"
  let _ ← finiteTime a.updatedAt "updated_at"
  validateOptional (fun finished => do
    let _ ← finiteTime finished "finished_at") a.finishedAt
  require (a.createdAt ≤ a.updatedAt ∧ a.finishedAt.all (a.updatedAt ≤ ·) = true)
    "active timestamps are inconsistent"

def validateActive (a : Active) (highWater : Option ℤ) : Checked Unit := do
  validateActiveSlot L a highWater
  let _ ← validatedHash a.configFingerprint "config_fingerprint"
  let _ ← validatedHash a.destinationFingerprint "destination_fingerprint"
  let _ ← validatedToken a.generationId "generation_id"
  let _ ← validatedToken a.ownerToken "owner_token"
  exactInt a.renderAttemptCount "render_attempt_count" 0 10
  exactInt a.deliveryAttemptCount "delivery_attempt_count" 0 10
  exactInt a.maxRenderAttempts "max_render_attempts" 1 10
  exactInt a.maxDeliveryAttempts "max_delivery_attempts" 1 10
  require (a.renderAttemptCount ≤ a.maxRenderAttempts ∧
      a.deliveryAttemptCount ≤ a.maxDeliveryAttempts)
    "periodic attempt count exceeds its limit"
  let _ ← finiteTime a.notBefore "not_before"
  validateOptional (fun artifact => do
    let _ ← validateArtifact artifact a.generationId) a.artifact
  let _ ← validatedCaption L a.caption
  let _ ← validatedOptionalCode a.errorCode
  let _ ← validatedText L a.errorText
  validateActiveTimes a
  require (a.needsArtifact = true → a.artifact ≠ none)
    "active status requires a verified artifact"
  require (a.status ∈ [.pending, .rendering] → a.artifact = none ∧ a.caption = "")
    "pre-render state contains artifact evidence"
  require (a.status = .succeeded → a.receipt ≠ none ∧ a.finishedAt ≠ none)
    "SUCCEEDED state lacks terminal evidence"
  require (a.status ≠ .succeeded → a.receipt = none)
    "only SUCCEEDED may contain a delivery receipt"
  validateEvidence a
  require (a.status ∉ [.succeeded, .failed, .deliveryUnknown] → a.finishedAt = none)
    "nonterminal state contains finished_at"
  validateAttempts a

/-! ## The rest of the payload -/

def validateTerminalEvidence (t : Terminal) : Checked Unit := do
  require (t.status = .succeeded → t.receipt ≠ none ∧ t.artifactSha256 ≠ none ∧
      t.failurePhase = none ∧ t.certainty = none ∧ t.errorCode = none ∧ t.errorText = "")
    "SUCCEEDED terminal summary is inconsistent"
  require (t.status ≠ .succeeded → t.receipt = none)
    "failed terminal summary contains delivery receipt"
  if t.status = .failed then
    match t.failurePhase, t.certainty, t.errorCode with
    | some phase, some certainty, some _ => requirePhaseCertainty phase certainty
    | _, _, _ => .error ⟨"FAILED terminal summary lacks failure evidence"⟩
  require (t.status = .deliveryUnknown → t.failurePhase = some .delivery ∧
      t.certainty = some .unknown ∧ t.errorCode ≠ none ∧ t.artifactSha256 ≠ none)
    "unknown terminal summary lacks ambiguity evidence"

def validateTerminal (t : Terminal) (highWater : Option ℤ) : Checked Unit := do
  let _ ← validatedHash t.slotId "terminal slot_id"
  requireSlotIdentity L t.slotId t.slotEnd
  require (highWater.any (t.slotEnd ≤ ·) = true) "last terminal summary exceeds high water"
  let _ ← validatedToken t.generationId "terminal generation_id"
  require (t.status ∈ [.succeeded, .deliveryUnknown, .failed]) "last terminal status is invalid"
  let _ ← validatedHash t.destinationFingerprint "terminal destination fingerprint"
  validateOptional (fun hash => do
    let _ ← validatedHash hash "terminal artifact hash") t.artifactSha256
  let _ ← validatedOptionalCode t.errorCode
  let _ ← validatedText L t.errorText
  let _ ← finiteTime t.finishedAt "finished_at"
  validateTerminalEvidence t

def validateUnknown (u : Unresolved) (highWater : Option ℤ) : Checked Unit := do
  let _ ← validatedHash u.slotId "unresolved slot_id"
  requireSlotIdentity L u.slotId u.slotEnd
  require (highWater.any (u.slotEnd ≤ ·) = true) "unresolved entry exceeds high water"
  let _ ← validatedToken u.generationId "unresolved generation_id"
  let _ ← validatedHash u.destinationFingerprint "unresolved destination fingerprint"
  let _ ← validatedHash u.artifactSha256 "unresolved artifact hash"
  let _ ← finiteTime u.ambiguityAt "ambiguity_at"
  let _ ← validatedCode u.errorCode
  let _ ← validatedText L u.errorText

def evidenceForSlot (ledger : List Unresolved) (slotId : String) : Option Unresolved :=
  ledger.find? fun u => u.slotId = slotId

/-- The evidence that an active slot stands for. -/
def Active.evidence (a : Active) : Option Unresolved := do
  let artifact ← a.artifact
  let ambiguityAt ← a.finishedAt
  let errorCode ← a.errorCode
  return {
    slotId := a.slotId, slotEnd := a.slotEnd, generationId := a.generationId,
    destinationFingerprint := a.destinationFingerprint, artifactSha256 := artifact.sha256,
    ambiguityAt, errorCode, errorText := a.errorText }

def Terminal.evidence (t : Terminal) : Option Unresolved := do
  let artifactSha256 ← t.artifactSha256
  let errorCode ← t.errorCode
  return {
    slotId := t.slotId, slotEnd := t.slotEnd, generationId := t.generationId,
    destinationFingerprint := t.destinationFingerprint, artifactSha256,
    ambiguityAt := t.finishedAt, errorCode, errorText := t.errorText }

/-- The ledger holds exactly the evidence that an unknown outcome stands for. -/
def validateEvidenced (ledger : List Unresolved) (slotId : String) (expected : Option Unresolved)
    (lacks differs : String) : Checked Unit := do
  require (evidenceForSlot ledger slotId ≠ none) lacks
  require (evidenceForSlot ledger slotId = expected) differs

def maxUnresolvedDeliveries : ℕ := 16

/-- No part of the payload is younger than the payload. -/
def validateDocumentTimes (p : Payload) : Checked Unit := do
  let _ ← finiteTime p.updatedAt "updated_at"
  require (p.health.updatedAt ≤ p.updatedAt) "health timestamp exceeds state timestamp"
  require (p.active.all (·.updatedAt ≤ p.updatedAt) = true)
    "active timestamp exceeds state timestamp"
  require (p.lastTerminal.all (·.finishedAt ≤ p.updatedAt) = true)
    "terminal timestamp exceeds state timestamp"
  require (p.unresolvedDelivery.all (·.ambiguityAt ≤ p.updatedAt) = true)
    "unresolved evidence timestamp exceeds state timestamp"

/-- The ledger against the slot of the payload. -/
def validateAmbiguity (p : Payload) : Checked Unit := do
  validateOptional (fun a => if a.status = .deliveryUnknown then
      validateEvidenced p.unresolvedDelivery a.slotId a.evidence
        "unknown active state lacks durable evidence"
        "unknown active state does not match durable evidence"
    else .ok ()) p.active
  validateOptional (fun t => if t.status = .deliveryUnknown then
      validateEvidenced p.unresolvedDelivery t.slotId t.evidence
        "unknown terminal summary lacks durable evidence"
        "unknown terminal summary does not match durable evidence"
    else .ok ()) p.lastTerminal
  validateOptional (fun a => if a.status = .delivering then do
      require (p.unresolvedDelivery.length < maxUnresolvedDeliveries)
        "DELIVERING state lacks ambiguity capacity"
      require (a.slotId ∉ p.unresolvedDelivery.map (·.slotId))
        "DELIVERING state already has ambiguity evidence"
    else .ok ()) p.active

def validateDocument (p : Payload) : Checked Unit := do
  require (p.highWaterSlotEnd.all (0 ≤ ·) = true) "invalid periodic high water"
  validateOptional (validateActive L · p.highWaterSlotEnd) p.active
  validateOptional (validateTerminal L · p.highWaterSlotEnd) p.lastTerminal
  require (p.unresolvedDelivery.length ≤ maxUnresolvedDeliveries)
    "invalid unresolved delivery ledger"
  validateEach (validateUnknown L · p.highWaterSlotEnd) p.unresolvedDelivery
  require (p.unresolvedDelivery.map (·.slotId)).Nodup
    "unresolved delivery ledger contains duplicate slots"
  let _ ← healthPayload L p.health.status p.health.errorCode p.health.errorText p.health.updatedAt
  validateDocumentTimes p
  validateAmbiguity p
  require (L.encodedSize p ≤ 131072) "periodic state exceeds 128 KiB"

structure PeriodicStateDocument where
  payload : Payload
  valid : validateDocument L payload = .ok ()

end Periodic
end CryoDaq
