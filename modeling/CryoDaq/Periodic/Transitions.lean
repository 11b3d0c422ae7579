import CryoDaq.Periodic.Documents

/-!
# Transition helpers

The functions that take a periodic state to its successor.  Each of them copies
the payload, checks the fence and the time, writes the fields and validates the
result.
-/

namespace CryoDaq
namespace Periodic

variable {L : Library}

/-- `PeriodicStateDocument(payload)` -/
def stateDocument (L : Library) (p : Payload) :
    Checked (PeriodicStateDocument L) :=
  match h : validateDocument L p with
  | .ok () => .ok ⟨p, h⟩
  | .error e => .error e

def transitionTime (p : Payload) (now : ℤ) : Checked ℤ := do
  let result ← finiteTime now "now"
  require (p.updatedAt ≤ result) "transition time precedes durable state"
  return result

/-- The active slot and the time of a transition. -/
structure Context where
  active : Active
  timestamp : ℤ

def transitionContext (s : PeriodicStateDocument L) (slotId ownerToken : String) (now : ℤ)
    (allowed : List PeriodicStatus) : Checked Context := do
  let timestamp ← transitionTime s.payload now
  match s.payload.active with
  | none => .error ⟨"there is no active periodic slot"⟩
  | some active => do
      let slot ← validatedHash slotId "slot_id"
      require (active.slotId = slot) "periodic slot fence does not match"
      let owner ← validatedToken ownerToken "owner_token"
      require (active.ownerToken = owner) "periodic owner fence does not match"
      require (active.status ∈ allowed) "periodic transition is not allowed from this status"
      require (active.updatedAt ≤ timestamp) "transition time precedes active state"
      return { active, timestamp }

/-- A slot at the time of its last change. -/
def Active.touched (a : Active) (now : ℤ) : Active := { a with updatedAt := now }

def Payload.touch (p : Payload) (active : Active) (now : ℤ) : Payload :=
  { p with active := some (active.touched now), updatedAt := now }

@[simp] theorem Payload.touch_active (p : Payload) (a : Active) (now : ℤ) :
    (p.touch a now).active = some (a.touched now) := rfl

@[simp] theorem Payload.touch_updatedAt (p : Payload) (a : Active) (now : ℤ) :
    (p.touch a now).updatedAt = now := rfl

def Active.clearFailure (a : Active) : Active :=
  { a with
    failurePhase := none
    retryable := none
    certainty := none
    errorCode := none
    errorText := ""
    finishedAt := none }

def Active.isTerminal (a : Active) : Bool :=
  a.status ∈ [.succeeded, .deliveryUnknown] || (a.status = .failed && a.retryable = some false)

/-- `_terminal_summary`; a terminal slot has a time of its end. -/
def Active.terminalSummary (a : Active) : Terminal :=
  { slotId := a.slotId
    slotEnd := a.slotEnd
    generationId := a.generationId
    status := a.status
    destinationFingerprint := a.destinationFingerprint
    artifactSha256 := a.artifact.map (·.sha256)
    receipt := a.receipt
    failurePhase := a.failurePhase
    certainty := a.certainty
    errorCode := a.errorCode
    errorText := a.errorText
    finishedAt := a.finishedAt.getD 0 }

/-- `math.floor` of a finite float -/
def floorFloat (x : Float) : ℤ :=
  match x.toModel.unpack with
  | .finite sign m e _ =>
      if 0 ≤ e then sign.apply (m * 2 ^ e.toNat)
      else (sign.apply m : ℤ).fdiv (2 ^ (-e).toNat)
  | _ => 0

/-- `float(n)` of an integer -/
def floatOfInt (n : ℤ) : Except PeriodicError Float :=
  match (Number.int n).toFloat with
  | .ok x => .ok x
  | .error _ => .error .overflowError

def latestCompletedSlot (L : Library) (now : Float) (intervalS : ℤ) :
    Except PeriodicError PeriodicSlot := do
  raised (require (now.isFinite = true ∧ ¬ now < 0.0)
    "now_epoch must be a finite nonnegative timestamp")
  raised (require (0 < intervalS) "interval_s must be a positive integer")
  let interval ← floatOfInt intervalS
  let slotEnd := floorFloat (now / interval) * intervalS
  return { slotId := L.slotId slotEnd, slotStart := slotEnd - intervalS, slotEnd, intervalS }

def validateSlot (L : Library) (slot : PeriodicSlot) : Except PeriodicError Unit := do
  let _ ← raised (validatedHash slot.slotId "slot_id")
  raised (require (slot.slotEnd - slot.slotStart = slot.intervalS ∧ 0 < slot.intervalS)
    "slot interval is inconsistent")
  let slotEnd ← floatOfInt slot.slotEnd
  let expected ← latestCompletedSlot L slotEnd slot.intervalS
  raised (require (expected = slot) "slot is not UTC epoch aligned")

/-- `periodic_telegram_destination_fingerprint` -/
def telegramDestinationFingerprint (L : Library) (chatId : ChatId) : String :=
  let chat : Json := match chatId with
    | .number n => .int n
    | .text s => .str s
  let canonical := Json.dumps false
    (.obj [("schema", .str "periodic-png-destination/v1"), ("chat_id", chat)])
  "sha256:" ++ L.sha256 (String.ofList (canonical.getD []))

def freshActive (slot : PeriodicSlot) (config : PeriodicPngConfig)
    (generationId ownerToken displayTime destination : String)
    (renderCount deliveryCount timestamp createdAt : ℤ) : Active :=
  { slotId := slot.slotId
    slotStart := slot.slotStart
    slotEnd := slot.slotEnd
    intervalS := slot.intervalS
    windowStart := slot.slotEnd - config.chartWindowS
    windowEnd := slot.slotEnd
    displayTime
    configFingerprint := config.configFingerprint
    destinationFingerprint := destination
    generationId
    ownerToken
    status := .pending
    renderAttemptCount := renderCount
    deliveryAttemptCount := deliveryCount
    maxRenderAttempts := config.maxRenderAttempts
    maxDeliveryAttempts := config.maxDeliveryAttempts
    notBefore := timestamp
    artifact := none
    caption := ""
    receipt := none
    failurePhase := none
    retryable := none
    certainty := none
    errorCode := none
    errorText := ""
    createdAt
    updatedAt := timestamp
    finishedAt := none }

def allocatedDestination (L : Library) (config : PeriodicPngConfig) :
    Option String → Checked String
  | none => .ok (telegramDestinationFingerprint L config.telegramChatId)
  | some fingerprint => validatedHash fingerprint "destination_fingerprint"

/-- `allocate_pending` after its checks of the slot: a further render attempt of the slot `b`. -/
def allocateRetry (s : PeriodicStateDocument L) (b : Active) (slot : PeriodicSlot)
    (config : PeriodicPngConfig) (generationId ownerToken displayTime : String) (timestamp : ℤ)
    (destinationFingerprint : Option String) : Checked (PeriodicStateDocument L) := do
  require (b.status = .failed ∧ b.retryable = some true ∧ b.failurePhase = some .render ∧
      b.slotId = slot.slotId ∧ b.slotEnd = slot.slotEnd ∧ b.notBefore ≤ timestamp)
    "an active periodic slot must be rotated before allocation"
  require (b.renderAttemptCount < b.maxRenderAttempts) "render attempts are exhausted"
  require (displayTime = b.displayTime)
    "render retry display_time must match durable slot identity"
  require (s.payload.highWaterSlotEnd = some slot.slotEnd) "retry slot does not match high water"
  let destination ← allocatedDestination L config destinationFingerprint
  stateDocument L { s.payload with
    active := some (freshActive slot config generationId ownerToken displayTime destination
      b.renderAttemptCount b.deliveryAttemptCount timestamp b.createdAt)
    updatedAt := timestamp }

/-- `allocate_pending` after its checks of the slot: a newer slot. -/
def allocateNew (s : PeriodicStateDocument L) (slot : PeriodicSlot) (config : PeriodicPngConfig)
    (generationId ownerToken displayTime : String) (timestamp : ℤ)
    (destinationFingerprint : Option String) : Checked (PeriodicStateDocument L) := do
  require (s.payload.highWaterSlotEnd.all (· < slot.slotEnd) = true)
    "slot does not advance periodic high water"
  let destination ← allocatedDestination L config destinationFingerprint
  stateDocument L { s.payload with
    highWaterSlotEnd := some slot.slotEnd
    active := some (freshActive slot config generationId ownerToken displayTime destination
      0 0 timestamp timestamp)
    updatedAt := timestamp }

def allocatePending (s : PeriodicStateDocument L) (slot : PeriodicSlot)
    (config : PeriodicPngConfig) (generationId ownerToken displayTime : String) (now : ℤ)
    (destinationFingerprint : Option String) :
    Except PeriodicError (PeriodicStateDocument L) := do
  let timestamp ← raised (transitionTime s.payload now)
  let generation ← raised (validatedToken generationId "generation_id")
  let owner ← raised (validatedToken ownerToken "owner_token")
  let display ← raised (validatedDisplayTime displayTime)
  validateSlot L slot
  match s.payload.active with
  | some b =>
      raised (allocateRetry s b slot config generation owner display timestamp
        destinationFingerprint)
  | none =>
      raised (allocateNew s slot config generation owner display timestamp
        destinationFingerprint)

def markRendering (s : PeriodicStateDocument L) (slotId ownerToken : String) (now : ℤ) :
    Checked (PeriodicStateDocument L) := do
  let c ← transitionContext s slotId ownerToken now [.pending]
  require (c.active.renderAttemptCount < c.active.maxRenderAttempts)
    "render attempts are exhausted"
  let active := { c.active with
    status := .rendering, renderAttemptCount := c.active.renderAttemptCount + 1 : Active }
  stateDocument L (s.payload.touch active.clearFailure c.timestamp)

def markReady (s : PeriodicStateDocument L) (artifact : PeriodicArtifact) (caption : String)
    (slotId ownerToken : String) (now : ℤ) : Checked (PeriodicStateDocument L) := do
  let c ← transitionContext s slotId ownerToken now [.rendering]
  let verified ← validateArtifact artifact c.active.generationId
  let text ← validatedCaption L caption
  let active := { c.active with
    artifact := some verified, caption := text, status := .ready, notBefore := c.timestamp : Active }
  stateDocument L (s.payload.touch active.clearFailure c.timestamp)

/-- The values that `_validate_failure_fields` accepts. -/
structure FailureFields where
  phase : FailurePhase
  certainty : Certainty

def validateFailureFields (phase certainty : String) : Checked FailureFields :=
  match FailurePhase.ofText phase, Certainty.ofText certainty with
  | some phase, some certainty => .ok { phase, certainty }
  | none, _ => .error ⟨"failure_phase is invalid"⟩
  | some _, none => .error ⟨"certainty is invalid"⟩

def Active.fail (a : Active) (fields : FailureFields) (retryable : Bool) (code text : String)
    (finishedAt : Option ℤ) : Active :=
  { a with
    status := .failed
    failurePhase := some fields.phase
    retryable := some retryable
    certainty := some fields.certainty
    errorCode := some code
    errorText := text
    finishedAt }

def markRetryableFailure (s : PeriodicStateDocument L) (phase certainty code text : String)
    (notBefore : ℤ) (slotId ownerToken : String) (now : ℤ) :
    Checked (PeriodicStateDocument L) := do
  let fields ← validateFailureFields phase certainty
  require (fields.phase = .render ∨ fields.phase = .delivery)
    "scheduler and config failures cannot be retryable"
  let c ← transitionContext s slotId ownerToken now
    (if fields.phase = .render then [.pending, .rendering] else [.delivering])
  requirePhaseCertainty fields.phase fields.certainty
  -- building the input belongs to the render attempt
  let active := if fields.phase = .render ∧ c.active.status = .pending then
      { c.active with renderAttemptCount := c.active.renderAttemptCount + 1 }
    else c.active
  require (active.attempts fields.phase < active.attemptLimit fields.phase)
    "retry attempts are exhausted"
  let retryAt ← finiteTime notBefore "not_before"
  require (c.timestamp ≤ retryAt) "retry time precedes transition time"
  let errorCode ← validatedCode code
  let errorText ← validatedText L text
  let failed := { active.fail fields true errorCode errorText none with notBefore := retryAt }
  stateDocument L (s.payload.touch failed c.timestamp)

def markTerminalFailure (s : PeriodicStateDocument L) (phase certainty code text : String)
    (slotId ownerToken : String) (now : ℤ) : Checked (PeriodicStateDocument L) := do
  let c ← transitionContext s slotId ownerToken now
    [.pending, .rendering, .ready, .delivering, .failed]
  let previous := c.active.status
  require (previous = .failed → c.active.retryable = some true)
    "periodic slot is already terminal"
  let fields ← validateFailureFields phase certainty
  requirePhaseCertainty fields.phase fields.certainty
  require (previous = .delivering → fields.phase = .delivery)
    "an in-flight delivery requires an exact delivery outcome"
  require (fields.phase = .delivery → previous ∈ [.delivering, .failed])
    "delivery failure is invalid from this status"
  require (fields.phase = .render → previous ∈ [.pending, .rendering, .failed])
    "render failure is invalid from this status"
  require (previous = .failed → c.active.failurePhase = some fields.phase)
    "terminal exhaustion must preserve the retry phase"
  let active := if fields.phase = .render ∧ previous = .pending ∧
      c.active.renderAttemptCount < c.active.maxRenderAttempts then
      { c.active with renderAttemptCount := c.active.renderAttemptCount + 1 }
    else c.active
  let errorCode ← validatedCode code
  let errorText ← validatedText L text
  let failed := active.fail fields false errorCode errorText (some c.timestamp)
  stateDocument L (s.payload.touch failed c.timestamp)

/-- The health while the ledger has no room. -/
def pausedHealth (L : Library) (timestamp : ℤ) : Checked Health :=
  healthPayload L "paused_unknown_capacity" (some "delivery_paused_unknown_capacity")
    "delivery paused because unresolved evidence capacity is full" timestamp

def markDelivering (s : PeriodicStateDocument L) (slotId ownerToken : String) (now : ℤ) :
    Checked (PeriodicStateDocument L) := do
  let c ← transitionContext s slotId ownerToken now [.ready, .failed]
  require (c.active.status = .failed → c.active.retryable = some true ∧
      c.active.failurePhase = some .delivery ∧ c.active.notBefore ≤ c.timestamp)
    "only a due delivery failure can be redelivered"
  require (c.active.artifact ≠ none) "delivery requires a verified artifact"
  if maxUnresolvedDeliveries ≤ s.payload.unresolvedDelivery.length then do
    let active := { c.active with status := .ready, notBefore := c.timestamp : Active }
    let health ← pausedHealth L c.timestamp
    stateDocument L ({ s.payload with health }.touch active.clearFailure c.timestamp)
  else do
    require (c.active.deliveryAttemptCount < c.active.maxDeliveryAttempts)
      "delivery attempts are exhausted"
    let active := { c.active with
      status := .delivering, deliveryAttemptCount := c.active.deliveryAttemptCount + 1 : Active }
    stateDocument L (s.payload.touch active.clearFailure c.timestamp)

def markSucceeded (s : PeriodicStateDocument L) (receipt : PeriodicDeliveryReceipt)
    (slotId ownerToken : String) (now : ℤ) : Checked (PeriodicStateDocument L) := do
  let c ← transitionContext s slotId ownerToken now [.delivering]
  let active := { c.active with
    status := .succeeded, receipt := some receipt, finishedAt := some c.timestamp : Active }
  stateDocument L (s.payload.touch active c.timestamp)

/-- The evidence of a delivery that became ambiguous. -/
def Active.ambiguity (a : Active) (artifact : PeriodicArtifact) (timestamp : ℤ)
    (code text : String) : Unresolved :=
  { slotId := a.slotId
    slotEnd := a.slotEnd
    generationId := a.generationId
    destinationFingerprint := a.destinationFingerprint
    artifactSha256 := artifact.sha256
    ambiguityAt := timestamp
    errorCode := code
    errorText := text }

def markDeliveryUnknown (s : PeriodicStateDocument L) (code text : String)
    (slotId ownerToken : String) (now : ℤ) : Checked (PeriodicStateDocument L) := do
  let c ← transitionContext s slotId ownerToken now [.delivering]
  require (s.payload.unresolvedDelivery.length < maxUnresolvedDeliveries)
    "unresolved delivery ledger has no safe capacity"
  let errorCode ← validatedCode code
  let errorText ← validatedText L text
  match c.active.artifact with
  | none => .error ⟨"ambiguous delivery lacks artifact evidence"⟩
  | some artifact => do
      require (c.active.slotId ∉ s.payload.unresolvedDelivery.map (·.slotId))
        "unresolved delivery evidence already exists"
      let entry := c.active.ambiguity artifact c.timestamp errorCode errorText
      let active := { c.active with
        status := .deliveryUnknown
        failurePhase := some .delivery
        retryable := some false
        certainty := some .unknown
        errorCode := some errorCode
        errorText := errorText
        finishedAt := some c.timestamp : Active }
      let ledger := s.payload.unresolvedDelivery ++ [entry]
      stateDocument L ({ s.payload with unresolvedDelivery := ledger }.touch active c.timestamp)

/-! ## Supersession, rotation and health -/

def supersedeActive (s : PeriodicStateDocument L) (newerSlotEnd now : ℤ) :
    Checked (PeriodicStateDocument L) := do
  let timestamp ← transitionTime s.payload now
  match s.payload.active with
  | none => .error ⟨"there is no active periodic slot"⟩
  | some active => do
      require (active.slotEnd < newerSlotEnd) "supersession requires a strictly newer slot"
      require (active.status ≠ .delivering) "an in-flight delivery cannot be superseded"
      require (active.isTerminal = false) "terminal periodic slot must be rotated"
      if active.status = .ready ∧
          maxUnresolvedDeliveries ≤ s.payload.unresolvedDelivery.length then do
        let health ← pausedHealth L timestamp
        stateDocument L ({ s.payload with health }.touch active timestamp)
      else
        let failed := active.fail ⟨.scheduler, .notApplicable⟩ false "superseded_by_newer_slot"
          "slot was superseded by a newer completed interval" (some timestamp)
        stateDocument L (s.payload.touch failed timestamp)

def rotateTerminalActive (s : PeriodicStateDocument L) (now : ℤ) :
    Checked (PeriodicStateDocument L) := do
  let timestamp ← transitionTime s.payload now
  match s.payload.active with
  | none => .error ⟨"only a terminal periodic slot can be rotated"⟩
  | some active => do
      require (active.isTerminal = true) "only a terminal periodic slot can be rotated"
      stateDocument L { s.payload with
        lastTerminal := some active.terminalSummary, active := none, updatedAt := timestamp }

def setPeriodicHealth (s : PeriodicStateDocument L) (status : String) (code : Option String)
    (text : String) (now : ℤ) : Checked (PeriodicStateDocument L) := do
  let timestamp ← transitionTime s.payload now
  let health ← healthPayload L status code text timestamp
  stateDocument L { s.payload with health, updatedAt := timestamp }

def emptyPayload (now : ℤ) : Payload :=
  { highWaterSlotEnd := none
    active := none
    lastTerminal := none
    unresolvedDelivery := []
    health := { status := "starting", errorCode := none, errorText := "", updatedAt := now }
    updatedAt := now }

end Periodic
end CryoDaq
