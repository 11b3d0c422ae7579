import CryoDaq.Periodic.Transitions

/-!
# The durable gate

`enforceDurableTransition` compares the state on disk with the one that is to
replace it.  It knows the edges of the active slot and the fields that each of
them may change, and replays the edge with the arguments that it reads back from
the candidate.
-/

namespace CryoDaq
namespace Periodic

/-- `_ACTIVE_KEYS` -/
inductive ActiveField
  | slotId
  | slotStart
  | slotEnd
  | intervalS
  | windowStart
  | windowEnd
  | displayTime
  | configFingerprint
  | destinationFingerprint
  | generationId
  | ownerToken
  | status
  | renderAttemptCount
  | deliveryAttemptCount
  | maxRenderAttempts
  | maxDeliveryAttempts
  | notBefore
  | artifact
  | caption
  | receipt
  | failurePhase
  | retryable
  | certainty
  | errorCode
  | errorText
  | createdAt
  | updatedAt
  | finishedAt
deriving DecidableEq

namespace ActiveField

def text : ActiveField → String
  | slotId => "slot_id"
  | slotStart => "slot_start"
  | slotEnd => "slot_end"
  | intervalS => "interval_s"
  | windowStart => "window_start"
  | windowEnd => "window_end"
  | displayTime => "display_time"
  | configFingerprint => "config_fingerprint"
  | destinationFingerprint => "destination_fingerprint"
  | generationId => "generation_id"
  | ownerToken => "owner_token"
  | status => "status"
  | renderAttemptCount => "render_attempt_count"
  | deliveryAttemptCount => "delivery_attempt_count"
  | maxRenderAttempts => "max_render_attempts"
  | maxDeliveryAttempts => "max_delivery_attempts"
  | notBefore => "not_before"
  | artifact => "artifact"
  | caption => "caption"
  | receipt => "receipt"
  | failurePhase => "failure_phase"
  | retryable => "retryable"
  | certainty => "certainty"
  | errorCode => "error_code"
  | errorText => "error_text"
  | createdAt => "created_at"
  | updatedAt => "updated_at"
  | finishedAt => "finished_at"

/-- Whether two slots agree on a field. -/
def same (a b : Active) : ActiveField → Bool
  | slotId => a.slotId = b.slotId
  | slotStart => a.slotStart = b.slotStart
  | slotEnd => a.slotEnd = b.slotEnd
  | intervalS => a.intervalS = b.intervalS
  | windowStart => a.windowStart = b.windowStart
  | windowEnd => a.windowEnd = b.windowEnd
  | displayTime => a.displayTime = b.displayTime
  | configFingerprint => a.configFingerprint = b.configFingerprint
  | destinationFingerprint => a.destinationFingerprint = b.destinationFingerprint
  | generationId => a.generationId = b.generationId
  | ownerToken => a.ownerToken = b.ownerToken
  | status => a.status = b.status
  | renderAttemptCount => a.renderAttemptCount = b.renderAttemptCount
  | deliveryAttemptCount => a.deliveryAttemptCount = b.deliveryAttemptCount
  | maxRenderAttempts => a.maxRenderAttempts = b.maxRenderAttempts
  | maxDeliveryAttempts => a.maxDeliveryAttempts = b.maxDeliveryAttempts
  | notBefore => a.notBefore = b.notBefore
  | artifact => a.artifact = b.artifact
  | caption => a.caption = b.caption
  | receipt => a.receipt = b.receipt
  | failurePhase => a.failurePhase = b.failurePhase
  | retryable => a.retryable = b.retryable
  | certainty => a.certainty = b.certainty
  | errorCode => a.errorCode = b.errorCode
  | errorText => a.errorText = b.errorText
  | createdAt => a.createdAt = b.createdAt
  | updatedAt => a.updatedAt = b.updatedAt
  | finishedAt => a.finishedAt = b.finishedAt

def all : List ActiveField :=
  [slotId, slotStart, slotEnd, intervalS, windowStart, windowEnd, displayTime, configFingerprint,
    destinationFingerprint, generationId, ownerToken, status, renderAttemptCount,
    deliveryAttemptCount, maxRenderAttempts, maxDeliveryAttempts, notBefore, artifact, caption,
    receipt, failurePhase, retryable, certainty, errorCode, errorText, createdAt, updatedAt,
    finishedAt]

/-- `_FAILURE_DELTA_FIELDS` -/
def failureDeltas : List ActiveField :=
  [failurePhase, retryable, certainty, errorCode, errorText, finishedAt]

/-- `_ACTIVE_EDGE_DELTAS` -/
def edgeDeltas : PeriodicStatus → PeriodicStatus → Option (List ActiveField)
  | .pending, .rendering => some [status, renderAttemptCount, updatedAt]
  | .pending, .failed =>
      some ([status, renderAttemptCount, notBefore, updatedAt] ++ failureDeltas)
  | .rendering, .ready => some [status, notBefore, artifact, caption, updatedAt]
  | .rendering, .failed => some ([status, notBefore, updatedAt] ++ failureDeltas)
  | .ready, .ready => some [notBefore, updatedAt]
  | .ready, .delivering => some [status, deliveryAttemptCount, updatedAt]
  | .ready, .failed => some ([status, updatedAt] ++ failureDeltas)
  | .delivering, .succeeded => some [status, receipt, updatedAt, finishedAt]
  | .delivering, .failed => some ([status, notBefore, updatedAt] ++ failureDeltas)
  | .delivering, .deliveryUnknown => some ([status, updatedAt] ++ failureDeltas)
  | .failed, .pending =>
      some ([windowStart, configFingerprint, destinationFingerprint, generationId, ownerToken,
        status, maxRenderAttempts, maxDeliveryAttempts, notBefore, artifact, caption, receipt,
        updatedAt] ++ failureDeltas)
  | .failed, .ready => some ([status, notBefore, updatedAt] ++ failureDeltas)
  | .failed, .delivering => some ([status, deliveryAttemptCount, updatedAt] ++ failureDeltas)
  | .failed, .failed => some (updatedAt :: failureDeltas)
  | _, _ => none

end ActiveField

/-- `_TOP_KEYS` without the schema -/
inductive TopField
  | highWaterSlotEnd
  | active
  | lastTerminal
  | unresolvedDelivery
  | health
  | updatedAt
deriving DecidableEq

namespace TopField

def text : TopField → String
  | highWaterSlotEnd => "high_water_slot_end"
  | active => "active"
  | lastTerminal => "last_terminal"
  | unresolvedDelivery => "unresolved_delivery"
  | health => "health"
  | updatedAt => "updated_at"

/-- Whether two payloads agree on a field. -/
def same (p q : Payload) : TopField → Bool
  | highWaterSlotEnd => p.highWaterSlotEnd = q.highWaterSlotEnd
  | active => p.active = q.active
  | lastTerminal => p.lastTerminal = q.lastTerminal
  | unresolvedDelivery => p.unresolvedDelivery = q.unresolvedDelivery
  | health => p.health = q.health
  | updatedAt => p.updatedAt = q.updatedAt

def all : List TopField :=
  [highWaterSlotEnd, active, lastTerminal, unresolvedDelivery, health, updatedAt]

end TopField

def requireOnlyFieldDeltas {φ : Type} [DecidableEq φ] (fields : List φ) (text : φ → String)
    (same : φ → Bool) (allowed : List φ) (context : String) : Checked Unit :=
  let unexpected := fields.filter fun f => !same f && f ∉ allowed
  let names := String.intercalate ", " ((unexpected.map text).mergeSort (· ≤ ·))
  require (unexpected = []) s!"{context} changed forbidden fields: {names}"

/-! ## The parts of the gate -/

variable {L : Library}

def requireExactSuccessor (expected candidate : Payload) : Checked Unit :=
  require (expected = candidate) "periodic candidate is not the exact helper successor"

/-- The keys that a change of the health leaves alone. -/
def sameBesidesHealth (current candidate : Payload) : Prop :=
  current.highWaterSlotEnd = candidate.highWaterSlotEnd ∧ current.active = candidate.active ∧
    current.lastTerminal = candidate.lastTerminal ∧
    current.unresolvedDelivery = candidate.unresolvedDelivery

instance (current candidate : Payload) : Decidable (sameBesidesHealth current candidate) :=
  inferInstanceAs (Decidable (_ ∧ _ ∧ _ ∧ _))

def matchesHealthOnlyTransition (current candidate : PeriodicStateDocument L) :
    Checked Bool :=
  if ¬ sameBesidesHealth current.payload candidate.payload then .ok false
  else if current.payload.health = candidate.payload.health then .ok false
  else do
    let health := candidate.payload.health
    let expected ← setPeriodicHealth current health.status health.errorCode health.errorText
      candidate.payload.updatedAt
    requireExactSuccessor expected.payload candidate.payload
    return true

/-- The fields of an allocation that are the same in every one. -/
def Active.freshPending (a : Active) (now renderCount deliveryCount : ℤ) : Prop :=
  a.status = .pending ∧ a.renderAttemptCount = renderCount ∧
    a.deliveryAttemptCount = deliveryCount ∧ a.notBefore = now ∧ a.artifact = none ∧
    a.caption = "" ∧ a.receipt = none ∧ a.failurePhase = none ∧ a.retryable = none ∧
    a.certainty = none ∧ a.errorCode = none ∧ a.errorText = "" ∧ a.updatedAt = now ∧
    a.finishedAt = none

instance (a : Active) (now renderCount deliveryCount : ℤ) :
    Decidable (a.freshPending now renderCount deliveryCount) :=
  inferInstanceAs (Decidable (_ ∧ _ ∧ _ ∧ _ ∧ _ ∧ _ ∧ _ ∧ _ ∧ _ ∧ _ ∧ _ ∧ _ ∧ _ ∧ _))

def requireFreshPendingShape (a : Active) (now renderCount deliveryCount : ℤ) :
    Checked Unit := do
  require (a.freshPending now renderCount deliveryCount)
    "PENDING allocation has invalid transition evidence"
  require (renderCount = 0 ∧ deliveryCount = 0 → a.createdAt = now)
    "new PENDING allocation has invalid creation time"

def requireNewPendingTransition (current candidate : Payload) (active : Active) :
    Checked Unit := do
  requireOnlyFieldDeltas TopField.all TopField.text (TopField.same current candidate)
    [.highWaterSlotEnd, .active, .updatedAt] "new PENDING allocation"
  require (candidate.highWaterSlotEnd.any
      (fun new => current.highWaterSlotEnd.all (· < new)) = true)
    "new PENDING allocation must advance high water"
  require (candidate.highWaterSlotEnd = some active.slotEnd)
    "new PENDING allocation does not match high water"
  requireFreshPendingShape active candidate.updatedAt 0 0

/-- The fields that a further render attempt keeps. -/
def retryKept : List ActiveField :=
  [.slotId, .slotStart, .slotEnd, .intervalS, .windowEnd, .displayTime, .renderAttemptCount,
    .deliveryAttemptCount, .createdAt]

/-- The fields of `retryKept`, in order. -/
def requireKept (before after : Active) : List ActiveField → Checked Unit
  | [] => .ok ()
  | f :: rest => do
      require (f.same before after = true) ("render retry allocation changed " ++ f.text)
      requireKept before after rest

def requireRetryPendingTransition (current candidate : Payload) (before after : Active) :
    Checked Unit := do
  requireOnlyFieldDeltas TopField.all TopField.text (TopField.same current candidate)
    [.active, .updatedAt] "render retry allocation"
  require (before.status = .failed ∧ before.retryable = some true ∧
      before.failurePhase = some .render ∧ before.notBefore ≤ candidate.updatedAt)
    "render retry allocation is not due"
  requireKept before after retryKept
  requireFreshPendingShape after candidate.updatedAt before.renderAttemptCount
    before.deliveryAttemptCount

/-- `attempt`: a refused helper leaves no candidate. -/
def attempt (result : Checked (PeriodicStateDocument L)) : List (PeriodicStateDocument L) :=
  match result with
  | .ok d => [d]
  | .error _ => []

/-- `str(value)` of a text or `None` -/
def pyText (value : Option String) : String := value.getD "None"

def replayTerminalFailure (document : PeriodicStateDocument L) (before after : Active)
    (now : ℤ) : Checked (PeriodicStateDocument L) :=
  markTerminalFailure document (pyText (after.failurePhase.map (·.text)))
    (pyText (after.certainty.map (·.text))) (pyText after.errorCode) after.errorText
    before.slotId before.ownerToken now

def replayFailure (document : PeriodicStateDocument L) (before after : Active) (now : ℤ) :
    Checked (PeriodicStateDocument L) :=
  if after.retryable = some true then
    markRetryableFailure document (pyText (after.failurePhase.map (·.text)))
      (pyText (after.certainty.map (·.text))) (pyText after.errorCode) after.errorText
      after.notBefore before.slotId before.ownerToken now
  else replayTerminalFailure document before after now

def replaySupersession (document : PeriodicStateDocument L) (before : Active) (now : ℤ) :
    Checked (PeriodicStateDocument L) :=
  supersedeActive document (before.slotEnd + 1) now

/-- The documents that the helpers of an edge return. -/
def replayCandidates (document : PeriodicStateDocument L) (before after : Active) (now : ℤ) :
    Except PeriodicError (List (PeriodicStateDocument L)) :=
  let delivering := attempt (markDelivering document before.slotId before.ownerToken now)
  let superseded := attempt (replaySupersession document before now)
  let terminal := attempt (replayTerminalFailure document before after now)
  let failure := attempt (replayFailure document before after now)
  match before.status, after.status with
  | .pending, .rendering =>
      .ok (attempt (markRendering document before.slotId before.ownerToken now))
  | .rendering, .ready =>
      match after.artifact with
      | none => .error .assertionError
      | some artifact => .ok (attempt
          (markReady document artifact after.caption before.slotId before.ownerToken now))
  | .pending, .failed => .ok failure
  | .rendering, .failed => .ok failure
  | .delivering, .failed => .ok failure
  | .ready, .ready => .ok (delivering ++ superseded)
  | .ready, .delivering => .ok delivering
  | .failed, .ready => .ok delivering
  | .failed, .delivering => .ok delivering
  | .ready, .failed => .ok (terminal ++ superseded)
  | .delivering, .succeeded =>
      match after.receipt with
      | none => .error .typeError
      | some receipt => .ok (attempt
          (markSucceeded document receipt before.slotId before.ownerToken now))
  | .delivering, .deliveryUnknown => .ok (attempt
      (markDeliveryUnknown document (pyText after.errorCode) after.errorText before.slotId
        before.ownerToken now))
  | .failed, .failed => .ok (terminal ++ superseded)
  | a, b => .error (.contract ⟨"periodic durable edge " ++ a.text ++ "->" ++ b.text ++
      " is not replayable"⟩)

def requireReplayedActiveEdge (current candidate : PeriodicStateDocument L)
    (before after : Active) : Except PeriodicError Unit :=
  if before.status = .failed ∧ after.status = .pending then
    raised (requireRetryPendingTransition current.payload candidate.payload before after)
  else do
    let candidates ← replayCandidates current before after candidate.payload.updatedAt
    raised (require (candidates.any (·.payload = candidate.payload) = true)
      ("periodic durable edge " ++ before.status.text ++ "->" ++ after.status.text ++
        " is not an exact helper transition"))

/-- The high water and the ledger only grow, and only with their slot. -/
def enforceDurableOrder (current candidate : Payload) : Checked Unit := do
  require (current.updatedAt ≤ candidate.updatedAt) "periodic durable time cannot decrease"
  require (current.highWaterSlotEnd.all
      (fun old => candidate.highWaterSlotEnd.any (old ≤ ·)) = true)
    "periodic high water cannot decrease"
  require (current.highWaterSlotEnd ≠ candidate.highWaterSlotEnd → current.active = none ∧
      candidate.active.any (fun a => a.status = .pending &&
        candidate.highWaterSlotEnd = some a.slotEnd) = true)
    "periodic high water may advance only with a matching new PENDING slot"
  let old := current.unresolvedDelivery
  let new := candidate.unresolvedDelivery
  require (new.take old.length = old) "unresolved delivery evidence is immutable"
  require (new.length = old.length ∨ new.length = old.length + 1)
    "only one unresolved delivery may be recorded atomically"
  require (new.length = old.length + 1 →
      current.active.any (·.status = .delivering) = true ∧
        candidate.active.any (·.status = .deliveryUnknown) = true)
    "unresolved delivery evidence requires exact DELIVERING recovery"

def enforceActiveEdge (current candidate : PeriodicStateDocument L) :
    Except PeriodicError Unit :=
  match current.payload.active, candidate.payload.active with
  | none, some after =>
      if after.status = .pending then
        raised (requireNewPendingTransition current.payload candidate.payload after)
      else .error (.contract ⟨"periodic durable transition is not allowed"⟩)
  | none, none => .error (.contract ⟨"periodic durable transition is not allowed"⟩)
  | some before, none =>
      if before.isTerminal then do
        let expected ← raised (rotateTerminalActive current candidate.payload.updatedAt)
        raised (requireExactSuccessor expected.payload candidate.payload)
      else .error (.contract ⟨"only a terminal active slot may be rotated"⟩)
  | some before, some after =>
      match ActiveField.edgeDeltas before.status after.status with
      | none => .error (.contract ⟨"periodic durable edge " ++ before.status.text ++ "->" ++
          after.status.text ++ " is not allowed"⟩)
      | some allowed => do
          raised (requireOnlyFieldDeltas ActiveField.all ActiveField.text
            (ActiveField.same before after) allowed
            ("active edge " ++ before.status.text ++ "->" ++ after.status.text))
          requireReplayedActiveEdge current candidate before after

def enforceDurableTransition (current candidate : PeriodicStateDocument L) :
    Except PeriodicError Unit := do
  raised (enforceDurableOrder current.payload candidate.payload)
  if candidate.payload = current.payload then return
  let healthOnly ← raised (matchesHealthOnlyTransition current candidate)
  if healthOnly then return
  enforceActiveEdge current candidate

/-- `_enforce_initial_durable_state`; `baseline` is the empty state. -/
def enforceInitialDurableState (baseline candidate : PeriodicStateDocument L) :
    Checked Unit := do
  require (candidate.payload.unresolvedDelivery = [] ∧ candidate.payload.lastTerminal = none)
    "initial periodic state contains fabricated history"
  match candidate.payload.highWaterSlotEnd with
  | none => do
      if candidate.payload = baseline.payload then return
      let healthOnly ← matchesHealthOnlyTransition baseline candidate
      require (healthOnly = true) "initial periodic state is not an exact empty-state successor"
  | some highWater => do
      match candidate.payload.active with
      | none =>
          .error ⟨"initial high water requires a matching new PENDING slot"⟩
      | some active => do
          require (active.status = .pending ∧ active.slotEnd = highWater)
            "initial high water requires a matching new PENDING slot"
          require (candidate.payload.health = baseline.payload.health)
            "initial PENDING state changed health before persistence"
          requireFreshPendingShape active candidate.payload.updatedAt 0 0

end Periodic
end CryoDaq
