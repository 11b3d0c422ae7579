import CryoDaq.Periodic.Steps

/-!
# Reconciliation

One call of `_reconcile_step`: it refreshes the health when that is due, looks at the durable
state and takes at most one slot of work, and it answers whether it made progress.

**Fixed.**  The clock, the configuration and the projections are a `Setting`; two looks at them
are the same.

**Authorities.**  What the runner, the delivery, the artifact reader and the factories answer in
a call is an `Answers`.  An authority whose error stops the coordinator has no answer.

**Writer.**  The leader is the only writer, so the state that is loaded again is the state that
was written last.
-/

namespace CryoDaq
namespace Periodic

variable {L : Library}

/-! ## What the coordinator is given -/

/-- The setting of a coordinator; times are in ticks. -/
structure Setting where
  config : PeriodicPngConfig
  backoffBase : ℤ
  backoffCap : ℤ
  telegramVerifySsl : Bool
  destinationFingerprint : String
  expectedDeliveryKind : ReceiptKind
  /-- `clock.wall_time()`, which slots are computed from, and its tick -/
  wallTime : Float
  wallTick : ℤ
  /-- `clock.monotonic()` -/
  monotonic : ℤ
  second : ℤ
  /-- `clock.display_time` -/
  displayTime : ℤ → String
  liveSourceFailed : Bool
  cutsComplete : Bool
  /-- `history_complete and alarm_state_complete` of a snapshot -/
  projectionComplete : Bool
  /-- Some reading in the window of the latest slot has a value. -/
  hasReadings : Bool

structure PeriodicRenderResult where
  generationId : String
  ownerToken : String
  slotId : String
  configFingerprint : String
  artifact : PeriodicArtifact
  caption : String

inductive PeriodicDeliveryOutcome
  | accepted
  | notSent
  | rejected
  | unknown
deriving DecidableEq

structure PeriodicDeliveryResult where
  outcome : PeriodicDeliveryOutcome
  receipt : Option PeriodicDeliveryReceipt
  retryable : Bool
  retryAfter : Option ℤ
  errorCode : Option String
  errorText : String

/-- What becomes of the input of a render attempt. -/
inductive InputAnswer
  | existing
  | sealed
  | existingRefused
  | sealedRefused
deriving DecidableEq

/-- What `generate_periodic` answers. -/
inductive GenerateAnswer
  | result (r : PeriodicRenderResult)
  | busy
  | failed (errorCode : String)

/-- What the injected authorities answer in a call. -/
structure Answers where
  generationId : String
  ownerToken : String
  recovered : Option PeriodicRenderResult
  lockFree : Bool
  input : InputAnswer
  generated : GenerateAnswer
  /-- The artifact reader answers bytes. -/
  photo : Bool
  /-- The result of the delivery; `none` when it raised. -/
  delivered : Option PeriodicDeliveryResult

structure RetryKey where
  slotId : String
  status : PeriodicStatus
  notBefore : ℤ
deriving DecidableEq

/-- The durable state and what the coordinator remembers. -/
structure Coordinator (L : Library) where
  state : PeriodicStateDocument L
  nextAlarmRefresh : ℤ
  nextHealthHeartbeat : ℤ
  /-- `_retry_deadlines`, which is cleared before a key is put in -/
  retryDeadline : Option (RetryKey × ℤ)

/-- A call returns the coordinator after it and whether it made progress. -/
abbrev Returned (L : Library) : Type := Except PeriodicError (Coordinator L × Bool)

namespace Coordinator

/-- A call that goes no further. -/
def rest (c : Coordinator L) : Returned L := .ok (c, false)

def progress (c : Coordinator L) (written : Except PeriodicError (PeriodicStateDocument L)) :
    Returned L := do
  let state ← written
  return ({ c with state }, true)

end Coordinator

def persist (before candidate : PeriodicStateDocument L) :
    Except PeriodicError (PeriodicStateDocument L) := do
  enforceDurableTransition before candidate
  return candidate

/-- The write of what a helper returns. -/
def persisted (before : PeriodicStateDocument L) (candidate : Checked (PeriodicStateDocument L)) :
    Except PeriodicError (PeriodicStateDocument L) := do
  let candidate ← raised candidate
  persist before candidate

/-- `_same_periodic_active` -/
def sameActive (expected : Active) (observed : Option Active) (status : PeriodicStatus) : Bool :=
  observed.any fun a => a.slotId = expected.slotId && a.ownerToken = expected.ownerToken &&
    a.generationId = expected.generationId && a.status = status

/-- The ledger has no room. -/
def Payload.full (p : Payload) : Prop := maxUnresolvedDeliveries ≤ p.unresolvedDelivery.length

instance (p : Payload) : Decidable p.full :=
  inferInstanceAs (Decidable (maxUnresolvedDeliveries ≤ p.unresolvedDelivery.length))

namespace Setting

variable (E : Setting)

def logicalNow (s : PeriodicStateDocument L) : ℤ := max E.wallTick s.payload.updatedAt

/-- `_logical_now` with a floor -/
def logicalNowFrom (s : PeriodicStateDocument L) (floor : Option ℤ) : ℤ :=
  match floor with
  | none => E.logicalNow s
  | some floor => max (E.logicalNow s) floor

/-- `retry_delay` of an attempt that was made -/
def retryDelay (attemptCount : ℤ) : ℤ :=
  min E.backoffCap (E.backoffBase * 2 ^ min (attemptCount - 1).toNat 62)

structure Shown where
  status : String
  code : Option String
  text : String

def delivers (status : String) : Bool :=
  status ∈ ["ready", "degraded_projection", "degraded_tls"]

def deliveryReady (active : Option Active) : Bool :=
  active.any fun a => a.status = .ready ||
    (a.status = .failed && a.failurePhase = some .delivery && a.retryable = some true)

def shownSource (h : Shown) : Shown :=
  if ¬ delivers h.status then h
  else if E.liveSourceFailed then
    { status := "degraded_source"
      code := some "periodic_live_source_stopped"
      text := "periodic live source stopped unexpectedly" }
  else if ¬ E.cutsComplete then
    { status := "degraded_projection"
      code := some "periodic_projection_incomplete"
      text := "periodic projection evidence is incomplete" }
  else h

def shownLedger (p : Payload) (h : Shown) : Shown :=
  let shown : Shown :=
    if delivers h.status ∧ p.unresolvedDelivery ≠ [] then
      { status := "degraded_delivery_unknown"
        code := some "periodic_delivery_unresolved"
        text := "periodic delivery outcome is unresolved and awaiting reconciliation" }
    else h
  if (delivers shown.status ∨ shown.status = "degraded_delivery_unknown") ∧ p.full ∧
      deliveryReady p.active then
    { status := "paused_unknown_capacity"
      code := some "delivery_paused_unknown_capacity"
      text := "delivery paused because unresolved evidence capacity is full" }
  else shown

def shownPause (p : Payload) (h : Shown) : Shown :=
  if (delivers h.status ∨ h.status = "degraded_delivery_unknown") ∧
      p.health.status ∈ ["paused_unknown_capacity", "delivery_paused_unknown_capacity"] then
    { status := p.health.status, code := p.health.errorCode, text := p.health.errorText }
  else h

def setHealth (s : PeriodicStateDocument L) (h : Shown) :
    Except PeriodicError (PeriodicStateDocument L) := do
  let shown := shownPause s.payload (shownLedger s.payload (E.shownSource h))
  let previous := s.payload.updatedAt
  -- the next float after the previous time is its next tick
  let healthNow := if previous < E.wallTick then E.wallTick else previous + 1
  let candidate ← raised (setPeriodicHealth s shown.status shown.code shown.text healthNow)
  if candidate.payload ≠ s.payload then persist s candidate else return s

def setProjectionHealth (s : PeriodicStateDocument L) :
    Except PeriodicError (PeriodicStateDocument L) :=
  if E.liveSourceFailed then
    E.setHealth s
      { status := "degraded_source"
        code := some "periodic_live_source_stopped"
        text := "periodic live source stopped unexpectedly" }
  else if ¬ (E.projectionComplete ∧ E.cutsComplete) then
    E.setHealth s
      { status := "degraded_projection"
        code := some "periodic_projection_incomplete"
        text := "periodic projection evidence is incomplete" }
  else if ¬ E.telegramVerifySsl then
    E.setHealth s
      { status := "degraded_tls"
        code := some "periodic_tls_verification_disabled"
        text := "periodic Telegram TLS verification is disabled" }
  else E.setHealth s { status := "ready", code := none, text := "" }

/-- `_HEALTH_HEARTBEAT_S` and `_ALARM_REFRESH_S` from now -/
def healthHeartbeat : ℤ := E.monotonic + 30 * E.second
def alarmRefresh : ℤ := E.monotonic + 240 * E.second

/-- `_refresh_periodic_authority_if_due` -/
def refreshIfDue (c : Coordinator L) : Except PeriodicError (Coordinator L) :=
  if c.nextAlarmRefresh ≤ E.monotonic ∨ c.nextHealthHeartbeat ≤ E.monotonic then do
    let state ← E.setProjectionHealth c.state
    return { c with
      state
      nextAlarmRefresh :=
        if c.nextAlarmRefresh ≤ E.monotonic then E.alarmRefresh else c.nextAlarmRefresh
      nextHealthHeartbeat := E.healthHeartbeat }
  else return c

/-- `_sealed_snapshot`, as far as it writes -/
def sealedSnapshot (c : Coordinator L) : Except PeriodicError (Coordinator L) := do
  let state ← E.setProjectionHealth c.state
  return { c with
    state, nextAlarmRefresh := E.alarmRefresh, nextHealthHeartbeat := E.healthHeartbeat }

variable (ans : Answers)

def allocateLatest (c : Coordinator L) (latest : PeriodicSlot) : Returned L :=
  if c.state.payload.highWaterSlotEnd.any (latest.slotEnd ≤ ·) then c.rest
  else if ¬ E.hasReadings then c.rest
  else do
    let c ← E.sealedSnapshot c
    if c.state.payload.active ≠ none then c.rest
    else if c.state.payload.highWaterSlotEnd.any (latest.slotEnd ≤ ·) then c.rest
    else do
      let pending ← allocatePending c.state latest E.config ans.generationId ans.ownerToken
        (E.displayTime latest.slotEnd) (E.logicalNow c.state) (some E.destinationFingerprint)
      c.progress (persist c.state pending)

def recordRenderFailure (s : PeriodicStateDocument L) (a : Active) (code text : String) :
    Except PeriodicError (PeriodicStateDocument L) :=
  let count := if a.status = .pending then a.renderAttemptCount + 1 else a.renderAttemptCount
  let now := E.logicalNow s
  if count < a.maxRenderAttempts then
    persisted s (markRetryableFailure s "render" "not_applicable" code text
      (now + E.retryDelay count) a.slotId a.ownerToken now)
  else
    persisted s (markTerminalFailure s "render" "not_applicable" code text a.slotId a.ownerToken
      now)

def adoptRenderResult (s : PeriodicStateDocument L) (a : Active) (r : PeriodicRenderResult) :
    Except PeriodicError (PeriodicStateDocument L) := do
  raised (require (r.generationId = a.generationId ∧ r.ownerToken = a.ownerToken ∧
      r.slotId = a.slotId ∧ r.configFingerprint = a.configFingerprint)
    "periodic render result fence does not match")
  persisted s (markReady s r.artifact r.caption a.slotId a.ownerToken (E.logicalNow s))

def recoverRendering (c : Coordinator L) (a : Active) : Returned L :=
  match ans.recovered with
  | some r => c.progress (E.adoptRenderResult c.state a r)
  | none =>
      if ans.lockFree then
        c.progress (E.recordRenderFailure c.state a "orphaned_rendering"
          "rendering owner disappeared without an immutable final")
      else c.rest

/-- `[a-z0-9_]{1,128}` -/
def outcomeCode (code : String) : Bool :=
  1 ≤ code.length && code.length ≤ 128 &&
    code.toList.all fun ch => ch.isLower || ch.isDigit || ch = '_'

def settleGenerateFailure (c : Coordinator L) (a : Active) (code : String) : Returned L :=
  if sameActive a c.state.payload.active .rendering then
    match ans.recovered with
    | some r => c.progress (E.adoptRenderResult c.state a r)
    | none => c.progress (E.recordRenderFailure c.state a
        (if outcomeCode code then code else "render_failed") "periodic render failed")
  else c.rest

/-- The render attempt of a slot that is marked RENDERING. -/
def generate (c : Coordinator L) (a : Active) : Returned L :=
  match ans.generated with
  | .busy => c.rest
  | .failed code => E.settleGenerateFailure ans c a code
  | .result r =>
      if sameActive a c.state.payload.active .rendering then
        c.progress (E.adoptRenderResult c.state a r)
      else c.rest

/-- `_ensure_input`, as far as it writes -/
def ensureInput (c : Coordinator L) : Except PeriodicError (Coordinator L) :=
  match ans.input with
  | .existing | .existingRefused => return c
  | .sealed | .sealedRefused => E.sealedSnapshot c

/-- `_render_pending` with its input -/
def renderWithInput (c : Coordinator L) (a : Active) : Returned L :=
  if sameActive a c.state.payload.active .pending then
    if ans.input = .existingRefused ∨ ans.input = .sealedRefused then
      c.progress (E.recordRenderFailure c.state a "periodic_input_unavailable"
        "periodic input could not be authorized")
    else do
      let state ← persisted c.state
        (markRendering c.state a.slotId a.ownerToken (E.logicalNow c.state))
      match state.payload.active with
      | none => .error .assertionError
      | some rendering => E.generate ans { c with state } rendering
  else c.rest

def renderPending (c : Coordinator L) (a : Active) : Returned L := do
  let c ← E.ensureInput ans c
  E.renderWithInput ans c a

/-- `value or default` of a text -/
def orText (value : Option String) (default : String) : String :=
  match value with
  | none => default
  | some text => if text = "" then default else text

/-- `_persist_delivery_unknown` of the delivery that raised -/
def persistDeliveryUnknown (s : PeriodicStateDocument L) (a : Active) :
    Except PeriodicError (PeriodicStateDocument L) :=
  if sameActive a s.payload.active .delivering then
    persisted s (markDeliveryUnknown s "delivery_internal_unknown" "delivery outcome is unknown"
      a.slotId a.ownerToken (E.logicalNow s))
  else return s

/-- What `_persist_delivery_result` makes of a result. -/
def deliveryCandidate (s : PeriodicStateDocument L) (a : Active) (r : PeriodicDeliveryResult) :
    Checked (PeriodicStateDocument L) :=
  let timestamp := E.logicalNow s
  let certainty := if r.outcome = .rejected then "rejected" else "not_sent"
  let mismatch := markDeliveryUnknown s "delivery_receipt_kind_mismatch"
    "accepted delivery receipt kind does not match destination authority" a.slotId a.ownerToken
    timestamp
  match r.outcome with
  | .accepted =>
      match r.receipt with
      | none => mismatch
      | some receipt =>
          if receipt.kind ≠ E.expectedDeliveryKind then mismatch
          else markSucceeded s receipt a.slotId a.ownerToken timestamp
  | .unknown =>
      markDeliveryUnknown s (orText r.errorCode "delivery_internal_unknown")
        (orText (some r.errorText) "delivery outcome is unknown") a.slotId a.ownerToken timestamp
  | .notSent | .rejected =>
      if r.retryable ∧ a.deliveryAttemptCount < a.maxDeliveryAttempts then
        markRetryableFailure s "delivery" certainty
          (orText r.errorCode "telegram_connect_failed")
          (orText (some r.errorText) "Telegram delivery failed")
          (timestamp + r.retryAfter.getD (E.retryDelay a.deliveryAttemptCount)) a.slotId
          a.ownerToken timestamp
      else
        markTerminalFailure s "delivery" certainty
          (orText r.errorCode "telegram_permanent_rejection")
          (orText (some r.errorText) "Telegram delivery failed") a.slotId a.ownerToken timestamp

def persistDeliveryResult (s : PeriodicStateDocument L) (a : Active) (r : PeriodicDeliveryResult) :
    Except PeriodicError (PeriodicStateDocument L) := do
  raised (require (sameActive a s.payload.active .delivering = true)
    "delivery state changed before result persistence")
  persisted s (E.deliveryCandidate s a r)

def deliveryTransaction (s : PeriodicStateDocument L) (a : Active) :
    Except PeriodicError (PeriodicStateDocument L) :=
  match ans.delivered with
  | none => E.persistDeliveryUnknown s a
  | some r => E.persistDeliveryResult s a r

/-- The failure of a slot whose artifact cannot be read. -/
def artifactUnavailable (s : PeriodicStateDocument L) (a : Active) (now : ℤ) :
    Checked (PeriodicStateDocument L) :=
  let phase := if a.status = .failed then pyText (a.failurePhase.map (·.text)) else "scheduler"
  let certainty :=
    if a.status = .failed then pyText (a.certainty.map (·.text)) else "not_applicable"
  markTerminalFailure s phase certainty "periodic_artifact_unavailable"
    "periodic artifact could not be re-authorized" a.slotId a.ownerToken now

/-- The delivery of a slot whose artifact was read. -/
def deliverPhoto (c : Coordinator L) (a : Active) : Returned L := do
  let floor := if a.status = .failed then some a.notBefore else none
  let state ← persisted c.state
    (markDelivering c.state a.slotId a.ownerToken (E.logicalNowFrom c.state floor))
  match state.payload.active with
  | none => ({ c with state } : Coordinator L).rest
  | some successor =>
      if successor.status = .delivering then
        c.progress (E.deliveryTransaction ans state successor)
      else ({ c with state } : Coordinator L).rest

/-- The slot that was loaded again is the slot that was read. -/
def deliverable (a : Active) (fresh : Option Active) : Bool :=
  sameActive a fresh a.status && fresh.any fun b => b.artifact = a.artifact &&
    b.caption = a.caption && b.configFingerprint = E.config.configFingerprint &&
      b.destinationFingerprint = E.destinationFingerprint

def deliver (c : Coordinator L) (a : Active) (now : ℤ) : Returned L := do
  raised (require (a.artifact ≠ none) "active slot has no artifact")
  if ¬ ans.photo then c.progress (persisted c.state (artifactUnavailable c.state a now))
  else if E.deliverable a c.state.payload.active then E.deliverPhoto ans c a
  else c.rest

/-- `_MAX_RESTART_RETRY_S` -/
def maxRestartRetry : ℤ := 86400 * E.second

/-- The deadline that `_retry_due` finds or puts in. -/
def retryDeadline (c : Coordinator L) (a : Active) : RetryKey × ℤ :=
  let key : RetryKey := { slotId := a.slotId, status := a.status, notBefore := a.notBefore }
  let fresh := E.monotonic + max 0 (min E.maxRestartRetry (a.notBefore - E.wallTick))
  match c.retryDeadline with
  | some (known, deadline) => if known = key then (known, deadline) else (key, fresh)
  | none => (key, fresh)

def retryFailed (c : Coordinator L) (a : Active) : Returned L :=
  if a.retryable ≠ some true then c.rest
  else
    let deadline := E.retryDeadline c a
    let waited : Coordinator L := { c with retryDeadline := some deadline }
    if E.monotonic < deadline.2 then waited.rest
    else
      let dueNow := E.logicalNowFrom c.state (some a.notBefore)
      match a.failurePhase with
      | some .render => do
          let slot : PeriodicSlot :=
            { slotId := a.slotId
              slotStart := a.slotStart
              slotEnd := a.slotEnd
              intervalS := a.intervalS }
          let pending ← allocatePending c.state slot E.config ans.generationId ans.ownerToken
            a.displayTime dueNow (some E.destinationFingerprint)
          waited.progress (persist c.state pending)
      | some .delivery => E.deliver ans waited a dueNow
      | _ => waited.rest

/-- A slot that no newer one overtakes. -/
def reconcileCurrent (c : Coordinator L) (a : Active) : Returned L :=
  match a.status with
  | .rendering => E.recoverRendering ans c a
  | .failed => E.retryFailed ans c a
  | .pending => E.renderPending ans c a
  | .ready =>
      if c.state.payload.full ∧ c.state.payload.health.status = "paused_unknown_capacity" then
        c.rest
      else E.deliver ans c a (E.logicalNow c.state)
  | _ => c.rest

/-- The configuration and the destination are still those of the slot. -/
def current (a : Active) : Prop :=
  a.configFingerprint = E.config.configFingerprint ∧
    a.destinationFingerprint = E.destinationFingerprint

instance (a : Active) : Decidable (E.current a) :=
  inferInstanceAs (Decidable (_ ∧ _))

/-- The failure of a slot whose configuration has changed. -/
def configChanged (s : PeriodicStateDocument L) (a : Active) :
    Checked (PeriodicStateDocument L) :=
  let phase := if a.status = .failed then pyText (a.failurePhase.map (·.text)) else "config"
  let certainty :=
    if a.status = .failed then pyText (a.certainty.map (·.text)) else "not_applicable"
  markTerminalFailure s phase certainty "periodic_config_changed"
    "periodic configuration changed before completion" a.slotId a.ownerToken (E.logicalNow s)

/-- The delivery that was under way when the coordinator recovered. -/
def recoverDelivering (c : Coordinator L) (a : Active) : Returned L := do
  let state ← persisted c.state (markDeliveryUnknown c.state "coordinator_recovered_delivering"
    "delivery outcome was unresolved when the coordinator recovered" a.slotId a.ownerToken
    (E.logicalNow c.state))
  ({ c with state } : Coordinator L).rest

/-- `_reconcile_step` with an active slot -/
def reconcileActive (c : Coordinator L) (latest : PeriodicSlot) (a : Active) : Returned L :=
  let now := E.logicalNow c.state
  if a.isTerminal then c.progress (persisted c.state (rotateTerminalActive c.state now))
  else if a.status = .delivering then E.recoverDelivering c a
  else if ¬ E.current a then c.progress (persisted c.state (E.configChanged c.state a))
  else if a.slotEnd < latest.slotEnd then
    c.progress (persisted c.state (supersedeActive c.state latest.slotEnd now))
  else E.reconcileCurrent ans c a

def reconcileStep (c : Coordinator L) : Returned L := do
  let c ← E.refreshIfDue c
  let latest ← latestCompletedSlot L E.wallTime E.config.intervalS
  match c.state.payload.active with
  | none => E.allocateLatest ans c latest
  | some a => E.reconcileActive ans c latest a

end Setting

end Periodic
end CryoDaq
