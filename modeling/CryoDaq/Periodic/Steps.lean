import CryoDaq.Periodic.Gate

/-!
# What the helpers do

Each helper is inverted once: what it requires of the state that it is given and
the payload that it returns.  `Helper` says that one state is what some helper
returns on the other.
-/

namespace CryoDaq
namespace Periodic

variable {L : Library} {s t : PeriodicStateDocument L} {b : Active}
variable {slotId ownerToken : String} {now : ℤ}

theorem PeriodicStateDocument.ext_payload (h : s.payload = t.payload) : s = t := by
  cases s
  cases t
  cases h
  rfl

@[simp] theorem stateDocument_eq_ok {p : Payload} : stateDocument L p = .ok t ↔ t.payload = p := by
  unfold stateDocument
  constructor
  · intro h
    split at h
    · cases h
      rfl
    · cases h
  · rintro rfl
    split
    · rfl
    · rename_i e he
      rw [t.valid] at he
      cases he

@[simp] theorem validatedHash_eq_ok {value field v : String} :
    validatedHash value field = .ok v ↔ hashText value = true ∧ value = v := by
  simp only [validatedHash, bind_eq_ok, exists_unit, require_eq_ok, pure_eq_ok]

@[simp] theorem validatedToken_eq_ok {value field v : String} :
    validatedToken value field = .ok v ↔ tokenText value = true ∧ value = v := by
  simp only [validatedToken, bind_eq_ok, exists_unit, require_eq_ok, pure_eq_ok]

@[simp] theorem validatedCode_eq_ok {value v : String} :
    validatedCode value = .ok v ↔ codeText value = true ∧ value = v := by
  simp only [validatedCode, bind_eq_ok, exists_unit, require_eq_ok, pure_eq_ok]

@[simp] theorem finiteTime_eq_ok {value v : ℤ} {field : String} :
    finiteTime value field = .ok v ↔ 0 ≤ value ∧ value = v := by
  simp only [finiteTime, bind_eq_ok, exists_unit, require_eq_ok, pure_eq_ok]

theorem eq_of_validatedText {value v : String} (h : validatedText L value = .ok v) : value = v := by
  simp only [validatedText, bind_eq_ok, exists_unit, pure_eq_ok] at h
  exact h.2.2

theorem eq_of_validatedCaption {value v : String} (h : validatedCaption L value = .ok v) :
    value = v := by
  simp only [validatedCaption, bind_eq_ok, exists_unit, pure_eq_ok] at h
  exact h.2.2

theorem eq_of_validatedDisplayTime {value v : String} (h : validatedDisplayTime value = .ok v) :
    value = v := by
  simp only [validatedDisplayTime, bind_eq_ok, exists_unit, pure_eq_ok] at h
  exact h.2.2

theorem eq_of_validateArtifact {artifact verified : PeriodicArtifact} {generationId : String}
    (h : validateArtifact artifact generationId = .ok verified) : artifact = verified := by
  simp only [validateArtifact, bind_eq_ok, exists_unit, pure_eq_ok] at h
  obtain ⟨_, _, _, _, _, _, _, _, heq⟩ := h
  exact heq

theorem eq_of_optionalCode {code v : Option String} (h : validatedOptionalCode code = .ok v) :
    code = v := by
  cases code with
  | none => exact Except.ok.inj h
  | some value =>
      simp only [validatedOptionalCode, bind_eq_ok, validatedCode_eq_ok, pure_eq_ok] at h
      obtain ⟨_, ⟨_, rfl⟩, rfl⟩ := h
      rfl

theorem healthPayload_eq {status text : String} {code : Option String} {health : Health}
    (h : healthPayload L status code text now = .ok health) :
    health = { status, errorCode := code, errorText := text, updatedAt := now } := by
  simp only [healthPayload, bind_eq_ok, exists_unit, pure_eq_ok, finiteTime_eq_ok] at h
  obtain ⟨_, _, hcode, _, htext, _, ⟨_, rfl⟩, rfl⟩ := h
  rw [eq_of_optionalCode hcode, eq_of_validatedText htext]

/-- What the proofs use of a valid slot. -/
structure Active.Sound (L : Library) (a : Active) (highWater : Option ℤ) : Prop where
  slotHash : hashText a.slotId = true
  interval : a.slotEnd - a.slotStart = a.intervalS
  within : highWater.any (a.slotEnd ≤ ·) = true
  windowEnd : a.windowEnd = a.slotEnd
  display : validatedDisplayTime a.displayTime = .ok a.displayTime
  fingerprint : hashText a.configFingerprint = true
  destination : hashText a.destinationFingerprint = true
  generation : tokenText a.generationId = true
  owner : tokenText a.ownerToken = true
  text : validatedText L a.errorText = .ok a.errorText
  unfailed : a.status ≠ .failed → a.status ≠ .deliveryUnknown → a.Unfailed
  unfinished : a.status ∉ [.succeeded, .failed, .deliveryUnknown] → a.finishedAt = none
  failure : a.status = .failed → validateFailure a = .ok ()
  rendered : a.status = .failed → a.failurePhase = some .render → 1 ≤ a.renderAttemptCount

theorem Active.sound {a : Active} {highWater : Option ℤ}
    (h : validateActive L a highWater = .ok ()) : a.Sound L highWater := by
  simp only [validateActive, validateActiveSlot, validateAttempts, bind_eq_ok, exists_unit,
    require_eq_ok, validatedHash_eq_ok, validatedToken_eq_ok] at h
  obtain ⟨⟨_, ⟨hslot, _⟩, _, ⟨_, hinterval⟩, _, _, ⟨hwindow, _⟩, _, hdisplay, hwithin⟩, _,
    ⟨hconfig, _⟩, _, ⟨hdestination, _⟩, _, ⟨hgeneration, _⟩, _, ⟨howner, _⟩, _, _, _, _, _, _, _, _, _, _, _, _, _,
    htext, _, _, _, _, _, hevidence, hunfinished, _, _, _, hrendered, _⟩ := h
  refine ⟨hslot, hinterval, hwithin, hwindow, ?_, hconfig, hdestination, hgeneration, howner, ?_, ?_,
    hunfinished, ?_, fun hs hp => hrendered ⟨hs, hp⟩⟩
  · rwa [← eq_of_validatedDisplayTime hdisplay] at hdisplay
  · rwa [← eq_of_validatedText htext] at htext
  · intro hfailed hunknown
    rw [validateEvidence, if_neg hfailed, if_neg hunknown, require_eq_ok] at hevidence
    exact hevidence
  · intro hfailed
    rwa [validateEvidence, if_pos hfailed] at hevidence

theorem PeriodicStateDocument.sound (hb : s.payload.active = some b) :
    b.Sound L s.payload.highWaterSlotEnd := by
  have h := s.valid
  simp only [validateDocument, bind_eq_ok, exists_unit, validateOptional_eq_ok] at h
  exact Active.sound (h.2.1 b hb)

theorem PeriodicStateDocument.active_le (hb : s.payload.active = some b) :
    b.updatedAt ≤ s.payload.updatedAt := by
  have h := s.valid
  simp only [validateDocument, validateDocumentTimes, bind_eq_ok, exists_unit,
    require_eq_ok] at h
  obtain ⟨_, _, _, _, _, _, _, _, ⟨_, _, _, hactive, _⟩, _⟩ := h
  rw [hb] at hactive
  exact of_decide_eq_true hactive

theorem PeriodicStateDocument.health_le : s.payload.health.updatedAt ≤ s.payload.updatedAt := by
  have h := s.valid
  simp only [validateDocument, validateDocumentTimes, bind_eq_ok, exists_unit,
    require_eq_ok] at h
  obtain ⟨_, _, _, _, _, _, _, _, ⟨_, _, hhealth, _⟩, _⟩ := h
  exact hhealth

/-- The fence and the time that a helper has checked. -/
structure Fenced (s : PeriodicStateDocument L) (b : Active) (slotId ownerToken : String)
    (now : ℤ) : Prop where
  active : s.payload.active = some b
  slot : b.slotId = slotId
  owner : b.ownerToken = ownerToken
  nonneg : 0 ≤ now
  time : s.payload.updatedAt ≤ now

@[simp] theorem transitionTime_eq_ok {p : Payload} {timestamp : ℤ} :
    transitionTime p now = .ok timestamp ↔ 0 ≤ now ∧ p.updatedAt ≤ now ∧ now = timestamp := by
  simp only [transitionTime, bind_eq_ok, exists_unit, finiteTime_eq_ok, require_eq_ok,
    pure_eq_ok]
  constructor
  · rintro ⟨_, ⟨hnonneg, rfl⟩, hle, heq⟩
    exact ⟨hnonneg, hle, heq⟩
  · rintro ⟨hnonneg, hle, heq⟩
    exact ⟨now, ⟨hnonneg, rfl⟩, hle, heq⟩

theorem transitionContext_eq_ok {c : Context} {allowed : List PeriodicStatus} :
    transitionContext s slotId ownerToken now allowed = .ok c ↔
      Fenced s c.active slotId ownerToken now ∧ c.active.status ∈ allowed ∧ c.timestamp = now := by
  simp only [transitionContext, bind_eq_ok, transitionTime_eq_ok]
  constructor
  · rintro ⟨timestamp, ⟨hnonneg, hle, rfl⟩, h⟩
    cases hactive : s.payload.active with
    | none =>
        rw [hactive] at h
        cases h
    | some active =>
        rw [hactive] at h
        simp only [bind_eq_ok, exists_unit, validatedHash_eq_ok, validatedToken_eq_ok,
          require_eq_ok, pure_eq_ok] at h
        obtain ⟨_, ⟨_, rfl⟩, hslot, _, ⟨_, rfl⟩, howner, hstatus, _, rfl⟩ := h
        exact ⟨⟨hactive, hslot, howner, hnonneg, hle⟩, hstatus, rfl⟩
  · rintro ⟨hf, hstatus, htime⟩
    have hsound := s.sound hf.active
    refine ⟨now, ⟨hf.nonneg, hf.time, rfl⟩, ?_⟩
    rw [hf.active]
    simp only [bind_eq_ok, exists_unit, validatedHash_eq_ok, validatedToken_eq_ok,
      require_eq_ok, pure_eq_ok]
    refine ⟨slotId, ⟨hf.slot ▸ hsound.slotHash, rfl⟩, hf.slot, ownerToken,
      ⟨hf.owner ▸ hsound.owner, rfl⟩, hf.owner, hstatus, (s.active_le hf.active).trans hf.time, ?_⟩
    cases c
    cases htime
    rfl

/-! ## What each helper returns -/

/-- The slot that `mark_rendering` writes. -/
def Active.rendering (b : Active) : Active :=
  { b with status := .rendering, renderAttemptCount := b.renderAttemptCount + 1 : Active }.clearFailure

theorem markRendering_cases (h : markRendering s slotId ownerToken now = .ok t) :
    ∃ b, Fenced s b slotId ownerToken now ∧ b.status = .pending ∧
      t.payload = s.payload.touch b.rendering now := by
  simp only [markRendering, bind_eq_ok, exists_unit, require_eq_ok, stateDocument_eq_ok,
    transitionContext_eq_ok] at h
  obtain ⟨c, ⟨hf, hstatus, htime⟩, _, ht⟩ := h
  rw [htime] at ht
  exact ⟨c.active, hf, List.mem_singleton.mp hstatus, ht⟩

/-- The slot that `mark_ready` writes. -/
def Active.readied (b : Active) (artifact : PeriodicArtifact) (caption : String) (now : ℤ) :
    Active :=
  { b with artifact := some artifact, caption, status := .ready, notBefore := now : Active }.clearFailure

theorem markReady_cases {artifact : PeriodicArtifact} {caption : String}
    (h : markReady s artifact caption slotId ownerToken now = .ok t) :
    ∃ b, Fenced s b slotId ownerToken now ∧ b.status = .rendering ∧
      t.payload = s.payload.touch (b.readied artifact caption now) now := by
  simp only [markReady, bind_eq_ok, stateDocument_eq_ok, transitionContext_eq_ok] at h
  obtain ⟨c, ⟨hf, hstatus, htime⟩, verified, hverified, text, htext, ht⟩ := h
  rw [htime, ← eq_of_validateArtifact hverified, ← eq_of_validatedCaption htext] at ht
  exact ⟨c.active, hf, List.mem_singleton.mp hstatus, ht⟩

theorem validateFailureFields_eq_ok {phase certainty : String} {fields : FailureFields}
    (h : validateFailureFields phase certainty = .ok fields) :
    phase = fields.phase.text ∧ certainty = fields.certainty.text := by
  unfold validateFailureFields at h
  split at h
  · rename_i p c hp hc
    cases h
    exact ⟨FailurePhase.text_of_ofText hp, Certainty.text_of_ofText hc⟩
  · cases h
  · cases h

/-- The slot whose failure counts as one more render attempt. -/
def Active.attempted (b : Active) (counts : Prop) [Decidable counts] : Active :=
  if counts then { b with renderAttemptCount := b.renderAttemptCount + 1 } else b

theorem markRetryableFailure_cases {phase certainty code text : String} {notBefore : ℤ}
    (h : markRetryableFailure s phase certainty code text notBefore slotId ownerToken now = .ok t) :
    ∃ (b : Active) (fields : FailureFields), Fenced s b slotId ownerToken now ∧
      phase = fields.phase.text ∧ certainty = fields.certainty.text ∧
      requirePhaseCertainty fields.phase fields.certainty = .ok () ∧
      (fields.phase = .render ∧ b.status ∈ [.pending, .rendering] ∨
        fields.phase = .delivery ∧ b.status = .delivering) ∧
      t.payload = s.payload.touch
        { (b.attempted (fields.phase = .render ∧ b.status = .pending)).fail fields true code text
          none with notBefore } now := by
  simp only [markRetryableFailure, bind_eq_ok, exists_unit, require_eq_ok, stateDocument_eq_ok,
    transitionContext_eq_ok, finiteTime_eq_ok, validatedCode_eq_ok] at h
  obtain ⟨fields, hfields, hphase, c, ⟨hf, hstatus, htime⟩, hcertainty, _, _, ⟨_, rfl⟩, _, _,
    ⟨_, rfl⟩, errorText, htext, ht⟩ := h
  obtain ⟨rfl, rfl⟩ := validateFailureFields_eq_ok hfields
  rw [htime, ← eq_of_validatedText htext] at ht
  refine ⟨c.active, fields, hf, rfl, rfl, hcertainty, ?_, ht⟩
  rcases hphase with hrender | hdelivery
  · rw [if_pos hrender] at hstatus
    exact .inl ⟨hrender, hstatus⟩
  · rw [if_neg (by rw [hdelivery]; decide)] at hstatus
    exact .inr ⟨hdelivery, List.mem_singleton.mp hstatus⟩

/-- The failures that end a slot, by the status before. -/
def TerminalPhase (b : Active) (phase : FailurePhase) : Prop :=
  (b.status = .failed → b.retryable = some true ∧ b.failurePhase = some phase) ∧
    (b.status = .delivering → phase = .delivery) ∧
    (phase = .delivery → b.status ∈ [.delivering, .failed]) ∧
    (phase = .render → b.status ∈ [.pending, .rendering, .failed])

theorem markTerminalFailure_cases {phase certainty code text : String}
    (h : markTerminalFailure s phase certainty code text slotId ownerToken now = .ok t) :
    ∃ (b : Active) (fields : FailureFields), Fenced s b slotId ownerToken now ∧
      phase = fields.phase.text ∧ certainty = fields.certainty.text ∧
      requirePhaseCertainty fields.phase fields.certainty = .ok () ∧
      b.status ∈ [.pending, .rendering, .ready, .delivering, .failed] ∧
      TerminalPhase b fields.phase ∧
      t.payload = s.payload.touch
        ((b.attempted (fields.phase = .render ∧ b.status = .pending ∧
          b.renderAttemptCount < b.maxRenderAttempts)).fail fields false code text (some now))
        now := by
  simp only [markTerminalFailure, bind_eq_ok, exists_unit, require_eq_ok, stateDocument_eq_ok,
    transitionContext_eq_ok, validatedCode_eq_ok] at h
  obtain ⟨c, ⟨hf, hstatus, htime⟩, hretryable, fields, hfields, hcertainty, hdelivering, hdelivery,
    hrender, hpreserved, _, ⟨_, rfl⟩, errorText, htext, ht⟩ := h
  obtain ⟨rfl, rfl⟩ := validateFailureFields_eq_ok hfields
  rw [htime, ← eq_of_validatedText htext] at ht
  exact ⟨c.active, fields, hf, rfl, rfl, hcertainty, hstatus,
    ⟨fun hs => ⟨hretryable hs, hpreserved hs⟩, hdelivering, hdelivery, hrender⟩, ht⟩

/-- The health that a full ledger leaves. -/
def paused (now : ℤ) : Health :=
  { status := "paused_unknown_capacity"
    errorCode := some "delivery_paused_unknown_capacity"
    errorText := "delivery paused because unresolved evidence capacity is full"
    updatedAt := now }

/-- A payload whose delivery waits for room in the ledger. -/
def Payload.paused (p : Payload) (now : ℤ) : Payload := { p with health := Periodic.paused now }

def Active.waiting (b : Active) (now : ℤ) : Active :=
  { b with status := .ready, notBefore := now : Active }.clearFailure

/-- The slot that `mark_delivering` sends. -/
def Active.delivering (b : Active) : Active :=
  { b with
    status := .delivering, deliveryAttemptCount := b.deliveryAttemptCount + 1 : Active }.clearFailure

theorem markDelivering_cases (h : markDelivering s slotId ownerToken now = .ok t) :
    ∃ b, Fenced s b slotId ownerToken now ∧ b.status ∈ [.ready, .failed] ∧
      (b.status = .failed → b.retryable = some true ∧ b.failurePhase = some .delivery) ∧
      (maxUnresolvedDeliveries ≤ s.payload.unresolvedDelivery.length ∧
          t.payload = (s.payload.paused now).touch (b.waiting now) now ∨
        s.payload.unresolvedDelivery.length < maxUnresolvedDeliveries ∧
          t.payload = s.payload.touch b.delivering now) := by
  simp only [markDelivering, bind_eq_ok, exists_unit, require_eq_ok, transitionContext_eq_ok] at h
  obtain ⟨c, ⟨hf, hstatus, htime⟩, hdue, _, h⟩ := h
  refine ⟨c.active, hf, hstatus, fun hs => ⟨(hdue hs).1, (hdue hs).2.1⟩, ?_⟩
  split at h
  · simp only [bind_eq_ok, stateDocument_eq_ok] at h
    obtain ⟨health, hhealth, ht⟩ := h
    rw [htime] at hhealth ht
    rw [healthPayload_eq hhealth] at ht
    exact .inl ⟨‹_›, ht⟩
  · simp only [bind_eq_ok, exists_unit, require_eq_ok, stateDocument_eq_ok] at h
    rw [htime] at h
    exact .inr ⟨Nat.lt_of_not_le ‹_›, h.2⟩

/-- The slot that `mark_succeeded` ends. -/
def Active.succeeded (b : Active) (receipt : PeriodicDeliveryReceipt) (now : ℤ) : Active :=
  { b with status := .succeeded, receipt := some receipt, finishedAt := some now }

theorem markSucceeded_cases {receipt : PeriodicDeliveryReceipt}
    (h : markSucceeded s receipt slotId ownerToken now = .ok t) :
    ∃ b, Fenced s b slotId ownerToken now ∧ b.status = .delivering ∧
      t.payload = s.payload.touch (b.succeeded receipt now) now := by
  simp only [markSucceeded, bind_eq_ok, stateDocument_eq_ok, transitionContext_eq_ok] at h
  obtain ⟨c, ⟨hf, hstatus, htime⟩, ht⟩ := h
  rw [htime] at ht
  exact ⟨c.active, hf, List.mem_singleton.mp hstatus, ht⟩

def Active.unknown (b : Active) (code text : String) (now : ℤ) : Active :=
  { b with
    status := .deliveryUnknown
    failurePhase := some .delivery
    retryable := some false
    certainty := some .unknown
    errorCode := some code
    errorText := text
    finishedAt := some now }

theorem markDeliveryUnknown_cases {code text : String}
    (h : markDeliveryUnknown s code text slotId ownerToken now = .ok t) :
    ∃ (b : Active) (artifact : PeriodicArtifact), Fenced s b slotId ownerToken now ∧
      b.status = .delivering ∧ b.artifact = some artifact ∧
      b.slotId ∉ s.payload.unresolvedDelivery.map (·.slotId) ∧
      t.payload = { s.payload with unresolvedDelivery := s.payload.unresolvedDelivery ++
        [b.ambiguity artifact now code text] }.touch (b.unknown code text now) now := by
  simp only [markDeliveryUnknown, bind_eq_ok, exists_unit, require_eq_ok,
    transitionContext_eq_ok, validatedCode_eq_ok] at h
  obtain ⟨c, ⟨hf, hstatus, htime⟩, _, _, ⟨_, rfl⟩, errorText, htext, h⟩ := h
  split at h
  · cases h
  · rename_i artifact hartifact
    simp only [bind_eq_ok, exists_unit, require_eq_ok, stateDocument_eq_ok] at h
    rw [htime, ← eq_of_validatedText htext] at h
    exact ⟨c.active, artifact, hf, List.mem_singleton.mp hstatus, hartifact, h.1, h.2⟩

/-- The slot that `supersede_active` ends. -/
def Active.superseded (b : Active) (now : ℤ) : Active :=
  b.fail ⟨.scheduler, .notApplicable⟩ false "superseded_by_newer_slot"
    "slot was superseded by a newer completed interval" (some now)

theorem supersedeActive_cases {newerSlotEnd : ℤ}
    (h : supersedeActive s newerSlotEnd now = .ok t) :
    ∃ b, Fenced s b b.slotId b.ownerToken now ∧ b.slotEnd < newerSlotEnd ∧
      b.status ≠ .delivering ∧ b.isTerminal = false ∧
      ((b.status = .ready ∧ maxUnresolvedDeliveries ≤ s.payload.unresolvedDelivery.length) ∧
          t.payload = (s.payload.paused now).touch b now ∨
        ¬ (b.status = .ready ∧
            maxUnresolvedDeliveries ≤ s.payload.unresolvedDelivery.length) ∧
          t.payload = s.payload.touch (b.superseded now) now) := by
  simp only [supersedeActive, bind_eq_ok, transitionTime_eq_ok] at h
  obtain ⟨timestamp, ⟨hnonneg, hle, rfl⟩, h⟩ := h
  cases hactive : s.payload.active with
  | none =>
      rw [hactive] at h
      cases h
  | some b =>
      rw [hactive] at h
      simp only [bind_eq_ok, exists_unit, require_eq_ok] at h
      obtain ⟨hnewer, hdelivering, hterminal, h⟩ := h
      refine ⟨b, ⟨hactive, rfl, rfl, hnonneg, hle⟩, hnewer, hdelivering, hterminal, ?_⟩
      split at h
      · simp only [bind_eq_ok, stateDocument_eq_ok] at h
        obtain ⟨health, hhealth, ht⟩ := h
        rw [healthPayload_eq hhealth] at ht
        exact .inl ⟨‹_›, ht⟩
      · rw [stateDocument_eq_ok] at h
        exact .inr ⟨‹_›, h⟩

theorem rotateTerminalActive_cases (h : rotateTerminalActive s now = .ok t) :
    ∃ b, Fenced s b b.slotId b.ownerToken now ∧ b.isTerminal = true ∧
      t.payload = { s.payload with
        lastTerminal := some b.terminalSummary, active := none, updatedAt := now } := by
  simp only [rotateTerminalActive, bind_eq_ok, transitionTime_eq_ok] at h
  obtain ⟨timestamp, ⟨hnonneg, hle, rfl⟩, h⟩ := h
  cases hactive : s.payload.active with
  | none =>
      rw [hactive] at h
      cases h
  | some b =>
      rw [hactive] at h
      simp only [bind_eq_ok, exists_unit, require_eq_ok, stateDocument_eq_ok] at h
      exact ⟨b, ⟨hactive, rfl, rfl, hnonneg, hle⟩, h.1, h.2⟩

theorem setPeriodicHealth_cases {status text : String} {code : Option String}
    (h : setPeriodicHealth s status code text now = .ok t) :
    s.payload.updatedAt ≤ now ∧
      t.payload = { s.payload with
        health := { status, errorCode := code, errorText := text, updatedAt := now }
        updatedAt := now } := by
  simp only [setPeriodicHealth, bind_eq_ok, transitionTime_eq_ok, stateDocument_eq_ok] at h
  obtain ⟨timestamp, ⟨_, hle, rfl⟩, health, hhealth, ht⟩ := h
  rw [healthPayload_eq hhealth] at ht
  exact ⟨hle, ht⟩

end Periodic
end CryoDaq
