import CryoDaq.Periodic.Reconcile
import CryoDaq.Periodic.Agreement

/-!
# Reconciliation settles

Every call that makes progress takes the slot one stage further: a slot is allocated, rendered,
delivered and rotated away, and each attempt is counted.  The exception is a READY slot that a
newer one overtakes while the ledger of unresolved deliveries is full.  Its supersession writes the
state again, leaves the slot READY and is called progress, so no call rests.
-/

namespace CryoDaq
namespace Periodic

variable {L : Library} {s t m : PeriodicStateDocument L} {a b : Active} {c c' : Coordinator L}
variable {E : Setting} {ans : Answers} {latest : PeriodicSlot}

@[simp] theorem persist_eq_ok {u : PeriodicStateDocument L} :
    persist s t = .ok u ↔ enforceDurableTransition s t = .ok () ∧ t = u := by
  simp only [persist, bind_eq_ok, exists_unit, pure_eq_ok]

theorem of_persisted {x : Checked (PeriodicStateDocument L)} (h : persisted s x = .ok t) :
    x = .ok t := by
  simp only [persisted, bind_eq_ok, raised_eq_ok, persist_eq_ok] at h
  obtain ⟨_, hx, _, rfl⟩ := h
  exact hx

@[simp] theorem Coordinator.rest_eq_ok {progress : Bool} :
    c.rest = .ok (c', progress) ↔ c = c' ∧ false = progress := by
  rw [Coordinator.rest, Except.ok.injEq, Prod.mk.injEq]

@[simp] theorem Coordinator.progress_eq_ok {progress : Bool}
    {written : Except PeriodicError (PeriodicStateDocument L)} :
    c.progress written = .ok (c', progress) ↔
      ∃ state, written = .ok state ∧ { c with state } = c' ∧ true = progress := by
  simp only [Coordinator.progress, bind_eq_ok, pure_eq_ok, Prod.mk.injEq]

/-- `t` differs from `s` in nothing but the health. -/
structure HealthOnly (s t : PeriodicStateDocument L) : Prop where
  highWater : t.payload.highWaterSlotEnd = s.payload.highWaterSlotEnd
  active : t.payload.active = s.payload.active
  ledger : t.payload.unresolvedDelivery = s.payload.unresolvedDelivery

theorem HealthOnly.refl (s : PeriodicStateDocument L) : HealthOnly s s := ⟨rfl, rfl, rfl⟩

theorem HealthOnly.full (h : HealthOnly s t) : t.payload.full ↔ s.payload.full := by
  rw [Payload.full, Payload.full, h.ledger]

theorem setHealth_healthOnly {shown : Setting.Shown} (h : E.setHealth s shown = .ok t) :
    HealthOnly s t := by
  simp only [Setting.setHealth, bind_eq_ok, raised_eq_ok] at h
  obtain ⟨candidate, hset, h⟩ := h
  obtain ⟨_, hcandidate⟩ := setPeriodicHealth_cases hset
  split at h
  · rw [persist_eq_ok] at h
    rw [← h.2]
    constructor <;> rw [hcandidate]
  · rw [pure_eq_ok] at h
    rw [← h]
    exact .refl s

theorem setProjectionHealth_healthOnly (h : E.setProjectionHealth s = .ok t) : HealthOnly s t := by
  unfold Setting.setProjectionHealth at h
  split at h
  · exact setHealth_healthOnly h
  · split at h
    · exact setHealth_healthOnly h
    · split at h
      · exact setHealth_healthOnly h
      · exact setHealth_healthOnly h

theorem refreshIfDue_healthOnly (h : E.refreshIfDue c = .ok c') : HealthOnly c.state c'.state := by
  unfold Setting.refreshIfDue at h
  split at h
  · simp only [bind_eq_ok, pure_eq_ok] at h
    obtain ⟨state, hset, rfl⟩ := h
    exact setProjectionHealth_healthOnly hset
  · rw [pure_eq_ok] at h
    rw [← h]
    exact .refl _

theorem sealedSnapshot_healthOnly (h : E.sealedSnapshot c = .ok c') :
    HealthOnly c.state c'.state := by
  simp only [Setting.sealedSnapshot, bind_eq_ok, pure_eq_ok] at h
  obtain ⟨state, hset, rfl⟩ := h
  exact setProjectionHealth_healthOnly hset

theorem ensureInput_healthOnly (h : E.ensureInput ans c = .ok c') :
    HealthOnly c.state c'.state := by
  have hkept (h : (pure c : Except PeriodicError (Coordinator L)) = .ok c') :
      HealthOnly c.state c'.state := by
    rw [pure_eq_ok] at h
    rw [← h]
    exact .refl _
  unfold Setting.ensureInput at h
  split at h
  · exact hkept h
  · exact hkept h
  · exact sealedSnapshot_healthOnly h
  · exact sealedSnapshot_healthOnly h

/-- The renders and the deliveries that a slot may still try. -/
def Active.rendersLeft (a : Active) : ℕ := (10 - a.renderAttemptCount).toNat
def Active.deliveriesLeft (a : Active) : ℕ := (10 - a.deliveryAttemptCount).toNat

/-- How far a slot is from its end. -/
def Active.stage (a : Active) : ℕ :=
  if a.isTerminal then 1
  else match a.status with
    | .rendering => 26 + 3 * a.rendersLeft
    | .pending => 24 + 3 * a.rendersLeft
    | .delivering => 3 + 2 * a.deliveriesLeft
    | .failed =>
        if a.failurePhase = some .render then 25 + 3 * a.rendersLeft
        else 2 + 2 * a.deliveriesLeft
    | _ => 2 + 2 * a.deliveriesLeft

/-- The stage of a state; without a slot there is nothing to do. -/
def stage : Option Active → ℕ
  | none => 0
  | some a => a.stage

/-- The attempts that a valid slot has counted. -/
structure Active.Counted (a : Active) : Prop where
  renders : 0 ≤ a.renderAttemptCount ∧ a.renderAttemptCount ≤ 10
  deliveries : 0 ≤ a.deliveryAttemptCount ∧ a.deliveryAttemptCount ≤ 10

theorem PeriodicStateDocument.counted (ha : s.payload.active = some a) : a.Counted := by
  have h := s.valid
  simp only [validateDocument, bind_eq_ok, exists_unit, validateOptional_eq_ok] at h
  have hactive := h.2.1 a ha
  simp only [validateActive, bind_eq_ok, exists_unit, exactInt, require_eq_ok] at hactive
  obtain ⟨_, _, _, _, _, _, _, _, _, hrenders, hdeliveries, _⟩ := hactive
  exact ⟨hrenders, hdeliveries⟩

theorem Active.stage_terminal (h : a.isTerminal = true) : a.stage = 1 := by
  rw [Active.stage, if_pos h]

theorem Active.one_lt_stage (h : a.isTerminal = false) : 1 < a.stage := by
  rw [Active.stage, if_neg (by rw [h]; decide)]
  split
  all_goals try split
  all_goals omega

theorem Active.isTerminal_of_live (hfailed : a.status ≠ .failed)
    (hsucceeded : a.status ≠ .succeeded)
    (hunknown : a.status ≠ .deliveryUnknown) : a.isTerminal = false := by
  simp [Active.isTerminal, hfailed, hsucceeded, hunknown]

theorem Active.isTerminal_failed (h : a.status = .failed) :
    a.isTerminal = decide (a.retryable = some false) := by
  simp [Active.isTerminal, h]

theorem Active.stage_pending (h : a.status = .pending) : a.stage = 24 + 3 * a.rendersLeft := by
  have hlive : a.isTerminal = false := by
    apply Active.isTerminal_of_live <;> rw [h] <;> decide
  rw [Active.stage, if_neg (by rw [hlive]; decide), h]

theorem Active.stage_rendering (h : a.status = .rendering) :
    a.stage = 26 + 3 * a.rendersLeft := by
  have hlive : a.isTerminal = false := by
    apply Active.isTerminal_of_live <;> rw [h] <;> decide
  rw [Active.stage, if_neg (by rw [hlive]; decide), h]

theorem Active.stage_ready (h : a.status = .ready) : a.stage = 2 + 2 * a.deliveriesLeft := by
  have hlive : a.isTerminal = false := by
    apply Active.isTerminal_of_live <;> rw [h] <;> decide
  rw [Active.stage, if_neg (by rw [hlive]; decide), h]

theorem Active.stage_delivering (h : a.status = .delivering) :
    a.stage = 3 + 2 * a.deliveriesLeft := by
  have hlive : a.isTerminal = false := by
    apply Active.isTerminal_of_live <;> rw [h] <;> decide
  rw [Active.stage, if_neg (by rw [hlive]; decide), h]

theorem Active.stage_render_failed (h : a.status = .failed) (hretryable : a.retryable = some true)
    (hphase : a.failurePhase = some .render) : a.stage = 25 + 3 * a.rendersLeft := by
  have hlive : a.isTerminal = false := by
    rw [Active.isTerminal_failed h, hretryable]
    decide
  rw [Active.stage, if_neg (by rw [hlive]; decide), h, hphase]
  rfl

theorem Active.stage_delivery_failed (h : a.status = .failed)
    (hretryable : a.retryable = some true) (hphase : a.failurePhase = some .delivery) :
    a.stage = 2 + 2 * a.deliveriesLeft := by
  have hlive : a.isTerminal = false := by
    rw [Active.isTerminal_failed h, hretryable]
    decide
  rw [Active.stage, if_neg (by rw [hlive]; decide), h, hphase]
  rfl

/-! ## One stage further -/

/-- `t` has taken the slot `a` of `s` further. -/
structure Advances (s t : PeriodicStateDocument L) (a : Active) : Prop where
  highWater : t.payload.highWaterSlotEnd = s.payload.highWaterSlotEnd
  slotEnd : ∀ b, t.payload.active = some b → b.slotEnd = a.slotEnd
  stage : stage t.payload.active < a.stage

theorem Advances.trans (hfirst : Advances s m a) (hm : m.payload.active = some b)
    (hsecond : Advances m t b) : Advances s t a where
  highWater := hsecond.highWater.trans hfirst.highWater
  slotEnd d hd := (hsecond.slotEnd d hd).trans (hfirst.slotEnd b hm)
  stage := by
    have hstage := hfirst.stage
    rw [hm] at hstage
    exact hsecond.stage.trans hstage

theorem Advances.of_healthOnly (hhealth : HealthOnly s m) (h : Advances m t a) :
    Advances s t a where
  highWater := h.highWater.trans hhealth.highWater
  slotEnd := h.slotEnd
  stage := h.stage

theorem advances_of_touch {p : Payload} {x : Active} {now : ℤ} (ht : t.payload = p.touch x now)
    (hhigh : p.highWaterSlotEnd = s.payload.highWaterSlotEnd) (hslot : x.slotEnd = a.slotEnd)
    (hstage : (x.touched now).stage < a.stage) : Advances s t a where
  highWater := by
    rw [ht]
    exact hhigh
  slotEnd d hd := by
    rw [ht, Payload.touch_active] at hd
    rw [← Option.some.inj hd]
    exact hslot
  stage := by
    rw [ht, Payload.touch_active]
    exact hstage

section Helpers

variable {slotId ownerToken : String} {now : ℤ}

theorem Fenced.eq (h : Fenced s b slotId ownerToken now) (ha : s.payload.active = some a) :
    b = a :=
  Option.some.inj (h.active.symm.trans ha)

theorem Active.attempted_slotEnd {counts : Prop} [Decidable counts] :
    (a.attempted counts).slotEnd = a.slotEnd := by
  unfold Active.attempted
  split <;> rfl

theorem markTerminalFailure_advances {phase certainty code text : String}
    (h : markTerminalFailure s phase certainty code text slotId ownerToken now = .ok t)
    (ha : s.payload.active = some a) (hlive : a.isTerminal = false) : Advances s t a := by
  obtain ⟨b, fields, hf, _, _, _, _, _, ht⟩ := markTerminalFailure_cases h
  rw [hf.eq ha] at ht
  refine advances_of_touch ht rfl Active.attempted_slotEnd ?_
  rw [Active.stage_terminal (by rfl)]
  exact Active.one_lt_stage hlive

theorem markTerminalFailure_failed {phase certainty code text : String}
    (h : markTerminalFailure s phase certainty code text slotId ownerToken now = .ok t)
    (hb : t.payload.active = some b) : b.status = .failed := by
  obtain ⟨_, _, _, _, _, _, _, _, ht⟩ := markTerminalFailure_cases h
  rw [ht, Payload.touch_active] at hb
  rw [← Option.some.inj hb]
  rfl

theorem markReady_advances {artifact : PeriodicArtifact} {caption : String}
    (h : markReady s artifact caption slotId ownerToken now = .ok t)
    (ha : s.payload.active = some a) : Advances s t a := by
  obtain ⟨b, hf, hb, ht⟩ := markReady_cases h
  rw [hf.eq ha] at hb ht
  have hcounted := s.counted ha
  refine advances_of_touch ht rfl rfl ?_
  rw [Active.stage_rendering hb, Active.stage_ready rfl]
  have hleft : ((a.readied artifact caption now).touched now).deliveriesLeft ≤ 10 := by
    have hdeliveries := hcounted.deliveries
    simp only [Active.deliveriesLeft, Active.touched, Active.readied, Active.clearFailure]
    omega
  omega

theorem markRendering_advances (h : markRendering s slotId ownerToken now = .ok t)
    (ha : s.payload.active = some a) :
    Advances s t a ∧ ∃ r, t.payload.active = some r ∧ r.status = .rendering := by
  obtain ⟨b, hf, hb, ht⟩ := markRendering_cases h
  rw [hf.eq ha] at hb ht
  have hactive : t.payload.active = some (a.rendering.touched now) := by
    rw [ht, Payload.touch_active]
  have hrenders := (t.counted hactive).renders
  refine ⟨advances_of_touch ht rfl rfl ?_, _, hactive, rfl⟩
  rw [Active.stage_pending hb, Active.stage_rendering rfl]
  simp only [Active.rendersLeft, Active.touched, Active.rendering, Active.clearFailure]
    at hrenders ⊢
  omega

theorem FailurePhase.text_inj {p q : FailurePhase} (h : p.text = q.text) : p = q := by
  have hparsed := congrArg FailurePhase.ofText h
  rw [FailurePhase.ofText_text, FailurePhase.ofText_text] at hparsed
  exact Option.some.inj hparsed

theorem markRetryableFailure_render_advances {certainty code text : String} {notBefore : ℤ}
    (h : markRetryableFailure s "render" certainty code text notBefore slotId ownerToken now =
      .ok t) (ha : s.payload.active = some a) : Advances s t a := by
  obtain ⟨b, fields, hf, hphase, _, _, hstatus, ht⟩ := markRetryableFailure_cases h
  rw [hf.eq ha] at hstatus ht
  have hrender : fields.phase = .render := (FailurePhase.text_inj (p := .render) hphase).symm
  have hactive := congrArg Payload.active ht
  rw [Payload.touch_active] at hactive
  have hrenders := (t.counted hactive).renders
  refine advances_of_touch ht rfl Active.attempted_slotEnd ?_
  rw [Active.stage_render_failed rfl rfl (congrArg some hrender)]
  rcases hstatus with ⟨_, hpre⟩ | ⟨hdelivery, _⟩
  · rcases List.mem_cons.mp hpre with hb | hpre
    · rw [Active.stage_pending hb]
      simp only [Active.rendersLeft, Active.touched, Active.fail, Active.attempted, hrender, hb,
        and_self, if_true] at hrenders ⊢
      omega
    · have hb := List.mem_singleton.mp hpre
      rw [Active.stage_rendering hb]
      simp only [Active.rendersLeft, Active.touched, Active.fail, Active.attempted, hrender, hb,
        reduceCtorEq, and_false, if_false]
      omega
  · rw [hrender] at hdelivery
    cases hdelivery

theorem markRetryableFailure_delivery_advances {certainty code text : String} {notBefore : ℤ}
    (h : markRetryableFailure s "delivery" certainty code text notBefore slotId ownerToken now =
      .ok t) (ha : s.payload.active = some a) : Advances s t a := by
  obtain ⟨b, fields, hf, hphase, _, _, hstatus, ht⟩ := markRetryableFailure_cases h
  rw [hf.eq ha] at hstatus ht
  have hdelivery : fields.phase = .delivery :=
    (FailurePhase.text_inj (p := .delivery) hphase).symm
  refine advances_of_touch ht rfl Active.attempted_slotEnd ?_
  rw [Active.stage_delivery_failed rfl rfl (congrArg some hdelivery)]
  rcases hstatus with ⟨hrender, _⟩ | ⟨_, hb⟩
  · rw [hdelivery] at hrender
    cases hrender
  · rw [Active.stage_delivering hb]
    simp only [Active.deliveriesLeft, Active.touched, Active.fail, Active.attempted, hdelivery,
      reduceCtorEq, false_and, if_false]
    omega

theorem markSucceeded_advances {receipt : PeriodicDeliveryReceipt}
    (h : markSucceeded s receipt slotId ownerToken now = .ok t)
    (ha : s.payload.active = some a) : Advances s t a := by
  obtain ⟨b, hf, hb, ht⟩ := markSucceeded_cases h
  rw [hf.eq ha] at hb ht
  refine advances_of_touch ht rfl rfl ?_
  rw [Active.stage_terminal (by rfl), Active.stage_delivering hb]
  omega

theorem markDeliveryUnknown_advances {code text : String}
    (h : markDeliveryUnknown s code text slotId ownerToken now = .ok t)
    (ha : s.payload.active = some a) : Advances s t a := by
  obtain ⟨b, artifact, hf, hb, _, _, ht⟩ := markDeliveryUnknown_cases h
  rw [hf.eq ha] at hb ht
  refine advances_of_touch ht rfl rfl ?_
  rw [Active.stage_terminal (by rfl), Active.stage_delivering hb]
  omega

theorem markDelivering_advances (h : markDelivering s slotId ownerToken now = .ok t)
    (ha : s.payload.active = some a) (hb : t.payload.active = some b)
    (hdelivering : b.status = .delivering) : Advances s t a := by
  obtain ⟨d, hf, hstatus, hfailed, ⟨_, ht⟩ | ⟨_, ht⟩⟩ := markDelivering_cases h
  · rw [ht, Payload.touch_active] at hb
    rw [← Option.some.inj hb] at hdelivering
    cases hdelivering
  · rw [hf.eq ha] at hstatus hfailed ht
    have hactive : t.payload.active = some (a.delivering.touched now) := by
      rw [ht, Payload.touch_active]
    have hdeliveries := (t.counted hactive).deliveries
    have hstage : a.stage = 2 + 2 * a.deliveriesLeft := by
      rcases List.mem_cons.mp hstatus with hready | hstatus
      · exact Active.stage_ready hready
      · have hend := List.mem_singleton.mp hstatus
        obtain ⟨hretryable, hphase⟩ := hfailed hend
        exact Active.stage_delivery_failed hend hretryable hphase
    refine advances_of_touch ht rfl rfl ?_
    rw [hstage, Active.stage_delivering rfl]
    simp only [Active.deliveriesLeft, Active.touched, Active.delivering, Active.clearFailure]
      at hdeliveries ⊢
    omega

theorem rotateTerminalActive_advances (h : rotateTerminalActive s now = .ok t)
    (ha : s.payload.active = some a) : Advances s t a ∧ t.payload.active = none := by
  obtain ⟨b, hf, hterminal, ht⟩ := rotateTerminalActive_cases h
  rw [hf.eq ha] at hterminal
  have hnone : t.payload.active = none := by rw [ht]
  refine ⟨⟨by rw [ht], fun d hd => ?_, ?_⟩, hnone⟩
  · rw [hnone] at hd
    cases hd
  · rw [hnone, Active.stage_terminal hterminal]
    exact Nat.zero_lt_one

theorem allocatePending_active {slot : PeriodicSlot} {config : PeriodicPngConfig}
    {generationId displayTime : String} {destination : Option String}
    (h : allocatePending s slot config generationId ownerToken displayTime now destination =
      .ok t) :
    ∃ b, t.payload.active = some b ∧ b.status = .pending ∧ b.slotEnd = slot.slotEnd := by
  simp only [allocatePending, bind_eq_ok, exists_unit, raised_eq_ok] at h
  obtain ⟨_, _, _, _, _, _, _, _, _, h⟩ := h
  cases hactive : s.payload.active with
  | none =>
      rw [hactive] at h
      simp only [allocateNew, raised_eq_ok, bind_eq_ok, exists_unit, stateDocument_eq_ok] at h
      obtain ⟨_, _, _, ht⟩ := h
      exact ⟨_, by rw [ht], rfl, rfl⟩
  | some d =>
      rw [hactive] at h
      simp only [allocateRetry, raised_eq_ok, bind_eq_ok, exists_unit, stateDocument_eq_ok] at h
      obtain ⟨_, _, _, _, _, _, ht⟩ := h
      exact ⟨_, by rw [ht], rfl, rfl⟩

theorem allocatePending_advances {slot : PeriodicSlot} {config : PeriodicPngConfig}
    {generationId displayTime : String} {destination : Option String}
    (h : allocatePending s slot config generationId ownerToken displayTime now destination =
      .ok t) (ha : s.payload.active = some a) : Advances s t a := by
  rcases allocatePending_cases h with ⟨_, hnew, _⟩ | ⟨b, d, hretry, _⟩
  · have hidle := hnew.idle
    rw [ha] at hidle
    cases hidle
  · have hb : b = a := Option.some.inj (hretry.active.symm.trans ha)
    rw [hb] at hretry
    obtain ⟨hstatus, hretryable, hphase, _⟩ := hretry.due
    obtain ⟨hpending, hrenders, _⟩ := hretry.fresh
    refine ⟨by rw [hretry.payload], fun e he => ?_, ?_⟩
    · rw [hretry.active_eq] at he
      rw [← Option.some.inj he]
      exact hretry.kept.2.1
    · rw [hretry.active_eq]
      change d.stage < a.stage
      rw [Active.stage_pending hpending, Active.stage_render_failed hstatus hretryable hphase,
        Active.rendersLeft, Active.rendersLeft, hrenders]
      omega

end Helpers

/-! ## What the branches write -/

theorem recordRenderFailure_advances {code text : String}
    (h : E.recordRenderFailure s a code text = .ok t) (ha : s.payload.active = some a)
    (hlive : a.isTerminal = false) : Advances s t a := by
  unfold Setting.recordRenderFailure at h
  dsimp only at h
  split at h
  · split at h
    · exact markRetryableFailure_render_advances (of_persisted h) ha
    · exact markTerminalFailure_advances (of_persisted h) ha hlive
  · split at h
    · exact markRetryableFailure_render_advances (of_persisted h) ha
    · exact markTerminalFailure_advances (of_persisted h) ha hlive

theorem adoptRenderResult_advances {r : PeriodicRenderResult}
    (h : E.adoptRenderResult s a r = .ok t) (ha : s.payload.active = some a) :
    Advances s t a := by
  simp only [Setting.adoptRenderResult, bind_eq_ok, exists_unit] at h
  exact markReady_advances (of_persisted h.2) ha

/-- A call that makes progress has taken the slot further. -/
def Further (s : PeriodicStateDocument L) (c' : Coordinator L) (a : Active) (progress : Bool) :
    Prop :=
  progress = true → Advances s c'.state a

section Branches

variable {progress : Bool}

theorem further_of_progress {written : Except PeriodicError (PeriodicStateDocument L)}
    (h : c.progress written = .ok (c', progress))
    (hwritten : ∀ t, written = .ok t → Advances s t a) : Further s c' a progress := by
  rw [Coordinator.progress_eq_ok] at h
  obtain ⟨state, hstate, rfl, _⟩ := h
  exact fun _ => hwritten state hstate

theorem further_of_rest (h : c.rest = .ok (c', progress)) : Further s c' a progress := by
  rw [Coordinator.rest_eq_ok] at h
  rw [← h.2]
  rintro ⟨⟩

theorem recoverRendering_further (h : E.recoverRendering ans c a = .ok (c', progress))
    (ha : c.state.payload.active = some a) (hlive : a.isTerminal = false) :
    Further c.state c' a progress := by
  unfold Setting.recoverRendering at h
  split at h
  · exact further_of_progress h fun t ht => adoptRenderResult_advances ht ha
  · split at h
    · exact further_of_progress h fun t ht => recordRenderFailure_advances ht ha hlive
    · exact further_of_rest h

theorem generate_further (h : E.generate ans c a = .ok (c', progress))
    (ha : c.state.payload.active = some a) (hlive : a.isTerminal = false) :
    Further c.state c' a progress := by
  have hadopt {r : PeriodicRenderResult}
      (h : c.progress (E.adoptRenderResult c.state a r) = .ok (c', progress)) :
      Further c.state c' a progress :=
    further_of_progress h fun t ht => adoptRenderResult_advances ht ha
  unfold Setting.generate at h
  split at h
  · exact further_of_rest h
  · unfold Setting.settleGenerateFailure at h
    split at h
    · split at h
      · exact hadopt h
      · exact further_of_progress h fun t ht => recordRenderFailure_advances ht ha hlive
    · exact further_of_rest h
  · split at h
    · exact hadopt h
    · exact further_of_rest h

theorem renderWithInput_further (h : E.renderWithInput ans c a = .ok (c', progress))
    (ha : c.state.payload.active = some a) (hlive : a.isTerminal = false) :
    Further c.state c' a progress := by
  unfold Setting.renderWithInput at h
  split at h
  · split at h
    · exact further_of_progress h fun t ht => recordRenderFailure_advances ht ha hlive
    · simp only [bind_eq_ok] at h
      obtain ⟨state, hstate, h⟩ := h
      obtain ⟨hmarked, r, hr, hrendering⟩ := markRendering_advances (of_persisted hstate) ha
      rw [hr] at h
      have hrlive : r.isTerminal = false := by
        apply Active.isTerminal_of_live <;> rw [hrendering] <;> decide
      intro htrue
      exact hmarked.trans hr (generate_further h hr hrlive htrue)
  · exact further_of_rest h

theorem renderPending_further (h : E.renderPending ans c a = .ok (c', progress))
    (ha : c.state.payload.active = some a) (hlive : a.isTerminal = false) :
    Further c.state c' a progress := by
  simp only [Setting.renderPending, bind_eq_ok] at h
  obtain ⟨d, hinput, h⟩ := h
  have hhealth := ensureInput_healthOnly hinput
  intro htrue
  exact (renderWithInput_further h (hhealth.active.trans ha) hlive htrue).of_healthOnly hhealth

theorem deliveryCandidate_advances {r : PeriodicDeliveryResult}
    (h : E.deliveryCandidate s a r = .ok t) (hactive : s.payload.active = some a)
    (hlive : a.isTerminal = false) : Advances s t a := by
  unfold Setting.deliveryCandidate at h
  dsimp only at h
  split at h
  · split at h
    · exact markDeliveryUnknown_advances h hactive
    · split at h
      · exact markDeliveryUnknown_advances h hactive
      · exact markSucceeded_advances h hactive
  · exact markDeliveryUnknown_advances h hactive
  all_goals
    split at h
    · exact markRetryableFailure_delivery_advances h hactive
    · exact markTerminalFailure_advances h hactive hlive

theorem deliveryTransaction_advances (h : E.deliveryTransaction ans s a = .ok t)
    (hactive : s.payload.active = some a) (hdelivering : a.status = .delivering) :
    Advances s t a := by
  have hlive : a.isTerminal = false := by
    apply Active.isTerminal_of_live <;> rw [hdelivering] <;> decide
  unfold Setting.deliveryTransaction at h
  split at h
  · have hsame : sameActive a s.payload.active .delivering = true := by
      rw [hactive]
      simp [sameActive, hdelivering]
    rw [Setting.persistDeliveryUnknown, if_pos hsame] at h
    exact markDeliveryUnknown_advances (of_persisted h) hactive
  · simp only [Setting.persistDeliveryResult, bind_eq_ok, exists_unit] at h
    exact deliveryCandidate_advances (of_persisted h.2) hactive hlive

theorem deliverPhoto_further (h : E.deliverPhoto ans c a = .ok (c', progress))
    (ha : c.state.payload.active = some a) : Further c.state c' a progress := by
  simp only [Setting.deliverPhoto, bind_eq_ok] at h
  obtain ⟨state, hstate, h⟩ := h
  split at h
  · exact further_of_rest h
  · rename_i successor hsuccessor
    split at h
    · rename_i hdelivering
      have hsent := markDelivering_advances (of_persisted hstate) ha hsuccessor hdelivering
      exact further_of_progress h fun t ht =>
        hsent.trans hsuccessor (deliveryTransaction_advances ht hsuccessor hdelivering)
    · exact further_of_rest h

theorem deliver_further {now : ℤ} (h : E.deliver ans c a now = .ok (c', progress))
    (ha : c.state.payload.active = some a) (hlive : a.isTerminal = false) :
    Further c.state c' a progress := by
  simp only [Setting.deliver, bind_eq_ok, exists_unit] at h
  obtain ⟨_, h⟩ := h
  split at h
  · exact further_of_progress h fun t ht =>
      markTerminalFailure_advances (of_persisted ht) ha hlive
  · split at h
    · exact deliverPhoto_further h ha
    · exact further_of_rest h

theorem retryFailed_further (h : E.retryFailed ans c a = .ok (c', progress))
    (ha : c.state.payload.active = some a) (hlive : a.isTerminal = false) :
    Further c.state c' a progress := by
  unfold Setting.retryFailed at h
  split at h
  · exact further_of_rest h
  · dsimp only at h
    split at h
    · exact further_of_rest h
    · split at h
      · simp only [bind_eq_ok] at h
        obtain ⟨pending, hpending, h⟩ := h
        refine further_of_progress h fun t ht => ?_
        rw [persist_eq_ok] at ht
        rw [← ht.2]
        exact allocatePending_advances hpending ha
      · have hdelivered := deliver_further h ha hlive
        exact hdelivered
      · exact further_of_rest h

theorem reconcileCurrent_further (h : E.reconcileCurrent ans c a = .ok (c', progress))
    (ha : c.state.payload.active = some a) (hlive : a.isTerminal = false) :
    Further c.state c' a progress := by
  unfold Setting.reconcileCurrent at h
  split at h
  · exact recoverRendering_further h ha hlive
  · exact retryFailed_further h ha hlive
  · exact renderPending_further h ha hlive
  · split at h
    · exact further_of_rest h
    · exact deliver_further h ha hlive
  · exact further_of_rest h

end Branches

/-- The slot is READY, a newer one has completed, and the ledger has no room. -/
structure Setting.Overtaken (E : Setting) (latest : PeriodicSlot) (s : PeriodicStateDocument L)
    (a : Active) : Prop where
  active : s.payload.active = some a
  ready : a.status = .ready
  full : s.payload.full
  current : E.current a
  newer : a.slotEnd < latest.slotEnd

theorem Setting.Overtaken.of_healthOnly (h : E.Overtaken latest s a) (hhealth : HealthOnly s t) :
    E.Overtaken latest t a where
  active := hhealth.active.trans h.active
  ready := h.ready
  full := hhealth.full.mpr h.full
  current := h.current
  newer := h.newer

/-- How far a state is from having nothing left to do before the latest slot. -/
def rank (latest : PeriodicSlot) (s : PeriodicStateDocument L) : ℕ :=
  (if s.payload.highWaterSlotEnd.any (latest.slotEnd ≤ ·) then 0 else 60) +
    stage s.payload.active

theorem Advances.rank_lt (h : Advances s t a) (ha : s.payload.active = some a) :
    rank latest t < rank latest s := by
  have hstage := h.stage
  rw [rank, rank, h.highWater, ha]
  exact Nat.add_lt_add_left hstage _

theorem HealthOnly.rank_eq (h : HealthOnly s t) : rank latest t = rank latest s := by
  rw [rank, rank, h.highWater, h.active]

theorem allocateLatest_true (h : E.allocateLatest ans c latest = .ok (c', true))
    (hidle : c.state.payload.active = none) :
    rank latest c'.state < rank latest c.state ∧ ∀ b, ¬ E.Overtaken latest c'.state b := by
  unfold Setting.allocateLatest at h
  split at h
  · simp at h
  · rename_i hbehind
    split at h
    · simp at h
    · simp only [bind_eq_ok] at h
      obtain ⟨d, hsealed, h⟩ := h
      have hhealth := sealedSnapshot_healthOnly hsealed
      split at h
      · simp at h
      · split at h
        · simp at h
        · simp only [bind_eq_ok, Coordinator.progress_eq_ok, persist_eq_ok] at h
          obtain ⟨pending, hpending, state, ⟨_, rfl⟩, rfl, _⟩ := h
          obtain ⟨b, hb, hstatus, hend⟩ := allocatePending_active hpending
          have hhigh : pending.payload.highWaterSlotEnd = some latest.slotEnd := by
            rcases allocatePending_cases hpending with ⟨x, hnew, _⟩ | ⟨y, _, hretry, _⟩
            · have hx : x = b := Option.some.inj (hnew.active_eq.symm.trans hb)
              rw [hnew.payload, hx, hend]
            · have hactive := hretry.active
              rw [hhealth.active, hidle] at hactive
              cases hactive
          constructor
          · have hleft : b.rendersLeft ≤ 10 := by
              have hrenders := (pending.counted hb).renders
              rw [Active.rendersLeft]
              omega
            rw [rank, rank, if_neg hbehind, hidle]
            change (if pending.payload.highWaterSlotEnd.any (latest.slotEnd ≤ ·) then 0 else 60) +
              stage pending.payload.active < 60 + stage none
            have hreached : (some latest.slotEnd).any (latest.slotEnd ≤ ·) = true :=
              decide_eq_true le_rfl
            rw [hhigh, hb, if_pos hreached]
            change 0 + b.stage < 60 + 0
            rw [Active.stage_pending hstatus]
            omega
          · intro x hx
            have hxb : x = b := Option.some.inj (hx.active.symm.trans hb)
            have hnewer := hx.newer
            rw [hxb, hend] at hnewer
            exact lt_irrefl _ hnewer

theorem reconcileActive_true (h : E.reconcileActive ans c latest a = .ok (c', true))
    (ha : c.state.payload.active = some a) (hfree : ¬ E.Overtaken latest c.state a) :
    rank latest c'.state < rank latest c.state ∧ ∀ b, ¬ E.Overtaken latest c'.state b := by
  unfold Setting.reconcileActive at h
  dsimp only at h
  split at h
  · rw [Coordinator.progress_eq_ok] at h
    obtain ⟨state, hstate, rfl, _⟩ := h
    obtain ⟨hadvances, hnone⟩ := rotateTerminalActive_advances (of_persisted hstate) ha
    refine ⟨hadvances.rank_lt ha, fun b hb => ?_⟩
    have hactive := hb.active
    rw [hnone] at hactive
    cases hactive
  · rename_i hterminal
    have hlive : a.isTerminal = false := Bool.eq_false_iff.mpr hterminal
    -- a slot that has failed is not READY
    have hended {t : PeriodicStateDocument L}
        (hfailed : ∀ b, t.payload.active = some b → b.status = .failed) (b : Active) :
        ¬ E.Overtaken latest t b := by
      intro hb
      have hstatus := hfailed b hb.active
      rw [hb.ready] at hstatus
      cases hstatus
    split at h
    · simp only [Setting.recoverDelivering, bind_eq_ok, Coordinator.rest_eq_ok] at h
      obtain ⟨_, _, _, hfalse⟩ := h
      cases hfalse
    · split at h
      · rw [Coordinator.progress_eq_ok] at h
        obtain ⟨state, hstate, rfl, _⟩ := h
        have hwritten := of_persisted hstate
        exact ⟨(markTerminalFailure_advances hwritten ha hlive).rank_lt ha,
          hended fun b hb => markTerminalFailure_failed hwritten hb⟩
      · rename_i hcurrent
        split at h
        · rename_i hnewer
          rw [Coordinator.progress_eq_ok] at h
          obtain ⟨state, hstate, rfl, _⟩ := h
          obtain ⟨b, hf, _, _, _, ⟨⟨hready, hfull⟩, _⟩ | ⟨_, ht⟩⟩ :=
            supersedeActive_cases (of_persisted hstate)
          · rw [hf.eq ha] at hready
            exact absurd ⟨ha, hready, hfull, not_not.mp hcurrent, hnewer⟩ hfree
          · rw [hf.eq ha] at ht
            have hadvances : Advances c.state state a := by
              refine advances_of_touch ht rfl rfl ?_
              rw [Active.stage_terminal (by rfl)]
              exact Active.one_lt_stage hlive
            refine ⟨hadvances.rank_lt ha, hended fun d hd => ?_⟩
            · rw [ht, Payload.touch_active] at hd
              rw [← Option.some.inj hd]
              rfl
        · rename_i holder
          have hadvances := reconcileCurrent_further h ha hlive rfl
          refine ⟨hadvances.rank_lt ha, fun b hb => holder ?_⟩
          rw [← hadvances.slotEnd b hb.active]
          exact hb.newer

theorem reconcileStep_true (h : E.reconcileStep ans c = .ok (c', true))
    (hlatest : latestCompletedSlot L E.wallTime E.config.intervalS = .ok latest)
    (hfree : ∀ a, ¬ E.Overtaken latest c.state a) :
    rank latest c'.state < rank latest c.state ∧ ∀ b, ¬ E.Overtaken latest c'.state b := by
  simp only [Setting.reconcileStep, bind_eq_ok] at h
  obtain ⟨d, hrefresh, slot, hslot, h⟩ := h
  rw [hlatest] at hslot
  cases hslot
  have hhealth := refreshIfDue_healthOnly hrefresh
  rw [← hhealth.rank_eq]
  cases hactive : d.state.payload.active with
  | none =>
      rw [hactive] at h
      exact allocateLatest_true h hactive
  | some a =>
      rw [hactive] at h
      refine reconcileActive_true h hactive fun hover => hfree a ?_
      exact ⟨hhealth.active.symm.trans hover.active, hover.ready, hhealth.full.mp hover.full,
        hover.current, hover.newer⟩

theorem reconcileStep_overtaken {progress : Bool}
    (h : E.reconcileStep ans c = .ok (c', progress))
    (hlatest : latestCompletedSlot L E.wallTime E.config.intervalS = .ok latest)
    (hover : E.Overtaken latest c.state a) :
    progress = true ∧ ∃ b, E.Overtaken latest c'.state b := by
  simp only [Setting.reconcileStep, bind_eq_ok] at h
  obtain ⟨d, hrefresh, slot, hslot, h⟩ := h
  rw [hlatest] at hslot
  cases hslot
  have hover := hover.of_healthOnly (refreshIfDue_healthOnly hrefresh)
  have hlive : a.isTerminal = false := by
    apply Active.isTerminal_of_live <;> rw [hover.ready] <;> decide
  rw [hover.active] at h
  dsimp only at h
  rw [Setting.reconcileActive, if_neg (by rw [hlive]; decide),
    if_neg (by rw [hover.ready]; decide), if_neg (not_not.mpr hover.current),
    if_pos hover.newer, Coordinator.progress_eq_ok] at h
  obtain ⟨state, hstate, rfl, hprogress⟩ := h
  refine ⟨hprogress.symm, ?_⟩
  obtain ⟨b, hf, _, _, _, ⟨_, ht⟩ | ⟨hroom, _⟩⟩ := supersedeActive_cases (of_persisted hstate)
  · rw [hf.eq hover.active] at ht
    refine ⟨a.touched (E.logicalNow d.state), by rw [ht, Payload.touch_active], hover.ready, ?_,
      hover.current, hover.newer⟩
    change state.payload.full
    rw [ht]
    exact hover.full
  · rw [hf.eq hover.active] at hroom
    exact absurd ⟨hover.ready, hover.full⟩ hroom

/-- The coordinator after `n` calls that all made progress. -/
inductive Rewrites (E : Setting) (ans : ℕ → Answers) (c₀ : Coordinator L) :
    ℕ → Coordinator L → Prop
  | start : Rewrites E ans c₀ 0 c₀
  | step {n : ℕ} {c c' : Coordinator L} (h : Rewrites E ans c₀ n c)
      (hstep : E.reconcileStep (ans n) c = .ok (c', true)) : Rewrites E ans c₀ (n + 1) c'

/-- After finitely many calls one makes no progress, and the coordinator goes to sleep. -/
def Settles (E : Setting) (ans : ℕ → Answers) (c₀ : Coordinator L) : Prop :=
  ∃ (n : ℕ) (c c' : Coordinator L), Rewrites E ans c₀ n c ∧
    E.reconcileStep (ans n) c = .ok (c', false)

/-- No authority makes a call raise. -/
def Ordinary (E : Setting) (ans : ℕ → Answers) (c₀ : Coordinator L) : Prop :=
  ∀ (n : ℕ) (c : Coordinator L), Rewrites E ans c₀ n c →
    ∃ returned, E.reconcileStep (ans n) c = .ok returned

/-- A READY slot waits for room in the ledger of unresolved deliveries while a newer slot has
completed. -/
def Setting.Blocked (E : Setting) (s : PeriodicStateDocument L) : Prop :=
  ∃ latest, latestCompletedSlot L E.wallTime E.config.intervalS = .ok latest ∧
    ∃ a, E.Overtaken latest s a

section Runs

variable {answers : ℕ → Answers} {c₀ : Coordinator L} {n : ℕ}

theorem latest_of_returned {returned : Coordinator L × Bool}
    (h : E.reconcileStep ans c = .ok returned) :
    ∃ latest, latestCompletedSlot L E.wallTime E.config.intervalS = .ok latest := by
  simp only [Setting.reconcileStep, bind_eq_ok] at h
  obtain ⟨_, _, latest, hlatest, _⟩ := h
  exact ⟨latest, hlatest⟩

theorem settles_of_rank (hordinary : Ordinary E answers c₀)
    (hlatest : latestCompletedSlot L E.wallTime E.config.intervalS = .ok latest) :
    ∀ (fuel n : ℕ) (c : Coordinator L), Rewrites E answers c₀ n c →
      (∀ a, ¬ E.Overtaken latest c.state a) → rank latest c.state < fuel →
        Settles E answers c₀ := by
  intro fuel
  induction fuel with
  | zero => exact fun n c _ _ hrank => absurd hrank (Nat.not_lt_zero _)
  | succ fuel ih =>
      intro n c hrun hfree hrank
      obtain ⟨⟨c', progress⟩, hreturned⟩ := hordinary n c hrun
      cases progress with
      | false => exact ⟨n, c, c', hrun, hreturned⟩
      | true =>
          obtain ⟨hless, hfree'⟩ := reconcileStep_true hreturned hlatest hfree
          exact ih (n + 1) c' (.step hrun hreturned) hfree'
            (Nat.lt_of_lt_of_le hless (Nat.le_of_lt_succ hrank))

theorem Rewrites.overtaken (h : Rewrites E answers c₀ n c)
    (hlatest : latestCompletedSlot L E.wallTime E.config.intervalS = .ok latest)
    (hover : E.Overtaken latest c₀.state a) : ∃ b, E.Overtaken latest c.state b := by
  induction h with
  | start => exact ⟨a, hover⟩
  | step hrun hstep ih =>
      obtain ⟨b, hb⟩ := ih
      exact (reconcileStep_overtaken hstep hlatest hb).2

end Runs

/-- Where every call returns, the coordinator settles exactly when no READY slot is overtaken
while the ledger is full. -/
theorem reconciliation_settles_iff (E : Setting) (answers : ℕ → Answers) (c₀ : Coordinator L)
    (hordinary : Ordinary E answers c₀) : Settles E answers c₀ ↔ ¬ E.Blocked c₀.state := by
  constructor
  · rintro ⟨n, c, c', hrun, hstep⟩ ⟨latest, hlatest, a, hover⟩
    obtain ⟨b, hb⟩ := hrun.overtaken hlatest hover
    cases (reconcileStep_overtaken hstep hlatest hb).1
  · intro hfree
    obtain ⟨returned, hreturned⟩ := hordinary 0 c₀ .start
    obtain ⟨latest, hlatest⟩ := latest_of_returned hreturned
    exact settles_of_rank hordinary hlatest _ 0 c₀ .start
      (fun a hover => hfree ⟨latest, hlatest, a, hover⟩) (Nat.lt_succ_self _)

/-! ## A full ledger -/

/-- The last 64 hexadecimal digits of a number. -/
def hexDigits (n : ℕ) : List Char :=
  (List.range 64).reverse.map fun i => (n / 16 ^ i % 16).digitChar

/-- The digests of the first seventeen slots of an hour. -/
def crowdedDigests : List ℕ :=
  [0xb32ec05f0e8601bf875171709a22557cc1e363ee1b66cc2d8509e061f371ea8a,
    0xc9ea963a30fe79fe0a31f40cdf4c46b8b0594cdce923f6d54fa8defb7efacb14,
    0x728c044934eace497cef8ff6f687297634233223d1974a61ef3d73ddf92e1ace,
    0xd72ca6838d80c72107c5bfb246b92cc1873e3da505333852839c5f09805fe12a,
    0x46249584364f4336dc29e8fe8b78bf89dbc517c363e12bb0acca4b1cfb33c0da,
    0x2bce0b16b60ed565897ba9ac8044baf3945bff98c85da79dd32009f3b4c98381,
    0xc82647971384186e385de57f59e57d384c626c7f1d51942f51d006f66e9fa39e,
    0x3ac39c5ec4765ce0af417944d3e3eded7af7a0dab3cf9b26469dba7b5b9f0f4b,
    0x11777316167090f3717fa198eccfba69ecfb60c339341804280e23d6bc2c0511,
    0x3953d5410e6b87e7572215db8e783ebdeb4add1df736f22e549a72e6e584405d,
    0xb963b866604e136b602c0936f83552fc62944f1b042b0efe721e52aee66be6ff,
    0x4e2151bbdbd87da86de3cc687e3392419963fd5d2e7df305d26ca4006d28bb1f,
    0xe9121b4f585a006f325d3eaf6f87113e89c16c3cb9dff20aeef9c92965a59891,
    0x456ba3773cec0f9804fef9efa8d4b8fa81538b0513f391f9e577633df51ce8c1,
    0xb1058c614563559f9b28cac89d3512fe795f7dca1bc5af3ef7ced7897c21f059,
    0x9b403170c6a392f98b6052a84e22a1d07db5d3a49615dfac777fe639ff11dad6,
    0xa377febcd2d31b2d55dcecd07d820f60c2dae65628d79867c362572a47dcad94]

def crowded : Library where
  sha256 s := String.ofList (hexDigits (crowdedDigests.getD
    (((List.range 17).map fun k => s!"periodic-png/v1:{3600 * (k + 1)}").idxOf s) 0))
  sensitive _ := false
  encodedSize _ := 9145

theorem isHex_digitChar (n : ℕ) : isHex (n % 16).digitChar = true := by
  have hlt : n % 16 < 16 := Nat.mod_lt n (by decide)
  generalize n % 16 = m at hlt
  revert m
  decide

theorem crowded_slotId (slotEnd : ℤ) : hashText (crowded.slotId slotEnd) = true := by
  rw [Library.slotId, crowded, hashText_append, Bool.and_eq_true, List.all_eq_true]
  refine ⟨by simp [hexDigits], fun c hc => ?_⟩
  obtain ⟨i, _, rfl⟩ := List.mem_map.mp hc
  exact isHex_digitChar _

/-- The evidence of the slot that ends after `k + 1` hours. -/
def crowdedEvidence (k : ℕ) : Unresolved :=
  { slotId := crowded.slotId (3600 * (k + 1))
    slotEnd := 3600 * (k + 1)
    generationId := benchSlot.generationId
    destinationFingerprint := benchSlot.destinationFingerprint
    artifactSha256 := "sha256:" ++ String.ofList (List.replicate 64 '4')
    ambiguityAt := 3600 * (k + 1) + 60
    errorCode := "delivery_internal_unknown"
    errorText := "delivery outcome is unknown" }

def crowdedSlot : Active :=
  { benchSlot with
    slotId := crowded.slotId 61200
    slotStart := 57600
    slotEnd := 61200
    windowStart := 54000
    windowEnd := 61200
    displayTime := "01.01.1970 17:00"
    status := .ready
    renderAttemptCount := 1
    notBefore := 61230
    artifact := some
      { path := "periodic/generations/" ++ benchSlot.generationId ++ "/periodic.png"
        sha256 := "sha256:" ++ String.ofList (List.replicate 64 '4')
        size := 4096
        width := 800
        height := 600
        mime := "image/png" }
    createdAt := 61205
    updatedAt := 66600 }

def crowdedTerminal : Terminal :=
  { slotId := crowded.slotId 57600
    slotEnd := 57600
    generationId := benchSlot.generationId
    status := .deliveryUnknown
    destinationFingerprint := benchSlot.destinationFingerprint
    artifactSha256 := some ("sha256:" ++ String.ofList (List.replicate 64 '4'))
    receipt := none
    failurePhase := some .delivery
    certainty := some .unknown
    errorCode := some "delivery_internal_unknown"
    errorText := "delivery outcome is unknown"
    finishedAt := 57660 }

/-- Sixteen deliveries are unresolved, the seventeenth waits, and the eighteenth slot is over. -/
def crowdedPayload : Payload :=
  { highWaterSlotEnd := some 61200
    active := some crowdedSlot
    lastTerminal := some crowdedTerminal
    unresolvedDelivery := (List.range 16).map crowdedEvidence
    health := paused 66600
    updatedAt := 66600 }

theorem crowded_sensitive (s : String) : crowded.sensitive s = false := rfl

theorem crowded_code : codeText "delivery_internal_unknown" = true := by
  decide

theorem crowded_displayTime : displayShape "01.01.1970 17:00".toList = true ∧
    calendarTime "01.01.1970 17:00".toList = true := by
  decide

theorem crowded_text : validatedText crowded "delivery outcome is unknown" =
    .ok "delivery outcome is unknown" := by
  have hsize : "delivery outcome is unknown".utf8ByteSize ≤ 2048 := by decide
  simp only [validatedText, bind_eq_ok, exists_unit, require_eq_ok, pure_eq_ok,
    crowded_sensitive, hsize, and_self]

theorem finiteTime_ok {value : ℤ} {field : String} (h : 0 ≤ value) :
    finiteTime value field = .ok value :=
  finiteTime_eq_ok.mpr ⟨h, rfl⟩

theorem crowdedEvidence_valid {k : ℕ} (hk : k < 16) :
    validateUnknown crowded (crowdedEvidence k) (some 61200) = .ok () := by
  have hreached : (3600 * (k + 1) : ℤ) ≤ 61200 := by omega
  have htime : (0 : ℤ) ≤ 3600 * (k + 1) + 60 := by omega
  simp only [validateUnknown, requireSlotIdentity, bind_eq_ok, exists_unit, require_eq_ok,
    validatedHash_eq_ok, validatedToken_eq_ok, validatedCode_eq_ok, pure_eq_ok]
  have hwithin : (some (61200 : ℤ)).any (3600 * ((k : ℤ) + 1) ≤ ·) = true := by
    rw [Option.any_some, decide_eq_true_eq]
    exact hreached
  exact ⟨_, ⟨crowded_slotId _, rfl⟩, rfl, hwithin,
    _, ⟨tokenText_replicate '2' rfl, rfl⟩, _, ⟨hashText_replicate '1' rfl, rfl⟩,
    _, ⟨hashText_replicate '4' rfl, rfl⟩, _, finiteTime_ok htime, _, ⟨crowded_code, rfl⟩,
    _, crowded_text, trivial⟩

theorem crowdedTerminal_valid : validateTerminal crowded crowdedTerminal (some 61200) = .ok () := by
  have hcode : validatedOptionalCode (some "delivery_internal_unknown") =
      .ok (some "delivery_internal_unknown") := by
    simp only [validatedOptionalCode, bind_eq_ok, validatedCode_eq_ok, pure_eq_ok]
    exact ⟨_, ⟨crowded_code, rfl⟩, rfl⟩
  have hevidence : validateTerminalEvidence crowdedTerminal = .ok () := rfl
  simp only [validateTerminal, requireSlotIdentity, bind_eq_ok, exists_unit, require_eq_ok,
    validatedHash_eq_ok, validatedToken_eq_ok, validateOptional_eq_ok, pure_eq_ok]
  refine ⟨_, ⟨crowded_slotId _, rfl⟩, rfl, by rw [Option.any_some, decide_eq_true_eq]; decide,
    _, ⟨tokenText_replicate '2' rfl, rfl⟩, by decide, _, ⟨hashText_replicate '1' rfl, rfl⟩, ?_,
    _, hcode, _, crowded_text, _, finiteTime_ok (by decide), hevidence⟩
  rintro hash ⟨⟩
  exact ⟨_, ⟨hashText_replicate '4' rfl, rfl⟩, trivial⟩

theorem crowdedSlot_valid : validateActive crowded crowdedSlot (some 61200) = .ok () := by
  have hslot : validateActiveSlot crowded crowdedSlot (some 61200) = .ok () := by
    simp only [validateActiveSlot, validatedDisplayTime, bind_eq_ok, exists_unit, require_eq_ok,
      validatedHash_eq_ok, pure_eq_ok]
    exact ⟨_, ⟨crowded_slotId _, rfl⟩, by decide, by decide, by decide, rfl, by decide,
      _, ⟨crowded_displayTime.1, crowded_displayTime.2, rfl⟩, by
        rw [Option.any_some, decide_eq_true_eq]; decide⟩
  have hartifact {artifact : PeriodicArtifact} (h : crowdedSlot.artifact = some artifact) :
      validateArtifact artifact crowdedSlot.generationId = .ok artifact := by
    cases h
    simp only [validateArtifact, exactInt, bind_eq_ok, exists_unit, require_eq_ok,
      validatedHash_eq_ok, pure_eq_ok]
    exact ⟨rfl, _, ⟨hashText_replicate '4' rfl, rfl⟩, by decide, by decide, by decide, by decide,
      trivial, trivial⟩
  have hcaption : validatedCaption crowded "" = .ok "" := by
    simp only [validatedCaption, bind_eq_ok, exists_unit, require_eq_ok, pure_eq_ok,
      crowded_sensitive]
    decide
  have htext : validatedText crowded "" = .ok "" := by
    simp only [validatedText, bind_eq_ok, exists_unit, require_eq_ok, pure_eq_ok, crowded_sensitive]
    decide
  have htimes : validateActiveTimes crowdedSlot = .ok () := rfl
  have hevidence : validateEvidence crowdedSlot = .ok () := rfl
  have hattempts : validateAttempts crowdedSlot = .ok () := rfl
  simp only [validateActive, exactInt, bind_eq_ok, exists_unit, require_eq_ok,
    validatedHash_eq_ok, validatedToken_eq_ok, validateOptional_eq_ok, pure_eq_ok]
  refine ⟨hslot, _, ⟨hashText_replicate '0' rfl, rfl⟩, _, ⟨hashText_replicate '1' rfl, rfl⟩,
    _, ⟨tokenText_replicate '2' rfl, rfl⟩, _, ⟨tokenText_replicate '3' rfl, rfl⟩, by decide,
    by decide, by decide, by decide, by decide, _, finiteTime_ok (by decide), ?_, _, hcaption,
    _, rfl, _, htext, htimes, fun _ => Option.some_ne_none _, ?_, ?_, by decide, hevidence,
    fun _ => rfl, hattempts⟩
  · exact fun artifact h => ⟨_, hartifact h, trivial⟩
  · exact fun h => absurd h (by decide)
  · exact fun h => absurd h (by decide)
theorem crowded_ids : (crowdedPayload.unresolvedDelivery.map (·.slotId)).Nodup ∧
    evidenceForSlot crowdedPayload.unresolvedDelivery crowdedTerminal.slotId =
      crowdedTerminal.evidence := by
  decide

theorem crowded_health : healthPayload crowded "paused_unknown_capacity"
    (some "delivery_paused_unknown_capacity")
    "delivery paused because unresolved evidence capacity is full" 66600 = .ok (paused 66600) := by
  have hstatus : healthText "paused_unknown_capacity" = true := by decide
  have hcode : codeText "delivery_paused_unknown_capacity" = true := by decide
  have hsize : "delivery paused because unresolved evidence capacity is full".utf8ByteSize ≤
      2048 := by decide
  simp only [healthPayload, validatedOptionalCode, validatedText, bind_eq_ok, exists_unit,
    require_eq_ok, validatedCode_eq_ok, pure_eq_ok, crowded_sensitive]
  exact ⟨hstatus, _, ⟨_, ⟨hcode, rfl⟩, rfl⟩, _, ⟨hsize, trivial, rfl⟩, _,
    finiteTime_ok (by decide), rfl⟩

theorem crowded_times : validateDocumentTimes crowdedPayload = .ok () := by
  have hledger : crowdedPayload.unresolvedDelivery.all (·.ambiguityAt ≤ 66600) = true := by
    rw [List.all_eq_true]
    intro u hu
    obtain ⟨k, hk, rfl⟩ := List.mem_map.mp hu
    have hlt := List.mem_range.mp hk
    have hle : (3600 * (k + 1) + 60 : ℤ) ≤ 66600 := by omega
    exact decide_eq_true hle
  simp only [validateDocumentTimes, bind_eq_ok, exists_unit, require_eq_ok]
  exact ⟨_, finiteTime_ok (by decide), by decide, by decide, by decide, hledger⟩

theorem crowded_valid : validateDocument crowded crowdedPayload = .ok () := by
  have hledger : ∀ u ∈ crowdedPayload.unresolvedDelivery,
      validateUnknown crowded u (some 61200) = .ok () := by
    intro u hu
    obtain ⟨k, hk, rfl⟩ := List.mem_map.mp hu
    exact crowdedEvidence_valid (List.mem_range.mp hk)
  have hambiguity : validateAmbiguity crowdedPayload = .ok () := by
    simp only [validateAmbiguity, bind_eq_ok, exists_unit, validateOptional_eq_ok]
    refine ⟨?_, ?_, ?_⟩
    · rintro a ⟨⟩
      rfl
    · rintro t ⟨⟩
      have hunknown : crowdedTerminal.status = .deliveryUnknown := rfl
      rw [if_pos hunknown]
      simp only [validateEvidenced, bind_eq_ok, exists_unit, require_eq_ok]
      have hfound : evidenceForSlot crowdedPayload.unresolvedDelivery crowdedTerminal.slotId =
          crowdedTerminal.evidence := crowded_ids.2
      rw [hfound]
      exact ⟨Option.some_ne_none _, rfl⟩
    · rintro a ⟨⟩
      rfl
  simp only [validateDocument, validateOptional_eq_ok, validateEach_eq_ok, bind_eq_ok, exists_unit,
    require_eq_ok]
  refine ⟨by decide, ?_, ?_, by decide, hledger, crowded_ids.1, _, crowded_health, crowded_times,
    hambiguity, by decide⟩
  · rintro a ⟨⟩
    exact crowdedSlot_valid
  · rintro t ⟨⟩
    exact crowdedTerminal_valid

def crowdedState : PeriodicStateDocument crowded := ⟨crowdedPayload, crowded_valid⟩

def benchConfig : PeriodicPngConfig :=
  { intervalS := 3600
    chartWindowS := 7200
    maxRenderAttempts := 5
    maxDeliveryAttempts := 5
    telegramChatId := .number 1
    configFingerprint := benchSlot.configFingerprint
    fingerprinted := hashText_replicate '0' rfl }

/-- Half an hour after the end of the eighteenth slot; a tick is a second. -/
def benchSetting : Setting :=
  { config := benchConfig
    backoffBase := 1
    backoffCap := 60
    telegramVerifySsl := true
    destinationFingerprint := benchSlot.destinationFingerprint
    expectedDeliveryKind := .telegram
    wallTime := 66600.0
    wallTick := 66600
    monotonic := 0
    second := 1
    displayTime := fun _ => "01.01.1970 18:00"
    liveSourceFailed := false
    cutsComplete := true
    projectionComplete := true
    hasReadings := false }

def crowdedCoordinator : Coordinator crowded :=
  { state := crowdedState
    nextAlarmRefresh := 240
    nextHealthHeartbeat := 30
    retryDeadline := none }

theorem bench_latest (L : Library) : ∃ latest : PeriodicSlot,
    latestCompletedSlot L benchSetting.wallTime benchSetting.config.intervalS =
      .ok latest ∧ latest.slotEnd = 64800 := by
  have htime : (66600.0 : Float).isFinite = true ∧ ¬ (66600.0 : Float) < 0.0 := by decide
  have hinterval : floatOfInt 3600 = .ok 3600.0 := by rfl
  have hslot : floorFloat (66600.0 / 3600.0) * 3600 = 64800 := by decide
  have hlatest : latestCompletedSlot L benchSetting.wallTime benchSetting.config.intervalS =
      .ok { slotId := L.slotId (floorFloat (66600.0 / 3600.0) * 3600)
            slotStart := floorFloat (66600.0 / 3600.0) * 3600 - 3600
            slotEnd := floorFloat (66600.0 / 3600.0) * 3600
            intervalS := 3600 } := by
    simp only [latestCompletedSlot, bind_eq_ok, exists_unit, raised_eq_ok, require_eq_ok,
      pure_eq_ok]
    exact ⟨htime, by decide, 3600.0, hinterval, rfl⟩
  exact ⟨_, hlatest, hslot⟩

/-- Whatever the authorities answer, a call writes the state as it is and calls it progress. -/
theorem crowded_step (answers : Answers) :
    benchSetting.reconcileStep answers crowdedCoordinator = .ok (crowdedCoordinator, true) := by
  have hrefresh : benchSetting.refreshIfDue crowdedCoordinator = .ok crowdedCoordinator := by
    rw [Setting.refreshIfDue, if_neg (by decide)]
    rfl
  obtain ⟨latest, hlatest, hend⟩ := bench_latest crowded
  have hsuperseded : supersedeActive crowdedState 64800 66600 = .ok crowdedState := by
    simp only [supersedeActive, bind_eq_ok, transitionTime_eq_ok]
    refine ⟨66600, ⟨by decide, le_rfl, rfl⟩, ?_⟩
    rw [show crowdedState.payload.active = some crowdedSlot from rfl]
    simp only [bind_eq_ok, exists_unit, require_eq_ok]
    refine ⟨by decide, by decide, by decide, ?_⟩
    rw [if_pos (by decide)]
    simp only [bind_eq_ok, stateDocument_eq_ok]
    exact ⟨paused 66600, crowded_health, rfl⟩
  have hwritten : enforceDurableTransition crowdedState crowdedState = .ok () := by
    rw [enforceDurableTransition_eq_ok]
    exact ⟨enforceDurableOrder_of_same le_rfl rfl rfl, .inl rfl⟩
  simp only [Setting.reconcileStep, bind_eq_ok]
  refine ⟨crowdedCoordinator, hrefresh, _, hlatest, ?_⟩
  change benchSetting.reconcileActive answers crowdedCoordinator _ crowdedSlot = _
  rw [Setting.reconcileActive, if_neg (by decide), if_neg (by decide), if_neg, hend,
    if_pos (by decide), Coordinator.progress_eq_ok]
  · refine ⟨crowdedState, ?_, rfl, rfl⟩
    simp only [persisted, bind_eq_ok, raised_eq_ok, persist_eq_ok]
    exact ⟨crowdedState, hsuperseded, hwritten, rfl⟩
  · exact not_not.mpr ⟨rfl, rfl⟩

/-! ## A slot that is overtaken -/

/-- The failed slot, ended because the eighteenth is over. -/
def benchSuperseded : Active := (benchFailed.superseded 66600).touched 66600

def supersededPayload : Payload :=
  { benchPayload benchSuperseded 7200 with updatedAt := 66600 }

def rotatedPayload : Payload :=
  { supersededPayload with active := none, lastTerminal := some benchSuperseded.terminalSummary }

theorem superseded_text : validatedText bench "slot was superseded by a newer completed interval" =
    .ok "slot was superseded by a newer completed interval" := by
  have hsize : "slot was superseded by a newer completed interval".utf8ByteSize ≤ 2048 := by
    decide
  simp only [validatedText, bind_eq_ok, exists_unit, require_eq_ok, pure_eq_ok, bench_sensitive,
    hsize, and_self]

theorem superseded_code : codeText "superseded_by_newer_slot" = true := by
  decide

theorem benchSuperseded_valid : validateActive bench benchSuperseded (some 7200) = .ok () := by
  simp only [validateActive, validateActiveSlot, validatedHash, validatedToken,
    validatedDisplayTime, exactInt, finiteTime, validateOptional_eq_ok, validatedCaption,
    validatedOptionalCode, validatedCode, validateActiveTimes, validateEvidence,
    validateFailure, validateAttempts, requirePhaseCertainty, validateRetryable, bind_eq_ok,
    exists_unit, require_eq_ok, pure_eq_ok, benchSuperseded, Active.superseded, Active.touched,
    benchFailed, Active.fail, benchSlot, bench_slotId,
    bench_displayTime, superseded_code, superseded_text, bench_sensitive,
    hashText_replicate '0' rfl, hashText_replicate '1' rfl, tokenText_replicate '2' rfl,
    tokenText_replicate '3' rfl]
  simp [Active.needsArtifact, -List.reduceReplicate, -String.reduceAppend]

theorem superseded_valid : validateDocument bench supersededPayload = .ok () := by
  have hsize : bench.encodedSize supersededPayload ≤ 131072 := by decide
  simp only [validateDocument, validateOptional_eq_ok, validateEach_eq_ok, bind_eq_ok, exists_unit,
    require_eq_ok, hsize]
  have htime : benchSuperseded.updatedAt = 66600 := rfl
  have hstatus : benchSuperseded.status = .failed := rfl
  simp [supersededPayload, benchPayload, emptyPayload, bench_health, finiteTime,
    validateDocumentTimes, validateAmbiguity, benchSuperseded_valid, htime, hstatus]

theorem terminal_valid :
    validateTerminal bench benchSuperseded.terminalSummary (some 7200) = .ok () := by
  have hcode : validatedOptionalCode (some "superseded_by_newer_slot") =
      .ok (some "superseded_by_newer_slot") := by
    simp only [validatedOptionalCode, bind_eq_ok, validatedCode_eq_ok, pure_eq_ok]
    exact ⟨_, ⟨superseded_code, rfl⟩, rfl⟩
  have hevidence : validateTerminalEvidence benchSuperseded.terminalSummary = .ok () := rfl
  simp only [validateTerminal, requireSlotIdentity, bind_eq_ok, exists_unit, require_eq_ok,
    validatedHash_eq_ok, validatedToken_eq_ok, validateOptional_eq_ok, pure_eq_ok]
  exact ⟨_, ⟨bench_slotId, rfl⟩, rfl, by rw [Option.any_some, decide_eq_true_eq]; decide,
    _, ⟨tokenText_replicate '2' rfl, rfl⟩, by decide, _, ⟨hashText_replicate '1' rfl, rfl⟩,
    fun _ h => absurd h (Option.some_ne_none _).symm, _, hcode, _, superseded_text, _, finiteTime_ok (by decide), hevidence⟩

theorem rotated_valid : validateDocument bench rotatedPayload = .ok () := by
  have hsize : bench.encodedSize rotatedPayload ≤ 131072 := by decide
  have hstatus : benchSuperseded.terminalSummary.status = .failed := rfl
  have htime : benchSuperseded.terminalSummary.finishedAt = 66600 := rfl
  simp only [validateDocument, validateOptional_eq_ok, validateEach_eq_ok, bind_eq_ok, exists_unit,
    require_eq_ok, hsize]
  simp [rotatedPayload, supersededPayload, benchPayload, emptyPayload, bench_health, finiteTime,
    validateDocumentTimes, validateAmbiguity, terminal_valid, hstatus, htime]

/-- A coordinator that has refreshed and waits for no retry. -/
def awake (state : PeriodicStateDocument bench) : Coordinator bench :=
  { state
    nextAlarmRefresh := 240
    nextHealthHeartbeat := 30
    retryDeadline := none }

theorem awake_refresh (state : PeriodicStateDocument bench) :
    benchSetting.refreshIfDue (awake state) = .ok (awake state) := by
  have hlater : ¬ ((240 : ℤ) ≤ 0 ∨ (30 : ℤ) ≤ 0) := by decide
  exact if_neg hlater

theorem superseding_step (answers : Answers) :
    benchSetting.reconcileStep answers (awake benchRetryable) =
      .ok (awake ⟨supersededPayload, superseded_valid⟩, true) := by
  obtain ⟨latest, hlatest, hend⟩ := bench_latest bench
  have hsuperseded : supersedeActive benchRetryable 64800 66600 =
      .ok ⟨supersededPayload, superseded_valid⟩ := by
    simp only [supersedeActive, bind_eq_ok, transitionTime_eq_ok]
    refine ⟨66600, ⟨by decide, by decide, rfl⟩, ?_⟩
    rw [show benchRetryable.payload.active = some benchFailed from rfl]
    simp only [bind_eq_ok, exists_unit, require_eq_ok]
    refine ⟨by decide, by decide, by decide, ?_⟩
    rw [if_neg (by decide), stateDocument_eq_ok]
    rfl
  have hwritten := accepts_supersedeActive hsuperseded
  simp only [Setting.reconcileStep, bind_eq_ok]
  refine ⟨_, awake_refresh _, latest, hlatest, ?_⟩
  change benchSetting.reconcileActive answers (awake benchRetryable) latest benchFailed = _
  rw [Setting.reconcileActive, if_neg (by decide), if_neg (by decide), if_neg, hend,
    if_pos (by decide), Coordinator.progress_eq_ok]
  · refine ⟨_, ?_, rfl, rfl⟩
    simp only [persisted, bind_eq_ok, raised_eq_ok, persist_eq_ok]
    exact ⟨_, hsuperseded, hwritten, rfl⟩
  · exact not_not.mpr ⟨rfl, rfl⟩

theorem rotating_step (answers : Answers) :
    benchSetting.reconcileStep answers (awake ⟨supersededPayload, superseded_valid⟩) =
      .ok (awake ⟨rotatedPayload, rotated_valid⟩, true) := by
  obtain ⟨latest, hlatest, hend⟩ := bench_latest bench
  have hrotated : rotateTerminalActive ⟨supersededPayload, superseded_valid⟩ 66600 =
      .ok ⟨rotatedPayload, rotated_valid⟩ := by
    simp only [rotateTerminalActive, bind_eq_ok, transitionTime_eq_ok]
    refine ⟨66600, ⟨by decide, by decide, rfl⟩, ?_⟩
    rw [show (⟨supersededPayload, superseded_valid⟩ : PeriodicStateDocument bench).payload.active =
      some benchSuperseded from rfl]
    simp only [bind_eq_ok, exists_unit, require_eq_ok, stateDocument_eq_ok]
    exact ⟨by decide, rfl⟩
  have hwritten := accepts_rotateTerminalActive hrotated
  simp only [Setting.reconcileStep, bind_eq_ok]
  refine ⟨_, awake_refresh _, latest, hlatest, ?_⟩
  change benchSetting.reconcileActive answers (awake ⟨supersededPayload, superseded_valid⟩) latest
    benchSuperseded = _
  rw [Setting.reconcileActive, if_pos (by decide), Coordinator.progress_eq_ok]
  refine ⟨_, ?_, rfl, rfl⟩
  simp only [persisted, bind_eq_ok, raised_eq_ok, persist_eq_ok]
  exact ⟨_, hrotated, hwritten, rfl⟩

theorem resting_step (answers : Answers) :
    benchSetting.reconcileStep answers (awake ⟨rotatedPayload, rotated_valid⟩) =
      .ok (awake ⟨rotatedPayload, rotated_valid⟩, false) := by
  obtain ⟨latest, hlatest, hend⟩ := bench_latest bench
  simp only [Setting.reconcileStep, bind_eq_ok]
  refine ⟨_, awake_refresh _, latest, hlatest, ?_⟩
  change benchSetting.allocateLatest answers (awake ⟨rotatedPayload, rotated_valid⟩) latest = _
  rw [Setting.allocateLatest, if_neg, if_pos (by decide)]
  · rfl
  · rw [hend]
    decide

theorem awake_ordinary (answers : ℕ → Answers) :
    Ordinary benchSetting answers (awake benchRetryable) := by
  intro n c hrun
  have hone : c = awake benchRetryable ∨ c = awake ⟨supersededPayload, superseded_valid⟩ ∨
      c = awake ⟨rotatedPayload, rotated_valid⟩ := by
    induction hrun with
    | start => exact .inl rfl
    | step _ hstep ih =>
        rcases ih with rfl | rfl | rfl
        · rw [superseding_step] at hstep
          cases hstep
          exact .inr (.inl rfl)
        · rw [rotating_step] at hstep
          cases hstep
          exact .inr (.inr rfl)
        · rw [resting_step] at hstep
          cases hstep
  rcases hone with rfl | rfl | rfl
  · exact ⟨_, superseding_step _⟩
  · exact ⟨_, rotating_step _⟩
  · exact ⟨_, resting_step _⟩

/-- What the authorities answer when they are not asked. -/
def benchAnswers : Answers :=
  { generationId := benchSlot.generationId
    ownerToken := benchSlot.ownerToken
    recovered := none
    lockFree := true
    input := .existing
    generated := .busy
    photo := true
    delivered := none }

/-- A failed slot that a newer one overtakes is ended by the first call and rotated away by the
second, and the third rests. -/
theorem reconciliation_settles_superseded :
    (Settles benchSetting (fun _ => benchAnswers) (awake benchRetryable) ↔
      ¬ benchSetting.Blocked benchRetryable) ∧
      Settles benchSetting (fun _ => benchAnswers) (awake benchRetryable) :=
  ⟨reconciliation_settles_iff benchSetting _ (awake benchRetryable) (awake_ordinary _),
    2, _, _, .step (.step .start (superseding_step _)) (rotating_step _), resting_step _⟩

/-- With sixteen unresolved deliveries and a READY slot that a newer one overtakes every call
returns and none of them rests. -/
theorem reconciliation_rewrites_forever :
    Ordinary benchSetting (fun _ => benchAnswers) crowdedCoordinator ∧
      ¬ Settles benchSetting (fun _ => benchAnswers) crowdedCoordinator := by
  have hsame {n : ℕ} {c : Coordinator crowded}
      (h : Rewrites benchSetting (fun _ => benchAnswers) crowdedCoordinator n c) :
      c = crowdedCoordinator := by
    induction h with
    | start => rfl
    | step hrun hstep ih =>
        rw [ih, crowded_step] at hstep
        cases hstep
        rfl
  constructor
  · intro n c hrun
    exact ⟨_, by rw [hsame hrun, crowded_step]⟩
  · rintro ⟨n, c, c', hrun, hstep⟩
    rw [hsame hrun, crowded_step] at hstep
    cases hstep

end Periodic
end CryoDaq
