import CryoDaq.Periodic.Steps

/-!
# What the gate admits

The gate is meant to admit the successors that the helpers return and nothing
else.  It does so on every edge but the allocations.

**New slots.**  The gate does not check the slot of a new allocation as
`_validate_slot` does.

**Retries.**  A helper retries the slot of the high water, under any interval
that ends there; the gate asks for the old interval and for no high water.
-/

namespace CryoDaq
namespace Periodic

variable {L : Library} {s t : PeriodicStateDocument L} {a b : Active}
variable {slotId ownerToken : String} {now : ℤ}

/-- `t` is what one helper returns on `s`. -/
inductive Helper (s t : PeriodicStateDocument L) : Prop
  | allocatePending (slot : PeriodicSlot) (config : PeriodicPngConfig)
      (generationId ownerToken displayTime : String) (now : ℤ) (destination : Option String)
      (h : allocatePending s slot config generationId ownerToken displayTime now destination =
        .ok t)
  | markRendering (slotId ownerToken : String) (now : ℤ)
      (h : markRendering s slotId ownerToken now = .ok t)
  | markReady (artifact : PeriodicArtifact) (caption slotId ownerToken : String) (now : ℤ)
      (h : markReady s artifact caption slotId ownerToken now = .ok t)
  | markRetryableFailure (phase certainty code text : String) (notBefore : ℤ)
      (slotId ownerToken : String) (now : ℤ)
      (h : markRetryableFailure s phase certainty code text notBefore slotId ownerToken now =
        .ok t)
  | markTerminalFailure (phase certainty code text slotId ownerToken : String) (now : ℤ)
      (h : markTerminalFailure s phase certainty code text slotId ownerToken now = .ok t)
  | markDelivering (slotId ownerToken : String) (now : ℤ)
      (h : markDelivering s slotId ownerToken now = .ok t)
  | markSucceeded (receipt : PeriodicDeliveryReceipt) (slotId ownerToken : String) (now : ℤ)
      (h : markSucceeded s receipt slotId ownerToken now = .ok t)
  | markDeliveryUnknown (code text slotId ownerToken : String) (now : ℤ)
      (h : markDeliveryUnknown s code text slotId ownerToken now = .ok t)
  | supersedeActive (newerSlotEnd now : ℤ) (h : supersedeActive s newerSlotEnd now = .ok t)
  | rotateTerminalActive (now : ℤ) (h : rotateTerminalActive s now = .ok t)
  | setPeriodicHealth (status : String) (code : Option String) (text : String) (now : ℤ)
      (h : setPeriodicHealth s status code text now = .ok t)

def Active.slot (a : Active) : PeriodicSlot :=
  { slotId := a.slotId, slotStart := a.slotStart, slotEnd := a.slotEnd, intervalS := a.intervalS }

/-- `q` allocates the slot of `a` anew, whatever slot that is. -/
structure Allocates (p q : Payload) (a : Active) : Prop where
  idle : p.active = none
  advances : p.highWaterSlotEnd.all (· < a.slotEnd) = true
  time : p.updatedAt ≤ q.updatedAt
  fresh : a.freshPending q.updatedAt 0 0
  created : a.createdAt = q.updatedAt
  payload : q = { p with
    highWaterSlotEnd := some a.slotEnd, active := some a, updatedAt := q.updatedAt }

/-- `q` renders the slot of `b` again as `a`, whatever its interval and the high water. -/
structure Reallocates (p q : Payload) (b a : Active) : Prop where
  active : p.active = some b
  due : b.status = .failed ∧ b.retryable = some true ∧ b.failurePhase = some .render ∧
    b.notBefore ≤ q.updatedAt
  time : p.updatedAt ≤ q.updatedAt
  fresh : a.freshPending q.updatedAt b.renderAttemptCount b.deliveryAttemptCount
  kept : a.slotId = b.slotId ∧ a.slotEnd = b.slotEnd ∧ a.displayTime = b.displayTime ∧
    a.createdAt = b.createdAt
  payload : q = { p with active := some a, updatedAt := q.updatedAt }

theorem freshPending_freshActive {slot : PeriodicSlot} {config : PeriodicPngConfig}
    {generationId owner display destination : String} {renders deliveries created : ℤ} :
    (freshActive slot config generationId owner display destination renders deliveries now
      created).freshPending now renders deliveries :=
  ⟨rfl, rfl, rfl, rfl, rfl, rfl, rfl, rfl, rfl, rfl, rfl, rfl, rfl, rfl⟩

theorem slot_freshActive {slot : PeriodicSlot} {config : PeriodicPngConfig}
    {generationId owner display destination : String} {renders deliveries created : ℤ} :
    (freshActive slot config generationId owner display destination renders deliveries now
      created).slot = slot := rfl

theorem allocatePending_cases {slot : PeriodicSlot} {config : PeriodicPngConfig}
    {generationId displayTime : String} {destination : Option String}
    (h : allocatePending s slot config generationId ownerToken displayTime now destination =
      .ok t) :
    (∃ a, Allocates s.payload t.payload a ∧ validateSlot L a.slot = .ok ()) ∨
      ∃ b a, Reallocates s.payload t.payload b a ∧ validateSlot L a.slot = .ok () ∧
        s.payload.highWaterSlotEnd = some a.slotEnd := by
  simp only [allocatePending, bind_eq_ok, exists_unit, raised_eq_ok, transitionTime_eq_ok] at h
  obtain ⟨_, ⟨_, hle, rfl⟩, generation, _, owner, _, display, hdisplay, hslot, h⟩ := h
  cases hactive : s.payload.active with
  | none =>
      rw [hactive] at h
      simp only [allocateNew, raised_eq_ok, bind_eq_ok, exists_unit, require_eq_ok,
        stateDocument_eq_ok] at h
      obtain ⟨hhigh, destination, _, ht⟩ := h
      have hnow : t.payload.updatedAt = now := by rw [ht]
      refine .inl ⟨freshActive slot config generation owner display destination 0 0 now now,
        ⟨hactive, hhigh, ?_, ?_, ?_, ?_⟩, ?_⟩
      · rw [hnow]
        exact hle
      · rw [hnow]
        exact freshPending_freshActive
      · exact hnow.symm
      · rw [hnow]
        exact ht
      · rw [slot_freshActive]
        exact hslot
  | some b =>
      rw [hactive] at h
      simp only [allocateRetry, raised_eq_ok, bind_eq_ok, exists_unit, require_eq_ok,
        stateDocument_eq_ok] at h
      obtain ⟨⟨hstatus, hretryable, hphase, hid, hend, hdue⟩, _, hsame, hhigh, destination, _,
        ht⟩ := h
      have hnow : t.payload.updatedAt = now := by rw [ht]
      refine .inr ⟨b, freshActive slot config generation owner display destination
        b.renderAttemptCount b.deliveryAttemptCount now b.createdAt,
        ⟨hactive, ⟨hstatus, hretryable, hphase, ?_⟩, ?_, ?_,
          ⟨hid.symm, hend.symm, hsame, rfl⟩, ?_⟩, ?_, hhigh⟩
      · rw [hnow]
        exact hdue
      · rw [hnow]
        exact hle
      · rw [hnow]
        exact freshPending_freshActive
      · rw [hnow]
        exact ht
      · rw [slot_freshActive]
        exact hslot

/-- A configuration under which a slot is allocated as it stands. -/
def Active.config (a : Active) (h : hashText a.configFingerprint = true) : PeriodicPngConfig :=
  { intervalS := a.intervalS
    chartWindowS := a.slotEnd - a.windowStart
    maxRenderAttempts := a.maxRenderAttempts
    maxDeliveryAttempts := a.maxDeliveryAttempts
    telegramChatId := .number 1
    configFingerprint := a.configFingerprint
    fingerprinted := h }

theorem freshActive_config {renders deliveries : ℤ} (h : hashText a.configFingerprint = true)
    (hfresh : a.freshPending now renders deliveries) (hwindow : a.windowEnd = a.slotEnd) :
    freshActive a.slot (a.config h) a.generationId a.ownerToken a.displayTime
      a.destinationFingerprint renders deliveries now a.createdAt = a := by
  cases a
  obtain ⟨rfl, rfl, rfl, rfl, rfl, rfl, rfl, rfl, rfl, rfl, rfl, rfl, hupdated, rfl⟩ := hfresh
  cases hwindow
  cases hupdated
  simp only [freshActive, Active.slot, Active.config, sub_sub_cancel]

theorem Allocates.active_eq (h : Allocates s.payload t.payload a) : t.payload.active = some a := by
  rw [h.payload]

theorem Reallocates.active_eq (h : Reallocates s.payload t.payload b a) :
    t.payload.active = some a := by
  rw [h.payload]

theorem updatedAt_nonneg (s : PeriodicStateDocument L) : 0 ≤ s.payload.updatedAt := by
  have h := s.valid
  simp only [validateDocument, validateDocumentTimes, bind_eq_ok, exists_unit,
    finiteTime_eq_ok] at h
  obtain ⟨_, _, _, _, _, _, _, _, ⟨_, ⟨hnonneg, _⟩, _⟩, _⟩ := h
  exact hnonneg

theorem validateFailure_retryable {phase : FailurePhase} (h : validateFailure b = .ok ())
    (hretryable : b.retryable = some true) (hphase : b.failurePhase = some phase) :
    b.attempts phase < b.attemptLimit phase := by
  unfold validateFailure at h
  split at h
  · rename_i p r c e hp hr hc he
    rw [hphase] at hp
    cases hp
    rw [hretryable] at hr
    cases hr
    simp only [validateRetryable, bind_eq_ok, exists_unit, require_eq_ok, if_true] at h
    exact h.2.2.2
  · cases h

theorem validateFailure_decided (h : validateFailure b = .ok ()) :
    ∃ retryable, b.retryable = some retryable := by
  unfold validateFailure at h
  split at h
  · exact ⟨_, ‹_›⟩
  · cases h

theorem Allocates.helper (h : Allocates s.payload t.payload a)
    (hslot : validateSlot L a.slot = .ok ()) : Helper s t := by
  have hsound := t.sound h.active_eq
  refine .allocatePending a.slot (a.config hsound.fingerprint) a.generationId a.ownerToken
    a.displayTime t.payload.updatedAt (some a.destinationFingerprint) ?_
  simp only [allocatePending, bind_eq_ok, exists_unit, raised_eq_ok, transitionTime_eq_ok,
    validatedToken_eq_ok]
  refine ⟨_, ⟨updatedAt_nonneg t, h.time, rfl⟩, _, ⟨hsound.generation, rfl⟩, _,
    ⟨hsound.owner, rfl⟩, _, hsound.display, hslot, ?_⟩
  rw [h.idle]
  simp only [allocateNew, raised_eq_ok, bind_eq_ok, exists_unit, require_eq_ok, stateDocument_eq_ok]
  refine ⟨h.advances, a.destinationFingerprint, ?_, ?_⟩
  · exact validatedHash_eq_ok.mpr ⟨hsound.destination, rfl⟩
  · have hfresh := freshActive_config hsound.fingerprint h.fresh hsound.windowEnd
    rw [h.created] at hfresh
    rw [hfresh]
    exact h.payload

theorem Reallocates.helper (h : Reallocates s.payload t.payload b a)
    (hslot : validateSlot L a.slot = .ok ())
    (hhigh : s.payload.highWaterSlotEnd = some a.slotEnd) : Helper s t := by
  have hsound := t.sound h.active_eq
  obtain ⟨hstatus, hretryable, hphase, hdue⟩ := h.due
  obtain ⟨hid, hend, hdisplay, hcreated⟩ := h.kept
  have hlimit := validateFailure_retryable ((s.sound h.active).failure hstatus) hretryable hphase
  refine .allocatePending a.slot (a.config hsound.fingerprint) a.generationId a.ownerToken
    a.displayTime t.payload.updatedAt (some a.destinationFingerprint) ?_
  simp only [allocatePending, bind_eq_ok, exists_unit, raised_eq_ok, transitionTime_eq_ok,
    validatedToken_eq_ok]
  refine ⟨_, ⟨updatedAt_nonneg t, h.time, rfl⟩, _, ⟨hsound.generation, rfl⟩, _,
    ⟨hsound.owner, rfl⟩, _, hsound.display, hslot, ?_⟩
  rw [h.active]
  simp only [allocateRetry, raised_eq_ok, bind_eq_ok, exists_unit, require_eq_ok, stateDocument_eq_ok]
  refine ⟨⟨hstatus, hretryable, hphase, hid.symm, hend.symm, hdue⟩, hlimit, hdisplay, hhigh,
    a.destinationFingerprint, ?_, ?_⟩
  · exact validatedHash_eq_ok.mpr ⟨hsound.destination, rfl⟩
  · have hfresh := freshActive_config hsound.fingerprint h.fresh hsound.windowEnd
    rw [hcreated] at hfresh
    rw [hfresh]
    exact h.payload

/-! ## The parts of the gate -/

theorem requireOnlyFieldDeltas_eq_ok {φ : Type} [DecidableEq φ] {fields allowed : List φ}
    {text : φ → String} {same : φ → Bool} {context : String} {u : Unit} :
    requireOnlyFieldDeltas fields text same allowed context = .ok u ↔
      ∀ f ∈ fields, f ∉ allowed → same f = true := by
  simp only [requireOnlyFieldDeltas, require_eq_ok, List.filter_eq_nil_iff, Bool.and_eq_true,
    Bool.not_eq_true', decide_eq_true_eq, not_and]
  exact ⟨fun h f hf hnot => by_contra fun hs => h f hf (by simpa using hs) hnot,
    fun h f hf hs hnot => absurd (h f hf hnot) (by simp [hs])⟩

theorem enforceDurableTransition_eq_ok :
    enforceDurableTransition s t = .ok () ↔
      enforceDurableOrder s.payload t.payload = .ok () ∧
        (t.payload = s.payload ∨ matchesHealthOnlyTransition s t = .ok true ∨
          t.payload ≠ s.payload ∧ matchesHealthOnlyTransition s t = .ok false ∧
            enforceActiveEdge s t = .ok ()) := by
  simp only [enforceDurableTransition, bind_eq_ok, exists_unit, raised_eq_ok]
  refine and_congr_right fun _ => ?_
  by_cases heq : t.payload = s.payload
  · simp [heq]
  · rw [if_neg heq]
    simp only [bind_eq_ok, raised_eq_ok, heq, false_or]
    constructor
    · rintro ⟨healthOnly, hmatches, h⟩
      cases healthOnly with
      | true => exact .inl hmatches
      | false => exact .inr ⟨heq, hmatches, h⟩
    · rintro (hmatches | ⟨_, hmatches, h⟩)
      · exact ⟨true, hmatches, rfl⟩
      · exact ⟨false, hmatches, h⟩

theorem highWater_kept {p q : Payload} (h : q.highWaterSlotEnd = p.highWaterSlotEnd) :
    p.highWaterSlotEnd.all (fun old => q.highWaterSlotEnd.any (old ≤ ·)) = true := by
  rw [h]
  cases p.highWaterSlotEnd with
  | none => rfl
  | some high => exact decide_eq_true le_rfl

theorem enforceDurableOrder_of_same {p q : Payload} (htime : p.updatedAt ≤ q.updatedAt)
    (hhigh : q.highWaterSlotEnd = p.highWaterSlotEnd)
    (hledger : q.unresolvedDelivery = p.unresolvedDelivery) :
    enforceDurableOrder p q = .ok () := by
  simp only [enforceDurableOrder, bind_eq_ok, exists_unit, require_eq_ok]
  refine ⟨htime, highWater_kept hhigh, fun hne => absurd hhigh.symm hne, ?_, ?_, ?_⟩
  · rw [hledger]
    exact List.take_length
  · rw [hledger]
    exact .inl rfl
  · intro hlength
    rw [hledger] at hlength
    exact absurd hlength (Nat.ne_of_lt (Nat.lt_succ_self _))

theorem matchesHealthOnly_of_active (h : s.payload.active ≠ t.payload.active) :
    matchesHealthOnlyTransition s t = .ok false := by
  rw [matchesHealthOnlyTransition, if_pos (fun hsame => h hsame.2.1)]

theorem accepts_of_edge (horder : enforceDurableOrder s.payload t.payload = .ok ())
    (hactive : s.payload.active ≠ t.payload.active) (hedge : enforceActiveEdge s t = .ok ()) :
    enforceDurableTransition s t = .ok () := by
  rw [enforceDurableTransition_eq_ok]
  refine ⟨horder, .inr (.inr ⟨?_, matchesHealthOnly_of_active hactive, hedge⟩)⟩
  intro heq
  exact hactive (by rw [heq])

theorem enforceActiveEdge_of_replay {allowed : List ActiveField}
    {candidates : List (PeriodicStateDocument L)} (hb : s.payload.active = some b)
    (ha : t.payload.active = some a)
    (hallowed : ActiveField.edgeDeltas b.status a.status = some allowed)
    (hsame : ∀ f, f ∉ allowed → f.same b a = true)
    (hretry : ¬ (b.status = .failed ∧ a.status = .pending))
    (hreplay : replayCandidates s b a t.payload.updatedAt = .ok candidates)
    (hmem : t ∈ candidates) : enforceActiveEdge s t = .ok () := by
  unfold enforceActiveEdge
  rw [hb, ha]
  dsimp only
  rw [hallowed]
  simp only [bind_eq_ok, exists_unit, raised_eq_ok, requireOnlyFieldDeltas_eq_ok,
    requireReplayedActiveEdge]
  refine ⟨fun f _ hnot => hsame f hnot, ?_⟩
  rw [if_neg hretry]
  simp only [bind_eq_ok, raised_eq_ok, require_eq_ok]
  exact ⟨candidates, hreplay, List.any_eq_true.mpr ⟨t, hmem, decide_eq_true rfl⟩⟩

/-! ## The helpers pass the gate -/

theorem accepts_of_touch {p : Payload} {x : Active} {σ τ : PeriodicStatus}
    {allowed : List ActiveField} {candidates : List (PeriodicStateDocument L)}
    (hf : Fenced s b slotId ownerToken now) (hb : b.status = σ) (hx : x.status = τ)
    (ht : t.payload = p.touch x now) (hhigh : p.highWaterSlotEnd = s.payload.highWaterSlotEnd)
    (hledger : p.unresolvedDelivery = s.payload.unresolvedDelivery)
    (hallowed : ActiveField.edgeDeltas σ τ = some allowed)
    (hne : b ≠ x.touched now) (hsame : ∀ f, f ∉ allowed → f.same b (x.touched now) = true)
    (hretry : ¬ (σ = .failed ∧ τ = .pending))
    (hreplay : replayCandidates s b (x.touched now) now = .ok candidates)
    (hmem : t ∈ candidates) : enforceDurableTransition s t = .ok () := by
  have ha : t.payload.active = some (x.touched now) := by rw [ht, Payload.touch_active]
  have hnow : t.payload.updatedAt = now := by rw [ht, Payload.touch_updatedAt]
  subst hb hx
  refine accepts_of_edge (enforceDurableOrder_of_same ?_ ?_ ?_) ?_
    (enforceActiveEdge_of_replay hf.active ha hallowed hsame hretry (hnow ▸ hreplay) hmem)
  · rw [hnow]
    exact hf.time
  · rw [ht]
    exact hhigh
  · rw [ht]
    exact hledger
  · rw [hf.active, ha, Ne, Option.some.injEq]
    exact hne

theorem ne_touched_of_status {x : Active} {σ τ : PeriodicStatus} (hb : b.status = σ)
    (hx : x.status = τ) (h : σ ≠ τ) : b ≠ x.touched now := by
  intro he
  rw [he] at hb
  exact h (hb.symm.trans hx)

theorem same_of_cleared {x : Active} {allowed : List ActiveField} (hfailure : b.Unfailed)
    (hfinished : b.finishedAt = none) (hupdated : .updatedAt ∈ allowed)
    (hkept : ∀ f, f ∉ allowed → f ∉ ActiveField.failureDeltas → f.same b x = true) :
    ∀ f, f ∉ allowed → f.same b (x.clearFailure.touched now) = true := by
  obtain ⟨hphase, hretryable, hcertainty, hcode, htext⟩ := hfailure
  intro f hf
  cases f with
  | failurePhase => exact decide_eq_true hphase
  | retryable => exact decide_eq_true hretryable
  | certainty => exact decide_eq_true hcertainty
  | errorCode => exact decide_eq_true hcode
  | errorText => exact decide_eq_true htext
  | finishedAt => exact decide_eq_true hfinished
  | updatedAt => exact absurd hupdated hf
  | _ => exact hkept _ hf (by decide)

theorem accepts_markRendering (h : markRendering s slotId ownerToken now = .ok t) :
    enforceDurableTransition s t = .ok () := by
  obtain ⟨b, hf, hstatus, ht⟩ := markRendering_cases h
  have hsound := s.sound hf.active
  have hunfailed := hsound.unfailed (by rw [hstatus]; decide) (by rw [hstatus]; decide)
  have hunfinished := hsound.unfinished (by rw [hstatus]; decide)
  have hx : b.rendering.status = .rendering := rfl
  refine accepts_of_touch hf hstatus hx ht rfl rfl rfl
    (ne_touched_of_status hstatus hx (by decide))
    (same_of_cleared hunfailed hunfinished (by decide) ?_) (by decide) ?_ (List.mem_singleton_self t)
  · intro f hf _
    cases f <;> first | exact decide_eq_true rfl | exact absurd (by decide) hf
  · unfold replayCandidates
    rw [hstatus, hf.slot, hf.owner]
    change Except.ok (attempt (markRendering s slotId ownerToken now)) = _
    rw [h]
    rfl

theorem accepts_markReady {artifact : PeriodicArtifact} {caption : String}
    (h : markReady s artifact caption slotId ownerToken now = .ok t) :
    enforceDurableTransition s t = .ok () := by
  obtain ⟨b, hf, hstatus, ht⟩ := markReady_cases h
  have hsound := s.sound hf.active
  have hunfailed := hsound.unfailed (by rw [hstatus]; decide) (by rw [hstatus]; decide)
  have hunfinished := hsound.unfinished (by rw [hstatus]; decide)
  have hx : (b.readied artifact caption now).status = .ready := rfl
  refine accepts_of_touch hf hstatus hx ht rfl rfl rfl
    (ne_touched_of_status hstatus hx (by decide))
    (same_of_cleared hunfailed hunfinished (by decide) ?_) (by decide) ?_ (List.mem_singleton_self t)
  · intro f hf _
    cases f <;> first | exact decide_eq_true rfl | exact absurd (by decide) hf
  · unfold replayCandidates
    rw [hstatus, hf.slot, hf.owner]
    change Except.ok (attempt (markReady s artifact caption slotId ownerToken now)) = _
    rw [h]
    rfl

theorem same_fail {x : Active} {fields : FailureFields} {retryable : Bool} {code text : String}
    {finishedAt : Option ℤ} {allowed : List ActiveField}
    (hallowed : ∀ f ∈ ActiveField.updatedAt :: ActiveField.failureDeltas, f ∈ allowed)
    (hstatus : b.status = .failed ∨ .status ∈ allowed)
    (hkept : ∀ f, f ∉ allowed → f.same b x = true) :
    ∀ f, f ∉ allowed →
      f.same b ((x.fail fields retryable code text finishedAt).touched now) = true := by
  intro f hf
  have hother : f ∉ ActiveField.updatedAt :: ActiveField.failureDeltas :=
    fun hmem => hf (hallowed f hmem)
  cases f with
  | status =>
      rcases hstatus with hfailed | hmem
      · exact decide_eq_true hfailed
      · exact absurd hmem hf
  | _ => first | exact absurd (by decide) hother | exact hkept _ hf

theorem same_attempted {counts : Prop} [Decidable counts] {allowed : List ActiveField}
    (hcounts : counts → .renderAttemptCount ∈ allowed) :
    ∀ f, f ∉ allowed → f.same b (b.attempted counts) = true := by
  intro f hf
  by_cases hc : counts
  · have hne : f ≠ .renderAttemptCount := fun he => hf (he ▸ hcounts hc)
    rw [Active.attempted, if_pos hc]
    cases f <;> first | exact decide_eq_true rfl | exact absurd rfl hne
  · rw [Active.attempted, if_neg hc]
    cases f <;> exact decide_eq_true rfl

theorem same_notBefore {x : Active} {notBefore : ℤ} {allowed : List ActiveField}
    (hallowed : .notBefore ∈ allowed) (hkept : ∀ f, f ∉ allowed → f.same b x = true) :
    ∀ f, f ∉ allowed → f.same b { x with notBefore } = true := by
  intro f hf
  cases f <;> first | exact absurd hallowed hf | exact hkept _ hf

/-- The arguments that are read back from a failed slot. -/
structure Failed (x : Active) (fields : FailureFields) (retryable : Bool) (code text : String) :
    Prop where
  status : x.status = .failed
  phase : x.failurePhase = some fields.phase
  retryable : x.retryable = some retryable
  certainty : x.certainty = some fields.certainty
  code : x.errorCode = some code
  text : x.errorText = text

theorem replayTerminalFailure_eq {x : Active} {fields : FailureFields} {retryable : Bool}
    {code text : String} (hx : Failed x fields retryable code text) :
    replayTerminalFailure s b x now = markTerminalFailure s fields.phase.text
      fields.certainty.text code text b.slotId b.ownerToken now := by
  rw [replayTerminalFailure, hx.phase, hx.certainty, hx.code, hx.text]
  rfl

theorem replayFailure_retryable {x : Active} {fields : FailureFields} {code text : String}
    (hx : Failed x fields true code text) :
    replayFailure s b x now = markRetryableFailure s fields.phase.text fields.certainty.text code
      text x.notBefore b.slotId b.ownerToken now := by
  rw [replayFailure, if_pos hx.retryable, hx.phase, hx.certainty, hx.code, hx.text]
  rfl

theorem replayFailure_terminal {x : Active} {fields : FailureFields} {code text : String}
    (hx : Failed x fields false code text) :
    replayFailure s b x now = markTerminalFailure s fields.phase.text fields.certainty.text code
      text b.slotId b.ownerToken now := by
  rw [replayFailure, if_neg (by rw [hx.retryable]; decide), replayTerminalFailure_eq hx]

theorem replayCandidates_failure {x : Active} (hx : x.status = .failed)
    (hb : b.status = .pending ∨ b.status = .rendering ∨ b.status = .delivering) :
    replayCandidates s b x now = .ok (attempt (replayFailure s b x now)) := by
  unfold replayCandidates
  rw [hx]
  rcases hb with hb | hb | hb <;> rw [hb]

theorem replayCandidates_ended {x : Active} (hx : x.status = .failed)
    (hb : b.status = .ready ∨ b.status = .failed) :
    replayCandidates s b x now = .ok (attempt (replayTerminalFailure s b x now) ++
      attempt (replaySupersession s b now)) := by
  unfold replayCandidates
  rw [hx]
  rcases hb with hb | hb <;> rw [hb]

theorem mem_attempt {r : Checked (PeriodicStateDocument L)} (h : r = .ok t) : t ∈ attempt r := by
  rw [h]
  exact List.mem_singleton_self t

theorem accepts_markRetryableFailure {phase certainty code text : String} {notBefore : ℤ}
    (h : markRetryableFailure s phase certainty code text notBefore slotId ownerToken now = .ok t) :
    enforceDurableTransition s t = .ok () := by
  obtain ⟨b, fields, hf, rfl, rfl, _, hstatus, ht⟩ := markRetryableFailure_cases h
  obtain ⟨x, hx⟩ : ∃ x, x = { (b.attempted (fields.phase = .render ∧ b.status = .pending)).fail
      fields true code text none with notBefore } := ⟨_, rfl⟩
  rw [← hx] at ht
  have hfailed : Failed (x.touched now) fields true code text := by
    rw [hx]
    exact ⟨rfl, rfl, rfl, rfl, rfl, rfl⟩
  have hend : x.status = .failed := hfailed.status
  have hbefore : (x.touched now).notBefore = notBefore := by rw [hx]; rfl
  have hmem : t ∈ attempt (replayFailure s b (x.touched now) now) := by
    rw [replayFailure_retryable hfailed, hbefore, hf.slot, hf.owner]
    exact mem_attempt h
  have hsame {allowed : List ActiveField}
      (hallowed : ∀ f ∈ ActiveField.updatedAt :: ActiveField.failureDeltas, f ∈ allowed)
      (hstatus : .status ∈ allowed) (hnot : .notBefore ∈ allowed)
      (hcounts : fields.phase = .render ∧ b.status = .pending → .renderAttemptCount ∈ allowed) :
      ∀ f, f ∉ allowed → f.same b (x.touched now) = true := by
    rw [hx]
    exact same_fail (x := { b.attempted _ with notBefore }) hallowed (.inr hstatus)
      (same_notBefore hnot (same_attempted hcounts))
  rcases hstatus with ⟨_, hpre⟩ | ⟨_, hb⟩
  · rcases List.mem_cons.mp hpre with hb | hpre
    · exact accepts_of_touch hf hb hend ht rfl rfl rfl
        (ne_touched_of_status hb hend (by decide))
        (hsame (by decide) (by decide) (by decide) (fun _ => by decide)) (by decide)
        (replayCandidates_failure hfailed.status (.inl hb)) hmem
    · have hb := List.mem_singleton.mp hpre
      refine accepts_of_touch hf hb hend ht rfl rfl rfl
        (ne_touched_of_status hb hend (by decide))
        (hsame (by decide) (by decide) (by decide) ?_) (by decide)
        (replayCandidates_failure hfailed.status (.inr (.inl hb))) hmem
      rintro ⟨_, hpending⟩
      rw [hb] at hpending
      cases hpending
  · refine accepts_of_touch hf hb hend ht rfl rfl rfl
      (ne_touched_of_status hb hend (by decide))
      (hsame (by decide) (by decide) (by decide) ?_) (by decide)
      (replayCandidates_failure hfailed.status (.inr (.inr hb))) hmem
    rintro ⟨_, hpending⟩
    rw [hb] at hpending
    cases hpending

theorem accepts_of_ended {x : Active} {counts : Prop} [Decidable counts] {fields : FailureFields}
    {code text : String} (hf : Fenced s b slotId ownerToken now)
    (hx : x = (b.attempted counts).fail fields false code text (some now))
    (ht : t.payload = s.payload.touch x now) (hcounts : counts → b.status = .pending)
    (hstatus : b.status ∈ [.pending, .rendering, .ready, .delivering, .failed])
    (hlive : b.status = .failed → b.retryable = some true)
    (hterminal : b.status ∈ [.pending, .rendering, .delivering] →
      markTerminalFailure s fields.phase.text fields.certainty.text code text b.slotId b.ownerToken
        now = .ok t)
    (hended : b.status = .ready ∨ b.status = .failed →
      markTerminalFailure s fields.phase.text fields.certainty.text code text b.slotId b.ownerToken
        now = .ok t ∨ replaySupersession s b now = .ok t) :
    enforceDurableTransition s t = .ok () := by
  have hfailed : Failed (x.touched now) fields false code text := by
    rw [hx]
    exact ⟨rfl, rfl, rfl, rfl, rfl, rfl⟩
  have hend : x.status = .failed := hfailed.status
  have hsame {allowed : List ActiveField}
      (hallowed : ∀ f ∈ ActiveField.updatedAt :: ActiveField.failureDeltas, f ∈ allowed)
      (hstatus : b.status = .failed ∨ .status ∈ allowed)
      (hcounts : counts → .renderAttemptCount ∈ allowed) :
      ∀ f, f ∉ allowed → f.same b (x.touched now) = true := by
    rw [hx]
    exact same_fail hallowed hstatus (same_attempted hcounts)
  have hnever {σ : PeriodicStatus} (hb : b.status = σ) (hne : σ ≠ .pending)
      {q : Prop} (hc : counts) : q := absurd (hb.symm.trans (hcounts hc)) hne
  have hfirst (hb : b.status ∈ [.pending, .rendering, .delivering]) :
      t ∈ attempt (replayFailure s b (x.touched now) now) := by
    rw [replayFailure_terminal hfailed]
    exact mem_attempt (hterminal hb)
  have hsecond (hb : b.status = .ready ∨ b.status = .failed) :
      t ∈ attempt (replayTerminalFailure s b (x.touched now) now) ++
        attempt (replaySupersession s b now) := by
    rw [replayTerminalFailure_eq hfailed, List.mem_append]
    exact (hended hb).imp mem_attempt mem_attempt
  rcases List.mem_cons.mp hstatus with hb | hstatus
  · exact accepts_of_touch hf hb hend ht rfl rfl rfl
      (ne_touched_of_status hb hend (by decide))
      (hsame (by decide) (.inr (by decide)) (fun _ => by decide)) (by decide)
      (replayCandidates_failure hfailed.status (.inl hb)) (hfirst (by rw [hb]; decide))
  rcases List.mem_cons.mp hstatus with hb | hstatus
  · exact accepts_of_touch hf hb hend ht rfl rfl rfl
      (ne_touched_of_status hb hend (by decide))
      (hsame (by decide) (.inr (by decide)) (hnever hb (by decide))) (by decide)
      (replayCandidates_failure hfailed.status (.inr (.inl hb))) (hfirst (by rw [hb]; decide))
  rcases List.mem_cons.mp hstatus with hb | hstatus
  · exact accepts_of_touch hf hb hend ht rfl rfl rfl
      (ne_touched_of_status hb hend (by decide))
      (hsame (by decide) (.inr (by decide)) (hnever hb (by decide))) (by decide)
      (replayCandidates_ended hfailed.status (.inl hb)) (hsecond (.inl hb))
  rcases List.mem_cons.mp hstatus with hb | hstatus
  · exact accepts_of_touch hf hb hend ht rfl rfl rfl
      (ne_touched_of_status hb hend (by decide))
      (hsame (by decide) (.inr (by decide)) (hnever hb (by decide))) (by decide)
      (replayCandidates_failure hfailed.status (.inr (.inr hb))) (hfirst (by rw [hb]; decide))
  · have hb := List.mem_singleton.mp hstatus
    refine accepts_of_touch hf hb hend ht rfl rfl rfl ?_
      (hsame (by decide) (.inl hb) (hnever hb (by decide))) (by decide)
      (replayCandidates_ended hfailed.status (.inr hb)) (hsecond (.inr hb))
    intro he
    have hretryable := hlive hb
    rw [he, hfailed.retryable] at hretryable
    cases hretryable

theorem accepts_markTerminalFailure {phase certainty code text : String}
    (h : markTerminalFailure s phase certainty code text slotId ownerToken now = .ok t) :
    enforceDurableTransition s t = .ok () := by
  obtain ⟨b, fields, hf, rfl, rfl, _, hstatus, hphase, ht⟩ := markTerminalFailure_cases h
  have hreplay : markTerminalFailure s fields.phase.text fields.certainty.text code text b.slotId
      b.ownerToken now = .ok t := by
    rw [hf.slot, hf.owner]
    exact h
  exact accepts_of_ended hf rfl ht (fun hc => hc.2.1) hstatus (fun hb => (hphase.1 hb).1)
    (fun _ => hreplay) (fun _ => .inl hreplay)

theorem supersedeActive_newer {newerSlotEnd : ℤ} (hb : s.payload.active = some b)
    (h : supersedeActive s newerSlotEnd now = .ok t) :
    supersedeActive s (b.slotEnd + 1) now = .ok t := by
  simp only [supersedeActive, bind_eq_ok, transitionTime_eq_ok] at h ⊢
  obtain ⟨timestamp, htime, h⟩ := h
  refine ⟨timestamp, htime, ?_⟩
  rw [hb] at h ⊢
  simp only [bind_eq_ok, exists_unit, require_eq_ok] at h ⊢
  exact ⟨Int.lt_succ b.slotEnd, h.2⟩

theorem markTerminalFailure_of_superseded (hf : Fenced s b b.slotId b.ownerToken now)
    (hstatus : b.status ∈ [.pending, .rendering])
    (ht : t.payload = s.payload.touch (b.superseded now) now) :
    markTerminalFailure s "scheduler" "not_applicable" "superseded_by_newer_slot"
      "slot was superseded by a newer completed interval" b.slotId b.ownerToken now = .ok t := by
  have htext := (t.sound (by rw [ht, Payload.touch_active])).text
  have hne (σ : PeriodicStatus) (hσ : σ ∉ [PeriodicStatus.pending, .rendering]) : b.status ≠ σ :=
    fun hb => hσ (hb ▸ hstatus)
  simp only [markTerminalFailure, bind_eq_ok, exists_unit, require_eq_ok, transitionContext_eq_ok,
    validatedCode_eq_ok, stateDocument_eq_ok]
  refine ⟨⟨b, now⟩, ⟨hf, ?_, rfl⟩, fun hb => absurd hb (hne _ (by decide)),
    ⟨.scheduler, .notApplicable⟩, rfl, rfl, fun hb => absurd hb (hne _ (by decide)),
    ?_, ?_, fun hb => absurd hb (hne _ (by decide)), _, ⟨by decide, rfl⟩, _, htext, ht⟩
  · rcases List.mem_cons.mp hstatus with hb | hstatus
    · exact List.mem_cons.mpr (.inl hb)
    · exact List.mem_cons_of_mem _ (List.mem_cons.mpr (.inl (List.mem_singleton.mp hstatus)))
  · intro hdelivery
    cases hdelivery
  · intro hrender
    cases hrender

/-! ## Health and the full ledger -/

theorem setPeriodicHealth_of {h : Health} (hle : s.payload.updatedAt ≤ h.updatedAt)
    (ht : t.payload = { s.payload with health := h, updatedAt := h.updatedAt }) :
    setPeriodicHealth s h.status h.errorCode h.errorText h.updatedAt = .ok t := by
  have hvalid := t.valid
  simp only [validateDocument, bind_eq_ok, exists_unit] at hvalid
  obtain ⟨_, _, _, _, _, _, health, hhealth, _⟩ := hvalid
  have hnonneg : 0 ≤ h.updatedAt := by
    have hle' := updatedAt_nonneg t
    rw [ht] at hle'
    exact hle'
  rw [ht] at hhealth
  simp only [setPeriodicHealth, bind_eq_ok, transitionTime_eq_ok, stateDocument_eq_ok]
  refine ⟨_, ⟨hnonneg, hle, rfl⟩, health, hhealth, ?_⟩
  rw [healthPayload_eq hhealth]
  exact ht

theorem accepts_health {h : Health} (hle : s.payload.updatedAt ≤ h.updatedAt)
    (ht : t.payload = { s.payload with health := h, updatedAt := h.updatedAt }) :
    enforceDurableTransition s t = .ok () := by
  rw [enforceDurableTransition_eq_ok]
  refine ⟨enforceDurableOrder_of_same (by rw [ht]; exact hle) (by rw [ht]) (by rw [ht]), ?_⟩
  by_cases hsame : s.payload.health = h
  · -- the time of the old health bounds the time of the state
    left
    have hhealth : h.updatedAt ≤ s.payload.updatedAt := hsame ▸ s.health_le
    have heq : h.updatedAt = s.payload.updatedAt := le_antisymm hhealth hle
    rw [ht, heq, ← hsame]
  · right
    left
    have hother : sameBesidesHealth s.payload t.payload := by
      rw [ht]
      exact ⟨rfl, rfl, rfl, rfl⟩
    have hchanged : s.payload.health ≠ t.payload.health := by
      rw [ht]
      exact hsame
    rw [matchesHealthOnlyTransition, if_neg (not_not_intro hother), if_neg hchanged]
    simp only [bind_eq_ok, exists_unit, requireExactSuccessor, require_eq_ok]
    refine ⟨t, ?_, rfl, rfl⟩
    have hset := setPeriodicHealth_of hle ht
    rw [ht]
    exact hset

theorem accepts_setPeriodicHealth {status text : String} {code : Option String}
    (h : setPeriodicHealth s status code text now = .ok t) :
    enforceDurableTransition s t = .ok () := by
  obtain ⟨hle, ht⟩ := setPeriodicHealth_cases h
  exact accepts_health hle ht

theorem replayCandidates_redelivered {x : Active} {σ : PeriodicStatus} (hb : b.status = .failed)
    (hx : x.status = σ) (hσ : σ = .ready ∨ σ = .delivering) :
    replayCandidates s b x now = .ok (attempt (markDelivering s b.slotId b.ownerToken now)) := by
  unfold replayCandidates
  rw [hb, hx]
  rcases hσ with rfl | rfl <;> rfl

theorem replayCandidates_delivered {x : Active} (hb : b.status = .ready)
    (hx : x.status = .delivering) :
    replayCandidates s b x now = .ok (attempt (markDelivering s b.slotId b.ownerToken now)) := by
  unfold replayCandidates
  rw [hb, hx]

theorem replayCandidates_waiting {x : Active} (hb : b.status = .ready) (hx : x.status = .ready) :
    replayCandidates s b x now = .ok (attempt (markDelivering s b.slotId b.ownerToken now) ++
      attempt (replaySupersession s b now)) := by
  unfold replayCandidates
  rw [hb, hx]

theorem accepts_waiting {x : Active} (hf : Fenced s b slotId ownerToken now)
    (hb : b.status = .ready) (hx : x.status = .ready)
    (ht : t.payload = (s.payload.paused now).touch x now)
    (hsame : ∀ f, f ∉ [ActiveField.notBefore, .updatedAt] → f.same b (x.touched now) = true)
    (hreplay : markDelivering s b.slotId b.ownerToken now = .ok t ∨
      replaySupersession s b now = .ok t) :
    enforceDurableTransition s t = .ok () := by
  by_cases hne : b = x.touched now
  · refine accepts_health (h := paused now) hf.time ?_
    rw [ht, Payload.touch, ← hne, Payload.paused, ← hf.active]
    rfl
  · refine accepts_of_touch hf hb hx ht rfl rfl rfl hne hsame (by decide)
      (replayCandidates_waiting (x := x.touched now) hb hx) ?_
    rw [List.mem_append]
    exact hreplay.imp mem_attempt mem_attempt

theorem accepts_markDelivering (h : markDelivering s slotId ownerToken now = .ok t) :
    enforceDurableTransition s t = .ok () := by
  obtain ⟨b, hf, hstatus, hdue, hcases⟩ := markDelivering_cases h
  have hsound := s.sound hf.active
  have hreplay : markDelivering s b.slotId b.ownerToken now = .ok t := by
    rw [hf.slot, hf.owner]
    exact h
  have hcleared (hb : b.status = .ready) : b.Unfailed ∧ b.finishedAt = none :=
    ⟨hsound.unfailed (by rw [hb]; decide) (by rw [hb]; decide),
      hsound.unfinished (by rw [hb]; decide)⟩
  rcases List.mem_cons.mp hstatus with hb | hstatus
  · obtain ⟨hunfailed, hunfinished⟩ := hcleared hb
    rcases hcases with ⟨_, ht⟩ | ⟨_, ht⟩
    · refine accepts_waiting hf hb rfl ht
        (same_of_cleared hunfailed hunfinished (by decide) ?_) (.inl hreplay)
      intro f hmem _
      cases f with
      | status => exact decide_eq_true hb
      | _ => first | exact decide_eq_true rfl | exact absurd (by decide) hmem
    · have hx : b.delivering.status = .delivering := rfl
      refine accepts_of_touch hf hb hx ht rfl rfl rfl (ne_touched_of_status hb hx (by decide))
        (same_of_cleared hunfailed hunfinished (by decide) ?_) (by decide)
        (replayCandidates_delivered hb hx) (mem_attempt hreplay)
      intro f hmem _
      cases f <;> first | exact decide_eq_true rfl | exact absurd (by decide) hmem
  · have hb := List.mem_singleton.mp hstatus
    rcases hcases with ⟨_, ht⟩ | ⟨_, ht⟩
    · have hx : (b.waiting now).status = .ready := rfl
      refine accepts_of_touch hf hb hx ht rfl rfl rfl (ne_touched_of_status hb hx (by decide)) ?_
        (by decide) (replayCandidates_redelivered hb hx (.inl rfl)) (mem_attempt hreplay)
      intro f hmem
      cases f <;> first | exact decide_eq_true rfl | exact absurd (by decide) hmem
    · have hx : b.delivering.status = .delivering := rfl
      refine accepts_of_touch hf hb hx ht rfl rfl rfl (ne_touched_of_status hb hx (by decide)) ?_
        (by decide) (replayCandidates_redelivered hb hx (.inr rfl)) (mem_attempt hreplay)
      intro f hmem
      cases f <;> first | exact decide_eq_true rfl | exact absurd (by decide) hmem

theorem accepts_supersedeActive {newerSlotEnd : ℤ}
    (h : supersedeActive s newerSlotEnd now = .ok t) :
    enforceDurableTransition s t = .ok () := by
  obtain ⟨b, hf, _, hdelivering, hterminal, hcases⟩ := supersedeActive_cases h
  have hsound := s.sound hf.active
  have hreplay : replaySupersession s b now = .ok t := supersedeActive_newer hf.active h
  rcases hcases with ⟨⟨hb, _⟩, ht⟩ | ⟨_, ht⟩
  · refine accepts_waiting hf hb hb ht ?_ (.inr hreplay)
    intro f hmem
    cases f <;> first | exact decide_eq_true rfl | exact absurd (by decide) hmem
  · have hx : b.superseded now = (b.attempted False).fail ⟨.scheduler, .notApplicable⟩ false
        "superseded_by_newer_slot" "slot was superseded by a newer completed interval"
        (some now) := rfl
    refine accepts_of_ended hf hx ht (fun hc => hc.elim) ?_ ?_ ?_ (fun _ => .inr hreplay)
    · cases hb : b.status with
      | succeeded => simp [Active.isTerminal, hb] at hterminal
      | deliveryUnknown => simp [Active.isTerminal, hb] at hterminal
      | _ => decide
    · intro hb
      obtain ⟨retryable, hretryable⟩ := validateFailure_decided (hsound.failure hb)
      cases retryable with
      | true => exact hretryable
      | false => simp [Active.isTerminal, hb, hretryable] at hterminal
    · intro hmem
      refine markTerminalFailure_of_superseded hf ?_ ht
      cases hb : b.status with
      | pending => decide
      | rendering => decide
      | delivering => exact absurd hb hdelivering
      | _ =>
          rw [hb] at hmem
          exact absurd hmem (by decide)

theorem accepts_markSucceeded {receipt : PeriodicDeliveryReceipt}
    (h : markSucceeded s receipt slotId ownerToken now = .ok t) :
    enforceDurableTransition s t = .ok () := by
  obtain ⟨b, hf, hb, ht⟩ := markSucceeded_cases h
  have hx : (b.succeeded receipt now).status = .succeeded := rfl
  refine accepts_of_touch hf hb hx ht rfl rfl rfl (ne_touched_of_status hb hx (by decide)) ?_
    (by decide) ?_ (List.mem_singleton_self t)
  · intro f hmem
    cases f <;> first | exact decide_eq_true rfl | exact absurd (by decide) hmem
  · unfold replayCandidates
    rw [hb, hf.slot, hf.owner]
    change Except.ok (attempt (markSucceeded s receipt slotId ownerToken now)) = _
    rw [h]
    rfl

theorem accepts_markDeliveryUnknown {code text : String}
    (h : markDeliveryUnknown s code text slotId ownerToken now = .ok t) :
    enforceDurableTransition s t = .ok () := by
  obtain ⟨b, artifact, hf, hb, _, _, ht⟩ := markDeliveryUnknown_cases h
  have ha : t.payload.active = some ((b.unknown code text now).touched now) := by rw [ht]; rfl
  have hnow : t.payload.updatedAt = now := by rw [ht]; rfl
  have hledger : t.payload.unresolvedDelivery =
      s.payload.unresolvedDelivery ++ [b.ambiguity artifact now code text] := by rw [ht]; rfl
  have hlength : t.payload.unresolvedDelivery.length =
      s.payload.unresolvedDelivery.length + 1 := by rw [hledger, List.length_append]; rfl
  have hx : ((b.unknown code text now).touched now).status = .deliveryUnknown := rfl
  have hactive : s.payload.active ≠ t.payload.active := by
    rw [hf.active, ha, Ne, Option.some.injEq]
    exact ne_touched_of_status hb hx (by decide)
  have hallowed : ActiveField.edgeDeltas b.status ((b.unknown code text now).touched now).status =
      some ([.status, .updatedAt] ++ ActiveField.failureDeltas) := by rw [hb]; rfl
  refine accepts_of_edge ?_ hactive (enforceActiveEdge_of_replay hf.active ha hallowed ?_ ?_ ?_
    (List.mem_singleton_self t))
  · simp only [enforceDurableOrder, bind_eq_ok, exists_unit, require_eq_ok]
    refine ⟨hnow ▸ hf.time, highWater_kept (by rw [ht]; rfl),
      fun hne => absurd (by rw [ht]; rfl) hne, ?_, .inr hlength, ?_⟩
    · rw [hledger]
      exact List.take_left
    · intro _
      rw [hf.active, ha]
      exact ⟨decide_eq_true hb, rfl⟩
  · intro f hmem
    cases f <;> first | exact decide_eq_true rfl | exact absurd (by decide) hmem
  · rintro ⟨hfailed, _⟩
    rw [hb] at hfailed
    cases hfailed
  · unfold replayCandidates
    rw [hb, hf.slot, hf.owner, hnow]
    change Except.ok (attempt (markDeliveryUnknown s code text slotId ownerToken now)) = _
    rw [h]
    rfl

theorem accepts_rotateTerminalActive (h : rotateTerminalActive s now = .ok t) :
    enforceDurableTransition s t = .ok () := by
  obtain ⟨b, hf, hterminal, ht⟩ := rotateTerminalActive_cases h
  have ha : t.payload.active = none := by rw [ht]
  have hnow : t.payload.updatedAt = now := by rw [ht]
  refine accepts_of_edge (enforceDurableOrder_of_same (hnow ▸ hf.time) (by rw [ht]) (by rw [ht]))
    (by rw [hf.active, ha]; exact Option.some_ne_none b) ?_
  unfold enforceActiveEdge
  rw [hf.active, ha]
  dsimp only
  rw [if_pos hterminal]
  simp only [bind_eq_ok, raised_eq_ok, requireExactSuccessor, require_eq_ok]
  exact ⟨t, hnow ▸ h, rfl⟩

theorem requireFreshPendingShape_eq_ok {renders deliveries : ℤ} :
    requireFreshPendingShape a now renders deliveries = .ok () ↔
      a.freshPending now renders deliveries ∧
        (renders = 0 ∧ deliveries = 0 → a.createdAt = now) := by
  simp only [requireFreshPendingShape, bind_eq_ok, exists_unit, require_eq_ok]

theorem requireNewPendingTransition_eq_ok {p q : Payload} (hidle : p.active = none)
    (ha : q.active = some a) (htime : p.updatedAt ≤ q.updatedAt) :
    requireNewPendingTransition p q a = .ok () ↔ Allocates p q a := by
  simp only [requireNewPendingTransition, bind_eq_ok, exists_unit, require_eq_ok,
    requireOnlyFieldDeltas_eq_ok, requireFreshPendingShape_eq_ok]
  constructor
  · rintro ⟨hsame, hadvances, hhigh, hfresh, hcreated⟩
    refine ⟨hidle, ?_, htime, hfresh, hcreated ⟨trivial, trivial⟩, ?_⟩
    · rw [hhigh] at hadvances
      exact hadvances
    · have hterminal := hsame .lastTerminal (by decide) (by decide)
      have hledger := hsame .unresolvedDelivery (by decide) (by decide)
      have hhealth := hsame .health (by decide) (by decide)
      simp only [TopField.same, decide_eq_true_eq] at hterminal hledger hhealth
      cases q
      cases ha
      cases hhigh
      cases hterminal
      cases hledger
      cases hhealth
      rfl
  · intro h
    refine ⟨?_, ?_, by rw [h.payload], h.fresh, fun _ => h.created⟩
    · intro f _ hnot
      rw [h.payload]
      cases f <;> first | exact decide_eq_true rfl | exact absurd (by decide) hnot
    · rw [h.payload]
      exact h.advances

theorem requireKept_eq_ok : ∀ fields : List ActiveField,
    requireKept b a fields = .ok () ↔ ∀ f ∈ fields, f.same b a = true
  | [] => by simp [requireKept]
  | f :: rest => by
      simp only [requireKept, bind_eq_ok, exists_unit, require_eq_ok, List.forall_mem_cons,
        requireKept_eq_ok rest]

theorem Reallocates.same_kept (h : Reallocates s.payload t.payload b a)
    (hinterval : a.intervalS = b.intervalS) : ∀ f ∈ retryKept, f.same b a = true := by
  have hbefore := s.sound h.active
  have hafter := t.sound h.active_eq
  obtain ⟨hid, hend, hdisplay, hcreated⟩ := h.kept
  intro f hf
  cases f with
  | slotId => exact decide_eq_true hid.symm
  | slotStart =>
      have hstart : b.slotStart = a.slotStart := by
        have hb := hbefore.interval
        have ha := hafter.interval
        omega
      exact decide_eq_true hstart
  | slotEnd => exact decide_eq_true hend.symm
  | intervalS => exact decide_eq_true hinterval.symm
  | windowEnd =>
      exact decide_eq_true (hbefore.windowEnd.trans (hend.symm.trans hafter.windowEnd.symm))
  | displayTime => exact decide_eq_true hdisplay.symm
  | renderAttemptCount => exact decide_eq_true h.fresh.2.1.symm
  | deliveryAttemptCount => exact decide_eq_true h.fresh.2.2.1.symm
  | createdAt => exact decide_eq_true hcreated.symm
  | _ => exact absurd hf (by decide)

theorem requireRetryPendingTransition_eq_ok (hb : s.payload.active = some b)
    (ha : t.payload.active = some a) (htime : s.payload.updatedAt ≤ t.payload.updatedAt) :
    requireRetryPendingTransition s.payload t.payload b a = .ok () ↔
      Reallocates s.payload t.payload b a ∧ a.intervalS = b.intervalS := by
  simp only [requireRetryPendingTransition, bind_eq_ok, exists_unit, require_eq_ok,
    requireOnlyFieldDeltas_eq_ok, requireFreshPendingShape_eq_ok, requireKept_eq_ok]
  constructor
  · rintro ⟨hsame, hdue, hkept, hfresh, _⟩
    have hid := hkept .slotId (by decide)
    have hend := hkept .slotEnd (by decide)
    have hinterval := hkept .intervalS (by decide)
    have hdisplay := hkept .displayTime (by decide)
    have hcreated := hkept .createdAt (by decide)
    simp only [ActiveField.same, decide_eq_true_eq] at hid hend hinterval hdisplay hcreated
    refine ⟨⟨hb, hdue, htime, hfresh, ⟨hid.symm, hend.symm, hdisplay.symm, hcreated.symm⟩, ?_⟩,
      hinterval.symm⟩
    have hhigh := hsame .highWaterSlotEnd (by decide) (by decide)
    have hterminal := hsame .lastTerminal (by decide) (by decide)
    have hledger := hsame .unresolvedDelivery (by decide) (by decide)
    have hhealth := hsame .health (by decide) (by decide)
    simp only [TopField.same, decide_eq_true_eq] at hhigh hterminal hledger hhealth
    rw [← ha, hhigh, hterminal, hledger, hhealth]
  · rintro ⟨h, hinterval⟩
    obtain ⟨hstatus, _, hphase, _⟩ := h.due
    refine ⟨?_, h.due, ?_, h.fresh, ?_⟩
    · intro f _ hnot
      rw [h.payload]
      cases f <;> first | exact decide_eq_true rfl | exact absurd (by decide) hnot
    · exact h.same_kept hinterval
    · -- a failed render has counted at least one attempt
      rintro ⟨hzero, _⟩
      have hrendered := (s.sound hb).rendered hstatus hphase
      omega

theorem accepts_allocates (h : Allocates s.payload t.payload a) :
    enforceDurableTransition s t = .ok () := by
  have ha := h.active_eq
  have hhigh : t.payload.highWaterSlotEnd = some a.slotEnd := by rw [h.payload]
  have hledger : t.payload.unresolvedDelivery = s.payload.unresolvedDelivery := by rw [h.payload]
  have hlength : ¬ t.payload.unresolvedDelivery.length =
      s.payload.unresolvedDelivery.length + 1 := by
    rw [hledger]
    exact Nat.ne_of_lt (Nat.lt_succ_self _)
  refine accepts_of_edge ?_ (by rw [h.idle, ha]; exact (Option.some_ne_none a).symm) ?_
  · simp only [enforceDurableOrder, bind_eq_ok, exists_unit, require_eq_ok]
    refine ⟨h.time, ?_, fun _ => ⟨h.idle, ?_⟩, ?_, .inl (by rw [hledger]), fun hl => absurd hl hlength⟩
    · have hadvances := h.advances
      rw [hhigh]
      cases hold : s.payload.highWaterSlotEnd with
      | none => rfl
      | some high =>
          rw [hold] at hadvances
          exact decide_eq_true (of_decide_eq_true hadvances).le
    · rw [ha, hhigh]
      exact Bool.and_eq_true_iff.mpr ⟨decide_eq_true h.fresh.1, decide_eq_true rfl⟩
    · rw [hledger]
      exact List.take_length
  · unfold enforceActiveEdge
    rw [h.idle, ha]
    dsimp only
    rw [if_pos h.fresh.1, raised_eq_ok, requireNewPendingTransition_eq_ok h.idle ha h.time]
    exact h

theorem accepts_reallocates (h : Reallocates s.payload t.payload b a)
    (hinterval : a.intervalS = b.intervalS) : enforceDurableTransition s t = .ok () := by
  have ha := h.active_eq
  obtain ⟨hb, _⟩ := h.due
  have hpending := h.fresh.1
  refine accepts_of_edge (enforceDurableOrder_of_same h.time (by rw [h.payload])
    (by rw [h.payload])) ?_ ?_
  · rw [h.active, ha, Ne, Option.some.injEq]
    rintro rfl
    rw [hb] at hpending
    cases hpending
  · have hretry := (requireRetryPendingTransition_eq_ok h.active ha h.time).mpr ⟨h, hinterval⟩
    unfold enforceActiveEdge
    rw [h.active, ha]
    dsimp only
    rw [hb, hpending]
    simp only [ActiveField.edgeDeltas, bind_eq_ok, exists_unit, raised_eq_ok,
      requireOnlyFieldDeltas_eq_ok, requireReplayedActiveEdge, hb, hpending, and_self, if_true]
    refine ⟨?_, hretry⟩
    intro f _ hnot
    refine h.same_kept hinterval f ?_
    cases f <;> first | decide | exact absurd (by decide) hnot

/-! ## What passes the gate -/

theorem of_mem_attempt {r : Checked (PeriodicStateDocument L)} (h : t ∈ attempt r) : r = .ok t := by
  cases r with
  | error e => cases h
  | ok d => rw [List.mem_singleton.mp h]

theorem replayTerminalFailure_helper (h : replayTerminalFailure s b a now = .ok t) : Helper s t :=
  .markTerminalFailure _ _ _ _ _ _ _ h

theorem replayFailure_helper (h : replayFailure s b a now = .ok t) : Helper s t := by
  unfold replayFailure at h
  split at h
  · exact .markRetryableFailure _ _ _ _ _ _ _ _ h
  · exact replayTerminalFailure_helper h

theorem replayCandidates_helper {candidates : List (PeriodicStateDocument L)}
    (h : replayCandidates s b a now = .ok candidates) (hmem : t ∈ candidates) : Helper s t := by
  have hdelivering (ht : t ∈ attempt (markDelivering s b.slotId b.ownerToken now)) : Helper s t :=
    .markDelivering _ _ _ (of_mem_attempt ht)
  have hsuperseded (ht : t ∈ attempt (replaySupersession s b now)) : Helper s t :=
    .supersedeActive _ _ (of_mem_attempt ht)
  have hterminal (ht : t ∈ attempt (replayTerminalFailure s b a now)) : Helper s t :=
    replayTerminalFailure_helper (of_mem_attempt ht)
  have hfailure (ht : t ∈ attempt (replayFailure s b a now)) : Helper s t :=
    replayFailure_helper (of_mem_attempt ht)
  unfold replayCandidates at h
  split at h
  · cases h
    exact .markRendering _ _ _ (of_mem_attempt hmem)
  · split at h
    · cases h
    · cases h
      exact .markReady _ _ _ _ _ (of_mem_attempt hmem)
  · cases h
    exact hfailure hmem
  · cases h
    exact hfailure hmem
  · cases h
    exact hfailure hmem
  · cases h
    exact (List.mem_append.mp hmem).elim hdelivering hsuperseded
  · cases h
    exact hdelivering hmem
  · cases h
    exact hdelivering hmem
  · cases h
    exact hdelivering hmem
  · cases h
    exact (List.mem_append.mp hmem).elim hterminal hsuperseded
  · split at h
    · cases h
    · cases h
      exact .markSucceeded _ _ _ _ (of_mem_attempt hmem)
  · cases h
    exact .markDeliveryUnknown _ _ _ _ _ (of_mem_attempt hmem)
  · cases h
    exact (List.mem_append.mp hmem).elim hterminal hsuperseded
  · cases h

theorem enforceActiveEdge_cases (htime : s.payload.updatedAt ≤ t.payload.updatedAt)
    (h : enforceActiveEdge s t = .ok ()) :
    Helper s t ∨ (∃ a, Allocates s.payload t.payload a) ∨
      ∃ b a, Reallocates s.payload t.payload b a ∧ a.intervalS = b.intervalS := by
  unfold enforceActiveEdge at h
  split at h
  · rename_i a hidle ha
    split at h
    · rw [raised_eq_ok, requireNewPendingTransition_eq_ok hidle ha htime] at h
      exact .inr (.inl ⟨a, h⟩)
    · cases h
  · cases h
  · split at h
    · simp only [bind_eq_ok, raised_eq_ok, requireExactSuccessor, require_eq_ok] at h
      obtain ⟨expected, hrotate, heq⟩ := h
      rw [PeriodicStateDocument.ext_payload heq] at hrotate
      exact .inl (.rotateTerminalActive _ hrotate)
    · cases h
  · rename_i b a hb ha
    split at h
    · cases h
    · simp only [bind_eq_ok, exists_unit, raised_eq_ok] at h
      have hreplay := h.2
      unfold requireReplayedActiveEdge at hreplay
      split at hreplay
      · rw [raised_eq_ok, requireRetryPendingTransition_eq_ok hb ha htime] at hreplay
        exact .inr (.inr ⟨b, a, hreplay⟩)
      · simp only [bind_eq_ok, raised_eq_ok, require_eq_ok, List.any_eq_true,
          decide_eq_true_eq] at hreplay
        obtain ⟨candidates, hcandidates, d, hmem, heq⟩ := hreplay
        rw [PeriodicStateDocument.ext_payload heq] at hmem
        exact .inl (replayCandidates_helper hcandidates hmem)

theorem helper_of_healthOnly (h : matchesHealthOnlyTransition s t = .ok true) : Helper s t := by
  unfold matchesHealthOnlyTransition at h
  split at h
  · cases h
  · split at h
    · cases h
    · simp only [bind_eq_ok, exists_unit, requireExactSuccessor, require_eq_ok] at h
      obtain ⟨expected, hset, heq, _⟩ := h
      rw [PeriodicStateDocument.ext_payload heq] at hset
      exact .setPeriodicHealth _ _ _ _ hset

theorem enforceDurableTransition_cases (h : enforceDurableTransition s t = .ok ()) :
    t = s ∨ Helper s t ∨ (∃ a, Allocates s.payload t.payload a) ∨
      ∃ b a, Reallocates s.payload t.payload b a ∧ a.intervalS = b.intervalS := by
  rw [enforceDurableTransition_eq_ok] at h
  obtain ⟨horder, heq | hhealth | ⟨_, _, hedge⟩⟩ := h
  · exact .inl (PeriodicStateDocument.ext_payload heq)
  · exact .inr (.inl (helper_of_healthOnly hhealth))
  · simp only [enforceDurableOrder, bind_eq_ok, exists_unit, require_eq_ok] at horder
    exact .inr (enforceActiveEdge_cases horder.1 hedge)

end Periodic
end CryoDaq
