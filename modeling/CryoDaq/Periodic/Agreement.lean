import CryoDaq.Periodic.Admission
import Mathlib.Logic.Relation

/-!
# The gate and the helpers

A step on which the gate and the helpers agree is admitted exactly when it is
the result of a helper.  They agree on every step but an allocation of a slot
that only one of the two accepts, and a chain of writes without such a step
reaches nothing that the helpers do not reach.
-/

namespace CryoDaq
namespace Periodic

variable {L : Library} {s t : PeriodicStateDocument L} {a b : Active}

theorem not_pending_of_touch {p : Payload} {x : Active} {now : ℤ} {q : Prop}
    (ht : t.payload = p.touch x now) (hx : x.status ≠ .pending) (ha : t.payload.active = some a)
    (hpending : a.status = .pending) : q := by
  rw [ht, Payload.touch_active] at ha
  rw [← Option.some.inj ha] at hpending
  exact absurd hpending hx

theorem Helper.allocated (h : Helper s t) (ha : t.payload.active = some a)
    (hpending : a.status = .pending)
    (hbefore : ∀ b, s.payload.active = some b → b.status ≠ .pending) :
    (∃ a, Allocates s.payload t.payload a ∧ validateSlot L a.slot = .ok ()) ∨
      ∃ b a, Reallocates s.payload t.payload b a ∧ validateSlot L a.slot = .ok () ∧
        s.payload.highWaterSlotEnd = some a.slotEnd := by
  cases h with
  | allocatePending _ _ _ _ _ _ _ h => exact allocatePending_cases h
  | markRendering _ _ _ h =>
      obtain ⟨b, _, _, ht⟩ := markRendering_cases h
      exact not_pending_of_touch ht (by rintro ⟨⟩) ha hpending
  | markReady _ _ _ _ _ h =>
      obtain ⟨b, _, _, ht⟩ := markReady_cases h
      exact not_pending_of_touch ht (by rintro ⟨⟩) ha hpending
  | markRetryableFailure _ _ _ _ _ _ _ _ h =>
      obtain ⟨b, fields, _, _, _, _, _, ht⟩ := markRetryableFailure_cases h
      exact not_pending_of_touch ht (by rintro ⟨⟩) ha hpending
  | markTerminalFailure _ _ _ _ _ _ _ h =>
      obtain ⟨b, fields, _, _, _, _, _, _, ht⟩ := markTerminalFailure_cases h
      exact not_pending_of_touch ht (by rintro ⟨⟩) ha hpending
  | markDelivering _ _ _ h =>
      obtain ⟨b, _, _, _, ⟨_, ht⟩ | ⟨_, ht⟩⟩ := markDelivering_cases h
      · exact not_pending_of_touch ht (by rintro ⟨⟩) ha hpending
      · exact not_pending_of_touch ht (by rintro ⟨⟩) ha hpending
  | markSucceeded _ _ _ _ h =>
      obtain ⟨b, _, _, ht⟩ := markSucceeded_cases h
      exact not_pending_of_touch ht (by rintro ⟨⟩) ha hpending
  | markDeliveryUnknown _ _ _ _ _ h =>
      obtain ⟨b, artifact, _, _, _, _, ht⟩ := markDeliveryUnknown_cases h
      exact not_pending_of_touch ht (by rintro ⟨⟩) ha hpending
  | supersedeActive _ _ h =>
      obtain ⟨b, hf, _, _, _, ⟨_, ht⟩ | ⟨_, ht⟩⟩ := supersedeActive_cases h
      · exact not_pending_of_touch ht (hbefore b hf.active) ha hpending
      · exact not_pending_of_touch ht (by rintro ⟨⟩) ha hpending
  | rotateTerminalActive _ h =>
      obtain ⟨b, _, _, ht⟩ := rotateTerminalActive_cases h
      rw [ht] at ha
      cases ha
  | setPeriodicHealth _ _ _ _ h =>
      obtain ⟨_, ht⟩ := setPeriodicHealth_cases h
      rw [ht] at ha
      exact absurd hpending (hbefore a ha)

theorem Allocates.valid (h : Allocates s.payload t.payload a) (hhelper : Helper s t) :
    validateSlot L a.slot = .ok () := by
  have hidle (b : Active) (hb : s.payload.active = some b) : b.status ≠ .pending := by
    rw [h.idle] at hb
    cases hb
  rcases hhelper.allocated h.active_eq h.fresh.1 hidle with ⟨a', h', hslot⟩ | ⟨b', _, h', _⟩
  · have heq : a' = a := Option.some.inj (h'.active_eq.symm.trans h.active_eq)
    rw [← heq]
    exact hslot
  · have hnone := h'.active
    rw [h.idle] at hnone
    cases hnone

theorem Reallocates.valid (h : Reallocates s.payload t.payload b a) (hhelper : Helper s t) :
    validateSlot L a.slot = .ok () ∧ s.payload.highWaterSlotEnd = some a.slotEnd := by
  have hfailed (b' : Active) (hb : s.payload.active = some b') : b'.status ≠ .pending := by
    rw [h.active] at hb
    rw [← Option.some.inj hb, h.due.1]
    rintro ⟨⟩
  rcases hhelper.allocated h.active_eq h.fresh.1 hfailed with ⟨_, h', _⟩ | ⟨b', a', h', hslot⟩
  · have hnone := h'.idle
    rw [h.active] at hnone
    cases hnone
  · have heq : a' = a := Option.some.inj (h'.active_eq.symm.trans h.active_eq)
    rw [← heq]
    exact hslot

/-- The gate admits a step exactly when a helper takes it. -/
def Agrees (s t : PeriodicStateDocument L) : Prop :=
  (Helper s t → enforceDurableTransition s t = .ok ()) ∧
    (enforceDurableTransition s t = .ok () → t ≠ s → Helper s t)

/-- An allocation is of a slot that the gate and the helper judge alike: a new one passes
`_validate_slot`; a further render attempt passes it at the high water exactly when it keeps the
interval. -/
def AllocatesAlike (s t : PeriodicStateDocument L) : Prop :=
  (∀ a, Allocates s.payload t.payload a → validateSlot L a.slot = .ok ()) ∧
    ∀ b a, Reallocates s.payload t.payload b a →
      (a.intervalS = b.intervalS ↔
        validateSlot L a.slot = .ok () ∧ s.payload.highWaterSlotEnd = some a.slotEnd)

theorem Helper.accepts (h : Helper s t) (halike : AllocatesAlike s t) :
    enforceDurableTransition s t = .ok () := by
  cases h with
  | allocatePending _ _ _ _ _ _ _ h =>
      rcases allocatePending_cases h with ⟨a, hnew, _⟩ | ⟨b, a, hretry, hslot⟩
      · exact accepts_allocates hnew
      · exact accepts_reallocates hretry ((halike.2 b a hretry).mpr hslot)
  | markRendering _ _ _ h => exact accepts_markRendering h
  | markReady _ _ _ _ _ h => exact accepts_markReady h
  | markRetryableFailure _ _ _ _ _ _ _ _ h => exact accepts_markRetryableFailure h
  | markTerminalFailure _ _ _ _ _ _ _ h => exact accepts_markTerminalFailure h
  | markDelivering _ _ _ h => exact accepts_markDelivering h
  | markSucceeded _ _ _ _ h => exact accepts_markSucceeded h
  | markDeliveryUnknown _ _ _ _ _ h => exact accepts_markDeliveryUnknown h
  | supersedeActive _ _ h => exact accepts_supersedeActive h
  | rotateTerminalActive _ h => exact accepts_rotateTerminalActive h
  | setPeriodicHealth _ _ _ _ h => exact accepts_setPeriodicHealth h

theorem helper_of_accepts (h : enforceDurableTransition s t = .ok ())
    (halike : AllocatesAlike s t) : t = s ∨ Helper s t := by
  rcases enforceDurableTransition_cases h with heq | hhelper | ⟨a, hnew⟩ | ⟨b, a, hretry, hinterval⟩
  · exact .inl heq
  · exact .inr hhelper
  · exact .inr (hnew.helper (halike.1 a hnew))
  · obtain ⟨hslot, hhigh⟩ := (halike.2 b a hretry).mp hinterval
    exact .inr (hretry.helper hslot hhigh)

theorem Reallocates.ne (h : Reallocates s.payload t.payload b a) : t ≠ s := by
  rintro rfl
  have heq : b = a := Option.some.inj (h.active.symm.trans h.active_eq)
  have hfailed := h.due.1
  rw [heq, h.fresh.1] at hfailed
  cases hfailed

theorem Allocates.ne (h : Allocates s.payload t.payload a) : t ≠ s := by
  rintro rfl
  have hnone := h.idle
  rw [h.active_eq] at hnone
  cases hnone

theorem Reallocates.interval_of_accepts (h : Reallocates s.payload t.payload b a)
    (haccepts : enforceDurableTransition s t = .ok ()) : a.intervalS = b.intervalS := by
  have ha := h.active_eq
  have hpending := h.fresh.1
  obtain ⟨hfailed, _⟩ := h.due
  have hne : s.payload.active ≠ t.payload.active := by
    rw [h.active, ha, Ne, Option.some.injEq]
    rintro rfl
    rw [hfailed] at hpending
    cases hpending
  rw [enforceDurableTransition_eq_ok] at haccepts
  obtain ⟨_, heq | hhealth | ⟨_, _, hedge⟩⟩ := haccepts
  · exact absurd (by rw [heq]) hne
  · rw [matchesHealthOnly_of_active hne] at hhealth
    cases hhealth
  · unfold enforceActiveEdge at hedge
    rw [h.active, ha] at hedge
    dsimp only at hedge
    rw [hfailed, hpending] at hedge
    simp only [ActiveField.edgeDeltas, bind_eq_ok, exists_unit, raised_eq_ok,
      requireReplayedActiveEdge, hfailed, hpending, and_self, if_true] at hedge
    exact ((requireRetryPendingTransition_eq_ok h.active ha h.time).mp hedge.2).2

theorem agrees_iff : Agrees s t ↔ AllocatesAlike s t := by
  constructor
  · rintro ⟨haccepts, hhelper⟩
    refine ⟨fun a h => h.valid (hhelper (accepts_allocates h) h.ne), ?_⟩
    intro b a h
    constructor
    · intro hinterval
      exact h.valid (hhelper (accepts_reallocates h hinterval) h.ne)
    · rintro ⟨hslot, hhigh⟩
      exact h.interval_of_accepts (haccepts (h.helper hslot hhigh))
  · intro halike
    refine ⟨fun h => h.accepts halike, fun h hne => ?_⟩
    exact (helper_of_accepts h halike).resolve_left hne

/-! ## Chains of writes -/

/-- The states that writes leave on disk when the gate admits each of them and each allocation is
judged alike. -/
inductive Written (L : Library) : PeriodicStateDocument L → Prop
  | initial {baseline d : PeriodicStateDocument L} (hempty : baseline.payload = emptyPayload 0)
      (h : enforceInitialDurableState baseline d = .ok ()) (halike : AllocatesAlike baseline d) :
      Written L d
  | next {d e : PeriodicStateDocument L} (hd : Written L d)
      (h : enforceDurableTransition d e = .ok ()) (halike : AllocatesAlike d e) : Written L e

def Reached (L : Library) (d : PeriodicStateDocument L) : Prop :=
  ∃ baseline : PeriodicStateDocument L, baseline.payload = emptyPayload 0 ∧
    Relation.ReflTransGen Helper baseline d

theorem enforceInitialDurableState_cases {baseline d : PeriodicStateDocument L}
    (hempty : baseline.payload = emptyPayload 0)
    (h : enforceInitialDurableState baseline d = .ok ()) :
    d = baseline ∨ Helper baseline d ∨ ∃ a, Allocates baseline.payload d.payload a := by
  simp only [enforceInitialDurableState, bind_eq_ok, exists_unit, require_eq_ok] at h
  obtain ⟨⟨hledger, hterminal⟩, h⟩ := h
  cases hhigh : d.payload.highWaterSlotEnd with
  | none =>
      rw [hhigh] at h
      dsimp only at h
      by_cases heq : d.payload = baseline.payload
      · exact .inl (PeriodicStateDocument.ext_payload heq)
      · rw [if_neg heq] at h
        simp only [bind_eq_ok, require_eq_ok] at h
        obtain ⟨healthOnly, hmatches, rfl⟩ := h
        exact .inr (.inl (helper_of_healthOnly hmatches))
  | some highWater =>
      rw [hhigh] at h
      dsimp only at h
      split at h
      · cases h
      · rename_i a ha
        simp only [bind_eq_ok, exists_unit, require_eq_ok, requireFreshPendingShape_eq_ok] at h
        obtain ⟨⟨_, hend⟩, hhealth, hfresh, hcreated⟩ := h
        rw [hempty] at hhealth
        refine .inr (.inr ⟨a, ?_, ?_, ?_, hfresh, hcreated ⟨trivial, trivial⟩, ?_⟩)
        · rw [hempty]
          rfl
        · rw [hempty]
          rfl
        · rw [hempty]
          exact updatedAt_nonneg d
        · rw [hempty, ← ha, hend, ← hhigh]
          change d.payload = { d.payload with
            lastTerminal := none, unresolvedDelivery := [], health := (emptyPayload 0).health }
          rw [← hterminal, ← hledger, ← hhealth]

theorem Written.reached {d : PeriodicStateDocument L} (h : Written L d) : Reached L d := by
  induction h with
  | initial hempty h halike =>
      rename_i baseline d
      refine ⟨baseline, hempty, ?_⟩
      rcases enforceInitialDurableState_cases hempty h with rfl | hhelper | ⟨a, hnew⟩
      · exact .refl
      · exact .single hhelper
      · exact .single (hnew.helper (halike.1 a hnew))
  | next _ h halike ih =>
      obtain ⟨baseline, hempty, hrun⟩ := ih
      refine ⟨baseline, hempty, ?_⟩
      rcases helper_of_accepts h halike with rfl | hhelper
      · exact hrun
      · exact hrun.tail hhelper

/-- On every step the gate and the helpers agree exactly when an allocation is judged alike, and
writes all of whose allocations are judged alike reach nothing that the helpers do not reach. -/
theorem gate_admits_helpers (L : Library) :
    (∀ s t : PeriodicStateDocument L, Agrees s t ↔ AllocatesAlike s t) ∧
      ∀ d : PeriodicStateDocument L, Written L d → Reached L d :=
  ⟨fun _ _ => agrees_iff, fun _ h => h.reached⟩

/-- A library for states whose only slot ends at 7200, at times before the end of the eighteenth
slot. -/
def bench : Library where
  sha256 s :=
    if s = "periodic-png/v1:64800" then
      "fc4a13b85823434be6edfb4f753e69937601f8693304e1fc0b0a7b874ab69758"
    else "c9ea963a30fe79fe0a31f40cdf4c46b8b0594cdce923f6d54fa8defb7efacb14"
  sensitive _ := false
  encodedSize p := match p.active with
    | none => if p.lastTerminal = none then 199 else 691
    | some a =>
        if a.finishedAt ≠ none then 1121
        else if a.status = .failed then (if p.highWaterSlotEnd = some 7200 then 1051 else 1052)
        else if p.highWaterSlotEnd = some 10800 then 1021
        else if a.renderAttemptCount = 0 then 1020 else 1017

/-- The slot that ends at 7200, allocated at the time 0. -/
def benchSlot : Active :=
  { slotId := bench.slotId 7200
    slotStart := 3600
    slotEnd := 7200
    intervalS := 3600
    windowStart := 0
    windowEnd := 7200
    displayTime := "01.01.1970 02:00"
    configFingerprint := "sha256:" ++ String.ofList (List.replicate 64 '0')
    destinationFingerprint := "sha256:" ++ String.ofList (List.replicate 64 '1')
    generationId := String.ofList (List.replicate 32 '2')
    ownerToken := String.ofList (List.replicate 32 '3')
    status := .pending
    renderAttemptCount := 0
    deliveryAttemptCount := 0
    maxRenderAttempts := 5
    maxDeliveryAttempts := 5
    notBefore := 0
    artifact := none
    caption := ""
    receipt := none
    failurePhase := none
    retryable := none
    certainty := none
    errorCode := none
    errorText := ""
    createdAt := 0
    updatedAt := 0
    finishedAt := none }

/-- The slot after a render attempt that can be repeated. -/
def benchFailed : Active :=
  { benchSlot with
    renderAttemptCount := 1 }.fail ⟨.render, .notApplicable⟩ true "orphaned_rendering" "" none

/-- The slot in its second render attempt, as an allocation writes it. -/
def benchRetried (intervalS : ℤ) : Active :=
  { benchSlot with
    slotStart := 7200 - intervalS
    intervalS
    generationId := String.ofList (List.replicate 32 '4')
    renderAttemptCount := 1 }

def benchPayload (active : Active) (highWater : ℤ) : Payload :=
  { emptyPayload 0 with active := some active, highWaterSlotEnd := some highWater }

/-! ### The texts of the slot -/

theorem tokenText_ofList (l : List Char) :
    tokenText (String.ofList l) = (l.length = 32 && l.all isHex) := by
  rw [tokenText, String.toList_ofList]

theorem hashText_append (l : List Char) :
    hashText ("sha256:" ++ String.ofList l) = (l.length = 64 && l.all isHex) := by
  rw [show "sha256:" = String.ofList ['s', 'h', 'a', '2', '5', '6', ':'] from rfl,
    ← String.ofList_append, hashText, String.toList_ofList,
    show "sha256:" = String.ofList ['s', 'h', 'a', '2', '5', '6', ':'] from rfl,
    String.toList_ofList]
  simp

theorem hashText_replicate (c : Char) (h : isHex c = true) :
    hashText ("sha256:" ++ String.ofList (List.replicate 64 c)) = true := by
  rw [hashText_append]
  simp [h]

theorem tokenText_replicate (c : Char) (h : isHex c = true) :
    tokenText (String.ofList (List.replicate 32 c)) = true := by
  rw [tokenText_ofList]
  simp [h]

theorem bench_slotId : hashText (bench.slotId 7200) = true := by
  decide +kernel

theorem bench_displayTime : displayShape "01.01.1970 02:00".toList = true ∧
    calendarTime "01.01.1970 02:00".toList = true := by
  decide +kernel

theorem bench_code : codeText "orphaned_rendering" = true := by
  decide +kernel

theorem bench_health :
    healthPayload bench "starting" none "" 0 = .ok (emptyPayload 0).health := rfl

theorem bench_sensitive (s : String) : bench.sensitive s = false := rfl

theorem benchSlot_valid : validateActive bench benchSlot (some 7200) = .ok () := by
  simp only [validateActive, validateActiveSlot, validatedHash, validatedToken,
    validatedDisplayTime, exactInt, finiteTime, validateOptional_eq_ok, validatedCaption,
    validatedOptionalCode, validatedText, validateActiveTimes, validateEvidence, validateAttempts,
    bind_eq_ok, exists_unit, require_eq_ok, pure_eq_ok, benchSlot, bench_slotId,
    bench_displayTime, bench_sensitive, hashText_replicate '0' rfl, hashText_replicate '1' rfl,
    tokenText_replicate '2' rfl, tokenText_replicate '3' rfl]
  -- the texts stay as they are: evaluating them is what takes long
  simp [Active.needsArtifact, Active.Unfailed, -List.reduceReplicate, -String.reduceAppend]

theorem benchFailed_valid {highWater : ℤ} (h : 7200 ≤ highWater) :
    validateActive bench benchFailed (some highWater) = .ok () := by
  simp only [validateActive, validateActiveSlot, validatedHash, validatedToken,
    validatedDisplayTime, exactInt, finiteTime, validateOptional_eq_ok, validatedCaption,
    validatedOptionalCode, validatedCode, validatedText, validateActiveTimes, validateEvidence,
    validateFailure, validateAttempts, requirePhaseCertainty, validateRetryable, bind_eq_ok,
    exists_unit, require_eq_ok, pure_eq_ok, benchFailed, Active.fail, benchSlot, bench_slotId,
    bench_displayTime, bench_code, bench_sensitive, hashText_replicate '0' rfl,
    hashText_replicate '1' rfl, tokenText_replicate '2' rfl, tokenText_replicate '3' rfl]
  simp [Active.needsArtifact, Active.attempts, Active.attemptLimit, h, -List.reduceReplicate,
    -String.reduceAppend]

theorem benchRetried_valid {intervalS highWater : ℤ} (hpos : 1 ≤ intervalS)
    (haligned : 7200 % intervalS = 0) (h : 7200 ≤ highWater) :
    validateActive bench (benchRetried intervalS) (some highWater) = .ok () := by
  simp only [validateActive, validateActiveSlot, validatedHash, validatedToken,
    validatedDisplayTime, exactInt, finiteTime, validateOptional_eq_ok, validatedCaption,
    validatedOptionalCode, validatedText, validateActiveTimes, validateEvidence, validateAttempts,
    bind_eq_ok, exists_unit, require_eq_ok, pure_eq_ok, benchRetried, benchSlot, bench_slotId,
    bench_displayTime, bench_sensitive, hashText_replicate '0' rfl, hashText_replicate '1' rfl,
    tokenText_replicate '4' rfl, tokenText_replicate '3' rfl]
  simp [Active.needsArtifact, Active.Unfailed, hpos, haligned, h, -List.reduceReplicate,
    -String.reduceAppend]
  omega

theorem benchPayload_valid {a : Active} {highWater : ℤ} (hnonneg : 0 ≤ highWater)
    (ha : validateActive bench a (some highWater) = .ok ()) (htime : a.updatedAt = 0)
    (hunknown : a.status ≠ .deliveryUnknown) (hdelivering : a.status ≠ .delivering)
    (hsize : bench.encodedSize (benchPayload a highWater) ≤ 131072) :
    validateDocument bench (benchPayload a highWater) = .ok () := by
  simp only [validateDocument, validateOptional_eq_ok, validateEach_eq_ok, bind_eq_ok, exists_unit,
    require_eq_ok, hsize]
  simp [benchPayload, emptyPayload, bench_health, finiteTime, validateDocumentTimes,
    validateAmbiguity, ha, hnonneg, htime, hunknown, hdelivering]

def benchEmpty : PeriodicStateDocument bench := ⟨emptyPayload 0, by rfl⟩

def benchAllocated : PeriodicStateDocument bench :=
  ⟨benchPayload benchSlot 7200,
    benchPayload_valid (by decide) benchSlot_valid rfl nofun nofun (by decide)⟩

theorem gate_admits_helpers_allocated :
    (Agrees benchEmpty benchAllocated ↔ AllocatesAlike benchEmpty benchAllocated) ∧
      Reached bench benchAllocated := by
  refine ⟨(gate_admits_helpers bench).1 _ _,
    (gate_admits_helpers bench).2 _
      (@Written.initial bench benchEmpty benchAllocated rfl (by rfl) ⟨?_, ?_⟩)⟩
  · intro a h
    rw [← Option.some.inj (show some benchSlot = some a from h.active_eq)]
    rfl
  · intro b a h
    cases h.active

/-- The first render attempt has failed, at the high water and behind it. -/
def benchRetryable : PeriodicStateDocument bench :=
  ⟨benchPayload benchFailed 7200,
    benchPayload_valid (by decide) (benchFailed_valid (by decide)) rfl nofun nofun (by decide)⟩

def benchBehind : PeriodicStateDocument bench :=
  ⟨benchPayload benchFailed 10800,
    benchPayload_valid (by decide) (benchFailed_valid (by decide)) rfl nofun nofun (by decide)⟩

/-- The second attempt behind the high water, and under an interval of two hours. -/
def benchRetriedBehind : PeriodicStateDocument bench :=
  ⟨benchPayload (benchRetried 3600) 10800,
    benchPayload_valid (by decide)
      (benchRetried_valid (by decide) (by decide) (by decide)) rfl nofun nofun (by decide)⟩

def benchRetriedLonger : PeriodicStateDocument bench :=
  ⟨benchPayload (benchRetried 7200) 7200,
    benchPayload_valid (by decide)
      (benchRetried_valid (by decide) (by decide) (by decide)) rfl nofun nofun (by decide)⟩

/-- The gate admits a retry behind the high water, which no helper allocates, and refuses the
helper's retry of the slot under another interval. -/
theorem retries_disagree :
    ¬ Agrees benchBehind benchRetriedBehind ∧ ¬ Agrees benchRetryable benchRetriedLonger := by
  have hshape (intervalS highWater : ℤ) : Reallocates (benchPayload benchFailed highWater)
      (benchPayload (benchRetried intervalS) highWater) benchFailed (benchRetried intervalS) :=
    ⟨rfl, ⟨rfl, rfl, rfl, le_rfl⟩, le_rfl,
      ⟨rfl, rfl, rfl, rfl, rfl, rfl, rfl, rfl, rfl, rfl, rfl, rfl, rfl, rfl⟩,
      ⟨rfl, rfl, rfl, rfl⟩, rfl⟩
  constructor
  · rw [agrees_iff]
    intro halike
    have hhigh := ((halike.2 _ _ (hshape 3600 10800)).mp rfl).2
    exact absurd hhigh (by decide)
  · rw [agrees_iff]
    intro halike
    have hinterval := (halike.2 _ _ (hshape 7200 7200)).mpr ⟨by rfl, rfl⟩
    exact absurd hinterval (by decide)

end Periodic
end CryoDaq
