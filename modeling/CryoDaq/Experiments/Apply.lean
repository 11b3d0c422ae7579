import CryoDaq.Experiments.Locked

/-!
# Applying a transition

What `applyTransition` does to a directory with a pending journal, under the
lifecycle lock.

**Success.**  The directory is at the last stage of the transition, and the
memory is what the state file says.

**Exceptions.**  The directory is at some stage of the same transition.
-/

namespace CryoDaq
namespace Experiments

open Async Op

variable {δ κ : Type} (S : Setting δ κ) [DecidableEq δ]

/-- What `_validate_transition_authority` has checked. -/
structure Validated (m : Memory δ) (j : Journal δ κ) (info : ExperimentInfo) (r : Receipt δ) :
    Prop where
  incarnation : m.managerIncarnation = j.request.managerIncarnation
  receipt : r = j.terminalReceipt
  terminal : ∃ requestFingerprint experimentFingerprint,
    j.terminalReceipt = terminalReceipt S m j.request requestFingerprint info.experimentId
      experimentFingerprint
  predecessor : predecessorRefusal j.request.operation j.request.predecessor
    info.experimentId = none

variable {S}

theorem requestRefusal_eq_none {m : Memory δ} {j : Journal δ κ} {info : ExperimentInfo}
    {fingerprint : δ} (h : requestRefusal S m j info fingerprint = none) :
    predecessorRefusal j.request.operation j.request.predecessor info.experimentId = none := by
  unfold requestRefusal at h
  split at h
  · cases h
  · split at h
    · cases h
    · split at h
      · cases h
      · exact h

theorem compareCut_ok {m : Memory δ} {j : Journal δ κ} {expected r : Receipt δ} {b : Bool}
    (h : compareCut S m j expected = .ok (r, b)) :
    j.terminalReceipt = expected ∧ r = expected ∧
      (b = false → m.stateCut S = j.request.predecessor) ∧
      (b = true → m.stateRevision = expected.resultRevision) := by
  unfold compareCut at h
  split at h
  · cases h
  · rename_i hterminal
    rw [not_not] at hterminal
    split at h
    · rename_i hcut
      obtain ⟨rfl, rfl⟩ := Prod.mk.inj (Except.ok.inj h)
      exact ⟨hterminal, rfl, fun _ => hcut, fun hb => (nomatch hb)⟩
    · split at h
      · rename_i hexact
        obtain ⟨rfl, rfl⟩ := Prod.mk.inj (Except.ok.inj h)
        refine ⟨hterminal, rfl, fun hb => (nomatch hb), fun _ => ?_⟩
        unfold exactResult at hexact
        simp only [Bool.and_eq_true, decide_eq_true_iff] at hexact
        exact hexact.1.1.1.1.2
      · cases h

theorem validateTransitionAuthority_ok {m : Memory δ} {j : Journal δ κ} {info : ExperimentInfo}
    {r : Receipt δ} {b : Bool} (h : validateTransitionAuthority S m j info = .ok (r, b)) :
    Validated S m j info r ∧ (b = false → m.stateCut S = j.request.predecessor) ∧
      (b = true → m.stateRevision = j.request.predecessor.revision + 1) := by
  unfold validateTransitionAuthority at h
  split at h
  · cases h
  · rename_i hincarnation
    rw [not_not] at hincarnation
    split at h
    · cases h
    · rename_i requestFingerprint _
      split at h
      · cases h
      · rename_i hrefusal
        split at h
        · cases h
        · rename_i experimentFingerprint _
          obtain ⟨hterminal, hr, hpending, hcommitted⟩ := compareCut_ok h
          refine ⟨⟨hincarnation.symm, hr.trans hterminal.symm, ⟨_, _, hterminal⟩,
            requestRefusal_eq_none hrefusal⟩, hpending, hcommitted⟩

omit [DecidableEq δ] in
theorem statusRefusal_reload (operation : Operation) (info : ExperimentInfo) :
    statusRefusal operation info.reload = statusRefusal operation info := rfl

omit [DecidableEq δ] in
theorem Validated.accepted {m : Memory δ} {j : Journal δ κ} {info : ExperimentInfo}
    {r : Receipt δ} (h : Validated S m j info r)
    (hpayload : j.request.experiment.fromPayload = .ok info)
    (hstatus : statusRefusal j.request.operation info = none) :
    Accepted S j.reload info.reload where
  payload := ExperimentInfo.fromPayload_reload hpayload
  receipt := by
    obtain ⟨requestFingerprint, experimentFingerprint, hr⟩ := h.terminal
    exact ⟨m, requestFingerprint, experimentFingerprint, h.incarnation, hr⟩
  predecessor := h.predecessor
  status := (statusRefusal_reload _ _).trans hstatus

/-- What a transition leaves alone. -/
structure Core.Same (c c' : Core δ κ) : Prop where
  ready : c'.ready = c.ready
  modeWriteFailed : c'.modeWriteFailed = c.modeWriteFailed
  recorded : c'.recorded = c.recorded

omit [DecidableEq δ] in
theorem Core.Same.refl (c : Core δ κ) : c.Same c := ⟨rfl, rfl, rfl⟩

omit [DecidableEq δ] in
theorem Core.Same.trans {a b c : Core δ κ} (h : a.Same b) (k : b.Same c) : a.Same c :=
  ⟨k.ready.trans h.ready, k.modeWriteFailed.trans h.modeWriteFailed,
    k.recorded.trans h.recorded⟩

variable (S)

structure Stopped (q : Disk δ κ) (f : StateFile δ) (j : Journal δ κ) (c c' : Core δ κ) :
    Prop where
  same : c.Same c'
  last : lastQuiet c'.history = some q
  pending : Pending S q f j c'.disk
  committed : ∀ f', c'.disk.state = some f' →
    f'.revision ≠ j.request.predecessor.revision →
      ActiveAgrees c'.disk c'.memory f' ∨
        (c'.memory.active = c.memory.active ∧ c'.disk = c.disk)

/-- A transition all of whose writes are done. -/
structure Applied (q : Disk δ κ) (f : StateFile δ) (j : Journal δ κ) (c c' : Core δ κ)
    (info : ExperimentInfo) (rows : List ExperimentInfo) : Prop where
  same : c.Same c'
  last : lastQuiet c'.history = some q
  applying : Applying S q f j info rows
  disk : c'.disk = stage S q j info rows 3
  state : loadedMemory (j.resultFile S) c'.memory = c'.memory
  active : ActiveAgrees c'.disk c'.memory (j.resultFile S) ∨
    (c'.memory.active = c.memory.active ∧ c'.disk = c.disk)

/-- A transition under way whose state file is still to be written. -/
structure Staged (q : Disk δ κ) (f : StateFile δ) (j : Journal δ κ) (c c' : Core δ κ)
    (info : ExperimentInfo) (rows : List ExperimentInfo) (k : ℕ) : Prop where
  same : c.Same c'
  last : lastQuiet c'.history = some q
  applying : Applying S q f j info rows
  disk : c'.disk = stage S q j info rows k
  early : k ≤ 2
  memory : c'.memory = c.memory

/-- How a transition ends. -/
def Outcome (q : Disk δ κ) (f : StateFile δ) (j : Journal δ κ) (c : Core δ κ)
    (r : Except Failure Unit) (c' : Core δ κ) : Prop :=
  (r = .ok () ∧ ∃ info rows, Applied S q f j c c' info rows) ∨
    ((∃ e, r = .error e) ∧ Stopped S q f j c c')

variable {S}

section Outcomes

variable {q : Disk δ κ} {f : StateFile δ} {j : Journal δ κ} {c c' : Core δ κ}
variable {info : ExperimentInfo} {rows : List ExperimentInfo} {k : ℕ}

theorem Fits.revision (h : Fits S q f j) : f.revision = j.request.predecessor.revision := by
  rw [h.cut]
  rfl

omit [DecidableEq δ] in
theorem stage_state_early (hk : k ≤ 2) : (stage S q j info rows k).state = q.state := by
  rcases k with _ | _ | _ | k
  · rfl
  · rfl
  · rfl
  · omega

omit [DecidableEq δ] in
theorem stage_late (hk : 3 ≤ k) : stage S q j info rows k = stage S q j info rows 3 := by
  obtain ⟨n, rfl⟩ := Nat.exists_eq_add_of_le' hk
  rfl

theorem Pending.fits {d : Disk δ κ} (h : Pending S q f j d) : Fits S q f j := by
  cases h with
  | journaled hfits => exact hfits
  | applying k happlying => exact happlying.fits

theorem Pending.journal {d : Disk δ κ} (h : Pending S q f j d) : d.journal = some j := by
  cases h with
  | journaled hfits => rfl
  | applying k happlying => exact stage_journal k

/-- The state file of a pending transition is that of the predecessor, or
everything is written. -/
theorem Pending.state {d : Disk δ κ} (h : Pending S q f j d) :
    d.state = some f ∨
      ∃ info rows, Applying S q f j info rows ∧ d = stage S q j info rows 3 := by
  cases h with
  | journaled hfits => exact .inl hfits.settled.state
  | @applying info rows k happlying =>
      by_cases hk : k ≤ 2
      · exact .inl ((stage_state_early hk).trans happlying.fits.settled.state)
      · exact .inr ⟨info, rows, happlying, stage_late (by omega)⟩

theorem Staged.stopped (h : Staged S q f j c c' info rows k) : Stopped S q f j c c' where
  same := h.same
  last := h.last
  pending := h.disk ▸ .applying k h.applying
  committed := by
    intro f' hf' hne
    rw [h.disk, stage_state_early h.early, h.applying.fits.settled.state] at hf'
    obtain rfl := Option.some.inj hf'
    exact absurd h.applying.fits.revision hne

theorem Pending.staged (h : Pending S q f j c.disk) (hstate : c.disk.state = some f)
    (hlast : lastQuiet c.history = some q) (haccepted : Accepted S j info)
    (hrows : writeRow j.request.operation c.disk.rows info = .ok rows) :
    ∃ k, Staged S q f j c c info rows k := by
  generalize hd : c.disk = d at h hrows
  cases h with
  | journaled hfits =>
      exact ⟨0, ⟨.refl c, hlast, ⟨hfits, haccepted, hrows⟩, hd, by omega, rfl⟩⟩
  | @applying info' rows' k happlying =>
      have hinfo : info' = info :=
        Except.ok.inj (happlying.accepted.payload.symm.trans haccepted.payload)
      subst hinfo
      have hsame : rows' = rows :=
        Except.ok.inj ((happlying.row k).1.symm.trans hrows)
      subst hsame
      refine ⟨k, ⟨.refl c, hlast, happlying, hd, ?_, rfl⟩⟩
      by_contra hk
      rw [hd, stage_late (by omega)] at hstate
      have hf : j.resultFile S = f := Option.some.inj hstate
      have hrevision := happlying.fits.revision
      rw [← hf] at hrevision
      have hnext : (j.resultFile S).revision = j.request.predecessor.revision + 1 := rfl
      omega

end Outcomes

section Writes

variable {q : Disk δ κ} {f : StateFile δ} {j : Journal δ κ} {c c₁ : Core δ κ}
variable {info : ExperimentInfo} {rows : List ExperimentInfo} {k k' : ℕ} {t : ℕ} {m : Mode}

theorem Staged.write (h : Staged S q f j c c₁ info rows k) {d : Disk δ κ}
    (hd : d = stage S q j info rows k') (hle : k ≤ k') (hmax : k' ≤ 3) :
    Write S c₁.history c₁.disk d := by
  rw [h.disk, hd]
  exact .stage h.last h.applying hle hmax

omit [DecidableEq δ] in
theorem Mode.Allows.pending {c' : Core δ κ} (h : c.disk.journal = some j) : m.Allows c c' := by
  refine .inr (.inr (.inl ?_))
  rw [h]
  rfl

theorem Staged.journal (h : Staged S q f j c c₁ info rows k) : c₁.disk.journal = some j := by
  rw [h.disk]
  exact stage_journal k

theorem Staged.last_write (h : Staged S q f j c c₁ info rows k) (d : Disk δ κ) :
    lastQuiet (c₁.write d).history = some q := by
  exact (lastQuiet_cons_of_some h.journal).trans h.last

theorem Staged.next (h : Staged S q f j c c₁ info rows k) {d : Disk δ κ}
    (hd : d = stage S q j info rows k') (hearly : k' ≤ 2) :
    Staged S q f j c (c₁.write d) info rows k' :=
  ⟨⟨h.same.ready, h.same.modeWriteFailed, h.same.recorded⟩, h.last_write d, h.applying, hd,
    hearly, h.memory⟩

/-- How an early write of a transition ends. -/
def Progress (q : Disk δ κ) (f : StateFile δ) (j : Journal δ κ) (c : Core δ κ)
    (info : ExperimentInfo) (k : ℕ) (r : Except Failure Unit) (c' : Core δ κ) : Prop :=
  (r = .ok () ∧ ∃ rows k', k ≤ k' ∧ Staged S q f j c c' info rows k') ∨
    ((∃ e, r = .error e) ∧ Stopped S q f j c c')

theorem writeRowOf_locked (hpending : Pending S q f j c.disk) (hstate : c.disk.state = some f)
    (hlast : lastQuiet c.history = some q) (haccepted : Accepted S j info.reload) :
    Locked S t m (writeRowOf j.request.operation info)
      (Progress (S := S) q f j c info.reload 1) c := by
  refine Locked.readThen ?_
  intro w hw
  rw [hw.disk]
  refine Locked.ofExceptThen ?_ ?_
  · intro rows hrows
    rw [← writeRow_reload] at hrows
    obtain ⟨k, hk⟩ := hpending.staged hstate hlast haccepted hrows
    have hd : { c.disk with rows := rows } = stage S q j info.reload rows (max k 1) := by
      rw [hk.disk]
      exact (hk.applying.row k).2
    have hearly : max k 1 ≤ 2 := max_le hk.early (by omega)
    have hnext := hk.next hd hearly
    exact Locked.durable (hk.write hd (le_max_left k 1) (by omega)) (.pending hk.journal)
      (.inr ⟨⟨_, rfl⟩, hk.stopped⟩) (.inr ⟨⟨_, rfl⟩, hnext.stopped⟩)
      (.inl ⟨rfl, rows, _, le_max_right k 1, hnext⟩)
  · intro e _
    refine .inr ⟨⟨e, rfl⟩, .refl c, hlast, hpending, ?_⟩
    intro f' hf' hne
    exact .inr ⟨rfl, rfl⟩

theorem writeArtifact_locked (h : Staged S q f j c c₁ info.reload rows k) (hk : 1 ≤ k) :
    Locked S t m (writeArtifact S info j.request.extras)
      (Progress (S := S) q f j c info.reload 2) c₁ := by
  refine Locked.ofExceptThen ?_ ?_
  · intro template _
    refine Locked.readThen ?_
    intro w hw
    have hd : c₁.disk.setMetadata info.experimentId
        (Metadata.rewritten (w.disk.readMetadata info.experimentId) info j.request.extras) =
          stage S q j info.reload rows (max k 2) := by
      rw [hw.disk, h.disk, ← rewritten_reload]
      exact stage_artifact k hk
    have hearly : max k 2 ≤ 2 := max_le h.early (by omega)
    have hnext := h.next hd hearly
    exact Locked.durable (h.write hd (le_max_left k 2) (by omega)) (.pending h.journal)
      (.inr ⟨⟨_, rfl⟩, h.stopped⟩) (.inr ⟨⟨_, rfl⟩, hnext.stopped⟩)
      (.inl ⟨rfl, rows, _, le_max_right k 2, hnext⟩)
  · intro e _
    exact .inr ⟨⟨e, rfl⟩, h.stopped⟩

omit [DecidableEq δ] in
theorem stateFile_eq_resultFile {n : Memory δ}
    (haccepted : Accepted S j info)
    (hincarnation : n.managerIncarnation = j.request.managerIncarnation)
    (hmode : n.state.appMode = j.request.predecessor.appMode)
    (hactive : n.state.activeExperimentId =
      resultActiveId j.request.operation info.experimentId) :
    n.stateFile S (j.request.predecessor.revision + 1) (some j.terminalReceipt) =
      j.resultFile S := by
  obtain ⟨n', requestFingerprint, experimentFingerprint, hn', hr⟩ := haccepted.receipt
  have hfingerprint : n.stateFingerprint S (j.request.predecessor.revision + 1)
      n.state.appMode n.state.activeExperimentId =
        j.terminalReceipt.resultStateFingerprint := by
    rw [hr, hmode, hactive]
    unfold terminalReceipt Memory.stateFingerprint
    rw [hincarnation, hn']
  unfold Memory.stateFile Journal.resultFile
  rw [hfingerprint, haccepted.resultActive, hactive, hmode, hincarnation]
  rfl

omit [DecidableEq δ] in
theorem loadedMemory_resultFile {n : Memory δ}
    (haccepted : Accepted S j info)
    (hincarnation : n.managerIncarnation = j.request.managerIncarnation)
    (hmode : n.state.appMode = j.request.predecessor.appMode)
    (hactive : n.state.activeExperimentId =
      resultActiveId j.request.operation info.experimentId) :
    loadedMemory (j.resultFile S)
        { n with
          stateRevision := j.request.predecessor.revision + 1
          lastTransitionReceipt := some j.terminalReceipt } =
      { n with
        stateRevision := j.request.predecessor.revision + 1
        lastTransitionReceipt := some j.terminalReceipt } := by
  have hstate : (⟨(j.resultFile S).appMode, (j.resultFile S).activeExperimentId⟩ :
      ExperimentState) = n.state := by
    change (⟨j.request.predecessor.appMode, j.terminalReceipt.resultActiveExperimentId⟩ :
      ExperimentState) = n.state
    rw [haccepted.resultActive, ← hactive, ← hmode]
  unfold loadedMemory
  rw [hstate]
  exact congrArg (fun i => ({ n with
    managerIncarnation := i
    stateRevision := j.request.predecessor.revision + 1
    lastTransitionReceipt := some j.terminalReceipt } : Memory δ)) hincarnation.symm

/-- A memory that is ready for the state file of a transition. -/
structure Prepared (q : Disk δ κ) (j : Journal δ κ) (info : ExperimentInfo)
    (rows : List ExperimentInfo) (n : Memory δ) : Prop where
  incarnation : n.managerIncarnation = j.request.managerIncarnation
  mode : n.state.appMode = j.request.predecessor.appMode
  identity : n.state.activeExperimentId = resultActiveId j.request.operation info.experimentId
  active : ActiveAgrees (stage S q j info rows 3) n (j.resultFile S)

theorem writeState_locked (h : Staged S q f j c c₁ info rows 2) {n : Memory δ}
    (hn : Prepared (S := S) q j info rows n) :
    Locked S t m
      (writeState S (some (j.request.predecessor.revision + 1)) (some j.terminalReceipt))
      (Outcome S q f j c) (c₁.remember n) := by
  refine Locked.readThen ?_
  intro w hw
  have hfile := stateFile_eq_resultFile h.applying.accepted hn.incarnation hn.mode hn.identity
  have hd : { c₁.disk with state := some (w.memory.stateFile S
      (j.request.predecessor.revision + 1) (some j.terminalReceipt)) } =
        stage S q j info rows 3 := by
    rw [hw.memory, h.disk, show (c₁.remember n).memory = n from rfl, hfile]
    exact stage_state 2 (by omega)
  have hstopped : Stopped S q f j c (c₁.remember n) :=
    ⟨⟨h.same.ready, h.same.modeWriteFailed, h.same.recorded⟩, h.stopped.last, h.stopped.pending, by
      intro f' hf' hne
      have hf'' : c₁.disk.state = some f' := hf'
      rw [h.disk, stage_state_early h.early, h.applying.fits.settled.state] at hf''
      obtain rfl := Option.some.inj hf''
      exact absurd h.applying.fits.revision hne⟩
  have hactive : ∀ d, d = stage S q j info rows 3 → ∀ f', d.state = some f' →
      ActiveAgrees d n f' := by
    rintro d rfl f' hf'
    obtain rfl := Option.some.inj hf'
    exact hn.active
  refine Locked.seq (R := fun r c' =>
      (r = .ok () ∧ c' = (c₁.remember n).write (stage S q j info rows 3)) ∨
        ((∃ e, r = .error e) ∧ Stopped S q f j c c')) ?_ ?_ ?_
  · refine Locked.durable ?_ ?_ (.inr ⟨⟨_, rfl⟩, hstopped⟩) (.inr ⟨⟨_, rfl⟩, ?_⟩) (.inl ⟨rfl, ?_⟩)
    · exact h.write hd (by omega) (by omega)
    · exact .pending h.journal
    · refine ⟨⟨h.same.ready, h.same.modeWriteFailed, h.same.recorded⟩, h.last_write c.disk, ?_, ?_⟩
      · exact hd ▸ .applying 3 h.applying
      · intro f' hf' _
        exact .inl (hactive _ hd f' hf')
    · exact congrArg (c₁.remember n).write hd
  · rintro _ c' (⟨_, rfl⟩ | ⟨⟨e, he⟩, _⟩)
    · refine Locked.remember (.pending (stage_journal 3)) (.inl ⟨rfl, info, rows, ?_⟩)
      exact
        { same := ⟨h.same.ready, h.same.modeWriteFailed, h.same.recorded⟩
          last := h.last_write c.disk
          applying := h.applying
          disk := rfl
          state :=
            loadedMemory_resultFile h.applying.accepted hn.incarnation hn.mode hn.identity
          active := .inl hn.active }
    · cases he
  · rintro e c' (⟨he, _⟩ | ⟨_, hstop⟩)
    · cases he
    · exact .inr ⟨⟨e, rfl⟩, hstop⟩

theorem Applying.activeRecord (h : Applying S q f j info rows) :
    (stage S q j info rows 3).activeRecord (j.resultFile S) =
      if j.request.operation = .finalize then none else some info := by
  have hactive : (j.resultFile S).activeExperimentId =
      resultActiveId j.request.operation info.experimentId := h.accepted.resultActive
  unfold Disk.activeRecord
  rw [hactive]
  unfold resultActiveId
  by_cases hf : j.request.operation = .finalize
  · rw [if_pos hf, if_pos hf]
    rfl
  · rw [if_neg hf, if_neg hf]
    have hmetadata : (stage S q j info rows 3).metadata info.experimentId =
        some (Metadata.rewritten (q.readMetadata info.experimentId) info j.request.extras) :=
      if_pos rfl
    change ((stage S q j info rows 3).metadata info.experimentId).bind Metadata.experiment =
      some info
    rw [hmetadata]
    exact congrArg some (h.fits.normal h.accepted.payload).reloaded

theorem setActive_locked (hm : m = .free ∨ m = .admitted)
    (h : Staged S q f j c c₁ info.reload rows 2)
    (hincarnation : c₁.memory.managerIncarnation = j.request.managerIncarnation)
    (hmode : c₁.memory.state.appMode = j.request.predecessor.appMode)
    (hne : j.request.operation ≠ .finalize) :
    Locked S t m
      (setActive S t info (j.request.predecessor.revision + 1) j.terminalReceipt)
      (Outcome S q f j c) c₁ := by
  refine Locked.within hm ?_
  refine Locked.rememberThen (.pending h.journal) ?_
  refine writeState_locked h ⟨hincarnation, hmode, (if_neg hne).symm, ?_⟩
  unfold ActiveAgrees
  rw [h.applying.activeRecord, if_neg hne]
  rfl

theorem clearActive_locked (hm : m = .free ∨ m = .admitted)
    (h : Staged S q f j c c₁ info rows 2)
    (hincarnation : c₁.memory.managerIncarnation = j.request.managerIncarnation)
    (hmode : c₁.memory.state.appMode = j.request.predecessor.appMode)
    (hf : j.request.operation = .finalize) :
    Locked S t m
      (clearActive S t (some (j.request.predecessor.revision + 1)) (some j.terminalReceipt))
      (Outcome S q f j c) c₁ := by
  refine Locked.within hm ?_
  refine Locked.rememberThen (.pending h.journal) ?_
  refine writeState_locked h ⟨hincarnation, hmode, (if_pos hf).symm, ?_⟩
  unfold ActiveAgrees
  rw [h.applying.activeRecord, if_pos hf]
  rfl

end Writes

section Transition

variable {q : Disk δ κ} {f : StateFile δ} {j : Journal δ κ} {c : Core δ κ}
variable {info : ExperimentInfo} {t : ℕ} {m : Mode}

theorem applyWrites_locked (hm : m = .free ∨ m = .admitted)
    (hpending : Pending S q f j.reload c.disk) (hstate : c.disk.state = some f)
    (hlast : lastQuiet c.history = some q) (haccepted : Accepted S j.reload info.reload)
    (hincarnation : c.memory.managerIncarnation = j.request.managerIncarnation)
    (hmode : c.memory.state.appMode = j.request.predecessor.appMode) :
    Locked S t m (applyWrites S t j info j.terminalReceipt) (Outcome S q f j.reload c) c := by
  refine Locked.seq (writeRowOf_locked (j := j.reload) hpending hstate hlast haccepted) ?_ ?_
  · rintro _ c₁ (⟨_, rows, k, hk, h₁⟩ | ⟨⟨e, he⟩, _⟩)
    · refine Locked.seq (writeArtifact_locked (j := j.reload) h₁ hk) ?_ ?_
      · rintro _ c₂ (⟨_, rows', k', hk', h₂⟩ | ⟨⟨e, he⟩, _⟩)
        · obtain rfl : k' = 2 := le_antisymm h₂.early hk'
          have hincarnation₂ : c₂.memory.managerIncarnation = j.request.managerIncarnation := by
            rw [h₂.memory]
            exact hincarnation
          have hmode₂ : c₂.memory.state.appMode = j.request.predecessor.appMode := by
            rw [h₂.memory]
            exact hmode
          by_cases hf : j.request.operation = .finalize
          · rw [if_pos hf]
            exact clearActive_locked (j := j.reload) hm h₂ hincarnation₂ hmode₂ hf
          · rw [if_neg hf]
            exact setActive_locked (j := j.reload) hm h₂ hincarnation₂ hmode₂ hf
        · cases he
      · rintro e c₂ (⟨he, _⟩ | ⟨_, hstopped⟩)
        · cases he
        · exact .inr ⟨⟨e, rfl⟩, hstopped⟩
    · cases he
  · rintro e c₁ (⟨he, _⟩ | ⟨_, hstopped⟩)
    · cases he
    · exact .inr ⟨⟨e, rfl⟩, hstopped⟩

theorem Pending.stopped (h : Pending S q f j c.disk) (hlast : lastQuiet c.history = some q) :
    Stopped S q f j c c :=
  ⟨.refl c, hlast, h, fun _ _ _ => .inr ⟨rfl, rfl⟩⟩

theorem applyTransition_locked (hm : m = .free ∨ m = .admitted)
    (hpending : Pending S q f j.reload c.disk) (hlast : lastQuiet c.history = some q)
    (hmemory : ∀ f', c.disk.state = some f' → loadedMemory f' c.memory = c.memory) :
    Locked S t m (applyTransition S t j) (Outcome S q f j.reload c) c := by
  have hstopped : ∀ e : Failure, Outcome S q f j.reload c (.error e) c :=
    fun e => .inr ⟨⟨e, rfl⟩, hpending.stopped hlast⟩
  refine Locked.ofExceptThen ?_ fun e _ => hstopped e
  intro info hpayload
  refine Locked.readThen ?_
  intro w hw
  rw [hw.memory]
  refine Locked.ofExceptThen ?_ fun e _ => hstopped e
  rintro ⟨r, b⟩ hverdict
  obtain ⟨hvalidated, hpredecessor, hcommitted⟩ := validateTransitionAuthority_ok hverdict
  obtain rfl := hvalidated.receipt
  have hrevision : f.revision = j.request.predecessor.revision := hpending.fits.revision
  cases b with
  | true =>
      refine Locked.ret (.inl ⟨rfl, ?_⟩)
      -- The state in memory is the result, so the file is.
      rcases hpending.state with hstate | ⟨info', rows, happlying, hdisk⟩
      · have hloaded := congrArg Memory.stateRevision (hmemory f hstate)
        have hnext := hcommitted rfl
        have hold : f.revision = c.memory.stateRevision := hloaded
        omega
      · refine ⟨info', rows, .refl c, hlast, happlying, hdisk, ?_, .inr ⟨rfl, rfl⟩⟩
        exact hmemory _ (by rw [hdisk]; rfl)
  | false =>
      have hcut := hpredecessor rfl
      refine Locked.refuseThen ?_ fun e _ => hstopped e
      intro hrefusal
      have hstatus : statusRefusal j.request.operation info = none := by
        cases hs : statusRefusal j.request.operation info with
        | none => rfl
        | some message =>
            rw [hs] at hrefusal
            cases hrefusal
      have hstate : c.disk.state = some f := by
        rcases hpending.state with hstate | ⟨info', rows, happlying, hdisk⟩
        · exact hstate
        · have hlate : c.disk.state = some (j.reload.resultFile S) := by
            rw [hdisk]
            rfl
          have hloaded := congrArg Memory.stateRevision (hmemory _ hlate)
          have hnow : c.memory.stateRevision = j.request.predecessor.revision :=
            congrArg Cut.revision hcut
          have hnext : j.request.predecessor.revision + 1 = c.memory.stateRevision := hloaded
          omega
      exact applyWrites_locked hm hpending hstate hlast
        (hvalidated.accepted hpayload hstatus) hvalidated.incarnation
        (congrArg Cut.appMode hcut)

end Transition

end Experiments
end CryoDaq
