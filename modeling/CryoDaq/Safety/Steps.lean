import CryoDaq.Async.Rely
import CryoDaq.Safety.Journal

/-!
# What one update can do

Every update of the control part is one of the steps listed here.  A `Move`
may be made by any task at any time; an `Own` step belongs to the task that
holds the lock it names.

**Invariant.**  `Control.Inv` holds after every step.

**Interference.**  `Control.Drift t` is what a task `t` may assume of
everything that happens while it is suspended, and also what a run of moves of
its own amounts to.
-/

namespace CryoDaq
namespace Safety

open Async Journal

namespace Control

variable {t u : Nat} {c c' : Control}

def PlainNote (t : Nat) : Note → Prop
  | .offRequested _ => True
  | .snapshotRefused => True
  | .offJoined u _ => u = t
  | .outputOffProved proof => proof.task = t
  | _ => False

/-- Where a transition may lead with only `keep` tracked. -/
def Leads (before : SafetyState) (keep : Finset SmuChannel)
    (after : SafetyState) : Prop :=
  (after = .safeOff ∧ keep = ∅) ∨ (after = .running ∧ keep ≠ ∅) ∨
    (after = .ready ∧ (before = .safeOff ∨ before = .manualRecovery))

/-- Task `t` owes the FSM no transition, or need not be relied upon. -/
def Quit (t : Nat) (c : Control) : Prop :=
  t ∈ c.stopOwners → c.state = .running → c.activeSources = ∅ →
    ∃ n ∈ c.journal, n.strands = true

/-- A step that any task may make at any time. -/
inductive Move (t : Nat) : Control → Control → Prop
  | note (c : Control) (n : Note) : PlainNote t n → n.Justified c.journal →
      Move t c (c.note n)
  | abort (c : Control) (full : Bool) : Move t c (c.registerAbortIntent full)
  | announce (c : Control) : Move t c (c.announce t)
  | settleStop (c : Control) : c.Quit t → Move t c (c.settleStop t)
  | leaveStop (c : Control) (site : GiveUpSite) :
      Move t c (c.leaveStop t site)
  | dropStopped (c : Control) (channels : Finset SmuChannel) :
      Move t c (c.dropStopped t channels)
  | keepSources (c : Control) (site : GiveUpSite)
      (keep : Finset SmuChannel) : keep ⊆ c.activeSources →
      Move t c (c.keepSources site keep)
  | beginFaultLatch (c : Control) (reason : String) (source : FaultSource) :
      Move t c (c.beginFaultLatch reason source)
  | keepAndMove (c : Control) (keep : Finset SmuChannel)
      (after : SafetyState) (reason : TransitionReason) :
      keep ⊆ c.activeSources → c.state ≠ .faultLatched →
      Leads c.state keep after → Move t c (c.keepAndMove keep after reason)

/-- The next successful Start carries the warning that is owed. -/
def WarningKept (c : Control) : Prop :=
  ∀ code, owed c.journal = some code →
    ∃ warning, c.pendingInterlockStartWarning =
      some (c.abortGeneration, warning) ∧ warning.code = code

/-- A step that belongs to one task: to take or release a lock, and what only
the holder of a lock does. -/
inductive Own (t : Nat) : Control → Control → Prop
  | takeCmdLock (c : Control) : c.cmdLock = none → Own t c (c.takeCmdLock t)
  | releaseCmdLock (c : Control) : c.cmdLock = some t → c.WarningKept →
      Own t c c.releaseCmdLock
  | takeRunRequestLock (c : Control) : c.runRequestLock = none →
      Own t c (c.takeRunRequestLock t)
  | releaseRunRequestLock (c : Control) : c.runRequestLock = some t →
      Own t c c.releaseRunRequestLock
  | note (c : Control) (n : Note) : n.owner = some t →
      (n.locked = true → c.cmdLock = some t) → n.Justified c.journal →
      (∀ code, owed (n :: c.journal) = some code →
        owed c.journal = some code) → Own t c (c.note n)
  | dropStaleWarning (c : Control) (generation : Nat) : c.cmdLock = some t →
      c.abortGeneration = generation →
      Own t c (c.dropStaleWarning generation)
  | takeWarning (c : Control) (warning : Option OperatorWarning) :
      c.cmdLock = some t → Own t c (c.takeWarning warning)
  | consumeLatch (c : Control) (generation : Nat) (recovered : Bool)
      (warning : OperatorWarning) : c.cmdLock = some t →
      c.state = .faultLatched →
      ConsumableOrigins t c.faultSources recovered c.journal →
      warning.code = (if recovered then .latchedPersistenceStart
        else .latchedInterlockStart) →
      Own t c (c.consumeLatch t generation recovered warning)
  | permitRun (c : Control) (reason : TransitionReason) :
      c.cmdLock = some t → c.state ≠ .faultLatched →
      Own t c (c.transition .runPermitted reason)
  | commitSource (c : Control) (channel : SmuChannel) (pTarget : PyFloat) :
      c.cmdLock = some t → c.runRequestLock = some t →
      c.state ≠ .faultLatched → Own t c (c.commitSource channel pTarget)
  | acknowledge (c : Control) (text : String) : c.cmdLock = some t →
      Own t c ((c.note (.acknowledgeCleared t c.activeSources)).transition
        .manualRecovery (.faultAcknowledged text))

/-- One update of the control part by task `t`. -/
inductive Step (t : Nat) : Control → Control → Prop
  | move {c c' : Control} : Move t c c' → Step t c c'
  | own {c c' : Control} : Own t c c' → Step t c c'

/-- The invariant apart from the account of RUNNING. -/
structure Sound (c : Control) : Prop where
  justified : Justified Note.Justified c.journal
  chained : lastState c.journal = c.state
  counted : c.abortGeneration = c.journal.countP Note.isAbortIntent
  warned : c.cmdLock = none → c.WarningKept
  latched : c.state = .faultLatched → owed c.journal = none
  monitored : (∀ n ∈ c.journal, n.leavesLive = false) →
    c.state = .safeOff ∨ c.state = .ready ∨ c.state = .manualRecovery →
      c.activeSources = ∅

/-- RUNNING without a source is somebody's to leave, or its cause was written
down. -/
def Accounted (c : Control) : Prop :=
  c.state = .running → c.activeSources = ∅ →
    c.stopOwners ≠ ∅ ∨ ∃ n ∈ c.journal, n.strands = true

structure Inv (c : Control) : Prop extends Sound c where
  accounted : c.Accounted

theorem inv_initial : Inv {} where
  justified := trivial
  chained := rfl
  counted := rfl
  warned := by
    intro _ code h
    cases h
  latched := by
    intro h
    cases h
  monitored := fun _ _ => rfl
  accounted := by
    intro h
    cases h

theorem Sound.note {n : Note} (h : c.Sound) (hj : n.Justified c.journal)
    (hstate : lastState (n :: c.journal) = lastState c.journal)
    (habort : n.isAbortIntent = false)
    (howed : ∀ code, owed (n :: c.journal) = some code →
      owed c.journal = some code) : (c.note n).Sound where
  justified := ⟨hj, h.justified⟩
  chained := hstate.trans h.chained
  counted := by
    have := h.counted
    simp [Control.note, habort, this]
  warned := fun hl code hc => h.warned hl code (howed code hc)
  latched := by
    intro hs
    by_contra hne
    obtain ⟨code, hc⟩ := Option.ne_none_iff_exists'.mp hne
    have := howed code hc
    rw [h.latched hs] at this
    cases this
  monitored := fun hn => h.monitored fun m hm =>
    hn m (List.mem_cons_of_mem _ hm)

theorem Accounted.note {n : Note} (h : c.Accounted) : (c.note n).Accounted := by
  intro hs ha
  rcases h hs ha with ho | ⟨m, hm, hstrands⟩
  · exact Or.inl ho
  · exact Or.inr ⟨m, List.mem_cons_of_mem _ hm, hstrands⟩

theorem accounted_giveUp (site : GiveUpSite) (c : Control) :
    (c.giveUp site).Accounted := by
  intro hs ha
  by_cases ho : c.stopOwners = ∅
  · exact Or.inr ⟨_, List.mem_cons_self, decide_eq_true ⟨hs, ha, ho⟩⟩
  · exact Or.inl ho

theorem Sound.giveUp (h : c.Sound) (site : GiveUpSite) :
    (c.giveUp site).Sound :=
  h.note trivial rfl rfl fun _ hc => hc

theorem Sound.keep (h : c.Sound) {keep : Finset SmuChannel}
    {owners : Finset Nat} (hk : keep ⊆ c.activeSources) :
    ({ c with activeSources := keep, stopOwners := owners } : Control).Sound
    where
  justified := h.justified
  chained := h.chained
  counted := h.counted
  warned := h.warned
  latched := h.latched
  monitored := by
    intro hn hs
    have ha : c.activeSources = ∅ := h.monitored hn hs
    exact Finset.subset_empty.mp (ha ▸ hk)

theorem Sound.abort (h : c.Sound) (full : Bool) :
    (c.registerAbortIntent full).Sound where
  justified := ⟨trivial, h.justified⟩
  chained := h.chained
  counted := by
    simp [registerAbortIntent, List.countP_cons, Note.isAbortIntent, h.counted]
  warned := by
    intro _ code hc
    cases hc
  latched := fun _ => rfl
  monitored := fun hn => h.monitored fun m hm =>
    hn m (List.mem_cons_of_mem _ hm)

theorem Sound.transition (h : c.Sound) {after : SafetyState}
    {reason : TransitionReason}
    (hleave : c.state = .faultLatched → after ≠ .faultLatched →
      LeavesLatch after reason c.journal)
    (hlatch : after = .faultLatched → owed c.journal = none)
    (hoff : (∀ n ∈ c.journal, n.leavesLive = false) →
      after = .safeOff ∨ after = .ready ∨ after = .manualRecovery →
        c.activeSources = ∅) : (c.transition after reason).Sound where
  justified := ⟨⟨h.chained.symm, hleave⟩, h.justified⟩
  chained := rfl
  counted := by
    have := h.counted
    simpa [Control.transition, Note.isAbortIntent] using this
  warned := h.warned
  latched := hlatch
  monitored := fun hn => hoff fun m hm => hn m (List.mem_cons_of_mem _ hm)

theorem accounted_of_state (h : c.state ≠ .running) : c.Accounted :=
  fun hs => absurd hs h

theorem Inv.abort (h : c.Inv) (full : Bool) :
    (c.registerAbortIntent full).Inv where
  toSound := h.toSound.abort full
  accounted := by
    intro hs ha
    rcases h.accounted hs ha with ho | ⟨m, hm, hstrands⟩
    · exact Or.inl ho
    · exact Or.inr ⟨m, List.mem_cons_of_mem _ hm, hstrands⟩

theorem Inv.beginFaultLatch (h : c.Inv) (reason : String)
    (source : FaultSource) : (c.beginFaultLatch reason source).Inv := by
  unfold Control.beginFaultLatch
  split
  · rename_i hs
    have hnote : (c.note (.faultRequested source)).Sound :=
      h.toSound.note trivial rfl rfl fun _ hc => hc
    have hsame : (c.joinLatch source).Sound :=
      { justified := hnote.justified
        chained := hnote.chained
        counted := hnote.counted
        warned := hnote.warned
        latched := hnote.latched
        monitored := hnote.monitored }
    refine ⟨hsame, accounted_of_state ?_⟩
    simp [joinLatch, hs]
  · rename_i hs
    have habort : ((c.note (.faultRequested source)).registerAbortIntent
        true).Sound :=
      (h.toSound.note (n := .faultRequested source) trivial rfl rfl
        fun _ hc => hc).abort true
    refine ⟨?_, accounted_of_state (by simp [enterLatch, transition])⟩
    unfold enterLatch
    refine Sound.transition ?_ (fun hl => absurd hl hs)
      (fun _ => rfl) (by simp)
    exact
      { justified := habort.justified
        chained := habort.chained
        counted := habort.counted
        warned := by
          intro _ code hc
          cases hc
        latched := fun _ => rfl
        monitored := habort.monitored }

theorem Inv.keepAndMove (h : c.Inv) {keep : Finset SmuChannel}
    {after : SafetyState} {reason : TransitionReason}
    (hk : keep ⊆ c.activeSources) (hs : c.state ≠ .faultLatched)
    (hto : Leads c.state keep after) :
    (c.keepAndMove keep after reason).Inv := by
  refine ⟨(h.toSound.keep hk).transition (fun hl => absurd hl hs) ?_ ?_, ?_⟩
  · intro ha
    rcases hto with ⟨hafter, _⟩ | ⟨hafter, _⟩ | ⟨hafter, _⟩ <;>
      rw [ha] at hafter <;> cases hafter
  · intro hn hafter
    rcases hto with ⟨_, hempty⟩ | ⟨hrun, _⟩ | ⟨_, hbefore⟩
    · exact hempty
    · rcases hafter with ha | ha | ha <;> rw [hrun] at ha <;> cases ha
    · have ha : c.activeSources = ∅ := by
        refine h.monitored hn ?_
        rcases hbefore with hb | hb
        · exact Or.inl hb
        · exact Or.inr (Or.inr hb)
      exact Finset.subset_empty.mp (ha ▸ hk)
  · intro hrun hempty
    rcases hto with ⟨hafter, _⟩ | ⟨_, hne⟩ | ⟨hafter, _⟩
    · exact absurd (hafter.symm.trans hrun) (by decide)
    · exact absurd hempty hne
    · exact absurd (hafter.symm.trans hrun) (by decide)

theorem Inv.move (h : c.Inv) (hm : Move t c c') : c'.Inv := by
  cases hm with
  | note n hplain hj =>
      refine ⟨h.toSound.note hj ?_ ?_ ?_, h.accounted.note⟩ <;>
        cases n <;> simp_all [PlainNote, lastState, owed, Note.isAbortIntent]
  | abort full => exact h.abort full
  | announce =>
      refine ⟨h.toSound.keep (Finset.Subset.refl _), ?_⟩
      intro _ _
      left
      exact Finset.Nonempty.ne_empty ⟨t, Finset.mem_insert_self _ _⟩
  | settleStop hquit =>
      refine ⟨h.toSound.keep (Finset.Subset.refl _), fun hs ha => ?_⟩
      by_cases ht : t ∈ c.stopOwners
      · exact Or.inr (hquit ht hs ha)
      · rw [settleStop, Finset.erase_eq_of_notMem ht]
        exact h.accounted hs ha
  | leaveStop site =>
      unfold Control.leaveStop
      split
      · exact ⟨(h.toSound.keep (Finset.Subset.refl _)).giveUp site,
          accounted_giveUp site _⟩
      · exact h
  | dropStopped channels =>
      refine ⟨h.toSound.keep Finset.sdiff_subset, ?_⟩
      intro _ _
      left
      exact Finset.Nonempty.ne_empty ⟨t, Finset.mem_insert_self _ _⟩
  | keepSources site keep hk =>
      exact ⟨(h.toSound.keep hk).giveUp site, accounted_giveUp site _⟩
  | beginFaultLatch reason source => exact h.beginFaultLatch reason source
  | keepAndMove keep after reason hk hs hto => exact h.keepAndMove hk hs hto

/-- A consumed latch owes the warning that is now pending, unless an abort
intent was registered since the consuming Start began. -/
theorem warningKept_consumeLatch (generation : Nat) (recovered : Bool)
    (warning : OperatorWarning) (c : Control) :
    (c.consumeLatch t generation recovered warning).WarningKept := by
  intro code hcode
  simp only [Control.consumeLatch, transition, owed] at hcode ⊢
  split at hcode
  · rename_i hcurrent
    have hgen : c.abortGeneration = generation := by simpa using hcurrent
    refine ⟨warning, ?_, Option.some.inj hcode⟩
    rw [hgen]
  · cases hcode

theorem Inv.consumeLatch (h : c.Inv) {generation : Nat} {recovered : Bool}
    {warning : OperatorWarning} (hs : c.state = .faultLatched)
    (hsources : ConsumableOrigins t c.faultSources recovered c.journal)
    (hcode : warning.code = (if recovered then .latchedPersistenceStart
      else .latchedInterlockStart)) :
    (c.consumeLatch t generation recovered warning).Inv where
  justified :=
    ⟨⟨h.chained.symm, fun _ _ =>
        Or.inr ⟨rfl, rfl, _, _, _, _, _, _, rfl⟩⟩,
      ⟨hsources, h.latched hs, hcode⟩, h.justified⟩
  chained := rfl
  counted := by
    have := h.counted
    simpa [Control.consumeLatch, transition, Note.isAbortIntent] using this
  warned := fun _ => warningKept_consumeLatch generation recovered warning c
  latched := by
    intro hl
    cases hl
  monitored := by
    intro hn _
    have hlive := hn _ (List.mem_cons_of_mem _ List.mem_cons_self)
    have hempty : c.activeSources = ∅ := by simpa [Note.leavesLive] using hlive
    exact hempty
  accounted := accounted_of_state (by simp [Control.consumeLatch, transition])

theorem Inv.commitSource (h : c.Inv) (channel : SmuChannel)
    (pTarget : PyFloat) (hs : c.state ≠ .faultLatched) :
    (c.commitSource channel pTarget).Inv := by
  have hne : insert channel c.activeSources ≠ ∅ :=
    Finset.insert_ne_empty channel c.activeSources
  unfold Control.commitSource
  split
  · rename_i hrun
    exact
      { justified := h.justified
        chained := h.chained
        counted := h.counted
        warned := h.warned
        latched := h.latched
        monitored := by
          intro _ hsafe
          rcases hsafe with ha | ha | ha <;>
            exact absurd (hrun.symm.trans ha) (by decide)
        accounted := fun _ ha => absurd ha hne }
  · exact
      { justified :=
          ⟨⟨h.chained.symm, fun hl => absurd hl hs⟩, h.justified⟩
        chained := rfl
        counted := by
          have := h.counted
          simpa [transition, Note.isAbortIntent] using this
        warned := h.warned
        latched := by
          intro hl
          cases hl
        monitored := by
          intro _ hsafe
          rcases hsafe with ha | ha | ha <;> cases ha
        accounted := fun _ ha => absurd ha hne }

theorem Inv.acknowledge (h : c.Inv) (text : String) :
    ((c.note (.acknowledgeCleared t c.activeSources)).transition
      .manualRecovery (.faultAcknowledged text)).Inv := by
  have hnote : (c.note (.acknowledgeCleared t c.activeSources)).Sound :=
    h.toSound.note trivial rfl rfl fun _ hc => hc
  refine ⟨hnote.transition
    (fun _ _ => Or.inl ⟨rfl, ⟨text, rfl⟩, t, c.activeSources, rfl⟩) ?_ ?_,
    accounted_of_state (by simp [transition])⟩
  · intro hl
    cases hl
  · intro hn _
    have hlive := hn _ List.mem_cons_self
    have hempty : c.activeSources = ∅ := by simpa [Note.leavesLive] using hlive
    exact hempty

theorem Inv.own (h : c.Inv) (ho : Own t c c') : c'.Inv := by
  cases ho with
  | takeCmdLock hl =>
      exact { h with
        warned := by
          intro hnone
          cases hnone
        accounted := h.accounted }
  | releaseCmdLock hl hw =>
      exact { h with
        warned := fun _ => hw
        accounted := h.accounted }
  | takeRunRequestLock hl => exact { h with }
  | releaseRunRequestLock hl => exact { h with }
  | note n hown hlocked hj howed =>
      refine ⟨h.toSound.note hj ?_ ?_ howed, h.accounted.note⟩ <;>
        cases n <;> simp_all [Note.owner, lastState, Note.isAbortIntent]
  | dropStaleWarning generation hl hg =>
      have hwarned : (c.dropStaleWarning generation).cmdLock = none →
          (c.dropStaleWarning generation).WarningKept := by
        intro hnone
        have : (c.dropStaleWarning generation).cmdLock = c.cmdLock := by
          unfold dropStaleWarning
          split
          · split <;> rfl
          · rfl
        rw [this, hl] at hnone
        cases hnone
      unfold dropStaleWarning at hwarned ⊢
      split
      · split
        · exact h
        · exact { h with warned := by simp_all }
      · exact h
  | takeWarning warning hl =>
      unfold takeWarning
      split
      · exact { h with
          warned := by
            intro hnone
            rw [hl] at hnone
            cases hnone }
      · exact h
  | consumeLatch generation recovered warning hl hs hsources hcode =>
      exact h.consumeLatch hs hsources hcode
  | permitRun reason hl hs =>
      refine ⟨h.toSound.transition (fun hl => absurd hl hs) ?_ ?_,
        accounted_of_state (by simp [transition])⟩
      · intro ha
        cases ha
      · intro _ ha
        rcases ha with ha | ha | ha <;> cases ha
  | commitSource channel pTarget hl hr hs => exact h.commitSource channel pTarget hs
  | acknowledge text hl => exact h.acknowledge text

theorem Inv.step (h : c.Inv) (hstep : Step t c c') : c'.Inv := by
  cases hstep with
  | move hm => exact h.move hm
  | own ho => exact h.own ho

/-- What a task may assume of steps that are not its own, and of its own
moves. -/
structure Drift (t : Nat) (c c' : Control) : Prop where
  journal : c.journal <:+ c'.journal
  own : ∀ n ∈ added c.journal c'.journal, n.owner = some t → n.shared = true
  cmdLock : c'.cmdLock = some t ↔ c.cmdLock = some t
  runRequestLock : c'.runRequestLock = some t ↔ c.runRequestLock = some t
  latched : c.cmdLock = some t → c.state = .faultLatched →
    c'.state = .faultLatched
  faults : c.cmdLock = some t → ∀ source,
    .faultRequested source ∈ added c.journal c'.journal →
      c'.state = .faultLatched
  sources : c.cmdLock = some t → c.state = .faultLatched →
    ∀ source ∈ c'.faultSources, source ∈ c.faultSources ∨
      .faultRequested source ∈ added c.journal c'.journal
  grows : c.cmdLock = some t → c.state = .faultLatched →
    c.faultSources ⊆ c'.faultSources
  locked : c.cmdLock = some t →
    ∀ n ∈ added c.journal c'.journal, n.locked = false
  warned : c.cmdLock = some t → c.WarningKept → c'.WarningKept
  active : c.runRequestLock = some t → c'.activeSources ⊆ c.activeSources

theorem Drift.refl (t : Nat) (c : Control) : Drift t c c where
  journal := List.suffix_refl _
  own := by simp
  cmdLock := Iff.rfl
  runRequestLock := Iff.rfl
  latched := fun _ h => h
  faults := by simp
  sources := fun _ _ source h => Or.inl h
  grows := fun _ _ => Finset.Subset.refl _
  locked := by simp
  warned := fun _ h => h
  active := fun _ => Finset.Subset.refl _

theorem Drift.trans {a b c : Control} (hab : Drift t a b) (hbc : Drift t b c) :
    Drift t a c where
  journal := hab.journal.trans hbc.journal
  own := by
    intro n hn
    rcases (mem_added_trans hab.journal hbc.journal n).mp hn with h | h
    · exact hbc.own n h
    · exact hab.own n h
  cmdLock := hbc.cmdLock.trans hab.cmdLock
  runRequestLock := hbc.runRequestLock.trans hab.runRequestLock
  latched := fun hl hs =>
    hbc.latched (hab.cmdLock.mpr hl) (hab.latched hl hs)
  faults := by
    intro hl source hn
    rcases (mem_added_trans hab.journal hbc.journal _).mp hn with h | h
    · exact hbc.faults (hab.cmdLock.mpr hl) source h
    · exact hbc.latched (hab.cmdLock.mpr hl) (hab.faults hl source h)
  sources := by
    intro hl hs source hsource
    rcases hbc.sources (hab.cmdLock.mpr hl) (hab.latched hl hs) source hsource
      with h | h
    · rcases hab.sources hl hs source h with h | h
      · exact Or.inl h
      · exact Or.inr ((mem_added_trans hab.journal hbc.journal _).mpr
          (Or.inr h))
    · exact Or.inr ((mem_added_trans hab.journal hbc.journal _).mpr
        (Or.inl h))
  grows := fun hl hs => (hab.grows hl hs).trans
    (hbc.grows (hab.cmdLock.mpr hl) (hab.latched hl hs))
  locked := by
    intro hl n hn
    rcases (mem_added_trans hab.journal hbc.journal n).mp hn with h | h
    · exact hbc.locked (hab.cmdLock.mpr hl) n h
    · exact hab.locked hl n h
  warned := fun hl hw =>
    hbc.warned (hab.cmdLock.mpr hl) (hab.warned hl hw)
  active := fun hl =>
    (hbc.active (hab.runRequestLock.mpr hl)).trans (hab.active hl)

theorem Drift.keep {keep : Finset SmuChannel} {owners : Finset Nat}
    (hk : keep ⊆ c.activeSources) :
    Drift t c { c with activeSources := keep, stopOwners := owners } where
  journal := List.suffix_refl _
  own := by simp
  cmdLock := Iff.rfl
  runRequestLock := Iff.rfl
  latched := fun _ h => h
  faults := by simp
  sources := fun _ _ source h => Or.inl h
  grows := fun _ _ => Finset.Subset.refl _
  locked := by simp
  warned := fun _ h => h
  active := fun _ => hk

theorem Drift.note {n : Note} (hown : n.owner = some t → n.shared = true)
    (hfault : ∀ source, n ≠ .faultRequested source)
    (hlocked : c.cmdLock = some t → n.locked = false)
    (howed : c.cmdLock = some t → ∀ code, owed (n :: c.journal) = some code →
      owed c.journal = some code) : Drift t c (c.note n) where
  journal := List.suffix_cons _ _
  own := by
    intro m hm
    simp only [Control.note, added_cons, List.mem_singleton] at hm
    rw [hm]
    exact hown
  cmdLock := Iff.rfl
  runRequestLock := Iff.rfl
  latched := fun _ h => h
  faults := by
    intro _ source hm
    simp only [Control.note, added_cons, List.mem_singleton] at hm
    exact absurd hm.symm (hfault source)
  sources := fun _ _ source h => Or.inl h
  grows := fun _ _ => Finset.Subset.refl _
  locked := by
    intro hl m hm
    simp only [Control.note, added_cons, List.mem_singleton] at hm
    rw [hm]
    exact hlocked hl
  warned := fun hl hw code hc => hw code (howed hl code hc)
  active := fun _ => Finset.Subset.refl _

theorem Drift.giveUp (site : GiveUpSite) (c : Control) :
    Drift t c (c.giveUp site) :=
  Drift.note (by simp [Note.owner]) (by simp) (fun _ => rfl) fun _ _ h => h

theorem Drift.transition {after : SafetyState} {reason : TransitionReason}
    (hs : c.cmdLock = some t → c.state = .faultLatched →
      after = .faultLatched) : Drift t c (c.transition after reason) where
  journal := List.suffix_cons _ _
  own := by simp [Control.transition, Note.owner]
  cmdLock := Iff.rfl
  runRequestLock := Iff.rfl
  latched := hs
  faults := by simp [Control.transition]
  sources := fun _ _ source h => Or.inl h
  grows := fun _ _ => Finset.Subset.refl _
  locked := by simp [Control.transition, Note.locked]
  warned := fun _ h => h
  active := fun _ => Finset.Subset.refl _

theorem Drift.beginFaultLatch (reason : String) (source : FaultSource)
    (c : Control) : Drift t c (c.beginFaultLatch reason source) := by
  unfold Control.beginFaultLatch
  split
  · rename_i hs
    exact
      { journal := List.suffix_cons _ _
        own := by simp [Control.joinLatch, Note.owner]
        cmdLock := Iff.rfl
        runRequestLock := Iff.rfl
        latched := fun _ h => h
        faults := fun _ _ _ => hs
        sources := by
          intro _ _ other hother
          rcases Finset.mem_insert.mp hother with h | h
          · right
            simp [Control.joinLatch, h]
          · exact Or.inl h
        grows := fun _ _ => Finset.subset_insert _ _
        locked := by simp [Control.joinLatch, Note.locked]
        warned := fun _ h => h
        active := fun _ => Finset.Subset.refl _ }
  · rename_i hs
    exact
      { journal :=
          (List.suffix_cons _ _).trans ((List.suffix_cons _ _).trans
            (List.suffix_cons _ _))
        own := by
          simp [Control.enterLatch, Control.transition, Control.registerAbortIntent, Control.note,
            Note.owner]
        cmdLock := Iff.rfl
        runRequestLock := Iff.rfl
        latched := fun _ h => absurd h hs
        faults := fun _ _ _ => rfl
        sources := fun _ h => absurd h hs
        grows := fun _ h => absurd h hs
        locked := by
          simp [Control.enterLatch, Control.transition, Control.registerAbortIntent, Control.note,
            Note.locked]
        warned := by
          intro _ _ code hc
          cases hc
        active := fun _ => Finset.Subset.refl _ }

theorem Move.drift (h : Move u c c') : Drift t c c' := by
  cases h with
  | note n hplain hj =>
      refine Drift.note ?_ ?_ ?_ ?_ <;>
        cases n <;> simp_all [PlainNote, Note.owner, Note.shared, Note.locked, owed]
  | abort full =>
      exact
        { journal := List.suffix_cons _ _
          own := by simp [Control.registerAbortIntent, Note.owner]
          cmdLock := Iff.rfl
          runRequestLock := Iff.rfl
          latched := fun _ h => h
          faults := by simp [Control.registerAbortIntent]
          sources := fun _ _ source h => Or.inl h
          grows := fun _ _ => Finset.Subset.refl _
          locked := by simp [Control.registerAbortIntent, Note.locked]
          warned := by
            intro _ _ code hc
            cases hc
          active := fun _ => Finset.Subset.refl _ }
  | announce => exact Drift.keep (Finset.Subset.refl _)
  | settleStop _ => exact Drift.keep (Finset.Subset.refl _)
  | leaveStop site =>
      unfold Control.leaveStop
      split
      · exact (Drift.keep (Finset.Subset.refl _)).trans (Drift.giveUp site _)
      · exact .refl t c
  | dropStopped channels => exact Drift.keep Finset.sdiff_subset
  | keepSources site keep hk =>
      exact (Drift.keep hk).trans (Drift.giveUp site _)
  | beginFaultLatch reason source => exact Drift.beginFaultLatch reason source c
  | keepAndMove keep after reason hk hs hto =>
      exact (Drift.keep hk).trans
        (Drift.transition fun _ hl => absurd hl hs)

theorem Own.drift (h : Own u c c') (hne : u ≠ t) : Drift t c c' := by
  have hother : c.cmdLock = some u → c.cmdLock ≠ some t := by
    intro hu ht
    rw [hu] at ht
    exact hne (Option.some.inj ht)
  cases h with
  | takeCmdLock hl =>
      exact { Drift.refl t c with
        cmdLock := by simp [Control.takeCmdLock, hl, hne]
        latched := fun _ h => h
        warned := fun _ h => h }
  | releaseCmdLock hl hw =>
      exact { Drift.refl t c with
        cmdLock := by simp [Control.releaseCmdLock, hother hl]
        latched := fun _ h => h
        warned := fun _ h => h }
  | takeRunRequestLock hl =>
      exact { Drift.refl t c with
        runRequestLock := by simp [Control.takeRunRequestLock, hl, hne] }
  | releaseRunRequestLock hl =>
      exact { Drift.refl t c with
        runRequestLock := by simp [Control.releaseRunRequestLock, hl, hne] }
  | note n hown hlocked hj howed =>
      refine Drift.note ?_ ?_ ?_ fun _ => howed
      · intro ht
        rw [hown] at ht
        exact absurd (Option.some.inj ht) hne
      · rintro source rfl
        cases hown
      · intro ht
        by_contra hlk
        exact hother (hlocked (by simpa using hlk)) ht
  | dropStaleWarning generation hl hg =>
      unfold Control.dropStaleWarning
      split
      · split
        · exact Drift.refl t c
        · exact { Drift.refl t c with
            warned := fun ht => absurd ht (hother hl) }
      · exact Drift.refl t c
  | takeWarning warning hl =>
      unfold Control.takeWarning
      split
      · exact { Drift.refl t c with
          warned := fun ht => absurd ht (hother hl) }
      · exact Drift.refl t c
  | consumeLatch generation recovered warning hl hs hsources hcode =>
      exact
        { journal := (List.suffix_cons _ _).trans (List.suffix_cons _ _)
          own := by
            simp [Control.consumeLatch, Control.transition, Note.owner, hne]
          cmdLock := Iff.rfl
          runRequestLock := Iff.rfl
          latched := fun ht => absurd ht (hother hl)
          faults := fun ht => absurd ht (hother hl)
          sources := fun ht => absurd ht (hother hl)
          grows := fun ht => absurd ht (hother hl)
          locked := fun ht => absurd ht (hother hl)
          warned := fun ht => absurd ht (hother hl)
          active := fun _ => Finset.Subset.refl _ }
  | permitRun reason hl hs =>
      exact Drift.transition fun ht => absurd ht (hother hl)
  | commitSource channel pTarget hl hr hs =>
      have hrun : c.runRequestLock ≠ some t := by
        rw [hr]
        simpa using hne
      unfold Control.commitSource
      split
      · exact { Drift.refl t c with
          latched := fun _ h => h
          warned := fun _ h => h
          active := fun ht => absurd ht hrun }
      · exact
          { journal := List.suffix_cons _ _
            own := by simp [Control.transition, Note.owner]
            cmdLock := Iff.rfl
            runRequestLock := Iff.rfl
            latched := fun ht => absurd ht (hother hl)
            faults := fun ht => absurd ht (hother hl)
            sources := fun ht => absurd ht (hother hl)
            grows := fun ht => absurd ht (hother hl)
            locked := fun ht => absurd ht (hother hl)
            warned := fun ht => absurd ht (hother hl)
            active := fun ht => absurd ht hrun }
  | acknowledge text hl =>
      exact
        { journal := (List.suffix_cons _ _).trans (List.suffix_cons _ _)
          own := by
            simp [Control.transition, Control.note, Note.owner, hne]
          cmdLock := Iff.rfl
          runRequestLock := Iff.rfl
          latched := fun ht => absurd ht (hother hl)
          faults := fun ht => absurd ht (hother hl)
          sources := fun ht => absurd ht (hother hl)
          grows := fun ht => absurd ht (hother hl)
          locked := fun ht => absurd ht (hother hl)
          warned := fun ht => absurd ht (hother hl)
          active := fun _ => Finset.Subset.refl _ }

theorem Step.drift (h : Step u c c') (hne : u ≠ t) : Drift t c c' := by
  cases h with
  | move hm => exact hm.drift
  | own ho => exact ho.drift hne

theorem Step.stopOwners (h : Step u c c') (hne : u ≠ t) :
    t ∈ c'.stopOwners ↔ t ∈ c.stopOwners := by
  cases h with
  | move hm =>
      cases hm with
      | note n _ _ => exact Iff.rfl
      | abort full => exact Iff.rfl
      | announce => simp [announce, Ne.symm hne]
      | settleStop _ => simp [settleStop, Ne.symm hne]
      | leaveStop site =>
          unfold leaveStop
          split <;> simp [settleStop, giveUp, note, Ne.symm hne]
      | dropStopped channels => simp [dropStopped, announce, Ne.symm hne]
      | keepSources site keep _ => exact Iff.rfl
      | beginFaultLatch reason source =>
          unfold beginFaultLatch
          split <;> exact Iff.rfl
      | keepAndMove keep after reason _ _ _ => exact Iff.rfl
  | own ho =>
      cases ho with
      | dropStaleWarning generation _ _ =>
          unfold dropStaleWarning
          split
          · split <;> exact Iff.rfl
          · exact Iff.rfl
      | takeWarning warning _ =>
          unfold takeWarning
          split <;> exact Iff.rfl
      | commitSource channel pTarget _ _ _ =>
          unfold commitSource
          split <;> exact Iff.rfl
      | _ => exact Iff.rfl

end Control

end Safety
end CryoDaq
