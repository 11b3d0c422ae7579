import CryoDaq.Experiments.Threads

/-!
# What the running manager reports

A running manager reports its mode, its active experiment and its revision from
memory.  Between two operations, and without a pending journal, they are what
the state file says and what a manager would report that is constructed over the
directory at that moment.

**The mode.**  `set_app_mode` assigns the mode before it writes the state file.
A write that raises leaves the assignment, and the same call then returns without
a write.
-/

namespace CryoDaq
namespace Experiments

open Async Op

variable {δ κ α : Type}

/-- Nothing else happens and nothing raises. -/
def calmly (op : Op δ κ α) (w : World δ κ) : Except Failure α × World δ κ :=
  op.alone (fun _ => .done) w

/-- What the manager reports: `app_mode`, `active_experiment_id` and the revision. -/
def World.reports (w : World δ κ) : AppMode × Option String × ℕ :=
  (w.memory.state.appMode, w.activeExperimentId, w.memory.stateRevision)

def StateFile.says (f : StateFile δ) : AppMode × Option String × ℕ :=
  (f.appMode, f.activeExperimentId, f.revision)

variable (S : Setting δ κ) [DecidableEq δ]

/-- A manager constructed over a directory by a new process. -/
def constructed (d : Disk δ κ) (incarnation : String) :
    Except Failure Unit × World δ κ :=
  calmly (construct S 0 incarnation) { World.offline d [] [] with started := true }

structure Agrees (w : World δ κ) : Prop where
  file : ∃ f, w.disk.state = some f ∧ w.reports = f.says
  restart : ∀ incarnation, (constructed S w.disk incarnation).1 = .ok () ∧
    (constructed S w.disk incarnation).2.reports = w.reports ∧
    (constructed S w.disk incarnation).2.disk = w.disk
  repeated : ∀ t raw next w', normalizeAppMode raw = .ok next →
    calmly (setAppMode S t raw) w = (.ok (), w') → w'.disk.state = w.disk.state →
      ∃ f, w.disk.state = some f ∧ f.appMode = next

variable {S}

section Calm

variable {f : StateFile δ} {w w' : World δ κ} {t : ℕ} {l : Lock}

theorem calmly_loadStateAuthority (hf : w.disk.state = some f)
    (hvalid : stateFileRefusal S f = none) :
    calmly (loadStateAuthority S) w =
      (.ok (), { w with memory := loadedMemory f w.memory }) := by
  unfold loadStateAuthority calmly
  refine (Coro.alone_bind_ok (c := Coro.read) rfl _).trans ?_
  rw [hf]
  dsimp only
  rw [hvalid]
  rfl

theorem calmly_recoverTransition (hj : w.disk.journal = none) :
    calmly (recoverTransition S t) w = (.ok (), w) := by
  unfold recoverTransition calmly
  refine (Coro.alone_bind_ok (c := Coro.read) rfl _).trans ?_
  rw [hj]
  rfl

theorem calmly_loadState (hs : Settled S w.disk f) (hnone : w.memory.active = none) :
    calmly (loadState S t) w =
      (.ok (), { w with
        memory := { loadedMemory f w.memory with active := w.disk.activeRecord f } }) := by
  unfold loadState calmly
  refine (Coro.alone_bind_ok (calmly_loadStateAuthority hs.state hs.valid) _).trans ?_
  refine (Coro.alone_bind_ok (c := Coro.read) rfl _).trans ?_
  have hstate : (loadedMemory f w.memory).state.activeExperimentId = f.activeExperimentId := rfl
  dsimp only
  rw [hstate]
  cases hid : f.activeExperimentId with
  | none =>
      have hrecord : w.disk.activeRecord f = none := by
        unfold Disk.activeRecord
        rw [hid]
        rfl
      rw [hrecord]
      have hactive : (loadedMemory f w.memory).active = none := hnone
      unfold loadedMemory
      rw [hnone]
      rfl
  | some id =>
      obtain ⟨i, hread, hrecord, hrunning, _⟩ := hs.read hid
      dsimp only
      rw [hread, hrecord]
      refine (Coro.alone_bind_ok (c := Coro.ofExcept (.ok (some i))) rfl _).trans ?_
      dsimp only
      rw [if_pos hrunning]
      rfl

omit [DecidableEq δ] in
theorem calmly_underLock {body : Op δ κ α} {r : Except Failure α}
    (h : calmly body (w.setOwner l (some t)) = (r, w')) :
    calmly (underLock t l body) w = (r, w'.setOwner l none) := by
  unfold underLock calmly
  refine (Coro.alone_bind_ok (c := Coro.update _) rfl _).trans ?_
  refine (Coro.alone_attempt h _).trans ?_
  cases r <;> rfl

omit [DecidableEq δ] in
theorem core_setOwner (w : World δ κ) (o : Option ℕ) : (w.setOwner l o).core = w.core := by
  cases l <;> rfl

omit [DecidableEq δ] in
theorem calmly_withLock {body : Op δ κ α} {a : α}
    (h : calmly (withLock t l body) w = (.ok a, w')) :
    ∃ w₁ w₂, w₁.core = w.core ∧ calmly body w₁ = (.ok a, w₂) ∧ w'.core = w₂.core := by
  by_cases hown : w.owner l = some t
  · have hbody : calmly (withLock t l body) w = calmly body w := by
      change Coro.alone _ (if w.owner l = some t then body else _) w = _
      rw [if_pos hown]
      rfl
    exact ⟨w, w', rfl, hbody.symm.trans h, rfl⟩
  · have hbody : calmly (withLock t l body) w = calmly (underLock t l body) w := by
      change Coro.alone _ (if w.owner l = some t then body else _) w = _
      rw [if_neg hown]
      rfl
    rcases hrun : calmly body (w.setOwner l (some t)) with ⟨r, w₂⟩
    have hall := (calmly_underLock hrun).symm.trans (hbody.symm.trans h)
    obtain ⟨rfl, rfl⟩ := Prod.mk.inj hall
    exact ⟨_, w₂, core_setOwner w _, hrun, core_setOwner w₂ _⟩

theorem calmly_serialized {method : Op δ κ α} {a : α} (hj : w.disk.journal = none)
    (h : calmly (serializedLifecycleMutation S t method) w = (.ok a, w')) :
    ∃ w₁ w₂, w₁.core = w.core ∧ calmly method w₁ = (.ok a, w₂) ∧ w'.core = w₂.core := by
  obtain ⟨w₁, w₂, h₁, hrun, h₂⟩ := calmly_withLock h
  have hj₁ : w₁.disk.journal = none := (congrArg (fun c => c.disk.journal) h₁).trans hj
  have hbody := (Coro.alone_bind_ok (calmly_recoverTransition (S := S) (t := t) hj₁) _).symm.trans
    hrun
  obtain ⟨w₃, w₄, h₃, hinner, h₄⟩ := calmly_withLock hbody
  obtain ⟨_, w₅, hcheck, hmethod⟩ := Coro.alone_bind_cases hinner
  obtain ⟨w₆, w₇, h₆, hread, h₇⟩ := calmly_withLock hcheck
  have hsame : w₇ = w₆ := by
    obtain ⟨w₈, w₉, hw, hif⟩ := Coro.alone_bind_cases hread
    obtain ⟨hread₈, rfl⟩ := Prod.mk.inj hw
    obtain rfl := Except.ok.inj hread₈
    split at hif
    · cases hif
    · exact (Prod.mk.inj hif).2.symm
  subst hsame
  exact ⟨w₅, w₄, (h₇.trans h₆).trans (h₃.trans h₁), hmethod, h₂.trans h₄⟩

theorem calmly_construct {d : Disk δ κ} (hs : Settled S d f) (hj : d.journal = none)
    (incarnation : String) :
    ∃ w, constructed S d incarnation = (.ok (), w) ∧ w.disk = d ∧
      w.memory = { loadedMemory f (World.freshMemory incarnation) with
        active := d.activeRecord f } := by
  generalize hw₀ : ({ World.offline d [] [] with started := true } : World δ κ) = w₀
  have hdisk₀ : w₀.disk = d := by rw [← hw₀]; rfl
  generalize hw₁ : ({ w₀.setOwner .lifecycle (some 0) with
      memory := World.freshMemory incarnation } : World δ κ) = w₁
  have hdisk₁ : w₁.disk = d := by rw [← hw₁, ← hdisk₀]; rfl
  have hmemory₁ : w₁.memory = World.freshMemory incarnation := by rw [← hw₁]
  rw [← hdisk₁] at hs hj
  have hload := calmly_loadStateAuthority (w := w₁) hs.state hs.valid
  generalize hw₂ : ({ w₁ with memory := loadedMemory f w₁.memory } : World δ κ) = w₂ at hload
  have hdisk₂ : w₂.disk = w₁.disk := by rw [← hw₂]
  have hmemory₂ : w₂.memory = loadedMemory f w₁.memory := by rw [← hw₂]
  have hactive₂ : w₂.memory.active = none := by rw [hmemory₂, hmemory₁]; rfl
  rw [← hdisk₂] at hs hj
  have hrecover := calmly_recoverTransition (S := S) (t := 0) hj
  have hstate := calmly_loadState (t := 0) hs hactive₂
  generalize hw₃ : ({ w₂ with memory :=
    { loadedMemory f w₂.memory with active := w₂.disk.activeRecord f } } : World δ κ) = w₃
    at hstate
  have hremember : calmly (remember fun _ => World.freshMemory incarnation)
      (w₀.setOwner .lifecycle (some 0)) = (.ok (), w₁) := by
    rw [← hw₁]
    rfl
  unfold constructed construct
  rw [hw₀]
  refine ⟨({ w₃ with ready := true } : World δ κ).setOwner .lifecycle none,
    calmly_underLock ?_, ?_, ?_⟩
  · refine (Coro.alone_bind_ok hremember _).trans ?_
    refine (Coro.alone_bind_ok hload _).trans ?_
    refine (Coro.alone_bind_ok hrecover _).trans ?_
    exact Coro.alone_bind_ok hstate _
  · rw [← hw₃]
    exact hdisk₂.trans hdisk₁
  · rw [← hw₃]
    change { loadedMemory f w₂.memory with active := w₂.disk.activeRecord f } = _
    rw [hmemory₂, hmemory₁, hdisk₂, hdisk₁]
    rfl

omit [DecidableEq δ] in
theorem activeExperimentId_visible (w : World δ κ) :
    w.activeExperimentId = w.memory.visible.active.map ExperimentInfo.experimentId := by
  unfold World.activeExperimentId Memory.visible
  rw [Option.map_map]
  rfl

theorem Settled.activeRecord_id {d : Disk δ κ} (hs : Settled S d f) :
    (d.activeRecord f).map ExperimentInfo.experimentId = f.activeExperimentId := by
  cases hid : f.activeExperimentId with
  | none =>
      unfold Disk.activeRecord
      rw [hid]
      rfl
  | some id =>
      obtain ⟨i, _, hrecord, _, _, hi, _⟩ := hs.read hid
      rw [hrecord]
      exact congrArg some hi

theorem Idle.activeExperimentId (h : Idle S w.core f) :
    w.activeExperimentId = f.activeExperimentId := by
  have hagrees : w.memory.visible.active = w.disk.activeRecord f := h.active
  rw [activeExperimentId_visible, hagrees]
  exact h.settled.activeRecord_id

theorem Idle.reports (h : Idle S w.core f) (hfailed : w.modeWriteFailed = false) :
    w.reports = f.says := by
  have hstate : loadedMemory f w.memory = w.memory := h.state hfailed
  unfold World.reports StateFile.says
  rw [h.activeExperimentId, ← hstate]
  rfl

theorem Idle.restart (h : Idle S w.core f) (hfailed : w.modeWriteFailed = false)
    (incarnation : String) :
    (constructed S w.disk incarnation).1 = .ok () ∧
      (constructed S w.disk incarnation).2.reports = w.reports ∧
      (constructed S w.disk incarnation).2.disk = w.disk := by
  obtain ⟨w', hrun, hdisk, hmemory⟩ := calmly_construct (S := S) h.settled h.journal incarnation
  have hid : w'.activeExperimentId = f.activeExperimentId := by
    unfold World.activeExperimentId
    rw [hmemory]
    exact h.settled.activeRecord_id
  refine ⟨congrArg Prod.fst hrun, ?_, ?_⟩
  · rw [h.reports hfailed]
    have hworld : (constructed S w.disk incarnation).2 = w' := congrArg Prod.snd hrun
    rw [hworld]
    unfold World.reports StateFile.says
    rw [hid, hmemory]
    rfl
  · exact (congrArg (fun r => r.2.disk) hrun).trans hdisk

theorem Idle.repeated (h : Idle S w.core f) (hfailed : w.modeWriteFailed = false) {raw : String}
    {next : AppMode} (hnext : normalizeAppMode raw = .ok next)
    (hrun : calmly (setAppMode S t raw) w = (.ok (), w'))
    (hdisk : w'.disk.state = w.disk.state) : f.appMode = next := by
  have hj : w.disk.journal = none := h.journal
  have hfile : w.disk.state = some f := h.settled.state
  have hstate : loadedMemory f w.memory = w.memory := h.state hfailed
  obtain ⟨w₁, w₂, h₁, hmethod, h₂⟩ := calmly_serialized hj hrun
  have hmemory₁ : w₁.memory = w.memory := congrArg Core.memory h₁
  have hmode : w₁.memory.state.appMode = f.appMode := by
    rw [hmemory₁, ← hstate]
    rfl
  rw [hnext] at hmethod
  obtain ⟨_, w₃, hofExcept, hmethod⟩ := Coro.alone_bind_cases hmethod
  obtain ⟨hvalue, rfl⟩ := Prod.mk.inj hofExcept
  obtain rfl := Except.ok.inj hvalue
  obtain ⟨_, w₄, hread, hmethod⟩ := Coro.alone_bind_cases hmethod
  obtain ⟨hvalue, rfl⟩ := Prod.mk.inj hread
  obtain rfl := Except.ok.inj hvalue
  split at hmethod
  · cases hmethod
  · split at hmethod
    · rename_i hsame
      exact hmode.symm.trans hsame.symm
    · -- The write happened, so the file already had the mode.
      have hwritten : w₂.disk.state = some (({ w₁.memory with
          state := ⟨next, w₁.memory.state.activeExperimentId⟩ } : Memory δ).stateFile S
            (w₁.memory.stateRevision + 1) none) := by
        rw [← (Prod.mk.inj hmethod).2]
        rfl
      have hdisk₂ : w'.disk.state = w₂.disk.state := congrArg (fun c => c.disk.state) h₂
      rw [hdisk₂, hwritten, hfile] at hdisk
      exact (congrArg StateFile.appMode (Option.some.inj hdisk)).symm

end Calm

/-- Nothing is under way: no operation and no transition. -/
structure AtRest (w : World δ κ) : Prop where
  ready : w.ready = true
  unlocked : w.lifecycleLock = none
  journal : w.disk.journal = none

/-- A manager whose writes of the mode have not raised agrees with the directory
whenever nothing is under way, and reports the same as long as the state file is
the same. -/
theorem manager_agrees {w : World δ κ} (hw : Lives S w) {p : Pool (World δ κ) Wait Answer Failure}
    (hp : (manager S).Reachable w p) (hrest : AtRest p.state)
    (hfailed : p.state.modeWriteFailed = false) :
    Agrees S p.state ∧ ∀ q, (manager S).Reachable w q → AtRest q.state →
      q.state.modeWriteFailed = false → q.state.disk.state = p.state.disk.state →
        q.state.reports = p.state.reports := by
  have hidle : ∀ q, (manager S).Reachable w q → AtRest q.state → ∃ f, Idle S q.state.core f :=
    fun q hq hr => ((hw.inv hq).quiet hr.unlocked hr.ready).idle hr.journal
  obtain ⟨f, hf⟩ := hidle p hp hrest
  constructor
  · refine ⟨⟨f, hf.settled.state, hf.reports hfailed⟩, hf.restart hfailed, ?_⟩
    intro t raw next w' hnext hrun hdisk
    exact ⟨f, hf.settled.state, hf.repeated hfailed hnext hrun hdisk⟩
  · intro q hq hrest' hfailed' hsame
    obtain ⟨g, hg⟩ := hidle q hq hrest'
    have hfile : some g = some f :=
      hg.settled.state.symm.trans (hsame.trans hf.settled.state)
    rw [hg.reports hfailed', hf.reports hfailed, Option.some.inj hfile]

def observeRest (p : Pool (World (List String) Unit) Wait Answer Failure) :
    Bool × Option ℕ × Bool × Bool × AppMode × Option AppMode :=
  (p.state.ready, p.state.lifecycleLock, p.state.disk.journal.isNone, p.state.modeWriteFailed,
    p.state.memory.state.appMode, p.state.disk.state.map StateFile.appMode)

/-- A manager that has started an experiment. -/
theorem manager_agrees_started : ∃ p, (manager bench).Reachable World.empty p ∧
    p.state.memory.state.appMode = .experiment ∧ Agrees bench p.state := by
  have hrun : ((manager bench).replay (Pool.initial World.empty) startExperiment).map observeRest =
      some (true, none, true, false, .experiment, some .experiment) := by rfl
  obtain ⟨p, hp, hobserved⟩ := Option.map_eq_some_iff.mp hrun
  simp only [observeRest, Prod.mk.injEq] at hobserved
  obtain ⟨hready, hlock, hjournal, hfailed, hmode, _⟩ := hobserved
  have hreach := (manager bench).reachable_replay startExperiment .initial hp
  exact ⟨p, hreach, hmode, (manager_agrees .empty hreach
    ⟨hready, hlock, Option.isNone_iff_eq_none.mp hjournal⟩ hfailed).1⟩

/-- A change of the mode whose write raises and has not happened. -/
def modeNotWritten : List (Move Answer (Call Unit) Empty) :=
  [.launch (.construct "manager")] ++ done 0 1 ++ [.launch (.setAppMode "debug")] ++ done 1 2 ++
    [failed 1]

/-- The manager reports the new mode, the state file the old one. -/
theorem manager_disagrees :
    ¬ ∀ p, (manager bench).Reachable World.empty p → AtRest p.state → Agrees bench p.state := by
  intro h
  have hrun : ((manager bench).replay (Pool.initial World.empty) modeNotWritten).map observeRest =
      some (true, none, true, true, .debug, some .experiment) := by rfl
  obtain ⟨p, hp, hobserved⟩ := Option.map_eq_some_iff.mp hrun
  simp only [observeRest, Prod.mk.injEq] at hobserved
  obtain ⟨hready, hlock, hjournal, _, hmode, hfile⟩ := hobserved
  have hreach := (manager bench).reachable_replay modeNotWritten .initial hp
  obtain ⟨f, hf, hreports⟩ := (h p hreach
    ⟨hready, hlock, Option.isNone_iff_eq_none.mp hjournal⟩).file
  rw [hf] at hfile
  have hsays : p.state.memory.state.appMode = f.appMode := congrArg Prod.fst hreports
  rw [hmode, Option.some.inj hfile] at hsays
  cases hsays

end Experiments
end CryoDaq
