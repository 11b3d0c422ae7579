import CryoDaq.Supervision.Hold

/-!
# Runs of the supervisor

**What holds.**  While the engine is live every registered name has one place: a
task whose done callback is to come, or a restart timer; or its FAULT was latched
(`Supervised.placed`).  What a done callback sets off depends on the run lengths
of the name (`Exit.Proper`): the latch comes when this incarnation and the one
before it lived under the window, and there was one more before.

**Shutdown.**  After `stop` nothing starts, and the shutdown of the safety manager
holds the process (`Hold.Held`).

**Counting.**  `inRow` counts the terminations since the last one that reset the
count.  The power of two in the delay is a float up to 1024 of them.
-/

namespace CryoDaq
namespace Supervision

/-- The run lengths of a name while the engine was live, the latest first. -/
def lives (name : String) (exits : List Exit) : List Timestamp :=
  (exits.filter fun e => e.name = name ∧ e.stopping = false).map Exit.lived

/-- The terminations since the last one that reset the count. -/
def inRow : List Timestamp → ℕ
  | [] => 0
  | lived :: rest => if superviseResetWindow ≤ lived then 1 else inRow rest + 1

/-- This incarnation and the one before lived under the window, and there was one more. -/
def TwoShort (lived : Timestamp) (earlier : List Timestamp) : Prop :=
  lived < superviseResetWindow ∧
    ∃ last before rest, earlier = last :: before :: rest ∧ last < superviseResetWindow

def Exit.LatchDue (e : Exit) (earlier : List Exit) : Prop :=
  e.safetyCritical = true ∧ TwoShort e.lived (lives e.name earlier)

def Exit.row (e : Exit) (earlier : List Exit) : ℕ := inRow (e.lived :: lives e.name earlier)

/-- What a done callback sets off. -/
structure Exit.Proper (e : Exit) (earlier : List Exit) : Prop where
  /-- exactly one alarm, also past the last power of two -/
  alarmed : e.stopping = false → ∃ rest,
    e.effects = .alarm e.name (e.outcome.exc e.name) :: rest ∧ ∀ name exc, .alarm name exc ∉ rest
  latched : e.stopping = false → e.LatchDue earlier →
    e.effects = [.alarm e.name (e.outcome.exc e.name), .faultLatch e.name (e.outcome.exc e.name)]
  restarted : e.stopping = false → ¬ e.LatchDue earlier → e.row earlier ≤ 1024 →
    ∃ delay ≤ superviseBackoffMaxS,
      e.effects = [.alarm e.name (e.outcome.exc e.name), .restart delay]
  expected : e.stopping = true →
    e.safetyCritical = false ∨ (e.outcome = .cancelled ∧ e.owned = true) → e.effects = []
  unexpected : e.stopping = true → e.safetyCritical = true →
    ¬ (e.outcome = .cancelled ∧ e.owned = true) →
    e.effects = [.alarm e.name (e.outcome.exc e.name), .faultLatch e.name (e.outcome.exc e.name)]

def World.Placed (w : World) (name : String) : Prop :=
  (∃ t ∈ w.tasks, t.name = name ∧ t.status ≠ .settled) ∨ ∃ t ∈ w.timers, t.name = name

/-- The latch of the name was requested, or it terminated too often in a row. -/
def World.Ended (w : World) (name : String) : Prop :=
  ∃ e earlier, (e :: earlier) <:+ w.exits ∧ e.name = name ∧ e.stopping = false ∧
    (e.LatchDue earlier ∨ 1024 < e.row earlier)

def World.started (w : World) : ℕ := w.tasks.countP Incarnation.created

structure Supervised (w : World) : Prop where
  exits : ∀ e earlier, (e :: earlier) <:+ w.exits → e.Proper earlier
  one : ∀ name, w.tasks.countP (fun t => t.name = name ∧ t.status = .alive) ≤ 1
  placed : w.supervisor.engineStopping = false → ∀ name,
    (w.supervisor.supervisedTasks.get? name).isSome = true → w.Placed name ∨ w.Ended name
  timers : ∀ t ∈ w.timers, t.due ≤ w.now + 1000000 * superviseBackoffMaxS
  frozen : w.supervisor.engineStopping = true → ∀ c, w.Enabled c →
    (w.after c).supervisor.engineStopping = true ∧ (w.after c).started = w.started

theorem third_iff {lived : Timestamp} {earlier : List Timestamp} :
    TwoShort lived earlier ↔ safetyTaskMaxRestarts < inRow (lived :: earlier) := by
  unfold TwoShort safetyTaskMaxRestarts
  constructor
  · rintro ⟨hlived, last, before, rest, rfl, hlast⟩
    have hbefore : 0 < inRow (before :: rest) := by
      rw [inRow]
      split <;> omega
    rw [inRow, if_neg (not_le.mpr hlived), inRow, if_neg (not_le.mpr hlast)]
    omega
  · intro h
    rw [inRow] at h
    split at h
    · omega
    · rename_i hlived
      cases earlier with
      | nil =>
          rw [inRow] at h
          omega
      | cons last rest =>
          rw [inRow] at h
          split at h
          · omega
          · rename_i hlast
            cases rest with
            | nil =>
                rw [inRow] at h
                omega
            | cons before rest =>
                exact ⟨not_le.mp hlived, last, before, rest, rfl, not_le.mp hlast⟩

theorem nextCount_eq {counts : Dict String ℕ} {name : String} {running : Timestamp}
    {earlier : List Timestamp} (h : (counts.get? name).getD 0 = inRow earlier) :
    nextCount counts name running = inRow (running :: earlier) := by
  rw [nextCount, inRow, h]
  split <;> rfl

theorem backoff_ok {count delay : ℕ} (h : backoff count = .ok delay) :
    delay ≤ superviseBackoffMaxS := by
  unfold backoff at h
  split at h
  · rw [← Except.ok.inj h]
    exact Nat.min_le_right _ _
  · cases h

theorem backoff_error {count : ℕ} {e : PyError} (h : backoff count = .error e) : 1024 < count := by
  unfold backoff at h
  split at h
  · cases h
  · omega

section Decision

variable {name : String} {outcome : Outcome} {counts : Dict String ℕ} {running : Timestamp}

theorem exit_stopping {safetyCritical faultImmediately : Bool} :
    handleSupervisedTaskExit name outcome true counts safetyCritical running faultImmediately =
      (counts, [], .ok .ignored) := rfl

theorem exit_immediately :
    handleSupervisedTaskExit name outcome false counts true running true =
      (counts, [.alarm name (outcome.exc name), .faultLatch name (outcome.exc name)],
        .ok .faultLatch) := rfl

theorem exit_counts {safetyCritical : Bool} :
    (handleSupervisedTaskExit name outcome false counts safetyCritical running false).1 =
      counts.set name (nextCount counts name running) := by
  unfold handleSupervisedTaskExit
  simp only [Bool.and_false, Bool.false_eq_true, if_false]
  split
  · rfl
  · split <;> rfl

theorem exit_latch {safetyCritical : Bool} (hsafety : safetyCritical = true)
    (hcount : safetyTaskMaxRestarts < nextCount counts name running) :
    (handleSupervisedTaskExit name outcome false counts safetyCritical running false).2.1 =
      [.alarm name (outcome.exc name), .faultLatch name (outcome.exc name)] := by
  unfold handleSupervisedTaskExit
  simp [hsafety, hcount]

theorem exit_restart {safetyCritical : Bool}
    (hlatch : ¬ (safetyCritical = true ∧ safetyTaskMaxRestarts < nextCount counts name running))
    {delay : ℕ} (hdelay : backoff (nextCount counts name running) = .ok delay) :
    (handleSupervisedTaskExit name outcome false counts safetyCritical running false).2.1 =
      [.alarm name (outcome.exc name), .restart delay] := by
  unfold handleSupervisedTaskExit
  simp only [Bool.and_false, Bool.false_eq_true, if_false, hdelay]
  rw [if_neg]
  simpa using hlatch

theorem exit_overflow {safetyCritical : Bool}
    (hlatch : ¬ (safetyCritical = true ∧ safetyTaskMaxRestarts < nextCount counts name running))
    {e : PyError} (hdelay : backoff (nextCount counts name running) = .error e) :
    (handleSupervisedTaskExit name outcome false counts safetyCritical running false).2.1 =
      [.alarm name (outcome.exc name)] := by
  unfold handleSupervisedTaskExit
  simp only [Bool.and_false, Bool.false_eq_true, if_false, hdelay]
  rw [if_neg]
  simpa using hlatch

end Decision

/-- The tasks of a name before their done callback, and its restart timers. -/
def World.places (w : World) (name : String) : ℕ :=
  w.tasks.countP (fun t => t.name = name ∧ t.status ≠ .settled) +
    w.timers.countP (fun t => t.name = name)

/-- What holds in every reached world; `missing` has lost its timer and has no task yet. -/
structure Inv (w : World) (missing : Option String) : Prop where
  free : ∀ name, w.supervisor.supervisedTasks.get? name = none → w.places name = 0
  one : ∀ name, w.places name ≤ 1
  placed : w.supervisor.engineStopping = false → ∀ name, missing ≠ some name →
    (w.supervisor.supervisedTasks.get? name).isSome = true → 1 ≤ w.places name ∨ w.Ended name
  counts : ∀ name, (w.supervisor.restarts.get? name).getD 0 = inRow (lives name w.exits)
  since : ∀ t ∈ w.tasks, t.status ≠ .settled →
    w.supervisor.spawnTimes.get? t.name = some t.since
  timers : ∀ t ∈ w.timers, t.due ≤ w.now + 1000000 * superviseBackoffMaxS
  exits : ∀ e earlier, (e :: earlier) <:+ w.exits → e.Proper earlier

theorem at_place {α : Type} {xs : List α} {i : ℕ} {x : α} (h : xs[i]? = some x) :
    ∃ l r, xs = l ++ x :: r ∧ (∀ y, xs.set i y = l ++ y :: r) ∧ xs.eraseIdx i = l ++ r := by
  induction xs generalizing i with
  | nil => simp at h
  | cons first rest ih =>
      cases i with
      | zero =>
          have hx : first = x := by simpa using h
          subst hx
          exact ⟨[], rest, rfl, fun _ => rfl, rfl⟩
      | succ i =>
          obtain ⟨l, r, hrest, hset, herase⟩ := ih (by simpa using h)
          refine ⟨first :: l, r, by rw [hrest]; rfl, fun y => ?_, ?_⟩
          · simp [hset]
          · simp [herase]

section Invariant

variable {w : World} {name : String} {missing : Option String}

theorem inv_init : Inv {} none where
  free := fun _ _ => rfl
  one := fun _ => Nat.zero_le 1
  placed := fun _ name _ h => by simp at h
  counts := fun _ => rfl
  since := by simp
  timers := by simp
  exits := by simp

theorem Inv.register {safetyCritical created : Bool} {status : Status} (h : Inv w missing)
    (hfree : w.places name = 0) (hmissing : ∀ other, missing = some other → other = name)
    (hstatus : status ≠ .settled) :
    Inv (w.register name safetyCritical created status) none := by
  have hplaces : ∀ other, (w.register name safetyCritical created status).places other =
      w.places other + if name = other then 1 else 0 := by
    intro other
    simp only [World.places, World.register, List.countP_append]
    by_cases hother : name = other
    · simp [hother, hstatus]
      omega
    · simp [hother]
  refine ⟨?_, ?_, ?_, h.counts, ?_, h.timers, h.exits⟩
  · intro other hnone
    simp only [World.register, Dict.get?_set] at hnone
    split at hnone
    · cases hnone
    · rename_i hother
      rw [hplaces, if_neg fun hsame => hother hsame.symm, h.free other hnone]
  · intro other
    rw [hplaces]
    split
    · rename_i hsame
      rw [← hsame, hfree]
    · exact h.one other
  · intro hlive other _ hsome
    rw [hplaces]
    by_cases hother : name = other
    · rw [if_pos hother]
      exact .inl (Nat.le_add_left 1 _)
    · rw [if_neg hother]
      simp only [World.register, Dict.get?_set] at hsome
      rw [if_neg fun hsame => hother hsame.symm] at hsome
      refine h.placed hlive other ?_ hsome
      intro hmiss
      exact hother (hmissing other hmiss).symm
  · intro t ht hlive
    simp only [World.register, List.mem_append, List.mem_singleton] at ht
    simp only [World.register, Dict.get?_set]
    rcases ht with ht | rfl
    · rw [if_neg]
      · exact h.since t ht hlive
      · intro hname
        have hpos : 0 < w.tasks.countP (fun t => t.name = name ∧ t.status ≠ .settled) :=
          List.countP_pos_iff.mpr ⟨t, ht, by simp [hname, hlive]⟩
        simp only [World.places] at hfree
        omega
    · rw [if_pos rfl]

theorem Inv.spawn {safetyCritical : Bool} (h : Inv w missing) (hfree : w.places name = 0)
    (hmissing : ∀ other, missing = some other → other = name) :
    Inv (w.spawn name safetyCritical) none := by
  unfold World.spawn
  split
  · rename_i hstopping
    refine ⟨h.free, h.one, ?_, h.counts, h.since, h.timers, h.exits⟩
    intro hlive
    rw [hstopping] at hlive
    cases hlive
  · exact h.register hfree hmissing (by simp)

theorem Inv.ends {task : ℕ} {t : Incarnation} {outcome : Outcome} (h : Inv w none)
    (ht : w.tasks[task]? = some t) (halive : t.status = .alive) :
    Inv { w with tasks := w.tasks.set task { t with status := .ended outcome } } none := by
  obtain ⟨l, r, htasks, hset, _⟩ := at_place ht
  have hplaces : ∀ other,
      ({ w with tasks := w.tasks.set task { t with status := .ended outcome } } :
        World).places other = w.places other := by
    intro other
    simp only [World.places, hset]
    simp [htasks, List.countP_cons, halive]
  refine ⟨?_, ?_, ?_, h.counts, ?_, h.timers, h.exits⟩
  · intro other hnone
    rw [hplaces]
    exact h.free other hnone
  · intro other
    rw [hplaces]
    exact h.one other
  · intro hlive other hmiss hsome
    rw [hplaces]
    exact h.placed hlive other hmiss hsome
  · intro u hu hlive
    rw [hset] at hu
    have hsince := h.since
    rw [htasks] at hsince
    rcases List.mem_append.mp hu with hu | hu
    · exact hsince u (by simp [hu]) hlive
    · rcases List.mem_cons.mp hu with rfl | hu
      · exact hsince t (by simp) (by simp [halive])
      · exact hsince u (by simp [hu]) hlive

/-- A done callback, with the exit that it records. -/
structure Finished (w w' : World) (task : ℕ) (t : Incarnation) (e : Exit) : Prop where
  name : e.name = t.name
  stopping : e.stopping = w.supervisor.engineStopping
  proper : e.Proper w.exits
  exits : w'.exits = e :: w.exits
  tasks : w'.tasks = w.tasks.set task { t with status := .settled }
  supervised : w'.supervisor.supervisedTasks = w.supervisor.supervisedTasks
  spawnTimes : w'.supervisor.spawnTimes = w.supervisor.spawnTimes
  engineStopping : w'.supervisor.engineStopping = w.supervisor.engineStopping
  now : w'.now = w.now
  counts : ∀ name, (w'.supervisor.restarts.get? name).getD 0 = inRow (lives name (e :: w.exits))
  timers : (∃ delay ≤ superviseBackoffMaxS,
      w'.timers = w.timers ++ [⟨t.name, t.safetyCritical, w.now + 1000000 * delay⟩]) ∨
    (w'.timers = w.timers ∧ (w.supervisor.engineStopping = false →
      e.LatchDue w.exits ∨ 1024 < e.row w.exits))

theorem lives_cons (e : Exit) (earlier : List Exit) :
    lives name (e :: earlier) =
      if e.name = name ∧ e.stopping = false then e.lived :: lives name earlier
      else lives name earlier := by
  unfold lives
  rw [List.filter_cons]
  by_cases h : e.name = name ∧ e.stopping = false <;> simp [h]

/-- The record of a done callback. -/
def exitOf (w : World) (t : Incarnation) (outcome : Outcome) (owned : Bool)
    (effects : List Effect) : Exit :=
  ⟨t.name, t.safetyCritical, outcome, w.supervisor.engineStopping, owned, w.now - t.since, effects⟩

theorem finish_stopping {task : ℕ} {t : Incarnation} {outcome : Outcome} {owned : Bool}
    (hstopping : w.supervisor.engineStopping = true) :
    ∃ effects, (exitOf w t outcome owned effects).Proper w.exits ∧
      w.finish task t outcome owned =
        { w with
          tasks := w.tasks.set task { t with status := .settled }
          exits := exitOf w t outcome owned effects :: w.exits } := by
  by_cases hexpected : t.safetyCritical = false ∨ (outcome = .cancelled ∧ owned = true)
  · refine ⟨[], ⟨?_, ?_, ?_, fun _ _ => rfl, ?_⟩, ?_⟩
    · simp [exitOf, hstopping]
    · simp [exitOf, hstopping]
    · simp [exitOf, hstopping]
    · intro _ hsafety hnot
      have hsafety' : t.safetyCritical = true := hsafety
      exact absurd (hexpected.resolve_left (by simp [hsafety'])) hnot
    · have hparam : (!t.safetyCritical || (t.safetyCritical && (outcome == .cancelled) && owned)) =
          true := by
        rcases hexpected with h | ⟨h, h'⟩
        · simp [h]
        · cases hs : t.safetyCritical <;> simp [h, h']
      simp only [World.finish, hstopping, Bool.true_and, hparam, exit_stopping, World.timersOf,
        List.append_nil, exitOf]
      obtain ⟨⟨stopping, registry, restarts, spawnTimes⟩, tasks, timers, now, exits⟩ := w
      cases hstopping
      rfl
  · have hsafety : t.safetyCritical = true := by
      cases hs : t.safetyCritical with
      | true => rfl
      | false => exact absurd (.inl hs) hexpected
    have hnot : ¬ (outcome = .cancelled ∧ owned = true) := fun h => hexpected (.inr h)
    have hparam : ((outcome == .cancelled) && owned) = false := by
      by_cases h : outcome = .cancelled
      · cases howned : owned with
        | false => simp
        | true => exact absurd ⟨h, howned⟩ hnot
      · simp [h]
    refine ⟨[.alarm t.name (outcome.exc t.name), .faultLatch t.name (outcome.exc t.name)],
      ⟨?_, ?_, ?_, ?_, fun _ _ _ => rfl⟩, ?_⟩
    · simp [exitOf, hstopping]
    · simp [exitOf, hstopping]
    · simp [exitOf, hstopping]
    · exact fun _ h => absurd h hexpected
    · simp only [World.finish, hstopping, Bool.true_and, hsafety, hparam, Bool.not_true,
        Bool.or_self, Bool.not_false, exit_immediately, World.timersOf, List.append_nil, exitOf]
      obtain ⟨⟨stopping, registry, restarts, spawnTimes⟩, tasks, timers, now, exits⟩ := w
      cases hstopping
      rfl

theorem finish_live {task : ℕ} {t : Incarnation} {outcome : Outcome} {owned : Bool}
    (hlive : w.supervisor.engineStopping = false)
    (hsince : w.supervisor.spawnTimes.get? t.name = some t.since) :
    w.finish task t outcome owned =
      { w with
        supervisor :=
          { w.supervisor with
            restarts := w.supervisor.restarts.set t.name
              (nextCount w.supervisor.restarts t.name (w.now - t.since)) }
        tasks := w.tasks.set task { t with status := .settled }
        timers := w.timers ++ World.timersOf t.name t.safetyCritical w.now
          (handleSupervisedTaskExit t.name outcome false w.supervisor.restarts t.safetyCritical
            (w.now - t.since) false).2.1
        exits := exitOf w t outcome owned
          (handleSupervisedTaskExit t.name outcome false w.supervisor.restarts t.safetyCritical
            (w.now - t.since) false).2.1 :: w.exits } := by
  simp only [World.finish, hlive, hsince, Option.getD_some, Bool.false_and, exit_counts, exitOf]

theorem finish_spec {task : ℕ} {t : Incarnation} {outcome : Outcome} {owned : Bool}
    (h : Inv w none) (ht : t ∈ w.tasks) (hended : t.status = .ended outcome) :
    ∃ e, Finished w (w.finish task t outcome owned) task t e := by
  have hsince : w.supervisor.spawnTimes.get? t.name = some t.since :=
    h.since t ht (by simp [hended])
  cases hstopping : w.supervisor.engineStopping with
  | true =>
      obtain ⟨effects, hproper, heq⟩ := @finish_stopping w task t outcome owned hstopping
      rw [heq]
      refine ⟨_, rfl, rfl, hproper, rfl, rfl, rfl, rfl, rfl, rfl, ?_, .inr ⟨rfl, ?_⟩⟩
      · intro name
        rw [lives_cons, if_neg (by simp [exitOf, hstopping])]
        exact h.counts name
      · simp [hstopping]
  | false =>
      have hcount : nextCount w.supervisor.restarts t.name (w.now - t.since) =
          inRow ((w.now - t.since) :: lives t.name w.exits) := nextCount_eq (h.counts t.name)
      rw [finish_live hstopping hsince]
      have hcounts : ∀ effects name, ((w.supervisor.restarts.set t.name
          (nextCount w.supervisor.restarts t.name (w.now - t.since))).get? name).getD 0 =
          inRow (lives name (exitOf w t outcome owned effects :: w.exits)) := by
        intro effects name
        rw [lives_cons, Dict.get?_set]
        by_cases hname : name = t.name
        · subst hname
          rw [if_pos rfl, if_pos ⟨rfl, hstopping⟩]
          exact hcount
        · rw [if_neg hname, if_neg fun hsame => hname hsame.1.symm]
          exact h.counts name
      by_cases hlatch : t.safetyCritical = true ∧
          safetyTaskMaxRestarts < nextCount w.supervisor.restarts t.name (w.now - t.since)
      · -- the FAULT latch
        have hdue : ∀ effects, (exitOf w t outcome owned effects).LatchDue w.exits := by
          intro effects
          refine ⟨hlatch.1, third_iff.mpr ?_⟩
          rw [hcount] at hlatch
          exact hlatch.2
        rw [exit_latch hlatch.1 hlatch.2]
        refine ⟨_, rfl, rfl, ⟨fun _ => ⟨_, rfl, by simp⟩, fun _ _ => rfl, ?_, ?_, ?_⟩, rfl, rfl,
          rfl, rfl, rfl, rfl, hcounts _, .inr ⟨?_, fun _ => .inl (hdue _)⟩⟩
        · exact fun _ hnot => absurd (hdue _) hnot
        · simp [exitOf, hstopping]
        · simp [exitOf, hstopping]
        · simp [World.timersOf]
      · have hdue : ∀ effects, ¬ (exitOf w t outcome owned effects).LatchDue w.exits := by
          rintro effects ⟨hsafety, hshort⟩
          refine hlatch ⟨hsafety, ?_⟩
          rw [hcount]
          exact third_iff.mp hshort
        cases hdelay : backoff (nextCount w.supervisor.restarts t.name (w.now - t.since)) with
        | ok delay =>
            rw [exit_restart hlatch hdelay]
            refine ⟨_, rfl, rfl, ⟨fun _ => ⟨_, rfl, by simp⟩, ?_,
                fun _ _ _ => ⟨delay, backoff_ok hdelay, rfl⟩, ?_, ?_⟩,
              rfl, rfl, rfl, rfl, rfl, rfl, hcounts _, .inl ⟨delay, backoff_ok hdelay, rfl⟩⟩
            · exact fun _ hsure => absurd hsure (hdue _)
            · simp [exitOf, hstopping]
            · simp [exitOf, hstopping]
        | error e =>
            have hrow : ∀ effects, 1024 < (exitOf w t outcome owned effects).row w.exits := by
              intro effects
              have hlong := backoff_error hdelay
              rw [hcount] at hlong
              exact hlong
            refine ⟨_, rfl, rfl,
              ⟨fun _ => ⟨[], exit_overflow hlatch hdelay, by simp⟩, ?_, ?_, ?_, ?_⟩, rfl, rfl,
              rfl, rfl, rfl, rfl, hcounts _, .inr ⟨?_, fun _ => .inr (hrow _)⟩⟩
            · exact fun _ hsure => absurd hsure (hdue _)
            · intro _ _ hle
              exact absurd hle (not_le.mpr (hrow _))
            · simp [exitOf, hstopping]
            · simp [exitOf, hstopping]
            · rw [exit_overflow hlatch hdelay]
              simp [World.timersOf]

theorem Inv.finish {w' : World} {task : ℕ} {t : Incarnation} {e : Exit} {outcome : Outcome}
    (h : Inv w none) (ht : w.tasks[task]? = some t) (hended : t.status = .ended outcome)
    (hfinished : Finished w w' task t e) : Inv w' none := by
  obtain ⟨l, r, htasks, hset, _⟩ := at_place ht
  have hw' : w'.tasks = l ++ { t with status := .settled } :: r := by
    rw [hfinished.tasks, hset]
  have hthere : 1 ≤ w.places t.name := by
    simp only [World.places, htasks]
    simp [hended]
    omega
  have hbefore : ∀ name, w'.tasks.countP (fun t => t.name = name ∧ t.status ≠ .settled) +
      (if t.name = name then 1 else 0) =
        w.tasks.countP (fun t => t.name = name ∧ t.status ≠ .settled) := by
    intro name
    by_cases hname : t.name = name <;> simp [hw', htasks, hname, hended]
    omega
  have hrest : ∀ name, t.name ≠ name → w'.places name = w.places name := by
    intro name hname
    have hcount := hbefore name
    rw [if_neg hname, Nat.add_zero] at hcount
    simp only [World.places, hcount]
    rcases hfinished.timers with ⟨delay, _, htimers⟩ | ⟨htimers, _⟩
    · simp [htimers, hname]
    · rw [htimers]
  have hended' : ∀ name, w.Ended name → w'.Ended name := by
    rintro name ⟨e', earlier, hsuffix, hrest⟩
    refine ⟨e', earlier, ?_, hrest⟩
    rw [hfinished.exits]
    exact hsuffix.trans (List.suffix_cons _ _)
  have hself : w'.places t.name ≤ 1 ∧
      (w.supervisor.engineStopping = false → 1 ≤ w'.places t.name ∨ w'.Ended t.name) := by
    have hone := h.one t.name
    have hcount := hbefore t.name
    rw [if_pos rfl] at hcount
    rcases hfinished.timers with ⟨delay, _, htimers⟩ | ⟨htimers, hover⟩
    · have hplaces : w'.places t.name = w.places t.name := by
        unfold World.places
        rw [htimers, List.countP_append, List.countP_singleton, if_pos (decide_eq_true rfl)]
        omega
      rw [hplaces]
      exact ⟨hone, fun _ => .inl hthere⟩
    · have hplaces : w'.places t.name + 1 = w.places t.name := by
        unfold World.places
        rw [htimers]
        omega
      refine ⟨by omega, fun hlive => .inr ⟨e, w.exits, ?_, hfinished.name, ?_, hover hlive⟩⟩
      · exact hfinished.exits ▸ List.suffix_refl _
      · rw [hfinished.stopping]
        exact hlive
  refine ⟨?_, ?_, ?_, ?_, ?_, ?_, ?_⟩
  · intro name hnone
    rw [hfinished.supervised] at hnone
    have hzero := h.free name hnone
    have hname : t.name ≠ name := by
      rintro rfl
      omega
    rw [hrest name hname]
    exact hzero
  · intro name
    by_cases hname : t.name = name
    · rw [← hname]
      exact hself.1
    · rw [hrest name hname]
      exact h.one name
  · intro hlive name hmissing hsome
    rw [hfinished.engineStopping] at hlive
    rw [hfinished.supervised] at hsome
    by_cases hname : t.name = name
    · rw [← hname]
      exact hself.2 hlive
    · rw [hrest name hname]
      exact (h.placed hlive name hmissing hsome).imp id (hended' name)
  · intro name
    rw [hfinished.exits]
    exact hfinished.counts name
  · intro u hu hstatus
    rw [hfinished.spawnTimes]
    rw [hw'] at hu
    have hsince := h.since
    rw [htasks] at hsince
    rcases List.mem_append.mp hu with hu | hu
    · exact hsince u (by simp [hu]) hstatus
    · rcases List.mem_cons.mp hu with rfl | hu
      · exact absurd rfl hstatus
      · exact hsince u (by simp [hu]) hstatus
  · intro timer htimer
    rw [hfinished.now]
    rcases hfinished.timers with ⟨delay, hdelay, htimers⟩ | ⟨htimers, _⟩
    · rw [htimers] at htimer
      rcases List.mem_append.mp htimer with htimer | htimer
      · exact h.timers timer htimer
      · rw [List.mem_singleton.mp htimer]
        dsimp only
        have hcast : (delay : ℤ) ≤ superviseBackoffMaxS := Int.ofNat_le.mpr hdelay
        exact Int.add_le_add_left (Int.mul_le_mul_of_nonneg_left hcast (by decide)) _
    · rw [htimers] at htimer
      exact h.timers timer htimer
  · intro e' earlier hsuffix
    rw [hfinished.exits, List.suffix_cons_iff] at hsuffix
    rcases hsuffix with heq | hsuffix
    · obtain ⟨rfl, rfl⟩ := List.cons.inj heq
      exact hfinished.proper
    · exact h.exits e' earlier hsuffix

theorem Inv.fire {index : ℕ} {t : Timer} (h : Inv w none) (ht : w.timers[index]? = some t) :
    Inv { w with timers := w.timers.eraseIdx index } (some t.name) ∧
      ({ w with timers := w.timers.eraseIdx index } : World).places t.name = 0 := by
  obtain ⟨l, r, htimers, _, herase⟩ := at_place ht
  have hplaces : ∀ name, ({ w with timers := w.timers.eraseIdx index } : World).places name +
      (if t.name = name then 1 else 0) = w.places name := by
    intro name
    simp only [World.places, herase]
    by_cases hname : t.name = name <;> simp [htimers, hname]
    omega
  refine ⟨⟨?_, ?_, ?_, h.counts, h.since, ?_, h.exits⟩, ?_⟩
  · intro name hnone
    have hzero := h.free name hnone
    have hcount := hplaces name
    omega
  · intro name
    have hone := h.one name
    have hcount := hplaces name
    omega
  · intro hlive name hmissing hsome
    have hname : t.name ≠ name := fun hname => hmissing (by rw [hname])
    have hcount := hplaces name
    rw [if_neg hname, Nat.add_zero] at hcount
    rw [hcount]
    exact h.placed hlive name (by simp) hsome
  · intro timer htimer
    refine h.timers timer ?_
    rw [herase] at htimer
    rw [htimers]
    rcases List.mem_append.mp htimer with htimer | htimer
    · simp [htimer]
    · simp [htimer]
  · have hone := h.one t.name
    have hcount := hplaces t.name
    rw [if_pos rfl] at hcount
    omega

theorem Inv.after {c : Call} (h : Inv w none) (henabled : w.Enabled c) : Inv (w.after c) none := by
  cases c with
  | register name safetyCritical status =>
      exact h.register (h.free name henabled.1) (by simp) henabled.2
  | spawn name safetyCritical => exact h.spawn (h.free name henabled) (by simp)
  | ends task outcome =>
      simp only [World.Enabled] at henabled
      cases ht : w.tasks[task]? with
      | none => simp [ht] at henabled
      | some t =>
          simp only [World.after, ht]
          exact h.ends ht (by simpa [ht] using henabled)
  | done task owned =>
      cases ht : w.tasks[task]? with
      | none => simpa only [World.after, ht] using h
      | some t =>
          simp only [World.after, ht]
          cases hstatus : t.status with
          | alive => exact h
          | settled => exact h
          | ended outcome =>
              obtain ⟨e, hfinished⟩ := @finish_spec w task t outcome owned h
                (List.mem_of_getElem? ht) hstatus
              exact h.finish ht hstatus hfinished
  | timer index =>
      cases ht : w.timers[index]? with
      | none => simpa only [World.after, ht] using h
      | some t =>
          simp only [World.after, ht]
          obtain ⟨hfired, hfree⟩ := h.fire ht
          exact hfired.spawn hfree fun other hother => (Option.some.inj hother).symm
  | stop =>
      refine ⟨h.free, h.one, ?_, h.counts, h.since, h.timers, h.exits⟩
      intro hlive
      cases hlive
  | passes now =>
      refine ⟨h.free, h.one, h.placed, h.counts, h.since, ?_, h.exits⟩
      intro t ht
      exact (h.timers t ht).trans (Int.add_le_add_right henabled _)

theorem inv_reached (h : Reached w) : Inv w none := by
  induction h with
  | init => exact inv_init
  | call c hreached henabled ih => exact ih.after henabled

theorem started_set {task : ℕ} {t : Incarnation} {status : Status} (ht : w.tasks[task]? = some t) :
    (w.tasks.set task { t with status := status }).countP Incarnation.created = w.started := by
  obtain ⟨l, r, htasks, hset, _⟩ := at_place ht
  rw [hset, World.started, htasks]
  simp [List.countP_cons]

theorem after_stopping {c : Call} (hstopping : w.supervisor.engineStopping = true) :
    (w.after c).supervisor.engineStopping = true ∧ (w.after c).started = w.started := by
  cases c with
  | register name safetyCritical status =>
      refine ⟨hstopping, ?_⟩
      simp [World.after, World.register, World.started, List.countP_append]
  | spawn name safetyCritical =>
      simp only [World.after, World.spawn, hstopping, if_true]
      exact ⟨trivial, trivial⟩
  | ends task outcome =>
      cases ht : w.tasks[task]? with
      | none =>
          simp only [World.after, ht]
          exact ⟨hstopping, trivial⟩
      | some t =>
          simp only [World.after, ht]
          exact ⟨hstopping, started_set ht⟩
  | done task owned =>
      cases ht : w.tasks[task]? with
      | none =>
          simp only [World.after, ht]
          exact ⟨hstopping, trivial⟩
      | some t =>
          simp only [World.after, ht]
          cases hstatus : t.status with
          | alive => exact ⟨hstopping, rfl⟩
          | settled => exact ⟨hstopping, rfl⟩
          | ended outcome => exact ⟨hstopping, started_set ht⟩
  | timer index =>
      cases ht : w.timers[index]? with
      | none =>
          simp only [World.after, ht]
          exact ⟨hstopping, trivial⟩
      | some t =>
          simp only [World.after, ht, World.spawn, hstopping, if_true]
          exact ⟨trivial, rfl⟩
  | stop => exact ⟨rfl, rfl⟩
  | passes now => exact ⟨hstopping, rfl⟩

theorem supervised_of_reached (h : Reached w) : Supervised w := by
  have hinv := inv_reached h
  refine ⟨hinv.exits, ?_, ?_, hinv.timers, fun hstopping _ _ => after_stopping hstopping⟩
  · intro name
    have hone := hinv.one name
    have hmono : w.tasks.countP (fun t => t.name = name ∧ t.status = .alive) ≤
        w.tasks.countP (fun t => t.name = name ∧ t.status ≠ .settled) := by
      refine List.countP_mono_left fun t _ h => ?_
      simp only [decide_eq_true_eq] at h ⊢
      exact ⟨h.1, by simp [h.2]⟩
    simp only [World.places] at hone
    omega
  · intro hlive name hsome
    refine (hinv.placed hlive name (by simp) hsome).imp ?_ id
    intro hplace
    by_cases htask : 0 < w.tasks.countP (fun t => t.name = name ∧ t.status ≠ .settled)
    · obtain ⟨t, ht, hprop⟩ := List.countP_pos_iff.mp htask
      exact .inl ⟨t, ht, by simpa using hprop⟩
    · have htimer : 0 < w.timers.countP (fun t => t.name = name) := by
        simp only [World.places] at hplace
        omega
      obtain ⟨t, ht, hprop⟩ := List.countP_pos_iff.mp htimer
      exact .inr ⟨t, ht, by simpa using hprop⟩

end Invariant

/-- No supervised task dies silently, and the shutdown holds until it is settled. -/
theorem no_silent_death {w : World} (h : Reached w) (events : List HoldEvent) :
    Supervised w ∧ (Hold.run events).Held :=
  ⟨supervised_of_reached h, Hold.held_run events⟩

instance World.decidableEnabled (w : World) : (c : Call) → Decidable (w.Enabled c)
  | .register name _ status =>
      inferInstanceAs (Decidable
        (w.supervisor.supervisedTasks.get? name = none ∧ status ≠ .settled))
  | .spawn name _ => inferInstanceAs (Decidable (w.supervisor.supervisedTasks.get? name = none))
  | .ends task _ =>
      inferInstanceAs (Decidable ((w.tasks[task]?).any (fun t => t.status = .alive) = true))
  | .done task _ =>
      inferInstanceAs (Decidable
        ((w.tasks[task]?).any (fun t => t.status ≠ .alive ∧ t.status ≠ .settled) = true))
  | .timer index =>
      inferInstanceAs (Decidable ((w.timers[index]?).any (fun t => t.due ≤ w.now) = true))
  | .stop => inferInstanceAs (Decidable True)
  | .passes now => inferInstanceAs (Decidable (w.now ≤ now))

/-- Every call of a list can come in its turn. -/
def World.allEnabled : World → List Call → Bool
  | _, [] => true
  | w, c :: rest => decide (w.Enabled c) && (w.after c).allEnabled rest

theorem reached_foldl {w : World} {calls : List Call} (h : Reached w)
    (henabled : w.allEnabled calls = true) : Reached (calls.foldl World.after w) := by
  induction calls generalizing w with
  | nil => exact h
  | cons c rest ih =>
      rw [World.allEnabled, Bool.and_eq_true, decide_eq_true_eq] at henabled
      exact ih (.call c h henabled.1) henabled.2

/-- One more life of the collect task, from a moment to another. -/
def liveUntil (task : ℕ) (ends : Timestamp) : List Call :=
  [.passes ends, .ends task .returned, .done task false]

/-- A life of 400 s, then two of 10 s. -/
def threeLives : List Call :=
  .register "safety_collect" true .alive :: liveUntil 0 400000000 ++
    [.passes 401000000, .timer 0] ++ liveUntil 1 411000000 ++
    [.passes 413000000, .timer 0] ++ liveUntil 2 423000000

theorem threeLives_reached : Reached (threeLives.foldl World.after {}) :=
  reached_foldl .init (by decide)

def ThreeShort (lived : Timestamp) (earlier : List Timestamp) : Prop :=
  lived < superviseResetWindow ∧ ∃ last before rest, earlier = last :: before :: rest ∧
    last < superviseResetWindow ∧ before < superviseResetWindow

/-- The latch does not wait for three lives under the window. -/
theorem latched_before_third_short :
    ¬ ∀ w, Reached w → ∀ e earlier, (e :: earlier) <:+ w.exits → e.stopping = false →
      (∃ exc, Effect.faultLatch e.name exc ∈ e.effects) →
        ThreeShort e.lived (lives e.name earlier) := by
  intro h
  have hexits := h _ threeLives_reached _ _ (List.suffix_refl _) rfl
    ⟨"supervised task safety_collect returned unexpectedly", by decide⟩
  obtain ⟨_, last, before, rest, hlives, _, hbefore⟩ := hexits
  have hthird : lives "safety_collect" ((threeLives.foldl World.after {}).exits.drop 1) =
      [10000000, 400000000] := by decide
  have heq : [10000000, 400000000] = last :: before :: rest := hthird.symm.trans hlives
  simp only [List.cons.injEq] at heq
  rw [← heq.2.1] at hbefore
  exact absurd hbefore (by decide)

theorem no_silent_death_threeLives :
    Supervised (threeLives.foldl World.after {}) ∧
      (Hold.run [.callerCancels, .stopEnds .cancelled, .delayEnds .returned,
        .stopEnds .returned]).Held :=
  no_silent_death threeLives_reached _

end Supervision
end CryoDaq
