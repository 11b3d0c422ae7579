import CryoDaq.Experiments.Threads

/-!
# Transitions are atomic

A transition takes five durable steps: the journal, the row, the metadata, the
state file, and the removal of the journal.  A process may die, and a step may
raise, between any two of them and again during the recovery.

**Histories.**  `Atomic` says of all contents of a directory what a transition
may make of them: a journal is written on a settled directory, the directory is
a stage of that transition as long as the journal is there, and the journal is
removed from the result only.

**Recovery.**  `Recovers` says what a recovery that completes leaves: no journal,
and the predecessor or the result.
-/

namespace CryoDaq
namespace Experiments

open Async Op

variable {δ κ : Type}

variable (S : Setting δ κ) [DecidableEq δ]

/-- A transition is over: the directory is exactly its result. -/
structure Completed (q : Disk δ κ) (f : StateFile δ) (j : Journal δ κ) (info : ExperimentInfo)
    (rows : List ExperimentInfo) (d : Disk δ κ) : Prop where
  applying : Applying S q f j info rows
  exactly : d = result S q j info rows
  settled : Settled S d (j.resultFile S)
  revision : (j.resultFile S).revision = f.revision + 1
  metadata : d.Holds info.experimentId info
  row : info ∈ d.rows

/-- What transitions make of a directory; its contents, the latest first. -/
structure Atomic (contents : List (Disk δ κ)) : Prop where
  quiet : ∀ d ∈ contents, d.journal = none → Blank d ∨ ∃ f, Settled S d f
  single : ∀ d ∈ contents, (persistedRunningExperimentIds d.rows).length ≤ 1
  begun : ∀ later d d' earlier j, contents = later ++ d' :: d :: earlier →
    d.journal = none → d'.journal = some j →
      d' = { d with journal := some j } ∧ ∃ f, Fits S d f j
  underway : ∀ later d earlier j, contents = later ++ d :: earlier → d.journal = some j →
    ∃ q f, lastQuiet earlier = some q ∧ Pending S q f j d
  ended : ∀ later d d' earlier j, contents = later ++ d' :: d :: earlier →
    d.journal = some j → d'.journal = none →
      ∃ q f info rows, lastQuiet earlier = some q ∧ Completed S q f j info rows d'

/-- What a recovery that completes leaves of the directory `d`. -/
structure Recovers (earlier : List (Disk δ κ)) (d d' : Disk δ κ) : Prop where
  journal : d'.journal = none
  settled : ∃ f, Settled S d' f
  unchanged : d.journal = none → d.state ≠ none → d' = d
  first : d.state = none → ∃ f, d' = { d with state := some f }
  completed : ∀ j, d.journal = some j →
    ∃ q f info rows, lastQuiet earlier = some q ∧ Completed S q f j info rows d'

variable {S}

section Rows

variable {d q : Disk δ κ} {f : StateFile δ} {j : Journal δ κ} {info : ExperimentInfo}
variable {rows : List ExperimentInfo} {h : List (Disk δ κ)}

omit [DecidableEq δ] in
theorem running_length_le_one {rs : List ExperimentInfo} (id : String)
    (hdistinct : (rs.map ExperimentInfo.experimentId).Nodup)
    (h : ∀ r ∈ rs, r.status = .running → r.experimentId = id) :
    (persistedRunningExperimentIds rs).length ≤ 1 := by
  have hnodup : (persistedRunningExperimentIds rs).Nodup :=
    hdistinct.sublist (List.filter_sublist.map _)
  have hsame : ∀ x ∈ persistedRunningExperimentIds rs, x = id := by
    intro x hx
    obtain ⟨r, hr, rfl⟩ := List.mem_map.mp hx
    obtain ⟨hmem, hrunning⟩ := List.mem_filter.mp hr
    exact h r hmem (of_decide_eq_true hrunning)
  have hreplicate := List.eq_replicate_of_mem hsame
  rw [hreplicate] at hnodup ⊢
  exact List.nodup_replicate.mp hnodup |>.trans' (by rw [List.length_replicate])

theorem Settled.single (hs : Settled S d f) :
    (persistedRunningExperimentIds d.rows).length ≤ 1 := by
  refine running_length_le_one (f.activeExperimentId.getD "") hs.distinct ?_
  intro r hr hrunning
  rw [hs.running r hr hrunning]
  rfl

theorem Applying.single (ha : Applying S q f j info rows) :
    (persistedRunningExperimentIds rows).length ≤ 1 := by
  refine running_length_le_one info.experimentId ha.distinct_rows ?_
  intro r hr hrunning
  rw [ha.running_rows hr hrunning]

theorem Pending.single (hp : Pending S q f j d) :
    (persistedRunningExperimentIds d.rows).length ≤ 1 := by
  cases hp with
  | journaled hfits => exact hfits.settled.single
  | @applying info rows k happlying =>
      rcases k with _ | _ | _ | k
      · exact happlying.fits.settled.single
      · exact happlying.single
      · exact happlying.single
      · exact happlying.single

theorem Status.single (hs : Status S h d) :
    (persistedRunningExperimentIds d.rows).length ≤ 1 := by
  cases hs with
  | blank hblank =>
      rw [hblank.rows]
      exact Nat.zero_le 1
  | settled f hsettled _ => exact hsettled.single
  | pending q f j _ hpending => exact hpending.single

theorem Applying.completed (ha : Applying S q f j info rows) :
    Completed S q f j info rows (result S q j info rows) where
  applying := ha
  exactly := rfl
  settled := ha.settled
  revision := by
    change j.request.predecessor.revision + 1 = f.revision + 1
    rw [ha.fits.cut]
    rfl
  metadata :=
    ⟨_, if_pos rfl, congrArg some (ha.fits.normal ha.accepted.payload).reloaded⟩
  row := ha.mem_rows

end Rows

section Histories

variable {d d' : Disk δ κ} {h : List (Disk δ κ)} {j : Journal δ κ}

theorem Chronicle.earlier {later : List (Disk δ κ)} (hc : Chronicle S (later ++ d :: h)) :
    Chronicle S (d :: h) := by
  induction later with
  | nil => exact hc
  | cons e later ih =>
      obtain ⟨e', rest, hrest⟩ : ∃ e' rest, later ++ d :: h = e' :: rest := by
        cases later with
        | nil => exact ⟨_, _, rfl⟩
        | cons e' later => exact ⟨_, _, rfl⟩
      rw [List.cons_append, hrest] at hc
      cases hc with
      | write hc' _ => exact ih (hrest ▸ hc')

theorem Chronicle.lastWrite (hc : Chronicle S (d' :: d :: h)) : Write S h d d' := by
  cases hc with
  | write _ hw => exact hw

theorem Write.begun (hw : Write S h d d') (hd : d.journal = none) (hd' : d'.journal = some j) :
    d' = { d with journal := some j } ∧ ∃ f, Fits S d f j := by
  cases hw with
  | first hblank => exact absurd (hblank.journal.symm.trans hd') (fun he => nomatch he)
  | mode _ hquiet => exact absurd (hquiet.symm.trans hd') (fun he => nomatch he)
  | amend _ hquiet => exact absurd (hquiet.symm.trans hd') (fun he => nomatch he)
  | @journal _ f j' hfits =>
      obtain rfl := Option.some.inj hd'
      exact ⟨rfl, f, hfits⟩
  | @stage q f j' info rows k k' _ _ _ _ =>
      rw [stage_journal] at hd
      cases hd
  | unlink _ _ => cases hd'

theorem Write.ended (hw : Write S h d d') (hd : d.journal = some j) (hd' : d'.journal = none) :
    ∃ q f info rows, lastQuiet h = some q ∧ Completed S q f j info rows d' := by
  cases hw with
  | first hblank => exact absurd (hblank.journal.symm.trans hd) (fun he => nomatch he)
  | mode _ hquiet => exact absurd (hquiet.symm.trans hd) (fun he => nomatch he)
  | amend _ hquiet => exact absurd (hquiet.symm.trans hd) (fun he => nomatch he)
  | journal _ => cases hd'
  | @stage q f j' info rows k k' _ _ _ _ =>
      rw [stage_journal] at hd'
      cases hd'
  | @unlink q f j' info rows hlast happlying =>
      rw [stage_journal] at hd
      obtain rfl := Option.some.inj hd
      exact ⟨q, f, info, rows, hlast, happlying.completed⟩

theorem Chronicle.atomic {contents : List (Disk δ κ)} (hc : Chronicle S contents) :
    Atomic S contents where
  quiet d hd hquiet := by
    obtain ⟨later, h, rfl⟩ := List.append_of_mem hd
    cases hc.earlier.status with
    | blank hblank => exact .inl hblank
    | settled f hsettled _ => exact .inr ⟨f, hsettled⟩
    | pending q f j _ hpending =>
        rw [hpending.journal] at hquiet
        cases hquiet
  single d hd := by
    obtain ⟨later, h, rfl⟩ := List.append_of_mem hd
    exact hc.earlier.status.single
  begun later d d' h j hcontents hd hd' := by
    subst hcontents
    exact hc.earlier.lastWrite.begun hd hd'
  underway later d h j hcontents hd := by
    subst hcontents
    cases hc.earlier.status with
    | blank hblank =>
        rw [hblank.journal] at hd
        cases hd
    | settled f _ hnone =>
        rw [hnone] at hd
        cases hd
    | pending q f j' hlast hpending =>
        obtain rfl := Option.some.inj (hpending.journal.symm.trans hd)
        exact ⟨q, f, hlast, hpending⟩
  ended later d d' h j hcontents hd hd' := by
    subst hcontents
    exact hc.earlier.lastWrite.ended hd hd'

end Histories

section Recovery

variable {d d' : Disk δ κ} {h : List (Disk δ κ)} {w w' : World δ κ} {t : ℕ}

theorem Settles.recovers (hs : Settles S h d d') (hj : d'.journal = none) {f : StateFile δ}
    (hf : Settled S d' f) : Recovers S h d d' where
  journal := hj
  settled := ⟨f, hf⟩
  unchanged hquiet hstate := hs.of_quiet hstate hquiet
  first hstate := by
    cases hs with
    | first f _ => exact ⟨f, rfl⟩
    | quiet _ =>
        rw [hf.state] at hstate
        cases hstate
    | result hlast hpending happlying =>
        rcases hpending.state with hs | ⟨_, _, _, hdisk⟩
        · rw [hs] at hstate
          cases hstate
        · rw [hdisk] at hstate
          cases hstate
  completed j hjournal := by
    cases hs with
    | first f hblank =>
        rw [hblank.journal] at hjournal
        cases hjournal
    | quiet hnone =>
        rw [hnone] at hjournal
        cases hjournal
    | @result q f j' info rows hlast hpending happlying =>
        obtain rfl := Option.some.inj (hpending.journal.symm.trans hjournal)
        exact ⟨q, f, info, rows, hlast, happlying.completed⟩

theorem ends_wp {α : Type} {op : Op δ κ α} {Q : Except Failure α → World δ κ → Prop}
    {r : Except Failure α} (hinv : Inv S w)
    (h : wp ((discipline S).contract t) true op Q w) (he : Ends Wait.enabled op w r w') :
    Q r w' :=
  wp_ends (C := (discipline S).contract t) (fun w => Rely.refl t w)
    (fun _ _ _ hg => hg.inv) he hinv h

theorem construct_recovers (hinv : Inv S w) {incarnation : String}
    (he : Ends Wait.enabled (construct S t incarnation) { w.restarted with started := true }
      (.ok ()) w') : Recovers S w.history w.disk w'.disk := by
  have hoffline : Inv S w.restarted := offline_inv hinv.chronicle hinv.noted
  have hfree : Free t { w.restarted with started := true } :=
    ⟨fun h => (nomatch h), fun h => (nomatch h), fun h => (nomatch h)⟩
  obtain ⟨_, _, hdone⟩ := ends_wp hoffline.started
    (construct_wp hoffline.started rfl rfl rfl hfree incarnation) he
  obtain ⟨⟨f, hidle⟩, hsettles⟩ := hdone rfl
  exact hsettles.recovers hidle.journal hidle.settled

theorem recoverTransition_recovers (hinv : Inv S w) (hready : w.ready = true)
    (hnone : w.lifecycleLock = none) (hfree : Free t w)
    (he : Ends Wait.enabled (underLock t .lifecycle (recoverTransition S t)) w (.ok ()) w') :
    Recovers S w.history w.disk w'.disk := by
  have hquiet : Quiet S w.core := hinv.quiet hnone hready
  have hstarted : w.started = true := by
    by_contra hs
    have hunready := (hinv.unstarted (Bool.eq_false_iff.mpr hs)).2
    rw [hready] at hunready
    cases hunready
  have hboot : w.core.ready = false → w.core.memory.active = none := by
    intro hr
    exact nomatch hready.symm.trans hr
  have hwp := underLifecycle_wp hinv hnone hstarted hfree
    (Q := Recovered S w.core)
    (Locked.mono (recoverTransition_locked (.inl rfl) (fun _ => hquiet) hboot) ?_)
  · obtain ⟨_, _, _, ⟨_, hj, hcase⟩ | ⟨⟨e, he⟩, _⟩⟩ := ends_wp hinv hwp he
    · rcases hcase with ⟨hj₀, hcore⟩ | ⟨_, hsettles, f, hidle⟩
      · obtain ⟨f, hidle⟩ := hquiet.idle hj₀
        have hdisk : w'.disk = w.disk := congrArg Core.disk hcore
        rw [hdisk]
        exact (Settles.quiet hj₀).recovers hj₀ hidle.settled
      · exact hsettles.recovers hidle.journal hidle.settled
    · cases he
  · rintro r c hrecovered
    refine ⟨?_, hrecovered⟩
    intro hr
    obtain ⟨_, ⟨_, hj, ⟨_, rfl⟩ | ⟨_, _, f, hidle⟩⟩ | ⟨_, hq⟩⟩ := hrecovered
    · exact hquiet
    · exact hidle.quiet
    · exact hq hready

end Recovery

/-- In every state of every life, the transitions of the directory are atomic, and a
recovery that completes, by a new process or by the present manager, leaves the
predecessor or the result. -/
theorem transitions_atomic {w : World δ κ} (hw : Lives S w)
    {p : Pool (World δ κ) Wait Answer Failure} (hp : (manager S).Reachable w p) :
    Atomic S (p.state.disk :: p.state.history) ∧
      (∀ t incarnation w',
        Ends Wait.enabled (construct S t incarnation) { p.state.restarted with started := true }
          (.ok ()) w' → Recovers S p.state.history p.state.disk w'.disk) ∧
      (p.state.ready = true → p.state.lifecycleLock = none → ∀ t w', p.next ≤ t →
        Ends Wait.enabled (underLock t .lifecycle (recoverTransition S t)) p.state (.ok ()) w' →
          Recovers S p.state.history p.state.disk w'.disk) := by
  have hsound := hw.sound hp
  have hinv : Inv S p.state := hsound.inv
  refine ⟨hinv.chronicle.atomic, ?_, ?_⟩
  · intro t incarnation w' he
    exact construct_recovers hinv he
  · intro hready hnone t w' ht he
    exact recoverTransition_recovers hinv hready hnone (hsound.unborn t ht) he

def diedAfterRow : List (Move Answer (Call Unit) Empty) :=
  [.launch (.construct "manager")] ++ done 0 1 ++
    [.launch (.create { name := "Cooldown", operator := "A. K.", now := 5, requestId := "1" })] ++
    done 1 2 ++ [.resume 1 ⟨.drawn "0123456789ab", false⟩] ++ done 1 2

theorem transitions_atomic_died :
    ∃ p, (manager bench).Reachable World.empty p ∧
      p.state.disk.journal.isSome = true ∧ p.state.disk.rows.length = 1 ∧
      Atomic bench (p.state.disk :: p.state.history) := by
  have hrun : ((manager bench).replay (Pool.initial World.empty) diedAfterRow).map
      (fun p => (p.state.disk.journal.isSome, p.state.disk.rows.length)) =
        some (true, 1) := by rfl
  obtain ⟨p, hp, hobserved⟩ := Option.map_eq_some_iff.mp hrun
  obtain ⟨hjournal, hrows⟩ := Prod.mk.inj hobserved
  have hreach := (manager bench).reachable_replay diedAfterRow .initial hp
  exact ⟨p, hreach, hjournal, hrows, (transitions_atomic .empty hreach).1⟩

end Experiments
end CryoDaq
