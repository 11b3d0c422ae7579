import CryoDaq.Safety.RunPath

/-!
# What the other commands guarantee

Every other command, in the contract of its task: it ends without a lock and
without a stop mark, and the acknowledgement that it returns was not overtaken
by a fault.

**Kept assertions.**  `Keeps` is the preservation of one assertion by a
coroutine, for an assertion that survives interference.  A command is `Resting`
before and after, and `Entered` or `Locked` while it holds `_cmd_lock`.
-/

namespace CryoDaq
namespace Safety

open Async Journal

/-- An assertion that survives while its task is suspended. -/
structure Stable (t : Nat) (P : State → Prop) : Prop where
  inv : ∀ s, P s → s.Inv
  covered : ∀ s, P s → s.Covered t
  still : ∀ s s', P s → State.Still t s s' → s'.Inv → P s'

theorem Stable.calm {t : Nat} {P : State → Prop} (hP : Stable t P)
    {s s' : State} (h : P s) (hcalm : State.Calm s s') : P s' :=
  hP.still s s' h ((hcalm (hP.inv s h)).2 t) (hcalm (hP.inv s h)).1

/-- From the state `s` on, the coroutine keeps the assertion. -/
def Keeps {α : Type} (t : Nat) (P : State → Prop) (c : Py α) (s : State) :
    Prop :=
  P s → ∀ cx, wp (taskContract t) cx c (fun _ s' => P s') s

namespace Keeps

variable {α γ : Type} {t : Nat} {P : State → Prop} {s : State}

theorem ret (a : α) : Keeps t P (pure a : Py α) s := fun h _ => h

theorem raise (e : Exc) : Keeps t P (Coro.raise e : Py α) s := fun h _ => h

theorem ofExcept (x : Except Exc α) :
    Keeps t P (Coro.ofExcept x : Py α) s := by
  intro h cx
  rwa [wp_ofExcept]

theorem bind {c : Py α} {f : α → Py γ} (hc : Keeps t P c s)
    (hf : ∀ a s', Keeps t P (f a) s') : Keeps t P (c >>= f) s := by
  intro h cx
  exact wp_seq (hc h cx) (fun a s' h' => hf a s' h' cx) fun _ _ h' => h'

theorem read {f : State → Py γ} (h : Keeps t P (f s) s) :
    Keeps t P (Coro.read >>= f) s := h

theorem harmless (hP : Stable t P) {c : Py α} (h : Harmless t c s) :
    Keeps t P c s := by
  intro hp cx
  refine wp_mono (h.task_wp (hP.inv s hp) (hP.covered s hp)) ?_
  rintro r s' ⟨hi', hs'⟩
  exact hP.still s s' hp hs' hi'

theorem settled (hP : Stable t P) {c : Py α} (h : ∀ s', Keeps t P c s') :
    Keeps t P (Py.settled c) s := by
  intro hp cx
  refine wp_settledTask ((hP.covered s hp).parked _) fun s₁ hs₁ hi₁ => ?_
  have h₁ := hP.still s s₁ hp hs₁ hi₁
  refine wp_mono (h s₁ h₁ false) fun r s₂ h₂ => ?_
  exact ⟨(hP.covered s₂ h₂).parked _, fun s₃ _ hs₃ hi₃ _ =>
    hP.still s₂ s₃ h₂ hs₃ hi₃⟩

end Keeps

/-! ## Commands and `_cmd_lock` -/

structure Unlocked (t : Nat) (s : State) : Prop where
  inv : s.Inv
  cmdLock : s.control.cmdLock ≠ some t
  runRequestLock : s.control.runRequestLock ≠ some t

structure Resting (t : Nat) (s : State) : Prop extends Unlocked t s where
  unmarked : t ∉ s.control.stopOwners

/-- A command that holds `_cmd_lock`. -/
structure Entered (t : Nat) (s : State) : Prop where
  inv : s.Inv
  cmdLock : s.control.cmdLock = some t
  runRequestLock : s.control.runRequestLock ≠ some t
  warned : s.control.WarningKept

structure Locked (t : Nat) (s : State) : Prop extends Entered t s where
  unmarked : t ∉ s.control.stopOwners

section Assertions

variable {t : Nat} {s s' : State}

theorem Resting.of_idle (hi : s.Inv) (h : s.Idle t) : Resting t s :=
  ⟨⟨hi, h.cmdLock, h.runRequestLock⟩, h.unmarked⟩

theorem Resting.idle (h : Resting t s) : s.Idle t :=
  ⟨h.unmarked, h.cmdLock, h.runRequestLock⟩

theorem Unlocked.still (h : Unlocked t s) (hs : State.Still t s s')
    (hi : s'.Inv) : Unlocked t s' where
  inv := hi
  cmdLock := fun hl => h.cmdLock (hs.control.cmdLock.mp hl)
  runRequestLock := fun hl => h.runRequestLock (hs.control.runRequestLock.mp hl)

theorem Entered.drift (h : Entered t s) (hd : State.Drift t s s')
    (hi : s'.Inv) : Entered t s' where
  inv := hi
  cmdLock := hd.control.cmdLock.mpr h.cmdLock
  runRequestLock := fun hl => h.runRequestLock (hd.control.runRequestLock.mp hl)
  warned := hd.control.warned h.cmdLock h.warned

theorem stable_resting (t : Nat) : Stable t (Resting t) where
  inv := fun _ h => h.inv
  covered := fun _ h hm => absurd hm h.unmarked
  still := fun _ _ h hs hi =>
    ⟨h.toUnlocked.still hs hi, fun hm => h.unmarked (hs.unmarked hm)⟩

theorem stable_entered (t : Nat) : Stable t (Entered t) where
  inv := fun _ h => h.inv
  covered := fun _ h => .of_lock h.cmdLock
  still := fun _ _ h hs hi => h.drift hs.toDrift hi

theorem stable_locked (t : Nat) : Stable t (Locked t) where
  inv := fun _ h => h.inv
  covered := fun _ h => .of_lock h.cmdLock
  still := fun _ _ h hs hi =>
    ⟨h.toEntered.drift hs.toDrift hi, fun hm => h.unmarked (hs.unmarked hm)⟩

theorem Resting.calm (h : Resting t s) (hcalm : State.Calm s s') :
    Resting t s' :=
  (stable_resting t).calm h hcalm

theorem Entered.calm (h : Entered t s) (hcalm : State.Calm s s') :
    Entered t s' :=
  (stable_entered t).calm h hcalm

theorem Locked.calm (h : Locked t s) (hcalm : State.Calm s s') : Locked t s' :=
  (stable_locked t).calm h hcalm

theorem entered_loose {α : Type} {cx : Bool} {c : Py α}
    {Q : Except Exc α → State → Prop} (h : Entered t s)
    (hc : wp (looseContract t) cx c Q s) :
    wp (taskContract t) cx c (fun r s' => Q r s' ∧ Entered t s' ∧
      State.Drift t s s') s := by
  refine wp_mono (loose_task h.inv hc) ?_
  rintro r s' ⟨hq, hi', hd⟩
  exact ⟨hq, h.drift hd hi', hd⟩

/-- `async with self._cmd_lock` by a command.  Whether the command is a stop
owner afterwards depends on the body, and on whether it may be cancelled while
it waits for the lock. -/
theorem unlocked_withCmdLock {α : Type} {cx : Bool} {p : Py α} (marked : Prop)
    (h : Unlocked t s)
    (hbody : ∀ s₁, Entered t s₁ →
      (t ∈ s₁.control.stopOwners → t ∈ s.control.stopOwners) →
      wp (taskContract t) cx p (fun _ s₂ => Entered t s₂ ∧
        (t ∈ s₂.control.stopOwners → marked)) s₁)
    (hcancel : cx = true → t ∈ s.control.stopOwners → marked) :
    wp (taskContract t) cx (Py.withCmdLock t p) (fun _ s' => Unlocked t s' ∧
      (t ∈ s'.control.stopOwners → marked)) s := by
  refine wp_withCmdLock (fun s₁ hs₁ hi₁ hfree => ?_) fun hx s₁ hs₁ hi₁ => ?_
  · have h₁ := h.still hs₁ hi₁
    have hentered : Entered t (s₁.onControl (Control.takeCmdLock t)) :=
      ⟨(allowed_takeCmdLock hfree hi₁).1, rfl, h₁.runRequestLock,
        hi₁.control.warned hfree⟩
    refine wp_mono (hbody _ hentered hs₁.unmarked) ?_
    rintro r s₂ ⟨h₂, hmarked⟩
    refine ⟨h₂.cmdLock, h₂.warned,
      ⟨(allowed_releaseCmdLock h₂.cmdLock h₂.warned h₂.inv).1, ?_,
        h₂.runRequestLock⟩, hmarked⟩
    simp [Control.releaseCmdLock]
  · exact ⟨h.still hs₁ hi₁, fun hm => hcancel hx (hs₁.unmarked hm)⟩

theorem keeps_withCmdLock {α : Type} {p : Py α}
    (hp : ∀ s₁, Keeps t (Locked t) p s₁) :
    Keeps t (Resting t) (Py.withCmdLock t p) s := by
  intro h cx
  refine wp_mono (unlocked_withCmdLock False h.toUnlocked ?_
    fun _ hm => h.unmarked hm) fun _ s' h' => ⟨h'.1, h'.2⟩
  intro s₁ h₁ hm₁
  exact wp_mono (hp s₁ ⟨h₁, fun hm => h.unmarked (hm₁ hm)⟩ cx)
    fun _ s₂ h₂ => ⟨h₂.toEntered, h₂.unmarked⟩

/-- A created task that first takes `_cmd_lock`, settled by a command that may
have announced its stop. -/
theorem unlocked_settledOwner {α : Type} {cx : Bool} {p : Py α}
    (h : Unlocked t s)
    (hp : ∀ s₁, Unlocked t s₁ →
      (t ∈ s₁.control.stopOwners → t ∈ s.control.stopOwners) →
      wp (taskContract t) false p (fun _ s₂ => Resting t s₂) s₁) :
    wp (taskContract t) cx (Py.settledOwner p) (fun _ s' => Resting t s') s := by
  refine wp_settledTask (fun _ => Or.inr rfl) fun s₁ hs₁ hi₁ => ?_
  refine wp_mono (hp s₁ (h.still hs₁ hi₁) hs₁.unmarked) fun r s₂ h₂ => ?_
  exact ⟨((stable_resting t).covered s₂ h₂).parked _, fun s₃ _ hs₃ hi₃ _ =>
    (stable_resting t).still s₂ s₃ h₂ hs₃ hi₃⟩

end Assertions

namespace Py

variable {α : Type} {t : Nat} {cx : Bool} {s : State}

theorem loose_announce (s : State) :
    State.Loose t s (s.onControl (Control.announce t)) :=
  State.loose_onControl (.announce _)

/-- A command that registers its abort intent becomes a stop owner only where
it names what to stop. -/
theorem announceAbort_wp (h : Resting t s) (channel : ChannelArg) :
    wp (taskContract t) cx (announceAbort t channel)
      (Returns fun _ s' => Unlocked t s' ∧
        ∀ e, channel.scope = .error e → t ∉ s'.control.stopOwners) s := by
  have habort : State.Calm s
      (s.onControl (Control.registerAbortIntent channel.isOmitted)) :=
    State.calm_onControl (Control.calm_abort _ s.control)
  have h₁ := h.calm habort
  refine wp_updateThen (habort.allowed t) ?_
  cases hscope : channel.scope with
  | error e => exact ⟨h₁.toUnlocked, fun _ _ => h₁.unmarked⟩
  | ok scope =>
      have hmark := (loose_announce (t := t) (s.onControl
        (Control.registerAbortIntent channel.isOmitted))).allowed
      refine ⟨hmark, ⟨(hmark h₁.inv).1, ?_, ?_⟩, ?_⟩
      · exact h.cmdLock
      · exact h.runRequestLock
      · intro e he
        cases he

theorem announceAbort_then {k : Unit → Py α} {Q : Except Exc α → State → Prop}
    (h : Resting t s) (channel : ChannelArg)
    (hk : ∀ s₁, Unlocked t s₁ →
      (∀ e, channel.scope = .error e → t ∉ s₁.control.stopOwners) →
      wp (taskContract t) cx (k ()) Q s₁) :
    wp (taskContract t) cx (announceAbort t channel >>= k) Q s :=
  wp_returnsThen (announceAbort_wp h channel) fun _ s₁ h₁ => hk s₁ h₁.1 h₁.2

theorem settling_wp {p : Py α} {Q : Except Exc α → State → Prop}
    (h : wp (taskContract t) cx p (fun r s' => State.Quits t s' ∧
      Q r (s'.onControl (Control.settleStop t))) s) :
    wp (taskContract t) cx (settling t p) Q s := by
  refine wp_attemptThen (wp_mono h fun r s' hq => ?_)
  have hcalm : State.Calm s' (s'.onControl (Control.settleStop t)) :=
    State.calm_onControl (Control.calm_settleStop hq.1.quit)
  refine wp_updateThen (hcalm.allowed t) ?_
  rw [wp_ofExcept]
  exact hq.2

/-- A stop that ends under `_cmd_lock` owing nothing. -/
theorem settling_entered {p : Py α}
    (hp : wp (taskContract t) cx p
      (fun _ s' => Entered t s' ∧ State.Quits t s') s) :
    wp (taskContract t) cx (settling t p) (fun _ s' => Locked t s') s := by
  refine settling_wp (wp_mono hp fun r s' h' => ⟨h'.2, ?_, ?_⟩)
  · exact h'.1.calm (State.calm_onControl (Control.calm_settleStop h'.2.quit))
  · exact unmarked_settleStop t _

/-- `async with self._cmd_lock` around a stop, by a task that is not cancelled
while it waits. -/
theorem unlocked_withSettling {p : Py α} (h : Unlocked t s)
    (hp : ∀ s₁, Entered t s₁ →
      (t ∈ s₁.control.stopOwners → t ∈ s.control.stopOwners) →
      wp (taskContract t) false p
        (fun _ s' => Entered t s' ∧ State.Quits t s') s₁) :
    wp (taskContract t) false (withCmdLock t (settling t p))
      (fun _ s' => Resting t s') s := by
  refine wp_mono (unlocked_withCmdLock False h (fun s₁ h₁ hm₁ => ?_)
    fun hx => by cases hx) fun _ s' h' => ⟨h'.1, h'.2⟩
  exact wp_mono (settling_entered (hp s₁ h₁ hm₁))
    fun _ _ h₂ => ⟨h₂.toEntered, h₂.unmarked⟩

/-- A refresh that raises under `_cmd_lock` strands no stop. -/
theorem entered_syncThen {f : State → State × Option Exc} {k : Unit → Py α}
    (h : Entered t s) (hcalm : State.Calm s (f s).1)
    (hk : Entered t (f s).1 → wp (taskContract t) cx (k ())
      (fun _ s' => Entered t s' ∧ State.Quits t s') (f s).1) :
    wp (taskContract t) cx (sync f >>= k)
      (fun _ s' => Entered t s' ∧ State.Quits t s') s := by
  have h₁ := h.calm hcalm
  refine wp_syncThen (fun _ _ hc => hc.allowed t) (hcalm.allowed t)
    (fun _ => hk h₁) fun e _ => ?_
  exact ⟨h₁.calm (State.calm_refused _),
    (State.refused_note ((hcalm h.inv).2 t).control.journal).quits⟩

/-- Under `_cmd_lock` a task that owes nothing keeps owing nothing. -/
theorem quits_harmless {c : Py α} (h : Entered t s) (hq : State.Quits t s)
    (hc : Harmless t c s) :
    wp (taskContract t) cx c
      (fun _ s' => Entered t s' ∧ State.Quits t s') s := by
  refine wp_mono (hc.task_wp h.inv (.of_lock h.cmdLock)) ?_
  rintro r s' ⟨hi', hs'⟩
  exact ⟨h.drift hs'.toDrift hi', hq.still (.of_lock h.cmdLock) hs'⟩

/-- A fault under `_cmd_lock` latches, so that no stop is owed. -/
theorem quits_faultThen {k : Unit → Py α} (h : Entered t s) (reason : String)
    (source : FaultSource) (hk : ∀ u s', Harmless t (k u) s') :
    wp (taskContract t) cx (fault t reason source >>= k)
      (fun _ s' => Entered t s' ∧ State.Quits t s') s := by
  have hcov : s.Covered t := .of_lock h.cmdLock
  refine wp_seq (calm_task h.inv hcov (fault_wp h.inv reason source)) ?_ ?_
  · rintro u s₁ ⟨⟨hmem, _⟩, hi₁, hs₁⟩
    exact quits_harmless (h.drift hs₁.toDrift hi₁)
      (quits_of_fault hcov hs₁ ⟨_, hmem⟩) (hk u s₁)
  · rintro e s₁ ⟨⟨hmem, _⟩, hi₁, hs₁⟩
    exact ⟨h.drift hs₁.toDrift hi₁, quits_of_fault hcov hs₁ ⟨_, hmem⟩⟩

/-- An OFF that is awaited under `_cmd_lock`. -/
theorem entered_settledWaitThen {w : Wait} {k : Outcome × Bool → Py α}
    (h : Entered t s)
    (hk : ∀ r s', Entered t s' → wp (taskContract t) cx (k r)
      (fun _ s' => Entered t s' ∧ State.Quits t s') s') :
    wp (taskContract t) cx (settledWait w >>= k)
      (fun _ s' => Entered t s' ∧ State.Quits t s') s := by
  refine wp_returnsThen (R := fun _ s' => Entered t s') ?_ hk
  refine wp_settledWait ((State.Covered.of_lock h.cmdLock).parked _) ?_
  exact fun s' r b hs' hi' _ _ => h.drift hs'.toDrift hi'

theorem harmless_finishStop (operation : String) (channels : Finset SmuChannel)
    (expected : Nat) (applied : Finset SmuChannel) (interrupted : Bool) :
    Harmless t
      (finishStop t operation channels expected applied interrupted) s := by
  refine .bind (harmless_reconcileHazardousSuccess _) fun ⟨_, cancelled⟩ _ => ?_
  refine .bind harmless_publishKeithleyChannelStates fun _ _ => ?_
  refine .bind (.raiseIf _) fun _ _ => ?_
  refine .bind .observeTerminalSafetyChildren fun _ s₁ => .read ?_
  split
  · exact .ret _
  · exact .ret _

/-- A stop whose channel names nothing was not announced. -/
theorem requestStopLocked_wp (h : Entered t s) (channel : ChannelArg)
    (expected : Nat)
    (hname : ∀ e, channel.scope = .error e → t ∉ s.control.stopOwners) :
    wp (taskContract t) cx (requestStopLocked t channel expected)
      (fun _ s' => Entered t s' ∧ State.Quits t s') s := by
  unfold requestStopLocked
  cases hscope : channel.scope with
  | error e => exact ⟨h, Or.inl (hname e hscope)⟩
  | ok scope =>
      change wp _ _ (reconcileHazardousSuccess t _ >>= _) _ s
      refine wp_seq (calm_task h.inv (.of_lock h.cmdLock)
        (reconcileHazardousSuccess_wp h.inv _)) ?_ ?_
      · rintro ⟨conflict, cancelled⟩ s₁ ⟨hr₁, hi₁, hs₁⟩
        have h₁ := h.drift hs₁.toDrift hi₁
        rcases hr₁ with hr₁ | hr₁
        · obtain ⟨rfl, rfl⟩ := Prod.mk.inj (Except.ok.inj hr₁)
          refine wp_readThen ?_
          dsimp only
          split
          · rename_i hlatched
            refine quits_harmless h₁ (Or.inr (Or.inl hlatched)) ?_
            exact .bind (harmless_ensureOutputOff _ _) fun _ _ =>
              .read (.ret _)
          · refine wp_seq (entered_loose h₁ (safeOff_wp hi₁
              (.of_lock h₁.cmdLock) _ _ _)) ?_ fun _ _ hr => ⟨hr.2.1, hr.1⟩
            rintro ⟨applied, interrupted⟩ s₂ ⟨hq₂, h₂, _⟩
            exact quits_harmless h₂ hq₂ (harmless_finishStop _ _ _ _ _)
        · have hq₁ := hr₁.quits h.cmdLock hs₁
          cases cancelled with
          | true => exact ⟨h₁, hq₁⟩
          | false =>
              cases conflict with
              | some reason => exact ⟨h₁, hq₁⟩
              | none =>
                  have hlatched := hr₁.latched h.cmdLock hs₁
                  refine wp_readThen ?_
                  dsimp only
                  rw [if_pos hlatched]
                  refine quits_harmless h₁ hq₁ ?_
                  exact .bind (harmless_ensureOutputOff _ _) fun _ _ =>
                    .read (.ret _)
      · rintro e s₁ ⟨hr₁ | hr₁, hi₁, hs₁⟩
        · cases hr₁
        · exact ⟨h.drift hs₁.toDrift hi₁, hr₁.quits h.cmdLock hs₁⟩

theorem keeps_requestStop (channel : ChannelArg) :
    Keeps t (Resting t) (requestStop t channel) s := by
  intro h cx
  refine announceAbort_then h _ fun s₁ h₁ hname => wp_readThen ?_
  refine wp_seq (unlocked_settledOwner h₁ fun s₂ h₂ hm₂ =>
    unlocked_withSettling h₂ fun s₃ h₃ hm₃ =>
      requestStopLocked_wp h₃ channel _ fun e he hm =>
        hname e he (hm₂ (hm₃ hm))) ?_ fun _ _ hr => hr
  exact fun r s₂ h₂ => Keeps.harmless (stable_resting t) (.deliver r) h₂ cx

theorem keeps_emergencyOff (channel : ChannelArg) :
    Keeps t (Resting t) (emergencyOff t channel) s := by
  intro h cx
  refine announceAbort_then h _ fun s₁ h₁ hname => ?_
  refine wp_seq (unlocked_settledOwner h₁ fun s₂ h₂ hm₂ => ?_) ?_
    fun _ _ hr => hr
  · refine wp_mono (unlocked_withCmdLock False h₂ (fun s₃ h₃ hm₃ => ?_)
      fun hx => by cases hx) fun _ s' h' => ⟨h'.1, h'.2⟩
    refine wp_mono (entered_loose h₃ (emergencyOffLocked_wp h₃.inv
      h₃.cmdLock channel fun e he hm => hname e he (hm₂ (hm₃ hm))))
      fun r s₄ h₄ => ?_
    exact ⟨h₄.2.1, h₄.1.1⟩
  · exact fun r s₂ h₂ => Keeps.harmless (stable_resting t) (.deliver r) h₂ cx

/-- Whoever turned everything off makes the transition, except from the states
that stay. -/
theorem dropAndMove_wp (reason : TransitionReason)
    {stays : List SafetyState} {cut : State → State}
    (hlatched : .faultLatched ∈ stays) (hrunning : .running ∉ stays)
    (hcalm : ∀ s', State.Calm s' (cut s'))
    (hcontrol : ∀ s', (cut s').control = s'.control) :
    wp (looseContract t) cx (dropAndMove t reason stays cut)
      (fun _ s' => State.Quits t s') s := by
  have hdrop : State.Loose t s (s.onControl
      (Control.dropStopped t {.smua, .smub})) :=
    State.loose_onControl (.dropStopped _ _)
  have hrefresh := State.calm_refresh
    (cut (s.onControl (Control.dropStopped t {.smua, .smub})))
  have hempty : (cut (s.onControl (Control.dropStopped t {.smua, .smub}))
      ).refreshOperatorSafetySnapshot.1.control.activeSources = ∅ := by
    simp only [State.refresh_control, hcontrol, State.onControl_control,
      Control.dropStopped]
    exact Finset.sdiff_eq_empty_iff_subset.mpr fun c _ => by cases c <;> simp
  refine wp_updateThen (hdrop.trans ((hcalm _).loose t)) ?_
  refine wp_syncThen (fun _ _ h => h.loose t) (hrefresh.loose t) (fun _ => ?_)
    fun e _ => (State.refused_note (List.suffix_refl _)).quits
  refine wp_readThen ?_
  dsimp only
  split
  · rename_i hstays
    refine wp_settleStopThen (k := pure) (quit_of_state ?_) ?_
    · rintro hrun
      exact hrunning (hrun ▸ hstays)
    · exact Or.inl (unmarked_settleStop t _)
  · rename_i hmoves
    refine wp_syncThen (fun _ _ h => h.loose t)
      ((State.calm_transition (fun hl => hmoves (hl ▸ hlatched))
        (Or.inl ⟨rfl, hempty⟩)).loose t) (fun _ => ?_)
      fun e _ => (State.refused_note (List.suffix_refl _)).quits
    refine wp_settleStopThen (k := pure)
      (quit_of_state (by simp [Control.transition])) ?_
    exact Or.inl (unmarked_settleStop t _)

/-! ## The reviewed source -/

theorem harmless_requireIdentity : Harmless t requireIdentity s := by
  refine .read ?_
  split
  · exact .ret _
  · exact .raise _

theorem finishDisconnect_wp (h : Entered t s) (context : String)
    (cancelled : Bool) :
    wp (taskContract t) cx (finishDisconnect t context cancelled)
      (fun _ s' => Entered t s' ∧ State.Quits t s') s := by
  refine wp_seq (entered_loose h (dropAndMove_wp _ (by simp) (by simp)
    (fun _ => .of_same rfl rfl rfl rfl) fun _ => rfl)) ?_
    fun _ _ h₁ => ⟨h₁.2.1, h₁.1⟩
  rintro _ s₁ ⟨hq₁, h₁, _⟩
  exact quits_harmless h₁ hq₁ (harmless_published fun _ _ =>
    .bind (.raiseIf _) fun _ _ => .ret _)

theorem disconnectAfterProof_wp (h : Entered t s) (context : String)
    (proof : Outcome) (cancelled : Bool) :
    wp (taskContract t) cx (disconnectAfterProof t context proof cancelled)
      (fun _ s' => Entered t s' ∧ State.Quits t s') s := by
  have hlast : ∀ (b : Bool) (u : Unit) s', Harmless t (do
      raiseIf b
      pure false : Py Bool) s' := fun b _ _ =>
    .bind (.raiseIf _) fun _ _ => .ret _
  let evidence := s.globalOffEvidenceForResult (proof.toOption.getD .none)
  have hevidence : State.Calm s (s.setOffEvidence evidence) :=
    .of_same rfl rfl rfl rfl
  have h₁ := h.calm hevidence
  refine wp_updateThen (hevidence.allowed t) (wp_readThen ?_)
  split
  · refine entered_syncThen h₁ (State.calm_refresh _) fun h₂ => ?_
    exact quits_faultThen h₂ _ _ (hlast cancelled)
  · refine entered_settledWaitThen h₁ fun r s₂ h₂ => wp_readThen ?_
    obtain ⟨result, disconnectCancelled⟩ := r
    dsimp only
    split
    · exact quits_faultThen h₂ _ _ (hlast _)
    · exact finishDisconnect_wp h₂ context _

theorem calm_revokeReviewedSource (s : State) :
    State.Calm s s.revokeReviewedSource.refreshOperatorSafetySnapshot.1 :=
  .of_same (by simp) (by simp) (by simp) (by simp)

theorem disconnectOwned_wp (h : Entered t s) (context : String) :
    wp (taskContract t) cx (do
      sync fun s => s.revokeReviewedSource.refreshOperatorSafetySnapshot
      note (.offRequested none)
      let (proof, cancelled) ← settledWait (.driver (.emergencyOff none))
      disconnectAfterProof t context proof cancelled)
      (fun _ s' => Entered t s' ∧ State.Quits t s') s := by
  refine entered_syncThen h (calm_revokeReviewedSource s) fun h₁ => ?_
  have hnote := State.calm_note (s :=
    s.revokeReviewedSource.refreshOperatorSafetySnapshot.1)
    (n := .offRequested none) t trivial trivial
  refine wp_updateThen (hnote.allowed t) ?_
  exact entered_settledWaitThen (h₁.calm hnote) fun r s₃ h₃ =>
    disconnectAfterProof_wp h₃ context r.1 r.2

theorem keeps_disconnectReviewedSource (context : String) :
    Keeps t (Resting t) (disconnectReviewedSource t context) s := by
  refine .bind (.harmless (stable_resting t) harmless_requireIdentity) ?_
  intro _ s₁ h₁ cx
  refine announceAbort_then h₁ _ fun s₂ h₂ _ => ?_
  refine wp_attemptThen (wp_mono (unlocked_withCmdLock True h₂
    (fun s₃ h₃ _ => ?_) fun _ _ => trivial) fun r s₄ h₄ => ?_)
  · refine wp_mono (Q := fun _ s' => Entered t s') ?_
      fun _ _ h₄ => ⟨h₄, fun _ => trivial⟩
    refine wp_seq (Keeps.harmless (stable_entered t)
      harmless_requireIdentity h₃ cx) ?_ fun _ _ h₄ => h₄
    intro _ s₄ h₄
    exact wp_mono (settling_entered (disconnectOwned_wp h₄ context))
      fun _ _ h₅ => h₅.toEntered
  · have hleave : State.Calm s₄
        (s₄.onControl (Control.leaveStop t .disconnect)) :=
      State.calm_onControl (Control.calm_leaveStop t .disconnect s₄.control)
    obtain ⟨hi₅, hs₅⟩ := hleave h₄.1.inv
    refine wp_updateThen (hleave.allowed t) ?_
    rw [wp_ofExcept]
    exact ⟨h₄.1.still (hs₅ t) hi₅, Control.leaveStop_unmarked t _ _⟩

theorem keeps_beginReviewedSourceConnect (context : String) :
    Keeps t (Resting t) (beginReviewedSourceConnect t context) s := by
  have hR := stable_resting t
  refine .bind (.harmless hR harmless_requireIdentity) fun _ s₁ => ?_
  refine .bind (.harmless hR (.update (State.calm_onControl
    (Control.calm_abort true s₁.control)))) fun _ s₂ => ?_
  refine keeps_withCmdLock fun s₃ => .harmless (stable_locked t) ?_
  refine .bind harmless_requireIdentity fun _ s₄ => .read ?_
  refine .bind (.sync (calm_revokeReviewedSource s₄)) fun _ s₅ => .read ?_
  split
  · exact .raise _
  · split
    · refine .bind (harmless_fault _ _) fun _ s₅ => .read ?_
      exact .updateThen (.of_same rfl rfl rfl rfl) (.ret _)
    · exact .read (.updateThen (.of_same rfl rfl rfl rfl) (.ret _))

theorem calm_completeConnectCut (s : State) :
    State.Calm s (completeConnectCut s).1 := by
  unfold completeConnectCut
  dsimp only
  refine State.Calm.trans ?_ (State.calm_refresh _)
  split
  · refine State.Calm.trans ?_ (State.calm_dropSources _ _)
    exact .of_same rfl rfl rfl rfl
  · exact .of_same rfl rfl rfl rfl

theorem keeps_completeReviewedSourceConnect (generation : Option Nat) :
    Keeps t (Resting t) (completeReviewedSourceConnect t generation) s := by
  refine keeps_withCmdLock fun s₁ => .harmless (stable_locked t) ?_
  refine .bind harmless_requireIdentity fun _ s₂ => .read ?_
  split
  · exact .ret _
  · exact .bind (.sync (calm_completeConnectCut s₂)) fun _ _ => .read (.ret _)

theorem keeps_markReviewedSourceUncertain (generation : Option Nat)
    (context : String) :
    Keeps t (Resting t) (markReviewedSourceUncertain t generation context) s := by
  have hR := stable_resting t
  refine .bind (.harmless hR harmless_requireIdentity) fun _ s₁ => .read ?_
  split
  · exact .ret _
  · refine .bind (.harmless hR (.update (State.calm_onControl
      (Control.calm_abort true s₁.control)))) fun _ s₂ => ?_
    refine keeps_withCmdLock fun s₃ => .harmless (stable_locked t) ?_
    refine .bind harmless_requireIdentity fun _ s₄ => .read ?_
    split
    · exact .ret _
    · refine .bind (.sync (calm_revokeReviewedSource s₄)) fun _ s₅ => .read ?_
      split
      · exact harmless_fault _ _
      · exact .ret _

theorem harmless_abandonReviewedSourceConnect (generation : Option Nat) :
    Harmless t (abandonReviewedSourceConnect generation) s := by
  refine .bind harmless_requireIdentity fun _ s₁ => .read ?_
  split
  · exact .ret _
  · refine .updateThen (State.calm_onControl
      (Control.calm_abort true s₁.control)) ?_
    exact .sync (calm_revokeReviewedSource _)

theorem harmless_failedTargetUpdate (channel : SmuChannel) (e : Exc)
    (cancelled : Bool) :
    Harmless t (failedTargetUpdate t channel e cancelled) s := by
  have hlast : ∀ (b : Bool) s₁, Harmless t (do
      raiseIf (cancelled || b)
      let s ← Coro.read
      pure
        ({ ok := false
           channel := some channel
           pTarget := runtimeTarget s channel
           uncertain := ["p_target"]
           error := some ("Power-target update outcome is uncertain on " ++
             channel.text ++ ": " ++ e.typeName) } : Reply)) s₁ :=
    fun b s₁ => .bind (.raiseIf _) fun _ _ => .read (.ret _)
  refine .read (.bind (harmless_fault _ _) fun _ s₁ => ?_)
  dsimp only
  split
  · refine .read (.bind (harmless_settledOff _ _) fun ⟨proved, off⟩ s₂ => ?_)
    dsimp only
    split
    · refine .bind (.sync ((State.calm_dropSources _ _).trans
        (State.calm_refresh _))) fun _ _ => ?_
      exact .bind (.ret _) fun _ _ => hlast _ _
    · exact .bind (.ret _) fun _ _ => hlast _ _
  · exact .bind (.ret _) fun _ _ => hlast _ _

theorem keeps_settledEmergencyOff (channel : ChannelArg) :
    Keeps t (Locked t) (settled (emergencyOffLocked t channel)) s := by
  intro h cx
  have hL := stable_locked t
  refine wp_settledTask ((hL.covered s h).parked _) fun s₁ hs₁ hi₁ => ?_
  have h₁ := hL.still s s₁ h hs₁ hi₁
  refine wp_mono (entered_loose h₁.toEntered (emergencyOffLocked_wp h₁.inv
    h₁.cmdLock channel fun _ _ => h₁.unmarked)) fun r s₂ h₂ => ?_
  have h₂ : Locked t s₂ := ⟨h₂.2.1, h₂.1.1⟩
  exact ⟨(hL.covered s₂ h₂).parked _, fun s₃ _ hs₃ hi₃ _ =>
    hL.still s₂ s₃ h₂ hs₃ hi₃⟩

theorem keeps_overtakenTargetUpdate (channel : SmuChannel)
    (fullGeneration : Nat) :
    Keeps t (Locked t) (overtakenTargetUpdate t channel fullGeneration) s := by
  have hL := stable_locked t
  refine .read (.bind (keeps_settledEmergencyOff _) ?_)
  exact fun _ _ => .bind (.harmless hL (.raiseIf _)) fun _ _ => .read (.ret _)

theorem keeps_updateTarget (pTarget : PyFloat) (channel : ChannelArg) :
    Keeps t (Resting t) (updateTarget t pTarget channel) s := by
  have hL := stable_locked t
  refine keeps_withCmdLock fun s₁ => .bind (.ofExcept _) fun channel s₂ => ?_
  refine .read ?_
  split
  · exact .ret _
  · refine .bind (.harmless hL (.settledWait _)) fun ⟨result, cancelled⟩ _ => ?_
    cases result with
    | error e => exact .harmless hL (harmless_failedTargetUpdate _ _ _)
    | ok value =>
        dsimp only
        split
        · exact .harmless hL (.bind (harmless_fault _ _) fun _ _ => .raise _)
        · refine .bind (.harmless hL .observeTerminalSafetyChildren) ?_
          intro _ s₃
          refine .read ?_
          split
          · exact keeps_overtakenTargetUpdate _ _
          · exact .ret _

theorem calm_setRuntimeLimit (kind : LimitKind) (channel : SmuChannel)
    (value : PyFloat) (s : State) :
    State.Calm s (setRuntimeLimit kind channel value s) :=
  .of_same rfl rfl rfl (by simp [setRuntimeLimit])

theorem harmless_writeLimit (kind : LimitKind) (channel : SmuChannel)
    (generation : Nat) (applied : List (String × PyFloat)) (value : PyFloat) :
    Harmless t (writeLimit t kind channel generation applied value) s := by
  refine .read ?_
  dsimp only
  split
  · exact .raise _
  · split
    · exact .updateThen (calm_setRuntimeLimit _ _ _ _) (.ret _)
    · refine .bind (.settledWait _) fun ⟨result, cancelled⟩ s₁ => ?_
      dsimp only
      split
      · refine .bind (harmless_fault _ _) fun _ _ => ?_
        exact .bind (.raiseIf _) fun _ _ => .ret _
      · refine .updateThen (calm_setRuntimeLimit _ _ _ _) ?_
        split
        · exact .bind (harmless_fault _ _) fun _ _ => .raise _
        · refine .bind .observeTerminalSafetyChildren fun _ s₂ => .read ?_
          split
          · exact .ret _
          · exact .ret _

theorem harmless_writeOptionalLimit (kind : LimitKind) (channel : SmuChannel)
    (generation : Nat) (applied : List (String × PyFloat))
    (value : Option PyFloat) :
    Harmless t
      (writeOptionalLimit t kind channel generation applied value) s := by
  cases value with
  | none => exact .ret _
  | some value => exact harmless_writeLimit _ _ _ _ _

theorem keeps_updateLimits (channel : ChannelArg)
    (vComp iComp : Option PyFloat) :
    Keeps t (Resting t) (updateLimits t channel vComp iComp) s := by
  refine keeps_withCmdLock fun s₁ => .harmless (stable_locked t) ?_
  refine .bind (.ofExcept _) fun channel s₂ => .read ?_
  dsimp only
  split
  · exact .ret _
  · split
    · exact .ret _
    · refine .bind (harmless_writeOptionalLimit _ _ _ _ _) fun r s₃ => ?_
      cases r with
      | error reply => exact .ret _
      | ok applied =>
          refine .bind (harmless_writeOptionalLimit _ _ _ _ _) fun r s₄ => ?_
          cases r with
          | error reply => exact .ret _
          | ok applied => exact .read (.ret _)

theorem harmless_acknowledgeWatchdog : Harmless t acknowledgeWatchdog s := by
  refine .read ?_
  split
  · exact .ret _
  · dsimp only
    split
    · refine .bind (.ret _) fun answer s₁ => ?_
      split
      · exact .ret _
      · exact .raise _
      · exact .ret _
    · refine .bind (.attempt (.awaiting _)) fun answer s₁ => ?_
      split
      · exact .ret _
      · exact .raise _
      · exact .ret _

theorem locked_note {n : Note} (h : Locked t s) (hown : n.owner = some t)
    (hj : n.Justified s.control.journal)
    (howed : ∀ code, owed (n :: s.control.journal) = some code →
      owed s.control.journal = some code) :
    State.Allowed t s (s.note n) ∧ Locked t (s.note n) := by
  have hallowed : State.Allowed t s (s.note n) :=
    State.allowed_of_control rfl rfl rfl
      (.own (.note _ n hown (fun _ => h.cmdLock) hj howed))
  exact ⟨hallowed, ⟨(hallowed h.inv).1, h.cmdLock, h.runRequestLock,
    fun code hc => h.warned code (howed code hc)⟩, h.unmarked⟩

theorem locked_clearAcknowledged (h : Locked t s) (reason : String) :
    State.Allowed t s (clearAcknowledged t reason s).1 ∧
      Locked t (clearAcknowledged t reason s).1 := by
  generalize hs' : (clearAcknowledged t reason s).1 = s'
  have hc : s'.control =
      (s.control.note (.acknowledgeCleared t s.control.activeSources)
        ).transition .manualRecovery (.faultAcknowledged reason) := by
    simp [← hs', clearAcknowledged]
  have hallowed : State.Allowed t s s' :=
    State.allowed_of_control (by simp [← hs', clearAcknowledged])
      (by simp [← hs', clearAcknowledged]) (by simp [← hs', clearAcknowledged])
      (hc ▸ .own (.acknowledge _ reason h.cmdLock))
  refine ⟨hallowed, ⟨(hallowed h.inv).1, ?_, ?_, ?_⟩, ?_⟩
  · rw [hc]
    exact h.cmdLock
  · rw [hc]
    exact h.runRequestLock
  · rw [hc]
    exact h.warned
  · rw [hc]
    exact h.unmarked

theorem justified_acknowledgeReturned {s' : State} (h : Locked t s)
    (reason : String)
    (hs : State.Still t (clearAcknowledged t reason s).1 s') :
    (Note.acknowledgeReturned t s'.control.state).Justified
      s'.control.journal := by
  rintro ⟨source, hmem⟩
  have hjournal : (clearAcknowledged t reason s).1.control.journal =
      .transition s.control.state .manualRecovery (.faultAcknowledged reason) ::
        .acknowledgeCleared t s.control.activeSources :: s.control.journal := by
    simp [clearAcknowledged, Control.transition, Control.note]
  have hlock : (clearAcknowledged t reason s).1.control.cmdLock = some t :=
    (locked_clearAcknowledged h reason).2.cmdLock
  refine hs.control.faults hlock source ?_
  rw [← added_spec hs.control.journal, sinceLast_append, hjournal] at hmem
  · rcases List.mem_append.mp hmem with hadded | hold
    · exact hjournal ▸ hadded
    · simp [sinceLast, Note.isCleared] at hold
  · intro n hn
    have hown := hs.control.own n hn
    cases n <;> simp_all [Note.isCleared, Note.owner, Note.shared]

theorem keeps_acknowledgeFault (reason : String) :
    Keeps t (Resting t) (acknowledgeFault t reason) s := by
  have hL := stable_locked t
  refine keeps_withCmdLock fun s₁ => .read ?_
  split
  · exact .ret _
  · intro h₁ cx
    obtain ⟨hallowed, h₂⟩ :=
      locked_note (n := .acknowledgeAdmitted t) h₁ rfl trivial fun _ hc => hc
    refine wp_updateThen hallowed ?_
    have hreason : State.Calm (s₁.note (.acknowledgeAdmitted t))
        { s₁.note (.acknowledgeAdmitted t) with
          fault := { (s₁.note (.acknowledgeAdmitted t)).fault with
            recoveryReason := strip reason } } := .of_same rfl rfl rfl rfl
    refine wp_updateThen (hreason.allowed t) ?_
    refine wp_seq (Keeps.harmless hL harmless_acknowledgeWatchdog
      (h₂.calm hreason) cx) ?_
      fun _ _ h₄ => h₄
    intro acknowledged s₄ h₄
    split
    · obtain ⟨hclear, h₅⟩ := locked_clearAcknowledged h₄ reason
      refine wp_syncThen (fun _ _ hc => hc.allowed t) hclear (fun _ => ?_)
        fun e _ => ?_
      · refine wp_seq (harmless_publishKeithleyChannelStates.task_wp h₅.inv
          (.of_lock h₅.cmdLock)) ?_ fun _ s₆ h₆ => hL.still _ _ h₅ h₆.2 h₆.1
        rintro _ s₆ ⟨hi₆, hs₆⟩
        have h₆ := hL.still _ _ h₅ hs₆ hi₆
        refine wp_readThen ?_
        obtain ⟨hnote, h₇⟩ := locked_note h₆ rfl
          (justified_acknowledgeReturned h₄ reason hs₆) fun _ hc => hc
        exact wp_updateThen hnote h₇
      · exact h₅.calm (State.calm_refused _)
    · exact h₄

/-! ## Persistence, predictor and interlocks -/

theorem keeps_setCooldownPredictorStatus (available : Bool) (reason : String) :
    Keeps t (Resting t) (setCooldownPredictorStatus t available reason) s :=
  keeps_withCmdLock fun _ => .harmless (stable_locked t)
    (.sync (.of_same (by simp) (by simp) (by simp) (by simp)))

theorem harmless_onPersistenceFailure (reason : String) :
    Harmless t (onPersistenceFailure t reason) s :=
  .bind (.sync (.of_same (by simp) (by simp) (by simp) (by simp)))
    fun _ _ => harmless_fault _ _

theorem harmless_onFailedPollPersistenceFailure (instrument reason : String) :
    Harmless t (onFailedPollPersistenceFailure t instrument reason) s :=
  .updateThen (.of_same rfl rfl rfl rfl) (harmless_onPersistenceFailure _)

/-- Without a driver the soft interlock strands its stop; with one it ends in a
fault, or like an uninterrupted stop. -/
theorem softStopLocked_wp (h : Entered t s) (name reason : String) :
    wp (taskContract t) cx (softStopLocked t name reason)
      (fun _ s' => Entered t s' ∧ State.Quits t s') s := by
  refine wp_readThen ?_
  split
  · have hdrop : State.Loose t s (s.onControl
        (Control.dropStopped t {.smua, .smub})) :=
      State.loose_onControl (.dropStopped _ _)
    have hleave : State.Calm (s.onControl
        (Control.dropStopped t {.smua, .smub}))
        (s.onControl fun c => (c.dropStopped t {.smua, .smub}).leaveStop t
          .softInterlock) :=
      State.calm_onControl (Control.calm_leaveStop t .softInterlock _)
    have hretain : State.Calm (s.onControl fun c =>
        (c.dropStopped t {.smua, .smub}).leaveStop t .softInterlock)
        (s.onControl fun c =>
          (c.dropStopped t {.smua, .smub}).leaveStop t .softInterlock
          ).retainConnection := .of_same rfl rfl rfl rfl
    have hall := hdrop.trans ((hleave.trans hretain).loose t)
    refine wp_updateThen hall.allowed ?_
    exact ⟨h.drift (hall h.inv).2.1 (hall h.inv).1,
      Or.inl (Control.leaveStop_unmarked t _ _)⟩
  · have hnote := State.calm_note (s := s) (n := .offRequested none) t trivial
      trivial
    refine wp_updateThen (hnote.allowed t) ?_
    refine entered_settledWaitThen (h.calm hnote) fun r s₂ h₂ => ?_
    obtain ⟨result, cancelled⟩ := r
    cases result with
    | error e => exact quits_faultThen h₂ _ _ fun _ _ => .ret _
    | ok value =>
        dsimp only
        split
        · exact quits_faultThen h₂ _ _ fun _ _ => .ret _
        · refine wp_seq (entered_loose h₂ (dropAndMove_wp _ (by simp) (by simp)
            (fun _ => .of_same rfl rfl rfl rfl) fun _ => rfl)) ?_
            fun _ _ h₃ => ⟨h₃.2.1, h₃.1⟩
          rintro _ s₃ ⟨hq₃, h₃, _⟩
          exact quits_harmless h₃ hq₃ (harmless_published fun _ _ => .ret _)

theorem harmless_onInterlockTripOwned (name channel : String) (value : PyFloat)
    {action : InterlockAction} (h : action ≠ .stopSource) :
    Harmless t (onInterlockTripOwned t name channel value action) s := by
  cases action with
  | stopSource => exact absurd rfl h
  | _ => exact harmless_fault _ _

theorem softStop_wp (h : Unlocked t s) (name channel : String)
    (value : PyFloat) :
    wp (taskContract t) false
      (onInterlockTripOwned t name channel value .stopSource)
      (fun _ s' => Resting t s') s := by
  have habort : State.Calm s
      (s.onControl (Control.registerAbortIntent true)) :=
    State.calm_onControl (Control.calm_abort true s.control)
  obtain ⟨hi₁, hs₁⟩ := habort h.inv
  refine wp_updateThen (habort.allowed t) ?_
  refine wp_seq (unlocked_withSettling (h.still (hs₁ t) hi₁) fun s₃ h₃ _ =>
    softStopLocked_wp h₃ name _) ?_ fun _ _ hr => hr
  exact fun b s₂ h₂ =>
    Keeps.harmless (stable_resting t) (.raiseIf _) h₂ false

theorem keeps_onInterlockTrip (name channel : String) (value : PyFloat)
    (action : InterlockAction) :
    Keeps t (Resting t) (onInterlockTrip t name channel value action) s := by
  have hR := stable_resting t
  have hsettled : ∀ {action : InterlockAction} s₁, action ≠ .stopSource →
      Keeps t (Resting t) (do
        let r ← settled (onInterlockTripOwned t name channel value action)
        deliver r) s₁ := fun s₁ hne =>
    .harmless hR (.bind (.settled fun _ =>
      harmless_onInterlockTripOwned _ _ _ hne) fun _ _ => .deliver _)
  unfold onInterlockTrip
  cases action with
  | warning =>
      simp only [reduceCtorEq, if_true, if_false]
      exact hsettled s (by decide)
  | emergencyOff =>
      simp only [reduceCtorEq, if_false]
      exact .bind (.harmless hR (.update (.of_same rfl rfl rfl rfl)))
        fun _ s₁ => hsettled s₁ (by decide)
  | other text =>
      simp only [reduceCtorEq, if_false]
      exact .bind (.harmless hR (.update (.of_same rfl rfl rfl rfl)))
        fun _ s₁ => hsettled s₁ (by simp)
  | stopSource =>
      simp only [reduceCtorEq, if_true, if_false]
      refine .bind (.harmless hR (.update (.of_same rfl rfl rfl rfl))) ?_
      intro _ s₁ h₁ cx
      refine announceAbort_then h₁ _ fun s₂ h₂ _ => ?_
      refine wp_seq (unlocked_settledOwner h₂ fun s₃ h₃ _ =>
        softStop_wp h₃ _ _ _) ?_ fun _ _ hr => hr
      exact fun r s₄ h₄ => Keeps.harmless hR (.deliver r) h₄ cx

/-! ## Blind guards and the monitor -/

theorem harmless_logBlindGuard {recorded : State → State}
    (h : ∀ s, State.Calm s (recorded s)) :
    Harmless t (logBlindGuard recorded) s := by
  refine .bind (.settledWait _) fun ⟨log, cancelled⟩ s₁ => ?_
  refine .bind (.raiseIf _) fun _ s₂ => ?_
  split
  · exact .updateThen (h s₂) (.ret _)
  · exact .ret _

theorem harmless_adviseBlindGuard (name channel : String)
    (reasons : List String) (value : PyFloat) :
    Harmless t (adviseBlindGuard name channel reasons value) s := by
  refine .read (.bind (.update (.of_same rfl rfl rfl rfl)) fun _ s₁ => ?_)
  dsimp only
  split
  · refine .bind .refresh fun _ s₂ => ?_
    split
    · exact .ret _
    · exact harmless_logBlindGuard fun _ => .of_same rfl rfl rfl rfl
  · split
    · exact .ret _
    · exact harmless_logBlindGuard fun _ => .of_same rfl rfl rfl rfl

theorem harmless_onInterlockDeadChannel (name channel : String)
    (reasons : List String) (value : PyFloat) :
    Harmless t (onInterlockDeadChannel t name channel reasons value) s := by
  have hlast : ∀ s₁, Harmless t (do
      let s ← Coro.read
      if s.control.state = .faultLatched then pure true
      else if s.control.state ≠ .runPermitted ∧ s.control.state ≠ .running then
        pure false
      else do
        fault t
          ("Интерлок-канал " ++ channel ++ " ('" ++ name ++
            "'): показания устойчиво непригодны при активном источнике")
          .safetyManager
        pure true) s₁ := by
    intro s₁
    refine .read ?_
    split
    · exact .ret _
    · split
      · exact .ret _
      · exact .bind (harmless_fault _ _) fun _ _ => .ret _
  unfold onInterlockDeadChannel
  split
  · exact harmless_adviseBlindGuard _ _ _ _
  · refine .read (.updateThen (.of_same rfl rfl rfl rfl) ?_)
    split
    · exact .bind .refresh fun _ s₁ => hlast s₁
    · exact hlast _

theorem harmless_faultOr {rest : Py Unit} (reason : Option String)
    (h : Harmless t rest s) : Harmless t (faultOr t reason rest) s := by
  cases reason with
  | some reason => exact harmless_fault _ _
  | none => exact h

theorem harmless_watchdogFault : Harmless t watchdogFault s := by
  have htruthy : ∀ (b : Bool) (x : Option String) s₁, Harmless t
      (if b then pure x else pure none : Py (Option String)) s₁ := by
    intro b x s₁
    cases b with
    | true => exact .ret _
    | false => exact .ret _
  refine .read ?_
  split
  · exact .ret _
  · dsimp only
    split
    · refine .bind (.ret _) fun answer s₁ => ?_
      split
      · exact htruthy _ _ _
      · exact .raise _
      · exact .ret _
    · refine .bind (.ret _) fun answer s₁ => ?_
      split
      · exact htruthy _ _ _
      · exact .raise _
      · exact .ret _
    · refine .bind (.attempt (.awaiting _)) fun answer s₁ => ?_
      split
      · exact htruthy _ _ _
      · exact .raise _
      · exact .ret _

theorem harmless_activeChecks (now : Int) :
    Harmless t (activeChecks t now) s := by
  refine .read (harmless_faultOr _ ?_)
  split
  · refine .bind harmless_watchdogFault fun tripped s₁ => ?_
    refine harmless_faultOr _ (.read (harmless_faultOr _ (.read ?_)))
    exact harmless_faultOr _ (.ret _)
  · exact harmless_faultOr _ (.ret _)

theorem harmless_checkWatchdogEvidence :
    Harmless t (runChecks.checkWatchdogEvidence t s) s := by
  have hready : ∀ reason, s.control.state = .safeOff ∨
      s.control.state = .manualRecovery →
      State.Calm s (s.transition .ready reason).1 := by
    intro reason hs
    refine State.calm_transition ?_ (Or.inr (Or.inr ⟨rfl, hs⟩))
    rcases hs with hs | hs <;> simp [hs]
  unfold runChecks.checkWatchdogEvidence
  split
  · exact harmless_fault _ _
  · split
    · rename_i hs
      split
      · exact .sync (hready _ (Or.inr hs))
      · exact .ret _
    · rename_i hs
      split
      · exact .sync (hready _ (Or.inl hs))
      · exact .ret _
    · exact harmless_activeChecks _
    · exact harmless_activeChecks _
    · exact .ret _
    · exact .ret _

theorem harmless_checkQualification :
    Harmless t (runChecks.checkQualification t s) s := by
  unfold runChecks.checkQualification
  split
  · split
    · exact harmless_fault _ _
    · exact harmless_checkWatchdogEvidence
  · exact harmless_checkWatchdogEvidence

theorem harmless_runChecks : Harmless t (runChecks t) s := by
  refine .bind .refresh fun _ s₁ => .read ?_
  cases hhazard : s₁.currentUnmanagedOutputHazard with
  | error e => exact .raise e
  | ok hazard =>
      cases hazard with
      | none => exact harmless_checkQualification
      | some pair =>
          obtain ⟨channel, reason⟩ := pair
          change Harmless t (if s₁.control.state ≠ .faultLatched then _
            else _) s₁
          split
          · exact harmless_fault _ _
          · exact harmless_checkQualification

theorem harmless_monitorTurn : Harmless t (monitorTurn t) s := by
  refine .read (.bind harmless_runChecks fun _ _ => ?_)
  refine .bind harmless_publishState fun _ s₁ => .read ?_
  split
  · exact harmless_publishKeithleyChannelStates
  · exact .ret _

end Py

end Safety
end CryoDaq
