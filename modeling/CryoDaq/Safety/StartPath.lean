import CryoDaq.Safety.OffPath

/-!
# What a Start guarantees

The coroutines of `request_run`, from the innermost exit to the whole
operation.

**Locks.**  `Held` is a Start that holds both locks.  `Later` relates two
states of it: what the journal may have gained meanwhile, and that the warning
owed for a consumed latch is not forgotten.

**Exits.**  `Undone` is a Start that ended without a positive receipt after its
source was touched; `Exit` adds the positive receipt and the ways in which the
rollback is incomplete.
-/

namespace CryoDaq
namespace Safety

open Async Journal

/-- Notes that only the holder of `_cmd_lock` writes are the only ones that
create a debt. -/
theorem owed_append {d j : List Note} {code : WarningCode}
    (hd : ∀ n ∈ d, n.locked = false) (h : owed (d ++ j) = some code) :
    owed j = some code := by
  induction d with
  | nil => exact h
  | cons n d ih =>
      have hrest := ih fun m hm => hd m (List.mem_cons_of_mem _ hm)
      have hn := hd n List.mem_cons_self
      cases n <;> simp_all [owed, Note.locked]

/-- A Start that holds both locks. -/
structure Held (t : Nat) (s : State) : Prop where
  inv : s.Inv
  cmdLock : s.control.cmdLock = some t
  runRequestLock : s.control.runRequestLock = some t
  unmarked : t ∉ s.control.stopOwners

/-- A later state `s'` of the same Start. -/
structure Later (t : Nat) (s s' : State) : Prop where
  journal : s.control.journal <:+ s'.control.journal
  own : ∀ n ∈ added s.control.journal s'.control.journal, n.isStart t = false
  wiring : s'.wiring = s.wiring
  driver : s'.env.driver.isSome = s.env.driver.isSome
  owed : ∀ code, Journal.owed s'.control.journal = some code →
    Journal.owed s.control.journal = some code
  warned : s.control.WarningKept → s'.control.WarningKept

section Relations

variable {t : Nat} {channel : SmuChannel} {scope : Option SmuChannel}
  {s s' s'' : State}

theorem Held.covered (h : Held t s) : s.Covered t := .of_lock h.cmdLock

theorem Held.still (h : Held t s) (hs : State.Still t s s') (hi : s'.Inv) :
    Held t s' where
  inv := hi
  cmdLock := hs.control.cmdLock.mpr h.cmdLock
  runRequestLock := hs.control.runRequestLock.mpr h.runRequestLock
  unmarked := fun hm => h.unmarked (hs.unmarked hm)

theorem Held.calm (h : Held t s) (hcalm : State.Calm s s') : Held t s' :=
  h.still ((hcalm h.inv).2 t) (hcalm h.inv).1

theorem Later.refl (t : Nat) (s : State) : Later t s s where
  journal := List.suffix_refl _
  own := by simp
  wiring := rfl
  driver := rfl
  owed := fun _ h => h
  warned := fun h => h

theorem Later.trans (h : Later t s s') (h' : Later t s' s'') :
    Later t s s'' where
  journal := h.journal.trans h'.journal
  own := by
    intro n hn
    rcases (mem_added_trans h.journal h'.journal n).mp hn with hn | hn
    · exact h'.own n hn
    · exact h.own n hn
  wiring := h'.wiring.trans h.wiring
  driver := h'.driver.trans h.driver
  owed := fun code hc => h.owed code (h'.owed code hc)
  warned := fun hw => h'.warned (h.warned hw)

theorem isStart_of_shared {n : Note}
    (h : n.owner = some t → n.shared = true) : n.isStart t = false := by
  cases n with
  | startSettled u channel failed state =>
      by_contra hn
      simp only [Note.isStart, Bool.not_eq_false] at hn
      have hu : u = t := beq_iff_eq.mp (Bool.and_eq_true_iff.mp hn).1
      have := h (congrArg some hu)
      cases this
  | _ => rfl

theorem Later.of_drift (h : State.Drift t s s')
    (hl : s.control.cmdLock = some t) : Later t s s' where
  journal := h.control.journal
  own := fun n hn => isStart_of_shared (h.control.own n hn)
  wiring := h.wiring
  driver := h.driver
  owed := by
    intro code hc
    rw [← added_spec h.control.journal] at hc
    exact owed_append (h.control.locked hl) hc
  warned := h.control.warned hl

theorem Later.of_still (h : State.Still t s s')
    (hl : s.control.cmdLock = some t) : Later t s s' :=
  .of_drift h.toDrift hl

theorem Later.of_calm (h : Held t s) (hcalm : State.Calm s s') : Later t s s' :=
  .of_still ((hcalm h.inv).2 t) h.cmdLock

theorem OffRequested.from (h : OffRequested t scope s' s'')
    (hl : Later t s s') (hj : s'.control.journal <:+ s''.control.journal) :
    OffRequested t scope s s'' := by
  intro hdriver
  obtain ⟨n, hn, hc⟩ := h (hl.driver.trans hdriver)
  exact ⟨n, (mem_added_trans hl.journal hj n).mpr (Or.inl hn), hc⟩

theorem OffRequested.till (h : OffRequested t scope s s')
    (hl : Later t s s') (hl' : Later t s' s'') : OffRequested t scope s s'' :=
  h.after hl.journal hl'.journal

end Relations

namespace Py

variable {α : Type} {t : Nat} {cx : Bool} {s : State}

theorem held_calm {c : Py α} {Q : Except Exc α → State → Prop}
    (h : Held t s) (hc : wp (calmContract t) cx c Q s) :
    wp (taskContract t) cx c (fun r s' =>
      Q r s' ∧ Held t s' ∧ Later t s s' ∧ State.Still t s s') s := by
  refine wp_mono (calm_task h.inv h.covered hc) ?_
  rintro r s' ⟨hq, hi, hs⟩
  exact ⟨hq, h.still hs hi, .of_still hs h.cmdLock, hs⟩

theorem held_harmless {c : Py α} (h : Held t s) (hc : Harmless t c s) :
    wp (taskContract t) cx c (fun _ s' =>
      Held t s' ∧ Later t s s' ∧ State.Still t s s') s :=
  wp_mono (held_calm h (hc h.inv cx)) fun _ _ hr => hr.2

theorem held_refused (h : Held t s) : Held t (s.note .snapshotRefused) ∧
    Later t s (s.note .snapshotRefused) :=
  ⟨h.calm (State.calm_refused s), .of_calm h (State.calm_refused s)⟩

theorem held_sync {f : State → State × Option Exc} (h : Held t s)
    (hcalm : State.Calm s (f s).1) :
    wp (taskContract t) cx (sync f) (fun r s' =>
      ((r = .ok () ∧ s' = (f s).1) ∨ ((∃ e, r = .error e) ∧
        State.Refused s s' ∧ s' = (f s).1.note .snapshotRefused)) ∧
        Held t s' ∧ Later t s s' ∧ State.Still t s s') s :=
  held_calm h (sync_wp h.inv hcalm)

theorem held_settled {p : Py α} {Q : Except Exc α → State → Prop}
    (h : Held t s)
    (hp : ∀ s₁, Held t s₁ → State.Still t s s₁ → Later t s s₁ →
      wp (taskContract t) false p (fun r s₂ => Held t s₂ ∧ Later t s₁ s₂ ∧
        ∀ s₃, State.Still t s₂ s₃ → Later t s₂ s₃ → Q r s₃) s₁) :
    wp (taskContract t) cx (settled p) (Returns fun x s' =>
      Q x.1 s' ∧ Held t s' ∧ Later t s s') s := by
  refine wp_settledTask (h.covered.parked _) fun s₁ h₁ hi₁ => ?_
  have h₁ : State.Still t s s₁ := h₁
  have hl₁ : Later t s s₁ := .of_still h₁ h.cmdLock
  refine wp_mono (hp s₁ (h.still h₁ hi₁) h₁ hl₁) ?_
  rintro r s₂ ⟨h₂, hl₂, hq⟩
  refine ⟨h₂.covered.parked _, fun s₃ b h₃ hi₃ _ => ?_⟩
  have h₃ : State.Still t s₂ s₃ := h₃
  have hl₃ : Later t s₂ s₃ := .of_still h₃ h₂.cmdLock
  exact ⟨hq s₃ h₃ hl₃, h₂.still h₃ hi₃, (hl₁.trans hl₂).trans hl₃⟩

theorem held_settledHarmless {c : Py α} (h : Held t s)
    (hc : ∀ s', Harmless t c s') :
    wp (taskContract t) cx (settled c) (Returns fun _ s' =>
      State.Still t s s' ∧ Held t s' ∧ Later t s s') s := by
  refine held_settled (Q := fun _ s' => State.Still t s s') h ?_
  intro s₁ h₁ hs₁ hl₁
  refine wp_mono (held_harmless h₁ (hc s₁)) ?_
  rintro r s₂ ⟨h₂, hl₂, hs₂⟩
  exact ⟨h₂, hl₂, fun s₃ hs₃ _ => (hs₁.trans hs₂).trans hs₃⟩

/-! ## The rollback of a Start -/

theorem held_emergencyOff (h : Held t s) :
    wp (taskContract t) cx (settled (emergencyOffLocked t .omitted))
      (Returns fun x s' =>
        ((∀ reply, x.1 = .ok reply → s'.control.state = .faultLatched ∨
          ∀ channel, channel ∉ s'.control.activeSources) ∧
        OffRequested t none s s') ∧ Held t s' ∧ Later t s s') s := by
  refine held_settled (Q := fun r s' =>
    (∀ reply, r = .ok reply → s'.control.state = .faultLatched ∨
      ∀ channel, channel ∉ s'.control.activeSources) ∧
    OffRequested t none s s') h ?_
  intro s₁ h₁ _ hl₁
  refine wp_mono (loose_task h₁.inv
    (emergencyOffLocked_wp h₁.inv h₁.cmdLock .omitted
      fun _ he => by cases he)) ?_
  rintro r s₂ ⟨⟨hunmarked, hr⟩, hi₂, hd₂⟩
  obtain ⟨hoff, hsettled⟩ := hr rfl
  have hl₂ : Later t s₁ s₂ := .of_drift hd₂ h₁.cmdLock
  have hlock := hd₂.control.cmdLock.mpr h₁.cmdLock
  have hrun := hd₂.control.runRequestLock.mpr h₁.runRequestLock
  refine ⟨⟨hi₂, hlock, hrun, hunmarked⟩, hl₂, fun s₃ h₃ hl₃ => ⟨?_, ?_⟩⟩
  · intro reply hok
    rcases hsettled reply hok with hlatched | hactive
    · exact Or.inl (h₃.control.latched hlock hlatched)
    · refine Or.inr fun channel hmem => ?_
      refine hactive h₁.runRequestLock channel ?_ (h₃.control.active hrun hmem)
      cases channel <;> simp [State.resolveChannels]
  · exact (hoff.till hl₂ hl₃).from hl₁ (hl₂.trans hl₃).journal

theorem held_fault (h : Held t s) (reason : String) (source : FaultSource) :
    wp (taskContract t) cx (fault t reason source) (fun _ s' =>
      s'.control.state = .faultLatched ∧
        (s.control.state ≠ .faultLatched → OffRequested t none s s') ∧
        Held t s' ∧ Later t s s') s := by
  refine wp_mono (held_calm h (fault_wp h.inv reason source)) ?_
  rintro r s' ⟨⟨hmem, hoff⟩, h', hl', hs'⟩
  exact ⟨latched_of_mem hs'.toDrift h.cmdLock ⟨_, hmem⟩, hoff, h', hl'⟩

theorem held_settledFault (h : Held t s) (reason : String)
    (source : FaultSource) :
    wp (taskContract t) cx (settled (fault t reason source)) (Returns
      fun _ s' => s'.control.state = .faultLatched ∧ Held t s' ∧
        Later t s s') s := by
  refine held_settled (Q := fun _ s' => s'.control.state = .faultLatched) h ?_
  intro s₁ h₁ _ hl₁
  refine wp_mono (held_fault h₁ reason source) ?_
  rintro r s₂ ⟨hlatched, _, h₂, hl₂⟩
  exact ⟨h₂, hl₂, fun s₃ h₃ _ => h₃.control.latched h₂.cmdLock hlatched⟩

/-- The exit of a Start whose source was touched: nothing is on, or the manager
is latched, and OFF was requested, unless its own fault came too late to ask
for it. -/
structure Undone (t : Nat) (channel : SmuChannel) (s : State)
    (r : Except Exc Reply) (s' : State) : Prop where
  held : Held t s'
  later : Later t s s'
  refused : positive r = false
  inactive : channel ∉ s'.control.activeSources ∨
    s'.control.state = .faultLatched
  requested : .revocationJoined t ∈
      added s.control.journal s'.control.journal ∨
    OffRequested t (some channel) s s'

theorem Undone.from {channel : SmuChannel} {s s₁ s' : State}
    {r : Except Exc Reply} (h : Undone t channel s₁ r s')
    (hl : Later t s s₁) : Undone t channel s r s' where
  held := h.held
  later := hl.trans h.later
  refused := h.refused
  inactive := h.inactive
  requested := h.requested.imp
    (fun hm => (mem_added_trans hl.journal h.later.journal _).mpr (Or.inl hm))
    fun hoff => hoff.from hl h.later.journal

theorem undone_raise {channel : SmuChannel} {s₀ : State} (h : Held t s)
    (hl : Later t s₀ s) (hr : s.control.state = .faultLatched ∨
      ∀ channel, channel ∉ s.control.activeSources)
    (hoff : OffRequested t none s₀ s) (e : Exc) :
    Undone t channel s₀ (.error e) s where
  held := h
  later := hl
  refused := rfl
  inactive := hr.symm.imp_left fun ha => ha channel
  requested := Or.inr hoff.narrow

theorem cancelledStart_wp (h : Held t s) (channel : SmuChannel) :
    wp (taskContract t) cx (cancelledStart t channel)
      (fun r s' => Undone t channel s r s') s := by
  have hcalm : State.Calm s
      (s.onControl (Control.registerAbortIntent true)) :=
    State.calm_onControl (Control.calm_abort true s.control)
  have hl₁ : Later t s _ := .of_calm h hcalm
  refine wp_updateThen (hcalm.allowed t) ?_
  refine wp_returnsThen (held_emergencyOff (h.calm hcalm)) ?_
  rintro ⟨off, b⟩ s₂ ⟨⟨hr, hoff⟩, h₂, hl₂⟩
  have hoff₂ := hoff.from hl₁ hl₂.journal
  have hl := hl₁.trans hl₂
  cases off with
  | ok reply => exact undone_raise h₂ hl (hr reply rfl) hoff₂ _
  | error e =>
      refine wp_returnsThen (held_settledFault h₂ _ _) ?_
      rintro x s₃ ⟨hlatched, h₃, hl₃⟩
      exact undone_raise h₃ (hl.trans hl₃) (Or.inl hlatched)
        (hoff₂.till hl hl₃) _

theorem unacknowledgedRun_wp (h : Held t s) (channel : SmuChannel)
    (publish : Except Exc Unit) (publishCancelled : Bool) :
    wp (taskContract t) cx
      (unacknowledgedRun t channel publish publishCancelled)
      (fun r s' => Undone t channel s r s') s := by
  have hcalm : State.Calm s
      (s.onControl (Control.registerAbortIntent true)) :=
    State.calm_onControl (Control.calm_abort true s.control)
  have hl₁ : Later t s _ := .of_calm h hcalm
  have hraise : ∀ (b : Bool) {k : Unit → Py Reply} {s'},
      (∃ e, k () = Coro.raise e) → (∀ e, Undone t channel s (.error e) s') →
      wp (taskContract t) cx (raiseIf b >>= k)
        (fun r s' => Undone t channel s r s') s' := by
    rintro b k s' ⟨e, hk⟩ hu
    cases b with
    | true => exact hu _
    | false =>
        change wp (taskContract t) cx (k ()) _ s'
        rw [hk]
        exact hu _
  refine wp_updateThen (hcalm.allowed t) ?_
  refine wp_returnsThen (held_emergencyOff (h.calm hcalm)) ?_
  rintro ⟨off, b⟩ s₂ ⟨⟨hr, hoff⟩, h₂, hl₂⟩
  have hoff₂ := hoff.from hl₁ hl₂.journal
  have hl := hl₁.trans hl₂
  cases off with
  | ok reply =>
      exact hraise _ (by cases publish <;> exact ⟨_, rfl⟩)
        (undone_raise h₂ hl (hr reply rfl) hoff₂)
  | error e =>
      refine wp_returnsThen (held_settledFault h₂ _ _) ?_
      rintro ⟨x, cancelled⟩ s₃ ⟨hlatched, h₃, hl₃⟩
      exact hraise _ (by cases publish <;> exact ⟨_, rfl⟩)
        (undone_raise h₃ (hl.trans hl₃) (Or.inl hlatched)
          (hoff₂.till hl hl₃))

theorem latchedStart_wp (h : Held t s) (channel : SmuChannel)
    (hlatched : s.control.state = .faultLatched) :
    wp (taskContract t) cx (latchedStart t channel)
      (fun r s' => Undone t channel s r s') s := by
  refine wp_seq (held_calm h (settledOff_wp none none)) ?_
    fun _ _ h => h.1.elim
  rintro ⟨proved, cancelled⟩ s₁ ⟨⟨hoff, _⟩, h₁, hl₁, hs₁⟩
  have hlatched₁ := hs₁.control.latched h.cmdLock hlatched
  have hu : ∀ r, positive r = false → Undone t channel s r s₁ := fun r hr =>
    ⟨h₁, hl₁, hr, Or.inr hlatched₁, Or.inr hoff.narrow⟩
  cases cancelled with
  | true => exact hu _ rfl
  | false => exact hu _ rfl

/-- `start_source` failed: where no fault was latched before, OFF is
requested. -/
theorem failedStart_wp (h : Held t s) (channel : SmuChannel) (e : Exc) :
    wp (taskContract t) cx (failedStart t channel e) (fun r s' =>
      Held t s' ∧ Later t s s' ∧ positive r = false ∧
        s'.control.state = .faultLatched ∧
        (s.control.state ≠ .faultLatched →
          OffRequested t (some channel) s s')) s := by
  refine wp_seq (held_fault h _ _) ?_ ?_
  · rintro _ s₁ ⟨hlatched, hoff, h₁, hl₁⟩
    exact ⟨h₁, hl₁, rfl, hlatched, fun hs => (hoff hs).narrow⟩
  · rintro e' s₁ ⟨hlatched, hoff, h₁, hl₁⟩
    exact ⟨h₁, hl₁, rfl, hlatched, fun hs => (hoff hs).narrow⟩

theorem calm_revertStart (channel : SmuChannel) (full : Bool)
    (hs : s.control.state ≠ .faultLatched) :
    State.Calm s (s.revertStart channel full).1 := by
  have hk : (if full then ∅ else s.control.activeSources) ⊆
      s.control.activeSources := by
    split
    · exact Finset.empty_subset _
    · exact Finset.Subset.refl _
  unfold State.revertStart
  generalize (if full then ∅ else s.control.activeSources) = keep at hk ⊢
  dsimp only
  by_cases hempty : keep = ∅
  · rw [if_pos hempty]
    exact State.calm_keepAndMove hk hs (Or.inl ⟨rfl, hempty⟩)
  · rw [if_neg hempty]
    exact State.calm_keepAndMove hk hs (Or.inr (Or.inl ⟨rfl, hempty⟩))

/-- An abort that lands during `start_source`: the source it was to start is
not tracked. -/
theorem abortedStart_wp (h : Held t s) (admission : Admission)
    (channel : SmuChannel) (hinactive : channel ∉ s.control.activeSources) :
    wp (taskContract t) cx (abortedStart t admission channel)
      (fun r s' => Undone t channel s r s') s := by
  have hend : ∀ (b : Bool) s', (∀ r, positive r = false → Undone t channel s r s') →
      wp (taskContract t) cx (do
        raiseIf b
        refuse channel "Interlock trip during start — source not activated")
        (fun r s' => Undone t channel s r s') s' := by
    intro b s' hu
    cases b <;> exact hu _ rfl
  refine wp_readThen ?_
  refine wp_seq (held_calm h (settledOff_wp _ none)) ?_
    fun _ _ h => h.1.elim
  rintro ⟨proved, cancelled⟩ s₁ ⟨⟨hoff, _⟩, h₁, hl₁, hs₁⟩
  have hoff₁ : OffRequested t (some channel) s s₁ := by
    split at hoff
    · exact hoff.narrow
    · exact hoff
  have hinactive₁ : channel ∉ s₁.control.activeSources :=
    fun hm => hinactive (hs₁.control.active h.runRequestLock hm)
  have hu : ∀ s', Held t s' → Later t s₁ s' →
      (channel ∉ s'.control.activeSources ∨
        s'.control.state = .faultLatched) →
      ∀ r, positive r = false → Undone t channel s r s' :=
    fun s' h' hl' ha r hr =>
      ⟨h', hl₁.trans hl', hr, ha, Or.inr (hoff₁.till hl₁ hl')⟩
  refine wp_readThen ?_
  dsimp only
  split
  · refine wp_seq (held_fault h₁ _ _) ?_ ?_
    · rintro _ s₂ ⟨hlatched, _, h₂, hl₂⟩
      exact hend _ s₂ (hu s₂ h₂ hl₂ (Or.inr hlatched))
    · rintro e s₂ ⟨hlatched, _, h₂, hl₂⟩
      exact hu s₂ h₂ hl₂ (Or.inr hlatched) _ rfl
  · split
    · rename_i hs
      refine wp_seq (held_sync h₁ (calm_revertStart channel
        (decide (admission.generation < s.control.fullAbortGeneration)) hs))
        ?_ ?_
      · rintro _ s₂ ⟨_, h₂, hl₂, hs₂⟩
        refine wp_seq (held_harmless h₂
          harmless_publishKeithleyChannelStates) ?_ ?_
        · rintro _ s₃ ⟨h₃, hl₃, hs₃⟩
          refine hend _ s₃ (hu s₃ h₃ (hl₂.trans hl₃) (Or.inl fun hm => ?_))
          exact hinactive₁ ((hs₂.trans hs₃).control.active
            h₁.runRequestLock hm)
        · rintro e s₃ ⟨h₃, hl₃, hs₃⟩
          refine hu s₃ h₃ (hl₂.trans hl₃) (Or.inl fun hm => ?_) _ rfl
          exact hinactive₁ ((hs₂.trans hs₃).control.active
            h₁.runRequestLock hm)
      · rintro e s₂ ⟨_, h₂, hl₂, hs₂⟩
        exact hu s₂ h₂ hl₂ (Or.inl fun hm =>
          hinactive₁ (hs₂.control.active h₁.runRequestLock hm)) _ rfl
    · rename_i hs
      exact hend _ s₁ (hu s₁ h₁ (.refl t s₁) (Or.inl hinactive₁))

theorem held_note {n : Note} (h : Held t s) (hown : n.owner = some t)
    (hj : n.Justified s.control.journal)
    (howed : ∀ code, owed (n :: s.control.journal) = some code →
      owed s.control.journal = some code) :
    State.Allowed t s (s.note n) ∧ Held t (s.note n) ∧
      (n.isStart t = false → Later t s (s.note n)) := by
  have hallowed : State.Allowed t s (s.note n) :=
    State.allowed_of_control rfl rfl rfl
      (.own (.note _ n hown (fun _ => h.cmdLock) hj howed))
  refine ⟨hallowed, ⟨(hallowed h.inv).1, h.cmdLock, h.runRequestLock,
    h.unmarked⟩, fun hstart => ?_⟩
  exact
    { journal := List.suffix_cons _ _
      own := by simpa [State.note, State.onControl, Control.note] using hstart
      wiring := rfl
      driver := rfl
      owed := howed
      warned := fun hw code hc => hw code (howed code hc) }

theorem revocationFault_wp (h : Held t s) (reason : String) :
    wp (taskContract t) cx (revocationFault t reason) (fun _ s' =>
      s'.control.state = .faultLatched ∧ Held t s' ∧ Later t s s' ∧
        (.revocationJoined t ∈ added s.control.journal s'.control.journal ∨
          OffRequested t none s s')) s := by
  refine wp_readThen ?_
  dsimp only
  split
  · obtain ⟨hallowed, h₁, hlater⟩ :=
      held_note (n := .revocationJoined t) h rfl trivial fun _ hc => hc
    have hl₁ := hlater rfl
    refine wp_updateThen hallowed ?_
    refine wp_mono (held_fault h₁ _ _) ?_
    rintro r s₂ ⟨hlatched, _, h₂, hl₂⟩
    refine ⟨hlatched, h₂, hl₁.trans hl₂, Or.inl ?_⟩
    refine (mem_added_trans hl₁.journal hl₂.journal _).mpr (Or.inr ?_)
    simp [State.note, State.onControl, Control.note]
  · rename_i hs
    refine wp_mono (held_fault h _ _) ?_
    rintro r s₂ ⟨hlatched, hoff, h₂, hl₂⟩
    exact ⟨hlatched, h₂, hl₂, Or.inr (hoff hs)⟩

theorem revokedOff_wp (h : Held t s) (channel : SmuChannel)
    (revocation : RunAuthorityRevocation) :
    wp (taskContract t) cx (revokedOff t channel revocation) (Returns
      fun x s' => Held t s' ∧ Later t s s' ∧ x.2.1 ⊆ s'.control.activeSources ∧
        (channel ∉ x.2.1 ∨ s'.control.state = .faultLatched) ∧
        (.revocationJoined t ∈ added s.control.journal s'.control.journal ∨
          OffRequested t (some channel) s s')) s := by
  refine wp_readThen ?_
  split
  · refine wp_returnsThen (held_settled (Q := fun _ s' =>
      s'.control.state = .faultLatched ∧
        (.revocationJoined t ∈ added s.control.journal s'.control.journal ∨
          OffRequested t none s s')) h ?_) ?_
    · intro s₁ h₁ _ hl₁
      refine wp_mono (revocationFault_wp h₁ _) ?_
      rintro r s₂ ⟨hlatched, h₂, hl₂, hoff⟩
      refine ⟨h₂, hl₂, fun s₃ h₃ hl₃ =>
        ⟨h₃.control.latched h₂.cmdLock hlatched, hoff.imp ?_ ?_⟩⟩
      · intro hm
        refine (mem_added_trans hl₁.journal (hl₂.trans hl₃).journal _).mpr
          (Or.inl ?_)
        exact (mem_added_trans hl₂.journal hl₃.journal _).mpr (Or.inr hm)
      · intro hoff
        exact (hoff.till hl₂ hl₃).from hl₁ (hl₂.trans hl₃).journal
    · rintro ⟨x, cancelled⟩ s₁ ⟨⟨hlatched, hoff⟩, h₁, hl₁⟩
      exact ⟨h₁, hl₁, Finset.Subset.refl _, Or.inr hlatched,
        hoff.imp_right OffRequested.narrow⟩
  · refine wp_seq (held_calm h (settledOff_wp _ none)) ?_
      fun _ _ h => h.1.elim
    rintro ⟨proved, cancelled⟩ s₁ ⟨⟨hoff, _⟩, h₁, hl₁, hs₁⟩
    have hoff₁ : OffRequested t (some channel) s s₁ := by
      split at hoff
      · exact hoff.narrow
      · exact hoff
    refine wp_readThen ?_
    split
    · refine ⟨h₁, hl₁, ?_, Or.inl ?_, Or.inr hoff₁⟩
      · dsimp only
        split
        · exact Finset.empty_subset _
        · exact Finset.sdiff_subset
      · dsimp only
        split <;> simp
    · split
      · refine wp_returnsThen (held_settledFault h₁ _ _) ?_
        rintro ⟨x, b⟩ s₂ ⟨hlatched, h₂, hl₂⟩
        exact ⟨h₂, hl₁.trans hl₂, Finset.Subset.refl _, Or.inr hlatched,
          Or.inr (hoff₁.till hl₁ hl₂)⟩
      · rename_i hlatched
        exact ⟨h₁, hl₁, Finset.Subset.refl _, Or.inr (not_not.mp hlatched),
          Or.inr hoff₁⟩

theorem calm_settleRevokedCut {channel : SmuChannel}
    {keep : Finset SmuChannel} (hk : keep ⊆ s.control.activeSources) :
    State.Calm s (s.settleRevokedCut channel keep).1 := by
  have hkeep : State.Calm s
      (s.keepSources .reconciliation keep).refreshOperatorSafetySnapshot.1 :=
    (State.calm_keepSources hk).trans (State.calm_refresh _)
  unfold State.settleRevokedCut
  split
  · exact hkeep
  · rename_i hs
    split
    · rename_i hempty
      exact State.calm_keepAndMove hk hs (Or.inl ⟨rfl, hempty⟩)
    · rename_i hne
      split
      · exact hkeep
      · exact State.calm_keepAndMove hk hs (Or.inr (Or.inl ⟨rfl, hne⟩))

theorem settleRevokedCut_control (channel : SmuChannel)
    (keep : Finset SmuChannel) (s : State) :
    (s.settleRevokedCut channel keep).1.control.activeSources = keep ∧
      (s.control.state = .faultLatched →
        (s.settleRevokedCut channel keep).1.control.state =
          .faultLatched) := by
  have hkeep : (s.control.keepSources .reconciliation keep).activeSources =
      keep ∧ (s.control.keepSources .reconciliation keep).state =
        s.control.state := ⟨rfl, rfl⟩
  unfold State.settleRevokedCut
  split
  · rename_i hl
    simp [hkeep, hl]
  · rename_i hl
    refine ⟨?_, fun h => absurd h hl⟩
    split
    · simp [Control.keepAndMove, Control.transition]
    · split
      · simp [hkeep]
      · simp [Control.keepAndMove, Control.transition]

theorem settleRevocation_wp (h : Held t s) (channel : SmuChannel)
    (revocation : RunAuthorityRevocation) :
    wp (taskContract t) cx (settleRevocation t channel revocation)
      (fun r s' => Undone t channel s r s') s := by
  refine wp_returnsThen (revokedOff_wp h channel revocation) ?_
  rintro ⟨confirmed, keep, cancelled⟩ s₁ ⟨h₁, hl₁, hk, ha, hoff⟩
  dsimp only at hk ha
  obtain ⟨hactive, hlatched⟩ := settleRevokedCut_control channel keep s₁
  have hinactive : ∀ s' : State, s'.control.activeSources ⊆ keep →
      (s₁.control.state = .faultLatched →
        s'.control.state = .faultLatched) →
      channel ∉ s'.control.activeSources ∨
        s'.control.state = .faultLatched := by
    intro s' hsub hs
    exact ha.imp (fun hnot hm => hnot (hsub hm)) hs
  have hu : ∀ s', Held t s' → Later t s₁ s' →
      s'.control.activeSources ⊆ keep →
      (s₁.control.state = .faultLatched →
        s'.control.state = .faultLatched) →
      ∀ r, positive r = false → Undone t channel s r s' := by
    intro s' h' hl' hsub hs r hr
    refine ⟨h', hl₁.trans hl', hr, hinactive s' hsub hs,
      hoff.imp ?_ fun ho => ho.till hl₁ hl'⟩
    intro hm
    exact (mem_added_trans hl₁.journal hl'.journal _).mpr (Or.inr hm)
  refine wp_seq (held_sync h₁ (calm_settleRevokedCut hk)) ?_ ?_
  · rintro _ s₂ ⟨⟨_, rfl⟩ | ⟨⟨_, hx⟩, _⟩, h₂, hl₂, _⟩
    · refine wp_returnsThen (held_settledHarmless h₂
        fun _ => harmless_publishKeithleyChannelStates) ?_
      rintro ⟨x, publishCancelled⟩ s₃ ⟨hs₃, h₃, hl₃⟩
      have hu₃ := hu s₃ h₃ (hl₂.trans hl₃)
        (hactive ▸ hs₃.control.active h₂.runRequestLock)
        fun hs => hs₃.control.latched h₂.cmdLock (hlatched hs)
      dsimp only
      generalize (cancelled || publishCancelled) = b
      cases b <;> exact hu₃ _ rfl
    · cases hx
  · rintro e s₂ ⟨⟨hx, _⟩ | ⟨_, _, rfl⟩, h₂, hl₂, _⟩
    · cases hx
    · exact hu _ h₂ hl₂ (le_of_eq hactive) hlatched _ rfl

/-! ## The positive receipt -/

/-- The journal part of what a Start sampled at its first step. -/
def Admitted (admission : Admission) (s : State) : Prop :=
  ∃ j, j <:+ s.control.journal ∧ j.length = admission.journalLength ∧
    j.countP Note.isAbortIntent = admission.generation

/-- The warnings tell of the latch whose warning is owed. -/
def Warns (warnings : List OperatorWarning) (s : State) : Prop :=
  ∀ code, owed s.control.journal = some code →
    code ∈ warnings.map OperatorWarning.code

theorem Admitted.later {admission : Admission} {s s' : State}
    (h : Admitted admission s) (hl : Later t s s') : Admitted admission s' := by
  obtain ⟨j, hj, hlen, hcount⟩ := h
  exact ⟨j, hj.trans hl.journal, hlen, hcount⟩

theorem Warns.later {warnings : List OperatorWarning} {s s' : State}
    (h : Warns warnings s) (hl : Later t s s') : Warns warnings s' :=
  fun code hc => h code (hl.owed code hc)

/-- No abort intent was registered since the first step of a Start that still
has the abort generation it sampled then. -/
theorem Admitted.unaborted {admission : Admission} (h : Admitted admission s)
    (hi : s.Inv) (hgen : s.control.abortGeneration = admission.generation) :
    ∀ n ∈ s.control.journal.take
        (s.control.journal.length - admission.journalLength),
      n.isAbortIntent = false := by
  obtain ⟨j, ⟨d, hd⟩, hlen, hcount⟩ := h
  have htotal := hi.control.counted
  rw [hgen, ← hd, List.countP_append, hcount] at htotal
  have hzero : d.countP Note.isAbortIntent = 0 := by omega
  intro n hn
  rw [← hd, ← hlen, List.length_append, Nat.add_sub_cancel,
    List.take_left] at hn
  have := List.countP_eq_zero.mp hzero n hn
  simpa using this

/-- What the check after publication has established when it finds nothing. -/
structure Established (channel : SmuChannel) (expected : Finset SmuChannel)
    (generation : Nat) (s : State) : Prop where
  running : s.control.state = .running
  children : s.safetyChildrenAuthoritative = true
  generation : s.control.abortGeneration = generation
  active : s.control.activeSources = expected
  cut : s.exactDriverActiveSourceCut = .ok none ∨
    s.exactDriverActiveSourceCut = .ok (some (some expected))

theorem established_of_ok {channel : SmuChannel}
    {expected : Finset SmuChannel} {generation fullGeneration : Nat}
    (h : s.postPublicationRunRevocation channel expected generation
      fullGeneration = .ok none) :
    Established channel expected generation s := by
  unfold State.postPublicationRunRevocation at h
  cases hcut : s.exactDriverActiveSourceCut with
  | error e =>
      rw [hcut] at h
      cases h
  | ok cut =>
      cases hhazard : s.currentUnmanagedOutputHazard with
      | error e =>
          rw [hcut, hhazard] at h
          cases h
      | ok hazard =>
          rw [hcut, hhazard] at h
          dsimp only at h
          split at h
          · rename_i hempty
            simp only [List.isEmpty_iff, List.append_eq_nil_iff] at hempty
            obtain ⟨⟨hauth, habort⟩, howner⟩ := hempty
            simp only [State.authorityRevocations, State.abortRevocations,
              State.ownershipRevocations, List.append_eq_nil_iff] at *
            obtain ⟨⟨hs, hchildren⟩, _⟩ := hauth
            obtain ⟨⟨hactive, hc⟩, _⟩ := howner
            refine ⟨?_, ?_, ?_, ?_, ?_⟩
            · by_contra hne
              by_cases hl : s.control.state = .faultLatched
              · simp [hl] at hs
              · simp [hl, hne] at hs
            · by_contra hne
              simp [hne] at hchildren
            · by_contra hne
              simp [hne] at habort
            · by_contra hne
              simp [hne] at hactive
            · by_contra hne
              rw [hcut] at hne
              have : ¬ (cut.isNone = true ∨ cut = some (some expected)) := by
                rintro (hn | hn)
                · exact hne (Or.inl (by rw [Option.isNone_iff_eq_none.mp hn]))
                · exact hne (Or.inr (by rw [hn]))
              rw [if_neg this] at hc
              cases hc
          · cases h

theorem confirmRun_wp (h : Held t s) {admission : Admission}
    {channel : SmuChannel} {expected : Finset SmuChannel}
    {warnings : List OperatorWarning} (receipt : Option WarningReceipt)
    (he : Established channel expected admission.generation s)
    (hchannel : channel ∈ expected) (ha : Admitted admission s)
    (hw : Warns warnings s) :
    wp (taskContract t) cx (confirmRun t admission channel warnings receipt)
      (fun r s' => Held t s' ∧ Later t s s' ∧ positive r = true ∧
        owed s'.control.journal = none) s := by
  have hj : (Note.runConfirmed
      { task := t
        channel := channel
        warnings := warnings
        receipt := receipt
        admittedAt := admission.journalLength
        admittedGeneration := admission.generation
        abortGeneration := s.control.abortGeneration
        state := s.control.state
        activeSources := s.control.activeSources
        childrenLive := s.childrenLive
        neverStartedSimulator := s.neverStartedSimulator
        driverCut := s.exactDriverActiveSourceCut }).Justified
      s.control.journal :=
    { running := he.running
      tracked := he.active ▸ hchannel
      generation := he.generation
      unaborted := ha.unaborted h.inv he.generation
      children := by
        have hc := he.children
        simp only [State.safetyChildrenAuthoritative, Bool.or_eq_true,
          Bool.and_eq_true] at hc
        exact hc.symm.imp_left And.right
      cut := he.active ▸ he.cut
      warned := hw }
  obtain ⟨hallowed, h₁, hlater⟩ := held_note h rfl hj (by
    intro code hc
    cases hc)
  exact ⟨hallowed, h₁, hlater rfl, rfl, rfl⟩

/-! ## From the driver to the receipt -/

/-- How a Start ends once its source may be on. -/
structure Exit (t : Nat) (channel : SmuChannel) (s : State)
    (r : Except Exc Reply) (s' : State) : Prop where
  held : Held t s'
  later : Later t s s'
  cleared : positive r = true → owed s'.control.journal = none
  undone : positive r = false → State.Refused s s' ∨
    .inspectionRaised t ∈ added s.control.journal s'.control.journal ∨
      Undone t channel s r s'

theorem exit_of_refused {channel : SmuChannel} {s s' : State} (h : Held t s')
    (hl : Later t s s') (href : State.Refused s s') (e : Exc) :
    Exit t channel s (.error e) s' where
  held := h
  later := hl
  cleared := fun hr => by cases hr
  undone := fun _ => Or.inl href

theorem Undone.exit {channel : SmuChannel} {s s' : State}
    {r : Except Exc Reply} (h : Undone t channel s r s') :
    Exit t channel s r s' where
  held := h.held
  later := h.later
  cleared := by
    intro hr
    rw [h.refused] at hr
    cases hr
  undone := fun _ => Or.inr (Or.inr h)

theorem Exit.from {channel : SmuChannel} {s s₁ s' : State}
    {r : Except Exc Reply} (h : Exit t channel s₁ r s') (hl : Later t s s₁) :
    Exit t channel s r s' where
  held := h.held
  later := hl.trans h.later
  cleared := h.cleared
  undone := fun hr => (h.undone hr).imp
    (fun href => href.before hl.journal h.later.journal)
    (Or.imp
      (fun hm => (mem_added_trans hl.journal h.later.journal _).mpr (Or.inl hm))
      fun hu => hu.from hl)

theorem held_commitSource (h : Held t s) (channel : SmuChannel)
    (pTarget : PyFloat) (hs : s.control.state ≠ .faultLatched) :
    State.Allowed t s (s.commitSource channel pTarget).1 ∧
      Held t (s.commitSource channel pTarget).1 ∧
      Later t s (s.commitSource channel pTarget).1 := by
  have hc : (s.commitSource channel pTarget).1.control =
      s.control.commitSource channel pTarget := by
    simp [State.commitSource]
  have hallowed : State.Allowed t s (s.commitSource channel pTarget).1 :=
    State.allowed_of_control (by simp [State.commitSource])
      (by simp [State.commitSource]) (by simp [State.commitSource])
      (hc ▸ .own (.commitSource _ channel pTarget h.cmdLock h.runRequestLock hs))
  have hparts : (s.control.commitSource channel pTarget).cmdLock =
        s.control.cmdLock ∧
      (s.control.commitSource channel pTarget).runRequestLock =
        s.control.runRequestLock ∧
      (s.control.commitSource channel pTarget).stopOwners =
        s.control.stopOwners ∧
      (s.control.commitSource channel pTarget).abortGeneration =
        s.control.abortGeneration ∧
      (s.control.commitSource channel pTarget).pendingInterlockStartWarning =
        s.control.pendingInterlockStartWarning := by
    unfold Control.commitSource
    split <;> exact ⟨rfl, rfl, rfl, rfl, rfl⟩
  have hjournal : (s.control.commitSource channel pTarget).journal =
        s.control.journal ∨
      (s.control.commitSource channel pTarget).journal =
        .transition s.control.state .running (.sourceEnabled channel pTarget) ::
          s.control.journal := by
    unfold Control.commitSource
    split
    · exact Or.inl rfl
    · exact Or.inr rfl
  have howed : ∀ code,
      owed (s.control.commitSource channel pTarget).journal = some code →
        owed s.control.journal = some code := by
    intro code hcode
    rcases hjournal with hj | hj <;> rw [hj] at hcode <;> exact hcode
  obtain ⟨h1, h2, h3, h4, h5⟩ := hparts
  refine ⟨hallowed, ⟨(hallowed h.inv).1, ?_, ?_, ?_⟩, ?_⟩
  · rw [hc, h1, h.cmdLock]
  · rw [hc, h2, h.runRequestLock]
  · rw [hc, h3]
    exact h.unmarked
  · refine ⟨?_, ?_, by simp [State.commitSource], by simp [State.commitSource],
      hc ▸ howed, ?_⟩
    · rw [hc]
      rcases hjournal with hj | hj <;> rw [hj]
      · exact List.suffix_cons _ _
    · rw [hc]
      rcases hjournal with hj | hj <;> rw [hj] <;> simp [Note.isStart]
    · intro hw code hcode
      rw [hc] at hcode ⊢
      obtain ⟨warning, hp, hcw⟩ := hw code (howed code hcode)
      exact ⟨warning, by rw [h5, h4, hp], hcw⟩

theorem commitStart_wp (h : Held t s) (request : RunRequest)
    {admission : Admission} {channel : SmuChannel}
    {warnings : List OperatorWarning} (receipt : Option WarningReceipt)
    (hs : s.control.state ≠ .faultLatched) (ha : Admitted admission s)
    (hw : Warns warnings s) :
    wp (taskContract t) cx
      (commitStart t request admission channel warnings receipt)
      (fun r s' => Exit t channel s r s') s := by
  obtain ⟨hallowed, h₁, hl₁⟩ := held_commitSource h channel request.pTarget hs
  refine wp_readThen ?_
  refine wp_syncThen (fun _ _ h => h.allowed t) hallowed (fun _ => ?_)
    fun e _ => ?_
  · refine wp_returnsThen (held_settledHarmless h₁
      fun _ => harmless_publishKeithleyChannelStates) ?_
    rintro ⟨publish, cancelled⟩ s₂ ⟨_, h₂, hl₂⟩
    have hl := hl₁.trans hl₂
    dsimp only
    split
    · exact wp_mono (unacknowledgedRun_wp h₂ channel publish cancelled)
        fun r s' hu => hu.exit.from hl
    · refine wp_seq (held_calm h₂
        (observeTerminalSafetyChildren_wp h₂.inv)) ?_ ?_
      · rintro _ s₃ ⟨_, h₃, hl₃, _⟩
        have hl₃ := hl.trans hl₃
        refine wp_readThen ?_
        split
        · obtain ⟨hallowed, h₄, hlater⟩ := held_note
            (n := .inspectionRaised t) h₃ rfl trivial fun _ hc => hc
          refine wp_updateThen hallowed ?_
          refine Exit.from ?_ hl₃
          refine ⟨h₄, hlater rfl, (fun hr => by cases hr),
            fun _ => Or.inr (Or.inl ?_)⟩
          simp [State.note, State.onControl, Control.note]
        · exact wp_mono (settleRevocation_wp h₃ channel _)
            fun r s' hu => hu.exit.from hl₃
        · rename_i hok
          have he := established_of_ok hok
          refine wp_mono (confirmRun_wp h₃ receipt he
            (Finset.mem_insert_self _ _) (ha.later hl₃) (hw.later hl₃)) ?_
          rintro r s' ⟨h₄, hl₄, hr, howed⟩
          refine Exit.from ⟨h₄, hl₄, fun _ => howed, fun hf => ?_⟩ hl₃
          rw [hr] at hf
          cases hf
      · rintro e s₃ ⟨hx | ⟨_, href⟩, h₃, hl₃, _⟩
        · cases hx
        · exact (exit_of_refused h₃ hl₃ href e).from hl
  · obtain ⟨h₂, hl₂⟩ := held_refused h₁
    exact exit_of_refused h₂ (hl₁.trans hl₂) (State.refused_note hl₁.journal) e

/-- Whether `start_source` has returned in time for an authority that is still
the one that admitted the Start. -/
theorem afterStart_wp (h : Held t s) (request : RunRequest)
    {admission : Admission} {channel : SmuChannel}
    {warnings : List OperatorWarning} (receipt : Option WarningReceipt)
    (hinactive : channel ∉ s.control.activeSources)
    (ha : Admitted admission s) (hw : Warns warnings s) :
    wp (taskContract t) cx
      (afterStart t request admission channel warnings receipt)
      (fun r s' => Exit t channel s r s') s := by
  have hobserve : wp (calmContract t) cx
      (observeAuthorityAfterStart admission)
      (fun r s' => r = .ok () ∨ State.Refused s s') s := by
    refine wp_readThen ?_
    split
    · exact Or.inl rfl
    · refine wp_seq (observeTerminalSafetyChildren_wp h.inv) ?_ ?_
      · intro _ s₁ _
        refine wp_readThen ?_
        split
        · exact ⟨State.calm_onControl (Control.calm_abort true _), Or.inl rfl⟩
        · exact Or.inl rfl
      · rintro e s₁ (hr | ⟨_, href⟩)
        · cases hr
        · exact Or.inr href
  refine wp_seq (held_calm h hobserve) ?_ ?_
  · rintro _ s₁ ⟨_, h₁, hl₁, hs₁⟩
    refine wp_readThen ?_
    split
    · rename_i hlatched
      exact wp_mono (latchedStart_wp h₁ channel hlatched)
        fun r s' hu => hu.exit.from hl₁
    · rename_i hs
      split
      · refine wp_mono (abortedStart_wp h₁ admission channel fun hm => ?_)
          fun r s' hu => hu.exit.from hl₁
        exact hinactive (hs₁.control.active h.runRequestLock hm)
      · exact wp_mono (commitStart_wp h₁ request receipt hs (ha.later hl₁)
          (hw.later hl₁)) fun r s' he => he.from hl₁
  · rintro e s₁ ⟨hx | href, h₁, hl₁, _⟩
    · cases hx
    · exact exit_of_refused h₁ hl₁ href e

/-- A Start whose source was never touched: nothing was added. -/
structure Untouched (t : Nat) (channel : SmuChannel) (s : State)
    (r : Except Exc Reply) (s' : State) : Prop where
  held : Held t s'
  later : Later t s s'
  refused : positive r = false
  inactive : channel ∉ s.control.activeSources →
    channel ∉ s'.control.activeSources

theorem permitRun_parts (channel : SmuChannel) (pTarget : PyFloat)
    (s : State) :
    ((s.permitRun channel pTarget).1.control = s.control ∨
      (s.permitRun channel pTarget).1.control =
        s.control.transition .runPermitted
          (.startRequested channel pTarget)) ∧
      (s.permitRun channel pTarget).1.lifecycle = s.lifecycle ∧
      (s.permitRun channel pTarget).1.wiring = s.wiring ∧
      (s.permitRun channel pTarget).1.env = s.env := by
  have hsame : ∀ s' : State, s' = (if s.wiring.mock then s.setConnected true
      else s) → s'.control = s.control ∧ s'.lifecycle = s.lifecycle ∧
        s'.wiring = s.wiring ∧ s'.env = s.env := by
    rintro s' rfl
    split <;> exact ⟨rfl, rfl, rfl, rfl⟩
  unfold State.permitRun
  generalize (if s.wiring.mock then s.setConnected true else s) = s₁ at hsame ⊢
  obtain ⟨hc, hl, hw, he⟩ := hsame s₁ rfl
  dsimp only
  rcases State.andThen_cases (s₁.setOffEvidence
      s₁.unknownGlobalOffEvidence).refreshOperatorSafetySnapshot _
    with ⟨-, h⟩ | ⟨-, h⟩
  · rw [h]
    split
    · simp [hc, hl, hw, he]
    · simp [hc, hl, hw, he]
  · rw [h]
    simp [hc, hl, hw, he]

theorem held_permitRun (h : Held t s) (channel : SmuChannel)
    (pTarget : PyFloat) (hs : s.control.state ≠ .faultLatched) :
    State.Allowed t s (s.permitRun channel pTarget).1 ∧
      Held t (s.permitRun channel pTarget).1 ∧
      Later t s (s.permitRun channel pTarget).1 ∧
      (s.permitRun channel pTarget).1.control.activeSources =
        s.control.activeSources ∧
      (s.permitRun channel pTarget).1.control.state ≠ .faultLatched := by
  obtain ⟨hc, hl, hw, hd⟩ := permitRun_parts channel pTarget s
  rcases hc with hc | hc
  · have hcalm : State.Calm s (s.permitRun channel pTarget).1 :=
      .of_same hc hl hw (by rw [hd])
    exact ⟨hcalm.allowed t, h.calm hcalm, .of_calm h hcalm, by rw [hc],
      by rwa [hc]⟩
  · have hallowed : State.Allowed t s (s.permitRun channel pTarget).1 :=
      State.allowed_of_control hw (by rw [hd]) hl
        (hc ▸ .own (.permitRun _ _ h.cmdLock hs))
    refine ⟨hallowed, ⟨(hallowed h.inv).1, ?_, ?_, ?_⟩, ?_, ?_, ?_⟩
    · rw [hc]
      exact h.cmdLock
    · rw [hc]
      exact h.runRequestLock
    · rw [hc]
      exact h.unmarked
    · refine ⟨?_, ?_, hw, by rw [hd], ?_, ?_⟩
      · rw [hc]
        exact List.suffix_cons _ _
      · rw [hc]
        simp [Control.transition, Note.isStart]
      · rw [hc]
        exact fun _ h => h
      · rw [hc]
        exact fun h => h
    · rw [hc]
      rfl
    · rw [hc]
      simp [Control.transition]

theorem startsCovered_of_own {d rest : List Note} {channel : SmuChannel}
    (hown : ∀ n ∈ d, n.isStart t = false)
    (hrest : StartsCovered t channel rest) :
    StartsCovered t channel (d ++ rest) := by
  induction d with
  | nil => exact hrest
  | cons n d ih =>
      exact Or.inr ⟨hown n List.mem_cons_self,
        ih fun m hm => hown m (List.mem_cons_of_mem _ hm)⟩

theorem startsCovered_of_none {d : List Note} {channel : SmuChannel}
    (hown : ∀ n ∈ d, n.isStart t = false) : StartsCovered t channel d := by
  have h : StartsCovered t channel (d ++ []) := startsCovered_of_own hown trivial
  rwa [List.append_nil] at h

theorem startsCovered_of_cover {d rest : List Note} {channel : SmuChannel}
    (hown : ∀ n ∈ d, n.isStart t = false)
    (hcover : ∃ n ∈ d, n.covers t channel = true) :
    StartsCovered t channel (d ++ rest) := by
  induction d with
  | nil =>
      obtain ⟨n, hn, _⟩ := hcover
      cases hn
  | cons n d ih =>
      by_cases hc : n.covers t channel = true
      · exact Or.inl hc
      · refine Or.inr ⟨hown n List.mem_cons_self,
          ih (fun m hm => hown m (List.mem_cons_of_mem _ hm)) ?_⟩
        obtain ⟨m, hm, hcm⟩ := hcover
        rcases List.mem_cons.mp hm with rfl | hm
        · exact absurd hcm hc
        · exact ⟨m, hm, hcm⟩

/-- What a Start without a positive receipt leaves behind: the channel is off or
the manager latched, and every start was followed by an OFF, unless a refresh
or inspecting the driver raised. -/
def LeftSafe (t : Nat) (channel : SmuChannel) (s s' : State) : Prop :=
  State.Refused s s' ∨
  .inspectionRaised t ∈ added s.control.journal s'.control.journal ∨
    ((channel ∉ s'.control.activeSources ∨
        s'.control.state = .faultLatched) ∧
      (.revocationJoined t ∈ added s.control.journal s'.control.journal ∨
        StartsCovered t channel
          (added s.control.journal s'.control.journal)))

/-- How the second pass of a Start ends, with or without touching the source. -/
structure Ended (t : Nat) (channel : SmuChannel) (s : State)
    (r : Except Exc Reply) (s' : State) : Prop where
  held : Held t s'
  journal : s.control.journal <:+ s'.control.journal
  owed : ∀ code, Journal.owed s'.control.journal = some code →
    Journal.owed s.control.journal = some code
  cleared : positive r = true → Journal.owed s'.control.journal = none
  settled : positive r = false → channel ∉ s.control.activeSources →
    LeftSafe t channel s s'

theorem Untouched.ended {channel : SmuChannel} {s s' : State}
    {r : Except Exc Reply} (h : Untouched t channel s r s') :
    Ended t channel s r s' where
  held := h.held
  journal := h.later.journal
  owed := h.later.owed
  cleared := by
    intro hr
    rw [h.refused] at hr
    cases hr
  settled := by
    intro _ hinactive
    exact Or.inr (Or.inr ⟨Or.inl (h.inactive hinactive),
      Or.inr (startsCovered_of_none h.later.own)⟩)

theorem Exit.ended {channel : SmuChannel} {s s₁ s' : State}
    {r : Except Exc Reply} (h : Exit t channel s₁ r s')
    (hj : s.control.journal <:+ s₁.control.journal)
    (howed : ∀ code, owed s₁.control.journal = some code →
      owed s.control.journal = some code)
    (hstart : s₁.env.driver.isSome = true ∨
      ∀ n ∈ added s.control.journal s₁.control.journal,
        n.isStart t = false) : Ended t channel s r s' where
  held := h.held
  journal := hj.trans h.later.journal
  owed := fun code hc => howed code (h.later.owed code hc)
  cleared := h.cleared
  settled := by
    intro hr _
    have hsplit := added_trans hj h.later.journal
    have hmem : ∀ n, n ∈ added s₁.control.journal s'.control.journal →
        n ∈ added s.control.journal s'.control.journal := by
      intro n hn
      rw [hsplit]
      exact List.mem_append_left _ hn
    rcases h.undone hr with href | hraised | hu
    · exact Or.inl (hmem _ href)
    · exact Or.inr (Or.inl (hmem _ hraised))
    · rcases hu.requested with hjoined | hoff
      · exact Or.inr (Or.inr ⟨hu.inactive, Or.inl (hmem _ hjoined)⟩)
      · rcases hstart with hdriver | hown
        · obtain ⟨n, hn, rfl | hc⟩ := hoff hdriver
          · exact Or.inl (hmem _ hn)
          · refine Or.inr (Or.inr ⟨hu.inactive, Or.inr ?_⟩)
            rw [hsplit]
            exact startsCovered_of_cover h.later.own
              ⟨n, hn, hc channel (Or.inr rfl)⟩
        · refine Or.inr (Or.inr ⟨hu.inactive, Or.inr ?_⟩)
          rw [hsplit]
          exact startsCovered_of_own h.later.own (startsCovered_of_none hown)

theorem ended_of_refused {channel : SmuChannel} {s s' : State} (h : Held t s')
    (hl : Later t s s') (href : State.Refused s s') (e : Exc) :
    Ended t channel s (.error e) s' :=
  (exit_of_refused h hl href e).ended (List.suffix_refl _) (fun _ h => h)
    (Or.inr (by simp))

theorem ended_of_latched {channel : SmuChannel} {s s' : State}
    {r : Except Exc Reply} (h : Held t s') (hl : Later t s s')
    (hr : positive r = false) (hlatched : s'.control.state = .faultLatched) :
    Ended t channel s r s' where
  held := h
  journal := hl.journal
  owed := hl.owed
  cleared := by
    intro hpos
    rw [hr] at hpos
    cases hpos
  settled := by
    intro _ _
    exact Or.inr (Or.inr ⟨Or.inr hlatched,
      Or.inr (startsCovered_of_none hl.own)⟩)

theorem energize_wp (h : Held t s) (request : RunRequest)
    {admission : Admission} {channel : SmuChannel}
    {warnings : List OperatorWarning} (receipt : Option WarningReceipt)
    (hinactive : channel ∉ s.control.activeSources)
    (hs : s.control.state ≠ .faultLatched)
    (hdriver : s.env.driver.isNone = true →
      ¬ (s.wiring.config.requireKeithleyForRun = true ∧ ¬ s.wiring.mock = true))
    (ha : Admitted admission s) (hw : Warns warnings s) :
    wp (taskContract t) cx
      (energize t request admission channel warnings receipt)
      (fun r s' => Ended t channel s r s') s := by
  obtain ⟨hallowed, h₁, hl₁, hactive₁, hs₁⟩ :=
    held_permitRun h channel request.pTarget hs
  refine wp_syncThen (fun _ _ h => h.allowed t) hallowed (fun _ => ?_)
    fun e _ => ?_
  swap
  · obtain ⟨h₂, hl₂⟩ := held_refused h₁
    exact ended_of_refused h₂ (hl₁.trans hl₂)
      (State.refused_note hl₁.journal) e
  refine wp_readThen ?_
  split
  · rename_i hnone
    split
    · rename_i hrequired
      refine absurd ?_ (hdriver ?_)
      · rw [hl₁.wiring] at hrequired
        simpa using hrequired
      · have := hl₁.driver
        simp_all
    · refine wp_mono (commitStart_wp h₁ request receipt hs₁ (ha.later hl₁)
        (hw.later hl₁)) fun r s' he => ?_
      exact he.ended hl₁.journal hl₁.owed (Or.inr hl₁.own)
  · rename_i hsome
    refine wp_returnsThen (R := fun _ s₂ => Held t s₂ ∧
      State.Still t (s.permitRun channel request.pTarget).1 s₂) ?_ ?_
    · refine wp_settledWait (h₁.covered.parked _) fun s₂ r b hs₂ hi₂ _ _ => ?_
      exact ⟨h₁.still hs₂ hi₂, hs₂⟩
    · rintro ⟨result, cancelled⟩ s₂ ⟨h₂, hs₂⟩
      have hl₂ : Later t s s₂ := hl₁.trans (.of_still hs₂ h₁.cmdLock)
      have hactive₂ : channel ∉ s₂.control.activeSources := by
        intro hm
        have := hs₂.control.active h₁.runRequestLock hm
        rw [hactive₁] at this
        exact hinactive this
      obtain ⟨hnote, h₃, hlater⟩ := held_note
        (n := .startSettled t channel (!result.isOk) s₂.control.state) h₂ rfl
        trivial fun _ hc => hc
      refine wp_readThen (wp_updateThen hnote ?_)
      have hj : s.control.journal <:+ (s₂.note
          (.startSettled t channel (!result.isOk) s₂.control.state)
          ).control.journal := hl₂.journal.trans (List.suffix_cons _ _)
      have hdriver₃ : (s₂.note
          (.startSettled t channel (!result.isOk) s₂.control.state)
          ).env.driver.isSome = true := by
        have h1 : s₂.env.driver.isSome = s.env.driver.isSome := hl₂.driver
        have h2 := hl₁.driver
        simp only [State.note_env]
        rw [h1, ← h2]
        simpa [Option.isSome_iff_ne_none] using hsome
      have hended : ∀ r s', Exit t channel (s₂.note
          (.startSettled t channel (!result.isOk) s₂.control.state)) r s' →
          Ended t channel s r s' :=
        fun r s' he => he.ended hj hl₂.owed (Or.inl hdriver₃)
      split
      · exact wp_mono (cancelledStart_wp h₃ channel)
          fun r s' hu => hended r s' hu.exit
      · cases result with
        | error e =>
            refine wp_mono (failedStart_wp h₃ channel e) ?_
            rintro r s' ⟨h₄, hl₄, hr, hlatched, hoff⟩
            by_cases hs₃ : s₂.control.state = .faultLatched
            · refine ended_of_latched h₄ ((hl₂.trans (hlater ?_)).trans hl₄) hr
                hlatched
              simp [Note.isStart, hs₃, Except.isOk, Except.toBool]
            · exact hended r s' (Undone.exit
                ⟨h₄, hl₄, hr, Or.inr hlatched, Or.inr (hoff hs₃)⟩)
        | ok value =>
            refine wp_mono (afterStart_wp h₃ request receipt hactive₂ ?_ ?_)
              hended
            · obtain ⟨j, hj', hrest⟩ := ha.later hl₂
              exact ⟨j, hj'.trans (List.suffix_cons _ _), hrest⟩
            · exact fun code hc => hw.later hl₂ code hc

end Py

end Safety
end CryoDaq
