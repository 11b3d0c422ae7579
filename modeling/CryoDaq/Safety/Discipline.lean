import CryoDaq.Async.Rely
import CryoDaq.Safety.Interference

/-!
# The contract of a task of the manager

What a task of the manager promises where it suspends, what it leaves behind
when it ends, and the contracts under which its coroutines are verified.

**Harmless coroutines.**  Most coroutines of the manager make only calm
updates.  `Harmless` says so and composes along the syntax of a coroutine; such
a coroutine may run anywhere, and amounts to interference.

**Stop owners.**  A stop owner suspends only while it holds `_cmd_lock`, or
while it waits for the lock.
-/

namespace CryoDaq
namespace Safety

open Async Journal

/-- The waits before a task that announced its stop takes `_cmd_lock`. -/
def Wait.queued : Wait → Bool
  | .queuedOwner => true
  | .cmdLock => true
  | _ => false

namespace State

/-- What a task promises where it suspends. -/
def Parked (t : Nat) (w : Wait) (s : State) : Prop :=
  t ∈ s.control.stopOwners → s.control.cmdLock = some t ∨ w.queued = true

/-- Task `t` owes no transition, and will not owe one as long as it holds
`_cmd_lock`. -/
def Quits (t : Nat) (s : State) : Prop :=
  t ∉ s.control.stopOwners ∨ s.control.state = .faultLatched ∨
    ∃ n ∈ s.control.journal, n.strands = true

/-- A stop owner holds `_cmd_lock`. -/
def Covered (t : Nat) (s : State) : Prop :=
  t ∈ s.control.stopOwners → s.control.cmdLock = some t

/-- A refresh of the operator snapshot has raised. -/
def Refusing (s : State) : Prop := .snapshotRefused ∈ s.control.journal

/-- Between `s` and `s'` a refresh of the operator snapshot raised. -/
def Refused (s s' : State) : Prop :=
  .snapshotRefused ∈ added s.control.journal s'.control.journal

/-- What a task is that has not begun or has ended. -/
structure Idle (t : Nat) (s : State) : Prop where
  unmarked : t ∉ s.control.stopOwners
  cmdLock : s.control.cmdLock ≠ some t
  runRequestLock : s.control.runRequestLock ≠ some t

variable {t : Nat} {s s' s'' : State} {w : Wait}

theorem Refused.before (h : Refused s' s'')
    (hj : s.control.journal <:+ s'.control.journal)
    (hj' : s'.control.journal <:+ s''.control.journal) : Refused s s'' :=
  (mem_added_trans hj hj' _).mpr (Or.inl h)

theorem Refused.quits (h : Refused s s') : Quits t s' :=
  Or.inr (Or.inr ⟨_, List.mem_of_mem_take h, rfl⟩)

theorem Quits.quit (h : Quits t s) : s.control.Quit t := by
  intro hm hs _
  rcases h with hun | hlatched | hstrands
  · exact absurd hm hun
  · rw [hlatched] at hs
    cases hs
  · exact hstrands

theorem Quits.still (h : Quits t s) (hc : Covered t s) (hs : Still t s s') :
    Quits t s' := by
  by_cases hm : t ∈ s'.control.stopOwners
  · rcases h with hun | hlatched | ⟨n, hn, hstrands⟩
    · exact absurd (hs.unmarked hm) hun
    · exact Or.inr (Or.inl
        (hs.control.latched (hc (hs.unmarked hm)) hlatched))
    · exact Or.inr (Or.inr ⟨n, hs.control.journal.subset hn, hstrands⟩)
  · exact Or.inl hm

theorem refused_note (hj : s.control.journal <:+ s'.control.journal) :
    Refused s (s'.note .snapshotRefused) := by
  have hlast : Refused s' (s'.note .snapshotRefused) := by
    simp [Refused, State.note, State.onControl, Control.note]
  exact hlast.before hj (List.suffix_cons _ _)

theorem calm_refused (s : State) :
    Calm s (s.note .snapshotRefused) := calm_note 0 trivial trivial

theorem Covered.of_lock (h : s.control.cmdLock = some t) : Covered t s :=
  fun _ => h

theorem Covered.still (h : Covered t s) (hs : Still t s s') : Covered t s' :=
  fun hm => hs.control.cmdLock.mpr (h (hs.unmarked hm))

theorem Covered.parked (h : Covered t s) (w : Wait) : Parked t w s :=
  fun hm => Or.inl (h hm)

theorem Idle.covered (h : Idle t s) : Covered t s :=
  fun hm => absurd hm h.unmarked

theorem Idle.still (h : Idle t s) (hs : Still t s s') : Idle t s' where
  unmarked := fun hm => h.unmarked (hs.unmarked hm)
  cmdLock := fun hl => h.cmdLock (hs.control.cmdLock.mp hl)
  runRequestLock := fun hl => h.runRequestLock (hs.control.runRequestLock.mp hl)

theorem Parked.still (h : Parked t w s) (hs : Still t s s') : Parked t w s' := by
  intro hm
  rcases h (hs.unmarked hm) with hl | hw
  · exact Or.inl (hs.control.cmdLock.mpr hl)
  · exact Or.inr hw

end State

/-- The contract of task `t`. -/
def taskContract (t : Nat) : Contract State Wait Outcome where
  enabled := Wait.enabled
  inv := State.Inv
  rely := State.Still t
  guar := State.Allowed t
  parked := State.Parked t

def looseContract (t : Nat) : Contract State Wait Outcome :=
  { taskContract t with guar := State.Loose t }

/-- The same with calm updates only, wherever the coroutine suspends. -/
def calmContract (t : Nat) : Contract State Wait Outcome :=
  { taskContract t with
    guar := State.Calm
    parked := fun _ _ => True }

section Framing

variable {α : Type} {t : Nat} {cx : Bool} {c : Py α}
  {Q : Except Exc α → State → Prop} {s : State}

theorem calm_frame (hi : s.Inv) (h : wp (calmContract t) cx c Q s) :
    wp (calmContract t) cx c
      (fun r s' => Q r s' ∧ s'.Inv ∧ State.Still t s s') s := by
  refine wp_frame (P := State.Still t) ?_ ?_ ?_ ?_ hi (.refl t s) h
  · intro a b ha _ hab
    exact ⟨hab, (hab ha).1, (hab ha).2 t⟩
  · exact fun a b c => State.Still.trans
  · exact fun a b h _ => h
  · exact fun _ _ _ h => h

theorem loose_frame (hi : s.Inv) (h : wp (looseContract t) cx c Q s) :
    wp (looseContract t) cx c
      (fun r s' => Q r s' ∧ s'.Inv ∧ State.Drift t s s') s := by
  refine wp_frame (P := State.Drift t) ?_ ?_ ?_ ?_ hi (.refl t s) h
  · intro a b ha _ hab
    exact ⟨hab, (hab ha).1, (hab ha).2.1⟩
  · exact fun a b c => State.Drift.trans
  · exact fun a b h _ => h.toDrift
  · exact fun _ _ _ h => h

theorem calm_loose (hi : s.Inv) (hc : s.Covered t)
    (h : wp (calmContract t) cx c Q s) :
    wp (looseContract t) cx c
      (fun r s' => Q r s' ∧ s'.Inv ∧ State.Still t s s') s := by
  refine wp_frame (P := State.Still t) ?_ ?_ ?_ ?_ hi (.refl t s) h
  · intro a b ha _ hab
    exact ⟨hab.loose t, (hab ha).1, (hab ha).2 t⟩
  · exact fun a b c => State.Still.trans
  · exact fun a b h _ => h
  · exact fun w s' hs _ => (hc.still hs).parked w

theorem loose_task (hi : s.Inv) (h : wp (looseContract t) cx c Q s) :
    wp (taskContract t) cx c
      (fun r s' => Q r s' ∧ s'.Inv ∧ State.Drift t s s') s := by
  refine wp_frame (P := State.Drift t) ?_ ?_ ?_ ?_ hi (.refl t s) h
  · intro a b ha _ hab
    exact ⟨hab.allowed, (hab ha).1, (hab ha).2.1⟩
  · exact fun a b c => State.Drift.trans
  · exact fun a b h _ => h.toDrift
  · exact fun _ _ _ h => h

theorem calm_task (hi : s.Inv) (hc : s.Covered t)
    (h : wp (calmContract t) cx c Q s) :
    wp (taskContract t) cx c
      (fun r s' => Q r s' ∧ s'.Inv ∧ State.Still t s s') s := by
  refine wp_frame (P := State.Still t) ?_ ?_ ?_ ?_ hi (.refl t s) h
  · intro a b ha _ hab
    exact ⟨hab.allowed t, (hab ha).1, (hab ha).2 t⟩
  · exact fun a b c => State.Still.trans
  · exact fun a b h _ => h
  · exact fun w s' hs _ => (hc.still hs).parked w

end Framing

section Sync

variable {α : Type} {C : Contract State Wait Outcome} {t : Nat} {cx : Bool}
  {f : State → State × Option Exc} {s : State}

theorem wp_sync {Q : Except Exc Unit → State → Prop}
    (hcalm : ∀ a b, State.Calm a b → C.guar a b) (hg : C.guar s (f s).1)
    (hok : (f s).2 = none → Q (.ok ()) (f s).1)
    (herror : ∀ e, (f s).2 = some e →
      Q (.error e) ((f s).1.note .snapshotRefused)) :
    wp C cx (Py.sync f) Q s := by
  refine ⟨hg, ?_⟩
  change wp C cx (Py.refusal (f s).2) Q (f s).1
  cases he : (f s).2 with
  | none => exact hok he
  | some e => exact ⟨hcalm _ _ (State.calm_refused _), herror e he⟩

theorem wp_syncThen {k : Unit → Py α} {Q : Except Exc α → State → Prop}
    (hcalm : ∀ a b, State.Calm a b → C.guar a b) (hg : C.guar s (f s).1)
    (hok : (f s).2 = none → wp C cx (k ()) Q (f s).1)
    (herror : ∀ e, (f s).2 = some e →
      Q (.error e) ((f s).1.note .snapshotRefused)) :
    wp C cx (Py.sync f >>= k) Q s :=
  (wp_bind _ k Q s).mpr (wp_sync hcalm hg hok herror)

/-- A calm function either returns or a refresh raised. -/
theorem sync_wp (hi : s.Inv) (h : State.Calm s (f s).1) :
    wp (calmContract t) cx (Py.sync f) (fun r s' =>
      (r = .ok () ∧ s' = (f s).1) ∨
        ((∃ e, r = .error e) ∧ State.Refused s s' ∧
          s' = (f s).1.note .snapshotRefused)) s :=
  wp_sync (fun _ _ h => h) h (fun _ => Or.inl ⟨rfl, rfl⟩)
    fun e _ => Or.inr ⟨⟨e, rfl⟩,
      State.refused_note ((h hi).2 t).control.journal, rfl⟩

end Sync

section Waiting

variable {α : Type} {C : Contract State Wait Outcome} {cx : Bool} {s : State}

theorem wp_awaiting {w : Wait} {Q : Outcome → State → Prop}
    (hp : C.parked w s)
    (h : ∀ s' r, C.rely s s' → C.inv s' → C.resumable false w r s' →
      (cx = false → r.cancelled = false) →
        Q (if r.cancelled then .error .cancelled else r.value) s') :
    wp C cx (Py.awaiting w) Q s := by
  refine ⟨hp, fun s' r hr hi hen hcx => ?_⟩
  have hq := h s' r hr hi hen hcx
  change wp C cx (if r.cancelled = true then Coro.raise .cancelled
    else Coro.ofExcept r.value) Q s'
  split
  · rename_i hc
    simpa [hc] using hq
  · rename_i hc
    simpa [hc] using hq

theorem wp_settledWait {w : Wait} {Q : Except Exc (Outcome × Bool) → State → Prop}
    (hp : C.parked w s)
    (h : ∀ s' r b, C.rely s s' → C.inv s' → C.enabled w r s' = true →
      (cx = false → b = false) → Q (.ok (r, b)) s') : wp C cx (Py.settledWait w) Q s := by
  refine wp_settle _ _ _ _ ⟨hp, fun s' r hr hi hen hcx => ?_⟩
  have hen : C.enabled w r.value s' = true := by
    rcases hen with hen | ⟨_, hc⟩
    · exact hen
    · rw [hcx rfl] at hc
      cases hc
  change wp C false (if r.cancelled = true then Coro.raise .cancelled
    else Coro.ofExcept r.value) _ s'
  rw [hcx rfl, if_neg Bool.false_ne_true, wp_ofExcept]
  exact fun b hb => h s' r.value b hr hi hen hb

theorem wp_settledTask {first : Wait} {p : Py α}
    {Q : Except Exc (Except Exc α × Bool) → State → Prop}
    (hp : C.parked first s)
    (h : ∀ s₁, C.rely s s₁ → C.inv s₁ →
      wp C false p (fun r s₂ => C.parked .scheduled s₂ ∧
        ∀ s₃ b, C.rely s₂ s₃ → C.inv s₃ → (cx = false → b = false) →
          Q (.ok (r, b)) s₃) s₁) :
    wp C cx (Coro.settle false (Py.task first p)) Q s := by
  refine wp_settle _ _ _ _ ⟨hp, fun s₁ _ hr hi _ _ => ?_⟩
  change wp C false (Coro.bind (Coro.attempt p) _) _ s₁
  refine (wp_bind _ _ _ _).mpr ((wp_attempt _ _ _).mpr (wp_mono (h s₁ hr hi) ?_))
  rintro r s₂ ⟨hp₂, hq⟩
  refine ⟨hp₂, fun s₃ _ hr₃ hi₃ _ _ => ?_⟩
  change wp C false (Coro.ofExcept r) _ s₃
  rw [wp_ofExcept]
  exact fun b hb => hq s₃ b hr₃ hi₃ hb

end Waiting

/-- From the state `s` on, the coroutine makes calm updates only. -/
def Harmless {α : Type} (t : Nat) (c : Py α) (s : State) : Prop :=
  s.Inv → ∀ cx, wp (calmContract t) cx c (fun _ _ => True) s

namespace Harmless

variable {α γ : Type} {t : Nat} {s : State}

theorem ret (a : α) : Harmless t (pure a : Py α) s := fun _ _ => trivial

theorem raise (e : Exc) : Harmless t (Coro.raise e : Py α) s :=
  fun _ _ => trivial

theorem ofExcept (x : Except Exc α) :
    Harmless t (Coro.ofExcept x : Py α) s := by
  intro _ cx
  rw [wp_ofExcept]
  trivial

theorem bind {c : Py α} {f : α → Py γ} (hc : Harmless t c s)
    (hf : ∀ a s', Harmless t (f a) s') : Harmless t (c >>= f) s := by
  intro hi cx
  refine wp_seq (calm_frame hi (hc hi cx)) ?_ fun _ _ _ => trivial
  rintro a s' ⟨_, hi', _⟩
  exact hf a s' hi' cx

theorem read {f : State → Py γ} (h : Harmless t (f s) s) :
    Harmless t (Coro.read >>= f) s := h

theorem update {f : State → State} (h : State.Calm s (f s)) :
    Harmless t (Coro.update f) s := fun _ _ => ⟨h, trivial⟩

theorem updateThen {f : State → State} {k : Unit → Py γ}
    (h : State.Calm s (f s)) (hk : Harmless t (k ()) (f s)) :
    Harmless t (Coro.update f >>= k) s :=
  fun hi cx => ⟨h, hk (h hi).1 cx⟩

theorem sync {f : State → State × Option Exc} (h : State.Calm s (f s).1) :
    Harmless t (Py.sync f) s :=
  fun hi _ => wp_mono (sync_wp hi h) fun _ _ _ => trivial

theorem syncThen {f : State → State × Option Exc} {k : Unit → Py γ}
    (h : State.Calm s (f s).1) (hk : Harmless t (k ()) (f s).1) :
    Harmless t (Py.sync f >>= k) s := fun hi cx =>
  wp_syncThen (fun _ _ h => h) h (fun _ => hk (h hi).1 cx) fun _ _ => trivial

theorem suspend (w : Wait) :
    Harmless t (Coro.suspend w : Py (Wake Outcome)) s :=
  fun _ _ => ⟨trivial, fun _ _ _ _ _ _ => trivial⟩

theorem attempt {c : Py α} (h : Harmless t c s) :
    Harmless t (Coro.attempt c) s :=
  fun hi cx => (wp_attempt c _ s).mpr (h hi cx)

theorem settle {c : Py α} (b : Bool) (h : Harmless t c s) :
    Harmless t (Coro.settle b c) s :=
  fun hi _ => wp_settle c b _ s (wp_mono (h hi false) fun _ _ _ _ _ => trivial)

theorem awaiting (w : Wait) : Harmless t (Py.awaiting w) s := by
  refine bind (suspend w) fun r s' => ?_
  split
  · exact raise _
  · exact ofExcept _

theorem task {c : Py α} (w : Wait) (h : ∀ s', Harmless t c s') :
    Harmless t (Py.task w c) s := by
  refine bind (suspend w) fun _ s' => ?_
  refine bind (attempt (h s')) fun r s' => ?_
  exact bind (suspend _) fun _ s' => ofExcept r

theorem settled {c : Py α} (h : ∀ s', Harmless t c s') :
    Harmless t (Py.settled c) s := settle false (task _ h)

theorem settledWait (w : Wait) : Harmless t (Py.settledWait w) s :=
  settle false (awaiting w)

theorem raiseIf (b : Bool) : Harmless t (Py.raiseIf b) s := by
  unfold Py.raiseIf
  split
  · exact raise _
  · exact ret _

theorem deliver (r : Except Exc α × Bool) : Harmless t (Py.deliver r) s :=
  bind (ofExcept _) fun a _ => bind (raiseIf _) fun _ _ => ret a

theorem refresh : Harmless t Py.refresh s := sync (State.calm_refresh s)

theorem note {n : Note} (hn : Control.PlainNote t n)
    (hj : n.Justified s.control.journal) : Harmless t (Py.note n) s :=
  update (State.calm_note t hn hj)

theorem observeTerminalSafetyChildren :
    Harmless t Py.observeTerminalSafetyChildren s :=
  bind (sync (State.calm_observeTerminalChild _ s)) fun _ s' =>
    sync (State.calm_observeTerminalChild _ s')

theorem task_wp {cx : Bool} {c : Py α} (h : Harmless t c s) (hi : s.Inv)
    (hc : s.Covered t) :
    wp (taskContract t) cx c (fun _ s' => s'.Inv ∧ State.Still t s s') s :=
  wp_mono (calm_task hi hc (h hi cx)) fun _ _ hr => hr.2

theorem loose_wp {cx : Bool} {c : Py α} (h : Harmless t c s) (hi : s.Inv)
    (hc : s.Covered t) :
    wp (looseContract t) cx c (fun _ s' => s'.Inv ∧ State.Still t s s') s :=
  wp_mono (calm_loose hi hc (h hi cx)) fun _ _ hr => hr.2

end Harmless

section Locks

variable {α : Type} {t : Nat} {cx : Bool} {p : Py α} {s : State}

theorem wp_acquire {w : Wait} {free : State → Prop}
    {Q : Except Exc Unit → State → Prop} (hp : s.Parked t w)
    (hfree : ∀ s' r, Wait.enabled w r s' = true → r = .ok .none ∧ free s')
    (hgo : ∀ s₁, State.Still t s s₁ → s₁.Inv → free s₁ → Q (.ok ()) s₁)
    (hcancel : cx = true → ∀ s₁, State.Still t s s₁ → s₁.Inv →
      Q (.error .cancelled) s₁) :
    wp (taskContract t) cx (Py.yielding w) Q s := by
  refine wp_seq (R := fun r s₁ => State.Still t s s₁ ∧ s₁.Inv ∧
    ((r = .error .cancelled ∧ cx = true) ∨ (r = .ok .none ∧ free s₁)))
    ?_ ?_ ?_
  · refine wp_awaiting hp fun s₁ r h₁ hi₁ hres hcx => ⟨h₁, hi₁, ?_⟩
    cases hc : r.cancelled with
    | true =>
        refine Or.inl ⟨rfl, ?_⟩
        by_contra hfalse
        rw [hcx (Bool.not_eq_true _ ▸ hfalse)] at hc
        cases hc
    | false =>
        rcases hres with hen | ⟨_, hx⟩
        · exact Or.inr (hfree s₁ r.value hen)
        · rw [hc] at hx
          cases hx
  · rintro v s₁ ⟨h₁, hi₁, ⟨hr, _⟩ | ⟨_, hf⟩⟩
    · cases hr
    · exact hgo s₁ h₁ hi₁ hf
  · rintro e s₁ ⟨h₁, hi₁, ⟨hr, hx⟩ | ⟨hr, _⟩⟩
    · cases hr
      exact hcancel hx s₁ h₁ hi₁
    · cases hr

theorem allowed_takeCmdLock (h : s.control.cmdLock = none) :
    State.Allowed t s (s.onControl (Control.takeCmdLock t)) :=
  State.allowed_of_control rfl rfl rfl (.own (.takeCmdLock _ h))

theorem allowed_releaseCmdLock (h : s.control.cmdLock = some t)
    (hw : s.control.WarningKept) :
    State.Allowed t s (s.onControl Control.releaseCmdLock) :=
  State.allowed_of_control rfl rfl rfl (.own (.releaseCmdLock _ h hw))

/-- `async with self._cmd_lock`.  The body starts on a manager whose pending
warning is the one that is owed, and has to leave it so. -/
theorem wp_withCmdLock {Q : Except Exc α → State → Prop}
    (hbody : ∀ s₁, State.Still t s s₁ → s₁.Inv → s₁.control.cmdLock = none →
      wp (taskContract t) cx p (fun r s₂ => s₂.control.cmdLock = some t ∧
        s₂.control.WarningKept ∧ Q r (s₂.onControl Control.releaseCmdLock))
        (s₁.onControl (Control.takeCmdLock t)))
    (hcancel : cx = true → ∀ s₁, State.Still t s s₁ → s₁.Inv →
      Q (.error .cancelled) s₁) :
    wp (taskContract t) cx (Py.withCmdLock t p) Q s := by
  refine wp_seq (R := fun r s₁ => State.Still t s s₁ ∧ s₁.Inv ∧
    ((r = .error .cancelled ∧ cx = true) ∨
      (r = .ok () ∧ s₁.control.cmdLock = none))) ?_ ?_ ?_
  · refine wp_acquire (fun _ => Or.inr rfl) ?_
      (fun s₁ h₁ hi₁ hf => ⟨h₁, hi₁, Or.inr ⟨rfl, hf⟩⟩)
      (fun hx s₁ h₁ hi₁ => ⟨h₁, hi₁, Or.inl ⟨rfl, hx⟩⟩)
    intro s' r hen
    simpa [Wait.enabled] using hen
  · rintro _ s₁ ⟨h₁, hi₁, ⟨hr, _⟩ | ⟨_, hfree⟩⟩
    · cases hr
    · refine wp_updateThen (allowed_takeCmdLock hfree) ?_
      refine wp_attemptThen (wp_mono (hbody s₁ h₁ hi₁ hfree) ?_)
      rintro r s₂ ⟨hl, hw, hq⟩
      refine wp_updateThen (allowed_releaseCmdLock hl hw) ?_
      rwa [wp_ofExcept]
  · rintro e s₁ ⟨h₁, hi₁, ⟨hr, hx⟩ | ⟨hr, _⟩⟩
    · cases hr
      exact hcancel hx s₁ h₁ hi₁
    · cases hr

theorem wp_withRunRequestLock {left : Exc → Py Unit}
    {Q : Except Exc α → State → Prop} (hcov : s.Covered t)
    (hbody : ∀ s₁, State.Still t s s₁ → s₁.Inv →
      s₁.control.runRequestLock = none →
      wp (taskContract t) cx p (fun r s₂ =>
        s₂.control.runRequestLock = some t ∧
          Q r (s₂.onControl Control.releaseRunRequestLock))
        (s₁.onControl (Control.takeRunRequestLock t)))
    (hleft : ∀ s₁, State.Still t s s₁ → s₁.Inv →
      wp (taskContract t) cx (do
        left .cancelled
        Coro.raise .cancelled) Q s₁) :
    wp (taskContract t) cx (Py.withRunRequestLock t left p) Q s := by
  refine wp_returnsThen (R := fun r s₁ => State.Still t s s₁ ∧ s₁.Inv ∧
    (r = .error .cancelled ∨
      (r = .ok () ∧ s₁.control.runRequestLock = none))) ?_ ?_
  · refine (wp_attempt _ _ _).mpr ?_
    refine wp_acquire (hcov.parked _) ?_
      (fun s₁ h₁ hi₁ hf => ⟨h₁, hi₁, Or.inr ⟨rfl, hf⟩⟩)
      (fun _ s₁ h₁ hi₁ => ⟨h₁, hi₁, Or.inl rfl⟩)
    intro s' r hen
    simpa [Wait.enabled] using hen
  · rintro r s₁ ⟨h₁, hi₁, rfl | ⟨rfl, hfree⟩⟩
    · exact hleft s₁ h₁ hi₁
    · refine wp_updateThen (State.allowed_of_control rfl rfl rfl
        (.own (.takeRunRequestLock _ hfree))) ?_
      refine wp_attemptThen (wp_mono (hbody s₁ h₁ hi₁ hfree) ?_)
      rintro r s₂ ⟨hl, hq⟩
      refine wp_updateThen (State.allowed_of_control rfl rfl rfl
        (.own (.releaseRunRequestLock _ hl))) ?_
      rwa [wp_ofExcept]

end Locks

end Safety
end CryoDaq
