import CryoDaq.Safety.Runs

/-!
# Out of FAULT_LATCHED

How the manager leaves a latched fault: by acknowledgement, or by a Start that
consumes the latch.

**Exit law.**  `latch_exit_law`: nothing else ever leaves the latch.  An
acknowledgement leaves it even where it raises afterwards.

**Consumption and acknowledgement.**  Both wait for somebody else before they
clear the latch, and a fault requested meanwhile joins it without a trace.
`consumed_as_allowed` and `acknowledged_as_allowed` say what each guarantees as
long as no such fault was requested.
-/

namespace CryoDaq
namespace Safety

open Async Journal

section Entries

variable {wiring : Wiring} {env : Surroundings}
  {p q : Pool State Wait Outcome Exc} {older : List Note} {n : Note}

theorem justified_entry (newer : List Note) (h : Reachable wiring env p)
    (hj : p.state.control.journal = newer ++ n :: older) :
    n.Justified older := by
  have hall := reachable_justified h
  rw [hj] at hall
  exact hall.entry

theorem exists_transition_out {before : SafetyState} (old : List Note) :
    ∀ d : List Note, Justified Note.Justified (d ++ old) →
      lastState old = before → lastState (d ++ old) ≠ before →
        ∃ newer between after reason,
          d = newer ++ .transition before after reason :: between ∧
            after ≠ before
  | [], _, hold, hne => absurd hold hne
  | n :: d, hj, hold, hne => by
      by_cases hd : lastState (d ++ old) = before
      · cases n with
        | transition b after reason =>
            obtain rfl : b = before := hj.1.1.trans hd
            exact ⟨[], d, after, reason, rfl, hne⟩
        | _ => exact absurd hd hne
      · obtain ⟨newer, between, after, reason, rfl, hafter⟩ :=
          exists_transition_out old d hj.2 hold hd
        exact ⟨n :: newer, between, after, reason, rfl, hafter⟩

end Entries

/-! ## The exit law -/

/-- **Every exit from FAULT_LATCHED is an acknowledgement or a consumed
latch.**  In every step of a reachable manager, each transition out of
FAULT_LATCHED is written together with the entry of the task that acknowledges
or consumes; and a step after which the latch is gone has made one.  Whether
the acknowledging call then returns is another matter. -/
theorem latch_exit_law {wiring : Wiring} {env : Surroundings}
    {p q : Pool State Wait Outcome Exc}
    {m : Async.Move Outcome Operation Event} (h : Reachable wiring env p)
    (hm : manager.step p m = some q) :
    (∀ newer between after reason,
      added p.state.control.journal q.state.control.journal =
          newer ++ .transition .faultLatched after reason :: between →
        after ≠ .faultLatched →
          LeavesLatch after reason (between ++ p.state.control.journal)) ∧
      (p.state.control.state = .faultLatched →
        q.state.control.state ≠ .faultLatched →
          ∃ newer between after reason,
            added p.state.control.journal q.state.control.journal =
                newer ++ .transition .faultLatched after reason :: between ∧
              after ≠ .faultLatched) := by
  have hq : Reachable wiring env q := .step m h hm
  have hspec := added_spec (step_journal h hm)
  constructor
  · intro newer between after reason hsplit hafter
    rw [hsplit] at hspec
    have hentry : (Note.transition .faultLatched after reason).Justified
        (between ++ p.state.control.journal) := by
      refine justified_entry newer hq ?_
      rw [← hspec, List.append_assoc, List.cons_append]
    exact hentry.2 rfl hafter
  · intro hbefore hafter
    refine exists_transition_out p.state.control.journal _ ?_ ?_ ?_
    · rw [hspec]
      exact reachable_justified hq
    · rw [(reachable_inv h).control.chained, hbefore]
    · rw [hspec, (reachable_inv hq).control.chained]
      exact hafter

def acknowledgedFault : Schedule :=
  [.launch (.latchFault "" .interlock), .environment (.tick 60),
    .launch (.acknowledgeFault "x")]

/-- The last step of an acknowledged fault is such an exit. -/
theorem latch_exit_acknowledged :
    ∃ p q, Reachable {} {} p ∧ manager.step p (resumed 1) = some q ∧
      p.state.control.state = .faultLatched ∧
        q.state.control.state = .manualRecovery ∧
          ∃ newer between after reason,
            added p.state.control.journal q.state.control.journal =
                newer ++ .transition .faultLatched after reason :: between ∧
              after ≠ .faultLatched := by
  have hrun : (replayed {} {} acknowledgedFault).map (fun p =>
      (p.state.control.state,
        (manager.step p (resumed 1)).map fun q => q.state.control.state)) =
        some (.faultLatched, some .manualRecovery) := by decide
  obtain ⟨p, hp, hobserved⟩ := reached hrun
  obtain ⟨hbefore, hstep⟩ := Prod.mk.inj hobserved
  obtain ⟨q, hm, hafter⟩ := Option.map_eq_some_iff.mp hstep
  exact ⟨p, q, hp, hm, hbefore, hafter,
    (latch_exit_law hp hm).2 hbefore (by rw [hafter]; decide)⟩

/-- The exception that task `t` ended with. -/
def raisedBy (t : Nat) (p : Pool State Wait Outcome Exc) : Option Exc :=
  match p.find t with
  | some (.raise e) => some e
  | _ => none

/-- A fault is acknowledged while a protected channel is dead whose name ends
with a space, so that the operator snapshot refuses its text. -/
def unshownAcknowledgement : Schedule :=
  [.launch (.latchFault "" .interlock), .environment (.tick 60),
    .launch (.onInterlockDeadChannel "" "T1 " [] (.finite 1)),
    .launch (.acknowledgeFault "x")]

/-- The step that acknowledges a latch may end the call with an exception: the
refresh of the snapshot comes after the transition, and raises. -/
theorem acknowledgement_may_raise :
    ¬ ∀ (wiring : Wiring) (env : Surroundings)
      (p q : Pool State Wait Outcome Exc)
      (m : Async.Move Outcome Operation Event) (t : Nat),
        Reachable wiring env p → manager.step p m = some q →
        p.state.control.state = .faultLatched →
        q.state.control.state = .manualRecovery →
        (added p.state.control.journal q.state.control.journal).any
          (Note.isCleared t) = true →
        raisedBy t q = none := by
  intro hall
  have hrun : (replayed {} {} unshownAcknowledgement).map (fun p =>
      (p.state.control.state, (manager.step p (resumed 2)).map fun q =>
        (q.state.control.state,
          (added p.state.control.journal q.state.control.journal).any
            (Note.isCleared 2),
          (raisedBy 2 q).isSome))) =
        some (.faultLatched, some (.manualRecovery, true, true)) := by
    decide +kernel
  obtain ⟨p, hp, hobserved⟩ := reached hrun
  obtain ⟨hbefore, hstep⟩ := Prod.mk.inj hobserved
  obtain ⟨q, hm, hafter⟩ := Option.map_eq_some_iff.mp hstep
  obtain ⟨hstate, hcleared, hraised⟩ :
      q.state.control.state = .manualRecovery ∧
        (added p.state.control.journal q.state.control.journal).any
          (Note.isCleared 2) = true ∧ (raisedBy 2 q).isSome = true := by
    simpa only [Prod.mk.injEq] using hafter
  rw [hall _ _ p q _ 2 hp hm hbefore hstate hcleared] at hraised
  cases hraised

/-! ## Consumption by a Start -/

def Note.requestsFault : Note → Bool
  | .faultRequested _ => true
  | _ => false

theorem exists_requested {j : List Note}
    (h : j.any Note.requestsFault = true) :
    ∃ source, .faultRequested source ∈ j := by
  obtain ⟨n, hn, hfault⟩ := List.any_eq_true.mp h
  cases n with
  | faultRequested source => exact ⟨source, hn⟩
  | _ => simp [Note.requestsFault] at hfault

/-- A fault request of another origin than persistence. -/
def Note.requestsOther : Note → Bool
  | .faultRequested source => decide (source ≠ .persistence)
  | _ => false

/-- The origins that allow a Start to consume the latch. -/
def ConsumedAsAllowed (sources : Finset FaultSource) (recovered : Bool) :
    Prop :=
  sources = {.interlock} ∨ (sources = {.persistence} ∧ recovered = true)

/-- While a Start asks whether persistence has recovered, no fault of another
origin is requested. -/
def Note.Undisturbed : Note → List Note → Prop
  | .latchConsumed t _ true _ _ _, older =>
      ∀ n ∈ sinceLast (Note.isProbe t) older, n.requestsOther = false
  | _, _ => True

instance (n : Note) (older : List Note) : Decidable (n.Undisturbed older) := by
  unfold Note.Undisturbed
  split <;> infer_instance

/-- As long as no probe of a Start is disturbed, a latch is consumed only when
its origins allow it. -/
theorem consumed_as_allowed {wiring : Wiring} {env : Surroundings}
    {p : Pool State Wait Outcome Exc} (newer : List Note) {older : List Note}
    {reason : TransitionReason} (h : Reachable wiring env p)
    (hu : Justified Note.Undisturbed p.state.control.journal)
    (hj : p.state.control.journal =
      newer ++ .transition .faultLatched .safeOff reason :: older) :
    ∃ t sources recovered active code current rest,
      older = .latchConsumed t sources recovered active code current :: rest ∧
        ConsumedAsAllowed sources recovered := by
  have hexit := (justified_entry newer h hj).2 rfl (by decide)
  rcases hexit with ⟨hafter, _⟩ | ⟨_, _, t, sources, recovered, active, code,
    current, hhead⟩
  · cases hafter
  obtain ⟨rest, rfl⟩ : ∃ rest, older =
      .latchConsumed t sources recovered active code current :: rest := by
    cases older with
    | nil => cases hhead
    | cons n rest => exact ⟨rest, by rw [Option.some.inj hhead]⟩
  refine ⟨t, sources, recovered, active, code, current, rest, rfl, ?_⟩
  have hall := reachable_justified h
  rw [hj] at hall hu
  obtain ⟨horigins, _, _⟩ := (Justified.older hall).2.1
  have hquiet := (Justified.older hu).2.1
  cases recovered with
  | false => exact Or.inl (by simpa [ConsumableOrigins] using horigins)
  | true =>
      obtain ⟨hmem, honly⟩ : .persistence ∈ sources ∧
          ∀ source ∈ sources, source = .persistence ∨
            .faultRequested source ∈ sinceLast (Note.isProbe t) rest := by
        simpa [ConsumableOrigins] using horigins
      refine Or.inr ⟨Finset.eq_singleton_iff_unique_mem.mpr
        ⟨hmem, fun source hsource => ?_⟩, rfl⟩
      rcases honly source hsource with heq | hjoined
      · exact heq
      · simpa [Note.requestsOther] using hquiet _ hjoined

instance (sources : Finset FaultSource) (recovered : Bool) :
    Decidable (ConsumedAsAllowed sources recovered) := by
  unfold ConsumedAsAllowed
  infer_instance

def simulator : Wiring := { mock := true }

def legalRequest : RunRequest where
  pTarget := .finite 1
  vComp := .finite 1
  iComp := .finite 1
  channel := .named .smua
  committer := false

/-- A Start asks whether persistence has recovered. -/
def probingStart : Schedule :=
  [.launch (.onPersistenceFailure ""), .launch (.requestRun legalRequest),
    resumed 1, resumed 1]

/-- What is observed of a journal that ends in a consumed latch. -/
def afterConsumption
    (f : TransitionReason → Finset FaultSource → Bool → Bool) :
    List Note → Bool
  | .transition .faultLatched .safeOff reason ::
      .latchConsumed _ sources recovered _ _ _ :: _ => f reason sources recovered
  | _ => false

theorem of_afterConsumption
    {f : TransitionReason → Finset FaultSource → Bool → Bool}
    {journal : List Note} (h : afterConsumption f journal = true) :
    ∃ reason t sources recovered active code current rest,
      journal = .transition .faultLatched .safeOff reason ::
        .latchConsumed t sources recovered active code current :: rest ∧
      f reason sources recovered = true := by
  unfold afterConsumption at h
  split at h
  · exact ⟨_, _, _, _, _, _, _, _, rfl, h⟩
  · cases h

/-- The answer consumes a latch that persistence alone had set. -/
theorem consumed_after_recovery :
    ∃ p older, Reachable simulator { persistenceRecovered := some .awaitable } p ∧
      p.state.control.journal =
        .transition .faultLatched .safeOff .startUnderLatch :: older ∧
      ∃ t sources recovered active code current rest,
        older = .latchConsumed t sources recovered active code current :: rest ∧
          ConsumedAsAllowed sources recovered := by
  have hrun : (replayed simulator { persistenceRecovered := some .awaitable }
      (probingStart ++ [answered 1 (.ok (.bool true))])).map (fun p =>
        decide (Justified Note.Undisturbed p.state.control.journal) &&
          afterConsumption (fun reason _ _ =>
            decide (reason = .startUnderLatch)) p.state.control.journal) =
        some true := by decide
  obtain ⟨p, hp, hobserved⟩ := reached hrun
  obtain ⟨hu, hhead⟩ := Bool.and_eq_true_iff.mp hobserved
  obtain ⟨reason, t, sources, recovered, active, code, current, rest, hj,
    hreason⟩ := of_afterConsumption hhead
  obtain rfl := of_decide_eq_true hreason
  exact ⟨p, _, hp, hj, consumed_as_allowed [] hp (of_decide_eq_true hu) hj⟩

/-- An interlock that trips during the probe is consumed with the latch. -/
theorem consumption_erases_joined_fault :
    ¬ ∀ (wiring : Wiring) (env : Surroundings)
      (p : Pool State Wait Outcome Exc) (newer older : List Note)
      (reason : TransitionReason), Reachable wiring env p →
        p.state.control.journal =
          newer ++ .transition .faultLatched .safeOff reason :: older →
        ∃ t sources recovered active code current rest,
          older = .latchConsumed t sources recovered active code current ::
              rest ∧ ConsumedAsAllowed sources recovered := by
  intro hall
  have hrun : (replayed simulator { persistenceRecovered := some .awaitable }
      (probingStart ++ [.launch (.latchFault "" .interlock),
        answered 1 (.ok (.bool true))])).map (fun p =>
        afterConsumption (fun _ sources recovered =>
          decide (¬ ConsumedAsAllowed sources recovered))
          p.state.control.journal) = some true := by decide
  obtain ⟨p, hp, hobserved⟩ := reached hrun
  obtain ⟨reason, t, sources, recovered, active, code, current, rest, hj,
    herased⟩ := of_afterConsumption hobserved
  obtain ⟨t', sources', recovered', active', code', current', rest', heq,
    hallowed⟩ := hall _ _ p [] _ reason hp hj
  cases heq
  exact of_decide_eq_true herased hallowed

/-- Until an admitted acknowledgement clears the latch, no fault is
requested. -/
def Note.Unjoined : Note → List Note → Prop
  | .acknowledgeCleared t _, older =>
      ∀ n ∈ sinceLast (Note.isAdmittedAcknowledge t) older,
        n.requestsFault = false
  | _, _ => True

instance (n : Note) (older : List Note) : Decidable (n.Unjoined older) := by
  unfold Note.Unjoined
  split <;> infer_instance

/-- As long as no fault joins the latch while an acknowledgement waits to
clear it, an acknowledgement that returns leaves every fault requested since
its admission latched. -/
theorem acknowledged_as_allowed {wiring : Wiring} {env : Surroundings}
    {p : Pool State Wait Outcome Exc} (newer : List Note) {older : List Note}
    {t : Nat} {state : SafetyState} (h : Reachable wiring env p)
    (hu : Justified Note.Unjoined p.state.control.journal)
    (hj : p.state.control.journal =
      newer ++ .acknowledgeReturned t state :: older)
    (hf : ∃ source, .faultRequested source ∈
      sinceLast (Note.isAdmittedAcknowledge t) older) :
    state = .faultLatched := by
  obtain ⟨source, hmem⟩ := hf
  refine (justified_entry newer h hj : Note.Justified _ older) ⟨source, ?_⟩
  rcases sinceLast_or _ (Note.isCleared t) rfl older hmem with
    hsince | ⟨later, m, earlier, rfl, hm, hearlier⟩
  · exact hsince
  · exfalso
    rw [hj, ← List.cons_append, ← List.append_assoc] at hu
    have hquiet := (Justified.older hu).1
    cases m with
    | acknowledgeCleared u active =>
        obtain rfl : u = t := by simpa [Note.isCleared] using hm
        have hnone := hquiet _ hearlier
        simp [Note.requestsFault] at hnone
    | _ => simp [Note.isCleared] at hm

/-- What is observed of a journal that ends in an acknowledgement. -/
def afterAcknowledge (f : Nat → SafetyState → List Note → Bool) :
    List Note → Bool
  | .acknowledgeReturned t state :: older => f t state older
  | _ => false

theorem of_afterAcknowledge {f : Nat → SafetyState → List Note → Bool}
    {journal : List Note} (h : afterAcknowledge f journal = true) :
    ∃ t state older, journal = .acknowledgeReturned t state :: older ∧
      f t state older = true := by
  unfold afterAcknowledge at h
  split at h
  · exact ⟨_, _, _, rfl, h⟩
  · cases h

/-- A fault requested after the latch was cleared is kept. -/
theorem late_fault_stays_latched :
    ∃ p older t state, Reachable { dataBroker := true } {} p ∧
      p.state.control.journal = .acknowledgeReturned t state :: older ∧
        state = .faultLatched := by
  have hrun : (replayed { dataBroker := true } {}
      (acknowledgedFault ++ [resumed 1, .launch (.latchFault "" .persistence),
        resumed 1, resumed 1])).map (fun p =>
        decide (Justified Note.Unjoined p.state.control.journal) &&
          afterAcknowledge (fun t _ older =>
            (sinceLast (Note.isAdmittedAcknowledge t) older).any
              Note.requestsFault) p.state.control.journal) =
        some true := by decide
  obtain ⟨p, hp, hobserved⟩ := reached hrun
  obtain ⟨hu, hhead⟩ := Bool.and_eq_true_iff.mp hobserved
  obtain ⟨t, state, older, hj, hrequested⟩ := of_afterAcknowledge hhead
  exact ⟨p, older, t, state, hp, hj, acknowledged_as_allowed [] hp
    (of_decide_eq_true hu) hj (exists_requested hrequested)⟩

/-- An acknowledgement waits for the watchdog while a second fault is
requested. -/
def joinedAcknowledgement : Schedule :=
  [.launch (.latchFault "" .interlock), .environment (.tick 60),
    .launch (.acknowledgeFault "x"), resumed 1,
    .launch (.latchFault "" .persistence), answered 1 (.ok (.bool true))]

def watchdogDriver : Driver := { acknowledgeWdogTrip := some .awaitable }

/-- A fault that joins while the watchdog is asked is cleared with the rest. -/
theorem acknowledgement_swallows_fault :
    ¬ ∀ (wiring : Wiring) (env : Surroundings)
      (p : Pool State Wait Outcome Exc) (newer older : List Note) (t : Nat)
      (state : SafetyState), Reachable wiring env p →
        p.state.control.journal =
          newer ++ .acknowledgeReturned t state :: older →
        (∃ source, .faultRequested source ∈
          sinceLast (Note.isAdmittedAcknowledge t) older) →
        state = .faultLatched := by
  intro hall
  have hrun : (replayed {} { driver := some watchdogDriver }
      joinedAcknowledgement).map (fun p =>
        afterAcknowledge (fun t state older =>
          decide (state = .manualRecovery) &&
            (sinceLast (Note.isAdmittedAcknowledge t) older).any
              Note.requestsFault) p.state.control.journal) = some true := by
    decide
  obtain ⟨p, hp, hobserved⟩ := reached hrun
  obtain ⟨t, state, older, hj, hswallowed⟩ := of_afterAcknowledge hobserved
  obtain ⟨hstate, hany⟩ := Bool.and_eq_true_iff.mp hswallowed
  have hlatched := hall _ _ p [] older t state hp hj (exists_requested hany)
  rw [of_decide_eq_true hstate] at hlatched
  cases hlatched

end Safety
end CryoDaq
