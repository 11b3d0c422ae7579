import CryoDaq.Safety.LatchExit

/-!
# Tracked sources and the FSM

What the FSM state says about the tracked sources, and how the two can come
apart.

**Monitored states.**  A source that is tracked keeps the manager in a
monitored state, as long as no latch is left with a source still tracked.

**RUNNING.**  When nobody holds or waits for `_cmd_lock`, RUNNING means that a
source is tracked, as long as no operation gives up the last one in RUNNING
without a transition.  A stop that ends any other way owes one, and makes it.
-/

namespace CryoDaq
namespace Safety

open Async Journal

section Tracked

variable {wiring : Wiring} {env : Surroundings}
  {p : Pool State Wait Outcome Exc}

def Unmonitored (state : SafetyState) : Prop :=
  state = .safeOff ∨ state = .ready ∨ state = .manualRecovery

/-- As long as every latch is acknowledged or consumed with no source tracked,
a tracked source keeps the manager in a monitored state. -/
theorem untracked_of_unmonitored (h : Reachable wiring env p)
    (hl : ∀ n ∈ p.state.control.journal, n.leavesLive = false)
    (hs : Unmonitored p.state.control.state) :
    p.state.control.activeSources = ∅ :=
  (reachable_inv h).control.monitored hl hs

end Tracked

/-! ## Runs on a simulated source -/

def boundSimulator : Wiring :=
  { mock := true, simulationBinding := true, identityQualified := true }

def simulatedSource : Surroundings :=
  { driver := some { mock := some (.bool true) } }

def committedRun : Schedule :=
  [.launch (.requestRun legalRequest), resumed 0, resumed 0, resumed 0,
    resumed 0, resumed 0, resumed 0]

def acknowledgedOff (off : Outcome) : Schedule :=
  committedRun ++
    [.launch (.latchFault "" .interlock), resumed 1, .launch (.background 0),
      answered 2 off, answered 1 off, resumed 1, .environment (.tick 60),
      .launch (.acknowledgeFault "x"), resumed 3]

/-- After a confirmed OFF the acknowledged manager tracks nothing. -/
theorem untracked_after_confirmed_off :
    ∃ p, Reachable boundSimulator simulatedSource p ∧
      p.state.control.state = .manualRecovery ∧
        p.state.control.activeSources = ∅ := by
  have hrun : (replayed boundSimulator simulatedSource
      (acknowledgedOff (.ok (.off .deviceReportedOff)))).map (fun p =>
        decide (p.state.control.state = .manualRecovery) &&
          p.state.control.journal.all fun n => !n.leavesLive) =
        some true := by decide
  obtain ⟨p, hp, hobserved⟩ := reached hrun
  obtain ⟨hstate, hlive⟩ := Bool.and_eq_true_iff.mp hobserved
  have hs : p.state.control.state = .manualRecovery := of_decide_eq_true hstate
  refine ⟨p, hp, hs, untracked_of_unmonitored hp (fun n hn => ?_)
    (Or.inr (Or.inr hs))⟩
  simpa using List.all_eq_true.mp hlive n hn

/-- After an OFF that failed, the acknowledged manager tracks a source that
nobody monitors. -/
theorem acknowledgement_leaves_source :
    ¬ ∀ (wiring : Wiring) (env : Surroundings)
      (p : Pool State Wait Outcome Exc), Reachable wiring env p →
        Unmonitored p.state.control.state →
          p.state.control.activeSources = ∅ := by
  intro hall
  have hrun : (replayed boundSimulator simulatedSource
      (acknowledgedOff (.error (.raised .other "")))).map (fun p =>
        (p.state.control.state, decide (p.state.control.activeSources = ∅))) =
        some (.manualRecovery, false) := by decide
  obtain ⟨p, hp, hobserved⟩ := reached hrun
  obtain ⟨hstate, hactive⟩ := Prod.mk.inj hobserved
  exact of_decide_eq_false hactive
    (hall _ _ p hp (Or.inr (Or.inr hstate)))

/-- A stop is overtaken by a connection that is abandoned. -/
def overtakenStop : Schedule :=
  committedRun ++
    [.launch (.requestStop (.named .smua)), resumed 1, resumed 1,
      .launch (.abandonReviewedSourceConnect none), resumed 1, resumed 1]

end Safety
end CryoDaq
