import CryoDaq.Safety.Tracking

/-!
# The end of a stop

When `stop()` returns, OFF was proved after every fault settlement had finished
and both children had ended; when it gives up, it still owns what it owned.

**Whose stop.**  A `stop()` that begins without a child while a settlement of
an earlier one is pending loses its own stop cut as soon as that settlement
ends: a later `start()` then runs beside it.  `stop_orderly` holds as long as
no `stop()` begins so, and no refresh of the operator snapshot raises.
-/

namespace CryoDaq
namespace Safety

open Async Journal

/-- A `stop()` that returns has released its children; it releases them only
over a final proof of OFF, with nothing tracked; and one that does not release
them still owns them, and may be retried. -/
theorem stop_orderly {wiring : Wiring} {env : Surroundings}
    {p : Pool State Wait Outcome Exc} (newer : List Note) {older : List Note}
    {e : StopExit} (h : Reachable wiring env p)
    (hj : p.state.control.journal = newer ++ .stopEnded e :: older)
    (ho : StopsOwned older) :
    (e.returned = true → e.Proved older ∧ e.activeSources = ∅) ∧
      (e.released = false → e.Retained) := by
  have horderly : e.Orderly older :=
    (justified_entry newer h hj : Note.Justified _ older) ho
  exact ⟨fun hr => horderly.proved (horderly.released hr), horderly.retained⟩

/-- A simulator is started, runs a source and is stopped: the source is turned
off, OFF is proved, both children end, and OFF is proved again. -/
def stoppedRun : Schedule :=
  let off : Outcome := .ok (.off .deviceReportedOff)
  [.launch .start, .launch (.requestRun legalRequest), resumed 1, resumed 1,
    resumed 1, resumed 1, resumed 1, resumed 1, .launch .stop, resumed 2,
    answered 2 (.ok (.bool true)), resumed 2, resumed 2,
    .launch (.background 0), answered 3 off, answered 2 off, resumed 2,
    .environment (.childEnds 0 .cancelled),
    .environment (.childEnds 1 .cancelled), resumed 2, resumed 2,
    .launch (.background 1), answered 4 off, answered 2 off, resumed 2]

def Note.isReceipt : Note → Bool
  | .runConfirmed _ => true
  | _ => false

theorem exists_receipt {j : List Note} (h : j.any Note.isReceipt = true) :
    ∃ r, .runConfirmed r ∈ j := by
  obtain ⟨n, hn, hreceipt⟩ := List.any_eq_true.mp h
  cases n with
  | runConfirmed r => exact ⟨r, hn⟩
  | _ => simp [Note.isReceipt] at hreceipt

/-- What is observed of a journal that ends in the end of a stop. -/
def afterStop (f : StopExit → List Note → Bool) : List Note → Bool
  | .stopEnded e :: older => f e older
  | _ => false

theorem of_afterStop {f : StopExit → List Note → Bool} {journal : List Note}
    (h : afterStop f journal = true) :
    ∃ e older, journal = .stopEnded e :: older ∧ f e older = true := by
  unfold afterStop at h
  split at h
  · exact ⟨_, _, rfl, h⟩
  · cases h

/-- Its stop returns over a final proof of OFF. -/
theorem stopped_run_proved :
    ∃ p older e, Reachable boundSimulator simulatedSource p ∧
      p.state.control.journal = .stopEnded e :: older ∧
        p.state.env.driver.isSome = true ∧ (∃ r, .runConfirmed r ∈ older) ∧
          e.returned = true ∧ e.Proved older ∧ e.activeSources = ∅ := by
  have hrun : (replayed boundSimulator simulatedSource stoppedRun).map
      (fun p => p.state.env.driver.isSome && afterStop (fun e older =>
        older.any Note.isReceipt &&
          (e.returned && older.all fun n => !n.upsetsStop))
        p.state.control.journal) = some true := by decide
  obtain ⟨p, hp, hobserved⟩ := reached hrun
  obtain ⟨hdriver, hobserved⟩ := Bool.and_eq_true_iff.mp hobserved
  obtain ⟨e, older, hj, hobserved⟩ := of_afterStop hobserved
  obtain ⟨hreceipt, hobserved⟩ := Bool.and_eq_true_iff.mp hobserved
  obtain ⟨hreturned, howned⟩ := Bool.and_eq_true_iff.mp hobserved
  exact ⟨p, older, e, hp, hj, hdriver, exists_receipt hreceipt, hreturned,
    (stop_orderly [] hp hj fun n hn => by
      simpa using List.all_eq_true.mp howned n hn).1 hreturned⟩

/-! ## A stop beside a start -/

/-- A first `stop()` cannot prove OFF and retains a settlement. -/
def heldStop : Schedule :=
  [.launch .stop, resumed 0, .launch (.background 0),
    answered 1 (.error (.raised .other "")),
    answered 0 (.error (.raised .other "")), resumed 0]

/-- A second one begins while that settlement is pending, and a `start()`
follows once it has finished. -/
def besideStart : Schedule :=
  let off : Outcome := .ok (.off .deviceReportedOff)
  heldStop ++
    [.launch (.background 1), .launch .stop, resumed 2, resumed 3,
      .launch (.background 2), .launch (.background 3), answered 4 off,
      answered 5 off, answered 2 off, resumed 2, resumed 2, resumed 2,
      .environment (.settlementCallback 1), .launch .start]

/-- The second stop runs to its last proof, and a new child fails before it
returns. -/
def overtakenProof : Schedule :=
  let off : Outcome := .ok (.off .deviceReportedOff)
  besideStart ++
    [answered 3 off, resumed 3, answered 3 (.ok (.bool true)), resumed 3,
      .launch (.background 4), answered 7 off, answered 3 off, resumed 3, resumed 3,
      resumed 3, .launch (.background 5), answered 8 off, answered 3 off,
      .environment (.childEnds 0 .failed),
      .environment (.childCallback ⟨0, .collect, 1⟩), resumed 3]

/-- A proof of OFF that does not stand for these settlements. -/
def Note.provesOther (settlements : Nat) : Note → Bool
  | .outputOffProved proof => proof.settlements != settlements
  | _ => true

/-- The second stop returns although a settlement is unfinished. -/
theorem stop_returns_unsettled :
    ¬ ∀ (wiring : Wiring) (env : Surroundings)
      (p : Pool State Wait Outcome Exc) (newer older : List Note)
      (e : StopExit), Reachable wiring env p →
        p.state.control.journal = newer ++ .stopEnded e :: older →
        (e.returned = true → e.Proved older ∧ e.activeSources = ∅) ∧
          (e.released = false → e.Retained) := by
  intro hall
  have hrun : (replayed boundSimulator simulatedSource overtakenProof).map
      (fun p => afterStop (fun e older =>
        e.returned && older.all (Note.provesOther e.settlements))
        p.state.control.journal) = some true := by decide
  obtain ⟨p, hp, hobserved⟩ := reached hrun
  obtain ⟨e, older, hj, hobserved⟩ := of_afterStop hobserved
  obtain ⟨hreturned, hstale⟩ := Bool.and_eq_true_iff.mp hobserved
  obtain ⟨⟨proof, hmem, _, _, _, hsettlements, _⟩, _⟩ :=
    (hall _ _ p [] older e hp hj).1 hreturned
  have hne := List.all_eq_true.mp hstale _ hmem
  simp [Note.provesOther, hsettlements] at hne

end Safety
end CryoDaq
