import CryoDaq.Safety.Tracking

/-!
# What a Start returns

A positive receipt, a Start without one, and the warning that a consumed latch
owes.

**Positive receipts.**  `receipt_confirmed`: no abort intent was registered
from the first step of the call to its last, and the source is committed.

**Refusals.**  `refused_turned_off`: whatever a refused Start touched was
turned off after it was touched, as long as the driver answered the call while
the manager was not latched, and could be inspected, and every refresh of the
operator snapshot returned.

**Warnings.**  `warned_after_consumption`: the first receipt after a consumed
latch names it, as long as neither an abort intent nor a refused second pass
came in between.
-/

namespace CryoDaq
namespace Safety

open Async Journal

/-- **Abort beats Start.**  A positive receipt is one that no abort intent
overtook. -/
theorem receipt_confirmed {wiring : Wiring} {env : Surroundings}
    {p : Pool State Wait Outcome Exc} (newer : List Note) {older : List Note}
    {r : RunReceipt} (h : Reachable wiring env p)
    (hj : p.state.control.journal = newer ++ .runConfirmed r :: older) :
    r.abortGeneration = r.admittedGeneration ∧
      (∀ n ∈ older.take (older.length - r.admittedAt),
        n.isAbortIntent = false) ∧
      r.state = .running ∧ r.channel ∈ r.activeSources ∧
      (r.childrenLive = true ∨ r.neverStartedSimulator = true) ∧
      (r.driverCut = .ok none ∨
        r.driverCut = .ok (some (some r.activeSources))) := by
  have hr : r.Confirmed older := justified_entry newer h hj
  exact ⟨hr.generation, hr.unaborted, hr.running, hr.tracked, hr.children,
    hr.cut⟩

/-- What is observed of a journal that ends in a receipt. -/
def afterReceipt (f : RunReceipt → List Note → Bool) : List Note → Bool
  | .runConfirmed r :: older => f r older
  | _ => false

theorem of_afterReceipt {f : RunReceipt → List Note → Bool}
    {journal : List Note} (h : afterReceipt f journal = true) :
    ∃ r older, journal = .runConfirmed r :: older ∧ f r older = true := by
  unfold afterReceipt at h
  split at h
  · exact ⟨_, _, rfl, h⟩
  · cases h

/-- The receipt of a committed Start. -/
theorem receipt_of_committed_run :
    ∃ p older r, Reachable boundSimulator simulatedSource p ∧
      p.state.control.journal = .runConfirmed r :: older ∧
        r.state = .running := by
  have hrun : (replayed boundSimulator simulatedSource committedRun).map
      (fun p => afterReceipt (fun _ _ => true) p.state.control.journal) =
        some true := by decide
  obtain ⟨p, hp, hobserved⟩ := reached hrun
  obtain ⟨r, older, hj, _⟩ := of_afterReceipt hobserved
  exact ⟨p, older, r, hp, hj, (receipt_confirmed [] hp hj).2.2.1⟩

/-- A simulator that was never started has no children. -/
theorem receipt_without_children :
    ¬ ∀ (wiring : Wiring) (env : Surroundings)
      (p : Pool State Wait Outcome Exc) (newer older : List Note)
      (r : RunReceipt), Reachable wiring env p →
        p.state.control.journal = newer ++ .runConfirmed r :: older →
        r.abortGeneration = r.admittedGeneration ∧ r.state = .running ∧
          r.channel ∈ r.activeSources ∧ r.childrenLive = true ∧
            (r.driverCut = .ok none ∨
              r.driverCut = .ok (some (some r.activeSources))) := by
  intro hall
  have hrun : (replayed boundSimulator simulatedSource committedRun).map
      (fun p => afterReceipt (fun r _ => !r.childrenLive)
        p.state.control.journal) = some true := by decide
  obtain ⟨p, hp, hobserved⟩ := reached hrun
  obtain ⟨r, older, hj, hdead⟩ := of_afterReceipt hobserved
  have hlive := (hall _ _ p [] older r hp hj).2.2.2.1
  rw [hlive] at hdead
  cases hdead

namespace Note

/-- `start_source` of task `t` settled. -/
def settlesStart (t : Nat) : Note → Bool
  | .startSettled u _ _ _ => u == t
  | _ => false

/-- An OFF that covers the channel is requested from the driver. -/
def requestsOff (channel : SmuChannel) : Note → Bool
  | .offRequested none => true
  | .offRequested (some c) => c == channel
  | _ => false

/-- What keeps a refused Start of task `t` from turning its source off itself:
a refresh of the snapshot or `start_source` under a latched fault raised, the
driver could not be inspected after publication, or the fault of its revocation
found the manager latched. -/
def disturbs (t : Nat) : Note → Bool
  | .snapshotRefused => true
  | .startSettled u _ failed state =>
      u == t && (failed && state == .faultLatched)
  | .inspectionRaised u => u == t
  | .revocationJoined u => u == t
  | _ => false

/-- Task `t` joins only global OFFs requested after its start settled. -/
def FreshJoin (t : Nat) : Note → List Note → Prop
  | .offJoined u requestedAt, older =>
      u = t → ∀ n ∈ older.take (older.length - requestedAt),
        n.settlesStart t = false
  | _, _ => True

/-- When the OFF was requested that task `t` joins. -/
def joinedAt (t : Nat) : Note → Option Nat
  | .offJoined u requestedAt => if u = t then some requestedAt else none
  | _ => none

theorem freshJoin_iff (t : Nat) (n : Note) (older : List Note) :
    (∀ r ∈ n.joinedAt t, ∀ m ∈ older.take (older.length - r),
      m.settlesStart t = false) ↔ n.FreshJoin t older := by
  cases n with
  | offJoined u requestedAt => simp [joinedAt, FreshJoin]
  | _ => simp [joinedAt, FreshJoin]

instance (t : Nat) (n : Note) (older : List Note) :
    Decidable (n.FreshJoin t older) :=
  decidable_of_iff _ (freshJoin_iff t n older)

end Note

/-- Every settled start of task `t` was followed by a request of an OFF that
covers the channel. -/
def TurnedOff (t : Nat) (channel : SmuChannel) : List Note → Prop
  | [] => True
  | n :: older =>
      n.requestsOff channel = true ∨
        (n.settlesStart t = false ∧ TurnedOff t channel older)

instance decidableTurnedOff (t : Nat) (channel : SmuChannel) :
    ∀ j : List Note, Decidable (TurnedOff t channel j)
  | [] => .isTrue trivial
  | n :: older =>
      @instDecidableOr (n.requestsOff channel = true)
        (n.settlesStart t = false ∧ TurnedOff t channel older) _
        (@instDecidableAnd _ _ _ (decidableTurnedOff t channel older))

section Refusals

variable {t : Nat} {channel : SmuChannel}

theorem turnedOff_of_none {d : List Note}
    (h : ∀ n ∈ d, n.settlesStart t = false) : TurnedOff t channel d := by
  induction d with
  | nil => trivial
  | cons n d ih =>
      exact Or.inr ⟨h n List.mem_cons_self,
        ih fun m hm => h m (List.mem_cons_of_mem _ hm)⟩

theorem turnedOff_append {d : List Note}
    (h : ∀ n ∈ d, n.settlesStart t = false) (j : List Note)
    (hj : TurnedOff t channel j) : TurnedOff t channel (d ++ j) := by
  induction d with
  | nil => exact hj
  | cons n d ih =>
      exact Or.inr ⟨h n List.mem_cons_self,
        ih fun m hm => h m (List.mem_cons_of_mem _ hm)⟩

/-- A global OFF that was requested at some point of the journal, with no start
of task `t` settled since. -/
theorem turnedOff_of_requested {d base : List Note} {requestedAt : Nat}
    (hat : (d ++ base).reverse[requestedAt]? = some (.offRequested none))
    (hsince : ∀ n ∈ (d ++ base).take ((d ++ base).length - requestedAt),
      n.settlesStart t = false) : TurnedOff t channel d := by
  obtain ⟨newer, older, hsplit, htake⟩ := split_at hat
  have hquiet : ∀ n ∈ newer, n.settlesStart t = false := by
    intro n hn
    refine hsince n ?_
    rw [htake]
    exact List.mem_append_left _ hn
  rcases List.append_eq_append_iff.mp hsplit with
    ⟨c, rfl, _⟩ | ⟨c, rfl, hc⟩
  · exact turnedOff_of_none fun n hn => hquiet n (List.mem_append_left c hn)
  · refine turnedOff_append hquiet c ?_
    cases c with
    | nil => trivial
    | cons n c =>
        obtain ⟨rfl, _⟩ := List.cons.inj hc
        exact Or.inl rfl

/-- What the journal of a refused Start covers was turned off, when nothing
disturbed it. -/
theorem turnedOff_of_covered (base : List Note) :
    ∀ d : List Note, Justified Note.Justified (d ++ base) →
      Justified (Note.FreshJoin t) (d ++ base) →
        (∀ n ∈ d, n.disturbs t = false) → StartsCovered t channel d →
          TurnedOff t channel d
  | [], _, _, _, _ => trivial
  | n :: d, hj, hf, hd, hc => by
      have hold : StartsCovered t channel d → TurnedOff t channel d :=
        turnedOff_of_covered base d hj.2 hf.2 fun m hm =>
          hd m (List.mem_cons_of_mem _ hm)
      have hcalm := hd n List.mem_cons_self
      rcases hc with hcovers | ⟨hstart, hrest⟩
      · cases n with
        | offRequested scope => cases scope <;> exact Or.inl hcovers
        | offJoined u requestedAt =>
            obtain rfl : u = t := by simpa [Note.covers] using hcovers
            exact Or.inr ⟨rfl, turnedOff_of_requested hj.1 (hf.1 rfl)⟩
        | _ => cases hcovers
      · refine Or.inr ⟨?_, hold hrest⟩
        cases n with
        | startSettled u c failed state =>
            by_cases hu : u = t
            · subst hu
              simp_all [Note.isStart, Note.disturbs]
            · simp [Note.settlesStart, hu]
        | _ => rfl

end Refusals

/-- A Start without a positive receipt, undisturbed, leaves nothing on: on
exit its channel is not tracked or the manager is latched, and every start that
settled was followed by an OFF of the channel.  The channel is tracked neither
at the first step nor when the Start gets its turn. -/
theorem refused_turned_off {wiring : Wiring} {env : Surroundings}
    {p : Pool State Wait Outcome Exc} (newer : List Note) {older : List Note}
    {e : RunExit} (h : Reachable wiring env p)
    (hj : p.state.control.journal = newer ++ .runRefused e :: older)
    (hd : ∀ n ∈ older.take (older.length - e.admittedAt),
      n.disturbs e.task = false)
    (hf : Justified (Note.FreshJoin e.task) older)
    (ha : e.channel ∉ e.activeAtAdmission) (hturn : e.channel ∉ e.activeAtTurn) :
    (e.channel ∉ e.activeSources ∨ e.state = .faultLatched) ∧
      TurnedOff e.task e.channel
        (older.take (older.length - e.admittedAt)) := by
  have hsettled : e.Settled older := justified_entry newer h hj
  have hspec := List.take_append_drop (older.length - e.admittedAt) older
  have hnot : ∀ n : Note, n.disturbs e.task = true →
      n ∉ older.take (older.length - e.admittedAt) := by
    intro n hn hm
    rw [hd n hm] at hn
    cases hn
  rcases hsettled ha with
    hactive | hrefused | hraised | ⟨hexit, hjoined | hcovered⟩
  · exact absurd hactive hturn
  · exact absurd hrefused (hnot _ rfl)
  · exact absurd hraised (hnot _ (by simp [Note.disturbs]))
  · exact absurd hjoined (hnot _ (by simp [Note.disturbs]))
  · refine ⟨hexit, turnedOff_of_covered (older.drop (older.length -
      e.admittedAt)) _ ?_ ?_ hd hcovered⟩
    · rw [hspec]
      have hall := reachable_justified h
      rw [hj] at hall
      exact (Justified.older hall).2
    · rw [hspec]
      exact hf

/-- A Start that waits for `start_source`. -/
def startingSource : Schedule :=
  [.launch (.requestRun legalRequest), resumed 0, resumed 0, resumed 0]

/-- What is observed of a journal that ends in a refused Start. -/
def afterRefusal (f : RunExit → List Note → Bool) : List Note → Bool
  | .runRefused e :: older => f e older
  | _ => false

theorem of_afterRefusal {f : RunExit → List Note → Bool}
    {journal : List Note} (h : afterRefusal f journal = true) :
    ∃ e older, journal = .runRefused e :: older ∧ f e older = true := by
  unfold afterRefusal at h
  split at h
  · exact ⟨_, _, rfl, h⟩
  · cases h

/-- `start_source` raises, and the fault that follows turns everything off. -/
theorem failed_start_turned_off :
    ∃ p older e, Reachable boundSimulator simulatedSource p ∧
      p.state.control.journal = .runRefused e :: older ∧
        e.channel ∉ e.activeAtAdmission ∧
          TurnedOff e.task e.channel
            (older.take (older.length - e.admittedAt)) := by
  have hrun : (replayed boundSimulator simulatedSource (startingSource ++
      [answered 0 (.error (.raised .other "")), resumed 0,
        .launch (.background 0), answered 1 (.ok (.off .deviceReportedOff)),
        answered 0 (.ok (.off .deviceReportedOff)), resumed 0, resumed 0,
        resumed 0])).map
      (fun p => afterRefusal (fun e older =>
        (older.take (older.length - e.admittedAt)).all
            (fun n => !n.disturbs e.task) &&
          (decide (Justified (Note.FreshJoin e.task) older) &&
            decide (e.channel ∉ e.activeAtAdmission ∧
              e.channel ∉ e.activeAtTurn)))
        p.state.control.journal) = some true := by decide
  obtain ⟨p, hp, hobserved⟩ := reached hrun
  obtain ⟨e, older, hj, hobserved⟩ := of_afterRefusal hobserved
  obtain ⟨hd, hobserved⟩ := Bool.and_eq_true_iff.mp hobserved
  obtain ⟨hf, ha⟩ := Bool.and_eq_true_iff.mp hobserved
  obtain ⟨ha, hturn⟩ := of_decide_eq_true ha
  refine ⟨p, older, e, hp, hj, ha, (refused_turned_off [] hp hj
    (fun n hn => ?_) (of_decide_eq_true hf) ha hturn).2⟩
  simpa using List.all_eq_true.mp hd n hn

/-- `start_source` raises while the manager is latched, and the Start leaves
without an OFF of its own. -/
theorem latched_start_left_on :
    ¬ ∀ (wiring : Wiring) (env : Surroundings)
      (p : Pool State Wait Outcome Exc) (newer older : List Note)
      (e : RunExit), Reachable wiring env p →
        p.state.control.journal = newer ++ .runRefused e :: older →
        e.channel ∉ e.activeAtAdmission →
          (e.channel ∉ e.activeSources ∨ e.state = .faultLatched) ∧
            TurnedOff e.task e.channel
              (older.take (older.length - e.admittedAt)) := by
  intro hall
  have hrun : (replayed boundSimulator simulatedSource (startingSource ++
      [.launch (.latchFault "" .interlock),
        answered 0 (.error (.raised .other ""))])).map
      (fun p => afterRefusal (fun e older =>
        decide (e.channel ∉ e.activeAtAdmission) &&
          decide (¬ TurnedOff e.task e.channel
            (older.take (older.length - e.admittedAt))))
        p.state.control.journal) = some true := by decide
  obtain ⟨p, hp, hobserved⟩ := reached hrun
  obtain ⟨e, older, hj, hobserved⟩ := of_afterRefusal hobserved
  obtain ⟨ha, hon⟩ := Bool.and_eq_true_iff.mp hobserved
  exact of_decide_eq_true hon
    (hall _ _ p [] older e hp hj (of_decide_eq_true ha)).2

namespace Note

/-- What loses the pending warning: an abort intent, or a refused Start that
had taken it over. -/
def losesWarning : Note → Bool
  | .abortIntent _ => true
  | .startPassRefused _ => true
  | _ => false

def confirms : Note → Bool
  | .runConfirmed _ => true
  | _ => false

end Note

/-- A consumed latch stays owed until a receipt, an abort intent or a refused
second pass. -/
theorem owed_of_consumed {t : Nat} {sources : Finset FaultSource}
    {recovered : Bool} {active : Finset SmuChannel} {code : WarningCode}
    {older : List Note} :
    ∀ between : List Note, Justified Note.Justified
        (between ++ .latchConsumed t sources recovered active code true ::
          older) →
      (∀ n ∈ between, n.losesWarning = false ∧ n.confirms = false) →
        owed (between ++ .latchConsumed t sources recovered active code true ::
          older) = some code
  | [], _, _ => rfl
  | n :: between, hj, hq => by
      have hold := owed_of_consumed between hj.2 fun m hm =>
        hq m (List.mem_cons_of_mem _ hm)
      obtain ⟨hlose, hconfirm⟩ := hq n List.mem_cons_self
      cases n with
      | latchConsumed u sources' recovered' active' code' current' =>
          cases hold.symm.trans hj.1.2.1
      | abortIntent full => cases hlose
      | startPassRefused u => cases hlose
      | runConfirmed r => cases hconfirm
      | _ => exact hold

def latchWarningCode (recovered : Bool) : WarningCode :=
  if recovered then .latchedPersistenceStart else .latchedInterlockStart

/-- The first receipt after a consumed latch carries its warning, as long as no
abort intent was registered since the consuming Start's first step and no
Start that had taken the warning over was refused. -/
theorem warned_after_consumption {wiring : Wiring} {env : Surroundings}
    {p : Pool State Wait Outcome Exc} (newer between : List Note)
    {older : List Note} {r : RunReceipt} {t : Nat} {sources : Finset FaultSource}
    {recovered current : Bool} {active : Finset SmuChannel}
    {code : WarningCode} (h : Reachable wiring env p)
    (hj : p.state.control.journal = newer ++ .runConfirmed r :: (between ++
      .latchConsumed t sources recovered active code current :: older))
    (hfirst : ∀ n ∈ between, n.confirms = false)
    (hcurrent : current = true)
    (hkept : ∀ n ∈ between, n.losesWarning = false) :
    latchWarningCode recovered ∈ r.warnings.map OperatorWarning.code := by
  have hall := reachable_justified h
  rw [hj] at hall
  obtain ⟨hconfirmed, hrest⟩ := Justified.older hall
  have hcode : code = latchWarningCode recovered := hrest.entry.2.2
  subst hcurrent
  have howed := owed_of_consumed between hrest fun n hn =>
    ⟨hkept n hn, hfirst n hn⟩
  rw [← hcode]
  exact RunReceipt.Confirmed.warned hconfirmed code howed

/-- A request whose warnings are put to the operator. -/
def confirmedRequest : RunRequest := { legalRequest with committer := true }

/-- A Start consumes an interlock latch and puts its warning to the
operator. -/
def consumingStart : Schedule :=
  [.launch (.latchFault "" .interlock),
    .launch (.requestRun confirmedRequest), resumed 1, resumed 1]

/-- The entries since the last consumed latch, whether persistence had
recovered for it, and whether its warning was current. -/
def sinceConsumed : List Note → Option (List Note × Bool × Bool)
  | [] => none
  | .latchConsumed _ _ recovered _ _ current :: _ => some ([], recovered, current)
  | n :: older => (sinceConsumed older).map fun x => (n :: x.1, x.2)

theorem of_sinceConsumed {journal between : List Note}
    {recovered current : Bool}
    (h : sinceConsumed journal = some (between, recovered, current)) :
    ∃ t sources active code older, journal = between ++
      .latchConsumed t sources recovered active code current :: older := by
  induction journal generalizing between with
  | nil => cases h
  | cons n rest ih =>
      unfold sinceConsumed at h
      split at h
      · rename_i heq
        cases heq
      · rename_i heq
        cases heq
        cases h
        exact ⟨_, _, _, _, _, rfl⟩
      · rename_i m older _ heq
        cases heq
        obtain ⟨x, hx, hsplit⟩ := Option.map_eq_some_iff.mp h
        obtain ⟨rfl, hflags⟩ := Prod.mk.inj hsplit
        obtain ⟨t, sources, active, code, rest, hrest⟩ := ih
          (show sinceConsumed _ = some (x.1, recovered, current) by
            rw [← hflags]
            exact hx)
        exact ⟨t, sources, active, code, rest, by rw [hrest]; rfl⟩

/-- Once the operator has confirmed it, the receipt carries the warning. -/
theorem consuming_start_warned :
    ∃ p newer older r, Reachable simulator {} p ∧
      p.state.control.journal = newer ++ .runConfirmed r :: older ∧
        .latchedInterlockStart ∈ r.warnings.map OperatorWarning.code := by
  have hrun : (replayed simulator {} (consumingStart ++
      [answered 1 (.ok (.receipt true)), resumed 1, resumed 1, resumed 1])).map
      (fun p => afterReceipt (fun _ older => (sinceConsumed older).any fun x =>
        x.2.2 && !x.2.1 && x.1.all fun n => !n.losesWarning && !n.confirms)
        p.state.control.journal) = some true := by decide
  obtain ⟨p, hp, hobserved⟩ := reached hrun
  obtain ⟨r, rest, hj, hsince⟩ := of_afterReceipt hobserved
  obtain ⟨⟨between, recovered, current⟩, hsince, hobserved⟩ :=
    (Option.any_eq_true _ _).mp hsince
  obtain ⟨t, sources, active, code, older, rfl⟩ := of_sinceConsumed hsince
  obtain ⟨hfresh, hquiet⟩ := Bool.and_eq_true_iff.mp hobserved
  obtain ⟨hcurrent, hinterlock⟩ := Bool.and_eq_true_iff.mp hfresh
  have hall : ∀ n ∈ between, n.losesWarning = false ∧ n.confirms = false :=
    fun n hn => by simpa using List.all_eq_true.mp hquiet n hn
  refine ⟨p, [], _, r, hp, hj, ?_⟩
  have hwarned := warned_after_consumption [] between hp hj
    (fun n hn => (hall n hn).2) hcurrent fun n hn => (hall n hn).1
  have hfalse : recovered = false := by simpa using hinterlock
  rwa [hfalse] at hwarned

/-- A Start that is refused in its second pass takes the warning with it. -/
theorem refused_pass_loses_warning :
    ¬ ∀ (wiring : Wiring) (env : Surroundings)
      (p : Pool State Wait Outcome Exc) (newer between older : List Note)
      (r : RunReceipt) (t : Nat) (sources : Finset FaultSource)
      (recovered current : Bool) (active : Finset SmuChannel)
      (code : WarningCode), Reachable wiring env p →
        p.state.control.journal = newer ++ .runConfirmed r :: (between ++
          .latchConsumed t sources recovered active code current :: older) →
        (∀ n ∈ between, n.confirms = false) →
          latchWarningCode recovered ∈
            r.warnings.map OperatorWarning.code := by
  intro hall
  have hrun : (replayed simulator {} (consumingStart ++
      [.launch (.onInterlockDeadChannel "" "c" [] (.finite 1)),
        answered 1 (.ok (.receipt true)), resumed 1,
        .launch (.onInterlockChannelRecovered "c"),
        .launch (.requestRun legalRequest), resumed 4, resumed 4, resumed 4,
        resumed 4, resumed 4])).map
      (fun p => afterReceipt (fun r older => (sinceConsumed older).any fun x =>
        r.warnings.isEmpty && x.1.all fun n => !n.confirms)
        p.state.control.journal) = some true := by decide +kernel
  obtain ⟨p, hp, hobserved⟩ := reached hrun
  obtain ⟨r, rest, hj, hsince⟩ := of_afterReceipt hobserved
  obtain ⟨⟨between, recovered, current⟩, hsince, hobserved⟩ :=
    (Option.any_eq_true _ _).mp hsince
  obtain ⟨t, sources, active, code, older, rfl⟩ := of_sinceConsumed hsince
  obtain ⟨hsilent, hquiet⟩ := Bool.and_eq_true_iff.mp hobserved
  have hwarned := hall _ _ p [] between older r t sources recovered
    current active code hp hj fun n hn => by
      simpa using List.all_eq_true.mp hquiet n hn
  rw [List.isEmpty_iff.mp hsilent] at hwarned
  cases hwarned

end Safety
end CryoDaq
