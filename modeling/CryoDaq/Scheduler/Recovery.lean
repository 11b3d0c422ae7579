import CryoDaq.Scheduler.SharedBus
import Mathlib.Data.Finset.Lattice.Lemmas
import Mathlib.Tactic.NormNum

/-!
# When a shared bus is recovered

**Slots.**  A visit that reaches the device leaves a later slot on the same grid,
after the last reading of the clock; a visit that was turned away leaves the slot
where it was.  So no device is polled twice for one slot.

**Silence.**  `failure_generation` holds the names that were due in a round of
failures since the last epoch, and `correlated_failures` counts the epochs:
`Gathered` is the invariant.  It holds because a round without a success in
which some device failed is a round in which every due device failed.

**Once.**  `ifc_succeeded` is false only while every successful interface clear
was followed by a read or by a reopening of the bus, so these two and a failure
are what lets the interface be cleared again.
-/

namespace CryoDaq

namespace Scheduler

section

variable {interval due nowAfter : ℚ}

theorem advance_lt (hint : 0 < interval) : nowAfter < advance interval due nowAfter := by
  unfold advance
  by_cases hpast : due + interval ≤ nowAfter
  · simp only [if_pos hpast]
    have hfloor := Int.lt_floor_add_one ((nowAfter - (due + interval)) / interval)
    rw [div_lt_iff₀ hint] at hfloor
    linarith
  · simp only [if_neg hpast]
    exact not_le.mp hpast

theorem advance_grid (hint : 0 < interval) (due nowAfter : ℚ) :
    ∃ k : ℕ, 0 < k ∧ advance interval due nowAfter = due + k * interval := by
  unfold advance
  by_cases hpast : due + interval ≤ nowAfter
  · simp only [if_pos hpast]
    have hnonneg : 0 ≤ ⌊(nowAfter - (due + interval)) / interval⌋ :=
      Int.floor_nonneg.mpr (div_nonneg (sub_nonneg.mpr hpast) hint.le)
    obtain ⟨n, hn⟩ := Int.eq_ofNat_of_zero_le hnonneg
    refine ⟨n + 2, by omega, ?_⟩
    rw [hn]
    push_cast
    ring
  · simp only [if_neg hpast]
    exact ⟨1, one_pos, by norm_num⟩

end

def Visit.Moves (v : Visit) : Prop :=
  (v.answer.nowAfter = none → v.after = v.before) ∧
  ∀ t, v.answer.nowAfter = some t → v.after = advance v.device.pollInterval v.before t

theorem makeVisit_moves (s : Schedule) (d : Device) (a : Answer) : (makeVisit s d a).Moves := by
  cases a with
  | turnedAway clock => exact ⟨fun _ => rfl, fun _ h => nomatch h⟩
  | read nowAfter =>
      refine ⟨nofun, fun t h => ?_⟩
      cases h
      simp [makeVisit, Schedule.visit, Schedule.moveOn, Schedule.setBackoff]
  | failed clock nowAfter =>
      refine ⟨nofun, fun t h => ?_⟩
      cases h
      simp [makeVisit, Schedule.visit, Schedule.moveOn, Schedule.setBackoff, Schedule.holdOff]
  | ended nowAfter =>
      refine ⟨nofun, fun t h => ?_⟩
      cases h
      simp [makeVisit, Schedule.visit, Schedule.moveOn]

theorem visit_nextDue (s : Schedule) (d : Device) (a : Answer) :
    (s.visit d a).nextDue = Function.update s.nextDue d.name (makeVisit s d a).after := by
  funext n
  by_cases hn : n = d.name
  · subst hn
    rw [Function.update_self]
    rfl
  · rw [Function.update_of_ne hn]
    cases a <;>
      simp [Schedule.visit, Schedule.moveOn, Schedule.setBackoff, Schedule.holdOff,
        Function.update_of_ne hn]

/-- Visits that were made one after the other, from the slots `due`, leaving the
slots `final`. -/
def Linked : (String → ℚ) → List Visit → (String → ℚ) → Prop
  | due, [], final => final = due
  | due, v :: rest, final =>
      v.before = due v.device.name ∧ v.Moves ∧
        Linked (Function.update due v.device.name v.after) rest final

namespace Linked

variable {start due final : String → ℚ} {vs ws : List Visit}

theorem append {middle : String → ℚ} (h : Linked due vs middle) (h' : Linked middle ws final) :
    Linked due (vs ++ ws) final := by
  induction vs generalizing due with
  | nil =>
      cases h
      exact h'
  | cons v rest ih => exact ⟨h.1, h.2.1, ih h.2.2⟩

end Linked

theorem visits_linked (ask : String → Answer) (s : Schedule) (ds : List Device) :
    Linked s.nextDue (visits ask s ds) (visitAll ask s ds).nextDue := by
  induction ds generalizing s with
  | nil => rfl
  | cons d rest ih =>
      refine ⟨rfl, makeVisit_moves s d _, ?_⟩
      rw [show (makeVisit s d (ask d.name)).device = d from rfl, ← visit_nextDue]
      by_cases hends : (ask d.name).ends = true
      · simp only [visitAll, hends, if_true]
        rfl
      · simp only [visitAll, hends]
        exact ih _

/-- A slot a whole number of intervals after the first one. -/
def OnGrid (start : String → ℚ) (d : Device) (slot : ℚ) : Prop :=
  ∃ k : ℕ, slot = start d.name + k * d.pollInterval

theorem OnGrid.advance {start : String → ℚ} {d : Device} {slot : ℚ} (t : ℚ)
    (h : OnGrid start d slot) : OnGrid start d (advance d.pollInterval slot t) := by
  obtain ⟨k, rfl⟩ := h
  obtain ⟨n, _, hn⟩ := advance_grid d.interval_pos (start d.name + k * d.pollInterval) t
  refine ⟨k + n, ?_⟩
  rw [hn]
  push_cast
  ring

namespace Visit

variable {start : String → ℚ} {v : Visit}

theorem Moves.grid (h : v.Moves) (hgrid : OnGrid start v.device v.before) :
    OnGrid start v.device v.after := by
  cases hnow : v.answer.nowAfter with
  | none =>
      rw [h.1 hnow]
      exact hgrid
  | some t =>
      rw [h.2 t hnow]
      exact hgrid.advance t

theorem Moves.polled {t : ℚ} (h : v.Moves) (hnow : v.answer.nowAfter = some t) :
    t < v.after ∧ v.before < v.after := by
  rw [h.2 t hnow]
  refine ⟨advance_lt v.device.interval_pos, ?_⟩
  obtain ⟨k, hk, heq⟩ := advance_grid v.device.interval_pos v.before t
  have hstep : (0 : ℚ) < k * v.device.pollInterval :=
    mul_pos (Nat.cast_pos.mpr hk) v.device.interval_pos
  linarith

theorem Moves.le (h : v.Moves) : v.before ≤ v.after := by
  cases hnow : v.answer.nowAfter with
  | none => exact (h.1 hnow).ge
  | some t => exact (h.polled hnow).2.le

end Visit

namespace Linked

variable {start due final : String → ℚ} {vs : List Visit}

theorem moves (h : Linked due vs final) : ∀ v ∈ vs, v.Moves := by
  induction vs generalizing due with
  | nil => exact fun _ hv => absurd hv List.not_mem_nil
  | cons v rest ih =>
      intro x hx
      rcases List.mem_cons.mp hx with rfl | hx
      · exact h.2.1
      · exact ih h.2.2 x hx

theorem due_le (h : Linked due vs final) : ∀ v ∈ vs, due v.device.name ≤ v.before := by
  induction vs generalizing due with
  | nil => exact fun _ hv => absurd hv List.not_mem_nil
  | cons v rest ih =>
      intro x hx
      rcases List.mem_cons.mp hx with rfl | hx
      · exact h.1.ge
      · have hlater := ih h.2.2 x hx
        by_cases hname : x.device.name = v.device.name
        · rw [hname, Function.update_self] at hlater
          rw [hname, ← h.1]
          exact h.2.1.le.trans hlater
        · rwa [Function.update_of_ne hname] at hlater

theorem pairwise (h : Linked due vs final) :
    vs.Pairwise (fun v w => v.device.name = w.device.name → v.answer.nowAfter.isSome = true →
      v.before < w.before) := by
  induction vs generalizing due with
  | nil => exact List.Pairwise.nil
  | cons v rest ih =>
      refine List.Pairwise.cons (fun w hw hname hpolled => ?_) (ih h.2.2)
      obtain ⟨t, ht⟩ := Option.isSome_iff_exists.mp hpolled
      have hlater := h.2.2.due_le w hw
      rw [← hname, Function.update_self] at hlater
      exact (h.2.1.polled ht).2.trans_le hlater

theorem grid {bus : Bus} (h : Linked due vs final) (hdevices : ∀ v ∈ vs, v.device ∈ bus.devices)
    (hgrid : ∀ d ∈ bus.devices, OnGrid start d (due d.name)) :
    ∀ v ∈ vs, OnGrid start v.device v.after := by
  induction vs generalizing due with
  | nil => exact fun _ hv => absurd hv List.not_mem_nil
  | cons v rest ih =>
      have hv := hdevices v List.mem_cons_self
      have hafter : OnGrid start v.device v.after :=
        h.2.1.grid (h.1 ▸ hgrid v.device hv)
      intro x hx
      rcases List.mem_cons.mp hx with rfl | hx
      · exact hafter
      · refine ih h.2.2 (fun w hw => hdevices w (List.mem_cons_of_mem _ hw)) (fun d hd => ?_) x hx
        by_cases hname : d.name = v.device.name
        · have hsame : d = v.device := List.inj_on_of_nodup_map bus.nodup hd hv hname
          rw [hsame, Function.update_self]
          exact hafter
        · rw [Function.update_of_ne hname]
          exact hgrid d hd

end Linked

/-! ### What a round does -/

section

variable {bus : Bus} {input : RoundInput}

theorem visits_devices (ask : String → Answer) (s : Schedule) (ds : List Device) :
    ∀ v ∈ visits ask s ds, v.device ∈ ds := by
  induction ds generalizing s with
  | nil => exact fun _ hv => absurd hv List.not_mem_nil
  | cons d rest ih =>
      intro v hv
      rcases List.mem_cons.mp hv with rfl | hv
      · exact List.mem_cons_self
      · by_cases hends : (ask d.name).ends = true
        · rw [if_pos hends] at hv
          exact absurd hv List.not_mem_nil
        · rw [if_neg hends] at hv
          exact List.mem_cons_of_mem _ (ih _ v hv)

theorem visits_all (ask : String → Answer) (s : Schedule) (ds : List Device)
    (h : (visits ask s ds).any (fun v => v.answer.ends) = false) :
    (visits ask s ds).map Visit.device = ds := by
  induction ds generalizing s with
  | nil => rfl
  | cons d rest ih =>
      have hends : (ask d.name).ends = false := by
        have hall := List.any_eq_false.mp h (makeVisit s d (ask d.name)) List.mem_cons_self
        exact Bool.eq_false_iff.mpr hall
      simp only [visits, hends] at h ⊢
      rw [List.any_cons, Bool.or_eq_false_iff] at h
      rw [List.map_cons]
      exact congrArg (d :: ·) (ih _ h.2)

/-- What the recovery ladder leaves.  A running loop has its counters from before,
but for a reopened bus and the answer of the interface clear. -/
structure Climbed (made : List Visit) (l : Loop) (r : Round) (l' : Loop) : Prop where
  visits : r.visits = made
  schedule : l'.schedule = l.schedule
  cleared : r.interfaceClear.isSome = true → 3 ≤ l.correlatedFailures ∧ l.ifcSucceeded = false
  reopened : r.reopenBus.isSome = true → 6 ≤ l.correlatedFailures
  left : l'.running = true →
    l'.failureGeneration = l.failureGeneration ∧
    ((r.reopenBus = some (some true) ∧ l'.correlatedFailures = 0) ∨
      (l'.correlatedFailures = l.correlatedFailures ∧
        (l'.ifcSucceeded = false → l.ifcSucceeded = false ∧ r.interfaceClear ≠ some (some true))))

theorem reopenStep_climbed {levels : List BusRecoveryLevel} {made : List Visit}
    {cleared : Option (Option Bool)} {l₀ l : Loop}
    (hschedule : l.schedule = l₀.schedule)
    (hcleared : cleared.isSome = true → 3 ≤ l₀.correlatedFailures ∧ l₀.ifcSucceeded = false)
    (hgeneration : l.failureGeneration = l₀.failureGeneration)
    (hfailures : l.correlatedFailures = l₀.correlatedFailures)
    (hifc : l.ifcSucceeded = false → l₀.ifcSucceeded = false ∧ cleared ≠ some (some true)) :
    Climbed made l₀ (reopenStep levels input made cleared l).1
      (reopenStep levels input made cleared l).2 := by
  unfold reopenStep
  by_cases hwants : wantsReopen levels l = true
  · rw [if_pos hwants]
    have hsix : 6 ≤ l₀.correlatedFailures := hfailures ▸ (of_decide_eq_true hwants).1
    cases hanswer : input.reopenBus with
    | none =>
        exact ⟨rfl, hschedule, hcleared, fun _ => hsix, nofun⟩
    | some done =>
        cases done with
        | true =>
            exact ⟨rfl, hschedule, hcleared, fun _ => hsix, fun _ =>
              ⟨hgeneration, .inl ⟨rfl, rfl⟩⟩⟩
        | false =>
            exact ⟨rfl, hschedule, hcleared, fun _ => hsix, fun _ =>
              ⟨hgeneration, .inr ⟨hfailures, hifc⟩⟩⟩
  · rw [if_neg hwants]
    exact ⟨rfl, hschedule, hcleared, nofun, fun _ =>
      ⟨hgeneration, .inr ⟨hfailures, hifc⟩⟩⟩

theorem ladder_climbed (input : RoundInput) (levels : List BusRecoveryLevel) (made : List Visit) (l : Loop) :
    Climbed made l (ladder levels input made l).1 (ladder levels input made l).2 := by
  unfold ladder
  by_cases hwants : wantsInterfaceClear levels l = true
  · rw [if_pos hwants]
    have hthree := of_decide_eq_true hwants
    cases hanswer : input.interfaceClear with
    | none =>
        rw [if_pos rfl]
        exact ⟨rfl, rfl, fun _ => ⟨hthree.1, hthree.2.1⟩, nofun, nofun⟩
    | some done =>
        rw [if_neg (Option.some_ne_none done)]
        refine reopenStep_climbed rfl (fun _ => ⟨hthree.1, hthree.2.1⟩) rfl rfl (fun hdone => ?_)
        rw [show done = false from hdone]
        exact ⟨hthree.2.1, by decide⟩
  · rw [if_neg hwants]
    exact reopenStep_climbed rfl nofun rfl rfl (fun h => ⟨h, nofun⟩)

def Round.quiet (r : Round) : Prop := ¬ r.hasRead

/-- `n` disjoint epochs of failures of every participant, and no read since they
began. -/
def Silent (bus : Bus) (n : ℕ) (history : List Round) : Prop :=
  Epochs Round.quiet Round.failedNames bus.participantNames n history

def Counted (bus : Bus) (l : Loop) (history : List Round) : Prop :=
  Gathered Round.quiet Round.failedNames bus.participantNames l.failureGeneration
    l.correlatedFailures history

/-- A successful interface clear is answered by a read, or by a reopened bus in
its own round or later. -/
def Answered (r : Round) (later : List Round) : Prop :=
  (∃ x ∈ later, x.hasRead) ∨ ∃ x ∈ r :: later, x.reopenBus = some (some true)

def AllAnswered (history : List Round) : Prop :=
  ∀ older r later, history = older ++ r :: later → r.interfaceClear = some (some true) →
    Answered r later

theorem Answered.concat {x r : Round} {later : List Round} (h : Answered x later) :
    Answered x (later ++ [r]) := by
  rcases h with ⟨y, hy, hread⟩ | ⟨y, hy, hreopen⟩
  · exact .inl ⟨y, List.mem_append_left _ hy, hread⟩
  · refine .inr ⟨y, ?_, hreopen⟩
    rw [← List.cons_append]
    exact List.mem_append_left _ hy

theorem concat_eq_append_cons {history older later : List Round} {r x : Round}
    (h : history ++ [r] = older ++ x :: later) :
    (x = r ∧ later = []) ∨ ∃ later', later = later' ++ [r] ∧ history = older ++ x :: later' := by
  rcases List.eq_nil_or_concat later with rfl | ⟨later', y, rfl⟩
  · obtain ⟨-, hlast⟩ := List.append_inj' h rfl
    exact .inl ⟨(List.cons.inj hlast).1.symm, rfl⟩
  · rw [List.concat_eq_append, ← List.cons_append, ← List.append_assoc] at h
    obtain ⟨hinit, hlast⟩ := List.append_inj' h rfl
    refine .inr ⟨later', ?_, hinit⟩
    rw [List.concat_eq_append, (List.cons.inj hlast).1]

section

variable {history : List Round} {r : Round}

theorem allAnswered_of_read (hread : r.hasRead) (hr : r.interfaceClear = none) :
    AllAnswered (history ++ [r]) := by
  intro older x later heq hx
  rcases concat_eq_append_cons heq with ⟨rfl, rfl⟩ | ⟨later', rfl, _⟩
  · rw [hr] at hx
    cases hx
  · exact .inl ⟨r, List.mem_append_right _ (List.mem_singleton.mpr rfl), hread⟩

theorem allAnswered_of_reopened (hr : r.reopenBus = some (some true)) :
    AllAnswered (history ++ [r]) := by
  intro older x later heq _
  rcases concat_eq_append_cons heq with ⟨rfl, rfl⟩ | ⟨later', rfl, _⟩
  · exact .inr ⟨x, List.mem_cons_self, hr⟩
  · exact .inr ⟨r, List.mem_cons_of_mem _
      (List.mem_append_right _ (List.mem_singleton.mpr rfl)), hr⟩

theorem AllAnswered.concat (h : AllAnswered history) (hr : r.interfaceClear ≠ some (some true)) :
    AllAnswered (history ++ [r]) := by
  intro older x later heq hx
  rcases concat_eq_append_cons heq with ⟨rfl, rfl⟩ | ⟨later', rfl, hhistory⟩
  · exact absurd hx hr
  · exact (h older x later' hhistory hx).concat

end

theorem participantNames_ne_empty (bus : Bus) : bus.participantNames ≠ ∅ := by
  intro h
  rw [Bus.participantNames, List.toFinset_eq_empty_iff, List.map_eq_nil_iff] at h
  exact bus.nonempty h

theorem hasRead_iff {r : Round} :
    r.hasRead ↔ r.visits.any (fun v => v.answer.succeeds) = true := by
  rw [List.any_eq_true]
  rfl

theorem failedNames_eq {r : Round}
    (hends : r.visits.any (fun v => v.answer.ends) = false)
    (hquiet : r.visits.any (fun v => v.answer.succeeds) = false) :
    r.failedNames = ((r.visits.map Visit.device).map Device.name).toFinset := by
  have hfails : ∀ v ∈ r.visits, v.answer.fails = true := by
    intro v hv
    have hend := List.any_eq_false.mp hends v hv
    have hread := List.any_eq_false.mp hquiet v hv
    cases hanswer : v.answer with
    | turnedAway clock => rfl
    | read nowAfter => exact absurd (by rw [hanswer]; rfl) hread
    | failed clock nowAfter => rfl
    | ended nowAfter => exact absurd (by rw [hanswer]; rfl) hend
  rw [Round.failedNames, List.filter_eq_self.mpr hfails, List.map_map]
  rfl

theorem count_counted {l : Loop} {history : List Round} {r : Round}
    (h : Counted bus l history) (hends : r.visits.any (fun v => v.answer.ends) = false) :
    Counted bus (l.count (r.visits.map Visit.device) r.visits) (history ++ [r]) := by
  unfold Loop.count
  by_cases hread : r.visits.any (fun v => v.answer.succeeds) = true
  · rw [if_pos hread]
    exact gathered_nothing _
  · rw [if_neg hread]
    have hquiet : r.quiet := fun hr => hread (hasRead_iff.mp hr)
    by_cases hfail : r.visits.any (fun v => v.answer.fails) = true
    · rw [if_pos hfail]
      refine Gathered.add h hquiet ?_
      rw [failedNames_eq hends (Bool.eq_false_iff.mpr hread)]
    · rw [if_neg hfail]
      have hsame := Gathered.add h hquiet (Finset.empty_subset r.failedNames)
      rwa [Finset.union_empty] at hsame

theorem Counted.complete {l : Loop} {history : List Round} (h : Counted bus l history)
    (hall : l.failureGeneration = bus.participantNames) :
    Counted bus l.completeEpoch history := by
  unfold Counted at h
  rw [hall] at h
  exact Gathered.close h

structure Justified (bus : Bus) (older : List Round) (r : Round) : Prop where
  interfaceClear : r.interfaceClear.isSome = true →
    Silent bus 3 (older ++ [r]) ∧ AllAnswered older
  reopenBus : r.reopenBus.isSome = true → Silent bus 6 (older ++ [r])

/-- What the counters say about the rounds so far, while the loop runs. -/
structure Accounted (bus : Bus) (l : Loop) (history : List Round) : Prop where
  counted : Counted bus l history
  answered : l.ifcSucceeded = false → AllAnswered history

structure Kept (bus : Bus) (l : Loop) (history : List Round) (r : Round) (l' : Loop) : Prop where
  justified : Justified bus history r
  accounted : l'.running = true → Accounted bus l' (history ++ [r])

theorem kept_of_idle {l l' : Loop} {history : List Round} {made : List Visit}
    (h : l'.running = true → Accounted bus l' (history ++ [⟨made, none, none⟩])) :
    Kept bus l history ⟨made, none, none⟩ l' :=
  ⟨⟨nofun, nofun⟩, h⟩

theorem Climbed.kept {l l' : Loop} {history : List Round} {made : List Visit} {r : Round}
    (h : Climbed made l r l') (hcounted : Counted bus l (history ++ [r]))
    (hgeneration : l.failureGeneration = ∅)
    (hanswered : l.ifcSucceeded = false → AllAnswered history) :
    Kept bus l history r l' := by
  refine ⟨⟨fun hclear => ?_, fun hreopen => ?_⟩, fun hrunning => ?_⟩
  · exact ⟨Gathered.epochs hcounted (h.cleared hclear).1, hanswered (h.cleared hclear).2⟩
  · exact Gathered.epochs hcounted (h.reopened hreopen)
  · obtain ⟨hgen, hleft⟩ := h.left hrunning
    rcases hleft with ⟨hreopened, hzero⟩ | ⟨hcount, hifc⟩
    · refine ⟨?_, fun _ => allAnswered_of_reopened hreopened⟩
      rw [Counted, hgen, hgeneration, hzero]
      exact gathered_nothing _
    · refine ⟨?_, fun hfalse => ?_⟩
      · rw [Counted, hgen, hcount]
        exact hcounted
      · obtain ⟨hbefore, hclear⟩ := hifc hfalse
        exact (hanswered hbefore).concat hclear

theorem count_schedule (l : Loop) (due : List Device) (made : List Visit) :
    (l.count due made).schedule = l.schedule := by
  unfold Loop.count
  split
  · rfl
  · split
    · rfl
    · rfl

theorem count_ifcSucceeded {l : Loop} {due : List Device} {made : List Visit}
    (hread : made.any (fun v => v.answer.succeeds) = false) :
    (l.count due made).ifcSucceeded = l.ifcSucceeded := by
  unfold Loop.count
  rw [hread, if_neg Bool.false_ne_true]
  split
  · rfl
  · rfl

theorem count_of_read {l : Loop} {due : List Device} {made : List Visit}
    (hread : made.any (fun v => v.answer.succeeds) = true) :
    (l.count due made).failureGeneration = ∅ := by
  rw [Loop.count, if_pos hread]

theorem afterVisits_spec (input : RoundInput) {l : Loop} {history : List Round} {made : List Visit}
    (h : Accounted bus l history)
    (hends : made.any (fun v => v.answer.ends) = false) :
    (afterVisits bus input made (l.count (made.map Visit.device) made)).1.visits = made ∧
    (afterVisits bus input made (l.count (made.map Visit.device) made)).2.schedule = l.schedule ∧
    Kept bus l history (afterVisits bus input made (l.count (made.map Visit.device) made)).1
      (afterVisits bus input made (l.count (made.map Visit.device) made)).2 := by
  generalize hl : l.count (made.map Visit.device) made = l₁
  have hschedule : l₁.schedule = l.schedule := hl ▸ count_schedule l _ made
  have hcounted : ∀ r : Round, r.visits = made → Counted bus l₁ (history ++ [r]) := by
    intro r hr
    have hcount := count_counted (r := r) h.counted (hr ▸ hends)
    rwa [hr, hl] at hcount
  by_cases hall : l₁.failureGeneration = bus.participantNames
  · have hread : made.any (fun v => v.answer.succeeds) = false := by
      by_contra hread
      rw [Bool.not_eq_false] at hread
      rw [← hl, count_of_read hread] at hall
      exact participantNames_ne_empty bus hall.symm
    have hifc : l₁.ifcSucceeded = l.ifcSucceeded := hl ▸ count_ifcSucceeded hread
    rw [afterVisits, if_pos hall]
    have hidle : Kept bus l history ⟨made, none, none⟩ l₁.completeEpoch := by
      refine kept_of_idle fun _ => ⟨(hcounted _ rfl).complete hall, fun hfalse => ?_⟩
      exact (h.answered (hifc ▸ hfalse)).concat nofun
    cases bus.coordinator with
    | false => exact ⟨rfl, hschedule, hidle⟩
    | true =>
        cases bus.supportedRecovery with
        | none => exact ⟨rfl, hschedule, hidle⟩
        | some levels =>
            have hclimbed := ladder_climbed input levels made l₁.completeEpoch
            have hkept := hclimbed.kept ((hcounted _ hclimbed.visits).complete hall) rfl
              (fun hfalse => h.answered (hifc ▸ hfalse))
            exact ⟨hclimbed.visits, hclimbed.schedule.trans hschedule,
              ⟨hkept.justified, hkept.accounted⟩⟩
  · rw [afterVisits, if_neg hall]
    refine ⟨rfl, hschedule, kept_of_idle fun _ => ⟨hcounted _ rfl, fun hfalse => ?_⟩⟩
    by_cases hread : made.any (fun v => v.answer.succeeds) = true
    · exact allAnswered_of_read (hasRead_iff.mpr hread) rfl
    · rw [← hl, count_ifcSucceeded (Bool.eq_false_iff.mpr hread)] at hfalse
      exact (h.answered hfalse).concat nofun

theorem round_spec (input : RoundInput) {l : Loop} {history : List Round} (h : Accounted bus l history) :
    Linked l.schedule.nextDue (l.round bus input).1.visits (l.round bus input).2.schedule.nextDue ∧
    (∀ v ∈ (l.round bus input).1.visits, v.device ∈ bus.devices) ∧
    Kept bus l history (l.round bus input).1 (l.round bus input).2 := by
  unfold Loop.round
  generalize hdue : bus.due l.schedule input.now = due
  by_cases hempty : due = []
  · simp only [if_pos hempty]
    refine ⟨rfl, fun _ hv => absurd hv List.not_mem_nil,
      kept_of_idle fun _ => ⟨?_, fun hfalse => ?_⟩⟩
    · have hquiet : Round.quiet ⟨[], none, none⟩ := fun hr => by
        obtain ⟨v, hv, _⟩ := hr
        exact absurd hv List.not_mem_nil
      have hsame := Gathered.add h.counted hquiet (Finset.empty_subset _)
      rwa [Finset.union_empty] at hsame
    · exact (h.answered hfalse).concat nofun
  · simp only [if_neg hempty]
    have hlinked := visits_linked input.answers l.schedule due
    have hdevices : ∀ v ∈ visits input.answers l.schedule due, v.device ∈ bus.devices := by
      intro v hv
      have hmem := visits_devices input.answers l.schedule due v hv
      rw [← hdue] at hmem
      exact List.mem_of_mem_filter hmem
    by_cases hends : (visits input.answers l.schedule due).any (fun v => v.answer.ends) = true
    · rw [if_pos hends]
      exact ⟨hlinked, hdevices, kept_of_idle nofun⟩
    · rw [if_neg hends]
      rw [Bool.not_eq_true] at hends
      have hpolled : Accounted bus
          { l with schedule := visitAll input.answers l.schedule due } history :=
        ⟨h.counted, h.answered⟩
      have hall := visits_all input.answers l.schedule due hends
      obtain ⟨hvisits, hschedule, hkept⟩ := afterVisits_spec input hpolled hends
      rw [hall] at hvisits hschedule hkept
      rw [hvisits, hschedule]
      exact ⟨hlinked, hdevices, hkept.justified, hkept.accounted⟩

end

def Run.visits (run : Run) : List Visit := run.history.flatMap Round.visits

/-- What holds of a run that started from the slots `start`. -/
structure Run.Sound (bus : Bus) (start : String → ℚ) (run : Run) : Prop where
  accounted : run.loop.running = true → Accounted bus run.loop run.history
  linked : Linked start run.visits run.loop.schedule.nextDue
  devices : ∀ v ∈ run.visits, v.device ∈ bus.devices
  justified : ∀ older r, older ++ [r] <+: run.history → Justified bus older r

section

variable {bus : Bus} {start : String → ℚ}

theorem begin_sound (bus : Bus) (start eligible : String → ℚ) :
    (begin start eligible).Sound bus start where
  accounted := fun _ => by
    refine ⟨gathered_nothing [], fun _ older x later heq _ => ?_⟩
    exact absurd heq.symm (List.append_ne_nil_of_right_ne_nil older (List.cons_ne_nil x later))
  linked := rfl
  devices := fun _ hv => absurd hv List.not_mem_nil
  justified := fun older r hprefix => by
    have hnil := List.prefix_nil.mp hprefix
    exact absurd hnil (List.append_ne_nil_of_right_ne_nil older (List.cons_ne_nil r []))

theorem step_sound {run : Run} (h : run.Sound bus start) (input : RoundInput) :
    (run.step bus input).Sound bus start := by
  unfold Run.step
  by_cases hrunning : run.loop.running = true
  · rw [if_pos hrunning]
    obtain ⟨hlinked, hdevices, hkept⟩ := round_spec input (h.accounted hrunning)
    refine ⟨hkept.accounted, ?_, ?_, ?_⟩
    · rw [Run.visits, List.flatMap_append, List.flatMap_singleton]
      exact h.linked.append hlinked
    · intro v hv
      rw [Run.visits, List.flatMap_append, List.flatMap_singleton] at hv
      rcases List.mem_append.mp hv with hold | hnew
      · exact h.devices v hold
      · exact hdevices v hnew
    · intro older r hprefix
      rcases List.prefix_concat_iff.mp hprefix with heq | hold
      · obtain ⟨rfl, hlast⟩ := List.append_inj' heq rfl
        rw [(List.cons.inj hlast).1]
        exact hkept.justified
      · exact h.justified older r hold
  · rw [if_neg hrunning]
    exact h

theorem steps_sound {run : Run} (h : run.Sound bus start) (inputs : List RoundInput) :
    (run.steps bus inputs).Sound bus start := by
  induction inputs generalizing run with
  | nil => exact h
  | cons input rest ih => exact ih (step_sound h input)

/-- A shared bus is recovered on silence only, and no device is polled twice for
one slot. -/
theorem recovery_only_on_silence (bus : Bus) (start eligible : String → ℚ)
    (inputs : List RoundInput) :
    (∀ older r, older ++ [r] <+: ((begin start eligible).steps bus inputs).history →
      Justified bus older r) ∧
    (∀ v ∈ ((begin start eligible).steps bus inputs).visits,
      OnGrid start v.device v.after ∧ (v.answer.nowAfter = none → v.after = v.before) ∧
        ∀ t, v.answer.nowAfter = some t → t < v.after) ∧
    ((begin start eligible).steps bus inputs).visits.Pairwise
      (fun v w => v.device.name = w.device.name → v.answer.nowAfter.isSome = true →
        v.before < w.before) := by
  have hsound := steps_sound (begin_sound bus start eligible) inputs
  refine ⟨hsound.justified, fun v hv => ?_, hsound.linked.pairwise⟩
  have hmoves := hsound.linked.moves v hv
  have hgrid := hsound.linked.grid hsound.devices
    (fun d _ => ⟨0, by rw [Nat.cast_zero, zero_mul, add_zero]⟩) v hv
  exact ⟨hgrid, hmoves.1, fun t ht => (hmoves.polled ht).1⟩

end

section Example

/-- One meter, polled every second, on a bus with both recoveries. -/
def meterBus : Bus where
  devices := [⟨"LS218", 1, one_pos⟩]
  nonempty := List.cons_ne_nil _ _
  nodup := List.nodup_singleton _
  coordinator := true
  supportedRecovery := some [.interfaceClear, .reopenBus]

/-- A round at `now` in which the meter came to `a` and both recoveries work. -/
def meterRound (now : ℚ) (a : Answer) : RoundInput where
  now := now
  answers := fun _ => a
  interfaceClear := some true
  reopenBus := some true

/-- Nine failures, ten seconds apart. -/
def nineFailures : List RoundInput :=
  [meterRound 0 (.failed 0 0), meterRound 10 (.failed 10 10), meterRound 20 (.failed 20 20),
    meterRound 30 (.failed 30 30), meterRound 40 (.failed 40 40), meterRound 50 (.failed 50 50),
    meterRound 60 (.failed 60 60), meterRound 70 (.failed 70 70), meterRound 80 (.failed 80 80)]

/-- A meter that is turned away is visited again for the same slot; and between
two interface clears, of which the first succeeded, the bus was reopened but
nothing was read. -/
theorem slot_repeated_and_cleared_again :
    (((begin (fun _ => 0) (fun _ => 0)).steps meterBus
        [meterRound 0 (.turnedAway 0), meterRound 1 (.read 1)]).visits.map
          (fun v => (v.before, v.after, v.answer.fails)) =
      [(0, 0, true), (0, 2, false)]) ∧
    ((begin (fun _ => 0) (fun _ => 0)).steps meterBus nineFailures).history.map
        (fun r => (r.visits.map (fun v => v.answer.fails), r.interfaceClear, r.reopenBus)) =
      [([true], none, none), ([true], none, none), ([true], some (some true), none),
        ([true], none, none), ([true], none, none), ([true], none, some (some true)),
        ([true], none, none), ([true], none, none), ([true], some (some true), none)] := by
  decide +kernel

end Example

end Scheduler

end CryoDaq
