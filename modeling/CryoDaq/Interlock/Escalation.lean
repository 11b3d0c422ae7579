import CryoDaq.Interlock.DeadChannel
import Mathlib.Data.List.Induction

/-!
# When a dead channel escalates

`stretch` gives the readings that the current window of a channel stands for:
the unusable ones since the last accepted usable reading that carry the fault
reasons of the latest one.

**Exactness.**  The handler is called for an unusable reading exactly when its
stretch is long enough and no earlier call within the stretch was answered
truthily.  A run of unusable readings whose fault reasons keep changing is
therefore never escalated, however long it is.
-/

namespace CryoDaq
namespace Interlock

open Acquisition

def own (channel : String) (es : List Sample) : List Sample :=
  es.filter fun e => e.reading.channel == channel && e.condition.isSome

def stretchStep (st : List Sample) (e : Sample) : List Sample :=
  if e.reading.isUsable then (if e.recovered then [] else st)
  else
    match st with
    | [] => [e]
    | first :: _ =>
        if first.reading.instrumentStatusFaultReasons = e.reading.instrumentStatusFaultReasons then
          st ++ [e]
        else [e]

/-- The readings that the window stands for. -/
def stretch (es : List Sample) : List Sample := es.foldl stretchStep []

def LongEnough (s : Debounce) (st : List Sample) : Prop :=
  s.minSamples ≤ st.length ∧ ∃ first last, st.head? = some first ∧ st.getLast? = some last ∧
    s.minDurationS ≤ totalSeconds (last.reading.timestamp - first.reading.timestamp)

/-- At some reading of the stretch the handler was asked and answered truthily,
or there was none to be asked. -/
def Settled (s : Debounce) (st : List Sample) : Prop :=
  ∃ before e, before ++ [e] <+: st ∧ LongEnough s (before ++ [e]) ∧
    (s.handler = true → e.truthy = true)

structure StandsFor (s : Debounce) (st : List Sample) (w : NonUsableWindow) : Prop where
  first : ∃ first, st.head? = some first ∧ w.firstTs = first.reading.timestamp
  count : w.count = st.length
  reasons : ∀ e ∈ st, e.reading.instrumentStatusFaultReasons = w.instrumentStatusFaultReasons
  escalated : w.escalated = true ↔ Settled s st

/-- What is kept for a channel stands for its stretch. -/
def Agrees (s : Debounce) (st : List Sample) (window : Option NonUsableWindow) : Prop :=
  match window with
  | none => st = []
  | some w => StandsFor s st w

section Steps

variable {s : Debounce} {st : List Sample} {e : Sample}

theorem not_settled_nil : ¬ Settled s [] := by
  rintro ⟨before, e, hprefix, _⟩
  have hnil := List.prefix_nil.mp hprefix
  exact absurd hnil (by simp)

theorem settled_append : Settled s (st ++ [e]) ↔
    Settled s st ∨ LongEnough s (st ++ [e]) ∧ (s.handler = true → e.truthy = true) := by
  constructor
  · rintro ⟨before, e', hprefix, hlong, hanswer⟩
    rcases List.prefix_concat_iff.mp hprefix with heq | hprefix
    · obtain ⟨rfl, hlast⟩ := List.append_inj' heq rfl
      cases hlast
      exact .inr ⟨hlong, hanswer⟩
    · exact .inl ⟨before, e', hprefix, hlong, hanswer⟩
  · rintro (⟨before, e', hprefix, hlong, hanswer⟩ | ⟨hlong, hanswer⟩)
    · exact ⟨before, e', hprefix.trans (List.prefix_append st [e]), hlong, hanswer⟩
    · exact ⟨st, e, List.prefix_refl _, hlong, hanswer⟩

/-- The window that is counted in stands for the stretch, but for what this
reading settles. -/
structure Counts (s : Debounce) (st : List Sample) (e : Sample) (w : NonUsableWindow) : Prop where
  first : ∃ first, (st ++ [e]).head? = some first ∧ w.firstTs = first.reading.timestamp
  count : w.count = (st ++ [e]).length
  reasons : ∀ e' ∈ st ++ [e],
    e'.reading.instrumentStatusFaultReasons = w.instrumentStatusFaultReasons
  escalated : w.escalated = true ↔ Settled s st

theorem counts_fresh (s : Debounce) (e : Sample) :
    Counts s [] e { firstTs := e.reading.timestamp
                    instrumentStatusFaultReasons := e.reading.instrumentStatusFaultReasons
                    count := 1 } where
  first := ⟨e, rfl, rfl⟩
  count := rfl
  reasons := fun e' he => by rw [List.mem_singleton.mp he]
  escalated := iff_of_false (by simp) not_settled_nil

theorem countedWindow_counts {window : Option NonUsableWindow} (h : Agrees s st window)
    (hdead : e.reading.isUsable = false) :
    ∃ kept, stretchStep st e = kept ++ [e] ∧ Counts s kept e (countedWindow window e.reading) := by
  unfold stretchStep
  simp only [hdead, Bool.false_eq_true, if_false]
  cases window with
  | none =>
      have hnil : st = [] := h
      subst hnil
      exact ⟨[], rfl, counts_fresh s e⟩
  | some w =>
      have hw : StandsFor s st w := h
      obtain ⟨first, hfirst, hts⟩ := hw.first
      cases st with
      | nil => cases hfirst
      | cons head tail =>
          cases hfirst
          have hreasons := hw.reasons first List.mem_cons_self
          unfold countedWindow
          simp only
          by_cases hsame : first.reading.instrumentStatusFaultReasons =
              e.reading.instrumentStatusFaultReasons
          · rw [if_pos hsame, if_neg (not_not.mpr (hreasons.symm.trans hsame))]
            refine ⟨first :: tail, rfl, ⟨first, rfl, hts⟩, ?_, ?_, hw.escalated⟩
            · simp [hw.count]
            · intro e' he
              rcases List.mem_append.mp he with he | he
              · exact hw.reasons e' he
              · rw [List.mem_singleton.mp he]
                exact hsame.symm.trans hreasons
          · rw [if_neg hsame, if_pos fun heq => hsame (hreasons.trans heq)]
            exact ⟨[], rfl, counts_fresh s e⟩

theorem Counts.longEnough {w : NonUsableWindow} (h : Counts s st e w) :
    LongEnough s (st ++ [e]) ↔
      w.count ≥ s.minSamples ∧
        totalSeconds (e.reading.timestamp - w.firstTs) ≥ s.minDurationS := by
  obtain ⟨first, hfirst, hts⟩ := h.first
  unfold LongEnough
  rw [h.count, hts, hfirst, List.getLast?_concat]
  constructor
  · rintro ⟨hcount, _, _, hhead, hlast, hspan⟩
    cases hhead
    cases hlast
    exact ⟨hcount, hspan⟩
  · rintro ⟨hcount, hspan⟩
    exact ⟨hcount, first, e, rfl, rfl, hspan⟩

theorem handleNonusable_agrees {window : Option NonUsableWindow} (h : Agrees s st window)
    (hdead : e.reading.isUsable = false) :
    StandsFor s (stretchStep st e) (handleNonusable s window e).window ∧
    ((handleNonusable s window e).called = true ↔
      s.handler = true ∧ LongEnough s (stretchStep st e) ∧
        ¬ Settled s (stretchStep st e).dropLast) := by
  obtain ⟨kept, hstretch, hcounts⟩ := countedWindow_counts h hdead
  rw [hstretch, List.dropLast_concat]
  unfold handleNonusable
  simp only
  by_cases hescalated : (countedWindow window e.reading).escalated = true
  · have hsettled := hcounts.escalated.mp hescalated
    rw [if_pos hescalated]
    refine ⟨⟨hcounts.first, hcounts.count, hcounts.reasons, ?_⟩, ?_⟩
    · exact iff_of_true hescalated (settled_append.mpr (.inl hsettled))
    · exact iff_of_false (by simp) fun hcalled => hcalled.2.2 hsettled
  · have hopen : ¬ Settled s kept := fun hsettled => hescalated (hcounts.escalated.mpr hsettled)
    rw [if_neg hescalated]
    by_cases hlong : LongEnough s (kept ++ [e])
    · rw [if_pos (hcounts.longEnough.mp hlong)]
      refine ⟨⟨hcounts.first, hcounts.count, hcounts.reasons, ?_⟩, ?_⟩
      · rw [settled_append]
        simp only [Bool.or_eq_true, Bool.not_eq_true']
        constructor
        · rintro (hnone | htruthy)
          · exact .inr ⟨hlong, fun hhandler => absurd hhandler (by simp [hnone])⟩
          · exact .inr ⟨hlong, fun _ => htruthy⟩
        · rintro (hsettled | ⟨_, htruthy⟩)
          · exact absurd hsettled hopen
          · cases hhandler : s.handler with
            | false => exact .inl rfl
            | true => exact .inr (htruthy hhandler)
      · exact ⟨fun hcalled => ⟨hcalled, hlong, hopen⟩, fun hcalled => hcalled.1⟩
    · rw [if_neg fun hcond => hlong (hcounts.longEnough.mpr hcond)]
      refine ⟨⟨hcounts.first, hcounts.count, hcounts.reasons, ?_⟩, ?_⟩
      · refine iff_of_false hescalated fun hsettled => ?_
        rcases settled_append.mp hsettled with hsettled | ⟨hnow, _⟩
        · exact hopen hsettled
        · exact hlong hnow
      · exact iff_of_false (by simp) fun hcalled => hlong hcalled.2.1

end Steps

section Runs

variable {s : Debounce} {channel : String}

theorem own_append (channel : String) (es more : List Sample) :
    own channel (es ++ more) = own channel es ++ own channel more := List.filter_append ..

theorem stretch_concat (es : List Sample) (e : Sample) :
    stretch (es ++ [e]) = stretchStep (stretch es) e := by
  unfold stretch
  rw [List.foldl_append]
  rfl

theorem own_cases (channel : String) (e : Sample) :
    own channel [e] = [] ∧ (e.condition = none ∨ e.reading.channel ≠ channel) ∨
    own channel [e] = [e] ∧ e.reading.channel = channel ∧ e.condition ≠ none := by
  by_cases hchannel : e.reading.channel = channel
  · cases hcondition : e.condition with
    | none =>
        exact .inl ⟨List.filter_cons_of_neg (by simp [hcondition]), .inl rfl⟩
    | some name =>
        refine .inr ⟨List.filter_cons_of_pos (by simp [hcondition, hchannel]), hchannel, ?_⟩
        exact Option.some_ne_none name
  · exact .inl ⟨List.filter_cons_of_neg (by simp [hchannel]), .inr hchannel⟩

theorem own_split {run before after : List Sample} {e : Sample}
    (h : own channel run = before ++ e :: after) :
    ∃ pre post, run = pre ++ e :: post ∧ own channel pre = before ∧
      e.reading.channel = channel ∧ e.condition ≠ none := by
  obtain ⟨pre, rest, hrun, hpre, hrest⟩ := List.filter_eq_append_iff.mp h
  obtain ⟨skipped, post, hpost, hskipped, hkeep, _⟩ := List.filter_eq_cons_iff.mp hrest
  have hnone : own channel skipped = [] := List.filter_eq_nil_iff.mpr hskipped
  rw [Bool.and_eq_true, beq_iff_eq] at hkeep
  refine ⟨pre ++ skipped, post, ?_, ?_, hkeep.1, Option.isSome_iff_ne_none.mp hkeep.2⟩
  · rw [hrun, hpost, List.append_assoc]
  · rw [own_append, hnone, List.append_nil]
    exact hpre

theorem processReading_other {windows : Dict String NonUsableWindow} {e : Sample}
    (h : e.condition = none ∨ e.reading.channel ≠ channel) :
    (processReading s windows e).1.get? channel = windows.get? channel ∧
    ((processReading s windows e).2 = true → e.reading.channel ≠ channel) := by
  unfold processReading
  by_cases hnone : e.condition = none
  · rw [if_pos (Option.isNone_iff_eq_none.mpr hnone)]
    exact ⟨rfl, fun hcalled => by cases hcalled⟩
  · have hne := h.resolve_left hnone
    rw [if_neg fun hisNone => hnone (Option.isNone_iff_eq_none.mp hisNone)]
    by_cases husable : e.reading.isUsable = true
    · rw [if_pos husable]
      refine ⟨?_, fun hcalled => by cases hcalled⟩
      by_cases hrecovered : e.recovered = true
      · simp only [hrecovered, if_true]
        rw [Dict.get?_erase, if_neg (Ne.symm hne)]
      · simp only [hrecovered, Bool.false_eq_true, if_false]
    · rw [if_neg husable]
      exact ⟨Dict.get?_set_of_ne _ _ (Ne.symm hne), fun _ => hne⟩

theorem processReading_own {windows : Dict String NonUsableWindow} {e : Sample}
    {st : List Sample} (hchannel : e.reading.channel = channel)
    (hcondition : e.condition ≠ none) (h : Agrees s st (windows.get? channel)) :
    Agrees s (stretchStep st e) ((processReading s windows e).1.get? channel) ∧
    ((processReading s windows e).2 = true ↔ e.reading.isUsable = false ∧ s.handler = true ∧
      LongEnough s (stretchStep st e) ∧ ¬ Settled s (stretchStep st e).dropLast) := by
  unfold processReading
  rw [if_neg fun hisNone => hcondition (Option.isNone_iff_eq_none.mp hisNone)]
  by_cases husable : e.reading.isUsable = true
  · rw [if_pos husable]
    refine ⟨?_, iff_of_false (by simp) (by simp [husable])⟩
    unfold stretchStep
    rw [if_pos husable]
    by_cases hrecovered : e.recovered = true
    · simp only [hrecovered, if_true]
      rw [hchannel, Dict.get?_erase, if_pos rfl]
      rfl
    · simp only [hrecovered, Bool.false_eq_true, if_false]
      exact h
  · have hdead : e.reading.isUsable = false := Bool.eq_false_iff.mpr husable
    rw [if_neg husable, hchannel]
    obtain ⟨hstands, hcalled⟩ := handleNonusable_agrees h hdead
    refine ⟨?_, ?_⟩
    · rw [Dict.get?_set_self]
      exact hstands
    · rw [hcalled]
      exact ⟨fun hc => ⟨hdead, hc⟩, fun hc => hc.2⟩

theorem windowsAfter_agrees (s : Debounce) (channel : String) (es : List Sample) :
    Agrees s (stretch (own channel es)) ((windowsAfter s .empty es).get? channel) := by
  induction es using List.reverseRecOn with
  | nil => exact rfl
  | append_singleton es e ih =>
      have hstep : windowsAfter s .empty (es ++ [e]) =
          (processReading s (windowsAfter s .empty es) e).1 := by
        unfold windowsAfter
        rw [List.foldl_append]
        rfl
      rw [hstep, own_append]
      rcases own_cases channel e with ⟨hown, hother⟩ | ⟨hown, hchannel, hcondition⟩
      · rw [hown, List.append_nil, (processReading_other hother).1]
        exact ih
      · rw [hown, stretch_concat]
        exact (processReading_own hchannel hcondition ih).1

theorem called_iff (s : Debounce) (channel : String) (es : List Sample) {e : Sample}
    (hchannel : e.reading.channel = channel) (hcondition : e.condition ≠ none) :
    (processReading s (windowsAfter s .empty es) e).2 = true ↔
      e.reading.isUsable = false ∧ s.handler = true ∧
        LongEnough s (stretch (own channel es ++ [e])) ∧
        ¬ Settled s (stretch (own channel es ++ [e])).dropLast := by
  rw [stretch_concat]
  exact (processReading_own hchannel hcondition (windowsAfter_agrees s channel es)).2

theorem mem_calls (windows : Dict String NonUsableWindow) (run : List Sample) {e : Sample} :
    e ∈ calls s windows run ↔ ∃ before after, run = before ++ e :: after ∧
      (processReading s (windowsAfter s windows before) e).2 = true := by
  induction run generalizing windows with
  | nil =>
      refine iff_of_false List.not_mem_nil ?_
      rintro ⟨before, after, h, _⟩
      exact absurd h.symm (by simp)
  | cons e' run ih =>
      have hrest : (∃ before after, e' :: run = before ++ e :: after ∧
          (processReading s (windowsAfter s windows before) e).2 = true) ↔
          (e' = e ∧ (processReading s windows e).2 = true) ∨
            ∃ before after, run = before ++ e :: after ∧
              (processReading s (windowsAfter s (processReading s windows e').1 before) e).2 =
                true := by
        constructor
        · rintro ⟨before, after, h, hcalled⟩
          cases before with
          | nil =>
              cases h
              exact .inl ⟨rfl, hcalled⟩
          | cons head before =>
              cases h
              exact .inr ⟨before, after, rfl, hcalled⟩
        · rintro (⟨rfl, hcalled⟩ | ⟨before, after, rfl, hcalled⟩)
          · exact ⟨[], run, rfl, hcalled⟩
          · exact ⟨e' :: before, after, rfl, hcalled⟩
      have hcons : calls s windows (e' :: run) =
          if (processReading s windows e').2 then e' :: calls s (processReading s windows e').1 run
          else calls s (processReading s windows e').1 run := rfl
      rw [hrest, ← ih, hcons]
      by_cases hcalled : (processReading s windows e').2 = true
      · rw [if_pos hcalled, List.mem_cons]
        constructor
        · rintro (rfl | hmem)
          · exact .inl ⟨rfl, hcalled⟩
          · exact .inr hmem
        · rintro (⟨rfl, _⟩ | hmem)
          · exact .inl rfl
          · exact .inr hmem
      · rw [if_neg hcalled]
        constructor
        · exact .inr
        · rintro (⟨rfl, hnow⟩ | hmem)
          · exact absurd hnow hcalled
          · exact hmem

theorem windowsAfter_append (windows : Dict String NonUsableWindow) (es run : List Sample) :
    windowsAfter s windows (es ++ run) = windowsAfter s (windowsAfter s windows es) run :=
  List.foldl_append

/-- A reading that ends a stretch which is long enough and not yet settled. -/
def Escalates (s : Debounce) (es : List Sample) (e : Sample) : Prop :=
  e.reading.isUsable = false ∧ s.handler = true ∧ LongEnough s (stretch (es ++ [e])) ∧
    ¬ Settled s (stretch (es ++ [e])).dropLast

theorem stretch_unchanged {reasons : List String} (st : List Sample)
    (h : ∀ e ∈ st, e.reading.isUsable = false ∧
      e.reading.instrumentStatusFaultReasons = reasons) : stretch st = st := by
  induction st using List.reverseRecOn with
  | nil => rfl
  | append_singleton st e ih =>
      have hst := ih fun e' he => h e' (List.mem_append_left _ he)
      obtain ⟨hdead, hreasons⟩ := h e (List.mem_append_right _ List.mem_cons_self)
      rw [stretch_concat, hst]
      unfold stretchStep
      simp only [hdead, Bool.false_eq_true, if_false]
      cases st with
      | nil => rfl
      | cons first rest =>
          have hfirst := (h first (List.mem_append_left _ List.mem_cons_self)).2
          exact if_pos (hfirst.trans hreasons.symm)

/-- **Escalation.**  After any readings, a run of readings calls the handler for
a channel exactly when one of its readings ends a long enough stretch of
unusable readings with unchanged fault reasons that is not settled, and so does
every further reading.  Where the fault reasons never change the stretch is the
run itself. -/
theorem dead_channel_escalates (s : Debounce) (channel : String) (es run : List Sample) :
    ((∃ e ∈ calls s (windowsAfter s .empty es) run, e.reading.channel = channel) ↔
      ∃ before e after, own channel run = before ++ e :: after ∧
        Escalates s (own channel es ++ before) e) ∧
    (∀ e, e.reading.channel = channel → e.condition ≠ none →
      ((processReading s (windowsAfter s .empty (es ++ run)) e).2 = true ↔
        Escalates s (own channel (es ++ run)) e)) ∧
    ∀ reasons, stretch (own channel es) = [] →
      (∀ e ∈ own channel run, e.reading.isUsable = false ∧
        e.reading.instrumentStatusFaultReasons = reasons) →
      stretch (own channel (es ++ run)) = own channel run := by
  refine ⟨?_, fun e hchannel hcondition => called_iff s channel _ hchannel hcondition, ?_⟩
  rotate_left
  · intro reasons hfresh hsame
    rw [own_append]
    unfold stretch at hfresh ⊢
    rw [List.foldl_append, hfresh]
    exact stretch_unchanged _ hsame
  constructor
  · rintro ⟨e, hmem, hchannel⟩
    obtain ⟨before, after, hrun, hcalled⟩ := (mem_calls _ _).mp hmem
    rcases own_cases channel e with ⟨_, hother⟩ | ⟨hown, _, hcondition⟩
    · exact absurd hchannel ((processReading_other hother).2 hcalled)
    · refine ⟨own channel before, e, own channel after, ?_, ?_⟩
      · rw [hrun, own_append, ← List.singleton_append, own_append, hown, List.singleton_append]
      · rw [← windowsAfter_append] at hcalled
        rw [← own_append]
        exact (called_iff s channel _ hchannel hcondition).mp hcalled
  · rintro ⟨before, e, after, hown, hescalates⟩
    obtain ⟨pre, post, hrun, hpre, hchannel, hcondition⟩ := own_split hown
    refine ⟨e, (mem_calls _ _).mpr ⟨pre, post, hrun, ?_⟩, hchannel⟩
    rw [← windowsAfter_append]
    rw [← hpre, ← own_append] at hescalates
    exact (called_iff s channel _ hchannel hcondition).mpr hescalates

end Runs

section Example

/-- A broken sensor at `second`, with or without the evidence of its register. -/
def broken (second : ℤ) (evidence : Bool) : Sample where
  reading :=
    { timestamp := 1000000 * second
      instrumentId := "LS218_1"
      channel := "T1"
      value := 0.0 / 0.0
      unit := "K"
      status := .sensorError
      metadata :=
        if evidence then
          Dict.ofList [("instrument_status_register", .str "LakeShore 218 RDGST"),
            ("instrument_status_fault_reasons", .arr [.str "sensor_units_over_range"])]
        else .empty }
  condition := some "overheat"
  truthy := true

/-- Fifteen seconds of a sensor whose evidence comes and goes. -/
def flapping : List Sample :=
  [broken 0 true, broken 3 false, broken 6 true, broken 9 false, broken 12 true, broken 15 false]

theorem flapping_not_escalated :
    ¬ ∀ (s : Debounce) (channel : String) (run : List Sample) (first last : Sample),
      s.handler = true →
      (∀ e ∈ run, e.reading.channel = channel ∧ e.condition ≠ none ∧
        e.reading.isUsable = false) →
      s.minSamples ≤ run.length → run.head? = some first → run.getLast? = some last →
      s.minDurationS ≤ totalSeconds (last.reading.timestamp - first.reading.timestamp) →
      ∃ e ∈ calls s .empty run, e.reading.channel = channel := by
  intro h
  have hdead : ∀ e ∈ flapping, e.reading.channel = "T1" ∧ e.condition ≠ none ∧
      e.reading.isUsable = false := by
    intro e he
    simp only [flapping, List.mem_cons, List.not_mem_nil, or_false] at he
    rcases he with rfl | rfl | rfl | rfl | rfl | rfl <;>
      exact ⟨rfl, Option.some_ne_none _, rfl⟩
  obtain ⟨e, hmem, _⟩ := h {} "T1" flapping (broken 0 true) (broken 15 false) rfl hdead
    (by decide) rfl rfl (by decide)
  have hnone : calls {} .empty flapping = [] := rfl
  rw [hnone] at hmem
  exact absurd hmem List.not_mem_nil

end Example

end Interlock
end CryoDaq
