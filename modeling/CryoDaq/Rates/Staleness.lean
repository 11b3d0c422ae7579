import CryoDaq.Rates.RateEstimator

/-!
# Windows and stale rates

**Window.**  The samples of a channel are in the order of time and are never all
gone.  They span at most the window, unless the beginning of the window was
rounded down to a float: then a sample before the exact beginning may stay.

**Staleness.**  A rate that is not computed from the buffer is served while the
buffer is refilled after a forward gap.  It is served after another reset as
well when the mark of an earlier forward gap is still set then: no rate has been
computed since that gap.
-/

namespace CryoDaq
namespace Rates

open Binary64

variable {V : Type} {s : Settings} {buffer : List (Instant × V)} {timestamp : Instant} {value : V}

/-- What holds of the samples of a channel. -/
structure Windowed (s : Settings) (buffer : List (Instant × V)) : Prop where
  sorted : buffer.Pairwise fun p q => p.1.seconds ≤ q.1.seconds
  span : ∀ first last, buffer.head? = some first → buffer.getLast? = some last →
    ¬ RoundsDown last.1.seconds s.windowS →
    units last.1.seconds - units first.1.seconds ≤ units s.windowS
  nonempty : buffer ≠ []

theorem le_maxlen (s : Settings) : 500 ≤ s.maxlen := by
  have hlow : (500 : ℤ) ≤ max 500 (truncate (s.windowS * 20) + 100) := le_max_left _ _
  unfold Settings.maxlen
  omega

theorem windowS_finite (s : Settings) : s.windowS.isFinite = true :=
  isFinite_of_mul s.finite

theorem in_window (hwindow : 0 ≤ s.windowS) :
    ¬ timestamp.seconds < timestamp.seconds - s.windowS :=
  not_lt_sub timestamp.finite (windowS_finite s) hwindow

theorem appended_eq (hwindow : 0 ≤ s.windowS) :
    ∃ rest, appended s buffer timestamp value = rest ++ [(timestamp, value)] ∧
      rest <:+ buffer ∧
      ∀ first, rest.head? = some first → ¬ first.1.seconds < timestamp.seconds - s.windowS := by
  have hpos := le_maxlen s
  have hdrop : (buffer ++ [(timestamp, value)]).length - s.maxlen ≤ buffer.length := by
    rw [List.length_append, List.length_singleton]
    omega
  have hkeep : [(timestamp, value)].dropWhile
      (fun p => p.1.seconds < timestamp.seconds - s.windowS) = [(timestamp, value)] :=
    List.dropWhile_cons_of_neg (by simpa using in_window hwindow)
  refine ⟨(buffer.drop ((buffer ++ [(timestamp, value)]).length - s.maxlen)).dropWhile
    fun p => p.1.seconds < timestamp.seconds - s.windowS, ?_, ?_, ?_⟩
  · unfold appended
    simp only
    rw [List.drop_append_of_le_length hdrop, List.dropWhile_append, hkeep]
    split
    · rename_i hempty
      rw [List.isEmpty_iff.mp hempty]
      rfl
    · rfl
  · exact (List.dropWhile_suffix _).trans (List.drop_suffix _ _)
  · intro first hfirst
    have hnot := List.head?_dropWhile_not
      (fun p : Instant × V => decide (p.1.seconds < timestamp.seconds - s.windowS))
      (buffer.drop ((buffer ++ [(timestamp, value)]).length - s.maxlen))
    rw [hfirst] at hnot
    simpa using hnot

theorem appended_windowed (hwindow : 0 ≤ s.windowS)
    (hsorted : buffer.Pairwise fun p q => p.1.seconds ≤ q.1.seconds)
    (hle : ∀ p ∈ buffer, p.1.seconds ≤ timestamp.seconds) :
    Windowed s (appended s buffer timestamp value) := by
  obtain ⟨rest, heq, hsuffix, hfirst⟩ := @appended_eq V s buffer timestamp value hwindow
  rw [heq]
  refine ⟨?_, ?_, by simp⟩
  · refine List.pairwise_append.mpr ⟨hsorted.sublist hsuffix.sublist, List.pairwise_singleton _ _,
      fun p hp q hq => ?_⟩
    rw [List.mem_singleton.mp hq]
    exact hle p (hsuffix.subset hp)
  · intro first last hhead hlast hexact
    rw [List.getLast?_concat] at hlast
    cases hlast
    have hinside : ¬ first.1.seconds < timestamp.seconds - s.windowS := by
      cases rest with
      | nil =>
          cases hhead
          exact in_window hwindow
      | cons p rest =>
          cases hhead
          exact hfirst first rfl
    have hlow := exact_le_of_not_lt timestamp.finite (windowS_finite s) first.1.finite hexact
      hinside
    change units timestamp.seconds - units first.1.seconds ≤ _
    omega

theorem appended_nil (hwindow : 0 ≤ s.windowS) :
    appended s [] timestamp value = [(timestamp, value)] := by
  obtain ⟨rest, heq, hsuffix, _⟩ := @appended_eq V s [] timestamp value hwindow
  rw [heq, List.suffix_nil.mp hsuffix]
  rfl

theorem Windowed.le_last (h : Windowed s buffer) {last : Instant × V}
    (hlast : buffer.getLast? = some last) : ∀ p ∈ buffer, p.1.seconds ≤ last.1.seconds := by
  obtain ⟨front, rfl⟩ := List.getLast?_eq_some_iff.mp hlast
  intro p hp
  rcases List.mem_append.mp hp with hp | hp
  · exact (List.pairwise_append.mp h.sorted).2.2 p hp last List.mem_cons_self
  · rw [List.mem_singleton.mp hp]
    exact (le_iff_units last.1.finite last.1.finite).mpr le_rfl

/-- What a sample does to the buffer. -/
inductive Effect
  | taken
  | dropped
  | reset (reset : Reset)
deriving DecidableEq

theorem le_of_decision {last : Instant}
    (h : clockJumpDecision s buffer last timestamp = .ok) : last.seconds ≤ timestamp.seconds := by
  refine le_of_sub_nonneg timestamp.finite last.finite ?_
  by_contra hback
  have hgap : ¬ timestamp.seconds - last.seconds ≥ 0 := hback
  have hnot (p : Prop) [Decidable p] : (if p then Decision.drop else .reset) ≠ .ok := by
    by_cases hp : p
    · rw [if_pos hp]
      exact Decision.noConfusion
    · rw [if_neg hp]
      exact Decision.noConfusion
  unfold clockJumpDecision at h
  simp only [hgap, if_false] at h
  exact hnot _ h

namespace Track

variable (s) in
/-- The effect of a sample at `timestamp`. -/
def effect (tr : Track V) (timestamp : Instant) : Effect :=
  match tr.buffer.getLast? with
  | none => .taken
  | some last =>
      match clockJumpDecision s tr.buffer last.1 timestamp with
      | .ok => .taken
      | .drop => if tr.consecDrops + 1 < s.driftResetCount then .dropped else .reset .drift
      | .reset => if timestamp.seconds - last.1.seconds > 0 then .reset .forward else .reset .backward

variable {tr : Track V}

theorem push_taken (h : tr.effect s timestamp = .taken) :
    tr.push s timestamp value = tr.accept s timestamp value ∧
    ∀ last, tr.buffer.getLast? = some last → last.1.seconds ≤ timestamp.seconds := by
  unfold effect at h
  unfold push
  cases hlast : tr.buffer.getLast? with
  | none => exact ⟨rfl, fun _ hnone => by cases hnone⟩
  | some last =>
      rw [hlast] at h
      simp only at h ⊢
      cases hdecision : clockJumpDecision s tr.buffer last.1 timestamp with
      | ok =>
          refine ⟨rfl, fun last' hlast' => ?_⟩
          cases hlast'
          exact le_of_decision hdecision
      | drop =>
          rw [hdecision] at h
          simp only at h
          split at h
          · cases h
          · cases h
      | reset =>
          rw [hdecision] at h
          simp only at h
          split at h
          · cases h
          · cases h

theorem push_dropped (h : tr.effect s timestamp = .dropped) :
    tr.push s timestamp value = { tr with consecDrops := tr.consecDrops + 1 } := by
  unfold effect at h
  unfold push
  cases hlast : tr.buffer.getLast? with
  | none =>
      rw [hlast] at h
      cases h
  | some last =>
      rw [hlast] at h
      simp only at h ⊢
      cases hdecision : clockJumpDecision s tr.buffer last.1 timestamp with
      | ok =>
          rw [hdecision] at h
          cases h
      | drop =>
          rw [hdecision] at h
          simp only at h ⊢
          split at h
          · exact if_pos ‹_›
          · cases h
      | reset =>
          rw [hdecision] at h
          simp only at h
          split at h
          · cases h
          · cases h

theorem push_reset {reset : Reset} (h : tr.effect s timestamp = .reset reset) :
    tr.push s timestamp value =
      ({ tr with serveStale := tr.serveStale || decide (reset = Reset.forward) }.clear reset).accept
        s timestamp value := by
  unfold effect at h
  unfold push
  cases hlast : tr.buffer.getLast? with
  | none =>
      rw [hlast] at h
      cases h
  | some last =>
      rw [hlast] at h
      simp only at h ⊢
      cases hdecision : clockJumpDecision s tr.buffer last.1 timestamp with
      | ok =>
          rw [hdecision] at h
          cases h
      | drop =>
          rw [hdecision] at h
          simp only at h ⊢
          split at h
          · cases h
          · cases h
            rw [if_neg ‹_›]
            simp
      | reset =>
          rw [hdecision] at h
          simp only at h ⊢
          split at h
          · cases h
            rw [if_pos ‹_›]
            simp
          · cases h
            rw [if_neg ‹_›]
            simp

variable (s) in
/-- A sample after which the buffer is too short for a reason other than a
forward gap: a reset of another kind, or older samples that left the window. -/
def LosesRate (tr : Track V) (timestamp : Instant) (value : V) : Prop :=
  (∃ reset, reset ≠ .forward ∧ tr.effect s timestamp = .reset reset ∧
    insufficient s [(timestamp, value)] = true) ∨
  (tr.effect s timestamp = .taken ∧ insufficient s tr.buffer = false ∧
    insufficient s (appended s tr.buffer timestamp value) = true)

def Marked (tr : Track V) : Prop := tr.serveStale = true ∧ tr.lastRate.isSome = true

variable (s) in
/-- A rate is served from before only during the refill after a forward gap. -/
def Honest (tr : Track V) : Prop :=
  insufficient s tr.buffer = true → tr.Marked → tr.refilling = some .forward

theorem Honest.push (hwindow : 0 ≤ s.windowS) (h : tr.Honest s)
    (hcareful : tr.LosesRate s timestamp value → ¬ tr.Marked) :
    (tr.push s timestamp value).Honest s := by
  cases heffect : tr.effect s timestamp with
  | taken =>
      rw [(push_taken heffect).1]
      intro hshort hmarked
      change insufficient s (appended s tr.buffer timestamp value) = true at hshort
      change (if insufficient s (appended s tr.buffer timestamp value) then tr.refilling
        else none) = some .forward
      rw [if_pos hshort]
      cases hbefore : insufficient s tr.buffer with
      | true => exact h hbefore hmarked
      | false => exact absurd hmarked (hcareful (.inr ⟨heffect, hbefore, hshort⟩))
  | dropped =>
      rw [push_dropped heffect]
      exact h
  | reset reset =>
      rw [push_reset heffect]
      intro hshort hmarked
      change insufficient s (appended s [] timestamp value) = true at hshort
      change (if insufficient s (appended s [] timestamp value) then some reset else none) =
        some .forward
      rw [if_pos hshort]
      by_cases hforward : reset = .forward
      · rw [hforward]
      · rw [appended_nil hwindow] at hshort
        have hstale : (tr.serveStale || decide (reset = Reset.forward)) = true := hmarked.1
        rw [decide_eq_false hforward, Bool.or_false] at hstale
        exact absurd ⟨hstale, hmarked.2⟩ (hcareful (.inl ⟨reset, hforward, heffect, hshort⟩))

theorem Honest.getRate (slope : List (Instant × V) → Option V) (h : tr.Honest s) :
    (tr.getRate s slope).1.Honest s := by
  unfold Track.getRate
  by_cases hshort : insufficient s tr.buffer = true
  · rw [if_pos hshort]
    exact h
  · rw [if_neg hshort]
    cases slope tr.buffer with
    | none => exact h
    | some rate => exact fun hshort' => absurd hshort' hshort

theorem push_windowed (hwindow : 0 ≤ s.windowS)
    (h : tr.buffer = [] ∨ Windowed s tr.buffer) :
    Windowed s (tr.push s timestamp value).buffer := by
  cases heffect : tr.effect s timestamp with
  | taken =>
      obtain ⟨heq, hlast⟩ := @push_taken V s timestamp value tr heffect
      rw [heq]
      rcases h with hnil | h
      · change Windowed s (appended s tr.buffer timestamp value)
        rw [hnil]
        exact appended_windowed hwindow List.Pairwise.nil fun p hp => absurd hp List.not_mem_nil
      · refine appended_windowed hwindow h.sorted fun p hp => ?_
        cases hend : tr.buffer.getLast? with
        | none => exact absurd (List.getLast?_eq_none_iff.mp hend) h.nonempty
        | some last => exact le_trans (h.le_last hend p hp) (hlast last hend)
  | dropped =>
      rw [push_dropped heffect]
      rcases h with hnil | h
      · unfold effect at heffect
        rw [hnil] at heffect
        cases heffect
      · exact h
  | reset reset =>
      rw [push_reset heffect]
      exact appended_windowed hwindow List.Pairwise.nil fun p hp => absurd hp List.not_mem_nil

end Track

section Runs

/-- A call that does not make a channel lose its rate while the rate of an
earlier forward gap is marked. -/
def Careful (s : Settings) (r : RateEstimator V) : Call V → Prop
  | .push channel timestamp value =>
      ((r.tracks.get? channel).getD {}).LosesRate s timestamp value →
        ¬ ((r.tracks.get? channel).getD {}).Marked
  | .getRate _ => True

/-- Every call is careful in the state that it meets. -/
def CarefulRun (s : Settings) (slope : List (Instant × V) → Option V) (r : RateEstimator V) :
    List (Call V) → Prop
  | [] => True
  | call :: calls => Careful s r call ∧ CarefulRun s slope (r.step s slope call) calls

variable {slope : List (Instant × V) → Option V} {r : RateEstimator V}

/-- A call replaces at most one track, by a push on it or a request for its
rate. -/
theorem step_tracks (call : Call V) {channel : String} {tr : Track V}
    (h : (r.step s slope call).tracks.get? channel = some tr) :
    r.tracks.get? channel = some tr ∨
    (∃ timestamp value, call = .push channel timestamp value ∧
      tr = ((r.tracks.get? channel).getD {}).push s timestamp value) ∨
    ∃ before, r.tracks.get? channel = some before ∧ tr = (before.getRate s slope).1 := by
  cases call with
  | push pushed timestamp value =>
      change (r.tracks.set pushed _).get? channel = some tr at h
      rw [Dict.get?_set] at h
      split at h
      · rename_i heq
        subst heq
        cases h
        exact .inr (.inl ⟨timestamp, value, rfl, rfl⟩)
      · exact .inl h
  | getRate asked =>
      change (r.getRate s slope asked).1.tracks.get? channel = some tr at h
      unfold RateEstimator.getRate at h
      cases hget : r.tracks.get? (r.resolveChannel asked) with
      | none =>
          rw [hget] at h
          exact .inl h
      | some before =>
          rw [hget] at h
          simp only at h
          rw [Dict.get?_set] at h
          split at h
          · rename_i heq
            subst heq
            cases h
            exact .inr (.inr ⟨before, hget, rfl⟩)
          · exact .inl h

theorem getRate_buffer (tr : Track V) : (tr.getRate s slope).1.buffer = tr.buffer := by
  unfold Track.getRate
  split
  · rfl
  · split <;> rfl

variable (s) in
def AllWindowed (r : RateEstimator V) : Prop :=
  ∀ channel tr, r.tracks.get? channel = some tr → Windowed s tr.buffer

variable (s) in
/-- No channel serves a rate from before but during a refill. -/
def AllHonest (r : RateEstimator V) : Prop :=
  ∀ channel tr, r.tracks.get? channel = some tr → tr.Honest s

theorem AllWindowed.step (hwindow : 0 ≤ s.windowS) (h : AllWindowed s r) (call : Call V) :
    AllWindowed s (r.step s slope call) := by
  intro channel tr hget
  rcases step_tracks call hget with hsame | ⟨timestamp, value, _, rfl⟩ | ⟨before, hbefore, rfl⟩
  · exact h channel tr hsame
  · refine Track.push_windowed hwindow ?_
    cases hold : r.tracks.get? channel with
    | none => exact .inl rfl
    | some old => exact .inr (h channel old hold)
  · rw [getRate_buffer]
    exact h channel before hbefore

theorem AllHonest.step (hwindow : 0 ≤ s.windowS) (h : AllHonest s r) {call : Call V}
    (hcareful : Careful s r call) : AllHonest s (r.step s slope call) := by
  intro channel tr hget
  rcases step_tracks call hget with hsame | ⟨timestamp, value, rfl, rfl⟩ | ⟨before, hbefore, rfl⟩
  · exact h channel tr hsame
  · refine Track.Honest.push hwindow ?_ hcareful
    cases hold : r.tracks.get? channel with
    | none => exact fun _ hmarked => by cases hmarked.1
    | some old => exact h channel old hold
  · exact (h channel before hbefore).getRate slope

end Runs

section Example

end Example

end Rates
end CryoDaq
