import CryoDaq.Acquisition.Persistence
import CryoDaq.System.Run

/-!
# What the throttle leaves out of the archive

A `History` follows the throttle over polls and runtime signals: the readings
it was shown, those it held back, and those that are in the archive.  A reading
held back is covered when the archive has a reading of its channel from at most
the maximal interval before it, within the absolute delta of its value.

**Where covering fails.**  The throttle compares with the value seen last and
remembers an emission before it is written.  A slow drift, and an emission that
is lost, leave readings uncovered; `Spares` is the condition that neither
happens.
-/

namespace CryoDaq
namespace Acquisition

namespace AdaptiveThrottle

/-- A reading of a known channel that is held back. -/
def Quiet (cfg : ThrottleConfig) (s : ThrottleState) (r : Reading) : Prop :=
  ¬ cfg.threshold r.unit < distance r.value s.lastSeenValue ∧
  ¬ totalSeconds (r.timestamp - s.stableSince) < cfg.stableDuration ∧
  ¬ cfg.maxInterval ≤ totalSeconds (r.timestamp - s.lastEmittedAt)

theorem judge_cases (cfg : ThrottleConfig) (s : ThrottleState) (r : Reading) :
    (Quiet cfg s r ∧ (judge cfg s r).1 = false ∧
      (judge cfg s r).2.lastEmittedAt = s.lastEmittedAt ∧
      (judge cfg s r).2.lastEmittedValue = s.lastEmittedValue) ∨
    (¬ Quiet cfg s r ∧ (judge cfg s r).1 = true ∧
      (judge cfg s r).2.lastEmittedAt = r.timestamp ∧
      (judge cfg s r).2.lastEmittedValue = r.value) := by
  unfold judge
  simp only
  split
  · rename_i hdelta
    exact .inr ⟨fun hquiet => hquiet.1 hdelta, rfl, rfl, rfl⟩
  · rename_i hdelta
    split
    · rename_i hstable
      exact .inr ⟨fun hquiet => hquiet.2.1 hstable, rfl, rfl, rfl⟩
    · rename_i hstable
      split
      · rename_i hinterval
        exact .inr ⟨fun hquiet => hquiet.2.2 hinterval, rfl, rfl, rfl⟩
      · rename_i hinterval
        exact .inl ⟨⟨hdelta, hstable, hinterval⟩, rfl, rfl, rfl⟩

/-- The readings that the throttle lets through, those it holds back, and the
throttle after them. -/
def sift : AdaptiveThrottle → List Reading → List Reading × List Reading × AdaptiveThrottle
  | t, [] => ([], [], t)
  | t, r :: rest =>
      let next := (filterStep ([], t) r).2
      let sifted := sift next rest
      if (t.shouldEmit r).1 then (r :: sifted.1, sifted.2.1, sifted.2.2)
      else (sifted.1, r :: sifted.2.1, sifted.2.2)

theorem foldl_filterStep (readings kept : List Reading) (t : AdaptiveThrottle) :
    readings.foldl filterStep (kept, t) =
      (kept ++ (t.sift readings).1, (t.sift readings).2.2) := by
  induction readings generalizing kept t with
  | nil => simp [sift]
  | cons r rest ih =>
      cases hemit : (t.shouldEmit r).1 with
      | true => simp [sift, filterStep, hemit, ih]
      | false => simp [sift, filterStep, hemit, ih]

theorem filterForArchive_eq {t : AdaptiveThrottle} (h : t.config.enabled = true)
    (readings : List Reading) :
    t.filterForArchive readings = ((t.sift readings).1, (t.sift readings).2.2) := by
  rw [filterForArchive, if_pos h, foldl_filterStep, List.nil_append]

end AdaptiveThrottle

/-- The throttle and, for the record, what it was shown, what it held back and
what is in the archive. -/
structure History where
  scheduler : Scheduler
  presented : List Reading := []
  suppressed : List Reading := []
  archive : List Reading := []

/-- The readings that a scheduler's throttle holds back. -/
def Scheduler.suppresses (sch : Scheduler) (readings : List Reading) : List Reading :=
  match sch.adaptiveThrottle with
  | none => []
  | some t => if t.config.enabled then (t.sift readings).2.1 else []

/-- The part of an effect that ends in the archive. -/
def Effect.stored (s : Surroundings) : Effect → List Reading
  | .wrote batch => if s.writer.any Writer.stored then batch else []
  | _ => []

/-- A poll of the history.  A poll that finds the disk full does not show its
readings to the throttle. -/
def History.poll (h : History) (s : Surroundings) (i : InstrumentState)
    (readings : List Reading) (successfulPoll : Bool) : History :=
  let poll := processReadings s h.scheduler i readings successfulPoll
  let shown := if s.writer.any Writer.diskFullBefore then [] else readings
  { scheduler := poll.scheduler
    presented := h.presented ++ shown
    suppressed := h.suppressed ++ h.scheduler.suppresses shown
    archive := h.archive ++ poll.effects.flatMap (Effect.stored s) }

/-- The timestamps of a channel do not go back. -/
def InOrder (readings : List Reading) : Prop :=
  readings.Pairwise fun p r => p.channel = r.channel → p.timestamp ≤ r.timestamp

/-- The poll shows its readings to the throttle, reaches the writer, and its
batch ends in the archive. -/
def Surroundings.Stores (s : Surroundings) (readings : List Reading) : Prop :=
  (∃ w, s.writer = some w ∧ w.diskFullBefore = false ∧ w.stored = true) ∧
  (readSrdg s.calibration readings).isSome

/-- One reading is shown to the throttle: an emission that the throttle will
remember is stored, and a reading that is held back is within the delta of the
emission remembered. -/
def Spares (stores : Prop) (t : AdaptiveThrottle) (r : Reading) : Prop :=
  t.bypasses r = true ∨
  (stores ∧ t.state.get? r.channel = none) ∨
  ∃ s, t.state.get? r.channel = some s ∧
    (AdaptiveThrottle.Quiet t.config s r →
      distance r.value s.lastEmittedValue ≤ t.config.threshold r.unit) ∧
    (¬ AdaptiveThrottle.Quiet t.config s r → stores)

def SparesAll (stores : Prop) : AdaptiveThrottle → List Reading → Prop
  | _, [] => True
  | t, r :: rest =>
      Spares stores t r ∧ SparesAll stores (AdaptiveThrottle.filterStep ([], t) r).2 rest

/-- The steps of a history: a runtime signal, or a poll whose timestamps do not
go back. -/
inductive History.Step : History → History → Prop
  | signal (h : History) (t t' : AdaptiveThrottle) (r : Reading)
      (ht : h.scheduler.adaptiveThrottle = some t)
      (hsignal : t.observeRuntimeSignal r = .ok t') :
      Step h { h with scheduler := { h.scheduler with adaptiveThrottle := some t' } }
  | poll (h : History) (s : Surroundings) (i : InstrumentState) (readings : List Reading)
      (successfulPoll : Bool) (horder : InOrder (h.presented ++ readings)) :
      Step h (h.poll s i readings successfulPoll)

inductive History.SparingStep : History → History → Prop
  | signal (h : History) (t t' : AdaptiveThrottle) (r : Reading)
      (ht : h.scheduler.adaptiveThrottle = some t)
      (hsignal : t.observeRuntimeSignal r = .ok t') :
      SparingStep h { h with scheduler := { h.scheduler with adaptiveThrottle := some t' } }
  | poll (h : History) (s : Surroundings) (i : InstrumentState) (readings : List Reading)
      (successfulPoll : Bool) (horder : InOrder (h.presented ++ readings))
      (hspares : ∀ t, h.scheduler.adaptiveThrottle = some t → t.config.enabled = true →
        s.writer.any Writer.diskFullBefore = false →
        SparesAll (s.Stores readings) t readings) :
      SparingStep h (h.poll s i readings successfulPoll)

/-- A reading of the channel is in the archive, not older than the maximal
interval and within the absolute delta. -/
def Covered (cfg : ThrottleConfig) (archive : List Reading) (r : Reading) : Prop :=
  ∃ c ∈ archive, c.channel = r.channel ∧ c.timestamp ≤ r.timestamp ∧
    totalSeconds (r.timestamp - c.timestamp) ≤ cfg.maxInterval ∧
    distance r.value c.value ≤ cfg.threshold r.unit

/-! ## What the throttle remembers -/

/-- The emission that a channel's state remembers is in the archive. -/
def Remembers (t : AdaptiveThrottle) (archive presented : List Reading) : Prop :=
  ∀ channel s, t.state.get? channel = some s →
    ∃ c ∈ archive, c ∈ presented ∧ c.channel = channel ∧
      c.timestamp = s.lastEmittedAt ∧ c.value = s.lastEmittedValue

theorem Remembers.mono {t : AdaptiveThrottle} {archive archive' presented presented' : List Reading}
    (h : Remembers t archive presented) (harchive : archive ⊆ archive')
    (hpresented : presented ⊆ presented') : Remembers t archive' presented' := by
  intro channel s hs
  obtain ⟨c, hc, hshown, hrest⟩ := h channel s hs
  exact ⟨c, harchive hc, hpresented hshown, hrest⟩

theorem Remembers.remember {t : AdaptiveThrottle} {archive presented : List Reading}
    (h : Remembers t archive presented) {channel : String} {s : ThrottleState}
    (hs : ∃ c ∈ archive, c ∈ presented ∧ c.channel = channel ∧
      c.timestamp = s.lastEmittedAt ∧ c.value = s.lastEmittedValue) :
    Remembers (t.remember channel s) archive presented := by
  intro other s' hs'
  unfold AdaptiveThrottle.remember at hs'
  rw [Dict.get?_set] at hs'
  by_cases hother : other = channel
  · rw [if_pos hother] at hs'
    cases hs'
    rw [hother]
    exact hs
  · rw [if_neg hother] at hs'
    exact h other s' hs'

theorem Covered.mono {cfg : ThrottleConfig} {archive archive' : List Reading} {r : Reading}
    (h : Covered cfg archive r) (harchive : archive ⊆ archive') : Covered cfg archive' r := by
  obtain ⟨c, hc, hrest⟩ := h
  exact ⟨c, harchive hc, hrest⟩

theorem covered_of_quiet {t : AdaptiveThrottle} {archive presented : List Reading} {r : Reading}
    {s : ThrottleState} (hnumber : t.config.maxInterval.isNaN = false)
    (hremembers : Remembers t archive presented)
    (horder : ∀ p ∈ presented, p.channel = r.channel → p.timestamp ≤ r.timestamp)
    (hs : t.state.get? r.channel = some s) (hquiet : AdaptiveThrottle.Quiet t.config s r)
    (hnear : distance r.value s.lastEmittedValue ≤ t.config.threshold r.unit) :
    Covered t.config archive r := by
  obtain ⟨c, hc, hshown, hchannel, htime, hvalue⟩ := hremembers r.channel s hs
  have hinterval : totalSeconds (r.timestamp - s.lastEmittedAt) < t.config.maxInterval :=
    Binary64.lt_of_not_le (isNaN_totalSeconds _) hnumber hquiet.2.2
  refine ⟨c, hc, hchannel, horder c hshown hchannel, ?_, ?_⟩
  · rw [htime]
    exact Binary64.le_of_lt hinterval
  · rw [hvalue]
    exact hnear

namespace AdaptiveThrottle

/-- One reading: the settings stay, what is remembered stays in the archive, and
a reading that is held back is covered. -/
theorem filterStep_sound {t : AdaptiveThrottle} {stores : Prop} {r : Reading}
    {archive presented : List Reading} (hspares : Spares stores t r)
    (hnumber : t.config.maxInterval.isNaN = false)
    (hremembers : Remembers t archive presented)
    (horder : ∀ p ∈ presented, p.channel = r.channel → p.timestamp ≤ r.timestamp)
    (hkept : stores → (t.shouldEmit r).1 = true → r ∈ archive) :
    (filterStep ([], t) r).2.config = t.config ∧
    Remembers (filterStep ([], t) r).2 archive (presented ++ [r]) ∧
    ((t.shouldEmit r).1 = false → Covered t.config archive r) := by
  have hgrown : Remembers t archive (presented ++ [r]) :=
    hremembers.mono (List.Subset.refl _) (List.subset_append_left _ _)
  have hself : r ∈ presented ++ [r] := List.mem_append_right _ (List.mem_singleton_self r)
  by_cases hbypass : t.bypasses r = true
  · have hemit : t.shouldEmit r = (true, t) := if_pos hbypass
    simp only [filterStep, hemit]
    exact ⟨rfl, hgrown, fun h => by cases h⟩
  · cases hs : t.state.get? r.channel with
    | none =>
        have hemit : t.shouldEmit r = (true, t.remember r.channel (firstState r)) := by
          simp only [shouldEmit, if_neg hbypass, hs]
        have hstores : stores := by
          rcases hspares with hspares | hspares | ⟨s, hspares, hrest⟩
          · exact absurd hspares hbypass
          · exact hspares.1
          · cases hs.symm.trans hspares
        have hr : r ∈ archive := hkept hstores (by rw [hemit])
        simp only [filterStep, hemit]
        exact ⟨rfl, hgrown.remember ⟨r, hr, hself, rfl, rfl, rfl⟩, fun h => by cases h⟩
    | some s =>
        have hemit : t.shouldEmit r =
            ((judge t.config s r).1, t.remember r.channel (judge t.config s r).2) := by
          simp only [shouldEmit, if_neg hbypass, hs]
        have hrule : (Quiet t.config s r →
              distance r.value s.lastEmittedValue ≤ t.config.threshold r.unit) ∧
            (¬ Quiet t.config s r → stores) := by
          rcases hspares with hspares | hspares | ⟨s', hspares, hrest⟩
          · exact absurd hspares hbypass
          · cases hs.symm.trans hspares.2
          · cases hs.symm.trans hspares
            exact hrest
        rcases judge_cases t.config s r with
          ⟨hquiet, hverdict, htime, hvalue⟩ | ⟨hquiet, hverdict, htime, hvalue⟩
        · obtain ⟨c, hc, hshown, hchannel, hctime, hcvalue⟩ := hgrown r.channel s hs
          simp only [filterStep, hemit, hverdict]
          refine ⟨rfl, hgrown.remember ⟨c, hc, hshown, hchannel, ?_, ?_⟩, fun h => ?_⟩
          · rw [htime]
            exact hctime
          · rw [hvalue]
            exact hcvalue
          · exact covered_of_quiet hnumber hremembers horder hs hquiet (hrule.1 hquiet)
        · have hr : r ∈ archive := hkept (hrule.2 hquiet) (by rw [hemit, hverdict])
          simp only [filterStep, hemit, hverdict]
          exact ⟨rfl, hgrown.remember ⟨r, hr, hself, rfl, htime.symm, hvalue.symm⟩,
            fun h => by cases h⟩

theorem sift_sound {stores : Prop} {archive : List Reading} (readings : List Reading)
    (t : AdaptiveThrottle) (presented : List Reading) (hspares : SparesAll stores t readings)
    (hnumber : t.config.maxInterval.isNaN = false)
    (hremembers : Remembers t archive presented) (horder : InOrder (presented ++ readings))
    (hkept : stores → ∀ r ∈ (t.sift readings).1, r ∈ archive) :
    (t.sift readings).2.2.config = t.config ∧
    Remembers (t.sift readings).2.2 archive (presented ++ readings) ∧
    ∀ r ∈ (t.sift readings).2.1, Covered t.config archive r := by
  induction readings generalizing t presented with
  | nil =>
      rw [List.append_nil]
      exact ⟨rfl, hremembers, fun r hr => absurd hr List.not_mem_nil⟩
  | cons r rest ih =>
      have hbefore : ∀ p ∈ presented, p.channel = r.channel → p.timestamp ≤ r.timestamp :=
        fun p hp => (List.pairwise_append.mp horder).2.2 p hp r List.mem_cons_self
      have hhead : stores → (t.shouldEmit r).1 = true → r ∈ archive := by
        intro hstores hemit
        apply hkept hstores r
        simp only [sift, hemit, if_true]
        exact List.mem_cons_self
      have htail : stores → ∀ q ∈ ((filterStep ([], t) r).2.sift rest).1, q ∈ archive := by
        intro hstores q hq
        apply hkept hstores q
        simp only [sift]
        split
        · exact List.mem_cons_of_mem r hq
        · exact hq
      obtain ⟨hconfig, hnext, hcovered⟩ :=
        filterStep_sound hspares.1 hnumber hremembers hbefore hhead
      have hrest : InOrder ((presented ++ [r]) ++ rest) := by
        rw [List.append_assoc]
        exact horder
      obtain ⟨hconfig', hremembers', hcovered'⟩ :=
        ih _ (presented ++ [r]) hspares.2 (by rw [hconfig]; exact hnumber) hnext hrest htail
      rw [hconfig] at hconfig' hcovered'
      rw [List.append_assoc] at hremembers'
      simp only [sift]
      cases hemit : (t.shouldEmit r).1 with
      | true => exact ⟨hconfig', hremembers', hcovered'⟩
      | false =>
          refine ⟨hconfig', hremembers', ?_⟩
          intro q hq
          rcases List.mem_cons.mp hq with rfl | hq
          · exact hcovered hemit
          · exact hcovered' q hq

end AdaptiveThrottle

/-! ## What a poll archives -/

theorem processReadings_throttle (s : Surroundings) (sch : Scheduler) (i : InstrumentState)
    (readings : List Reading) (successfulPoll : Bool)
    (hfull : s.writer.any Writer.diskFullBefore = false) :
    (processReadings s sch i readings successfulPoll).scheduler.adaptiveThrottle =
      (sch.filterReadings readings).2.adaptiveThrottle := by
  have hpublish (sch : Scheduler) (i : InstrumentState) (persisted : List Reading)
      (srdg : List Reading × Option PendingRange) :
      (persistAndPublish s sch i persisted srdg readings).scheduler = sch := by
    unfold persistAndPublish
    cases s.writer with
    | none => rfl
    | some w =>
        simp only
        split
        · rfl
        · cases (persist s.observers w (persisted ++ srdg.1)).2 <;> rfl
  unfold processReadings
  rw [if_neg (by rw [hfull]; decide)]
  simp only
  split
  · rfl
  · cases readSrdg s.calibration readings with
    | none => rfl
    | some srdg => rw [hpublish]

theorem processReadings_diskFull (s : Surroundings) (sch : Scheduler) (i : InstrumentState)
    (readings : List Reading) (successfulPoll : Bool)
    (hfull : s.writer.any Writer.diskFullBefore = true) :
    processReadings s sch i readings successfulPoll = ⟨.delivered false, sch, i, []⟩ :=
  if_pos hfull

theorem archived_of_stores {s : Surroundings} {readings : List Reading}
    (h : s.Stores readings) (sch : Scheduler) (i : InstrumentState) (successfulPoll : Bool) :
    ∀ r ∈ (sch.filterReadings readings).1,
      r ∈ (processReadings s sch i readings successfulPoll).effects.flatMap (Effect.stored s) := by
  obtain ⟨⟨w, hw, hfull, hstored⟩, hsrdg⟩ := h
  obtain ⟨srdg, hsrdg⟩ := Option.isSome_iff_exists.mp hsrdg
  intro r hr
  have hmem (sch : Scheduler) (i : InstrumentState) (persisted : List Reading)
      (hr : r ∈ persisted) :
      r ∈ (persistAndPublish s sch i persisted srdg readings).effects.flatMap
        (Effect.stored s) := by
    have hbatch : r ∈ Effect.stored s (.wrote (persisted ++ srdg.1)) := by
      simp only [Effect.stored, hw, Option.any_some, hstored, if_true]
      exact List.mem_append_left _ hr
    have hne : (persisted ++ srdg.1).isEmpty = false := by
      cases persisted with
      | nil => cases hr
      | cons q rest => rfl
    obtain ⟨observed, hwrote, hobserved⟩ := persist_effects s.observers w (persisted ++ srdg.1)
    have hfirst : .wrote (persisted ++ srdg.1) ∈
        (persistAndPublish s sch i persisted srdg readings).effects := by
      have hbefore : .wrote (persisted ++ srdg.1) ∈
          (persist s.observers w (persisted ++ srdg.1)).1 := by
        rw [hwrote]
        exact List.mem_cons_self
      unfold persistAndPublish
      simp only [hw, hne]
      cases (persist s.observers w (persisted ++ srdg.1)).2 with
      | refused => exact hbefore
      | failed => exact hbefore
      | cancelled => exact hbefore
      | committed entries =>
          exact List.mem_append_left _ (List.mem_append_left _ hbefore)
      | accepted => exact List.mem_append_left _ (List.mem_append_left _ hbefore)
    exact List.mem_flatMap.mpr ⟨_, hfirst, hbatch⟩
  unfold processReadings
  rw [if_neg (by rw [hw, Option.any_some, hfull]; decide)]
  simp only
  rw [if_neg (by rw [hw]; simp), hsrdg]
  exact hmem _ _ _ hr

/-- The settings, what is remembered, and what covers the readings held back. -/
structure History.Sound (cfg : ThrottleConfig) (h : History) : Prop where
  config : ∀ t, h.scheduler.adaptiveThrottle = some t → t.config = cfg
  remembers : ∀ t, h.scheduler.adaptiveThrottle = some t →
    t.config.enabled = true → Remembers t h.archive h.presented
  covered : ∀ r ∈ h.suppressed, Covered cfg h.archive r

theorem observeRuntimeSignal_keeps {t t' : AdaptiveThrottle} {r : Reading}
    (h : t.observeRuntimeSignal r = .ok t') : t'.config = t.config ∧ t'.state = t.state := by
  have hhold (h : t.holdTransition r = .ok t') : t'.config = t.config ∧ t'.state = t.state := by
    unfold AdaptiveThrottle.holdTransition at h
    cases hus : microseconds t.config.transitionHoldoff with
    | error e =>
        rw [hus] at h
        cases h
    | ok us =>
        rw [hus] at h
        cases h
        exact ⟨rfl, rfl⟩
  unfold AdaptiveThrottle.observeRuntimeSignal at h
  split at h
  · cases hcount : roundToInt r.value with
    | error e =>
        rw [hcount] at h
        cases h
    | ok count =>
        rw [hcount] at h
        cases h
        exact ⟨rfl, rfl⟩
  · split at h
    · split at h
      · exact hhold h
      · cases h
        exact ⟨rfl, rfl⟩
    · split at h
      · split at h
        · exact hhold h
        · cases h
          exact ⟨rfl, rfl⟩
      · cases h
        exact ⟨rfl, rfl⟩

theorem History.Sound.poll {cfg : ThrottleConfig} (hnumber : cfg.maxInterval.isNaN = false)
    {h : History} (hsound : h.Sound cfg) (s : Surroundings) (i : InstrumentState)
    (readings : List Reading) (successfulPoll : Bool)
    (horder : InOrder (h.presented ++ readings))
    (hspares : ∀ t, h.scheduler.adaptiveThrottle = some t → t.config.enabled = true →
      s.writer.any Writer.diskFullBefore = false → SparesAll (s.Stores readings) t readings) :
    (h.poll s i readings successfulPoll).Sound cfg := by
  have harchive : h.archive ⊆ (h.poll s i readings successfulPoll).archive :=
    List.subset_append_left _ _
  have hold : ∀ r ∈ h.suppressed,
      Covered cfg (h.poll s i readings successfulPoll).archive r :=
    fun r hr => (hsound.covered r hr).mono harchive
  cases hfull : s.writer.any Writer.diskFullBefore with
  | true =>
      have hsame : (h.poll s i readings successfulPoll).scheduler = h.scheduler := by
        simp only [History.poll, processReadings_diskFull s _ i readings successfulPoll hfull]
      have hnone : (h.poll s i readings successfulPoll).suppressed = h.suppressed := by
        have hsift : h.scheduler.suppresses [] = [] := by
          unfold Scheduler.suppresses
          cases h.scheduler.adaptiveThrottle with
          | none => rfl
          | some t =>
              simp only
              split <;> rfl
        simp only [History.poll, hfull, if_true, hsift, List.append_nil]
      refine ⟨?_, ?_, ?_⟩
      · rw [hsame]
        exact hsound.config
      · rw [hsame]
        intro t ht henabled
        exact (hsound.remembers t ht henabled).mono harchive (List.subset_append_left _ _)
      · rw [hnone]
        exact hold
  | false =>
      have hthrottle : (h.poll s i readings successfulPoll).scheduler.adaptiveThrottle =
          (h.scheduler.filterReadings readings).2.adaptiveThrottle :=
        processReadings_throttle s h.scheduler i readings successfulPoll hfull
      have hshown : (h.poll s i readings successfulPoll).presented = h.presented ++ readings := by
        simp only [History.poll, hfull]
        rfl
      have hheld : (h.poll s i readings successfulPoll).suppressed =
          h.suppressed ++ h.scheduler.suppresses readings := by
        simp only [History.poll, hfull]
        rfl
      cases ht : h.scheduler.adaptiveThrottle with
      | none =>
          have hnone : (h.scheduler.filterReadings readings).2.adaptiveThrottle = none := by
            simp only [Scheduler.filterReadings, ht]
          have hsift : h.scheduler.suppresses readings = [] := by
            simp only [Scheduler.suppresses, ht]
          rw [hnone] at hthrottle
          rw [hsift, List.append_nil] at hheld
          refine ⟨?_, ?_, ?_⟩
          · intro t h
            cases hthrottle.symm.trans h
          · intro t h
            cases hthrottle.symm.trans h
          · rw [hheld]
            exact hold
      | some t =>
          have hsome : (h.scheduler.filterReadings readings).2.adaptiveThrottle =
              some (t.filterForArchive readings).2 := by
            simp only [Scheduler.filterReadings, ht]
          rw [hsome] at hthrottle
          cases henabled : t.config.enabled with
          | false =>
              have hsame : (t.filterForArchive readings).2 = t := by
                simp only [AdaptiveThrottle.filterForArchive, henabled]
                rfl
              have hsift : h.scheduler.suppresses readings = [] := by
                simp only [Scheduler.suppresses, ht, henabled]
                rfl
              rw [hsame] at hthrottle
              rw [hsift, List.append_nil] at hheld
              refine ⟨?_, ?_, ?_⟩
              · intro u hu
                cases hthrottle.symm.trans hu
                exact hsound.config t ht
              · intro u hu huenabled
                cases hthrottle.symm.trans hu
                rw [henabled] at huenabled
                cases huenabled
              · rw [hheld]
                exact hold
          | true =>
              have hsift : h.scheduler.suppresses readings = (t.sift readings).2.1 := by
                simp only [Scheduler.suppresses, ht, henabled, if_true]
              have hkept : s.Stores readings → ∀ r ∈ (t.sift readings).1,
                  r ∈ (h.poll s i readings successfulPoll).archive := by
                intro hstores r hr
                have hadmitted : r ∈ (h.scheduler.filterReadings readings).1 := by
                  simp only [Scheduler.filterReadings, ht, AdaptiveThrottle.filterForArchive_eq henabled]
                  exact hr
                exact List.mem_append_right _
                  (archived_of_stores hstores h.scheduler i successfulPoll r hadmitted)
              have hconfig := hsound.config t ht
              obtain ⟨hconfig', hremembers, hcovered⟩ :=
                AdaptiveThrottle.sift_sound readings t h.presented
                  (hspares t ht henabled hfull) (by rw [hconfig]; exact hnumber)
                  ((hsound.remembers t ht henabled).mono harchive (List.Subset.refl _))
                  horder hkept
              rw [AdaptiveThrottle.filterForArchive_eq henabled] at hthrottle
              refine ⟨?_, ?_, ?_⟩
              · intro u hu
                cases hthrottle.symm.trans hu
                rw [← hconfig]
                exact hconfig'
              · intro u hu huenabled
                cases hthrottle.symm.trans hu
                rw [hshown]
                exact hremembers
              · rw [hheld, hsift]
                intro r hr
                rcases List.mem_append.mp hr with hr | hr
                · exact hold r hr
                · rw [← hconfig]
                  exact hcovered r hr

theorem History.SparingStep.sound {cfg : ThrottleConfig}
    (hnumber : cfg.maxInterval.isNaN = false) {h h' : History} (hsound : h.Sound cfg)
    (hstep : SparingStep h h') : h'.Sound cfg := by
  cases hstep with
  | signal t t' r ht hsignal =>
      obtain ⟨hconfig, hstate⟩ := observeRuntimeSignal_keeps hsignal
      refine ⟨?_, ?_, hsound.covered⟩
      · intro u hu
        cases hu
        rw [hconfig]
        exact hsound.config t ht
      · intro u hu henabled channel s hs
        cases hu
        rw [hstate] at hs
        rw [hconfig] at henabled
        exact hsound.remembers t ht henabled channel s hs
  | poll s i readings successfulPoll horder hspares =>
      exact hsound.poll hnumber s i readings successfulPoll horder hspares

/-- A throttle without channel states, before the first poll. -/
def History.start (cfg : ThrottleConfig) : History where
  scheduler := { adaptiveThrottle := some { config := cfg } }

/-- In a run whose polls spare the archive every reading that the throttle held
back is covered. -/
theorem suppressed_covered (cfg : ThrottleConfig) (hnumber : cfg.maxInterval.isNaN = false)
    (h : History) (hrun : Run History.SparingStep (History.start cfg) h) :
    ∀ r ∈ h.suppressed, Covered cfg h.archive r := by
  have hstart : (History.start cfg).Sound cfg := by
    refine ⟨?_, ?_, fun r hr => absurd hr List.not_mem_nil⟩
    · intro t ht
      cases ht
      rfl
    · intro t ht henabled channel s hs
      cases ht
      cases hs
  exact (hrun.invariant (fun hs hstep => History.SparingStep.sound hnumber hs hstep) hstart).covered

def sampleAt (seconds : ℤ) (value : Float) : Reading :=
  { sampleReading with timestamp := seconds * 1000000, value := value }

/-- The default settings, switched on. -/
def enabledThrottle : ThrottleConfig := { enabled := true }

def History.store (h : History) (r : Reading) : History :=
  h.poll { writer := some plainWriter } { name := "LS218" } [r] true

/-- The channel is stable, then its value is read twice more. -/
def History.twoMore (first second : Float) : History :=
  ((((History.start enabledThrottle).store (sampleAt 0 1.0)).store (sampleAt 121 1.0)).store
    (sampleAt 122 first)).store (sampleAt 123 second)

theorem twoMore_run (first second : Float) :
    Run History.Step (History.start enabledThrottle) (History.twoMore first second) := by
  have hstep (h : History) (r : Reading) (horder : InOrder (h.presented ++ [r])) :
      History.Step h (h.store r) := .poll h _ _ _ _ horder
  refine (((Run.single (hstep _ (sampleAt 0 1.0) ?_)).tail (hstep _ (sampleAt 121 1.0) ?_)).tail
    (hstep _ (sampleAt 122 first) ?_)).tail (hstep _ (sampleAt 123 second) ?_)
  all_goals simp [InOrder, History.store, History.poll, History.start, plainWriter, sampleAt]

/-- A stored poll of one reading spares the archive when the reading is near the
emission remembered. -/
theorem sparing_store (h : History) (r : Reading) (horder : InOrder (h.presented ++ [r]))
    (hnear : ∀ t, h.scheduler.adaptiveThrottle = some t → t.state.get? r.channel = none ∨
      ∃ s, t.state.get? r.channel = some s ∧
        distance r.value s.lastEmittedValue ≤ t.config.threshold r.unit) :
    History.SparingStep h (h.store r) := by
  refine .poll h _ _ _ _ horder ?_
  intro t ht _ _
  have hstores : Surroundings.Stores { writer := some plainWriter } [r] :=
    ⟨⟨plainWriter, rfl, rfl, rfl⟩, rfl⟩
  rcases hnear t ht with hnone | ⟨s, hs, hnear⟩
  · exact ⟨.inr (.inl ⟨hstores, hnone⟩), trivial⟩
  · exact ⟨.inr (.inr ⟨s, hs, fun _ => hnear, fun _ => hstores⟩), trivial⟩

theorem suppressed_covered_steady :
    Covered enabledThrottle (History.twoMore 1.0 1.0).archive (sampleAt 123 1.0) := by
  refine suppressed_covered enabledThrottle (by decide) (History.twoMore 1.0 1.0) ?_
    (sampleAt 123 1.0) (List.mem_cons_of_mem _ (List.mem_singleton_self _))
  refine (((Run.single (sparing_store _ (sampleAt 0 1.0) ?_ ?_)).tail
    (sparing_store _ (sampleAt 121 1.0) ?_ ?_)).tail
    (sparing_store _ (sampleAt 122 1.0) ?_ ?_)).tail (sparing_store _ (sampleAt 123 1.0) ?_ ?_)
  · simp [InOrder, History.start]
  · intro t ht
    cases ht
    exact .inl rfl
  · simp [InOrder, History.store, History.poll, History.start, plainWriter, sampleAt]
  · intro t ht
    cases ht
    exact .inr ⟨_, rfl, by decide⟩
  · simp [InOrder, History.store, History.poll, History.start, plainWriter, sampleAt]
  · intro t ht
    cases ht
    exact .inr ⟨_, rfl, by decide⟩
  · simp [InOrder, History.store, History.poll, History.start, plainWriter, sampleAt]
  · intro t ht
    cases ht
    exact .inr ⟨_, rfl, by decide⟩

/-- Every poll is stored, the value creeps up by less than the delta from one
reading to the next, and the last reading is not covered. -/
theorem drift_uncovered :
    Run History.Step (History.start enabledThrottle) (History.twoMore 1.04 1.08) ∧
    ∃ r ∈ (History.twoMore 1.04 1.08).suppressed,
      ¬ Covered enabledThrottle (History.twoMore 1.04 1.08).archive r := by
  have hsuppressed : (History.twoMore 1.04 1.08).suppressed =
      [sampleAt 122 1.04, sampleAt 123 1.08] := by
    rfl
  have harchive : (History.twoMore 1.04 1.08).archive = [sampleAt 0 1.0, sampleAt 121 1.0] := by
    rfl
  refine ⟨twoMore_run 1.04 1.08, sampleAt 123 1.08, ?_, ?_⟩
  · rw [hsuppressed]
    exact List.mem_cons_of_mem _ (List.mem_singleton_self _)
  · rw [harchive]
    intro hcovered
    obtain ⟨c, hc, -, -, -, hnear⟩ := hcovered
    have hvalue : c.value = 1.0 := by
      rcases List.mem_cons.mp hc with rfl | hc
      · rfl
      · rw [List.mem_singleton.mp hc]
        rfl
    rw [hvalue] at hnear
    exact absurd hnear (by decide)

end Acquisition
end CryoDaq
