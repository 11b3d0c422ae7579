import CryoDaq.Periodic.AlarmProjection
import Mathlib.Data.List.TakeWhile

/-!
# What a complete projection shows

The engine makes *moves*: an alarm fires, clears or is acknowledged.  Fired and
cleared alarms are published in order and delivered after any delay; frames may
be unreadable, and frames that bear no event may arrive at any time.  A request
for a snapshot is answered with the state of one moment, and the reply arrives
later, or is refused, or never arrives.

**Identity and level.**  A complete projection is the answer of the last
snapshot with the events received since its request replayed over it.  Once
every event of a move before the answer has been delivered, the alarms it shows
and their levels are those of the engine at a moment no earlier than the answer
(`complete_projection`).

**Acknowledgement.**  No event reports an acknowledgement.  The flag of an
alarm is the one of the answer as long as no event of the alarm has been
received since the request.
-/

namespace CryoDaq
namespace Periodic

open Async

/-- A transition of the engine. -/
inductive Move
  | fire (alarmId level : String)
  | clear (alarmId : String)
  | acknowledge (alarmId : String)
deriving DecidableEq

structure EngineAlarm where
  level : String
  acknowledged : Bool
deriving DecidableEq

def engineStep (active : String → Option EngineAlarm) : Move → String → Option EngineAlarm
  | .fire alarmId level => fun k => if k = alarmId then some ⟨level, false⟩ else active k
  | .clear alarmId => fun k => if k = alarmId then none else active k
  | .acknowledge alarmId => fun k =>
      if k = alarmId then (active k).map fun a => { a with acknowledged := true } else active k

def engineAfter (moves : List Move) : String → Option EngineAlarm :=
  moves.foldl engineStep fun _ => none

def Move.notice : Move → Option Notice
  | .fire alarmId level => some (alarmId, some level)
  | .clear alarmId => some (alarmId, none)
  | .acknowledge _ => none

def notices (moves : List Move) : List Notice := moves.filterMap Move.notice

def engineLevels (active : String → Option EngineAlarm) : String → Option String :=
  fun k => (active k).map EngineAlarm.level

structure SnapshotRequest where
  cut : AlarmSnapshotCut
  /-- the events that were delivered before it -/
  delivered : ℕ
  /-- the moves made when the engine answered -/
  answered : Option ℕ

/-- A reply: the moment of its answer and the events delivered before its request. -/
structure SnapshotReply where
  moment : ℕ
  delivered : ℕ

/-- The engine, the events under way and the projection. -/
structure World where
  moves : List Move := []
  published : ℕ := 0
  delivered : ℕ := 0
  projection : AlarmProjection := {}
  request : Option SnapshotRequest := none
  lastReply : Option SnapshotReply := none

def World.since (w : World) (delivered : ℕ) : List Notice :=
  ((notices w.moves).take w.delivered).drop delivered

/-- A frame of an event: it says what the event says, or it cannot be read. -/
def Bears (iso : String → Option Float) (now : Float) (frame : Fields) (u : Notice) : Prop :=
  readFrame iso now frame = .unreadable ∨
    ∃ alarm, readFrame iso now frame = .event u.1 alarm ∧
      alarm.map PeriodicInputAlarm.level = u.2

/-- A snapshot has the alarms of the engine, with their levels and flags. -/
def Depicts (active : Dict String PeriodicInputAlarm) (state : String → Option EngineAlarm) :
    Prop :=
  ∀ alarmId, (active.get? alarmId).map (fun a => (a.level, a.acknowledged)) =
    (state alarmId).map fun a => (a.level, a.acknowledged)

variable (iso : String → Option Float)

inductive World.Step (w : World) : World → Prop
  | move (m : Move) : World.Step w { w with moves := w.moves ++ [m] }
  | publish : w.published < (notices w.moves).length →
      World.Step w { w with published := w.published + 1 }
  | deliver (now : Float) (frame : Fields) (u : Notice) : w.delivered < w.published →
      (notices w.moves)[w.delivered]? = some u → Bears iso now frame u →
      World.Step w
        { w with
          delivered := w.delivered + 1
          projection := w.projection.bufferEvent iso now frame }
  | noise (now : Float) (frame : Fields) :
      readFrame iso now frame = .ignored ∨ readFrame iso now frame = .unreadable →
      World.Step w { w with projection := w.projection.bufferEvent iso now frame }
  | request (p : AlarmProjection) (cut : AlarmSnapshotCut) :
      w.projection.captureReceiveCut = some (p, cut) →
      World.Step w { w with projection := p, request := some ⟨cut, w.delivered, none⟩ }
  | answer (r : SnapshotRequest) : w.request = some r → r.answered = none →
      World.Step w { w with request := some { r with answered := some w.moves.length } }
  | reply (r : SnapshotRequest) (payload : Fields) (capturedAt : Float) : w.request = some r →
      (∀ active, readSnapshot payload = some active →
        ∃ n, r.answered = some n ∧ Depicts active (engineAfter (w.moves.take n))) →
      World.Step w
        { w with
          projection := w.projection.installSnapshot payload capturedAt r.cut
          request := none
          lastReply := (r.answered.map fun n => ⟨n, r.delivered⟩).or w.lastReply }
  | stale (payload : Fields) (capturedAt : Float) (cut : AlarmSnapshotCut) :
      some cut ≠ w.projection.pendingSnapshotCut →
      World.Step w { w with projection := w.projection.installSnapshot payload capturedAt cut }
  | freeze (now : Float) (p : AlarmProjection) (alarms : List PeriodicInputAlarm)
      (complete : Bool) : w.projection.freeze now = some (p, alarms, complete) →
      World.Step w { w with projection := p }
  | clear : World.Step w { w with projection := w.projection.clear, request := none }

/-- What a run from the empty engine and projection reaches. -/
inductive World.Reached : World → Prop
  | init : World.Reached {}
  | step {w w' : World} : World.Reached w → World.Step iso w w' → World.Reached w'

/-! ## The engine and its events -/

theorem engineAfter_concat (moves : List Move) (m : Move) :
    engineAfter (moves ++ [m]) = engineStep (engineAfter moves) m := by
  rw [engineAfter, List.foldl_append]
  rfl

theorem notices_append (moves more : List Move) :
    notices (moves ++ more) = notices moves ++ notices more := List.filterMap_append

theorem engineLevels_engineAfter (moves : List Move) :
    engineLevels (engineAfter moves) = overlay (fun _ => none) (notices moves) := by
  induction moves using List.reverseRecOn with
  | nil => rfl
  | append_singleton moves m ih =>
      rw [engineAfter_concat, notices_append, overlay_append, ← ih]
      funext k
      cases m with
      | fire alarmId level =>
          change (ite _ _ _ : Option EngineAlarm).map _ = ite _ _ _
          by_cases hk : k = alarmId
          · rw [if_pos hk, if_pos hk]
            rfl
          · rw [if_neg hk, if_neg hk]
            rfl
      | clear alarmId =>
          change (ite _ _ _ : Option EngineAlarm).map _ = ite _ _ _
          by_cases hk : k = alarmId
          · rw [if_pos hk, if_pos hk]
            rfl
          · rw [if_neg hk, if_neg hk]
            rfl
      | acknowledge alarmId =>
          change (ite _ _ _ : Option EngineAlarm).map _ = _
          by_cases hk : k = alarmId
          · rw [if_pos hk, Option.map_map]
            rfl
          · rw [if_neg hk]
            rfl

theorem notices_take (moves : List Move) (n : ℕ) :
    notices (moves.take n) = (notices moves).take (notices (moves.take n)).length := by
  conv_rhs => rw [← List.take_append_drop n moves, notices_append, List.take_append_drop]
  rw [List.take_left]

theorem exists_moment (moves : List Move) {n d : ℕ} (hn : (notices (moves.take n)).length ≤ d)
    (hd : d ≤ (notices moves).length) (hlen : n ≤ moves.length) :
    ∃ m, n ≤ m ∧ m ≤ moves.length ∧ notices (moves.take m) = (notices moves).take d := by
  induction moves using List.reverseRecOn with
  | nil =>
      refine ⟨n, Nat.le_refl n, hlen, ?_⟩
      rw [List.take_nil]
      exact List.take_nil.symm
  | append_singleton moves m ih =>
      by_cases hlast : n ≤ moves.length ∧ d ≤ (notices moves).length
      · rw [List.take_append_of_le_length hlast.1] at hn
        obtain ⟨k, hnk, hk, hmoment⟩ := ih hn hlast.2 hlast.1
        refine ⟨k, hnk, by rw [List.length_append]; omega, ?_⟩
        rw [List.take_append_of_le_length hk, notices_append,
          List.take_append_of_le_length hlast.2]
        exact hmoment
      · refine ⟨(moves ++ [m]).length, hlen, Nat.le_refl _, ?_⟩
        rw [List.take_length]
        refine (List.take_of_length_le ?_).symm
        have hone : (notices [m]).length ≤ 1 := List.length_filterMap_le _ _
        rw [notices_append, List.length_append] at hd ⊢
        by_cases hn' : n ≤ moves.length
        · have hd' : ¬ d ≤ (notices moves).length := fun h => hlast ⟨hn', h⟩
          omega
        · rw [List.length_append, List.length_singleton] at hlen
          have hfull : n = (moves ++ [m]).length := by
            rw [List.length_append, List.length_singleton]
            omega
          rw [hfull, List.take_length, notices_append, List.length_append] at hn
          exact hn

namespace World

variable {iso : String → Option Float} {w w' : World}

/-- The buffer has the events since a request, or a mark is newer than it. -/
structure Requested (w : World) (r : SnapshotRequest) : Prop where
  cut_le : r.cut.sequence ≤ w.projection.receiveSequence
  delivered_le : r.delivered ≤ w.delivered
  answered : ∀ n, r.answered = some n →
    n ≤ w.moves.length ∧ r.delivered ≤ (notices (w.moves.take n)).length
  newer : ∀ e ∈ w.projection.buffer, r.cut.sequence < e.sequence
  tail : w.projection.uncertainAfter r.cut.sequence = true ∨
    w.projection.buffer.map BufferedAlarmEvent.notice = w.since r.delivered

/-- The projection is an answer with the events since its request replayed over it. -/
structure Shown (w : World) (rep : SnapshotReply) : Prop where
  moment_le : rep.moment ≤ w.moves.length
  requested : rep.delivered ≤ (notices (w.moves.take rep.moment)).length
  delivered_le : rep.delivered ≤ w.delivered
  levels : levels w.projection.active =
    overlay (engineLevels (engineAfter (w.moves.take rep.moment))) (w.since rep.delivered)
  flags : ∀ k, k ∉ (w.since rep.delivered).map Prod.fst →
    (w.projection.active.get? k).map PeriodicInputAlarm.acknowledged =
      (engineAfter (w.moves.take rep.moment) k).map EngineAlarm.acknowledged

/-- The invariant of a run. -/
structure Sound (w : World) : Prop where
  published_le : w.published ≤ (notices w.moves).length
  delivered_le : w.delivered ≤ w.published
  keyed : Keyed w.projection.active
  named : ∀ e ∈ w.projection.buffer, e.Named
  received : ∀ e ∈ w.projection.buffer, e.sequence ≤ w.projection.receiveSequence
  pending : w.projection.pendingSnapshotCut = w.request.map SnapshotRequest.cut
  requested : ∀ r, w.request = some r → w.Requested r
  shown : w.projection.complete = true → ∃ rep, w.lastReply = some rep ∧ w.Shown rep

theorem Sound.init : Sound {} where
  published_le := Nat.zero_le _
  delivered_le := Nat.zero_le _
  keyed := Keyed.empty
  named := by
    intro e he
    cases he
  received := by
    intro e he
    cases he
  pending := rfl
  requested := by
    intro r h
    cases h
  shown := by
    intro h
    cases h

theorem since_move (hw : w.Sound) (m : Move) (c : ℕ) :
    World.since { w with moves := w.moves ++ [m] } c = w.since c := by
  unfold since
  rw [notices_append,
    List.take_append_of_le_length (Nat.le_trans hw.delivered_le hw.published_le)]

theorem Requested.move {r : SnapshotRequest} (hw : w.Sound) (h : w.Requested r) (m : Move) :
    Requested { w with moves := w.moves ++ [m] } r where
  cut_le := h.cut_le
  delivered_le := h.delivered_le
  answered := by
    intro n hn
    obtain ⟨hle, hcount⟩ := h.answered n hn
    refine ⟨by rw [List.length_append]; omega, ?_⟩
    rwa [List.take_append_of_le_length hle]
  newer := h.newer
  tail := by
    rw [since_move hw]
    exact h.tail

theorem Shown.move {rep : SnapshotReply} (hw : w.Sound) (h : w.Shown rep) (m : Move) :
    Shown { w with moves := w.moves ++ [m] } rep where
  moment_le := by
    rw [List.length_append]
    exact Nat.le_trans h.moment_le (Nat.le_add_right _ _)
  requested := by
    rw [List.take_append_of_le_length h.moment_le]
    exact h.requested
  delivered_le := h.delivered_le
  levels := by
    rw [List.take_append_of_le_length h.moment_le, since_move hw]
    exact h.levels
  flags := by
    rw [List.take_append_of_le_length h.moment_le, since_move hw]
    exact h.flags

theorem Sound.move (hw : w.Sound) (m : Move) : Sound { w with moves := w.moves ++ [m] } where
  published_le := by
    rw [notices_append, List.length_append]
    exact Nat.le_trans hw.published_le (Nat.le_add_right _ _)
  delivered_le := hw.delivered_le
  keyed := hw.keyed
  named := hw.named
  received := hw.received
  pending := hw.pending
  requested := fun r h => (hw.requested r h).move hw m
  shown := by
    intro h
    obtain ⟨rep, hrep, hshown⟩ := hw.shown h
    exact ⟨rep, hrep, hshown.move hw m⟩

theorem since_deliver {u : Notice} {c : ℕ} (hc : c ≤ w.delivered)
    (hu : (notices w.moves)[w.delivered]? = some u) (p : AlarmProjection) :
    since { w with delivered := w.delivered + 1, projection := p } c = w.since c ++ [u] := by
  unfold since
  have hlen : w.delivered < (notices w.moves).length := by
    by_contra h
    rw [List.getElem?_eq_none (Nat.le_of_not_lt h)] at hu
    cases hu
  change ((notices w.moves).take (w.delivered + 1)).drop c = _
  rw [List.take_add_one, hu, Option.toList_some, List.drop_append_of_le_length]
  rw [List.length_take]
  omega

theorem Sound.ignored (hw : w.Sound) :
    Sound { w with projection := w.projection.counted } where
  published_le := hw.published_le
  delivered_le := hw.delivered_le
  keyed := hw.keyed
  named := hw.named
  received := fun e he => Nat.le_succ_of_le (hw.received e he)
  pending := hw.pending
  requested := by
    intro r hr
    have h := hw.requested r hr
    exact ⟨Nat.le_succ_of_le h.cut_le, h.delivered_le, h.answered, h.newer, h.tail⟩
  shown := by
    intro hc
    obtain ⟨rep, hrep, h⟩ := hw.shown hc
    exact ⟨rep, hrep, h.moment_le, h.requested, h.delivered_le, h.levels, h.flags⟩

theorem Sound.unreadable (hw : w.Sound) {d : ℕ} (hd : w.delivered ≤ d) (hp : d ≤ w.published) :
    Sound { w with
      delivered := d
      projection :=
        w.projection.counted.markUncertain w.projection.counted.receiveSequence } where
  published_le := hw.published_le
  delivered_le := hp
  keyed := hw.keyed
  named := hw.named
  received := fun e he => Nat.le_succ_of_le (hw.received e he)
  pending := hw.pending
  requested := by
    intro r hr
    have h := hw.requested r hr
    refine ⟨Nat.le_succ_of_le h.cut_le, Nat.le_trans h.delivered_le hd, h.answered, h.newer,
      .inl ?_⟩
    exact AlarmProjection.uncertainAfter_markUncertain _ (Nat.lt_succ_of_le h.cut_le)
  shown := by
    intro hc
    cases hc

theorem Sound.receive (hw : w.Sound) {e : BufferedAlarmEvent} (he : e.Named)
    (hseq : e.sequence = w.projection.counted.receiveSequence) (hp : w.delivered < w.published)
    (hu : (notices w.moves)[w.delivered]? = some e.notice) :
    Sound { w with
      delivered := w.delivered + 1
      projection := w.projection.counted.receive e } where
  published_le := hw.published_le
  delivered_le := hp
  keyed := AlarmProjection.keyed_receive hw.keyed he
  named := by
    intro e' he'
    rw [AlarmProjection.receive_buffer, List.mem_append, List.mem_singleton] at he'
    rcases he' with he' | rfl
    · exact hw.named e' (AlarmProjection.mem_makeRoom (p := w.projection.counted) he')
    · exact he
  received := by
    intro e' he'
    rw [AlarmProjection.receive_receiveSequence]
    rw [AlarmProjection.receive_buffer, List.mem_append, List.mem_singleton] at he'
    rcases he' with he' | rfl
    · have hold := AlarmProjection.mem_makeRoom (p := w.projection.counted) he'
      exact Nat.le_succ_of_le (hw.received e' hold)
    · exact Nat.le_of_eq hseq
  pending := by
    rw [AlarmProjection.receive_pendingSnapshotCut]
    exact hw.pending
  requested := by
    intro r hr
    have h := hw.requested r hr
    have hcut : w.projection.pendingSnapshotCut = some r.cut := by
      rw [hw.pending, hr]
      rfl
    refine ⟨?_, Nat.le_succ_of_le h.delivered_le, h.answered, ?_, ?_⟩
    · rw [AlarmProjection.receive_receiveSequence]
      exact Nat.le_succ_of_le h.cut_le
    · intro e' he'
      rw [AlarmProjection.receive_buffer, List.mem_append, List.mem_singleton] at he'
      rcases he' with he' | rfl
      · exact h.newer e' (AlarmProjection.mem_makeRoom (p := w.projection.counted) he')
      · rw [hseq]
        exact Nat.lt_succ_of_le h.cut_le
    · rw [AlarmProjection.uncertainAfter_receive, AlarmProjection.receive_buffer,
        since_deliver h.delivered_le hu]
      rcases h.tail with hmark | htail
      · exact .inl (AlarmProjection.uncertainAfter_makeRoom hmark)
      · have hroom := AlarmProjection.makeRoom_buffer (p := w.projection.counted) hcut h.newer
        refine hroom.imp_right fun hkept => ?_
        rw [hkept, List.map_append, ← htail]
        rfl
  shown := by
    intro hc
    have hbefore := AlarmProjection.complete_of_receive (p := w.projection.counted) hc
    obtain ⟨rep, hrep, h⟩ := hw.shown hbefore
    refine ⟨rep, hrep, h.moment_le, h.requested, Nat.le_succ_of_le h.delivered_le, ?_, ?_⟩
    · rw [since_deliver h.delivered_le hu, overlay_concat, ← h.levels]
      exact AlarmProjection.levels_receive hc
    · intro k hk
      rw [since_deliver h.delivered_le hu, List.map_append, List.mem_append, not_or] at hk
      have hne : k ≠ e.alarmId := fun hk' => hk.2 (List.mem_singleton.mpr hk')
      rw [AlarmProjection.get?_receive_of_ne hne]
      exact h.flags k hk.1

/-! ### Requests and replies -/

theorem Sound.request (hw : w.Sound) {p : AlarmProjection} {cut : AlarmSnapshotCut}
    (h : w.projection.captureReceiveCut = some (p, cut)) :
    Sound { w with projection := p, request := some ⟨cut, w.delivered, none⟩ } := by
  simp only [AlarmProjection.captureReceiveCut] at h
  split at h
  · cases h
  · cases h
    -- the cut is the newest number given out, so nothing stays in the buffer
    have hempty : w.projection.buffer.dropWhile
        (fun e => decide (e.sequence ≤ w.projection.receiveSequence)) = [] := by
      rw [List.dropWhile_eq_nil_iff]
      exact fun e he => decide_eq_true (hw.received e he)
    refine ⟨hw.published_le, hw.delivered_le, hw.keyed, ?_, ?_, rfl, ?_, ?_⟩
    · intro e he
      rw [hempty] at he
      cases he
    · intro e he
      rw [hempty] at he
      cases he
    · intro r hr
      cases hr
      refine ⟨Nat.le_refl _, Nat.le_refl _, ?_, ?_, .inr ?_⟩
      · intro n hn
        cases hn
      · intro e he
        rw [hempty] at he
        cases he
      · have hsince : w.since w.delivered = [] :=
          List.drop_eq_nil_of_le (List.length_take_le _ _)
        exact (congrArg _ hempty).trans hsince.symm
    · intro hc
      obtain ⟨rep, hrep, h⟩ := hw.shown hc
      exact ⟨rep, hrep, h.moment_le, h.requested, h.delivered_le, h.levels, h.flags⟩

theorem Sound.answer (hw : w.Sound) {r : SnapshotRequest} (hr : w.request = some r) :
    Sound { w with request := some { r with answered := some w.moves.length } } where
  published_le := hw.published_le
  delivered_le := hw.delivered_le
  keyed := hw.keyed
  named := hw.named
  received := hw.received
  pending := by
    rw [hw.pending, hr]
    rfl
  requested := by
    intro r' hr'
    have h := hw.requested r hr
    cases hr'
    refine ⟨h.cut_le, h.delivered_le, ?_, h.newer, h.tail⟩
    intro n hn
    cases hn
    rw [List.take_length]
    exact ⟨Nat.le_refl _,
      h.delivered_le.trans (hw.delivered_le.trans hw.published_le)⟩
  shown := by
    intro hc
    obtain ⟨rep, hrep, h⟩ := hw.shown hc
    exact ⟨rep, hrep, h.moment_le, h.requested, h.delivered_le, h.levels, h.flags⟩

theorem Sound.refuse (hw : w.Sound) {cut : AlarmSnapshotCut} {request : Option SnapshotRequest}
    {lastReply : Option SnapshotReply}
    (hrequest : (some cut ≠ w.projection.pendingSnapshotCut ∧ request = w.request) ∨
      (some cut = w.projection.pendingSnapshotCut ∧ request = none)) :
    Sound { w with
      projection := w.projection.refuseSnapshot cut, request, lastReply } where
  published_le := hw.published_le
  delivered_le := hw.delivered_le
  keyed := hw.keyed
  named := hw.named
  received := hw.received
  pending := by
    rcases hrequest with ⟨hcut, rfl⟩ | ⟨hcut, rfl⟩
    · exact (if_neg hcut).trans hw.pending
    · exact if_pos hcut
  requested := by
    intro r hr
    rcases hrequest with ⟨-, rfl⟩ | ⟨-, rfl⟩
    · have h := hw.requested r hr
      exact ⟨h.cut_le, h.delivered_le, h.answered, h.newer, h.tail⟩
    · cases hr
  shown := by
    intro hc
    cases hc

theorem Sound.accept (hw : w.Sound) {r : SnapshotRequest} {n : ℕ} {capturedAt : Float}
    {replacement : Dict String PeriodicInputAlarm} (hr : w.request = some r)
    (hn : r.answered = some n) (hkeyed : Keyed replacement)
    (hdepicts : Depicts replacement (engineAfter (w.moves.take n))) :
    Sound { w with
      projection := w.projection.acceptSnapshot replacement capturedAt r.cut
      request := none
      lastReply := some ⟨n, r.delivered⟩ } := by
  have h := hw.requested r hr
  obtain ⟨hle, hcount⟩ := h.answered n hn
  have hnewer : (w.projection.buffer.filter fun e => r.cut.sequence < e.sequence) =
      w.projection.buffer :=
    List.filter_eq_self.mpr fun e he => decide_eq_true (h.newer e he)
  obtain ⟨active, complete, hreplay⟩ := AlarmProjection.replay_eq w.projection.buffer
    { w.projection with
      active := replacement
      capturedAt := capturedAt
      complete := !w.projection.uncertainAfter r.cut.sequence }
  have hactive := congrArg AlarmProjection.active hreplay
  have hcomplete := congrArg AlarmProjection.complete hreplay
  have haccept : w.projection.acceptSnapshot replacement capturedAt r.cut =
      { w.projection with
        active := active
        complete := complete
        capturedAt := capturedAt
        buffer := w.projection.buffer
        uncertainMin :=
          if w.projection.uncertainMax.any fun m => m ≤ r.cut.sequence then none
          else w.projection.uncertainMin
        uncertainMax :=
          if w.projection.uncertainMax.any fun m => m ≤ r.cut.sequence then none
          else w.projection.uncertainMax
        pendingSnapshotCut := none } := by
    simp only [AlarmProjection.acceptSnapshot, hnewer]
    rw [hreplay]
  rw [haccept]
  refine ⟨hw.published_le, hw.delivered_le, ?_, hw.named, hw.received, rfl, ?_, ?_⟩
  · have hk := AlarmProjection.keyed_replay hw.named (p := { w.projection with
      active := replacement
      capturedAt := capturedAt
      complete := !w.projection.uncertainAfter r.cut.sequence }) hkeyed
    rwa [hactive] at hk
  · intro r' hr'
    cases hr'
  · intro hc
    have hdone : (w.projection.buffer.foldl AlarmProjection.apply { w.projection with
        active := replacement
        capturedAt := capturedAt
        complete := !w.projection.uncertainAfter r.cut.sequence }).complete = true :=
      hcomplete.trans hc
    have hcertain : (!w.projection.uncertainAfter r.cut.sequence) = true :=
      AlarmProjection.complete_of_replay hdone
    have htail : w.projection.buffer.map BufferedAlarmEvent.notice = w.since r.delivered := by
      refine h.tail.resolve_left fun hmark => ?_
      rw [hmark] at hcertain
      cases hcertain
    refine ⟨_, rfl, hle, hcount, h.delivered_le, ?_, ?_⟩
    · have hlevels := AlarmProjection.levels_replay hdone
      rw [hactive, htail] at hlevels
      refine hlevels.trans (congrArg (overlay · (w.since r.delivered)) ?_)
      funext k
      have hk := congrArg (Option.map Prod.fst) (hdepicts k)
      rw [Option.map_map, Option.map_map] at hk
      exact hk
    · intro k hk
      have hget := AlarmProjection.get?_replay_of_not_mem (p := { w.projection with
        active := replacement
        capturedAt := capturedAt
        complete := !w.projection.uncertainAfter r.cut.sequence })
        (show k ∉ (w.projection.buffer.map BufferedAlarmEvent.notice).map Prod.fst from
          htail ▸ hk)
      rw [hactive] at hget
      have hd := congrArg (Option.map Prod.snd) (hdepicts k)
      rw [Option.map_map, Option.map_map] at hd
      exact (congrArg (Option.map _) hget).trans hd

theorem Sound.reply (hw : w.Sound) {r : SnapshotRequest} (hr : w.request = some r)
    (payload : Fields) (capturedAt : Float)
    (h : ∀ active, readSnapshot payload = some active →
      ∃ n, r.answered = some n ∧ Depicts active (engineAfter (w.moves.take n))) :
    Sound { w with
      projection := w.projection.installSnapshot payload capturedAt r.cut
      request := none
      lastReply := (r.answered.map fun n => ⟨n, r.delivered⟩).or w.lastReply } := by
  have hcut : some r.cut = w.projection.pendingSnapshotCut := by
    rw [hw.pending, hr]
    rfl
  unfold AlarmProjection.installSnapshot
  split
  · split
    · rename_i replacement hread
      obtain ⟨n, hn, hdepicts⟩ := h replacement hread
      rw [hn]
      exact hw.accept hr hn (readSnapshot_keyed hread) hdepicts
    · exact hw.refuse (.inr ⟨hcut, rfl⟩)
  · exact hw.refuse (.inr ⟨hcut, rfl⟩)

theorem Sound.stale (hw : w.Sound) (payload : Fields) (capturedAt : Float)
    {cut : AlarmSnapshotCut} (h : some cut ≠ w.projection.pendingSnapshotCut) :
    Sound { w with projection := w.projection.installSnapshot payload capturedAt cut } := by
  have hrefused : w.projection.installSnapshot payload capturedAt cut =
      w.projection.refuseSnapshot cut := if_neg fun hc => h hc.2.2
  rw [hrefused]
  exact hw.refuse (.inl ⟨h, rfl⟩)

theorem Sound.clear (hw : w.Sound) :
    Sound { w with projection := w.projection.clear, request := none } where
  published_le := hw.published_le
  delivered_le := hw.delivered_le
  keyed := Keyed.empty
  named := by
    intro e he
    cases he
  received := by
    intro e he
    cases he
  pending := rfl
  requested := by
    intro r h
    cases h
  shown := by
    intro h
    cases h

theorem freeze_cases {p q : AlarmProjection} {now : Float} {alarms : List PeriodicInputAlarm}
    {complete : Bool} (h : p.freeze now = some (q, alarms, complete)) :
    (q = p ∨ q = { p with complete := false }) ∧ complete = q.complete ∧
      alarms = (p.active.entries.insertionSort fun a b => a.1 ≤ b.1).map Prod.snd := by
  simp only [AlarmProjection.freeze] at h
  split at h
  · split at h
    · cases h
      exact ⟨.inr rfl, rfl, rfl⟩
    · cases h
      exact ⟨.inl rfl, rfl, rfl⟩
  · cases h

theorem Sound.incomplete (hw : w.Sound) :
    Sound { w with projection := { w.projection with complete := false } } where
  published_le := hw.published_le
  delivered_le := hw.delivered_le
  keyed := hw.keyed
  named := hw.named
  received := hw.received
  pending := hw.pending
  requested := by
    intro r hr
    have h := hw.requested r hr
    exact ⟨h.cut_le, h.delivered_le, h.answered, h.newer, h.tail⟩
  shown := by
    intro hc
    cases hc

theorem Step.sound (h : World.Step iso w w') (hw : w.Sound) : w'.Sound := by
  cases h with
  | move m => exact hw.move m
  | publish hp =>
      exact ⟨hp, Nat.le_succ_of_le hw.delivered_le, hw.keyed, hw.named, hw.received, hw.pending,
        fun r hr =>
          have h := hw.requested r hr
          ⟨h.cut_le, h.delivered_le, h.answered, h.newer, h.tail⟩,
        fun hc => by
          obtain ⟨rep, hrep, h⟩ := hw.shown hc
          exact ⟨rep, hrep, h.moment_le, h.requested, h.delivered_le, h.levels, h.flags⟩⟩
  | deliver now frame u hp hu hbears =>
      rcases hbears with hread | ⟨alarm, hread, hlevel⟩
      · simp only [AlarmProjection.bufferEvent, hread]
        exact hw.unreadable (Nat.le_succ _) hp
      · simp only [AlarmProjection.bufferEvent, hread]
        refine hw.receive (e := ⟨_, u.1, alarm⟩) ?_ rfl hp ?_
        · intro a ha
          cases ha
          exact readFrame_alarm hread
        · rw [hu, BufferedAlarmEvent.notice, hlevel]
  | noise now frame hread =>
      rcases hread with hread | hread
      · simp only [AlarmProjection.bufferEvent, hread]
        exact hw.ignored
      · simp only [AlarmProjection.bufferEvent, hread]
        exact hw.unreadable (Nat.le_refl _) hw.delivered_le
  | request p cut h => exact hw.request h
  | answer r hr _ => exact hw.answer hr
  | reply r payload capturedAt hr h => exact hw.reply hr payload capturedAt h
  | stale payload capturedAt cut h => exact hw.stale payload capturedAt h
  | freeze now p alarms complete h =>
      rcases (freeze_cases h).1 with rfl | rfl
      · exact hw
      · exact hw.incomplete
  | clear => exact hw.clear

theorem Reached.sound (h : World.Reached iso w) : w.Sound := by
  induction h with
  | init => exact Sound.init
  | step _ hstep ih => exact hstep.sound ih

end World

/-! ## The frozen projection -/

/-- The alarms shown have the ids and levels of the engine's active alarms. -/
def SameLevels (alarms : List PeriodicInputAlarm) (state : String → Option EngineAlarm) : Prop :=
  ∀ alarmId level, (∃ a ∈ alarms, a.alarmId = alarmId ∧ a.level = level) ↔
    ∃ e, state alarmId = some e ∧ e.level = level

/-- The alarms shown also have the flags of the engine's active alarms. -/
def SameAlarms (alarms : List PeriodicInputAlarm) (state : String → Option EngineAlarm) : Prop :=
  ∀ alarmId level acknowledged,
    (∃ a ∈ alarms, a.alarmId = alarmId ∧ a.level = level ∧ a.acknowledged = acknowledged) ↔
      state alarmId = some ⟨level, acknowledged⟩

/-- Every event of a move before the answer has been delivered. -/
def World.CaughtUp (w : World) (rep : SnapshotReply) : Prop :=
  (notices (w.moves.take rep.moment)).length ≤ w.delivered

theorem mem_frozen {active : Dict String PeriodicInputAlarm} (hk : Keyed active)
    {a : PeriodicInputAlarm} :
    a ∈ (active.entries.insertionSort fun p q => p.1 ≤ q.1).map Prod.snd ↔
      active.get? a.alarmId = some a := by
  rw [List.mem_map]
  constructor
  · rintro ⟨p, hp, rfl⟩
    rw [List.mem_insertionSort] at hp
    have hget : active.get? p.1 = some p.2 := (active.mem_entries p.1 p.2).mp hp
    rw [hk p.1 p.2 hget]
    exact hget
  · intro hget
    refine ⟨(a.alarmId, a), ?_, rfl⟩
    rw [List.mem_insertionSort]
    exact (active.mem_entries _ _).mpr hget

theorem nodup_frozen {active : Dict String PeriodicInputAlarm} (hk : Keyed active) :
    (((active.entries.insertionSort fun p q => p.1 ≤ q.1).map Prod.snd).map
      PeriodicInputAlarm.alarmId).Nodup := by
  have hids : ((active.entries.insertionSort fun p q => p.1 ≤ q.1).map Prod.snd).map
      PeriodicInputAlarm.alarmId =
        (active.entries.insertionSort fun p q => p.1 ≤ q.1).map Prod.fst := by
    rw [List.map_map]
    refine List.map_congr_left fun p hp => ?_
    rw [List.mem_insertionSort] at hp
    exact hk p.1 p.2 ((active.mem_entries p.1 p.2).mp hp)
  rw [hids, ((List.perm_insertionSort _ _).map Prod.fst).nodup_iff]
  exact active.nodup

/-- A complete projection shows each alarm once.  Once it has caught up with the
answer of the last snapshot, it shows the alarms and levels of the engine at a
moment no earlier than that answer, and an alarm without an event since the
request has the flag of the answer. -/
theorem complete_projection {iso : String → Option Float} {w : World}
    (hw : World.Reached iso w) {now : Float} {p : AlarmProjection}
    {alarms : List PeriodicInputAlarm} (h : w.projection.freeze now = some (p, alarms, true)) :
    ∃ rep, w.lastReply = some rep ∧ rep.moment ≤ w.moves.length ∧
      (alarms.map PeriodicInputAlarm.alarmId).Nodup ∧
      (w.CaughtUp rep → ∃ m, rep.moment ≤ m ∧ m ≤ w.moves.length ∧
        SameLevels alarms (engineAfter (w.moves.take m))) ∧
      (∀ a ∈ alarms, a.alarmId ∉ (w.since rep.delivered).map Prod.fst →
        ∃ e, engineAfter (w.moves.take rep.moment) a.alarmId = some e ∧
          e.acknowledged = a.acknowledged) := by
  have hs := hw.sound
  obtain ⟨hp, hc, rfl⟩ := World.freeze_cases h
  have hcomplete : w.projection.complete = true := by
    rcases hp with rfl | rfl
    · exact hc.symm
    · cases hc
  obtain ⟨rep, hrep, hshown⟩ := hs.shown hcomplete
  refine ⟨rep, hrep, hshown.moment_le, ?_, ?_, ?_⟩
  · exact nodup_frozen hs.keyed
  · intro hcaught
    obtain ⟨m, hm, hlen, hmoment⟩ := exists_moment w.moves hcaught
      (hs.delivered_le.trans hs.published_le) hshown.moment_le
    refine ⟨m, hm, hlen, ?_⟩
    have hlevels : levels w.projection.active =
        engineLevels (engineAfter (w.moves.take m)) := by
      rw [hshown.levels, engineLevels_engineAfter, engineLevels_engineAfter, hmoment,
        notices_take, World.since]
      exact overlay_tail _ _ hshown.requested hcaught
    intro alarmId level
    have hlevel := congrFun hlevels alarmId
    constructor
    · rintro ⟨a, ha, rfl, rfl⟩
      rw [mem_frozen hs.keyed] at ha
      rw [levels, ha] at hlevel
      exact Option.map_eq_some_iff.mp hlevel.symm
    · rintro ⟨e, he, rfl⟩
      rw [engineLevels, he] at hlevel
      obtain ⟨a, ha, hal⟩ := Option.map_eq_some_iff.mp hlevel
      have hid : a.alarmId = alarmId := hs.keyed alarmId a ha
      refine ⟨a, (mem_frozen hs.keyed).mpr ?_, hid, hal⟩
      rw [hid]
      exact ha
  · intro a ha hnone
    rw [mem_frozen hs.keyed] at ha
    have hflag := hshown.flags a.alarmId hnone
    rw [ha] at hflag
    exact Option.map_eq_some_iff.mp hflag.symm

/-- The offset texts are not needed here: the times are numbers. -/
def noIso : String → Option Float := fun _ => none

def firedFrame (alarmId : String) : Fields :=
  [(.text "event_type", .str "alarm_fired"), (.text "ts", .float 5.0),
    (.text "payload", .dict [(.text "alarm_id", .str alarmId), (.text "level", .str "WARNING")])]

/-- The reply of an engine with the one alarm `A`. -/
def replyFrame : Fields :=
  [(.text "ok", .bool true),
    (.text "active", .dict [(.text "A", .dict
      [(.text "level", .str "WARNING"), (.text "triggered_at", .float 5.0)])])]

def frameAlarm (alarmId : String) : PeriodicInputAlarm where
  alarmId := alarmId
  level := "WARNING"
  message := ""
  triggeredAt := 5.0
  channels := []
  acknowledged := false
  acknowledgedAt := none
  acknowledgedBy := ""

example : readFrame noIso 5.0 (firedFrame "A") = .event "A" (some (frameAlarm "A")) := by decide

/-- The projection after the alarm `A` was received. -/
def heardA : AlarmProjection := AlarmProjection.bufferEvent noIso 5.0 (firedFrame "A") {}

def askedA : AlarmProjection :=
  { heardA with snapshotGeneration := 1, pendingSnapshotCut := some ⟨1, 1⟩, buffer := [] }

def repliedA : AlarmProjection := askedA.installSnapshot replyFrame 5.0 ⟨1, 1⟩

/-- The alarm `A` has fired and the snapshot has arrived. -/
def runA : World where
  moves := [.fire "A" "WARNING"]
  published := 1
  delivered := 1
  projection := repliedA
  lastReply := some ⟨1, 1⟩

/-- Then `A` is acknowledged and `B` fires. -/
def runB : World where
  moves := [.fire "A" "WARNING", .acknowledge "A", .fire "B" "WARNING"]
  published := 2
  delivered := 2
  projection := repliedA.bufferEvent noIso 5.0 (firedFrame "B")
  lastReply := some ⟨1, 1⟩

theorem readSnapshot_replyFrame :
    readSnapshot replyFrame = some (Dict.empty.set "A" (frameAlarm "A")) := by
  decide

theorem depicts_replyFrame :
    Depicts (Dict.empty.set "A" (frameAlarm "A")) (engineAfter [.fire "A" "WARNING"]) := by
  intro k
  rw [Dict.get?_set, Dict.get?_empty]
  change Option.map _ (ite _ _ _) = Option.map _ (ite _ _ _)
  by_cases hk : k = "A"
  · rw [if_pos hk, if_pos hk]
    rfl
  · rw [if_neg hk, if_neg hk]
    rfl

theorem bears_firedFrame {alarmId : String}
    (h : readFrame noIso 5.0 (firedFrame alarmId) = .event alarmId (some (frameAlarm alarmId))) :
    Bears noIso 5.0 (firedFrame alarmId) (alarmId, some "WARNING") :=
  .inr ⟨_, h, rfl⟩

theorem reached_runA : World.Reached noIso runA := by
  have hmoved : World.Reached noIso { moves := [.fire "A" "WARNING"] } :=
    .step .init (.move _)
  have hpublished : World.Reached noIso { moves := [.fire "A" "WARNING"], published := 1 } :=
    .step hmoved (.publish Nat.zero_lt_one)
  have hdelivered : World.Reached noIso
      { moves := [.fire "A" "WARNING"], published := 1, delivered := 1, projection := heardA } :=
    .step hpublished (.deliver 5.0 (firedFrame "A") ("A", some "WARNING") Nat.zero_lt_one rfl
      (bears_firedFrame (by decide)))
  have hasked : World.Reached noIso
      { moves := [.fire "A" "WARNING"], published := 1, delivered := 1, projection := askedA,
        request := some ⟨⟨1, 1⟩, 1, none⟩ } :=
    .step hdelivered (.request askedA ⟨1, 1⟩ (by decide))
  have hanswered : World.Reached noIso
      { moves := [.fire "A" "WARNING"], published := 1, delivered := 1, projection := askedA,
        request := some ⟨⟨1, 1⟩, 1, some 1⟩ } :=
    .step hasked (.answer ⟨⟨1, 1⟩, 1, none⟩ rfl rfl)
  refine .step hanswered (.reply ⟨⟨1, 1⟩, 1, some 1⟩ replyFrame 5.0 rfl ?_)
  intro active h
  rw [readSnapshot_replyFrame] at h
  cases h
  exact ⟨1, rfl, depicts_replyFrame⟩

theorem reached_runB : World.Reached noIso runB := by
  have hacknowledged : World.Reached noIso
      { runA with moves := [.fire "A" "WARNING", .acknowledge "A"] } :=
    .step reached_runA (.move (.acknowledge "A"))
  have hfired : World.Reached noIso { runA with moves := runB.moves } :=
    .step hacknowledged (.move (.fire "B" "WARNING"))
  have hpublished : World.Reached noIso { runA with moves := runB.moves, published := 2 } :=
    .step hfired (.publish (by decide))
  exact .step hpublished (.deliver 5.0 (firedFrame "B") ("B", some "WARNING") (by decide) rfl
    (bears_firedFrame (by decide)))

theorem complete_projection_run :
    ∃ rep, runA.lastReply = some rep ∧ rep.moment ≤ runA.moves.length ∧
      (([frameAlarm "A"] : List _).map PeriodicInputAlarm.alarmId).Nodup ∧
      (runA.CaughtUp rep → ∃ m, rep.moment ≤ m ∧ m ≤ runA.moves.length ∧
        SameLevels [frameAlarm "A"] (engineAfter (runA.moves.take m))) ∧
      (∀ a ∈ [frameAlarm "A"], a.alarmId ∉ (runA.since rep.delivered).map Prod.fst →
        ∃ e, engineAfter (runA.moves.take rep.moment) a.alarmId = some e ∧
          e.acknowledged = a.acknowledged) :=
  complete_projection reached_runA
    (show runA.projection.freeze 6.0 = some (repliedA, [frameAlarm "A"], true) by decide)

/-- The reply of an engine without alarms. -/
def emptyFrame : Fields := [(.text "ok", .bool true), (.text "active", .dict [])]

/-- The projection that asked before it received the event of `A`. -/
def askedFirst : AlarmProjection :=
  ({ snapshotGeneration := 1, pendingSnapshotCut := some ⟨1, 0⟩ } :
    AlarmProjection).bufferEvent noIso 5.0 (firedFrame "A")

/-- `A` has fired and is cleared before the answer, but only its first event was published. -/
def runC : World where
  moves := [.fire "A" "WARNING", .clear "A"]
  published := 1
  delivered := 1
  projection := askedFirst.installSnapshot emptyFrame 5.0 ⟨1, 0⟩
  lastReply := some ⟨2, 0⟩

theorem reached_runC : World.Reached noIso runC := by
  have hmoved : World.Reached noIso { moves := [.fire "A" "WARNING"] } :=
    .step .init (.move _)
  have hpublished : World.Reached noIso { moves := [.fire "A" "WARNING"], published := 1 } :=
    .step hmoved (.publish Nat.zero_lt_one)
  have hasked : World.Reached noIso
      { moves := [.fire "A" "WARNING"], published := 1,
        projection := { snapshotGeneration := 1, pendingSnapshotCut := some ⟨1, 0⟩ },
        request := some ⟨⟨1, 0⟩, 0, none⟩ } :=
    .step hpublished (.request _ ⟨1, 0⟩ (by decide))
  have hdelivered : World.Reached noIso
      { moves := [.fire "A" "WARNING"], published := 1, delivered := 1, projection := askedFirst,
        request := some ⟨⟨1, 0⟩, 0, none⟩ } :=
    .step hasked (.deliver 5.0 (firedFrame "A") ("A", some "WARNING") Nat.zero_lt_one rfl
      (bears_firedFrame (by decide)))
  have hcleared : World.Reached noIso
      { moves := runC.moves, published := 1, delivered := 1, projection := askedFirst,
        request := some ⟨⟨1, 0⟩, 0, none⟩ } :=
    .step hdelivered (.move (.clear "A"))
  have hanswered : World.Reached noIso
      { moves := runC.moves, published := 1, delivered := 1, projection := askedFirst,
        request := some ⟨⟨1, 0⟩, 0, some 2⟩ } :=
    .step hcleared (.answer ⟨⟨1, 0⟩, 0, none⟩ rfl rfl)
  refine .step hanswered (.reply ⟨⟨1, 0⟩, 0, some 2⟩ emptyFrame 5.0 rfl ?_)
  intro active h
  rw [show readSnapshot emptyFrame = some Dict.empty by decide] at h
  cases h
  refine ⟨2, rfl, fun k => ?_⟩
  rw [Dict.get?_empty]
  change none = Option.map _ (ite _ _ (ite _ _ _))
  by_cases hk : k = "A"
  · rw [if_pos hk]
    rfl
  · rw [if_neg hk, if_neg hk]
    rfl

/-- No moment of a run has `A` unacknowledged beside `B`; and an event that was published before
the reply is replayed over the newer snapshot, while the one that ended its alarm was not yet
published. -/
theorem projection_not_true_state :
    (¬ ∀ (iso : String → Option Float) (w : World), World.Reached iso w →
      ∀ (now : Float) (p : AlarmProjection) (alarms : List PeriodicInputAlarm),
        w.projection.freeze now = some (p, alarms, true) →
          ∀ rep, w.lastReply = some rep → w.CaughtUp rep →
            ∃ m, rep.moment ≤ m ∧ m ≤ w.moves.length ∧
              SameAlarms alarms (engineAfter (w.moves.take m))) ∧
      ¬ ∀ (iso : String → Option Float) (w : World), World.Reached iso w →
        ∀ (now : Float) (p : AlarmProjection) (alarms : List PeriodicInputAlarm),
          w.projection.freeze now = some (p, alarms, true) →
            ∀ rep, w.lastReply = some rep → w.delivered = w.published →
              ∃ m, rep.moment ≤ m ∧ m ≤ w.moves.length ∧
                SameAlarms alarms (engineAfter (w.moves.take m)) := by
  constructor
  · intro h
    obtain ⟨m, hlow, hhigh, hsame⟩ := h noIso runB reached_runB 6.0 runB.projection
      [frameAlarm "A", frameAlarm "B"] (by decide) ⟨1, 1⟩ rfl (Nat.le_succ 1)
    have hA := (hsame "A" "WARNING" false).mp
      ⟨frameAlarm "A", List.mem_cons_self, rfl, rfl, rfl⟩
    have hB := (hsame "B" "WARNING" false).mp
      ⟨frameAlarm "B", List.mem_cons_of_mem _ List.mem_cons_self, rfl, rfl, rfl⟩
    have hm : m = 1 ∨ m = 2 ∨ m = 3 := by
      change 1 ≤ m at hlow
      change m ≤ 3 at hhigh
      omega
    rcases hm with rfl | rfl | rfl
    · revert hB
      decide
    · revert hA
      decide
    · revert hA
      decide
  · intro h
    obtain ⟨m, hlow, hhigh, hsame⟩ := h noIso runC reached_runC 6.0 runC.projection
      [frameAlarm "A"] (by decide) ⟨2, 0⟩ rfl rfl
    have hA := (hsame "A" "WARNING" false).mp
      ⟨frameAlarm "A", List.mem_cons_self, rfl, rfl, rfl⟩
    have hm : m = 2 := by
      change 2 ≤ m at hlow
      change m ≤ 2 at hhigh
      omega
    subst hm
    revert hA
    decide

end Periodic
end CryoDaq
