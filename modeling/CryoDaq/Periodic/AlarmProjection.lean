import CryoDaq.Async.Replay
import CryoDaq.Python.Dict
import CryoDaq.Python.Value

/-!
# The live projection of the alarms

The periodic report shows the alarms of the engine.  `AlarmProjection` keeps
them from two sources: snapshots it asks the engine for and the events it
receives.  A snapshot replaces the alarms; the events received since the
request are then replayed over it.

**Uncertainty.**  An event that cannot be read, or that the full buffer drops
while a snapshot is asked for, leaves a mark.  A snapshot does not make the
projection complete while a mark is newer than its request.

**Times.**  `iso` is the instant that `datetime.fromisoformat` reads, `none`
when the text is refused or has no offset.
-/

namespace CryoDaq
namespace Periodic

open Async

def maxFutureSkewS : Float := 300.0

def maxAlarmSnapshotAgeS : Float := 300.0

def maxActiveAlarms : ℕ := 128

def maxAlarmEvents : ℕ := 256

structure PeriodicInputAlarm where
  alarmId : String
  level : String
  message : String
  triggeredAt : Float
  channels : List String
  acknowledged : Bool
  acknowledgedAt : Option Float
  acknowledgedBy : String
deriving DecidableEq

/-! ## Reading the values of a message

Whatever raises while a message is read is caught, so a reader returns `none`
there. -/

/-- `mapping.get(key)` -/
def getField (fields : Fields) (key : String) : Option Value := fields.lookup (.text key)

/-- `_text` -/
def readText (raw : Option Value) (minimum maximum : ℕ) : Option String :=
  match raw with
  | some (.str s) => if minimum ≤ s.utf8ByteSize ∧ s.utf8ByteSize ≤ maximum then some s else none
  | _ => none

/-- `_number` -/
def readNumber : Option Value → Option Float
  | some (.int n) =>
      match (Number.int n).toFloat with
      | .ok x => if x.isFinite then some x else none
      | .error _ => none
  | some (.float x) => if x.isFinite then some x else none
  | _ => none

def eventTimestamp (iso : String → Option Float) : Option Value → Option Float
  | some (.str s) =>
      match iso s with
      | some x => if x.isFinite then some x else none
      | none => none
  | raw => readNumber raw

def asMapping : Option Value → Option Fields
  | some (.dict fields) => some fields
  | _ => none

/-- A value that is a `bool`. -/
def asBool : Value → Option Bool
  | .bool b => some b
  | _ => none

def keyText : Key → Option Value
  | .text s => some (.str s)
  | _ => none

def readChannels (payload : Fields) : Option (List String) :=
  match (getField payload "channels").getD (.list []) with
  | .list items =>
      if items.length ≤ 64 then items.mapM fun item => readText (some item) 1 256 else none
  | _ => none

def readAcknowledgement (payload : Fields) (acknowledged : Bool) :
    Option (Option Float × String) := do
  let raw := (getField payload "acknowledged_at").getD .null
  let operator ← readText (some ((getField payload "acknowledged_by").getD (.str ""))) 0 256
  if acknowledged then
    let at' ← readNumber (some raw)
    if at' ≤ 0.0 then none else some (some at', operator)
  else
    match raw with
    | .null => if operator = "" then some (none, operator) else none
    | _ =>
        let at' ← readNumber (some raw)
        if at' == 0.0 ∧ operator = "" then some (none, operator) else none

def alarmLevels : List String := ["INFO", "WARNING", "CRITICAL"]

/-- `_alarm` -/
def readAlarm (alarmId : String) (payload : Fields) : Option PeriodicInputAlarm := do
  let channels ← readChannels payload
  let acknowledged ← asBool ((getField payload "acknowledged").getD (.bool false))
  let level ← readText (some ((getField payload "level").getD (.str "UNKNOWN"))) 1 32
  if level ∉ alarmLevels then none else
  let (acknowledgedAt, acknowledgedBy) ← readAcknowledgement payload acknowledged
  let alarmId ← readText (some (.str alarmId)) 1 256
  let message ← readText (some ((getField payload "message").getD (.str ""))) 0 2048
  let triggeredAt ←
    readNumber ((getField payload "triggered_at").or (getField payload "timestamp"))
  some { alarmId, level, message, triggeredAt, channels, acknowledged, acknowledgedAt,
         acknowledgedBy }

/-- `_BufferedAlarmEvent`; a fired event carries its alarm. -/
structure BufferedAlarmEvent where
  sequence : ℕ
  alarmId : String
  alarm : Option PeriodicInputAlarm
deriving DecidableEq

structure AlarmSnapshotCut where
  generation : ℕ
  sequence : ℕ
deriving DecidableEq

/-- The fields of `AlarmProjection`. -/
structure AlarmProjection where
  active : Dict String PeriodicInputAlarm := .empty
  buffer : List BufferedAlarmEvent := []
  complete : Bool := false
  capturedAt : Float := 0.0
  receiveSequence : ℕ := 0
  snapshotGeneration : ℕ := 0
  pendingSnapshotCut : Option AlarmSnapshotCut := none
  uncertainMin : Option ℕ := none
  uncertainMax : Option ℕ := none
deriving DecidableEq

inductive Frame
  | ignored
  | unreadable
  | event (alarmId : String) (alarm : Option PeriodicInputAlarm)
deriving DecidableEq

/-- The payload of a fired event, with the time of the event by default. -/
def mergedPayload (payload : Fields) (timestamp : Float) : Fields :=
  if (getField payload "triggered_at").isSome then payload
  else payload ++ [(.text "triggered_at", .float timestamp)]

/-- The event that `buffer_event` reads from a frame of an accepted type. -/
def readEvent (iso : String → Option Float) (now : Float) (fired : Bool) (event : Fields) :
    Option (String × Option PeriodicInputAlarm) := do
  let timestamp ← eventTimestamp iso (getField event "ts")
  if now + maxFutureSkewS < timestamp then none else
  let payload ← asMapping (getField event "payload")
  let alarmId ← readText (getField payload "alarm_id") 1 256
  if fired then
    let alarm ← readAlarm alarmId (mergedPayload payload timestamp)
    some (alarmId, some alarm)
  else some (alarmId, none)

/-- What `buffer_event` makes of a frame. -/
def readFrame (iso : String → Option Float) (now : Float) (event : Fields) : Frame :=
  match readText (getField event "event_type") 1 64 with
  | none => .unreadable
  | some eventType =>
      if eventType = "alarm_fired" ∨ eventType = "alarm_cleared" then
        match readEvent iso now (eventType = "alarm_fired") event with
        | some (alarmId, alarm) => .event alarmId alarm
        | none => .unreadable
      else .ignored

def readEntry (replacement : Dict String PeriodicInputAlarm) (entry : Key × Value) :
    Option (Dict String PeriodicInputAlarm) := do
  let alarmId ← readText (keyText entry.1) 1 256
  let payload ← asMapping (some entry.2)
  let alarm ← readAlarm alarmId payload
  some (replacement.set alarmId alarm)

def readActive (active : Fields) : Option (Dict String PeriodicInputAlarm) :=
  active.foldlM readEntry .empty

/-- What `install_snapshot` reads from a reply. -/
def readSnapshot (reply : Fields) : Option (Dict String PeriodicInputAlarm) := do
  let ok ← (getField reply "ok").bind asBool
  if !ok then none else
  let active ← asMapping (getField reply "active")
  if maxActiveAlarms < active.length then none else
  readActive active

namespace AlarmProjection

def markUncertain (p : AlarmProjection) (sequence : ℕ) : AlarmProjection :=
  { p with
    uncertainMin := some (p.uncertainMin.elim sequence (min sequence))
    uncertainMax := some (p.uncertainMax.elim sequence (max sequence))
    complete := false }

/-- `capture_receive_cut`; `none` when it raises. -/
def captureReceiveCut (p : AlarmProjection) : Option (AlarmProjection × AlarmSnapshotCut) :=
  match p.pendingSnapshotCut with
  | some _ => none
  | none =>
      let cut : AlarmSnapshotCut := ⟨p.snapshotGeneration + 1, p.receiveSequence⟩
      some
        ({ p with
           snapshotGeneration := p.snapshotGeneration + 1
           pendingSnapshotCut := some cut
           buffer := p.buffer.dropWhile fun e => e.sequence ≤ cut.sequence }, cut)

def apply (p : AlarmProjection) (e : BufferedAlarmEvent) : AlarmProjection :=
  match e.alarm with
  | none => { p with active := p.active.erase e.alarmId }
  | some alarm =>
      if e.alarmId ∈ p.active.keys ∨ p.active.entries.length < maxActiveAlarms then
        { p with active := p.active.set e.alarmId alarm }
      else { p with complete := false }

/-- The oldest event makes room when the buffer is full. -/
def makeRoom (p : AlarmProjection) : AlarmProjection :=
  if p.buffer.length < maxAlarmEvents then p
  else
    match p.buffer with
    | [] => p
    | lost :: rest =>
        let p := { p with buffer := rest }
        match p.pendingSnapshotCut with
        | some cut => if cut.sequence < lost.sequence then p.markUncertain lost.sequence else p
        | none => p

/-- A readable event is buffered, and applied while the projection is complete. -/
def receive (p : AlarmProjection) (parsed : BufferedAlarmEvent) : AlarmProjection :=
  let p := p.makeRoom
  let p := { p with buffer := p.buffer ++ [parsed] }
  if p.complete then p.apply parsed else p

/-- Every frame takes the next number. -/
def counted (p : AlarmProjection) : AlarmProjection :=
  { p with receiveSequence := p.receiveSequence + 1 }

def bufferEvent (iso : String → Option Float) (now : Float) (event : Fields)
    (p : AlarmProjection) : AlarmProjection :=
  match readFrame iso now event with
  | .ignored => p.counted
  | .unreadable => p.counted.markUncertain p.counted.receiveSequence
  | .event alarmId alarm => p.counted.receive ⟨p.counted.receiveSequence, alarmId, alarm⟩

/-- A mark is newer than a cut. -/
def uncertainAfter (p : AlarmProjection) (sequence : ℕ) : Bool :=
  p.uncertainMax.any fun m => sequence < m

def refuseSnapshot (p : AlarmProjection) (cut : AlarmSnapshotCut) : AlarmProjection :=
  { p with
    complete := false
    pendingSnapshotCut :=
      if some cut = p.pendingSnapshotCut then none else p.pendingSnapshotCut }

/-- The reply replaces the alarms; the events received since the cut are replayed. -/
def acceptSnapshot (p : AlarmProjection) (replacement : Dict String PeriodicInputAlarm)
    (capturedAt : Float) (cut : AlarmSnapshotCut) : AlarmProjection :=
  let p := { p with
    active := replacement
    capturedAt := capturedAt
    complete := !p.uncertainAfter cut.sequence }
  let newer := p.buffer.filter fun e => cut.sequence < e.sequence
  let p := newer.foldl apply p
  let settled := p.uncertainMax.any fun m => m ≤ cut.sequence
  { p with
    buffer := newer
    uncertainMin := if settled then none else p.uncertainMin
    uncertainMax := if settled then none else p.uncertainMax
    pendingSnapshotCut := none }

def installSnapshot (p : AlarmProjection) (reply : Fields) (capturedAt : Float)
    (cut : AlarmSnapshotCut) : AlarmProjection :=
  if capturedAt.isFinite ∧ cut.sequence ≤ p.receiveSequence ∧ some cut = p.pendingSnapshotCut then
    match readSnapshot reply with
    | some replacement => p.acceptSnapshot replacement capturedAt cut
    | none => p.refuseSnapshot cut
  else p.refuseSnapshot cut

/-- The snapshot is from the future or too old. -/
def stale (p : AlarmProjection) (now : Float) : Bool :=
  now + maxFutureSkewS < p.capturedAt || maxAlarmSnapshotAgeS < now - p.capturedAt

/-- `freeze`: the alarms by their ids and whether they are complete; `none` when it raises. -/
def freeze (p : AlarmProjection) (now : Float) :
    Option (AlarmProjection × List PeriodicInputAlarm × Bool) :=
  if now.isFinite then
    let p := if p.stale now then { p with complete := false } else p
    some (p, (p.active.entries.insertionSort fun a b => a.1 ≤ b.1).map Prod.snd, p.complete)
  else none

def clear (p : AlarmProjection) : AlarmProjection :=
  { snapshotGeneration := p.snapshotGeneration }

end AlarmProjection

theorem readText_some {raw t : String} {a b : ℕ} (h : readText (some (.str raw)) a b = some t) :
    t = raw := by
  simp only [readText] at h
  split at h
  · exact (Option.some.inj h).symm
  · cases h

theorem readAlarm_alarmId {alarmId : String} {payload : Fields} {a : PeriodicInputAlarm}
    (h : readAlarm alarmId payload = some a) : a.alarmId = alarmId := by
  simp only [readAlarm, bind, Option.bind_eq_some_iff] at h
  obtain ⟨channels, -, acknowledged, -, level, -, h⟩ := h
  split at h
  · cases h
  · simp only [Option.bind_eq_some_iff] at h
    obtain ⟨ack, -, name, hname, message, -, triggeredAt, -, h⟩ := h
    rw [← Option.some.inj h]
    exact readText_some hname

theorem readEvent_alarm {iso : String → Option Float} {now : Float} {fired : Bool}
    {event : Fields} {alarmId : String} {a : PeriodicInputAlarm}
    (h : readEvent iso now fired event = some (alarmId, some a)) : a.alarmId = alarmId := by
  simp only [readEvent, bind, Option.bind_eq_some_iff] at h
  obtain ⟨timestamp, -, h⟩ := h
  split at h
  · cases h
  · simp only [Option.bind_eq_some_iff] at h
    obtain ⟨payload, -, name, -, h⟩ := h
    split at h
    · simp only [Option.bind_eq_some_iff] at h
      obtain ⟨alarm, halarm, h⟩ := h
      cases h
      exact readAlarm_alarmId halarm
    · cases h

theorem readFrame_alarm {iso : String → Option Float} {now : Float} {event : Fields}
    {alarmId : String} {a : PeriodicInputAlarm}
    (h : readFrame iso now event = .event alarmId (some a)) : a.alarmId = alarmId := by
  simp only [readFrame] at h
  split at h
  · cases h
  · split at h
    · split at h
      · rename_i hread
        cases h
        exact readEvent_alarm hread
      · cases h
    · cases h

def Keyed (active : Dict String PeriodicInputAlarm) : Prop :=
  ∀ k a, active.get? k = some a → a.alarmId = k

theorem Keyed.empty : Keyed .empty := by
  intro k a h
  rw [Dict.get?_empty] at h
  cases h

theorem Keyed.set {active : Dict String PeriodicInputAlarm} {alarmId : String}
    {a : PeriodicInputAlarm} (h : Keyed active) (ha : a.alarmId = alarmId) :
    Keyed (active.set alarmId a) := by
  intro k b hb
  rw [Dict.get?_set] at hb
  split at hb
  · rename_i hk
    rw [← Option.some.inj hb, ha]
    exact hk.symm
  · exact h k b hb

theorem Keyed.erase {active : Dict String PeriodicInputAlarm} (alarmId : String)
    (h : Keyed active) : Keyed (active.erase alarmId) := by
  intro k b hb
  rw [Dict.get?_erase] at hb
  split at hb
  · cases hb
  · exact h k b hb

theorem readActive_keyed {active : Fields} {d : Dict String PeriodicInputAlarm}
    (h : readActive active = some d) : Keyed d := by
  suffices hfold : ∀ (l : Fields) (e : Dict String PeriodicInputAlarm), Keyed e →
      l.foldlM readEntry e = some d → Keyed d from
    hfold active .empty Keyed.empty h
  intro l
  induction l with
  | nil =>
      intro e he h
      cases h
      exact he
  | cons p rest ih =>
      intro e he h
      simp only [List.foldlM_cons, bind, Option.bind_eq_some_iff] at h
      obtain ⟨e', hentry, h⟩ := h
      simp only [readEntry, bind, Option.bind_eq_some_iff] at hentry
      obtain ⟨alarmId, -, payload, -, alarm, halarm, hentry⟩ := hentry
      cases hentry
      exact ih _ (he.set (readAlarm_alarmId halarm)) h

theorem readSnapshot_keyed {reply : Fields} {d : Dict String PeriodicInputAlarm}
    (h : readSnapshot reply = some d) : Keyed d := by
  simp only [readSnapshot, bind, Option.bind_eq_some_iff] at h
  obtain ⟨ok, -, h⟩ := h
  split at h
  · cases h
  · simp only [Option.bind_eq_some_iff] at h
    obtain ⟨active, -, h⟩ := h
    split at h
    · cases h
    · exact readActive_keyed h

/-! ## Events over the projected alarms -/

/-- What an event says of an alarm: its level, or `none` when it clears. -/
abbrev Notice := String × Option String

def levels (active : Dict String PeriodicInputAlarm) : String → Option String :=
  fun k => (active.get? k).map PeriodicInputAlarm.level

def BufferedAlarmEvent.notice (e : BufferedAlarmEvent) : Notice :=
  (e.alarmId, e.alarm.map PeriodicInputAlarm.level)

/-- A fired event carries the alarm of its id. -/
def BufferedAlarmEvent.Named (e : BufferedAlarmEvent) : Prop :=
  ∀ a, e.alarm = some a → a.alarmId = e.alarmId

namespace AlarmProjection

variable {p : AlarmProjection} {e : BufferedAlarmEvent}

theorem apply_eq (p : AlarmProjection) (e : BufferedAlarmEvent) :
    ∃ active complete, p.apply e = { p with active := active, complete := complete } := by
  unfold apply
  split
  · exact ⟨_, _, rfl⟩
  · split
    · exact ⟨_, _, rfl⟩
    · exact ⟨_, _, rfl⟩

theorem complete_of_apply (h : (p.apply e).complete = true) : p.complete = true := by
  unfold apply at h
  split at h
  · exact h
  · split at h
    · exact h
    · cases h

theorem levels_apply (h : (p.apply e).complete = true) :
    levels (p.apply e).active = overwrite (levels p.active) e.notice := by
  unfold apply at h ⊢
  cases halarm : e.alarm with
  | none =>
      funext k
      simp only [levels, overwrite, BufferedAlarmEvent.notice, halarm, Dict.get?_erase]
      split <;> rfl
  | some alarm =>
      simp only [halarm] at h ⊢
      split at h
      · rename_i hroom
        rw [if_pos hroom]
        funext k
        simp only [levels, overwrite, BufferedAlarmEvent.notice, halarm, Dict.get?_set]
        split <;> rfl
      · cases h

theorem get?_apply_of_ne {k : String} (h : k ≠ e.alarmId) :
    (p.apply e).active.get? k = p.active.get? k := by
  unfold apply
  split
  · rw [Dict.get?_erase, if_neg h]
  · split
    · rw [Dict.get?_set_of_ne _ _ h]
    · rfl

theorem keyed_apply (hp : Keyed p.active) (he : e.Named) : Keyed (p.apply e).active := by
  unfold apply
  split
  · exact hp.erase _
  · rename_i alarm halarm
    split
    · exact hp.set (he alarm halarm)
    · exact hp

theorem replay_eq (l : List BufferedAlarmEvent) (p : AlarmProjection) :
    ∃ active complete, l.foldl apply p = { p with active := active, complete := complete } := by
  induction l generalizing p with
  | nil => exact ⟨_, _, rfl⟩
  | cons e rest ih =>
      obtain ⟨active, complete, hstep⟩ := p.apply_eq e
      obtain ⟨active', complete', hrest⟩ := ih (p.apply e)
      refine ⟨active', complete', ?_⟩
      rw [List.foldl_cons, hrest, hstep]

theorem complete_of_replay {l : List BufferedAlarmEvent} :
    ∀ {p : AlarmProjection}, (l.foldl apply p).complete = true → p.complete = true := by
  induction l with
  | nil => exact fun h => h
  | cons e rest ih => exact fun h => complete_of_apply (ih h)

theorem levels_replay {l : List BufferedAlarmEvent} :
    ∀ {p : AlarmProjection}, (l.foldl apply p).complete = true →
      levels (l.foldl apply p).active =
        overlay (levels p.active) (l.map BufferedAlarmEvent.notice) := by
  induction l with
  | nil => exact fun _ => rfl
  | cons e rest ih =>
      intro p h
      rw [List.foldl_cons, ih h, levels_apply (complete_of_replay h)]
      rfl

theorem get?_replay_of_not_mem {l : List BufferedAlarmEvent} {k : String} :
    ∀ {p : AlarmProjection}, k ∉ (l.map BufferedAlarmEvent.notice).map Prod.fst →
      (l.foldl apply p).active.get? k = p.active.get? k := by
  induction l with
  | nil => exact fun _ => rfl
  | cons e rest ih =>
      intro p h
      rw [List.map_cons, List.map_cons, List.mem_cons, not_or] at h
      rw [List.foldl_cons, ih h.2, get?_apply_of_ne h.1]

theorem keyed_replay {l : List BufferedAlarmEvent} (hl : ∀ e ∈ l, e.Named) :
    ∀ {p : AlarmProjection}, Keyed p.active → Keyed (l.foldl apply p).active := by
  induction l with
  | nil => exact fun hp => hp
  | cons e rest ih =>
      intro p hp
      exact ih (fun e' he' => hl e' (List.mem_cons_of_mem _ he'))
        (keyed_apply hp (hl e List.mem_cons_self))

section Marks

variable {n m : ℕ}

/-! ## Marks and the buffer -/

theorem uncertainAfter_markUncertain (p : AlarmProjection) (h : n < m) :
    (p.markUncertain m).uncertainAfter n = true := by
  unfold markUncertain uncertainAfter
  cases p.uncertainMax with
  | none => simpa using h
  | some k =>
      simp only [Option.elim, Option.any_some, decide_eq_true_eq]
      exact lt_of_lt_of_le h (le_max_left _ _)

theorem uncertainAfter_markUncertain_of (h : p.uncertainAfter n = true) :
    (p.markUncertain m).uncertainAfter n = true := by
  unfold markUncertain
  unfold uncertainAfter at h ⊢
  cases hmax : p.uncertainMax with
  | none =>
      rw [hmax] at h
      cases h
  | some k =>
      rw [hmax, Option.any_some, decide_eq_true_eq] at h
      simp only [Option.elim, Option.any_some, decide_eq_true_eq]
      exact lt_of_lt_of_le h (le_max_right _ _)

/-- Making room keeps the buffer, or drops its oldest event and marks it when a
request is older. -/
theorem makeRoom_cases (p : AlarmProjection) :
    p.makeRoom = p ∨
      ∃ lost rest, p.buffer = lost :: rest ∧
        ((p.makeRoom = { p with buffer := rest } ∧
            ∀ cut, p.pendingSnapshotCut = some cut → lost.sequence ≤ cut.sequence) ∨
          p.makeRoom = markUncertain { p with buffer := rest } lost.sequence) := by
  unfold makeRoom
  split
  · exact .inl rfl
  · split
    · exact .inl rfl
    · rename_i lost rest hbuffer
      refine .inr ⟨lost, rest, hbuffer, ?_⟩
      cases hcut : p.pendingSnapshotCut with
      | none =>
          refine .inl ⟨rfl, ?_⟩
          intro cut h
          cases h
      | some cut =>
          by_cases hlost : cut.sequence < lost.sequence
          · exact .inr (if_pos hlost)
          · refine .inl ⟨if_neg hlost, ?_⟩
            intro cut' h
            rw [← Option.some.inj h]
            exact Nat.le_of_not_lt hlost

@[simp] theorem makeRoom_active (p : AlarmProjection) : p.makeRoom.active = p.active := by
  rcases p.makeRoom_cases with h | ⟨lost, rest, -, ⟨h, -⟩ | h⟩
  all_goals rw [h]
  rfl

@[simp] theorem makeRoom_receiveSequence (p : AlarmProjection) :
    p.makeRoom.receiveSequence = p.receiveSequence := by
  rcases p.makeRoom_cases with h | ⟨lost, rest, -, ⟨h, -⟩ | h⟩
  all_goals rw [h]
  rfl

@[simp] theorem makeRoom_pendingSnapshotCut (p : AlarmProjection) :
    p.makeRoom.pendingSnapshotCut = p.pendingSnapshotCut := by
  rcases p.makeRoom_cases with h | ⟨lost, rest, -, ⟨h, -⟩ | h⟩
  all_goals rw [h]
  rfl

theorem complete_of_makeRoom (h : p.makeRoom.complete = true) : p.complete = true := by
  rcases p.makeRoom_cases with hp | ⟨lost, rest, -, ⟨hp, -⟩ | hp⟩
  · rwa [hp] at h
  · rwa [hp] at h
  · rw [hp] at h
    cases h

theorem mem_makeRoom (h : e ∈ p.makeRoom.buffer) : e ∈ p.buffer := by
  rcases p.makeRoom_cases with hp | ⟨lost, rest, hbuffer, ⟨hp, -⟩ | hp⟩
  · rwa [hp] at h
  all_goals
    rw [hp] at h
    rw [hbuffer]
    exact List.mem_cons_of_mem _ h

theorem uncertainAfter_makeRoom (h : p.uncertainAfter n = true) :
    p.makeRoom.uncertainAfter n = true := by
  rcases p.makeRoom_cases with hp | ⟨lost, rest, -, ⟨hp, -⟩ | hp⟩
  · rwa [hp]
  · rwa [hp]
  · rw [hp]
    exact uncertainAfter_markUncertain_of h

theorem makeRoom_buffer {cut : AlarmSnapshotCut} (hcut : p.pendingSnapshotCut = some cut)
    (hnewer : ∀ e ∈ p.buffer, cut.sequence < e.sequence) :
    p.makeRoom.uncertainAfter cut.sequence = true ∨ p.makeRoom.buffer = p.buffer := by
  rcases p.makeRoom_cases with hp | ⟨lost, rest, hbuffer, hp⟩
  · exact .inr (congrArg buffer hp)
  · have hlost : cut.sequence < lost.sequence := hnewer lost (hbuffer ▸ List.mem_cons_self)
    rcases hp with ⟨-, hold⟩ | hp
    · exact absurd (hold cut hcut) (Nat.not_le_of_lt hlost)
    · rw [hp]
      exact .inl (uncertainAfter_markUncertain _ hlost)

end Marks

/-! ## Receiving an event -/

/-- Receiving an event only changes the alarms and the completeness once there is room. -/
theorem receive_eq (p : AlarmProjection) (e : BufferedAlarmEvent) :
    ∃ active complete, p.receive e = { p.makeRoom with
      buffer := p.makeRoom.buffer ++ [e], active := active, complete := complete } := by
  simp only [receive]
  split
  · exact apply_eq _ _
  · exact ⟨_, _, rfl⟩

@[simp] theorem receive_buffer (p : AlarmProjection) (e : BufferedAlarmEvent) :
    (p.receive e).buffer = p.makeRoom.buffer ++ [e] := by
  obtain ⟨active, complete, h⟩ := p.receive_eq e
  rw [h]

@[simp] theorem receive_receiveSequence (p : AlarmProjection) (e : BufferedAlarmEvent) :
    (p.receive e).receiveSequence = p.receiveSequence := by
  obtain ⟨active, complete, h⟩ := p.receive_eq e
  rw [h]
  exact p.makeRoom_receiveSequence

@[simp] theorem receive_pendingSnapshotCut (p : AlarmProjection) (e : BufferedAlarmEvent) :
    (p.receive e).pendingSnapshotCut = p.pendingSnapshotCut := by
  obtain ⟨active, complete, h⟩ := p.receive_eq e
  rw [h]
  exact p.makeRoom_pendingSnapshotCut

@[simp] theorem uncertainAfter_receive (p : AlarmProjection) (e : BufferedAlarmEvent) (n : ℕ) :
    (p.receive e).uncertainAfter n = p.makeRoom.uncertainAfter n := by
  obtain ⟨active, complete, h⟩ := p.receive_eq e
  rw [h]
  rfl

theorem keyed_receive (hp : Keyed p.active) (he : e.Named) : Keyed (p.receive e).active := by
  simp only [receive]
  split
  · refine keyed_apply ?_ he
    exact p.makeRoom_active ▸ hp
  · exact p.makeRoom_active ▸ hp

theorem complete_of_receive (h : (p.receive e).complete = true) : p.complete = true := by
  simp only [receive] at h
  split at h
  · rename_i hc
    exact complete_of_makeRoom hc
  · exact complete_of_makeRoom h

theorem levels_receive (h : (p.receive e).complete = true) :
    levels (p.receive e).active = overwrite (levels p.active) e.notice := by
  simp only [receive] at h ⊢
  split at h
  · rename_i hc
    rw [if_pos hc, levels_apply h]
    exact congrArg (fun d => overwrite (levels d) e.notice) p.makeRoom_active
  · rename_i hc
    exact absurd h hc

theorem get?_receive_of_ne {k : String} (h : k ≠ e.alarmId) :
    (p.receive e).active.get? k = p.active.get? k := by
  simp only [receive]
  split
  · rw [get?_apply_of_ne h]
    exact congrArg (Dict.get? · k) p.makeRoom_active
  · exact congrArg (Dict.get? · k) p.makeRoom_active

end AlarmProjection

end Periodic
end CryoDaq
