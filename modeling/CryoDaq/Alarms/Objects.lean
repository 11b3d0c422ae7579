import CryoDaq.Alarms.Identity
import CryoDaq.Python.Heap

/-!
# The alarm manager over mutable events

Events, their channel lists and their value dictionaries are mutable objects.
The evaluator and every other caller hold references of their own and may
change what they refer to at any moment; the manager stores copies and returns
copies.

**Refinement.**  `view` reads every active event through its reference.  An
operation on the objects does to the view what the operation of
`AlarmStateManager` does, and nothing that happens outside changes the view.
-/

namespace CryoDaq
namespace Alarms

/-- An event as an object: its containers are references. -/
abbrev EventObject := AlarmEvent Address Address

def AlarmEvent.withContainers {c v c' v' : Type} (e : AlarmEvent c v)
    (channels : c') (values : v') : AlarmEvent c' v' where
  alarmId := e.alarmId
  level := e.level
  message := e.message
  triggeredAt := e.triggeredAt
  channels := channels
  values := values
  acknowledged := e.acknowledged
  acknowledgedAt := e.acknowledgedAt
  acknowledgedBy := e.acknowledgedBy
  acknowledgedReason := e.acknowledgedReason
  acknowledgementRequestId := e.acknowledgementRequestId
  activationId := e.activationId
  evaluatorError := e.evaluatorError

/-- The mutable objects around the manager. -/
structure Memory where
  events : Heap EventObject
  lists : Heap (List String)
  dicts : Heap (Dict String Float)

namespace Memory

def empty : Memory where
  events := ⟨fun _ => ⟨"", "", "", 0.0, 0, 0, false, 0.0, "", "", "", 0, false⟩, 0, []⟩
  lists := ⟨fun _ => [], 0, []⟩
  dicts := ⟨fun _ => Dict.empty, 0, []⟩

/-- The event behind a reference, by value. -/
def read (m : Memory) (a : Address) : Event :=
  (m.events.content a).withContainers (m.lists.content (m.events.content a).channels)
    (m.dicts.content (m.events.content a).values)

def create (m : Memory) (e : Event) : Memory where
  events := m.events.alloc (e.withContainers m.lists.next m.dicts.next)
  lists := m.lists.alloc e.channels
  dicts := m.dicts.alloc e.values

def createShared (m : Memory) (e : Event) : Memory where
  events := m.events.allocShared (e.withContainers m.lists.next m.dicts.next)
  lists := m.lists.allocShared e.channels
  dicts := m.dicts.allocShared e.values

/-- Only the manager holds the event and its containers. -/
structure Private (m : Memory) (a : Address) : Prop where
  event : a ∈ m.events.owned
  list : (m.events.content a).channels ∈ m.lists.owned
  dict : (m.events.content a).values ∈ m.dicts.owned

structure Sound (m : Memory) : Prop where
  events : m.events.Sound
  lists : m.lists.Sound
  dicts : m.dicts.Sound

theorem sound_empty : empty.Sound := by
  constructor <;> intro a ha <;> cases ha

structure Outside (m m' : Memory) : Prop where
  events : Heap.Outside m.events m'.events
  lists : Heap.Outside m.lists m'.lists
  dicts : Heap.Outside m.dicts m'.dicts

theorem Outside.trans {m m' m'' : Memory} (h : Outside m m')
    (h' : Outside m' m'') : Outside m m'' :=
  ⟨h.events.trans h'.events, h.lists.trans h'.lists, h.dicts.trans h'.dicts⟩

theorem Outside.sound {m m' : Memory} (h : Outside m m') (hm : m.Sound) :
    m'.Sound :=
  ⟨h.events.sound hm.events, h.lists.sound hm.lists, h.dicts.sound hm.dicts⟩

theorem Outside.private {m m' : Memory} (h : Outside m m') {a : Address}
    (ha : m.Private a) : m'.Private a where
  event := h.events.owned ▸ ha.event
  list := by
    rw [h.events.content a ha.event, h.lists.owned]
    exact ha.list
  dict := by
    rw [h.events.content a ha.event, h.dicts.owned]
    exact ha.dict

theorem Outside.read {m m' : Memory} (h : Outside m m') {a : Address}
    (ha : m.Private a) : m'.read a = m.read a := by
  unfold Memory.read
  rw [h.events.content a ha.event, h.lists.content _ ha.list,
    h.dicts.content _ ha.dict]

theorem Sound.outside_createShared {m : Memory} (hm : m.Sound) (e : Event) :
    Outside m (m.createShared e) where
  events := hm.events.outside_allocShared _
  lists := hm.lists.outside_allocShared _
  dicts := hm.dicts.outside_allocShared _

section Create

variable {m : Memory} (hm : m.Sound) (e : Event)
include hm

theorem Sound.create : (m.create e).Sound :=
  ⟨hm.events.alloc _, hm.lists.alloc _, hm.dicts.alloc _⟩

theorem content_create {a : Address} (ha : a ∈ m.events.owned) :
    (m.create e).events.content a = m.events.content a :=
  Heap.content_alloc_of_owned hm.events _ ha

theorem Private.create {a : Address} (ha : m.Private a) :
    (m.create e).Private a where
  event := List.mem_cons_of_mem _ ha.event
  list := by
    rw [content_create hm e ha.event]
    exact List.mem_cons_of_mem _ ha.list
  dict := by
    rw [content_create hm e ha.event]
    exact List.mem_cons_of_mem _ ha.dict

theorem read_create {a : Address} (ha : m.Private a) :
    (m.create e).read a = m.read a := by
  unfold Memory.read
  rw [content_create hm e ha.event]
  have hlist := Heap.content_alloc_of_owned hm.lists e.channels ha.list
  have hdict := Heap.content_alloc_of_owned hm.dicts e.values ha.dict
  simp only [Memory.create, hlist, hdict]

omit hm in
theorem private_created : (m.create e).Private m.events.next where
  event := List.mem_cons_self
  list := by simp [Memory.create, AlarmEvent.withContainers]
  dict := by simp [Memory.create, AlarmEvent.withContainers]

omit hm in
theorem read_created : (m.create e).read m.events.next = e := by
  simp [Memory.read, Memory.create, AlarmEvent.withContainers]

end Create

/-- An event object changed in place, its containers kept. -/
def update (m : Memory) (a : Address) (o : EventObject) : Memory :=
  { m with events := m.events.write a o }

section Update

variable {m : Memory} {a : Address} {o : EventObject}

theorem Sound.update (hm : m.Sound) : (m.update a o).Sound :=
  ⟨hm.events.write a o, hm.lists, hm.dicts⟩

theorem Private.update {b : Address} (hb : m.Private b)
    (hc : o.channels = (m.events.content a).channels)
    (hv : o.values = (m.events.content a).values) : (m.update a o).Private b := by
  by_cases h : b = a
  · subst h
    refine ⟨hb.event, ?_, ?_⟩
    · simpa [Memory.update, hc] using hb.list
    · simpa [Memory.update, hv] using hb.dict
  · refine ⟨hb.event, ?_, ?_⟩
    · simpa [Memory.update, Heap.content_write_of_ne _ _ h] using hb.list
    · simpa [Memory.update, Heap.content_write_of_ne _ _ h] using hb.dict

theorem read_update_of_ne {b : Address} (h : b ≠ a) :
    (m.update a o).read b = m.read b := by
  simp [Memory.read, Memory.update, Heap.content_write_of_ne _ _ h]

theorem read_update_self :
    (m.update a o).read a =
      o.withContainers (m.lists.content o.channels) (m.dicts.content o.values) := by
  simp [Memory.read, Memory.update]

end Update

end Memory

structure AlarmObjects where
  memory : Memory
  active : Dict String Address
  sustainedSince : Dict String Float
  stateRevision : ℕ
  activationSequence : ℕ
  history : List HistoryEntry

namespace AlarmObjects

/-- A new manager, whatever objects exist already. -/
def new (memory : Memory) : AlarmObjects where
  memory := memory
  active := Dict.empty
  sustainedSince := Dict.empty
  stateRevision := 0
  activationSequence := 0
  history := []

def view (s : AlarmObjects) : AlarmStateManager where
  active := s.active.mapValues fun _ a => s.memory.read a
  sustainedSince := s.sustainedSince
  stateRevision := s.stateRevision
  activationSequence := s.activationSequence
  history := s.history

def record (s : AlarmObjects) (e : HistoryEntry) : AlarmObjects :=
  { s with history := appendHistory s.history e }

/-- A stored event changed in place, with `_mark_active_mutation`. -/
def amend (s : AlarmObjects) (a : Address) (o : EventObject) : AlarmObjects :=
  { s with memory := s.memory.update a o, stateRevision := s.stateRevision + 1 }

/-- The error mark of an active event, set or removed. -/
def markError (s : AlarmObjects) (alarmId : String) (error : Bool) : AlarmObjects :=
  match s.active.get? alarmId with
  | none => s
  | some a =>
      let held := s.memory.events.content a
      if held.evaluatorError = error then s
      else s.amend a { held with evaluatorError := error }

/-- A new private event stored under the next activation id. -/
def activate (s : AlarmObjects) (alarmId : String) (event : Event) : AlarmObjects :=
  let stored := { event with activationId := s.activationSequence + 1 }
  { s with
    memory := s.memory.create stored
    active := s.active.set alarmId s.memory.events.next
    activationSequence := s.activationSequence + 1
    stateRevision := s.stateRevision + 1 }.record
      { alarmId, transition := "TRIGGERED", at_ := stored.triggeredAt,
        level := stored.level, message := some stored.message }

def deactivate (s : AlarmObjects) (alarmId level : String) (now : Float) :
    AlarmObjects :=
  { s with
    active := s.active.erase alarmId
    stateRevision := s.stateRevision + 1 }.record
      { alarmId, transition := "CLEARED", at_ := now, level }

/-- The part of `process` for an alarm whose condition holds: the caller's event
is copied. -/
def raise (s : AlarmObjects) (alarmId : String) (event : Address)
    (config : ProcessConfig) (clock : Clock) :
    AlarmObjects × Except PyError (Option AlarmTransition) :=
  match config.sustainedS with
  | none =>
      let s := { s with sustainedSince := s.sustainedSince.erase alarmId }
      (s.activate alarmId (s.memory.read event), .ok (some .triggered))
  | some limit =>
      let held := sustained s.sustainedSince alarmId limit clock
      let s := { s with sustainedSince := held.1 }
      match held.2 with
      | .error e => (s, .error e)
      | .ok false => (s, .ok none)
      | .ok true =>
          (s.activate alarmId (s.memory.read event), .ok (some .triggered))

/-- The part of `process` for an alarm whose condition does not hold. -/
def settle (s : AlarmObjects) (alarmId : String) (clock : Clock) :
    AlarmObjects × Option AlarmTransition :=
  let s := { s with sustainedSince := s.sustainedSince.erase alarmId }
  match s.active.get? alarmId with
  | none => (s, none)
  | some a =>
      (s.deactivate alarmId (s.memory.events.content a).level (clock 0),
        some .cleared)

/-- `process` on the caller's event object. -/
def process (s : AlarmObjects) (alarmId : String) (event : Option Address)
    (config : ProcessConfig) (clock : Clock) :
    AlarmObjects × Except PyError (Option AlarmTransition) :=
  match event with
  | some event =>
      if (s.memory.events.content event).evaluatorError then
        (s.markError alarmId true, .ok none)
      else if (s.active.get? alarmId).isSome then
        (s.markError alarmId false, .ok none)
      else s.raise alarmId event config clock
  | none => ((s.settle alarmId clock).1, .ok (s.settle alarmId clock).2)

/-- A copy of a stored event for a caller: the state, and the reference. -/
def handOut (s : AlarmObjects) (a : Address) : AlarmObjects × Address :=
  ({ s with memory := s.memory.createShared (s.memory.read a) },
    s.memory.events.next)

def publishDiagnosticAlarm (s : AlarmObjects) (channelId : String)
    (severity : Severity) (ageSeconds : Float) (message : String) (clock : Clock) :
    AlarmObjects × Option Address :=
  let alarmId := diagnosticId channelId
  let level := severity.upper
  match s.active.get? alarmId with
  | some a =>
      let existing := s.memory.events.content a
      if level = "CRITICAL" ∧ existing.level = "WARNING" then
        let s := (s.amend a { existing with level, message }).record
          { alarmId, transition := "SEVERITY_UPGRADED", at_ := clock 0, level,
            message := some message }
        ((s.handOut a).1, some (s.handOut a).2)
      else (s, none)
  | none =>
      let stored := s.memory.events.next
      let s := s.activate alarmId
        { alarmId, level, message, triggeredAt := clock 0, channels := [channelId],
          values := Dict.ofList [(channelId, ageSeconds)] }
      ((s.handOut stored).1, some (s.handOut stored).2)

def clearDiagnosticAlarm (s : AlarmObjects) (channelId : String) (clock : Clock) :
    AlarmObjects :=
  if (s.active.get? (diagnosticId channelId)).isSome then
    s.deactivate (diagnosticId channelId) "INFO" (clock 0)
  else s

def acknowledge (s : AlarmObjects) (r : AcknowledgeRequest) (clock : Clock) :
    AlarmObjects × Except PyError (Option Acknowledgement) :=
  if r.acknowledgedAt.any (!validTime ·) ||
      r.requestId.any (!validRequestId ·) then
    (s, .error .valueError)
  else
    match s.active.get? r.alarmId with
    | none => (s, .ok none)
    | some a =>
        let event := s.memory.events.content a
        if r.expectedActivationId.any (· ≠ (event.activationId : ℤ)) then
          (s, .ok none)
        else if event.acknowledged then (s, .ok none)
        else
          let marked := acknowledgedEvent event r clock
          ((s.amend a marked).record
            { alarmId := r.alarmId, transition := "ACKNOWLEDGED",
              at_ := marked.acknowledgedAt, level := marked.level,
              operator := some r.operator, reason := some r.reason,
              requestId := r.requestId },
            .ok (some
              { alarmId := r.alarmId, acknowledgedAt := marked.acknowledgedAt,
                operator := r.operator, reason := r.reason, requestId := r.requestId }))

/-- `get_active`: a copy of every active event. -/
def copyEntries (m : Memory) : List (String × Address) →
    Memory × List (String × Address)
  | [] => (m, [])
  | p :: rest =>
      let copied := copyEntries (m.createShared (m.read p.2)) rest
      (copied.1, (p.1, m.events.next) :: copied.2)

def getActive (s : AlarmObjects) : AlarmObjects × List (String × Address) :=
  let copied := copyEntries s.memory s.active.entries
  ({ s with memory := copied.1 }, copied.2)

end AlarmObjects
end Alarms
end CryoDaq
