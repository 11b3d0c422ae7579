import CryoDaq.Python.Time

/-!
# The publisher of the periodic stream

`ZMQPublisher` sends readings, events and barrier markers with one sequence over a
PUB socket, one at a time under a lock; operator snapshots take the lock but no
number.  A barrier waits until the queue is joined and answers with the marker that
it sent.

**Tasks.**  A task waits for the queue, waits for the lock or sends; whichever wait
ends first is open.  Only the loop takes readings, one at a time.

**Life.**  The publisher was started once; the frames of a later start are those of
another session.

**Ghosts.**  `sent`, `settled`, `journal` and `answered` record what was done.
-/

namespace CryoDaq
namespace Stream

def periodicMaxSequence : ℕ := 9223372036854775807

/-- What a marker says, and the answer to the barrier that sent it. -/
structure Evidence where
  sessionId : String
  sequence : ℕ
  publishedAt : Timestamp
  readingDropCount : ℕ
  publishFailureCount : ℕ
  alarmStateRevision : ℕ
  alarmStateToken : String
deriving DecidableEq

inductive Body (α : Type)
  | reading (value : α) (authoritative : Bool)
  | event (value : α)
deriving DecidableEq

/-- A multipart frame; `foreign` is on a topic outside the participating ones, `malformed` on one
of them. -/
inductive Frame (α : Type)
  | foreign
  | malformed
  | data (sessionId : String) (sequence : ℕ) (body : Body α)
  | marker (nonce : String) (evidence : Evidence)
deriving DecidableEq

namespace Frame

variable {α : Type}

def session : Frame α → Option String
  | foreign => none
  | malformed => none
  | data sessionId _ _ => some sessionId
  | marker _ evidence => some evidence.sessionId

def sequence : Frame α → ℕ
  | foreign => 0
  | malformed => 0
  | data _ sequence _ => sequence
  | marker _ evidence => evidence.sequence

end Frame

/-- What a task wants to send; a barrier knows how many items were taken when it was called. -/
inductive Work (α : Type)
  | reading (value : α) (authoritative : Bool)
  | event (value : α)
  | snapshot
  | barrier (nonce : String) (before : ℕ)

structure Sender (α : Type) where
  task : ℕ
  work : Work α

/-- The task that sends, with its sequenced frame. -/
structure Sending (α : Type) where
  task : ℕ
  work : Work α
  frame : Option (Frame α)

/-- A barrier that waits for the queue. -/
structure Joining where
  task : ℕ
  nonce : String
  before : ℕ
deriving DecidableEq

/-- How the loop settled an item. -/
inductive Outcome
  | sent (sequence : ℕ)
  | failed (count : ℕ)
  | exhausted
  | withdrawn
deriving DecidableEq

/-- An item that the loop has done. -/
structure Settled (α : Type) where
  value : α
  authoritative : Bool
  outcome : Outcome
deriving DecidableEq

inductive Event
  | dropped
  | failed
  | sampled (evidence : Evidence)
deriving DecidableEq

/-- A barrier that was answered, and the alarm state then. -/
structure Answered where
  evidence : Evidence
  before : ℕ
  alarm : ℕ × String
deriving DecidableEq

/-- `ZMQPublisher` after `start`, with what its samplers answer. -/
structure Publisher (α : Type) where
  sessionId : String
  sequence : ℕ := 0
  publishFailureCount : ℕ := 0
  totalSent : ℕ := 0
  readingDropCount : ℕ := 0
  alarmStateRevision : ℕ := 0
  alarmStateToken : String
  queue : List (α × Bool) := []
  busy : Bool := false
  joining : List Joining := []
  waiting : List (Sender α) := []
  sending : Option (Sending α) := none
  tasks : ℕ := 0
  replies : List (ℕ × Option Evidence) := []
  sent : List (Frame α) := []
  settled : List (Settled α) := []
  journal : List Event := []
  answered : List Answered := []

namespace Publisher

variable {α : Type} (p : Publisher α)

/-! ## The engine around it -/

def put (value : α) (authoritative : Bool) : Publisher α :=
  { p with queue := p.queue ++ [(value, authoritative)] }

def dropReading : Publisher α :=
  { p with readingDropCount := p.readingDropCount + 1, journal := p.journal ++ [.dropped] }

def alarmChanged (token : String) : Publisher α :=
  { p with alarmStateRevision := p.alarmStateRevision + 1, alarmStateToken := token }

def await (work : Work α) : Publisher α :=
  { p with waiting := p.waiting ++ [⟨p.tasks, work⟩], tasks := p.tasks + 1 }

def taken : ℕ := p.settled.length + p.busy.toNat

/-- `barrier`, until it waits for the queue. -/
def callBarrier (nonce : String) : Publisher α :=
  { p with joining := p.joining ++ [⟨p.tasks, nonce, p.taken⟩], tasks := p.tasks + 1 }

/-- The loop is done with an item. -/
def settle (value : α) (authoritative : Bool) (outcome : Outcome) : Publisher α :=
  { p with busy := false, settled := p.settled ++ [⟨value, authoritative, outcome⟩] }

/-- The loop takes the next item; a publication that cannot be claimed is done at once. -/
def take (claimed : Bool) : Publisher α :=
  match p.queue, p.busy with
  | (value, authoritative) :: rest, false =>
      let q : Publisher α := { p with queue := rest }
      if claimed then { q with busy := true : Publisher α }.await (.reading value authoritative)
      else q.settle value authoritative .withdrawn
  | _, _ => p

def answer (task : ℕ) (evidence : Option Evidence) : Publisher α :=
  { p with replies := p.replies ++ [(task, evidence)] }

/-- `queue.join` returns to a barrier. -/
def joined (i : ℕ) : Publisher α :=
  match p.queue, p.busy, p.joining[i]? with
  | [], false, some j =>
      { p with
        joining := p.joining.eraseIdx i
        waiting := p.waiting ++ [⟨j.task, .barrier j.nonce j.before⟩] }
  | _, _, _ => p

/-- A barrier that waits for the queue runs out of time. -/
def leave (i : ℕ) : Publisher α :=
  match p.joining[i]? with
  | some j => { p with joining := p.joining.eraseIdx i : Publisher α }.answer j.task none
  | none => p

def fail : Publisher α :=
  { p with publishFailureCount := p.publishFailureCount + 1, journal := p.journal ++ [.failed] }

/-- `_publisher_alive` -/
def alive : Bool := decide (p.sequence < periodicMaxSequence)

/-- `_allocate_sequence`, then the frame is sent. -/
def allocate (s : Sender α) (frame : ℕ → Frame α) : Publisher α :=
  { p with
    sequence := p.sequence + 1
    sending := some ⟨s.task, s.work, some (frame (p.sequence + 1))⟩ }

def sample (publishedAt : Timestamp) (sequence : ℕ) : Evidence where
  sessionId := p.sessionId
  sequence := sequence
  publishedAt := publishedAt
  readingDropCount := p.readingDropCount
  publishFailureCount := p.publishFailureCount
  alarmStateRevision := p.alarmStateRevision
  alarmStateToken := p.alarmStateToken

/-- A task takes the lock and sends. -/
def begin (s : Sender α) (now : Timestamp) : Publisher α :=
  match s.work with
  | .reading value authoritative =>
      if p.alive then p.allocate s fun n => .data p.sessionId n (.reading value authoritative)
      else p.settle value authoritative .exhausted
  | .event value =>
      if p.alive then p.allocate s fun n => .data p.sessionId n (.event value) else p
  | .snapshot => { p with sending := some ⟨s.task, s.work, none⟩ }
  | .barrier nonce _ =>
      if p.alive then
        { p with
          journal := p.journal ++
            [.sampled (p.sample now (p.sequence + 1))] : Publisher α }.allocate s fun n =>
              .marker nonce (p.sample now n)
      else p.answer s.task none

/-- A waiting task gets the lock. -/
def enter (i : ℕ) (now : Timestamp) : Publisher α :=
  match p.sending, p.waiting[i]? with
  | none, some s => { p with waiting := p.waiting.eraseIdx i : Publisher α }.begin s now
  | _, _ => p

/-- The end of a barrier whose marker was sent. -/
def conclude (task before : ℕ) (evidence : Evidence) : Publisher α :=
  if p.alive = true ∧ p.alarmStateRevision = evidence.alarmStateRevision ∧
      p.readingDropCount = evidence.readingDropCount then
    { p with
      answered := p.answered ++
        [⟨evidence, before, (p.alarmStateRevision, p.alarmStateToken)⟩] : Publisher α }.answer task
          (some evidence)
  else p.answer task none

def finish (s : Sending α) : Publisher α :=
  match s.work, s.frame with
  | .reading value authoritative, some frame => p.settle value authoritative (.sent frame.sequence)
  | .barrier _ before, some (.marker _ evidence) => p.conclude s.task before evidence
  | _, _ => p

def succeed : Publisher α :=
  match p.sending with
  | some s =>
      { p with
        sending := none
        totalSent := p.totalSent + 1
        sent := p.sent ++ s.frame.toList : Publisher α }.finish s
  | none => p

/-- The send under way fails, or its frame cannot be encoded. -/
def giveUp : Publisher α :=
  match p.sending with
  | some s =>
      let q : Publisher α := { p with sending := none : Publisher α }.fail
      match s.work with
      | .reading value authoritative => q.settle value authoritative (.failed q.publishFailureCount)
      | .barrier _ _ => q.answer s.task none
      | _ => q
  | none => p

/-- A task that waits for the lock is cancelled; the loop is not. -/
def cancel (i : ℕ) : Publisher α :=
  match p.waiting[i]? with
  | some s =>
      let q : Publisher α := { p with waiting := p.waiting.eraseIdx i }
      match s.work with
      | .reading _ _ => p
      | .event _ => q
      | .snapshot => q.fail
      | .barrier _ _ => q.answer s.task none
  | none => p

end Publisher

end Stream
end CryoDaq
