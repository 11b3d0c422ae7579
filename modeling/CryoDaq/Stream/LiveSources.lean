import CryoDaq.Stream.Publisher

/-!
# The subscriber of the periodic stream

`SequencedPeriodicLiveSources` receives frames, hands readings and events to its
callbacks in sequence, and fences the stream with barriers (`ready`).

**Critical sections.**  What runs under the state lock is one step, except when a
callback that fails also cancels the task that called it: that task keeps the lock
and yields once before the generation is invalidated.

**Ghosts.**  `handed` is what the callbacks were given, `accepted` the first accepted
marker, `returned` the cuts that `ready` returned, `broken` whether a sequenced frame
came that is not the next one of the accepted generation.
-/

namespace CryoDaq
namespace Stream

structure LiveSourceCut where
  generation : ℕ
  evidence : Evidence
deriving DecidableEq

def readyMaxAttempts : ℕ := 3

/-- What the subscriber is constructed with, and what it finds in a frame. -/
structure Config (α : Type) where
  generation : ℕ
  readable : ℕ → Body α → Bool
  encodedBytes : ℕ → Body α → ℕ
  maxProvisionalFrames : ℕ
  maxProvisionalBytes : ℕ

/-- What a callback does; a failure may cancel the task that called it. -/
inductive Answer
  | returns
  | fails (category : String) (cancels : Bool)
deriving DecidableEq

inductive Marker
  | pending
  | done (cut : LiveSourceCut)
  | failed
deriving DecidableEq

inductive Receiver
  | idle
  | settling (reason : String)
  | ended
deriving DecidableEq

/-- Where `ready` is. -/
inductive ReadyAt
  | idle
  | connecting (nonce : String)
  | querying (attempt : ℕ) (nonce : String) (task : Option ℕ)
  | marking (attempt : ℕ) (nonce : String) (evidence : Evidence)
  | adopting (cut : LiveSourceCut)
  | settling (reason : String)
deriving DecidableEq

/-- Whether a value goes to a callback. -/
def Body.dispatched {α : Type} : Body α → Bool
  | .reading _ authoritative => authoritative
  | .event _ => true

/-- `SequencedPeriodicLiveSources` after `start` -/
structure LiveSources (α : Type) where
  connected : Bool := false
  running : Bool := true
  invalid : Bool := false
  invalidationReason : String := "the live generation was invalidated"
  closed : Bool := false
  sessionId : Option String := none
  lastSequence : Option ℕ := none
  dropBaseline : Option ℕ := none
  failureBaseline : Option ℕ := none
  provisionalCut : Option LiveSourceCut := none
  provisionalLast : Option ℕ := none
  provisional : List (ℕ × Body α) := []
  provisionalBytes : ℕ := 0
  foreignTopicFrames : ℕ := 0
  readyNonce : Option String := none
  retiredReadyNonces : List String := []
  readyMarker : Option Marker := none
  receiver : Receiver := .idle
  ready : ReadyAt := .idle
  handed : List (ℕ × Body α) := []
  accepted : Option Evidence := none
  returned : List LiveSourceCut := []
  broken : Bool := false

namespace LiveSources

variable {α : Type} (cfg : Config α) (s : LiveSources α)

def readyActive : Bool := decide (s.ready ≠ .idle)

def invalidate (reason : String) : LiveSources α :=
  if s.invalid = true ∨ s.closed = true then s
  else
    { s with
      invalid := true
      invalidationReason := reason
      running := false
      provisional := []
      provisionalBytes := 0
      receiver := .ended
      readyMarker := if s.readyMarker = some .pending then some .failed else s.readyMarker
      connected := true }

/-- `_validate_next` -/
def validNext (session : String) (sequence : ℕ) (provisional : Bool) : Bool :=
  let expected :=
    match provisional, s.provisionalCut with
    | true, some cut => some cut.evidence.sessionId
    | _, _ => s.sessionId
  let previous := if provisional then s.provisionalLast else s.lastSequence
  decide (expected = some session) && previous.any fun p => decide (sequence = p + 1)

def stopReceiving (category : String) : LiveSources α :=
  s.invalidate ("the receive loop stopped: " ++ category)

/-- The refusal of a frame that is not the next one. -/
def gap : String := "the global stream sequence has a gap"

def handleBarrier (nonce : String) (evidence : Evidence) : LiveSources α :=
  let cut : LiveSourceCut := ⟨cfg.generation, evidence⟩
  if s.readyActive = true ∧ s.sessionId = none ∧ nonce ∈ s.retiredReadyNonces then s
  else if s.readyActive = false ∨ s.readyNonce ≠ some nonce ∨ s.readyMarker ≠ some .pending then
    s.stopReceiving "a barrier answer arrived that no request expected"
  else if s.sessionId = none then
    if s.provisionalCut ≠ none then
      s.stopReceiving "a second startup barrier arrived for one request"
    else
      { s with
        provisionalCut := some cut
        provisionalLast := some evidence.sequence
        readyMarker := some (.done cut) }
  else if s.validNext evidence.sessionId evidence.sequence false = false then
    s.stopReceiving gap
  else if some evidence.readingDropCount ≠ s.dropBaseline ∨
      some evidence.publishFailureCount ≠ s.failureBaseline then
    s.stopReceiving "the publisher's drop or failure counters changed"
  else
    { s with lastSequence := some evidence.sequence, readyMarker := some (.done cut) }

/-- A value is given to its callback. -/
def hand (sequence : ℕ) (body : Body α) : LiveSources α :=
  { s with handed := s.handed ++ [(sequence, body)] }

/-- `_handle_frame` of a reading or an event, after its frame was read. -/
def handleData (session : String) (sequence : ℕ) (body : Body α) (answer : Answer) :
    LiveSources α :=
  if s.sessionId ≠ none then
    if s.validNext session sequence false = false then s.stopReceiving gap
    else if body.dispatched then
      match answer with
      | .returns => { s.hand sequence body with lastSequence := some sequence }
      | .fails category false => (s.hand sequence body).stopReceiving category
      | .fails category true => { s.hand sequence body with receiver := .settling category }
    else { s with lastSequence := some sequence }
  else if s.provisionalCut ≠ none then
    if s.validNext session sequence true = false then s.stopReceiving gap
    else if cfg.maxProvisionalFrames ≤ s.provisional.length ∨
        cfg.maxProvisionalBytes < s.provisionalBytes + cfg.encodedBytes sequence body then
      s.stopReceiving "the provisional buffer overflowed"
    else
      { s with
        provisional := s.provisional ++ [(sequence, body)]
        provisionalBytes := s.provisionalBytes + cfg.encodedBytes sequence body
        provisionalLast := some sequence }
  else s

/-- Whether a sequenced frame is another one than the next of the accepted generation. -/
def breaks (frame : Frame α) : Bool :=
  match s.sessionId, frame.session with
  | some _, some session => !s.validNext session frame.sequence false
  | _, _ => false

def handleFrame (frame : Frame α) (answer : Answer) : LiveSources α :=
  match frame with
  | .foreign => { s with foreignTopicFrames := s.foreignTopicFrames + 1 }
  | .malformed => s.stopReceiving "a known topic's multipart frame was not exactly two parts"
  | .marker nonce evidence =>
      if s.invalid = true ∨ s.running = false then
        s.stopReceiving "a frame arrived after the source stopped"
      else s.handleBarrier cfg nonce evidence
  | .data session sequence body =>
      if s.invalid = true ∨ s.running = false then
        s.stopReceiving "a frame arrived after the source stopped"
      else if cfg.readable sequence body = false then s.stopReceiving "a frame did not validate"
      else s.handleData cfg session sequence body answer

def receive (frame : Frame α) (answer : Answer) : LiveSources α :=
  { s.handleFrame cfg frame answer with broken := s.broken || s.breaks frame }

/-- The receive loop goes on after the yield of a callback that failed. -/
def settleReceiver : LiveSources α :=
  match s.receiver with
  | .settling category => s.stopReceiving category
  | _ => s

/-- The `finally` of `ready`. -/
def leaveReady : LiveSources α :=
  { s with ready := .idle, readyNonce := none, retiredReadyNonces := [], readyMarker := none }

/-- `ready` raises. -/
def failReady (reason : String) : LiveSources α := (s.invalidate reason).leaveReady

/-- `ready` returns. -/
def returnReady (cut : LiveSourceCut) : LiveSources α :=
  { s.leaveReady with returned := s.returned ++ [cut] }

/-- The query of an attempt, once there was a connection. -/
def query (attempt : ℕ) (nonce : String) : LiveSources α :=
  if s.invalid = true ∨ s.running = false then
    s.failReady "the source stopped while waiting to connect"
  else { s with ready := .querying attempt nonce none }

def attempt (number : ℕ) (nonce : String) : LiveSources α :=
  if nonce ∈ s.retiredReadyNonces then
    s.failReady "the generated barrier nonce was already retired"
  else
    let t : LiveSources α := { s with readyNonce := some nonce, readyMarker := some .pending }
    if number = 0 then { t with ready := .connecting nonce } else t.query number nonce

/-- `ready` is called. -/
def callReady (nonce : String) : LiveSources α :=
  if s.running = false ∨ s.invalid = true ∨ s.readyActive = true then s else s.attempt 0 nonce

def awaitConnected : LiveSources α :=
  match s.ready with
  | .connecting nonce => if s.connected then s.query 0 nonce else s
  | _ => s

/-- `_retire_startup_attempt` -/
def retire (nonce : String) (requireNoEvidence : Bool) : Option (LiveSources α) :=
  if s.sessionId ≠ none ∨ s.invalid = true ∨ s.running = false ∨
      (requireNoEvidence = true ∧
        (s.readyMarker ≠ some .pending ∨ s.provisionalCut ≠ none)) then none
  else
    some
      { s with
        retiredReadyNonces := nonce :: s.retiredReadyNonces
        provisional := []
        provisionalBytes := 0
        provisionalCut := none
        provisionalLast := none
        readyNonce := none
        readyMarker := none }

def again (number : ℕ) (nonce nextNonce reason : String) (requireNoEvidence : Bool) :
    LiveSources α :=
  if number + 1 < readyMaxAttempts then
    match s.retire nonce requireNoEvidence with
    | some t => t.attempt (number + 1) nextNonce
    | none => s.failReady reason
  else s.failReady reason

def answered (reply : Option Evidence) (nextNonce : String) : LiveSources α :=
  match s.ready, reply with
  | .querying number nonce _, some evidence => { s with ready := .marking number nonce evidence }
  | .querying number nonce _, none =>
      s.again number nonce nextNonce "the engine barrier transport was unavailable" true
  | _, _ => s

/-- The query ends without an answer that can be read. -/
def unreadable : LiveSources α :=
  match s.ready with
  | .querying _ _ _ => s.failReady "the engine barrier response was invalid"
  | _ => s

def timeout (nextNonce : String) : LiveSources α :=
  let reason := "the engine barrier timed out and could not be retried"
  match s.ready with
  | .connecting _ => s.failReady reason
  | .querying _ _ _ => s.failReady reason
  | .marking number nonce _ => s.again number nonce nextNonce reason false
  | _ => s

/-- `ready` goes on after its marker. -/
def marked : LiveSources α :=
  match s.ready, s.readyMarker with
  | .marking _ _ evidence, some (.done cut) =>
      if cut.evidence = evidence then { s with ready := .adopting cut }
      else s.failReady "the barrier answer and the published marker describe different evidence"
  | .marking _ _ _, some .failed => s.failReady s.invalidationReason
  | _, _ => s

/-- The held frames are dispatched; what a callback that fails does. -/
def dispatchHeld (s : LiveSources α) :
    List (ℕ × Body α) → List Answer → LiveSources α × Option (String × Bool)
  | [], _ => (s, none)
  | (sequence, body) :: rest, answers =>
      if s.lastSequence.any (fun last => decide (sequence = last + 1)) = false then
        (s, some ("a held frame is out of sequence", false))
      else if body.dispatched then
        match answers with
        | .fails category cancels :: _ => (s.hand sequence body, some (category, cancels))
        | _ =>
            dispatchHeld { s.hand sequence body with lastSequence := some sequence } rest
              answers.tail
      else dispatchHeld { s with lastSequence := some sequence } rest answers

def accept (cut : LiveSourceCut) : LiveSources α :=
  { s with
    sessionId := some cut.evidence.sessionId
    dropBaseline := some cut.evidence.readingDropCount
    failureBaseline := some cut.evidence.publishFailureCount
    lastSequence := some cut.evidence.sequence
    accepted := some cut.evidence }

/-- `ready` takes the lock. -/
def adopt (answers : List Answer) : LiveSources α :=
  match s.ready with
  | .adopting cut =>
      if s.sessionId = none then
        if s.provisionalCut ≠ some cut then
          s.failReady "the provisional cut does not match the cut the barrier established"
        else
          let r := (s.accept cut).dispatchHeld s.provisional answers
          match r.2 with
          | some (category, false) => r.1.failReady category
          | some (category, true) => { r.1 with ready := .settling category }
          | none =>
              { r.1 with
                provisional := []
                provisionalBytes := 0
                provisionalCut := none
                provisionalLast := none : LiveSources α }.returnReady cut
      else s.returnReady cut
  | _ => s

/-- `ready` goes on after the yield of a callback that failed. -/
def settleReady : LiveSources α :=
  match s.ready with
  | .settling category => s.failReady category
  | _ => s

/-- The task of `ready` is cancelled. -/
def cancelReady : LiveSources α :=
  if s.readyActive then s.failReady "the barrier was cancelled" else s

def stop : LiveSources α :=
  { s.leaveReady with
    running := false
    closed := true
    sessionId := none
    lastSequence := none
    dropBaseline := none
    failureBaseline := none
    provisional := []
    provisionalBytes := 0
    provisionalCut := none
    provisionalLast := none
    receiver := .ended }

def completeSince (cut : LiveSourceCut) : Bool :=
  s.running && !s.invalid && decide (cut.generation = cfg.generation) &&
    decide (some cut.evidence.sessionId = s.sessionId) &&
      s.lastSequence.any (fun last => decide (cut.evidence.sequence ≤ last)) &&
        decide (some cut.evidence.readingDropCount = s.dropBaseline) &&
          decide (some cut.evidence.publishFailureCount = s.failureBaseline)

end LiveSources

end Stream
end CryoDaq
