import CryoDaq.Stream.LiveSources

/-!
# The publisher, the channel and the subscriber

The two parties are joined by an ordered channel (`pipe`) that may lose any frame and
may carry frames of other publishers.  A move is one step of one party; a move that
is not possible changes nothing.
-/

namespace CryoDaq
namespace Stream

/-- A publisher, a channel and a subscriber; `lost` and `received` record what left the channel. -/
structure World (α : Type) where
  publisher : Publisher α
  pipe : List (Frame α) := []
  sources : LiveSources α := {}
  lost : List (Frame α) := []
  received : List (Frame α) := []

/-- A step of a party. -/
inductive Move (α : Type)
  | put (value : α) (authoritative : Bool)
  | dropReading
  | alarmChanged (token : String)
  | take (claimed : Bool)
  | publishEvent (value : α)
  | publishOperatorSnapshot
  | barrier (nonce : String)
  | joined (i : ℕ)
  | leave (i : ℕ)
  | enter (i : ℕ) (now : Timestamp)
  | succeed
  | giveUp
  | cancel (i : ℕ)
  | lose (i : ℕ)
  | inject (i : ℕ) (frame : Frame α)
  | connect
  | monitorFails (reason : String)
  | receive (answer : Answer)
  | settleReceiver
  | ready (nonce : String)
  | awaitConnected
  | request
  | reply (nextNonce : String)
  | transportFails (nextNonce : String)
  | unreadable
  | timeout (nextNonce : String)
  | marked
  | adopt (answers : List Answer)
  | settleReady
  | cancelReady
  | stop

namespace World

variable {α : Type} (cfg : Config α) (w : World α)

/-- Whether a frame is one of the publisher's. -/
def own (frame : Frame α) : Bool := decide (frame.session = some w.publisher.sessionId)

def publish (p : Publisher α) : World α := { w with publisher := p }

def subscribe (s : LiveSources α) : World α := { w with sources := s }

/-- Whether the state lock is free. -/
def unlocked : Bool :=
  match w.sources.receiver, w.sources.ready with
  | .settling _, _ => false
  | _, .settling _ => false
  | _, _ => true

/-- The send under way succeeds, and its frame enters the channel. -/
def transmit : World α :=
  match w.publisher.sending with
  | some sending =>
      { w with publisher := w.publisher.succeed, pipe := w.pipe ++ sending.frame.toList }
  | none => w

def lose (i : ℕ) : World α :=
  match w.pipe[i]? with
  | some frame => { w with pipe := w.pipe.eraseIdx i, lost := w.lost ++ [frame] }
  | none => w

/-- A frame of another publisher enters the channel. -/
def inject (i : ℕ) (frame : Frame α) : World α :=
  if w.own frame then w else { w with pipe := w.pipe.insertIdx i frame }

/-- The receive loop takes a frame from the channel. -/
def deliver (answer : Answer) : World α :=
  match w.pipe, w.sources.receiver, w.unlocked with
  | frame :: rest, .idle, true =>
      { w with
        pipe := rest
        received := w.received ++ [frame]
        sources := w.sources.receive cfg frame answer }
  | _, _, _ => w

/-- The request of an attempt reaches the publisher. -/
def request : World α :=
  match w.sources.ready with
  | .querying number nonce none =>
      { w with
        publisher := w.publisher.callBarrier nonce
        sources := { w.sources with ready := .querying number nonce (some w.publisher.tasks) } }
  | _ => w

/-- The answer of the publisher reaches the attempt. -/
def reply (nextNonce : String) : World α :=
  match w.sources.ready with
  | .querying _ _ (some task) =>
      match w.publisher.replies.lookup task with
      | some evidence => w.subscribe (w.sources.answered evidence nextNonce)
      | none => w
  | _ => w

/-- A step. -/
def after : Move α → World α
  | .put value authoritative => w.publish (w.publisher.put value authoritative)
  | .dropReading => w.publish w.publisher.dropReading
  | .alarmChanged token => w.publish (w.publisher.alarmChanged token)
  | .take claimed => w.publish (w.publisher.take claimed)
  | .publishEvent value => w.publish (w.publisher.await (.event value))
  | .publishOperatorSnapshot => w.publish (w.publisher.await .snapshot)
  | .barrier nonce => w.publish (w.publisher.callBarrier nonce)
  | .joined i => w.publish (w.publisher.joined i)
  | .leave i => w.publish (w.publisher.leave i)
  | .enter i now => w.publish (w.publisher.enter i now)
  | .succeed => w.transmit
  | .giveUp => w.publish w.publisher.giveUp
  | .cancel i => w.publish (w.publisher.cancel i)
  | .lose i => w.lose i
  | .inject i frame => w.inject i frame
  | .connect => w.subscribe { w.sources with connected := true }
  | .monitorFails reason => w.subscribe (w.sources.invalidate reason)
  | .receive answer => w.deliver cfg answer
  | .settleReceiver => w.subscribe w.sources.settleReceiver
  | .ready nonce => w.subscribe (w.sources.callReady nonce)
  | .awaitConnected => w.subscribe w.sources.awaitConnected
  | .request => w.request
  | .reply nextNonce => w.reply nextNonce
  | .transportFails nextNonce => w.subscribe (w.sources.answered none nextNonce)
  | .unreadable => w.subscribe w.sources.unreadable
  | .timeout nextNonce => w.subscribe (w.sources.timeout nextNonce)
  | .marked => w.subscribe w.sources.marked
  | .adopt answers => if w.unlocked then w.subscribe (w.sources.adopt answers) else w
  | .settleReady => w.subscribe w.sources.settleReady
  | .cancelReady => w.subscribe w.sources.cancelReady
  | .stop => w.subscribe w.sources.stop

/-- Steps one after another. -/
def run (moves : List (Move α)) : World α := moves.foldl (after cfg) w

/-- A publisher and a subscriber that were just started. -/
def start (sessionId token : String) : World α where
  publisher := { sessionId := sessionId, alarmStateToken := token }

end World

end Stream
end CryoDaq
