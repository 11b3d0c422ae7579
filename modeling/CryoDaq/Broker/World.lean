import CryoDaq.Broker.DataBroker
import Mathlib.Data.List.Basic

/-!
# Required publications in any order of events

Callers, subscribers, the timers, whoever publishes telemetry and the publisher act in any order.
Every event is one step; an event that raises, or that cannot happen, leaves what the source leaves.

**The publisher.**  It gets an envelope by taking it from a queue, and only then claims,
acknowledges or rejects it.

**Notes.**  `notes` records, in order, what each envelope went through.
-/

namespace CryoDaq
namespace Broker

open Acquisition (Reading)

inductive Note
  | claimed (envelope : ℕ)
  | acknowledged (envelope : ℕ)
  | rejected (envelope : ℕ)
  | withdrawn (envelope : ℕ)
deriving DecidableEq

def Note.envelope : Note → ℕ
  | .claimed e => e
  | .acknowledged e => e
  | .rejected e => e
  | .withdrawn e => e

def Note.settles : Note → Bool
  | .claimed _ => false
  | _ => true

/-- The broker with the calls of `publish_required` that queued an envelope. -/
structure World where
  broker : DataBroker := {}
  publications : List Publication := []
  taken : List ℕ := []
  retired : List Item := []
  notes : List Note := []

inductive Event
  | subscribe (name : String) (maxsize : ℤ) (policy : OverflowPolicy)
      (filterFn : Option (Reading → Option Bool)) (wantsDescriptorEnvelope requiredPublisher : Bool)
  | unsubscribe (name : String) (expectedQueue : Option ℕ)
  | reservePublisher (name : String) (channels : List String)
  | publish (reading : Reading) (persistenceAuthoritative : Bool)
      (descriptorEnvelope : Option ByteArray) (publisherAuthority : Option PublisherAuthority)
  | publishRequired (reading : Reading) (requestId requestFingerprint : String)
  | take (name : String)
  | takeRetired (place : ℕ)
  | claim (envelope : ℕ)
  | acknowledge (envelope : ℕ)
  | reject (envelope : ℕ)
  | expire (envelope : ℕ)
  | cancel (envelope : ℕ)
  | resume (envelope : ℕ)

namespace World

variable (w : World)

def noteOf (envelope : ℕ) (before after : RequiredPublicationState) : List Note :=
  if before = after then []
  else
    match after with
    | .unclaimed => []
    | .claimed => [.claimed envelope]
    | .acknowledged => [.acknowledged envelope]
    | .rejected => [.rejected envelope]
    | .withdrawn => [.withdrawn envelope]

def change (envelope : ℕ) (f : Publication → Publication) : World :=
  match w.publications[envelope]? with
  | none => w
  | some p =>
      { w with
        publications := w.publications.set envelope (f p)
        notes := w.notes ++ noteOf envelope p.envelope.state (f p).envelope.state }

/-- The publisher calls a method of an envelope. -/
def call (envelope : ℕ) (f : RequiredPublication → Except String RequiredPublication) : World :=
  w.change envelope (Publication.apply f)

def raises (envelope : ℕ) (f : RequiredPublication → Except String RequiredPublication) : Bool :=
  match w.publications[envelope]? with
  | none => false
  | some p =>
      match f p.envelope with
      | .ok _ => false
      | .error _ => true

/-- The loop of `unsubscribe`; after a `reject` that raises, the rest stays in the queue. -/
def drain : World → List Item → World
  | w, [] => w
  | w, .required e :: rest =>
      if w.raises e RequiredPublication.reject then { w with retired := w.retired ++ rest }
      else drain (w.call e RequiredPublication.reject) rest
  | w, _ :: rest => drain w rest

/-- What the publisher gets from a queue. -/
def receive (item : Item) : World :=
  match item.required? with
  | none => w
  | some e => { w with taken := w.taken ++ [e] }

def step : Event → World
  | .subscribe name maxsize policy filterFn wantsDescriptorEnvelope requiredPublisher =>
      match w.broker.subscribe name maxsize policy filterFn wantsDescriptorEnvelope
        requiredPublisher with
      | .ok (broker, _) => { w with broker }
      | .error _ => w
  | .unsubscribe name expectedQueue =>
      match w.broker.remove name expectedQueue with
      | none => w
      | some (broker, sub) =>
          if sub.requiredPublisher ∧ w.broker.requiredPublisherName = some name then
            { w with broker }.drain sub.queue
          else { w with broker, retired := w.retired ++ sub.queue }
  | .reservePublisher name channels =>
      match w.broker.reservePublisher name channels with
      | .ok (broker, _) => { w with broker }
      | .error _ => w
  | .publish reading persistenceAuthoritative descriptorEnvelope publisherAuthority =>
      match w.broker.publish reading persistenceAuthoritative descriptorEnvelope
        publisherAuthority with
      | .ok broker => { w with broker }
      | .error _ => w
  | .publishRequired reading requestId requestFingerprint =>
      match w.broker.putRequired requestId requestFingerprint w.publications.length with
      | .ok broker =>
          { w with
            broker
            publications := w.publications ++ [.queued reading requestId requestFingerprint] }
      | .error _ => w
  | .take name =>
      match w.broker.subscribers.get? name with
      | some sub =>
          match sub.queue with
          | [] => w
          | item :: rest =>
              { w with broker := w.broker.setQueue name sub rest }.receive item
      | none => w
  | .takeRetired place =>
      match w.retired[place]? with
      | none => w
      | some item => { w with retired := w.retired.eraseIdx place }.receive item
  | .claim e => if e ∈ w.taken then w.call e RequiredPublication.claim else w
  | .acknowledge e => if e ∈ w.taken then w.call e RequiredPublication.acknowledge else w
  | .reject e => if e ∈ w.taken then w.call e RequiredPublication.reject else w
  | .expire e => w.change e Publication.expire
  | .cancel e => w.change e Publication.cancel
  | .resume e => w.change e Publication.resume

def run (events : List Event) : World := events.foldl step {}

end World

/-- What the notes say of an envelope in a state. -/
inductive Story (e : ℕ) : RequiredPublicationState → List Note → Prop
  | unclaimed : Story e .unclaimed []
  | claimed : Story e .claimed [.claimed e]
  | acknowledged : Story e .acknowledged [.claimed e, .acknowledged e]
  | rejected : Story e .rejected [.claimed e, .rejected e]
  | rejectedUnclaimed : Story e .rejected [.rejected e]
  | withdrawn : Story e .withdrawn [.withdrawn e]

def notesOf (e : ℕ) (notes : List Note) : List Note := notes.filter fun n => n.envelope = e

theorem notesOf_append (e : ℕ) (l m : List Note) :
    notesOf e (l ++ m) = notesOf e l ++ notesOf e m :=
  List.filter_append ..

theorem noteOf_envelope {e : ℕ} {s t : RequiredPublicationState} {n : Note}
    (h : n ∈ World.noteOf e s t) : n.envelope = e := by
  unfold World.noteOf at h
  split at h
  case isTrue => cases h
  case isFalse =>
    cases t with
    | unclaimed => cases h
    | claimed =>
        rw [List.mem_singleton.mp h]
        rfl
    | acknowledged =>
        rw [List.mem_singleton.mp h]
        rfl
    | rejected =>
        rw [List.mem_singleton.mp h]
        rfl
    | withdrawn =>
        rw [List.mem_singleton.mp h]
        rfl

theorem notesOf_noteOf (e j : ℕ) (s t : RequiredPublicationState) :
    notesOf j (World.noteOf e s t) = if j = e then World.noteOf e s t else [] := by
  split
  case isTrue heq =>
    refine List.filter_eq_self.mpr fun n hn => ?_
    rw [noteOf_envelope hn, heq]
    exact decide_eq_true rfl
  case isFalse hne =>
    refine List.filter_eq_nil_iff.mpr fun n hn => ?_
    rw [noteOf_envelope hn]
    exact fun h => hne (of_decide_eq_true h).symm

theorem Story.moves {e : ℕ} {p q : RequiredPublication} {l : List Note} (h : Story e p.state l)
    (hmoves : p.Moves q) : Story e q.state (l ++ World.noteOf e p.state q.state) := by
  cases hmoves with
  | stays =>
      have hnone : World.noteOf e p.state p.state = [] := if_pos rfl
      rw [hnone, List.append_nil]
      exact h
  | claimed hstate =>
      rw [hstate] at h ⊢
      cases h
      exact .claimed
  | settles s hsettles =>
      generalize p.state = state at h hsettles
      cases hsettles with
      | acknowledged =>
          cases h
          exact .acknowledged
      | rejected =>
          cases h
          exact .rejected
      | rejectedUnclaimed =>
          cases h
          exact .rejectedUnclaimed
      | expired =>
          cases h
          exact .withdrawn
      | callerCancelled =>
          cases h
          exact .withdrawn

theorem Story.settlements {e : ℕ} {state : RequiredPublicationState} {l : List Note}
    (h : Story e state l) : l.countP Note.settles = if state.terminal then 1 else 0 := by
  cases h with
  | unclaimed => rfl
  | claimed => rfl
  | acknowledged => rfl
  | rejected => rfl
  | rejectedUnclaimed => rfl
  | withdrawn => rfl

theorem mem_notesOf {e : ℕ} {n : Note} {l : List Note} (hn : n.envelope = e) :
    n ∈ notesOf e l ↔ n ∈ l := by
  rw [notesOf, List.mem_filter, decide_eq_true_iff]
  exact ⟨fun h => h.1, fun h => ⟨h, hn⟩⟩

theorem Story.acknowledged_eq {e : ℕ} {l : List Note} (h : Story e .acknowledged l) :
    l = [.claimed e, .acknowledged e] := by
  cases h
  rfl

theorem Story.withdrawn_eq {e : ℕ} {l : List Note} (h : Story e .withdrawn l) :
    l = [.withdrawn e] := by
  cases h
  rfl

namespace World

structure Settled (w : World) : Prop where
  sound : ∀ (e : ℕ) (p : Publication), w.publications[e]? = some p → p.Sound
  story : ∀ (e : ℕ) (p : Publication), w.publications[e]? = some p →
    Story e p.envelope.state (notesOf e w.notes)
  noted : ∀ n ∈ w.notes, n.envelope < w.publications.length
  claimed : ∀ (e : ℕ) (p : Publication), w.publications[e]? = some p →
    p.envelope.state = .claimed → e ∈ w.taken

/-- What holds of the envelopes that nobody has taken. -/
structure Waiting (w : World) : Prop where
  broker : w.broker.Sound
  queued : ∀ e, w.broker.Queued e → e < w.publications.length ∧ e ∉ w.taken
  waiting : ∀ (e : ℕ) (p : Publication), w.broker.Queued e → w.publications[e]? = some p →
    p.envelope.state = .unclaimed ∨ p.envelope.state = .withdrawn
  retired : envelopes w.retired = []
  taken : ∀ e ∈ w.taken, e < w.publications.length

variable {w : World} {e : ℕ} {f : Publication → Publication}

theorem change_eq {p : Publication} (hp : w.publications[e]? = some p) :
    w.change e f = { w with
      publications := w.publications.set e (f p)
      notes := w.notes ++ noteOf e p.envelope.state (f p).envelope.state } := by
  rw [change, hp]

theorem change_none (hp : w.publications[e]? = none) : w.change e f = w := by
  rw [change, hp]

theorem get_change {j : ℕ} {q : Publication} (h : (w.change e f).publications[j]? = some q) :
    ∃ p, w.publications[j]? = some p ∧ q = if j = e then f p else p := by
  cases hp : w.publications[e]? with
  | none =>
      rw [change_none hp] at h
      refine ⟨q, h, ?_⟩
      rw [if_neg]
      rintro rfl
      rw [h] at hp
      cases hp
  | some p =>
      rw [change_eq hp] at h
      simp only [List.getElem?_set] at h
      split at h
      case isFalse hne => exact ⟨q, h, (if_neg (Ne.symm hne)).symm⟩
      case isTrue heq =>
        subst heq
        split at h
        case isTrue =>
          cases h
          exact ⟨p, hp, (if_pos rfl).symm⟩
        case isFalse => cases h

theorem change_length : (w.change e f).publications.length = w.publications.length := by
  rw [change]
  split
  · rfl
  · exact List.length_set

theorem change_frame : (w.change e f).broker = w.broker ∧ (w.change e f).taken = w.taken ∧
    (w.change e f).retired = w.retired := by
  rw [change]
  split
  · exact ⟨rfl, rfl, rfl⟩
  · exact ⟨rfl, rfl, rfl⟩

theorem Settled.change (h : w.Settled) (hf : ∀ p, w.publications[e]? = some p →
      (f p).Sound ∧ p.Follows (f p))
    (hclaim : ∀ p, w.publications[e]? = some p → p.envelope.state = .unclaimed →
      (f p).envelope.state = .claimed → e ∈ w.taken) : (w.change e f).Settled := by
  obtain ⟨_, htaken, _⟩ := change_frame (w := w) (e := e) (f := f)
  refine ⟨fun j q hq => ?_, fun j q hq => ?_, fun n hn => ?_, fun j q hq hstate => ?_⟩
  · obtain ⟨p, hp, rfl⟩ := get_change hq
    split
    case isTrue heq => exact (hf p (heq ▸ hp)).1
    case isFalse => exact h.sound j p hp
  · obtain ⟨p, hp, rfl⟩ := get_change hq
    cases hpe : w.publications[e]? with
    | none =>
        rw [change_none hpe, if_neg]
        · exact h.story j p hp
        · rintro rfl
          rw [hp] at hpe
          cases hpe
    | some pe =>
        have hnotes : notesOf j (w.change e f).notes = notesOf j w.notes ++
            if j = e then noteOf e pe.envelope.state (f pe).envelope.state else [] := by
          rw [change_eq hpe, ← notesOf_noteOf]
          exact notesOf_append ..
        rw [hnotes]
        split
        case isTrue heq =>
          subst heq
          have hsame : p = pe := Option.some.inj (hp.symm.trans hpe)
          subst hsame
          exact (h.story j p hp).moves (hf p hp).2.moves
        case isFalse =>
          rw [List.append_nil]
          exact h.story j p hp
  · rw [change_length]
    cases hpe : w.publications[e]? with
    | none =>
        rw [change_none hpe] at hn
        exact h.noted n hn
    | some pe =>
        rw [change_eq hpe] at hn
        rcases List.mem_append.mp hn with hn | hn
        · exact h.noted n hn
        · rw [noteOf_envelope hn]
          exact (List.getElem?_eq_some_iff.mp hpe).1
  · obtain ⟨p, hp, rfl⟩ := get_change hq
    rw [htaken]
    split at hstate
    case isFalse => exact h.claimed j p hp hstate
    case isTrue heq =>
      subst heq
      have hnew := hclaim p hp
      have hmoves := (hf p hp).2.moves
      generalize (f p).envelope = after at hnew hmoves hstate
      cases hmoves with
      | stays => exact h.claimed j p hp hstate
      | claimed hbefore => exact hnew hbefore rfl
      | settles s _ =>
          cases s with
          | result => cases hstate
          | notSettled => cases hstate
          | expired => cases hstate
          | callerCancelled => cases hstate

theorem Waiting.change (h : w.Waiting) (hf : ∀ p, w.publications[e]? = some p → w.broker.Queued e →
    (f p).envelope.state = p.envelope.state ∨ (f p).envelope.state = .withdrawn) :
    (w.change e f).Waiting := by
  obtain ⟨hbroker, htaken, hretired⟩ := change_frame (w := w) (e := e) (f := f)
  refine ⟨hbroker ▸ h.broker, fun j hj => ?_, fun j q hj hq => ?_, hretired ▸ h.retired, ?_⟩
  · rw [change_length, htaken]
    exact h.queued j (hbroker ▸ hj)
  · have hwaits : w.broker.Queued j := hbroker ▸ hj
    obtain ⟨p, hp, rfl⟩ := get_change hq
    have hstate := h.waiting j p hwaits hp
    split
    case isFalse => exact hstate
    case isTrue heq =>
      subst heq
      rcases hf p hp hwaits with hsame | hwithdrawn
      · rw [hsame]
        exact hstate
      · exact .inr hwithdrawn
  · rw [change_length, htaken]
    exact h.taken

end World

end Broker
end CryoDaq
