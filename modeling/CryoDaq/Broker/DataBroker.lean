import CryoDaq.Broker.RequiredPublication
import CryoDaq.Python.Raising
import CryoDaq.Python.Text

/-!
# The data broker

Readings go to the bounded queues of the subscribers.  One subscriber at most is the required
publisher: its queue also carries the envelopes of required publications, which are held by their
number.

**The lock.**  It is never held across a suspension, so that every method is one step.

**Filters.**  A filter that raises leaves its subscriber as it was.  What it does to its own copy of
the reading does not matter.
-/

namespace CryoDaq
namespace Broker

open Acquisition (Reading)

def persistenceAuthoritativeMetadataKey : String := "_cryodaq_persistence_authoritative"
def publisherAuthorityMetadataKey : String := "_cryodaq_publisher_authority"
def maxPersistedEnvelopeBytes : ℕ := 8192

/-- `PublisherAuthority`; the object is its number. -/
structure PublisherAuthority where
  name : String
  channels : List String
  authority : ℕ
deriving DecidableEq

/-- What a queue carries. -/
inductive Item
  | reading (r : Reading)
  | published (r : Reading) (descriptorEnvelope : Option ByteArray)
  | required (envelope : ℕ)

def Item.required? : Item → Option ℕ
  | .required e => some e
  | _ => none

def envelopes (queue : List Item) : List ℕ := queue.filterMap Item.required?

inductive OverflowPolicy
  | dropOldest
  | dropNewest
deriving DecidableEq

/-- `Subscription`; a queue is known by its number, and a filter answers `none` when it raises. -/
structure Subscription where
  queue : List Item := []
  queueId : ℕ
  maxsize : ℕ
  policy : OverflowPolicy := .dropOldest
  filterFn : Option (Reading → Option Bool) := none
  wantsDescriptorEnvelope : Bool := false
  requiredPublisher : Bool := false
  dropped : ℕ := 0

namespace Subscription

def full (sub : Subscription) : Bool := decide (sub.maxsize ≤ sub.queue.length)

/-- `put_nowait`, and `dropped` when the queue is full. -/
def putNowait (sub : Subscription) (item : Item) : Subscription :=
  if sub.full then { sub with dropped := sub.dropped + 1 }
  else { sub with queue := sub.queue ++ [item] }

def item (sub : Subscription) (delivered : Reading) (descriptorEnvelope : Option ByteArray) :
    Item :=
  if sub.wantsDescriptorEnvelope then .published delivered descriptorEnvelope
  else .reading delivered

/-- Whether the filter lets a reading pass. -/
def accepts (sub : Subscription) (delivered : Reading) : Bool :=
  match sub.filterFn with
  | none => true
  | some filter => (filter delivered).getD false

/-- What `publish` does for one subscriber. -/
def deliver (delivered : Reading) (descriptorEnvelope : Option ByteArray) (sub : Subscription) :
    Subscription :=
  if sub.accepts delivered then
    if sub.full then
      if sub.requiredPublisher then { sub with dropped := sub.dropped + 1 }
      else
        match sub.policy with
        | .dropOldest =>
            { sub with queue := sub.queue.tail, dropped := sub.dropped + 1 }.putNowait
              (sub.item delivered descriptorEnvelope)
        | .dropNewest => { sub with dropped := sub.dropped + 1 }
    else sub.putNowait (sub.item delivered descriptorEnvelope)
  else sub

end Subscription

/-- `DataBroker`; `authority` is its own object, and objects are numbered from `fresh` on. -/
structure DataBroker where
  subscribers : Dict String Subscription := .empty
  totalPublished : ℕ := 0
  requiredPublisherName : Option String := none
  reservedPublishers : Dict String PublisherAuthority := .empty
  authority : ℕ := 0
  fresh : ℕ := 1

def exactText (s : String) : Bool := s ≠ "" && Text.strip s = s

/-- `all(char in "0123456789abcdef" for char in text)` and the length. -/
def hexText (length : ℕ) (s : String) : Bool :=
  s.length = length && s.toList.all fun c => c ∈ "0123456789abcdef".toList

namespace DataBroker

def reservePublisher (b : DataBroker) (name : String) (channels : List String) :
    Except String (DataBroker × PublisherAuthority) :=
  if !exactText name then .error "publisher authority name must be exact non-empty text"
  else if channels = [] ∨ ¬ channels.all exactText ∨ ¬ channels.Nodup then
    .error "publisher authority channels must be unique exact non-empty text"
  else
    let conflicts := (channels.filter fun c => c ∈ b.reservedPublishers.keys).insertionSort (· ≤ ·)
    if conflicts ≠ [] then
      .error ("publisher authority channels are already reserved: " ++ ", ".intercalate conflicts)
    else
      let granted : PublisherAuthority := ⟨name, channels, b.fresh⟩
      .ok ({ b with
        reservedPublishers := channels.foldl (fun d c => d.set c granted) b.reservedPublishers
        fresh := b.fresh + 1 }, granted)

/-- `subscribe`; it answers the number of the queue. -/
def subscribe (b : DataBroker) (name : String) (maxsize : ℤ) (policy : OverflowPolicy)
    (filterFn : Option (Reading → Option Bool)) (wantsDescriptorEnvelope requiredPublisher : Bool) :
    Except String (DataBroker × ℕ) :=
  if maxsize ≤ 0 then
    .error ("DataBroker.subscribe maxsize must be > 0 (got " ++ maxsize.repr ++ "); " ++
      "a non-positive maxsize makes the queue unbounded and defeats " ++
      "the overflow policy (unbounded memory growth).")
  else if (b.subscribers.get? name).isSome then
    .error ("Подписчик '" ++ name ++ "' уже зарегистрирован")
  else if requiredPublisher && b.requiredPublisherName.isSome then
    .error "required publisher is already registered"
  else
    .ok ({ b with
      subscribers := b.subscribers.set name
        { queueId := b.fresh, maxsize := maxsize.toNat, policy, filterFn, wantsDescriptorEnvelope,
          requiredPublisher }
      requiredPublisherName := if requiredPublisher then some name else b.requiredPublisherName
      fresh := b.fresh + 1 }, b.fresh)

/-- What `unsubscribe` removes, and the broker without it. -/
def remove (b : DataBroker) (name : String) (expectedQueue : Option ℕ) :
    Option (DataBroker × Subscription) :=
  (b.subscribers.get? name).bind fun sub =>
    if expectedQueue.any fun q => q ≠ sub.queueId then none
    else some ({ b with
      subscribers := b.subscribers.erase name
      requiredPublisherName :=
        if sub.requiredPublisher ∧ b.requiredPublisherName = some name then none
        else b.requiredPublisherName }, sub)

/-- The subscription that takes required publications. -/
def requiredSubscription (b : DataBroker) : Except String (String × Subscription) :=
  match b.requiredPublisherName.bind fun name => (b.subscribers.get? name).map (name, ·) with
  | none => .error "required publisher is unavailable"
  | some (name, sub) =>
      if !sub.requiredPublisher then .error "required publisher is unavailable"
      else if sub.full then .error "required publisher queue is full"
      else .ok (name, sub)

def setQueue (b : DataBroker) (name : String) (sub : Subscription) (queue : List Item) :
    DataBroker :=
  { b with subscribers := b.subscribers.set name { sub with queue } }

/-- The part of `publish_required` under the lock, for the envelope of a number. -/
def putRequired (b : DataBroker) (requestId requestFingerprint : String) (envelope : ℕ) :
    Except String DataBroker :=
  if !hexText 32 requestId then .error "required publication request_id is invalid"
  else if !hexText 64 requestFingerprint then .error "required publication fingerprint is invalid"
  else do
    let (name, sub) ← b.requiredSubscription
    .ok (b.setQueue name sub (sub.queue ++ [.required envelope]))

/-- The errors of `publish`. -/
inductive PublishError
  | requiresReservedAuthority (channel : String)
  | unreservedChannel
deriving DecidableEq

def deliveredMetadata (b : DataBroker) (reading : Reading) (persistenceAuthoritative : Bool)
    (publisherAuthority : Option PublisherAuthority) : Except PublishError Acquisition.Metadata :=
  let metadata :=
    (reading.metadata.erase persistenceAuthoritativeMetadataKey).erase publisherAuthorityMetadataKey
  let marked (m : Acquisition.Metadata) : Acquisition.Metadata :=
    if persistenceAuthoritative then
      m.set persistenceAuthoritativeMetadataKey (.bool true)
    else m
  match b.reservedPublishers.get? reading.channel with
  | some reserved =>
      if publisherAuthority.map PublisherAuthority.authority ≠ some reserved.authority then
        .error (.requiresReservedAuthority reading.channel)
      else .ok (marked (metadata.set publisherAuthorityMetadataKey (.str reserved.name)))
  | none =>
      if publisherAuthority.isSome then .error .unreservedChannel
      else .ok (marked metadata)

def publish (b : DataBroker) (reading : Reading) (persistenceAuthoritative : Bool)
    (descriptorEnvelope : Option ByteArray) (publisherAuthority : Option PublisherAuthority) :
    Except PublishError DataBroker := do
  let metadata ← b.deliveredMetadata reading persistenceAuthoritative publisherAuthority
  let delivered := { reading with metadata }
  let bounded := descriptorEnvelope.filter fun bytes => bytes.size ≤ maxPersistedEnvelopeBytes
  .ok { b with
    totalPublished := b.totalPublished + 1
    subscribers := b.subscribers.mapValues fun _ sub => sub.deliver delivered bounded }

end DataBroker

/-! ## The envelopes in the queues -/

theorem envelopes_append (q r : List Item) : envelopes (q ++ r) = envelopes q ++ envelopes r :=
  List.filterMap_append

theorem envelopes_tail {q : List Item} (h : envelopes q = []) : envelopes q.tail = [] :=
  List.sublist_nil.mp (h ▸ (List.tail_sublist q).filterMap _)

namespace Subscription

variable (sub : Subscription) (delivered : Reading) (descriptorEnvelope : Option ByteArray)

theorem envelopes_item : envelopes [sub.item delivered descriptorEnvelope] = [] := by
  rw [item]
  split
  case isTrue => rfl
  case isFalse => rfl

theorem putNowait_item : envelopes (sub.putNowait (sub.item delivered descriptorEnvelope)).queue =
    envelopes sub.queue := by
  rw [putNowait]
  split
  case isTrue => rfl
  case isFalse => rw [envelopes_append, envelopes_item, List.append_nil]

theorem envelopes_deliver (h : sub.requiredPublisher = false → envelopes sub.queue = []) :
    envelopes (sub.deliver delivered descriptorEnvelope).queue = envelopes sub.queue := by
  rw [deliver]
  split
  case isFalse => rfl
  case isTrue =>
    split
    case isFalse => exact putNowait_item sub delivered descriptorEnvelope
    case isTrue =>
      split
      case isTrue => rfl
      case isFalse hrequired =>
        have hnone := h (Bool.eq_false_iff.mpr hrequired)
        split
        case h_1 =>
          rw [putNowait]
          split
          case isTrue => rw [hnone, envelopes_tail hnone]
          case isFalse => rw [envelopes_append, envelopes_item, envelopes_tail hnone, hnone]; rfl
        case h_2 => rfl

theorem requiredPublisher_deliver :
    (sub.deliver delivered descriptorEnvelope).requiredPublisher = sub.requiredPublisher := by
  unfold deliver putNowait
  repeat' split
  all_goals rfl

end Subscription

namespace DataBroker

/-- Envelopes are in the queue of the required publisher alone, each once. -/
structure Sound (b : DataBroker) : Prop where
  required : ∀ name sub, b.subscribers.get? name = some sub → sub.requiredPublisher = true →
    b.requiredPublisherName = some name
  carried : ∀ name sub, b.subscribers.get? name = some sub → sub.requiredPublisher = false →
    envelopes sub.queue = []
  nodup : ∀ name sub, b.subscribers.get? name = some sub → (envelopes sub.queue).Nodup

def Queued (b : DataBroker) (e : ℕ) : Prop :=
  ∃ name sub, b.subscribers.get? name = some sub ∧ e ∈ envelopes sub.queue

variable {b c : DataBroker}

theorem sound_empty : ({} : DataBroker).Sound where
  required _ _ h := by cases h
  carried _ _ h := by cases h
  nodup _ _ h := by cases h

theorem Sound.name_of_queued (h : b.Sound) {name : String} {sub : Subscription} {e : ℕ}
    (hsub : b.subscribers.get? name = some sub) (he : e ∈ envelopes sub.queue) :
    sub.requiredPublisher = true ∧ b.requiredPublisherName = some name := by
  cases hrequired : sub.requiredPublisher with
  | true => exact ⟨rfl, h.required name sub hsub hrequired⟩
  | false =>
      rw [h.carried name sub hsub hrequired] at he
      cases he

theorem subscribe_sound {name : String} {maxsize : ℤ} {policy : OverflowPolicy}
    {filterFn : Option (Reading → Option Bool)} {wantsDescriptorEnvelope requiredPublisher : Bool}
    {q : ℕ} (h : b.Sound) (hsubscribe : b.subscribe name maxsize policy filterFn
      wantsDescriptorEnvelope requiredPublisher = .ok (c, q)) :
    c.Sound ∧ ∀ e, c.Queued e → b.Queued e := by
  rw [subscribe] at hsubscribe
  split at hsubscribe
  case isTrue => cases hsubscribe
  case isFalse =>
    split at hsubscribe
    case isTrue => cases hsubscribe
    case isFalse =>
      split at hsubscribe
      case isTrue => cases hsubscribe
      case isFalse hfree =>
        cases hsubscribe
        have hnone : requiredPublisher = true → b.requiredPublisherName = none := by
          intro hrequired
          rw [hrequired, Bool.true_and] at hfree
          exact Option.not_isSome_iff_eq_none.mp hfree
        refine ⟨⟨fun j sub hsub hrequired => ?_, fun j sub hsub hrequired => ?_,
          fun j sub hsub => ?_⟩, ?_⟩
        · simp only [Dict.get?_set] at hsub ⊢
          split at hsub
          case isTrue heq =>
            cases hsub
            rw [if_pos hrequired, heq]
          case isFalse =>
            have hname := h.required j sub hsub hrequired
            cases hnew : requiredPublisher with
            | true =>
                rw [hnone hnew] at hname
                cases hname
            | false => exact hname
        · simp only [Dict.get?_set] at hsub
          split at hsub
          case isTrue =>
            cases hsub
            rfl
          case isFalse => exact h.carried j sub hsub hrequired
        · simp only [Dict.get?_set] at hsub
          split at hsub
          case isTrue =>
            cases hsub
            exact List.nodup_nil
          case isFalse => exact h.nodup j sub hsub
        · rintro e ⟨j, sub, hsub, he⟩
          simp only [Dict.get?_set] at hsub
          split at hsub
          case isTrue =>
            cases hsub
            cases he
          case isFalse => exact ⟨j, sub, hsub, he⟩

theorem remove_sound {name : String} {expectedQueue : Option ℕ} {sub : Subscription} (h : b.Sound)
    (hremove : b.remove name expectedQueue = some (c, sub)) :
    c.Sound ∧ b.subscribers.get? name = some sub ∧ (∀ e, c.Queued e → b.Queued e) ∧
      (sub.requiredPublisher = true → ∀ e, ¬ c.Queued e) := by
  obtain ⟨found, hfound, hremove⟩ := Option.bind_eq_some_iff.mp hremove
  split at hremove
  case isTrue => cases hremove
  case isFalse =>
    cases hremove
    have hkept (j : String) (other : Subscription)
        (hother : (b.subscribers.erase name).get? j = some other) :
        j ≠ name ∧ b.subscribers.get? j = some other := by
      rw [Dict.get?_erase] at hother
      split at hother
      case isTrue => cases hother
      case isFalse hne => exact ⟨hne, hother⟩
    refine ⟨⟨fun j other hother hrequired => ?_, fun j other hother => ?_,
      fun j other hother => ?_⟩, hfound, ?_, ?_⟩
    · obtain ⟨hne, hother⟩ := hkept j other hother
      have hname := h.required j other hother hrequired
      rw [if_neg]
      · exact hname
      · rintro ⟨_, heq⟩
        rw [hname] at heq
        exact hne (Option.some.inj heq)
    · exact h.carried j other (hkept j other hother).2
    · exact h.nodup j other (hkept j other hother).2
    · rintro e ⟨j, other, hother, he⟩
      exact ⟨j, other, (hkept j other hother).2, he⟩
    · rintro hrequired e ⟨j, other, hother, he⟩
      obtain ⟨hne, hother⟩ := hkept j other hother
      have hname := (h.name_of_queued hother he).2
      rw [h.required name sub hfound hrequired] at hname
      exact hne (Option.some.inj hname).symm

theorem setQueue_sound {name : String} {sub : Subscription} {queue : List Item} (h : b.Sound)
    (hsub : b.subscribers.get? name = some sub)
    (hcarried : sub.requiredPublisher = false → envelopes queue = [])
    (hnodup : (envelopes queue).Nodup) :
    (b.setQueue name sub queue).Sound ∧ ∀ e, (b.setQueue name sub queue).Queued e →
      e ∈ envelopes queue ∨ b.Queued e ∧ b.requiredPublisherName ≠ some name := by
  refine ⟨⟨fun j other hother hrequired => ?_, fun j other hother hrequired => ?_,
    fun j other hother => ?_⟩, ?_⟩
  · simp only [setQueue, Dict.get?_set] at hother ⊢
    split at hother
    case isTrue heq =>
      cases hother
      exact heq ▸ h.required name sub hsub hrequired
    case isFalse => exact h.required j other hother hrequired
  · simp only [setQueue, Dict.get?_set] at hother
    split at hother
    case isTrue =>
      cases hother
      exact hcarried hrequired
    case isFalse => exact h.carried j other hother hrequired
  · simp only [setQueue, Dict.get?_set] at hother
    split at hother
    case isTrue =>
      cases hother
      exact hnodup
    case isFalse => exact h.nodup j other hother
  · rintro e ⟨j, other, hother, he⟩
    simp only [setQueue, Dict.get?_set] at hother
    split at hother
    case isTrue =>
      cases hother
      exact .inl he
    case isFalse hne =>
      refine .inr ⟨⟨j, other, hother, he⟩, fun hname => hne ?_⟩
      have hj := (h.name_of_queued hother he).2
      rw [hname] at hj
      exact (Option.some.inj hj).symm

theorem requiredSubscription_eq {name : String} {sub : Subscription}
    (h : b.requiredSubscription = .ok (name, sub)) :
    b.subscribers.get? name = some sub ∧ sub.requiredPublisher = true := by
  rw [requiredSubscription] at h
  split at h
  case h_1 => cases h
  case h_2 hfound =>
    split at h
    case isTrue => cases h
    case isFalse hrequired =>
      split at h
      case isTrue => cases h
      case isFalse =>
        cases h
        obtain ⟨_, _, hname⟩ := Option.bind_eq_some_iff.mp hfound
        obtain ⟨_, hget, heq⟩ := Option.map_eq_some_iff.mp hname
        cases heq
        refine ⟨hget, ?_⟩
        cases hflag : sub.requiredPublisher with
        | true => rfl
        | false => exact absurd (by rw [hflag]; rfl) hrequired

theorem putRequired_sound {requestId requestFingerprint : String} {envelope : ℕ} (h : b.Sound)
    (hnew : ¬ b.Queued envelope)
    (hput : b.putRequired requestId requestFingerprint envelope = .ok c) :
    c.Sound ∧ ∀ e, c.Queued e → e = envelope ∨ b.Queued e := by
  rw [putRequired] at hput
  split at hput
  case isTrue => cases hput
  case isFalse =>
    split at hput
    case isTrue => cases hput
    case isFalse =>
      obtain ⟨⟨name, sub⟩, hsub, hput⟩ := bind_eq_ok.mp hput
      cases hput
      obtain ⟨hget, hrequired⟩ := requiredSubscription_eq hsub
      have hqueue : envelopes (sub.queue ++ [.required envelope]) =
          envelopes sub.queue ++ [envelope] := envelopes_append _ _
      have hcarried : sub.requiredPublisher = false →
          envelopes (sub.queue ++ [.required envelope]) = [] := by
        intro hfalse
        rw [hrequired] at hfalse
        cases hfalse
      have hnodup : (envelopes (sub.queue ++ [.required envelope])).Nodup := by
        rw [hqueue]
        refine List.Nodup.append (h.nodup name sub hget) (List.nodup_singleton _) ?_
        intro e he hmem
        rw [List.mem_singleton] at hmem
        exact hnew ⟨name, sub, hget, hmem ▸ he⟩
      obtain ⟨hsound, hqueued⟩ := setQueue_sound h hget hcarried hnodup
      refine ⟨hsound, fun e he => ?_⟩
      rcases hqueued e he with hmem | hqueued
      · rw [hqueue, List.mem_append, List.mem_singleton] at hmem
        rcases hmem with hmem | hmem
        · exact .inr ⟨name, sub, hget, hmem⟩
        · exact .inl hmem
      · exact .inr hqueued.1

theorem publish_envelopes {reading : Reading} {persistenceAuthoritative : Bool}
    {descriptorEnvelope : Option ByteArray} {publisherAuthority : Option PublisherAuthority}
    (h : b.Sound) (hpublish : b.publish reading persistenceAuthoritative descriptorEnvelope
      publisherAuthority = .ok c) (name : String) :
    (c.subscribers.get? name).map (fun sub => (envelopes sub.queue, sub.requiredPublisher)) =
      (b.subscribers.get? name).map fun sub => (envelopes sub.queue, sub.requiredPublisher) := by
  obtain ⟨metadata, _, hpublish⟩ := bind_eq_ok.mp hpublish
  cases hpublish
  rw [Dict.get?_mapValues, Option.map_map]
  cases hsub : b.subscribers.get? name with
  | none => rfl
  | some sub =>
      rw [Option.map_some, Option.map_some, Function.comp_apply,
        Subscription.envelopes_deliver _ _ _ (h.carried name sub hsub),
        Subscription.requiredPublisher_deliver]

theorem publish_sound {reading : Reading} {persistenceAuthoritative : Bool}
    {descriptorEnvelope : Option ByteArray} {publisherAuthority : Option PublisherAuthority}
    (h : b.Sound) (hpublish : b.publish reading persistenceAuthoritative descriptorEnvelope
      publisherAuthority = .ok c) : c.Sound ∧ ∀ e, c.Queued e → b.Queued e := by
  have hname : c.requiredPublisherName = b.requiredPublisherName := by
    obtain ⟨metadata, _, hok⟩ := bind_eq_ok.mp hpublish
    cases hok
    rfl
  have hback (name : String) (sub : Subscription) (hsub : c.subscribers.get? name = some sub) :
      ∃ old, b.subscribers.get? name = some old ∧ envelopes old.queue = envelopes sub.queue ∧
        old.requiredPublisher = sub.requiredPublisher := by
    have heq := publish_envelopes h hpublish name
    rw [hsub, Option.map_some] at heq
    obtain ⟨old, hold, heq⟩ := Option.map_eq_some_iff.mp heq.symm
    exact ⟨old, hold, (Prod.mk.inj heq).1, (Prod.mk.inj heq).2⟩
  refine ⟨⟨fun name sub hsub hrequired => ?_, fun name sub hsub hrequired => ?_,
    fun name sub hsub => ?_⟩, ?_⟩
  · obtain ⟨old, hold, _, hflag⟩ := hback name sub hsub
    rw [hname]
    exact h.required name old hold (hflag.trans hrequired)
  · obtain ⟨old, hold, hqueue, hflag⟩ := hback name sub hsub
    exact hqueue ▸ h.carried name old hold (hflag.trans hrequired)
  · obtain ⟨old, hold, hqueue, _⟩ := hback name sub hsub
    exact hqueue ▸ h.nodup name old hold
  · rintro e ⟨name, sub, hsub, he⟩
    obtain ⟨old, hold, hqueue, _⟩ := hback name sub hsub
    exact ⟨name, old, hold, hqueue ▸ he⟩

theorem reservePublisher_sound {name : String} {channels : List String}
    {granted : PublisherAuthority} (h : b.Sound)
    (hreserve : b.reservePublisher name channels = .ok (c, granted)) :
    c.Sound ∧ ∀ e, c.Queued e → b.Queued e := by
  have hsame : c.subscribers = b.subscribers ∧
      c.requiredPublisherName = b.requiredPublisherName := by
    rw [reservePublisher] at hreserve
    split at hreserve
    case isTrue => cases hreserve
    case isFalse =>
      split at hreserve
      case isTrue => cases hreserve
      case isFalse =>
        simp only at hreserve
        split at hreserve
        case isTrue => cases hreserve
        case isFalse =>
          cases hreserve
          exact ⟨rfl, rfl⟩
  refine ⟨⟨?_, ?_, ?_⟩, ?_⟩
  · rw [hsame.1, hsame.2]
    exact h.required
  · rw [hsame.1]
    exact h.carried
  · rw [hsame.1]
    exact h.nodup
  · rintro e ⟨name, sub, hsub, he⟩
    exact ⟨name, sub, hsame.1 ▸ hsub, he⟩

end DataBroker

end Broker
end CryoDaq
