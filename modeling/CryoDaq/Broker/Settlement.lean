import CryoDaq.Broker.World

/-!
# Required publications are settled once

**What holds.**  The publications and their notes agree (`Settled`), and the envelopes that nobody
has taken wait in the queue of the required publisher, unclaimed or withdrawn (`Waiting`).

**Later.**  A step changes a publication along the moves of its envelope: once settled it stays.
-/

namespace CryoDaq
namespace Broker

open Acquisition (Reading)

namespace World

variable {w : World} {e : ℕ} {f : Publication → Publication}

theorem expire_state (p : Publication) (h : p.Sound) :
    p.expire.envelope.state = p.envelope.state ∨ p.expire.envelope.state = .withdrawn := by
  rw [Publication.expire]
  split
  case isFalse => exact .inl rfl
  case isTrue =>
    rw [RequiredPublication.withdrawIfUnclaimed_eq h.agrees]
    by_cases hstate : p.envelope.state = .unclaimed
    · simp only [if_pos hstate]
      exact .inr trivial
    · simp only [if_neg hstate]
      exact .inl trivial

theorem cancel_state (p : Publication) (h : p.Sound) :
    p.cancel.envelope.state = p.envelope.state ∨ p.cancel.envelope.state = .withdrawn := by
  rw [Publication.cancel]
  split
  case isTrue => exact .inl rfl
  case isFalse =>
    rw [RequiredPublication.withdrawIfUnclaimed_eq h.agrees]
    by_cases hstate : p.envelope.state = .unclaimed
    · simp only [if_pos hstate]
      exact .inr rfl
    · simp only [if_neg hstate]
      cases p.envelope.settlement with
      | none => exact .inl rfl
      | some s => exact .inl rfl

theorem resume_state (p : Publication) : p.resume.envelope.state = p.envelope.state := by
  rw [Publication.resume]
  split
  case isTrue => rfl
  case isFalse =>
    cases p.envelope.settlement with
    | none => rfl
    | some s =>
        cases s with
        | result => rfl
        | notSettled => rfl
        | expired => rfl
        | callerCancelled => rfl

structure Sound (w : World) : Prop where
  settled : w.Settled
  waiting : w.Waiting

theorem Sound.caller (h : w.Sound) (hf : ∀ p : Publication, p.Sound → (f p).Sound ∧ p.Follows (f p))
    (hstate : ∀ p : Publication, p.Sound → (f p).envelope.state = p.envelope.state ∨
      (f p).envelope.state = .withdrawn) : (w.change e f).Sound := by
  refine ⟨h.settled.change (fun p hp => hf p (h.settled.sound e p hp)) ?_,
    h.waiting.change fun p hp _ => hstate p (h.settled.sound e p hp)⟩
  intro p hp hbefore hafter
  rcases hstate p (h.settled.sound e p hp) with hsame | hwithdrawn
  · rw [hsame, hbefore] at hafter
    cases hafter
  · rw [hwithdrawn] at hafter
    cases hafter

theorem Sound.publisher {method : RequiredPublication → Except String RequiredPublication}
    (h : w.Sound) (hmethod : Publication.Method method) (htaken : e ∈ w.taken) :
    (w.call e method).Sound :=
  ⟨h.settled.change (fun p hp => (h.settled.sound e p hp).apply hmethod) fun _ _ _ _ => htaken,
    h.waiting.change fun _ _ hqueued => absurd htaken (h.waiting.queued e hqueued).2⟩

theorem reject_ok {p : RequiredPublication} (h : p.Agrees)
    (hstate : p.state = .unclaimed ∨ p.state = .withdrawn) :
    ∃ after, p.reject = .ok after ∧ after.state ≠ .claimed := by
  rcases hstate with hstate | hstate
  · have hpending : p.settlement = none := h.pending.mpr (.inl hstate)
    refine ⟨{ p with settlement := some .notSettled, state := .rejected }, ?_, ?_⟩
    · rw [RequiredPublication.reject, hstate]
      simp only [RequiredPublication.settle, hpending]
      rfl
    · intro hclaimed
      cases hclaimed
  · refine ⟨p, ?_, ?_⟩
    · rw [RequiredPublication.reject, hstate]
    · intro hclaimed
      rw [hstate] at hclaimed
      cases hclaimed

theorem drain_sound {queue : List Item} (h : w.Sound) (hbroker : ∀ e, ¬ w.broker.Queued e)
    (hnodup : (envelopes queue).Nodup)
    (hqueue : ∀ e ∈ envelopes queue, ∀ p : Publication, w.publications[e]? = some p →
      p.envelope.state = .unclaimed ∨ p.envelope.state = .withdrawn) : (w.drain queue).Sound := by
  induction queue generalizing w with
  | nil => exact h
  | cons item rest ih =>
      cases item with
      | reading r => exact ih h hbroker hnodup hqueue
      | published r bytes => exact ih h hbroker hnodup hqueue
      | required e =>
          have hrest : (envelopes rest).Nodup ∧ e ∉ envelopes rest :=
            ⟨(List.nodup_cons.mp hnodup).2, (List.nodup_cons.mp hnodup).1⟩
          have hreject (p : Publication) (hp : w.publications[e]? = some p) :=
            reject_ok (h.settled.sound e p hp).agrees (hqueue e (List.mem_cons_self ..) p hp)
          have hraises : w.raises e RequiredPublication.reject = false := by
            rw [raises]
            cases hp : w.publications[e]? with
            | none => rfl
            | some p =>
                obtain ⟨after, hok, _⟩ := hreject p hp
                simp only [hok]
          have hsound : (w.call e RequiredPublication.reject).Sound := by
            refine ⟨h.settled.change (fun p hp => (h.settled.sound e p hp).apply
              Publication.method_reject) fun p hp _ hclaimed => ?_,
              h.waiting.change fun _ _ hqueued => absurd hqueued (hbroker e)⟩
            obtain ⟨after, hok, hne⟩ := hreject p hp
            rw [Publication.apply, hok] at hclaimed
            exact absurd hclaimed hne
          rw [drain, hraises]
          refine ih hsound (fun j hj => hbroker j (change_frame.1 ▸ hj)) hrest.1
            fun j hj p hp => ?_
          obtain ⟨before, hbefore, rfl⟩ := get_change hp
          have hne : j ≠ e := by
            rintro rfl
            exact hrest.2 hj
          rw [if_neg hne]
          exact hqueue j (List.mem_cons_of_mem _ hj) before hbefore

theorem receive_sound {item : Item} (hsettled : w.Settled) (hbroker : w.broker.Sound)
    (hqueued : ∀ e, w.broker.Queued e → e < w.publications.length ∧ e ∉ w.taken ∧
      Item.required? item ≠ some e ∧ ∀ p : Publication, w.publications[e]? = some p →
        p.envelope.state = .unclaimed ∨ p.envelope.state = .withdrawn)
    (hretired : envelopes w.retired = [])
    (htaken : ∀ e, e ∈ w.taken ∨ Item.required? item = some e → e < w.publications.length) :
    (w.receive item).Sound := by
  rw [receive]
  split
  case h_1 =>
    exact ⟨hsettled, hbroker, fun e he => ⟨(hqueued e he).1, (hqueued e he).2.1⟩,
      fun e p he hp => (hqueued e he).2.2.2 p hp, hretired, fun e he => htaken e (.inl he)⟩
  case h_2 e hitem =>
    refine ⟨⟨hsettled.sound, hsettled.story, hsettled.noted, fun j p hp hstate =>
      List.mem_append_left _ (hsettled.claimed j p hp hstate)⟩, hbroker, fun j hj => ?_,
      fun j p hj hp => (hqueued j hj).2.2.2 p hp, hretired, fun j hj => ?_⟩
    case refine_2 =>
      rcases List.mem_append.mp hj with hj | hj
      · exact htaken j (.inl hj)
      · exact htaken j (.inr (List.mem_singleton.mp hj ▸ hitem))
    obtain ⟨hlt, hfree, hother, _⟩ := hqueued j hj
    refine ⟨hlt, fun hmem => ?_⟩
    rcases List.mem_append.mp hmem with hmem | hmem
    · exact hfree hmem
    · rw [List.mem_singleton.mp hmem] at hother
      exact hother hitem

theorem Sound.withBroker (h : w.Sound) {b : DataBroker} (hb : b.Sound)
    (hqueued : ∀ e, b.Queued e → w.broker.Queued e) : { w with broker := b }.Sound :=
  ⟨⟨h.settled.sound, h.settled.story, h.settled.noted, h.settled.claimed⟩, hb,
    fun e he => h.waiting.queued e (hqueued e he),
    fun e p he hp => h.waiting.waiting e p (hqueued e he) hp, h.waiting.retired,
    h.waiting.taken⟩

theorem Sound.queue (h : w.Sound) {b : DataBroker} (hb : b.Sound)
    (hqueued : ∀ e, b.Queued e → e = w.publications.length ∨ w.broker.Queued e) (reading : Reading)
    (requestId requestFingerprint : String) :
    { w with
      broker := b
      publications := w.publications ++
        [Publication.queued reading requestId requestFingerprint] }.Sound := by
  have hget (e : ℕ) (p : Publication)
      (hp : (w.publications ++
        [Publication.queued reading requestId requestFingerprint])[e]? = some p) :
      w.publications[e]? = some p ∨ e = w.publications.length ∧
        p = .queued reading requestId requestFingerprint := by
    rw [List.getElem?_append] at hp
    split at hp
    case isTrue => exact .inl hp
    case isFalse hle =>
      rw [List.getElem?_singleton] at hp
      split at hp
      case isFalse => cases hp
      case isTrue hzero =>
        cases hp
        exact .inr ⟨by omega, rfl⟩
  have hnotes : notesOf w.publications.length w.notes = [] := by
    refine List.filter_eq_nil_iff.mpr fun n hn heq => ?_
    exact absurd (h.settled.noted n hn) (of_decide_eq_true heq ▸ lt_irrefl _)
  refine ⟨⟨fun e p hp => ?_, fun e p hp => ?_, fun n hn => ?_, fun e p hp hstate => ?_⟩, hb,
    fun e he => ?_, fun e p he hp => ?_, h.waiting.retired, fun e he => ?_⟩
  · rcases hget e p hp with hp | ⟨_, rfl⟩
    · exact h.settled.sound e p hp
    · exact Publication.sound_queued reading requestId requestFingerprint
  · rcases hget e p hp with hp | ⟨rfl, rfl⟩
    · exact h.settled.story e p hp
    · change Story _ .unclaimed (notesOf w.publications.length w.notes)
      rw [hnotes]
      exact .unclaimed
  · rw [List.length_append]
    exact (h.settled.noted n hn).trans_le (Nat.le_add_right ..)
  · rcases hget e p hp with hp | ⟨_, rfl⟩
    · exact h.settled.claimed e p hp hstate
    · cases hstate
  · rw [List.length_append]
    rcases hqueued e he with rfl | he
    · exact ⟨Nat.lt_succ_self _, fun hmem => absurd (h.waiting.taken _ hmem) (lt_irrefl _)⟩
    · obtain ⟨hlt, hfree⟩ := h.waiting.queued e he
      exact ⟨hlt.trans_le (Nat.le_add_right ..), hfree⟩
  · rcases hget e p hp with hp | ⟨_, rfl⟩
    · rcases hqueued e he with rfl | he
      · exact absurd (List.getElem?_eq_some_iff.mp hp).1 (lt_irrefl _)
      · exact h.waiting.waiting e p he hp
    · exact .inl rfl
  · rw [List.length_append]
    exact (h.waiting.taken e he).trans_le (Nat.le_add_right ..)

theorem Sound.take (h : w.Sound) {name : String} {sub : Subscription} {item : Item}
    {rest : List Item} (hsub : w.broker.subscribers.get? name = some sub)
    (hqueue : sub.queue = item :: rest) :
    ({ w with broker := w.broker.setQueue name sub rest }.receive item).Sound := by
  have hitem : ∀ e, Item.required? item = some e →
      envelopes sub.queue = e :: envelopes rest := by
    intro e he
    rw [hqueue]
    exact List.filterMap_cons_some he
  have hsublist : (envelopes rest).Sublist (envelopes sub.queue) :=
    hqueue ▸ (List.sublist_cons_self item rest).filterMap _
  obtain ⟨hb, hqueued⟩ := DataBroker.setQueue_sound h.waiting.broker hsub
    (fun hflag => List.sublist_nil.mp (h.waiting.broker.carried name sub hsub hflag ▸ hsublist))
    ((h.waiting.broker.nodup name sub hsub).sublist hsublist)
  have hback (e : ℕ) (he : (w.broker.setQueue name sub rest).Queued e) :
      w.broker.Queued e ∧ Item.required? item ≠ some e := by
    rcases hqueued e he with hmem | ⟨hother, hname⟩
    · refine ⟨⟨name, sub, hsub, hsublist.subset hmem⟩, fun heq => ?_⟩
      have hnodup := h.waiting.broker.nodup name sub hsub
      rw [hitem e heq] at hnodup
      exact (List.nodup_cons.mp hnodup).1 hmem
    · refine ⟨hother, fun heq => hname ?_⟩
      have hmem : e ∈ envelopes sub.queue := by
        rw [hitem e heq]
        exact List.mem_cons_self ..
      exact (h.waiting.broker.name_of_queued hsub hmem).2
  refine receive_sound ⟨h.settled.sound, h.settled.story, h.settled.noted, h.settled.claimed⟩ hb
    (fun e he => ?_) h.waiting.retired fun e he => ?_
  · obtain ⟨hwaits, hne⟩ := hback e he
    obtain ⟨hlt, hfree⟩ := h.waiting.queued e hwaits
    exact ⟨hlt, hfree, hne, fun p hp => h.waiting.waiting e p hwaits hp⟩
  · rcases he with he | he
    · exact h.waiting.taken e he
    · refine (h.waiting.queued e ⟨name, sub, hsub, ?_⟩).1
      rw [hitem e he]
      exact List.mem_cons_self ..

theorem sound_step (h : w.Sound) (event : Event) : (w.step event).Sound := by
  cases event with
  | subscribe name maxsize policy filterFn wantsDescriptorEnvelope requiredPublisher =>
      rw [step]
      split
      case h_1 hsubscribe =>
        obtain ⟨hb, hqueued⟩ := DataBroker.subscribe_sound h.waiting.broker hsubscribe
        exact h.withBroker hb hqueued
      case h_2 => exact h
  | unsubscribe name expectedQueue =>
      rw [step]
      split
      case h_1 => exact h
      case h_2 b sub hremove =>
        obtain ⟨hb, hsub, hqueued, hnone⟩ := DataBroker.remove_sound h.waiting.broker hremove
        have hw := h.withBroker hb hqueued
        split
        case isTrue hrequired =>
          refine drain_sound hw (hnone hrequired.1) (h.waiting.broker.nodup name sub hsub)
            fun e he p hp => ?_
          exact h.waiting.waiting e p ⟨name, sub, hsub, he⟩ hp
        case isFalse hother =>
          have hempty : envelopes sub.queue = [] := by
            cases hflag : sub.requiredPublisher with
            | false => exact h.waiting.broker.carried name sub hsub hflag
            | true => exact absurd ⟨hflag, h.waiting.broker.required name sub hsub hflag⟩ hother
          refine ⟨⟨h.settled.sound, h.settled.story, h.settled.noted, h.settled.claimed⟩,
            hw.waiting.broker, hw.waiting.queued, hw.waiting.waiting, ?_, h.waiting.taken⟩
          change envelopes (w.retired ++ sub.queue) = []
          rw [envelopes_append, h.waiting.retired, hempty, List.append_nil]
  | reservePublisher name channels =>
      rw [step]
      split
      case h_1 b _ hreserve =>
        obtain ⟨hb, hqueued⟩ := DataBroker.reservePublisher_sound h.waiting.broker hreserve
        exact h.withBroker hb hqueued
      case h_2 => exact h
  | publish reading persistenceAuthoritative descriptorEnvelope publisherAuthority =>
      rw [step]
      split
      case h_1 hpublish =>
        obtain ⟨hb, hqueued⟩ := DataBroker.publish_sound h.waiting.broker hpublish
        exact h.withBroker hb hqueued
      case h_2 => exact h
  | publishRequired reading requestId requestFingerprint =>
      rw [step]
      split
      case h_2 => exact h
      case h_1 b hput =>
        have hnew : ¬ w.broker.Queued w.publications.length :=
          fun hqueued => absurd (h.waiting.queued _ hqueued).1 (lt_irrefl _)
        obtain ⟨hb, hqueued⟩ := DataBroker.putRequired_sound h.waiting.broker hnew hput
        exact h.queue hb hqueued reading requestId requestFingerprint
  | take name =>
      rw [step]
      split
      case h_2 => exact h
      case h_1 sub hsub =>
        split
        case h_1 => exact h
        case h_2 item rest hqueue => exact h.take hsub hqueue
  | takeRetired place =>
      rw [step]
      split
      case h_1 => exact h
      case h_2 item hitem =>
        have hnone : Item.required? item = none := by
          have hmem := List.mem_of_getElem? hitem
          exact List.filterMap_eq_nil_iff.mp h.waiting.retired item hmem
        have hretired : envelopes (w.retired.eraseIdx place) = [] :=
          List.sublist_nil.mp (h.waiting.retired ▸ (List.eraseIdx_sublist ..).filterMap _)
        rw [receive, hnone]
        exact ⟨⟨h.settled.sound, h.settled.story, h.settled.noted, h.settled.claimed⟩,
          h.waiting.broker, h.waiting.queued, h.waiting.waiting, hretired, h.waiting.taken⟩
  | claim e =>
      rw [step]
      split
      case isTrue htaken => exact h.publisher Publication.method_claim htaken
      case isFalse => exact h
  | acknowledge e =>
      rw [step]
      split
      case isTrue htaken => exact h.publisher Publication.method_acknowledge htaken
      case isFalse => exact h
  | reject e =>
      rw [step]
      split
      case isTrue htaken => exact h.publisher Publication.method_reject htaken
      case isFalse => exact h
  | expire e => exact h.caller (fun p hp => hp.expire) expire_state
  | cancel e => exact h.caller (fun p hp => hp.cancel) cancel_state
  | resume e => exact h.caller (fun p hp => hp.resume) fun p _ => .inl (resume_state p)

theorem sound_empty : ({} : World).Sound where
  settled := by
    refine ⟨fun _ _ h => ?_, fun _ _ h => ?_, fun _ h => ?_, fun _ _ h => ?_⟩
    all_goals cases h
  waiting := by
    refine ⟨DataBroker.sound_empty, ?_, ?_, rfl, fun _ h => ?_⟩
    · rintro e ⟨_, _, h, _⟩
      cases h
    · rintro e p ⟨_, _, h, _⟩
      cases h
    · cases h

theorem sound_steps (h : w.Sound) (events : List Event) : (events.foldl step w).Sound := by
  induction events generalizing w with
  | nil => exact h
  | cons event rest ih => exact ih (sound_step h event)

theorem sound_run (events : List Event) : (run events).Sound := sound_steps sound_empty events

theorem run_append (events more : List Event) :
    run (events ++ more) = more.foldl step (run events) := List.foldl_append

theorem run_step (events : List Event) (event : Event) :
    run (events ++ [event]) = (run events).step event := List.foldl_concat ..

structure Later (w v : World) : Prop where
  kept : ∀ (e : ℕ) (p : Publication), w.publications[e]? = some p →
    ∃ q, v.publications[e]? = some q ∧ p.Kept q
  notes : w.notes <+: v.notes

theorem Later.refl (w : World) : w.Later w :=
  ⟨fun _ p hp => ⟨p, hp, .refl p⟩, List.prefix_rfl⟩

theorem Later.trans {u v : World} (h : w.Later v) (h' : v.Later u) : w.Later u := by
  refine ⟨fun e p hp => ?_, h.notes.trans h'.notes⟩
  obtain ⟨q, hq, hkept⟩ := h.kept e p hp
  obtain ⟨r, hr, hkept'⟩ := h'.kept e q hq
  exact ⟨r, hr, hkept.trans hkept'⟩

theorem later_change (hf : ∀ p, w.publications[e]? = some p → p.Kept (f p)) :
    w.Later (w.change e f) := by
  cases hp : w.publications[e]? with
  | none =>
      rw [change_none hp]
      exact .refl w
  | some p =>
      rw [change_eq hp]
      refine ⟨fun j q hq => ?_, List.prefix_append ..⟩
      by_cases heq : e = j
      · subst heq
        have hsame : q = p := Option.some.inj (hq.symm.trans hp)
        subst hsame
        refine ⟨f q, ?_, hf q hp⟩
        exact List.getElem?_set_self (List.getElem?_eq_some_iff.mp hp).1
      · exact ⟨q, (List.getElem?_set_ne heq).trans hq, .refl q⟩

theorem later_call {method : RequiredPublication → Except String RequiredPublication}
    (h : ∀ (e : ℕ) (p : Publication), w.publications[e]? = some p → p.Sound)
    (hmethod : Publication.Method method) : w.Later (w.call e method) :=
  later_change fun p hp => ((h e p hp).apply hmethod).2.kept (h e p hp)

theorem later_drain {v : World} {queue : List Item}
    (h : ∀ (e : ℕ) (p : Publication), v.publications[e]? = some p → p.Sound) (hw : w.Later v) :
    w.Later (v.drain queue) := by
  induction queue generalizing v with
  | nil => exact hw
  | cons item rest ih =>
      cases item with
      | reading r => exact ih h hw
      | published r bytes => exact ih h hw
      | required e =>
          rw [drain]
          split
          case isTrue => exact ⟨hw.kept, hw.notes⟩
          case isFalse =>
            refine ih (fun j q hq => ?_) (hw.trans (later_call h Publication.method_reject))
            obtain ⟨p, hp, rfl⟩ := get_change hq
            split
            · exact ((h j p hp).apply Publication.method_reject).1
            · exact h j p hp

theorem later_receive {v : World} {item : Item} (h : w.Later v) : w.Later (v.receive item) := by
  rw [receive]
  split
  · exact h
  · exact ⟨h.kept, h.notes⟩

theorem later_step (h : w.Sound) (event : Event) : w.Later (w.step event) := by
  cases event with
  | subscribe name maxsize policy filterFn wantsDescriptorEnvelope requiredPublisher =>
      rw [step]
      split
      · exact ⟨(Later.refl w).kept, List.prefix_rfl⟩
      · exact .refl w
  | unsubscribe name expectedQueue =>
      rw [step]
      split
      · exact .refl w
      · split
        · exact later_drain h.settled.sound ⟨(Later.refl w).kept, List.prefix_rfl⟩
        · exact ⟨(Later.refl w).kept, List.prefix_rfl⟩
  | reservePublisher name channels =>
      rw [step]
      split
      · exact ⟨(Later.refl w).kept, List.prefix_rfl⟩
      · exact .refl w
  | publish reading persistenceAuthoritative descriptorEnvelope publisherAuthority =>
      rw [step]
      split
      · exact ⟨(Later.refl w).kept, List.prefix_rfl⟩
      · exact .refl w
  | publishRequired reading requestId requestFingerprint =>
      rw [step]
      split
      · refine ⟨fun e p hp => ⟨p, ?_, .refl p⟩, List.prefix_rfl⟩
        exact (List.getElem?_append_left (List.getElem?_eq_some_iff.mp hp).1).trans hp
      · exact .refl w
  | take name =>
      rw [step]
      split
      · split
        · exact .refl w
        · exact later_receive ⟨(Later.refl w).kept, List.prefix_rfl⟩
      · exact .refl w
  | takeRetired place =>
      rw [step]
      split
      · exact .refl w
      · exact later_receive ⟨(Later.refl w).kept, List.prefix_rfl⟩
  | claim e =>
      rw [step]
      split
      · exact later_call h.settled.sound Publication.method_claim
      · exact .refl w
  | acknowledge e =>
      rw [step]
      split
      · exact later_call h.settled.sound Publication.method_acknowledge
      · exact .refl w
  | reject e =>
      rw [step]
      split
      · exact later_call h.settled.sound Publication.method_reject
      · exact .refl w
  | expire e =>
      exact later_change fun p hp => (h.settled.sound e p hp).expire.2.kept (h.settled.sound e p hp)
  | cancel e =>
      exact later_change fun p hp => (h.settled.sound e p hp).cancel.2.kept (h.settled.sound e p hp)
  | resume e =>
      exact later_change fun p hp => (h.settled.sound e p hp).resume.2.kept (h.settled.sound e p hp)

theorem later_steps (h : w.Sound) (events : List Event) : w.Later (events.foldl step w) := by
  induction events generalizing w with
  | nil => exact .refl w
  | cons event rest ih => exact (later_step h event).trans (ih (sound_step h event))

theorem change_get {p : Publication} (hp : w.publications[e]? = some p) :
    (w.change e f).publications[e]? = some (f p) := by
  rw [change_eq hp]
  exact List.getElem?_set_self (List.getElem?_eq_some_iff.mp hp).1

theorem expire_begun {p : Publication} (h : p.Sound) : p.expire.envelope.state ≠ .unclaimed := by
  by_cases hstate : p.envelope.state = .unclaimed
  · rw [Publication.expire, if_pos (h.unclaimed hstate),
      RequiredPublication.withdrawIfUnclaimed_eq h.agrees]
    simp only [if_pos hstate]
    intro hunclaimed
    cases hunclaimed
  · exact (h.expire.2.kept h).begun hstate

theorem acknowledge_claimed {p : Publication} (h : p.Sound) (hstate : p.envelope.state = .claimed) :
    (p.apply RequiredPublication.acknowledge).envelope.state = .acknowledged := by
  have hpending : p.envelope.settlement = none := h.agrees.pending.mpr (.inr hstate)
  rw [Publication.apply, RequiredPublication.acknowledge, hstate]
  simp only [RequiredPublication.settle, hpending]
  rfl

theorem reject_claimed {p : Publication} (h : p.Sound) (hstate : p.envelope.state = .claimed) :
    (p.apply RequiredPublication.reject).envelope.state = .rejected := by
  have hpending : p.envelope.settlement = none := h.agrees.pending.mpr (.inr hstate)
  rw [Publication.apply, RequiredPublication.reject, hstate]
  simp only [RequiredPublication.settle, hpending]
  rfl

theorem resume_settled {p : Publication} (h : p.Sound)
    (hterminal : p.envelope.state.terminal = true) : p.resume.outcome.isSome = true := by
  rw [h.agrees.terminal] at hterminal
  obtain ⟨s, hs⟩ := Option.isSome_iff_exists.mp hterminal
  rw [Publication.resume]
  split
  case isTrue hdone => exact hdone
  case isFalse =>
    rw [hs]
    cases s with
    | result => rfl
    | notSettled => rfl
    | expired => rfl
    | callerCancelled => rfl

theorem outcome_state {p : Publication} {o : Outcome} (h : p.Sound) (ho : p.outcome = some o) :
    p.envelope.state.terminal = true ∧ (o = .receipt → p.envelope.state = .acknowledged) ∧
      (o = .raised Settlement.expired.message → p.envelope.state = .withdrawn) ∧
      (o = .cancelled → p.envelope.state = .acknowledged ∨ p.envelope.state = .withdrawn) := by
  obtain ⟨s, hs, hends⟩ := h.ended o ho
  have hterminal : p.envelope.state.terminal = true := by
    rw [h.agrees.terminal, hs]
    rfl
  have hstate : p.envelope.state = s.state := by
    cases h.agrees with
    | unclaimed _ hnone =>
        rw [hs] at hnone
        cases hnone
    | claimed _ hnone =>
        rw [hs] at hnone
        cases hnone
    | settled t ht hsome =>
        rw [hs] at hsome
        cases hsome
        exact ht
  refine ⟨hterminal, ?_, ?_, ?_⟩
  all_goals
    rintro rfl
    rw [hstate]
  · cases hends
    rfl
  · generalize hmessage : Settlement.expired.message = message at hends
    cases hends with
    | notSettled =>
        revert hmessage
        decide
    | expired => rfl
  · cases hends with
    | cancelled => exact .inl rfl
    | callerCancelled => exact .inr rfl

end World

open World

/-- Every envelope is settled once: a receipt stands for a claim and an acknowledgement, an envelope
whose call failed before the claim is never claimed, and telemetry evicts none. -/
theorem required_publication_settled_once (events more : List Event) (e : ℕ) (p : Publication)
    (hp : (run events).publications[e]? = some p) :
    (notesOf e (run events).notes).countP Note.settles =
        (if p.envelope.state.terminal then 1 else 0) ∧
      (∃ q, (run (events ++ more)).publications[e]? = some q ∧
        (p.envelope.state.terminal = true → q.envelope = p.envelope) ∧
        (.expire e ∈ more → q.envelope.state ≠ .unclaimed) ∧
        (q.envelope.state = .claimed →
          (run (events ++ more ++ [.acknowledge e])).publications[e]?.map
              (fun q => q.envelope.state) = some .acknowledged ∧
            (run (events ++ more ++ [.reject e])).publications[e]?.map
              (fun q => q.envelope.state) = some .rejected) ∧
        (q.outcome.isSome = true → q.envelope.state.terminal = true) ∧
        (q.envelope.state.terminal = true →
          ((run (events ++ more ++ [.resume e])).publications[e]?.bind
            fun q => q.outcome).isSome = true)) ∧
      (p.outcome = some .receipt →
        notesOf e (run events).notes = [.claimed e, .acknowledged e]) ∧
      (p.outcome = some (.raised Settlement.expired.message) ∨
          p.outcome = some .cancelled ∧ .claimed e ∉ (run events).notes →
        .claimed e ∉ (run (events ++ more)).notes) ∧
      ∀ reading persistenceAuthoritative descriptorEnvelope publisherAuthority name sub,
        (run events).broker.subscribers.get? name = some sub → e ∈ envelopes sub.queue →
        ∃ sub', (run (events ++ [.publish reading persistenceAuthoritative descriptorEnvelope
            publisherAuthority])).broker.subscribers.get? name = some sub' ∧
          e ∈ envelopes sub'.queue := by
  have hsound := sound_run events
  have hpSound := hsound.settled.sound e p hp
  have hstory := hsound.settled.story e p hp
  have hlater : (run events).Later (run (events ++ more)) := by
    rw [run_append]
    exact later_steps hsound more
  have hsound' := sound_run (events ++ more)
  obtain ⟨q, hq, hkept⟩ := hlater.kept e p hp
  have hqSound := hsound'.settled.sound e q hq
  refine ⟨hstory.settlements, ⟨q, hq, hkept.settled, fun hexpire => ?_, fun hclaimed => ?_,
    fun hdone => ?_, fun hterminal => ?_⟩, fun hreceipt => ?_, fun hfailed => ?_, ?_⟩
  · obtain ⟨before, after, rfl⟩ := List.mem_iff_append.mp hexpire
    have hbefore := sound_run (events ++ before)
    obtain ⟨p₁, hp₁, _⟩ := (later_steps hsound before).kept e p hp
    rw [← run_append] at hp₁
    have hrest : ((run (events ++ before)).step (.expire e)).Later
        (run (events ++ (before ++ .expire e :: after))) := by
      have hrun : run (events ++ (before ++ .expire e :: after)) =
          after.foldl step ((run (events ++ before)).step (.expire e)) := by
        rw [← List.append_assoc, run_append (events ++ before), List.foldl_cons]
      rw [hrun]
      exact later_steps (sound_step hbefore _) after
    obtain ⟨q', hq', hkept'⟩ := hrest.kept e _ (change_get hp₁)
    have hsame : q = q' := Option.some.inj (hq.symm.trans hq')
    rw [hsame]
    exact hkept'.begun (expire_begun (hbefore.settled.sound e p₁ hp₁))
  · have htaken := hsound'.settled.claimed e q hq hclaimed
    rw [run_step, run_step, step, step, if_pos htaken, if_pos htaken, call, call, change_get hq,
      change_get hq, Option.map_some, Option.map_some, acknowledge_claimed hqSound hclaimed,
      reject_claimed hqSound hclaimed]
    exact ⟨rfl, rfl⟩
  · obtain ⟨o, ho⟩ := Option.isSome_iff_exists.mp hdone
    exact (outcome_state hqSound ho).1
  · rw [run_step, step, change_get hq, Option.bind_some]
    exact resume_settled hqSound hterminal
  · have hstate := (outcome_state hpSound hreceipt).2.1 rfl
    rw [hstate] at hstory
    exact hstory.acknowledged_eq
  · -- the call has failed, so that the envelope was withdrawn
    have hwithdrawn : p.envelope.state = .withdrawn := by
      rcases hfailed with hexpired | ⟨hcancelled, hnone⟩
      · exact (outcome_state hpSound hexpired).2.2.1 rfl
      · rcases (outcome_state hpSound hcancelled).2.2.2 rfl with hstate | hstate
        · rw [hstate] at hstory
          have hmem : Note.claimed e ∈ notesOf e (run events).notes := by
            rw [hstory.acknowledged_eq]
            exact List.mem_cons_self ..
          exact absurd ((mem_notesOf rfl).mp hmem) hnone
        · exact hstate
    have hq' : q.envelope = p.envelope := hkept.settled (by rw [hwithdrawn]; rfl)
    have hlast := hsound'.settled.story e q hq
    rw [hq', hwithdrawn] at hlast
    intro hclaimed
    have hmem : Note.claimed e ∈ notesOf e (run (events ++ more)).notes :=
      (mem_notesOf rfl).mpr hclaimed
    rw [hlast.withdrawn_eq, List.mem_singleton] at hmem
    cases hmem
  · intro reading persistenceAuthoritative descriptorEnvelope publisherAuthority name sub hsub he
    rw [run_step, step]
    split
    case h_2 => exact ⟨sub, hsub, he⟩
    case h_1 hpublish =>
      have heq := DataBroker.publish_envelopes hsound.waiting.broker hpublish name
      rw [hsub, Option.map_some] at heq
      obtain ⟨sub', hsub', hpair⟩ := Option.map_eq_some_iff.mp heq
      exact ⟨sub', hsub', (Prod.mk.inj hpair).1 ▸ he⟩

/-- An event that the publisher must have settled. -/
def benchReading : Reading where
  timestamp := 0
  instrumentId := "engine"
  channel := "operator_log"
  value := 1.0
  unit := ""

def benchPublication : Publication :=
  .queued benchReading "00000000000000000000000000000000"
    "0000000000000000000000000000000000000000000000000000000000000000"

def benchStart : List Event :=
  [.subscribe "zmq_publisher" 2 .dropOldest none false true,
    .publishRequired benchReading "00000000000000000000000000000000"
      "0000000000000000000000000000000000000000000000000000000000000000"]

def benchRest : List Event := [.take "zmq_publisher", .claim 0, .acknowledge 0, .resume 0]

theorem bench_publication : (run benchStart).publications[0]? = some benchPublication := by
  rfl

theorem required_publication_settled_once_bench :
    (notesOf 0 (run benchStart).notes).countP Note.settles =
        (if benchPublication.envelope.state.terminal then 1 else 0) ∧
      (∃ q, (run (benchStart ++ benchRest)).publications[0]? = some q ∧
        (benchPublication.envelope.state.terminal = true →
          q.envelope = benchPublication.envelope) ∧
        (.expire 0 ∈ benchRest → q.envelope.state ≠ .unclaimed) ∧
        (q.envelope.state = .claimed →
          (run (benchStart ++ benchRest ++ [.acknowledge 0])).publications[0]?.map
              (fun q => q.envelope.state) = some .acknowledged ∧
            (run (benchStart ++ benchRest ++ [.reject 0])).publications[0]?.map
              (fun q => q.envelope.state) = some .rejected) ∧
        (q.outcome.isSome = true → q.envelope.state.terminal = true) ∧
        (q.envelope.state.terminal = true →
          ((run (benchStart ++ benchRest ++ [.resume 0])).publications[0]?.bind
            fun q => q.outcome).isSome = true)) ∧
      (benchPublication.outcome = some .receipt →
        notesOf 0 (run benchStart).notes = [.claimed 0, .acknowledged 0]) ∧
      (benchPublication.outcome = some (.raised Settlement.expired.message) ∨
          benchPublication.outcome = some .cancelled ∧ .claimed 0 ∉ (run benchStart).notes →
        .claimed 0 ∉ (run (benchStart ++ benchRest)).notes) ∧
      ∀ reading persistenceAuthoritative descriptorEnvelope publisherAuthority name sub,
        (run benchStart).broker.subscribers.get? name = some sub → 0 ∈ envelopes sub.queue →
        ∃ sub', (run (benchStart ++ [.publish reading persistenceAuthoritative descriptorEnvelope
            publisherAuthority])).broker.subscribers.get? name = some sub' ∧
          0 ∈ envelopes sub'.queue :=
  required_publication_settled_once benchStart benchRest 0 benchPublication bench_publication

end Broker
end CryoDaq
