import CryoDaq.Stream.PublisherSteps
import CryoDaq.Stream.SourceSteps
import Mathlib.Data.List.Perm.Basic

/-!
# Steps of the publisher, the channel and the subscriber together

Every frame that was sent is received, lost or under way (`World.Sound`), and the
evidence that the subscriber holds is that of barriers that were answered.
-/

namespace CryoDaq
namespace Stream

variable {α : Type}

namespace Publisher

variable {p q : Publisher α}

def Vouched (p : Publisher α) (e : Evidence) : Prop := ∃ r ∈ p.answered, r.evidence = e

structure Kept (p q : Publisher α) : Prop where
  sessionId : q.sessionId = p.sessionId
  sent : q.sent = p.sent
  answered : q.answered = p.answered

theorem kept_take (p : Publisher α) (claimed : Bool) : Kept p (p.take claimed) := by
  unfold take
  split
  · dsimp only
    split <;> exact ⟨rfl, rfl, rfl⟩
  · exact ⟨rfl, rfl, rfl⟩

theorem kept_joined (p : Publisher α) (i : ℕ) : Kept p (p.joined i) := by
  unfold joined
  split <;> exact ⟨rfl, rfl, rfl⟩

theorem kept_leave (p : Publisher α) (i : ℕ) : Kept p (p.leave i) := by
  unfold leave
  split <;> exact ⟨rfl, rfl, rfl⟩

theorem kept_begin (p : Publisher α) (s : Sender α) (now : Timestamp) : Kept p (p.begin s now) := by
  unfold begin
  split
  · split <;> exact ⟨rfl, rfl, rfl⟩
  · split <;> exact ⟨rfl, rfl, rfl⟩
  · exact ⟨rfl, rfl, rfl⟩
  · split <;> exact ⟨rfl, rfl, rfl⟩

theorem kept_enter (p : Publisher α) (i : ℕ) (now : Timestamp) : Kept p (p.enter i now) := by
  unfold enter
  split
  · rename_i s _ _
    obtain ⟨hsession, hsent, hanswered⟩ :=
      kept_begin { p with waiting := p.waiting.eraseIdx i } s now
    exact ⟨hsession, hsent, hanswered⟩
  · exact ⟨rfl, rfl, rfl⟩

theorem kept_giveUp (p : Publisher α) : Kept p p.giveUp := by
  unfold giveUp
  split
  · dsimp only
    split <;> exact ⟨rfl, rfl, rfl⟩
  · exact ⟨rfl, rfl, rfl⟩

theorem kept_cancel (p : Publisher α) (i : ℕ) : Kept p (p.cancel i) := by
  unfold cancel
  split
  · dsimp only
    split <;> exact ⟨rfl, rfl, rfl⟩
  · exact ⟨rfl, rfl, rfl⟩

theorem succeed_spec {s : Sending α} (hs : p.sending = some s) :
    p.succeed.sessionId = p.sessionId ∧ p.succeed.sent = p.sent ++ s.frame.toList ∧
      ∀ e, p.Vouched e → p.succeed.Vouched e := by
  unfold succeed
  rw [hs]
  dsimp only
  unfold finish
  split
  · exact ⟨rfl, rfl, fun _ => id⟩
  · unfold conclude
    split
    · refine ⟨rfl, rfl, fun e he => ?_⟩
      obtain ⟨r, hr, heq⟩ := he
      exact ⟨r, List.mem_append_left _ hr, heq⟩
    · exact ⟨rfl, rfl, fun _ => id⟩
  · exact ⟨rfl, rfl, fun _ => id⟩

theorem Sound.unique (h : p.Sound) {f g : Frame α} (hf : f ∈ p.sent) (hg : g ∈ p.sent)
    (heq : f.sequence = g.sequence) : f = g :=
  List.inj_on_of_nodup_map (h.ascending.imp fun hlt => Nat.ne_of_lt hlt) hf hg heq

theorem Sound.vouched_sampled (h : p.Sound) {e : Evidence} (he : p.Vouched e) :
    .sampled e ∈ p.journal ∧ e.sessionId = p.sessionId := by
  obtain ⟨r, hr, rfl⟩ := he
  obtain ⟨nonce, hsent⟩ := (h.answered r hr).sent
  exact ⟨h.markers nonce _ hsent, Option.some.inj (h.session _ hsent)⟩

end Publisher

namespace World

variable {w : World α}

/-- What holds of the publisher, the channel and the subscriber. -/
structure Sound (w : World α) : Prop where
  publisher : w.publisher.Sound
  channel : ((w.received ++ w.lost ++ w.pipe).filter w.own).Perm w.publisher.sent
  sources : w.sources.Sound w.publisher.Vouched w.received

theorem Sound.publish (h : w.Sound) {p : Publisher α} (hp : p.Sound)
    (hkept : Publisher.Kept w.publisher p) : (w.publish p).Sound where
  publisher := hp
  channel := by
    have hown : (w.publish p).own = w.own := by
      funext f
      unfold own World.publish
      rw [hkept.sessionId]
    rw [hown]
    exact h.channel.trans (List.Perm.of_eq hkept.sent.symm)
  sources := by
    refine h.sources.mono (fun e he => ?_) (List.Subset.refl _)
    unfold Publisher.Vouched
    rw [show (w.publish p).publisher.answered = w.publisher.answered from hkept.answered]
    exact he

theorem Sound.subscribe (h : w.Sound) {s : LiveSources α}
    (hs : s.Sound w.publisher.Vouched w.received) : (w.subscribe s).Sound :=
  ⟨h.publisher, h.channel, hs⟩

theorem Sound.quiet (h : w.Sound) {s : LiveSources α} (hs : LiveSources.Quiet w.sources s) :
    (w.subscribe s).Sound :=
  h.subscribe (h.sources.quiet hs)

theorem Sound.transmit (h : w.Sound) : w.transmit.Sound := by
  unfold World.transmit
  split
  · rename_i s hs
    obtain ⟨hsession, hsent, hvouched⟩ := Publisher.succeed_spec hs
    refine ⟨h.publisher.succeed, ?_, h.sources.mono hvouched (List.Subset.refl _)⟩
    have hown : ∀ f ∈ s.frame.toList, w.own f = true := by
      intro f hf
      obtain ⟨hsession, _⟩ := (h.publisher.sending s hs).frame f (Option.mem_toList.mp hf)
      exact decide_eq_true hsession
    have hsame : (World.own { w with
        publisher := w.publisher.succeed
        pipe := w.pipe ++ s.frame.toList } : Frame α → Bool) = w.own := by
      funext f
      unfold own
      rw [hsession]
    rw [hsame, hsent, ← List.append_assoc, List.filter_append, List.filter_eq_self.mpr hown]
    exact h.channel.append_right _
  · exact h

theorem Sound.lose (h : w.Sound) (i : ℕ) : (w.lose i).Sound := by
  unfold World.lose
  split
  · rename_i f hf
    obtain ⟨hi, rfl⟩ := List.getElem?_eq_some_iff.mp hf
    refine ⟨h.publisher, List.Perm.trans (List.Perm.filter _ ?_) h.channel, h.sources⟩
    -- The frame moves from the channel to the lost ones.
    have hpipe := List.getElem_cons_eraseIdx_perm hi
    change ((w.received ++ (w.lost ++ [w.pipe[i]])) ++ w.pipe.eraseIdx i).Perm _
    rw [← List.append_assoc w.received, List.append_assoc (w.received ++ w.lost),
      List.singleton_append]
    exact hpipe.append_left _
  · exact h

theorem Sound.inject (h : w.Sound) (i : ℕ) (f : Frame α) : (w.inject i f).Sound := by
  unfold World.inject
  split
  · exact h
  · rename_i hforeign
    refine ⟨h.publisher, List.Perm.trans ?_ h.channel, h.sources⟩
    change ((w.received ++ w.lost ++ w.pipe.insertIdx i f).filter w.own).Perm _
    rw [List.filter_append, @List.filter_append _ _ (w.received ++ w.lost)]
    refine List.Perm.append_left _ ?_
    rcases Nat.lt_or_ge w.pipe.length i with hi | hi
    · rw [List.insertIdx_of_length_lt hi]
    · refine ((List.perm_insertIdx f w.pipe hi).filter _).trans (List.Perm.of_eq ?_)
      exact List.filter_cons_of_neg hforeign

theorem unsettled_of_unlocked (hunlocked : w.unlocked = true) : w.sources.Unsettled := by
  unfold unlocked at hunlocked
  split at hunlocked
  · cases hunlocked
  · cases hunlocked
  · rename_i hreceiver hready
    exact ⟨hreceiver, hready⟩

theorem Sound.deliver (cfg : Config α) (h : w.Sound) (answer : Answer) :
    (w.deliver cfg answer).Sound := by
  unfold World.deliver
  split
  · rename_i f rest hpipe hidle hunlocked
    refine ⟨h.publisher, List.Perm.trans (List.Perm.filter _ ?_) h.channel,
      h.sources.receive cfg hidle (unsettled_of_unlocked hunlocked) f answer⟩
    -- The frame moves from the channel to the received ones.
    change ((w.received ++ [f] ++ w.lost) ++ rest).Perm (w.received ++ w.lost ++ w.pipe)
    rw [hpipe, List.append_assoc, List.append_assoc, List.append_assoc, List.singleton_append]
    exact List.perm_middle.symm.append_left _
  · exact h

theorem Sound.request (h : w.Sound) : w.request.Sound := by
  unfold World.request
  split
  · rename_i number nonce hready
    have hcalled := h.publish (h.publisher.callBarrier nonce) ⟨rfl, rfl, rfl⟩
    exact hcalled.quiet (LiveSources.moved_quiet (s := w.sources) (by simp [hready])
      (.inr (by simp [hready])) (by simp) (by simp) fun _ => id)
  · exact h

theorem Sound.reply (h : w.Sound) (nextNonce : String) : (w.reply nextNonce).Sound := by
  unfold World.reply
  split
  · split
    · rename_i task _ _ reply hreply
      refine h.subscribe ?_
      cases reply with
      | none => exact h.sources.quiet (LiveSources.unanswered_quiet h.sources.live nextNonce)
      | some e =>
          have hanswered : (task, some e) ∈ w.publisher.replies := by
            obtain ⟨before, after, hsplit, _⟩ := List.lookup_eq_some_iff.mp hreply
            rw [hsplit]
            exact List.mem_append_right _ List.mem_cons_self
          exact h.sources.answered (h.publisher.replies task e hanswered) nextNonce
    · exact h
  · exact h

theorem Sound.after (cfg : Config α) (h : w.Sound) (m : Move α) : (w.after cfg m).Sound := by
  have hlive := h.sources.live
  cases m with
  | put value authoritative =>
      exact h.publish (h.publisher.put value authoritative) ⟨rfl, rfl, rfl⟩
  | dropReading => exact h.publish h.publisher.dropReading ⟨rfl, rfl, rfl⟩
  | alarmChanged token => exact h.publish (h.publisher.alarmChanged token) ⟨rfl, rfl, rfl⟩
  | take claimed => exact h.publish (h.publisher.take claimed) (Publisher.kept_take _ claimed)
  | publishEvent value =>
      exact h.publish (h.publisher.await fun _ _ hwork => by cases hwork) ⟨rfl, rfl, rfl⟩
  | publishOperatorSnapshot =>
      exact h.publish (h.publisher.await fun _ _ hwork => by cases hwork) ⟨rfl, rfl, rfl⟩
  | barrier nonce => exact h.publish (h.publisher.callBarrier nonce) ⟨rfl, rfl, rfl⟩
  | joined i => exact h.publish (h.publisher.joined i) (Publisher.kept_joined _ i)
  | leave i => exact h.publish (h.publisher.leave i) (Publisher.kept_leave _ i)
  | enter i now => exact h.publish (h.publisher.enter i now) (Publisher.kept_enter _ i now)
  | succeed => exact h.transmit
  | giveUp => exact h.publish h.publisher.giveUp (Publisher.kept_giveUp _)
  | cancel i => exact h.publish (h.publisher.cancel i) (Publisher.kept_cancel _ i)
  | lose i => exact h.lose i
  | inject i f => exact h.inject i f
  | connect => exact h.quiet (LiveSources.connect_quiet _)
  | monitorFails reason => exact h.quiet (LiveSources.invalidate_quiet _ reason)
  | receive answer => exact h.deliver cfg answer
  | settleReceiver => exact h.quiet (LiveSources.settleReceiver_quiet _)
  | ready nonce => exact h.quiet (LiveSources.callReady_quiet hlive nonce)
  | awaitConnected => exact h.quiet (LiveSources.awaitConnected_quiet hlive)
  | request => exact h.request
  | reply nextNonce => exact h.reply nextNonce
  | transportFails nextNonce => exact h.quiet (LiveSources.unanswered_quiet hlive nextNonce)
  | unreadable => exact h.quiet (LiveSources.unreadable_quiet hlive)
  | timeout nextNonce => exact h.quiet (LiveSources.timeout_quiet hlive nextNonce)
  | marked => exact h.quiet (LiveSources.marked_quiet hlive)
  | adopt answers =>
      unfold World.after
      dsimp only
      split
      · exact h.subscribe (h.sources.adopt answers)
      · exact h
  | settleReady => exact h.quiet (LiveSources.settleReady_quiet hlive)
  | cancelReady => exact h.quiet (LiveSources.cancelReady_quiet hlive)
  | stop => exact h.subscribe h.sources.stop

theorem Sound.run (cfg : Config α) (h : w.Sound) (moves : List (Move α)) :
    (w.run cfg moves).Sound := by
  induction moves generalizing w with
  | nil => exact h
  | cons m rest ih => exact ih (h.after cfg m)

theorem start_sound (sessionId token : String) : (start sessionId token : World α).Sound :=
  ⟨Publisher.start_sound sessionId token, List.Perm.nil, LiveSources.start_sound _⟩

end World

end Stream
end CryoDaq
