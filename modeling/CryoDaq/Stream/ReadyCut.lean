import CryoDaq.Stream.WorldSteps
import Mathlib.Data.List.Sort

/-!
# A ready cut is complete

The callbacks are given exactly the authoritative readings and the events that
follow the first accepted marker, in order and without a gap (`Delivered`), and a cut
that `ready` returned covers everything that was taken and sent before its barrier
(`Complete`).  A frame that is lost is noticed when a later one arrives: from then on
no cut is complete any more.
-/

namespace CryoDaq
namespace Stream

variable {α : Type}

namespace Publisher

/-- The frames sent with the `n` numbers after a marker. -/
def window (p : Publisher α) (first n : ℕ) : List (Frame α) :=
  p.sent.filter fun f => decide (first < f.sequence ∧ f.sequence ≤ first + n)

end Publisher

namespace World

/-- What became of an item that was taken before the barrier of a cut. -/
def Covered (w : World α) (accepted cut : Evidence) (d : Settled α) : Prop :=
  match d.outcome with
  | .sent n => n < cut.sequence ∧ (accepted.sequence < n → d.authoritative = true →
      (n, .reading d.value true) ∈ w.sources.handed)
  | .failed n => n ≤ accepted.publishFailureCount
  | .exhausted => False
  | .withdrawn => True

/-- What a cut that `ready` returned says. -/
structure Complete (w : World α) (accepted cut : Evidence) : Prop where
  after : accepted.sequence ≤ cut.sequence
  taken : ∃ r ∈ w.publisher.answered, r.evidence = cut ∧
    r.alarm = (cut.alarmStateRevision, cut.alarmStateToken) ∧
      r.before ≤ w.publisher.settled.length ∧
        ∀ d ∈ w.publisher.settled.take r.before, w.Covered accepted cut d
  events : ∀ session n value, .data session n (.event value) ∈ w.publisher.sent →
    accepted.sequence < n → n < cut.sequence → (n, .event value) ∈ w.sources.handed
  lossless : accepted = cut ∨ ∃ pre mid post,
    w.publisher.journal = pre ++ .sampled accepted :: (mid ++ .sampled cut :: post) ∧
      .dropped ∉ mid ∧ .failed ∉ mid

def Pledged (s : LiveSources α) (cut : LiveSourceCut) : Prop :=
  s.readyMarker = some (.done cut) ∨ s.ready = .adopting cut

/-- What the callbacks were given and what `ready` returned. -/
structure Delivered (cfg : Config α) (w : World α) : Prop where
  silent : w.sources.accepted = none → w.sources.handed = [] ∧ w.sources.returned = []
  handed : ∀ accepted, w.sources.accepted = some accepted → ∃ n,
    (w.publisher.window accepted.sequence n).map Frame.sequence =
        List.range' (accepted.sequence + 1) n ∧
      w.sources.handed = (w.publisher.window accepted.sequence n).flatMap Frame.handing
  missing : ∀ accepted, w.sources.accepted = some accepted → ∀ f ∈ w.lost, w.own f = true →
    accepted.sequence < f.sequence → ∀ entry ∈ w.sources.handed, entry.1 < f.sequence
  complete : ∀ accepted, w.sources.accepted = some accepted → ∀ cut ∈ w.sources.returned,
    w.Complete accepted cut.evidence
  broken : w.sources.broken = true → ∀ moves, let s := (w.run cfg moves).sources
    s.handed = w.sources.handed ∧ (∀ cut, s.completeSince cfg cut = false) ∧
      (s.returned = w.sources.returned ∨
        ∃ cut, Pledged w.sources cut ∧ s.returned = w.sources.returned ++ [cut])

end World

namespace Publisher

variable {p : Publisher α}

theorem Sound.order (h : p.Sound) {e e' : Evidence} (he : .sampled e ∈ p.journal)
    (he' : .sampled e' ∈ p.journal) (hle : e.sequence ≤ e'.sequence) :
    e = e' ∨ ∃ pre mid post,
      p.journal = pre ++ .sampled e :: (mid ++ .sampled e' :: post) := by
  obtain ⟨before, after, hsplit⟩ := List.append_of_mem he'
  rw [hsplit] at he
  rcases List.mem_append.mp he with hbefore | hafter
  · obtain ⟨pre, mid, hpre⟩ := List.append_of_mem hbefore
    refine .inr ⟨pre, mid, after, ?_⟩
    rw [hsplit, hpre, List.append_assoc, List.cons_append]
  · rcases List.mem_cons.mp hafter with heq | hafter
    · exact .inl (Event.sampled.inj heq)
    · -- The other one was sampled before and has a smaller number.
      obtain ⟨mid, post, hpost⟩ := List.append_of_mem hafter
      have hsplit' : p.journal = (before ++ .sampled e' :: mid) ++ .sampled e :: post := by
        rw [hsplit, hpost, List.append_assoc, List.cons_append]
      have hlt := (h.counted _ _ _ hsplit').2.2 e'
        (List.mem_append_right _ List.mem_cons_self)
      exact absurd hle (not_le.mpr hlt)

/-- Between two barriers that sampled the same counters nothing was dropped and nothing failed. -/
theorem Sound.lossless (h : p.Sound) {e e' : Evidence} {pre mid post : List Event}
    (hsplit : p.journal = pre ++ .sampled e :: (mid ++ .sampled e' :: post))
    (hdrops : e'.readingDropCount = e.readingDropCount)
    (hfailures : e'.publishFailureCount = e.publishFailureCount) :
    .dropped ∉ mid ∧ .failed ∉ mid := by
  obtain ⟨hdrop, hfailure, _⟩ := h.counted pre e _ hsplit
  have hsplit' : p.journal = (pre ++ .sampled e :: mid) ++ .sampled e' :: post := by
    rw [hsplit, List.append_assoc, List.cons_append]
  obtain ⟨hdrop', hfailure', _⟩ := h.counted _ e' post hsplit'
  rw [List.count_append, List.count_cons_of_ne (by simp)] at hdrop' hfailure'
  constructor
  · rw [← List.count_eq_zero]
    omega
  · rw [← List.count_eq_zero]
    omega

end Publisher

namespace World

variable {w : World α}

theorem Sound.sent_of_received (h : w.Sound) {f : Frame α} (hf : f ∈ w.received)
    (hown : w.own f = true) : f ∈ w.publisher.sent := by
  refine h.channel.mem_iff.mp (List.mem_filter.mpr ⟨?_, hown⟩)
  exact List.mem_append_left _ (List.mem_append_left _ hf)

theorem Sound.received_ne_lost (h : w.Sound) {f g : Frame α} (hf : f ∈ w.received)
    (hfown : w.own f = true) (hg : g ∈ w.lost) (hgown : w.own g = true) :
    f.sequence ≠ g.sequence := by
  have hnodup : (((w.received ++ w.lost ++ w.pipe).filter w.own).map Frame.sequence).Nodup :=
    (h.channel.map Frame.sequence).nodup_iff.mpr
      (h.publisher.ascending.imp fun hlt => Nat.ne_of_lt hlt)
  rw [List.filter_append, List.filter_append, List.map_append, List.map_append] at hnodup
  have hdisjoint := (List.nodup_append.mp (List.nodup_append.mp hnodup).1).2.2
  exact hdisjoint f.sequence (List.mem_map_of_mem (List.mem_filter.mpr ⟨hf, hfown⟩)) g.sequence
    (List.mem_map_of_mem (List.mem_filter.mpr ⟨hg, hgown⟩))

theorem sequence_of_handing {f : Frame α} {entry : ℕ × Body α} (h : entry ∈ f.handing) :
    entry.1 = f.sequence := by
  cases f with
  | foreign => cases h
  | malformed => cases h
  | marker nonce e => cases h
  | data session sequence body =>
      unfold Frame.handing at h
      dsimp only at h
      split at h
      · exact congrArg Prod.fst (List.mem_singleton.mp h)
      · cases h

theorem Sound.lt_lost (h : w.Sound) {accepted : Evidence} {run : List (Frame α)}
    (g : w.sources.Following w.received accepted run) (hown : ∀ f ∈ run, w.own f = true)
    {f : Frame α} (hf : f ∈ w.lost) (hfown : w.own f = true)
    (hafter : accepted.sequence < f.sequence) {entry : ℕ × Body α}
    (hentry : entry ∈ w.sources.handed) : entry.1 < f.sequence := by
  by_contra hle
  rw [g.handed] at hentry
  obtain ⟨f', hf', hhanding⟩ := List.mem_flatMap.mp hentry
  have hlast : f'.sequence ∈ run.map Frame.sequence := List.mem_map_of_mem hf'
  rw [g.sequence, List.mem_range'_1] at hlast
  have hentry' := sequence_of_handing hhanding
  -- The number of the lost frame is among those that were followed.
  have hmem : f.sequence ∈ run.map Frame.sequence := by
    rw [g.sequence, List.mem_range'_1]
    omega
  obtain ⟨f'', hf'', heq⟩ := List.mem_map.mp hmem
  exact h.received_ne_lost (g.received f'' hf'') (hown f'' hf'') hf hfown heq

theorem Sound.run_eq_window (h : w.Sound) {accepted : Evidence} {run : List (Frame α)}
    (haccepted : w.sources.accepted = some accepted)
    (g : w.sources.Following w.received accepted run) :
    run = w.publisher.window accepted.sequence run.length ∧ ∀ f ∈ run, w.own f = true := by
  obtain ⟨_, hsession⟩ := h.publisher.vouched_sampled (h.sources.accepted accepted haccepted)
  have hown : ∀ f ∈ run, w.own f = true := by
    intro f hf
    exact decide_eq_true ((g.session f hf).trans (congrArg some hsession))
  refine ⟨?_, hown⟩
  have hrange : ∀ n, n ∈ run.map Frame.sequence ↔
      accepted.sequence < n ∧ n ≤ accepted.sequence + run.length := by
    intro n
    rw [g.sequence, List.mem_range'_1]
    omega
  have hascending : run.Pairwise fun f f' => f.sequence < f'.sequence := by
    rw [← List.pairwise_map, g.sequence]
    exact List.pairwise_lt_range'
  have hwindow : (w.publisher.window accepted.sequence run.length).Pairwise
      fun f f' => f.sequence < f'.sequence :=
    (List.pairwise_map.mp h.publisher.ascending).filter _
  have : Std.Irrefl fun f f' : Frame α => f.sequence < f'.sequence := ⟨fun f => lt_irrefl _⟩
  have : Std.Antisymm fun f f' : Frame α => f.sequence < f'.sequence :=
    ⟨fun f f' hlt hgt => absurd hlt (lt_asymm hgt)⟩
  refine hascending.eq_of_mem_iff hwindow fun f => ⟨fun hf => ?_, fun hf => ?_⟩
  · refine List.mem_filter.mpr ⟨h.sent_of_received (g.received f hf) (hown f hf), ?_⟩
    exact decide_eq_true ((hrange _).mp (List.mem_map_of_mem hf))
  · obtain ⟨hsent, hin⟩ := List.mem_filter.mp hf
    obtain ⟨f', hf', heq⟩ := List.mem_map.mp ((hrange _).mpr (of_decide_eq_true hin))
    rw [← h.publisher.unique (h.sent_of_received (g.received f' hf') (hown f' hf')) hsent heq]
    exact hf'

theorem Sound.handed_of_sent (h : w.Sound) {accepted : Evidence} {run : List (Frame α)}
    (haccepted : w.sources.accepted = some accepted)
    (g : w.sources.Following w.received accepted run) {session : String} {n : ℕ} {body : Body α}
    (hsent : .data session n body ∈ w.publisher.sent) (hafter : accepted.sequence < n)
    (hwithin : n ≤ accepted.sequence + run.length) (hdispatched : body.dispatched = true) :
    (n, body) ∈ w.sources.handed := by
  rw [g.handed, List.mem_flatMap]
  refine ⟨.data session n body, ?_, ?_⟩
  · rw [(h.run_eq_window haccepted g).1]
    exact List.mem_filter.mpr ⟨hsent, decide_eq_true ⟨hafter, hwithin⟩⟩
  · have hhanding : Frame.handing (.data session n body) = [(n, body)] := if_pos hdispatched
    rw [hhanding]
    exact List.mem_singleton_self _

theorem Sound.complete (h : w.Sound) {accepted : Evidence} {run : List (Frame α)}
    (haccepted : w.sources.accepted = some accepted)
    (g : w.sources.Following w.received accepted run) {cut : LiveSourceCut}
    (hcut : cut ∈ w.sources.returned) : w.Complete accepted cut.evidence := by
  have hpassed := g.returned cut hcut
  have hvouched := h.sources.returned cut hcut
  refine ⟨hpassed.after, ?_, fun session n value hsent hafter hbefore => ?_, ?_⟩
  · obtain ⟨r, hr, heq⟩ := hvouched
    have hsound := h.publisher.answered r hr
    obtain ⟨hbefore, hsettled⟩ := heq ▸ hsound.covers
    refine ⟨r, hr, heq, heq ▸ hsound.alarm, hbefore, fun d hd => ?_⟩
    have hd' := hsettled d hd
    have htold := h.publisher.settled d (List.mem_of_mem_take hd)
    unfold Settled.Before at hd'
    unfold Settled.Told at htold
    unfold Covered
    cases houtcome : d.outcome with
    | sent n =>
        rw [houtcome] at hd' htold
        refine ⟨hd', fun hafter hauthoritative => ?_⟩
        rw [hauthoritative] at htold
        exact h.handed_of_sent haccepted g htold hafter (hd'.le.trans hpassed.within) rfl
    | failed n =>
        rw [houtcome] at hd'
        exact hd'.trans hpassed.failures.le
    | exhausted =>
        rw [houtcome] at hd'
        exact hd'
    | withdrawn => trivial
  · exact h.handed_of_sent haccepted g hsent hafter (hbefore.le.trans hpassed.within) rfl
  · have hfirst := (h.publisher.vouched_sampled (h.sources.accepted accepted haccepted)).1
    have hsecond := (h.publisher.vouched_sampled hvouched).1
    rcases h.publisher.order hfirst hsecond hpassed.after with heq | ⟨pre, mid, post, hsplit⟩
    · exact .inl heq
    · exact .inr ⟨pre, mid, post, hsplit,
        h.publisher.lossless hsplit hpassed.drops hpassed.failures⟩

end World

namespace World

/-- What a generation that lost a frame still does: `ready` may return what was pledged. -/
structure Lapsed (s t : LiveSources α) : Prop where
  broken : t.broken = true
  handed : t.handed = s.handed
  returned : (t.returned = s.returned ∧ ∀ cut, Pledged t cut → Pledged s cut) ∨
    ∃ cut, Pledged s cut ∧ t.returned = s.returned ++ [cut] ∧ ∀ cut', ¬ Pledged t cut'

variable {s t u : LiveSources α}

theorem Lapsed.kept (h : Lapsed s t) (hbroken : u.broken = t.broken)
    (hhanded : u.handed = t.handed) (hreturned : u.returned = t.returned)
    (hpledged : ∀ cut, Pledged u cut → Pledged t cut) : Lapsed s u where
  broken := hbroken.trans h.broken
  handed := hhanded.trans h.handed
  returned := by
    rw [hreturned]
    rcases h.returned with ⟨hsame, hkept⟩ | ⟨cut, hcut, hmore, hnone⟩
    · exact .inl ⟨hsame, fun cut hcut => hkept cut (hpledged cut hcut)⟩
    · exact .inr ⟨cut, hcut, hmore, fun cut' hcut' => hnone cut' (hpledged cut' hcut')⟩

theorem Lapsed.quiet (h : Lapsed s t) (hq : LiveSources.Quiet t u) : Lapsed s u := by
  refine h.kept hq.broken hq.handed hq.returned fun cut hcut => ?_
  rcases hcut with hmarker | hadopting
  · exact .inl (hq.marker cut hmarker)
  · rcases (hq.adopting cut hadopting).2 with ht | ⟨hmarker, _⟩
    · exact .inr ht
    · exact .inl hmarker

theorem Lapsed.answered (h : Lapsed s t) (e : Evidence) (nextNonce : String) :
    Lapsed s (t.answered (some e) nextNonce) := by
  unfold LiveSources.answered
  split
  · refine h.kept rfl rfl rfl fun cut hcut => ?_
    rcases hcut with hmarker | hadopting
    · exact .inl hmarker
    · cases hadopting
  · rename_i hreply
    cases hreply
  · exact h

theorem Lapsed.stop (h : Lapsed s t) : Lapsed s t.stop := by
  refine h.kept rfl rfl rfl fun cut hcut => ?_
  rcases hcut with hmarker | hadopting
  · cases hmarker
  · cases hadopting

theorem Lapsed.returnReady (h : Lapsed s t) {cut : LiveSourceCut}
    (hready : t.ready = .adopting cut) : Lapsed s (t.returnReady cut) where
  broken := h.broken
  handed := h.handed
  returned := by
    rcases h.returned with ⟨hsame, hkept⟩ | ⟨cut', _, _, hnone⟩
    · refine .inr ⟨cut, hkept cut (.inr hready), ?_, fun cut' hcut' => ?_⟩
      · exact congrArg (· ++ [cut]) hsame
      · rcases hcut' with hmarker | hadopting
        · cases hmarker
        · cases hadopting
    · exact absurd (.inr hready) (hnone cut)

theorem Lapsed.after (cfg : Config α) {w : World α} (hw : w.Sound) (h : Lapsed s w.sources)
    (m : Move α) : Lapsed s (w.after cfg m).sources := by
  obtain ⟨hinvalid, haccepted⟩ := hw.sources.broken h.broken
  have hlive := hw.sources.live
  have hstopped : w.sources.running = false := by
    by_contra hrunning
    rw [Bool.not_eq_false] at hrunning
    exact absurd ((hlive hrunning).1.symm.trans hinvalid) (by simp)
  cases m with
  | put value authoritative => exact h
  | dropReading => exact h
  | alarmChanged token => exact h
  | take claimed => exact h
  | publishEvent value => exact h
  | publishOperatorSnapshot => exact h
  | barrier nonce => exact h
  | joined i => exact h
  | leave i => exact h
  | enter i now => exact h
  | succeed =>
      unfold World.after World.transmit
      dsimp only
      split <;> exact h
  | giveUp => exact h
  | cancel i => exact h
  | lose i =>
      unfold World.after World.lose
      dsimp only
      split <;> exact h
  | inject i f =>
      unfold World.after World.inject
      dsimp only
      split <;> exact h
  | connect => exact h.quiet (LiveSources.connect_quiet _)
  | monitorFails reason => exact h.quiet (LiveSources.invalidate_quiet _ reason)
  | receive answer =>
      -- The receive loop has ended.
      unfold World.after World.deliver
      dsimp only
      split
      · rename_i hidle _
        exact absurd (hidle.symm.trans (hw.sources.ended hstopped)) (by simp)
      · exact h
  | settleReceiver => exact h.quiet (LiveSources.settleReceiver_quiet _)
  | ready nonce => exact h.quiet (LiveSources.callReady_quiet hlive nonce)
  | awaitConnected => exact h.quiet (LiveSources.awaitConnected_quiet hlive)
  | request =>
      unfold World.after World.request
      dsimp only
      split
      · rename_i hready
        exact h.quiet (LiveSources.moved_quiet (by simp [hready]) (.inr (by simp [hready]))
          (by simp) (by simp) fun _ => id)
      · exact h
  | reply nextNonce =>
      unfold World.after World.reply
      dsimp only
      split
      · split
        · rename_i reply _
          cases reply with
          | none => exact h.quiet (LiveSources.unanswered_quiet hlive nextNonce)
          | some e => exact h.answered e nextNonce
        · exact h
      · exact h
  | transportFails nextNonce => exact h.quiet (LiveSources.unanswered_quiet hlive nextNonce)
  | unreadable => exact h.quiet (LiveSources.unreadable_quiet hlive)
  | timeout nextNonce => exact h.quiet (LiveSources.timeout_quiet hlive nextNonce)
  | marked => exact h.quiet (LiveSources.marked_quiet hlive)
  | adopt answers =>
      unfold World.after
      dsimp only
      split
      · change Lapsed s (w.sources.adopt answers)
        unfold LiveSources.adopt
        split
        · rename_i cut hready
          split
          · rename_i hsession
            have hopen : w.sources.closed = false := by
              by_contra hclosed
              rw [Bool.not_eq_false] at hclosed
              rw [(hw.sources.closed hclosed).2] at hready
              cases hready
            exact absurd (hw.sources.fresh hopen hsession) haccepted
          · exact h.returnReady hready
        · exact h
      · exact h
  | settleReady => exact h.quiet (LiveSources.settleReady_quiet hlive)
  | cancelReady => exact h.quiet (LiveSources.cancelReady_quiet hlive)
  | stop => exact h.stop

theorem Lapsed.run (cfg : Config α) {w : World α} (hw : w.Sound) (h : Lapsed s w.sources)
    (moves : List (Move α)) : Lapsed s (w.run cfg moves).sources := by
  induction moves generalizing w with
  | nil => exact h
  | cons m rest ih => exact ih (hw.after cfg m) (h.after cfg hw m)

end World

theorem World.Sound.delivered (cfg : Config α) {w : World α} (h : w.Sound) :
    w.Delivered cfg where
  silent := fun hnone => ⟨(h.sources.silent hnone).1, (h.sources.silent hnone).2.2⟩
  handed := by
    intro accepted haccepted
    obtain ⟨run, g⟩ := h.sources.following accepted haccepted
    obtain ⟨hwindow, _⟩ := h.run_eq_window haccepted g
    exact ⟨run.length, hwindow ▸ g.sequence, hwindow ▸ g.handed⟩
  missing := by
    intro accepted haccepted f hf hown hafter entry hentry
    obtain ⟨run, g⟩ := h.sources.following accepted haccepted
    obtain ⟨_, hruns⟩ := h.run_eq_window haccepted g
    exact h.lt_lost g hruns hf hown hafter hentry
  complete := by
    intro accepted haccepted cut hcut
    obtain ⟨run, g⟩ := h.sources.following accepted haccepted
    exact h.complete haccepted g hcut
  broken := by
    intro hbroken moves
    have hlapsed : World.Lapsed w.sources (w.run cfg moves).sources :=
      World.Lapsed.run cfg h ⟨hbroken, rfl, .inl ⟨rfl, fun _ => id⟩⟩ moves
    have hsound := (h.run cfg moves).sources
    refine ⟨hlapsed.handed, fun cut => ?_, ?_⟩
    · unfold LiveSources.completeSince
      rw [(hsound.broken hlapsed.broken).1]
      simp
    · rcases hlapsed.returned with ⟨hsame, _⟩ | ⟨cut, hcut, hmore, _⟩
      · exact .inl hsame
      · exact .inr ⟨cut, hcut, hmore⟩

/-- In every run the callbacks are given what follows the first accepted marker, and a cut that
`ready` returned is complete. -/
theorem ready_cut_complete (cfg : Config α) (sessionId token : String) (moves : List (Move α)) :
    ((World.start sessionId token).run cfg moves).Delivered cfg :=
  ((World.start_sound sessionId token).run cfg moves).delivered cfg

/-! ## A loss that nothing follows -/

/-- No cut is complete once a frame of the accepted generation was lost. -/
def World.EndsOnLoss (cfg : Config α) (w : World α) : Prop :=
  ∀ accepted, w.sources.accepted = some accepted → ∀ f ∈ w.lost, w.own f = true →
    accepted.sequence < f.sequence → ∀ cut, w.sources.completeSince cfg cut = false

/-- `ready` returns nothing more once a frame came that is not the next one. -/
def World.EndsOnGap (cfg : Config α) (w : World α) : Prop :=
  w.sources.broken = true → ∀ moves, (w.run cfg moves).sources.returned = w.sources.returned

/-- The authoritative readings taken before a barrier were handed over or have a number of their
own that is not after the accepted marker. -/
def World.HandsTaken (w : World α) : Prop :=
  ∀ accepted, w.sources.accepted = some accepted → ∀ cut ∈ w.sources.returned,
    ∀ r ∈ w.publisher.answered, r.evidence = cut.evidence →
      ∀ d ∈ w.publisher.settled.take r.before, d.authoritative = true →
        (∃ n, (n, .reading d.value true) ∈ w.sources.handed) ∨
          ∃ n ≤ accepted.sequence, d.outcome = .sent n

def numbers : Config ℕ where
  generation := 1
  readable := fun _ _ => true
  encodedBytes := fun _ _ => 100
  maxProvisionalFrames := 4096
  maxProvisionalBytes := 1048576

/-- A run of a publisher and a subscriber of numbers. -/
def numbersAfter (moves : List (Move ℕ)) : World ℕ :=
  (World.start "session" "token").run numbers moves

/-- `ready` is called, its barrier is answered and its marker arrives. -/
def asked (nonce : String) : List (Move ℕ) :=
  [.ready nonce, .awaitConnected, .request, .joined 0, .enter 0 0, .succeed, .receive .returns,
    .reply nonce]

/-- `ready` goes on after its marker. -/
def adopted : List (Move ℕ) := [.marked, .adopt []]

/-- The first `ready` returns. -/
def fenced : List (Move ℕ) := .connect :: asked "first" ++ adopted

/-- An event is sent, and the channel loses it. -/
def eventLost : List (Move ℕ) := [.publishEvent 7, .enter 0 0, .succeed, .lose 0]

/-- A frame of another session arrives. -/
def intruded : List (Move ℕ) := [.inject 0 (.data "other" 1 (.event 7)), .receive .returns]

/-- The cut of the first `ready`. -/
def firstCut : LiveSourceCut := ⟨1, "session", 1, 0, 0, 0, 0, "token"⟩

/-- A publication is withdrawn before the loop claims it. -/
def withdrawn : List (Move ℕ) := [.put 7 true, .take false]

/-- The cut of the second `ready`. -/
def secondCut : LiveSourceCut := ⟨1, "session", 2, 0, 0, 0, 0, "token"⟩

/-- A lost frame that nothing follows leaves the cut complete, a `ready` whose marker has arrived
returns even after a frame of another session, and a publication that was withdrawn is taken and
not sent. -/
theorem loss_unnoticed : ¬ (∀ moves, (numbersAfter moves).EndsOnLoss numbers) ∧
    ¬ (∀ moves, (numbersAfter moves).EndsOnGap numbers) ∧
      ¬ ∀ moves, (numbersAfter moves).HandsTaken := by
  refine ⟨?_, ?_, ?_⟩
  · intro h
    have hincomplete := h (fenced ++ eventLost) firstCut.evidence rfl
      (.data "session" 2 (.event 7)) (List.mem_singleton_self _) rfl (by decide) firstCut
    have hcomplete : (numbersAfter (fenced ++ eventLost)).sources.completeSince numbers firstCut =
      true := by decide
    exact absurd (hcomplete.symm.trans hincomplete) (by simp)
  · intro h
    have hsame := h (fenced ++ asked "second" ++ intruded) (by decide) adopted
    exact absurd (congrArg List.length hsame) (by decide)
  · intro h
    have hhanded := h (fenced ++ withdrawn ++ asked "second" ++ adopted) firstCut.evidence rfl
      secondCut (by decide) ⟨secondCut.evidence, 1, (0, "token")⟩ (by decide) rfl
      ⟨7, true, .withdrawn⟩ (by decide) rfl
    rcases hhanded with ⟨n, hn⟩ | ⟨n, _, hn⟩
    · exact absurd hn List.not_mem_nil
    · cases hn

end Stream
end CryoDaq
