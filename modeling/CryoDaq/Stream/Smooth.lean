import CryoDaq.Stream.WorldSteps

/-!
# A stream without loss

Of a publisher whose frames are all sent, an ordered channel that loses none and a
subscriber whose barriers are answered, what holds in every state is written down here
(`World.Smooth`): the next frame has the next number, its marker is the one that
`ready` waits for, and it carries the counters of the first marker.
-/

namespace CryoDaq
namespace Stream

variable {α : Type}

namespace Work

def barrier? : Work α → Option String
  | barrier nonce _ => some nonce
  | _ => none

/-- The body of the frame of a reading or an event. -/
def body? : Work α → Option (Body α)
  | reading value authoritative => some (.reading value authoritative)
  | event value => some (.event value)
  | _ => none

end Work

/-- The barrier of a task that waits for the lock. -/
def Sender.barrier? (s : Sender α) : Option (ℕ × String) := s.work.barrier?.map fun n => (s.task, n)

def Sending.barrier? (s : Sending α) : Option (ℕ × String) :=
  s.work.barrier?.map fun n => (s.task, n)

namespace Publisher

variable (p : Publisher α)

def inFlight : List (Frame α) := (p.sending.bind fun s => s.frame).toList

def barriers : List (ℕ × String) :=
  p.joining.map (fun j => (j.task, j.nonce)) ++ p.waiting.filterMap Sender.barrier? ++
    (p.sending.bind Sending.barrier?).toList

end Publisher

structure Sending.Shaped (cfg : Config α) (p : Publisher α) (s : Sending α) : Prop where
  body : ∀ body, s.work.body? = some body →
    s.frame = some (.data p.sessionId p.sequence body) ∧ cfg.readable p.sequence body = true
  snapshot : s.work = .snapshot → s.frame = none
  barrier : ∀ nonce before, s.work = .barrier nonce before → ∃ e, s.frame = some (.marker nonce e) ∧
    e.alarmStateRevision = p.alarmStateRevision ∧ e.readingDropCount = p.readingDropCount

theorem Sending.Shaped.readable {cfg : Config α} {p : Publisher α} {s : Sending α}
    (h : s.Shaped cfg p) {session : String} {n : ℕ} {body : Body α}
    (hframe : s.frame = some (.data session n body)) : cfg.readable n body = true := by
  cases hwork : s.work with
  | reading value authoritative =>
      obtain ⟨hshaped, hreadable⟩ := h.body (.reading value authoritative) (by rw [hwork]; rfl)
      obtain ⟨-, rfl, rfl⟩ := Frame.data.inj (Option.some.inj (hshaped.symm.trans hframe))
      exact hreadable
  | event value =>
      obtain ⟨hshaped, hreadable⟩ := h.body (.event value) (by rw [hwork]; rfl)
      obtain ⟨-, rfl, rfl⟩ := Frame.data.inj (Option.some.inj (hshaped.symm.trans hframe))
      exact hreadable
  | snapshot => cases (h.snapshot hwork).symm.trans hframe
  | barrier nonce before =>
      obtain ⟨e, hmarker, -⟩ := h.barrier nonce before hwork
      cases hmarker.symm.trans hframe

theorem Sending.work_of_barrier {s : Sending α} {barrier : ℕ × String}
    (h : s.barrier? = some barrier) :
    barrier.1 = s.task ∧ ∃ before, s.work = .barrier barrier.2 before := by
  cases hwork : s.work with
  | barrier nonce before =>
      simp only [Sending.barrier?, hwork, Work.barrier?, Option.map_some, Option.some.injEq] at h
      subst h
      exact ⟨rfl, before, rfl⟩
  | reading value authoritative => simp [Sending.barrier?, hwork, Work.barrier?] at h
  | event value => simp [Sending.barrier?, hwork, Work.barrier?] at h
  | snapshot => simp [Sending.barrier?, hwork, Work.barrier?] at h

/-- What holds of a publisher whose sequenced frames are all sent. -/
structure Publisher.Smooth (cfg : Config α) (p : Publisher α) : Prop where
  numbered : (p.sent ++ p.inFlight).map Frame.sequence = List.range' 1 p.sequence
  alive : p.sequence < periodicMaxSequence
  steady : ∀ e, .sampled e ∈ p.journal → e.readingDropCount = p.readingDropCount ∧
    e.publishFailureCount = p.publishFailureCount
  answers : ∀ task, (task, none) ∉ p.replies
  sending : ∀ s, p.sending = some s → s.Shaped cfg p

/-- What holds of a subscriber that was given every frame, `count` of them. -/
structure LiveSources.Smooth (session : String) (count : ℕ) (s : LiveSources α) : Prop where
  valid : s.invalid = false
  running : s.running = true
  retired : s.retiredReadyNonces = []
  front : s.sessionId ≠ none → s.lastSequence = some count
  held : s.sessionId = none → ∀ cut, s.provisionalCut = some cut →
    cut.evidence.sessionId = session ∧ s.provisionalLast = some count ∧
      count = cut.evidence.sequence + s.provisional.length ∧
        s.provisional.map Prod.fst =
          List.range' (cut.evidence.sequence + 1) s.provisional.length
  unsettled : s.Unsettled

namespace World

/-- A step that loses nothing, and whose frame the subscriber reads. -/
def Clean (cfg : Config α) (w : World α) : Move α → Prop
  | .dropReading => False
  | .alarmChanged _ => ∀ s, w.publisher.sending = some s → s.barrier? = none
  | .barrier _ => False
  | .leave _ => False
  | .enter i _ => w.publisher.sequence + 1 < periodicMaxSequence ∧
      ∀ s, w.publisher.waiting[i]? = some s → ∀ body, s.work.body? = some body →
        cfg.readable (w.publisher.sequence + 1) body = true
  | .giveUp => ∀ s, w.publisher.sending = some s →
      s.work = .snapshot ∧ ∀ e, .sampled e ∉ w.publisher.journal
  | .cancel i => ∀ s, w.publisher.waiting[i]? = some s →
      s.barrier? = none ∧ (s.work = .snapshot → ∀ e, .sampled e ∉ w.publisher.journal)
  | .lose _ => False
  | .inject _ frame => frame = .foreign
  | .monitorFails _ => False
  | .receive answer => answer = .returns ∧
      ∀ session n body rest, w.pipe = .data session n body :: rest → w.sources.sessionId = none →
        w.sources.provisional.length < cfg.maxProvisionalFrames ∧
          w.sources.provisionalBytes + cfg.encodedBytes n body ≤ cfg.maxProvisionalBytes
  | .transportFails _ => False
  | .unreadable => False
  | .timeout _ => False
  | .adopt answers => ∀ answer ∈ answers, answer = .returns
  | .cancelReady => False
  | _ => True

/-! ## What holds of a stream without loss -/

def markers (frames : List (Frame α)) : List (String × Evidence) :=
  frames.filterMap fun f =>
    match f with
    | .marker nonce e => some (nonce, e)
    | _ => none

variable (cfg : Config α) (w : World α)

/-- The number of the publisher's frames that were received. -/
def count : ℕ := (w.received.filter w.own).length

/-- `ready` waits for the marker of a nonce. -/
def Asked (nonce : String) : Prop :=
  w.sources.readyNonce = some nonce ∧ w.sources.readyMarker = some .pending ∧
    (w.sources.sessionId = none → w.sources.provisionalCut = none)

/-- The marker of a barrier that was answered is under way or has arrived. -/
def Arriving (nonce : String) (e : Evidence) : Prop :=
  (markers w.pipe = [(nonce, e)] ∧ w.Asked nonce) ∨
    (markers w.pipe = [] ∧ w.sources.readyMarker = some (.done ⟨cfg.generation, e⟩) ∧
      (w.sources.sessionId = none → w.sources.provisionalCut = some ⟨cfg.generation, e⟩))

/-- Where the barrier of `ready` is. -/
def Stage : Prop :=
  match w.sources.ready with
  | .idle => w.publisher.barriers = [] ∧ markers w.pipe = [] ∧
      (w.sources.sessionId = none → w.sources.provisionalCut = none)
  | .connecting nonce => w.publisher.barriers = [] ∧ markers w.pipe = [] ∧ w.Asked nonce
  | .querying _ nonce none => w.publisher.barriers = [] ∧ markers w.pipe = [] ∧ w.Asked nonce
  | .querying _ nonce (some task) =>
      (w.publisher.barriers = [(task, nonce)] ∧ markers w.pipe = [] ∧ w.Asked nonce ∧
        task < w.publisher.tasks ∧ ∀ r, (task, r) ∉ w.publisher.replies) ∨
      (w.publisher.barriers = [] ∧
        ∃ e, w.publisher.replies.lookup task = some (some e) ∧ w.Arriving cfg nonce e)
  | .marking _ nonce e => w.publisher.barriers = [] ∧ w.Arriving cfg nonce e
  | .adopting cut => w.publisher.barriers = [] ∧ markers w.pipe = [] ∧
      (w.sources.sessionId = none → w.sources.provisionalCut = some cut)
  | .settling _ => False

/-- What holds of a stream that lost nothing, while its subscriber is open. -/
structure Smooth : Prop where
  publisher : w.publisher.Smooth cfg
  early : ∀ r ∈ w.publisher.replies, r.1 < w.publisher.tasks
  ordered : (w.received ++ w.pipe).filter w.own = w.publisher.sent
  frames : ∀ f ∈ w.pipe, f = .foreign ∨
    (w.own f = true ∧ ∀ session n body, f = .data session n body → cfg.readable n body = true)
  sources : w.sources.Smooth w.publisher.sessionId w.count
  stage : w.Stage cfg

end World

namespace Publisher

variable {p q : Publisher α} {cfg : Config α}

theorem Smooth.same (h : p.Smooth cfg) (hsessionId : q.sessionId = p.sessionId)
    (hsent : q.sent = p.sent) (hsending : q.sending = p.sending) (hsequence : q.sequence = p.sequence)
    (hjournal : q.journal = p.journal) (hdrops : q.readingDropCount = p.readingDropCount)
    (hfailures : q.publishFailureCount = p.publishFailureCount) (hreplies : q.replies = p.replies)
    (halarm : q.alarmStateRevision = p.alarmStateRevision) : q.Smooth cfg where
  numbered := by
    unfold inFlight
    rw [hsent, hsending, hsequence]
    exact h.numbered
  alive := hsequence ▸ h.alive
  steady := by
    rw [hjournal, hdrops, hfailures]
    exact h.steady
  answers := by
    rw [hreplies]
    exact h.answers
  sending := by
    rw [hsending]
    intro s hs
    have g := h.sending s hs
    refine ⟨?_, g.snapshot, ?_⟩
    · rw [hsessionId, hsequence]
      exact g.body
    · rw [halarm, hdrops]
      exact g.barrier

theorem Smooth.take (h : p.Smooth cfg) (claimed : Bool) : (p.take claimed).Smooth cfg := by
  unfold Publisher.take
  split
  · dsimp only
    split
    · exact h.same rfl rfl rfl rfl rfl rfl rfl rfl rfl
    · exact h.same rfl rfl rfl rfl rfl rfl rfl rfl rfl
  · exact h

theorem barriers_await (p : Publisher α) {work : Work α} (hwork : work.barrier? = none) :
    (p.await work).barriers = p.barriers := by
  unfold barriers await
  dsimp only
  rw [List.filterMap_append, List.filterMap_cons_none (by simp [Sender.barrier?, hwork]),
    List.filterMap_nil, List.append_nil]

theorem barriers_take (p : Publisher α) (claimed : Bool) : (p.take claimed).barriers = p.barriers := by
  unfold take
  split
  · dsimp only
    split
    · exact barriers_await _ rfl
    · rfl
  · rfl

theorem barriers_callBarrier (p : Publisher α) (nonce : String) :
    (p.callBarrier nonce).barriers.Perm ((p.tasks, nonce) :: p.barriers) := by
  unfold barriers callBarrier
  dsimp only
  rw [List.map_append, List.map_singleton, List.append_assoc, List.append_assoc,
    List.append_assoc, List.singleton_append]
  exact List.perm_middle

theorem Smooth.joined (h : p.Smooth cfg) (i : ℕ) : (p.joined i).Smooth cfg := by
  unfold Publisher.joined
  split
  · exact h.same rfl rfl rfl rfl rfl rfl rfl rfl rfl
  · exact h

theorem barriers_joined (p : Publisher α) (i : ℕ) : (p.joined i).barriers.Perm p.barriers := by
  unfold joined
  split
  · rename_i j _ _ hj
    obtain ⟨hi, rfl⟩ := List.getElem?_eq_some_iff.mp hj
    have hjoining := (List.getElem_cons_eraseIdx_perm hi).map fun j : Joining => (j.task, j.nonce)
    unfold barriers
    dsimp only
    rw [List.filterMap_append, ← List.append_assoc]
    refine List.Perm.append_right _ (List.Perm.trans (List.perm_append_singleton
      (p.joining[i].task, p.joining[i].nonce) _) ?_)
    rw [← List.cons_append]
    exact hjoining.append_right _
  · exact List.Perm.refl _

theorem barriers_waiting (p : Publisher α) {i : ℕ} {s : Sender α} (hs : p.waiting[i]? = some s) :
    p.barriers.Perm
      (s.barrier?.toList ++ ({ p with waiting := p.waiting.eraseIdx i } : Publisher α).barriers) := by
  obtain ⟨hi, rfl⟩ := List.getElem?_eq_some_iff.mp hs
  have hwaiting := (List.getElem_cons_eraseIdx_perm hi).symm.filterMap Sender.barrier?
  have hfirst : (p.waiting[i] :: p.waiting.eraseIdx i).filterMap Sender.barrier? =
      p.waiting[i].barrier?.toList ++ (p.waiting.eraseIdx i).filterMap Sender.barrier? := by
    rw [List.filterMap_cons]
    cases p.waiting[i].barrier? <;> rfl
  rw [hfirst] at hwaiting
  unfold barriers
  dsimp only
  rw [← List.append_assoc, ← List.append_assoc]
  refine List.Perm.append_right _ ((hwaiting.append_left _).trans ?_)
  rw [← List.append_assoc]
  exact List.perm_append_comm.append_right _

theorem Smooth.begin (h : p.Smooth cfg) (hidle : p.sending = none) {s : Sender α}
    (now : Timestamp) (halive : p.sequence + 1 < periodicMaxSequence)
    (hreadable : ∀ body, s.work.body? = some body → cfg.readable (p.sequence + 1) body = true) :
    (p.begin s now).Smooth cfg := by
  have halive' : p.alive = true := decide_eq_true h.alive
  have hsequences : ∀ f : Frame α, f.sequence = p.sequence + 1 →
      (p.sent ++ [f]).map Frame.sequence = List.range' 1 (p.sequence + 1) := by
    intro f hf
    have hnumbered := h.numbered
    rw [inFlight, hidle, Option.bind_none, Option.toList_none, List.append_nil] at hnumbered
    rw [List.map_append, hnumbered, List.map_singleton, hf, List.range'_concat, Nat.one_mul,
      Nat.add_comm]
  unfold Publisher.begin
  cases hwork : s.work with
  | reading value authoritative =>
      dsimp only
      rw [if_pos halive']
      refine ⟨hsequences _ rfl, halive, h.steady, h.answers, fun s' hs' => ?_⟩
      rw [← Option.some.inj hs']
      refine ⟨fun body hbody => ?_, by simp [hwork], by simp [hwork]⟩
      obtain rfl : Body.reading value authoritative = body := by
        simpa [hwork, Work.body?] using hbody
      exact ⟨rfl, hreadable _ hbody⟩
  | event value =>
      dsimp only
      rw [if_pos halive']
      refine ⟨hsequences _ rfl, halive, h.steady, h.answers, fun s' hs' => ?_⟩
      rw [← Option.some.inj hs']
      refine ⟨fun body hbody => ?_, by simp [hwork], by simp [hwork]⟩
      obtain rfl : Body.event value = body := by
        simpa [hwork, Work.body?] using hbody
      exact ⟨rfl, hreadable _ hbody⟩
  | snapshot =>
      have hnumbered := h.numbered
      unfold inFlight at hnumbered
      rw [hidle] at hnumbered
      refine ⟨hnumbered, h.alive, h.steady, h.answers, fun s' hs' => ?_⟩
      rw [← Option.some.inj hs']
      exact ⟨by simp [Work.body?], fun _ => rfl, by simp⟩
  | barrier nonce before =>
      dsimp only
      rw [if_pos halive']
      refine ⟨hsequences _ rfl, halive, fun e he => ?_, h.answers, fun s' hs' => ?_⟩
      · rcases List.mem_append.mp he with he | he
        · exact h.steady e he
        · rw [Event.sampled.inj (List.mem_singleton.mp he)]
          exact ⟨rfl, rfl⟩
      · rw [← Option.some.inj hs']
        refine ⟨by simp [hwork, Work.body?], by simp [hwork], fun nonce' before' hbarrier => ?_⟩
        obtain ⟨rfl, rfl⟩ := Work.barrier.inj (hwork.symm.trans hbarrier)
        exact ⟨_, rfl, rfl, rfl⟩

theorem barriers_begin (p : Publisher α) (hidle : p.sending = none) (s : Sender α) (now : Timestamp)
    (halive : p.alive = true) : (p.begin s now).barriers.Perm (s.barrier?.toList ++ p.barriers) := by
  have hbarriers : p.barriers = p.joining.map (fun j => (j.task, j.nonce)) ++
      p.waiting.filterMap Sender.barrier? := by
    unfold barriers
    rw [hidle]
    exact List.append_nil _
  rw [hbarriers]
  unfold begin
  cases hwork : s.work with
  | reading value authoritative =>
      dsimp only
      rw [if_pos halive]
      unfold barriers allocate
      simp [Sending.barrier?, Sender.barrier?, hwork, Work.barrier?]
  | event value =>
      dsimp only
      rw [if_pos halive]
      unfold barriers allocate
      simp [Sending.barrier?, Sender.barrier?, hwork, Work.barrier?]
  | snapshot =>
      unfold barriers
      simp [Sending.barrier?, Sender.barrier?, hwork, Work.barrier?]
  | barrier nonce before =>
      dsimp only
      rw [if_pos halive]
      unfold barriers allocate
      simp only [Sending.barrier?, Sender.barrier?, hwork, Work.barrier?, Option.map_some,
        Option.bind_some, Option.toList_some]
      exact List.perm_append_comm

theorem Smooth.enter (h : p.Smooth cfg) (i : ℕ) (now : Timestamp)
    (halive : p.sequence + 1 < periodicMaxSequence)
    (hreadable : ∀ s, p.waiting[i]? = some s → ∀ body, s.work.body? = some body →
      cfg.readable (p.sequence + 1) body = true) : (p.enter i now).Smooth cfg := by
  unfold Publisher.enter
  split
  · rename_i s hidle hs
    have hrest : ({ p with waiting := p.waiting.eraseIdx i } : Publisher α).Smooth cfg :=
      h.same rfl rfl rfl rfl rfl rfl rfl rfl rfl
    exact hrest.begin hidle now halive (hreadable s hs)
  · exact h

theorem barriers_enter (h : p.Smooth cfg) (i : ℕ) (now : Timestamp) :
    (p.enter i now).barriers.Perm p.barriers := by
  unfold enter
  split
  · rename_i s hidle hs
    exact (barriers_begin { p with waiting := p.waiting.eraseIdx i } hidle s now
      (decide_eq_true h.alive)).trans (barriers_waiting p hs).symm
  · exact List.Perm.refl _

theorem replies_begin (p : Publisher α) (s : Sender α) (now : Timestamp) (halive : p.alive = true) :
    (p.begin s now).replies = p.replies ∧ (p.begin s now).tasks = p.tasks := by
  unfold begin
  split
  · rw [if_pos halive]
    exact ⟨rfl, rfl⟩
  · rw [if_pos halive]
    exact ⟨rfl, rfl⟩
  · exact ⟨rfl, rfl⟩
  · rw [if_pos halive]
    exact ⟨rfl, rfl⟩

theorem replies_enter (h : p.Smooth cfg) (i : ℕ) (now : Timestamp) :
    (p.enter i now).replies = p.replies ∧ (p.enter i now).tasks = p.tasks := by
  unfold enter
  split
  · rename_i s _ _
    exact replies_begin { p with waiting := p.waiting.eraseIdx i } s now (decide_eq_true h.alive)
  · exact ⟨rfl, rfl⟩

theorem Smooth.alarmChanged (h : p.Smooth cfg) (token : String)
    (hclean : ∀ s, p.sending = some s → s.barrier? = none) : (p.alarmChanged token).Smooth cfg where
  numbered := h.numbered
  alive := h.alive
  steady := h.steady
  answers := h.answers
  sending := by
    intro s hs
    have g := h.sending s hs
    refine ⟨g.body, g.snapshot, fun nonce before hwork => ?_⟩
    have hnone := hclean s hs
    simp [Sending.barrier?, hwork, Work.barrier?] at hnone

theorem Smooth.fail (h : p.Smooth cfg) (hclean : ∀ e, .sampled e ∉ p.journal) :
    p.fail.Smooth cfg where
  numbered := h.numbered
  alive := h.alive
  steady := by
    intro e he
    rcases List.mem_append.mp he with he | he
    · exact absurd he (hclean e)
    · cases List.mem_singleton.mp he
  answers := h.answers
  sending := fun s hs => ⟨(h.sending s hs).body, (h.sending s hs).snapshot, (h.sending s hs).barrier⟩

theorem Smooth.giveUp (h : p.Smooth cfg) (hclean : ∀ s, p.sending = some s →
    s.work = .snapshot ∧ ∀ e, .sampled e ∉ p.journal) :
    p.giveUp.Smooth cfg ∧ p.giveUp.barriers = p.barriers ∧ p.giveUp.replies = p.replies ∧
      p.giveUp.tasks = p.tasks := by
  unfold Publisher.giveUp
  split
  · rename_i s hs
    obtain ⟨hwork, hunsampled⟩ := hclean s hs
    have hframe := (h.sending s hs).snapshot hwork
    have hreleased : ({ p with sending := none } : Publisher α).Smooth cfg := by
      refine ⟨?_, h.alive, h.steady, h.answers, by simp⟩
      have hnumbered := h.numbered
      unfold inFlight at hnumbered
      rw [hs, Option.bind_some, hframe] at hnumbered
      exact hnumbered
    dsimp only
    rw [hwork]
    refine ⟨hreleased.fail hunsampled, ?_, rfl, rfl⟩
    unfold barriers
    rw [hs, Option.bind_some, Sending.barrier?, hwork]
    rfl
  · exact ⟨h, rfl, rfl, rfl⟩

theorem Smooth.cancel (h : p.Smooth cfg) (i : ℕ) (hclean : ∀ s, p.waiting[i]? = some s →
    s.barrier? = none ∧ (s.work = .snapshot → ∀ e, .sampled e ∉ p.journal)) :
    (p.cancel i).Smooth cfg ∧ (p.cancel i).barriers.Perm p.barriers ∧
      (p.cancel i).replies = p.replies ∧ (p.cancel i).tasks = p.tasks := by
  unfold Publisher.cancel
  split
  · rename_i s hs
    obtain ⟨hnone, hunsampled⟩ := hclean s hs
    have hrest : ({ p with waiting := p.waiting.eraseIdx i } : Publisher α).Smooth cfg :=
      h.same rfl rfl rfl rfl rfl rfl rfl rfl rfl
    have hbarriers := (barriers_waiting p hs).symm
    rw [hnone, Option.toList_none, List.nil_append] at hbarriers
    dsimp only
    cases hwork : s.work with
    | reading value authoritative => exact ⟨h, List.Perm.refl _, rfl, rfl⟩
    | event value => exact ⟨hrest, hbarriers, rfl, rfl⟩
    | snapshot => exact ⟨hrest.fail (hunsampled hwork), hbarriers, rfl, rfl⟩
    | barrier nonce before => simp [Sender.barrier?, hwork, Work.barrier?] at hnone
  · exact ⟨h, List.Perm.refl _, rfl, rfl⟩

theorem Smooth.transmitted (h : p.Smooth cfg) {s : Sending α} (hs : p.sending = some s) :
    ({ p with
      sending := none
      totalSent := p.totalSent + 1
      sent := p.sent ++ s.frame.toList } : Publisher α).Smooth cfg := by
  refine ⟨?_, h.alive, h.steady, h.answers, by simp⟩
  have hnumbered := h.numbered
  unfold inFlight at hnumbered ⊢
  rw [hs] at hnumbered
  rw [Option.bind_none, Option.toList_none, List.append_nil]
  exact hnumbered

theorem Smooth.succeed_other (h : p.Smooth cfg) {s : Sending α} (hs : p.sending = some s)
    (hwork : s.barrier? = none) :
    p.succeed.Smooth cfg ∧ p.succeed.barriers = p.barriers ∧ p.succeed.replies = p.replies ∧
      p.succeed.tasks = p.tasks ∧ ∀ nonce e, s.frame ≠ some (.marker nonce e) := by
  have hsent := h.transmitted hs
  have g := h.sending s hs
  have hbarriers : p.barriers = p.joining.map (fun j => (j.task, j.nonce)) ++
      p.waiting.filterMap Sender.barrier? ++ (none : Option (ℕ × String)).toList := by
    unfold barriers
    rw [hs, Option.bind_some, hwork]
  rw [hbarriers]
  unfold succeed
  rw [hs]
  dsimp only
  unfold finish
  cases hkind : s.work with
  | reading value authoritative =>
      obtain ⟨hframe, -⟩ := g.body (.reading value authoritative) (by rw [hkind]; rfl)
      rw [hframe]
      exact ⟨(hframe ▸ hsent).same rfl rfl rfl rfl rfl rfl rfl rfl rfl, rfl, rfl, rfl, by simp⟩
  | event value =>
      obtain ⟨hframe, -⟩ := g.body (.event value) (by rw [hkind]; rfl)
      rw [hframe]
      exact ⟨hframe ▸ hsent, rfl, rfl, rfl, by simp⟩
  | snapshot =>
      have hframe := g.snapshot hkind
      rw [hframe]
      exact ⟨hframe ▸ hsent, rfl, rfl, rfl, by simp⟩
  | barrier nonce before => simp [Sending.barrier?, hkind, Work.barrier?] at hwork

theorem Smooth.succeed_barrier (h : p.Smooth cfg) {s : Sending α} (hs : p.sending = some s)
    {nonce : String} {before : ℕ} (hwork : s.work = .barrier nonce before) :
    ∃ e, s.frame = some (.marker nonce e) ∧ p.succeed.Smooth cfg ∧
      p.succeed.replies = p.replies ++ [(s.task, some e)] ∧ p.succeed.tasks = p.tasks ∧
        p.barriers.Perm ((s.task, nonce) :: p.succeed.barriers) := by
  have hsent := h.transmitted hs
  obtain ⟨e, hframe, hrevision, hdrops⟩ := (h.sending s hs).barrier nonce before hwork
  have halive : p.alive = true := decide_eq_true h.alive
  have hbarriers : p.barriers = p.joining.map (fun j => (j.task, j.nonce)) ++
      p.waiting.filterMap Sender.barrier? ++ [(s.task, nonce)] := by
    unfold barriers
    rw [hs, Option.bind_some, Sending.barrier?, hwork]
    rfl
  refine ⟨e, hframe, ?_⟩
  rw [hbarriers]
  unfold succeed
  rw [hs]
  dsimp only
  unfold finish
  rw [hwork, hframe]
  dsimp only
  unfold conclude
  rw [if_pos ⟨halive, hrevision.symm, hdrops.symm⟩]
  refine ⟨?_, rfl, rfl, ?_⟩
  · have hbase := hframe ▸ hsent
    refine ⟨hbase.numbered, hbase.alive, hbase.steady, fun task hmem => ?_, by
      simp [answer]⟩
    rcases List.mem_append.mp hmem with hmem | hmem
    · exact h.answers task hmem
    · cases List.mem_singleton.mp hmem
  · unfold barriers answer
    dsimp only
    rw [Option.bind_none, Option.toList_none, List.append_nil]
    exact List.perm_append_comm

end Publisher

end Stream
end CryoDaq
