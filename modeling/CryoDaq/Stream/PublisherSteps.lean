import CryoDaq.Stream.World
import Mathlib.Data.List.Nodup

/-!
# Steps of the publisher

What holds of the publisher in every run (`Publisher.Sound`): the frames sent have
ascending numbers, the items that the loop is done with are accounted for, and a
barrier that is answered was sampled after the items taken before it.
-/

namespace CryoDaq
namespace Stream

variable {α : Type}

/-! ## What holds of the publisher -/

/-- What the settlement of an item says. -/
def Settled.Told (sessionId : String) (sequence count : ℕ) (sent : List (Frame α))
    (d : Settled α) : Prop :=
  match d.outcome with
  | .sent n => .data sessionId n (.reading d.value d.authoritative) ∈ sent
  | .failed n => n ≤ count
  | .exhausted => periodicMaxSequence ≤ sequence
  | .withdrawn => True

/-- An item that was settled before a barrier sampled. -/
def Settled.Before (e : Evidence) (d : Settled α) : Prop :=
  match d.outcome with
  | .sent n => n < e.sequence
  | .failed n => n ≤ e.publishFailureCount
  | .exhausted => False
  | .withdrawn => True

/-- The items taken before a barrier were settled before it sampled. -/
def Covers (settled : List (Settled α)) (before : ℕ) (e : Evidence) : Prop :=
  before ≤ settled.length ∧ ∀ d ∈ settled.take before, d.Before e

structure Sending.Sound (p : Publisher α) (s : Sending α) : Prop where
  frame : ∀ f, s.frame = some f → f.session = some p.sessionId ∧ f.sequence = p.sequence ∧
    ∀ g ∈ p.sent, g.sequence < p.sequence
  reading : ∀ value authoritative, s.work = .reading value authoritative →
    s.frame = some (.data p.sessionId p.sequence (.reading value authoritative))
  marker : ∀ nonce e, s.frame = some (.marker nonce e) → .sampled e ∈ p.journal ∧
    e.alarmStateRevision ≤ p.alarmStateRevision ∧
      (e.alarmStateRevision = p.alarmStateRevision → e.alarmStateToken = p.alarmStateToken)
  barrier : ∀ nonce before, s.work = .barrier nonce before →
    ∃ e, s.frame = some (.marker nonce e) ∧ Covers p.settled before e

structure Answered.Sound (p : Publisher α) (r : Answered) : Prop where
  sent : ∃ nonce, .marker nonce r.evidence ∈ p.sent
  covers : Covers p.settled r.before r.evidence
  alarm : r.alarm = (r.evidence.alarmStateRevision, r.evidence.alarmStateToken)

/-- A barrier samples what the journal counts, after the barriers before it. -/
def Counted (journal : List Event) : Prop :=
  ∀ pre e post, journal = pre ++ .sampled e :: post →
    e.readingDropCount = pre.count .dropped ∧ e.publishFailureCount = pre.count .failed ∧
      ∀ e', .sampled e' ∈ pre → e'.sequence < e.sequence

structure Publisher.Sound (p : Publisher α) : Prop where
  session : ∀ f ∈ p.sent, f.session = some p.sessionId
  ascending : (p.sent.map Frame.sequence).Pairwise (· < ·)
  bounded : ∀ f ∈ p.sent, f.sequence ≤ p.sequence
  settled : ∀ d ∈ p.settled, d.Told p.sessionId p.sequence p.publishFailureCount p.sent
  joining : ∀ j ∈ p.joining, j.before ≤ p.taken
  waiting : ∀ s ∈ p.waiting, ∀ nonce before, s.work = .barrier nonce before →
    before ≤ p.settled.length
  drops : p.journal.count .dropped = p.readingDropCount
  failures : p.journal.count .failed = p.publishFailureCount
  counted : Counted p.journal
  sampled : ∀ e, .sampled e ∈ p.journal → e.sequence ≤ p.sequence
  markers : ∀ nonce e, .marker nonce e ∈ p.sent → .sampled e ∈ p.journal
  sending : ∀ s, p.sending = some s → s.Sound p
  answered : ∀ r ∈ p.answered, r.Sound p
  replies : ∀ task e, (task, some e) ∈ p.replies → ∃ r ∈ p.answered, r.evidence = e

theorem Counted.append {journal : List Event} {event : Event} (h : Counted journal)
    (hevent : ∀ e, event = .sampled e → e.readingDropCount = journal.count .dropped ∧
      e.publishFailureCount = journal.count .failed ∧
        ∀ e', .sampled e' ∈ journal → e'.sequence < e.sequence) :
    Counted (journal ++ [event]) := by
  intro pre e post heq
  rcases List.append_eq_append_iff.mp heq with ⟨rest, hpre, hrest⟩ | ⟨rest, hjournal, hrest⟩
  · cases rest with
    | nil =>
        rw [List.append_nil] at hpre
        subst hpre
        exact hevent e (List.cons.inj hrest).1
    | cons first others => simp at hrest
  · cases rest with
    | nil =>
        rw [List.append_nil] at hjournal
        subst hjournal
        exact hevent e (List.cons.inj hrest).1.symm
    | cons first others =>
        obtain ⟨rfl, _⟩ := List.cons.inj hrest
        exact h pre e others hjournal

theorem Covers.append {settled : List (Settled α)} {before : ℕ} {e : Evidence} {d : Settled α}
    (h : Covers settled before e) : Covers (settled ++ [d]) before e := by
  obtain ⟨hle, hbefore⟩ := h
  refine ⟨hle.trans (by simp), ?_⟩
  rw [List.take_append_of_le_length hle]
  exact hbefore

theorem Settled.Told.mono {sessionId : String} {sequence sequence' count count' : ℕ}
    {sent sent' : List (Frame α)} {d : Settled α} (h : d.Told sessionId sequence count sent)
    (hsequence : sequence ≤ sequence') (hcount : count ≤ count') (hsent : sent ⊆ sent') :
    d.Told sessionId sequence' count' sent' := by
  unfold Told at h ⊢
  cases houtcome : d.outcome with
  | sent n =>
      rw [houtcome] at h
      exact hsent h
  | failed n =>
      rw [houtcome] at h
      exact h.trans hcount
  | exhausted =>
      rw [houtcome] at h
      exact h.trans hsequence
  | withdrawn => trivial

namespace Publisher

variable {p : Publisher α}

/-! ## The engine around it and the calls -/

/-- A step that leaves the journal, the frames and the books as they are. -/
structure Same (p q : Publisher α) : Prop where
  sessionId : q.sessionId = p.sessionId
  sequence : q.sequence = p.sequence
  failureCount : q.publishFailureCount = p.publishFailureCount
  dropCount : q.readingDropCount = p.readingDropCount
  sent : q.sent = p.sent
  settled : q.settled = p.settled
  journal : q.journal = p.journal
  sending : q.sending = p.sending
  answered : q.answered = p.answered
  alarm : p.alarmStateRevision ≤ q.alarmStateRevision ∧
    (p.alarmStateRevision = q.alarmStateRevision → p.alarmStateToken = q.alarmStateToken)

theorem Sound.same {q : Publisher α} (h : p.Sound) (hsame : Same p q)
    (hjoining : ∀ j ∈ q.joining, j.before ≤ q.taken)
    (hwaiting : ∀ s ∈ q.waiting, ∀ nonce before, s.work = .barrier nonce before →
      before ≤ q.settled.length)
    (hreplies : ∀ task e, (task, some e) ∈ q.replies → ∃ r ∈ q.answered, r.evidence = e) :
    q.Sound where
  session := by
    rw [hsame.sent, hsame.sessionId]
    exact h.session
  ascending := by
    rw [hsame.sent]
    exact h.ascending
  bounded := by
    rw [hsame.sent, hsame.sequence]
    exact h.bounded
  settled := by
    rw [hsame.settled, hsame.sessionId, hsame.sequence, hsame.failureCount, hsame.sent]
    exact h.settled
  joining := hjoining
  waiting := hwaiting
  drops := by
    rw [hsame.journal, hsame.dropCount]
    exact h.drops
  failures := by
    rw [hsame.journal, hsame.failureCount]
    exact h.failures
  counted := by
    rw [hsame.journal]
    exact h.counted
  sampled := by
    rw [hsame.journal, hsame.sequence]
    exact h.sampled
  markers := by
    rw [hsame.sent, hsame.journal]
    exact h.markers
  sending := by
    rw [hsame.sending]
    intro s hs
    have hsending := h.sending s hs
    refine ⟨?_, ?_, fun nonce e he => ?_, ?_⟩
    · rw [hsame.sessionId, hsame.sequence, hsame.sent]
      exact hsending.frame
    · rw [hsame.sessionId, hsame.sequence]
      exact hsending.reading
    · obtain ⟨hsampled, hle, hheld⟩ := hsending.marker nonce e he
      rw [hsame.journal]
      refine ⟨hsampled, hle.trans hsame.alarm.1, fun heq => ?_⟩
      have hrevision : p.alarmStateRevision = q.alarmStateRevision := by
        have := hsame.alarm.1
        omega
      exact (hheld (heq.trans hrevision.symm)).trans (hsame.alarm.2 hrevision)
    · rw [hsame.settled]
      exact hsending.barrier
  answered := by
    rw [hsame.answered]
    intro r hr
    have hanswered := h.answered r hr
    refine ⟨?_, ?_, hanswered.alarm⟩
    · rw [hsame.sent]
      exact hanswered.sent
    · rw [hsame.settled]
      exact hanswered.covers
  replies := hreplies

theorem Sound.put (h : p.Sound) (value : α) (authoritative : Bool) :
    (p.put value authoritative).Sound :=
  h.same ⟨rfl, rfl, rfl, rfl, rfl, rfl, rfl, rfl, rfl, le_rfl, fun _ => rfl⟩ h.joining h.waiting
    h.replies

theorem Sound.alarmChanged (h : p.Sound) (token : String) : (p.alarmChanged token).Sound :=
  h.same ⟨rfl, rfl, rfl, rfl, rfl, rfl, rfl, rfl, rfl, Nat.le_succ _,
    fun heq => absurd heq (Nat.succ_ne_self _).symm⟩ h.joining h.waiting h.replies

theorem Sound.await (h : p.Sound) {work : Work α}
    (hwork : ∀ nonce before, work = .barrier nonce before → before ≤ p.settled.length) :
    (p.await work).Sound := by
  refine h.same ⟨rfl, rfl, rfl, rfl, rfl, rfl, rfl, rfl, rfl, le_rfl, fun _ => rfl⟩ h.joining
    (fun s hs nonce before hbarrier => ?_) h.replies
  rcases List.mem_append.mp hs with hs | hs
  · exact h.waiting s hs nonce before hbarrier
  · rw [List.mem_singleton.mp hs] at hbarrier
    exact hwork nonce before hbarrier

theorem Sound.callBarrier (h : p.Sound) (nonce : String) : (p.callBarrier nonce).Sound := by
  refine h.same ⟨rfl, rfl, rfl, rfl, rfl, rfl, rfl, rfl, rfl, le_rfl, fun _ => rfl⟩
    (fun j hj => ?_) h.waiting h.replies
  rcases List.mem_append.mp hj with hj | hj
  · exact h.joining j hj
  · rw [List.mem_singleton.mp hj]
    exact le_rfl

theorem Sound.answer (h : p.Sound) {task : ℕ} {reply : Option Evidence}
    (hreply : ∀ e, reply = some e → ∃ r ∈ p.answered, r.evidence = e) :
    (p.answer task reply).Sound := by
  refine h.same ⟨rfl, rfl, rfl, rfl, rfl, rfl, rfl, rfl, rfl, le_rfl, fun _ => rfl⟩ h.joining
    h.waiting fun task' e he => ?_
  rcases List.mem_append.mp he with he | he
  · exact h.replies task' e he
  · exact hreply e (Prod.mk.inj (List.mem_singleton.mp he)).2.symm

theorem Sound.leave (h : p.Sound) (i : ℕ) : (p.leave i).Sound := by
  unfold Publisher.leave
  split
  · have hrest : ({ p with joining := p.joining.eraseIdx i } : Publisher α).Sound :=
      h.same ⟨rfl, rfl, rfl, rfl, rfl, rfl, rfl, rfl, rfl, le_rfl, fun _ => rfl⟩
        (fun j hj => h.joining j (List.mem_of_mem_eraseIdx hj)) h.waiting h.replies
    exact hrest.answer (by simp)
  · exact h

theorem Sound.dropReading (h : p.Sound) : p.dropReading.Sound where
  session := h.session
  ascending := h.ascending
  bounded := h.bounded
  settled := h.settled
  joining := h.joining
  waiting := h.waiting
  drops := by simp [Publisher.dropReading, h.drops]
  failures := by simp [Publisher.dropReading, h.failures]
  counted := h.counted.append (by simp)
  sampled := fun e he => h.sampled e (by simpa [Publisher.dropReading] using he)
  markers := fun nonce e he => List.mem_append_left _ (h.markers nonce e he)
  sending := fun s hs =>
    let g := h.sending s hs
    ⟨g.frame, g.reading, fun nonce e he => ⟨List.mem_append_left _ (g.marker nonce e he).1,
      (g.marker nonce e he).2⟩, g.barrier⟩
  answered := fun r hr =>
    let g := h.answered r hr
    ⟨g.sent, g.covers, g.alarm⟩
  replies := h.replies

theorem Sound.fail (h : p.Sound) : p.fail.Sound where
  session := h.session
  ascending := h.ascending
  bounded := h.bounded
  settled := fun d hd => (h.settled d hd).mono le_rfl (Nat.le_succ _) (List.Subset.refl _)
  joining := h.joining
  waiting := h.waiting
  drops := by simp [Publisher.fail, h.drops]
  failures := by simp [Publisher.fail, h.failures]
  counted := h.counted.append (by simp)
  sampled := fun e he => h.sampled e (by simpa [Publisher.fail] using he)
  markers := fun nonce e he => List.mem_append_left _ (h.markers nonce e he)
  sending := fun s hs =>
    let g := h.sending s hs
    ⟨g.frame, g.reading, fun nonce e he => ⟨List.mem_append_left _ (g.marker nonce e he).1,
      (g.marker nonce e he).2⟩, g.barrier⟩
  answered := fun r hr =>
    let g := h.answered r hr
    ⟨g.sent, g.covers, g.alarm⟩
  replies := h.replies

theorem Sound.settle (h : p.Sound) {value : α} {authoritative : Bool} {outcome : Outcome}
    (htold : Settled.Told p.sessionId p.sequence p.publishFailureCount p.sent
      ⟨value, authoritative, outcome⟩) : (p.settle value authoritative outcome).Sound where
  session := h.session
  ascending := h.ascending
  bounded := h.bounded
  settled := by
    intro d hd
    rcases List.mem_append.mp hd with hd | hd
    · exact h.settled d hd
    · rw [List.mem_singleton.mp hd]
      exact htold
  joining := by
    intro j hj
    have hbefore := h.joining j hj
    have htaken : p.taken ≤ (p.settle value authoritative outcome).taken := by
      simp only [taken, Publisher.settle, List.length_append, List.length_singleton]
      cases p.busy <;> simp
    exact hbefore.trans htaken
  waiting := by
    intro s hs nonce before hbarrier
    exact (h.waiting s hs nonce before hbarrier).trans (by simp [Publisher.settle])
  drops := h.drops
  failures := h.failures
  counted := h.counted
  sampled := h.sampled
  markers := h.markers
  sending := fun s hs =>
    let g := h.sending s hs
    ⟨g.frame, g.reading, g.marker, fun nonce before hbarrier => by
      obtain ⟨e, hframe, hcovers⟩ := g.barrier nonce before hbarrier
      exact ⟨e, hframe, hcovers.append⟩⟩
  answered := fun r hr =>
    let g := h.answered r hr
    ⟨g.sent, g.covers.append, g.alarm⟩
  replies := h.replies

theorem Sound.take (h : p.Sound) (claimed : Bool) : (p.take claimed).Sound := by
  unfold Publisher.take
  split
  · rename_i value authoritative rest hqueue hbusy
    dsimp only
    have hrest : ({ p with queue := rest } : Publisher α).Sound :=
      h.same ⟨rfl, rfl, rfl, rfl, rfl, rfl, rfl, rfl, rfl, le_rfl, fun _ => rfl⟩ h.joining h.waiting
        h.replies
    split
    · have hbegun : ({ p with queue := rest, busy := true } : Publisher α).Sound := by
        refine h.same ⟨rfl, rfl, rfl, rfl, rfl, rfl, rfl, rfl, rfl, le_rfl, fun _ => rfl⟩
          (fun j hj => (h.joining j hj).trans ?_) h.waiting h.replies
        simp [taken, hbusy]
      refine hbegun.await fun nonce before hwork => ?_
      cases hwork
    · exact hrest.settle trivial
  · exact h

theorem Sound.joined (h : p.Sound) (i : ℕ) : (p.joined i).Sound := by
  unfold Publisher.joined
  split
  · rename_i j hqueue hbusy hj
    refine h.same ⟨rfl, rfl, rfl, rfl, rfl, rfl, rfl, rfl, rfl, le_rfl, fun _ => rfl⟩
      (fun j' hj' => h.joining j' (List.mem_of_mem_eraseIdx hj'))
      (fun s hs nonce before hbarrier => ?_) h.replies
    rcases List.mem_append.mp hs with hs | hs
    · exact h.waiting s hs nonce before hbarrier
    · -- The queue is joined: every item taken before the call is settled.
      rw [List.mem_singleton.mp hs] at hbarrier
      obtain ⟨_, hbefore⟩ := Work.barrier.inj hbarrier
      have htaken := h.joining j (List.mem_of_getElem? hj)
      rw [taken, hbusy] at htaken
      rw [← hbefore]
      exact htaken
  · exact h

theorem Sound.allocate (h : p.Sound) {s : Sender α} {frame : ℕ → Frame α} {journal : List Event}
    (hjournal : p.journal ⊆ journal) (hdrops : journal.count .dropped = p.readingDropCount)
    (hfailures : journal.count .failed = p.publishFailureCount) (hcounted : Counted journal)
    (hsampled : ∀ e, .sampled e ∈ journal → e.sequence ≤ p.sequence + 1)
    (hsession : (frame (p.sequence + 1)).session = some p.sessionId)
    (hsequence : (frame (p.sequence + 1)).sequence = p.sequence + 1)
    (hreading : ∀ value authoritative, s.work = .reading value authoritative →
      frame (p.sequence + 1) = .data p.sessionId (p.sequence + 1) (.reading value authoritative))
    (hmarker : ∀ nonce e, frame (p.sequence + 1) = .marker nonce e → .sampled e ∈ journal ∧
      e.alarmStateRevision ≤ p.alarmStateRevision ∧
        (e.alarmStateRevision = p.alarmStateRevision → e.alarmStateToken = p.alarmStateToken))
    (hbarrier : ∀ nonce before, s.work = .barrier nonce before →
      ∃ e, frame (p.sequence + 1) = .marker nonce e ∧ Covers p.settled before e) :
    (({ p with journal := journal } : Publisher α).allocate s frame).Sound where
  session := h.session
  ascending := h.ascending
  bounded := fun f hf => (h.bounded f hf).trans (Nat.le_succ _)
  settled := fun d hd => (h.settled d hd).mono (Nat.le_succ _) le_rfl (List.Subset.refl _)
  joining := h.joining
  waiting := h.waiting
  drops := hdrops
  failures := hfailures
  counted := hcounted
  sampled := hsampled
  markers := fun nonce e he => hjournal (h.markers nonce e he)
  sending := by
    intro s' hs'
    rw [← Option.some.inj hs']
    refine ⟨fun f hf => ?_, fun value authoritative hwork => ?_, fun nonce e he => ?_,
      fun nonce before hwork => ?_⟩
    · rw [← Option.some.inj hf]
      exact ⟨hsession, hsequence, fun g hg => Nat.lt_succ_of_le (h.bounded g hg)⟩
    · exact congrArg some (hreading value authoritative hwork)
    · exact hmarker nonce e (Option.some.inj he)
    · obtain ⟨e, he, hcovers⟩ := hbarrier nonce before hwork
      exact ⟨e, congrArg some he, hcovers⟩
  answered := fun r hr =>
    let g := h.answered r hr
    ⟨g.sent, g.covers, g.alarm⟩
  replies := h.replies

theorem Sound.covers (h : p.Sound) {before : ℕ} {e : Evidence} (hbefore : before ≤ p.settled.length)
    (halive : p.alive = true) (hsequence : p.sequence < e.sequence)
    (hcount : e.publishFailureCount = p.publishFailureCount) : Covers p.settled before e := by
  refine ⟨hbefore, fun d hd => ?_⟩
  have htold := h.settled d (List.mem_of_mem_take hd)
  unfold Settled.Told at htold
  unfold Settled.Before
  cases houtcome : d.outcome with
  | sent n =>
      rw [houtcome] at htold
      exact lt_of_le_of_lt (h.bounded _ htold) hsequence
  | failed n =>
      rw [houtcome] at htold
      exact htold.trans hcount.ge
  | exhausted =>
      rw [houtcome] at htold
      exact absurd htold (not_le.mpr (of_decide_eq_true halive))
  | withdrawn => trivial

theorem Sound.allocate' (h : p.Sound) {s : Sender α} {frame : ℕ → Frame α}
    (hsession : (frame (p.sequence + 1)).session = some p.sessionId)
    (hsequence : (frame (p.sequence + 1)).sequence = p.sequence + 1)
    (hreading : ∀ value authoritative, s.work = .reading value authoritative →
      frame (p.sequence + 1) = .data p.sessionId (p.sequence + 1) (.reading value authoritative))
    (hmarker : ∀ nonce e, frame (p.sequence + 1) ≠ .marker nonce e)
    (hbarrier : ∀ nonce before, s.work ≠ .barrier nonce before) : (p.allocate s frame).Sound :=
  h.allocate (List.Subset.refl _) h.drops h.failures h.counted
    (fun e he => (h.sampled e he).trans (Nat.le_succ _)) hsession hsequence hreading
    (fun nonce e he => absurd he (hmarker nonce e))
    fun nonce before hwork => absurd hwork (hbarrier nonce before)

theorem Sound.begin (h : p.Sound) {s : Sender α} (now : Timestamp)
    (hsender : ∀ nonce before, s.work = .barrier nonce before → before ≤ p.settled.length) :
    (p.begin s now).Sound := by
  unfold Publisher.begin
  cases hwork : s.work with
  | reading value authoritative =>
      dsimp only
      split
      · refine h.allocate' rfl rfl (fun v a hreading => ?_) (by simp) (by simp [hwork])
        rw [hwork] at hreading
        obtain ⟨rfl, rfl⟩ := Work.reading.inj hreading
        rfl
      · rename_i halive
        refine h.settle ?_
        simpa [Settled.Told, alive] using halive
  | event value =>
      dsimp only
      split
      · exact h.allocate' rfl rfl (by simp [hwork]) (by simp) (by simp [hwork])
      · exact h
  | snapshot =>
      exact ⟨h.session, h.ascending, h.bounded, h.settled, h.joining, h.waiting, h.drops,
        h.failures, h.counted, h.sampled, h.markers, fun s' hs' => by
          rw [← Option.some.inj hs']
          exact ⟨by simp, by simp, by simp, by simp⟩, fun r hr =>
            let g := h.answered r hr
            ⟨g.sent, g.covers, g.alarm⟩, h.replies⟩
  | barrier nonce before =>
      dsimp only
      split
      · rename_i halive
        refine h.allocate (List.subset_append_left _ _) ?_ ?_ ?_ (fun e he => ?_) rfl rfl
          (by simp [hwork]) (fun nonce' e he => ?_) (fun nonce' before' hbarrier => ?_)
        · simp [h.drops]
        · simp [h.failures]
        · refine h.counted.append fun e he => ?_
          rw [← Event.sampled.inj he]
          exact ⟨h.drops.symm, h.failures.symm, fun e' he' => Nat.lt_succ_of_le (h.sampled e' he')⟩
        · rcases List.mem_append.mp he with he | he
          · exact (h.sampled e he).trans (Nat.le_succ _)
          · rw [Event.sampled.inj (List.mem_singleton.mp he)]
            exact le_rfl
        · obtain ⟨_, rfl⟩ := Frame.marker.inj he
          exact ⟨List.mem_append_right _ (List.mem_singleton_self _), le_rfl, fun _ => rfl⟩
        · rw [hwork] at hbarrier
          obtain ⟨rfl, rfl⟩ := Work.barrier.inj hbarrier
          exact ⟨_, rfl, h.covers (hsender _ _ hwork) halive (Nat.lt_succ_self _) rfl⟩
      · exact h.answer (by simp)

theorem Sound.enter (h : p.Sound) (i : ℕ) (now : Timestamp) : (p.enter i now).Sound := by
  unfold Publisher.enter
  split
  · rename_i s hidle hs
    have hrest : ({ p with waiting := p.waiting.eraseIdx i } : Publisher α).Sound :=
      h.same ⟨rfl, rfl, rfl, rfl, rfl, rfl, rfl, rfl, rfl, le_rfl, fun _ => rfl⟩ h.joining
        (fun s' hs' => h.waiting s' (List.mem_of_mem_eraseIdx hs')) h.replies
    exact hrest.begin now (h.waiting s (List.mem_of_getElem? hs))
  · exact h

theorem Sound.released (h : p.Sound) : ({ p with sending := none } : Publisher α).Sound :=
  ⟨h.session, h.ascending, h.bounded, h.settled, h.joining, h.waiting, h.drops, h.failures,
    h.counted, h.sampled, h.markers, by simp, fun r hr =>
      let g := h.answered r hr
      ⟨g.sent, g.covers, g.alarm⟩, h.replies⟩

theorem Sound.giveUp (h : p.Sound) : p.giveUp.Sound := by
  unfold Publisher.giveUp
  split
  · have hfailed := h.released.fail
    dsimp only
    split
    · exact hfailed.settle le_rfl
    · exact hfailed.answer (by simp)
    · exact hfailed
  · exact h

theorem Sound.cancel (h : p.Sound) (i : ℕ) : (p.cancel i).Sound := by
  unfold Publisher.cancel
  split
  · have hrest : ({ p with waiting := p.waiting.eraseIdx i } : Publisher α).Sound :=
      h.same ⟨rfl, rfl, rfl, rfl, rfl, rfl, rfl, rfl, rfl, le_rfl, fun _ => rfl⟩ h.joining
        (fun s' hs' => h.waiting s' (List.mem_of_mem_eraseIdx hs')) h.replies
    dsimp only
    split
    · exact h
    · exact hrest
    · exact hrest.fail
    · exact hrest.answer (by simp)
  · exact h

theorem Sound.transmitted (h : p.Sound) {s : Sending α} (hs : p.sending = some s) :
    ({ p with
      sending := none
      totalSent := p.totalSent + 1
      sent := p.sent ++ s.frame.toList } : Publisher α).Sound := by
  have hsending := h.sending s hs
  have hframe : ∀ f ∈ s.frame.toList, f.session = some p.sessionId ∧ f.sequence = p.sequence ∧
      ∀ g ∈ p.sent, g.sequence < p.sequence :=
    fun f hf => hsending.frame f (Option.mem_toList.mp hf)
  refine ⟨fun f hf => ?_, ?_, fun f hf => ?_, fun d hd => ?_, h.joining, h.waiting, h.drops,
    h.failures, h.counted, h.sampled, fun nonce e he => ?_, by simp, fun r hr => ?_, h.replies⟩
  · rcases List.mem_append.mp hf with hf | hf
    · exact h.session f hf
    · exact (hframe f hf).1
  · rw [List.map_append, List.pairwise_append]
    refine ⟨h.ascending, ?_, ?_⟩
    · cases s.frame with
      | none => exact List.Pairwise.nil
      | some f => exact List.pairwise_singleton _ _
    · intro a ha b hb
      obtain ⟨g, hg, rfl⟩ := List.mem_map.mp ha
      obtain ⟨f, hf, rfl⟩ := List.mem_map.mp hb
      rw [(hframe f hf).2.1]
      exact (hframe f hf).2.2 g hg
  · rcases List.mem_append.mp hf with hf | hf
    · exact h.bounded f hf
    · exact (hframe f hf).2.1.le
  · exact (h.settled d hd).mono le_rfl le_rfl (List.subset_append_left _ _)
  · rcases List.mem_append.mp he with he | he
    · exact h.markers nonce e he
    · exact (hsending.marker nonce e (Option.mem_toList.mp he)).1
  · have g := h.answered r hr
    obtain ⟨nonce, hsent⟩ := g.sent
    exact ⟨⟨nonce, List.mem_append_left _ hsent⟩, g.covers, g.alarm⟩

theorem Sound.succeed (h : p.Sound) : p.succeed.Sound := by
  unfold Publisher.succeed
  split
  · rename_i s hs
    have hsending := h.sending s hs
    have hsent := h.transmitted hs
    unfold Publisher.finish
    split
    · rename_i value authoritative frame hwork hframe
      refine hsent.settle ?_
      have hdata := hsending.reading value authoritative hwork
      rw [hframe] at hdata
      rw [Option.some.inj hdata]
      refine List.mem_append_right _ ?_
      rw [hframe, Option.some.inj hdata]
      exact List.mem_singleton_self _
    · rename_i nonce before nonce' e hwork hframe
      unfold Publisher.conclude
      split
      · rename_i hheld
        obtain ⟨_, hle, htoken⟩ := hsending.marker nonce' e hframe
        obtain ⟨e', hmarker, hcovers⟩ := hsending.barrier nonce before hwork
        rw [hframe] at hmarker
        obtain ⟨_, rfl⟩ := Frame.marker.inj (Option.some.inj hmarker)
        refine Sound.answer ?_ fun e' he' =>
          ⟨_, List.mem_append_right _ (List.mem_singleton_self _), Option.some.inj he'⟩
        refine ⟨hsent.session, hsent.ascending, hsent.bounded, hsent.settled, hsent.joining,
          hsent.waiting, hsent.drops, hsent.failures, hsent.counted, hsent.sampled, hsent.markers,
          by simp,
          fun r hr => ?_, fun task e' he' => ?_⟩
        · rcases List.mem_append.mp hr with hr | hr
          · have g := hsent.answered r hr
            exact ⟨g.sent, g.covers, g.alarm⟩
          · rw [List.mem_singleton.mp hr]
            refine ⟨⟨nonce', List.mem_append_right _ ?_⟩, hcovers, ?_⟩
            · rw [hframe]
              exact List.mem_singleton_self _
            · exact Prod.ext hheld.2.1 (htoken hheld.2.1.symm).symm
        · obtain ⟨r, hr, heq⟩ := hsent.replies task e' he'
          exact ⟨r, List.mem_append_left _ hr, heq⟩
      · exact hsent.answer (by simp)
    · exact hsent
  · exact h

theorem start_sound (sessionId token : String) :
    ({ sessionId := sessionId, alarmStateToken := token } : Publisher α).Sound where
  session := by simp
  ascending := List.Pairwise.nil
  bounded := by simp
  settled := by simp
  joining := by simp
  waiting := by simp
  drops := rfl
  failures := rfl
  counted := by
    intro pre e post heq
    simp at heq
  sampled := by simp
  markers := by simp
  sending := by simp
  answered := by simp
  replies := by simp

end Publisher

end Stream
end CryoDaq
