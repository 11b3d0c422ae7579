import CryoDaq.Stream.World

/-!
# Steps of the subscriber

What holds of the subscriber in every run (`LiveSources.Sound`): the frames that it
followed since its first accepted marker carry consecutive numbers, and the callbacks
were given the authoritative readings and the events among them.

Most steps are quiet: they hand nothing over and accept nothing.
-/

namespace CryoDaq
namespace Stream

variable {α : Type}

/-! ## What holds of the subscriber -/

def Frame.handing : Frame α → List (ℕ × Body α)
  | .data _ sequence body => if body.dispatched then [(sequence, body)] else []
  | _ => []

/-- A cut lies among the `n` frames after the accepted marker, with its counters. -/
structure Passed (accepted : Evidence) (n : ℕ) (cut : LiveSourceCut) : Prop where
  after : accepted.sequence ≤ cut.evidence.sequence
  within : cut.evidence.sequence ≤ accepted.sequence + n
  drops : cut.evidence.readingDropCount = accepted.readingDropCount
  failures : cut.evidence.publishFailureCount = accepted.publishFailureCount

theorem Passed.mono {accepted : Evidence} {n n' : ℕ} {cut : LiveSourceCut}
    (h : Passed accepted n cut) (hle : n ≤ n') : Passed accepted n' cut :=
  ⟨h.after, h.within.trans (Nat.add_le_add_left hle _), h.drops, h.failures⟩

namespace LiveSources

/-- No callback that failed holds the state lock. -/
def Unsettled (s : LiveSources α) : Prop :=
  (∀ reason, s.receiver ≠ .settling reason) ∧ ∀ reason, s.ready ≠ .settling reason

/-- The frames that were followed since the accepted marker. -/
structure Following (s : LiveSources α) (received : List (Frame α)) (accepted : Evidence)
    (run : List (Frame α)) : Prop where
  received : ∀ f ∈ run, f ∈ received
  session : ∀ f ∈ run, f.session = some accepted.sessionId
  sequence : run.map Frame.sequence = List.range' (accepted.sequence + 1) run.length
  handed : s.handed = run.flatMap Frame.handing
  last : ∀ n, s.lastSequence = some n → n ≤ accepted.sequence + run.length
  front : s.running = true → s.Unsettled → s.sessionId ≠ none →
    s.lastSequence = some (accepted.sequence + run.length)
  marker : ∀ cut, s.readyMarker = some (.done cut) → s.sessionId ≠ none →
    Passed accepted run.length cut
  adopting : ∀ cut, s.ready = .adopting cut → s.sessionId ≠ none → Passed accepted run.length cut
  returned : ∀ cut ∈ s.returned, Passed accepted run.length cut

/-- What holds of the subscriber, for the frames it received and the evidence that was answered. -/
structure Sound (vouched : Evidence → Prop) (received : List (Frame α)) (s : LiveSources α) :
    Prop where
  live : s.running = true → s.invalid = false ∧ s.closed = false
  ended : s.running = false → s.receiver = .ended
  closed : s.closed = true → s.sessionId = none ∧ s.ready = .idle
  fresh : s.closed = false → s.sessionId = none → s.accepted = none
  silent : s.accepted = none → s.handed = [] ∧ s.sessionId = none ∧ s.returned = []
  session : ∀ x, s.sessionId = some x → ∃ accepted, s.accepted = some accepted ∧
    x = accepted.sessionId ∧ s.dropBaseline = some accepted.readingDropCount ∧
      s.failureBaseline = some accepted.publishFailureCount
  following : ∀ accepted, s.accepted = some accepted → ∃ run, s.Following received accepted run
  held : ∀ cut, s.provisionalCut = some cut → ∀ entry ∈ s.provisional,
    .data cut.evidence.sessionId entry.1 entry.2 ∈ received
  empty : s.provisionalCut = none → s.provisional = []
  marking : ∀ n nonce e, s.ready = .marking n nonce e → vouched e
  adopting : ∀ cut, s.ready = .adopting cut →
    s.readyMarker = some (.done cut) ∧ vouched cut.evidence
  accepted : ∀ e, s.accepted = some e → vouched e
  returned : ∀ cut ∈ s.returned, vouched cut.evidence
  broken : s.broken = true → s.invalid = true ∧ s.accepted ≠ none

variable {vouched : Evidence → Prop} {received : List (Frame α)} {s t u : LiveSources α}

theorem Sound.mono {vouched' : Evidence → Prop} {received' : List (Frame α)}
    (h : s.Sound vouched received) (hvouched : ∀ e, vouched e → vouched' e)
    (hreceived : received ⊆ received') : s.Sound vouched' received' where
  live := h.live
  ended := h.ended
  closed := h.closed
  fresh := h.fresh
  silent := h.silent
  session := h.session
  following := by
    intro accepted haccepted
    obtain ⟨run, g⟩ := h.following accepted haccepted
    exact ⟨run, fun f hf => hreceived (g.received f hf), g.session, g.sequence, g.handed, g.last,
      g.front, g.marker, g.adopting, g.returned⟩
  held := fun cut hcut entry hentry => hreceived (h.held cut hcut entry hentry)
  empty := h.empty
  marking := fun n nonce e he => hvouched e (h.marking n nonce e he)
  adopting := fun cut hcut => ⟨(h.adopting cut hcut).1, hvouched _ (h.adopting cut hcut).2⟩
  accepted := fun e he => hvouched e (h.accepted e he)
  returned := fun cut hcut => hvouched _ (h.returned cut hcut)
  broken := h.broken

/-- A step that hands nothing over, accepts nothing and returns no cut. -/
structure Quiet (s t : LiveSources α) : Prop where
  handed : t.handed = s.handed
  accepted : t.accepted = s.accepted
  returned : t.returned = s.returned
  sessionId : t.sessionId = s.sessionId
  baselines : t.dropBaseline = s.dropBaseline ∧ t.failureBaseline = s.failureBaseline
  lastSequence : t.lastSequence = s.lastSequence
  closed : t.closed = s.closed
  broken : t.broken = s.broken
  invalid : s.invalid = true → t.invalid = true
  stopped : s.closed = true → t.invalid = s.invalid
  running : t.running = true → s.running = true ∧ t.invalid = s.invalid
  ended : t.running = false → (s.running = false → s.receiver = .ended) → t.receiver = .ended
  front : t.running = true → t.Unsettled → s.Unsettled
  provisional : t.provisional = [] ∨
    (t.provisional = s.provisional ∧ t.provisionalCut = s.provisionalCut)
  marker : ∀ cut, t.readyMarker = some (.done cut) → s.readyMarker = some (.done cut)
  marking : ∀ n nonce e, t.ready = .marking n nonce e → ∃ n' nonce', s.ready = .marking n' nonce' e
  adopting : ∀ cut, t.ready = .adopting cut →
    (s.readyMarker = some (.done cut) → t.readyMarker = some (.done cut)) ∧
      (s.ready = .adopting cut ∨
        (s.readyMarker = some (.done cut) ∧ ∃ n nonce, s.ready = .marking n nonce cut.evidence))
  idle : t.ready ≠ .idle → s.running = true ∨ s.ready ≠ .idle

theorem Quiet.refl (s : LiveSources α) : Quiet s s :=
  ⟨rfl, rfl, rfl, rfl, ⟨rfl, rfl⟩, rfl, rfl, rfl, id, fun _ => rfl, fun h => ⟨h, rfl⟩,
    fun h hended => hended h, fun _ h => h, .inr ⟨rfl, rfl⟩, fun _ h => h, fun n nonce _ h => ⟨n, nonce, h⟩,
    fun _ h => ⟨id, .inl h⟩, .inr⟩

theorem Sound.quiet (h : s.Sound vouched received) (hq : Quiet s t) : t.Sound vouched received where
  live := by
    intro hrunning
    obtain ⟨hs, hinvalid⟩ := hq.running hrunning
    rw [hinvalid, hq.closed]
    exact h.live hs
  ended := fun hrunning => hq.ended hrunning h.ended
  closed := by
    intro hclosed
    rw [hq.closed] at hclosed
    refine ⟨hq.sessionId.trans (h.closed hclosed).1, ?_⟩
    by_contra hready
    rcases hq.idle hready with hrunning | hidle
    · exact absurd ((h.live hrunning).2.symm.trans hclosed) (by simp)
    · exact hidle (h.closed hclosed).2
  fresh := by
    rw [hq.closed, hq.sessionId, hq.accepted]
    exact h.fresh
  silent := by
    rw [hq.accepted, hq.handed, hq.sessionId, hq.returned]
    exact h.silent
  session := by
    rw [hq.sessionId, hq.accepted, hq.baselines.1, hq.baselines.2]
    exact h.session
  following := by
    rw [hq.accepted]
    intro accepted haccepted
    obtain ⟨run, g⟩ := h.following accepted haccepted
    refine ⟨run, g.received, g.session, g.sequence, hq.handed.trans g.handed, ?_, ?_, ?_, ?_, ?_⟩
    · rw [hq.lastSequence]
      exact g.last
    · rw [hq.lastSequence, hq.sessionId]
      intro hrunning hunsettled
      exact g.front (hq.running hrunning).1 (hq.front hrunning hunsettled)
    · rw [hq.sessionId]
      exact fun cut hcut => g.marker cut (hq.marker cut hcut)
    · rw [hq.sessionId]
      intro cut hcut
      rcases (hq.adopting cut hcut).2 with hadopting | ⟨hmarker, _⟩
      · exact g.adopting cut hadopting
      · exact g.marker cut hmarker
    · rw [hq.returned]
      exact g.returned
  held := by
    intro cut hcut entry hentry
    rcases hq.provisional with hempty | ⟨hsame, hcuts⟩
    · rw [hempty] at hentry
      exact absurd hentry (List.not_mem_nil)
    · rw [hcuts] at hcut
      rw [hsame] at hentry
      exact h.held cut hcut entry hentry
  empty := by
    intro hcut
    rcases hq.provisional with hempty | ⟨hsame, hcuts⟩
    · exact hempty
    · rw [hsame]
      rw [hcuts] at hcut
      exact h.empty hcut
  marking := by
    intro n nonce e he
    obtain ⟨n', nonce', hs⟩ := hq.marking n nonce e he
    exact h.marking n' nonce' e hs
  adopting := by
    intro cut hcut
    obtain ⟨hkept, hadopting | ⟨hmarker, n, nonce, hmarking⟩⟩ := hq.adopting cut hcut
    · exact ⟨hkept (h.adopting cut hadopting).1, (h.adopting cut hadopting).2⟩
    · exact ⟨hkept hmarker, h.marking n nonce _ hmarking⟩
  accepted := by
    rw [hq.accepted]
    exact h.accepted
  returned := by
    rw [hq.returned]
    exact h.returned
  broken := by
    rw [hq.broken, hq.accepted]
    exact fun hbroken => ⟨hq.invalid (h.broken hbroken).1, (h.broken hbroken).2⟩

theorem Quiet.trans (h : Quiet s t) (h' : Quiet t u) : Quiet s u where
  handed := h'.handed.trans h.handed
  accepted := h'.accepted.trans h.accepted
  returned := h'.returned.trans h.returned
  sessionId := h'.sessionId.trans h.sessionId
  baselines := ⟨h'.baselines.1.trans h.baselines.1, h'.baselines.2.trans h.baselines.2⟩
  lastSequence := h'.lastSequence.trans h.lastSequence
  closed := h'.closed.trans h.closed
  broken := h'.broken.trans h.broken
  invalid := fun hinvalid => h'.invalid (h.invalid hinvalid)
  stopped := fun hclosed => (h'.stopped (h.closed.trans hclosed)).trans (h.stopped hclosed)
  running := by
    intro hrunning
    obtain ⟨ht, hsame⟩ := h'.running hrunning
    exact ⟨(h.running ht).1, hsame.trans (h.running ht).2⟩
  ended := fun hrunning hended => h'.ended hrunning fun ht => h.ended ht hended
  front := fun hrunning hunsettled =>
    h.front (h'.running hrunning).1 (h'.front hrunning hunsettled)
  provisional := by
    rcases h'.provisional with hempty | ⟨hsame, hcuts⟩
    · exact .inl hempty
    · rcases h.provisional with hempty | ⟨hsame', hcuts'⟩
      · exact .inl (hsame.trans hempty)
      · exact .inr ⟨hsame.trans hsame', hcuts.trans hcuts'⟩
  marker := fun cut hcut => h.marker cut (h'.marker cut hcut)
  marking := by
    intro n nonce e he
    obtain ⟨n', nonce', ht⟩ := h'.marking n nonce e he
    exact h.marking n' nonce' e ht
  adopting := by
    intro cut hcut
    obtain ⟨hkept', hadopting | ⟨hmarker, n', nonce', hmarking⟩⟩ := h'.adopting cut hcut
    · obtain ⟨hkept, hs⟩ := h.adopting cut hadopting
      exact ⟨fun hmarker => hkept' (hkept hmarker), hs⟩
    · obtain ⟨n, nonce, hs⟩ := h.marking n' nonce' _ hmarking
      exact ⟨fun _ => hkept' hmarker, .inr ⟨h.marker cut hmarker, n, nonce, hs⟩⟩
  idle := by
    intro hready
    rcases h'.idle hready with hrunning | ht
    · exact .inl (h.running hrunning).1
    · exact h.idle ht

/-- The generation that runs is valid and open. -/
abbrev Live (s : LiveSources α) : Prop :=
  s.running = true → s.invalid = false ∧ s.closed = false

theorem invalidate_quiet (s : LiveSources α) (reason : String) : Quiet s (s.invalidate reason) := by
  unfold invalidate
  split
  · exact .refl s
  · constructor
    case marker =>
      intro cut hcut
      dsimp only at hcut
      split at hcut
      · cases hcut
      · exact hcut
    all_goals simp_all [Unsettled]

theorem invalidate_running (hlive : s.Live) (reason : String) :
    (s.invalidate reason).running = false := by
  unfold invalidate
  split
  · rename_i h
    by_contra hrunning
    rw [Bool.not_eq_false] at hrunning
    rcases h with hinvalid | hclosed
    · exact absurd ((hlive hrunning).1.symm.trans hinvalid) (by simp)
    · exact absurd ((hlive hrunning).2.symm.trans hclosed) (by simp)
  · rfl

theorem leaveReady_quiet (hrunning : s.running = false) : Quiet s s.leaveReady := by
  constructor <;> simp_all [leaveReady]

theorem failReady_quiet (hlive : s.Live) (reason : String) : Quiet s (s.failReady reason) :=
  (s.invalidate_quiet reason).trans (leaveReady_quiet (invalidate_running hlive reason))

theorem moved_quiet {next : ReadyAt} {nonce : Option String} {marker : Option Marker}
    (hready : ∀ reason, s.ready ≠ .settling reason)
    (hidle : s.running = true ∨ s.ready ≠ .idle) (hmarking : ∀ n nonce e, next ≠ .marking n nonce e)
    (hadopting : ∀ cut, next = .adopting cut →
      marker = some (.done cut) ∧ ∃ n nonce, s.ready = .marking n nonce cut.evidence)
    (hmarker : ∀ cut, marker = some (.done cut) → s.readyMarker = some (.done cut)) :
    Quiet s { s with ready := next, readyNonce := nonce, readyMarker := marker } := by
  constructor <;> simp_all [Unsettled]

theorem query_quiet (hlive : s.Live) (hready : ∀ reason, s.ready ≠ .settling reason)
    (number : ℕ) (nonce : String) : Quiet s (s.query number nonce) := by
  unfold query
  split
  · exact failReady_quiet hlive _
  · rename_i hvalid
    have hrunning : s.running = true := by simp_all
    exact moved_quiet hready (.inl hrunning) (by simp) (by simp) (fun _ h => h)

theorem attempt_quiet (hlive : s.Live) (hrunning : s.running = true)
    (hready : ∀ reason, s.ready ≠ .settling reason) (hadopting : ∀ cut, s.ready ≠ .adopting cut)
    (number : ℕ) (nonce : String) : Quiet s (s.attempt number nonce) := by
  unfold attempt
  split
  · exact failReady_quiet hlive _
  · dsimp only
    split
    · exact moved_quiet hready (.inl hrunning) (by simp) (by simp) (by simp)
    · have hmoved : Quiet s { s with readyNonce := some nonce, readyMarker := some .pending } := by
        constructor <;> simp_all [Unsettled]
      exact hmoved.trans (query_quiet
        (s := { s with readyNonce := some nonce, readyMarker := some .pending }) hlive hready number
        nonce)

theorem callReady_quiet (hlive : s.Live) (nonce : String) : Quiet s (s.callReady nonce) := by
  unfold callReady
  split
  · exact .refl s
  · rename_i hidle
    have hready : s.ready = .idle := by simp_all [readyActive]
    exact attempt_quiet hlive (by simp_all) (by simp [hready]) (by simp [hready]) 0 nonce

theorem awaitConnected_quiet (hlive : s.Live) : Quiet s s.awaitConnected := by
  unfold awaitConnected
  split
  · rename_i nonce hready
    split
    · exact query_quiet hlive (by simp [hready]) 0 nonce
    · exact .refl s
  · exact .refl s

theorem retire_quiet {nonce : String} {requireNoEvidence : Bool}
    (hadopting : ∀ cut, s.ready ≠ .adopting cut) (h : s.retire nonce requireNoEvidence = some t) :
    Quiet s t ∧ t.running = true ∧ t.invalid = false ∧ t.closed = s.closed ∧ t.ready = s.ready := by
  unfold retire at h
  split at h
  · cases h
  · rename_i hvalid
    obtain rfl := Option.some.inj h
    refine ⟨?_, ?_⟩
    · constructor <;> simp_all [Unsettled]
    · simp_all

theorem again_quiet (hlive : s.Live) (hready : ∀ reason, s.ready ≠ .settling reason)
    (hadopting : ∀ cut, s.ready ≠ .adopting cut) (number : ℕ) (nonce nextNonce reason : String)
    (requireNoEvidence : Bool) :
    Quiet s (s.again number nonce nextNonce reason requireNoEvidence) := by
  unfold again
  split
  · split
    · rename_i t ht
      obtain ⟨hquiet, hrunning, hinvalid, hclosed, hsame⟩ := retire_quiet hadopting ht
      refine hquiet.trans
        (attempt_quiet (fun _ => ⟨hinvalid, ?_⟩) hrunning ?_ ?_ (number + 1) nextNonce)
      · rw [hclosed]
        exact (hlive (hquiet.running hrunning).1).2
      · rw [hsame]
        exact hready
      · rw [hsame]
        exact hadopting
    · exact failReady_quiet hlive reason
  · exact failReady_quiet hlive reason

theorem unanswered_quiet (hlive : s.Live) (nextNonce : String) :
    Quiet s (s.answered none nextNonce) := by
  unfold answered
  split
  · rename_i hreply
    cases hreply
  · rename_i hready _
    exact again_quiet hlive (by simp [hready]) (by simp [hready]) _ _ _ _ _
  · exact .refl s

theorem unreadable_quiet (hlive : s.Live) : Quiet s s.unreadable := by
  unfold unreadable
  split
  · exact failReady_quiet hlive _
  · exact .refl s

theorem timeout_quiet (hlive : s.Live) (nextNonce : String) : Quiet s (s.timeout nextNonce) := by
  unfold timeout
  dsimp only
  split
  · exact failReady_quiet hlive _
  · exact failReady_quiet hlive _
  · rename_i hready
    exact again_quiet hlive (by simp [hready]) (by simp [hready]) _ _ _ _ _
  · exact .refl s

theorem marked_quiet (hlive : s.Live) : Quiet s s.marked := by
  unfold marked
  split
  · rename_i number nonce evidence cut hready hmarker
    split
    · rename_i hsame
      subst hsame
      refine moved_quiet (by simp [hready]) (.inr (by simp [hready])) (by simp)
        (fun cut' hcut => ?_) (fun _ h => h)
      obtain rfl := ReadyAt.adopting.inj hcut
      exact ⟨hmarker, number, nonce, hready⟩
    · exact failReady_quiet hlive _
  · exact failReady_quiet hlive _
  · exact .refl s

theorem settleReady_quiet (hlive : s.Live) : Quiet s s.settleReady := by
  unfold settleReady
  split
  · exact failReady_quiet hlive _
  · exact .refl s

theorem cancelReady_quiet (hlive : s.Live) : Quiet s s.cancelReady := by
  unfold cancelReady
  split
  · exact failReady_quiet hlive _
  · exact .refl s

theorem settleReceiver_quiet (s : LiveSources α) : Quiet s s.settleReceiver := by
  unfold settleReceiver
  split
  · exact invalidate_quiet s _
  · exact .refl s

theorem connect_quiet (s : LiveSources α) : Quiet s { s with connected := true } := by
  constructor <;> simp_all [Unsettled]

/-! ## The answer of the query and the end -/

theorem Sound.answered (h : s.Sound vouched received) {e : Evidence} (he : vouched e)
    (nextNonce : String) : (s.answered (some e) nextNonce).Sound vouched received := by
  unfold LiveSources.answered
  split
  · rename_i number nonce _ e' hready hreply
    obtain rfl := Option.some.inj hreply
    have hopen : s.closed = false := by
      by_contra hclosed
      rw [Bool.not_eq_false] at hclosed
      rw [(h.closed hclosed).2] at hready
      cases hready
    refine ⟨h.live, h.ended, by simp [hopen], h.fresh, h.silent, h.session, fun accepted hac => ?_,
      h.held, h.empty, fun n nonce' e' hmarking => ?_, by simp, h.accepted, h.returned, h.broken⟩
    · obtain ⟨run, g⟩ := h.following accepted hac
      exact ⟨run, g.received, g.session, g.sequence, g.handed, g.last,
        fun hrunning hunsettled => g.front hrunning ⟨hunsettled.1, by simp [hready]⟩, g.marker,
        by simp, g.returned⟩
    · rw [← (ReadyAt.marking.inj hmarking).2.2]
      exact he
  · rename_i hreply
    cases hreply
  · exact h

theorem Sound.stop (h : s.Sound vouched received) : s.stop.Sound vouched received where
  live := by simp [LiveSources.stop]
  ended := fun _ => rfl
  closed := fun _ => ⟨rfl, rfl⟩
  fresh := by simp [LiveSources.stop]
  silent := fun haccepted =>
    ⟨(h.silent haccepted).1, rfl, (h.silent haccepted).2.2⟩
  session := by simp [LiveSources.stop]
  following := by
    intro accepted haccepted
    obtain ⟨run, g⟩ := h.following accepted haccepted
    refine ⟨run, g.received, g.session, g.sequence, g.handed, ?_, ?_, ?_, ?_, g.returned⟩ <;>
      simp [LiveSources.stop]
  held := by simp [LiveSources.stop]
  empty := fun _ => rfl
  marking := by simp [LiveSources.stop, leaveReady]
  adopting := by simp [LiveSources.stop, leaveReady]
  accepted := h.accepted
  returned := h.returned
  broken := h.broken

theorem Sound.returnReady (h : s.Sound vouched received) {cut : LiveSourceCut}
    (hready : s.ready = .adopting cut) (hsession : s.sessionId ≠ none) :
    (s.returnReady cut).Sound vouched received where
  live := h.live
  ended := h.ended
  closed := fun hclosed => ⟨(h.closed hclosed).1, rfl⟩
  fresh := h.fresh
  silent := fun haccepted => absurd (h.silent haccepted).2.1 hsession
  session := h.session
  following := by
    intro accepted haccepted
    obtain ⟨run, g⟩ := h.following accepted haccepted
    refine ⟨run, g.received, g.session, g.sequence, g.handed, g.last,
      fun hrunning hunsettled => g.front hrunning ⟨hunsettled.1, by simp [hready]⟩,
      by simp [LiveSources.returnReady, leaveReady], by simp [LiveSources.returnReady, leaveReady],
      fun cut' hcut' => ?_⟩
    rcases List.mem_append.mp hcut' with hcut' | hcut'
    · exact g.returned cut' hcut'
    · rw [List.mem_singleton.mp hcut']
      exact g.adopting cut hready hsession
  held := h.held
  empty := h.empty
  marking := by simp [LiveSources.returnReady, leaveReady]
  adopting := by simp [LiveSources.returnReady, leaveReady]
  accepted := h.accepted
  returned := by
    intro cut' hcut'
    rcases List.mem_append.mp hcut' with hcut' | hcut'
    · exact h.returned cut' hcut'
    · rw [List.mem_singleton.mp hcut']
      exact (h.adopting cut hready).2
  broken := h.broken

theorem Sound.extend (h : s.Sound vouched received) {accepted : Evidence} {run : List (Frame α)}
    (haccepted : s.accepted = some accepted) (g : s.Following received accepted run) {f : Frame α}
    (hf : f ∈ received) (hsession : f.session = some accepted.sessionId)
    (hsequence : f.sequence = accepted.sequence + run.length + 1) {last : Option ℕ}
    {marker : Option Marker} {receiver : Receiver}
    (hlast : last = some f.sequence ∨
      (last = s.lastSequence ∧ (s.running = true → ∃ reason, receiver = .settling reason)))
    (hmarker : ∀ cut, marker = some (.done cut) →
      s.readyMarker = some (.done cut) ∨ Passed accepted (run.length + 1) cut)
    (hkept : ∀ cut, s.readyMarker = some (.done cut) → marker = some (.done cut))
    (hreceiver : s.running = false → receiver = .ended) :
    Sound vouched received
      { s with
        handed := s.handed ++ f.handing
        lastSequence := last
        readyMarker := marker
        receiver := receiver } where
  live := h.live
  ended := hreceiver
  closed := h.closed
  fresh := h.fresh
  silent := fun hnone => absurd (haccepted.symm.trans hnone) (by simp)
  session := h.session
  following := by
    intro accepted' haccepted'
    obtain rfl : accepted = accepted' := Option.some.inj (haccepted.symm.trans haccepted')
    have hlength : (run ++ [f]).length = run.length + 1 := by simp
    refine ⟨run ++ [f], fun f' hf' => ?_, fun f' hf' => ?_, ?_, ?_, fun n hn => ?_,
      fun hrunning hunsettled _ => ?_, fun cut hcut hne => ?_, fun cut hcut hne => ?_,
      fun cut hcut => ?_⟩
    · rcases List.mem_append.mp hf' with hf' | hf'
      · exact g.received f' hf'
      · rw [List.mem_singleton.mp hf']
        exact hf
    · rcases List.mem_append.mp hf' with hf' | hf'
      · exact g.session f' hf'
      · rw [List.mem_singleton.mp hf']
        exact hsession
    · rw [List.map_append, g.sequence, hlength, List.range'_concat, Nat.one_mul,
        List.map_singleton, hsequence]
      congr 2
      omega
    · rw [List.flatMap_append, List.flatMap_singleton, ← g.handed]
    · rw [hlength]
      rcases hlast with hlast | ⟨hlast, _⟩
      · have : f.sequence = n := Option.some.inj (hlast.symm.trans hn)
        omega
      · have := g.last n (hlast.symm.trans hn)
        omega
    · rcases hlast with hlast | ⟨_, hsettling⟩
      · exact hlast.trans (congrArg some (hsequence.trans (by rw [hlength, Nat.add_assoc])))
      · obtain ⟨reason, hreason⟩ := hsettling hrunning
        exact absurd hreason (hunsettled.1 reason)
    · rw [hlength]
      rcases hmarker cut hcut with hs | hpassed
      · exact (g.marker cut hs hne).mono (Nat.le_succ _)
      · exact hpassed
    · rw [hlength]
      exact (g.adopting cut hcut hne).mono (Nat.le_succ _)
    · rw [hlength]
      exact (g.returned cut hcut).mono (Nat.le_succ _)
  held := h.held
  empty := h.empty
  marking := h.marking
  adopting := fun cut hcut => ⟨hkept cut (h.adopting cut hcut).1, (h.adopting cut hcut).2⟩
  accepted := h.accepted
  returned := h.returned
  broken := h.broken

theorem next_of_validNext {session : String} {sequence : ℕ} {accepted : Evidence}
    {run : List (Frame α)} (h : s.Sound vouched received) (haccepted : s.accepted = some accepted)
    (g : s.Following received accepted run) (hrunning : s.running = true) (hunsettled : s.Unsettled)
    (hsession : s.sessionId ≠ none) (hnext : s.validNext session sequence false ≠ false) :
    session = accepted.sessionId ∧ sequence = accepted.sequence + run.length + 1 := by
  obtain ⟨x, hx⟩ := Option.ne_none_iff_exists'.mp hsession
  obtain ⟨accepted', haccepted', rfl, _⟩ := h.session x hx
  obtain rfl : accepted = accepted' := Option.some.inj (haccepted.symm.trans haccepted')
  simp only [validNext, hx, g.front hrunning hunsettled hsession, Option.any_some,
    Bool.false_eq_true, ↓reduceIte, Bool.and_eq_false_imp, decide_eq_true_eq, Option.some.injEq,
    decide_eq_false_iff_not, ne_eq, not_forall, Decidable.not_not] at hnext
  exact ⟨hnext.1.symm, hnext.2⟩

theorem stopReceiving_settling (hlive : s.Live) (hrunning : s.running = true) (category : String) :
    s.stopReceiving category =
      { s with receiver := .settling category }.stopReceiving category := by
  obtain ⟨hinvalid, hclosed⟩ := hlive hrunning
  simp [stopReceiving, invalidate, hinvalid, hclosed]

theorem Sound.handleBarrier (cfg : Config α) (h : s.Sound vouched received)
    (hrunning : s.running = true) (hunsettled : s.Unsettled) {nonce : String} {e : Evidence}
    (hf : .marker nonce e ∈ received) :
    (s.handleBarrier cfg nonce e).Sound vouched received := by
  have hrefused : ∀ category, (s.stopReceiving category).Sound vouched received :=
    fun category => h.quiet (invalidate_quiet s _)
  unfold LiveSources.handleBarrier
  dsimp only
  split
  · exact h
  split
  · exact hrefused _
  rename_i hpending
  rw [not_or, not_or, not_not, not_not] at hpending
  split
  · rename_i hsession
    split
    · exact hrefused _
    · -- The first marker of an attempt: the buffer is empty.
      rename_i hcut
      rw [not_not] at hcut
      refine ⟨h.live, h.ended, h.closed, h.fresh, h.silent, h.session, fun accepted haccepted => ?_,
        fun cut' _ entry hentry => ?_, by simp, h.marking, fun cut' hcut' => ?_, h.accepted,
        h.returned, h.broken⟩
      · obtain ⟨run, g⟩ := h.following accepted haccepted
        exact ⟨run, g.received, g.session, g.sequence, g.handed, g.last, g.front,
          fun _ _ hne => absurd hsession hne, g.adopting, g.returned⟩
      · rw [h.empty hcut] at hentry
        exact absurd hentry List.not_mem_nil
      · exact absurd ((h.adopting cut' hcut').1.symm.trans hpending.2.2) (by simp)
  split
  · exact hrefused _
  split
  · exact hrefused _
  · rename_i hsession hnext hcounters
    obtain ⟨x, hx⟩ := Option.ne_none_iff_exists'.mp hsession
    obtain ⟨accepted, haccepted, -, hdrops, hfailures⟩ := h.session x hx
    obtain ⟨run, g⟩ := h.following accepted haccepted
    obtain ⟨hsame, hsequence⟩ :=
      next_of_validNext h haccepted g hrunning hunsettled hsession hnext
    rw [not_or, not_not, not_not, hdrops, hfailures] at hcounters
    have hextend := @Sound.extend _ _ _ _ h _ _ haccepted g _ hf (congrArg some hsame) hsequence
    have hmarked := @hextend (some e.sequence) (some (.done ⟨cfg.generation, e⟩)) s.receiver
      (.inl rfl) (fun cut hcut => ?_) (by simp [hpending.2.2]) h.ended
    · simpa [Frame.handing] using hmarked
    · obtain rfl := Marker.done.inj (Option.some.inj hcut)
      exact .inr ⟨by dsimp only; omega, by dsimp only; omega, Option.some.inj hcounters.1,
        Option.some.inj hcounters.2⟩

theorem Sound.handleData (cfg : Config α) (h : s.Sound vouched received)
    (hrunning : s.running = true) (hunsettled : s.Unsettled) {session : String} {sequence : ℕ}
    {body : Body α} (hf : .data session sequence body ∈ received) (answer : Answer) :
    (s.handleData cfg session sequence body answer).Sound vouched received := by
  have hrefused : ∀ category, (s.stopReceiving category).Sound vouched received :=
    fun category => h.quiet (invalidate_quiet s _)
  unfold LiveSources.handleData
  split
  · rename_i hsession
    split
    · exact hrefused _
    rename_i hnext
    obtain ⟨x, hx⟩ := Option.ne_none_iff_exists'.mp hsession
    obtain ⟨accepted, haccepted, -, -, -⟩ := h.session x hx
    obtain ⟨run, g⟩ := h.following accepted haccepted
    obtain ⟨hsame, hsequence⟩ :=
      next_of_validNext h haccepted g hrunning hunsettled hsession hnext
    have hextend := @Sound.extend _ _ _ _ h _ _ haccepted g _ hf (congrArg some hsame) hsequence
    split
    · rename_i hdispatched
      have hhanding : Frame.handing (.data session sequence body) = [(sequence, body)] :=
        if_pos hdispatched
      rw [hhanding] at hextend
      have hsettling : ∀ category,
          Sound vouched received { s.hand sequence body with receiver := .settling category } :=
        fun category => hextend (.inr ⟨rfl, fun _ => ⟨category, rfl⟩⟩) (fun _ => .inl) (fun _ => id)
          fun hstopped => absurd (hrunning.symm.trans hstopped) (by simp)
      split
      · exact hextend (.inl rfl) (fun _ => .inl) (fun _ => id) h.ended
      · rename_i category
        rw [stopReceiving_settling (s := s.hand sequence body) h.live hrunning]
        exact (hsettling category).quiet (invalidate_quiet _ _)
      · exact hsettling _
    · rename_i hdispatched
      have hhanding : Frame.handing (.data session sequence body) = [] := if_neg hdispatched
      have hskipped := @hextend (some sequence) s.readyMarker s.receiver (.inl rfl)
        (fun _ => .inl) (fun _ => id) h.ended
      rwa [hhanding, List.append_nil] at hskipped
  split
  · rename_i hsession hcut
    split
    · exact hrefused _
    split
    · exact hrefused _
    · -- The frame is held; its session is the one of the cut.
      rename_i hnext _
      refine ⟨h.live, h.ended, h.closed, h.fresh, h.silent, h.session, fun accepted haccepted => ?_,
        fun cut hcut' entry hentry => ?_, fun hnone => absurd hnone hcut, h.marking, h.adopting,
        h.accepted, h.returned, h.broken⟩
      · obtain ⟨run, g⟩ := h.following accepted haccepted
        exact ⟨run, g.received, g.session, g.sequence, g.handed, g.last, g.front, g.marker,
          g.adopting, g.returned⟩
      rcases List.mem_append.mp hentry with hentry | hentry
      · exact h.held cut hcut' entry hentry
      · rw [List.mem_singleton.mp hentry]
        simp only [validNext, show s.provisionalCut = some cut from hcut', Bool.and_eq_false_imp,
          decide_eq_true_eq, Option.some.injEq, not_forall] at hnext
        rw [hnext.1]
        exact hf
  · exact h

theorem Sound.handleFrame (cfg : Config α) (h : s.Sound vouched received)
    (hrunning : s.running = true) (hunsettled : s.Unsettled) {f : Frame α} (hf : f ∈ received)
    (answer : Answer) : (s.handleFrame cfg f answer).Sound vouched received := by
  have hrefused : ∀ category, (s.stopReceiving category).Sound vouched received :=
    fun category => h.quiet (invalidate_quiet s _)
  cases f with
  | foreign =>
      refine h.quiet ?_
      constructor <;> simp_all [LiveSources.handleFrame, Unsettled]
  | malformed => exact hrefused _
  | data session sequence body =>
      unfold LiveSources.handleFrame
      dsimp only
      split
      · exact hrefused _
      split
      · exact hrefused _
      · exact h.handleData cfg hrunning hunsettled hf answer
  | marker nonce e =>
      unfold LiveSources.handleFrame
      dsimp only
      split
      · exact hrefused _
      · exact h.handleBarrier cfg hrunning hunsettled hf

theorem refused_of_breaks (cfg : Config α) {f : Frame α} (hbreaks : s.breaks f = true)
    (answer : Answer) : s.sessionId ≠ none ∧
      ∃ category, s.handleFrame cfg f answer = s.stopReceiving category := by
  unfold breaks at hbreaks
  split at hbreaks
  · rename_i x session hx hsession
    have hnext : s.validNext session f.sequence false = false := by simpa using hbreaks
    have hopen : s.sessionId ≠ none := by simp [hx]
    refine ⟨hopen, ?_⟩
    cases f with
    | foreign => cases hsession
    | malformed => cases hsession
    | data session' sequence body =>
        obtain rfl := Option.some.inj hsession
        replace hnext : s.validNext session' sequence false = false := hnext
        unfold LiveSources.handleFrame LiveSources.handleData
        dsimp only
        split
        · exact ⟨_, rfl⟩
        split
        · exact ⟨_, rfl⟩
        exact ⟨_, rfl⟩
    | marker nonce e =>
        obtain rfl := Option.some.inj hsession
        replace hnext : s.validNext e.sessionId e.sequence false = false := hnext
        unfold LiveSources.handleFrame LiveSources.handleBarrier
        dsimp only
        split
        · exact ⟨_, rfl⟩
        rw [if_neg fun hretired => hopen hretired.2.1]
        split
        · exact ⟨_, rfl⟩
        exact ⟨_, rfl⟩
  · cases hbreaks

theorem invalidate_invalid (hclosed : s.closed = false) (reason : String) :
    (s.invalidate reason).invalid = true := by
  unfold invalidate
  split
  · rename_i h
    simpa [hclosed] using h
  · rfl

theorem Sound.receive (cfg : Config α) (h : s.Sound vouched received) (hidle : s.receiver = .idle)
    (hunsettled : s.Unsettled) (f : Frame α) (answer : Answer) :
    (s.receive cfg f answer).Sound vouched (received ++ [f]) := by
  have hrunning : s.running = true := by
    by_contra hstopped
    rw [Bool.not_eq_true] at hstopped
    exact absurd (hidle.symm.trans (h.ended hstopped)) (by simp)
  have hs := h.mono (fun _ => id) (List.subset_append_left received [f])
  have hf : f ∈ received ++ [f] := List.mem_append_right _ (List.mem_singleton_self f)
  have ht := hs.handleFrame cfg hrunning hunsettled hf answer
  refine ⟨ht.live, ht.ended, ht.closed, ht.fresh, ht.silent, ht.session,
    fun accepted haccepted => ?_, ht.held, ht.empty, ht.marking, ht.adopting, ht.accepted,
    ht.returned, fun hbroken => ?_⟩
  · obtain ⟨run, g⟩ := ht.following accepted haccepted
    exact ⟨run, g.received, g.session, g.sequence, g.handed, g.last, g.front, g.marker, g.adopting,
      g.returned⟩
  · rcases Bool.or_eq_true_iff.mp hbroken with hbroken | hbreaks
    · exact absurd ((h.live hrunning).1.symm.trans (h.broken hbroken).1) (by simp)
    · obtain ⟨hsession, category, hrefused⟩ := refused_of_breaks cfg hbreaks answer
      change (s.handleFrame cfg f answer).invalid = true ∧
        (s.handleFrame cfg f answer).accepted ≠ none
      rw [hrefused]
      refine ⟨invalidate_invalid (h.live hrunning).2 _, ?_⟩
      rw [stopReceiving, (invalidate_quiet s _).accepted]
      exact fun hnone => hsession (h.silent hnone).2.1

/-! ## The first accepted marker -/

def handings (held : List (ℕ × Body α)) : List (ℕ × Body α) := held.filter fun e => e.2.dispatched

theorem dispatchHeld_spec (held : List (ℕ × Body α)) (s : LiveSources α) (answers : List Answer)
    {n : ℕ} (hn : s.lastSequence = some n) :
    ∃ k last, k ≤ held.length ∧ (held.take k).map Prod.fst = List.range' (n + 1) k ∧
      last ≤ n + k ∧
        ((s.dispatchHeld held answers).2 = none → k = held.length ∧ last = n + k) ∧
        (s.dispatchHeld held answers).1 =
          { s with handed := s.handed ++ handings (held.take k), lastSequence := some last } := by
  induction held generalizing s answers n with
  | nil =>
      refine ⟨0, n, le_rfl, rfl, le_rfl, fun _ => ⟨rfl, rfl⟩, ?_⟩
      simp only [dispatchHeld, handings, List.take_nil, List.filter_nil, List.append_nil, ← hn]
  | cons entry rest ih =>
      obtain ⟨sequence, body⟩ := entry
      unfold dispatchHeld
      split
      · refine ⟨0, n, Nat.zero_le _, rfl, le_rfl, by simp, ?_⟩
        simp only [handings, List.take_zero, List.filter_nil, List.append_nil, ← hn]
      · rename_i hnext
        have hsequence : sequence = n + 1 := by simpa [hn] using hnext
        subst hsequence
        split
        · rename_i hdispatched
          split
          · -- The callback fails: the frame was handed over, its number is not passed.
            refine ⟨1, n, by simp, rfl, Nat.le_succ _, by simp, ?_⟩
            simp only [hand, handings, List.take_succ_cons, List.take_zero, hdispatched,
              List.filter_cons_of_pos, List.filter_nil, ← hn]
          · obtain ⟨k, last, hk, hrange, hlast, hdone, hresult⟩ := ih
              { s.hand (n + 1) body with lastSequence := some (n + 1) } answers.tail rfl
            refine ⟨k + 1, last, Nat.succ_le_succ hk, ?_, by omega, fun hnone => ?_, ?_⟩
            · rw [List.take_succ_cons, List.map_cons, hrange, List.range'_succ]
            · obtain ⟨hall, hlast⟩ := hdone hnone
              exact ⟨congrArg Nat.succ hall, by omega⟩
            · rw [hresult]
              simp only [hand, handings, List.take_succ_cons, hdispatched, List.filter_cons_of_pos,
                List.append_assoc, List.singleton_append]
        · rename_i hdispatched
          obtain ⟨k, last, hk, hrange, hlast, hdone, hresult⟩ := ih
            { s with lastSequence := some (n + 1) } answers rfl
          refine ⟨k + 1, last, Nat.succ_le_succ hk, ?_, by omega, fun hnone => ?_, ?_⟩
          · rw [List.take_succ_cons, List.map_cons, hrange, List.range'_succ]
          · obtain ⟨hall, hlast⟩ := hdone hnone
            exact ⟨congrArg Nat.succ hall, by omega⟩
          · rw [hresult]
            have hskipped : handings ((n + 1, body) :: rest.take k) = handings (rest.take k) :=
              List.filter_cons_of_neg hdispatched
            rw [List.take_succ_cons, hskipped]

theorem dispatchHeld_returns (held : List (ℕ × Body α)) (s : LiveSources α) (answers : List Answer)
    {n : ℕ} (hn : s.lastSequence = some n)
    (hrange : held.map Prod.fst = List.range' (n + 1) held.length)
    (hanswers : ∀ answer ∈ answers, answer = .returns) :
    (s.dispatchHeld held answers).2 = none := by
  induction held generalizing s answers n with
  | nil => rfl
  | cons entry rest ih =>
      obtain ⟨sequence, body⟩ := entry
      rw [List.map_cons, List.length_cons, List.range'_succ] at hrange
      obtain ⟨rfl, hrest⟩ := List.cons.inj hrange
      unfold dispatchHeld
      rw [if_neg (by simp [hn])]
      split
      · split
        · rename_i category cancels _ _
          exact absurd (hanswers _ List.mem_cons_self) (by simp)
        · exact ih _ _ rfl hrest fun answer hanswer => hanswers answer (List.mem_of_mem_tail hanswer)
      · exact ih _ _ rfl hrest hanswers

def frames (session : String) (held : List (ℕ × Body α)) : List (Frame α) :=
  held.map fun e => .data session e.1 e.2

theorem flatMap_frames (session : String) (held : List (ℕ × Body α)) :
    (frames session held).flatMap Frame.handing = handings held := by
  induction held with
  | nil => rfl
  | cons entry rest ih =>
      simp only [frames, List.map_cons, List.flatMap_cons, handings] at ih ⊢
      rw [ih]
      by_cases hdispatched : entry.2.dispatched = true
      · simp only [Frame.handing, List.filter_cons, hdispatched, ↓reduceIte, List.singleton_append]
      · simp only [Frame.handing, List.filter_cons, hdispatched, Bool.false_eq_true, ↓reduceIte,
          List.nil_append]

/-- `ready` accepts the provisional cut; the callbacks have been given `k` of the held frames. -/
theorem Sound.accept (h : s.Sound vouched received) {cut : LiveSourceCut}
    (hready : s.ready = .adopting cut) (hsession : s.sessionId = none)
    (hcut : s.provisionalCut = some cut) {k last : ℕ} (hk : k ≤ s.provisional.length)
    (hrange : (s.provisional.take k).map Prod.fst = List.range' (cut.evidence.sequence + 1) k)
    (hlast : last ≤ cut.evidence.sequence + k) {next : ReadyAt}
    (hnext : (next = .adopting cut ∧ last = cut.evidence.sequence + k) ∨
      ∃ reason, next = .settling reason)
    {provisional : List (ℕ × Body α)} {provisionalCut : Option LiveSourceCut}
    {provisionalLast : Option ℕ} {provisionalBytes : ℕ}
    (hprovisional : provisional = [] ∨
      (provisional = s.provisional ∧ provisionalCut = s.provisionalCut)) :
    Sound vouched received
      { s.accept cut with
        handed := s.handed ++ handings (s.provisional.take k)
        lastSequence := some last
        ready := next
        provisional := provisional
        provisionalBytes := provisionalBytes
        provisionalCut := provisionalCut
        provisionalLast := provisionalLast } := by
  have hopen : s.closed = false := by
    by_contra hclosed
    rw [Bool.not_eq_false] at hclosed
    rw [(h.closed hclosed).2] at hready
    cases hready
  have hnone : s.accepted = none := h.fresh hopen hsession
  obtain ⟨hhanded, -, hreturned⟩ := h.silent hnone
  obtain ⟨hmarked, hvouched⟩ := h.adopting cut hready
  have hpassed : Passed cut.evidence k cut := ⟨le_rfl, Nat.le_add_right _ _, rfl, rfl⟩
  have hlength : (frames (α := α) cut.evidence.sessionId (s.provisional.take k)).length = k := by
    rw [frames, List.length_map, List.length_take, min_eq_left hk]
  refine ⟨h.live, h.ended, by simp [LiveSources.accept, hopen],
    by simp [LiveSources.accept], by simp [LiveSources.accept],
    fun x hx => ⟨_, rfl, (Option.some.inj hx).symm, rfl, rfl⟩, fun accepted haccepted => ?_,
    fun cut' hcut' entry hentry => ?_, fun hcut' => ?_, fun n nonce e hmarking => ?_,
    fun cut' hadopting => ?_, fun e he => ?_, ?_, fun hbroken => absurd hnone (h.broken hbroken).2⟩
  · obtain rfl : cut.evidence = accepted := Option.some.inj haccepted
    refine ⟨frames cut.evidence.sessionId (s.provisional.take k), fun f hf => ?_,
      fun f hf => ?_, ?_, ?_, fun n hn => ?_, fun _ hunsettled _ => ?_, fun cut' hmarker _ => ?_,
      fun cut' hadopting _ => ?_, ?_⟩
    · obtain ⟨entry, hentry, rfl⟩ := List.mem_map.mp hf
      exact h.held cut hcut entry (List.mem_of_mem_take hentry)
    · obtain ⟨entry, hentry, rfl⟩ := List.mem_map.mp hf
      rfl
    · rw [hlength, ← hrange, frames, List.map_map]
      rfl
    · rw [flatMap_frames, hhanded, List.nil_append]
    · rw [hlength, ← Option.some.inj hn]
      exact hlast
    · rcases hnext with ⟨-, hdone⟩ | ⟨reason, hsettling⟩
      · rw [hlength, ← hdone]
      · exact absurd hsettling (hunsettled.2 reason)
    · obtain rfl := Marker.done.inj (Option.some.inj (hmarked.symm.trans hmarker))
      rw [hlength]
      exact hpassed
    · rcases hnext with ⟨hnext, -⟩ | ⟨reason, hsettling⟩
      · rw [hlength]
        obtain rfl := ReadyAt.adopting.inj (hnext.symm.trans hadopting)
        exact hpassed
      · cases hsettling.symm.trans hadopting
    · change ∀ cut' ∈ s.returned, _
      simp [hreturned]
  · rcases hprovisional with hempty | ⟨hsame, hcuts⟩
    · rw [show provisional = [] from hempty] at hentry
      exact absurd hentry List.not_mem_nil
    · exact h.held cut' (hcuts.symm.trans hcut') entry (hsame ▸ hentry)
  · rcases hprovisional with hempty | ⟨hsame, hcuts⟩
    · exact hempty
    · exact absurd (hcuts.symm.trans hcut') (by simp [hcut])
  · rcases hnext with ⟨hnext, -⟩ | ⟨reason, hsettling⟩
    · cases hnext.symm.trans hmarking
    · cases hsettling.symm.trans hmarking
  · rcases hnext with ⟨hnext, -⟩ | ⟨reason, hsettling⟩
    · obtain rfl := ReadyAt.adopting.inj (hnext.symm.trans hadopting)
      exact ⟨hmarked, hvouched⟩
    · cases hsettling.symm.trans hadopting
  · obtain rfl : cut.evidence = e := Option.some.inj he
    exact hvouched
  · change ∀ cut' ∈ s.returned, _
    simp [hreturned]

theorem failReady_settling (s : LiveSources α) (category : String) :
    s.failReady category = { s with ready := .settling category }.failReady category := by
  unfold failReady invalidate leaveReady
  dsimp only
  split <;> rfl

theorem Sound.adopt (h : s.Sound vouched received) (answers : List Answer) :
    (s.adopt answers).Sound vouched received := by
  unfold LiveSources.adopt
  split
  · rename_i cut hready
    split
    · rename_i hsession
      split
      · exact h.quiet (failReady_quiet h.live _)
      rename_i hcut
      rw [not_not] at hcut
      obtain ⟨k, last, hk, hrange, hlast, hdone, hresult⟩ :=
        dispatchHeld_spec s.provisional (s.accept cut) answers rfl
      have haccepted := @Sound.accept _ _ _ _ h _ hready hsession hcut _ _ hk hrange hlast
      have hsettling : ∀ category, Sound vouched received
          { ((s.accept cut).dispatchHeld s.provisional answers).1 with
            ready := .settling category } := by
        intro category
        rw [hresult]
        exact haccepted (.inr ⟨category, rfl⟩) (.inr ⟨rfl, rfl⟩)
      dsimp only
      split
      · rename_i category _
        rw [failReady_settling]
        exact (hsettling category).quiet (failReady_quiet (hsettling category).live _)
      · exact hsettling _
      · rename_i hnone
        have hadopted :=
          @haccepted (.adopting cut) (.inl ⟨rfl, (hdone hnone).2⟩) [] none none 0 (.inl rfl)
        rw [hresult]
        exact @Sound.returnReady _ _ _ _ hadopted cut rfl (by simp [LiveSources.accept])
    · rename_i hsession
      exact h.returnReady hready hsession
  · exact h

theorem start_sound (vouched : Evidence → Prop) :
    Sound vouched [] ({} : LiveSources α) where
  live := by simp
  ended := by simp
  closed := by simp
  fresh := by simp
  silent := by simp
  session := by simp
  following := by simp
  held := by simp
  empty := by simp
  marking := by simp
  adopting := by simp
  accepted := by simp
  returned := by simp
  broken := by simp

end LiveSources

end Stream
end CryoDaq
