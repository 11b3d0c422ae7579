import CryoDaq.Stream.ReadyCut
import CryoDaq.Stream.Smooth

/-!
# A stream without loss is not invalidated

Every step that loses nothing keeps `World.Smooth`, so the subscriber is never
invalidated in a run of such steps.
-/

namespace CryoDaq
namespace Stream
namespace World

variable {α : Type} {cfg : Config α} {w : World α}

theorem Stage.transport (h : w.Stage cfg) {w' : World α} (hsources : w'.sources = w.sources)
    (hmarkers : markers w'.pipe = markers w.pipe)
    (hbarriers : w'.publisher.barriers.Perm w.publisher.barriers)
    (hreplies : w'.publisher.replies = w.publisher.replies)
    (htasks : w.publisher.tasks ≤ w'.publisher.tasks) : w'.Stage cfg := by
  have hnone : w.publisher.barriers = [] → w'.publisher.barriers = [] := fun hempty =>
    (hempty ▸ hbarriers).eq_nil
  unfold Stage Arriving Asked at h ⊢
  rw [hsources, hmarkers, hreplies]
  cases hready : w.sources.ready with
  | idle =>
      rw [hready] at h
      exact ⟨hnone h.1, h.2⟩
  | connecting nonce =>
      rw [hready] at h
      exact ⟨hnone h.1, h.2⟩
  | querying attempt nonce task =>
      rw [hready] at h
      cases task with
      | none => exact ⟨hnone h.1, h.2⟩
      | some task =>
          rcases h with ⟨hone, hmarked, hasked, hearly, hunanswered⟩ | ⟨hempty, hanswered⟩
          · exact .inl ⟨List.perm_singleton.mp (hone ▸ hbarriers), hmarked, hasked,
              hearly.trans_le htasks, hunanswered⟩
          · exact .inr ⟨hnone hempty, hanswered⟩
  | marking attempt nonce e =>
      rw [hready] at h
      exact ⟨hnone h.1, h.2⟩
  | adopting cut =>
      rw [hready] at h
      exact ⟨hnone h.1, h.2⟩
  | settling reason =>
      rw [hready] at h
      exact h

theorem own_eq {w' : World α} (h : w'.publisher.sessionId = w.publisher.sessionId) :
    (w'.own : Frame α → Bool) = w.own := by
  funext f
  unfold own
  rw [h]

theorem Stage.pending (h : w.Stage cfg) (hsome : w.publisher.barriers ≠ []) :
    ∃ attempt nonce task, w.sources.ready = .querying attempt nonce (some task) ∧
      w.publisher.barriers = [(task, nonce)] ∧ markers w.pipe = [] ∧ w.Asked nonce ∧
        task < w.publisher.tasks ∧ ∀ r, (task, r) ∉ w.publisher.replies := by
  unfold Stage at h
  cases hready : w.sources.ready with
  | idle =>
      rw [hready] at h
      exact absurd h.1 hsome
  | connecting nonce =>
      rw [hready] at h
      exact absurd h.1 hsome
  | querying attempt nonce task =>
      rw [hready] at h
      cases task with
      | none => exact absurd h.1 hsome
      | some task =>
          rcases h with hpending | ⟨hempty, _⟩
          · exact ⟨attempt, nonce, task, rfl, hpending⟩
          · exact absurd hempty hsome
  | marking attempt nonce e =>
      rw [hready] at h
      exact absurd h.1 hsome
  | adopting cut =>
      rw [hready] at h
      exact absurd h.1 hsome
  | settling reason =>
      rw [hready] at h
      exact h.elim

theorem Smooth.publish (h : w.Smooth cfg) {q : Publisher α} (hq : q.Smooth cfg)
    (hkept : Publisher.Kept w.publisher q) (hbarriers : q.barriers.Perm w.publisher.barriers)
    (hreplies : q.replies = w.publisher.replies) (htasks : w.publisher.tasks ≤ q.tasks) :
    (w.publish q).Smooth cfg := by
  have hown : (w.publish q).own = w.own := own_eq hkept.sessionId
  refine ⟨hq, fun r hr => ?_, ?_, ?_, ?_, h.stage.transport rfl rfl hbarriers hreplies htasks⟩
  · rw [show (w.publish q).publisher.replies = w.publisher.replies from hreplies] at hr
    exact (h.early r hr).trans_le htasks
  · rw [hown]
    exact h.ordered.trans hkept.sent.symm
  · rw [hown]
    exact h.frames
  · unfold count
    rw [hown, show (w.publish q).publisher.sessionId = w.publisher.sessionId from hkept.sessionId]
    exact h.sources

theorem Smooth.subscribe (h : w.Smooth cfg) {s : LiveSources α}
    (hs : s.Smooth w.publisher.sessionId w.count) (hstage : (w.subscribe s).Stage cfg) :
    (w.subscribe s).Smooth cfg :=
  ⟨h.publisher, h.early, h.ordered, h.frames, hs, hstage⟩

theorem markers_append (l l' : List (Frame α)) : markers (l ++ l') = markers l ++ markers l' :=
  List.filterMap_append

theorem Smooth.transmit (h : w.Smooth cfg) (hsound : w.Sound) : w.transmit.Smooth cfg := by
  unfold World.transmit
  split
  · rename_i s hs
    obtain ⟨hsession, hsent, -⟩ := Publisher.succeed_spec hs
    have hown : ∀ f ∈ s.frame.toList, w.own f = true := by
      intro f hf
      exact decide_eq_true ((hsound.publisher.sending s hs).frame f (Option.mem_toList.mp hf)).1
    have hshaped := h.publisher.sending s hs
    have hordered : (w.received ++ (w.pipe ++ s.frame.toList)).filter w.own =
        w.publisher.succeed.sent := by
      rw [hsent, ← List.append_assoc, List.filter_append, h.ordered, List.filter_eq_self.mpr hown]
    have hframes : ∀ f ∈ w.pipe ++ s.frame.toList, f = .foreign ∨ (w.own f = true ∧
        ∀ session n body, f = .data session n body → cfg.readable n body = true) := by
      intro f hf
      rcases List.mem_append.mp hf with hf | hf
      · exact h.frames f hf
      · refine .inr ⟨hown f hf, fun session n body hdata => ?_⟩
        subst hdata
        exact hshaped.readable (Option.mem_toList.mp hf)
    have hown' : (World.own { w with
        publisher := w.publisher.succeed
        pipe := w.pipe ++ s.frame.toList } : Frame α → Bool) = w.own := own_eq hsession
    have hsources := h.sources
    rw [← hsession] at hsources
    cases hbarrier : s.barrier? with
    | none =>
        obtain ⟨hsmooth, hbarriers, hreplies, htasks, hmarker⟩ :=
          h.publisher.succeed_other hs hbarrier
        refine ⟨hsmooth, ?_, ?_, ?_, ?_,
          h.stage.transport rfl ?_ (hbarriers ▸ List.Perm.refl _) hreplies htasks.ge⟩
        · rw [hreplies, htasks]
          exact h.early
        · rw [hown']
          exact hordered
        · rw [hown']
          exact hframes
        · unfold count
          rw [hown']
          exact hsources
        · have hnone : markers s.frame.toList = [] := by
            refine List.filterMap_eq_nil_iff.mpr fun f hf => ?_
            cases f with
            | marker nonce e => exact absurd (Option.mem_toList.mp hf) (hmarker nonce e)
            | foreign => rfl
            | malformed => rfl
            | data session n body => rfl
          change markers (w.pipe ++ s.frame.toList) = _
          rw [markers_append, hnone, List.append_nil]
    | some barrier =>
        obtain ⟨-, before, hwork⟩ := Sending.work_of_barrier hbarrier
        obtain ⟨e, hframe, hsmooth, hreplies, htasks, hbarriers⟩ :=
          h.publisher.succeed_barrier hs hwork
        obtain ⟨attempt, nonce, task, hready, hone, hmarked, hasked, hearly, hunanswered⟩ :=
          h.stage.pending fun hempty => by
            rw [hempty] at hbarriers
            exact absurd hbarriers.symm.eq_nil (by simp)
        rw [hone] at hbarriers
        obtain ⟨hsame, hnone⟩ := List.cons.inj (List.perm_singleton.mp hbarriers.symm)
        obtain ⟨rfl, rfl⟩ := Prod.mk.inj hsame
        refine ⟨hsmooth, ?_, ?_, ?_, ?_, ?_⟩
        · rw [hreplies, htasks]
          intro r hr
          rcases List.mem_append.mp hr with hr | hr
          · exact h.early r hr
          · rw [List.mem_singleton.mp hr]
            exact hearly
        · rw [hown']
          exact hordered
        · rw [hown']
          exact hframes
        · unfold count
          rw [hown']
          exact hsources
        · -- The barrier is answered and its marker is under way.
          unfold Stage
          dsimp only
          rw [hready]
          refine .inr ⟨hnone, e, ?_, .inl ⟨?_, hasked⟩⟩
          · rw [hreplies]
            refine List.lookup_eq_some_iff.mpr ⟨_, [], rfl, fun p hp => ?_⟩
            exact bne_iff_ne.mpr fun heq => hunanswered p.2 (heq ▸ hp)
          · rw [hframe, markers_append, hmarked]
            rfl
  · exact h

theorem Smooth.next_number (h : w.Smooth cfg) {f : Frame α} {rest : List (Frame α)}
    (hpipe : w.pipe = f :: rest) (hown : w.own f = true) : f.sequence = w.count + 1 := by
  have hordered := h.ordered
  rw [hpipe, List.filter_append, List.filter_cons_of_pos hown] at hordered
  have hnumbered := congrArg (·[w.count]?) h.publisher.numbered
  rw [← hordered] at hnumbered
  have hfirst : ((w.received.filter w.own ++ f :: rest.filter w.own ++
      w.publisher.inFlight).map Frame.sequence)[w.count]? = some f.sequence := by
    rw [List.append_assoc, List.map_append, List.getElem?_append_right (by simp [count])]
    simp [count]
  rw [hfirst, List.getElem?_range'] at hnumbered
  · have hsequence := Option.some.inj hnumbered
    omega
  · by_contra hlarge
    rw [List.getElem?_eq_none (by simpa using hlarge)] at hnumbered
    cases hnumbered

theorem Smooth.validNext (h : w.Smooth cfg) (hsound : w.Sound) {session : String} {n : ℕ}
    (hsession : session = w.publisher.sessionId) (hn : n = w.count + 1)
    (haccepted : w.sources.sessionId ≠ none) : w.sources.validNext session n false = true := by
  obtain ⟨x, hx⟩ := Option.ne_none_iff_exists'.mp haccepted
  obtain ⟨accepted, hfirst, rfl, -⟩ := hsound.sources.session x hx
  obtain ⟨-, hsame⟩ :=
    hsound.publisher.vouched_sampled (hsound.sources.accepted accepted hfirst)
  unfold LiveSources.validNext
  simp only [hx, h.sources.front haccepted, hsession, hsame, hn, Bool.false_eq_true, ↓reduceIte,
    Option.any_some, decide_true, Bool.and_self]

theorem Smooth.counters (h : w.Smooth cfg) (hsound : w.Sound) {nonce : String} {e : Evidence}
    (hsent : .marker nonce e ∈ w.publisher.sent) (haccepted : w.sources.sessionId ≠ none) :
    some e.readingDropCount = w.sources.dropBaseline ∧
      some e.publishFailureCount = w.sources.failureBaseline := by
  obtain ⟨x, hx⟩ := Option.ne_none_iff_exists'.mp haccepted
  obtain ⟨accepted, hfirst, -, hdrops, hfailures⟩ := hsound.sources.session x hx
  obtain ⟨hsampled, -⟩ :=
    hsound.publisher.vouched_sampled (hsound.sources.accepted accepted hfirst)
  obtain ⟨hdrop, hfailure⟩ := h.publisher.steady e (hsound.publisher.markers nonce e hsent)
  obtain ⟨hdrop', hfailure'⟩ := h.publisher.steady accepted hsampled
  rw [hdrops, hfailures, hdrop, hfailure, hdrop', hfailure']
  exact ⟨rfl, rfl⟩

theorem Stage.arrives (h : w.Stage cfg) {nonce : String} {e : Evidence} {rest : List (Frame α)}
    (hpipe : w.pipe = .marker nonce e :: rest) :
    w.sources.readyActive = true ∧ w.Asked nonce ∧ markers rest = [] ∧
      ∀ w' : World α, w'.publisher = w.publisher → w'.sources.ready = w.sources.ready →
        w'.Arriving cfg nonce e → w'.Stage cfg := by
  have hmarkers : markers w.pipe = (nonce, e) :: markers rest := by
    rw [hpipe]
    rfl
  have hsome : markers w.pipe ≠ [] := by simp [hmarkers]
  have harriving : ∀ nonce' e', w.Arriving cfg nonce' e' →
      nonce' = nonce ∧ e' = e ∧ w.Asked nonce ∧ markers rest = [] := by
    intro nonce' e' harriving
    rcases harriving with ⟨hone, hasked⟩ | ⟨hempty, _⟩
    · obtain ⟨hsame, hrest⟩ := List.cons.inj (hmarkers.symm.trans hone)
      obtain ⟨rfl, rfl⟩ := Prod.mk.inj hsame
      exact ⟨rfl, rfl, hasked, hrest⟩
    · exact absurd hempty hsome
  unfold Stage at h
  cases hready : w.sources.ready with
  | idle =>
      rw [hready] at h
      exact absurd h.2.1 hsome
  | connecting nonce' =>
      rw [hready] at h
      exact absurd h.2.1 hsome
  | querying attempt nonce' task =>
      rw [hready] at h
      cases task with
      | none => exact absurd h.2.1 hsome
      | some task =>
          rcases h with ⟨_, hempty, _⟩ | ⟨hbarriers, e', hlookup, hpending⟩
          · exact absurd hempty hsome
          · obtain ⟨rfl, rfl, hasked, hrest⟩ := harriving nonce' e' hpending
            refine ⟨by simp [LiveSources.readyActive, hready], hasked, hrest,
              fun w' hpublisher hready' hnext => ?_⟩
            unfold Stage
            rw [hready', hpublisher]
            exact .inr ⟨hbarriers, e', hlookup, hnext⟩
  | marking attempt nonce' e' =>
      rw [hready] at h
      obtain ⟨rfl, rfl, hasked, hrest⟩ := harriving nonce' e' h.2
      refine ⟨by simp [LiveSources.readyActive, hready], hasked, hrest,
        fun w' hpublisher hready' hnext => ?_⟩
      unfold Stage
      rw [hready', hpublisher]
      exact ⟨h.1, hnext⟩
  | adopting cut =>
      rw [hready] at h
      exact absurd h.2.1 hsome
  | settling reason =>
      rw [hready] at h
      exact h.elim

theorem count_foreign (w : World α) :
    ((w.received ++ [Frame.foreign]).filter w.own).length = w.count := by
  rw [List.filter_append, List.filter_cons_of_neg (by simp [own, Frame.session]), List.filter_nil,
    List.append_nil]
  rfl

theorem count_own {f : Frame α} (hown : w.own f = true) :
    ((w.received ++ [f]).filter w.own).length = w.count + 1 := by
  rw [List.filter_append, List.filter_cons_of_pos hown]
  simp [count]

theorem Smooth.handleData (h : w.Smooth cfg) (hsound : w.Sound) {session : String} {n : ℕ}
    {body : Body α} {rest : List (Frame α)} (hpipe : w.pipe = .data session n body :: rest)
    (hown : w.own (.data session n body) = true)
    (hfits : w.sources.sessionId = none →
      w.sources.provisional.length < cfg.maxProvisionalFrames ∧
        w.sources.provisionalBytes + cfg.encodedBytes n body ≤ cfg.maxProvisionalBytes) :
    let s := w.sources.handleData cfg session n body .returns
    s.Smooth w.publisher.sessionId (w.count + 1) ∧ s.ready = w.sources.ready ∧
      s.readyNonce = w.sources.readyNonce ∧ s.readyMarker = w.sources.readyMarker ∧
        s.sessionId = w.sources.sessionId ∧ s.provisionalCut = w.sources.provisionalCut := by
  have hs := h.sources
  have hn : n = w.count + 1 := h.next_number hpipe hown
  have hsession : session = w.publisher.sessionId := Option.some.inj (of_decide_eq_true hown)
  unfold LiveSources.handleData
  by_cases haccepted : w.sources.sessionId = none
  · rw [if_neg (by simp [haccepted])]
    by_cases hcut : w.sources.provisionalCut = none
    · rw [if_neg (by simp [hcut])]
      exact ⟨⟨hs.valid, hs.running, hs.retired, fun hne => absurd haccepted hne, by simp [hcut],
        hs.unsettled⟩, rfl, rfl, rfl, rfl, rfl⟩
    · obtain ⟨cut, hcut'⟩ := Option.ne_none_iff_exists'.mp hcut
      obtain ⟨hsame, hlast, hcount, hrange⟩ := hs.held haccepted cut hcut'
      have hnext : w.sources.validNext session n true = true := by
        unfold LiveSources.validNext
        simp only [hcut', hsame, hsession, hlast, hn, ↓reduceIte, Option.any_some, decide_true,
          Bool.and_self]
      obtain ⟨hframes, hbytes⟩ := hfits haccepted
      rw [if_pos hcut, if_neg (by simp [hnext]), if_neg (by omega)]
      refine ⟨⟨hs.valid, hs.running, hs.retired, fun hne => absurd haccepted hne,
        fun _ cut' hcut'' => ?_, hs.unsettled⟩, rfl, rfl, rfl, rfl, rfl⟩
      obtain rfl : cut = cut' := Option.some.inj (hcut'.symm.trans hcut'')
      refine ⟨hsame, congrArg some hn, ?_, ?_⟩
      · rw [List.length_append, List.length_singleton]
        omega
      · rw [List.map_append, hrange, List.length_append, List.length_singleton, List.range'_concat,
          Nat.one_mul, List.map_singleton, hn, hcount]
        congr 2
        omega
  · have hnext := h.validNext hsound hsession hn haccepted
    rw [if_pos haccepted, if_neg (by simp [hnext])]
    split
    · exact ⟨⟨hs.valid, hs.running, hs.retired, fun _ => congrArg some hn,
        fun hnone => absurd hnone haccepted, hs.unsettled⟩, rfl, rfl, rfl, rfl, rfl⟩
    · exact ⟨⟨hs.valid, hs.running, hs.retired, fun _ => congrArg some hn,
        fun hnone => absurd hnone haccepted, hs.unsettled⟩, rfl, rfl, rfl, rfl, rfl⟩

theorem Smooth.handleBarrier (h : w.Smooth cfg) (hsound : w.Sound) {nonce : String} {e : Evidence}
    {rest : List (Frame α)} (hpipe : w.pipe = .marker nonce e :: rest)
    (hown : w.own (.marker nonce e) = true) :
    let s := w.sources.handleBarrier cfg nonce e
    s.Smooth w.publisher.sessionId (w.count + 1) ∧ s.ready = w.sources.ready ∧
      s.readyMarker = some (.done ⟨cfg.generation, e⟩) ∧ s.sessionId = w.sources.sessionId ∧
        (s.sessionId = none → s.provisionalCut = some ⟨cfg.generation, e⟩) := by
  have hs := h.sources
  have hn : e.sequence = w.count + 1 := h.next_number hpipe hown
  have hsession : e.sessionId = w.publisher.sessionId := Option.some.inj (of_decide_eq_true hown)
  obtain ⟨hactive, ⟨hnonce, hpending, hfresh⟩, -, -⟩ := h.stage.arrives hpipe
  unfold LiveSources.handleBarrier
  dsimp only
  rw [if_neg (by simp [hs.retired]), if_neg (by simp [hactive, hnonce, hpending])]
  by_cases haccepted : w.sources.sessionId = none
  · rw [if_pos haccepted, if_neg (by simp [hfresh haccepted])]
    refine ⟨⟨hs.valid, hs.running, hs.retired, fun hne => absurd haccepted hne, fun _ cut hcut => ?_,
      hs.unsettled⟩, rfl, rfl, rfl, fun _ => rfl⟩
    obtain rfl := Option.some.inj hcut
    refine ⟨hsession, congrArg some hn, ?_, ?_⟩
    · rw [hsound.sources.empty (hfresh haccepted)]
      exact hn.symm
    · rw [hsound.sources.empty (hfresh haccepted)]
      rfl
  · have hnext := h.validNext hsound hsession hn haccepted
    have hsent : .marker nonce e ∈ w.publisher.sent := by
      rw [← h.ordered, hpipe]
      exact List.mem_filter.mpr ⟨List.mem_append_right _ List.mem_cons_self, hown⟩
    obtain ⟨hdrops, hfailures⟩ := h.counters hsound hsent haccepted
    rw [if_neg haccepted, if_neg (by simp [hnext]), if_neg (by simp [hdrops, hfailures])]
    exact ⟨⟨hs.valid, hs.running, hs.retired, fun _ => congrArg some hn,
      fun hnone => absurd hnone haccepted, hs.unsettled⟩, rfl, rfl, rfl,
      fun hnone => absurd hnone haccepted⟩

theorem Smooth.deliver (h : w.Smooth cfg) (hsound : w.Sound)
    (hfits : ∀ session n body rest, w.pipe = .data session n body :: rest →
      w.sources.sessionId = none → w.sources.provisional.length < cfg.maxProvisionalFrames ∧
        w.sources.provisionalBytes + cfg.encodedBytes n body ≤ cfg.maxProvisionalBytes) :
    (w.deliver cfg .returns).Smooth cfg := by
  unfold World.deliver
  split
  · rename_i f rest hpipe _ _
    have hordered : ((w.received ++ [f]) ++ rest).filter w.own = w.publisher.sent := by
      rw [List.append_assoc, List.singleton_append, ← hpipe]
      exact h.ordered
    have hrest : ∀ f' ∈ rest, f' = .foreign ∨ (w.own f' = true ∧
        ∀ session n body, f' = .data session n body → cfg.readable n body = true) :=
      fun f' hf' => h.frames f' (hpipe ▸ List.mem_cons_of_mem f hf')
    have hvalid : ¬(w.sources.invalid = true ∨ w.sources.running = false) := by
      simp [h.sources.valid, h.sources.running]
    have hstage := h.stage
    rcases h.frames f (hpipe ▸ List.mem_cons_self) with rfl | ⟨hown, hreadable⟩
    · -- A frame on another topic is counted and left out.
      have hmarkers : markers rest = markers w.pipe := by
        rw [hpipe]
        rfl
      refine ⟨h.publisher, h.early, hordered, hrest, ?_, ?_⟩
      · have hsmooth := h.sources
        rw [← count_foreign w] at hsmooth
        exact ⟨hsmooth.valid, hsmooth.running, hsmooth.retired, hsmooth.front, hsmooth.held,
          hsmooth.unsettled⟩
      · unfold Stage Arriving Asked at hstage ⊢
        rw [← hmarkers] at hstage
        exact hstage
    have hcount := count_own hown
    cases f with
    | foreign => simp [own, Frame.session] at hown
    | malformed => simp [own, Frame.session] at hown
    | data session n body =>
        obtain ⟨hsmooth, hready, hnonce, hmarker, hsession, hcut⟩ :=
          h.handleData hsound hpipe hown (hfits session n body rest hpipe)
        have hframe : w.sources.handleFrame cfg (.data session n body) .returns =
            w.sources.handleData cfg session n body .returns := by
          unfold LiveSources.handleFrame
          dsimp only
          rw [if_neg hvalid, if_neg (by simp [hreadable session n body rfl])]
        have hmarkers : markers rest = markers w.pipe := by
          rw [hpipe]
          rfl
        unfold LiveSources.receive
        rw [hframe]
        refine ⟨h.publisher, h.early, hordered, hrest, ?_, ?_⟩
        · rw [← hcount] at hsmooth
          exact ⟨hsmooth.valid, hsmooth.running, hsmooth.retired, hsmooth.front, hsmooth.held,
            hsmooth.unsettled⟩
        · unfold Stage Arriving Asked at hstage ⊢
          dsimp only
          rw [hready, hnonce, hmarker, hsession, hcut, hmarkers]
          exact hstage
    | marker nonce e =>
        obtain ⟨hsmooth, hready, hmarker, hsession, hcut⟩ := h.handleBarrier hsound hpipe hown
        have hframe : w.sources.handleFrame cfg (.marker nonce e) .returns =
            w.sources.handleBarrier cfg nonce e := by
          unfold LiveSources.handleFrame
          dsimp only
          rw [if_neg hvalid]
        obtain ⟨-, -, hnone, harrived⟩ := hstage.arrives hpipe
        unfold LiveSources.receive
        rw [hframe]
        refine ⟨h.publisher, h.early, hordered, hrest, ?_,
          harrived _ rfl hready (.inr ⟨hnone, hmarker, hcut⟩)⟩
        rw [← hcount] at hsmooth
        exact ⟨hsmooth.valid, hsmooth.running, hsmooth.retired, hsmooth.front, hsmooth.held,
          hsmooth.unsettled⟩
  · exact h

theorem insertIdx_eq_take_drop {β : Type} (l : List β) {i : ℕ} (hi : i ≤ l.length) (x : β) :
    l.insertIdx i x = l.take i ++ x :: l.drop i := by
  induction i generalizing l with
  | zero => rw [List.insertIdx_zero, List.take_zero, List.nil_append, List.drop_zero]
  | succ i ih =>
      cases l with
      | nil => cases hi
      | cons y rest =>
          rw [List.insertIdx_succ_cons, List.take_succ_cons, List.drop_succ_cons, List.cons_append,
            ih rest (Nat.le_of_succ_le_succ hi)]

theorem Smooth.inject (h : w.Smooth cfg) (i : ℕ) : (w.inject i .foreign).Smooth cfg := by
  unfold World.inject
  split
  · exact h
  rcases Nat.lt_or_ge w.pipe.length i with hi | hi
  · rw [List.insertIdx_of_length_lt hi]
    exact h
  have hsplit : w.pipe.insertIdx i .foreign = w.pipe.take i ++ .foreign :: w.pipe.drop i :=
    insertIdx_eq_take_drop w.pipe hi .foreign
  have hpipe := List.take_append_drop i w.pipe
  refine ⟨h.publisher, h.early, ?_, fun f hf => ?_, h.sources, h.stage.transport rfl ?_
    (List.Perm.refl _) rfl le_rfl⟩
  · change (w.received ++ w.pipe.insertIdx i .foreign).filter w.own = _
    rw [hsplit, ← h.ordered, List.filter_append, List.filter_append,
      List.filter_cons_of_neg (by simp [own, Frame.session]), ← List.filter_append, hpipe,
      ← List.filter_append]
  · change f ∈ w.pipe.insertIdx i .foreign at hf
    rcases List.eq_or_mem_of_mem_insertIdx hf with rfl | hf
    · exact .inl rfl
    · exact h.frames f hf
  · change markers (w.pipe.insertIdx i .foreign) = _
    rw [hsplit, markers_append]
    change markers (w.pipe.take i) ++ markers (w.pipe.drop i) = _
    rw [← markers_append, hpipe]

theorem Smooth.callReady (h : w.Smooth cfg) (nonce : String) :
    (w.subscribe (w.sources.callReady nonce)).Smooth cfg := by
  have hs := h.sources
  have hstage := h.stage
  unfold LiveSources.callReady
  split
  · exact h
  · rename_i hidle
    have hready : w.sources.ready = .idle := by simp_all [LiveSources.readyActive]
    unfold Stage at hstage
    rw [hready] at hstage
    unfold LiveSources.attempt
    rw [if_neg (by simp [hs.retired])]
    refine h.subscribe ⟨hs.valid, hs.running, hs.retired, hs.front, hs.held, ?_⟩
      ⟨hstage.1, hstage.2.1, rfl, rfl, hstage.2.2⟩
    exact ⟨hs.unsettled.1, fun reason hsettling => by cases hsettling⟩

theorem Smooth.awaitConnected (h : w.Smooth cfg) :
    (w.subscribe w.sources.awaitConnected).Smooth cfg := by
  have hs := h.sources
  have hstage := h.stage
  unfold LiveSources.awaitConnected
  split
  · rename_i nonce hready
    split
    · unfold Stage at hstage
      rw [hready] at hstage
      unfold LiveSources.query
      rw [if_neg (by simp [hs.valid, hs.running])]
      refine h.subscribe ⟨hs.valid, hs.running, hs.retired, hs.front, hs.held, ?_⟩
        ⟨hstage.1, hstage.2.1, hstage.2.2⟩
      exact ⟨hs.unsettled.1, fun reason hsettling => by cases hsettling⟩
    · exact h
  · exact h

theorem Smooth.request (h : w.Smooth cfg) : w.request.Smooth cfg := by
  have hs := h.sources
  have hstage := h.stage
  unfold World.request
  split
  · rename_i attempt nonce hready
    unfold Stage at hstage
    rw [hready] at hstage
    have hbarriers := Publisher.barriers_callBarrier w.publisher nonce
    rw [hstage.1] at hbarriers
    refine ⟨h.publisher.same rfl rfl rfl rfl rfl rfl rfl rfl rfl,
      fun r hr => (h.early r hr).trans (Nat.lt_succ_self _), h.ordered, h.frames,
      ⟨hs.valid, hs.running, hs.retired, hs.front, hs.held, hs.unsettled.1,
        fun reason hsettling => by cases hsettling⟩,
      .inl ⟨List.perm_singleton.mp hbarriers, hstage.2.1, hstage.2.2, Nat.lt_succ_self _,
        fun r hr => absurd (h.early _ hr) (lt_irrefl _)⟩⟩
  · exact h

theorem Smooth.reply (h : w.Smooth cfg) (nextNonce : String) : (w.reply nextNonce).Smooth cfg := by
  have hs := h.sources
  have hstage := h.stage
  unfold World.reply
  split
  · rename_i attempt nonce task hready
    unfold Stage at hstage
    rw [hready] at hstage
    split
    · rename_i reply hreply
      rcases hstage with ⟨-, -, -, -, hunanswered⟩ | ⟨hbarriers, e, hlookup, harriving⟩
      · obtain ⟨before, after, hsplit, -⟩ := List.lookup_eq_some_iff.mp hreply
        refine absurd (hunanswered reply) ?_
        rw [hsplit]
        simp
      · obtain rfl : some e = reply := Option.some.inj (hlookup.symm.trans hreply)
        unfold LiveSources.answered
        rw [hready]
        refine h.subscribe ⟨hs.valid, hs.running, hs.retired, hs.front, hs.held, hs.unsettled.1,
          fun reason hsettling => by cases hsettling⟩ ⟨hbarriers, harriving⟩
    · exact h
  · exact h

theorem Smooth.marked (h : w.Smooth cfg) : (w.subscribe w.sources.marked).Smooth cfg := by
  have hs := h.sources
  have hstage := h.stage
  unfold LiveSources.marked
  split
  · rename_i attempt nonce e cut hready hmarker
    unfold Stage at hstage
    rw [hready] at hstage
    obtain ⟨hbarriers, ⟨-, -, hpending, -⟩ | ⟨hmarkers, hdone, hcut⟩⟩ := hstage
    · cases hpending.symm.trans hmarker
    · obtain rfl := Marker.done.inj (Option.some.inj (hdone.symm.trans hmarker))
      rw [if_pos rfl]
      exact h.subscribe ⟨hs.valid, hs.running, hs.retired, hs.front, hs.held, hs.unsettled.1,
        fun reason hsettling => by cases hsettling⟩ ⟨hbarriers, hmarkers, hcut⟩
  · rename_i attempt nonce e hready hmarker
    unfold Stage at hstage
    rw [hready] at hstage
    obtain ⟨-, ⟨-, -, hpending, -⟩ | ⟨-, hdone, -⟩⟩ := hstage
    · cases hpending.symm.trans hmarker
    · cases hdone.symm.trans hmarker
  · exact h

theorem Smooth.adopt (h : w.Smooth cfg) {answers : List Answer}
    (hanswers : ∀ answer ∈ answers, answer = .returns) :
    (w.subscribe (w.sources.adopt answers)).Smooth cfg := by
  have hs := h.sources
  have hstage := h.stage
  unfold LiveSources.adopt
  split
  · rename_i cut hready
    unfold Stage at hstage
    rw [hready] at hstage
    obtain ⟨hbarriers, hmarkers, hcut⟩ := hstage
    split
    · rename_i hsession
      have hcut' := hcut hsession
      obtain ⟨hsame, hlast, hcount, hrange⟩ := hs.held hsession cut hcut'
      rw [if_neg (by simp [hcut'])]
      have hreturns := LiveSources.dispatchHeld_returns w.sources.provisional (w.sources.accept cut)
        answers rfl hrange hanswers
      obtain ⟨k, last, -, -, -, hdone, hresult⟩ :=
        LiveSources.dispatchHeld_spec w.sources.provisional (w.sources.accept cut) answers rfl
      obtain ⟨hall, rfl⟩ := hdone hreturns
      dsimp only
      rw [hreturns, hresult]
      refine h.subscribe ⟨hs.valid, hs.running, rfl, fun _ => ?_, fun hnone => (by cases hnone),
        hs.unsettled.1, fun reason hsettling => by cases hsettling⟩
        ⟨hbarriers, hmarkers, fun hnone => by cases hnone⟩
      rw [hcount, ← hall]
      rfl
    · rename_i hsession
      exact h.subscribe ⟨hs.valid, hs.running, rfl, hs.front, hs.held, hs.unsettled.1,
        fun reason hsettling => by cases hsettling⟩
        ⟨hbarriers, hmarkers, fun hnone => absurd hnone hsession⟩
  · exact h

theorem Smooth.after (h : w.Smooth cfg) (hsound : w.Sound) {m : Move α} (hclean : w.Clean cfg m)
    (hopen : m ≠ .stop) : (w.after cfg m).Smooth cfg := by
  have hp := h.publisher
  cases m with
  | put value authoritative =>
      exact h.publish (hp.same rfl rfl rfl rfl rfl rfl rfl rfl rfl) ⟨rfl, rfl, rfl⟩
        (List.Perm.refl _) rfl le_rfl
  | dropReading => exact hclean.elim
  | alarmChanged token =>
      exact h.publish (hp.alarmChanged token hclean) ⟨rfl, rfl, rfl⟩ (List.Perm.refl _) rfl le_rfl
  | take claimed =>
      refine h.publish (hp.take claimed) (Publisher.kept_take _ claimed)
        (List.Perm.of_eq (Publisher.barriers_take _ claimed)) ?_ ?_
      · unfold Publisher.take
        split
        · dsimp only
          split <;> rfl
        · rfl
      · unfold Publisher.take
        split
        · dsimp only
          split
          · exact Nat.le_succ _
          · exact le_rfl
        · exact le_rfl
  | publishEvent value =>
      exact h.publish (hp.same rfl rfl rfl rfl rfl rfl rfl rfl rfl) ⟨rfl, rfl, rfl⟩
        (List.Perm.of_eq (@Publisher.barriers_await _ w.publisher (.event value) rfl)) rfl (Nat.le_succ _)
  | publishOperatorSnapshot =>
      exact h.publish (hp.same rfl rfl rfl rfl rfl rfl rfl rfl rfl) ⟨rfl, rfl, rfl⟩
        (List.Perm.of_eq (@Publisher.barriers_await _ w.publisher .snapshot rfl)) rfl (Nat.le_succ _)
  | barrier nonce => exact hclean.elim
  | joined i =>
      refine h.publish (hp.joined i) (Publisher.kept_joined _ i) (Publisher.barriers_joined _ i) ?_ ?_
      · unfold Publisher.joined
        split <;> rfl
      · unfold Publisher.joined
        split <;> exact le_rfl
  | leave i => exact hclean.elim
  | enter i now =>
      obtain ⟨hreplies, htasks⟩ := Publisher.replies_enter hp i now
      exact h.publish (hp.enter i now hclean.1 hclean.2) (Publisher.kept_enter _ i now)
        (Publisher.barriers_enter hp i now) hreplies htasks.ge
  | succeed => exact h.transmit hsound
  | giveUp =>
      obtain ⟨hsmooth, hbarriers, hreplies, htasks⟩ := hp.giveUp hclean
      exact h.publish hsmooth (Publisher.kept_giveUp _) (hbarriers ▸ List.Perm.refl _) hreplies
        htasks.ge
  | cancel i =>
      obtain ⟨hsmooth, hbarriers, hreplies, htasks⟩ := hp.cancel i hclean
      exact h.publish hsmooth (Publisher.kept_cancel _ i) hbarriers hreplies htasks.ge
  | lose i => exact hclean.elim
  | inject i f =>
      obtain rfl : f = .foreign := hclean
      exact h.inject i
  | connect =>
      have hs := h.sources
      exact h.subscribe ⟨hs.valid, hs.running, hs.retired, hs.front, hs.held, hs.unsettled⟩ h.stage
  | monitorFails reason => exact hclean.elim
  | receive answer =>
      obtain ⟨rfl, hfits⟩ := hclean
      exact h.deliver hsound hfits
  | settleReceiver =>
      have hsettled : w.sources.settleReceiver = w.sources := by
        unfold LiveSources.settleReceiver
        split
        · rename_i category hreceiver
          exact absurd hreceiver (h.sources.unsettled.1 category)
        · rfl
      change (w.subscribe w.sources.settleReceiver).Smooth cfg
      rw [hsettled]
      exact h
  | ready nonce => exact h.callReady nonce
  | awaitConnected => exact h.awaitConnected
  | request => exact h.request
  | reply nextNonce => exact h.reply nextNonce
  | transportFails nextNonce => exact hclean.elim
  | unreadable => exact hclean.elim
  | timeout nextNonce => exact hclean.elim
  | marked => exact h.marked
  | adopt answers =>
      unfold World.after
      dsimp only
      split
      · exact h.adopt hclean
      · exact h
  | settleReady =>
      have hsettled : w.sources.settleReady = w.sources := by
        unfold LiveSources.settleReady
        split
        · rename_i category hready
          exact absurd hready (h.sources.unsettled.2 category)
        · rfl
      change (w.subscribe w.sources.settleReady).Smooth cfg
      rw [hsettled]
      exact h
  | cancelReady => exact hclean.elim
  | stop => exact absurd rfl hopen

theorem stopped_after (hsound : w.Sound) (hclosed : w.sources.closed = true) (m : Move α) :
    (w.after cfg m).sources.closed = true ∧ (w.after cfg m).sources.invalid = w.sources.invalid := by
  have hlive := hsound.sources.live
  obtain ⟨-, hidle⟩ := hsound.sources.closed hclosed
  have hquiet : ∀ s, LiveSources.Quiet w.sources s →
      s.closed = true ∧ s.invalid = w.sources.invalid :=
    fun s hs => ⟨hs.closed.trans hclosed, hs.stopped hclosed⟩
  cases m with
  | put value authoritative => exact ⟨hclosed, rfl⟩
  | dropReading => exact ⟨hclosed, rfl⟩
  | alarmChanged token => exact ⟨hclosed, rfl⟩
  | take claimed => exact ⟨hclosed, rfl⟩
  | publishEvent value => exact ⟨hclosed, rfl⟩
  | publishOperatorSnapshot => exact ⟨hclosed, rfl⟩
  | barrier nonce => exact ⟨hclosed, rfl⟩
  | joined i => exact ⟨hclosed, rfl⟩
  | leave i => exact ⟨hclosed, rfl⟩
  | enter i now => exact ⟨hclosed, rfl⟩
  | succeed =>
      unfold World.after World.transmit
      dsimp only
      split <;> exact ⟨hclosed, rfl⟩
  | giveUp => exact ⟨hclosed, rfl⟩
  | cancel i => exact ⟨hclosed, rfl⟩
  | lose i =>
      unfold World.after World.lose
      dsimp only
      split <;> exact ⟨hclosed, rfl⟩
  | inject i f =>
      unfold World.after World.inject
      dsimp only
      split <;> exact ⟨hclosed, rfl⟩
  | connect => exact ⟨hclosed, rfl⟩
  | monitorFails reason => exact hquiet _ (LiveSources.invalidate_quiet _ reason)
  | receive answer =>
      unfold World.after World.deliver
      dsimp only
      split
      · rename_i hreceiver _
        refine absurd hreceiver ?_
        rw [hsound.sources.ended ?_]
        · simp
        · by_contra hrunning
          rw [Bool.not_eq_false] at hrunning
          exact absurd ((hlive hrunning).2.symm.trans hclosed) (by simp)
      · exact ⟨hclosed, rfl⟩
  | settleReceiver => exact hquiet _ (LiveSources.settleReceiver_quiet _)
  | ready nonce => exact hquiet _ (LiveSources.callReady_quiet hlive nonce)
  | awaitConnected => exact hquiet _ (LiveSources.awaitConnected_quiet hlive)
  | request =>
      unfold World.after World.request
      dsimp only
      rw [hidle]
      exact ⟨hclosed, rfl⟩
  | reply nextNonce =>
      unfold World.after World.reply
      dsimp only
      rw [hidle]
      exact ⟨hclosed, rfl⟩
  | transportFails nextNonce => exact hquiet _ (LiveSources.unanswered_quiet hlive nextNonce)
  | unreadable => exact hquiet _ (LiveSources.unreadable_quiet hlive)
  | timeout nextNonce => exact hquiet _ (LiveSources.timeout_quiet hlive nextNonce)
  | marked => exact hquiet _ (LiveSources.marked_quiet hlive)
  | adopt answers =>
      unfold World.after LiveSources.adopt
      dsimp only
      rw [hidle]
      split <;> exact ⟨hclosed, rfl⟩
  | settleReady => exact hquiet _ (LiveSources.settleReady_quiet hlive)
  | cancelReady => exact hquiet _ (LiveSources.cancelReady_quiet hlive)
  | stop => exact ⟨rfl, rfl⟩

/-- A run whose steps lose nothing. -/
def CleanRun (cfg : Config α) : World α → List (Move α) → Prop
  | _, [] => True
  | w, m :: rest => w.Clean cfg m ∧ CleanRun cfg (w.after cfg m) rest

theorem stopped_run (hsound : w.Sound) (hclosed : w.sources.closed = true)
    (moves : List (Move α)) : (w.run cfg moves).sources.invalid = w.sources.invalid := by
  induction moves generalizing w with
  | nil => rfl
  | cons m rest ih =>
      obtain ⟨hclosed', hinvalid⟩ := stopped_after hsound hclosed m
      exact (ih (hsound.after cfg m) hclosed').trans hinvalid

theorem Smooth.run (h : w.Smooth cfg) (hsound : w.Sound) {moves : List (Move α)}
    (hclean : CleanRun cfg w moves) : (w.run cfg moves).sources.invalid = false := by
  induction moves generalizing w with
  | nil => exact h.sources.valid
  | cons m rest ih =>
      by_cases hstop : m = .stop
      · subst hstop
        have hstopped := @stopped_run _ cfg _ (hsound.after cfg .stop) rfl rest
        exact hstopped.trans h.sources.valid
      · exact ih (h.after hsound hclean.1 hstop) (hsound.after cfg m) hclean.2

theorem start_smooth (cfg : Config α) (sessionId token : String) :
    (start sessionId token : World α).Smooth cfg where
  publisher := by
    refine ⟨rfl, ?_, ?_, ?_, ?_⟩
    · exact Nat.succ_pos _
    · simp [start]
    · simp [start]
    · simp [start]
  early := by simp [start]
  ordered := rfl
  frames := by simp [start]
  sources := ⟨rfl, rfl, rfl, by simp [start], by simp [start],
    ⟨by simp [start], by simp [start]⟩⟩
  stage := ⟨rfl, rfl, fun _ => rfl⟩

theorem closed_run (hsound : w.Sound) (hclosed : w.sources.closed = true)
    (moves : List (Move α)) : (w.run cfg moves).sources.closed = true := by
  induction moves generalizing w with
  | nil => exact hclosed
  | cons m rest ih => exact ih (hsound.after cfg m) (stopped_after hsound hclosed m).1

theorem Smooth.open_run (h : w.Smooth cfg) (hsound : w.Sound) {moves : List (Move α)}
    (hclean : CleanRun cfg w moves) (hopen : (w.run cfg moves).sources.closed = false) :
    (w.run cfg moves).Smooth cfg := by
  induction moves generalizing w with
  | nil => exact h
  | cons m rest ih =>
      by_cases hstop : m = .stop
      · subst hstop
        have hclosed := @closed_run _ cfg _ (hsound.after cfg .stop) rfl rest
        exact absurd (hclosed.symm.trans hopen) (by simp)
      · exact ih (h.after hsound hclean.1 hstop) (hsound.after cfg m) hclean.2 hopen

theorem Smooth.sequence_le_count (h : w.Smooth cfg) {f : Frame α} (hf : f ∈ w.received)
    (hown : w.own f = true) : f.sequence ≤ w.count := by
  have hnumbered := h.publisher.numbered
  rw [← h.ordered, List.filter_append, List.append_assoc, List.map_append] at hnumbered
  obtain ⟨k, -, hfirst, -⟩ := List.range'_eq_append_iff.mp hnumbered.symm
  have hk : w.count = k := by
    have hlength := congrArg List.length hfirst
    rwa [List.length_map, List.length_range'] at hlength
  have hmem : f.sequence ∈ (w.received.filter w.own).map Frame.sequence :=
    List.mem_map_of_mem (List.mem_filter.mpr ⟨hf, hown⟩)
  rw [hfirst, List.mem_range'_1] at hmem
  omega

theorem Smooth.front (h : w.Smooth cfg) (hsound : w.Sound) {accepted : Evidence}
    (haccepted : w.sources.accepted = some accepted) :
    w.sources.sessionId = some accepted.sessionId ∧ w.sources.lastSequence = some w.count ∧
      w.sources.dropBaseline = some accepted.readingDropCount ∧
        w.sources.failureBaseline = some accepted.publishFailureCount := by
  have hopen := (hsound.sources.live h.sources.running).2
  have hsession : w.sources.sessionId ≠ none := fun hnone =>
    absurd ((hsound.sources.fresh hopen hnone).symm.trans haccepted) (by simp)
  obtain ⟨x, hx⟩ := Option.ne_none_iff_exists'.mp hsession
  obtain ⟨first, hfirst, rfl, hdrops, hfailures⟩ := hsound.sources.session x hx
  obtain rfl := Option.some.inj (hfirst.symm.trans haccepted)
  exact ⟨hx, h.sources.front hsession, hdrops, hfailures⟩

/-- The frames that were followed are all that were received since the accepted marker. -/
theorem Smooth.followed (h : w.Smooth cfg) (hsound : w.Sound) {accepted : Evidence}
    (haccepted : w.sources.accepted = some accepted) :
    ∃ run, w.sources.Following w.received accepted run ∧
      w.count = accepted.sequence + run.length := by
  obtain ⟨hsession, hlast, -⟩ := h.front hsound haccepted
  obtain ⟨run, g⟩ := hsound.sources.following accepted haccepted
  have hfront := g.front h.sources.running h.sources.unsettled (by rw [hsession]; simp)
  exact ⟨run, g, Option.some.inj (hlast.symm.trans hfront)⟩

theorem Smooth.handed_of_received (h : w.Smooth cfg) (hsound : w.Sound) {accepted : Evidence}
    (haccepted : w.sources.accepted = some accepted) {f : Frame α} (hf : f ∈ w.received)
    (hown : w.own f = true) (hafter : accepted.sequence < f.sequence) :
    ∀ entry ∈ f.handing, entry ∈ w.sources.handed := by
  obtain ⟨run, g, hcount⟩ := h.followed hsound haccepted
  have hwithin := h.sequence_le_count hf hown
  intro entry hentry
  rw [g.handed, List.mem_flatMap]
  refine ⟨f, ?_, hentry⟩
  rw [(hsound.run_eq_window haccepted g).1]
  exact List.mem_filter.mpr ⟨hsound.sent_of_received hf hown, decide_eq_true ⟨hafter, by omega⟩⟩

theorem Smooth.completeSince (h : w.Smooth cfg) (hsound : w.Sound) {cut : LiveSourceCut}
    (hcut : cut ∈ w.sources.returned) (hgeneration : cut.generation = cfg.generation) :
    w.sources.completeSince cfg cut = true := by
  cases haccepted : w.sources.accepted with
  | none =>
      rw [(hsound.sources.silent haccepted).2.2] at hcut
      cases hcut
  | some accepted =>
      obtain ⟨hsession, hlast, hdrops, hfailures⟩ := h.front hsound haccepted
      obtain ⟨run, g, hcount⟩ := h.followed hsound haccepted
      have hpassed := g.returned cut hcut
      have hsame : cut.evidence.sessionId = accepted.sessionId :=
        (hsound.publisher.vouched_sampled (hsound.sources.returned cut hcut)).2.trans
          (hsound.publisher.vouched_sampled (hsound.sources.accepted accepted haccepted)).2.symm
      have hwithin : cut.evidence.sequence ≤ w.count := hcount ▸ hpassed.within
      unfold LiveSources.completeSince
      simp only [h.sources.running, h.sources.valid, hgeneration, hsession, hlast, hdrops,
        hfailures, hsame, hpassed.drops, hpassed.failures, hwithin, Option.any_some, decide_true,
        Bool.not_false, Bool.and_self]

end World

/-- Only loss breaks the stream: a run that loses nothing never invalidates the subscriber, and
until it is stopped every cut that `ready` returned stays complete and everything that arrived
after the accepted marker was handed over. -/
theorem unbroken_without_loss (cfg : Config α) (sessionId token : String) (moves : List (Move α))
    (hclean : World.CleanRun cfg (World.start sessionId token) moves) :
    let w := (World.start sessionId token).run cfg moves
    w.sources.invalid = false ∧
    (w.sources.closed = false →
      (∀ cut ∈ w.sources.returned, cut.generation = cfg.generation →
        w.sources.completeSince cfg cut = true) ∧
      ∀ accepted, w.sources.accepted = some accepted →
        ∀ f ∈ w.publisher.sent, f ∉ w.pipe → accepted.sequence < f.sequence →
          ∀ entry ∈ f.handing, entry ∈ w.sources.handed) := by
  have hstart := World.start_smooth cfg sessionId token
  have hsound : (World.start sessionId token : World α).Sound := World.start_sound sessionId token
  refine ⟨hstart.run hsound hclean, fun hopen => ?_⟩
  have hsmooth := hstart.open_run hsound hclean hopen
  have hsound' := hsound.run cfg moves
  refine ⟨fun cut hcut => hsmooth.completeSince hsound' hcut, ?_⟩
  intro accepted haccepted f hsent hpipe hafter
  have hf := hsent
  rw [← hsmooth.ordered, List.mem_filter, List.mem_append] at hf
  obtain ⟨hreceived | hwaiting, hown⟩ := hf
  · exact hsmooth.handed_of_received hsound' haccepted hreceived hown hafter
  · exact absurd hwaiting hpipe

theorem unbroken_without_loss_event :
    let w := numbersAfter (fenced ++
      [.publishEvent 7, .enter 0 0, .succeed, .receive .returns] ++ asked "second" ++ adopted)
    w.sources.invalid = false ∧ w.sources.completeSince numbers firstCut = true ∧
      (2, .event 7) ∈ w.sources.handed := by
  have hclean : World.CleanRun numbers (World.start "session" "token") (fenced ++
      [.publishEvent 7, .enter 0 0, .succeed, .receive .returns] ++ asked "second" ++ adopted) := by
    refine ⟨trivial, trivial, trivial, trivial, trivial, ⟨by decide, fun _ _ _ _ => rfl⟩, trivial,
      ⟨rfl, fun _ _ _ _ h => (by cases h)⟩, trivial, trivial, fun _ h => (by cases h), trivial,
      ⟨by decide, fun _ _ _ _ => rfl⟩, trivial, ⟨rfl, fun _ _ _ _ _ h => (by cases h)⟩, trivial,
      trivial, trivial, trivial, ⟨by decide, fun _ _ _ _ => rfl⟩, trivial,
      ⟨rfl, fun _ _ _ _ h => (by cases h)⟩, trivial, trivial, fun _ h => (by cases h), trivial⟩
  obtain ⟨hvalid, hopen⟩ := unbroken_without_loss numbers "session" "token" _ hclean
  obtain ⟨hcuts, hhanded⟩ := hopen (by decide)
  refine ⟨hvalid, hcuts firstCut (by decide) rfl, ?_⟩
  exact hhanded firstCut.evidence (by decide) (.data "session" 2 (.event 7)) (by decide) (by decide)
    (by decide) _ (List.mem_singleton_self _)

end Stream
end CryoDaq
