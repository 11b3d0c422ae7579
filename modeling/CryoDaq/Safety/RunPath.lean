import CryoDaq.Safety.StartPath

/-!
# What `request_run` guarantees

From the second pass outwards: the checks before the source is touched, the
latch, the two passes and their turn at the two locks.

**Turns.**  `Turn` is a Start that holds `_run_request_lock`, with or without
`_cmd_lock`.  `Onward` relates two states of its turn: no source was started,
and none was added.

**Result.**  `requestRun_wp`: a Start keeps the contract of its task, and the
exit it writes down is settled.
-/

namespace CryoDaq
namespace Safety

open Async Journal

/-- A later state of the same turn: the Start has started no source, and none
was added. -/
structure Onward (t : Nat) (s s' : State) : Prop where
  journal : s.control.journal <:+ s'.control.journal
  own : ∀ n ∈ added s.control.journal s'.control.journal, n.isStart t = false
  active : s'.control.activeSources ⊆ s.control.activeSources

section Turns

variable {t : Nat} {s s' s'' : State}

theorem Onward.refl (t : Nat) (s : State) : Onward t s s where
  journal := List.suffix_refl _
  own := by simp
  active := Finset.Subset.refl _

theorem Onward.trans (h : Onward t s s') (h' : Onward t s' s'') :
    Onward t s s'' where
  journal := h.journal.trans h'.journal
  own := by
    intro n hn
    rcases (mem_added_trans h.journal h'.journal n).mp hn with hn | hn
    · exact h'.own n hn
    · exact h.own n hn
  active := h'.active.trans h.active

theorem Onward.of_drift (h : State.Drift t s s')
    (hl : s.control.runRequestLock = some t) : Onward t s s' where
  journal := h.control.journal
  own := fun n hn => isStart_of_shared (h.control.own n hn)
  active := h.control.active hl

theorem Onward.of_same (hj : s'.control.journal = s.control.journal)
    (ha : s'.control.activeSources = s.control.activeSources) :
    Onward t s s' where
  journal := by rw [hj]
  own := by
    rw [hj]
    simp
  active := by rw [ha]

theorem Onward.release (h : Onward t s s') :
    Onward t s (s'.onControl Control.releaseCmdLock) :=
  ⟨h.journal, h.own, h.active⟩

theorem Onward.of_later (h : Later t s s')
    (ha : s'.control.activeSources ⊆ s.control.activeSources) :
    Onward t s s' := ⟨h.journal, h.own, ha⟩

end Turns

section Relations

variable {t : Nat} {channel : SmuChannel} {s s' s'' : State}
  {r : Except Exc Reply}

theorem startsCovered_append {d rest : List Note}
    (hd : StartsCovered t channel d) (hrest : ∀ n ∈ rest, n.isStart t = false) :
    StartsCovered t channel (d ++ rest) := by
  induction d with
  | nil => exact Py.startsCovered_of_none hrest
  | cons n d ih =>
      rcases hd with hc | ⟨hn, hd⟩
      · exact Or.inl hc
      · exact Or.inr ⟨hn, ih hd⟩

theorem Py.LeftSafe.from (h : Py.LeftSafe t channel s' s'')
    (hj : s.control.journal <:+ s'.control.journal)
    (hown : ∀ n ∈ added s.control.journal s'.control.journal,
      n.isStart t = false)
    (hj' : s'.control.journal <:+ s''.control.journal) :
    Py.LeftSafe t channel s s'' := by
  have hmem : ∀ n, n ∈ added s'.control.journal s''.control.journal →
      n ∈ added s.control.journal s''.control.journal := fun n hn =>
    (mem_added_trans hj hj' n).mpr (Or.inl hn)
  rcases h with href | hx | ⟨hx, hc⟩
  · exact Or.inl (hmem _ href)
  · exact Or.inr (Or.inl (hmem _ hx))
  · refine Or.inr (Or.inr ⟨hx, hc.imp (hmem _) fun hc => ?_⟩)
    rw [added_trans hj hj']
    exact startsCovered_append hc hown

theorem Py.leftSafe_of_inactive
    (hown : ∀ n ∈ added s.control.journal s'.control.journal,
      n.isStart t = false) (h : channel ∉ s'.control.activeSources) :
    Py.LeftSafe t channel s s' :=
  Or.inr (Or.inr ⟨Or.inl h, Or.inr (Py.startsCovered_of_none hown)⟩)

theorem Py.Ended.from (h : Py.Ended t channel s' r s'') (hl : Later t s s')
    (hactive : s'.control.activeSources ⊆ s.control.activeSources) :
    Py.Ended t channel s r s'' where
  held := h.held
  journal := hl.journal.trans h.journal
  owed := fun code hc => hl.owed code (h.owed code hc)
  cleared := h.cleared
  settled := fun hr hinactive =>
    (h.settled hr fun hm => hinactive (hactive hm)).from
      hl.journal hl.own h.journal

end Relations

namespace Py

variable {t : Nat} {cx : Bool} {s : State}

theorem rearmInterlocks_wp (warnings : List OperatorWarning) :
    wp (calmContract t) cx (rearmInterlocks warnings) (fun r s' =>
      s'.control = s.control ∧
        ∀ after, r = .ok after → ∀ warning ∈ warnings, warning ∈ after) s := by
  refine wp_readThen ?_
  split
  · refine ⟨rfl, fun after hr warning hw => ?_⟩
    obtain rfl := Except.ok.inj hr
    exact hw
  · refine wp_updateThen (.of_same rfl rfl rfl rfl) ⟨rfl, ?_⟩
    intro after hr warning hw
    obtain rfl := Except.ok.inj hr
    exact hw
  · refine ⟨rfl, fun after hr => ?_⟩
    cases hr
  · refine ⟨rfl, fun after hr warning hw => ?_⟩
    obtain rfl := Except.ok.inj hr
    exact List.mem_append_left _ hw

/-- What the authority checks before the driver answer: a Start that goes on
is not latched, and one that does not go on is refused. -/
def Cleared (r : Except Exc (Option Reply)) (s : State) : Prop :=
  (r = .ok none → s.control.state ≠ .faultLatched) ∧
    ∀ reply, r = .ok (some reply) → reply.ok = false

theorem cleared_error (e : Exc) (s : State) : Cleared (.error e) s :=
  ⟨fun h => by (cases h), fun _ h => by (cases h)⟩

theorem cleared_reply {reply : Reply} (s : State) (h : reply.ok = false) :
    Cleared (.ok (some reply)) s := by
  refine ⟨fun hr => by (cases hr), fun reply' hr => ?_⟩
  obtain rfl := Option.some.inj (Except.ok.inj hr)
  exact h

theorem cleared_raiseIf {k : Py (Option Reply)} (b : Bool)
    (h : wp (calmContract t) cx k Cleared s) :
    wp (calmContract t) cx (raiseIf b >>= fun _ => k) Cleared s := by
  cases b with
  | true => exact cleared_error _ s
  | false => exact h

theorem recheckAfterTargetProof_wp (hi : s.Inv) (admission : Admission)
    (channel : SmuChannel) :
    wp (calmContract t) cx (recheckAfterTargetProof t admission channel)
      Cleared s := by
  refine wp_seq (calm_frame hi (observeTerminalSafetyChildren_wp hi)) ?_
    fun e s₁ _ => cleared_error e s₁
  · rintro _ s₁ ⟨_, hi₁, _⟩
    refine wp_readThen ?_
    split
    · rename_i hsame
      exact ⟨fun _ => hsame.2.1, fun _ hr => by cases hr⟩
    · dsimp only
      split
      · refine wp_seq (calm_frame hi₁ (settledOff_wp none none)) ?_
          fun e s₂ _ => cleared_error e s₂
        rintro ⟨proved, cancelled⟩ s₂ ⟨_, hi₂, _⟩
        dsimp only
        split
        · refine wp_syncThen (fun _ _ h => h)
            ((State.calm_dropSources _ _).trans (State.calm_refresh _))
            (fun _ => ?_) fun e _ => cleared_error e _
          exact cleared_raiseIf _ (cleared_reply _ rfl)
        · refine wp_seq (fault_wp hi₂ _ _) ?_ fun e s₃ _ => cleared_error e s₃
          exact fun _ s₃ _ => cleared_raiseIf _ (cleared_reply s₃ rfl)
      · exact cleared_reply s₁ rfl

theorem proveTargetOff_wp (admission : Admission) (channel : SmuChannel)
    (hs : s.control.state ≠ .faultLatched) :
    wp (calmContract t) cx (proveTargetOff t admission channel) Cleared s := by
  refine wp_readThen ?_
  dsimp only
  split
  · exact ⟨fun _ => hs, fun _ hr => by cases hr⟩
  · split
    · exact cleared_error _ s
    · split
      · exact cleared_reply s rfl
      · have hcalm := State.calm_note (s := s)
          (n := .offRequested (some channel)) t trivial trivial
        refine wp_updateThen hcalm ?_
        refine wp_returnsThen (R := fun _ (s₁ : State) => s₁.Inv)
          (wp_settledWait trivial fun s₁ r b _ hi₁ _ _ => hi₁) ?_
        rintro ⟨result, cancelled⟩ s₁ hi₁
        dsimp only
        split
        · refine wp_seq (fault_wp hi₁ _ _) ?_ fun e s₂ _ => cleared_error e s₂
          exact fun _ s₂ _ => cleared_raiseIf _ (cleared_reply s₂ rfl)
        · exact recheckAfterTargetProof_wp hi₁ admission channel

theorem ended_refuse (h : Held t s) {channel : SmuChannel}
    {r : Except Exc Reply} (hr : positive r = false) :
    Ended t channel s r s :=
  Untouched.ended ⟨h, .refl t s, hr, fun hm => hm⟩

theorem of_startRefusal_none {request : RunRequest} {channel : SmuChannel}
    (h : s.startRefusal request channel = none) :
    s.control.state ≠ .faultLatched ∧ channel ∉ s.control.activeSources ∧
      (s.env.driver.isNone = true →
        ¬ (s.wiring.config.requireKeithleyForRun = true ∧
          ¬ s.wiring.mock = true)) := by
  unfold State.startRefusal at h
  split_ifs at h with hstate hactive
  cases hpre : s.preconditionRefusal with
  | some reason =>
      rw [hpre] at h
      cases h
  | none =>
      refine ⟨?_, hactive, ?_⟩
      · intro hl
        exact hstate (by simp [hl])
      · rintro hnone ⟨hrequired, hmock⟩
        have := ((s.preconditionRefusal_eq_none).mp hpre).driver hrequired
          (by simpa using hmock)
        simp_all

theorem startChannel_wp (h : Held t s) (request : RunRequest)
    {admission : Admission} (channel : SmuChannel)
    (warning : Option OperatorWarning) (expected : List OperatorWarning)
    (receipt : Option WarningReceipt) (ha : Admitted admission s)
    (hw : Warns warning.toList s) :
    wp (taskContract t) cx
      (startChannel t request admission channel warning expected receipt)
      (fun r s' => Ended t channel s r s') s := by
  refine wp_readThen ?_
  split
  · exact ended_refuse h rfl
  · rename_i hnone
    obtain ⟨hs, hinactive, hdriver⟩ := of_startRefusal_none hnone
    refine wp_seq (held_calm h (rearmInterlocks_wp _)) ?_ ?_
    · rintro warnings s₁ ⟨⟨hc₁, hgrows⟩, h₁, hl₁, hs₁⟩
      have hwarns : Warns warnings s₁ := by
        intro code hcode
        obtain ⟨w, hin, hcw⟩ := List.mem_map.mp (hw.later hl₁ code hcode)
        exact List.mem_map.mpr ⟨w, hgrows warnings rfl w
          (List.mem_append_left _ hin), hcw⟩
      refine wp_seq (held_calm h₁ (proveTargetOff_wp admission channel
        (hc₁ ▸ hs))) ?_ ?_
      · rintro reply s₂ ⟨hclear, h₂, hl₂, hs₂⟩
        have hl := hl₁.trans hl₂
        have hactive : s₂.control.activeSources ⊆ s.control.activeSources :=
          (hs₁.trans hs₂).control.active h.runRequestLock
        cases reply with
        | some reply =>
            have hr : positive (.ok reply) = false := hclear.2 reply rfl
            exact (ended_refuse h₂ hr).from hl hactive
        | none =>
            refine wp_mono (energize_wp h₂ request _
              (fun hm => hinactive (hactive hm)) (hclear.1 rfl) ?_
              (ha.later hl) (hwarns.later hl₂)) fun r s' he => he.from hl hactive
            intro hnone₂
            rw [hl.wiring]
            refine hdriver ?_
            have := hl.driver
            simp_all
      · rintro e s₂ ⟨_, h₂, hl₂, hs₂⟩
        exact (ended_refuse h₂ rfl).from (hl₁.trans hl₂)
          ((hs₁.trans hs₂).control.active h.runRequestLock)
    · rintro e s₁ ⟨_, h₁, hl₁, hs₁⟩
      exact (ended_refuse h₁ rfl).from hl₁ (hs₁.control.active h.runRequestLock)

/-- What is consumed after a positive answer of the probe: the persistence
fault, and what joined the latch while the probe was out. -/
theorem consumable_of_probe {s₁ s₂ : State} (h : Held t s)
    (hs : s.control.state = .faultLatched)
    (hsources : s.control.faultSources = {.persistence})
    (h₁ : s₁ = s.note (.probeOpened t)) (h₂ : State.Still t s₁ s₂) :
    ConsumableOrigins t s₂.control.faultSources true s₂.control.journal := by
  subst h₁
  have hlock : (s.note (.probeOpened t)).control.cmdLock = some t := h.cmdLock
  have hj := h₂.control.journal
  have hgrows := h₂.control.grows hlock hs
  refine ⟨hgrows ?_, fun source hsource => ?_⟩
  · show .persistence ∈ s.control.faultSources
    rw [hsources]
    exact Finset.mem_singleton_self _
  · rcases h₂.control.sources hlock hs source hsource with hold | hnew
    · left
      have hold : source ∈ s.control.faultSources := hold
      rw [hsources] at hold
      exact Finset.mem_singleton.mp hold
    · right
      rw [← added_spec hj, sinceLast_append]
      · exact List.mem_append_left _ hnew
      · intro n hn
        have hown := h₂.control.own n hn
        cases n <;> simp_all [Note.isProbe, Note.owner, Note.shared]

/-- What the admission of a pass leaves behind. -/
structure Passed (t : Nat) (s s' : State) : Prop where
  held : Held t s'
  onward : Onward t s s'
  warned : s'.control.WarningKept

theorem Passed.from {s s₁ s' : State} (h : Passed t s₁ s')
    (ho : Onward t s s₁) : Passed t s s' where
  held := h.held
  onward := ho.trans h.onward
  warned := h.warned

theorem Passed.refused {s s' : State} (h : Passed t s s') :
    Passed t s (s'.note .snapshotRefused) := by
  obtain ⟨hheld, hl⟩ := held_refused h.held
  exact ⟨hheld, h.onward.trans (.of_later hl (Finset.Subset.refl _)),
    hl.warned h.warned⟩

theorem held_consumeLatch (h : Held t s) (hs : s.control.state = .faultLatched)
    (generation : Nat) (recovered : Bool)
    (hsources : ConsumableOrigins t s.control.faultSources recovered
      s.control.journal) :
    State.Allowed t s (s.consumeLatch t generation recovered).1 ∧
      Passed t s (s.consumeLatch t generation recovered).1 ∧
      Warns [s.consumedLatchWarning recovered]
        (s.consumeLatch t generation recovered).1 := by
  have hcode : (s.consumedLatchWarning recovered).code =
      if recovered then .latchedPersistenceStart
      else .latchedInterlockStart := by
    cases recovered <;> rfl
  have hc : (s.consumeLatch t generation recovered).1.control =
      s.control.consumeLatch t generation recovered
        (s.consumedLatchWarning recovered) := by
    simp [State.consumeLatch]
  have hallowed : State.Allowed t s (s.consumeLatch t generation recovered).1 :=
    State.allowed_of_control (by simp [State.consumeLatch])
      (by simp [State.consumeLatch]) (by simp [State.consumeLatch])
      (hc ▸ .own (.consumeLatch _ generation recovered _ h.cmdLock hs hsources
        hcode))
  have howed : ∀ code,
      owed (s.consumeLatch t generation recovered).1.control.journal =
        some code → s.control.abortGeneration = generation ∧
          (s.consumedLatchWarning recovered).code = code := by
    intro code hcode
    rw [hc] at hcode
    simpa [Control.consumeLatch, Control.transition, owed] using hcode
  refine ⟨hallowed, ⟨⟨(hallowed h.inv).1, ?_, ?_, ?_⟩, ⟨?_, ?_, ?_⟩, ?_⟩, ?_⟩
  · rw [hc]
    exact h.cmdLock
  · rw [hc]
    exact h.runRequestLock
  · rw [hc]
    exact h.unmarked
  · rw [hc]
    exact (List.suffix_cons _ _).trans (List.suffix_cons _ _)
  · rw [hc]
    simp [Control.consumeLatch, Control.transition, Note.isStart]
  · rw [hc]
    exact Finset.Subset.refl _
  · intro code hcode
    obtain ⟨hgen, hwarning⟩ := howed code hcode
    rw [hc]
    refine ⟨_, ?_, hwarning⟩
    simp [Control.consumeLatch, Control.transition, hgen]
  · intro code hcode
    simp [(howed code hcode).2]

theorem harmless_askPersistenceRecovered :
    Harmless t askPersistenceRecovered s := by
  refine .read ?_
  dsimp only
  split
  · refine .bind (.ret _) fun answer s₁ => ?_
    split
    · exact .ret _
    · exact .raise _
    · exact .ret _
  · refine .bind (.ret _) fun answer s₁ => ?_
    split
    · exact .ret _
    · exact .raise _
    · exact .ret _
  · refine .bind (.attempt (.awaiting _)) fun answer s₁ => ?_
    split
    · exact .ret _
    · exact .raise _
    · exact .ret _

theorem persistenceRecovered_wp (h : Held t s)
    (hs : s.control.state = .faultLatched) :
    wp (taskContract t) cx (persistenceRecovered t) (fun r s' => Held t s' ∧ Later t s s' ∧ Onward t s s' ∧
        s'.control.state = .faultLatched ∧ ∀ recovered, r = .ok recovered →
          recovered = true →
            ConsumableOrigins t s'.control.faultSources true
              s'.control.journal) s := by
  refine wp_readThen ?_
  split
  · rename_i hsources
    obtain ⟨hallowed, h₁, hlater⟩ :=
      held_note (n := .probeOpened t) h rfl trivial fun _ hc => hc
    refine wp_updateThen hallowed ?_
    refine wp_mono (held_harmless h₁ harmless_askPersistenceRecovered) ?_
    rintro r s₂ ⟨h₂, hl₂, hs₂⟩
    have hl := (hlater rfl).trans hl₂
    refine ⟨h₂, hl, .of_later hl (hs₂.control.active h₁.runRequestLock),
      hs₂.control.latched h₁.cmdLock hs, fun recovered _ _ => ?_⟩
    exact consumable_of_probe h hs hsources rfl hs₂
  · refine ⟨h, .refl t s, .refl t s, hs, fun recovered hr htrue => ?_⟩
    obtain rfl := Except.ok.inj hr
    cases htrue

theorem passLatch_wp (h : Held t s) (admission : Admission)
    (channel : SmuChannel) {warning : Option OperatorWarning}
    (hkept : s.control.WarningKept) (hw : Warns warning.toList s) :
    wp (taskContract t) cx (passLatch t admission channel warning)
      (fun r s' => Passed t s s' ∧
        ∀ after, r = .ok (.ok after) → Warns after.toList s') s := by
  refine wp_readThen ?_
  split
  · refine ⟨⟨h, .refl t s, hkept⟩, fun after hr => ?_⟩
    obtain rfl := Except.ok.inj (Except.ok.inj hr)
    exact hw
  · rename_i hlatched
    refine wp_seq (persistenceRecovered_wp h (not_not.mp hlatched)) ?_ ?_
    · rintro recovered s₂ ⟨h₂, hl₂, ho₂, hs₂, horigins⟩
      refine wp_readThen ?_
      split
      · exact ⟨⟨h₂, ho₂, hl₂.warned hkept⟩, fun _ hr => by cases hr⟩
      · rename_i hconsumable
        have hsources : ConsumableOrigins t s₂.control.faultSources recovered
            s₂.control.journal := by
          cases recovered with
          | true => exact horigins true rfl rfl
          | false => simpa [ConsumableOrigins] using hconsumable
        obtain ⟨hallowed, hpassed, hwarns⟩ :=
          held_consumeLatch h₂ hs₂ admission.generation recovered hsources
        refine wp_syncThen (fun _ _ h => h.allowed t) hallowed
          (fun _ => ⟨hpassed.from ho₂, fun after hr => ?_⟩) fun e _ => ?_
        · obtain rfl := Except.ok.inj (Except.ok.inj hr)
          exact hwarns
        · exact ⟨(hpassed.from ho₂).refused, fun _ hr => by cases hr⟩
    · rintro e s₂ ⟨h₂, hl₂, ho₂, _⟩
      exact ⟨⟨h₂, ho₂, hl₂.warned hkept⟩, fun _ hr => by cases hr⟩

theorem warns_latchWarning (hkept : s.control.WarningKept) {generation : Nat}
    (hg : s.control.abortGeneration = generation) :
    Warns (s.control.latchWarning generation).toList s := by
  intro code hcode
  obtain ⟨warning, hp, hw⟩ := hkept code hcode
  simp [Control.latchWarning, hp, hg, hw]

theorem held_dropStaleWarning (h : Held t s) (hkept : s.control.WarningKept)
    {generation : Nat} (hg : s.control.abortGeneration = generation) :
    State.Allowed t s ((s.onControl
        (Control.dropStaleWarning generation)).expireStaleOffEvidence) ∧
      Passed t s ((s.onControl
        (Control.dropStaleWarning generation)).expireStaleOffEvidence) ∧
      ((s.onControl (Control.dropStaleWarning generation)
        ).expireStaleOffEvidence).control.journal = s.control.journal := by
  generalize hs' : (s.onControl
    (Control.dropStaleWarning generation)).expireStaleOffEvidence = s'
  have hc : s'.control = s.control.dropStaleWarning generation := by
    simp [← hs']
  have hallowed : State.Allowed t s s' :=
    State.allowed_of_control (by simp [← hs']) (by simp [← hs'])
      (by simp [← hs'])
      (hc ▸ .own (.dropStaleWarning _ generation h.cmdLock hg))
  have hparts : s'.control.cmdLock = s.control.cmdLock ∧
      s'.control.runRequestLock = s.control.runRequestLock ∧
      s'.control.stopOwners = s.control.stopOwners ∧
      s'.control.journal = s.control.journal ∧
      s'.control.activeSources = s.control.activeSources ∧
      s'.control.abortGeneration = s.control.abortGeneration := by
    rw [hc]
    unfold Control.dropStaleWarning
    split
    · split <;> exact ⟨rfl, rfl, rfl, rfl, rfl, rfl⟩
    · exact ⟨rfl, rfl, rfl, rfl, rfl, rfl⟩
  obtain ⟨h1, h2, h3, h4, h5, h6⟩ := hparts
  refine ⟨hallowed, ⟨⟨(hallowed h.inv).1, ?_, ?_, ?_⟩, ⟨?_, ?_, ?_⟩, ?_⟩, h4⟩
  · rw [h1, h.cmdLock]
  · rw [h2, h.runRequestLock]
  · rw [h3]
    exact h.unmarked
  · rw [h4]
  · simp [h4]
  · rw [h5]
  · intro code hcode
    rw [h4] at hcode
    obtain ⟨warning, hp, hw⟩ := hkept code hcode
    refine ⟨warning, ?_, hw⟩
    rw [h6, hc]
    simp [Control.dropStaleWarning, hp, hg]

theorem startAuthority_wp (h : Held t s) (request : RunRequest)
    (admission : Admission) (hkept : s.control.WarningKept) :
    wp (taskContract t) cx (startAuthority t request admission) (fun r s' =>
      Passed t s s' ∧ ∀ channel warning, r = .ok (.ok (channel, warning)) →
          request.channel.normalize = .ok channel ∧
            Warns warning.toList s') s := by
  have hsame : Passed t s s := ⟨h, .refl t s, hkept⟩
  unfold startAuthority
  cases hchannel : request.channel.normalize with
  | error e =>
      exact ⟨hsame, fun _ _ hr => by cases hr⟩
  | ok channel =>
      refine wp_readThen ?_
      split
      · exact ⟨hsame, fun _ _ hr => by cases hr⟩
      · rename_i hg
        obtain ⟨hallowed, h₁, hj⟩ := held_dropStaleWarning h hkept (not_not.mp hg)
        refine wp_updateThen hallowed ?_
        refine wp_seq (passLatch_wp h₁.held admission channel h₁.warned ?_) ?_ ?_
        · intro code hcode
          rw [hj] at hcode
          exact warns_latchWarning hkept (not_not.mp hg) code hcode
        · rintro pass s₂ ⟨h₂, hwarns⟩
          cases pass with
          | error reply =>
              exact ⟨h₂.from h₁.onward, fun _ _ hr => by cases hr⟩
          | ok warning =>
              refine ⟨h₂.from h₁.onward, fun channel' warning' hr => ?_⟩
              obtain ⟨rfl, rfl⟩ := Prod.mk.inj (Except.ok.inj (Except.ok.inj hr))
              exact ⟨rfl, hwarns warning rfl⟩
        · rintro e s₂ ⟨h₂, _⟩
          exact ⟨h₂.from h₁.onward, fun _ _ hr => by cases hr⟩

end Py

/-! ## The two passes -/

/-- A Start that has its turn, outside `_cmd_lock`. -/
structure Turn (t : Nat) (s : State) : Prop where
  inv : s.Inv
  cmdLock : s.control.cmdLock ≠ some t
  runRequestLock : s.control.runRequestLock = some t
  unmarked : t ∉ s.control.stopOwners

/-- How a turn ends. -/
structure Closed (t : Nat) (arg : ChannelArg) (s : State)
    (r : Except Exc Reply) (s' : State) : Prop where
  journal : s.control.journal <:+ s'.control.journal
  settled : ∀ channel, arg.normalize = .ok channel →
    Py.positive r = false → channel ∉ s.control.activeSources →
      Py.LeftSafe t channel s s'

section Turns

variable {t : Nat} {arg : ChannelArg} {channel : SmuChannel}
  {r : Except Exc Reply} {s s' s'' : State}

theorem Turn.covered (h : Turn t s) : s.Covered t :=
  fun hm => absurd hm h.unmarked

theorem Turn.still (h : Turn t s) (hs : State.Still t s s') (hi : s'.Inv) :
    Turn t s' where
  inv := hi
  cmdLock := fun hl => h.cmdLock (hs.control.cmdLock.mp hl)
  runRequestLock := hs.control.runRequestLock.mpr h.runRequestLock
  unmarked := fun hm => h.unmarked (hs.unmarked hm)

theorem Turn.held (h : Turn t s) (hfree : s.control.cmdLock = none) :
    Held t (s.onControl (Control.takeCmdLock t)) where
  inv := (allowed_takeCmdLock hfree h.inv).1
  cmdLock := rfl
  runRequestLock := h.runRequestLock
  unmarked := h.unmarked

theorem Held.turn (h : Held t s) (hkept : s.control.WarningKept) :
    Turn t (s.onControl Control.releaseCmdLock) where
  inv := (allowed_releaseCmdLock h.cmdLock hkept h.inv).1
  cmdLock := by simp [Control.releaseCmdLock]
  runRequestLock := h.runRequestLock
  unmarked := h.unmarked

theorem Closed.of_onward (h : Onward t s s') (r : Except Exc Reply) :
    Closed t arg s r s' where
  journal := h.journal
  settled := fun _ _ _ hinactive =>
    Py.leftSafe_of_inactive h.own fun hm => hinactive (h.active hm)

theorem Closed.from (h : Closed t arg s' r s'') (ho : Onward t s s') :
    Closed t arg s r s'' where
  journal := ho.journal.trans h.journal
  settled := fun channel hc hr hinactive =>
    (h.settled channel hc hr fun hm => hinactive (ho.active hm)).from
      ho.journal ho.own h.journal

theorem Py.Ended.closed (h : Py.Ended t channel s r s')
    (harg : arg.normalize = .ok channel) : Closed t arg s r s' where
  journal := h.journal
  settled := by
    intro channel' hc hr hinactive
    obtain rfl : channel = channel' := Except.ok.inj (harg.symm.trans hc)
    exact h.settled hr hinactive

theorem Closed.note {n : Note} (h : Closed t arg s r s')
    (hn : n.isStart t = false) : Closed t arg s r (s'.note n) where
  journal := h.journal.trans (List.suffix_cons _ _)
  settled := by
    intro channel hc hr hinactive
    have hadded : added s.control.journal (s'.note n).control.journal =
        n :: added s.control.journal s'.control.journal := by
      refine (added_trans h.journal (List.suffix_cons n _)).trans ?_
      rw [added_cons]
      rfl
    have hsettled := h.settled channel hc hr hinactive
    unfold Py.LeftSafe at hsettled ⊢
    rw [hadded]
    rcases hsettled with href | hx | ⟨hx, hc⟩
    · left
      unfold State.Refused
      rw [hadded]
      exact List.mem_cons_of_mem _ href
    · exact Or.inr (Or.inl (List.mem_cons_of_mem _ hx))
    · exact Or.inr (Or.inr ⟨hx, hc.imp (List.mem_cons_of_mem _) fun hc =>
        Or.inr ⟨hn, hc⟩⟩)

end Turns

namespace Py

variable {α : Type} {t : Nat} {cx : Bool} {s : State}

theorem turn_withCmdLock {p : Py α} {Q : Except Exc α → State → Prop}
    (h : Turn t s)
    (hbody : ∀ s₁, Held t s₁ → Onward t s s₁ → s₁.control.WarningKept →
      wp (taskContract t) cx p (fun r s₂ => Held t s₂ ∧
        s₂.control.WarningKept ∧ Q r (s₂.onControl Control.releaseCmdLock)) s₁)
    (hcancel : ∀ s₁, Onward t s s₁ → Q (.error .cancelled) s₁) :
    wp (taskContract t) cx (withCmdLock t p) (fun r s' => Q r s' ∧ Turn t s') s := by
  refine wp_withCmdLock (fun s₁ hs₁ hi₁ hfree => ?_) fun _ s₁ hs₁ hi₁ => ?_
  · have h₁ := h.still hs₁ hi₁
    have ho : Onward t s s₁ := .of_drift hs₁.toDrift h.runRequestLock
    refine wp_mono (hbody _ (h₁.held hfree) (ho.trans (.of_same rfl rfl))
      (hi₁.control.warned hfree)) ?_
    rintro r s₂ ⟨h₂, hkept, hq⟩
    exact ⟨h₂.cmdLock, hkept, hq, h₂.turn hkept⟩
  · exact ⟨hcancel s₁ (.of_drift hs₁.toDrift h.runRequestLock),
      h.still hs₁ hi₁⟩

theorem preflightRun_wp (h : Turn t s) (request : RunRequest)
    (admission : Admission) :
    wp (taskContract t) cx (preflightRun t request admission) (fun _ s' =>
      Onward t s s' ∧ Turn t s') s := by
  refine turn_withCmdLock h (fun s₁ h₁ ho₁ hkept => ?_) fun s₁ ho₁ => ho₁
  have hdone : ∀ {s₂}, Passed t s₁ s₂ → Held t s₂ ∧ s₂.control.WarningKept ∧
      Onward t s (s₂.onControl Control.releaseCmdLock) := by
    intro s₂ h₂
    exact ⟨h₂.held, h₂.warned, (ho₁.trans h₂.onward).release⟩
  refine wp_seq (startAuthority_wp h₁ request admission hkept) ?_
    fun e s₂ h₂ => hdone h₂.1
  rintro pass s₂ ⟨h₂, _⟩
  cases pass with
  | error reply => exact hdone h₂
  | ok pair =>
      obtain ⟨channel, warning⟩ := pair
      refine wp_readThen ?_
      split
      · exact hdone h₂
      · exact hdone h₂

theorem held_takeWarning (h : Held t s) (warning : Option OperatorWarning) :
    State.Allowed t s (s.onControl (Control.takeWarning warning)) ∧
      Held t (s.onControl (Control.takeWarning warning)) ∧
      (s.onControl (Control.takeWarning warning)).control.journal =
        s.control.journal ∧
      (s.onControl (Control.takeWarning warning)).control.activeSources =
        s.control.activeSources := by
  have hallowed : State.Allowed t s
      (s.onControl (Control.takeWarning warning)) :=
    State.allowed_of_control rfl rfl rfl (.own (.takeWarning _ _ h.cmdLock))
  refine ⟨hallowed, ⟨(hallowed h.inv).1, ?_, ?_, ?_⟩, ?_, ?_⟩ <;>
    simp only [State.onControl_control, Control.takeWarning] <;> split
  · exact h.cmdLock
  · exact h.cmdLock
  · exact h.runRequestLock
  · exact h.runRequestLock
  · exact h.unmarked
  · exact h.unmarked
  all_goals rfl

theorem refusedPass_wp {s₀ : State} {channel : SmuChannel} {arg : ChannelArg}
    {warning : Option OperatorWarning} {r : Except Exc Reply}
    (he : Ended t channel s₀ r s) (hw : Warns warning.toList s₀)
    (harg : arg.normalize = .ok channel) :
    wp (taskContract t) cx (do
        if warning.isSome ∧ !positive r then note (.startPassRefused t)
        else pure ()
        Coro.ofExcept r)
      (fun r' s' => Held t s' ∧ s'.control.WarningKept ∧
        Closed t arg s₀ r' s') s := by
  have hclosed := he.closed harg
  dsimp only
  split
  · obtain ⟨hallowed, h₁, _⟩ :=
      held_note (n := .startPassRefused t) he.held rfl trivial
        fun code hc => by cases hc
    refine wp_updateThen hallowed ?_
    rw [wp_ofExcept]
    exact ⟨h₁, fun code hc => (by cases hc), hclosed.note (t := t) rfl⟩
  · rename_i hnot
    change wp _ _ (Coro.ofExcept r) _ s
    rw [wp_ofExcept]
    refine ⟨he.held, fun code hcode => ?_, hclosed⟩
    exfalso
    cases hr : positive r with
    | true =>
        rw [he.cleared hr] at hcode
        cases hcode
    | false =>
        have hnone : warning = none := by
          rw [hr] at hnot
          simpa [Option.isSome_iff_ne_none] using hnot
        have := hw code (he.owed code hcode)
        simp [hnone] at this

theorem commitRun_wp (h : Turn t s) (request : RunRequest)
    {admission : Admission} (expected : List OperatorWarning)
    (receipt : Option WarningReceipt) (ha : Admitted admission s) :
    wp (taskContract t) cx (commitRun t request admission expected receipt)
      (fun r s' => Closed t request.channel s r s' ∧ Turn t s') s := by
  refine turn_withCmdLock h (fun s₁ h₁ ho₁ hkept => ?_)
    fun s₁ ho₁ => .of_onward ho₁ _
  have hdone : ∀ {s₂ : State} {r : Except Exc Reply}, Passed t s₁ s₂ → Held t s₂ ∧ s₂.control.WarningKept ∧
      Closed t request.channel s r (s₂.onControl Control.releaseCmdLock) := by
    intro s₂ r h₂
    exact ⟨h₂.held, h₂.warned, .of_onward (ho₁.trans h₂.onward).release r⟩
  refine wp_seq (startAuthority_wp h₁ request admission hkept) ?_
    fun e s₂ h₂ => hdone h₂.1
  rintro pass s₂ ⟨h₂, hpass⟩
  cases pass with
  | error reply => exact hdone h₂
  | ok pair =>
      obtain ⟨channel, warning⟩ := pair
      obtain ⟨harg, hwarns⟩ := hpass channel warning rfl
      obtain ⟨hallowed, h₃, hj, hactive⟩ := held_takeWarning h₂.held warning
      have ho₃ : Onward t s (s₂.onControl (Control.takeWarning warning)) :=
        (ho₁.trans h₂.onward).trans (.of_same hj hactive)
      have hwarns₃ : Warns warning.toList
          (s₂.onControl (Control.takeWarning warning)) := by
        intro code hcode
        rw [hj] at hcode
        exact hwarns code hcode
      have ha₃ : Admitted admission
          (s₂.onControl (Control.takeWarning warning)) := by
        obtain ⟨j, hj', hrest⟩ := ha
        exact ⟨j, hj'.trans ho₃.journal, hrest⟩
      refine wp_updateThen hallowed (wp_attemptThen ?_)
      refine wp_mono (startChannel_wp h₃ request channel warning expected
        receipt ha₃ hwarns₃) fun r s₄ he => ?_
      refine wp_mono (refusedPass_wp he hwarns₃ harg) ?_
      rintro r' s₅ ⟨h₅, hkept₅, hclosed⟩
      have hclosed := hclosed.from ho₃
      exact ⟨h₅, hkept₅, hclosed.journal, hclosed.settled⟩

theorem harmless_chooseWarnings (request : RunRequest)
    (warnings : List OperatorWarning) :
    Harmless t (chooseWarnings request warnings) s := by
  unfold chooseWarnings
  split
  · exact .ret _
  · split
    · exact .ret _
    · refine .bind (.attempt (.awaiting _)) fun r s₁ => ?_
      split
      · exact .ret _
      · exact .ret _
      · exact .raise _
      · exact .ret _

/-! ## The whole request -/

theorem admittedRun_wp (h : Turn t s) (request : RunRequest)
    {admission : Admission} (ha : Admitted admission s) :
    wp (taskContract t) cx (admittedRun t request admission) (fun r s' =>
      Closed t request.channel s r s' ∧ Turn t s') s := by
  refine wp_seq (preflightRun_wp h request admission) ?_
    fun e s₁ h₁ => ⟨.of_onward h₁.1 _, h₁.2⟩
  rintro pass s₁ ⟨ho₁, h₁⟩
  cases pass with
  | error reply => exact ⟨.of_onward ho₁ _, h₁⟩
  | ok warnings =>
      refine wp_seq ((harmless_chooseWarnings request warnings).task_wp h₁.inv
        h₁.covered) ?_ ?_
      · rintro receipt s₂ ⟨hi₂, hs₂⟩
        have h₂ := h₁.still hs₂ hi₂
        have ho₂ : Onward t s s₂ :=
          ho₁.trans (.of_drift hs₂.toDrift h₁.runRequestLock)
        refine wp_readThen ?_
        split
        · refine wp_seq (R := fun _ s' => Closed t request.channel s
            (.error .cancelled) s₂ ∧ s' = s₂) ?_ ?_ ?_
          · rw [wp_ofExcept]
            exact ⟨.of_onward ho₂ _, rfl⟩
          · rintro channel s' ⟨_, rfl⟩
            exact ⟨.of_onward ho₂ _, h₂⟩
          · rintro e s' ⟨_, rfl⟩
            exact ⟨.of_onward ho₂ _, h₂⟩
        · obtain ⟨j, hj, hrest⟩ := ha
          refine wp_mono (commitRun_wp h₂ request warnings receipt
            ⟨j, hj.trans ho₂.journal, hrest⟩) ?_
          rintro r s' ⟨hclosed, h'⟩
          exact ⟨hclosed.from ho₂, h'⟩
      · rintro e s₂ ⟨hi₂, hs₂⟩
        exact ⟨.of_onward (ho₁.trans (.of_drift hs₂.toDrift
          h₁.runRequestLock)) _, h₁.still hs₂ hi₂⟩

theorem noteExit_wp {admitted turn : State} {request : RunRequest}
    {r : Except Exc Reply} (hi : s.Inv)
    (hsettled : ∀ channel, request.channel.normalize = .ok channel →
      positive r = false → channel ∉ turn.control.activeSources →
        LeftSafe t channel admitted s) :
    wp (taskContract t) cx (noteExit t request admitted turn r)
      (fun x s' => x = .ok () ∧ s'.Inv ∧
        s'.control.cmdLock = s.control.cmdLock ∧
        s'.control.runRequestLock = s.control.runRequestLock ∧
        s'.control.stopOwners = s.control.stopOwners) s := by
  unfold noteExit
  split
  · rename_i channel hchannel hr
    let e : RunExit :=
      { task := t
        channel := channel
        admittedAt := admitted.control.journal.length
        activeAtAdmission := admitted.control.activeSources
        activeAtTurn := turn.control.activeSources
        state := s.control.state
        activeSources := s.control.activeSources }
    have hj : (Note.runRefused e).Justified s.control.journal := by
      intro _
      by_cases hturn : channel ∈ turn.control.activeSources
      · exact Or.inl hturn
      · exact Or.inr (hsettled channel hchannel hr hturn)
    have hallowed : State.Allowed t s (s.note (.runRefused e)) :=
      State.allowed_of_control rfl rfl rfl
        (.own (.note _ _ rfl (fun hl => by cases hl) hj fun _ hc => hc))
    exact ⟨hallowed, rfl, (hallowed hi).1, rfl, rfl, rfl⟩
  · exact ⟨rfl, hi, rfl, rfl, rfl⟩

theorem requestRun_wp (hi : s.Inv) (h : s.Idle t) (request : RunRequest) :
    wp (taskContract t) cx (requestRun t request) (fun _ s' => s'.Idle t) s := by
  have hown : ∀ s₁, State.Still t s s₁ →
      ∀ n ∈ added s.control.journal s₁.control.journal, n.isStart t = false :=
    fun s₁ hs₁ n hn => isStart_of_shared (hs₁.control.own n hn)
  refine wp_readThen (wp_withRunRequestLock h.covered ?_ ?_)
  · intro s₁ hs₁ hi₁ hfree
    have hidle := h.still hs₁
    have htake : State.Allowed t s₁
        (s₁.onControl (Control.takeRunRequestLock t)) :=
      State.allowed_of_control rfl rfl rfl (.own (.takeRunRequestLock _ hfree))
    have h₁ : Turn t (s₁.onControl (Control.takeRunRequestLock t)) :=
      ⟨(htake hi₁).1, hidle.cmdLock, rfl, hidle.unmarked⟩
    refine wp_readThen (wp_attemptThen ?_)
    refine wp_mono (admittedRun_wp h₁ request ⟨s.control.journal,
      hs₁.control.journal, rfl, hi.control.counted.symm⟩) ?_
    rintro r s₂ ⟨hclosed, h₂⟩
    refine wp_seq (noteExit_wp h₂.inv fun channel hc hr hinactive =>
      (hclosed.settled channel hc hr hinactive).from hs₁.control.journal
        (hown s₁ hs₁) hclosed.journal) ?_ ?_
    · rintro _ s₃ ⟨_, _, hcmd, hrun, howners⟩
      rw [wp_ofExcept]
      refine ⟨hrun.trans h₂.runRequestLock, ?_, ?_, ?_⟩
      · exact fun hm => h₂.unmarked (howners ▸ hm)
      · exact fun hl => h₂.cmdLock (hcmd ▸ hl)
      · simp [Control.releaseRunRequestLock]
    · rintro e s₃ ⟨hx, _⟩
      cases hx
  · intro s₁ hs₁ hi₁
    have hidle := h.still hs₁
    refine wp_readThen ?_
    refine wp_seq (noteExit_wp hi₁ fun channel _ _ hinactive =>
      leftSafe_of_inactive (hown s₁ hs₁) hinactive) ?_ ?_
    · rintro _ s₂ ⟨_, _, hcmd, hrun, howners⟩
      exact ⟨fun hm => hidle.unmarked (howners ▸ hm),
        fun hl => hidle.cmdLock (hcmd ▸ hl),
        fun hl => hidle.runRequestLock (hrun ▸ hl)⟩
    · rintro e s₂ ⟨hx, _⟩
      cases hx

end Py

end Safety
end CryoDaq
