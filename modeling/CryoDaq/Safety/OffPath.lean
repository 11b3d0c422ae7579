import CryoDaq.Safety.Discipline

/-!
# What the shared OFF path guarantees

For each coroutine on the way to OFF: that it is harmless, and what it has
requested, proved or latched when it ends.

**Requests.**  `OffRequested` says that an OFF of the scope was requested of
the driver, or that one under way was joined, as long as no refresh of the
operator snapshot raised.  `ProvedOff` remembers the state
in which a global OFF was proved.
-/

namespace CryoDaq
namespace Safety

open Async Journal

/-- Between `s` and `s'` an OFF of the scope was requested on behalf of task
`t`, unless there is no driver or a refresh raised. -/
def OffRequested (t : Nat) (scope : Option SmuChannel) (s s' : State) : Prop :=
  s.env.driver.isSome = true →
    ∃ n ∈ added s.control.journal s'.control.journal,
      n = .snapshotRefused ∨ ∀ channel, scope = none ∨ scope = some channel →
        n.covers t channel = true

/-- Between `s` and `s'` task `t` proved a global OFF. -/
def ProvedOff (t : Nat) (s s' : State) : Prop :=
  ∃ s₁, State.Still t s s₁ ∧ State.Still t s₁ s' ∧
    .outputOffProved
      { task := t
        confirmed := true
        settlements := s₁.lifecycle.settlements
        unsettled := s₁.lifecycle.unsettled
        terminal := s₁.lifecycle.terminal } ∈ s'.control.journal

section Transport

variable {t : Nat} {scope : Option SmuChannel} {s s' s'' : State}

theorem OffRequested.before (h : OffRequested t scope s' s'')
    (hd : State.Drift t s s') (hj : s'.control.journal <:+ s''.control.journal) :
    OffRequested t scope s s'' := by
  intro hdriver
  obtain ⟨n, hn, hc⟩ := h (hd.driver.trans hdriver)
  exact ⟨n, (mem_added_trans hd.control.journal hj n).mpr (Or.inl hn), hc⟩

theorem OffRequested.after (h : OffRequested t scope s s')
    (hj : s.control.journal <:+ s'.control.journal)
    (hj' : s'.control.journal <:+ s''.control.journal) :
    OffRequested t scope s s'' := by
  intro hdriver
  obtain ⟨n, hn, hc⟩ := h hdriver
  exact ⟨n, (mem_added_trans hj hj' n).mpr (Or.inr hn), hc⟩

theorem OffRequested.of_refused (h : State.Refused s s') :
    OffRequested t scope s s' := fun _ => ⟨_, h, Or.inl rfl⟩

theorem OffRequested.narrow (h : OffRequested t none s s') :
    OffRequested t scope s s' := by
  intro hdriver
  obtain ⟨n, hn, hc⟩ := h hdriver
  exact ⟨n, hn, hc.imp_right fun hall channel _ => hall channel (Or.inl rfl)⟩

theorem ProvedOff.before (h : ProvedOff t s' s'') (hs : State.Still t s s') :
    ProvedOff t s s'' := by
  obtain ⟨s₁, h₁, h₂, hn⟩ := h
  exact ⟨s₁, hs.trans h₁, h₂, hn⟩

theorem ProvedOff.after (h : ProvedOff t s s') (hs : State.Still t s' s'') :
    ProvedOff t s s'' := by
  obtain ⟨s₁, h₁, h₂, hn⟩ := h
  exact ⟨s₁, h₁, h₂.trans hs, hs.control.journal.subset hn⟩

end Transport

namespace Py

variable {t : Nat} {cx : Bool} {s : State}

theorem harmless_publishReading : Harmless t publishReading s := by
  refine .bind (.attempt (.awaiting _)) fun r s' => ?_
  split
  · exact .raise _
  · exact .ret _

theorem harmless_publishState : Harmless t publishState s := by
  refine .read ?_
  split
  · exact harmless_publishReading
  · exact .ret _

theorem harmless_publishKeithleyChannelStates :
    Harmless t publishKeithleyChannelStates s := by
  refine .read ?_
  split
  · exact .bind harmless_publishReading fun _ _ => harmless_publishReading
  · exact .ret _

theorem harmless_published {α : Type} {k : Except Exc Unit × Bool → Py α}
    (h : ∀ r s', Harmless t (k r) s') :
    Harmless t (settled publishKeithleyChannelStates >>= k) s :=
  .bind (.settled fun _ => harmless_publishKeithleyChannelStates) h

/-! ## The global OFF -/

theorem retainedGlobalOff_spec (hi : s.Inv) {required id : Nat}
    (h : s.retainedGlobalOff required = some id) :
    s.lifecycle.background[id]? =
        some (⟨.globalOutputOff, .created⟩ : BackgroundTask) ∨
      ∃ since, s.lifecycle.background[id]? =
        some (⟨.globalOutputOff, .started since⟩ : BackgroundTask) := by
  unfold State.retainedGlobalOff at h
  split at h
  · cases h
  · rename_i owner howner
    split_ifs at h with hlive
    obtain rfl := Option.some.inj h
    obtain ⟨b, hb, hk⟩ :=
      Option.map_eq_some_iff.mp (hi.lifecycle.owner owner howner)
    obtain ⟨kind, status⟩ := b
    obtain rfl : kind = .globalOutputOff := hk
    cases status with
    | created => exact Or.inl hb
    | started since => exact Or.inr ⟨since, hb⟩
    | finished outcome =>
        have hdone : s.lifecycle.backgroundDone owner = true :=
          (Lifecycle.backgroundDone_iff _ _).mpr ⟨_, hb, rfl⟩
        simp [hdone] at hlive

/-- Whoever shares a global OFF either joined one that was requested, or waits
for one that still has to be. -/
theorem globalOutputOffOwner_wp (hi : s.Inv) (owner : Option Nat) :
    wp (calmContract t) cx (globalOutputOffOwner t owner) (Returns fun id s' =>
      OffRequested t none s s' ∨ s'.lifecycle.background[id]? =
        some (⟨.globalOutputOff, .created⟩ : BackgroundTask)) s := by
  refine wp_readThen ?_
  dsimp only
  split
  · rename_i id hret
    rcases retainedGlobalOff_spec hi hret with hb | ⟨since, hb⟩
    · simp only [hb, Option.map_some]
      exact Or.inr hb
    · simp only [hb, Option.map_some]
      have hj := hi.requested id since hb
      refine ⟨State.calm_note t rfl hj, Or.inl ?_⟩
      intro _
      refine ⟨.offJoined t since, ?_,
        Or.inr fun _ _ => by simp [Note.covers]⟩
      simp [State.note, State.onControl, Control.note]
  · refine ⟨State.calm_createGlobalOff _ s, Or.inr ?_⟩
    simp [State.createGlobalOff, State.onLifecycle, Lifecycle.createBackground]

theorem commandOff_wp (hi : s.Inv) (scope : Option SmuChannel)
    (owner : Option Nat) :
    wp (calmContract t) cx (commandOff t scope owner) (Returns fun x s' =>
      (cx = false → x.2 = false) ∧ OffRequested t scope s s') s := by
  cases scope with
  | none =>
      refine wp_seq (calm_frame hi (globalOutputOffOwner_wp hi owner)) ?_
        fun _ _ h => h.1.elim
      rintro id s₁ ⟨hoff, _, h₁⟩
      refine wp_returnsThen (R := fun x s' => (cx = false → x.2 = false) ∧
        OffRequested t none s s' ∧ State.Still t s s') ?_ ?_
      · refine wp_settledWait trivial fun s₂ r b h₂ hi₂ hen hcx => ?_
        have h₂ : State.Still t s₁ s₂ := h₂
        refine ⟨hcx, ?_, h₁.trans h₂⟩
        rcases hoff with hoff | hb
        · exact hoff.after h₁.control.journal h₂.control.journal
        · intro hdriver
          obtain ⟨b', hb', hf⟩ := h₂.lifecycle.tasks _ _ hb
          have hdone : b'.status ≠ .created := by
            intro hc
            have hen : Wait.enabled (.background id) r s₂ = true := hen
            obtain ⟨kind, status⟩ := b'
            obtain rfl : status = .created := hc
            simp [Wait.enabled, hb'] at hen
          refine ⟨.offRequested none, ?_, Or.inr fun _ _ => rfl⟩
          exact (mem_added_trans h₁.control.journal h₂.control.journal _).mpr
            (Or.inl (hf.requested rfl hdone))
      · rintro r s₂ ⟨hcx, hoff₂, h₂⟩
        refine ⟨State.calm_releaseGlobalOff _ s₂, hcx, ?_⟩
        refine hoff₂.after h₂.control.journal ?_
        unfold State.releaseGlobalOff
        split <;> exact List.suffix_refl _
  | some channel =>
      refine ⟨State.calm_note t trivial trivial, ?_⟩
      refine wp_settledWait trivial fun s₂ r b h₂ hi₂ hen hcx => ?_
      have h₂ : State.Still t _ s₂ := h₂
      refine ⟨hcx, fun _ => ?_⟩
      refine ⟨.offRequested (some channel), ?_, Or.inr fun c hc => ?_⟩
      · refine (mem_added_trans (List.suffix_cons _ _) h₂.control.journal _).mpr
          (Or.inr ?_)
        simp
      · rcases hc with hc | hc
        · cases hc
        · obtain rfl := Option.some.inj hc
          simp [Note.covers]

theorem provedOff_wp (hi : s.Inv) (scope : Option SmuChannel)
    (confirmed : Bool) :
    wp (calmContract t) cx (provedOff t scope confirmed) (fun r s' =>
      State.Still t s s' ∧ (∃ b, r = .ok b) ∧
        (scope = none → r = .ok true → ProvedOff t s s')) s := by
  change wp _ _ (do
    if scope.isNone then note _ else pure ()
    pure confirmed) _ s
  split
  · have hcalm := State.calm_note (s := s) (n := .outputOffProved
      { task := t
        confirmed := confirmed
        settlements := s.lifecycle.settlements
        unsettled := s.lifecycle.unsettled
        terminal := s.lifecycle.terminal }) t rfl trivial
    have hstill := (hcalm hi).2 t
    refine ⟨hcalm, hstill, ⟨_, rfl⟩, fun _ hr => ?_⟩
    obtain rfl : confirmed = true := Except.ok.inj hr
    exact ⟨s, .refl t s, hstill, List.mem_cons_self⟩
  · rename_i hscope
    refine ⟨.refl t s, ⟨_, rfl⟩, fun hnone => ?_⟩
    rw [hnone] at hscope
    exact absurd rfl hscope

theorem ensureOutputOff_wp (hi : s.Inv) (scope : Option SmuChannel)
    (owner : Option Nat) :
    wp (calmContract t) cx (ensureOutputOff t scope owner) (fun r s' =>
      OffRequested t scope s s' ∧
        (scope = none → r = .ok true → ProvedOff t s s') ∧
        (cx = false → (∃ b, r = .ok b) ∨ State.Refused s s')) s := by
  change wp _ _ (if s.env.driver.isNone then _ else _) _ s
  split
  · rename_i hnone
    refine wp_mono (provedOff_wp hi scope true) ?_
    rintro r s' ⟨_, hr, hproved⟩
    refine ⟨fun hdriver => ?_, hproved, fun _ => Or.inl hr⟩
    rw [Option.isNone_iff_eq_none.mp hnone] at hdriver
    cases hdriver
  · refine wp_seq (calm_frame hi (commandOff_wp hi scope owner)) ?_
      fun _ _ h => h.1.elim
    rintro ⟨result, cancelled⟩ s₁ ⟨⟨hcx, hoff⟩, hi₁, h₁⟩
    have hcalm := State.calm_settleOutputOff scope result s₁
    obtain ⟨hi₂, hstill⟩ := hcalm hi₁
    have h₂ := h₁.trans (hstill t)
    have hoff₂ := hoff.after h₁.control.journal (hstill t).control.journal
    refine wp_syncThen (fun _ _ h => h) hcalm (fun _ => ?_) fun e _ => ?_
    · cases cancelled with
      | true =>
          refine ⟨hoff₂, fun _ hr => (by cases hr), fun hfalse => ?_⟩
          exact Bool.noConfusion (hcx hfalse)
      | false =>
          refine wp_mono (provedOff_wp hi₂ scope _) ?_
          rintro r s' ⟨h₃, hr, hproved⟩
          exact ⟨hoff₂.after h₂.control.journal h₃.control.journal,
            fun hs hok => (hproved hs hok).before h₂, fun _ => Or.inl hr⟩
    · exact ⟨hoff₂.after h₂.control.journal (List.suffix_cons _ _),
        fun _ hr => (by cases hr),
        fun _ => Or.inr (State.refused_note h₂.control.journal)⟩

theorem settledOff_wp (scope : Option SmuChannel)
    (owner : Option Nat) :
    wp (calmContract t) cx (settledOff t scope owner) (Returns fun x s' =>
      OffRequested t scope s s' ∧
        (scope = none → x.1 = true → ProvedOff t s s')) s := by
  refine wp_returnsThen (R := fun x s' => OffRequested t scope s s' ∧
    (scope = none → x.1 = .ok true → ProvedOff t s s')) ?_ ?_
  · refine wp_settledTask trivial fun s₁ h₁ hi₁ => ?_
    have h₁ : State.Still t s s₁ := h₁
    refine wp_mono (calm_frame hi₁ (ensureOutputOff_wp hi₁ scope owner)) ?_
    rintro r s₂ ⟨⟨hoff, hproved, _⟩, _, h₂⟩
    refine ⟨trivial, fun s₃ b h₃ _ _ => ⟨?_, fun hs hr => ?_⟩⟩
    · have h₃ : State.Still t s₂ s₃ := h₃
      exact (hoff.after h₂.control.journal h₃.control.journal).before
        h₁.toDrift (h₂.trans h₃).control.journal
    · exact ((hproved hs hr).after h₃).before h₁
  · rintro ⟨result, cancelled⟩ s' ⟨hoff, hproved⟩
    refine ⟨hoff, fun hs hp => hproved hs ?_⟩
    cases result with
    | ok b => exact congrArg _ hp
    | error e => cases hp

theorem harmless_faultLog : Harmless t faultLog s := by
  refine .read ?_
  split
  · exact .bind (.settledWait _) fun _ _ => .ret _
  · exact .ret _

theorem harmless_settleCut (confirmed : Bool) {k : Unit → Py Unit}
    (h : ∀ u s', Harmless t (k u) s') :
    Harmless t (sync (State.settleLatchedCut confirmed) >>= k) s :=
  .bind (.sync (State.calm_settleLatchedCut confirmed s)) h

theorem settleLatchedFault_wp (hi : s.Inv) :
    wp (calmContract t) cx (settleLatchedFault t)
      (fun _ s' => OffRequested t none s s') s := by
  refine wp_readThen ?_
  dsimp only
  split
  · refine wp_seq (calm_frame hi (settledOff_wp none _)) ?_
      fun _ _ h => h.1.elim
    rintro ⟨confirmed, offCancelled⟩ s₁ ⟨⟨hoff, _⟩, hi₁, h₁⟩
    have hrest := harmless_settleCut (t := t) (s := s₁) confirmed
      fun _ _ => .bind harmless_faultLog fun logCancelled _ =>
        harmless_published fun published _ =>
          .raiseIf (offCancelled || logCancelled || published.2)
    refine wp_mono (calm_frame hi₁ (hrest hi₁ cx)) ?_
    rintro r s' ⟨_, _, h₂⟩
    exact hoff.after h₁.control.journal h₂.control.journal
  · rename_i hnone
    have hrest := harmless_settleCut (t := t) (s := s) true
      fun _ _ => .bind harmless_faultLog fun logCancelled _ =>
        harmless_published fun published _ =>
          .raiseIf (false || logCancelled || published.2)
    exact wp_mono (hrest hi cx) fun _ _ _ hdriver => absurd hdriver hnone

theorem harmless_settleLatchedFault : Harmless t (settleLatchedFault t) s :=
  fun hi _ => wp_mono (settleLatchedFault_wp hi) fun _ _ _ => trivial

theorem mem_beginFaultLatch (reason : String) (source : FaultSource)
    (s : State) : .faultRequested source ∈
      added s.control.journal
        (s.beginFaultLatch reason source).1.control.journal := by
  simp only [State.beginFaultLatch_control, Control.beginFaultLatch]
  split <;>
    simp [Control.joinLatch, Control.enterLatch, Control.transition,
      Control.registerAbortIntent, Control.note]

theorem fault_wp (hi : s.Inv) (reason : String) (source : FaultSource) :
    wp (calmContract t) cx (fault t reason source) (fun _ s' =>
      .faultRequested source ∈ added s.control.journal s'.control.journal ∧
        (s.control.state ≠ .faultLatched → OffRequested t none s s')) s := by
  have hcalm := State.calm_beginFaultLatch reason source s
  obtain ⟨hi₁, hstill⟩ := hcalm hi
  have hj := (hstill t).control.journal
  have hmem := mem_beginFaultLatch reason source s
  refine wp_readThen ?_
  refine wp_syncThen (fun _ _ h => h) hcalm (fun _ => ?_) fun e _ => ?_
  · split
    · rename_i hl
      exact ⟨hmem, fun hnot => absurd hl hnot⟩
    · refine wp_mono (calm_frame hi₁ (settleLatchedFault_wp hi₁)) ?_
      rintro r s' ⟨hoff, _, h₂⟩
      refine ⟨(mem_added_trans hj h₂.control.journal _).mpr (Or.inr hmem),
        fun _ => ?_⟩
      exact hoff.before (hstill t).toDrift h₂.control.journal
  · exact ⟨(mem_added_trans hj (List.suffix_cons _ _) _).mpr (Or.inr hmem),
      fun _ => .of_refused (State.refused_note hj)⟩

theorem harmless_fault (reason : String) (source : FaultSource) :
    Harmless t (fault t reason source) s :=
  fun hi _ => wp_mono (fault_wp hi reason source) fun _ _ _ => trivial

theorem harmless_ensureOutputOff (scope : Option SmuChannel)
    (owner : Option Nat) : Harmless t (ensureOutputOff t scope owner) s :=
  fun hi _ => wp_mono (ensureOutputOff_wp hi scope owner) fun _ _ _ => trivial

theorem harmless_settledOff (scope : Option SmuChannel) (owner : Option Nat) :
    Harmless t (settledOff t scope owner) s :=
  fun _ _ => wp_mono (settledOff_wp scope owner) fun _ _ _ => trivial

theorem drainChildFaultSettlements_wp (owners : List Nat) :
    wp (calmContract t) cx (drainChildFaultSettlements owners)
      (Returns fun x s' => x.1 = true →
        ∀ id ∈ s.lifecycle.pendingChildFaultSettlements,
          s'.lifecycle.backgroundDone id = true) s := by
  refine wp_readThen ?_
  dsimp only
  split
  · rename_i hempty
    intro _ id hid
    rw [List.isEmpty_iff] at hempty
    have hmem := List.mem_dedup.mpr (List.mem_append_right owners hid)
    rw [hempty] at hmem
    cases hmem
  · refine wp_returnsThen (R := fun x s' => x.1 = .ok (.bool true) →
      ∀ id ∈ s.lifecycle.pendingChildFaultSettlements,
        s'.lifecycle.backgroundDone id = true) ?_ ?_
    · refine wp_settledWait trivial fun s' r b _ _ hen _ hr id hid => ?_
      obtain rfl : r = .ok (.bool true) := hr
      have hall := List.all_eq_true.mp hen
      exact hall id (List.mem_dedup.mpr (List.mem_append_right owners hid))
    · exact fun x s' hdone hd => hdone (of_decide_eq_true hd)

theorem harmless_drainChildFaultSettlements (owners : List Nat) :
    Harmless t (drainChildFaultSettlements owners) s :=
  fun _ _ => wp_mono (drainChildFaultSettlements_wp owners) fun _ _ _ => trivial

theorem harmless_reconciliationProof : Harmless t (reconciliationProof t) s := by
  refine .bind (harmless_settledOff _ _) fun ⟨proved, cancelled⟩ s' => ?_
  dsimp only
  split
  · exact .bind (.update (State.calm_dropSources _ s')) fun _ _ => .ret _
  · exact .bind (.ret _) fun _ _ => .ret _

theorem harmless_reconcileLateSettlements :
    Harmless t (reconcileLateSettlements t) s := by
  refine .bind .observeTerminalSafetyChildren fun _ s₁ => ?_
  refine .read ?_
  split
  · exact .ret _
  · refine .bind (harmless_drainChildFaultSettlements _) ?_
    rintro ⟨drained, cancelled⟩ s₂
    dsimp only
    split
    · exact .bind harmless_reconciliationProof fun _ _ => .ret _
    · exact .ret _

theorem settleHazardousConflict_wp (hi : s.Inv) (reason : String) :
    wp (calmContract t) cx (settleHazardousConflict t reason) (fun _ s' =>
      (∃ source, .faultRequested source ∈
        added s.control.journal s'.control.journal) ∧
        OffRequested t none s s') s := by
  have hcalm :=
    State.calm_beginFaultLatch reason .hazardousSuccessReconciliation s
  obtain ⟨hi₁, hstill⟩ := hcalm hi
  have hj := (hstill t).control.journal
  have hmem := mem_beginFaultLatch reason .hazardousSuccessReconciliation s
  have hsettle : wp (calmContract t) cx (settled (settleLatchedFault t))
      (Returns fun _ s' => OffRequested t none
        (s.beginFaultLatch reason .hazardousSuccessReconciliation).1 s')
      (s.beginFaultLatch reason .hazardousSuccessReconciliation).1 := by
    refine wp_settledTask trivial fun s₂ h₂ hi₂ => ?_
    have h₂ : State.Still t _ s₂ := h₂
    refine wp_mono (calm_frame hi₂ (settleLatchedFault_wp hi₂)) ?_
    rintro r s₃ ⟨hoff, _, h₃⟩
    refine ⟨trivial, fun s₄ b h₄ _ _ => ?_⟩
    have h₄ : State.Still t s₃ s₄ := h₄
    exact (hoff.after h₃.control.journal h₄.control.journal).before
      h₂.toDrift (h₃.trans h₄).control.journal
  refine wp_readThen ?_
  refine wp_syncThen (fun _ _ h => h) hcalm (fun _ => ?_) fun e _ => ?_
  · refine wp_seq (calm_frame hi₁ hsettle) ?_ fun _ _ h => h.1.elim
    rintro ⟨x, settleCancelled⟩ s₂ ⟨hoff, hi₂, h₂⟩
    refine wp_mono (calm_frame hi₂ ((?rest : Harmless t _ s₂) hi₂ cx)) ?_
    case rest =>
      refine .bind (harmless_drainChildFaultSettlements _) fun _ _ => ?_
      refine .bind harmless_reconciliationProof fun _ _ => ?_
      refine .bind harmless_reconcileLateSettlements fun _ _ => ?_
      refine .bind .refresh fun _ _ => ?_
      exact harmless_published fun _ _ => .ret _
    rintro r s₃ ⟨_, _, h₃⟩
    refine ⟨⟨_, (mem_added_trans hj (h₂.trans h₃).control.journal _).mpr
      (Or.inr hmem)⟩, ?_⟩
    exact (hoff.after h₂.control.journal h₃.control.journal).before
      (hstill t).toDrift (h₂.trans h₃).control.journal
  · exact ⟨⟨_, (mem_added_trans hj (List.suffix_cons _ _) _).mpr
      (Or.inr hmem)⟩, .of_refused (State.refused_note hj)⟩

theorem observeTerminalSafetyChildren_wp (hi : s.Inv) :
    wp (calmContract t) cx observeTerminalSafetyChildren
      (fun r s' => r = .ok () ∨
        ((∃ e, r = .error e) ∧ State.Refused s s')) s := by
  refine wp_seq (calm_frame hi
    (sync_wp hi (State.calm_observeTerminalChild .collect s))) ?_ ?_
  · rintro _ s₁ ⟨_, hi₁, h₁⟩
    refine wp_mono (calm_frame hi₁
      (sync_wp hi₁ (State.calm_observeTerminalChild .monitor s₁))) ?_
    rintro r s₂ ⟨⟨hr, _⟩ | ⟨hr, href, _⟩, _, h₂⟩
    · exact Or.inl hr
    · exact Or.inr ⟨hr, href.before h₁.control.journal h₂.control.journal⟩
  · rintro e s₁ ⟨⟨hr, _⟩ | ⟨_, href, _⟩, _⟩
    · cases hr
    · exact Or.inr ⟨⟨e, rfl⟩, href⟩

/-- What reconciliation has done that did not find nothing: unless a refresh
raised, it requested a fault and an OFF. -/
def Reconciled (t : Nat) (r : Except Exc (Option String × Bool))
    (s s' : State) : Prop :=
  ((∃ e, r = .error e) ∧ State.Refused s s') ∨
    (∃ source, .faultRequested source ∈
      added s.control.journal s'.control.journal) ∧
      OffRequested t none s s'

theorem Reconciled.requested {r : Except Exc (Option String × Bool)}
    {s s' : State} (h : Reconciled t r s s') : OffRequested t none s s' :=
  h.elim (fun hr => .of_refused hr.2) And.right

theorem reconcileHazardousSuccess_wp (hi : s.Inv) (operation : String) :
    wp (calmContract t) cx (reconcileHazardousSuccess t operation)
      (fun r s' => r = .ok (none, false) ∨ Reconciled t r s s') s := by
  refine wp_seq (calm_frame hi (observeTerminalSafetyChildren_wp hi)) ?_ ?_
  · rintro _ s₁ ⟨_, hi₁, h₁⟩
    refine wp_readThen ?_
    split
    · exact Or.inl rfl
    · have hlift : ∀ r s₂, State.Still t s₁ s₂ →
          ((∃ source, .faultRequested source ∈
              added s₁.control.journal s₂.control.journal) ∧
            OffRequested t none s₁ s₂) → Reconciled t r s s₂ := by
        rintro r s₂ h₂ ⟨⟨source, hmem⟩, hoff⟩
        refine Or.inr ⟨⟨source, ?_⟩, hoff.before h₁.toDrift h₂.control.journal⟩
        exact (mem_added_trans h₁.control.journal h₂.control.journal _).mpr
          (Or.inl hmem)
      refine wp_seq (calm_frame hi₁ (settleHazardousConflict_wp hi₁ _)) ?_ ?_
      · rintro cancelled s₂ ⟨hconflict, _, h₂⟩
        exact Or.inr (hlift _ s₂ h₂ hconflict)
      · rintro e s₂ ⟨hconflict, _, h₂⟩
        exact Or.inr (hlift _ s₂ h₂ hconflict)
  · rintro e s₁ ⟨hr | hr, _⟩
    · cases hr
    · exact Or.inr (Or.inl ⟨⟨e, rfl⟩, hr.2⟩)

theorem harmless_reconcileHazardousSuccess (operation : String) :
    Harmless t (reconcileHazardousSuccess t operation) s :=
  fun hi _ =>
    wp_mono (reconcileHazardousSuccess_wp hi operation) fun _ _ _ => trivial

/-! ## Stopping single channels -/

/-! ### Giving a stop up -/

theorem wp_settleStopThen {α : Type} {k : Unit → Py α}
    {Q : Except Exc α → State → Prop} (hq : s.control.Quit t)
    (h : wp (looseContract t) cx (k ()) Q
      (s.onControl (Control.settleStop t))) :
    wp (looseContract t) cx (settleStop t >>= k) Q s :=
  wp_updateThen
    ((State.calm_onControl (Control.calm_settleStop hq)).loose t) h

theorem unmarked_settleStop (t : Nat) (c : Control) :
    t ∉ (c.settleStop t).stopOwners := by
  simp [Control.settleStop]

theorem quit_of_state {c : Control} (h : c.state ≠ .running) : c.Quit t :=
  fun _ hs => absurd hs h

theorem quit_of_active {c : Control} (h : c.activeSources ≠ ∅) : c.Quit t :=
  fun _ _ ha => absurd ha h

/-- A stop owner under whose `_cmd_lock` a fault was requested. -/
theorem quits_of_fault {s s' : State} (hc : s.Covered t)
    (h : State.Still t s s')
    (hf : ∃ source, .faultRequested source ∈
      added s.control.journal s'.control.journal) : State.Quits t s' := by
  by_cases hm : t ∈ s'.control.stopOwners
  · obtain ⟨source, hmem⟩ := hf
    exact Or.inr (Or.inl
      (h.control.faults (hc (h.unmarked hm)) source hmem))
  · exact Or.inl hm

theorem covered_parkStop (t : Nat) (s : State) :
    (s.onControl (Control.parkStop t)).Covered t := by
  intro hm
  simp only [State.onControl_control, Control.parkStop] at hm ⊢
  split
  · rename_i hl
    exact hl
  · rename_i hl
    rw [if_neg hl] at hm
    exact absurd hm (Control.leaveStop_unmarked t _ _)

/-- The loop drops one source after the other; it ends uninterrupted only on a
manager that is not latched, and gives up only after a fault or a refresh that
raised. -/
theorem stopChannels_wp (expected : Option Nat) (channels : List SmuChannel) :
    ∀ (applied : Finset SmuChannel) (interrupted cancelled : Bool) (s : State),
      s.Inv → (interrupted = false → s.control.state ≠ .faultLatched) →
      wp (looseContract t) cx
        (stopChannels t expected channels applied interrupted cancelled)
        (fun r s' => (∀ a c, r = .ok (.finished a false c) →
          s'.control.state ≠ .faultLatched) ∧
          ((∃ a b c, r = .ok (.finished a b c)) ∨ State.Quits t s')) s := by
  induction channels with
  | nil =>
      intro applied interrupted cancelled s hi hs
      refine ⟨fun a c hr => ?_, Or.inl ⟨_, _, _, rfl⟩⟩
      cases hr
      exact hs rfl
  | cons channel rest ih =>
      intro applied interrupted cancelled s hi hs
      have hpark : State.Calm s (s.onControl (Control.parkStop t)) :=
        State.calm_onControl (Control.calm_parkStop t s.control)
      have hcov := covered_parkStop t s
      unfold stopChannels
      refine wp_updateThen (hpark.loose t) ?_
      refine wp_returnsThen (R := fun _ s' => s'.Inv ∧ s'.Covered t) ?_ ?_
      · refine wp_settledWait (hcov.parked _) fun s₁ r b h₁ hi₁ _ _ => ?_
        exact ⟨hi₁, hcov.still h₁⟩
      · rintro ⟨result, stopCancelled⟩ s₁ ⟨hi₁, hcov₁⟩
        dsimp only
        split
        · refine wp_seq (calm_loose hi₁ hcov₁ (fault_wp hi₁ _ _)) ?_ ?_
          · rintro _ s₂ ⟨⟨hmem, _⟩, _, h₂⟩
            have hquit := quits_of_fault hcov₁ h₂ ⟨_, hmem⟩
            unfold raiseIf
            split
            · exact ⟨fun a c hr => (by cases hr), Or.inr hquit⟩
            · exact ⟨fun a c hr => (by cases hr), Or.inr hquit⟩
          · rintro e s₂ ⟨⟨hmem, _⟩, _, h₂⟩
            exact ⟨fun a c hr => (by cases hr),
              Or.inr (quits_of_fault hcov₁ h₂ ⟨_, hmem⟩)⟩
        · have hdrop : State.Loose t s₁ (s₁.onControl
              (Control.dropStopped t {channel})) :=
            State.loose_onControl (.dropStopped _ _)
          obtain ⟨hi₂, _⟩ := hdrop hi₁
          refine wp_updateThen hdrop ?_
          have hrefresh := State.calm_refresh
            (s₁.onControl (Control.dropStopped t {channel}))
          obtain ⟨hi₃, h₃⟩ := hrefresh hi₂
          have hcollect := State.calm_observeTerminalChild .collect
            (s₁.onControl
              (Control.dropStopped t {channel})).refreshOperatorSafetySnapshot.1
          obtain ⟨hi₄, h₄⟩ := hcollect hi₃
          have hmonitor := State.calm_observeTerminalChild .monitor
            ((s₁.onControl
              (Control.dropStopped t {channel})).refreshOperatorSafetySnapshot.1
              |>.observeTerminalChild .collect).1
          have hraised : ∀ (e : Exc) (s' : State),
              (∀ a c, (.error e : Except Exc StopLoop) =
                .ok (.finished a false c) →
                (s'.note .snapshotRefused).control.state ≠ .faultLatched) ∧
              ((∃ a b c, (.error e : Except Exc StopLoop) =
                .ok (.finished a b c)) ∨
                State.Quits t (s'.note .snapshotRefused)) :=
            fun e s' => ⟨fun a c hr => (by cases hr),
              Or.inr (State.refused_note (List.suffix_refl _)).quits⟩
          refine wp_syncThen (fun _ _ h => h.loose t) (hrefresh.loose t)
            (fun _ => ?_) fun e _ => hraised e _
          refine (wp_bind _ _ _ _).mpr ?_
          refine wp_syncThen (fun _ _ h => h.loose t) (hcollect.loose t)
            (fun _ => ?_) fun e _ => hraised e _
          refine wp_sync (fun _ _ h => h.loose t) (hmonitor.loose t)
            (fun _ => ?_) fun e _ => hraised e _
          refine ih _ _ _ _ (hmonitor hi₄).1 ?_
          intro hclear hl
          simp [stopInterrupted, hl] at hclear

theorem finishSafeOff_wp (reason : TransitionReason)
    (channels : Finset SmuChannel) (cancelled : Bool)
    (hs : s.control.state ≠ .faultLatched) :
    wp (looseContract t) cx (finishSafeOff t reason channels cancelled)
      (fun _ s' => State.Quits t s') s := by
  refine wp_readThen ?_
  split
  · rename_i hactive
    have hcalm : State.Calm s (s.transition .running (.partialStop
        (sortedChannels channels)
          (sortedChannels s.control.activeSources))).1 :=
      State.calm_transition hs (Or.inr (Or.inl ⟨rfl, hactive⟩))
    refine wp_syncThen (fun _ _ h => h.loose t) (hcalm.loose t)
      (fun _ => ?_) fun e _ => (State.refused_note (List.suffix_refl _)).quits
    refine wp_settleStopThen (k := pure) (quit_of_active ?_) ?_
    · simpa [Control.transition] using hactive
    · exact Or.inl (unmarked_settleStop t _)
  · rename_i hempty
    have hsame : State.Calm s (s.retainConnection.setOffEvidence
        s.unknownGlobalOffEvidence) := .of_same rfl rfl rfl rfl
    have hmove : State.Calm (s.retainConnection.setOffEvidence
        s.unknownGlobalOffEvidence)
        ((s.retainConnection.setOffEvidence
          s.unknownGlobalOffEvidence).transition .safeOff reason).1 :=
      State.calm_transition hs (Or.inl ⟨rfl, not_not.mp hempty⟩)
    refine wp_syncThen (fun _ _ h => h.loose t) ((hsame.trans hmove).loose t)
      (fun _ => ?_) fun e _ => (State.refused_note (List.suffix_refl _)).quits
    refine wp_settleStopThen
      (quit_of_state (by simp [Control.transition])) ?_
    have hun := unmarked_settleStop t ((s.retainConnection.setOffEvidence
      s.unknownGlobalOffEvidence).transition .safeOff reason).1.control
    unfold raiseIf
    split <;> exact Or.inl hun

theorem safeOff_wp (hi : s.Inv) (hc : s.Covered t) (reason : TransitionReason)
    (channels : Finset SmuChannel) (expected : Option Nat) :
    wp (looseContract t) cx (safeOff t reason channels expected)
      (fun _ s' => State.Quits t s') s := by
  refine wp_readThen ?_
  split
  · rename_i hs
    refine wp_mono (Harmless.loose_wp ?_ hi hc) fun _ _ h =>
      State.Quits.still (Or.inr (Or.inl hs)) hc h.2
    refine .bind (harmless_settledOff _ _) fun ⟨_, cancelled⟩ _ => ?_
    exact .bind (.raiseIf _) fun _ _ => .ret _
  · rename_i hs
    split
    · refine wp_updateThen (State.loose_onControl (.dropStopped _ _)) ?_
      refine wp_seq (finishSafeOff_wp reason channels false hs) ?_ ?_
      · exact fun _ _ h => h
      · exact fun _ _ h => h
    · refine wp_seq (loose_frame hi (stopChannels_wp expected
        (sortedChannels channels) ∅ false false s hi fun _ => hs)) ?_ ?_
      · rintro loop s₁ ⟨⟨hloop, hend⟩, hi₁, _⟩
        cases loop with
        | failed applied =>
            rcases hend with ⟨_, _, _, hr⟩ | hquit
            · cases hr
            · exact hquit
        | finished applied interrupted cancelled =>
            cases interrupted with
            | true =>
                have hleave := State.calm_onControl (s := s₁)
                  (Control.calm_leaveStop t .overtakenStop s₁.control)
                refine wp_updateThen (hleave.loose t) ?_
                have hun := Control.leaveStop_unmarked t .overtakenStop
                  s₁.control
                refine wp_syncThen (fun _ _ h => h.loose t)
                  ((State.calm_refresh _).loose t) (fun _ => ?_)
                  fun e _ => (State.refused_note (List.suffix_refl _)).quits
                have hquit : State.Quits t (s₁.onControl (Control.leaveStop t
                    .overtakenStop)).refreshOperatorSafetySnapshot.1 :=
                  Or.inl (by simpa using hun)
                unfold raiseIf
                cases cancelled <;> exact hquit
            | false =>
                refine wp_seq (finishSafeOff_wp reason channels cancelled
                  (hloop _ _ rfl)) ?_ ?_
                · exact fun _ _ h => h
                · exact fun _ _ h => h
      · rintro e s₁ ⟨⟨_, ⟨_, _, _, hr⟩ | hquit⟩, _⟩
        · cases hr
        · exact hquit

/-- The receipt is made and the stop given up before the last publication. -/
theorem settledReply_wp (reply : Reply) (hi : s.Inv)
    (hquit : s.control.Quit t) :
    wp (calmContract t) cx (do
      settleStop t
      let (_, cancelled) ← settled publishKeithleyChannelStates
      raiseIf cancelled
      pure reply) (fun _ s' => State.Quits t s') s := by
  have hsettle : State.Calm s (s.onControl (Control.settleStop t)) :=
    State.calm_onControl (Control.calm_settleStop hquit)
  have hi₁ := (hsettle hi).1
  refine wp_updateThen hsettle ?_
  refine wp_mono (calm_frame hi₁ ((?rest : Harmless t _ _) hi₁ cx)) ?_
  case rest =>
    exact harmless_published fun _ _ => .bind (.raiseIf _) fun _ _ => .ret _
  rintro r s₂ ⟨_, _, h₂⟩
  exact Or.inl fun hm => unmarked_settleStop t s.control (h₂.unmarked hm)

theorem finishEmergencyOff_wp (hi : s.Inv) (channels : Finset SmuChannel) :
    wp (calmContract t) cx (finishEmergencyOff t channels)
      (fun _ s' => State.Quits t s') s := by
  refine wp_readThen ?_
  dsimp only
  split
  · rename_i hs
    exact settledReply_wp _ hi (quit_of_state (by simp [hs]))
  · rename_i hs
    split
    · rename_i hempty
      have hcalm : State.Calm s
          (s.transition .safeOff .operatorEmergencyOff).1 :=
        State.calm_transition hs (Or.inl ⟨rfl, hempty⟩)
      refine wp_syncThen (fun _ _ h => h) hcalm (fun _ => ?_) fun e _ => ?_
      · exact settledReply_wp _ (hcalm hi).1
          (quit_of_state (by simp [Control.transition]))
      · exact (State.refused_note (List.suffix_refl _)).quits
    · rename_i hactive
      exact settledReply_wp _ hi (quit_of_active hactive)

/-- What an emergency OFF of a scope has done when it ends, on behalf of a task
that holds `_cmd_lock`. -/
structure EmergencySettled (t : Nat) (scope : Option SmuChannel)
    (r : Except Exc Reply) (s s' : State) : Prop where
  requested : OffRequested t scope s s'
  settled : ∀ reply, r = .ok reply → s'.control.state = .faultLatched ∨
    (s.control.runRequestLock = some t →
      ∀ channel ∈ State.resolveChannels scope,
        channel ∉ s'.control.activeSources)

theorem latched_of_mem {s s' : State} (hd : State.Drift t s s')
    (hl : s.control.cmdLock = some t)
    (h : ∃ source, .faultRequested source ∈
      added s.control.journal s'.control.journal) :
    s'.control.state = .faultLatched := by
  obtain ⟨source, hm⟩ := h
  exact hd.control.faults hl source hm

/-- Under `_cmd_lock` reconciliation that found something owes no transition
any more. -/
theorem Reconciled.quits {r : Except Exc (Option String × Bool)} {s s' : State}
    (h : Reconciled t r s s') (hl : s.control.cmdLock = some t)
    (hs : State.Still t s s') : State.Quits t s' := by
  rcases h with ⟨_, href⟩ | ⟨hfault, _⟩
  · exact href.quits
  · exact quits_of_fault (.of_lock hl) hs hfault

theorem Reconciled.latched {a : Option String × Bool} {s s' : State}
    (h : Reconciled t (.ok a) s s') (hl : s.control.cmdLock = some t)
    (hs : State.Still t s s') : s'.control.state = .faultLatched := by
  rcases h with ⟨⟨_, hr⟩, _⟩ | ⟨hfault, _⟩
  · cases hr
  · exact latched_of_mem hs.toDrift hl hfault

theorem emergencyOffConfirmed {s₀ : State} {scope : Option SmuChannel}
    {operation : String} (hl : s₀.control.cmdLock = some t)
    (hd : State.Drift t s₀ s) (hi : s.Inv) (hoff : OffRequested t scope s₀ s) :
    wp (looseContract t) cx (do
        Coro.update (State.onControl
          (Control.dropStopped t (State.resolveChannels scope)))
        refresh
        let (conflict, cancelled) ← reconcileHazardousSuccess t operation
        raiseIf cancelled
        match conflict with
        | some reason => do
            let s ← Coro.read
            pure (offReply (State.resolveChannels scope) (some reason) s)
        | none => finishEmergencyOff t (State.resolveChannels scope))
      (fun r s' => EmergencySettled t scope r s₀ s' ∧ State.Quits t s') s := by
  have hdrop : State.Loose t s (s.onControl
      (Control.dropStopped t (State.resolveChannels scope))) :=
    State.loose_onControl (.dropStopped _ _)
  obtain ⟨hi₁, hd₁, _⟩ := hdrop hi
  have hrefresh := State.calm_refresh (s.onControl
    (Control.dropStopped t (State.resolveChannels scope)))
  obtain ⟨hi₂, hstill⟩ := hrefresh hi₁
  have hd₂ := (hd.trans hd₁).trans (hstill t).toDrift
  have hl₂ := hd₂.control.cmdLock.mpr hl
  have hoff₂ : OffRequested t scope s₀ _ :=
    hoff.after hd.control.journal
      (hd₁.trans (hstill t).toDrift).control.journal
  refine wp_updateThen hdrop ?_
  refine wp_syncThen (fun _ _ h => h.loose t) (hrefresh.loose t)
    (fun _ => ?_) fun e _ => ?_
  · refine wp_seq (calm_loose hi₂ (.of_lock hl₂)
      (reconcileHazardousSuccess_wp hi₂ _)) ?_ ?_
    · rintro ⟨conflict, cancelled⟩ s₃ ⟨hr₃, hi₃, h₃⟩
      have hd₃ := hd₂.trans h₃.toDrift
      have hoff₃ := hoff₂.after hd₂.control.journal h₃.control.journal
      cases cancelled with
      | true =>
          refine ⟨⟨hoff₃, fun _ hr => by cases hr⟩, ?_⟩
          rcases hr₃ with hr₃ | hr₃
          · cases hr₃
          · exact hr₃.quits hl₂ h₃
      | false =>
          cases conflict with
          | some reason =>
              rcases hr₃ with hr₃ | hr₃
              · cases hr₃
              · exact ⟨⟨hoff₃, fun _ _ => Or.inl (hr₃.latched hl₂ h₃)⟩,
                  hr₃.quits hl₂ h₃⟩
          | none =>
              refine wp_mono (calm_loose hi₃
                (.of_lock (hd₃.control.cmdLock.mpr hl))
                (finishEmergencyOff_wp hi₃ _)) ?_
              rintro r s₄ ⟨hquit, _, h₄⟩
              refine ⟨⟨hoff₃.after hd₃.control.journal h₄.control.journal,
                fun _ _ => Or.inr fun hrun channel hc hactive => ?_⟩, hquit⟩
              have hrun₂ := hd₂.control.runRequestLock.mpr hrun
              have hmem := (h₃.trans h₄).control.active hrun₂ hactive
              simp [Control.dropStopped, Control.announce, hc] at hmem
    · rintro e s₃ ⟨hr₃, _, h₃⟩
      refine ⟨⟨hoff₂.after hd₂.control.journal h₃.control.journal,
        fun _ hr => by cases hr⟩, ?_⟩
      rcases hr₃ with hr₃ | hr₃
      · cases hr₃
      · exact hr₃.quits hl₂ h₃
  · exact ⟨⟨hoff₂.after hd₂.control.journal (List.suffix_cons _ _),
      fun _ hr => by cases hr⟩,
      (State.refused_note (List.suffix_refl _)).quits⟩

theorem emergencyOffResolved_wp (hi : s.Inv) (hl : s.control.cmdLock = some t)
    (scope : Option SmuChannel) :
    wp (looseContract t) false (emergencyOffResolved t scope)
      (fun r s' => EmergencySettled t scope r s s' ∧ State.Quits t s') s := by
  have hlock : ∀ {s'}, State.Drift t s s' → s'.Covered t :=
    fun hd => .of_lock (hd.control.cmdLock.mpr hl)
  unfold emergencyOffResolved
  refine wp_seq (calm_loose hi (.of_lock hl)
    (reconcileHazardousSuccess_wp hi _)) ?_ ?_
  · rintro ⟨conflict, cancelled⟩ s₁ ⟨hr₁, hi₁, h₁⟩
    cases cancelled with
    | true =>
        rcases hr₁ with hr₁ | hr₁
        · cases hr₁
        · exact ⟨⟨hr₁.requested.narrow, fun _ hr => by cases hr⟩,
            hr₁.quits hl h₁⟩
    | false =>
        cases conflict with
        | some reason =>
            rcases hr₁ with hr₁ | hr₁
            · cases hr₁
            · exact ⟨⟨hr₁.requested.narrow,
                fun _ _ => Or.inl (hr₁.latched hl h₁)⟩, hr₁.quits hl h₁⟩
        | none =>
            change wp _ _ (ensureOutputOff t scope none >>= _) _ s₁
            refine wp_seq (calm_loose hi₁ (hlock h₁.toDrift)
              (ensureOutputOff_wp hi₁ scope none)) ?_ ?_
            · rintro confirmed s₂ ⟨⟨hoff₂, _⟩, hi₂, h₂⟩
              have h₁₂ := h₁.toDrift.trans h₂.toDrift
              have hoff := hoff₂.before h₁.toDrift h₂.control.journal
              cases confirmed with
              | false =>
                  refine wp_seq (calm_loose hi₂ (hlock h₁₂)
                    (fault_wp hi₂ _ _)) ?_ ?_
                  · rintro _ s₃ ⟨⟨hmem, _⟩, _, h₃⟩
                    refine ⟨⟨hoff.after h₁₂.control.journal
                      h₃.control.journal, fun _ _ => Or.inl ?_⟩,
                      quits_of_fault (hlock h₁₂) h₃ ⟨_, hmem⟩⟩
                    exact latched_of_mem h₃.toDrift
                      (h₁₂.control.cmdLock.mpr hl) ⟨_, hmem⟩
                  · rintro e s₃ ⟨⟨hmem, _⟩, _, h₃⟩
                    exact ⟨⟨hoff.after h₁₂.control.journal
                      h₃.control.journal, fun _ hr => by cases hr⟩,
                      quits_of_fault (hlock h₁₂) h₃ ⟨_, hmem⟩⟩
              | true =>
                  exact emergencyOffConfirmed hl h₁₂ hi₂ hoff
            · rintro e s₂ ⟨⟨hoff₂, _, hraised⟩, _, h₂⟩
              refine ⟨⟨hoff₂.before h₁.toDrift h₂.control.journal,
                fun _ hr => by cases hr⟩, ?_⟩
              rcases hraised rfl with ⟨_, hr⟩ | href
              · cases hr
              · exact href.quits
  · rintro e s₁ ⟨hr₁, _, h₁⟩
    rcases hr₁ with hr₁ | hr₁
    · cases hr₁
    · exact ⟨⟨hr₁.requested.narrow, fun _ hr => by cases hr⟩, hr₁.quits hl h₁⟩

/-- A task that stops a channel it could not name has announced no stop. -/
theorem emergencyOffLocked_wp (hi : s.Inv) (hl : s.control.cmdLock = some t)
    (channel : ChannelArg)
    (hname : ∀ e, channel.scope = .error e → t ∉ s.control.stopOwners) :
    wp (looseContract t) false (emergencyOffLocked t channel) (fun r s' =>
      t ∉ s'.control.stopOwners ∧
        (channel = .omitted → EmergencySettled t none r s s')) s := by
  have hbody : wp (looseContract t) false (do
      let scope ← Coro.ofExcept channel.scope
      emergencyOffResolved t scope)
      (fun r s' => (channel = .omitted → EmergencySettled t none r s s') ∧
        State.Quits t s') s := by
    cases hscope : channel.scope with
    | error e =>
        refine ⟨fun hom => ?_, Or.inl (hname e hscope)⟩
        rw [hom] at hscope
        cases hscope
    | ok scope =>
        refine wp_mono (emergencyOffResolved_wp hi hl scope) ?_
        intro r s' hr
        refine ⟨fun hom => ?_, hr.2⟩
        rw [hom] at hscope
        obtain rfl := Except.ok.inj hscope
        exact hr.1
  refine wp_attemptThen (wp_mono (loose_frame hi hbody) ?_)
  rintro r s₁ ⟨⟨hr, hquit⟩, hi₁, hd₁⟩
  have hj : s₁.control.journal <:+
      (s₁.onControl (Control.settleStop t)).control.journal := by
    simp [Control.settleStop]
  refine wp_settleStopThen hquit.quit ?_
  rw [wp_ofExcept]
  refine ⟨unmarked_settleStop t _, fun hom => ?_⟩
  obtain ⟨hoff, hsettled⟩ := hr hom
  exact ⟨hoff.after hd₁.control.journal hj, hsettled⟩

end Py

end Safety
end CryoDaq
