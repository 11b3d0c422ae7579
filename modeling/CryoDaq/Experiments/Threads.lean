import CryoDaq.Experiments.Lifecycle

/-!
# The threads of a manager

Every public method keeps the discipline, so every schedule does.

**Decorators.**  A decorated method runs from an `Idle` core: its recovery left
no journal.  It has to leave a quiet one, however it ends.

**Runs.**  `Lives.sound` holds of every directory that processes leave behind
and of every state of the process that runs over it.
-/

namespace CryoDaq
namespace Experiments

open Async Op Text

variable {δ κ : Type} {S : Setting δ κ} [DecidableEq δ]

section Decorators

variable {α : Type} {c : Core δ κ} {f : StateFile δ} {t : ℕ} {m : Mode} {w : World δ κ}

theorem recovered_locked {method : Op δ κ α} {Q : Except Failure α → Core δ κ → Prop}
    (hready : c.ready = true) (hquiet : Quiet S c)
    (h : ∀ c f, c.ready = true → Idle S c f →
      Locked S t .free method (fun r c' => Quiet S c' ∧ Q r c') c)
    (herror : ∀ e c, Q (.error e) c) :
    Locked S t .free
      (do
        recoverTransition S t
        method)
      (fun r c' => (c'.ready = true → Quiet S c') ∧ Q r c') c := by
  have hboot : c.ready = false → c.memory.active = none := by
    intro hr
    rw [hready] at hr
    cases hr
  refine Locked.seq (recoverTransition_locked (.inl rfl) (fun _ => hquiet) hboot) ?_ ?_
  · rintro _ c₁ ⟨hsame, ⟨_, hj, hcase⟩ | ⟨⟨e, he⟩, _⟩⟩
    · have hready₁ : c₁.ready = true := hsame.ready.trans hready
      have hidle : ∃ f, Idle S c₁ f := by
        rcases hcase with ⟨_, rfl⟩ | ⟨_, _, hidle⟩
        · exact hquiet.idle hj
        · exact hidle
      obtain ⟨f, hidle⟩ := hidle
      exact Locked.mono (h c₁ f hready₁ hidle) fun _ _ hq => ⟨fun _ => hq.1, hq.2⟩
    · cases he
  · rintro e c₁ ⟨_, ⟨he, _⟩ | ⟨_, hquiet₁⟩⟩
    · cases he
    · exact ⟨fun _ => hquiet₁ hready, herror e c₁⟩

theorem serializedLifecycle_wp {method : Op δ κ α} (hready : w.ready = true)
    (hfree : Free t w)
    (h : ∀ c f, c.ready = true → Idle S c f →
      Locked S t .free method (fun _ c' => Quiet S c') c) :
    wp ((discipline S).contract t) true (serializedLifecycle S t method)
      (fun _ w' => Free t w') w := by
  refine wp_mono (Q := fun _ w' => Free t w' ∧ Inv S w' ∧ True) ?_ fun _ _ h => h.1
  refine withLifecycle_wp hready hfree (Q := fun _ _ => True) ?_
  intro c hr hq
  refine recovered_locked hr hq ?_ fun _ _ => trivial
  intro c' f hr' hidle
  exact Locked.mono (h c' f hr' hidle) fun _ _ hq => ⟨hq, trivial⟩

theorem serializedLifecycleMutation_wp {method : Op δ κ α} (hready : w.ready = true)
    (hfree : Free t w)
    (h : ∀ c f, c.ready = true → Idle S c f →
      Locked S t .admitted method (fun _ c' => Quiet S c') c) :
    wp ((discipline S).contract t) true (serializedLifecycleMutation S t method)
      (fun _ w' => Free t w') w := by
  refine serializedLifecycle_wp hready hfree ?_
  intro c f hr hidle
  exact Locked.admission (h c f hr hidle) fun _ => hidle.quiet

theorem available_then {k : Unit → Op δ κ α} {Q : Except Failure α → Core δ κ → Prop}
    (h : Locked S t .admitted (k ()) Q c) :
    Locked S t .admitted (assertMutationAvailable t >>= k) Q c := by
  refine Locked.seq (Locked.available (Q := fun r c' => r = .ok () ∧ c' = c) ⟨rfl, rfl⟩) ?_ ?_
  · rintro _ c' ⟨_, rfl⟩
    exact h
  · rintro e c' ⟨he, _⟩
    cases he

theorem requireExperimentMode_then {k : Unit → Op δ κ α}
    {Q : Except Failure α → Core δ κ → Prop} (h : Locked S t m (k ()) Q c)
    (herror : ∀ e, Q (.error e) c) : Locked S t m (requireExperimentMode >>= k) Q c := by
  refine Locked.seq (R := fun _ c' => c' = c) ?_ ?_ ?_
  · refine Locked.readThen ?_
    intro w _
    by_cases hmode : w.memory.state.appMode ≠ .experiment
    · rw [if_pos hmode]
      exact Locked.raise rfl
    · rw [if_neg hmode]
      exact Locked.ret rfl
  · rintro _ c' rfl
    exact h
  · rintro e c' rfl
    exact herror e

end Decorators

section Transitions

variable {c : Core δ κ} {f : StateFile δ} {t : ℕ} {m : Mode} {w : World δ κ}

theorem isSpace_hex {c : Char} (h : (c.isDigit || ('a' ≤ c && c ≤ 'f')) = true) :
    isSpace c = false := by
  have hrange : (48 ≤ c.toNat ∧ c.toNat ≤ 57) ∨ (97 ≤ c.toNat ∧ c.toNat ≤ 102) := by
    rcases Bool.or_eq_true_iff.mp h with hdigit | hletter
    · left
      unfold Char.isDigit at hdigit
      obtain ⟨hlow, hhigh⟩ := Bool.and_eq_true_iff.mp hdigit
      exact ⟨of_decide_eq_true hlow, of_decide_eq_true hhigh⟩
    · right
      obtain ⟨hlow, hhigh⟩ := Bool.and_eq_true_iff.mp hletter
      exact ⟨of_decide_eq_true hlow, of_decide_eq_true hhigh⟩
  unfold isSpace
  simp only [Bool.or_eq_false_iff, Bool.and_eq_false_iff, decide_eq_false_iff_not, beq_eq_false_iff_ne]
  omega

omit [DecidableEq δ] in
theorem fresh_spec {id : String} (h : w.fresh id = true) :
    strip id = id ∧ id ∉ w.disk.rows.map ExperimentInfo.experimentId := by
  unfold World.fresh at h
  simp only [Bool.and_eq_true] at h
  obtain ⟨⟨⟨_, hhex⟩, hrows⟩, _⟩ := h
  constructor
  · refine strip_eq_self (List.all_eq_true.mpr ?_)
    intro c hc
    rw [isSpace_hex (List.all_eq_true.mp hhex c hc)]
    rfl
  · intro hin
    obtain ⟨r, hr, hid⟩ := List.mem_map.mp hin
    have hne := List.all_eq_true.mp hrows r hr
    exact of_decide_eq_true hne hid

omit [DecidableEq δ] in
theorem mem_withRecord (r : RunRecord κ) (records : List (RunRecord κ)) :
    r ∈ withRecord r records := by
  unfold withRecord
  by_cases hany : records.any (sameRun r) = true
  · rw [if_pos hany]
    obtain ⟨s, hs, hsame⟩ := List.any_eq_true.mp hany
    exact List.mem_map.mpr ⟨s, hs, if_pos hsame⟩
  · rw [if_neg hany]
    exact List.mem_append_right _ (List.mem_singleton.mpr rfl)

theorem uuid4_then {α : Type} {k : String → Op δ κ α} {Q : Except Failure α → Core δ κ → Prop}
    (h : ∀ id, strip id = id → id ∉ c.disk.rows.map ExperimentInfo.experimentId →
      Locked S t m (k id) Q c) :
    Locked S t m (uuid4 >>= k) Q c := by
  refine Locked.seq (R := fun r c' => c' = c ∧ ∃ id, r = .ok id ∧ strip id = id ∧
    id ∉ c.disk.rows.map ExperimentInfo.experimentId) ?_ ?_ ?_
  · refine Locked.pauseThen (fun _ => trivial) ?_
    intro w a hw ha
    cases a with
    | drawn id =>
        obtain ⟨htrimmed, hnew⟩ := fresh_spec (w := w) ha
        rw [hw.disk] at hnew
        exact Locked.ret ⟨rfl, id, rfl, htrimmed, hnew⟩
    | done => cases ha
    | failed => cases ha
    | interrupted => cases ha
  · rintro id c' ⟨rfl, id', hid, htrimmed, hnew⟩
    obtain rfl := Except.ok.inj hid
    exact h id htrimmed hnew
  · rintro e c' ⟨_, id, hid, _⟩
    cases hid

omit [DecidableEq δ] in
theorem target_create (info : ExperimentInfo) {j : Journal δ κ} {info' : ExperimentInfo}
    (hoperation : j.request.operation = .create) (hextras : j.request.extras = {})
    (htrimmed : strip info.experimentId = info.experimentId)
    (hnew : info.experimentId ∉ c.disk.rows.map ExperimentInfo.experimentId)
    (hpayload : info.reload.fromPayload = .ok info') : Target c.disk j info' where
  fresh _ := by
    obtain ⟨_, rfl⟩ := ExperimentInfo.fromPayload_eq hpayload
    change strip info.experimentId ∉ _
    rw [htrimmed]
    exact hnew
  known hne := absurd hoperation hne
  plain _ := hextras
  archived hf := by
    rw [hoperation] at hf
    cases hf

theorem Idle.active_mem (h : Idle S c f) {active : ExperimentInfo}
    (hactive : c.memory.active = some active) :
    active.reload ∈ c.disk.rows ∧ active.reload.fromPayload = .ok active.reload ∧
      c.disk.Holds active.experimentId active.reload ∧
      f.activeExperimentId = some active.experimentId := by
  have hagrees := h.active
  unfold ActiveAgrees Memory.visible at hagrees
  rw [hactive] at hagrees
  cases hid : f.activeExperimentId with
  | none =>
      unfold Disk.activeRecord at hagrees
      rw [hid] at hagrees
      cases hagrees
  | some id =>
      obtain ⟨i, ⟨n, hn, hi⟩, hmem, rfl, _, hnormal⟩ := h.settled.active id hid
      have hrecord : c.disk.activeRecord f = some i := by
        unfold Disk.activeRecord
        rw [hid]
        change (c.disk.metadata i.experimentId).bind Metadata.experiment = some i
        rw [hn]
        exact hi
      rw [hrecord] at hagrees
      obtain rfl : active.reload = i := Option.some.inj hagrees
      exact ⟨hmem, hnormal.read, ⟨n, hn, hi⟩, rfl⟩

theorem target_active (h : Idle S c f) (info : ExperimentInfo) {j : Journal δ κ}
    {active info' : ExperimentInfo}
    (hactive : c.memory.active = some active) (hoperation : j.request.operation ≠ .create)
    (hid : info.experimentId = active.experimentId) (hoperator : info.operator = active.operator)
    (hcryostat : info.cryostat = active.cryostat) (hstart : info.startTime = active.startTime)
    (hconfig : info.configSnapshot = active.configSnapshot)
    (hplain : j.request.operation ≠ .finalize → j.request.extras = {})
    (harchived : j.request.operation = .finalize → ∃ a : Archive κ,
      j.request.extras = a.extras (listRunRecords c.disk active.experimentId))
    (hpayload : info.reload.fromPayload = .ok info') : Target c.disk j info' := by
  obtain ⟨hmem, hread, _, _⟩ := h.active_mem hactive
  have hclean := (ExperimentInfo.fromPayload_eq hread).2
  have hstrip {g : ExperimentInfo → String} (hg : g active.reload.cleaned = strip (g active.reload)) :
      strip (g active.reload) = g active.reload := by
    rw [← hg, ← hclean]
  obtain ⟨_, rfl⟩ := ExperimentInfo.fromPayload_eq hpayload
  have hid' : info.reload.cleaned.experimentId = active.experimentId := by
    change strip info.experimentId = active.experimentId
    rw [hid]
    exact hstrip (g := ExperimentInfo.experimentId) rfl
  refine ⟨fun hc => absurd hc hoperation, fun _ => ⟨active.reload, hmem, hid'.symm, ?_⟩, hplain, ?_⟩
  · refine updatedRow_eq ?_ ?_ hstart.symm ?_
    · change active.operator = strip info.operator
      rw [hoperator]
      exact (hstrip (g := ExperimentInfo.operator) rfl).symm
    · change active.cryostat = strip info.cryostat
      rw [hcryostat]
      exact (hstrip (g := ExperimentInfo.cryostat) rfl).symm
    · change reloadConfig active.configSnapshot = reloadConfig info.configSnapshot
      rw [hconfig]
  · rw [hid']
    exact harchived

omit [DecidableEq δ] in
theorem requireActive_ok {n : Memory δ} {experimentId : Option String} {active : ExperimentInfo}
    (h : requireActive n experimentId = .ok active) : n.active = some active := by
  unfold requireActive at h
  cases ha : n.active with
  | none =>
      rw [ha] at h
      cases h
  | some active' =>
      rw [ha] at h
      dsimp only at h
      split at h
      · cases h
      · exact congrArg some (Except.ok.inj h)

theorem createExperiment_wp (hready : w.ready = true) (hfree : Free t w) (a : CreateArguments) :
    wp ((discipline S).contract t) true (createExperiment S t a) (fun _ w' => Free t w') w := by
  refine serializedLifecycleMutation_wp hready hfree ?_
  intro c f hr hidle
  have hquiet : ∀ e : Failure, Quiet S c := fun _ => hidle.quiet
  refine available_then (requireExperimentMode_then ?_ hquiet)
  refine Locked.readThen ?_
  intro w _
  refine Locked.refuseThen ?_ fun e _ => hquiet e
  intro _
  refine Locked.ofExceptThen ?_ fun e _ => hquiet e
  intro template _
  refine uuid4_then ?_
  intro id htrimmed hnew
  refine Locked.ofExceptThen ?_ fun e _ => hquiet e
  intro start _
  refine commitTransition_locked hidle hr ?_
  intro j hoperation hextras info' hpayload
  exact target_create (a.info template id (start.getD a.now)) hoperation hextras
    htrimmed hnew hpayload

theorem updateExperiment_wp (hready : w.ready = true) (hfree : Free t w) (a : UpdateArguments) :
    wp ((discipline S).contract t) true (updateExperiment S t a) (fun _ w' => Free t w') w := by
  refine serializedLifecycleMutation_wp hready hfree ?_
  intro c f hr hidle
  have hquiet : ∀ e : Failure, Quiet S c := fun _ => hidle.quiet
  refine available_then (requireExperimentMode_then ?_ hquiet)
  refine Locked.readThen ?_
  intro w hw
  rw [hw.memory]
  refine Locked.ofExceptThen ?_ fun e _ => hquiet e
  intro active hactive
  refine commitTransition_locked hidle hr ?_
  intro j hoperation hextras info' hpayload
  refine target_active hidle (a.info active) (requireActive_ok hactive) ?_ rfl rfl rfl rfl
    rfl (fun _ => hextras) ?_ hpayload
  · rw [hoperation]
    exact fun h => (nomatch h)
  · intro hf
    rw [hoperation] at hf
    cases hf

theorem finalizeExperiment_wp (hready : w.ready = true) (hfree : Free t w)
    (a : FinalizeArguments κ) :
    wp ((discipline S).contract t) true (finalizeExperiment S t a) (fun _ w' => Free t w') w := by
  refine serializedLifecycleMutation_wp hready hfree ?_
  intro c f hr hidle
  have hquiet : ∀ e : Failure, Quiet S c := fun _ => hidle.quiet
  refine available_then (requireExperimentMode_then ?_ hquiet)
  refine Locked.readThen ?_
  intro w hw
  rw [hw.memory, hw.disk]
  refine Locked.ofExceptThen ?_ fun e _ => hquiet e
  intro active hactive
  dsimp only
  by_cases hsweep : (listRunRecords c.disk active.experimentId).any runningSweep = true
  · rw [if_pos hsweep]
    exact Locked.raise (hquiet .os)
  rw [if_neg hsweep]
  refine Locked.ofExceptThen ?_ fun e _ => hquiet e
  intro ended _
  by_cases htime : ended.getD a.now < active.startTime
  · rw [if_pos htime]
    exact Locked.raise (hquiet .os)
  rw [if_neg htime]
  refine Locked.seq (R := fun _ c' => c' = c) (Locked.sideEffect rfl rfl) ?_ ?_
  · rintro _ c' rfl
    refine commitTransition_locked hidle hr ?_
    intro j hoperation hextras info' hpayload
    refine target_active hidle (a.info active (ended.getD a.now)) (requireActive_ok hactive)
      ?_ rfl rfl rfl rfl rfl ?_ ?_ hpayload
    · rw [hoperation]
      exact fun h => (nomatch h)
    · exact fun hne => absurd hoperation hne
    · exact fun _ => ⟨a.archive, hextras⟩
  · rintro e c' rfl
    exact hquiet e

end Transitions

section Metadata

variable {c c' : Core δ κ} {f : StateFile δ} {t : ℕ} {m : Mode} {w : World δ κ}

theorem stateFile_valid (n : Memory δ) (revision : ℕ) :
    stateFileRefusal S (n.stateFile S revision none) = none := by
  unfold stateFileRefusal
  rw [if_neg (fun hne => hne rfl), if_neg (fun hne => hne rfl)]
  rfl

theorem Idle.withMode (h : Idle S c f) {n : Memory δ} {g : StateFile δ} {k : Core δ κ}
    (hactive : n.active = c.memory.active)
    (hidentity : n.state.activeExperimentId = c.memory.state.activeExperimentId)
    (hg : g.activeExperimentId = n.state.activeExperimentId)
    (hvalid : stateFileRefusal S g = none) (hdisk : k.disk = { c.disk with state := some g })
    (hmemory : k.memory = n)
    (hstate : k.modeWriteFailed = false → loadedMemory g k.memory = k.memory) :
    Idle S k g := by
  have hsame : g.activeExperimentId = f.activeExperimentId :=
    hg.trans (hidentity.trans h.identity)
  refine ⟨?_, ?_, ?_, ?_, hstate⟩
  · rw [hdisk]
    exact h.journal
  · rw [hdisk]
    exact h.settled.withState hsame hvalid
  · have hagrees := h.active
    unfold ActiveAgrees Memory.visible Disk.activeRecord at hagrees ⊢
    rw [hsame, hdisk, hmemory, hactive]
    exact hagrees
  · rw [hmemory]
    exact hg.symm

theorem setAppMode_wp (hready : w.ready = true) (hfree : Free t w) (raw : String) :
    wp ((discipline S).contract t) true (setAppMode S t raw) (fun _ w' => Free t w') w := by
  refine serializedLifecycleMutation_wp hready hfree ?_
  intro c f hr hidle
  have hquiet : ∀ e : Failure, Quiet S c := fun _ => hidle.quiet
  refine Locked.ofExceptThen ?_ fun e _ => hquiet e
  intro next _
  refine Locked.readThen ?_
  intro w hw
  rw [hw.memory]
  by_cases hactive : next = .debug ∧ c.memory.active.isSome
  · rw [if_pos hactive]
    exact Locked.raise (hquiet .os)
  rw [if_neg hactive]
  by_cases hsame : next = c.memory.state.appMode
  · rw [if_pos hsame]
    exact Locked.ret hidle.quiet
  rw [if_neg hsame]
  refine Locked.rememberThen (.inl rfl) ?_
  generalize hn : ({ c.memory with state := ⟨next, c.memory.state.activeExperimentId⟩ } :
    Memory δ) = n
  have hnactive : n.active = c.memory.active := by rw [← hn]
  have hnidentity : n.state.activeExperimentId = c.memory.state.activeExperimentId := by
    rw [← hn]
  have hfailed : ∀ c' : Core δ κ, c'.modeWriteFailed = true → c'.memory = n →
      c'.disk = c.disk → Quiet S c' := by
    intro c' hfailed hmemory hdisk
    refine (Idle.withMode hidle (g := f) hnactive hnidentity ?_ hidle.settled.valid ?_ hmemory
      ?_).quiet
    · exact (hnidentity.trans hidle.identity).symm
    · rw [hdisk, ← hidle.settled.state]
    · rw [hfailed]
      exact fun h => (nomatch h)
  have hinterrupted : ∀ c' : Core δ κ, c'.modeWriteFailed = true → c'.memory = n →
      c'.disk = { c.disk with state := some (n.stateFile S (n.stateRevision + 1) none) } →
        Quiet S c' := by
    intro c' hfailed hmemory hdisk
    refine (Idle.withMode hidle hnactive hnidentity rfl (stateFile_valid n _) hdisk hmemory
      ?_).quiet
    rw [hfailed]
    exact fun h => (nomatch h)
  have hwrite : Write S c.history c.disk
      { c.disk with state := some (n.stateFile S (n.stateRevision + 1) none) } :=
    .mode hidle.settled hidle.journal (hnidentity.trans hidle.identity) (stateFile_valid n _)
  refine Locked.attemptThen (R := fun r c' =>
    (r = .ok () ∧ Quiet S c') ∨
      ((∃ e, r = .error e) ∧ c'.memory = n ∧ (c'.disk = c.disk ∨
        c'.disk = { c.disk with state := some (n.stateFile S (n.stateRevision + 1) none) })))
    ?_ ?_
  · refine Locked.readThen ?_
    intro w₁ hw₁
    rw [hw₁.memory]
    refine Locked.seq (R := fun r c' =>
      (r = .ok () ∧ c' = (c.remember n).write
        { c.disk with state := some (n.stateFile S (n.stateRevision + 1) none) }) ∨
      ((∃ e, r = .error e) ∧ c'.memory = n ∧ (c'.disk = c.disk ∨
        c'.disk = { c.disk with state := some (n.stateFile S (n.stateRevision + 1) none) })))
      ?_ ?_ ?_
    · exact Locked.durable hwrite (.inl rfl) (.inr ⟨⟨_, rfl⟩, rfl, .inl rfl⟩)
        (.inr ⟨⟨_, rfl⟩, rfl, .inr rfl⟩) (.inl ⟨rfl, rfl⟩)
    · rintro _ c' (⟨_, rfl⟩ | ⟨⟨e, he⟩, _⟩)
      · refine Locked.remember (.inl rfl) (.inl ⟨rfl, ?_⟩)
        exact (Idle.withMode (k := Core.remember _ _) hidle
          (g := n.stateFile S (n.stateRevision + 1) none)
          (n := { n with stateRevision := n.stateRevision + 1, lastTransitionReceipt := none })
          hnactive hnidentity rfl (stateFile_valid n _) rfl rfl fun _ => rfl).quiet
      · cases he
    · rintro e c' (⟨he, _⟩ | ⟨_, hrest⟩)
      · cases he
      · exact .inr ⟨⟨e, rfl⟩, hrest⟩
  · rintro r c' (⟨rfl, hq⟩ | ⟨⟨e, rfl⟩, hmemory, hdisk⟩)
    · exact Locked.ret hq
    · refine Locked.seq (R := fun _ c'' => Quiet S c'') ?_ ?_ ?_
      · refine Locked.update { c' with modeWriteFailed := true } ?_ (.inl rfl) id id id ?_
        · rintro w rfl
          rfl
        · rcases hdisk with hdisk | hdisk
          · exact hfailed _ rfl hmemory hdisk
          · exact hinterrupted _ rfl hmemory hdisk
      · intro _ c'' hq
        exact Locked.raise hq
      · intro e' c'' hq
        exact hq

omit [DecidableEq δ] in
theorem experiments_setMetadata {d : Disk δ κ} {id : String} {p p' : Metadata κ}
    (hp : d.metadata id = some p) (ha : Amends p p') :
    (fun other => ((d.setMetadata id p').metadata other).bind Metadata.experiment) =
      fun other => (d.metadata other).bind Metadata.experiment := by
  funext other
  by_cases he : other = id
  · subst he
    change ((if other = other then some p' else d.metadata other).bind Metadata.experiment) = _
    rw [if_pos rfl, hp]
    exact ha.experiment
  · change ((if other = id then some p' else d.metadata other).bind Metadata.experiment) = _
    rw [if_neg he]

theorem Idle.amend (h : Idle S c f) {id : String} {p p' : Metadata κ}
    (hp : c.disk.metadata id = some p) (ha : Amends p p')
    (hdisk : c'.disk = c.disk.setMetadata id p') (hmemory : c'.memory = c.memory)
    (hfailed : c'.modeWriteFailed = c.modeWriteFailed) : Idle S c' f := by
  have hexperiments : (fun id => (c'.disk.metadata id).bind Metadata.experiment) =
      fun id => (c.disk.metadata id).bind Metadata.experiment := by
    rw [hdisk]
    exact experiments_setMetadata hp ha
  refine ⟨?_, ?_, ?_, ?_, ?_⟩
  · rw [hdisk]
    exact h.journal
  · rw [hdisk]
    exact h.settled.amend hp ha
  · have hagrees := h.active
    unfold ActiveAgrees Memory.visible Disk.activeRecord at hagrees ⊢
    rw [hmemory]
    rw [hagrees]
    exact congrArg f.activeExperimentId.bind hexperiments.symm
  · rw [hmemory]
    exact h.identity
  · rw [hfailed, hmemory]
    exact h.state

/-- A manager after an amendment, or after it has failed. -/
def Amended (c : Core δ κ) (d : Disk δ κ) (r : Except Failure Unit) (c' : Core δ κ) : Prop :=
  (r = .ok () ∧ c' = c.write d) ∨ ((∃ e, r = .error e) ∧ Quiet S c')

theorem amend_locked (h : Idle S c f) {i : String} {p p' : Metadata κ}
    {g : Disk δ κ → Disk δ κ} (hg : g c.disk = c.disk.setMetadata i p')
    (hp : c.disk.metadata i = some p) (ha : Amends p p') :
    Locked S t .admitted (Op.durable g)
      (Amended (S := S) c (c.disk.setMetadata i p')) c := by
  have hidle : Idle S (c.write (g c.disk)) f := h.amend hp ha hg rfl rfl
  have hwrite : Write S c.history c.disk (g c.disk) := by
    rw [hg]
    exact .amend h.settled h.journal hp ha
  exact Locked.durable hwrite (.inl rfl) (.inr ⟨⟨_, rfl⟩, h.quiet⟩)
    (.inr ⟨⟨_, rfl⟩, hidle.quiet⟩) (.inl ⟨rfl, congrArg c.write hg⟩)

theorem note_locked (h : Idle S c f) {n : Note κ} (hn : n.In c.disk) :
    Locked S t m (note n) (fun _ c' => Quiet S c') c := by
  refine Locked.update { c with recorded := n :: c.recorded } ?_ (.inr (.inr (.inr rfl)))
    (fun hc => hc) ?_ (fun hr => hr) ?_
  · rintro w rfl
    rfl
  · intro hnoted n' hn'
    rcases List.mem_cons.mp hn' with rfl | hold
    · exact ⟨_, List.mem_cons_self, hn⟩
    · exact hnoted n' hold
  · refine Idle.quiet (f := f) ?_
    exact ⟨h.journal, h.settled, h.active, h.identity, h.state⟩

theorem note_then (h : Idle S c f) {i : String} {p p' : Metadata κ} {n : Note κ}
    {op : Op δ κ Unit} (hop : Locked S t m op (Amended (S := S) c (c.disk.setMetadata i p')) c)
    (hp : c.disk.metadata i = some p) (ha : Amends p p')
    (hn : n.In (c.disk.setMetadata i p')) :
    Locked S t m
      (do
        op
        note n)
      (fun _ c' => Quiet S c') c := by
  have hidle : Idle S (c.write (c.disk.setMetadata i p')) f := h.amend hp ha rfl rfl rfl
  refine Locked.seq hop ?_ ?_
  · rintro _ c' (⟨_, rfl⟩ | ⟨⟨e, he⟩, _⟩)
    · exact note_locked hidle hn
    · cases he
  · rintro e c' (⟨he, _⟩ | ⟨_, hq⟩)
    · cases he
    · exact hq

theorem attachRunRecord_wp (hready : w.ready = true) (hfree : Free t w) (a : RunArguments κ) :
    wp ((discipline S).contract t) true (attachRunRecord S t a) (fun _ w' => Free t w') w := by
  refine serializedLifecycleMutation_wp hready hfree ?_
  intro c f hr hidle
  have hquiet : ∀ e : Failure, Quiet S c := fun _ => hidle.quiet
  refine Locked.readThen ?_
  intro w hw
  rw [hw.memory, hw.disk]
  by_cases hmode : c.memory.state.appMode ≠ .experiment
  · rw [if_pos hmode]
    exact Locked.ret hidle.quiet
  rw [if_neg hmode]
  cases hsome : c.memory.active with
  | none => exact Locked.ret hidle.quiet
  | some active₀ =>
      dsimp only
      refine Locked.ofExceptThen ?_ fun e _ => hquiet e
      intro active hactive
      refine Locked.ofExceptThen ?_ fun e _ => hquiet e
      intro started _
      cases started with
      | none => exact Locked.raise (hquiet .os)
      | some startedAt =>
          refine Locked.ofExceptThen ?_ fun e _ => hquiet e
          intro finishedAt _
          by_cases htime : finishedAt.any (· < startedAt) = true
          · rw [if_pos htime]
            exact Locked.raise (hquiet .os)
          rw [if_neg htime]
          refine Locked.ofExceptThen ?_ fun e _ => hquiet e
          intro record _
          obtain ⟨_, _, ⟨p, hp, hexperiment⟩, _⟩ := hidle.active_mem (requireActive_ok hactive)
          have hread : c.disk.readMetadata active.experimentId = p := by
            unfold Disk.readMetadata
            rw [hp]
            rfl
          have hdocument : Metadata.rewritten p active
              { runRecords := some (withRecord record p.runRecords) } =
                { p with runRecords := withRecord record p.runRecords } := by
            unfold Metadata.rewritten
            rw [← hexperiment]
            rfl
          rw [hread]
          refine note_then hidle ?_ hp (.run record) ?_
          · refine Locked.ofExceptThen ?_ fun e _ => .inr ⟨⟨e, rfl⟩, hquiet e⟩
            intro template _
            refine Locked.readThen ?_
            intro w₁ hw₁
            rw [hw₁.disk, hread, hdocument]
            exact amend_locked hidle rfl hp (.run record)
          · change record ∈ ((c.disk.setMetadata active.experimentId _).readMetadata _).runRecords
            rw [Disk.readMetadata_setMetadata]
            exact mem_withRecord record p.runRecords

theorem attachCompositionPhoto_wp (hready : w.ready = true) (hfree : Free t w)
    (a : PhotoArguments κ) :
    wp ((discipline S).contract t) true (attachCompositionPhoto S t a)
      (fun _ w' => Free t w') w := by
  refine serializedLifecycleMutation_wp hready hfree ?_
  intro c f hr hidle
  have hquiet : ∀ e : Failure, Quiet S c := fun _ => hidle.quiet
  refine Locked.readThen ?_
  intro w hw
  rw [hw.disk]
  cases hp : c.disk.metadata a.experimentId with
  | none => exact Locked.raise (hquiet .os)
  | some p =>
      dsimp only
      by_cases hreadable : a.readable = true
      · rw [if_pos hreadable]
        refine Locked.seq (R := fun _ c' => c' = c) (Locked.sideEffect rfl rfl) ?_ ?_
        · rintro _ c' rfl
          refine Locked.seq (R := fun _ c'' => c'' = c') (Locked.sideEffect rfl rfl) ?_ ?_
          · rintro _ c'' rfl
            refine note_then hidle (amend_locked hidle rfl hp (.photo a.entry)) hp
              (.photo a.entry) ?_
            change a.entry ∈ ((c''.disk.setMetadata a.experimentId _).readMetadata _).artifactIndex
            rw [Disk.readMetadata_setMetadata]
            exact List.mem_append_right _ (List.mem_singleton.mpr rfl)
          · rintro e c'' rfl
            exact hquiet e
        · rintro e c' rfl
          exact hquiet e
      · rw [if_neg hreadable]
        exact Locked.raise (hquiet .os)

theorem advancePhaseLocked_locked (hidle : Idle S c f)
    (phase operator expectedExperimentId : String) (now : Timestamp) :
    Locked S t (.advancing expectedExperimentId)
      (advancePhaseLocked t phase operator expectedExperimentId now)
      (fun _ c' => Quiet S c') c := by
  have hquiet : ∀ e : Failure, Quiet S c := fun _ => hidle.quiet
  refine Locked.readThen ?_
  intro w hw
  rw [hw.memory, hw.disk]
  cases hactive : c.memory.active with
  | none => exact Locked.raise (hquiet .os)
  | some active =>
      dsimp only
      by_cases hid : expectedExperimentId ≠ active.experimentId
      · rw [if_pos hid]
        exact Locked.raise (hquiet .os)
      rw [if_neg hid]
      obtain rfl := not_not.mp hid
      by_cases hphase : phase ∉ experimentPhases
      · rw [if_pos hphase]
        exact Locked.raise (hquiet .os)
      rw [if_neg hphase]
      obtain ⟨_, _, ⟨p, hp, _⟩, _⟩ := hidle.active_mem hactive
      have hread : c.disk.readMetadata active.experimentId = p := by
        unfold Disk.readMetadata
        rw [hp]
        rfl
      have hamends : Amends p
          ((c.disk.readMetadata active.experimentId).advance ⟨phase, now, none, operator⟩) := by
        rw [hread]
        exact .phase phase operator now
      have hnext : Idle S (c.write (c.disk.setMetadata active.experimentId
          ((c.disk.readMetadata active.experimentId).advance ⟨phase, now, none, operator⟩))) f :=
        hidle.amend hp hamends rfl rfl rfl
      refine note_then hidle ?_ hp hamends ?_
      · refine Locked.writePhase ?_ (.amend hidle.settled hidle.journal hp hamends)
          (.inr ⟨⟨_, rfl⟩, hidle.quiet⟩) (.inr ⟨⟨_, rfl⟩, hnext.quiet⟩) (.inl ⟨rfl, rfl⟩)
        rintro w rfl
        rfl
      · change (⟨phase, now, none, operator⟩ : PhaseEntry) ∈
          ((c.disk.setMetadata active.experimentId _).readMetadata _).phases
        rw [Disk.readMetadata_setMetadata]
        exact List.mem_append_right _ (List.mem_singleton.mpr rfl)

theorem advancePhase_wp (hready : w.ready = true) (hfree : Free t w)
    (phase operator expectedExperimentId : String) (now : Timestamp) :
    wp ((discipline S).contract t) true
      (advancePhase S t phase operator expectedExperimentId now) (fun _ w' => Free t w') w := by
  refine serializedLifecycleMutation_wp hready hfree ?_
  intro c f hr hidle
  have hquiet : ∀ e : Failure, Quiet S c := fun _ => hidle.quiet
  by_cases hempty : expectedExperimentId = ""
  · rw [if_pos hempty]
    exact Locked.raise (hquiet .os)
  rw [if_neg hempty]
  refine Locked.readThen ?_
  intro w _
  by_cases hactive : w.memory.active.isNone = true
  · rw [if_pos hactive]
    exact Locked.raise (hquiet .os)
  rw [if_neg hactive]
  by_cases hid : w.activeExperimentId ≠ some expectedExperimentId
  · rw [if_pos hid]
    exact Locked.raise (hquiet .os)
  rw [if_neg hid]
  exact Locked.reservation hr
    (advancePhaseLocked_locked hidle phase operator expectedExperimentId now)
    (fun _ _ hq => hq) (fun _ _ _ hq => hq) hquiet

theorem resolveOperatorLogScope_wp (hready : w.ready = true) (hfree : Free t w)
    (expectedExperimentId : Option String) (unbound : Bool) :
    wp ((discipline S).contract t) true
      (resolveOperatorLogScope S t expectedExperimentId unbound) (fun _ w' => Free t w') w := by
  refine serializedLifecycle_wp hready hfree ?_
  intro c f hr hidle
  refine Locked.readThen ?_
  intro w _
  split
  · split
    · exact Locked.raise hidle.quiet
    · exact Locked.ret hidle.quiet
  · split
    · exact Locked.raise hidle.quiet
    · split
      · exact Locked.raise hidle.quiet
      · exact Locked.ret hidle.quiet

end Metadata

section Runs

variable {t : ℕ} {w : World δ κ}

theorem construct_wp (hinv : Inv S w) (hnone : w.lifecycleLock = none)
    (hstarted : w.started = true) (hready : w.ready = false) (hfree : Free t w)
    (incarnation : String) :
    wp ((discipline S).contract t) true (construct S t incarnation)
      (fun r w' => Free t w' ∧ Inv S w' ∧ (r = .ok () →
        (∃ f, Idle S w'.core f) ∧ Settles S w.history w.disk w'.disk)) w :=
  underLifecycle_wp hinv hnone hstarted hfree (construct_locked hready incarnation)

omit [DecidableEq δ] in
theorem steady_ready (t : ℕ) :
    Steady t (fun w : World δ κ => w.lifecycleLock ≠ some t ∧ w.ready = true) where
  rely _ _ h hr := ⟨fun ht => h.1 (hr.lifecycle.mp ht), hr.ready h.2⟩
  same _ _ h hcore hlock := ⟨hlock ▸ h.1, (congrArg Core.ready hcore).trans h.2⟩

theorem Has.done {P : World δ κ → Prop} (hP : ∀ w, P w → w.lifecycleLock ≠ some t)
    (h : Has S t P .free w) : Free t w := ⟨hP w h.base, h.mode.1, h.mode.2⟩

theorem holdReservation_wp (hinv : Inv S w) (hready : w.ready = true) (hfree : Free t w)
    (id : String) :
    wp ((discipline S).contract t) true (holdReservation t id) (fun _ w' => Free t w') w := by
  have hP := steady_ready (δ := δ) (κ := κ) t
  have hstart : Has S t (fun w => w.lifecycleLock ≠ some t ∧ w.ready = true) .free w :=
    ⟨hinv, ⟨hfree.lifecycle, hready⟩, hfree.mutation, hfree.holder⟩
  by_cases hempty : id = ""
  · unfold holdReservation experimentCas
    rw [if_pos hempty]
    exact hfree
  unfold holdReservation experimentCas
  rw [if_neg hempty]
  refine wp_seq (enterCas_wp hP (fun _ h => h.2) id hstart) ?_ ?_
  · intro _ w₁ h₁
    have h₁' : Has S t (fun w => w.lifecycleLock ≠ some t ∧ w.ready = true)
      (.reserving id) w₁ := h₁
    refine wp_attemptThen (wp_mono (Q := fun _ w' => Has S t
      (fun w => w.lifecycleLock ≠ some t ∧ w.ready = true) (.reserving id) w') ?_ ?_)
    · refine wp_seq (R := fun _ w' => Has S t
        (fun w => w.lifecycleLock ≠ some t ∧ w.ready = true) (.reserving id) w') ?_ ?_ ?_
      · refine wp_seq (assertExperimentCas_wp hP id h₁') ?_ fun _ _ h => h
        intro _ w₂ h₂
        refine ⟨⟨h₂.mode.2.1, h₂.mode.2.2⟩, ?_⟩
        intro w₃ r hrely hinv₃ _ _
        have h₃ : Has S t (fun w => w.lifecycleLock ≠ some t ∧ w.ready = true)
            (.reserving id) w₃ := ⟨hinv₃, hP.rely _ _ h₂.base hrely, h₂.mode.rely hrely⟩
        obtain ⟨answer, _⟩ := r
        cases answer <;> exact h₃
      · intro _ w₂ h₂
        exact wp_seq (assertExperimentCas_wp hP id h₂) (fun _ _ h => h) fun _ _ h => h
      · exact fun _ _ h => h
    · intro r w₂ h₂
      refine wp_seq (exitCas_wp hP h₂) ?_ ?_
      · intro _ w₃ h₃
        rw [wp_ofExcept]
        exact Has.done (fun _ h => h.1) h₃
      · intro e w₃ h₃
        exact Has.done (fun _ h => h.1) h₃
  · intro e w₁ h₁
    have h₁' : Has S t (fun w => w.lifecycleLock ≠ some t ∧ w.ready = true) .free w₁ := h₁
    exact h₁'.done fun _ h => h.1

variable (S)

theorem kept : (discipline S).Kept := by
  intro call w w' program t hlaunch hinv hfree
  have hinv' : Inv S w' := (discipline S).launch_inv call w w' program hlaunch hinv
  obtain ⟨rfl, hcase⟩ := launch_cases hlaunch
  rcases hcase with ⟨rfl, hnot, incarnation, rfl⟩ | ⟨rfl, hready, hcall⟩
  · obtain ⟨hnone, hunready⟩ := hinv.unstarted hnot
    exact wp_mono (construct_wp hinv' hnone rfl hunready hfree incarnation) fun _ _ h => h.1
  · cases call with
    | construct incarnation => exact absurd rfl (hcall incarnation)
    | setAppMode raw => exact setAppMode_wp hready hfree raw
    | create a => exact createExperiment_wp hready hfree a
    | update a => exact updateExperiment_wp hready hfree a
    | finalize a => exact finalizeExperiment_wp hready hfree a
    | abort a => exact finalizeExperiment_wp hready hfree _
    | attachRunRecord a => exact attachRunRecord_wp hready hfree a
    | attachCompositionPhoto a => exact attachCompositionPhoto_wp hready hfree a
    | advancePhase phase operator id now =>
        exact advancePhase_wp hready hfree phase operator id now
    | resolveScope id unbound => exact resolveOperatorLogScope_wp hready hfree id unbound
    | hold id => exact holdReservation_wp hinv' hready hfree id

variable {S}

theorem offline_inv {d : Disk δ κ} {h : List (Disk δ κ)} {recorded : List (Note κ)}
    (hchronicle : Chronicle S (d :: h)) (hnoted : ∀ n ∈ recorded, ∃ e ∈ d :: h, n.In e) :
    Inv S (World.offline d h recorded) where
  chronicle := hchronicle
  noted := hnoted
  quiet _ hr := by cases hr
  unready _ := rfl
  unstarted _ := ⟨rfl, rfl⟩
  reserved _ _ hid := by cases hid
  held := .inl ⟨rfl, rfl⟩

omit [DecidableEq δ] in
theorem offline_free {d : Disk δ κ} {h : List (Disk δ κ)} {recorded : List (Note κ)} (t : ℕ) :
    Free t (World.offline d h recorded) :=
  ⟨fun h => (nomatch h), fun h => (nomatch h), fun h => (nomatch h)⟩

theorem sound_of_offline {d : Disk δ κ} {h : List (Disk δ κ)} {recorded : List (Note κ)}
    (hinv : Inv S (World.offline d h recorded)) {p : Pool (World δ κ) Wait Answer Failure}
    (hp : (manager S).Reachable (World.offline d h recorded) p) : (discipline S).Sound p :=
  (discipline S).reachable_sound (kept S) hinv (fun t => offline_free t) hp

theorem Lives.offline (hw : Lives S w) :
    ∃ d h recorded, w = World.offline d h recorded ∧ Inv S (World.offline d h recorded) := by
  induction hw with
  | empty =>
      refine ⟨{}, [], [], rfl, offline_inv .empty ?_⟩
      intro n hn
      cases hn
  | @restart w p _ hp ih =>
      obtain ⟨d, h, recorded, rfl, hinv⟩ := ih
      have hsound := sound_of_offline hinv hp
      exact ⟨_, _, _, rfl, offline_inv hsound.inv.chronicle hsound.inv.noted⟩

theorem Lives.sound (hw : Lives S w) {p : Pool (World δ κ) Wait Answer Failure}
    (hp : (manager S).Reachable w p) : (discipline S).Sound p := by
  obtain ⟨d, h, recorded, rfl, hinv⟩ := hw.offline
  exact sound_of_offline hinv hp

theorem Lives.inv (hw : Lives S w) {p : Pool (World δ κ) Wait Answer Failure}
    (hp : (manager S).Reachable w p) : Inv S p.state := (hw.sound hp).inv

end Runs

end Experiments
end CryoDaq
