import CryoDaq.Experiments.Transitions

/-!
# The metadata of an experiment grows

Photos, run records and phases are recorded in one document, which four methods
read and rewrite as a whole.

**What persists.**  A phase stays in the history and may be closed.  A run record
stays under its run and its type, with the value that was attached last; the
archive of a finalization rewrites the paths of its artifacts.  A photo stays in
the artifact index until a finalization replaces the index.

**Persistence.**  `Chronicle.persists` turns what every write preserves into what
every later directory has.
-/

namespace CryoDaq
namespace Experiments

open Async Op

variable {δ κ : Type}

/-! ## What has been recorded -/

/-- Phases that follow one another; the last one is open. -/
def Contiguous : List PhaseEntry → Prop
  | [] => True
  | [p] => p.endedAt = none
  | p :: q :: rest => p.endedAt = some q.startedAt ∧ Contiguous (q :: rest)

/-- The same entry, which may have been closed since. -/
def SamePhase (entry later : PhaseEntry) : Prop :=
  later = { entry with endedAt := later.endedAt } ∧ (entry.endedAt.isSome → later = entry)

/-- The same record, with the paths that an archive has given it. -/
def SameValue (record later : RunRecord κ) : Prop :=
  later.payload = { record.payload with artifactPaths := later.payload.artifactPaths }

def Disk.attach (d : Disk δ κ) (id : String) (record : RunRecord κ) : Disk δ κ :=
  d.setMetadata id
    { d.readMetadata id with runRecords := withRecord record (d.readMetadata id).runRecords }

/-- The record that was attached last for its run; contents, the latest first. -/
inductive LastRun (id : String) : List (Disk δ κ) → RunRecord κ → Prop
  | attached (d : Disk δ κ) (h : List (Disk δ κ)) (record : RunRecord κ) :
      LastRun id (d.attach id record :: d :: h) record
  | later {d d' : Disk δ κ} {h : List (Disk δ κ)} {record : RunRecord κ} :
      LastRun id (d :: h) record → (∀ r, sameRun record r = true → d' ≠ d.attach id r) →
        LastRun id (d' :: d :: h) record

/-- The finalization of an experiment has been journaled. -/
def Finalizing (d : Disk δ κ) (id : String) : Prop :=
  ∃ j info, d.journal = some j ∧ j.request.operation = .finalize ∧
    j.request.experiment.fromPayload = .ok info ∧ info.experimentId = id

/-- What has been recorded is still in the metadata. -/
def Note.Present (d : Disk δ κ) (h : List (Disk δ κ)) : Note κ → Prop
  | .photo id entry => entry ∈ (d.readMetadata id).artifactIndex
  | .phase id entry => ∃ later ∈ (d.readMetadata id).phases, SamePhase entry later
  | .run id record =>
      ∃ r ∈ (d.readMetadata id).runRecords, sameRun record r = true ∧
        ∃ last, LastRun id (d :: h) last ∧ SameValue last r ∧
          ((∀ e ∈ d :: h, ¬ Finalizing e id) → r = last)

/-- A finalization is only journaled while the artifact index is empty. -/
def Unphotographed (contents : List (Disk δ κ)) : Prop :=
  ∀ later d d' earlier j info, contents = later ++ d' :: d :: earlier → d.journal = none →
    d'.journal = some j → j.request.operation = .finalize →
      j.request.experiment.fromPayload = .ok info →
        (d.readMetadata info.experimentId).artifactIndex = []

section Sections

theorem SamePhase.refl (e : PhaseEntry) : SamePhase e e := ⟨rfl, fun _ => rfl⟩

theorem SamePhase.trans {e e' e'' : PhaseEntry} (h : SamePhase e e') (h' : SamePhase e' e'') :
    SamePhase e e'' := by
  refine ⟨?_, ?_⟩
  · rw [h'.1, h.1]
  · intro hsome
    have hsame := h.2 hsome
    rw [hsame] at h'
    exact h'.2 hsome

theorem closeLast_keeps (now : Timestamp) {ps : List PhaseEntry} {e : PhaseEntry} (he : e ∈ ps) :
    ∃ e' ∈ closeLast now ps, SamePhase e e' := by
  induction ps using closeLast.induct with
  | case1 => cases he
  | case2 p =>
      obtain rfl := List.mem_singleton.mp he
      refine ⟨_, List.mem_singleton.mpr rfl, ?_⟩
      cases hended : e.endedAt with
      | none => exact ⟨rfl, fun hsome => by rw [hended] at hsome; cases hsome⟩
      | some t => exact SamePhase.refl e
  | case3 p rest hrest ih =>
      rw [closeLast]
      · rcases List.mem_cons.mp he with rfl | hmem
        · exact ⟨e, List.mem_cons_self, SamePhase.refl e⟩
        · obtain ⟨e', he', hsame⟩ := ih hmem
          exact ⟨e', List.mem_cons_of_mem _ he', hsame⟩
      · exact hrest

theorem Contiguous.advance {ps : List PhaseEntry} (h : Contiguous ps) (now : Timestamp)
    (phase operator : String) :
    Contiguous (closeLast now ps ++ [⟨phase, now, none, operator⟩]) := by
  induction ps with
  | nil => rfl
  | cons p rest ih =>
      cases rest with
      | nil =>
          have hopen : p.endedAt = none := h
          refine ⟨?_, rfl⟩
          rw [hopen]
          rfl
      | cons q rest =>
          have hnext := ih h.2
          cases rest with
          | nil =>
              refine ⟨?_, hnext⟩
              rw [h.1]
              split <;> rfl
          | cons r rest => exact ⟨h.1, hnext⟩

theorem sameRun_iff {r s : RunRecord κ} :
    sameRun r s = true ↔
      s.payload.sourceRunId = r.payload.sourceRunId ∧ s.payload.runType = r.payload.runType := by
  unfold sameRun
  rw [Bool.and_eq_true, decide_eq_true_iff, decide_eq_true_iff]

theorem sameRun_refl (r : RunRecord κ) : sameRun r r = true := sameRun_iff.mpr ⟨rfl, rfl⟩

theorem sameRun_comm {r s : RunRecord κ} (h : sameRun r s = true) : sameRun s r = true := by
  obtain ⟨hid, htype⟩ := sameRun_iff.mp h
  exact sameRun_iff.mpr ⟨hid.symm, htype.symm⟩

theorem sameRun_trans {r s u : RunRecord κ} (h : sameRun r s = true) (h' : sameRun s u = true) :
    sameRun r u = true := by
  obtain ⟨hid, htype⟩ := sameRun_iff.mp h
  obtain ⟨hid', htype'⟩ := sameRun_iff.mp h'
  exact sameRun_iff.mpr ⟨hid'.trans hid, htype'.trans htype⟩

theorem SameValue.refl (r : RunRecord κ) : SameValue r r := rfl

theorem SameValue.trans {r s u : RunRecord κ} (h : SameValue r s) (h' : SameValue s u) :
    SameValue r u := by
  unfold SameValue at h h' ⊢
  rw [h', h]

theorem SameValue.sameRun {r s : RunRecord κ} (h : SameValue r s) : sameRun r s = true := by
  rw [sameRun_iff, h]
  exact ⟨rfl, rfl⟩

theorem sameValue_withPaths (r : RunRecord κ) (paths : List String) :
    SameValue r (r.withPaths paths) := by
  unfold RunRecord.withPaths
  cases h : RunRecord.ofPayload { r.payload with artifactPaths := paths } with
  | error e => exact SameValue.refl r
  | ok record =>
      obtain ⟨q, hq, hrecord⟩ : ∃ q, ({ r.payload with artifactPaths := paths } :
          RunPayload κ).fromPayload = .ok q ∧ record.payload = q := by
        unfold RunRecord.ofPayload at h
        split at h
        · cases h
        · rename_i q hq
          obtain rfl := Except.ok.inj h
          exact ⟨q, hq, rfl⟩
      have hclean : r.payload.cleaned = r.payload := by
        have hpayload := r.clean
        unfold RunPayload.fromPayload at hpayload
        split at hpayload
        · cases hpayload
        · split at hpayload
          · cases hpayload
          · exact Except.ok.inj hpayload
      have hcleaned : q = ({ r.payload with artifactPaths := paths } : RunPayload κ).cleaned := by
        unfold RunPayload.fromPayload at hq
        split at hq
        · cases hq
        · split at hq
          · cases hq
          · exact (Except.ok.inj hq).symm
      change record.payload = { r.payload with artifactPaths := record.payload.artifactPaths }
      rw [hrecord, hcleaned]
      conv_rhs => rw [← hclean]
      rfl

theorem withRecord_cases {r s : RunRecord κ} {records : List (RunRecord κ)}
    (h : s ∈ withRecord r records) : s = r ∨ (s ∈ records ∧ sameRun r s ≠ true) := by
  unfold withRecord at h
  split at h
  · obtain ⟨s₀, hs₀, rfl⟩ := List.mem_map.mp h
    by_cases hsame : sameRun r s₀ = true
    · exact .inl (if_pos hsame)
    · rw [if_neg hsame]
      exact .inr ⟨hs₀, hsame⟩
  · rename_i hany
    rcases List.mem_append.mp h with hold | hnew
    · refine .inr ⟨hold, fun hsame => hany ?_⟩
      exact List.any_eq_true.mpr ⟨s, hold, hsame⟩
    · exact .inl (List.mem_singleton.mp hnew)

theorem withRecord_keeps (r : RunRecord κ) {s : RunRecord κ} {records : List (RunRecord κ)}
    (h : s ∈ records) : ∃ s' ∈ withRecord r records, sameRun s s' = true := by
  unfold withRecord
  split
  · by_cases hsame : sameRun r s = true
    · exact ⟨r, List.mem_map.mpr ⟨s, h, if_pos hsame⟩, sameRun_comm hsame⟩
    · exact ⟨s, List.mem_map.mpr ⟨s, h, if_neg hsame⟩, sameRun_refl s⟩
  · exact ⟨s, List.mem_append_left _ h, sameRun_refl s⟩

theorem mem_listRunRecords {d : Disk δ κ} {id : String} {r : RunRecord κ} :
    r ∈ listRunRecords d id ↔ r ∈ (d.readMetadata id).runRecords := by
  unfold listRunRecords
  exact List.mem_insertionSort _

end Sections

section Writes

variable {S : Setting δ κ} [DecidableEq δ] {d d' q : Disk δ κ} {h : List (Disk δ κ)}
variable {f : StateFile δ} {j : Journal δ κ} {info : ExperimentInfo} {rows : List ExperimentInfo}

/-- What a write does to the document of an experiment. -/
inductive Rewrite (S : Setting δ κ) (h : List (Disk δ κ)) (d d' : Disk δ κ) (id : String) : Prop
  | same : d'.readMetadata id = d.readMetadata id → Rewrite S h d d' id
  | amend {m : Metadata κ} :
      Amends (d.readMetadata id) m → d' = d.setMetadata id m → Rewrite S h d d' id
  | transition {q : Disk δ κ} {f : StateFile δ} {j : Journal δ κ} {info : ExperimentInfo}
      {rows : List ExperimentInfo} :
      lastQuiet h = some q → Applying S q f j info rows → d.journal = some j →
        info.experimentId = id → d.readMetadata id = q.readMetadata id →
          d'.readMetadata id = Metadata.rewritten (q.readMetadata id) info j.request.extras →
            Rewrite S h d d' id

omit [DecidableEq δ] in
theorem readMetadata_setMetadata_of_ne {m : Metadata κ} {id other : String} (hne : other ≠ id) :
    (d.setMetadata id m).readMetadata other = d.readMetadata other := by
  unfold Disk.readMetadata Disk.setMetadata
  exact congrArg (fun m : Option (Metadata κ) => m.getD {}) (if_neg hne)

omit [DecidableEq δ] in
theorem stage_metadata (S : Setting δ κ) (q : Disk δ κ) (j : Journal δ κ)
    (info : ExperimentInfo) (rows : List ExperimentInfo) (k : ℕ) :
    (stage S q j info rows k).metadata = q.metadata ∨
      (stage S q j info rows k).metadata = (q.setMetadata info.experimentId
        (Metadata.rewritten (q.readMetadata info.experimentId) info j.request.extras)).metadata := by
  rcases k with _ | _ | _ | k
  · exact .inl rfl
  · exact .inl rfl
  · exact .inr rfl
  · exact .inr rfl

omit [DecidableEq δ] in
theorem stage_metadata_late {k k' : ℕ} (hle : k ≤ k')
    (hk : (stage S q j info rows k).metadata = (q.setMetadata info.experimentId
      (Metadata.rewritten (q.readMetadata info.experimentId) info j.request.extras)).metadata) :
    (stage S q j info rows k').metadata = (stage S q j info rows k).metadata := by
  rcases k with _ | _ | _ | k
  · rcases k' with _ | _ | _ | k'
    · rfl
    · rfl
    · exact hk.symm
    · exact hk.symm
  · rcases k' with _ | _ | _ | k'
    · omega
    · rfl
    · exact hk.symm
    · exact hk.symm
  · rcases k' with _ | _ | _ | k'
    · omega
    · omega
    · rfl
    · rfl
  · rcases k' with _ | _ | _ | k'
    · omega
    · omega
    · omega
    · rfl

omit [DecidableEq δ] in
theorem readMetadata_congr {e : Disk δ κ} (hm : d.metadata = e.metadata) (id : String) :
    d.readMetadata id = e.readMetadata id := by
  unfold Disk.readMetadata
  rw [hm]

theorem Write.rewrite (hw : Write S h d d') (id : String) : Rewrite S h d d' id := by
  cases hw with
  | first _ => exact .same rfl
  | mode _ _ => exact .same rfl
  | @amend _ f other m m' _ _ hm hamends =>
      by_cases hid : id = other
      · subst hid
        have hread : d.readMetadata id = m := by
          unfold Disk.readMetadata
          rw [hm]
          rfl
        exact .amend (hread.symm ▸ hamends) rfl
      · exact .same (readMetadata_setMetadata_of_ne hid)
  | journal _ => exact .same rfl
  | @stage q f j info rows k k' hlast happlying hle _ =>
      by_cases hid : info.experimentId = id
      · rcases stage_metadata S q j info rows k with hk | hk
        · rcases stage_metadata S q j info rows k' with hk' | hk'
          · exact .same (readMetadata_congr (hk'.trans hk.symm) id)
          · refine .transition hlast happlying (stage_journal k) hid (readMetadata_congr hk id) ?_
            rw [readMetadata_congr hk' id, ← hid, Disk.readMetadata_setMetadata]
        · exact .same (readMetadata_congr (stage_metadata_late hle hk) id)
      · refine .same ?_
        have hkept (n) :
            (Experiments.stage S q j info rows n).readMetadata id = q.readMetadata id := by
          rcases stage_metadata S q j info rows n with hn | hn
          · exact readMetadata_congr hn id
          · rw [readMetadata_congr hn id]
            exact readMetadata_setMetadata_of_ne (Ne.symm hid)
        rw [hkept, hkept]
  | unlink _ _ => exact .same rfl

theorem Rewrite.phases {id : String} (hr : Rewrite S h d d' id) :
    (d'.readMetadata id).phases = (d.readMetadata id).phases ∨
      ∃ phase operator now, (d'.readMetadata id).phases =
        closeLast now (d.readMetadata id).phases ++ [⟨phase, now, none, operator⟩] := by
  cases hr with
  | same hsame => exact .inl (congrArg Metadata.phases hsame)
  | amend hamends hd =>
      rw [hd, Disk.readMetadata_setMetadata]
      cases hamends with
      | phase phase operator now => exact .inr ⟨phase, operator, now, rfl⟩
      | run record => exact .inl rfl
      | photo entry => exact .inl rfl
  | transition _ _ _ _ hq hd' =>
      refine .inl ?_
      rw [hd', hq]
      rfl

theorem Applying.runRecords (ha : Applying S q f j info rows) :
    ((j.request.operation ≠ .finalize ∧
        (Metadata.rewritten (q.readMetadata info.experimentId) info j.request.extras).runRecords =
          (q.readMetadata info.experimentId).runRecords) ∨
      (j.request.operation = .finalize ∧ ∃ a : Archive κ,
        (Metadata.rewritten (q.readMetadata info.experimentId) info j.request.extras).runRecords =
          (listRunRecords q info.experimentId).map fun r => r.withPaths (a.materialized r))) := by
  have htarget := ha.fits.target info ha.accepted.payload
  by_cases hf : j.request.operation = .finalize
  · obtain ⟨a, hextras⟩ := htarget.archived hf
    refine .inr ⟨hf, a, ?_⟩
    rw [hextras]
    rfl
  · refine .inl ⟨hf, ?_⟩
    rw [htarget.plain hf]
    rfl

end Writes

section Persistence

variable {S : Setting δ κ} [DecidableEq δ] {d d' d₀ : Disk δ κ} {h : List (Disk δ κ)}

theorem Chronicle.persists {P : Disk δ κ → Prop} (hc : Chronicle S (d :: h)) (hmem : d₀ ∈ d :: h)
    (hstep : ∀ later e e' earlier, d :: h = later ++ e' :: e :: earlier →
      Chronicle S (e :: earlier) → Write S earlier e e' → P e → P e')
    (hd : P d₀) : P d := by
  obtain ⟨later, earlier, hsplit⟩ := List.append_of_mem hmem
  induction later generalizing d h with
  | nil =>
      obtain ⟨rfl, rfl⟩ := List.cons.inj hsplit
      exact hd
  | cons _ later ih =>
      obtain ⟨rfl, hrest⟩ := List.cons.inj hsplit
      obtain ⟨e, rest, he⟩ : ∃ e rest, h = e :: rest := by
        rw [hrest]
        cases later with
        | nil => exact ⟨_, _, rfl⟩
        | cons e later => exact ⟨_, _, rfl⟩
      subst he
      have hc' : Chronicle S (e :: rest) := (show Chronicle S ([d] ++ e :: rest) from hc).earlier
      refine hstep [] e d rest rfl hc' hc.lastWrite (ih hc' ?_ ?_ hrest)
      · rw [hrest]
        exact List.mem_append_right _ List.mem_cons_self
      · intro later' e₁ e₁' earlier' hcontents
        exact hstep (d :: later') e₁ e₁' earlier' (congrArg (d :: ·) hcontents)

theorem Chronicle.oldest {contents : List (Disk δ κ)} (hc : Chronicle S contents) :
    ({} : Disk δ κ) ∈ contents := by
  induction hc with
  | empty => exact List.mem_singleton.mpr rfl
  | write _ _ ih => exact List.mem_cons_of_mem _ ih

theorem Chronicle.origin {q : Disk δ κ} {j : Journal δ κ} (hc : Chronicle S (d :: h))
    (hj : d.journal = some j) (hq : lastQuiet h = some q) :
    ∃ later d' earlier, d :: h = later ++ d' :: q :: earlier ∧ q.journal = none ∧
      d'.journal = some j := by
  generalize hcontents : d :: h = contents at hc
  induction hc generalizing d h with
  | empty =>
      obtain ⟨rfl, _⟩ := List.cons.inj hcontents
      cases hj
  | @write e e' rest hc hw ih =>
      obtain ⟨rfl, rfl⟩ := List.cons.inj hcontents
      cases hquiet : e.journal with
      | none =>
          rw [lastQuiet_cons_of_none hquiet] at hq
          obtain rfl := Option.some.inj hq
          exact ⟨[], d, rest, rfl, hquiet, hj⟩
      | some j₀ =>
          have hsame : e.journal = some j := by
            cases hw with
            | first hblank => exact absurd (hblank.journal.symm.trans hquiet) fun he => nomatch he
            | mode _ hnone => exact absurd (hnone.symm.trans hquiet) fun he => nomatch he
            | amend _ hnone => exact absurd (hnone.symm.trans hquiet) fun he => nomatch he
            | journal hfits => exact absurd (hfits.quiet.symm.trans hquiet) fun he => nomatch he
            | @stage q f j' info rows k k' _ _ _ _ =>
                rw [stage_journal] at hj ⊢
                exact hj
            | unlink _ _ => cases hj
          rw [lastQuiet_cons_of_some hsame] at hq
          obtain ⟨later, d', earlier, hsplit, hrest⟩ := ih hsame hq rfl
          exact ⟨d :: later, d', earlier, congrArg (d :: ·) hsplit, hrest⟩

theorem Chronicle.contiguous (hc : Chronicle S (d :: h)) (id : String) :
    Contiguous (d.readMetadata id).phases := by
  refine hc.persists (P := fun d => Contiguous (d.readMetadata id).phases) hc.oldest ?_ trivial
  intro later e e' earlier _ _ hw he
  rcases (hw.rewrite id).phases with hsame | ⟨phase, operator, now, hnew⟩
  · rw [hsame]
    exact he
  · rw [hnew]
    exact he.advance now phase operator

theorem Chronicle.keepsPhase (hc : Chronicle S (d :: h)) (hmem : d₀ ∈ d :: h) {id : String}
    {entry : PhaseEntry} (hentry : entry ∈ (d₀.readMetadata id).phases) :
    ∃ later ∈ (d.readMetadata id).phases, SamePhase entry later := by
  refine hc.persists (P := fun d => ∃ later ∈ (d.readMetadata id).phases, SamePhase entry later)
    hmem ?_ ⟨entry, hentry, SamePhase.refl entry⟩
  rintro _ e e' _ _ _ hw ⟨later, hlater, hsame⟩
  rcases (hw.rewrite id).phases with hphases | ⟨phase, operator, now, hphases⟩
  · rw [hphases]
    exact ⟨later, hlater, hsame⟩
  · rw [hphases]
    obtain ⟨closed, hclosed, hsame'⟩ := closeLast_keeps now hlater
    exact ⟨closed, List.mem_append_left _ hclosed, hsame.trans hsame'⟩

theorem Chronicle.keepsArtifact (hc : Chronicle S (d :: h)) (hphotos : Unphotographed (d :: h))
    (hmem : d₀ ∈ d :: h) {id : String} {entry : ArtifactEntry κ}
    (hentry : entry ∈ (d₀.readMetadata id).artifactIndex) :
    entry ∈ (d.readMetadata id).artifactIndex := by
  refine hc.persists (P := fun d => entry ∈ (d.readMetadata id).artifactIndex) hmem ?_ hentry
  intro later e e' earlier hcontents hc' hw he
  cases hw.rewrite id with
  | same hsame =>
      rw [hsame]
      exact he
  | amend hamends hd =>
      rw [hd, Disk.readMetadata_setMetadata]
      cases hamends with
      | phase phase operator now => exact he
      | run record => exact he
      | photo added => exact List.mem_append_left _ he
  | @transition q f j info rows hlast happlying hj hid hq hd' =>
      rw [hd']
      subst hid
      have htarget := happlying.fits.target info happlying.accepted.payload
      by_cases hf : j.request.operation = .finalize
      · obtain ⟨later', d', earlier', hsplit, hquiet, hj'⟩ := hc'.origin hj hlast
        have hempty : (q.readMetadata info.experimentId).artifactIndex = [] := by
          refine hphotos (later ++ e' :: later') q d' earlier' j info ?_ hquiet hj' hf
            happlying.accepted.payload
          rw [hcontents, hsplit, List.append_assoc]
          rfl
        rw [hq, hempty] at he
        cases he
      · rw [htarget.plain hf]
        rw [hq] at he
        exact he

theorem Chronicle.keepsRun (hc : Chronicle S (d :: h)) (hmem : d₀ ∈ d :: h) {id : String}
    {record : RunRecord κ} (hrecord : record ∈ (d₀.readMetadata id).runRecords) :
    ∃ r ∈ (d.readMetadata id).runRecords, sameRun record r = true := by
  refine hc.persists (P := fun d => ∃ r ∈ (d.readMetadata id).runRecords, sameRun record r = true)
    hmem ?_ ⟨record, hrecord, sameRun_refl record⟩
  rintro _ e e' _ _ _ hw ⟨r, hr, hsame⟩
  cases hw.rewrite id with
  | same hd =>
      rw [hd]
      exact ⟨r, hr, hsame⟩
  | amend hamends hd =>
      rw [hd, Disk.readMetadata_setMetadata]
      cases hamends with
      | phase phase operator now => exact ⟨r, hr, hsame⟩
      | photo entry => exact ⟨r, hr, hsame⟩
      | run added =>
          obtain ⟨r', hr', hsame'⟩ := withRecord_keeps added hr
          exact ⟨r', hr', sameRun_trans hsame hsame'⟩
  | @transition q f j info rows _ happlying _ hid hq hd' =>
      subst hid
      rw [hq] at hr
      rw [hd']
      rcases happlying.runRecords with ⟨_, hrecords⟩ | ⟨_, a, hrecords⟩
      · rw [hrecords]
        exact ⟨r, hr, hsame⟩
      · rw [hrecords]
        refine ⟨_, List.mem_map_of_mem (mem_listRunRecords.mpr hr), ?_⟩
        exact sameRun_trans hsame (sameValue_withPaths r _).sameRun

/-- Every record is the one that was attached last for its run, up to the paths that
the archive of a finalization gives it. -/
theorem Chronicle.lastRun (hc : Chronicle S (d :: h)) {id : String} {r : RunRecord κ}
    (hr : r ∈ (d.readMetadata id).runRecords) :
    ∃ last, LastRun id (d :: h) last ∧ SameValue last r ∧
      ((∀ e ∈ d :: h, ¬ Finalizing e id) → r = last) := by
  generalize hcontents : d :: h = contents at hc
  induction hc generalizing d h r with
  | empty =>
      obtain ⟨rfl, _⟩ := List.cons.inj hcontents
      cases hr
  | @write e e' rest hc hw ih =>
      obtain ⟨rfl, rfl⟩ := List.cons.inj hcontents
      by_cases hattached : ∃ record, sameRun r record = true ∧ d = e.attach id record
      · obtain ⟨record, hsame, rfl⟩ := hattached
        unfold Disk.attach at hr
        rw [Disk.readMetadata_setMetadata] at hr
        rcases withRecord_cases hr with rfl | ⟨_, hother⟩
        · exact ⟨r, .attached e rest r, SameValue.refl r, fun _ => rfl⟩
        · exact absurd (sameRun_comm hsame) hother
      · -- Nothing was attached for this run, so the record was there before.
        have hstays : ∀ r₀ ∈ (e.readMetadata id).runRecords, SameValue r₀ r →
            ((∀ u ∈ d :: e :: rest, ¬ Finalizing u id) → r = r₀) →
              ∃ last, LastRun id (d :: e :: rest) last ∧ SameValue last r ∧
                ((∀ u ∈ d :: e :: rest, ¬ Finalizing u id) → r = last) := by
          intro r₀ hr₀ hvalue hexact
          obtain ⟨last, hlast, hsame, hlastExact⟩ := ih hr₀ rfl
          refine ⟨last, .later hlast ?_, hsame.trans hvalue, ?_⟩
          · intro record hrecord hd
            refine hattached ⟨record, ?_, hd⟩
            exact sameRun_trans (sameRun_comm (hsame.trans hvalue).sameRun) hrecord
          · intro hnone
            exact (hexact hnone).trans
              (hlastExact fun u hu => hnone u (List.mem_cons_of_mem _ hu))
        cases hw.rewrite id with
        | same hd =>
            rw [hd] at hr
            exact hstays r hr (SameValue.refl r) fun _ => rfl
        | amend hamends hd =>
            subst hd
            rw [Disk.readMetadata_setMetadata] at hr
            cases hamends with
            | phase phase operator now => exact hstays r hr (SameValue.refl r) fun _ => rfl
            | photo entry => exact hstays r hr (SameValue.refl r) fun _ => rfl
            | run added =>
                rcases withRecord_cases hr with rfl | ⟨hold, _⟩
                · exact absurd ⟨r, sameRun_refl r, rfl⟩ hattached
                · exact hstays r hold (SameValue.refl r) fun _ => rfl
        | @transition q f j info rows _ happlying hj hid hq hd' =>
            subst hid
            rw [hd'] at hr
            rcases happlying.runRecords with ⟨_, hrecords⟩ | ⟨hf, a, hrecords⟩
            · rw [hrecords] at hr
              refine hstays r ?_ (SameValue.refl r) fun _ => rfl
              rw [hq]
              exact hr
            · rw [hrecords] at hr
              obtain ⟨r₀, hr₀, rfl⟩ := List.mem_map.mp hr
              refine hstays r₀ ?_ (sameValue_withPaths r₀ _) ?_
              · rw [hq]
                exact mem_listRunRecords.mp hr₀
              · intro hnone
                exact absurd ⟨j, info, hj, hf, happlying.accepted.payload, rfl⟩
                  (hnone e (List.mem_cons_of_mem _ List.mem_cons_self))

theorem Chronicle.present (hc : Chronicle S (d :: h)) (hphotos : Unphotographed (d :: h))
    (hmem : d₀ ∈ d :: h) {n : Note κ} (hn : n.In d₀) : n.Present d h := by
  cases n with
  | photo id entry => exact hc.keepsArtifact hphotos hmem hn
  | phase id entry => exact hc.keepsPhase hmem hn
  | run id record =>
      obtain ⟨r, hr, hsame⟩ := hc.keepsRun hmem hn
      exact ⟨r, hr, hsame, hc.lastRun hr⟩

end Persistence

section Runs

variable {S : Setting δ κ} [DecidableEq δ]

/-- As long as no finalization is journaled over an artifact index with entries, what
calls that returned have recorded is in the metadata of every later directory. -/
theorem metadata_grows {w : World δ κ} (hw : Lives S w) {p : Pool (World δ κ) Wait Answer Failure}
    (hp : (manager S).Reachable w p)
    (hphotos : Unphotographed (p.state.disk :: p.state.history)) :
    (∀ n ∈ p.state.recorded, n.Present p.state.disk p.state.history) ∧
      ∀ id, Contiguous (p.state.disk.readMetadata id).phases := by
  have hinv : Inv S p.state := hw.inv hp
  constructor
  · intro n hn
    obtain ⟨d₀, hmem, hin⟩ := hinv.noted n hn
    exact hinv.chronicle.present hphotos hmem hin
  · exact hinv.chronicle.contiguous

def Note.photoOf : Note κ → Option (String × ArtifactEntry κ)
  | .photo id entry => some (id, entry)
  | .run _ _ => none
  | .phase _ _ => none

def benchPhoto : PhotoArguments Unit where
  experimentId := "0123456789ab"
  readable := true
  filename := "1.jpg"
  path := "photos/1.jpg"
  summary := ()

/-- An archive with its table of measured values. -/
def measuredArchive : Archive Unit where
  materialized := fun r => r.payload.artifactPaths
  runArtifacts := fun _ => []
  generated := [⟨"table:measured_values", "table", "measured_values", "measured_values.csv", ()⟩]
  resultTables := [()]
  summaryMetadata := ()

def photographed : List (Move Answer (Call Unit) Empty) :=
  startExperiment ++ [.launch (.attachCompositionPhoto benchPhoto)] ++ done 2 5

def journaled (contents : List (Disk δ κ)) : List (Option Operation) :=
  contents.map fun d => d.journal.map fun j => j.request.operation

omit [DecidableEq δ] in
theorem unphotographed_of_journaled {contents : List (Disk δ κ)}
    (h : some Operation.finalize ∉ journaled contents) : Unphotographed contents := by
  intro later d d' earlier j info hcontents _ hj hf _
  refine absurd (List.mem_map.mpr ⟨d', ?_, ?_⟩) h
  · rw [hcontents]
    exact List.mem_append_right _ List.mem_cons_self
  · rw [hj, ← hf]
    rfl

def photographedThenFinalized : List (Move Answer (Call Unit) Empty) :=
  photographed ++
    [.launch (.finalize { now := 9, archive := measuredArchive, requestId := "2" })] ++ done 3 8

def observePhoto (p : Pool (World (List String) Unit) Wait Answer Failure) :
    List (Option (String × ArtifactEntry Unit)) × List (ArtifactEntry Unit) :=
  (p.state.recorded.map Note.photoOf, (p.state.disk.readMetadata "0123456789ab").artifactIndex)

theorem metadata_grows_photographed :
    ∃ p, (manager bench).Reachable World.empty p ∧
      p.state.recorded.map Note.photoOf = [some ("0123456789ab", benchPhoto.entry)] ∧
      ∀ n ∈ p.state.recorded, n.Present p.state.disk p.state.history := by
  have hrun : ((manager bench).replay (Pool.initial World.empty) photographed).map
      (fun p => (p.state.recorded.map Note.photoOf,
        journaled (p.state.disk :: p.state.history))) =
        some ([some ("0123456789ab", benchPhoto.entry)],
          [none, none, some .create, some .create, some .create, some .create, none, none]) := by
    rfl
  obtain ⟨p, hp, hobserved⟩ := Option.map_eq_some_iff.mp hrun
  obtain ⟨hrecorded, hjournaled⟩ := Prod.mk.inj hobserved
  have hreach := (manager bench).reachable_replay photographed .initial hp
  refine ⟨p, hreach, hrecorded, (metadata_grows .empty hreach ?_).1⟩
  refine unphotographed_of_journaled ?_
  rw [hjournaled]
  decide

/-- The photo is no longer in the metadata. -/
theorem photo_lost :
    ¬ ∀ p, (manager bench).Reachable World.empty p →
      ∀ n ∈ p.state.recorded, n.Present p.state.disk p.state.history := by
  intro h
  have hrun : ((manager bench).replay (Pool.initial World.empty) photographedThenFinalized).map
      observePhoto =
        some ([some ("0123456789ab", benchPhoto.entry)], measuredArchive.generated) := by rfl
  obtain ⟨p, hp, hobserved⟩ := Option.map_eq_some_iff.mp hrun
  obtain ⟨hrecorded, hindex⟩ := Prod.mk.inj hobserved
  have hreach := (manager bench).reachable_replay photographedThenFinalized .initial hp
  obtain ⟨n, hn, hphoto⟩ : ∃ n ∈ p.state.recorded,
      n.photoOf = some ("0123456789ab", benchPhoto.entry) := by
    refine List.mem_map.mp ?_
    rw [hrecorded]
    exact List.mem_singleton.mpr rfl
  have hpresent := h p hreach n hn
  cases n with
  | photo id entry =>
      obtain ⟨rfl, rfl⟩ := Prod.mk.inj (Option.some.inj hphoto)
      have hmem : benchPhoto.entry ∈ (p.state.disk.readMetadata "0123456789ab").artifactIndex :=
        hpresent
      rw [hindex] at hmem
      revert hmem
      decide
  | run id record => cases hphoto
  | phase id entry => cases hphoto

end Runs

end Experiments
end CryoDaq
