import CryoDaq.Experiments.Methods

/-!
# What is written to the data directory

`Write` lists what one durable write of the manager can do to the data
directory, with everything that is known when it happens.  The invariants of the
directory are read off this list.

**Settled directories.**  In a `Settled` directory the state file, the RUNNING
rows of all daily databases and the metadata of the active experiment describe
one state.

**Stages.**  A transition is journaled on a settled directory, its predecessor.
While the journal is there, the directory is the predecessor with the first few
of the writes of the transition: `stage`.  The writes of a replay lead from a
stage to the same stage or a later one.

**The chronicle.**  `Chronicle` says of the present contents and all earlier
ones, the latest first, that each came from the one before by a `Write`.
-/

namespace CryoDaq
namespace Experiments

open Text

variable {δ κ : Type}

/-! ## Records that are read as they were written -/

structure Normal (i : ExperimentInfo) : Prop where
  read : i.fromPayload = .ok i
  reloaded : i.reload = i

theorem reloadConfig_reloadConfig (c : Fields) : reloadConfig (reloadConfig c) = reloadConfig c := by
  have h := Value.reload_reload (.dict c)
  simp only [Value.reload] at h
  exact Value.dict.inj h

namespace ExperimentInfo

@[simp] theorem reload_reload (i : ExperimentInfo) : i.reload.reload = i.reload := by
  simp only [reload, reloadConfig_reloadConfig]

theorem payloadRefusal_reload (e : ExperimentInfo) :
    e.reload.payloadRefusal = e.payloadRefusal := by
  unfold payloadRefusal
  rfl

theorem cleaned_reload (e : ExperimentInfo) : e.reload.cleaned = e.cleaned.reload := by
  simp only [cleaned, reload]

theorem fromPayload_reload {e i : ExperimentInfo} (h : e.fromPayload = .ok i) :
    e.reload.fromPayload = .ok i.reload := by
  unfold fromPayload at h ⊢
  rw [payloadRefusal_reload]
  cases hr : e.payloadRefusal with
  | some message =>
      rw [hr] at h
      cases h
  | none =>
      rw [hr] at h
      obtain rfl := Except.ok.inj h
      rw [← cleaned_reload]

theorem fromPayload_eq {e i : ExperimentInfo} (h : e.fromPayload = .ok i) :
    e.payloadRefusal = none ∧ i = e.cleaned := by
  unfold fromPayload at h
  cases hr : e.payloadRefusal with
  | some message =>
      rw [hr] at h
      cases h
  | none =>
      rw [hr] at h
      exact ⟨rfl, (Except.ok.inj h).symm⟩

end ExperimentInfo

theorem normalizeCustomFields_eq_self {d : Dict String String}
    (h : ∀ p ∈ d.entries, blank p.1 = false) : normalizeCustomFields d.entries = d := by
  have hfilter : d.entries.filter (fun p => !blank p.1) = d.entries := by
    rw [List.filter_eq_self]
    intro p hp
    rw [h p hp]
    rfl
  rw [normalizeCustomFields, hfilter, Dict.ofList_entries]

theorem not_blank_of_normalized {raw : List (String × String)} {p : String × String}
    (h : p ∈ (normalizeCustomFields raw).entries) : blank p.1 = false := by
  have hkey : p.1 ∈ (raw.filter fun p => !blank p.1).map Prod.fst :=
    Dict.mem_keys_ofList (List.mem_map_of_mem h)
  obtain ⟨q, hq, he⟩ := List.mem_map.mp hkey
  have hnot := (List.mem_filter.mp hq).2
  rw [← he]
  simpa using hnot

namespace ExperimentInfo

theorem blank_strip (s : String) : blank (strip s) = blank s := by
  unfold blank
  rw [strip_strip]

theorem cleaned_cleaned (e : ExperimentInfo) : e.cleaned.cleaned = e.cleaned := by
  have htitle := strip_orElse e.title (strip e.name) (strip_strip e.name)
  have htemplate := strip_orElse e.templateId "custom" (by decide)
  have hfields : normalizeCustomFields (normalizeCustomFields e.customFields.entries).entries =
      normalizeCustomFields e.customFields.entries :=
    normalizeCustomFields_eq_self fun _ hp => not_blank_of_normalized hp
  simp only [cleaned, strip_strip, htitle, htemplate, hfields, List.filter_filter,
    Bool.and_self]

theorem fromPayload_fromPayload {e i : ExperimentInfo} (h : e.fromPayload = .ok i) :
    i.fromPayload = .ok i := by
  obtain ⟨hrefusal, rfl⟩ := fromPayload_eq h
  have hid : blank e.cleaned.experimentId = blank e.experimentId := blank_strip _
  have hname : blank e.cleaned.name = blank e.name := blank_strip _
  have hoperator : blank e.cleaned.operator = blank e.operator := blank_strip _
  have hsame : e.cleaned.payloadRefusal = e.payloadRefusal := by
    unfold payloadRefusal
    rw [hid, hname, hoperator]
    rfl
  unfold fromPayload
  rw [hsame, hrefusal, cleaned_cleaned]

theorem normal_reload {e i : ExperimentInfo} (h : e.fromPayload = .ok i) : Normal i.reload where
  read := fromPayload_reload (fromPayload_fromPayload h)
  reloaded := reload_reload i

end ExperimentInfo

theorem sameRow_iff {i r : ExperimentInfo} :
    sameRow i r = true ↔ r.experimentId = i.experimentId ∧ dayOf r.startTime = dayOf i.startTime := by
  unfold sameRow
  rw [Bool.and_eq_true, decide_eq_true_iff, decide_eq_true_iff]

theorem sameRow_updatedRow (i r : ExperimentInfo) :
    sameRow i (updatedRow i r) = (dayOf r.startTime = dayOf i.startTime : Bool) := by
  have hid : (updatedRow i r).experimentId = i.experimentId := rfl
  have hstart : (updatedRow i r).startTime = r.startTime := rfl
  unfold sameRow
  rw [hid, hstart, decide_eq_true rfl, Bool.true_and]

/-- A row that agrees with an experiment in what an update leaves alone becomes
the experiment. -/
theorem updatedRow_eq {i r : ExperimentInfo} (hoperator : r.operator = i.operator)
    (hcryostat : r.cryostat = i.cryostat) (hstart : r.startTime = i.startTime)
    (hconfig : r.configSnapshot = i.configSnapshot) : updatedRow i r = i := by
  unfold updatedRow
  rw [hoperator, hcryostat, hstart, hconfig]

theorem runningClash_reload (rows : List ExperimentInfo) (i : ExperimentInfo) :
    runningClash rows i.reload = runningClash rows i := rfl

theorem writeRow_reload (operation : Operation) (rows : List ExperimentInfo)
    (i : ExperimentInfo) : writeRow operation rows i.reload = writeRow operation rows i := by
  have hsame : sameRow i.reload = sameRow i := rfl
  have hupdated : updatedRow i.reload = updatedRow i := rfl
  unfold writeRow writeStart writeEnd
  rw [hsame, hupdated, runningClash_reload, ExperimentInfo.reload_reload]
  rfl

theorem writeStart_eq {rows rows' : List ExperimentInfo} {i : ExperimentInfo}
    (hnew : i.experimentId ∉ rows.map ExperimentInfo.experimentId)
    (h : writeStart rows i = .ok rows') : rows' = rows ++ [i.reload] := by
  have hfind : rows.find? (sameRow i) = none := by
    rw [List.find?_eq_none]
    intro r hr hsame
    exact hnew ((sameRow_iff.mp hsame).1 ▸ List.mem_map_of_mem hr)
  unfold writeStart at h
  rw [hfind] at h
  dsimp only at h
  by_cases hclash : runningClash rows i = true
  · rw [if_pos hclash] at h
    cases h
  · rw [if_neg hclash] at h
    exact (Except.ok.inj h).symm

theorem writeEnd_eq {rows rows' : List ExperimentInfo} {i : ExperimentInfo}
    (h : writeEnd rows i = .ok rows') :
    rows.any (sameRow i) = true ∧ runningClash rows i = false ∧
      rows' = rows.map fun r => if sameRow i r then updatedRow i r else r := by
  unfold writeEnd at h
  by_cases hany : rows.any (sameRow i) = true
  · rw [if_pos hany] at h
    by_cases hclash : runningClash rows i = true
    · rw [if_pos hclash] at h
      cases h
    · rw [if_neg hclash] at h
      exact ⟨hany, Bool.eq_false_iff.mpr hclash, (Except.ok.inj h).symm⟩
  · rw [if_neg hany] at h
    cases h

theorem writeStart_again {rows rows' : List ExperimentInfo} {i : ExperimentInfo}
    (hnew : i.experimentId ∉ rows.map ExperimentInfo.experimentId)
    (h : writeStart rows i = .ok rows') : writeStart rows' i = .ok rows' := by
  obtain rfl := writeStart_eq hnew h
  have hfind : (rows ++ [i.reload]).find? (sameRow i) = some i.reload := by
    rw [List.find?_append, List.find?_eq_none.mpr]
    · have hsame : sameRow i i.reload = true := sameRow_iff.mpr ⟨rfl, rfl⟩
      rw [List.find?_cons, hsame]
      rfl
    · intro r hr hsame
      exact hnew ((sameRow_iff.mp hsame).1 ▸ List.mem_map_of_mem hr)
  unfold writeStart
  rw [hfind]
  exact if_pos ⟨rfl, rfl, rfl, rfl⟩

def updateRows (i : ExperimentInfo) (r : ExperimentInfo) : ExperimentInfo :=
  if sameRow i r then updatedRow i r else r

theorem sameRow_updateRows (i r : ExperimentInfo) :
    sameRow i (updateRows i r) = sameRow i r := by
  unfold updateRows
  by_cases h : sameRow i r = true
  · rw [if_pos h, sameRow_updatedRow, h, (sameRow_iff.mp h).2]
    exact decide_eq_true rfl
  · rw [if_neg h]

theorem updateRows_updateRows (i r : ExperimentInfo) :
    updateRows i (updateRows i r) = updateRows i r := by
  by_cases h : sameRow i r = true
  · have hsame : sameRow i (updateRows i r) = true := (sameRow_updateRows i r).trans h
    have hupdated : updateRows i r = updatedRow i r := if_pos h
    rw [hupdated] at hsame ⊢
    exact if_pos hsame
  · have hkept : updateRows i r = r := if_neg h
    rw [hkept, hkept]

theorem writeEnd_again {rows rows' : List ExperimentInfo} {i : ExperimentInfo}
    (h : writeEnd rows i = .ok rows') : writeEnd rows' i = .ok rows' := by
  obtain ⟨hany, hclash, rfl⟩ := writeEnd_eq h
  change writeEnd (rows.map (updateRows i)) i = .ok (rows.map (updateRows i))
  have hany' : (rows.map (updateRows i)).any (sameRow i) = true := by
    obtain ⟨r, hr, hsame⟩ := List.any_eq_true.mp hany
    exact List.any_eq_true.mpr
      ⟨_, List.mem_map_of_mem hr, (sameRow_updateRows i r).trans hsame⟩
  have hclash' : runningClash (rows.map (updateRows i)) i = false := by
    rw [Bool.eq_false_iff]
    intro hc
    obtain ⟨hrunning, hexists⟩ := Bool.and_eq_true_iff.mp hc
    obtain ⟨r', hr', hr⟩ := List.any_eq_true.mp hexists
    obtain ⟨r, hmem, rfl⟩ := List.mem_map.mp hr'
    rw [sameRow_updateRows] at hr
    have hother : updateRows i r = r := by
      apply if_neg
      intro hsame
      rw [hsame] at hr
      simp at hr
    rw [hother] at hr
    refine absurd (Bool.and_eq_true_iff.mpr ⟨hrunning, ?_⟩) (Bool.eq_false_iff.mp hclash)
    exact List.any_eq_true.mpr ⟨r, hmem, hr⟩
  have hmap : (rows.map (updateRows i)).map (updateRows i) = rows.map (updateRows i) := by
    rw [List.map_map]
    exact List.map_congr_left fun r _ => updateRows_updateRows i r
  unfold writeEnd
  rw [if_pos hany', if_neg (Bool.eq_false_iff.mp hclash')]
  exact congrArg Except.ok hmap

theorem writeRow_again {operation : Operation} {rows rows' : List ExperimentInfo}
    {i : ExperimentInfo}
    (hnew : operation = .create → i.experimentId ∉ rows.map ExperimentInfo.experimentId)
    (h : writeRow operation rows i = .ok rows') : writeRow operation rows' i = .ok rows' := by
  unfold writeRow at h ⊢
  by_cases hc : operation = .create
  · rw [if_pos hc] at h ⊢
    exact writeStart_again (hnew hc) h
  · rw [if_neg hc] at h ⊢
    exact writeEnd_again h

theorem rewritten_reload (m : Metadata κ) (i : ExperimentInfo) (x : Extras κ) :
    Metadata.rewritten m i.reload x = Metadata.rewritten m i x := by
  unfold Metadata.rewritten
  rw [ExperimentInfo.reload_reload]

theorem rewritten_rewritten (m : Metadata κ) (i : ExperimentInfo) (x : Extras κ) :
    Metadata.rewritten (Metadata.rewritten m i x) i x = Metadata.rewritten m i x := by
  have horElse {α : Type} (a b : Option α) : a.or (a.or b) = a.or b := by
    cases a <;> rfl
  have hgetD {α : Type} (a : Option α) (b : α) : a.getD (a.getD b) = a.getD b := by
    cases a <;> rfl
  simp only [Metadata.rewritten, horElse, hgetD]

def Disk.Holds (d : Disk δ κ) (id : String) (i : ExperimentInfo) : Prop :=
  ∃ m, d.metadata id = some m ∧ m.experiment = some i

def StateFile.cut (f : StateFile δ) : Cut δ where
  managerIncarnation := f.managerIncarnation
  revision := f.revision
  appMode := f.appMode
  activeExperimentId := f.activeExperimentId
  stateFingerprint := f.stateFingerprint
  lastReceiptFingerprint := f.lastTransitionReceiptFingerprint

variable (S : Setting δ κ)

def Journal.resultFile (j : Journal δ κ) : StateFile δ where
  appMode := j.request.predecessor.appMode
  activeExperimentId := j.terminalReceipt.resultActiveExperimentId
  revision := j.request.predecessor.revision + 1
  stateFingerprint := j.terminalReceipt.resultStateFingerprint
  lastTransitionReceipt := some j.terminalReceipt
  lastTransitionReceiptFingerprint := some (S.digest (.receipt j.terminalReceipt))
  managerIncarnation := j.request.managerIncarnation

/-- The predecessor with the first writes of a transition. -/
def stage (q : Disk δ κ) (j : Journal δ κ) (info : ExperimentInfo)
    (rows : List ExperimentInfo) : ℕ → Disk δ κ
  | 0 => { q with journal := some j }
  | 1 => { q with journal := some j, rows := rows }
  | 2 =>
      { (q.setMetadata info.experimentId
          (Metadata.rewritten (q.readMetadata info.experimentId) info j.request.extras)) with
        journal := some j
        rows := rows }
  | _ =>
      { (q.setMetadata info.experimentId
          (Metadata.rewritten (q.readMetadata info.experimentId) info j.request.extras)) with
        journal := some j
        rows := rows
        state := some (j.resultFile S) }

section Stages

variable {S} {q : Disk δ κ} {j : Journal δ κ} {info : ExperimentInfo}
variable {rows : List ExperimentInfo}

theorem stage_journal (k : ℕ) : (stage S q j info rows k).journal = some j := by
  rcases k with _ | _ | _ | k <;> rfl

theorem stage_artifact (k : ℕ) (hk : 1 ≤ k) :
    (stage S q j info rows k).setMetadata info.experimentId
        (Metadata.rewritten ((stage S q j info rows k).readMetadata info.experimentId) info
          j.request.extras) =
      stage S q j info rows (max k 2) := by
  rcases k with _ | _ | _ | k
  · omega
  · rfl
  · change Disk.setMetadata { q.setMetadata _ _ with journal := some j, rows := rows } _
        (Metadata.rewritten ((q.setMetadata _ _).readMetadata _) _ _) = _
    rw [Disk.readMetadata_setMetadata, rewritten_rewritten]
    exact congrArg (fun d : Disk δ κ => { d with journal := some j, rows := rows })
      (Disk.setMetadata_setMetadata q _ _ _)
  · rw [Nat.max_eq_left (by omega)]
    change Disk.setMetadata { q.setMetadata _ _ with
        journal := some j, rows := rows, state := some (j.resultFile S) } _
        (Metadata.rewritten ((q.setMetadata _ _).readMetadata _) _ _) = _
    rw [Disk.readMetadata_setMetadata, rewritten_rewritten]
    exact congrArg
      (fun d : Disk δ κ =>
        { d with journal := some j, rows := rows, state := some (j.resultFile S) })
      (Disk.setMetadata_setMetadata q _ _ _)

theorem stage_state (k : ℕ) (hk : 2 ≤ k) :
    { stage S q j info rows k with state := some (j.resultFile S) } = stage S q j info rows 3 := by
  rcases k with _ | _ | _ | k
  · omega
  · omega
  · rfl
  · rfl

end Stages

structure Accepted (j : Journal δ κ) (info : ExperimentInfo) : Prop where
  payload : j.request.experiment.fromPayload = .ok info
  receipt : ∃ (m : Memory δ) (requestFingerprint experimentFingerprint : δ),
    m.managerIncarnation = j.request.managerIncarnation ∧
      j.terminalReceipt = terminalReceipt S m j.request requestFingerprint info.experimentId
        experimentFingerprint
  predecessor : predecessorRefusal j.request.operation j.request.predecessor
    info.experimentId = none
  status : statusRefusal j.request.operation info = none

theorem experimentId_ne_empty {e i : ExperimentInfo} (h : e.fromPayload = .ok i) :
    i.experimentId ≠ "" := by
  obtain ⟨hrefusal, rfl⟩ := ExperimentInfo.fromPayload_eq h
  intro hempty
  have hblank : blank e.experimentId = true := decide_eq_true hempty
  unfold ExperimentInfo.payloadRefusal at hrefusal
  rw [hblank] at hrefusal
  cases hrefusal

namespace Accepted

variable {S} {j : Journal δ κ} {info : ExperimentInfo}

theorem resultActive (h : Accepted S j info) :
    j.terminalReceipt.resultActiveExperimentId =
      resultActiveId j.request.operation info.experimentId := by
  obtain ⟨m, _, _, _, hr⟩ := h.receipt
  rw [hr]
  rfl

theorem active_of_ne (h : Accepted S j info) (hne : j.request.operation ≠ .finalize) :
    info.status = .running := by
  have hstatus := h.status
  unfold statusRefusal at hstatus
  rw [if_neg hne] at hstatus
  by_contra hrunning
  rw [decide_eq_true hrunning] at hstatus
  cases hstatus

theorem ended_of_eq (h : Accepted S j info) (hf : j.request.operation = .finalize) :
    info.status ≠ .running := by
  intro hrunning
  have hstatus := h.status
  unfold statusRefusal at hstatus
  rw [if_pos hf, decide_eq_true hrunning] at hstatus
  cases hstatus

end Accepted

variable [DecidableEq δ]

structure Settled (d : Disk δ κ) (f : StateFile δ) : Prop where
  state : d.state = some f
  valid : stateFileRefusal S f = none
  running : ∀ r ∈ d.rows, r.status = .running → f.activeExperimentId = some r.experimentId
  active : ∀ id, f.activeExperimentId = some id →
    ∃ i, d.Holds id i ∧ i ∈ d.rows ∧ i.experimentId = id ∧ i.status = .running ∧ Normal i
  distinct : (d.rows.map ExperimentInfo.experimentId).Nodup

/-- A directory in which no manager has been constructed. -/
structure Blank (d : Disk δ κ) : Prop where
  state : d.state = none
  journal : d.journal = none
  rows : d.rows = []

/-- What the experiment of a transition has to do with the directory that the
transition is made on. -/
structure Target (q : Disk δ κ) (j : Journal δ κ) (info : ExperimentInfo) : Prop where
  fresh : j.request.operation = .create →
    info.experimentId ∉ q.rows.map ExperimentInfo.experimentId
  known : j.request.operation ≠ .create →
    ∃ r ∈ q.rows, r.experimentId = info.experimentId ∧ updatedRow info r = info
  plain : j.request.operation ≠ .finalize → j.request.extras = {}
  archived : j.request.operation = .finalize →
    ∃ a : Archive κ, j.request.extras = a.extras (listRunRecords q info.experimentId)

/-- A journal as it is written on a settled directory. -/
structure Fits (q : Disk δ κ) (f : StateFile δ) (j : Journal δ κ) : Prop where
  settled : Settled S q f
  quiet : q.journal = none
  cut : j.request.predecessor = f.cut
  incarnation : j.request.managerIncarnation = f.managerIncarnation
  reloaded : j.reload = j
  target : ∀ info, j.request.experiment.fromPayload = .ok info → Target q j info

/-- A transition under way: its predecessor, its journal, its experiment and
the rows that it leaves. -/
structure Applying (q : Disk δ κ) (f : StateFile δ) (j : Journal δ κ) (info : ExperimentInfo)
    (rows : List ExperimentInfo) : Prop where
  fits : Fits S q f j
  accepted : Accepted S j info
  rows_eq : writeRow j.request.operation q.rows info = .ok rows

/-- The directory while a journal is pending. -/
inductive Pending (q : Disk δ κ) (f : StateFile δ) (j : Journal δ κ) : Disk δ κ → Prop
  | journaled : Fits S q f j → Pending q f j { q with journal := some j }
  | applying {info : ExperimentInfo} {rows : List ExperimentInfo} (k : ℕ) :
      Applying S q f j info rows → Pending q f j (stage S q j info rows k)

/-- The directory that a transition leaves. -/
def result (q : Disk δ κ) (j : Journal δ κ) (info : ExperimentInfo)
    (rows : List ExperimentInfo) : Disk δ κ :=
  { stage S q j info rows 3 with journal := none }

section Applying

variable {S} {q : Disk δ κ} {f : StateFile δ} {j : Journal δ κ} {info : ExperimentInfo}
variable {rows : List ExperimentInfo}

theorem Applying.row (h : Applying S q f j info rows) (k : ℕ) :
    writeRow j.request.operation (stage S q j info rows k).rows info = .ok rows ∧
      { stage S q j info rows k with rows := rows } = stage S q j info rows (max k 1) := by
  have hnew := (h.fits.target info h.accepted.payload).fresh
  have hagain := writeRow_again hnew h.rows_eq
  rcases k with _ | _ | _ | k
  · exact ⟨h.rows_eq, rfl⟩
  · exact ⟨hagain, rfl⟩
  · exact ⟨hagain, rfl⟩
  · rw [Nat.max_eq_left (by omega)]
    exact ⟨hagain, rfl⟩

theorem experimentId_updateRows (i r : ExperimentInfo) :
    (updateRows i r).experimentId = r.experimentId := by
  unfold updateRows
  by_cases h : sameRow i r = true
  · rw [if_pos h]
    exact (sameRow_iff.mp h).1.symm
  · rw [if_neg h]

theorem Fits.normal (h : Fits S q f j) (hi : j.request.experiment.fromPayload = .ok info) :
    Normal info := by
  have hpayload : j.request.experiment.reload = j.request.experiment :=
    congrArg (fun j : Journal δ κ => j.request.experiment) h.reloaded
  have hread := ExperimentInfo.fromPayload_reload hi
  rw [hpayload, hi] at hread
  have hreload : info.reload = info := (Except.ok.inj hread).symm
  rw [← hreload]
  exact ExperimentInfo.normal_reload hi

namespace Accepted

theorem valid (h : Accepted S j info) : stateFileRefusal S (j.resultFile S) = none := by
  obtain ⟨m, requestFingerprint, experimentFingerprint, hm, hr⟩ := h.receipt
  have hfingerprint : (j.resultFile S).stateFingerprint =
      S.digest (.state (j.resultFile S).managerIncarnation (j.resultFile S).revision
        (j.resultFile S).appMode (j.resultFile S).activeExperimentId) := by
    unfold Journal.resultFile
    rw [hr]
    unfold terminalReceipt Memory.stateFingerprint
    rw [hm]
  have hconsistent : receiptConsistent (j.resultFile S) j.terminalReceipt = true := by
    unfold receiptConsistent Journal.resultFile
    rw [hr]
    simp [terminalReceipt, experimentId_ne_empty h.payload]
  unfold stateFileRefusal
  rw [if_neg (fun hne => hne hfingerprint), if_neg (fun hne => hne rfl)]
  exact if_pos hconsistent

end Accepted

namespace Applying

theorem rows_create (h : Applying S q f j info rows) (hc : j.request.operation = .create) :
    f.activeExperimentId = none ∧ rows = q.rows ++ [info] := by
  constructor
  · have hactive := (predecessorRefusal_eq_none h.accepted.predecessor).2
    rw [h.fits.cut, if_pos hc] at hactive
    exact hactive
  · have hrows := h.rows_eq
    unfold writeRow at hrows
    rw [if_pos hc] at hrows
    rw [writeStart_eq ((h.fits.target info h.accepted.payload).fresh hc) hrows,
      (h.fits.normal h.accepted.payload).reloaded]

theorem rows_update (h : Applying S q f j info rows) (hc : j.request.operation ≠ .create) :
    f.activeExperimentId = some info.experimentId ∧ rows = q.rows.map (updateRows info) := by
  constructor
  · have hactive := (predecessorRefusal_eq_none h.accepted.predecessor).2
    rw [h.fits.cut, if_neg hc] at hactive
    exact hactive
  · have hrows := h.rows_eq
    unfold writeRow at hrows
    rw [if_neg hc] at hrows
    exact (writeEnd_eq hrows).2.2

theorem sameRow_of_id (h : Applying S q f j info rows) (hc : j.request.operation ≠ .create)
    {r : ExperimentInfo} (hr : r ∈ q.rows) (hid : r.experimentId = info.experimentId) :
    sameRow info r = true ∧ updatedRow info r = info := by
  obtain ⟨r', hr', hid', hupdated⟩ := (h.fits.target info h.accepted.payload).known hc
  have hsame : r = r' :=
    List.inj_on_of_nodup_map h.fits.settled.distinct hr hr' (hid.trans hid'.symm)
  subst hsame
  have hstart : (updatedRow info r).startTime = info.startTime := by rw [hupdated]
  exact ⟨sameRow_iff.mpr ⟨hid, congrArg dayOf hstart⟩, hupdated⟩

theorem running_update (h : Applying S q f j info rows) (hc : j.request.operation ≠ .create)
    {r : ExperimentInfo} (hr : r ∈ q.rows) (hrunning : (updateRows info r).status = .running) :
    updateRows info r = info := by
  by_cases hsame : sameRow info r = true
  · have hupdated : updateRows info r = updatedRow info r := if_pos hsame
    rw [hupdated]
    exact (h.sameRow_of_id hc hr (sameRow_iff.mp hsame).1).2
  · have hkept : updateRows info r = r := if_neg hsame
    rw [hkept] at hrunning
    have hactive := h.fits.settled.running r hr hrunning
    rw [(h.rows_update hc).1] at hactive
    exact absurd (h.sameRow_of_id hc hr (Option.some.inj hactive).symm).1 hsame

theorem running_rows (h : Applying S q f j info rows) {r : ExperimentInfo} (hr : r ∈ rows)
    (hrunning : r.status = .running) : r = info := by
  by_cases hc : j.request.operation = .create
  · obtain ⟨hnone, rfl⟩ := h.rows_create hc
    rcases List.mem_append.mp hr with hold | hnew
    · have hactive := h.fits.settled.running r hold hrunning
      rw [hnone] at hactive
      cases hactive
    · exact List.mem_singleton.mp hnew
  · obtain ⟨_, rfl⟩ := h.rows_update hc
    obtain ⟨r₀, hr₀, rfl⟩ := List.mem_map.mp hr
    exact h.running_update hc hr₀ hrunning

theorem mem_rows (h : Applying S q f j info rows) : info ∈ rows := by
  by_cases hc : j.request.operation = .create
  · obtain ⟨_, rfl⟩ := h.rows_create hc
    exact List.mem_append_right _ (List.mem_singleton.mpr rfl)
  · obtain ⟨_, rfl⟩ := h.rows_update hc
    obtain ⟨r, hr, hid, _⟩ := (h.fits.target info h.accepted.payload).known hc
    obtain ⟨hsame, hupdated⟩ := h.sameRow_of_id hc hr hid
    refine List.mem_map.mpr ⟨r, hr, ?_⟩
    exact (if_pos hsame).trans hupdated

theorem distinct_rows (h : Applying S q f j info rows) :
    (rows.map ExperimentInfo.experimentId).Nodup := by
  by_cases hc : j.request.operation = .create
  · obtain ⟨_, rfl⟩ := h.rows_create hc
    rw [List.map_append]
    refine List.Nodup.append h.fits.settled.distinct (List.nodup_singleton _) ?_
    intro id hid hnew
    rw [List.map_singleton] at hnew
    rw [List.mem_singleton.mp hnew] at hid
    exact (h.fits.target info h.accepted.payload).fresh hc hid
  · obtain ⟨_, rfl⟩ := h.rows_update hc
    have hids : (q.rows.map (updateRows info)).map ExperimentInfo.experimentId =
        q.rows.map ExperimentInfo.experimentId := by
      rw [List.map_map]
      exact List.map_congr_left fun r _ => experimentId_updateRows info r
    rw [hids]
    exact h.fits.settled.distinct

theorem settled (h : Applying S q f j info rows) :
    Settled S (result S q j info rows) (j.resultFile S) where
  state := rfl
  valid := h.accepted.valid
  running := by
    intro r hr hrunning
    obtain rfl := h.running_rows hr hrunning
    have hne : j.request.operation ≠ .finalize :=
      fun hf => h.accepted.ended_of_eq hf hrunning
    exact h.accepted.resultActive.trans (if_neg hne)
  active := by
    intro id hid
    have hactive := h.accepted.resultActive.symm.trans hid
    unfold resultActiveId at hactive
    split at hactive
    · cases hactive
    · rename_i hne
      obtain rfl := Option.some.inj hactive
      refine ⟨info, ⟨_, if_pos rfl, ?_⟩, h.mem_rows, rfl, h.accepted.active_of_ne hne,
        h.fits.normal h.accepted.payload⟩
      exact congrArg some (h.fits.normal h.accepted.payload).reloaded
  distinct := h.distinct_rows

end Applying

end Applying

/-- A change of a metadata document outside transitions. -/
inductive Amends (m : Metadata κ) : Metadata κ → Prop
  | phase (phase operator : String) (now : Timestamp) :
      Amends m { m with
        phases := closeLast now m.phases ++ [⟨phase, now, none, operator⟩]
        currentPhase := some phase }
  | run (record : RunRecord κ) :
      Amends m { m with runRecords := withRecord record m.runRecords }
  | photo (entry : ArtifactEntry κ) :
      Amends m { m with artifactIndex := m.artifactIndex ++ [entry] }

omit [DecidableEq δ] in
theorem Amends.experiment {m m' : Metadata κ} (h : Amends m m') :
    m'.experiment = m.experiment := by
  cases h <;> rfl

/-- The latest directory without a journal. -/
def lastQuiet (h : List (Disk δ κ)) : Option (Disk δ κ) := h.find? fun d => d.journal.isNone

/-- One durable write of the manager, after the directories `h`. -/
inductive Write (h : List (Disk δ κ)) : Disk δ κ → Disk δ κ → Prop
  | first {d : Disk δ κ} {f : StateFile δ} :
      Blank d → f.activeExperimentId = none → f.revision = 0 → stateFileRefusal S f = none →
        Write h d { d with state := some f }
  | mode {d : Disk δ κ} {f f' : StateFile δ} :
      Settled S d f → d.journal = none → f'.activeExperimentId = f.activeExperimentId →
        stateFileRefusal S f' = none → Write h d { d with state := some f' }
  | amend {d : Disk δ κ} {f : StateFile δ} {id : String} {m m' : Metadata κ} :
      Settled S d f → d.journal = none → d.metadata id = some m → Amends m m' →
        Write h d (d.setMetadata id m')
  | journal {d : Disk δ κ} {f : StateFile δ} {j : Journal δ κ} :
      Fits S d f j → Write h d { d with journal := some j }
  | stage {q : Disk δ κ} {f : StateFile δ} {j : Journal δ κ} {info : ExperimentInfo}
      {rows : List ExperimentInfo} {k k' : ℕ} :
      lastQuiet h = some q → Applying S q f j info rows → k ≤ k' → k' ≤ 3 →
        Write h (stage S q j info rows k) (stage S q j info rows k')
  | unlink {q : Disk δ κ} {f : StateFile δ} {j : Journal δ κ} {info : ExperimentInfo}
      {rows : List ExperimentInfo} :
      lastQuiet h = some q → Applying S q f j info rows →
        Write h (stage S q j info rows 3) (result S q j info rows)

/-- The contents of a directory, the latest first. -/
inductive Chronicle : List (Disk δ κ) → Prop
  | empty : Chronicle [{}]
  | write {d d' : Disk δ κ} {h : List (Disk δ κ)} :
      Chronicle (d :: h) → Write S h d d' → Chronicle (d' :: d :: h)

/-- What is known of a directory after the directories `h`. -/
inductive Status (h : List (Disk δ κ)) (d : Disk δ κ) : Prop
  | blank : Blank d → Status h d
  | settled (f : StateFile δ) : Settled S d f → d.journal = none → Status h d
  | pending (q : Disk δ κ) (f : StateFile δ) (j : Journal δ κ) :
      lastQuiet h = some q → Pending S q f j d → Status h d

section Chronicle

variable {S} {h : List (Disk δ κ)} {d d' : Disk δ κ}

omit [DecidableEq δ] in
theorem lastQuiet_cons_of_none (hd : d.journal = none) : lastQuiet (d :: h) = some d := by
  unfold lastQuiet
  rw [List.find?_cons, hd]
  rfl

omit [DecidableEq δ] in
theorem lastQuiet_cons_of_some {j : Journal δ κ} (hd : d.journal = some j) :
    lastQuiet (d :: h) = lastQuiet h := by
  unfold lastQuiet
  rw [List.find?_cons, hd]
  rfl

theorem Settled.amend {f : StateFile δ} (hs : Settled S d f) {id : String} {m m' : Metadata κ}
    (hm : d.metadata id = some m) (ha : Amends m m') :
    Settled S (d.setMetadata id m') f where
  state := hs.state
  valid := hs.valid
  running := hs.running
  active := by
    intro other hother
    obtain ⟨i, ⟨n, hn, hi⟩, hrest⟩ := hs.active other hother
    refine ⟨i, ?_, hrest⟩
    by_cases he : other = id
    · subst he
      rw [hm] at hn
      obtain rfl := Option.some.inj hn
      exact ⟨m', if_pos rfl, ha.experiment.trans hi⟩
    · exact ⟨n, (if_neg he).trans hn, hi⟩
  distinct := hs.distinct

theorem Settled.withState {f f' : StateFile δ} (hs : Settled S d f)
    (hactive : f'.activeExperimentId = f.activeExperimentId)
    (hvalid : stateFileRefusal S f' = none) :
    Settled S { d with state := some f' } f' where
  state := rfl
  valid := hvalid
  running := by
    rw [hactive]
    exact hs.running
  active := by
    rw [hactive]
    exact hs.active
  distinct := hs.distinct

theorem Write.status (hw : Write S h d d') : Status S (d :: h) d' := by
  cases hw with
  | @first _ f hblank hactive hrevision hvalid =>
      refine .settled f ⟨rfl, hvalid, ?_, ?_, ?_⟩ hblank.journal
      · intro r hr
        have hrows : r ∈ d.rows := hr
        rw [hblank.rows] at hrows
        cases hrows
      · intro id hid
        rw [hactive] at hid
        cases hid
      · change (d.rows.map _).Nodup
        rw [hblank.rows]
        exact List.nodup_nil
  | @mode _ f f' hsettled hquiet hactive hvalid =>
      exact .settled f' (hsettled.withState hactive hvalid) hquiet
  | @amend _ f id m m' hsettled hquiet hm hamends =>
      exact .settled f (hsettled.amend hm hamends) hquiet
  | @journal _ f j hfits =>
      exact .pending d f j (lastQuiet_cons_of_none hfits.quiet) (.journaled hfits)
  | @stage q f j info rows k k' hq happlying hle hmax =>
      refine .pending q f j ?_ (.applying k' happlying)
      rw [lastQuiet_cons_of_some (stage_journal k)]
      exact hq
  | @unlink q f j info rows hq happlying =>
      exact .settled (j.resultFile S) happlying.settled rfl

theorem Chronicle.status (hc : Chronicle S (d :: h)) : Status S h d := by
  cases hc with
  | empty => exact .blank ⟨rfl, rfl, rfl⟩
  | write _ hw => exact hw.status

end Chronicle

end Experiments
end CryoDaq
