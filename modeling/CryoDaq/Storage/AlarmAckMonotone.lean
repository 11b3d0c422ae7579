import CryoDaq.Storage.AlarmAckRegistry

/-!
# The outbox is monotone

Every call leaves the table as it is or has one of three effects: a preparation
inserts its row, perhaps after old terminal rows were pruned; a row makes one
move; a startup aborts the prepared rows.  One lemma for each operation says
which (`prepare_cases`, …, `abortPrepared_cases`), and what holds of every call
is read off them (`Monotone`).

**Raising.**  A call that raises leaves the table, unless it raises after its
commit took effect: the file authority is checked once more after the commit,
and closing may raise.

**Again.**  The row of a call that returned shows that the call was made
(`Settled`), and goes on showing it as long as the row is there.
-/

namespace CryoDaq
namespace Storage

/-! ## What each operation does -/

/-- The content of a request: what it is about and its documents. -/
def AckRow.SameContent (row row' : AckRow) : Prop :=
  row'.identity = row.identity ∧ row'.event = row.event ∧ row'.receipt = row.receipt

section Specs

variable {J : JsonSizes} {quarantined : List String} {clock : Option ℤ} {t t' : AckTable}
  {answer : AckAnswer} {event : Payload AckEvent} {receipt : Payload AckReceipt}

theorem prepare_cases {i : AckIdentity} (hs : Sound J quarantined t)
    (h : prepareAlarmAckOutbox J quarantined clock i event receipt t = .ok (t', answer)) :
    i.requestId ∉ quarantined ∧ ∃ e r, event = .exact e ∧ receipt = .exact r ∧
      ((∃ row, t.get? i.requestId = some row ∧ row.identity = i ∧ row.event = e ∧
          row.receipt = r ∧ t' = t ∧ answer = .record row.record) ∨
        (t.get? i.requestId = none ∧ ∃ now pruned, Pruned t pruned ∧
          t' = pruned.set i.requestId (preparedRow i e r now) ∧ Usable J quarantined t')) := by
  simp only [prepareAlarmAckOutbox, bind_eq_ok, exists_unit] at h
  obtain ⟨-, -, -, h⟩ := h
  cases event with
  | other json => cases h
  | exact e =>
      cases receipt with
      | other json => cases h
      | exact r =>
          simp only [prepareDocuments, bind_eq_ok, exists_unit, demand_eq_ok] at h
          obtain ⟨-, n, -, s, -, hfree, h⟩ := h
          refine ⟨hfree, e, r, rfl, rfl, ?_⟩
          cases hrow : t.get? i.requestId with
          | some row =>
              simp only [hrow, bind_eq_ok, exists_unit, agree_eq_ok, pure_eq_ok,
                Prod.mk.injEq] at h
              obtain ⟨-, ⟨hi, he, hr⟩, rfl, rfl⟩ := h
              exact .inl ⟨row, rfl, hi, he, hr, rfl, rfl⟩
          | none =>
              simp only [hrow, bind_eq_ok, exists_unit, demand_eq_ok, pure_eq_ok,
                Prod.mk.injEq] at h
              obtain ⟨pruned, hpruned, -, -, -, -, -, -, after, hafter, -, rfl, -⟩ := h
              exact .inr ⟨rfl, _, pruned, (pruneTerminalForAdmission_spec hs hpruned).1, rfl,
                (registryUsage_eq_ok.mp hafter).1⟩

theorem retainedRow_eq_ok {requestId message : String} {row : AckRow} :
    retainedRow J requestId message t = .ok row ↔
      t.get? requestId = some row ∧ checkRecord J row = .ok () := by
  unfold retainedRow
  cases hrow : t.get? requestId with
  | none =>
      constructor
      · intro h
        cases h
      · rintro ⟨h, -⟩
        cases h
  | some q =>
      simp only [bind_eq_ok, exists_unit, pure_eq_ok, Option.some.injEq]
      constructor
      · rintro ⟨hcheck, rfl⟩
        exact ⟨rfl, hcheck⟩
      · rintro ⟨rfl, hcheck⟩
        exact ⟨hcheck, rfl⟩

theorem AckState.eq_prepared {s : AckState} (h : ¬(s = .committed ∨ s = .published))
    (h' : s ≠ .aborted) : s = .prepared := by
  cases s with
  | prepared => rfl
  | committed => exact absurd (.inl rfl) h
  | published => exact absurd (.inr rfl) h
  | aborted => exact absurd rfl h'

theorem commit_cases {requestId fingerprint : String}
    (h : commitAlarmAckOutbox J quarantined clock requestId fingerprint event receipt t =
      .ok (t', answer)) :
    requestId ∉ quarantined ∧ ∃ row, t.get? requestId = some row ∧
      row.identity.requestFingerprint = fingerprint ∧
      event = .exact row.event ∧ receipt = .exact row.receipt ∧
      (((row.state = .committed ∨ row.state = .published) ∧ t' = t ∧
          answer = .record row.record) ∨
        (row.state = .prepared ∧ ∃ now, t' = t.set requestId (row.moved .committed now) ∧
          checkRecord J (row.moved .committed now) = .ok ())) := by
  simp only [commitAlarmAckOutbox, bind_eq_ok, exists_unit, demand_eq_ok, agree_eq_ok,
    retainedRow_eq_ok] at h
  obtain ⟨-, -, -, s, -, hfree, row, ⟨hrow, -⟩, hfingerprint, ⟨hevent, hreceipt⟩, h⟩ := h
  refine ⟨hfree, row, hrow, hfingerprint, hevent, hreceipt, ?_⟩
  split at h
  · rename_i hstate
    simp only [pure_eq_ok, Prod.mk.injEq] at h
    exact .inl ⟨hstate, h.1.symm, h.2.symm⟩
  · rename_i hstate
    simp only [bind_eq_ok, exists_unit, demand_eq_ok, pure_eq_ok, Prod.mk.injEq] at h
    obtain ⟨haborted, -, hcheck, rfl, -⟩ := h
    exact .inr ⟨AckState.eq_prepared hstate haborted, _, rfl, hcheck⟩

theorem publish_cases {requestId fingerprint : String}
    (h : publishAlarmAckOutbox J quarantined clock requestId fingerprint event receipt t =
      .ok (t', answer)) :
    requestId ∉ quarantined ∧ ∃ row, t.get? requestId = some row ∧
      row.identity.requestFingerprint = fingerprint ∧
      event = .exact row.event ∧ receipt = .exact row.receipt ∧
      ((row.state = .published ∧ t' = t ∧ answer = .record row.record) ∨
        (row.state = .committed ∧ ∃ now, t' = t.set requestId (row.moved .published now) ∧
          checkRecord J (row.moved .published now) = .ok ())) := by
  simp only [publishAlarmAckOutbox, bind_eq_ok, exists_unit, demand_eq_ok, agree_eq_ok,
    retainedRow_eq_ok] at h
  obtain ⟨-, -, -, s, -, hfree, row, ⟨hrow, -⟩, hfingerprint, ⟨hevent, hreceipt⟩, hprepared,
    h⟩ := h
  refine ⟨hfree, row, hrow, hfingerprint, hevent, hreceipt, ?_⟩
  split at h
  · rename_i hstate
    simp only [pure_eq_ok, Prod.mk.injEq] at h
    exact .inl ⟨hstate, h.1.symm, h.2.symm⟩
  · rename_i hstate
    simp only [bind_eq_ok, exists_unit, demand_eq_ok, pure_eq_ok, Prod.mk.injEq] at h
    obtain ⟨haborted, -, hcheck, rfl, -⟩ := h
    refine .inr ⟨?_, _, rfl, hcheck⟩
    cases hs : row.state with
    | prepared => exact absurd hs hprepared
    | committed => rfl
    | published => exact absurd hs hstate
    | aborted => exact absurd hs haborted

def AckRow.AbortedBy (row : AckRow) (fingerprint engine activation source : String)
    (event : Payload AckEvent) (receipt : Payload AckReceipt) : Prop :=
  row.identity.requestFingerprint = fingerprint ∧ row.identity.engineInstanceId = engine ∧
    row.identity.activationId = activation ∧ row.identity.sourceActivationId = source ∧
    event = .exact row.event ∧ receipt = .exact row.receipt

/-- An abort found its row and the row was aborted for a changed activation, or is now. -/
theorem abort_cases {requestId fingerprint engine activation source : String}
    (h : abortAlarmAckOutbox J quarantined clock requestId fingerprint engine activation source
      event receipt t = .ok (t', answer)) :
    requestId ∉ quarantined ∧ ∃ row, t.get? requestId = some row ∧
      row.AbortedBy fingerprint engine activation source event receipt ∧
      ((row.state = .aborted ∧ row.terminalCode = some .activation ∧
          row.terminalEngineInstanceId = some engine ∧ t' = t ∧
          ∃ d, abortDisposition row row.updatedAt = .ok d ∧ answer = .disposition d) ∨
        (row.state = .prepared ∧ ∃ now, 0 < now ∧
          t' = t.set requestId (row.aborted .activation engine now) ∧
          checkRecord J (row.aborted .activation engine now) = .ok () ∧
          Usable J quarantined t' ∧
          ∃ d, abortDisposition (row.aborted .activation engine now) now = .ok d ∧
            answer = .disposition d)) := by
  simp only [abortAlarmAckOutbox, bind_eq_ok, exists_unit, demand_eq_ok, agree_eq_ok,
    retainedRow_eq_ok] at h
  obtain ⟨-, -, -, -, -, -, s, -, hfree, row, ⟨hrow, -⟩, hfingerprint,
    ⟨hengine, hactivation, hsource, hevent, hreceipt⟩, h⟩ := h
  refine ⟨hfree, row, hrow, ⟨hfingerprint, hengine, hactivation, hsource, hevent, hreceipt⟩, ?_⟩
  split at h
  · rename_i hstate
    simp only [bind_eq_ok, exists_unit, demand_eq_ok, pure_eq_ok, Prod.mk.injEq] at h
    obtain ⟨⟨hcode, hterminal⟩, d, hd, rfl, rfl⟩ := h
    exact .inl ⟨hstate, hcode, hterminal, rfl, d, hd, rfl⟩
  · simp only [bind_eq_ok, exists_unit, demand_eq_ok, pure_eq_ok, Prod.mk.injEq] at h
    obtain ⟨hstate, ⟨hclock, -⟩, n, -, hcheck, after, hafter, -, d, hd, rfl, rfl⟩ := h
    refine .inr ⟨hstate, clock.getD 0, ?_, rfl, hcheck, (registryUsage_eq_ok.mp hafter).1, d, hd,
      rfl⟩
    cases clock with
    | none => cases hclock
    | some now => exact of_decide_eq_true hclock

theorem mem_preparedRows {row : AckRow} :
    row ∈ preparedRows t ↔ row ∈ t.values ∧ row.state = .prepared := by
  rw [preparedRows, List.mem_insertionSort, List.mem_filter, decide_eq_true_eq]

theorem disposeRows_spec {recovery : String} {now : ℤ} {ds : List AbortDisposition} :
    ∀ {rows : List AckRow} {t : AckTable}, (rows.map AckRow.requestId).Nodup →
      disposeRows J recovery now rows t = .ok (t', ds) →
      (∀ row ∈ rows, t'.get? row.requestId = some (row.aborted .restart recovery now)) ∧
        ∀ k, k ∉ rows.map AckRow.requestId → t'.get? k = t.get? k := by
  intro rows
  induction rows generalizing ds with
  | nil =>
      intro t _ h
      simp only [disposeRows, pure_eq_ok, Prod.mk.injEq] at h
      rw [h.1]
      exact ⟨fun _ hrow => absurd hrow List.not_mem_nil, fun _ _ => rfl⟩
  | cons row rest ih =>
      intro t hnodup h
      rw [List.map_cons, List.nodup_cons] at hnodup
      simp only [disposeRows, disposeRow, bind_eq_ok, exists_unit, demand_eq_ok, pure_eq_ok,
        Prod.exists, Prod.mk.injEq] at h
      obtain ⟨t₁, d, ⟨-, -, d', -, rfl, rfl⟩, t₂, ds', hrest, rfl, rfl⟩ := h
      obtain ⟨hdone, hother⟩ := ih hnodup.2 hrest
      refine ⟨?_, ?_⟩
      · rw [List.forall_mem_cons]
        refine ⟨?_, hdone⟩
        rw [hother _ hnodup.1, Dict.get?_set_self]
      · intro k hk
        rw [List.map_cons, List.mem_cons, not_or] at hk
        rw [hother k hk.2, Dict.get?_set_of_ne _ _ hk.1]

theorem abortPrepared_cases {recovery : String} (hs : Sound J quarantined t)
    (h : abortPreparedAlarmAckOutbox J quarantined clock recovery t = .ok (t', answer)) :
    Usable J quarantined t' ∧ ∃ now, 0 < now ∧
      (∀ k row, t.get? k = some row → row.state = .prepared →
        row.identity.engineInstanceId ≠ recovery ∧
          t'.get? k = some (row.aborted .restart recovery now)) ∧
      (∀ k row, t.get? k = some row → row.state ≠ .prepared → t'.get? k = some row) ∧
      (∀ k, t.get? k = none → t'.get? k = none) ∧
      ((∀ k row, t.get? k = some row → row.state ≠ .prepared) → t' = t) := by
  simp only [abortPreparedAlarmAckOutbox, bind_eq_ok, exists_unit, demand_eq_ok] at h
  obtain ⟨-, before, hbefore, hlength, h⟩ := h
  obtain ⟨husable, rfl⟩ := registryUsage_eq_ok.mp hbefore
  have hall : (preparedRows t).take (ackMaxPending + 1) = preparedRows t := by
    have hcount : (preparedRows t).length = (statusOf J t).preparedCount := by
      rw [preparedRows, List.length_insertionSort]
      exact length_filter _ t
    rw [← hcount, List.length_take] at hlength
    exact List.take_of_length_le (by omega)
  rw [hall] at h
  split at h
  · rename_i hnone
    simp only [pure_eq_ok, Prod.mk.injEq] at h
    obtain ⟨rfl, -⟩ := h
    refine ⟨husable, 1, Int.one_pos, ?_, fun _ _ hk _ => hk, fun _ hk => hk, fun _ => rfl⟩
    intro k row hk hstate
    have hmem := mem_preparedRows.mpr ⟨mem_values.mpr ⟨k, hk⟩, hstate⟩
    rw [hnone] at hmem
    cases hmem
  · rename_i hsome
    simp only [bind_eq_ok, exists_unit, demand_eq_ok, pure_eq_ok, Prod.exists,
      Prod.mk.injEq] at h
    obtain ⟨-, hother, hclock, t₁, ds, hrows, after, hafter, -, rfl, -⟩ := h
    have hnodup : ((preparedRows t).map AckRow.requestId).Nodup := by
      have hperm := (List.perm_insertionSort
        (fun a b : AckRow => a.requestId ≤ b.requestId)
        (t.values.filter fun r => r.state = .prepared)).map AckRow.requestId
      refine hperm.nodup_iff.mpr ?_
      refine List.Nodup.sublist (List.filter_sublist.map AckRow.requestId) ?_
      rw [keys_values hs.keyed]
      exact t.nodup
    obtain ⟨hdone, hrest⟩ := disposeRows_spec hnodup hrows
    refine ⟨(registryUsage_eq_ok.mp hafter).1, clock.getD 0, ?_, ?_, ?_, ?_, ?_⟩
    · cases clock with
      | none => cases hclock
      | some now => exact of_decide_eq_true hclock
    · intro k row hk hstate
      have hmem := mem_preparedRows.mpr ⟨mem_values.mpr ⟨k, hk⟩, hstate⟩
      have hkey := hs.keyed k row hk
      refine ⟨of_decide_eq_true (List.all_eq_true.mp hother row hmem), ?_⟩
      rw [← hkey]
      exact hdone row hmem
    · intro k row hk hstate
      rw [hrest k, hk]
      intro hmem
      obtain ⟨q, hq, rfl⟩ := List.mem_map.mp hmem
      have hq' := mem_preparedRows.mp hq
      have hget := get?_of_mem_values hs.keyed hq'.1
      rw [hk] at hget
      exact hstate (Option.some.inj hget ▸ hq'.2)
    · intro k hk
      rw [hrest k, hk]
      intro hmem
      obtain ⟨q, hq, rfl⟩ := List.mem_map.mp hmem
      rw [get?_of_mem_values hs.keyed (mem_preparedRows.mp hq).1] at hk
      cases hk
    · intro hnone
      refine absurd ?_ hsome
      rw [List.eq_nil_iff_forall_not_mem]
      intro q hq
      obtain ⟨hvalue, hstate⟩ := mem_preparedRows.mp hq
      obtain ⟨k, hk⟩ := mem_values.mp hvalue
      exact hnone k q hk hstate

end Specs

/-! ## What every call does -/

inductive AckState.Advances : AckState → AckState → Prop
  | commit : AckState.Advances .prepared .committed
  | publish : AckState.Advances .committed .published
  | abort : AckState.Advances .prepared .aborted

/-- A row stays as it is, or its state makes one move and its content stays. -/
def AckRow.Becomes (row row' : AckRow) : Prop :=
  row' = row ∨ (row.SameContent row' ∧ row.state.Advances row'.state)

structure Monotone (J : JsonSizes) (quarantined : List String) (call : AckCall)
    (t t' : AckTable) : Prop where
  /-- the caps hold and every row is valid -/
  usable : Usable J quarantined t'
  becomes : ∀ k row row', t.get? k = some row → t'.get? k = some row' → row.Becomes row'
  /-- only an admission removes rows, and only old terminal ones -/
  removed : ∀ k row, t.get? k = some row → t'.get? k = none →
    (∃ i e r, call = .prepare i (.exact e) (.exact r) ∧ t.get? i.requestId = none) ∧
      row.terminal = true ∧ ackMinTerminalRetained ≤ count AckRow.terminal t' ∧
      ∀ k' row', t'.get? k' = some row' → row'.terminal = true → row.olderThan row' = true
  inserted : ∀ k row', t.get? k = none → t'.get? k = some row' →
    ∃ i e r now, call = .prepare i (.exact e) (.exact r) ∧ k = i.requestId ∧
      row' = preparedRow i e r now

section Calls

variable {J : JsonSizes} {quarantined : List String} {clock : Option ℤ} {t t' : AckTable}
  {call : AckCall} {answer : AckAnswer}

theorem Monotone.refl (h : Usable J quarantined t) : Monotone J quarantined call t t where
  usable := h
  becomes := by
    intro k row row' hrow hrow'
    rw [hrow] at hrow'
    exact .inl (Option.some.inj hrow').symm
  removed := by
    intro k row hrow hnone
    rw [hrow] at hnone
    cases hnone
  inserted := by
    intro k row' hnone hrow
    rw [hnone] at hrow
    cases hrow

theorem Monotone.moved {k : String} {row row' : AckRow} (hrow : t.get? k = some row)
    (hcontent : row.SameContent row') (hstate : row.state.Advances row'.state)
    (husable : Usable J quarantined (t.set k row')) :
    Monotone J quarantined call t (t.set k row') where
  usable := husable
  becomes := by
    intro j q q' hq hq'
    rw [Dict.get?_set] at hq'
    split at hq'
    · rename_i hj
      rw [hj, hrow] at hq
      rw [← Option.some.inj hq, ← Option.some.inj hq']
      exact .inr ⟨hcontent, hstate⟩
    · rw [hq] at hq'
      exact .inl (Option.some.inj hq').symm
  removed := by
    intro j q hq hnone
    rw [Dict.get?_set] at hnone
    split at hnone
    · cases hnone
    · rw [hq] at hnone
      cases hnone
  inserted := by
    intro j q hnone hq
    rw [Dict.get?_set] at hq
    split at hq
    · rename_i hj
      rw [hj, hrow] at hnone
      cases hnone
    · rw [hnone] at hq
      cases hq

theorem tally_set_fresh {k : String} {row : AckRow} (f : AckRow → ℕ) (h : t.get? k = none) :
    tally f (t.set k row) = tally f t + f row := by
  have hkeys : k ∉ t.entries.map Prod.fst := by
    intro hmem
    obtain ⟨q, hq⟩ := (t.mem_keys k).mp hmem
    rw [h] at hq
    cases hq
  unfold tally Dict.values
  change (((Dict.setEntry k row t.entries).map Prod.snd).map f).sum = _
  rw [Dict.setEntry_eq_append hkeys]
  simp

theorem Monotone.admitted {i : AckIdentity} {e : AckEvent} {r : AckReceipt} {now : ℤ}
    {pruned : AckTable} (hpruned : Pruned t pruned) (hnew : t.get? i.requestId = none)
    (husable : Usable J quarantined (pruned.set i.requestId (preparedRow i e r now))) :
    Monotone J quarantined (.prepare i (.exact e) (.exact r)) t
      (pruned.set i.requestId (preparedRow i e r now)) where
  usable := husable
  becomes := by
    intro k row row' hrow hrow'
    rw [Dict.get?_set] at hrow'
    split at hrow'
    · rename_i hk
      rw [hk, hnew] at hrow
      cases hrow
    · rcases hpruned.kept k row hrow with h | ⟨h, -⟩
      · rw [h] at hrow'
        exact .inl (Option.some.inj hrow').symm
      · rw [h] at hrow'
        cases hrow'
  removed := by
    intro k row hrow hnone
    rw [Dict.get?_set] at hnone
    split at hnone
    · cases hnone
    · have hterminal : row.terminal = true := by
        rcases hpruned.kept k row hrow with h | ⟨-, h⟩
        · rw [h] at hnone
          cases hnone
        · exact h
      refine ⟨⟨i, e, r, rfl, hnew⟩, hterminal, ?_, ?_⟩
      · unfold count
        rw [tally_set_fresh _ (hpruned.fresh _ hnew)]
        exact hpruned.retained ⟨k, row, hrow, hnone⟩
      · intro k' row' hrow' hterminal'
        rw [Dict.get?_set] at hrow'
        split at hrow'
        · rw [← Option.some.inj hrow'] at hterminal'
          cases hterminal'
        · exact hpruned.oldest k row k' row' hrow hnone hrow' hterminal'
  inserted := by
    intro k row' hnone hrow'
    rw [Dict.get?_set] at hrow'
    split at hrow'
    · rename_i hk
      exact ⟨i, e, r, now, rfl, hk, (Option.some.inj hrow').symm⟩
    · rw [hpruned.fresh k hnone] at hrow'
      cases hrow'

theorem Monotone.disposed {recovery : String} {now : ℤ} (husable : Usable J quarantined t')
    (hprepared : ∀ k row, t.get? k = some row → row.state = .prepared →
      t'.get? k = some (row.aborted .restart recovery now))
    (hother : ∀ k row, t.get? k = some row → row.state ≠ .prepared → t'.get? k = some row)
    (hnone : ∀ k, t.get? k = none → t'.get? k = none) :
    Monotone J quarantined call t t' where
  usable := husable
  becomes := by
    intro k row row' hrow hrow'
    by_cases hstate : row.state = .prepared
    · rw [hprepared k row hrow hstate] at hrow'
      rw [← Option.some.inj hrow']
      refine .inr ⟨⟨rfl, rfl, rfl⟩, ?_⟩
      rw [hstate]
      exact .abort
    · rw [hother k row hrow hstate] at hrow'
      exact .inl (Option.some.inj hrow').symm
  removed := by
    intro k row hrow hgone
    by_cases hstate : row.state = .prepared
    · rw [hprepared k row hrow hstate] at hgone
      cases hgone
    · rw [hother k row hrow hstate] at hgone
      cases hgone
  inserted := by
    intro k row' hk hrow'
    rw [hnone k hk] at hrow'
    cases hrow'

theorem Sound.set (hs : Sound J quarantined t) {k : String} {row row' : AckRow}
    (hrow : t.get? k = some row) (hid : row'.identity = row.identity)
    (hstamped : row'.state = .aborted → 0 < row'.updatedAt)
    (husable : Usable J quarantined (t.set k row')) : Sound J quarantined (t.set k row') where
  usable := husable
  keyed := by
    intro j q hq
    rw [Dict.get?_set] at hq
    split at hq
    · rename_i hj
      rw [← Option.some.inj hq, AckRow.requestId, hid, hj]
      exact hs.keyed k row hrow
    · exact hs.keyed j q hq
  stamped := by
    intro j q hq hstate
    rw [Dict.get?_set] at hq
    split at hq
    · rw [← Option.some.inj hq] at hstate ⊢
      exact hstamped hstate
    · exact hs.stamped j q hq hstate

theorem body_monotone (hs : Sound J quarantined t)
    (h : call.body J quarantined clock t = .ok (t', answer)) :
    Sound J quarantined t' ∧ Monotone J quarantined call t t' := by
  cases call with
  | prepare i event receipt =>
      obtain ⟨-, e, r, rfl, rfl, ⟨row, -, -, -, -, rfl, -⟩ |
        ⟨hnew, now, pruned, hpruned, rfl, husable⟩⟩ := prepare_cases hs h
      · exact ⟨hs, Monotone.refl hs.usable⟩
      · refine ⟨⟨husable, ?_, ?_⟩, Monotone.admitted hpruned hnew husable⟩
        · intro k row hrow
          rw [Dict.get?_set] at hrow
          split at hrow
          · rename_i hk
            rw [← Option.some.inj hrow, hk]
            rfl
          · exact hs.keyed k row (hpruned.get?_of_some hrow)
        · intro k row hrow hstate
          rw [Dict.get?_set] at hrow
          split at hrow
          · rw [← Option.some.inj hrow] at hstate
            cases hstate
          · exact hs.stamped k row (hpruned.get?_of_some hrow) hstate
  | abort requestId fingerprint engine activation source event receipt =>
      obtain ⟨-, row, hrow, -, ⟨-, -, -, rfl, -⟩ |
        ⟨hstate, now, hnow, rfl, -, husable, -⟩⟩ := abort_cases h
      · exact ⟨hs, Monotone.refl hs.usable⟩
      · refine ⟨hs.set hrow rfl (fun _ => hnow) husable,
          Monotone.moved hrow ⟨rfl, rfl, rfl⟩ ?_ husable⟩
        rw [hstate]
        exact .abort
  | abortPrepared recovery =>
      obtain ⟨husable, now, hnow, hprepared, hother, hnone, -⟩ := abortPrepared_cases hs h
      have hrows : ∀ k row', t'.get? k = some row' → ∃ row, t.get? k = some row ∧
          (row' = row ∨ row' = row.aborted .restart recovery now) := by
        intro k row' hrow'
        cases hrow : t.get? k with
        | none =>
            rw [hnone k hrow] at hrow'
            cases hrow'
        | some row =>
            refine ⟨row, rfl, ?_⟩
            by_cases hstate : row.state = .prepared
            · rw [(hprepared k row hrow hstate).2] at hrow'
              exact .inr (Option.some.inj hrow').symm
            · rw [hother k row hrow hstate] at hrow'
              exact .inl (Option.some.inj hrow').symm
      refine ⟨⟨husable, ?_, ?_⟩, Monotone.disposed husable
        (fun k row hk hstate => (hprepared k row hk hstate).2) hother hnone⟩
      · intro k row' hrow'
        obtain ⟨row, hrow, rfl | rfl⟩ := hrows k row' hrow'
        · exact hs.keyed k _ hrow
        · exact hs.keyed k row hrow
      · intro k row' hrow' hstate
        obtain ⟨row, hrow, rfl | rfl⟩ := hrows k row' hrow'
        · exact hs.stamped k _ hrow hstate
        · exact hnow
  | commit requestId fingerprint event receipt =>
      obtain ⟨-, row, hrow, -, -, -, ⟨-, rfl, -⟩ | ⟨hstate, now, rfl, hcheck⟩⟩ := commit_cases h
      · exact ⟨hs, Monotone.refl hs.usable⟩
      · have husable := hs.usable.set (row.moved .committed now) hrow rfl rfl
          (fun _ => by rw [AckRow.pending, hstate]; rfl) hcheck
        refine ⟨hs.set hrow rfl (fun habort => by cases habort) husable,
          Monotone.moved hrow ⟨rfl, rfl, rfl⟩ ?_ husable⟩
        rw [hstate]
        exact .commit
  | publish requestId fingerprint event receipt =>
      obtain ⟨-, row, hrow, -, -, -, ⟨-, rfl, -⟩ | ⟨hstate, now, rfl, hcheck⟩⟩ := publish_cases h
      · exact ⟨hs, Monotone.refl hs.usable⟩
      · have husable := hs.usable.set (row.moved .published now) hrow rfl rfl
          (fun hp => by cases hp) hcheck
        refine ⟨hs.set hrow rfl (fun habort => by cases habort) husable,
          Monotone.moved hrow ⟨rfl, rfl, rfl⟩ ?_ husable⟩
        rw [hstate]
        exact .publish

end Calls

def AckCall.requestId? : AckCall → Option String
  | .prepare i _ _ => some i.requestId
  | .abort requestId _ _ _ _ _ _ => some requestId
  | .abortPrepared _ => none
  | .commit requestId _ _ _ => some requestId
  | .publish requestId _ _ _ => some requestId

def AckCall.Matches (row : AckRow) : AckCall → Prop
  | .prepare i event receipt =>
      row.identity = i ∧ event = .exact row.event ∧ receipt = .exact row.receipt
  | .abort _ fingerprint engine activation source event receipt =>
      row.AbortedBy fingerprint engine activation source event receipt
  | .abortPrepared _ => True
  | .commit _ fingerprint event receipt =>
      row.identity.requestFingerprint = fingerprint ∧ event = .exact row.event ∧
        receipt = .exact row.receipt
  | .publish _ fingerprint event receipt =>
      row.identity.requestFingerprint = fingerprint ∧ event = .exact row.event ∧
        receipt = .exact row.receipt

/-- The row of the call is there; for a startup, no row is prepared. -/
def AckCall.Retained (call : AckCall) (t : AckTable) : Prop :=
  match call.requestId? with
  | some k => ∃ row, t.get? k = some row
  | none => ∀ k row, t.get? k = some row → row.state ≠ .prepared

def AckCall.Settles (row : AckRow) : AckCall → Prop
  | .prepare _ _ _ => True
  | .abort _ _ engine _ _ _ _ =>
      row.state = .aborted ∧ row.terminalCode = some .activation ∧
        row.terminalEngineInstanceId = some engine
  | .abortPrepared _ => True
  | .commit _ _ _ _ => row.state = .committed ∨ row.state = .published
  | .publish _ _ _ _ => row.state = .published

/-- What a run of calls under any conditions reaches. -/
inductive Reached (J : JsonSizes) (quarantined : List String) : AckTable → Prop
  | empty : Reached J quarantined .empty
  | call {t : AckTable} (c : Conditions) (call : AckCall) : Reached J quarantined t →
      Reached J quarantined (call.run J quarantined c t).1

/-- A later table of a run in which a property held throughout. -/
inductive Later (J : JsonSizes) (quarantined : List String) (P : AckTable → Prop) :
    AckTable → AckTable → Prop
  | refl (t : AckTable) : Later J quarantined P t t
  | call {t t' : AckTable} (c : Conditions) (call : AckCall) : Later J quarantined P t t' →
      P (call.run J quarantined c t').1 →
      Later J quarantined P t (call.run J quarantined c t').1

section Runs

variable {J : JsonSizes} {quarantined : List String} {c : Conditions} {t t' : AckTable}
  {call : AckCall} {answer : AckAnswer}

theorem run_cases (J : JsonSizes) (quarantined : List String) (c : Conditions) (call : AckCall)
    (t : AckTable) :
    ((call.run J quarantined c t).1 = t ∧ ∃ e, (call.run J quarantined c t).2 = .error e) ∨
      ∃ answer, call.body J quarantined c.clock t = .ok ((call.run J quarantined c t).1, answer) ∧
        ((c.RaisesLate ∧ ∃ e, (call.run J quarantined c t).2 = .error e) ∨
          (call.run J quarantined c t).2 = .ok answer) := by
  unfold AckCall.run
  by_cases hi : c.interrupted = true
  · rw [if_pos hi]
    exact .inl ⟨rfl, _, rfl⟩
  · rw [if_neg hi]
    cases hbody : call.body J quarantined c.clock t with
    | error e => exact .inl ⟨rfl, _, rfl⟩
    | ok done =>
        cases hcommit : c.commit with
        | refused => exact .inl ⟨rfl, _, rfl⟩
        | unknown => exact .inr ⟨done.2, rfl, .inl ⟨.inl hcommit, _, rfl⟩⟩
        | done =>
            cases hclose : c.closingRaises with
            | true => exact .inr ⟨done.2, rfl, .inl ⟨.inr ⟨hcommit, hclose⟩, _, rfl⟩⟩
            | false => exact .inr ⟨done.2, rfl, .inr rfl⟩

theorem run_of_ok (h : (call.run J quarantined c t).2 = .ok answer) :
    call.body J quarantined c.clock t = .ok ((call.run J quarantined c t).1, answer) := by
  rcases run_cases J quarantined c call t with ⟨-, e, he⟩ | ⟨a, hbody, ⟨-, e, he⟩ | ha⟩
  · rw [h] at he
    cases he
  · rw [h] at he
    cases he
  · rw [h] at ha
    cases ha
    exact hbody

theorem run_of_calm (hc : c.Calm) (h : call.body J quarantined c.clock t = .ok (t', answer)) :
    call.run J quarantined c t = (t', .ok answer) := by
  obtain ⟨hi, hcommit, hclose⟩ := hc
  simp only [AckCall.run, hi, h, hcommit, hclose, Bool.false_eq_true, if_false]

theorem run_monotone (hs : Sound J quarantined t) (c : Conditions) (call : AckCall) :
    Sound J quarantined (call.run J quarantined c t).1 ∧
      Monotone J quarantined call t (call.run J quarantined c t).1 := by
  rcases run_cases J quarantined c call t with ⟨h, -⟩ | ⟨a, h, -⟩
  · rw [h]
    exact ⟨hs, Monotone.refl hs.usable⟩
  · exact body_monotone hs h

theorem Reached.sound (h : Reached J quarantined t) : Sound J quarantined t := by
  induction h with
  | empty => exact Sound.empty
  | call c call _ ih => exact (run_monotone ih c call).1

theorem Later.sound {P : AckTable → Prop} (h : Later J quarantined P t t')
    (hs : Sound J quarantined t) : Sound J quarantined t' := by
  induction h with
  | refl => exact hs
  | call c call _ _ ih => exact (run_monotone ih c call).1

/-! ### A call with other content -/

theorem body_matches {clock : Option ℤ} {k : String} {row : AckRow} (hs : Sound J quarantined t)
    (hk : call.requestId? = some k) (hrow : t.get? k = some row)
    (h : call.body J quarantined clock t = .ok (t', answer)) : call.Matches row := by
  cases call with
  | prepare i event receipt =>
      cases hk
      obtain ⟨-, e, r, rfl, rfl, ⟨q, hq, hi, he, hr, -⟩ | ⟨hnone, -⟩⟩ := prepare_cases hs h
      · rw [hrow] at hq
        cases hq
        exact ⟨hi, congrArg _ he.symm, congrArg _ hr.symm⟩
      · rw [hrow] at hnone
        cases hnone
  | abort requestId fingerprint engine activation source event receipt =>
      cases hk
      obtain ⟨-, q, hq, hmatch, -⟩ := abort_cases h
      rw [hrow] at hq
      cases hq
      exact hmatch
  | abortPrepared recovery => cases hk
  | commit requestId fingerprint event receipt =>
      cases hk
      obtain ⟨-, q, hq, hfingerprint, hevent, hreceipt, -⟩ := commit_cases h
      rw [hrow] at hq
      cases hq
      exact ⟨hfingerprint, hevent, hreceipt⟩
  | publish requestId fingerprint event receipt =>
      cases hk
      obtain ⟨-, q, hq, hfingerprint, hevent, hreceipt, -⟩ := publish_cases h
      rw [hrow] at hq
      cases hq
      exact ⟨hfingerprint, hevent, hreceipt⟩

/-! ### A call made again -/

structure Settled (quarantined : List String) (call : AckCall) (t : AckTable) : Prop where
  free : ∀ k, call.requestId? = some k → k ∉ quarantined
  retained : call.Retained t
  row : ∀ k row, call.requestId? = some k → t.get? k = some row →
    call.Matches row ∧ call.Settles row
  recovery : ∀ recovery, call = .abortPrepared recovery →
    ackIncarnationId recovery "recovery_engine_instance_id" = .ok ()

theorem AckRow.Becomes.matches {row row' : AckRow} (h : row.Becomes row')
    (hm : call.Matches row) : call.Matches row' := by
  rcases h with rfl | ⟨⟨hid, he, hr⟩, -⟩
  · exact hm
  · cases call with
    | prepare i event receipt =>
        change row'.identity = i ∧ event = .exact row'.event ∧ receipt = .exact row'.receipt
        rw [hid, he, hr]
        exact hm
    | abort requestId fingerprint engine activation source event receipt =>
        change row'.AbortedBy fingerprint engine activation source event receipt
        unfold AckRow.AbortedBy
        rw [hid, he, hr]
        exact hm
    | abortPrepared recovery => exact trivial
    | commit requestId fingerprint event receipt =>
        change row'.identity.requestFingerprint = fingerprint ∧ event = .exact row'.event ∧
          receipt = .exact row'.receipt
        rw [hid, he, hr]
        exact hm
    | publish requestId fingerprint event receipt =>
        change row'.identity.requestFingerprint = fingerprint ∧ event = .exact row'.event ∧
          receipt = .exact row'.receipt
        rw [hid, he, hr]
        exact hm

theorem AckRow.Becomes.settles {row row' : AckRow} (h : row.Becomes row')
    (hm : call.Settles row) : call.Settles row' := by
  rcases h with rfl | ⟨-, hstate⟩
  · exact hm
  · generalize hs : row.state = s at hstate
    generalize hs' : row'.state = s' at hstate
    cases call with
    | prepare i event receipt => exact trivial
    | abort requestId fingerprint engine activation source event receipt =>
        have haborted : row.state = .aborted := hm.1
        rw [hs] at haborted
        rw [haborted] at hstate
        cases hstate
    | abortPrepared recovery => exact trivial
    | commit requestId fingerprint event receipt =>
        change row.state = .committed ∨ row.state = .published at hm
        change row'.state = .committed ∨ row'.state = .published
        rw [hs] at hm
        rw [hs']
        rcases hm with rfl | rfl
        · cases hstate
          exact .inr rfl
        · cases hstate
    | publish requestId fingerprint event receipt =>
        change row.state = .published at hm
        rw [hs] at hm
        rw [hm] at hstate
        cases hstate

theorem AckCall.Retained.row {k : String} (h : call.Retained t) (hk : call.requestId? = some k) :
    ∃ row, t.get? k = some row := by
  unfold AckCall.Retained at h
  rw [hk] at h
  exact h

theorem AckCall.Retained.none_prepared (h : call.Retained t) (hk : call.requestId? = none) :
    ∀ k row, t.get? k = some row → row.state ≠ .prepared := by
  unfold AckCall.Retained at h
  rw [hk] at h
  exact h

theorem Settled.later (h : Settled quarantined call t) (hs : Sound J quarantined t)
    (hl : Later J quarantined call.Retained t t') : Settled quarantined call t' := by
  induction hl with
  | refl => exact h
  | @call t₁ c other hrun hretained ih =>
      refine ⟨h.free, hretained, ?_, h.recovery⟩
      intro k row' hk hrow'
      obtain ⟨row, hrow⟩ := ih.retained.row hk
      have hmono := (run_monotone (hrun.sound hs) c other).2
      have hbecomes := hmono.becomes k row row' hrow hrow'
      obtain ⟨hmatches, hsettles⟩ := ih.row k row hk hrow
      exact ⟨hbecomes.matches hmatches, hbecomes.settles hsettles⟩

theorem AckCall.not_startup {k : String} {P : String → Prop} (h : call.requestId? = some k)
    (recovery : String) (hc : call = .abortPrepared recovery) : P recovery := by
  rw [hc] at h
  cases h

theorem settled_of_body {clock : Option ℤ} (hs : Sound J quarantined t)
    (h : call.body J quarantined clock t = .ok (t', answer)) : Settled quarantined call t' := by
  cases call with
  | prepare i event receipt =>
      obtain ⟨hfree, e, r, rfl, rfl, ⟨row, hrow, rfl, rfl, rfl, rfl, -⟩ |
        ⟨-, now, pruned, -, rfl, -⟩⟩ := prepare_cases hs h
      · refine ⟨fun k hk => Option.some.inj hk ▸ hfree, ⟨row, hrow⟩, ?_, AckCall.not_startup rfl⟩
        intro k q hk hq
        cases hk
        rw [hrow] at hq
        cases hq
        exact ⟨⟨rfl, rfl, rfl⟩, trivial⟩
      · have hrow := Dict.get?_set_self pruned i.requestId (preparedRow i e r now)
        refine ⟨fun k hk => Option.some.inj hk ▸ hfree, ⟨_, hrow⟩, ?_, AckCall.not_startup rfl⟩
        intro k q hk hq
        cases hk
        rw [hrow] at hq
        cases hq
        exact ⟨⟨rfl, rfl, rfl⟩, trivial⟩
  | abort requestId fingerprint engine activation source event receipt =>
      obtain ⟨hfree, row, hrow, hmatch, ⟨hstate, hcode, hengine, rfl, -⟩ |
        ⟨-, now, -, rfl, -⟩⟩ := abort_cases h
      · refine ⟨fun k hk => Option.some.inj hk ▸ hfree, ⟨row, hrow⟩, ?_, AckCall.not_startup rfl⟩
        intro k q hk hq
        cases hk
        rw [hrow] at hq
        cases hq
        exact ⟨hmatch, hstate, hcode, hengine⟩
      · have hget := Dict.get?_set_self t requestId (row.aborted .activation engine now)
        refine ⟨fun k hk => Option.some.inj hk ▸ hfree, ⟨_, hget⟩, ?_, AckCall.not_startup rfl⟩
        intro k q hk hq
        cases hk
        rw [hget] at hq
        cases hq
        exact ⟨hmatch, rfl, rfl, rfl⟩
  | abortPrepared recovery =>
      have hrecovery : ackIncarnationId recovery "recovery_engine_instance_id" = .ok () := by
        simp only [AckCall.body, abortPreparedAlarmAckOutbox, bind_eq_ok, exists_unit] at h
        exact h.1
      obtain ⟨-, now, -, hprepared, hother, hnone, -⟩ := abortPrepared_cases hs h
      refine ⟨(by intro k hk; cases hk), ?_, (by intro k row hk; cases hk),
        (by intro _ hc; cases hc; exact hrecovery)⟩
      change ∀ k row, t'.get? k = some row → row.state ≠ .prepared
      intro k row' hrow'
      cases hrow : t.get? k with
      | none =>
          rw [hnone k hrow] at hrow'
          cases hrow'
      | some row =>
          by_cases hstate : row.state = .prepared
          · rw [(hprepared k row hrow hstate).2] at hrow'
            rw [← Option.some.inj hrow']
            intro habort
            cases habort
          · rw [hother k row hrow hstate] at hrow'
            rw [← Option.some.inj hrow']
            exact hstate
  | commit requestId fingerprint event receipt =>
      obtain ⟨hfree, row, hrow, hfingerprint, hevent, hreceipt, ⟨hstate, rfl, -⟩ |
        ⟨-, now, rfl, -⟩⟩ := commit_cases h
      · refine ⟨fun k hk => Option.some.inj hk ▸ hfree, ⟨row, hrow⟩, ?_, AckCall.not_startup rfl⟩
        intro k q hk hq
        cases hk
        rw [hrow] at hq
        cases hq
        exact ⟨⟨hfingerprint, hevent, hreceipt⟩, hstate⟩
      · have hget := Dict.get?_set_self t requestId (row.moved .committed now)
        refine ⟨fun k hk => Option.some.inj hk ▸ hfree, ⟨_, hget⟩, ?_, AckCall.not_startup rfl⟩
        intro k q hk hq
        cases hk
        rw [hget] at hq
        cases hq
        exact ⟨⟨hfingerprint, hevent, hreceipt⟩, .inl rfl⟩
  | publish requestId fingerprint event receipt =>
      obtain ⟨hfree, row, hrow, hfingerprint, hevent, hreceipt, ⟨hstate, rfl, -⟩ |
        ⟨-, now, rfl, -⟩⟩ := publish_cases h
      · refine ⟨fun k hk => Option.some.inj hk ▸ hfree, ⟨row, hrow⟩, ?_, AckCall.not_startup rfl⟩
        intro k q hk hq
        cases hk
        rw [hrow] at hq
        cases hq
        exact ⟨⟨hfingerprint, hevent, hreceipt⟩, hstate⟩
      · have hget := Dict.get?_set_self t requestId (row.moved .published now)
        refine ⟨fun k hk => Option.some.inj hk ▸ hfree, ⟨_, hget⟩, ?_, AckCall.not_startup rfl⟩
        intro k q hk hq
        cases hk
        rw [hget] at hq
        cases hq
        exact ⟨⟨hfingerprint, hevent, hreceipt⟩, rfl⟩

structure AckRow.Valid (J : JsonSizes) (row : AckRow) : Prop where
  identity : validateIdentity row.identity = .ok ()
  terminal : terminalConsistent row = .ok ()
  event : J.event row.event ≤ ackMaxJsonBytes
  receipt : J.receipt row.receipt ≤ ackMaxJsonBytes
  payload : validatePayloadIdentity row.identity row.event row.receipt = .ok ()
  bytes : row.bytes J ≤ ackMaxRowBytes

theorem valid_of_checkRecord {row : AckRow} (h : checkRecord J row = .ok ()) : row.Valid J := by
  simp only [checkRecord, bind_eq_ok, exists_unit, demand_eq_ok, pure_eq_ok] at h
  obtain ⟨hid, hterminal, -, -, -, he, hr, hpayload, n, hbytes, -⟩ := h
  exact ⟨hid, hterminal, he, hr, hpayload, (rowBytes_eq_ok hbytes).2⟩

theorem rowBytes_preparedRow {row : AckRow} (h : row.Valid J) :
    ∃ n, rowBytes J (preparedRow row.identity row.event row.receipt 0) = .ok n := by
  have hid := h.identity
  simp only [validateIdentity, bind_eq_ok, exists_unit] at hid
  refine ⟨row.bytes J, ?_⟩
  simp only [rowBytes, bind_eq_ok, exists_unit, demand_eq_ok, pure_eq_ok]
  refine ⟨hid.2.2.2.2.1, ?_, h.bytes, rfl⟩
  exact demand_eq_ok.mpr ⟨rfl, rfl⟩

theorem body_of_settled (clock : Option ℤ) (hs : Sound J quarantined t)
    (h : Settled quarantined call t) :
    ∃ answer, call.body J quarantined clock t = .ok (t, answer) := by
  have husage : registryUsage J quarantined t = .ok (statusOf J t) :=
    registryUsage_eq_ok.mpr ⟨hs.usable, rfl⟩
  have hvalid : ∀ k row, t.get? k = some row → checkRecord J row = .ok () :=
    fun k row hrow => hs.usable.records row (mem_values.mpr ⟨k, hrow⟩)
  cases call with
  | prepare i event receipt =>
      obtain ⟨row, hrow⟩ := h.retained.row rfl
      obtain ⟨⟨rfl, rfl, rfl⟩, -⟩ := h.row _ row rfl hrow
      have hv := valid_of_checkRecord (hvalid _ row hrow)
      obtain ⟨n, hn⟩ := rowBytes_preparedRow hv
      refine ⟨.record row.record, ?_⟩
      simp only [AckCall.body, prepareAlarmAckOutbox, prepareDocuments, encodeJson, bind_eq_ok,
        exists_unit, demand_eq_ok]
      refine ⟨hv.identity, hv.event, hv.receipt, hv.payload, n, hn, _, husage, h.free _ rfl, ?_⟩
      simp only [hrow, bind_eq_ok, exists_unit, agree_eq_ok, pure_eq_ok]
      exact ⟨hvalid _ row hrow, ⟨trivial, trivial, trivial⟩, trivial⟩
  | abort requestId fingerprint engine activation source event receipt =>
      obtain ⟨row, hrow⟩ := h.retained.row rfl
      obtain ⟨⟨rfl, rfl, rfl, rfl, rfl, rfl⟩, hstate, hcode, hengine⟩ := h.row _ row rfl hrow
      have hv := valid_of_checkRecord (hvalid _ row hrow)
      have hid := hv.identity
      simp only [validateIdentity, bind_eq_ok, exists_unit] at hid
      obtain ⟨hrequest, -, hactivation, hengine', hsource, -⟩ := hid
      have hkey : row.identity.requestId = requestId := hs.keyed _ row hrow
      obtain ⟨d, hd⟩ : ∃ d, abortDisposition row row.updatedAt = .ok d := by
        simp only [abortDisposition, hstate, hcode, hengine, bind_eq_ok, exists_unit,
          demand_eq_ok, pure_eq_ok]
        exact ⟨_, hs.stamped _ row hrow hstate, rfl⟩
      refine ⟨.disposition d, ?_⟩
      simp only [AckCall.body, abortAlarmAckOutbox, encodeJson, bind_eq_ok, exists_unit,
        demand_eq_ok, agree_eq_ok, retainedRow_eq_ok]
      refine ⟨hkey ▸ hrequest, hengine', hactivation, hsource, hv.event, hv.receipt, _, husage,
        h.free _ rfl, row, ⟨hrow, hvalid _ row hrow⟩, rfl, ⟨rfl, rfl, rfl, rfl, rfl⟩, ?_⟩
      rw [if_pos hstate]
      simp only [bind_eq_ok, exists_unit, demand_eq_ok, pure_eq_ok]
      exact ⟨⟨hcode, hengine⟩, d, hd, rfl⟩
  | abortPrepared recovery =>
      have hnone : preparedRows t = [] := by
        rw [List.eq_nil_iff_forall_not_mem]
        intro q hq
        obtain ⟨hvalue, hstate⟩ := mem_preparedRows.mp hq
        obtain ⟨k, hk⟩ := mem_values.mp hvalue
        exact h.retained.none_prepared rfl k q hk hstate
      have hcount : 0 = (statusOf J t).preparedCount := by
        have hlength : (preparedRows t).length = (statusOf J t).preparedCount := by
          rw [preparedRows, List.length_insertionSort]
          exact length_filter _ t
        rw [← hlength, hnone]
        rfl
      refine ⟨.dispositions [], ?_⟩
      simp only [AckCall.body, abortPreparedAlarmAckOutbox, hnone, List.take_nil, bind_eq_ok,
        exists_unit, demand_eq_ok, if_true]
      exact ⟨h.recovery recovery rfl, _, husage, hcount, rfl⟩
  | commit requestId fingerprint event receipt =>
      obtain ⟨row, hrow⟩ := h.retained.row rfl
      obtain ⟨⟨rfl, rfl, rfl⟩, hstate⟩ := h.row _ row rfl hrow
      have hv := valid_of_checkRecord (hvalid _ row hrow)
      have hid := hv.identity
      simp only [validateIdentity, bind_eq_ok, exists_unit] at hid
      have hkey : row.identity.requestId = requestId := hs.keyed _ row hrow
      refine ⟨.record row.record, ?_⟩
      simp only [AckCall.body, commitAlarmAckOutbox, encodeJson, bind_eq_ok, exists_unit,
        demand_eq_ok, agree_eq_ok, retainedRow_eq_ok]
      refine ⟨hkey ▸ hid.1, hv.event, hv.receipt, _, husage, h.free _ rfl, row,
        ⟨hrow, hvalid _ row hrow⟩, rfl, ⟨rfl, rfl⟩, ?_⟩
      exact if_pos hstate
  | publish requestId fingerprint event receipt =>
      obtain ⟨row, hrow⟩ := h.retained.row rfl
      obtain ⟨⟨rfl, rfl, rfl⟩, hstate⟩ := h.row _ row rfl hrow
      have hv := valid_of_checkRecord (hvalid _ row hrow)
      have hid := hv.identity
      simp only [validateIdentity, bind_eq_ok, exists_unit] at hid
      have hkey : row.identity.requestId = requestId := hs.keyed _ row hrow
      have hstate' : row.state = .published := hstate
      refine ⟨.record row.record, ?_⟩
      simp only [AckCall.body, publishAlarmAckOutbox, encodeJson, bind_eq_ok, exists_unit,
        demand_eq_ok, agree_eq_ok, retainedRow_eq_ok]
      refine ⟨hkey ▸ hid.1, hv.event, hv.receipt, _, husage, h.free _ rfl, row,
        ⟨hrow, hvalid _ row hrow⟩, rfl, ⟨rfl, rfl⟩, ?_, ?_⟩
      · rw [hstate']
        intro hp
        cases hp
      · exact if_pos hstate'

end Runs

/-- The states that a row in a state can come to. -/
def AckState.LeadsTo (s s' : AckState) : Prop :=
  s' = s ∨ s = .prepared ∨ (s = .committed ∧ s' = .published)

/-- A startup aborted the prepared rows, all of other incarnations, and nothing else. -/
def Disposed (recovery : String) (t t' : AckTable) : Prop :=
  ∃ now, (∀ k row, t.get? k = some row → row.state = .prepared →
      row.identity.engineInstanceId ≠ recovery ∧
        t'.get? k = some (row.aborted .restart recovery now)) ∧
    (∀ k row, t.get? k = some row → row.state ≠ .prepared → t'.get? k = some row) ∧
    ∀ k, t.get? k = none → t'.get? k = none

section Outbox

variable {J : JsonSizes} {quarantined : List String} {t t' : AckTable}

theorem AckState.LeadsTo.step {s s' s'' : AckState} (h : s.LeadsTo s') (h' : s'.Advances s'') :
    s.LeadsTo s'' := by
  cases h' with
  | commit =>
      rcases h with h | h | ⟨-, h⟩
      · exact .inr (.inl h.symm)
      · exact .inr (.inl h)
      · cases h
  | publish =>
      rcases h with h | h | ⟨-, h⟩
      · exact .inr (.inr ⟨h.symm, rfl⟩)
      · exact .inr (.inl h)
      · cases h
  | abort =>
      rcases h with h | h | ⟨-, h⟩
      · exact .inr (.inl h.symm)
      · exact .inr (.inl h)
      · cases h

theorem content_kept (hs : Sound J quarantined t) {k : String} {row : AckRow}
    (hrow : t.get? k = some row)
    (h : Later J quarantined (fun t => ∃ row, t.get? k = some row) t t') :
    ∃ row', t'.get? k = some row' ∧ row.SameContent row' ∧ row.state.LeadsTo row'.state := by
  induction h with
  | refl => exact ⟨row, hrow, ⟨rfl, rfl, rfl⟩, .inl rfl⟩
  | @call t₁ c call hrun hthere ih =>
      obtain ⟨row₁, hrow₁, ⟨hid, he, hr⟩, hstate⟩ := ih
      obtain ⟨row₂, hrow₂⟩ := hthere
      have hmono := (run_monotone (hrun.sound hs) c call).2
      refine ⟨row₂, hrow₂, ?_⟩
      rcases hmono.becomes k row₁ row₂ hrow₁ hrow₂ with rfl | ⟨⟨hid', he', hr'⟩, hstate'⟩
      · exact ⟨⟨hid, he, hr⟩, hstate⟩
      · exact ⟨⟨hid'.trans hid, he'.trans he, hr'.trans hr⟩, hstate.step hstate'⟩

/-- The outbox is monotone.  In every reachable table, and whatever raises, a call keeps the
caps, moves rows one step and removes only old terminal rows; one that raises leaves the table,
unless it raises after its commit took effect; one with other content than the row of its
request is refused and leaves the table; a startup that returns aborts exactly the prepared
rows, which are of other incarnations; a call that returned returns again and changes nothing
as long as its row is there; and the content of a row stays as long as the row is there. -/
theorem outbox_monotone (h : Reached J quarantined t) (c : Conditions) (call : AckCall) :
    Monotone J quarantined call t (call.run J quarantined c t).1 ∧
      (∀ e, (call.run J quarantined c t).2 = .error e →
        (call.run J quarantined c t).1 = t ∨
          (c.RaisesLate ∧ ∃ answer, call.body J quarantined c.clock t =
            .ok ((call.run J quarantined c t).1, answer))) ∧
      (∀ k row, call.requestId? = some k → t.get? k = some row → ¬ call.Matches row →
        (call.run J quarantined c t).1 = t ∧ ∃ e, (call.run J quarantined c t).2 = .error e) ∧
      (∀ recovery answer, call = .abortPrepared recovery →
        (call.run J quarantined c t).2 = .ok answer →
        Disposed recovery t (call.run J quarantined c t).1) ∧
      (∀ answer, (call.run J quarantined c t).2 = .ok answer →
        ∀ t', Later J quarantined call.Retained (call.run J quarantined c t).1 t' →
        ∀ c' : Conditions, c'.Calm → ∃ again, call.run J quarantined c' t' = (t', .ok again)) ∧
      (∀ k row t', t.get? k = some row →
        Later J quarantined (fun t => ∃ row, t.get? k = some row) t t' →
        ∃ row', t'.get? k = some row' ∧ row.SameContent row' ∧
          row.state.LeadsTo row'.state) := by
  have hs := h.sound
  refine ⟨(run_monotone hs c call).2, ?_, ?_, ?_, ?_, ?_⟩
  · intro e he
    rcases run_cases J quarantined c call t with ⟨hsame, -⟩ | ⟨answer, hbody, ⟨hlate, -⟩ | hok⟩
    · exact .inl hsame
    · exact .inr ⟨hlate, answer, hbody⟩
    · rw [he] at hok
      cases hok
  · intro k row hk hrow hother
    rcases run_cases J quarantined c call t with hsame | ⟨answer, hbody, -⟩
    · exact hsame
    · exact absurd (body_matches hs hk hrow hbody) hother
  · rintro recovery answer rfl hok
    obtain ⟨-, now, -, hprepared, hrest, hnone, -⟩ := abortPrepared_cases hs (run_of_ok hok)
    exact ⟨now, hprepared, hrest, hnone⟩
  · intro answer hok t' hl c' hc
    have hs₁ := (run_monotone hs c call).1
    have hsettled := (settled_of_body hs (run_of_ok hok)).later hs₁ hl
    obtain ⟨again, hbody⟩ := body_of_settled c'.clock (hl.sound hs₁) hsettled
    exact ⟨again, run_of_calm hc hbody⟩
  · intro k row t' hrow hl
    exact content_kept hs hrow hl

end Outbox

def shortTexts : JsonSizes := ⟨fun _ => 2, fun _ => 2⟩

def benchIdentity : AckIdentity where
  requestId := "0123456789abcdef0123456789abcdef"
  requestFingerprint := "0123456789abcdef0123456789abcdef0123456789abcdef0123456789abcdef"
  alarmName := "cold_plate"
  activationId := "a1"
  engineInstanceId := "00000000000000000000000000000001"
  sourceActivationId := "7"
  operatorName := "op"
  reason := "seen"

def benchEvent (i : AckIdentity) : AckEvent :=
  ⟨"alarm_ack_event_v1", i.requestId, i.requestFingerprint, "cold_plate", "a1",
    "00000000000000000000000000000001", "7", 5.0, "op", "seen"⟩

def benchReceipt (i : AckIdentity) : AckReceipt :=
  ⟨"alarm_ack_commit_v1", i.requestId, i.requestFingerprint, "cold_plate", "a1",
    "00000000000000000000000000000001", "7", 5.0, true⟩

def prepareOf (i : AckIdentity) : AckCall :=
  .prepare i (.exact (benchEvent i)) (.exact (benchReceipt i))

def benchPrepare : AckCall := prepareOf benchIdentity

def benchCommit : AckCall :=
  .commit benchIdentity.requestId benchIdentity.requestFingerprint
    (.exact (benchEvent benchIdentity)) (.exact (benchReceipt benchIdentity))

/-- Nothing raises. -/
def calm : Conditions := ⟨some 5, false, .done, false⟩

/-- The commit takes effect and raises. -/
def late : Conditions := ⟨some 5, false, .unknown, false⟩

def otherPrepare : AckCall :=
  prepareOf { benchIdentity with requestId := "fedcba9876543210fedcba9876543210" }

theorem bench_states :
    let prepared :=
      (otherPrepare.run shortTexts [] calm (benchPrepare.run shortTexts [] calm .empty).1).1
    prepared.values.map AckRow.state = [.prepared, .prepared] ∧
      (benchCommit.run shortTexts [] calm prepared).1.values.map AckRow.state =
        [.committed, .prepared] ∧
      (benchCommit.run shortTexts [] calm prepared).2.toBool = true := by
  decide +kernel

/-- The commit of one of two prepared rows: it moves this row, and made again it returns and
changes nothing. -/
theorem outbox_monotone_prepared :
    ∃ prepared committed : AckTable,
      Monotone shortTexts [] benchCommit prepared committed ∧
      prepared.values.map AckRow.state = [.prepared, .prepared] ∧
      committed.values.map AckRow.state = [.committed, .prepared] ∧
      ∃ again, benchCommit.run shortTexts [] calm committed = (committed, .ok again) := by
  obtain ⟨hbefore, hafter, hok⟩ := bench_states
  obtain ⟨hmono, -, -, -, hagain, -⟩ :=
    outbox_monotone (.call calm otherPrepare (.call calm benchPrepare .empty)) calm benchCommit
  refine ⟨_, _, hmono, hbefore, hafter, ?_⟩
  cases hrun : (benchCommit.run shortTexts [] calm (otherPrepare.run shortTexts [] calm
      (benchPrepare.run shortTexts [] calm .empty).1).1).2 with
  | error e => rw [hrun] at hok; cases hok
  | ok answer => exact hagain answer hrun _ (.refl _) calm ⟨rfl, rfl, rfl⟩

theorem late_run :
    (benchPrepare.run shortTexts [] late .empty).2 =
        .error (.runtime "SQLite commit outcome is unknown") ∧
      (benchPrepare.run shortTexts [] late .empty).1.values.length = 1 := by
  decide +kernel

/-- A call that raises because the outcome of its commit is unknown may have changed the
table. -/
theorem raising_call_changed_table :
    ¬ ∀ (J : JsonSizes) (quarantined : List String) (t : AckTable), Reached J quarantined t →
      ∀ (c : Conditions) (call : AckCall) (e : AckError),
        (call.run J quarantined c t).2 = .error e → (call.run J quarantined c t).1 = t := by
  intro h
  have hsame := h shortTexts [] .empty .empty late benchPrepare _ late_run.1
  have hone := late_run.2
  rw [hsame] at hone
  cases hone

end Storage
end CryoDaq
