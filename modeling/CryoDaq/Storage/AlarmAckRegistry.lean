import CryoDaq.Storage.AlarmAckOutbox
import Mathlib.Algebra.BigOperators.Group.List.Basic
import Mathlib.Algebra.Order.Group.Nat
import Mathlib.Algebra.Ring.Nat

/-!
# The registry of the outbox

`registryUsage` accepts a table exactly when its rows are valid and its caps
hold (`Usable`).  What an admission prunes are the oldest terminal rows, and
the minimum of terminal rows stays (`Pruned`).
-/

namespace CryoDaq
namespace Storage

section Sums

variable {t : AckTable} {k : String} {r : AckRow}

theorem sum_setEntry (f : AckRow → ℕ) (r' : AckRow) :
    ∀ {l : List (String × AckRow)}, l.lookup k = some r →
      (((Dict.setEntry k r' l).map Prod.snd).map f).sum + f r =
        ((l.map Prod.snd).map f).sum + f r'
  | [], h => by cases h
  | p :: rest, h => by
      rw [Dict.lookup_cons_ite] at h
      rw [Dict.setEntry]
      by_cases hp : k = p.1
      · rw [if_pos hp] at h
        rw [if_pos hp.symm, ← Option.some.inj h]
        simp only [List.map_cons, List.sum_cons]
        omega
      · rw [if_neg hp] at h
        rw [if_neg (Ne.symm hp)]
        have ih := sum_setEntry f r' h
        simp only [List.map_cons, List.sum_cons]
        omega

theorem tally_set (f : AckRow → ℕ) (h : t.get? k = some r) (r' : AckRow) :
    tally f (t.set k r') + f r = tally f t + f r' :=
  sum_setEntry f r' h

theorem sum_erase (f : AckRow → ℕ) :
    ∀ {l : List (String × AckRow)}, (l.map Prod.fst).Nodup → l.lookup k = some r →
      (((l.filter fun p => p.1 ≠ k).map Prod.snd).map f).sum + f r =
        ((l.map Prod.snd).map f).sum
  | [], _, h => by cases h
  | p :: rest, hnodup, h => by
      rw [Dict.lookup_cons_ite] at h
      rw [List.map_cons, List.nodup_cons] at hnodup
      by_cases hp : k = p.1
      · rw [if_pos hp] at h
        have hrest : (rest.filter fun q => q.1 ≠ k) = rest := by
          rw [List.filter_eq_self]
          intro q hq
          refine decide_eq_true fun he => hnodup.1 ?_
          rw [← hp, ← he]
          exact List.mem_map_of_mem hq
        rw [List.filter_cons_of_neg (by simp [hp]), hrest, ← Option.some.inj h]
        simp only [List.map_cons, List.sum_cons]
        omega
      · rw [if_neg hp] at h
        have ih := sum_erase f hnodup.2 h
        rw [List.filter_cons_of_pos (by simpa using Ne.symm hp)]
        simp only [List.map_cons, List.sum_cons]
        omega

theorem tally_erase (f : AckRow → ℕ) (h : t.get? k = some r) :
    tally f (t.erase k) + f r = tally f t :=
  sum_erase f t.nodup h

theorem mem_values : r ∈ t.values ↔ ∃ k, t.get? k = some r := by
  unfold Dict.values
  rw [List.mem_map]
  constructor
  · rintro ⟨p, hp, rfl⟩
    exact ⟨p.1, (t.mem_entries p.1 p.2).mp hp⟩
  · rintro ⟨k, hk⟩
    exact ⟨(k, r), (t.mem_entries k r).mpr hk, rfl⟩

theorem length_filter (p : AckRow → Bool) (t : AckTable) :
    (t.values.filter p).length = count p t := by
  unfold count tally
  induction t.values with
  | nil => rfl
  | cons r rest ih =>
      rw [List.map_cons, List.sum_cons, ← ih]
      cases hp : p r with
      | true =>
          rw [List.filter_cons_of_pos hp, List.length_cons, if_pos rfl, Nat.add_comm]
      | false =>
          rw [List.filter_cons_of_neg (Bool.not_eq_true _ ▸ hp), if_neg Bool.false_ne_true,
            Nat.zero_add]

theorem length_values (t : AckTable) : t.values.length = tally (fun _ => 1) t := by
  have h := length_filter (fun _ => true) t
  rw [List.filter_true] at h
  exact h

theorem tally_add (f g : AckRow → ℕ) (t : AckTable) :
    tally (fun r => f r + g r) t = tally f t + tally g t :=
  List.sum_map_add

end Sums

section Usable

variable {J : JsonSizes} {quarantined : List String} {t : AckTable} {r : AckRow}

@[simp] theorem demand_eq_ok {p : Prop} [Decidable p] {message : String} {u : Unit} :
    demand p message = .ok u ↔ p := ensure_eq_ok

@[simp] theorem agree_eq_ok {p : Prop} [Decidable p] {message : String} {u : Unit} :
    agree p message = .ok u ↔ p := ensure_eq_ok

@[simp] theorem checkRecords_eq_ok {l : List AckRow} {u : Unit} :
    checkRecords J l = .ok u ↔ ∀ r ∈ l, checkRecord J r = .ok () := by
  induction l with
  | nil => exact ⟨fun _ _ h => absurd h List.not_mem_nil, fun _ => rfl⟩
  | cons r rest ih =>
      rw [checkRecords, bind_eq_ok, exists_unit, ih, List.forall_mem_cons]

structure Usable (J : JsonSizes) (quarantined : List String) (t : AckTable) : Prop where
  free : ∀ r ∈ t.values, r.pending = true → r.requestId ∉ quarantined
  pendingCount : count AckRow.pending t ≤ ackMaxPending
  pendingBytes : pendingBytes J t ≤ ackMaxPendingBytes
  totalCount : t.values.length ≤ ackMaxTotal
  totalBytes : tally (fun r => r.bytes J) t ≤ ackMaxTotalBytes
  records : ∀ r ∈ t.values, checkRecord J r = .ok ()

theorem rowBytes_eq_ok {n : ℕ} (h : rowBytes J r = .ok n) :
    n = r.bytes J ∧ r.bytes J ≤ ackMaxRowBytes := by
  simp only [rowBytes, bind_eq_ok, exists_unit, demand_eq_ok, pure_eq_ok] at h
  exact ⟨h.2.2.2.symm, h.2.2.1⟩

theorem fits_of_checkRecord (h : checkRecord J r = .ok ()) :
    jsonFits J r = true ∧ r.bytes J ≤ ackMaxRowBytes := by
  simp only [checkRecord, bind_eq_ok, exists_unit, demand_eq_ok, pure_eq_ok] at h
  obtain ⟨-, -, -, -, -, hevent, hreceipt, -, n, hbytes, -⟩ := h
  refine ⟨?_, (rowBytes_eq_ok hbytes).2⟩
  rw [jsonFits, Bool.and_eq_true, decide_eq_true_eq, decide_eq_true_eq]
  exact ⟨hevent, hreceipt⟩

theorem registryUsage_eq_ok {s : RegistryStatus} :
    registryUsage J quarantined t = .ok s ↔ Usable J quarantined t ∧ s = statusOf J t := by
  simp only [registryUsage, pendingUsage, bind_eq_ok, exists_unit, demand_eq_ok, pure_eq_ok,
    checkRecords_eq_ok, List.all_eq_true, decide_eq_true_eq, List.mem_filter, length_filter]
  constructor
  · rintro ⟨⟨hfree, hcount, -, -, hbytes, -⟩, htotal, -, -, hall, hrecords, rfl⟩
    exact ⟨⟨fun r hr hp => hfree r ⟨hr, hp⟩, hcount, hbytes, htotal, hall, hrecords⟩, rfl⟩
  · rintro ⟨h, rfl⟩
    have hfits := fun r hr => fits_of_checkRecord (h.records r hr)
    exact ⟨⟨fun r hr => h.free r hr.1 hr.2, h.pendingCount, fun r hr => (hfits r hr.1).1,
      fun r hr => (hfits r hr.1).2, h.pendingBytes, fun r hr => h.records r hr.1⟩,
      h.totalCount, fun r hr => (hfits r hr).1, fun r hr => (hfits r hr).2, h.totalBytes,
      h.records, rfl⟩

structure Sound (J : JsonSizes) (quarantined : List String) (t : AckTable) : Prop where
  usable : Usable J quarantined t
  keyed : ∀ k r, t.get? k = some r → r.requestId = k
  stamped : ∀ k r, t.get? k = some r → r.state = .aborted → 0 < r.updatedAt

theorem Sound.empty : Sound J quarantined .empty := by
  refine ⟨⟨?_, Nat.zero_le _, Nat.zero_le _, Nat.zero_le _, Nat.zero_le _, ?_⟩, ?_, ?_⟩
  · intro r hr
    cases hr
  · intro r hr
    cases hr
  · intro k r h
    cases h
  · intro k r h
    cases h

theorem Usable.set (h : Usable J quarantined t) {k : String} (r' : AckRow)
    (hget : t.get? k = some r) (hid : r'.identity = r.identity) (hbytes : r'.bytes J = r.bytes J)
    (hpending : r'.pending = true → r.pending = true) (hcheck : checkRecord J r' = .ok ()) :
    Usable J quarantined (t.set k r') := by
  have hmem : ∀ q ∈ (t.set k r').values, q = r' ∨ q ∈ t.values := by
    intro q hq
    obtain ⟨j, hj⟩ := mem_values.mp hq
    rw [Dict.get?_set] at hj
    split at hj
    · exact .inl (Option.some.inj hj).symm
    · exact .inr (mem_values.mpr ⟨j, hj⟩)
  have hle : ∀ f : AckRow → ℕ, f r' ≤ f r → tally f (t.set k r') ≤ tally f t := by
    intro f hf
    have hsum := tally_set f hget r'
    omega
  refine ⟨?_, ?_, ?_, ?_, ?_, ?_⟩
  · intro q hq hp
    rcases hmem q hq with rfl | hq
    · rw [AckRow.requestId, hid]
      exact h.free r (mem_values.mpr ⟨k, hget⟩) (hpending hp)
    · exact h.free q hq hp
  · refine (hle _ ?_).trans h.pendingCount
    cases hp : r'.pending with
    | true => rw [hpending hp]
    | false => exact Nat.zero_le _
  · refine (hle _ ?_).trans h.pendingBytes
    cases hp : r'.pending with
    | true => rw [hpending hp, if_pos rfl, if_pos rfl, hbytes]
    | false => exact Nat.zero_le _
  · rw [length_values]
    refine (hle _ (Nat.le_refl 1)).trans ?_
    rw [← length_values]
    exact h.totalCount
  · exact (hle _ (Nat.le_of_eq hbytes)).trans h.totalBytes
  · intro q hq
    rcases hmem q hq with rfl | hq
    · exact hcheck
    · exact h.records q hq

end Usable

section Pruning

variable {J : JsonSizes} {quarantined : List String} {t t' : AckTable} {n : ℕ}

structure Pruned (t t' : AckTable) : Prop where
  kept : ∀ k r, t.get? k = some r →
    t'.get? k = some r ∨ (t'.get? k = none ∧ r.terminal = true)
  fresh : ∀ k, t.get? k = none → t'.get? k = none
  oldest : ∀ k r k' r', t.get? k = some r → t'.get? k = none → t'.get? k' = some r' →
    r'.terminal = true → r.olderThan r' = true
  retained : (∃ k r, t.get? k = some r ∧ t'.get? k = none) →
    ackMinTerminalRetained ≤ count AckRow.terminal t'

theorem Pruned.refl (t : AckTable) : Pruned t t where
  kept := fun _ _ h => .inl h
  fresh := fun _ h => h
  oldest := by
    intro k r k' r' h hnone
    rw [h] at hnone
    cases hnone
  retained := by
    rintro ⟨k, r, h, hnone⟩
    rw [h] at hnone
    cases hnone

theorem Pruned.get?_of_some (h : Pruned t t') {k : String} {r : AckRow}
    (hr : t'.get? k = some r) : t.get? k = some r := by
  cases hk : t.get? k with
  | none =>
      rw [h.fresh k hk] at hr
      cases hr
  | some q =>
      rcases h.kept k q hk with hq | ⟨hq, -⟩
      · rw [hq] at hr
        exact hr
      · rw [hq] at hr
        cases hr

theorem pruneRows_spec {removed : List AckRow} :
    ∀ {cs : List AckRow} {t : AckTable}, (cs.map AckRow.requestId).Nodup →
      (∀ r ∈ cs, t.get? r.requestId = some r) → pruneRows J n cs t = .ok (t', removed) →
      (∃ rest, cs = removed ++ rest) ∧ (∀ r ∈ removed, r.terminal = true) ∧
        (∀ k, t'.get? k = if k ∈ removed.map AckRow.requestId then none else t.get? k) ∧
        ∀ f : AckRow → ℕ, tally f t' + (removed.map f).sum = tally f t := by
  intro cs
  induction cs generalizing removed with
  | nil =>
      intro t _ _ h
      simp only [pruneRows, pure_eq_ok, Prod.mk.injEq] at h
      obtain ⟨rfl, rfl⟩ := h
      exact ⟨⟨[], rfl⟩, fun r hr => absurd hr List.not_mem_nil,
        fun k => (if_neg List.not_mem_nil).symm, fun f => rfl⟩
  | cons r rest ih =>
      intro t hnodup hcs h
      rw [List.map_cons, List.nodup_cons] at hnodup
      have hr : t.get? r.requestId = some r := hcs r List.mem_cons_self
      simp only [pruneRows, bind_eq_ok, exists_unit, demand_eq_ok] at h
      obtain ⟨-, hterminal, h⟩ := h
      have herase : ∀ k, (t.erase r.requestId).get? k =
          if k = r.requestId then none else t.get? k :=
        Dict.get?_erase t r.requestId
      split at h
      · simp only [pure_eq_ok, Prod.mk.injEq] at h
        obtain ⟨rfl, rfl⟩ := h
        refine ⟨⟨rest, rfl⟩, ?_, ?_, ?_⟩
        · intro q hq
          rw [List.mem_singleton.mp hq]
          exact hterminal
        · intro k
          simp [herase k]
        · intro f
          simpa using tally_erase f hr
      · simp only [bind_eq_ok, pure_eq_ok, Prod.exists, Prod.mk.injEq] at h
        obtain ⟨t₁, removed₁, hrest, rfl, rfl⟩ := h
        have hother : ∀ q ∈ rest, (t.erase r.requestId).get? q.requestId = some q := by
          intro q hq
          have hne : q.requestId ≠ r.requestId := by
            intro he
            refine hnodup.1 ?_
            rw [← he]
            exact List.mem_map_of_mem hq
          rw [herase, if_neg hne]
          exact hcs q (List.mem_cons_of_mem _ hq)
        obtain ⟨⟨rest', rfl⟩, hall, hget, hsum⟩ := ih hnodup.2 hother hrest
        refine ⟨⟨rest', rfl⟩, ?_, ?_, ?_⟩
        · rw [List.forall_mem_cons]
          exact ⟨hterminal, hall⟩
        · intro k
          rw [hget, herase]
          by_cases hk : k = r.requestId
          · simp [hk]
          · simp [hk]
        · intro f
          have htail := hsum f
          have hhead := tally_erase f hr
          rw [List.map_cons, List.sum_cons]
          change tally f (t.erase r.requestId) + f r = tally f t at hhead
          change tally f t₁ + (removed₁.map f).sum = tally f (t.erase r.requestId) at htail
          omega

instance : Std.Total (fun a b : AckRow => a.olderThan b = true) where
  total a b := by
    unfold AckRow.olderThan
    rcases lt_trichotomy a.updatedAt b.updatedAt with h | h | h
    · exact .inl (by simp [h])
    · rcases le_total a.requestId b.requestId with hid | hid
      · exact .inl (by simp [h, hid])
      · exact .inr (by simp [h, hid])
    · exact .inr (by simp [h])

instance : IsTrans AckRow (fun a b => a.olderThan b = true) where
  trans a b c := by
    simp only [AckRow.olderThan, Bool.or_eq_true, Bool.and_eq_true, decide_eq_true_eq]
    rintro (hab | ⟨hab, hid⟩) (hbc | ⟨hbc, hid'⟩)
    · exact .inl (hab.trans hbc)
    · exact .inl (hbc ▸ hab)
    · exact .inl (hab ▸ hbc)
    · exact .inr ⟨hab.trans hbc, hid.trans hid'⟩

theorem mem_terminalRows {r : AckRow} :
    r ∈ terminalRows t ↔ r ∈ t.values ∧ r.terminal = true := by
  rw [terminalRows, List.mem_insertionSort, List.mem_filter]

theorem keys_values (hkeyed : ∀ k r, t.get? k = some r → r.requestId = k) :
    t.values.map AckRow.requestId = t.keys := by
  unfold Dict.values Dict.keys
  rw [List.map_map]
  refine List.map_congr_left fun p hp => ?_
  exact hkeyed p.1 p.2 ((t.mem_entries p.1 p.2).mp hp)

theorem get?_of_mem_values (hkeyed : ∀ k r, t.get? k = some r → r.requestId = k)
    {r : AckRow} (h : r ∈ t.values) : t.get? r.requestId = some r := by
  obtain ⟨k, hk⟩ := mem_values.mp h
  rw [hkeyed k r hk]
  exact hk

theorem nodup_terminalRows (hkeyed : ∀ k r, t.get? k = some r → r.requestId = k) :
    ((terminalRows t).map AckRow.requestId).Nodup := by
  have hperm := (List.perm_insertionSort (fun a b : AckRow => a.olderThan b = true)
    (t.values.filter AckRow.terminal)).map AckRow.requestId
  refine hperm.nodup_iff.mpr ?_
  refine List.Nodup.sublist (List.filter_sublist.map AckRow.requestId) ?_
  rw [keys_values hkeyed]
  exact t.nodup

theorem pruned_of_removed (hkeyed : ∀ k r, t.get? k = some r → r.requestId = k)
    {removed later : List AckRow} (hsplit : terminalRows t = removed ++ later)
    (hget : ∀ k, t'.get? k = if k ∈ removed.map AckRow.requestId then none else t.get? k)
    (hsum : ∀ f : AckRow → ℕ, tally f t' + (removed.map f).sum = tally f t)
    (hshort : removed.length ≤ count AckRow.terminal t -
      min (count AckRow.terminal t) ackMinTerminalRetained) : Pruned t t' := by
  have hmem : ∀ r ∈ removed, r ∈ t.values ∧ r.terminal = true := by
    intro r hr
    refine mem_terminalRows.mp ?_
    rw [hsplit]
    exact List.mem_append_left _ hr
  -- a deleted key has its row among the deleted ones
  have hgone : ∀ k r, t.get? k = some r → t'.get? k = none → r ∈ removed := by
    intro k r hr hnone
    have hk : k ∈ removed.map AckRow.requestId := by
      by_contra hk
      rw [hget, if_neg hk, hr] at hnone
      cases hnone
    obtain ⟨q, hq, rfl⟩ := List.mem_map.mp hk
    have hq' := get?_of_mem_values hkeyed (hmem q hq).1
    rw [hr] at hq'
    rw [Option.some.inj hq']
    exact hq
  refine ⟨?_, ?_, ?_, ?_⟩
  · intro k r hr
    cases hk : t'.get? k with
    | none => exact .inr ⟨rfl, (hmem r (hgone k r hr hk)).2⟩
    | some q =>
        rw [hget] at hk
        split at hk
        · cases hk
        · exact .inl (hk.symm.trans hr)
  · intro k hk
    rw [hget, hk, ite_self]
  · intro k r k' r' hr hnone hr' hterminal
    have hk' : k' ∉ removed.map AckRow.requestId := by
      intro hk'
      rw [hget, if_pos hk'] at hr'
      cases hr'
    rw [hget, if_neg hk'] at hr'
    have hlate : r' ∈ terminalRows t :=
      mem_terminalRows.mpr ⟨mem_values.mpr ⟨k', hr'⟩, hterminal⟩
    have hsorted : (terminalRows t).Pairwise fun a b => a.olderThan b = true :=
      List.pairwise_insertionSort _ _
    rw [hsplit] at hsorted hlate
    rcases List.mem_append.mp hlate with hin | hin
    · have hids : r'.requestId ∈ removed.map AckRow.requestId := List.mem_map_of_mem hin
      rw [hkeyed k' r' hr'] at hids
      exact absurd hids hk'
    · exact (List.pairwise_append.mp hsorted).2.2 r (hgone k r hr hnone) r' hin
  · rintro ⟨k, r, hr, hnone⟩
    have hcount := hsum fun r => if r.terminal then 1 else 0
    have hones : (removed.map fun r => if r.terminal then 1 else 0) =
        List.replicate removed.length 1 :=
      List.eq_replicate_iff.mpr ⟨List.length_map _, fun n hn => by
        obtain ⟨q, hq, rfl⟩ := List.mem_map.mp hn
        exact if_pos (hmem q hq).2⟩
    have hpos : 0 < removed.length := List.length_pos_of_mem (hgone k r hr hnone)
    rw [hones, List.sum_replicate_nat, Nat.mul_one] at hcount
    change count AckRow.terminal t' + _ = count AckRow.terminal t at hcount
    omega

theorem count_terminal (t : AckTable) : count AckRow.terminal t =
    (statusOf J t).publishedCount + (statusOf J t).abortedCount := by
  change _ = count _ t + count _ t
  unfold count
  rw [← tally_add]
  congr 1
  funext r
  cases hstate : r.state <;> simp [AckRow.terminal, hstate]

theorem pruneTerminalForAdmission_spec (hs : Sound J quarantined t)
    (h : pruneTerminalForAdmission J quarantined n t = .ok t') :
    Pruned t t' ∧ Usable J quarantined t' := by
  simp only [pruneTerminalForAdmission, bind_eq_ok, exists_unit, demand_eq_ok] at h
  obtain ⟨-, before, hbefore, h⟩ := h
  obtain ⟨husable, rfl⟩ := registryUsage_eq_ok.mp hbefore
  split at h
  · rw [pure_eq_ok] at h
    rw [← h]
    exact ⟨Pruned.refl t, husable⟩
  · simp only [bind_eq_ok, exists_unit, demand_eq_ok, Prod.exists, pure_eq_ok,
      ← count_terminal (J := J) (t := t)] at h
    obtain ⟨-, -, pruned, removed, hrows, -, after, hafter, -, rfl⟩ := h
    refine ⟨?_, (registryUsage_eq_ok.mp hafter).1⟩
    obtain ⟨⟨rest, hsplit⟩, -, hget, hsum⟩ := pruneRows_spec
      ((nodup_terminalRows hs.keyed).sublist ((List.take_sublist _ _).map _))
      (fun r hr => get?_of_mem_values hs.keyed
        (mem_terminalRows.mp (List.mem_of_mem_take hr)).1) hrows
    have hlength := congrArg List.length hsplit
    rw [List.length_append] at hlength
    have htake := List.length_take_le
      (min (count AckRow.terminal t - min (count AckRow.terminal t) ackMinTerminalRetained)
        ackMaxPrunePerAdmission) (terminalRows t)
    have hwhole := (List.take_append_drop
      (min (count AckRow.terminal t - min (count AckRow.terminal t) ackMinTerminalRetained)
        ackMaxPrunePerAdmission) (terminalRows t)).symm
    rw [hsplit, List.append_assoc] at hwhole
    refine pruned_of_removed hs.keyed hwhole hget hsum ?_
    omega

end Pruning

end Storage
end CryoDaq
