import CryoDaq.Annunciation.Registry
import CryoDaq.System.Run
import Mathlib.Tactic.Common

/-!
# One activation id for one occurrence

**Records.**  A record is stored under its own source and key, and its id is one
of the numbers given out so far; two keys never share an id (`Numbered`).

**One projection.**  A projected occurrence keeps the id it had, or gets a number
that was not given out before (`Follows`).  A run of projections and
acknowledgements composes these steps.
-/

namespace CryoDaq
namespace Annunciation

theorem activationText_injective {m n : ℕ} (h : activationText m = activationText n) :
    m = n := by
  have hlists := congrArg String.toList h
  simp only [activationText, String.toList_append, List.append_cancel_left_eq,
    Nat.toList_repr] at hlists
  calc
    m = Nat.ofDigitChars 10 (Nat.toDigits 10 m) 0 :=
      Nat.ofDigitChars_ten_toDigits.symm
    _ = Nat.ofDigitChars 10 (Nat.toDigits 10 n) 0 := by rw [hlists]
    _ = n := Nat.ofDigitChars_ten_toDigits

/-- Stored under its own key, with one of the first `bound` ids. -/
structure Entry (bound : ℕ) (key : Key) (r : Record) : Prop where
  source : r.source = key.1
  sourceKey : r.sourceKey = key.2
  id : ∃ n, 1 ≤ n ∧ n ≤ bound ∧ r.activationId = activationText n

/-- The records of a registry that has given out `bound` ids. -/
structure Numbered (bound : ℕ) (active : Dict Key Record) : Prop where
  entry : ∀ k r, active.get? k = some r → Entry bound k r
  distinct : ∀ j k r t, active.get? j = some r → active.get? k = some t →
    r.activationId = t.activationId → j = k

structure Carried (key : Key) (r t : Record) : Prop where
  id : t.activationId = r.activationId
  discriminator : t.discriminator = r.discriminator
  acknowledged : key.1 ≠ "alarm_v2" → r.acknowledged = true → t.acknowledged = true

structure Fresh (base bound : ℕ) (key : Key) (t : Record) : Prop where
  id : ∃ n, base < n ∧ n ≤ bound ∧ t.activationId = activationText n
  acknowledged : key.1 ≠ "alarm_v2" → t.acknowledged = false

/-- Where the record of a key comes from: the old record when the occurrence is
the same, else a fresh number; nothing but an alarm takes an acknowledgement
from the projection. -/
def Origin (old : Dict Key Record) (base bound : ℕ) (key : Key) (t : Record) :
    Prop :=
  (∃ r, old.get? key = some r ∧ Carried key r t ∧
      (key.1 ≠ "alarm_v2" → t.acknowledged = r.acknowledged)) ∨
    (Fresh base bound key t ∧
      ∀ r, old.get? key = some r → r.discriminator ≠ t.discriminator)

section Advance

variable {old : Dict Key Record} {base : ℕ}

theorem Entry.mono {m n : ℕ} {k : Key} {r : Record} (h : Entry m k r)
    (hle : m ≤ n) : Entry n k r := by
  obtain ⟨i, hone, hi, hid⟩ := h.id
  exact ⟨h.source, h.sourceKey, i, hone, hi.trans hle, hid⟩

theorem Origin.mono {m n : ℕ} {k : Key} {t : Record} (h : Origin old base m k t)
    (hle : m ≤ n) : Origin old base n k t := by
  rcases h with hcarried | ⟨⟨⟨i, hbase, hi, hid⟩, hack⟩, hdisc⟩
  · exact .inl hcarried
  · exact .inr ⟨⟨⟨i, hbase, hi.trans hle, hid⟩, hack⟩, hdisc⟩

def discriminators (l : List (Key × Projection)) : List (Key × ℤ) :=
  l.map fun p => (p.1, p.2.discriminator)

/-- What has been built from the projected entries `done`. -/
structure Built (old : Dict Key Record) (base : ℕ)
    (done : List (Key × Projection)) (bound : ℕ) (built : Dict Key Record) :
    Prop where
  base_le : base ≤ bound
  numbered : Numbered bound built
  origin : ∀ k t, built.get? k = some t → Origin old base bound k t
  projected : ∀ k d, (∃ t, built.get? k = some t ∧ t.discriminator = d) ↔
    (k, d) ∈ discriminators done

/-- What `nextRecord` answers. -/
structure Next (old : Dict Key Record) (base sequence : ℕ) (key : Key)
    (p : Projection) (next : Record × ℕ) : Prop where
  le : sequence ≤ next.2
  entry : Entry next.2 key next.1
  origin : Origin old base next.2 key next.1
  discriminator : next.1.discriminator = p.discriminator
  id : (∃ r, old.get? key = some r ∧ next.1.activationId = r.activationId) ∨
    next.1.activationId = activationText (sequence + 1) ∧ next.2 = sequence + 1

theorem nextRecord_spec (hold : Numbered base old) {sequence : ℕ}
    (hle : base ≤ sequence) (key : Key) (p : Projection) :
    Next old base sequence key p (nextRecord (old.get? key) key p sequence) := by
  have hfresh : ∀ t : Record, (∀ r, old.get? key = some r →
        r.discriminator ≠ t.discriminator) →
      t.source = key.1 → t.sourceKey = key.2 →
      t.activationId = activationText (sequence + 1) →
      t.discriminator = p.discriminator →
      (key.1 ≠ "alarm_v2" → t.acknowledged = false) →
      Next old base sequence key p (t, sequence + 1) := by
    intro t hdisc hsource hkey hid hp hack
    refine ⟨Nat.le_succ _, ⟨hsource, hkey, sequence + 1, by omega, le_rfl, hid⟩,
      .inr ⟨⟨⟨sequence + 1, by omega, le_rfl, hid⟩, hack⟩, hdisc⟩, hp,
      .inr ⟨hid, rfl⟩⟩
  unfold nextRecord
  cases hget : old.get? key with
  | none =>
      refine hfresh _ (fun r hr => ?_) rfl rfl rfl rfl fun hsource => ?_
      · rw [hget] at hr
        cases hr
      · simp [hsource]
  | some r =>
      by_cases hsame : r.discriminator = p.discriminator
      · simp only [if_pos hsame]
        have hentry := (hold.entry key r hget).mono hle
        refine ⟨le_rfl, ⟨hentry.source, hentry.sourceKey, hentry.id⟩,
          .inl ⟨r, hget, ⟨rfl, rfl, fun hkey hack => ?_⟩, fun hkey => ?_⟩, hsame,
          .inl ⟨r, hget, rfl⟩⟩
        · simp [hkey, hack]
        · simp [hkey]
      · simp only [if_neg hsame]
        refine hfresh _ (fun r' hr => ?_) rfl rfl rfl rfl fun hsource => ?_
        · rw [hget] at hr
          cases hr
          exact hsame
        · simp [hsource]

theorem Built.insert (hold : Numbered base old) {done : List (Key × Projection)}
    {sequence : ℕ} {built : Dict Key Record}
    (h : Built old base done sequence built) {key : Key} {p : Projection}
    (hnew : ∀ d, (key, d) ∉ discriminators done) :
    Built old base (done ++ [(key, p)])
      (nextRecord (old.get? key) key p sequence).2
      (built.set key (nextRecord (old.get? key) key p sequence).1) := by
  have hnext := nextRecord_spec hold h.base_le key p
  have habsent : built.get? key = none := by
    cases hget : built.get? key with
    | none =>
        rfl
    | some t =>
        exact absurd ((h.projected key t.discriminator).mp ⟨t, hget, rfl⟩) (hnew _)
  generalize nextRecord (old.get? key) key p sequence = next at hnext
  -- the new id is the one the key had, or was never given out
  have hother : ∀ j r, j ≠ key → built.get? j = some r →
      r.activationId ≠ next.1.activationId := by
    intro j r hj hr hid
    rcases hnext.id with ⟨r₀, hr₀, hsame⟩ | ⟨hfresh, -⟩
    · obtain ⟨n, -, hn, hnid⟩ := (hold.entry key r₀ hr₀).id
      rcases h.origin j r hr with ⟨r₁, hr₁, hcarried, -⟩ | ⟨⟨⟨m, hm, -, hmid⟩, -⟩, -⟩
      · refine hj (hold.distinct j key r₁ r₀ hr₁ hr₀ ?_)
        rw [← hcarried.id, hid, hsame]
      · have := activationText_injective
          (hmid.symm.trans (hid.trans (hsame.trans hnid)))
        omega
    · obtain ⟨n, -, hn, hnid⟩ := (h.numbered.entry j r hr).id
      have := activationText_injective (hnid.symm.trans (hid.trans hfresh))
      omega
  refine ⟨h.base_le.trans hnext.le, ⟨fun k t ht => ?_, fun j k r t hr ht hid => ?_⟩,
    fun k t ht => ?_, fun k d => ?_⟩
  · rw [Dict.get?_set] at ht
    split at ht
    · rename_i hk
      cases ht
      exact hk ▸ hnext.entry
    · exact (h.numbered.entry k t ht).mono hnext.le
  · rw [Dict.get?_set] at hr ht
    by_cases hj : j = key
    · by_cases hk : k = key
      · rw [hj, hk]
      · rw [if_pos hj] at hr
        rw [if_neg hk] at ht
        cases hr
        exact absurd hid.symm (hother k t hk ht)
    · by_cases hk : k = key
      · rw [if_neg hj] at hr
        rw [if_pos hk] at ht
        cases ht
        exact absurd hid (hother j r hj hr)
      · rw [if_neg hj] at hr
        rw [if_neg hk] at ht
        exact h.numbered.distinct j k r t hr ht hid
  · rw [Dict.get?_set] at ht
    split at ht
    · rename_i hk
      cases ht
      exact hk ▸ hnext.origin
    · exact (h.origin k t ht).mono hnext.le
  · simp only [discriminators, List.map_append, List.map_cons, List.map_nil,
      List.mem_append, List.mem_singleton, Prod.mk.injEq]
    by_cases hk : k = key
    · have hnone : (k, d) ∉ done.map fun p => (p.1, p.2.discriminator) := hk ▸ hnew d
      simp only [hk, Dict.get?_set_self, Option.some.injEq, exists_eq_left', true_and,
        hnext.discriminator]
      rw [hk] at hnone
      simp only [hnone, false_or, eq_comm]
    · simp only [Dict.get?_set_of_ne _ _ hk, hk, false_and, or_false]
      exact h.projected k d

theorem advance_built (hold : Numbered base old) (rest : List (Key × Projection)) :
    ∀ (done : List (Key × Projection)) (sequence : ℕ) (built : Dict Key Record),
      Built old base done sequence built →
      ((done ++ rest).map Prod.fst).Nodup →
      Built old base (done ++ rest) (advance old rest sequence built).1
        (advance old rest sequence built).2 := by
  induction rest with
  | nil =>
      intro done sequence built h _
      rw [List.append_nil]
      exact h
  | cons p rest ih =>
      intro done sequence built h hnodup
      have hnew : ∀ d, (p.1, d) ∉ discriminators done := by
        intro d hmem
        obtain ⟨q, hq, heq⟩ := List.mem_map.mp hmem
        have hkey : q.1 = p.1 := (Prod.mk.inj heq).1
        rw [List.map_append, List.map_cons, List.nodup_append] at hnodup
        exact hnodup.2.2 q.1 (List.mem_map.mpr ⟨q, hq, rfl⟩) p.1
          List.mem_cons_self hkey
      have hstep : Built old base (done ++ [(p.1, p.2)]) _ _ := h.insert hold hnew
      have hrest := ih _ _ _ hstep (by simpa using hnodup)
      rw [List.append_assoc] at hrest
      exact hrest

end Advance

section Install

variable {old : Dict Key Record} {base : ℕ}

theorem Record.eq_refl (r : Record) : r.eq r = true := by
  simp [Record.eq, float_beq_self r.activatedAt.property]

theorem Record.eq_discriminator {r t : Record} (h : r.eq t = true) :
    r.discriminator = t.discriminator := by
  simp only [Record.eq, Bool.and_eq_true, decide_eq_true_eq] at h
  exact h.1.1.1.2

def items (active : Dict Key Record) : List SnapshotItem :=
  active.values.map fun r => r.public_.item

theorem mem_items {active : Dict Key Record} {i : SnapshotItem} :
    i ∈ items active ↔ ∃ k r, active.get? k = some r ∧ r.public_.item = i := by
  simp only [items, Dict.values, List.mem_map, exists_exists_and_eq_and]
  constructor
  · rintro ⟨p, hp, rfl⟩
    exact ⟨p.1, p.2, (active.mem_entries _ _).mp hp, rfl⟩
  · rintro ⟨k, r, hr, rfl⟩
    exact ⟨(k, r), (active.mem_entries _ _).mpr hr, rfl⟩

theorem Built.sameActive (hold : Numbered base old)
    {done : List (Key × Projection)} {bound : ℕ} {built : Dict Key Record}
    (h : Built old base done bound built) (hitems : (items built).Perm (items old)) :
    sameActive built old = true := by
  have hlength : built.entries.length = old.entries.length := by
    simpa [items, Dict.values] using hitems.length_eq
  simp only [Annunciation.sameActive, hlength, decide_true, Bool.true_and,
    List.all_eq_true]
  intro p hp
  have hget := (built.mem_entries p.1 p.2).mp hp
  have hmem : p.2.public_.item ∈ items old :=
    hitems.mem_iff.mp (mem_items.mpr ⟨p.1, p.2, hget, rfl⟩)
  obtain ⟨k, r, hr, hitem⟩ := mem_items.mp hmem
  simp only [Record.public_, Activation.item, SnapshotItem.mk.injEq] at hitem
  obtain ⟨hid, hsource, hkey, hseverity, hat, hack⟩ := hitem
  have hentry := h.numbered.entry _ _ hget
  have hentry' := hold.entry k r hr
  have hk : k = p.1 :=
    Prod.ext (hentry'.source.symm.trans (hsource.trans hentry.source))
      (hentry'.sourceKey.symm.trans (hkey.trans hentry.sourceKey))
  subst hk
  rcases h.origin _ _ hget with ⟨r', hr', hcarried, -⟩ | ⟨⟨⟨n, hn, -, hnid⟩, -⟩, -⟩
  · rw [hr] at hr'
    cases hr'
    have hsame : p.2 = r :=
      Record.ext hid.symm hsource.symm hkey.symm hcarried.discriminator
        hseverity.symm hat.symm hack.symm
    rw [hr, hsame]
    exact Record.eq_refl r
  · obtain ⟨m, -, hm, hmid⟩ := hentry'.id
    have := activationText_injective (hmid.symm.trans (hid.trans hnid))
    omega

theorem occurrences_of_sameActive {built : Dict Key Record}
    (h : sameActive built old = true) (k : Key) (d : ℤ) :
    (∃ t, built.get? k = some t ∧ t.discriminator = d) ↔
      ∃ r, old.get? k = some r ∧ r.discriminator = d := by
  simp only [sameActive, Bool.and_eq_true, decide_eq_true_eq, List.all_eq_true] at h
  obtain ⟨hlength, hall⟩ := h
  have hmatch : ∀ j t, built.get? j = some t →
      ∃ r, old.get? j = some r ∧ t.discriminator = r.discriminator := by
    intro j t ht
    have hany := hall (j, t) ((built.mem_entries j t).mpr ht)
    cases hr : old.get? j with
    | none =>
        rw [hr] at hany
        cases hany
    | some r =>
        rw [hr] at hany
        exact ⟨r, rfl, Record.eq_discriminator hany⟩
  have hsubset : built.keys ⊆ old.keys := by
    intro j hj
    obtain ⟨t, ht⟩ := (built.mem_keys j).mp hj
    obtain ⟨r, hr, -⟩ := hmatch j t ht
    exact (old.mem_keys j).mpr ⟨r, hr⟩
  have hperm : built.keys.Perm old.keys := by
    refine (List.subperm_of_subset built.nodup hsubset).perm_of_length_le ?_
    simp [Dict.keys, hlength]
  constructor
  · rintro ⟨t, ht, hd⟩
    obtain ⟨r, hr, heq⟩ := hmatch k t ht
    exact ⟨r, hr, heq.symm.trans hd⟩
  · rintro ⟨r, hr, hd⟩
    obtain ⟨t, ht⟩ := (built.mem_keys k).mp
      (hperm.mem_iff.mpr ((old.mem_keys k).mpr ⟨r, hr⟩))
    obtain ⟨r', hr', heq⟩ := hmatch k t ht
    rw [hr] at hr'
    cases hr'
    exact ⟨t, ht, heq.trans hd⟩

end Install

namespace AnnunciationRegistry

structure Sound (s : AnnunciationRegistry) : Prop where
  numbered : Numbered s.sequence s.active
  start : s.initialized = false → s.active = Dict.empty ∧ s.snapshotRevision = 0

def Projects (key : Key) (d : ℤ) (s : AnnunciationRegistry) : Prop :=
  ∃ r, s.active.get? key = some r ∧ r.discriminator = d

/-- How one accepted projection changes a registry. -/
structure Follows (s t : AnnunciationRegistry) : Prop where
  sequence : s.sequence ≤ t.sequence
  origin : ∀ k r, t.active.get? k = some r →
    Origin s.active s.sequence t.sequence k r

theorem Follows.refl (s : AnnunciationRegistry) : Follows s s :=
  ⟨le_rfl, fun _ r hr => .inl ⟨r, hr, ⟨rfl, rfl, fun _ h => h⟩, fun _ => rfl⟩⟩

theorem numbered_empty (n : ℕ) : Numbered n Dict.empty where
  entry k r hr := by
    cases hr
  distinct j k r t hr := by
    cases hr

variable {s : AnnunciationRegistry}

theorem built_install (hs : Sound s) (projected : Dict Key Projection) :
    Built s.active s.sequence projected.entries
      (advance s.active projected.entries s.sequence Dict.empty).1
      (advance s.active projected.entries s.sequence Dict.empty).2 := by
  refine advance_built hs.numbered projected.entries [] s.sequence Dict.empty ?_ ?_
  · refine ⟨le_rfl, numbered_empty _, fun k t ht => ?_, fun k d => ?_⟩
    · cases ht
    · simp [discriminators]
  · exact projected.nodup

structure Installed (s : AnnunciationRegistry) (projected : Dict Key Projection)
    (t : AnnunciationRegistry) : Prop where
  sound : Sound t
  follows : Follows s t
  projects : ∀ k d, Projects k d t ↔ (k, d) ∈ discriminators projected.entries
  first : s.initialized = false → t.snapshotRevision = 1
  revision : s.initialized = true →
    t = s ∨ t.snapshotRevision = s.snapshotRevision + 1 ∧
      t.activations ≠ s.activations

theorem installed (hs : Sound s) (projected : Dict Key Projection) :
    Installed s projected (s.install projected) := by
  have hbuilt := built_install hs projected
  unfold install
  generalize advance s.active projected.entries s.sequence Dict.empty = next at hbuilt
  cases hinit : s.initialized with
  | false =>
      simp only [Bool.not_false, if_true]
      exact ⟨⟨hbuilt.numbered, fun h => (by cases h)⟩,
        ⟨hbuilt.base_le, hbuilt.origin⟩, hbuilt.projected, fun _ => rfl,
        fun h => (by simp [hinit] at h)⟩
  | true =>
      simp only [Bool.not_true, Bool.false_eq_true, if_false]
      cases hsame : sameActive next.2 s.active with
      | false =>
          simp only [Bool.not_false, if_true]
          refine ⟨⟨hbuilt.numbered, fun h => (by simp at h)⟩,
            ⟨hbuilt.base_le, hbuilt.origin⟩, hbuilt.projected,
            fun h => (by simp [hinit] at h), fun _ => .inr ⟨rfl, fun heq => ?_⟩⟩
          have hperm : (items next.2).Perm (items s.active) := by
            have hsort := (List.perm_insertionSort before (items next.2)).symm
            have heq' : (items next.2).insertionSort before =
                (items s.active).insertionSort before := heq
            rw [heq'] at hsort
            exact hsort.trans (List.perm_insertionSort before (items s.active))
          rw [hbuilt.sameActive hs.numbered hperm] at hsame
          cases hsame
      | true =>
          simp only [Bool.not_true, Bool.false_eq_true, if_false]
          refine ⟨hs, Follows.refl s, fun k d => ?_, fun h => (by simp [hinit] at h),
            fun _ => .inl rfl⟩
          exact (occurrences_of_sameActive hsame k d).symm.trans
            (hbuilt.projected k d)

/-- What `acknowledge_safety_audio` does: nothing, or it marks the one fault
record that has the id. -/
theorem acknowledge_cases (s : AnnunciationRegistry) (id : String) :
    (s.acknowledgeSafetyAudio id).1 = s ∨
      ∃ k r, s.active.get? k = some r ∧ r.activationId = id ∧
        r.source = "safety_fault" ∧ r.acknowledged = false ∧
        (s.acknowledgeSafetyAudio id).1 =
          { s with
            active := s.active.set k { r with acknowledged := true }
            snapshotRevision := s.snapshotRevision + 1 } := by
  unfold acknowledgeSafetyAudio
  cases hfind : s.active.entries.find? fun p =>
      p.2.activationId = id && p.2.source = "safety_fault" with
  | none =>
      exact .inl rfl
  | some p =>
      have hp := List.find?_some hfind
      have hmem := List.mem_of_find?_eq_some hfind
      simp only [Bool.and_eq_true, decide_eq_true_eq] at hp
      cases hack : p.2.acknowledged with
      | true =>
          simp only [hack, if_true]
          exact .inl trivial
      | false =>
          simp only [hack, Bool.false_eq_true, if_false]
          exact .inr ⟨p.1, p.2, (s.active.mem_entries _ _).mp hmem, hp.1, hp.2, hack,
            rfl⟩

/-- A sequence of projections, accepted or refused, and acknowledgements. -/
inductive Step (s : AnnunciationRegistry) : AnnunciationRegistry → Prop
  | sync (alarmActive : Option (List (Raw × RawEvent)))
      (safetyStatus : Option RawStatus) :
      Step s (s.sync alarmActive safetyStatus).1
  | acknowledge (id : String) : Step s (s.acknowledgeSafetyAudio id).1

/-- The states of a registry after any sequence of calls. -/
def Reachable (s : AnnunciationRegistry) : Prop :=
  ∃ id r, new id = .ok r ∧ Run Step r s

theorem sync_cases (s : AnnunciationRegistry)
    (alarmActive : Option (List (Raw × RawEvent)))
    (safetyStatus : Option RawStatus) :
    (∃ e, project alarmActive safetyStatus = .error e ∧
      s.sync alarmActive safetyStatus = (s, .error e)) ∨
    ∃ projected, project alarmActive safetyStatus = .ok projected ∧
      s.sync alarmActive safetyStatus = (s.install projected, .ok ()) := by
  unfold sync
  cases hproject : project alarmActive safetyStatus with
  | error e =>
      exact .inl ⟨e, rfl, rfl⟩
  | ok projected =>
      exact .inr ⟨projected, rfl, rfl⟩

theorem Numbered.set_acknowledged {bound : ℕ} {active : Dict Key Record}
    (h : Numbered bound active) {k : Key} {r : Record}
    (hr : active.get? k = some r) :
    Numbered bound (active.set k { r with acknowledged := true }) := by
  have hsame : ∀ j t, (active.set k { r with acknowledged := true }).get? j = some t →
      ∃ u, active.get? j = some u ∧ u.activationId = t.activationId ∧
        u.source = t.source ∧ u.sourceKey = t.sourceKey := by
    intro j t ht
    rw [Dict.get?_set] at ht
    split at ht
    · rename_i hj
      cases ht
      exact ⟨r, hj ▸ hr, rfl, rfl, rfl⟩
    · exact ⟨t, ht, rfl, rfl, rfl⟩
  refine ⟨fun j t ht => ?_, fun i j t u ht hu hid => ?_⟩
  · obtain ⟨u, hu, hid, hsource, hkey⟩ := hsame j t ht
    have hentry := h.entry j u hu
    exact ⟨hsource ▸ hentry.source, hkey ▸ hentry.sourceKey, hid ▸ hentry.id⟩
  · obtain ⟨t', ht', htid, -, -⟩ := hsame i t ht
    obtain ⟨u', hu', huid, -, -⟩ := hsame j u hu
    exact h.distinct i j t' u' ht' hu' (htid.trans (hid.trans huid.symm))

theorem Step.sound {s t : AnnunciationRegistry} (hs : Sound s) (h : Step s t) :
    Sound t := by
  cases h with
  | sync alarmActive safetyStatus =>
      rcases s.sync_cases alarmActive safetyStatus with
        ⟨e, -, hsync⟩ | ⟨projected, -, hsync⟩
      · rw [hsync]
        exact hs
      · rw [hsync]
        exact (installed hs projected).sound
  | acknowledge id =>
      rcases s.acknowledge_cases id with hsame | ⟨k, r, hr, -, -, -, hset⟩
      · rw [hsame]
        exact hs
      · rw [hset]
        refine ⟨Numbered.set_acknowledged hs.numbered hr, fun hinit => ?_⟩
        rw [(hs.start hinit).1] at hr
        cases hr

theorem Reachable.sound {s : AnnunciationRegistry} (h : Reachable s) : Sound s := by
  obtain ⟨id, r, hnew, hrun⟩ := h
  refine hrun.invariant Step.sound ?_
  unfold new at hnew
  split at hnew
  · cases hnew
    exact ⟨numbered_empty 0, fun _ => ⟨rfl, rfl⟩⟩
  · cases hnew

/-- What holds between an earlier and a later state. -/
structure Evolves (s t : AnnunciationRegistry) : Prop where
  sequence : s.sequence ≤ t.sequence
  kept : ∀ k r, t.active.get? k = some r →
    (∃ u, s.active.get? k = some u ∧ u.activationId = r.activationId ∧
      u.discriminator = r.discriminator) ∨
    ∃ n, s.sequence < n ∧ r.activationId = activationText n

theorem Evolves.refl (s : AnnunciationRegistry) : Evolves s s :=
  ⟨le_rfl, fun _ r hr => .inl ⟨r, hr, rfl, rfl⟩⟩

theorem Evolves.trans {s t u : AnnunciationRegistry} (h : Evolves s t)
    (h' : Evolves t u) : Evolves s u where
  sequence := h.sequence.trans h'.sequence
  kept k r hr := by
    rcases h'.kept k r hr with ⟨v, hv, hid, hd⟩ | ⟨n, hn, hid⟩
    · rcases h.kept k v hv with ⟨w, hw, hid', hd'⟩ | ⟨n, hn, hid'⟩
      · exact .inl ⟨w, hw, hid'.trans hid, hd'.trans hd⟩
      · exact .inr ⟨n, hn, hid.symm.trans hid'⟩
    · exact .inr ⟨n, lt_of_le_of_lt h.sequence hn, hid⟩

theorem Follows.evolves {s t : AnnunciationRegistry} (h : Follows s t) :
    Evolves s t where
  sequence := h.sequence
  kept k r hr := by
    rcases h.origin k r hr with ⟨u, hu, hcarried, -⟩ | ⟨⟨⟨n, hn, -, hid⟩, -⟩, -⟩
    · exact .inl ⟨u, hu, hcarried.id.symm, hcarried.discriminator.symm⟩
    · exact .inr ⟨n, hn, hid⟩

theorem Step.evolves {s t : AnnunciationRegistry} (hs : Sound s) (h : Step s t) :
    Evolves s t := by
  cases h with
  | sync alarmActive safetyStatus =>
      rcases s.sync_cases alarmActive safetyStatus with
        ⟨e, -, hsync⟩ | ⟨projected, -, hsync⟩
      · rw [hsync]
        exact Evolves.refl s
      · rw [hsync]
        exact (installed hs projected).follows.evolves
  | acknowledge id =>
      rcases s.acknowledge_cases id with hsame | ⟨k, r, hr, -, -, -, hset⟩
      · rw [hsame]
        exact Evolves.refl s
      · rw [hset]
        refine ⟨le_rfl, fun j t ht => .inl ?_⟩
        rw [Dict.get?_set] at ht
        split at ht
        · rename_i hj
          cases ht
          exact ⟨r, hj ▸ hr, rfl, rfl⟩
        · exact ⟨t, ht, rfl, rfl⟩

theorem run_evolves {s t : AnnunciationRegistry} (hs : Sound s) (h : Run Step s t) :
    Evolves s t :=
  h.across Step.sound Evolves.refl Evolves.trans Step.evolves hs

theorem run_unique {s t : AnnunciationRegistry} (hs : Sound s) (h : Run Step s t)
    {j k : Key} {r u : Record} (hr : s.active.get? j = some r)
    (hu : t.active.get? k = some u) (hid : r.activationId = u.activationId) :
    r.source = u.source ∧ r.sourceKey = u.sourceKey ∧
      r.discriminator = u.discriminator := by
  have hentry := hs.numbered.entry j r hr
  have hentry' := (h.invariant Step.sound hs).numbered.entry k u hu
  rcases (run_evolves hs h).kept k u hu with ⟨v, hv, hvid, hd⟩ | ⟨n, hn, hnid⟩
  · have hjk := hs.numbered.distinct j k r v hr hv (hid.trans hvid.symm)
    subst hjk
    rw [hr] at hv
    cases hv
    exact ⟨hentry.source.trans hentry'.source.symm,
      hentry.sourceKey.trans hentry'.sourceKey.symm, hd⟩
  · obtain ⟨m, -, hm, hmid⟩ := hentry.id
    have := activationText_injective (hmid.symm.trans (hid.trans hnid))
    omega

/-- A step into a state that still projects the occurrence keeps its record,
and outside the alarms its acknowledgement. -/
theorem Step.keeps {s t : AnnunciationRegistry} (hs : Sound s) (h : Step s t)
    {k : Key} {r u : Record} (hr : s.active.get? k = some r)
    (hu : t.active.get? k = some u) (hd : u.discriminator = r.discriminator) :
    u.activationId = r.activationId ∧
      (k.1 ≠ "alarm_v2" → r.acknowledged = true → u.acknowledged = true) := by
  cases h with
  | sync alarmActive safetyStatus =>
      rcases s.sync_cases alarmActive safetyStatus with
        ⟨e, -, hsync⟩ | ⟨projected, -, hsync⟩
      · rw [hsync, hr] at hu
        cases hu
        exact ⟨rfl, fun _ hack => hack⟩
      · rw [hsync] at hu
        rcases (installed hs projected).follows.origin k u hu with
          ⟨v, hv, hcarried, -⟩ | ⟨-, hdisc⟩
        · rw [hr] at hv
          cases hv
          exact ⟨hcarried.id, hcarried.acknowledged⟩
        · exact absurd hd.symm (hdisc r hr)
  | acknowledge id =>
      rcases s.acknowledge_cases id with hsame | ⟨j, v, hv, -, -, -, hset⟩
      · rw [hsame, hr] at hu
        cases hu
        exact ⟨rfl, fun _ hack => hack⟩
      · rw [hset, Dict.get?_set] at hu
        by_cases hk : k = j
        · rw [if_pos hk] at hu
          rw [hk, hv] at hr
          cases hr
          cases hu
          exact ⟨rfl, fun _ _ => rfl⟩
        · rw [if_neg hk, hr] at hu
          cases hu
          exact ⟨rfl, fun _ hack => hack⟩

def StepProjecting (k : Key) (d : ℤ) (s t : AnnunciationRegistry) : Prop :=
  Step s t ∧ Projects k d t

theorem run_keeps {s t : AnnunciationRegistry} {k : Key} {d : ℤ} (hs : Sound s)
    (h : Run (StepProjecting k d) s t) {r u : Record}
    (hr : s.active.get? k = some r) (hd : r.discriminator = d)
    (hu : t.active.get? k = some u) :
    u.activationId = r.activationId ∧
      (k.1 ≠ "alarm_v2" → r.acknowledged = true → u.acknowledged = true) := by
  induction h generalizing u with
  | refl =>
      rw [hr] at hu
      cases hu
      exact ⟨rfl, fun _ hack => hack⟩
  | tail hrun hstep ih =>
      have hmid : Sound _ :=
        Run.invariant hrun (fun hs hstep => hstep.1.sound hs) hs
      rcases Relation.ReflTransGen.cases_tail hrun with hstart | ⟨w, -, -, hw⟩
      · subst hstart
        obtain ⟨v, hv, hvd⟩ := hstep.2
        rw [hu] at hv
        cases hv
        exact hstep.1.keeps hmid hr hu (hvd.trans hd.symm)
      · obtain ⟨v, hv, hvd⟩ := hw
        obtain ⟨v', hv', hvd'⟩ := hstep.2
        rw [hu] at hv'
        cases hv'
        obtain ⟨hid, hack⟩ := ih hv
        obtain ⟨hid', hack'⟩ := hstep.1.keeps hmid hv hu (hvd'.trans hvd.symm)
        exact ⟨hid'.trans hid, fun hk hr => hack' hk (hack hk hr)⟩

def StepSparing (id : String) (s t : AnnunciationRegistry) : Prop :=
  (∃ alarms status, t = (s.sync alarms status).1) ∨
    ∃ other, other ≠ id ∧ t = (s.acknowledgeSafetyAudio other).1

theorem StepSparing.step {id : String} {s t : AnnunciationRegistry}
    (h : StepSparing id s t) : Step s t := by
  rcases h with ⟨alarms, status, rfl⟩ | ⟨other, -, rfl⟩
  · exact .sync alarms status
  · exact .acknowledge other

/-- The record with this id, if there is one, is not acknowledged. -/
def Unmarked (k : Key) (id : String) (s : AnnunciationRegistry) : Prop :=
  ∀ r, s.active.get? k = some r → r.activationId = id → r.acknowledged = false

theorem StepSparing.unmarked {k : Key} {id : String} {s t : AnnunciationRegistry}
    (hk : k.1 ≠ "alarm_v2") (hs : Sound s) (h : StepSparing id s t)
    (hun : Unmarked k id s) : Unmarked k id t := by
  intro u hu huid
  rcases h with ⟨alarms, status, rfl⟩ | ⟨other, hother, rfl⟩
  · rcases s.sync_cases alarms status with ⟨e, -, hsync⟩ | ⟨projected, -, hsync⟩
    · rw [hsync] at hu
      exact hun u hu huid
    · rw [hsync] at hu
      rcases (installed hs projected).follows.origin k u hu with
        ⟨v, hv, hcarried, hack⟩ | ⟨hfresh, -⟩
      · rw [hack hk]
        exact hun v hv (hcarried.id.symm.trans huid)
      · exact hfresh.acknowledged hk
  · rcases s.acknowledge_cases other with hsame | ⟨j, v, hv, hvid, -, -, hset⟩
    · rw [hsame] at hu
      exact hun u hu huid
    · rw [hset, Dict.get?_set] at hu
      by_cases hkj : k = j
      · rw [if_pos hkj] at hu
        cases hu
        exact absurd (hvid.symm.trans huid) hother
      · rw [if_neg hkj] at hu
        exact hun u hu huid

/-- An acknowledgement is not carried over to another discriminator: without an
acknowledgement of its own id the later record is unmarked. -/
theorem run_not_carried {s t : AnnunciationRegistry} (hs : Sound s) {k : Key}
    (hk : k.1 ≠ "alarm_v2") {r u : Record} (hr : s.active.get? k = some r)
    (hu : t.active.get? k = some u) (hd : u.discriminator ≠ r.discriminator)
    (h : Run (StepSparing u.activationId) s t) : u.acknowledged = false := by
  have hplain : Run Step s t := h.simulate id (fun hs hstep => hstep.step.sound hs)
    (fun _ hstep => Run.single hstep.step) hs
  have hstart : Unmarked k u.activationId s := by
    intro v hv hvid
    rw [hr] at hv
    cases hv
    exact absurd (run_unique hs hplain hr hu hvid).2.2.symm hd
  have hboth : Sound t ∧ Unmarked k u.activationId t :=
    h.invariant (I := fun s => Sound s ∧ Unmarked k u.activationId s)
      (fun hs hstep => ⟨hstep.step.sound hs.1, hstep.unmarked hk hs.1 hs.2⟩)
      ⟨hs, hstart⟩
  exact hboth.2 u hu rfl

/-- The revision of an initialized registry counts the changes of its public
list. -/
theorem Step.revision {s t : AnnunciationRegistry} (hs : Sound s) (h : Step s t)
    (hinit : s.initialized = true) :
    t = s ∨ t.snapshotRevision = s.snapshotRevision + 1 ∧
      t.activations ≠ s.activations := by
  cases h with
  | sync alarmActive safetyStatus =>
      rcases s.sync_cases alarmActive safetyStatus with
        ⟨e, -, hsync⟩ | ⟨projected, -, hsync⟩
      · rw [hsync]
        exact .inl rfl
      · rw [hsync]
        exact (installed hs projected).revision hinit
  | acknowledge id =>
      rcases s.acknowledge_cases id with hsame | ⟨k, r, hr, hid, -, hack, hset⟩
      · exact .inl hsame
      · rw [hset]
        refine .inr ⟨rfl, fun heq => ?_⟩
        have hmem : ({ r with acknowledged := true } : Record).public_.item ∈
            (items (s.active.set k { r with acknowledged := true })).insertionSort
              before := by
          rw [List.mem_insertionSort]
          exact mem_items.mpr ⟨k, _, Dict.get?_set_self _ _ _, rfl⟩
        have heq' : (items (s.active.set k { r with acknowledged := true })).insertionSort
            before = (items s.active).insertionSort before := heq
        rw [heq', List.mem_insertionSort] at hmem
        obtain ⟨j, v, hv, hitem⟩ := mem_items.mp hmem
        simp only [Record.public_, Activation.item, SnapshotItem.mk.injEq] at hitem
        have hjk := hs.numbered.distinct j k v r hv hr hitem.1
        rw [hjk, hr] at hv
        cases hv
        rw [hack] at hitem
        simp at hitem

end AnnunciationRegistry

end Annunciation
end CryoDaq
