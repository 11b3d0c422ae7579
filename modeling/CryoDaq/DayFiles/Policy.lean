import CryoDaq.DayFiles.Writer

/-!
# What the writers keep to

The world of the writers is sound when every file is sound and the notes are true: the rows of a
call are those of the readings it was asked to write, all of a day or none, and a call that answered
that it has persisted did.

**Commits.**  A commit leaves the catalog and the readings of a file where they are.  It adds the
rows of one day of one call that has written no row of this day before and has not answered yet.

**Interference.**  Other writers leave alone what a writer has written under its calls.
-/

namespace CryoDaq
namespace DayFiles

open Storage Channels Async Sqlite

variable {p : Platform}

abbrev Durable (p : Platform) := World ℤ DayFile (Note p) Fields

def rowsOf (call : ℕ × ℕ) (f : DayFile) : List ReadingRow :=
  f.readings.filter fun r => decide (r.call = call)

/-- The readings that are stored. -/
def kept (batch : List Sample) : List Sample := batch.filter fun r => !r.refused

def Request.days : Request p → List (ℤ × List Sample)
  | .writeBatch batch => byDay faceDay batch
  | .writeLiveBatch batch => byDay utcDay (batch.map BoundSample.stable)
  | .installCatalog _ _ => []

def Carries (catalog : ChannelCatalog p) (f : DayFile) : Prop :=
  ∀ descriptor ∈ catalog.descriptors,
    descriptor.quantity ≠ .legacyUnknown ∧ rowOf descriptor ∈ f.descriptors

def Note.call : Note p → ℕ × ℕ
  | .asked call _ => call
  | .answered call _ => call

section

variable (site : Site p)

def Stored (call : ℕ × ℕ) (batch : List Sample) (f : DayFile) : Prop :=
  List.Forall₂ (Kept site.localTimestamp (site.bindings call.1) call) (kept batch) (rowsOf call f)

structure Fulfilled (call : ℕ × ℕ) (request : Request p) (w : Durable p) : Prop where
  stored : ∀ d batch, (d, batch) ∈ request.days → Stored site call batch (w.files d)
  installed : ∀ d catalog, request = .installCatalog d catalog → Carries catalog (w.files d)

/-- Every file is sound and every note is true. -/
structure Inv (w : Durable p) : Prop where
  sound : ∀ d, Sound p (w.files d)
  asked : ∀ d, ∀ row ∈ (w.files d).readings, ∃ request, .asked row.call request ∈ w.notes
  once : ∀ call request request', .asked call request ∈ w.notes →
    .asked call request' ∈ w.notes → request = request'
  atomic : ∀ call request d, .asked call request ∈ w.notes → rowsOf call (w.files d) = [] ∨
    ∃ batch, (d, batch) ∈ request.days ∧ Stored site call batch (w.files d)
  answered : ∀ call, .answered call .persisted ∈ w.notes →
    ∃ request, .asked call request ∈ w.notes ∧ Fulfilled site call request w
  installed : ∀ t d n, (w.memory t).connection = some (d, n) →
    (w.memory t).descriptorCatalogInstalled = true →
      ∀ c, site.catalog t = some c → Carries c.catalog (w.files d)
  carried : ∀ d, ∀ row ∈ (w.files d).readings,
    ∀ c, site.catalog row.call.1 = some c → Carries c.catalog (w.files d)
  numbered : ∀ n ∈ w.notes, n.call.2 < (w.memory n.call.1).calls

/-- A call is being served: it was asked, and has not answered. -/
structure Serving (call : ℕ × ℕ) (request : Request p) (w : Durable p) : Prop where
  asked : .asked call request ∈ w.notes
  unanswered : ∀ answer, .answered call answer ∉ w.notes

structure Commits (t : ℕ) (w : Durable p) (d : ℤ) (f : DayFile) : Prop where
  sound : Sound p f
  descriptors : (w.files d).descriptors <+: f.descriptors
  readings : f.readings = (w.files d).readings ∨ ∃ k request batch rows,
    Serving (t, k) request w ∧ (d, batch) ∈ request.days ∧ rowsOf (t, k) (w.files d) = [] ∧
      f.readings = (w.files d).readings ++ rows ∧
      List.Forall₂ (Kept site.localTimestamp (site.bindings t) (t, k)) (kept batch) rows
  carries : f.readings ≠ (w.files d).readings →
    ∀ c, site.catalog t = some c → Carries c.catalog f

structure Notes (t : ℕ) (w : Durable p) (n : Note p) : Prop where
  own : n.call.1 = t
  numbered : n.call.2 < (w.memory t).calls
  asked : ∀ call request, n = .asked call request → ∀ request', .asked call request' ∉ w.notes
  answered : ∀ call, n = .answered call .persisted →
    ∃ request, .asked call request ∈ w.notes ∧ Fulfilled site call request w

structure Remembers (t : ℕ) (w : Durable p) (m : Fields) : Prop where
  calls : (w.memory t).calls ≤ m.calls
  installed : ∀ d n, m.connection = some (d, n) → m.descriptorCatalogInstalled = true →
    ∀ c, site.catalog t = some c → Carries c.catalog (w.files d)

end

structure Leaves (t : ℕ) (w w' : Durable p) : Prop where
  memory : w'.memory t = w.memory t
  descriptors : ∀ d, (w.files d).descriptors <+: (w'.files d).descriptors
  readings : ∀ d, (w.files d).readings <+: (w'.files d).readings
  rows : ∀ d call, call.1 = t → rowsOf call (w'.files d) = rowsOf call (w.files d)
  notes : ∀ n ∈ w.notes, n ∈ w'.notes
  own : ∀ n ∈ w'.notes, n.call.1 = t → n ∈ w.notes

variable {site : Site p} {t u : ℕ} {w w' : Durable p} {d : ℤ} {f : DayFile} {call : ℕ × ℕ}

/-! ## Rows of calls -/

theorem rowsOf_append {rows : List ReadingRow} {f g : DayFile} {call own : ℕ × ℕ}
    (hf : g.readings = f.readings ++ rows) (hrows : ∀ r ∈ rows, r.call = own) :
    rowsOf call g = rowsOf call f ++ if own = call then rows else [] := by
  rw [rowsOf, hf, List.filter_append]
  refine congrArg _ ?_
  by_cases hown : own = call
  · rw [if_pos hown]
    refine List.filter_eq_self.mpr fun r hr => decide_eq_true ?_
    rw [hrows r hr, hown]
  · rw [if_neg hown]
    refine List.filter_eq_nil_iff.mpr fun r hr hcall => hown ?_
    rw [← hrows r hr]
    exact of_decide_eq_true hcall

theorem exists_kept {localTimestamp : ℤ → Float} {catalog : Option (ChannelCatalog p)}
    {samples : List Sample} {rows : List ReadingRow}
    (h : List.Forall₂ (Kept localTimestamp catalog call) samples rows) :
    ∀ row ∈ rows, ∃ r ∈ samples, Kept localTimestamp catalog call r row := by
  induction h with
  | nil => simp
  | @cons r row samples rows hrow _ ih =>
      intro row' hrow'
      rcases List.mem_cons.mp hrow' with rfl | hrow'
      · exact ⟨r, List.mem_cons_self .., hrow⟩
      · obtain ⟨r', hr', hkept⟩ := ih row' hrow'
        exact ⟨r', List.mem_cons_of_mem _ hr', hkept⟩

theorem kept_call {localTimestamp : ℤ → Float} {catalog : Option (ChannelCatalog p)}
    {samples : List Sample} {rows : List ReadingRow}
    (h : List.Forall₂ (Kept localTimestamp catalog call) samples rows) :
    ∀ r ∈ rows, r.call = call := by
  intro row hrow
  obtain ⟨r, _, hkept⟩ := exists_kept h row hrow
  exact hkept.call_eq

/-- A commit adds rows to one call of its writer at most, and only to one that has none. -/
theorem Commits.rows (h : Commits site t w d f) :
    (f.readings = (w.files d).readings ∧ ∀ call, rowsOf call f = rowsOf call (w.files d)) ∨
      ∃ k request batch, Serving (t, k) request w ∧ (d, batch) ∈ request.days ∧
        rowsOf (t, k) (w.files d) = [] ∧ Stored site (t, k) batch f ∧
        (∀ r ∈ f.readings, r ∈ (w.files d).readings ∨ r.call = (t, k)) ∧
        ∀ call, call ≠ (t, k) → rowsOf call f = rowsOf call (w.files d) := by
  rcases h.readings with hsame | ⟨k, request, batch, rows, hserving, hday, hnone, happend, hrows⟩
  · refine .inl ⟨hsame, fun call => ?_⟩
    rw [rowsOf, hsame, rowsOf]
  · have hcall := kept_call hrows
    refine .inr ⟨k, request, batch, hserving, hday, hnone, ?_, ?_, ?_⟩
    · rw [Stored, rowsOf_append happend hcall, hnone, if_pos rfl, List.nil_append]
      exact hrows
    · intro r hr
      rw [happend] at hr
      exact (List.mem_append.mp hr).imp_right (hcall r)
    · intro call hne
      rw [rowsOf_append happend hcall, if_neg (Ne.symm hne), List.append_nil]

theorem Commits.grown (h : Commits site t w d f) : (w.files d).readings <+: f.readings := by
  rcases h.readings with hsame | ⟨_, _, _, rows, _, _, _, happend, _⟩
  · rw [hsame]
  · rw [happend]
    exact List.prefix_append _ _

theorem Carries.mono {catalog : ChannelCatalog p} {f g : DayFile} (h : Carries catalog f)
    (hfg : f.descriptors <+: g.descriptors) : Carries catalog g :=
  fun descriptor hmem => (h descriptor hmem).imp_right fun hrow => hfg.subset hrow

theorem descriptors_put (h : (w.files d).descriptors <+: f.descriptors) (d' : ℤ) :
    (w.files d').descriptors <+: ((w.put d f).files d').descriptors := by
  by_cases hd : d' = d
  · subst hd
    rw [World.put_files_self]
    exact h
  · rw [World.put_files_of_ne _ _ hd]

theorem Fulfilled.mono {request : Request p} (h : Fulfilled site call request w)
    (hrows : ∀ d, rowsOf call (w'.files d) = rowsOf call (w.files d))
    (hdescriptors : ∀ d, (w.files d).descriptors <+: (w'.files d).descriptors) :
    Fulfilled site call request w' where
  stored := by
    intro d batch hday
    rw [Stored, hrows d]
    exact h.stored d batch hday
  installed := fun d catalog hrequest => (h.installed d catalog hrequest).mono (hdescriptors d)

/-! ## Keeping the world sound -/

theorem Commits.inv (hi : Inv site w) (h : Commits site t w d f) : Inv site (w.put d f) where
  sound := by
    intro d'
    by_cases hd : d' = d
    · subst hd
      rw [World.put_files_self]
      exact h.sound
    · rw [World.put_files_of_ne _ _ hd]
      exact hi.sound d'
  asked := by
    intro d' row hrow
    by_cases hd : d' = d
    · subst hd
      rw [World.put_files_self] at hrow
      rcases h.rows with ⟨hsame, _⟩ | ⟨k, request, batch, hserving, _, _, _, hmem, _⟩
      · exact hi.asked d' row (hsame ▸ hrow)
      · rcases hmem row hrow with hold | hcall
        · exact hi.asked d' row hold
        · exact ⟨request, hcall ▸ hserving.asked⟩
    · rw [World.put_files_of_ne _ _ hd] at hrow
      exact hi.asked d' row hrow
  once := hi.once
  atomic := by
    intro call request d' hasked
    by_cases hd : d' = d
    · subst hd
      rw [World.put_files_self]
      have hbefore := hi.atomic call request d' hasked
      rcases h.rows with ⟨_, hrows⟩ | ⟨k, request', batch, hserving, hday, _, hstored, _, hothers⟩
      · simp only [Stored, hrows call]
        exact hbefore
      · by_cases hcall : call = (t, k)
        · subst hcall
          rw [hi.once _ request request' hasked hserving.asked]
          exact .inr ⟨batch, hday, hstored⟩
        · simp only [Stored, hothers call hcall]
          exact hbefore
    · rw [World.put_files_of_ne _ _ hd]
      exact hi.atomic call request d' hasked
  answered := by
    intro call hanswered
    obtain ⟨request, hasked, hfulfilled⟩ := hi.answered call hanswered
    refine ⟨request, hasked, hfulfilled.mono (fun d' => ?_) (descriptors_put h.descriptors)⟩
    by_cases hd : d' = d
    · subst hd
      rw [World.put_files_self]
      rcases h.rows with ⟨_, hrows⟩ | ⟨k, _, _, hserving, _, _, _, _, hothers⟩
      · exact hrows call
      · refine hothers call fun hcall => hserving.unanswered .persisted ?_
        rw [← hcall]
        exact hanswered
    · rw [World.put_files_of_ne _ _ hd]
  installed := fun t' d' n hconnection hinstalled c hc =>
    (hi.installed t' d' n hconnection hinstalled c hc).mono (descriptors_put h.descriptors d')
  carried := by
    intro d' row hrow c hc
    by_cases hold : row ∈ (w.files d').readings
    · exact (hi.carried d' row hold c hc).mono (descriptors_put h.descriptors d')
    · by_cases hd : d' = d
      · subst hd
        rw [World.put_files_self] at hrow ⊢
        rcases h.rows with ⟨hsame, _⟩ | ⟨k, _, _, _, _, _, _, hmem, _⟩
        · exact absurd (hsame ▸ hrow) hold
        · have hcall := (hmem row hrow).resolve_left hold
          rw [hcall] at hc
          exact h.carries (fun hsame => hold (hsame ▸ hrow)) c hc
      · rw [World.put_files_of_ne _ _ hd] at hrow
        exact absurd hrow hold
  numbered := hi.numbered

theorem Notes.inv {n : Note p} (hi : Inv site w) (h : Notes site t w n) :
    Inv site (w.record n) where
  sound := hi.sound
  asked := by
    intro d row hrow
    obtain ⟨request, hasked⟩ := hi.asked d row hrow
    exact ⟨request, List.mem_cons_of_mem _ hasked⟩
  once := by
    intro call request request' hfirst hsecond
    rcases List.mem_cons.mp hfirst with heq | hold
    · rcases List.mem_cons.mp hsecond with heq' | hold
      · cases heq.trans heq'.symm
        rfl
      · exact absurd hold (h.asked call request heq.symm request')
    · rcases List.mem_cons.mp hsecond with heq | hold'
      · exact absurd hold (h.asked call request' heq.symm request)
      · exact hi.once call request request' hold hold'
  atomic := by
    intro call request d hasked
    rcases List.mem_cons.mp hasked with heq | hasked
    · refine .inl (List.filter_eq_nil_iff.mpr fun row hrow hcall => ?_)
      obtain ⟨request', hasked⟩ := hi.asked d row hrow
      rw [of_decide_eq_true hcall] at hasked
      exact h.asked call request heq.symm request' hasked
    · exact hi.atomic call request d hasked
  answered := by
    intro call hanswered
    rcases List.mem_cons.mp hanswered with heq | hanswered
    · obtain ⟨request, hasked, hfulfilled⟩ := h.answered call heq.symm
      exact ⟨request, List.mem_cons_of_mem _ hasked, hfulfilled.mono (fun _ => rfl)
        fun d => List.prefix_rfl⟩
    · obtain ⟨request, hasked, hfulfilled⟩ := hi.answered call hanswered
      exact ⟨request, List.mem_cons_of_mem _ hasked, hfulfilled.mono (fun _ => rfl)
        fun d => List.prefix_rfl⟩
  installed := hi.installed
  carried := hi.carried
  numbered := by
    intro n' hn'
    rcases List.mem_cons.mp hn' with rfl | hn'
    · rw [h.own]
      exact h.numbered
    · exact hi.numbered n' hn'

theorem Remembers.inv {m : Fields} (hi : Inv site w) (h : Remembers site t w m) :
    Inv site (w.remember t m) where
  sound := hi.sound
  asked := hi.asked
  once := hi.once
  atomic := hi.atomic
  answered := by
    intro call hanswered
    obtain ⟨request, hasked, hfulfilled⟩ := hi.answered call hanswered
    exact ⟨request, hasked, hfulfilled.mono (fun _ => rfl) fun d => List.prefix_rfl⟩
  installed := by
    intro t' d n hconnection hinstalled c hc
    by_cases ht : t' = t
    · subst ht
      rw [World.remember_memory_self] at hconnection hinstalled
      exact h.installed d n hconnection hinstalled c hc
    · rw [World.remember_memory_of_ne _ _ ht] at hconnection hinstalled
      exact hi.installed t' d n hconnection hinstalled c hc
  carried := hi.carried
  numbered := by
    intro n hn
    have hbefore := hi.numbered n hn
    by_cases ht : n.call.1 = t
    · rw [ht] at hbefore ⊢
      rw [World.remember_memory_self]
      exact hbefore.trans_le h.calls
    · rw [World.remember_memory_of_ne _ _ ht]
      exact hbefore

theorem Leaves.refl (t : ℕ) (w : Durable p) : Leaves t w w where
  memory := rfl
  descriptors := fun _ => List.prefix_rfl
  readings := fun _ => List.prefix_rfl
  rows := fun _ _ _ => rfl
  notes := fun _ h => h
  own := fun _ h _ => h

theorem Leaves.trans {w'' : Durable p} (h : Leaves t w w') (h' : Leaves t w' w'') :
    Leaves t w w'' where
  memory := h'.memory.trans h.memory
  descriptors := fun d => (h.descriptors d).trans (h'.descriptors d)
  readings := fun d => (h.readings d).trans (h'.readings d)
  rows := fun d call hcall => (h'.rows d call hcall).trans (h.rows d call hcall)
  notes := fun n hn => h'.notes n (h.notes n hn)
  own := fun n hn hcall => h.own n (h'.own n hn hcall) hcall

theorem Commits.leaves (htu : t ≠ u) (h : Commits site t w d f) : Leaves u w (w.put d f) where
  memory := rfl
  descriptors := descriptors_put h.descriptors
  readings := by
    intro d'
    by_cases hd : d' = d
    · subst hd
      rw [World.put_files_self]
      exact h.grown
    · rw [World.put_files_of_ne _ _ hd]
  rows := by
    intro d' call hcall
    by_cases hd : d' = d
    · subst hd
      rw [World.put_files_self]
      rcases h.rows with ⟨_, hrows⟩ | ⟨k, _, _, _, _, _, _, _, hothers⟩
      · exact hrows call
      · refine hothers call fun hown => htu ?_
        rw [← hcall, hown]
    · rw [World.put_files_of_ne _ _ hd]
  notes := fun _ h => h
  own := fun _ h _ => h

theorem Notes.leaves {n : Note p} (htu : t ≠ u) (h : Notes site t w n) :
    Leaves u w (w.record n) where
  memory := rfl
  descriptors := fun _ => List.prefix_rfl
  readings := fun _ => List.prefix_rfl
  rows := fun _ _ _ => rfl
  notes := fun _ hn => List.mem_cons_of_mem _ hn
  own := by
    intro n' hn' hcall
    rcases List.mem_cons.mp hn' with rfl | hn'
    · exact absurd (h.own.symm.trans hcall) htu
    · exact hn'

theorem Remembers.leaves {m : Fields} (htu : t ≠ u) : Leaves u w (w.remember t m) where
  memory := World.remember_memory_of_ne _ _ (Ne.symm htu)
  descriptors := fun _ => List.prefix_rfl
  readings := fun _ => List.prefix_rfl
  rows := fun _ _ _ => rfl
  notes := fun _ h => h
  own := fun _ h _ => h

def policy (site : Site p) : Policy ℤ DayFile (Note p) Fields where
  inv := Inv site
  commits := Commits site
  notes := Notes site
  remembers := Remembers site
  stable := Leaves
  stable_refl := .refl
  stable_trans := fun _ _ _ _ => .trans
  commits_inv := fun _ _ _ _ hi h => h.inv hi
  notes_inv := fun _ _ _ hi h => h.inv hi
  remembers_inv := fun _ _ _ hi h => h.inv hi
  commits_stable := fun _ _ _ _ _ htu _ h => h.leaves htu
  notes_stable := fun _ _ _ _ htu _ h => h.leaves htu
  remembers_stable := fun _ _ _ _ htu _ _ => Remembers.leaves htu

end DayFiles
end CryoDaq
